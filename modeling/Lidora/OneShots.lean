import Lidora.AddItemToOrder
import Lidora.Callbacks
import Lidora.PlaceOrder

/-! # The one-shot operations of the services

Seven functions of `DataService` and `AuthService`, each with a completion handler, as
trees of callbacks (`Callbacks.Flow`).  A nested function takes what its caller does with
the result as an argument, as in the source; only the outermost handler is a
`Flow.complete`.  The requests are those of the Firebase and Stripe SDKs, each with the
answers that it can get.

A reference is built from a path, and a path that names no document raises an exception
(`document`), which nothing catches.  A `UserId` or a `TokenId`, made by Firebase or by
Stripe, always names one.

A transaction is run by Firestore's `TransactionRunner`: its two reads are one request
here, since one `catch` covers them, and a failed attempt is repeated up to five times
unless its error is permanent.
-/
namespace Lidora
open Callbacks

/-! ## Errors -/

/-- The codes of `firestore_errors.h`. -/
inductive FirestoreErrorCode where
  | cancelled
  | unknown
  | invalidArgument
  | deadlineExceeded
  | notFound
  | alreadyExists
  | permissionDenied
  | resourceExhausted
  | failedPrecondition
  | aborted
  | outOfRange
  | unimplemented
  | internal
  | unavailable
  | dataLoss
  | unauthenticated
  deriving DecidableEq

/-- `Datastore::IsPermanentError`. -/
def FirestoreErrorCode.isPermanentError : FirestoreErrorCode → Bool
  | .cancelled | .unknown | .deadlineExceeded | .resourceExhausted | .internal | .unavailable
  | .unauthenticated => false
  | .invalidArgument | .notFound | .alreadyExists | .permissionDenied | .failedPrecondition
  | .aborted | .outOfRange | .unimplemented | .dataLoss => true

/-- `IsRetryableTransactionError`. -/
def FirestoreErrorCode.isRetryableTransactionError (code : FirestoreErrorCode) : Bool :=
  code = .aborted || code = .failedPrecondition || !code.isPermanentError

/-- An error of Firestore, or of Firebase Auth or Stripe. -/
inductive NSError where
  | firestore (code : FirestoreErrorCode)
  | other (description : String)
  deriving DecidableEq

/-! ## References -/

/-- `ResourcePath::FromString`, past its check: empty segments are skipped. -/
def segments (path : String) : List String :=
  ((path.toList.splitOn '/').map String.ofList).filter (· ≠ "")

/-- The path names a document, under whichever collection. -/
def NamesDocument (path : String) : Prop :=
  ¬ ['/', '/'] <:+: path.toList ∧ (segments path).length % 2 = 1

instance (path : String) : Decidable (NamesDocument path) := inferInstanceAs (Decidable (_ ∧ _))

/-- `collection.document(path)`, `none` being the exception. -/
def document (collection : Path) (path : String) : Option Path :=
  if NamesDocument path then some (collection ++ segments path) else none

/-- A name that Firebase or Stripe has made: one segment of a path. -/
structure SegmentId where
  val : String
  noEmpty : ¬ ['/', '/'] <:+: val.toList
  one : segments val = [val]
  deriving DecidableEq

/-- `user.uid`. -/
abbrev UserId : Type := SegmentId

/-- `token.tokenId`. -/
abbrev TokenId : Type := SegmentId

/-- A made name names a document of any collection. -/
@[simp] theorem document_segmentId (collection : Path) (id : SegmentId) :
    document collection id.val = some (collection ++ [id.val]) := by
  rw [document, if_pos ⟨id.noEmpty, by rw [id.one]; rfl⟩, id.one]

/-! ## Requests -/

/-- What the services ask of the SDKs. -/
inductive Request where
  | getDocument (path : Path)
  | getDocuments (collection : Path)
  | setMerge (path : Path) (fields : List (String × Value))
  | delete (path : Path)
  /-- The two reads of one attempt of a transaction. -/
  | transactionGet (ref itemRef : Path)
  /-- The writes of one attempt of a transaction. -/
  | commit (writes : List DocWrite)
  | signIn (email pwd : String)
  | createUser (email pwd : String)
  | verifyPhoneNumber (phone : String)
  | commitChanges (displayName : String)
  | createToken (params : CardParams)

/-- The answers that a request can get. -/
def Request.Response : Request → Type
  | .getDocument _ => Except NSError (Option Doc)
  | .getDocuments _ => Except NSError (List Path)
  | .setMerge _ _ | .delete _ | .commitChanges _ => Option NSError
  | .transactionGet _ _ => Except FirestoreErrorCode (Option Doc × Option Doc)
  | .commit _ => Option FirestoreErrorCode
  | .signIn _ _ | .createUser _ _ => Except NSError (Option UserId)
  | .verifyPhoneNumber _ => Except NSError (Option String)
  | .createToken _ => Option TokenId × Option NSError

/-- The arguments of a completion handler. -/
inductive Completed where
  | user (user : Option User) (error : Option NSError)
  | card (card : Option Card) (error : Option NSError)
  | done (success : Bool) (error : Option NSError)
  | login (uid : Option UserId) (user : Option User) (success : Bool) (error : Option NSError)
  deriving DecidableEq

/-- A function of the services. -/
abbrev Operation : Type := Flow Request.Response Completed

namespace Operation

/-- The handler is called, and nothing follows. -/
def finish (r : Completed) : Operation := .complete r .stop

/-- A reference is built: an exception takes the app down. -/
def withReference (ref : Option Path) (next : Path → Operation) : Operation :=
  match ref with
  | none => .trap
  | some path => next path

/-- The handler with which `(success, error)` is reported. -/
def finishWith : Option NSError → Operation
  | some error => finish (.done false (some error))
  | none => finish (.done true none)

end Operation

open Operation

/-! ## `DataService` -/

namespace DataService
variable (currentUser : Option UserId)

/-- `RefCurrentUser`: nobody signed in is a document without a name. -/
def refCurrentUser : Option Path :=
  document ["customers"] ((currentUser.map SegmentId.val).getD "")

/-- `fetchUser`. -/
def fetchUser (complete : Option User → Option NSError → Operation) : Operation :=
  withReference (refCurrentUser currentUser) fun ref =>
    .ask (.getDocument ref) fun
      | .error error => complete none (some error)
      | .ok none => .stop
      | .ok (some data) => complete (some (User.init (ref.getLastD "") data)) none

/-- `fetchPrimaryPaymentMethod`. -/
def fetchPrimaryPaymentMethod (cardId : String)
    (complete : Option Card → Option NSError → Operation) : Operation :=
  withReference (refCurrentUser currentUser) fun user =>
    withReference (document (user ++ ["payment_methods"]) cardId) fun ref =>
      .ask (.getDocument ref) fun
        | .error error => complete none (some error)
        | .ok none => .stop
        | .ok (some data) => complete (some (Card.init (ref.getLastD "") data)) none

/-- `saveUserDetails`. -/
def saveUserDetails (userId : UserId) (data : List (String × Value))
    (complete : Bool → Option NSError → Operation) : Operation :=
  withReference (document ["customers"] userId.val) fun ref =>
    .ask (.setMerge ref data) fun
      | some error => complete false (some error)
      | none => complete true none

/-- One attempt of the transaction of `addItemToOrder`.  A read that fails is reported
from within the block, and again by whatever the transaction comes to. -/
def addItemAttempt (c : AddCall) (e : AddEntry) (ref itemRef : Path)
    (failed : FirestoreErrorCode → Operation) : Operation :=
  .ask (.transactionGet ref itemRef) fun
    | .error fetchError =>
      .complete (.done false (some (.firestore fetchError))) (failed fetchError)
    | .ok (document, itemDocument) =>
      match addItemBlock c e ref itemRef document itemDocument with
      | none => .trap
      | some writes =>
        .ask (.commit writes) fun
          | some error => failed error
          | none => finish (.done true none)

/-- `TransactionRunner`, with `retriesLeft`. -/
def addItemTransaction (c : AddCall) (e : AddEntry) (ref itemRef : Path) : ℕ → Operation
  | 0 => addItemAttempt c e ref itemRef fun error =>
    finish (.done false (some (.firestore error)))
  | retriesLeft + 1 => addItemAttempt c e ref itemRef fun error =>
    if error.isRetryableTransactionError then addItemTransaction c e ref itemRef retriesLeft
    else finish (.done false (some (.firestore error)))

/-- `kRetryCount`, of `transaction_runner.cc`. -/
def kRetryCount : ℕ := 5

/-- `addItemToOrder`. -/
def addItemToOrder (c : AddCall) : Operation :=
  match c.guard with
  | none => .stop
  | some e =>
    withReference (refCurrentUser currentUser) fun user =>
      withReference (document (user ++ ["orders"]) c.orderId) fun ref =>
        withReference (document (ref ++ ["items"]) c.item.id) fun itemRef =>
          addItemTransaction c e ref itemRef kRetryCount

/-- `clearOrder`: the items' deletes are sent, and nobody waits for them. -/
def clearOrder (orderId : String) : Operation :=
  withReference (refCurrentUser currentUser) fun user =>
    withReference (document (user ++ ["orders"]) orderId) fun ref =>
      .ask (.getDocuments (ref ++ ["items"])) fun
        | .error _ => .trap
        | .ok documents =>
          documents.foldr (fun item next => .send (.delete item) next)
            (.ask (.delete ref) finishWith)

/-- `completeCharge`, past its guard. -/
def completeCharge (c : Charge) (created : String)
    (complete : Bool → Option TokenId → Option NSError → Operation) : Operation :=
  .ask (.createToken c.card) fun
    | (some token, none) =>
      withReference (refCurrentUser currentUser) fun user =>
        withReference (document (user ++ ["payments"]) token.val) fun ref =>
          .ask (.setMerge ref (paymentFields c token.val created)) fun
            | some error => complete false none (some error)
            | none => complete true (some token) none
    | (_, error) => complete false none error

/-- `placeOrder`. -/
def placeOrder (order : Order) (card : Card) (created : String) : Operation :=
  withReference (refCurrentUser currentUser) fun user =>
    withReference (document (user ++ ["orders"]) order.id) fun ref =>
      .ask (.getDocument ref) fun
        | .error _ => .stop
        | .ok snapshot =>
          match readBag order card snapshot with
          | .silent => .stop
          | .trapped => .trap
          | .charge c => completeCharge currentUser c created fun _ _ error => finishWith error

end DataService

/-! ## `AuthService` -/

namespace AuthService

/-- `emailLogin`. -/
def emailLogin (email pwd : String) : Operation :=
  .ask (.signIn email pwd) fun
    | .error error => finish (.login none none false (some error))
    | .ok none => .stop
    | .ok (some uid) =>
      DataService.fetchUser (some uid) fun user error =>
        match error with
        | some _ => .stop
        | none => finish (.login (some uid) user true none)

/-- The fields with which `createAccount` makes the customer's document. -/
def accountData (firstName lastName phone : String) : List (String × Value) :=
  [("first_name", .string firstName), ("last_name", .string lastName), ("phone", .string phone)]

/-- `createAccount`.  What becomes of the display name is not looked at. -/
def createAccount (firstName lastName email phone pwd : String) : Operation :=
  .ask (.createUser email pwd) fun
    | .error error => finish (.done false (some error))
    | .ok none => .stop
    | .ok (some user) =>
      .ask (.verifyPhoneNumber phone) fun
        | .error error => finish (.done false (some error))
        | .ok none => .trap
        | .ok (some _) =>
          .ask (.commitChanges (firstName ++ " " ++ lastName)) fun _ =>
            DataService.saveUserDetails user (accountData firstName lastName phone)
              fun success error =>
                if success then finish (.done true none) else finish (.done false error)

end AuthService

end Lidora
