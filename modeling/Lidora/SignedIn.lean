import Lidora.CustomerCharge
import Lidora.LateBinding
import Lidora.Likes
import Lidora.OneShots
import Lidora.PaymentMethods

/-! # Whose documents a call works on

`DataService.shared` is one object for everybody who signs in on a device.  Its references
(`RefCurrentUser` and what is built from it) are computed properties, so each use of one asks
Firebase again who is signed in.  Most functions use theirs when they are called.  Two do not
stop at that: `placeOrder` builds the reference of the payment when Stripe has answered with
a token, and saving a card builds one when Stripe has made the payment method, and another
when the first write is through.  By then the customer may have signed out, or somebody else
may have signed in.

The functions are `LateBinding.Late`s here, with a look wherever the source uses such a reference;
if it always finds the same customer, a function is the one of `OneShots` (`fixed_placeOrder`
and its siblings).  `ownRequests_iff` says when all calls of a device keep to the documents of
whoever made them, over every run of calls, answers, sign-ins and sign-outs in any order, and
`ownRequests_of_atOnce` that calls other than those two always do.

The calls are those of `DeviceCall`.  `saveUserDetails` takes the customer as an argument and
`fetchMenu` and `fetchChefs` use nobody's documents, so they look at nobody; the listeners of
`fetchCurrentOrder` are in `BagListeners`.
-/
namespace Lidora
open Callbacks LateBinding Runs

/-! ## Requests -/

/-- What `DataService` asks of the SDKs: the requests of the one-shot operations, and those
that they do without. -/
inductive DeviceRequest where
  | one (q : Request)
  /-- `getDocuments`, with the documents' data. -/
  | query (collection : Path)
  | setData (path : Path) (fields : List (String × Value))
  | updateData (path : Path) (fields : List (String × Value))
  | createPaymentMethod (entry : CardEntry)

/-- The answers that a request can get; the documents of a query come by their ids. -/
def DeviceRequest.Response : DeviceRequest → Type
  | .one q => q.Response
  | .query _ => Except NSError (List (String × Doc))
  | .setData _ _ | .updateData _ _ => Option NSError
  | .createPaymentMethod _ => Except NSError (Option SegmentId)

/-- The documents and collections that a request is about; Stripe's are about none. -/
def Request.paths : Request → List Path
  | .getDocument path | .getDocuments path | .setMerge path _ | .delete path => [path]
  | .transactionGet ref itemRef => [ref, itemRef]
  | .commit writes => writes.map fun w => w.toWrite.key
  | .signIn _ _ | .createUser _ _ | .verifyPhoneNumber _ | .commitChanges _ | .createToken _ => []

def DeviceRequest.paths : DeviceRequest → List Path
  | .one q => q.paths
  | .query path | .setData path _ | .updateData path _ => [path]
  | .createPaymentMethod _ => []

/-- The request keeps to the documents of the customer `user`. -/
def Own (user : Option UserId) (q : DeviceRequest) : Prop :=
  ∀ p ∈ q.paths, ∃ uid ∈ user, refCurrentUser uid.val <+: p

/-- The arguments of a completion handler. -/
inductive Reported where
  | one (r : Completed)
  | order (order : Option Order) (error : Option NSError)
  | liked (liked : Bool)

/-- A function of `DataService.shared`. -/
abbrev DeviceOperation : Type := Late DeviceRequest.Response Reported (Option UserId)

namespace DeviceOperation

/-- A one-shot operation, among the requests of a device. -/
def liftFlow : Operation → Flow DeviceRequest.Response Reported
  | .stop => .stop
  | .trap => .trap
  | .complete r next => .complete (.one r) (liftFlow next)
  | .send q next => .send (.one q) (liftFlow next)
  | .ask q next => .ask (.one q) fun a => liftFlow (next a)

def lift (f : Operation) : DeviceOperation := .ofFlow (liftFlow f)

/-- The handler is called, and nothing follows. -/
def finish (r : Reported) : DeviceOperation := .complete r .stop

/-- The handler with which `(success, error)` is reported. -/
def finishWith (error : Option NSError) : DeviceOperation := lift (Operation.finishWith error)

/-- A reference is built: an exception takes the app down. -/
def withReference (ref : Option Path) (next : Path → DeviceOperation) : DeviceOperation :=
  match ref with
  | none => .trap
  | some path => next path

/-- `RefCurrentUser` is used. -/
def withCurrentUser (next : Path → DeviceOperation) : DeviceOperation :=
  .look fun user => withReference (DataService.refCurrentUser user) next

/-- A document of one of the customer's collections. -/
def withDocument (collection id : String) (next : Path → DeviceOperation) : DeviceOperation :=
  withCurrentUser fun user => withReference (document (user ++ [collection]) id) next

end DeviceOperation

open DeviceOperation

/-! ## `DataService.shared` -/

namespace DataService.Shared

/-- `fetchUser`, which does not use its `userId`. -/
def fetchUser : DeviceOperation :=
  .look fun user => lift (DataService.fetchUser user fun user error =>
    Operation.finish (.user user error))

/-- `updateUserLocation`. -/
def updateUserLocation (line1 postalCode city state : String) : DeviceOperation :=
  withCurrentUser fun ref =>
    .ask (.updateData ref [("line1", .string line1), ("postal_code", .string postalCode),
      ("city", .string city), ("state", .string state)]) finishWith

/-- `addPaymentMethod`: the second reference is built when the first write is through. -/
def addPaymentMethod (primaryCard : Option String) (tokenId : SegmentId) (number cvc : String) :
    DeviceOperation :=
  withDocument "payment_methods" tokenId.val fun ref =>
    .ask (.one (.setMerge ref [("id", .string tokenId.val), ("number", .string number),
      ("cvc", .string cvc)])) fun
      | some error => finishWith (some error)
      | none =>
        match primaryCard with
        | none => finishWith none
        | some primaryCard =>
          withDocument "payment_methods" primaryCard fun ref =>
            .ask (.updateData ref [("primary", .bool false)]) finishWith

/-- `createStripePaymentMethod`. -/
def createStripePaymentMethod (primaryCard : Option String) (entry : CardEntry) :
    DeviceOperation :=
  .ask (.createPaymentMethod entry) fun
    | .error error => finishWith (some error)
    | .ok none => .trap
    | .ok (some id) => addPaymentMethod primaryCard id entry.cardNumber entry.cvc

/-- `updatePaymentMethod`. -/
def updatePaymentMethod (cardId : String) (month year : ℕ) : DeviceOperation :=
  withDocument "payment_methods" cardId fun ref =>
    .ask (.updateData ref [("month", .int month), ("year", .int year)]) finishWith

/-- `fetchPrimaryPaymentMethod`. -/
def fetchPrimaryPaymentMethod (cardId : String) : DeviceOperation :=
  .look fun user => lift (DataService.fetchPrimaryPaymentMethod user cardId fun card error =>
    Operation.finish (.card card error))

/-- `setPrimaryPaymentMethod`: two references, and two writes that nobody waits for. -/
def setPrimaryPaymentMethod (oldCardId cardId : String) : DeviceOperation :=
  withDocument "payment_methods" oldCardId fun ref =>
    .send (.updateData ref [("primary", .bool false)])
      (withDocument "payment_methods" cardId fun ref =>
        .send (.one (.setMerge ref [("primary", .bool true)])) .stop)

/-- A query, and one completion for each document that it finds. -/
def fetchEach (collection : String) (failed : NSError → Reported)
    (found : String → Doc → Reported) : DeviceOperation :=
  withCurrentUser fun user =>
    .ask (.query (user ++ [collection])) fun
      | .error error => finish (failed error)
      | .ok documents => documents.foldr (fun d next => .complete (found d.1 d.2) next) .stop

/-- `fetchPaymentMethods`. -/
def fetchPaymentMethods : DeviceOperation :=
  fetchEach "payment_methods" (fun error => .one (.card none (some error)))
    fun id data => .one (.card (some (Card.init id data)) none)

/-- `removePaymentMethod`. -/
def removePaymentMethod (id : String) : DeviceOperation :=
  withDocument "payment_methods" id fun ref => .ask (.one (.delete ref)) finishWith

/-- `addItemToOrder`: its guard comes before the reference. -/
def addItemToOrder (c : AddCall) : DeviceOperation :=
  match c.guard with
  | none => .stop
  | some _ => .look fun user => lift (DataService.addItemToOrder user c)

/-- `clearOrder`. -/
def clearOrder (orderId : String) : DeviceOperation :=
  withDocument "orders" orderId fun ref =>
    .ask (.query (ref ++ ["items"])) fun
      | .error _ => .trap
      | .ok documents =>
        documents.foldr (fun d next => .send (.one (.delete (ref ++ ["items", d.1]))) next)
          (.ask (.one (.delete ref)) finishWith)

/-- `completeCharge`, past its guard: the reference is built when the token is there. -/
def completeCharge (c : Charge) (created : String) : DeviceOperation :=
  .ask (.one (.createToken c.card)) fun
    | (some token, none) =>
      withDocument "payments" token.val fun ref =>
        .ask (.one (.setMerge ref (paymentFields c token.val created))) finishWith
    | (_, error) => finishWith error

/-- `placeOrder`. -/
def placeOrder (order : Order) (card : Card) (created : String) : DeviceOperation :=
  withDocument "orders" order.id fun ref =>
    .ask (.one (.getDocument ref)) fun
      | .error _ => .stop
      | .ok snapshot =>
        match readBag order card snapshot with
        | .silent => .stop
        | .trapped => .trap
        | .charge c => completeCharge c created

/-- `fetchPastOrders`. -/
def fetchPastOrders : DeviceOperation :=
  fetchEach "past_orders" (fun error => .order none (some error))
    fun id data => .order (some (Order.init id data)) none

/-- `fetchUpcomingOrders`. -/
def fetchUpcomingOrders : DeviceOperation :=
  fetchEach "upcoming_orders" (fun error => .order none (some error))
    fun id data => .order (some (Order.init id data)) none

/-- `getLikes`, which says nothing where the query fails. -/
def getLikes (providerId : String) : DeviceOperation :=
  withCurrentUser fun user =>
    .ask (.query (user ++ ["likes"])) fun
      | .error _ => .stop
      | .ok documents =>
        documents.foldr (fun d next => .complete (.liked (d.1 = providerId)) next) .stop

/-- `adjustLikes`: a read that fails has found nothing, and nobody waits for the write. -/
def adjustLikes (providerId : String) : DeviceOperation :=
  withDocument "likes" providerId fun ref =>
    .ask (.one (.getDocument ref)) fun
      | .ok (some _) => .send (.one (.delete ref)) (finish (.liked false))
      | _ => .send (.setData ref [("id", .string providerId)]) (finish (.liked true))

end DataService.Shared

/-- The calls of `DataService.shared`. -/
inductive DeviceCall where
  | fetchUser
  | updateUserLocation (line1 postalCode city state : String)
  | createStripePaymentMethod (primaryCard : Option String) (entry : CardEntry)
  | updatePaymentMethod (cardId : String) (month year : ℕ)
  | fetchPrimaryPaymentMethod (cardId : String)
  | setPrimaryPaymentMethod (oldCardId cardId : String)
  | fetchPaymentMethods
  | removePaymentMethod (id : String)
  | addItemToOrder (c : AddCall)
  | clearOrder (orderId : String)
  | placeOrder (order : Order) (card : Card) (created : String)
  | fetchPastOrders
  | fetchUpcomingOrders
  | getLikes (providerId : String)
  | adjustLikes (providerId : String)

open DataService in
def DeviceCall.operation : DeviceCall → DeviceOperation
  | .fetchUser => Shared.fetchUser
  | .updateUserLocation line1 postalCode city state =>
    Shared.updateUserLocation line1 postalCode city state
  | .createStripePaymentMethod primaryCard entry =>
    Shared.createStripePaymentMethod primaryCard entry
  | .updatePaymentMethod cardId month year => Shared.updatePaymentMethod cardId month year
  | .fetchPrimaryPaymentMethod cardId => Shared.fetchPrimaryPaymentMethod cardId
  | .setPrimaryPaymentMethod oldCardId cardId => Shared.setPrimaryPaymentMethod oldCardId cardId
  | .fetchPaymentMethods => Shared.fetchPaymentMethods
  | .removePaymentMethod id => Shared.removePaymentMethod id
  | .addItemToOrder c => Shared.addItemToOrder c
  | .clearOrder orderId => Shared.clearOrder orderId
  | .placeOrder order card created => Shared.placeOrder order card created
  | .fetchPastOrders => Shared.fetchPastOrders
  | .fetchUpcomingOrders => Shared.fetchUpcomingOrders
  | .getLikes providerId => Shared.getLikes providerId
  | .adjustLikes providerId => Shared.adjustLikes providerId

/-! ## The operations of `OneShots` -/

@[simp] theorem fixed_lift (user : Option UserId) (f : Operation) :
    (lift f).fixed user = liftFlow f := Late.fixed_ofFlow user _

theorem fixed_withReference {user : Option UserId} {ref : Option Path}
    {next : Path → DeviceOperation} {next' : Path → Operation}
    (h : ∀ p, (next p).fixed user = liftFlow (next' p)) :
    (withReference ref next).fixed user = liftFlow (Operation.withReference ref next') := by
  cases ref with
  | none => rfl
  | some p => exact h p

/-- **With one customer throughout**, `placeOrder` is the operation of `OneShots`. -/
theorem fixed_placeOrder (user : Option UserId) (order : Order) (card : Card) (created : String) :
    (DataService.Shared.placeOrder order card created).fixed user =
      liftFlow (DataService.placeOrder user order card created) := by
  refine fixed_withReference fun customer => fixed_withReference fun ref => ?_
  refine congrArg (Flow.ask _) (funext fun a => ?_)
  cases a with
  | error error => rfl
  | ok snapshot =>
    dsimp only
    cases readBag order card snapshot with
    | silent => rfl
    | trapped => rfl
    | charge c =>
      refine congrArg (Flow.ask _) (funext fun a => ?_)
      rcases a with ⟨_ | token, _ | error⟩
      · rfl
      · rfl
      · refine fixed_withReference fun customer => fixed_withReference fun ref => ?_
        refine congrArg (Flow.ask _) (funext fun error => ?_)
        cases error <;> rfl
      · rfl

theorem fixed_fetchUser (user : Option UserId) : DataService.Shared.fetchUser.fixed user =
    liftFlow (DataService.fetchUser user fun user error => Operation.finish (.user user error)) :=
  fixed_lift user _

theorem fixed_fetchPrimaryPaymentMethod (user : Option UserId) (cardId : String) :
    (DataService.Shared.fetchPrimaryPaymentMethod cardId).fixed user =
      liftFlow (DataService.fetchPrimaryPaymentMethod user cardId fun card error =>
        Operation.finish (.card card error)) :=
  fixed_lift user _

theorem fixed_addItemToOrder (user : Option UserId) (c : AddCall) :
    (DataService.Shared.addItemToOrder c).fixed user =
      liftFlow (DataService.addItemToOrder user c) := by
  unfold DataService.Shared.addItemToOrder
  cases hguard : c.guard with
  | none =>
    unfold DataService.addItemToOrder
    rw [hguard]
    rfl
  | some e => exact fixed_lift user _

/-! ## Rules -/

@[simp] theorem refCurrentUser_some (uid : UserId) :
    DataService.refCurrentUser (some uid) = some (refCurrentUser uid.val) :=
  document_segmentId ["customers"] uid

@[simp] theorem refCurrentUser_none : DataService.refCurrentUser none = none := by
  decide +kernel

/-- What a reference names lies under its collection. -/
theorem prefix_of_document {collection p : Path} {id : String}
    (h : document collection id = some p) : collection <+: p := by
  unfold document at h
  split at h
  · cases h
    exact List.prefix_append _ _
  · cases h

/-- The requests of a one-shot operation. -/
def Requests (P : DeviceRequest → Prop) : Operation → Prop
  | .stop | .trap => True
  | .complete _ next => Requests P next
  | .send q next => P (.one q) ∧ Requests P next
  | .ask q next => P (.one q) ∧ ∀ a, Requests P (next a)

/-- A function that has last looked at `user`: it works for whom it looks at, tells whom it has
found, and traps if that is nobody. -/
structure Proper (user : Option UserId) (f : DeviceOperation) : Prop where
  follows : f.Follows Own user
  tells : f.Tells Own
  needs : f.Needs none

/-- It goes on with a request about a document, or traps. -/
def Begins : DeviceOperation → Prop
  | .trap => True
  | .send q _ | .ask q _ => q.paths ≠ []
  | .stop | .complete _ _ | .look _ => False

/-- A request about a document is one customer's. -/
theorem Own.eq {user user' : Option UserId} {q : DeviceRequest} (hq : q.paths ≠ [])
    (h : Own user q) (h' : Own user' q) : user' = user := by
  obtain ⟨p, hp⟩ := List.exists_mem_of_ne_nil _ hq
  obtain ⟨uid, huid, hprefix⟩ := h p hp
  obtain ⟨uid', huid', hprefix'⟩ := h' p hp
  have heq : refCurrentUser uid.val = refCurrentUser uid'.val :=
    List.IsPrefix.eq_of_length (List.prefix_of_prefix_length_le hprefix hprefix' le_rfl) rfl
  have hval : uid.val = uid'.val := by simpa [refCurrentUser] using heq
  have hid : uid = uid' := by
    cases uid
    cases uid'
    cases hval
    rfl
  rw [huid, huid', hid]

/-- What begins with a request tells whose it is. -/
theorem Begins.names {user : Option UserId} {f : DeviceOperation} (h : Begins f)
    (hfollows : f.Follows Own user) : f.Names Own user := by
  cases f with
  | trap => trivial
  | send q next => exact fun user' h' => Own.eq h hfollows.1 h'
  | ask q next => exact fun user' h' => Own.eq h hfollows.1 h'
  | stop | complete | look => exact h.elim

namespace Proper
variable {user : Option UserId}

theorem stop : Proper user .stop := ⟨trivial, trivial, trivial⟩

theorem trap : Proper user .trap := ⟨trivial, trivial, trivial⟩

theorem complete {r : Reported} {next : DeviceOperation} (h : Proper user next) :
    Proper user (.complete r next) := ⟨h.follows, h.tells, h.needs⟩

theorem send {q : DeviceRequest} {next : DeviceOperation} (hq : Own user q)
    (h : Proper user next) : Proper user (.send q next) := ⟨⟨hq, h.follows⟩, h.tells, h.needs⟩

theorem ask {q : DeviceRequest} {next : q.Response → DeviceOperation} (hq : Own user q)
    (h : ∀ a, Proper user (next a)) : Proper user (.ask q next) :=
  ⟨⟨hq, fun a => (h a).follows⟩, fun a => (h a).tells, fun a => (h a).needs⟩

theorem look {next : Option UserId → DeviceOperation} (hnone : next none = .trap)
    (hbegins : ∀ uid, Begins (next (some uid))) (h : ∀ uid, Proper (some uid) (next (some uid))) :
    Proper user (.look next) := by
  have hall : ∀ user', Proper user' (next user') := by
    intro user'
    cases user' with
    | none =>
      rw [hnone]
      exact trap
    | some uid => exact h uid
  refine ⟨fun user' => (hall user').follows, fun user' => ⟨?_, (hall user').tells⟩,
    hnone, fun user' => (hall user').needs⟩
  cases user' with
  | none =>
    rw [hnone]
    trivial
  | some uid => exact (hbegins uid).names (h uid).follows

theorem lift {f : Operation} (h : Requests (Own user) f) : Proper user (lift f) := by
  induction f with
  | stop => exact stop
  | trap => exact trap
  | complete r next ih => exact (ih h).complete
  | send q next ih => exact (ih h.2).send h.1
  | ask q next ih => exact ask h.1 fun a => ih a (h.2 a)

theorem finish (r : Reported) : Proper user (finish r) := stop.complete

theorem finishWith (error : Option NSError) : Proper user (finishWith error) := by
  cases error <;> exact stop.complete

theorem withCurrentUser {next : Path → DeviceOperation}
    (hbegins : ∀ p, Begins (next p))
    (h : ∀ uid : UserId, Proper (some uid) (next (refCurrentUser uid.val))) :
    Proper user (withCurrentUser next) := by
  have hsome : ∀ uid : UserId,
      withReference (DataService.refCurrentUser (some uid)) next = next (refCurrentUser uid.val) := by
    intro uid
    rw [refCurrentUser_some]
    rfl
  refine look ?_ (fun uid => ?_) fun uid => ?_
  · rw [refCurrentUser_none]
    rfl
  · rw [hsome]
    exact hbegins _
  · rw [hsome]
    exact h uid

theorem withDocument {collection id : String} {next : Path → DeviceOperation}
    (hbegins : ∀ p, Begins (next p))
    (h : ∀ (uid : UserId) p, refCurrentUser uid.val <+: p → Proper (some uid) (next p)) :
    Proper user (withDocument collection id next) := by
  refine withCurrentUser (fun p => ?_) fun uid => ?_
  · cases hdocument : document (p ++ [collection]) id with
    | none => trivial
    | some ref => exact hbegins ref
  · cases hdocument : document (refCurrentUser uid.val ++ [collection]) id with
    | none => exact trap
    | some ref => exact h uid ref ((List.prefix_append _ _).trans (prefix_of_document hdocument))

end Proper

/-! ## Every function keeps to the rules -/

section
variable {user : Option UserId} {uid : UserId}

/-- A request about one document of the customer. -/
theorem own_of_begins {q : DeviceRequest} {p : Path} (hq : q.paths = [p])
    (hp : refCurrentUser uid.val <+: p) : Own (some uid) q := by
  intro p' hp'
  rw [hq, List.mem_singleton] at hp'
  exact ⟨uid, rfl, hp' ▸ hp⟩

theorem own_of_nil {q : DeviceRequest} (hq : q.paths = []) : Own user q := by
  intro p hp
  rw [hq] at hp
  cases hp

/-- A write of one document that is the last thing done. -/
theorem proper_askWith {q : DeviceRequest} {p : Path} {error : q.Response → Option NSError}
    (hq : q.paths = [p]) (hp : refCurrentUser uid.val <+: p) :
    Proper (some uid) (.ask q fun a => finishWith (error a)) :=
  Proper.ask (own_of_begins hq hp) fun a => Proper.finishWith (error a)

theorem proper_completions {α : Type} (xs : List α) (r : α → Reported) {last : DeviceOperation}
    (h : Proper user last) : Proper user (xs.foldr (fun x next => .complete (r x) next) last) := by
  induction xs with
  | nil => exact h
  | cons x xs ih => exact ih.complete

theorem proper_sends {α : Type} (xs : List α) {q : α → DeviceRequest} {last : DeviceOperation}
    (hq : ∀ x, Own user (q x)) (h : Proper user last) :
    Proper user (xs.foldr (fun x next => .send (q x) next) last) := by
  induction xs with
  | nil => exact h
  | cons x xs ih => exact ih.send (hq x)

open DataService

/-- A one-shot operation that starts by building references. -/
theorem proper_look {f : Option UserId → Operation} (hnone : f none = .trap)
    (hbegins : ∀ uid, Begins (lift (f (some uid))))
    (h : ∀ uid, Requests (Own (some uid)) (f (some uid))) :
    Proper user (.look fun user => lift (f user)) := by
  refine Proper.look ?_ hbegins fun uid => Proper.lift (h uid)
  rw [hnone]
  rfl

/-- What follows a reference, where it can be built. -/
theorem begins_withReference {ref : Option Path} {next : Path → Operation}
    (h : ∀ p, Begins (lift (next p))) : Begins (lift (Operation.withReference ref next)) := by
  cases ref with
  | none => trivial
  | some p => exact h p

theorem requests_withDocument {P : DeviceRequest → Prop} {collection : Path} {id : String}
    {next : Path → Operation} (h : ∀ p, collection <+: p → Requests P (next p)) :
    Requests P (Operation.withReference (document collection id) next) := by
  cases hdocument : document collection id with
  | none => trivial
  | some p => exact h p (prefix_of_document hdocument)

theorem proper_fetchUser : Proper user Shared.fetchUser := by
  refine proper_look ?_ (fun uid => ?_) fun uid => ?_
  · rw [DataService.fetchUser, refCurrentUser_none]
    rfl
  · exact begins_withReference fun p => List.cons_ne_nil _ _
  · rw [DataService.fetchUser, refCurrentUser_some]
    refine ⟨own_of_begins rfl (List.prefix_refl _), fun a => ?_⟩
    rcases a with error | _ | data <;> trivial

theorem proper_fetchPrimaryPaymentMethod (cardId : String) :
    Proper user (Shared.fetchPrimaryPaymentMethod cardId) := by
  refine proper_look ?_ (fun uid => ?_) fun uid => ?_
  · rw [DataService.fetchPrimaryPaymentMethod, refCurrentUser_none]
    rfl
  · exact begins_withReference fun p => begins_withReference fun p => List.cons_ne_nil _ _
  · rw [DataService.fetchPrimaryPaymentMethod, refCurrentUser_some]
    refine requests_withDocument fun p hp => ?_
    refine ⟨own_of_begins rfl ((List.prefix_append _ _).trans hp), fun a => ?_⟩
    rcases a with error | _ | data <;> trivial

/-- An attempt of the transaction reads and writes the order and the item, and goes on as it
is told where it fails. -/
theorem requests_addItemAttempt {P : DeviceRequest → Prop} (c : AddCall) (e : AddEntry)
    {ref itemRef : Path} {failed : FirestoreErrorCode → Operation}
    (hget : P (.one (.transactionGet ref itemRef)))
    (hcommit : ∀ ws, (∀ w ∈ ws, w.toWrite.key = ref ∨ w.toWrite.key = itemRef) →
      P (.one (.commit ws)))
    (hfailed : ∀ error, Requests P (failed error)) :
    Requests P (DataService.addItemAttempt c e ref itemRef failed) := by
  refine ⟨hget, fun a => ?_⟩
  rcases a with error | ⟨document, itemDocument⟩
  · exact hfailed error
  · dsimp only
    cases hblock : addItemBlock c e ref itemRef document itemDocument with
    | none => trivial
    | some writes =>
      refine ⟨hcommit writes fun w hw => (key_of_addItemBlock hblock w hw).1, fun a => ?_⟩
      cases a with
      | none => trivial
      | some error => exact hfailed error

theorem requests_addItemTransaction {P : DeviceRequest → Prop} (c : AddCall) (e : AddEntry)
    {ref itemRef : Path} (hget : P (.one (.transactionGet ref itemRef)))
    (hcommit : ∀ ws, (∀ w ∈ ws, w.toWrite.key = ref ∨ w.toWrite.key = itemRef) →
      P (.one (.commit ws))) (retriesLeft : ℕ) :
    Requests P (DataService.addItemTransaction c e ref itemRef retriesLeft) := by
  induction retriesLeft with
  | zero => exact requests_addItemAttempt c e hget hcommit fun error => trivial
  | succ retriesLeft ih =>
    refine requests_addItemAttempt c e hget hcommit fun error => ?_
    split
    · exact ih
    · trivial

theorem proper_addItemToOrder (c : AddCall) : Proper user (Shared.addItemToOrder c) := by
  unfold Shared.addItemToOrder
  cases hguard : c.guard with
  | none => exact Proper.stop
  | some e =>
    refine proper_look ?_ (fun uid => ?_) fun uid => ?_
    · rw [DataService.addItemToOrder, hguard, refCurrentUser_none]
      rfl
    · rw [DataService.addItemToOrder, hguard]
      exact begins_withReference fun p => begins_withReference fun p =>
        begins_withReference fun p => List.cons_ne_nil _ _
    · rw [DataService.addItemToOrder, hguard, refCurrentUser_some]
      refine requests_withDocument fun ref href => requests_withDocument fun itemRef hitem => ?_
      have hown : refCurrentUser uid.val <+: ref := (List.prefix_append _ _).trans href
      have hownItem : refCurrentUser uid.val <+: itemRef :=
        hown.trans ((List.prefix_append _ _).trans hitem)
      refine requests_addItemTransaction c e ?_ (fun ws hws => ?_) kRetryCount
      · intro p hp
        rcases List.mem_pair.mp hp with rfl | rfl
        · exact ⟨uid, rfl, hown⟩
        · exact ⟨uid, rfl, hownItem⟩
      · intro p hp
        obtain ⟨w, hw, rfl⟩ := List.mem_map.mp hp
        rcases hws w hw with hkey | hkey
        · exact ⟨uid, rfl, hkey ▸ hown⟩
        · exact ⟨uid, rfl, hkey ▸ hownItem⟩

theorem proper_updateUserLocation (line1 postalCode city state : String) :
    Proper user (Shared.updateUserLocation line1 postalCode city state) :=
  Proper.withCurrentUser (fun _ => List.cons_ne_nil _ _) fun _ =>
    proper_askWith rfl (List.prefix_refl _)

theorem proper_addPaymentMethod (primaryCard : Option String) (tokenId : SegmentId)
    (number cvc : String) : Proper user (Shared.addPaymentMethod primaryCard tokenId number cvc) := by
  refine Proper.withDocument (fun _ => List.cons_ne_nil _ _) fun uid p hp => ?_
  refine Proper.ask (own_of_begins rfl hp) fun a => ?_
  cases a with
  | some error => exact Proper.finishWith _
  | none =>
    cases primaryCard with
    | none => exact Proper.finishWith _
    | some primaryCard =>
      exact Proper.withDocument (fun _ => List.cons_ne_nil _ _) fun _ _ hp =>
        proper_askWith rfl hp

theorem proper_createStripePaymentMethod (primaryCard : Option String) (entry : CardEntry) :
    Proper user (Shared.createStripePaymentMethod primaryCard entry) := by
  refine Proper.ask (own_of_nil rfl) fun a => ?_
  rcases a with error | _ | id
  · exact Proper.finishWith _
  · exact Proper.trap
  · exact proper_addPaymentMethod primaryCard id entry.cardNumber entry.cvc

theorem proper_updatePaymentMethod (cardId : String) (month year : ℕ) :
    Proper user (Shared.updatePaymentMethod cardId month year) :=
  Proper.withDocument (fun _ => List.cons_ne_nil _ _) fun _ _ hp => proper_askWith rfl hp

theorem proper_setPrimaryPaymentMethod (oldCardId cardId : String) :
    Proper user (Shared.setPrimaryPaymentMethod oldCardId cardId) := by
  refine Proper.withDocument (fun _ => List.cons_ne_nil _ _) fun uid p hp => ?_
  refine Proper.send (own_of_begins rfl hp) ?_
  exact Proper.withDocument (fun _ => List.cons_ne_nil _ _) fun _ _ hp =>
    Proper.stop.send (own_of_begins rfl hp)

theorem proper_fetchEach (collection : String) (failed : NSError → Reported)
    (found : String → Doc → Reported) : Proper user (Shared.fetchEach collection failed found) := by
  refine Proper.withCurrentUser (fun _ => List.cons_ne_nil _ _) fun uid => ?_
  refine Proper.ask (own_of_begins rfl (List.prefix_append _ _)) fun a => ?_
  cases a with
  | error error => exact Proper.finish _
  | ok documents => exact proper_completions documents _ Proper.stop

theorem proper_removePaymentMethod (id : String) : Proper user (Shared.removePaymentMethod id) :=
  Proper.withDocument (fun _ => List.cons_ne_nil _ _) fun _ _ hp => proper_askWith rfl hp

theorem proper_clearOrder (orderId : String) : Proper user (Shared.clearOrder orderId) := by
  refine Proper.withDocument (fun _ => List.cons_ne_nil _ _) fun uid p hp => ?_
  refine Proper.ask (own_of_begins rfl (hp.trans (List.prefix_append _ _))) fun a => ?_
  cases a with
  | error error => exact Proper.trap
  | ok documents =>
    refine proper_sends documents (fun d => ?_) (proper_askWith rfl hp)
    exact own_of_begins rfl (hp.trans (List.prefix_append _ _))

theorem proper_completeCharge (c : Charge) (created : String) :
    Proper user (Shared.completeCharge c created) := by
  refine Proper.ask (own_of_nil rfl) fun a => ?_
  rcases a with ⟨_ | token, _ | error⟩
  · exact Proper.finishWith _
  · exact Proper.finishWith _
  · exact Proper.withDocument (fun _ => List.cons_ne_nil _ _) fun _ _ hp => proper_askWith rfl hp
  · exact Proper.finishWith _

theorem proper_placeOrder (order : Order) (card : Card) (created : String) :
    Proper user (Shared.placeOrder order card created) := by
  refine Proper.withDocument (fun _ => List.cons_ne_nil _ _) fun uid p hp => ?_
  refine Proper.ask (own_of_begins rfl hp) fun a => ?_
  cases a with
  | error error => exact Proper.stop
  | ok snapshot =>
    dsimp only
    split
    · exact Proper.stop
    · exact Proper.trap
    · exact proper_completeCharge _ created

theorem proper_getLikes (providerId : String) : Proper user (Shared.getLikes providerId) := by
  refine Proper.withCurrentUser (fun _ => List.cons_ne_nil _ _) fun uid => ?_
  refine Proper.ask (own_of_begins rfl (List.prefix_append _ _)) fun a => ?_
  cases a with
  | error error => exact Proper.stop
  | ok documents => exact proper_completions documents _ Proper.stop

theorem proper_adjustLikes (providerId : String) :
    Proper user (Shared.adjustLikes providerId) := by
  refine Proper.withDocument (fun _ => List.cons_ne_nil _ _) fun uid p hp => ?_
  refine Proper.ask (own_of_begins rfl hp) fun a => ?_
  rcases a with error | _ | data
  · exact (Proper.finish _).send (own_of_begins rfl hp)
  · exact (Proper.finish _).send (own_of_begins rfl hp)
  · exact (Proper.finish _).send (own_of_begins rfl hp)

/-- **Every call keeps to the rules.** -/
theorem DeviceCall.proper (c : DeviceCall) : Proper user c.operation := by
  cases c with
  | fetchUser => exact proper_fetchUser
  | updateUserLocation line1 postalCode city state =>
    exact proper_updateUserLocation line1 postalCode city state
  | createStripePaymentMethod primaryCard entry =>
    exact proper_createStripePaymentMethod primaryCard entry
  | updatePaymentMethod cardId month year => exact proper_updatePaymentMethod cardId month year
  | fetchPrimaryPaymentMethod cardId => exact proper_fetchPrimaryPaymentMethod cardId
  | setPrimaryPaymentMethod oldCardId cardId =>
    exact proper_setPrimaryPaymentMethod oldCardId cardId
  | fetchPaymentMethods =>
    show Proper user Shared.fetchPaymentMethods
    exact proper_fetchEach _ _ _
  | removePaymentMethod id => exact proper_removePaymentMethod id
  | addItemToOrder c => exact proper_addItemToOrder c
  | clearOrder orderId => exact proper_clearOrder orderId
  | placeOrder order card created => exact proper_placeOrder order card created
  | fetchPastOrders =>
    show Proper user Shared.fetchPastOrders
    exact proper_fetchEach _ _ _
  | fetchUpcomingOrders =>
    show Proper user Shared.fetchUpcomingOrders
    exact proper_fetchEach _ _ _
  | getLikes providerId => exact proper_getLikes providerId
  | adjustLikes providerId => exact proper_adjustLikes providerId

end

/-! ## Calls that look at once -/

/-- The calls other than placing an order and saving a card. -/
def DeviceCall.AtOnce : DeviceCall → Prop
  | .placeOrder _ _ _ | .createStripePaymentMethod _ _ => False
  | _ => True

theorem neverLooks_lift (f : Operation) : (lift f).NeverLooks := by
  induction f with
  | stop | trap => trivial
  | complete r next ih | send q next ih => exact ih
  | ask q next ih => exact ih

theorem looksAtOnce_withReference {ref : Option Path} {next : Path → DeviceOperation}
    (h : ∀ p, (next p).LooksAtOnce) : (withReference ref next).LooksAtOnce := by
  cases ref with
  | none => trivial
  | some p => exact h p

theorem looksAtOnce_withDocument {collection id : String} {next : Path → DeviceOperation}
    (h : ∀ p, (next p).LooksAtOnce) : (withDocument collection id next).LooksAtOnce :=
  fun _ => looksAtOnce_withReference fun _ => looksAtOnce_withReference h

theorem neverLooks_finishWith (error : Option NSError) : (finishWith error).NeverLooks :=
  neverLooks_lift _

theorem neverLooks_completions {α : Type} (xs : List α) (r : α → Reported)
    {last : DeviceOperation} (h : last.NeverLooks) :
    (xs.foldr (fun x next => Late.complete (r x) next) last).NeverLooks := by
  induction xs with
  | nil => exact h
  | cons x xs ih => exact ih

theorem neverLooks_sends {α : Type} (xs : List α) (q : α → DeviceRequest)
    {last : DeviceOperation} (h : last.NeverLooks) :
    (xs.foldr (fun x next => Late.send (q x) next) last).NeverLooks := by
  induction xs with
  | nil => exact h
  | cons x xs ih => exact ih

theorem looksAtOnce_fetchEach (collection : String) (failed : NSError → Reported)
    (found : String → Doc → Reported) :
    (DataService.Shared.fetchEach collection failed found).LooksAtOnce := by
  refine fun _ => looksAtOnce_withReference fun p a => ?_
  cases a with
  | error error => trivial
  | ok documents => exact neverLooks_completions documents _ trivial

theorem DeviceCall.AtOnce.looksAtOnce {c : DeviceCall} (h : c.AtOnce) :
    c.operation.LooksAtOnce := by
  cases c with
  | placeOrder | createStripePaymentMethod => exact h.elim
  | fetchUser | fetchPrimaryPaymentMethod => exact fun _ => (neverLooks_lift _).looksAtOnce
  | updateUserLocation =>
    exact fun _ => looksAtOnce_withReference fun _ error => neverLooks_finishWith error
  | updatePaymentMethod | removePaymentMethod =>
    exact looksAtOnce_withDocument fun _ error => neverLooks_finishWith error
  | setPrimaryPaymentMethod =>
    exact looksAtOnce_withDocument fun _ => looksAtOnce_withDocument fun _ => trivial
  | fetchPaymentMethods =>
    show DataService.Shared.fetchPaymentMethods.LooksAtOnce
    exact looksAtOnce_fetchEach _ _ _
  | fetchPastOrders =>
    show DataService.Shared.fetchPastOrders.LooksAtOnce
    exact looksAtOnce_fetchEach _ _ _
  | fetchUpcomingOrders =>
    show DataService.Shared.fetchUpcomingOrders.LooksAtOnce
    exact looksAtOnce_fetchEach _ _ _
  | addItemToOrder c =>
    unfold DeviceCall.operation DataService.Shared.addItemToOrder
    dsimp only
    split
    · trivial
    · exact fun _ => (neverLooks_lift _).looksAtOnce
  | clearOrder orderId =>
    refine looksAtOnce_withDocument fun p a => ?_
    cases a with
    | error error => trivial
    | ok documents => exact neverLooks_sends documents _ fun error => neverLooks_finishWith error
  | getLikes providerId =>
    refine fun _ => looksAtOnce_withReference fun p a => ?_
    cases a with
    | error error => trivial
    | ok documents => exact neverLooks_completions documents _ trivial
  | adjustLikes providerId =>
    refine looksAtOnce_withDocument fun p a => ?_
    rcases a with error | _ | data <;> trivial

/-! ## A device -/

/-- The functions of `DataService.shared`, and whose requests they make. -/
def sharedService :
    Service DeviceRequest.Response Reported (Option UserId) DeviceCall Own where
  operation := DeviceCall.operation
  follows c _ := c.proper.follows
  tells c := (@DeviceCall.proper none c).tells

abbrev SharedDevice : Type := Device DeviceRequest.Response Reported (Option UserId)

abbrev SharedEvent : Type := Event DeviceRequest.Response (Option UserId) DeviceCall

def sharedStep : SharedDevice → SharedEvent → Option SharedDevice :=
  deviceStep DeviceCall.operation

/-- **Whose documents all calls work on.**  In every run of a device, with calls in progress at
once, answers in any order, and customers who sign in and out in between, after which the app
is still up: every request of every call keeps to the documents of the customer who was signed
in when the call was made **if and only if** every callback that uses a reference finds that
customer signed in; and none has used one with nobody signed in. -/
theorem ownRequests_iff (user : Option UserId) (es : List SharedEvent) (t : SharedDevice)
    (h : run sharedStep (Device.start user) es = some t) (hup : t.down = false) :
    (AllMine Own t ↔
      Along sharedStep (FindsCaller DeviceCall.operation) (Device.start user) es) ∧
    Along sharedStep (Avoids DeviceCall.operation none) (Device.start user) es := by
  constructor
  · refine mine_iff sharedService ?_ (List.forall_mem_nil _) h hup
    exact fun m c hc => by cases hc
  · refine avoids_of_up (fun c => (@DeviceCall.proper none c).needs) ?_ h hup
    exact fun m c hc => by cases hc

/-! ## The phone is handed on -/

/-- Every request succeeds, and the bag holds a soup. -/
def withSuccess : (q : DeviceRequest) → q.Response
  | .one (.getDocument _) =>
    .ok (some (Doc.ofFields [("subtotal", .double 10), ("total", .double 13)]))
  | .one (.getDocuments _) => .ok []
  | .one (.setMerge _ _) | .one (.delete _) | .one (.commitChanges _) => none
  | .one (.transactionGet _ _) => .ok (none, none)
  | .one (.commit _) => none
  | .one (.signIn _ _) | .one (.createUser _ _) => .ok none
  | .one (.verifyPhoneNumber _) => .ok none
  | .one (.createToken _) => (some ⟨"tok", by decide, by decide⟩, none)
  | .query _ => .ok []
  | .setData _ _ | .updateData _ _ => none
  | .createPaymentMethod _ => .ok none

def eva : UserId := ⟨"eva", by decide, by decide⟩

def ben : UserId := ⟨"ben", by decide, by decide⟩

/-- Eva places her order; before Stripe has answered, Ben has signed in. -/
def handedOn : List SharedEvent :=
  [.call (.placeOrder sampleOrder sampleCard "today"), .answer 0 withSuccess,
    .switch (some ben), .answer 0 withSuccess, .answer 0 withSuccess]

/-- The documents that the requests of a device are about. -/
def SharedDevice.touched (t : SharedDevice) : List (Option UserId × List Path) :=
  t.made.map fun x => (x.1, x.2.paths)

/-- **Eva's payment is filed under Ben**, who has signed in meanwhile. -/
theorem payment_filed_under_ben : ∃ t, run sharedStep (Device.start (some eva)) handedOn = some t ∧
    t.down = false ∧
    ((AllMine Own t ↔
      Along sharedStep (FindsCaller DeviceCall.operation) (Device.start (some eva)) handedOn) ∧
    Along sharedStep (Avoids DeviceCall.operation none) (Device.start (some eva)) handedOn) ∧
    (some eva, [["customers", "ben", "payments", "tok"]]) ∈ t.touched ∧ ¬ AllMine Own t := by
  have hrun : (run sharedStep (Device.start (some eva)) handedOn).map
      (fun t => (t.down, t.touched)) = some (false, [(some eva, [["customers", "eva", "orders",
        "bag"]]), (some eva, []), (some eva, [["customers", "ben", "payments", "tok"]])]) := by
    decide +kernel
  obtain ⟨t, ht, heq⟩ := Option.map_eq_some_iff.mp hrun
  obtain ⟨hup, htouched⟩ := Prod.mk.inj heq
  have hmem : (some eva, [["customers", "ben", "payments", "tok"]]) ∈ t.touched := by
    rw [htouched]
    decide
  refine ⟨t, ht, hup, ownRequests_iff (some eva) handedOn t ht hup, hmem, fun hall => ?_⟩
  obtain ⟨x, hx, hpaths⟩ := List.mem_map.mp hmem
  obtain ⟨hcaller, hpath⟩ := Prod.mk.inj hpaths
  obtain ⟨uid, huid, hprefix⟩ := hall x hx ["customers", "ben", "payments", "tok"] (by simp [hpath])
  rw [hcaller] at huid
  cases huid
  exact absurd hprefix (by decide)

/-- **The other calls keep to their customer.**  In every run without a `placeOrder` and a
`createStripePaymentMethod`, whoever signs in and out, every request is about the documents of
the customer who was signed in when its call was made. -/
theorem ownRequests_of_atOnce (user : Option UserId) (es : List SharedEvent) (t : SharedDevice)
    (h : run sharedStep (Device.start user) es = some t)
    (hes : ∀ c, .call c ∈ es → c.AtOnce) : AllMine Own t := by
  refine allMine_of_finds sharedService (s := .start user) ?_ (List.forall_mem_nil _) h ?_
  · exact fun m c hc => by cases hc
  · refine findsCaller_of_looksAtOnce ?_ fun c hc => (hes c hc).looksAtOnce
    exact fun m c hc => by cases hc

/-- Eva likes a chef, and Ben signs in before her read is answered. -/
def likedAndHandedOn : List SharedEvent :=
  [.call (.adjustLikes "ana"), .switch (some ben), .answer 0 withSuccess]

theorem ownRequests_of_atOnce_liked : ∃ t,
    run sharedStep (Device.start (some eva)) likedAndHandedOn = some t ∧ AllMine Own t := by
  have hsome : (run sharedStep (Device.start (some eva)) likedAndHandedOn).isSome := by
    decide +kernel
  obtain ⟨t, ht⟩ := Option.isSome_iff_exists.mp hsome
  refine ⟨t, ht, ownRequests_of_atOnce (some eva) likedAndHandedOn t ht fun c hc => ?_⟩
  simp only [likedAndHandedOn, List.mem_cons, reduceCtorEq, Event.call.injEq, List.not_mem_nil,
    or_false] at hc
  rw [hc]
  trivial

end Lidora
