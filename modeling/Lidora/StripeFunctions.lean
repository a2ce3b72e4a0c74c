import Lidora.Firestore

/-! # The backend's functions on Stripe

`functions/index.js` runs on events of documents whose path matches a pattern.  A
segment of a pattern in braces matches anything and hands it on by name
(`context.params`).  A field that a document does not have is `undefined` to JavaScript,
here `none`.

What Stripe answers, and how often an event is delivered, is left to the modules that
run these functions.
-/
namespace Lidora

/-- One segment of a trigger's pattern. -/
inductive Segment where
  | literal (s : String)
  | wildcard (name : String)
  deriving DecidableEq

/-- `context.params` for a path that the pattern matches. -/
def pathParams : List Segment → Path → Option (List (String × String))
  | [], [] => some []
  | .literal s :: ps, x :: xs => if s = x then pathParams ps xs else none
  | .wildcard name :: ps, x :: xs => (pathParams ps xs).map fun params => (name, x) :: params
  | _, _ => none

/-- `/stripe_customers/{userId}/payment_methods/{pushId}`. -/
def addPaymentMethodDetailsPattern : List Segment :=
  [.literal "stripe_customers", .wildcard "userId", .literal "payment_methods",
    .wildcard "pushId"]

/-- `stripe_customers/{userId}/payments/{pushId}`, of `createStripePayment` and
`confirmStripePayment`. -/
def stripePaymentPattern : List Segment :=
  [.literal "stripe_customers", .wildcard "userId", .literal "payments", .wildcard "pushId"]

/-- What a failing call throws.  Only Stripe's own errors have a `type`. -/
structure JsError where
  type : Option String
  message : String
  deriving DecidableEq

/-- `userFacingMessage`; the empty string is as good as no `type`. -/
def userFacingMessage (error : JsError) : String :=
  if error.type.getD "" ≠ "" then error.message
  else "An error occurred, developers have been alerted"

/-- What becomes of a call: it answers, or it throws, and then may have taken effect all
the same. -/
inductive CallOutcome (α : Type) where
  | done (answer : α)
  | failed (landed : Bool) (error : JsError)

/-- The call has taken effect. -/
def CallOutcome.landed {α : Type} : CallOutcome α → Bool
  | .done _ => true
  | .failed landed _ => landed

/-- The two arguments of `stripe.paymentIntents.create`. -/
structure PaymentIntentRequest where
  amount : Option Value
  currency : Option Value
  customer : Option Value
  paymentMethod : Option Value
  offSession : Bool
  confirm : Bool
  confirmationMethod : String
  idempotencyKey : String
  deriving DecidableEq

/-- The request that `createStripePayment` makes of the created document, the document of
its customer and its own id.  Without a customer document there is none: reading
`customer_id` of `undefined` throws. -/
def createStripePaymentRequest (data : Doc) (customer : Option Doc) (pushId : String) :
    Option PaymentIntentRequest :=
  customer.map fun customer =>
    { amount := data "amount"
      currency := data "currency"
      customer := customer "customer_id"
      paymentMethod := data "payment_method"
      offSession := false
      confirm := true
      confirmationMethod := "manual"
      idempotencyKey := pushId }

/-- A path that matches a pattern beginning with a literal begins with it. -/
theorem pathParams_literal {s : String} {ps : List Segment} {path : Path}
    {params : List (String × String)} (h : pathParams (.literal s :: ps) path = some params) :
    path.head? = some s := by
  cases path with
  | nil => cases h
  | cons x xs =>
    unfold pathParams at h
    split at h
    · rename_i hs
      rw [hs]
      rfl
    · cases h

end Lidora
