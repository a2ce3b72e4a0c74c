import Lidora.CreatePayments

/-! # One payment document, and the two functions that write it

A payment document is written by `createStripePayment`, once for each time that its
creation event is delivered, by `confirmStripePayment`, on the updates that leave the
status at `requires_confirmation`, and by the client, which sets that status when the
customer has authenticated.  None of them reads the document before it writes.  Each
write that changes something is an update, whose event is delivered at least once.

At Stripe there is one intent.  A first create makes it and every later one gets the
first answer again, whatever the intent's status is by then.  The intent's status moves
by create, by the customer's authentication and by confirm.
-/
namespace Lidora
/-- The status of a payment intent. -/
inductive IntentStatus where
  | requiresPaymentMethod
  | requiresConfirmation
  | requiresAction
  | processing
  | requiresCapture
  | canceled
  | succeeded
  deriving DecidableEq

def IntentStatus.name : IntentStatus → String
  | .requiresPaymentMethod => "requires_payment_method"
  | .requiresConfirmation => "requires_confirmation"
  | .requiresAction => "requires_action"
  | .processing => "processing"
  | .requiresCapture => "requires_capture"
  | .canceled => "canceled"
  | .succeeded => "succeeded"

/-- A document as it is written, field by field. -/
abbrev Fields : Type := List (String × Value)

/-- Two documents are the same when each field of either reads the same in both. -/
def sameDocument (before after : Fields) : Bool :=
  (before ++ after).all fun field =>
    Doc.ofFields before field.1 = Doc.ofFields after field.1

theorem sameDocument_iff {before after : Fields} :
    sameDocument before after ↔ Doc.ofFields before = Doc.ofFields after := by
  simp only [sameDocument, List.all_eq_true, decide_eq_true_eq, List.mem_append]
  constructor
  · intro h
    funext k
    by_cases hk : ∃ field, (field ∈ before ∨ field ∈ after) ∧ field.1 = k
    · obtain ⟨field, hmem, rfl⟩ := hk
      exact h field hmem
    · -- neither has the field
      have hnone : ∀ fields : Fields, (∀ field ∈ fields, field ∈ before ∨ field ∈ after) →
          Doc.ofFields fields k = none := by
        intro fields hsub
        apply List.lookup_eq_none_iff.mpr
        intro field hfield
        have hne : k ≠ field.1 := fun heq => hk ⟨field, hsub field hfield, heq.symm⟩
        simpa using hne
      rw [hnone before fun _ => Or.inl, hnone after fun _ => Or.inr]
  · intro h field _
    rw [h]

/-- What is fixed of the intent that Stripe makes of the payment. -/
structure PaymentIntent where
  id : String
  /-- The fields other than the id and the status. -/
  other : IntentStatus → Fields

/-- The intent as Stripe hands it over. -/
def PaymentIntent.object (intent : PaymentIntent) (status : IntentStatus) : Fields :=
  ("id", .string intent.id) :: ("status", .string status.name) :: intent.other status

/-- The intent at Stripe: its status, and what its own request was answered with, which is
the answer to every request under the same key. -/
structure StripeIntent where
  status : IntentStatus
  original : Except JsError IntentStatus
  deriving DecidableEq

/-- `confirmStripePayment`, on an update that leaves the document at `after`: the id that
it confirms, `none` being no call. -/
def confirmStripePayment (after : Fields) : Option (Option Value) :=
  if Doc.ofFields after "status" = some (.string "requires_confirmation") then
    some (Doc.ofFields after "id")
  else none

/-- A run of one of the two functions, by what it waits for. -/
inductive PaymentRun where
  | creating (run : CreateRun)
  /-- `stripe.paymentIntents.confirm(id)`. -/
  | confirm (id : Option Value)
  /-- `change.after.ref.set(payment)`. -/
  | writeBack (payment : Fields)

/-- What Stripe makes of a call. -/
inductive StripeAnswer where
  /-- The intent has this status from now on, and is handed over. -/
  | intent (status : IntentStatus)
  /-- The payment method is declined, which the intent remembers. -/
  | declined (error : JsError)
  /-- The call fails and changes nothing. -/
  | refused (error : JsError)
  deriving DecidableEq

structure PaymentState where
  document : Fields
  stripe : Option StripeIntent
  /-- What each update has left the document at. -/
  updates : List Fields
  /-- The updates whose event has been delivered, once for each delivery. -/
  delivered : List ℕ
  runs : InFlight PaymentRun
  /-- How many authentications the client has yet to set the status for. -/
  authenticated : ℕ

inductive PaymentEvent where
  | deliverCreation
  /-- The event of the `i`-th update is delivered. -/
  | deliverUpdate (i : ℕ)
  /-- What run `n` waits for comes about, with this answer if it is one of Stripe's. -/
  | proceed (n : ℕ) (answer : StripeAnswer)
  /-- The customer authenticates at Stripe. -/
  | authenticate
  /-- The client sets the status. -/
  | setStatus
  deriving DecidableEq

/-- The document is written; a write that changes nothing is no update. -/
def PaymentState.write (s : PaymentState) (after : Fields) : PaymentState :=
  { s with
    document := after
    updates := s.updates ++ if sameDocument s.document after then [] else [after] }

/-- Run `n` has ended. -/
def PaymentState.without (s : PaymentState) (n : ℕ) : PaymentState :=
  { s with runs := s.runs.finish n }

/-- Run `n` now waits for something else. -/
def PaymentState.waiting (s : PaymentState) (n : ℕ) (run : PaymentRun) : PaymentState :=
  { s with runs := s.runs.put n run }

/-- The client has one authentication less to set the status for. -/
def PaymentState.oneSet (s : PaymentState) : PaymentState :=
  { s with authenticated := s.authenticated - 1 }

section
variable (intent : PaymentIntent) (data : Fields) (customer : Option Doc) (pushId : String)

/-- What the answer to the intent's own request leads to. -/
def afterOriginal : Except JsError IntentStatus → PaymentRun
  | .ok status => .creating (.set (intent.object status))
  | .error error => .creating (.setError error)

/-- `stripe.paymentIntents.create`, for run `n`. -/
def createIntent (s : PaymentState) (n : ℕ) (answer : StripeAnswer) : PaymentState :=
  match s.stripe with
  | some i => s.waiting n (afterOriginal intent i.original)
  | none =>
    match answer with
    | .intent status =>
      { s.waiting n (afterOriginal intent (.ok status)) with stripe := some ⟨status, .ok status⟩ }
    | .declined error =>
      { s.waiting n (afterOriginal intent (.error error)) with
        stripe := some ⟨.requiresPaymentMethod, .error error⟩ }
    | .refused error => s.waiting n (.creating (.setError error))

/-- The intent is the one that is confirmed, and can be. -/
def Confirmable (id : Option Value) (i : StripeIntent) : Prop :=
  id = some (.string intent.id) ∧ i.status = .requiresConfirmation

instance (id : Option Value) (i : StripeIntent) : Decidable (Confirmable intent id i) :=
  inferInstanceAs (Decidable (_ ∧ _))

/-- `stripe.paymentIntents.confirm`, for run `n`.  Nothing catches what it throws.  An id
other than the intent's own, which the document can only have from the client, is taken to
be refused. -/
def confirmIntent (s : PaymentState) (n : ℕ) (id : Option Value) (answer : StripeAnswer) :
    PaymentState :=
  match s.stripe with
  | some i =>
    if Confirmable intent id i then
      match answer with
      | .intent status =>
        { s.waiting n (.writeBack (intent.object status)) with
          stripe := some { i with status := status } }
      | .declined _ =>
        { s.without n with stripe := some { i with status := .requiresPaymentMethod } }
      | .refused _ => s.without n
    else s.without n
  | none => s.without n

/-- `{ error }` merged into the document. -/
def errorMerged (document : Fields) (error : JsError) : Fields :=
  ("error", .string (userFacingMessage error)) :: document

/-- The status that the client sets. -/
def statusSet (document : Fields) : Fields :=
  ("status", .string "requires_confirmation") :: document

/-- One part of a run. -/
def proceedPayment (s : PaymentState) (n : ℕ) (answer : StripeAnswer) :
    PaymentRun → PaymentState
  | .creating .lookup =>
    match createStripePaymentRequest (Doc.ofFields data) customer pushId with
    | some request => s.waiting n (.creating (.create request))
    | none => s.waiting n (.creating (.setError missingCustomer))
  | .creating (.create _) => createIntent intent s n answer
  | .creating (.set payment) | .writeBack payment => (s.without n).write payment
  | .creating (.setError error) => (s.without n).write (errorMerged s.document error)
  | .confirm id => confirmIntent intent s n id answer

/-- The event of an update is delivered. -/
def onUpdate (s : PaymentState) (i : ℕ) (after : Fields) : PaymentState :=
  { s with
    delivered := s.delivered ++ [i]
    runs := (confirmStripePayment after).elim s.runs fun id => s.runs.start (.confirm id) }

def paymentStep (s : PaymentState) : PaymentEvent → Option PaymentState
  | .deliverCreation => some { s with runs := s.runs.start (.creating .lookup) }
  | .deliverUpdate i => s.updates[i]?.map (onUpdate s i)
  | .proceed n answer =>
    (s.runs.running n).map (proceedPayment intent data customer pushId s n answer)
  | .authenticate => s.stripe.bind fun i =>
    if i.status = .requiresAction then
      some { s with
        stripe := some { i with status := .requiresConfirmation }
        authenticated := s.authenticated + 1 }
    else none
  | .setStatus => if 0 < s.authenticated then some (s.oneSet.write (statusSet s.document)) else none

/-- The document has just been created. -/
def PaymentState.initial : PaymentState := ⟨data, none, [], [], InFlight.empty, 0⟩

end

end Lidora
