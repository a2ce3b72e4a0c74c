import Lidora.ConfirmPayments

/-! # The `error` of a payment document

A client learns that a payment has failed from the field `error` of its document.  Each
run of `createStripePayment` and `confirmStripePayment` makes one call of Stripe, and any
of the calls around it can fail, or take effect and fail to say so (`CallOutcome`).  What is
reliable here is the write of the error itself.

`createStripePayment` catches whatever its block throws, and the write of Stripe's answer
is in the block: where that write fails, a payment that went through is recorded as an
error.  `confirmStripePayment` catches nothing, and does not wait for its write: a
confirmation that fails leaves no trace, and an error of an earlier run stays where the
write does not land.  `error_iff` says when the field tells the truth.
-/
namespace Lidora

/-- What comes of the calls of one run of `createStripePayment`. -/
structure CreateCalls where
  /-- What the read of the customer's document throws. -/
  get : Option JsError
  /-- `stripe.paymentIntents.create`. -/
  create : PaymentIntentRequest → CallOutcome Fields
  /-- `snap.ref.set(payment)`. -/
  set : CallOutcome Unit

/-- What comes of the calls of one run of `confirmStripePayment`. -/
structure ConfirmCalls where
  /-- `stripe.paymentIntents.confirm`. -/
  confirm : Option Value → CallOutcome Fields
  /-- `change.after.ref.set(payment)`. -/
  set : CallOutcome Unit

/-- A run of one of the two functions, on the document `pushId` of the customer `uid`. -/
inductive Trigger where
  /-- The document has been created with these fields. -/
  | creation (uid pushId : String) (data : Doc) (calls : CreateCalls)
  /-- The document has been updated, and left at `after`. -/
  | update (uid pushId : String) (after : Fields) (calls : ConfirmCalls)

/-- Where a `try` block ends. -/
structure Tried where
  store : Firestore
  tookEffect : Bool
  thrown : Option JsError

/-- What a run leaves: the documents, and whether its call of Stripe took effect, `none`
where it had nothing to call for. -/
structure TriggerEnd where
  store : Firestore
  tookEffect : Option Bool

/-- The `try` block of `createStripePayment`. -/
def createStripePaymentBlock (uid pushId : String) (data : Doc) (calls : CreateCalls)
    (s : Firestore) : Tried :=
  match calls.get with
  | some error => ⟨s, false, some error⟩
  | none =>
    match createStripePaymentRequest data (s.lookup (stripeCustomerRef uid)) pushId with
    | none => ⟨s, false, some missingCustomer⟩
    | some request =>
      match calls.create request with
      | .failed landed error => ⟨s, landed, some error⟩
      | .done payment =>
        match calls.set with
        | .done () => ⟨s.setData (stripePaymentRef uid pushId) payment, true, none⟩
        | .failed landed error =>
          ⟨if landed then s.setData (stripePaymentRef uid pushId) payment else s, true, some error⟩

/-- `createStripePayment`. -/
def createStripePayment (uid pushId : String) (data : Doc) (calls : CreateCalls)
    (s : Firestore) : TriggerEnd :=
  let tried := createStripePaymentBlock uid pushId data calls s
  match tried.thrown with
  | none => ⟨tried.store, some tried.tookEffect⟩
  | some error =>
    ⟨tried.store.setMerge (stripePaymentRef uid pushId)
        [("error", .string (userFacingMessage error))],
      some tried.tookEffect⟩

/-- A whole run of `confirmStripePayment`. -/
def runConfirmStripePayment (uid pushId : String) (after : Fields) (calls : ConfirmCalls)
    (s : Firestore) : TriggerEnd :=
  match confirmStripePayment after with
  | none => ⟨s, none⟩
  | some id =>
    match calls.confirm id with
    -- what it throws ends the run
    | .failed landed _ => ⟨s, some landed⟩
    | .done payment =>
      -- the run does not wait for the write, nor look at what becomes of it
      ⟨if calls.set.landed then s.setData (stripePaymentRef uid pushId) payment else s, some true⟩

namespace Trigger

/-- The payment document. -/
def ref : Trigger → Path
  | creation uid pushId _ _ => stripePaymentRef uid pushId
  | update uid pushId _ _ => stripePaymentRef uid pushId

def run (s : Firestore) : Trigger → TriggerEnd
  | creation uid pushId data calls => createStripePayment uid pushId data calls s
  | update uid pushId after calls => runConfirmStripePayment uid pushId after calls s

/-- What Stripe answers with, where it does. -/
def HandsOver : Trigger → Fields → Prop
  | creation _ _ _ calls, payment => ∃ request, calls.create request = .done payment
  | update _ _ _ calls, payment => ∃ id, calls.confirm id = .done payment

end Trigger

/-- The `error` of the document at `ref`. -/
def errorField (s : Firestore) (ref : Path) : Option Value := (s.lookup ref).bind fun d => d "error"

/-- **The error tells the truth**: the document has one if and only if the call of Stripe
did not take effect. -/
def TriggerEnd.ErrorTells (t : TriggerEnd) (ref : Path) : Prop :=
  ∀ tookEffect ∈ t.tookEffect, (errorField t.store ref).isSome ↔ tookEffect = false

/-- A payment that Stripe has created is answered with, and the answer is written. -/
def CreateCalls.WritesBack (calls : CreateCalls) (request : Option PaymentIntentRequest) : Prop :=
  calls.get = none → ∀ r ∈ request, (calls.create r).landed →
    (∃ payment, calls.create r = .done payment) ∧ calls.set = .done ()

/-- A confirmation that takes effect is written, or finds no error; one that fails finds
an error already there. -/
def ConfirmCalls.FindsError (calls : ConfirmCalls) (before : Option Value) (id : Option Value) :
    Prop :=
  if (calls.confirm id).landed then
    before = none ∨ (∃ payment, calls.confirm id = .done payment) ∧ calls.set.landed
  else before.isSome

/-- When a run leaves the document with a true error, or with none. -/
def Trigger.Tells (s : Firestore) : Trigger → Prop
  | .creation uid pushId data calls =>
    calls.WritesBack
      (createStripePaymentRequest data (s.lookup (stripeCustomerRef uid)) pushId)
  | .update uid pushId after calls =>
    ∀ id ∈ confirmStripePayment after,
      calls.FindsError (errorField s (stripePaymentRef uid pushId)) id

section
variable {s : Firestore} {ref : Path}

theorem errorField_setData (payment : Fields) :
    errorField (s.setData ref payment) ref = Doc.ofFields payment "error" := by
  rw [errorField, Firestore.setData, Finmap.lookup_insert]
  rfl

theorem errorField_setMerge (error : JsError) :
    errorField (s.setMerge ref [("error", .string (userFacingMessage error))]) ref =
      some (.string (userFacingMessage error)) := by
  rw [errorField, Firestore.setMerge, Finmap.lookup_insert]
  rfl

variable {uid pushId : String}

/-- **The `try` block** of a creation.  It throws unless Stripe's answer is written, and
what is then written has no error. -/
theorem createStripePaymentBlock_spec {data : Doc} {calls : CreateCalls}
    (hobject : ∀ request payment, calls.create request = .done payment →
      Doc.ofFields payment "error" = none) :
    let tried := createStripePaymentBlock uid pushId data calls s
    (tried.thrown = none → tried.tookEffect = true ∧
      errorField tried.store (stripePaymentRef uid pushId) = none) ∧
    ((tried.tookEffect = true → tried.thrown = none) ↔ calls.WritesBack
      (createStripePaymentRequest data (s.lookup (stripeCustomerRef uid)) pushId)) := by
  unfold createStripePaymentBlock CreateCalls.WritesBack
  cases hget : calls.get with
  | some error => exact ⟨nofun, iff_of_true nofun nofun⟩
  | none =>
    cases hrequest : createStripePaymentRequest data (s.lookup (stripeCustomerRef uid)) pushId with
    | none => exact ⟨nofun, iff_of_true nofun fun _ r hr => nomatch hr⟩
    | some request =>
      simp only [forall_const, Option.mem_some_iff, forall_eq']
      cases hcreate : calls.create request with
      | failed landed error =>
        refine ⟨nofun, ⟨fun h hlanded => ?_, fun h hlanded => ?_⟩⟩
        · have hnone : some error = none := h hlanded
          cases hnone
        · obtain ⟨⟨payment, hpayment⟩, -⟩ := h hlanded
          cases hpayment
      | done payment =>
        cases hset : calls.set with
        | done answer =>
          refine ⟨fun _ => ⟨rfl, ?_⟩, iff_of_true (fun _ => rfl) fun _ => ⟨⟨payment, rfl⟩, rfl⟩⟩
          exact (errorField_setData payment).trans (hobject request payment hcreate)
        | failed landed error =>
          exact ⟨nofun, iff_of_false (fun h => nomatch h rfl) fun h => nomatch (h rfl).2⟩

/-- **A creation.** -/
theorem createStripePayment_tells {data : Doc} {calls : CreateCalls}
    (hobject : ∀ request payment, calls.create request = .done payment →
      Doc.ofFields payment "error" = none) :
    (createStripePayment uid pushId data calls s).ErrorTells (stripePaymentRef uid pushId) ↔
      calls.WritesBack
        (createStripePaymentRequest data (s.lookup (stripeCustomerRef uid)) pushId) := by
  obtain ⟨hquiet, hwrites⟩ :=
    @createStripePaymentBlock_spec s uid pushId data calls hobject
  rw [← hwrites, createStripePayment, TriggerEnd.ErrorTells]
  set tried := createStripePaymentBlock uid pushId data calls s
  cases hthrown : tried.thrown with
  | none =>
    obtain ⟨heffect, herror⟩ := hquiet hthrown
    simp [heffect, herror]
  | some error =>
    -- the error is there, whatever has happened at Stripe
    simp [errorField_setMerge]

/-- **A confirmation.** -/
theorem runConfirmStripePayment_tells {after : Fields} {calls : ConfirmCalls}
    (hobject : ∀ id payment, calls.confirm id = .done payment →
      Doc.ofFields payment "error" = none) :
    (runConfirmStripePayment uid pushId after calls s).ErrorTells (stripePaymentRef uid pushId) ↔
      ∀ id ∈ confirmStripePayment after,
        calls.FindsError (errorField s (stripePaymentRef uid pushId)) id := by
  unfold runConfirmStripePayment TriggerEnd.ErrorTells
  cases confirmStripePayment after with
  | none => exact iff_of_true nofun nofun
  | some id =>
    simp only [Option.mem_some_iff, forall_eq', ConfirmCalls.FindsError]
    cases hconfirm : calls.confirm id with
    | failed landed error =>
      cases landed with
      | true => simp [CallOutcome.landed]
      | false => simp [CallOutcome.landed]
    | done payment =>
      cases hset : calls.set.landed with
      | true => simp [CallOutcome.landed, errorField_setData, hobject id payment hconfirm]
      | false => simp [CallOutcome.landed]

end

/-- **When the error tells the truth.**  For every run of either function, on every
document, and whatever comes of its calls: the document has an error if and only if the
call of Stripe did not take effect, exactly where a payment that Stripe has created is
answered with and written, a confirmation that takes effect is written or finds no
error, and one that fails finds an error already there.  Stripe's own object has no field
`error`. -/
theorem error_iff (s : Firestore) (t : Trigger)
    (hobject : ∀ payment, t.HandsOver payment → Doc.ofFields payment "error" = none) :
    (t.run s).ErrorTells t.ref ↔ t.Tells s := by
  cases t with
  | creation uid pushId data calls =>
    refine createStripePayment_tells ?_
    intro request payment hdone
    exact hobject payment ⟨request, hdone⟩
  | update uid pushId after calls =>
    refine runConfirmStripePayment_tells ?_
    intro id payment hdone
    exact hobject payment ⟨id, hdone⟩

/-! ## The same runs, step by step -/

/-- What Stripe's answer is to the caller. -/
def StripeAnswer.outcome (intent : PaymentIntent) : StripeAnswer → CallOutcome Fields
  | .intent status => .done (intent.object status)
  | .declined error | .refused error => .failed false error

theorem ofFields_errorMerged (document : Fields) (error : JsError) :
    Doc.ofFields (errorMerged document error) =
      (Doc.ofFields document).merge [("error", .string (userFacingMessage error))] := by
  funext k
  by_cases hk : k = "error"
  · subst hk
    rfl
  · have hne : (k == "error") = false := beq_false_of_ne hk
    simp [Doc.ofFields, Doc.merge, errorMerged, List.lookup_cons, hne]

section
variable {intent : PaymentIntent} {data : Fields} {customer : Option Doc} {pushId : String}
  {s : PaymentState}

theorem step_proceed {n : ℕ} {run : PaymentRun} (h : s.runs.running n = some run)
    (answer : StripeAnswer) :
    paymentStep intent data customer pushId s (.proceed n answer) =
      some (proceedPayment intent data customer pushId s n answer run) := by
  rw [paymentStep, h]
  rfl

/-- What `createIntent` makes the run wait for: the write of what Stripe has answered. -/
theorem createIntent_waits (hstripe : s.stripe = none) {n : ℕ} {run : PaymentRun}
    (hrun : s.runs.running n = some run) (answer : StripeAnswer) :
    (createIntent intent s n answer).document = s.document ∧
      (createIntent intent s n answer).runs.running n = some (.creating
        (match answer.outcome intent with
          | .done payment => .set payment
          | .failed _ error => .setError error)) := by
  unfold createIntent
  rw [hstripe]
  cases answer with
  | intent status => exact ⟨rfl, InFlight.put_self hrun _⟩
  | declined error => exact ⟨rfl, InFlight.put_self hrun _⟩
  | refused error => exact ⟨rfl, InFlight.put_self hrun _⟩

open Runs in
/-- Left alone, and with a Firestore that does not fail, the parts of `createStripePayment`
are `createStripePayment`. -/
theorem run_createStripePayment {uid : String} {store : Firestore} (hstripe : s.stripe = none)
    (hdocument : store.lookup (stripePaymentRef uid pushId) = some (Doc.ofFields s.document))
    (answer : StripeAnswer) :
    ∃ events s', run (paymentStep intent data (store.lookup (stripeCustomerRef uid)) pushId) s
        (.deliverCreation :: events) = some s' ∧
      (createStripePayment uid pushId (Doc.ofFields data)
          ⟨none, fun _ => answer.outcome intent, .done ()⟩ store).store.lookup
        (stripePaymentRef uid pushId) = some (Doc.ofFields s'.document) := by
  set n := s.runs.started
  set s₁ : PaymentState := { s with runs := s.runs.start (.creating .lookup) }
  have hrun₁ : s₁.runs.running n = some (.creating .lookup) := InFlight.start_self ..
  unfold createStripePayment createStripePaymentBlock
  cases hrequest : createStripePaymentRequest (Doc.ofFields data)
      (store.lookup (stripeCustomerRef uid)) pushId with
  | none =>
    set s₂ := s₁.waiting n (.creating (.setError missingCustomer)) with hs₂
    have hrun₂ : s₂.runs.running n = some (.creating (.setError missingCustomer)) :=
      InFlight.put_self hrun₁ _
    have hstep₁ : paymentStep intent data (store.lookup (stripeCustomerRef uid)) pushId s₁
        (.proceed n answer) = some s₂ := by
      rw [step_proceed hrun₁ answer]
      simp only [proceedPayment, hrequest, hs₂]
    refine ⟨[.proceed n answer, .proceed n answer], _, (run_cons_iff _).mpr ⟨s₁, rfl,
      (run_cons_iff _).mpr ⟨s₂, hstep₁, (run_cons_iff _).mpr
        ⟨_, step_proceed hrun₂ answer, rfl⟩⟩⟩, ?_⟩
    change (store.setMerge _ _).lookup _ = _
    rw [Firestore.setMerge, Finmap.lookup_insert, hdocument, Option.getD_some]
    exact congrArg some (ofFields_errorMerged s.document missingCustomer).symm
  | some request =>
    set s₂ := s₁.waiting n (.creating (.create request)) with hs₂
    have hrun₂ : s₂.runs.running n = some (.creating (.create request)) :=
      InFlight.put_self hrun₁ _
    obtain ⟨hsame, hrun₃⟩ := @createIntent_waits intent s₂ hstripe n _ hrun₂ answer
    have hstep₁ : paymentStep intent data (store.lookup (stripeCustomerRef uid)) pushId s₁
        (.proceed n answer) = some s₂ := by
      rw [step_proceed hrun₁ answer]
      simp only [proceedPayment, hrequest, hs₂]
    refine ⟨[.proceed n answer, .proceed n answer, .proceed n answer], _,
      (run_cons_iff _).mpr ⟨s₁, rfl, (run_cons_iff _).mpr ⟨s₂, hstep₁, (run_cons_iff _).mpr
        ⟨_, step_proceed hrun₂ answer, (run_cons_iff _).mpr
          ⟨_, step_proceed hrun₃ answer, rfl⟩⟩⟩⟩, ?_⟩
    cases answer.outcome intent with
    | done payment => exact Finmap.lookup_insert _
    | failed landed error =>
      change (store.setMerge _ _).lookup _ = _
      rw [Firestore.setMerge, Finmap.lookup_insert, hdocument, Option.getD_some]
      have hdoc : (createIntent intent s₂ n answer).document = s.document := hsame
      exact congrArg some ((congrArg (fun d => Doc.ofFields (errorMerged d error)) hdoc).trans
        (ofFields_errorMerged s.document error)).symm

end

/-! ## Runs that fail -/

/-- The customer's document and a payment of 11.89 dollars, waiting to be confirmed. -/
def waitingPayment : Firestore :=
  ((∅ : Firestore).setData (stripeCustomerRef "uid") [("customer_id", .string "cus")]).setData
    (stripePaymentRef "uid" "push")
    [("id", .string "pi"), ("status", .string "requires_confirmation")]

/-- A payment that went through. -/
def succeededPayment : Fields := [("id", .string "pi"), ("status", .string "succeeded")]

/-- The creation of a payment that goes through, where the write of Stripe's answer comes to
`set`. -/
def paidCreation (set : CallOutcome Unit) : Trigger :=
  .creation "uid" "push" (Doc.ofFields [("amount", .int 1189), ("currency", .string "usd")])
    ⟨none, fun _ => .done succeededPayment, set⟩

/-- A confirmation that is declined. -/
def declinedConfirmation : Trigger :=
  .update "uid" "push" [("id", .string "pi"), ("status", .string "requires_confirmation")]
    ⟨fun _ => .failed false ⟨some "StripeCardError", "Your card was declined."⟩, .done ()⟩

theorem error_iff_paid :
    ((paidCreation (.done ())).run waitingPayment).ErrorTells (stripePaymentRef "uid" "push") ↔
      (paidCreation (.done ())).Tells waitingPayment := by
  refine error_iff waitingPayment (paidCreation (.done ())) ?_
  rintro payment ⟨request, hdone⟩
  cases hdone
  decide

/-- **A payment that went through is recorded as an error**, since the write of the answer
fails; and a declined confirmation leaves no error. -/
theorem error_untrue :
    ¬ ((paidCreation (.failed false ⟨none, "UNAVAILABLE"⟩)).run waitingPayment).ErrorTells
        (stripePaymentRef "uid" "push") ∧
      ¬ (declinedConfirmation.run waitingPayment).ErrorTells (stripePaymentRef "uid" "push") := by
  constructor
  · intro h
    exact absurd ((h true (by decide +kernel)).mp (by decide +kernel)) (by decide)
  · intro h
    exact absurd ((h false (by decide +kernel)).mpr rfl) (by decide +kernel)

end Lidora
