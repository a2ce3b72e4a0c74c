import Lidora.IdempotentServer
import Lidora.InFlight
import Lidora.Runs
import Lidora.StripeFunctions

/-! # `createStripePayment` under redelivery

The creation event of a payment document is delivered at least once, and every delivery
runs `createStripePayment` on the data that the document was created with.  A run waits
for the customer's document, for Stripe, and for its own write, and any number of runs, of
any documents of any users, move in between (`createStep`).

What keeps a customer from being charged twice is the idempotency key, the document's own
id.  It does not name the user.  Two documents of two users with one id are one request
to Stripe, or rather two that disagree: the second is rejected (`key_shared`).  A payment that
is declined uses its key up as well, since Stripe saves the result of every request that it
has executed; one that it finds invalid leaves no trace.  So every document that Stripe would
accept on its own gets one intent, made from its own fields, and keeps it, exactly where no
other document that Stripe would execute has the same id (`each_paid_once_iff`).
-/
namespace Lidora
open DocumentStore IdempotentServer Runs

/-- `stripe_customers/{uid}`. -/
def stripeCustomerRef (uid : String) : Path := ["stripe_customers", uid]

/-- `stripe_customers/{uid}/payments/{pushId}`. -/
def stripePaymentRef (uid pushId : String) : Path := ["stripe_customers", uid, "payments", pushId]

/-- A payment document, as it was created. -/
structure PaymentDocument where
  uid : String
  pushId : String
  data : Doc

def PaymentDocument.ref (p : PaymentDocument) : Path := stripePaymentRef p.uid p.pushId

/-- What the code relies on of Stripe's payment intents: what it accepts, declines or finds
invalid, what it says when a key is used again for something else, and the intent `i` that it
answers with. -/
structure StripeIntents where
  verdict : PaymentIntentRequest → Verdict JsError
  conflict : JsError
  paymentIntent : ℕ → PaymentIntentRequest → List (String × Value)

/-- A run of `createStripePayment`, by what it waits for. -/
inductive CreateRun where
  /-- The document of the customer. -/
  | lookup
  | create (request : PaymentIntentRequest)
  /-- `set(payment)`. -/
  | set (payment : List (String × Value))
  /-- `set({ error }, { merge: true })`. -/
  | setError (error : JsError)

structure CreateState where
  store : Firestore
  /-- The requests that Stripe has executed, the number of the intent being the place; a declined
  one leaves an intent without a payment method. -/
  intents : List PaymentIntentRequest
  runs : InFlight (ℕ × CreateRun)
  /-- The documents whose creation event has been delivered, once for each delivery. -/
  delivered : List ℕ

inductive CreateEvent where
  /-- The creation event of the `k`-th document is delivered. -/
  | deliver (k : ℕ)
  /-- What run `n` waits for comes about. -/
  | proceed (n : ℕ)
  deriving DecidableEq

section
variable (api : StripeIntents) (docs : List PaymentDocument)

/-- What reading a field of a missing document throws. -/
def missingCustomer : JsError := ⟨none, "Cannot read property 'customer_id' of undefined"⟩

/-- What Stripe's answer leads to. -/
def afterCreate (request : PaymentIntentRequest) : Response JsError → CreateRun
  | .object i => .set (api.paymentIntent i request)
  | .refused error => .setError error
  | .conflict => .setError api.conflict

/-- One part of a run of `createStripePayment` on the `k`-th document, `p`. -/
def proceedCreate (s : CreateState) (n k : ℕ) (p : PaymentDocument) : CreateRun → CreateState
  | .lookup =>
    match createStripePaymentRequest p.data (s.store.lookup (stripeCustomerRef p.uid)) p.pushId with
    | some request => { s with runs := s.runs.put n (k, .create request) }
    | none => { s with runs := s.runs.put n (k, .setError missingCustomer) }
  | .create request =>
    let answer := create PaymentIntentRequest.idempotencyKey api.verdict s.intents request
    { s with
      intents := answer.2
      runs := s.runs.put n (k, afterCreate api request answer.1) }
  | .set payment => { s with store := s.store.setData p.ref payment, runs := s.runs.finish n }
  | .setError error =>
    { s with
      store := s.store.setMerge p.ref [("error", .string (userFacingMessage error))]
      runs := s.runs.finish n }

def createStep (s : CreateState) : CreateEvent → Option CreateState
  | .deliver k =>
    if k < docs.length then
      some { s with runs := s.runs.start (k, .lookup), delivered := s.delivered ++ [k] }
    else none
  | .proceed n =>
    (s.runs.running n).bind fun (k, run) => docs[k]?.map fun p => proceedCreate api s n k p run

/-- No event has been delivered. -/
def CreateState.initial (store : Firestore) : CreateState := ⟨store, [], InFlight.empty, []⟩

/-- The request that the document makes on its own. -/
def ownRequest (store : Firestore) (p : PaymentDocument) : Option PaymentIntentRequest :=
  createStripePaymentRequest p.data (store.lookup (stripeCustomerRef p.uid)) p.pushId

/-- The document has one intent, number `i`, made of the request `r`, and records it. -/
structure PaidBy (s : CreateState) (p : PaymentDocument) (r : PaymentIntentRequest) (i : ℕ) :
    Prop where
  created : s.intents[i]? = some r
  only : ∀ (j : ℕ) (r' : PaymentIntentRequest), s.intents[j]? = some r' →
    r'.idempotencyKey = p.pushId → j = i
  recorded : s.store.lookup p.ref = some (Doc.ofFields (api.paymentIntent i r))

/-- The `k`-th document is `p`, and Stripe accepts its request `r` on its own. -/
structure Acceptable (store : Firestore) (k : ℕ) (p : PaymentDocument)
    (r : PaymentIntentRequest) : Prop where
  document : docs[k]? = some p
  request : ownRequest store p = some r
  accepted : api.verdict r = .accepted

/-- The `k`-th document is `p`, and Stripe executes its request `r` on its own, whatever comes
of it. -/
structure Executing (store : Firestore) (k : ℕ) (p : PaymentDocument)
    (r : PaymentIntentRequest) : Prop where
  document : docs[k]? = some p
  request : ownRequest store p = some r
  executes : (api.verdict r).executes = true

/-- The documents lie at paths of their own. -/
def PathsApart : Prop :=
  ∀ (k k' : ℕ) (p p' : PaymentDocument), docs[k]? = some p → docs[k']? = some p' →
    p.ref = p'.ref → k = k'

/-- A document that Stripe accepts on its own has its id to itself, among those that Stripe
executes. -/
def KeysApart (store : Firestore) : Prop :=
  ∀ k k' p p' r r', Acceptable api docs store k p r → Executing api docs store k' p' r' →
    p.pushId = p'.pushId → k = k'

/-- The event of the `k`-th document has been delivered, and dealt with as often as it
was. -/
def Settled (s : CreateState) (k : ℕ) : Prop :=
  k ∈ s.delivered ∧ ∀ n run, s.runs.running n ≠ some (k, run)

/-- **Each document is paid once.**  A document that Stripe accepts on its own has one
intent once it is settled, made of its own request, and no two documents have one in
common. -/
structure EachPaidOnce (store : Firestore) (s : CreateState) : Prop where
  paid : ∀ k p r, Acceptable api docs store k p r → Settled s k → ∃ i, PaidBy api s p r i
  apart : ∀ k k' p p' r r' i, k ≠ k' → Acceptable api docs store k p r →
    Acceptable api docs store k' p' r' → PaidBy api s p r i → ¬ PaidBy api s p' r' i

/-- What a run may be up to, if its document is one that Stripe accepts. -/
def RunKeeps (store : Firestore) (s : CreateState) (p : PaymentDocument) : CreateRun → Prop
  | .lookup => True
  | .create request => ownRequest store p = some request
  | .set payment => ∀ r, ownRequest store p = some r → api.verdict r = .accepted →
      ∃ i : ℕ, s.intents[i]? = some r ∧ payment = api.paymentIntent i r
  | .setError _ => ∀ r, ownRequest store p = some r → api.verdict r ≠ .accepted

/-- **The invariant.** -/
structure CreateInv (store : Firestore) (s : CreateState) : Prop where
  customer : ∀ uid, s.store.lookup (stripeCustomerRef uid) = store.lookup (stripeCustomerRef uid)
  each : OneEach PaymentIntentRequest.idempotencyKey s.intents
  sound : ∀ r ∈ s.intents, ∃ k p, Executing api docs store k p r
  runs : ∀ n k run, s.runs.running n = some (k, run) →
    ∃ p, docs[k]? = some p ∧ RunKeeps api store s p run
  recorded : ∀ k p r, Acceptable api docs store k p r → Settled s k →
    ∃ i : ℕ, s.intents[i]? = some r ∧
      s.store.lookup p.ref = some (Doc.ofFields (api.paymentIntent i r))

variable {api docs} {store : Firestore} {s s' : CreateState}

theorem key_of_ownRequest {p : PaymentDocument} {r : PaymentIntentRequest}
    (h : ownRequest store p = some r) : r.idempotencyKey = p.pushId := by
  obtain ⟨customer, -, rfl⟩ := Option.map_eq_some_iff.mp h
  rfl

theorem Acceptable.executing {k : ℕ} {p : PaymentDocument} {r : PaymentIntentRequest}
    (h : Acceptable api docs store k p r) : Executing api docs store k p r := by
  refine ⟨h.document, h.request, ?_⟩
  rw [h.accepted]
  rfl

theorem stripePaymentRef_ne_customer (uid uid' pushId : String) :
    stripeCustomerRef uid' ≠ stripePaymentRef uid pushId := by
  intro h
  have hlength := congrArg List.length h
  simp [stripeCustomerRef, stripePaymentRef] at hlength

/-- What a run is up to survives whatever makes intents. -/
theorem RunKeeps.mono {p : PaymentDocument} {run : CreateRun} (h : RunKeeps api store s p run)
    (hintents : ∀ (i : ℕ) (r : PaymentIntentRequest), s.intents[i]? = some r →
      s'.intents[i]? = some r) : RunKeeps api store s' p run := by
  cases run with
  | lookup => trivial
  | create request => exact h
  | set payment =>
    intro r hr haccepted
    obtain ⟨i, hi, hpayment⟩ := h r hr haccepted
    exact ⟨i, hintents i r hi, hpayment⟩
  | setError error => exact h

section Proceed
variable {n k : ℕ} {p : PaymentDocument} {run : CreateRun} (hi : CreateInv api docs store s)
  (hrun : s.runs.running n = some (k, run)) (hp : docs[k]? = some p)
include hi hrun hp

theorem keeps_of_running : RunKeeps api store s p run := by
  obtain ⟨p', hp', hkeeps⟩ := hi.runs n k run hrun
  rw [hp] at hp'
  cases hp'
  exact hkeeps

/-- The run goes on, and no document is written. -/
theorem createInv_put {run' : CreateRun} {intents : List PaymentIntentRequest}
    (heach : OneEach PaymentIntentRequest.idempotencyKey intents)
    (hsound : ∀ r ∈ intents, r ∈ s.intents ∨
      ownRequest store p = some r ∧ (api.verdict r).executes = true)
    (hmono : ∀ (i : ℕ) (r : PaymentIntentRequest), s.intents[i]? = some r → intents[i]? = some r)
    (hkeeps : RunKeeps api store
      { s with intents := intents, runs := s.runs.put n (k, run') } p run') :
    CreateInv api docs store { s with intents := intents, runs := s.runs.put n (k, run') } := by
  constructor
  · exact hi.customer
  · exact heach
  · intro r hr
    rcases hsound r hr with hr | ⟨hown, hexecutes⟩
    · exact hi.sound r hr
    · exact ⟨k, p, hp, hown, hexecutes⟩
  · intro m k' run'' hm
    rcases InFlight.put_cases hrun hm with ⟨-, hsame⟩ | ⟨-, hm⟩
    · cases hsame
      exact ⟨p, hp, hkeeps⟩
    · obtain ⟨p', hp', hkeeps'⟩ := hi.runs m k' run'' hm
      exact ⟨p', hp', hkeeps'.mono hmono⟩
  · -- a document with a run under way is not settled; the others were before
    intro k' p' r' hacceptable ⟨hdelivered, hnone⟩
    have hsettled : Settled s k' := by
      refine ⟨hdelivered, ?_⟩
      intro m run'' hm
      by_cases hmn : m = n
      · subst hmn
        rw [hrun] at hm
        cases hm
        exact hnone m run' (InFlight.put_self hrun _)
      · exact hnone m run'' ((s.runs.put_of_ne _ hmn).trans hm)
    obtain ⟨i, hintent, hrecorded⟩ := hi.recorded k' p' r' hacceptable hsettled
    exact ⟨i, hmono i r' hintent, hrecorded⟩

/-- The run ends with its write. -/
theorem createInv_write (hpaths : PathsApart docs) {d : Doc}
    (hwrite : ∀ r, ownRequest store p = some r → api.verdict r = .accepted →
      ∃ i : ℕ, s.intents[i]? = some r ∧ d = Doc.ofFields (api.paymentIntent i r)) :
    CreateInv api docs store
      { s with store := s.store.insert p.ref d, runs := s.runs.finish n } := by
  constructor
  · intro uid
    rw [← hi.customer uid]
    exact Finmap.lookup_insert_of_ne _ (stripePaymentRef_ne_customer _ _ _)
  · exact hi.each
  · exact hi.sound
  · intro m k' run' hm
    exact hi.runs m k' run' (InFlight.finish_cases hm).2
  · intro k' p' r' hacceptable ⟨hdelivered, hnone⟩
    by_cases hk : k' = k
    · -- the document that is written
      subst hk
      have hsame : p' = p := Option.some.inj (hacceptable.document.symm.trans hp)
      subst hsame
      obtain ⟨i, hintent, hd⟩ := hwrite r' hacceptable.request hacceptable.accepted
      exact ⟨i, hintent, (Finmap.lookup_insert _).trans (congrArg some hd)⟩
    · have hsettled : Settled s k' := by
        refine ⟨hdelivered, ?_⟩
        intro m run' hm
        have hmn : m ≠ n := by
          rintro rfl
          rw [hrun] at hm
          cases hm
          exact hk rfl
        exact hnone m run' ((s.runs.finish_of_ne hmn).trans hm)
      obtain ⟨i, hintent, hrecorded⟩ := hi.recorded k' p' r' hacceptable hsettled
      have hne : p'.ref ≠ p.ref := by
        intro href
        exact hk (hpaths k' k p' p hacceptable.document hp href)
      exact ⟨i, hintent, (Finmap.lookup_insert_of_ne _ hne).trans hrecorded⟩

end Proceed

/-- A delivery starts a run. -/
theorem createInv_deliver (hi : CreateInv api docs store s) {k : ℕ} (hk : k < docs.length) :
    CreateInv api docs store
      { s with runs := s.runs.start (k, .lookup), delivered := s.delivered ++ [k] } := by
  constructor
  · exact hi.customer
  · exact hi.each
  · exact hi.sound
  · intro m k' run hm
    rcases InFlight.start_cases hm with ⟨-, hsame⟩ | hm
    · cases hsame
      exact ⟨docs[k], List.getElem?_eq_getElem hk, trivial⟩
    · exact hi.runs m k' run hm
  · intro k' p r hacceptable ⟨hdelivered, hnone⟩
    have hne : k' ≠ k := by
      rintro rfl
      exact hnone _ _ (s.runs.start_self _)
    refine hi.recorded k' p r hacceptable ⟨?_, ?_⟩
    · rcases List.mem_append.mp hdelivered with hmem | hmem
      · exact hmem
      · exact absurd (List.mem_singleton.mp hmem) hne
    · intro m run hm
      have hstarted : m ≠ s.runs.started := by
        have hlt := InFlight.lt_started hm
        omega
      exact hnone m run ((s.runs.start_of_ne _ hstarted).trans hm)

theorem createInv_step (hpaths : PathsApart docs) (hkeys : KeysApart api docs store)
    (hi : CreateInv api docs store s) {e : CreateEvent} (h : createStep api docs s e = some s') :
    CreateInv api docs store s' := by
  cases e with
  | deliver k =>
    simp only [createStep] at h
    split at h
    · cases h
      exact createInv_deliver hi ‹_›
    · cases h
  | proceed n =>
    obtain ⟨⟨k, run⟩, hrun, h⟩ := Option.bind_eq_some_iff.mp h
    obtain ⟨p, hp, rfl⟩ := Option.map_eq_some_iff.mp h
    have hkeeps := keeps_of_running hi hrun hp
    cases run with
    | lookup =>
      have hown : createStripePaymentRequest p.data (s.store.lookup (stripeCustomerRef p.uid))
          p.pushId = ownRequest store p := by
        rw [hi.customer p.uid, ownRequest]
      cases hrequest : ownRequest store p with
      | some request =>
        simp only [proceedCreate, hown, hrequest]
        exact createInv_put hi hrun hp hi.each (fun r hr => Or.inl hr) (fun i r h => h) hrequest
      | none =>
        simp only [proceedCreate, hown, hrequest]
        refine createInv_put hi hrun hp hi.each (fun r hr => Or.inl hr) (fun i r h => h) ?_
        intro r hr
        rw [hrequest] at hr
        cases hr
    | create request =>
      refine createInv_put hi hrun hp (create_oneEach hi.each) ?_ (fun i r h => create_mono h) ?_
      · intro r hr
        rcases mem_create hr with hr | ⟨rfl, hexecutes⟩
        · exact Or.inl hr
        · exact Or.inr ⟨hkeeps, hexecutes⟩
      · by_cases haccept : api.verdict request = .accepted
        · -- no other document has had a request executed under this key
          have hother : ∀ r ∈ s.intents, r.idempotencyKey = request.idempotencyKey →
              r = request := by
            intro r hr hkey
            obtain ⟨k', p', hexecuting⟩ := hi.sound r hr
            rw [key_of_ownRequest hexecuting.request, key_of_ownRequest hkeeps] at hkey
            have hk := hkeys k k' p p' request r ⟨hp, hkeeps, haccept⟩ hexecuting hkey.symm
            subst hk
            have hsame : p' = p := Option.some.inj (hexecuting.document.symm.trans hp)
            subst hsame
            exact Option.some.inj (hexecuting.request.symm.trans hkeeps)
          obtain ⟨i, hi'⟩ := create_own hother haccept
          rw [hi']
          intro r hr _
          rw [show request = r from Option.some.inj (hkeeps.symm.trans hr)] at hi' ⊢
          exact ⟨i, create_object hi', rfl⟩
        · have hnot : ∀ r, ownRequest store p = some r → api.verdict r ≠ .accepted := by
            intro r hr
            rwa [← show request = r from Option.some.inj (hkeeps.symm.trans hr)]
          cases (create PaymentIntentRequest.idempotencyKey api.verdict s.intents request).1 with
          | object i => exact fun r hr haccepted => absurd haccepted (hnot r hr)
          | refused error => exact hnot
          | conflict => exact hnot
    | set payment =>
      refine createInv_write hi hrun hp hpaths ?_
      intro r hr haccepted
      obtain ⟨i, hintent, rfl⟩ := hkeeps r hr haccepted
      exact ⟨i, hintent, rfl⟩
    | setError error =>
      refine createInv_write hi hrun hp hpaths ?_
      intro r hr haccepted
      exact absurd haccepted (hkeeps r hr)

/-- No run has started and no intent has been made. -/
theorem createInv_initial : CreateInv api docs store (CreateState.initial store) := by
  constructor
  · intro uid
    rfl
  · exact oneEach_nil
  · intro r hr
    cases hr
  · intro n k run hrun
    cases hrun
  · intro k p r _ hsettled
    cases hsettled.1

theorem eachPaidOnce_of_inv (hkeys : KeysApart api docs store) (hi : CreateInv api docs store s) :
    EachPaidOnce api docs store s := by
  constructor
  · intro k p r hacceptable hsettled
    obtain ⟨i, hintent, hrecorded⟩ := hi.recorded k p r hacceptable hsettled
    refine ⟨i, hintent, ?_, hrecorded⟩
    intro j r' hj hkey
    rw [← key_of_ownRequest hacceptable.request] at hkey
    exact hi.each j i r' r hj hintent hkey
  · intro k k' p p' r r' i hne hacceptable hacceptable' hpaid hpaid'
    -- one intent is made of one request, whose key is one document's id
    have hsame : r = r' := Option.some.inj (hpaid.created.symm.trans hpaid'.created)
    have hkey := key_of_ownRequest hacceptable'.request
    rw [← hsame, key_of_ownRequest hacceptable.request] at hkey
    exact hne (hkeys k k' p p' r r' hacceptable hacceptable'.executing hkey)

/-- A document whose id another one has used cannot have an intent of its own. -/
theorem shared_key {k k' : ℕ} {p p' : PaymentDocument} {r r' : PaymentIntentRequest}
    (hacceptable : Acceptable api docs store k p r)
    (hexecuting : Executing api docs store k' p' r') (hkey : p.pushId = p'.pushId)
    (hsettled : Settled s k) (hsettled' : Settled s k') (hmem : r' ∈ s.intents)
    (hpaid : EachPaidOnce api docs store s) : k = k' := by
  obtain ⟨i, hi⟩ := hpaid.paid k p r hacceptable hsettled
  obtain ⟨j, hj⟩ := List.mem_iff_getElem?.mp hmem
  have hij : j = i := hi.only j r' hj ((key_of_ownRequest hexecuting.request).trans hkey.symm)
  -- both have made one request, so Stripe accepts the other one too
  have hsame : r = r' := Option.some.inj (hi.created.symm.trans (hij ▸ hj))
  have hacceptable' : Acceptable api docs store k' p' r' :=
    ⟨hexecuting.document, hexecuting.request, hsame ▸ hacceptable.accepted⟩
  obtain ⟨i', hi'⟩ := hpaid.paid k' p' r' hacceptable' hsettled'
  have hii' : i' = i := hi.only i' r' hi'.created
    ((key_of_ownRequest hexecuting.request).trans hkey.symm)
  rw [hii'] at hi'
  by_contra hne
  exact hpaid.apart k k' p p' r r' i hne hacceptable hacceptable' hi hi'

variable (api) in
theorem createStep_proceed {n k : ℕ} {p : PaymentDocument} {run : CreateRun}
    (hrun : s.runs.running n = some (k, run)) (hp : docs[k]? = some p) :
    createStep api docs s (.proceed n) = some (proceedCreate api s n k p run) := by
  simp only [createStep, hrun, Option.bind_some, hp, Option.map_some]

variable (api) in
/-- Whatever Stripe answers, the document is written next, and the run ends. -/
theorem proceed_afterCreate (s : CreateState) (n k : ℕ) (p : PaymentDocument)
    (r : PaymentIntentRequest) (answer : Response JsError) :
    ∃ d, proceedCreate api s n k p (afterCreate api r answer) =
      { s with store := s.store.insert p.ref d, runs := s.runs.finish n } := by
  cases answer <;> exact ⟨_, rfl⟩

/-- A run for a document with a request ends after three parts, and Stripe has been asked
once. -/
theorem run_ends {n k : ℕ} {p : PaymentDocument} {r : PaymentIntentRequest}
    (hp : docs[k]? = some p) (hr : ownRequest store p = some r)
    (hcustomer : s.store.lookup (stripeCustomerRef p.uid) = store.lookup (stripeCustomerRef p.uid))
    (hrun : s.runs.running n = some (k, .lookup)) :
    ∃ s', run (createStep api docs) s [.proceed n, .proceed n, .proceed n] = some s' ∧
      s'.delivered = s.delivered ∧ s'.runs.started = s.runs.started ∧
      s'.runs.running n = none ∧ (∀ m, m ≠ n → s'.runs.running m = s.runs.running m) ∧
      (∀ uid, s'.store.lookup (stripeCustomerRef uid) = s.store.lookup (stripeCustomerRef uid)) ∧
      s'.intents = (create PaymentIntentRequest.idempotencyKey api.verdict s.intents r).2 := by
  have hrequest : createStripePaymentRequest p.data (s.store.lookup (stripeCustomerRef p.uid))
      p.pushId = some r := by
    rw [hcustomer]
    exact hr
  -- the customer is read
  have h₁ := createStep_proceed api hrun hp
  simp only [proceedCreate, hrequest] at h₁
  have hrun₁ : (s.runs.put n (k, CreateRun.create r)).running n = some (k, .create r) :=
    InFlight.put_self hrun _
  -- Stripe answers
  have h₂ := createStep_proceed api
    (s := { s with runs := s.runs.put n (k, .create r) }) hrun₁ hp
  simp only [proceedCreate] at h₂
  have hrun₂ := InFlight.put_self hrun₁ (k, afterCreate api r
    (create PaymentIntentRequest.idempotencyKey api.verdict s.intents r).1)
  -- the document is written
  have h₃ := fun store intents delivered => createStep_proceed api
    (s := ⟨store, intents, _, delivered⟩) hrun₂ hp
  obtain ⟨d, hd⟩ := proceed_afterCreate api ⟨s.store, _, _, s.delivered⟩ n k p r
    (create PaymentIntentRequest.idempotencyKey api.verdict s.intents r).1
  refine ⟨_, (run_cons_iff _).mpr ⟨_, h₁, (run_cons_iff _).mpr ⟨_, h₂, (run_cons_iff _).mpr
    ⟨_, (h₃ _ _ _).trans (congrArg some hd), rfl⟩⟩⟩, rfl, rfl, ?_, ?_, ?_, rfl⟩
  · exact InFlight.finish_self _ n
  · intro m hm
    exact (InFlight.finish_of_ne _ hm).trans ((InFlight.put_of_ne _ _ hm).trans
      (InFlight.put_of_ne _ _ hm))
  · intro uid
    exact Finmap.lookup_insert_of_ne _ (stripePaymentRef_ne_customer _ _ _)

/-- A document that Stripe executes can be delivered and dealt with before one that Stripe
accepts. -/
theorem both_settle {k k' : ℕ} {p p' : PaymentDocument} {r r' : PaymentIntentRequest}
    (hacceptable : Acceptable api docs store k p r)
    (hexecuting : Executing api docs store k' p' r') :
    ∃ es s, run (createStep api docs) (CreateState.initial store) es = some s ∧
      Settled s k ∧ Settled s k' ∧ r' ∈ s.intents := by
  obtain ⟨hk, -⟩ := List.getElem?_eq_some_iff.mp hacceptable.document
  obtain ⟨hk', -⟩ := List.getElem?_eq_some_iff.mp hexecuting.document
  have hdeliver : run (createStep api docs) (CreateState.initial store) [.deliver k', .deliver k] =
      some ⟨store, [], (InFlight.empty.start (k', .lookup)).start (k, .lookup), [k', k]⟩ := by
    simp [run, createStep, hk, hk', CreateState.initial]
  obtain ⟨s₁, hs₁, hdelivered₁, hstarted₁, hended₁, hothers₁, hcustomer₁, hintents₁⟩ :=
    run_ends (n := 0) (s := ⟨store, [],
      (InFlight.empty.start (k', .lookup)).start (k, .lookup), [k', k]⟩)
      hexecuting.document hexecuting.request rfl rfl
  obtain ⟨s₂, hs₂, hdelivered₂, hstarted₂, hended₂, hothers₂, -, hintents₂⟩ :=
    run_ends (n := 1) hacceptable.document hacceptable.request (hcustomer₁ _)
      (hothers₁ 1 (by decide))
  -- the first request has been executed, and stays
  have hmem : r' ∈ s₂.intents := by
    have hfirst : s₁.intents[0]? = some r' := by
      rw [hintents₁, create_nil hexecuting.executes]
      rfl
    rw [hintents₂]
    exact List.mem_of_getElem? (create_mono hfirst)
  have hquiet : ∀ n, s₂.runs.running n = none := by
    intro n
    rcases n with _ | _ | n
    · rw [hothers₂ 0 (by decide), hended₁]
    · exact hended₂
    · apply s₂.runs.fresh
      rw [hstarted₂, hstarted₁]
      show 2 ≤ n + 1 + 1
      omega
  have hdelivered : s₂.delivered = [k', k] := hdelivered₂.trans hdelivered₁
  have hsettled : ∀ j ∈ [k', k], Settled s₂ j := by
    intro j hj
    refine ⟨by rwa [hdelivered], ?_⟩
    intro n run hn
    rw [hquiet n] at hn
    cases hn
  exact ⟨_, s₂, (run_append_iff _).mpr ⟨_, hdeliver, (run_append_iff _).mpr ⟨s₁, hs₁, hs₂⟩⟩,
    hsettled k (by simp), hsettled k' (by simp), hmem⟩

end

/-- **Each document is paid once exactly where no two have one key.**  For every set of
payment documents of any number of users: however often and in whatever order their
creation events are delivered and dealt with, every document that Stripe accepts on its
own has one intent once it is settled, made of its own amount, currency, payment method
and customer and recorded in it, and no two have one in common, if and only if no other
document that Stripe executes, whether it accepts or declines it, has the id of one that it
accepts. -/
theorem each_paid_once_iff (api : StripeIntents) (docs : List PaymentDocument) (store : Firestore)
    (hpaths : PathsApart docs) :
    (∀ es s, run (createStep api docs) (CreateState.initial store) es = some s →
      EachPaidOnce api docs store s) ↔ KeysApart api docs store := by
  constructor
  · intro hall k k' p p' r r' hacceptable hexecuting hkey
    obtain ⟨es, s, h, hsettled, hsettled', hmem⟩ := both_settle hacceptable hexecuting
    exact shared_key hacceptable hexecuting hkey hsettled hsettled' hmem (hall es s h)
  · intro hkeys es s h
    have hinv : CreateInv api docs store s :=
      run_invariant (CreateInv api docs store)
        (fun _ _ _ hi he => createInv_step hpaths hkeys hi he) createInv_initial h
    exact eachPaidOnce_of_inv hkeys hinv

/-! ## Two users, one id -/

/-- Intents that need a positive amount, of a hundred dollars at most. -/
def sampleIntents : StripeIntents where
  verdict r :=
    match r.amount with
    | some (.int a) =>
      if a ≤ 0 then .invalid ⟨some "invalid_request_error", "Invalid amount"⟩
      else if a ≤ 10000 then .accepted
      else .declined ⟨some "card_error", "Your card has insufficient funds."⟩
    | _ => .invalid ⟨some "invalid_request_error", "Missing required param: amount."⟩
  conflict := ⟨some "idempotency_error", "Keys for idempotent requests can only be used once."⟩
  paymentIntent i r :=
    [("id", .string ("pi_" ++ toString i)), ("amount", r.amount.getD .null),
      ("currency", r.currency.getD .null), ("customer", r.customer.getD .null),
      ("payment_method", r.paymentMethod.getD .null), ("status", .string "succeeded")]

/-- Two customers of Stripe. -/
def twoCustomers : Firestore :=
  ((∅ : Firestore).setData (stripeCustomerRef "ana") [("customer_id", .string "cus_ana")]).setData
    (stripeCustomerRef "bob") [("customer_id", .string "cus_bob")]

/-- A payment document of ten dollars. -/
def samplePayment (uid pushId : String) : PaymentDocument where
  uid := uid
  pushId := pushId
  data := Doc.ofFields [("amount", .int 1000), ("currency", .string "usd"),
    ("payment_method", .string ("pm_" ++ uid))]

/-- Both events are delivered, the first one twice, and dealt with. -/
def bothDelivered : List CreateEvent :=
  [.deliver 0, .deliver 1, .deliver 0, .proceed 0, .proceed 1, .proceed 0, .proceed 1, .proceed 0,
    .proceed 2, .proceed 1, .proceed 2, .proceed 2]

theorem each_paid_once_iff_sample : ∃ s,
    run (createStep sampleIntents [samplePayment "ana" "x", samplePayment "bob" "y"])
      (CreateState.initial twoCustomers) bothDelivered = some s ∧
    EachPaidOnce sampleIntents [samplePayment "ana" "x", samplePayment "bob" "y"] twoCustomers
      s := by
  have hsome : (run (createStep sampleIntents [samplePayment "ana" "x", samplePayment "bob" "y"])
      (CreateState.initial twoCustomers) bothDelivered).isSome := by decide +kernel
  obtain ⟨s, hs⟩ := Option.isSome_iff_exists.mp hsome
  have hids : ∀ (k k' : ℕ) (p p' : PaymentDocument),
      [samplePayment "ana" "x", samplePayment "bob" "y"][k]? = some p →
      [samplePayment "ana" "x", samplePayment "bob" "y"][k']? = some p' →
      p.pushId = p'.pushId → k = k' := by
    intro k k' p p' hp hp' hkey
    rcases k with _ | _ | k <;> rcases k' with _ | _ | k' <;> cases hp <;> cases hp' <;>
      first | rfl | exact absurd hkey (by decide)
  refine ⟨s, hs, (each_paid_once_iff sampleIntents
    [samplePayment "ana" "x", samplePayment "bob" "y"] twoCustomers ?_).mpr ?_ bothDelivered s hs⟩
  · intro k k' p p' hp hp' href
    exact hids k k' p p' hp hp' (congrArg (fun path => path.getD 3 "") href)
  · intro k k' p p' r r' hacceptable hexecuting hkey
    exact hids k k' p p' hacceptable.document hexecuting.document hkey

/-- The request of a sample payment. -/
def sampleRequest (uid pushId : String) : PaymentIntentRequest where
  amount := some (.int 1000)
  currency := some (.string "usd")
  customer := some (.string ("cus_" ++ uid))
  paymentMethod := some (.string ("pm_" ++ uid))
  offSession := false
  confirm := true
  confirmationMethod := "manual"
  idempotencyKey := pushId

/-- **The key is not the user's own.**  The payments of two users under one id: Stripe
accepts each on its own, but the second is rejected, and its document ends with an
error. -/
theorem key_shared : ∃ s,
    run (createStep sampleIntents [samplePayment "ana" "x", samplePayment "bob" "x"])
      (CreateState.initial twoCustomers) bothDelivered = some s ∧
    s.intents = [sampleRequest "ana" "x"] ∧
    (s.store.lookup (stripePaymentRef "bob" "x")).bind (fun d => d "error") =
      some (.string "Keys for idempotent requests can only be used once.") ∧
    ¬ EachPaidOnce sampleIntents [samplePayment "ana" "x", samplePayment "bob" "x"] twoCustomers
      s := by
  have hrun : (run (createStep sampleIntents [samplePayment "ana" "x", samplePayment "bob" "x"])
      (CreateState.initial twoCustomers) bothDelivered).map (fun s => (s.intents,
        (s.store.lookup (stripePaymentRef "bob" "x")).bind fun d => d "error",
        s.delivered, s.runs.started, (List.range 3).map fun n => (s.runs.running n).isNone)) =
      some ([sampleRequest "ana" "x"],
        some (.string "Keys for idempotent requests can only be used once."), [0, 1, 0], 3,
        [true, true, true]) := by decide +kernel
  obtain ⟨s, hs, hstate⟩ := Option.map_eq_some_iff.mp hrun
  simp only [Prod.mk.injEq, List.range, List.range.loop, List.map_cons, List.map_nil,
    List.cons.injEq, Option.isNone_iff_eq_none, and_true] at hstate
  obtain ⟨hintents, herror, hdelivered, hstarted, h₀, h₁, h₂⟩ := hstate
  refine ⟨s, hs, hintents, herror, ?_⟩
  intro hpaid
  have hacceptable : Acceptable sampleIntents [samplePayment "ana" "x", samplePayment "bob" "x"]
      twoCustomers 1 (samplePayment "bob" "x") (sampleRequest "bob" "x") :=
    ⟨rfl, by decide +kernel, by decide +kernel⟩
  have hsettled : Settled s 1 := by
    refine ⟨by rw [hdelivered]; decide, ?_⟩
    intro n run hn
    have hlt := InFlight.lt_started hn
    rw [hstarted] at hlt
    rcases n with _ | _ | _ | n
    · rw [h₀] at hn
      cases hn
    · rw [h₁] at hn
      cases hn
    · rw [h₂] at hn
      cases hn
    · omega
  obtain ⟨i, hpaidBy⟩ := hpaid.paid 1 _ _ hacceptable hsettled
  -- the only intent was made of the other request
  have hmem := List.mem_of_getElem? hpaidBy.created
  rw [hintents, List.mem_singleton] at hmem
  exact absurd hmem (by decide)

end Lidora
