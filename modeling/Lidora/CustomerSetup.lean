import Lidora.CleanupUser
import Lidora.PaymentMethods

/-! # A customer's setup under redelivery

The creation event of a user is delivered at least once, and every delivery runs
`createStripeCustomer`: Stripe makes a customer, then a setup intent for it, and the
customer's document is written with the id of the one and the client secret of the other.
Every payment method that is created runs `addPaymentMethodDetails`, which makes another
intent and merges its secret into the same document.  Any call of any run can fail, with
or without effect, and the runs move in between (`setupStep`).

Unlike the charge of `createStripePayment`, the creation of a customer carries no
idempotency key.  So a second delivery, and equally one after a first run that has failed
later on, makes a second customer (`two_customers`).  A user is set up once where the event
is delivered again only after runs that have come to nothing in their first call, where the
payment methods are the user's own, and where the secrets are written in the order in which
their intents were made (`setUpOnce_of_orderly`); step by step, `setup_iff` says which calls
may take effect.

That a payment method is answered with by Stripe is part of the event; that the reads of
a run come to other answers than the state says is not.
-/
namespace Lidora
open DocumentStore Runs

/-- What Stripe calls the customers and the intents that it makes, in order; no two intents
have the same secret. -/
structure StripeSetup where
  customerId : ℕ → String
  clientSecret : ℕ → String
  clientSecret_injective : Function.Injective clientSecret

/-- A run of either function, by the call that it waits for. -/
inductive SetupRun where
  /-- `stripe.customers.create`. -/
  | createCustomer
  /-- `stripe.setupIntents.create`, for the customer with this number. -/
  | createIntent (customer : ℕ)
  /-- `set` of the customer's document. -/
  | set (customer intent : ℕ)
  /-- `stripe.paymentMethods.retrieve`, for the document `pushId`. -/
  | retrieve (pushId : String) (paymentMethodId : Option Value)
  /-- `snap.ref.set(paymentMethod)`. -/
  | setMethod (pushId : String) (paymentMethod : List (String × Value))
  /-- `stripe.setupIntents.create`, for the customer of the payment method. -/
  | createMethodIntent (pushId : String) (customer : Option Value)
  /-- The merge of the secret into the customer's document. -/
  | merge (pushId : String) (intent : ℕ)
  /-- The merge of the error, in the `catch`. -/
  | mergeError (pushId : String) (error : JsError)

/-- The documents, what Stripe has made for the user, and the runs; `completed` remembers
that a run of `createStripeCustomer` has. -/
structure SetupState where
  store : Firestore
  /-- The emails of the customers. -/
  customers : List (Option String)
  /-- The customers that the intents are for. -/
  intents : List (Option Value)
  runs : InFlight SetupRun
  completed : Bool

inductive SetupEvent where
  /-- The creation event of the user is delivered. -/
  | deliverUser
  /-- The creation event of a payment method is delivered. -/
  | deliverMethod (pushId : String) (snap : Doc)
  /-- What run `n` waits for comes about, or fails; the answer of `retrieve` is the payment
  method, and those of the other calls follow from the state. -/
  | proceed (n : ℕ) (outcome : CallOutcome (List (String × Value)))

section
variable (api : StripeSetup) (uid : String) (email : Option String)

/-- `stripe_customers/{uid}/payment_methods/{pushId}`. -/
def stripePaymentMethodRef (uid pushId : String) : Path := stripePaymentMethodsRef uid ++ [pushId]

/-- What a call does when it takes effect. -/
def SetupRun.effect (s : SetupState) : SetupRun → SetupState
  | .createCustomer => { s with customers := s.customers ++ [email] }
  | .createIntent customer =>
    { s with intents := s.intents ++ [some (.string (api.customerId customer))] }
  | .set customer intent =>
    { s with
      store := s.store.setData (stripeCustomerRef uid)
        [("customer_id", .string (api.customerId customer)),
          ("setup_secret", .string (api.clientSecret intent))] }
  | .retrieve _ _ => s
  | .setMethod pushId paymentMethod =>
    { s with store := s.store.setData (stripePaymentMethodRef uid pushId) paymentMethod }
  | .createMethodIntent _ customer => { s with intents := s.intents ++ [customer] }
  | .merge _ intent =>
    { s with
      store := s.store.setMerge (stripeCustomerRef uid)
        [("setup_secret", .string (api.clientSecret intent))] }
  | .mergeError pushId error =>
    { s with
      store := s.store.setMerge (stripePaymentMethodRef uid pushId)
        [("error", .string (userFacingMessage error))] }

/-- What a run waits for after a call that has succeeded, `none` being its end. -/
def SetupRun.next (s : SetupState) (answer : List (String × Value)) : SetupRun → Option SetupRun
  | .createCustomer => some (.createIntent s.customers.length)
  | .createIntent customer => some (.set customer s.intents.length)
  | .retrieve pushId _ => some (.setMethod pushId answer)
  | .setMethod pushId paymentMethod =>
    some (.createMethodIntent pushId (paymentMethod.lookup "customer"))
  | .createMethodIntent pushId _ => some (.merge pushId s.intents.length)
  | .set _ _ | .merge _ _ | .mergeError _ _ => none

/-- What a run waits for after a call that has thrown: `addPaymentMethodDetails` has a
`catch`, `createStripeCustomer` has none. -/
def SetupRun.caught (error : JsError) : SetupRun → Option SetupRun
  | .retrieve pushId _ | .setMethod pushId _ | .createMethodIntent pushId _ | .merge pushId _ =>
    some (.mergeError pushId error)
  | .createCustomer | .createIntent _ | .set _ _ | .mergeError _ _ => none

/-- The last call of `createStripeCustomer`. -/
def SetupRun.isSet : SetupRun → Bool
  | .set _ _ => true
  | _ => false

/-- The run goes on, or ends. -/
def SetupState.goOn (s : SetupState) (n : ℕ) : Option SetupRun → SetupState
  | some run => { s with runs := s.runs.put n run }
  | none => { s with runs := s.runs.finish n }

/-- One part of a run. -/
def proceedSetup (s : SetupState) (n : ℕ) (run : SetupRun) :
    CallOutcome (List (String × Value)) → SetupState
  | .done answer =>
    ({ run.effect api uid email s with completed := s.completed || run.isSet }).goOn n
      (run.next s answer)
  | .failed landed error =>
    (if landed then run.effect api uid email s else s).goOn n (run.caught error)

def setupStep (s : SetupState) : SetupEvent → Option SetupState
  | .deliverUser => some { s with runs := s.runs.start .createCustomer }
  | .deliverMethod pushId snap =>
    some { s with runs := s.runs.start (.retrieve pushId (snap "id")) }
  | .proceed n outcome =>
    (s.runs.running n).map fun run => proceedSetup api uid email s n run outcome

/-- Nothing has been delivered. -/
def SetupState.initial (store : Firestore) : SetupState := ⟨store, [], [], InFlight.empty, false⟩

/-- **The user is set up once**: there is one customer at most, and once a run has completed
the document names a customer with a secret of his own. -/
structure SetUpOnce (s : SetupState) : Prop where
  one : s.customers.length ≤ 1
  named : s.completed = true → ∃ customer < s.customers.length, ∃ intent : ℕ,
    s.intents[intent]? = some (some (.string (api.customerId customer))) ∧
    fieldAt s.store (stripeCustomerRef uid) "customer_id" =
      some (.string (api.customerId customer)) ∧
    fieldAt s.store (stripeCustomerRef uid) "setup_secret" =
      some (.string (api.clientSecret intent))

/-- The document does not hold the secret of an intent that is newer than this one. -/
def NotOlder (s : SetupState) (intent : ℕ) : Prop :=
  ∀ newer < s.intents.length,
    fieldAt s.store (stripeCustomerRef uid) "setup_secret" =
      some (.string (api.clientSecret newer)) → newer ≤ intent

/-- The intent whose secret the call writes. -/
def SetupRun.secretOf : SetupRun → Option ℕ
  | .set _ intent | .merge _ intent => some intent
  | _ => none

/-- No step puts an older secret over a newer one. -/
def NeverOlder (s : SetupState) : SetupEvent → Prop
  | .proceed n outcome => outcome.landed = true → ∀ run ∈ s.runs.running n,
      ∀ intent ∈ run.secretOf, NotOlder api uid s intent
  | _ => True

/-- The condition on a call that takes effect: a customer is only made where there is none,
and a secret is not older than the one it replaces, and one that is merged after a run has
completed belongs to the customer whom the document names. -/
def SetupRun.Allowed (s : SetupState) : SetupRun → Prop
  | .createCustomer => s.customers = []
  | .set _ intent => NotOlder api uid s intent
  | .merge _ intent => NotOlder api uid s intent ∧ (s.completed = true →
      s.intents[intent]? = some (fieldAt s.store (stripeCustomerRef uid) "customer_id"))
  | _ => True

/-- The condition on one step. -/
def KeepsSetup (s : SetupState) : SetupEvent → Prop
  | .proceed n outcome => outcome.landed = true → ∀ run ∈ s.runs.running n,
      run.Allowed api uid s
  | _ => True

instance (s : SetupState) (intent : ℕ) : Decidable (NotOlder api uid s intent) :=
  inferInstanceAs (Decidable (∀ newer < s.intents.length, _ → newer ≤ intent))

instance (s : SetupState) : (run : SetupRun) → Decidable (run.Allowed api uid s)
  | .createCustomer => inferInstanceAs (Decidable (s.customers = []))
  | .set _ intent => inferInstanceAs (Decidable (NotOlder api uid s intent))
  | .merge _ intent => inferInstanceAs (Decidable (NotOlder api uid s intent ∧ (_ → _)))
  | .createIntent _ | .retrieve _ _ | .setMethod _ _ | .createMethodIntent _ _
  | .mergeError _ _ => isTrue trivial

instance (s : SetupState) : (e : SetupEvent) → Decidable (KeepsSetup api uid s e)
  | .proceed n outcome =>
    inferInstanceAs (Decidable (outcome.landed = true → ∀ run ∈ s.runs.running n, _))
  | .deliverUser | .deliverMethod _ _ => isTrue trivial

/-- What a run has been answered with is there: the customer it goes on with has been made,
and the intent it writes is one for that customer. -/
def SetupRun.Sound (s : SetupState) : SetupRun → Prop
  | .createIntent customer => customer < s.customers.length
  | .set customer intent => customer < s.customers.length ∧
      s.intents[intent]? = some (some (.string (api.customerId customer)))
  | _ => True

/-- **The invariant.** -/
def RunsSound (s : SetupState) : Prop := ∀ n run, s.runs.running n = some run → run.Sound api s

end

/-! ## What a call does to the setup -/

section
variable {api : StripeSetup} {uid : String} {email : Option String} {s s' : SetupState}

theorem stripePaymentMethodRef_ne (uid pushId : String) :
    stripeCustomerRef uid ≠ stripePaymentMethodRef uid pushId := by
  simp [stripePaymentMethodRef, stripePaymentMethodsRef, stripeCustomerRef]

theorem getElem?_of_prefix {α : Type} {l l' : List α} (h : l <+: l') {i : ℕ} {x : α}
    (hi : l[i]? = some x) : l'[i]? = some x := by
  obtain ⟨more, rfl⟩ := h
  rw [List.getElem?_append_left (List.getElem?_eq_some_iff.mp hi).1]
  exact hi

/-- The setup is a matter of the customers, the intents and the customer's document; new
intents do not hurt. -/
theorem SetUpOnce.frame (h : SetUpOnce api uid s) (hcustomers : s'.customers = s.customers)
    (hintents : s.intents <+: s'.intents) (hcompleted : s'.completed = s.completed)
    (hdocument : s'.store.lookup (stripeCustomerRef uid) = s.store.lookup (stripeCustomerRef uid)) :
    SetUpOnce api uid s' := by
  refine ⟨hcustomers ▸ h.one, fun hdone => ?_⟩
  obtain ⟨customer, hlt, intent, hintent, hid, hsecret⟩ := h.named (hcompleted ▸ hdone)
  refine ⟨customer, hcustomers ▸ hlt, intent, getElem?_of_prefix hintents hintent, ?_, ?_⟩
  · rw [fieldAt, hdocument]
    exact hid
  · rw [fieldAt, hdocument]
    exact hsecret

/-- Where a run goes on does not matter to it. -/
theorem setUpOnce_goOn {n : ℕ} {run : Option SetupRun} :
    SetUpOnce api uid (s.goOn n run) ↔ SetUpOnce api uid s := by
  cases run with
  | none =>
    constructor
    · exact fun h => h.frame rfl List.prefix_rfl rfl rfl
    · exact fun h => h.frame rfl List.prefix_rfl rfl rfl
  | some run =>
    constructor
    · exact fun h => h.frame rfl List.prefix_rfl rfl rfl
    · exact fun h => h.frame rfl List.prefix_rfl rfl rfl

/-- Another customer: there must not have been one. -/
theorem setUpOnce_customer (h : SetUpOnce api uid s) :
    SetUpOnce api uid { s with customers := s.customers ++ [email] } ↔ s.customers = [] := by
  constructor
  · intro h'
    have hone := h'.one
    rw [List.length_append, List.length_singleton] at hone
    exact List.length_eq_zero_iff.mp (by omega)
  · intro hnone
    refine ⟨by simp [hnone], fun hdone => ?_⟩
    obtain ⟨customer, hlt, -⟩ := h.named hdone
    rw [hnone] at hlt
    cases hlt

/-- The document is written by a run of `createStripeCustomer`, with what it has been
answered with. -/
theorem setUpOnce_set (h : SetUpOnce api uid s) {customer intent : ℕ}
    (hsound : (SetupRun.set customer intent).Sound api s) (completed : Bool) :
    SetUpOnce api uid
      { (SetupRun.set customer intent).effect api uid email s with completed := completed } := by
  obtain ⟨hlt, hintent⟩ := hsound
  refine ⟨h.one, fun _ => ⟨customer, hlt, intent, hintent, ?_, ?_⟩⟩
  · simp only [SetupRun.effect, fieldAt, Firestore.setData, Finmap.lookup_insert]
    rfl
  · simp only [SetupRun.effect, fieldAt, Firestore.setData, Finmap.lookup_insert]
    rfl

/-- A secret is merged: once a run has completed, it must be one of the customer whom the
document names. -/
theorem setUpOnce_merge (email : Option String) (h : SetUpOnce api uid s) (pushId : String)
    (intent : ℕ) :
    SetUpOnce api uid ((SetupRun.merge pushId intent).effect api uid email s) ↔
      (s.completed = true →
        s.intents[intent]? = some (fieldAt s.store (stripeCustomerRef uid) "customer_id")) := by
  have hid : fieldAt ((SetupRun.merge pushId intent).effect api uid email s).store
      (stripeCustomerRef uid) "customer_id" =
        fieldAt s.store (stripeCustomerRef uid) "customer_id" :=
    fieldAt_setMerge _ _ _ rfl
  have hsecret : fieldAt ((SetupRun.merge pushId intent).effect api uid email s).store
      (stripeCustomerRef uid) "setup_secret" = some (.string (api.clientSecret intent)) := by
    simp only [SetupRun.effect, fieldAt, Firestore.setMerge, Finmap.lookup_insert]
    rfl
  constructor
  · intro h' hdone
    obtain ⟨customer, -, intent', hintent', hnamed, hsecret'⟩ := h'.named hdone
    -- the secret that the document holds now is that of this intent
    have heq : intent = intent' := by
      have hstring := Option.some.inj (hsecret.symm.trans hsecret')
      exact api.clientSecret_injective (Value.string.inj hstring)
    rw [heq, ← hid, hnamed]
    exact hintent'
  · intro hsame
    refine ⟨h.one, fun hdone => ?_⟩
    obtain ⟨customer, hlt, intent', -, hnamed, -⟩ := h.named hdone
    refine ⟨customer, hlt, intent, ?_, hid.trans hnamed, hsecret⟩
    rw [← hnamed]
    exact hsame hdone

/-- What Stripe has made stays. -/
theorem SetupRun.effect_mono (api : StripeSetup) (uid : String) (email : Option String)
    (s : SetupState) (run : SetupRun) :
    s.customers <+: (run.effect api uid email s).customers ∧
      s.intents <+: (run.effect api uid email s).intents := by
  cases run with
  | createCustomer => exact ⟨List.prefix_append _ _, List.prefix_rfl⟩
  | createIntent customer => exact ⟨List.prefix_rfl, List.prefix_append _ _⟩
  | createMethodIntent pushId customer => exact ⟨List.prefix_rfl, List.prefix_append _ _⟩
  | _ => exact ⟨List.prefix_rfl, List.prefix_rfl⟩

/-- A call that writes no secret and makes no customer needs no condition. -/
theorem setUpOnce_quiet (h : SetUpOnce api uid s) (run : SetupRun)
    (hsecret : run.secretOf = none) (hset : run.isSet = false) (hallowed : run.Allowed api uid s)
    (hcustomers : (run.effect api uid email s).customers = s.customers)
    (hdocument : (run.effect api uid email s).store.lookup (stripeCustomerRef uid) =
      s.store.lookup (stripeCustomerRef uid))
    {completed : Bool} (hcompleted : completed = s.completed ∨ run.isSet = true) :
    SetUpOnce api uid { run.effect api uid email s with completed := completed } ∧
        (∀ intent ∈ run.secretOf, NotOlder api uid s intent) ↔ run.Allowed api uid s := by
  have hsame : completed = s.completed := by
    rcases hcompleted with hsame | hset'
    · exact hsame
    · rw [hset] at hset'
      cases hset'
  have hintents := (run.effect_mono api uid email s).2
  refine iff_of_true ⟨h.frame hcustomers hintents hsame hdocument, ?_⟩ hallowed
  intro intent hintent
  rw [hsecret] at hintent
  cases hintent

/-- **What a call that takes effect keeps**, and under which condition. -/
theorem setUpOnce_effect (h : SetUpOnce api uid s) {run : SetupRun} (hsound : run.Sound api s)
    {completed : Bool} (hcompleted : completed = s.completed ∨ run.isSet = true) :
    SetUpOnce api uid { run.effect api uid email s with completed := completed } ∧
        (∀ intent ∈ run.secretOf, NotOlder api uid s intent) ↔ run.Allowed api uid s := by
  cases run with
  | createCustomer =>
    obtain rfl := hcompleted.resolve_right (by simp [SetupRun.isSet])
    refine (and_iff_left ?_).trans (setUpOnce_customer h)
    intro intent hintent
    cases hintent
  | set customer intent =>
    refine (and_iff_right (setUpOnce_set h hsound completed)).trans ?_
    simp [SetupRun.secretOf, SetupRun.Allowed]
  | merge pushId intent =>
    obtain rfl := hcompleted.resolve_right (by simp [SetupRun.isSet])
    have hmerge := setUpOnce_merge email h pushId intent
    refine (and_congr_left fun _ => hmerge).trans ?_
    simp [SetupRun.secretOf, SetupRun.Allowed, and_comm]
  | createIntent customer =>
    exact setUpOnce_quiet h (.createIntent customer) rfl rfl trivial rfl rfl hcompleted
  | retrieve pushId paymentMethodId =>
    exact setUpOnce_quiet h (.retrieve pushId paymentMethodId) rfl rfl trivial rfl rfl hcompleted
  | createMethodIntent pushId customer =>
    exact setUpOnce_quiet h (.createMethodIntent pushId customer) rfl rfl trivial rfl rfl hcompleted
  | setMethod pushId paymentMethod =>
    refine setUpOnce_quiet h (.setMethod pushId paymentMethod) rfl rfl trivial rfl ?_ hcompleted
    exact Finmap.lookup_insert_of_ne _ (stripePaymentMethodRef_ne uid pushId)
  | mergeError pushId error =>
    refine setUpOnce_quiet h (.mergeError pushId error) rfl rfl trivial rfl ?_ hcompleted
    exact Finmap.lookup_insert_of_ne _ (stripePaymentMethodRef_ne uid pushId)

/-! ## What a run goes on with -/

theorem SetupRun.Sound.mono {run : SetupRun} (h : run.Sound api s)
    (hcustomers : s.customers <+: s'.customers) (hintents : s.intents <+: s'.intents) :
    run.Sound api s' := by
  have hlength := hcustomers.length_le
  cases run with
  | createIntent customer =>
    have hlt : customer < s.customers.length := h
    show customer < s'.customers.length
    omega
  | set customer intent =>
    obtain ⟨hlt, hintent⟩ := h
    exact ⟨by omega, getElem?_of_prefix hintents hintent⟩
  | _ => trivial

/-- After a call the run has what it has been answered with. -/
theorem SetupRun.Sound.next {run run' : SetupRun} (h : run.Sound api s)
    {answer : List (String × Value)} (hnext : run.next s answer = some run') :
    run'.Sound api (run.effect api uid email s) := by
  cases run with
  | createCustomer =>
    obtain rfl := Option.some.inj hnext
    show s.customers.length < (s.customers ++ [email]).length
    rw [List.length_append, List.length_singleton]
    omega
  | createIntent customer =>
    obtain rfl := Option.some.inj hnext
    refine ⟨h, ?_⟩
    show (s.intents ++ [some (Value.string (api.customerId customer))])[s.intents.length]? = _
    exact List.getElem?_concat_length
  | retrieve _ _ | setMethod _ _ | createMethodIntent _ _ =>
    obtain rfl := Option.some.inj hnext
    trivial
  | _ => cases hnext

/-- A run that goes on after an error has nothing left but to report it. -/
theorem SetupRun.caught_sound {run run' : SetupRun} {error : JsError}
    (hcaught : run.caught error = some run') : run'.Sound api s' := by
  cases run with
  | retrieve _ _ | setMethod _ _ | createMethodIntent _ _ | merge _ _ =>
    obtain rfl := Option.some.inj hcaught
    trivial
  | _ => cases hcaught

theorem RunsSound.mono (h : RunsSound api s) (hruns : s'.runs = s.runs)
    (hcustomers : s.customers <+: s'.customers) (hintents : s.intents <+: s'.intents) :
    RunsSound api s' := by
  intro n run hrun
  rw [hruns] at hrun
  exact (h n run hrun).mono hcustomers hintents

/-- A run may start if it has been answered with nothing yet. -/
theorem RunsSound.start (h : RunsSound api s) {run : SetupRun} (hrun : run.Sound api s) :
    RunsSound api { s with runs := s.runs.start run } := by
  intro n run' hrun'
  rcases InFlight.start_cases hrun' with ⟨-, rfl⟩ | hrun'
  · exact hrun
  · exact h n run' hrun'

theorem RunsSound.goOn (h : RunsSound api s) {n : ℕ} {run : SetupRun}
    (hrun : s.runs.running n = some run) {next : Option SetupRun}
    (hnext : ∀ run' ∈ next, run'.Sound api s) : RunsSound api (s.goOn n next) := by
  intro m run' hrun'
  cases next with
  | none => exact h m run' (InFlight.finish_cases hrun').2
  | some next =>
    rcases InFlight.put_cases hrun hrun' with ⟨-, rfl⟩ | ⟨-, hrun'⟩
    · exact hnext _ rfl
    · exact h m run' hrun'

theorem SetupRun.effect_runs (api : StripeSetup) (uid : String) (email : Option String)
    (s : SetupState) (run : SetupRun) : (run.effect api uid email s).runs = s.runs := by
  cases run <;> rfl

theorem SetupRun.effect_completed (api : StripeSetup) (uid : String) (email : Option String)
    (s : SetupState) (run : SetupRun) :
    (run.effect api uid email s).completed = s.completed := by
  cases run <;> rfl

/-- **The invariant is kept** by every step. -/
theorem runsSound_step {e : SetupEvent} (h : RunsSound api s)
    (hstep : setupStep api uid email s e = some s') : RunsSound api s' := by
  cases e with
  | deliverUser =>
    obtain rfl := Option.some.inj hstep
    exact h.start trivial
  | deliverMethod pushId snap =>
    obtain rfl := Option.some.inj hstep
    exact h.start trivial
  | proceed n outcome =>
    obtain ⟨run, hrun, rfl⟩ := Option.map_eq_some_iff.mp hstep
    have hruns := run.effect_runs api uid email s
    obtain ⟨hcustomers, hintents⟩ := run.effect_mono api uid email s
    have hafter : RunsSound api (run.effect api uid email s) := h.mono hruns hcustomers hintents
    cases outcome with
    | done answer =>
      have hcompleted : RunsSound api { run.effect api uid email s with
          completed := s.completed || run.isSet } :=
        hafter.mono rfl List.prefix_rfl List.prefix_rfl
      refine hcompleted.goOn ((congrArg (·.running n) hruns).trans hrun) fun run' hrun' => ?_
      exact ((h n run hrun).next hrun').mono List.prefix_rfl List.prefix_rfl
    | failed landed error =>
      cases landed with
      | false => exact h.goOn hrun fun run' hrun' => SetupRun.caught_sound hrun'
      | true =>
        refine hafter.goOn ((congrArg (·.running n) hruns).trans hrun) fun run' hrun' => ?_
        exact SetupRun.caught_sound hrun'

/-! ## Runs -/

/-- One step keeps the setup, and puts no older secret over a newer one, exactly under the
condition on it. -/
theorem setUpOnce_step {e : SetupEvent} (hsound : RunsSound api s) (h : SetUpOnce api uid s)
    (hstep : setupStep api uid email s e = some s') :
    SetUpOnce api uid s' ∧ NeverOlder api uid s e ↔ KeepsSetup api uid s e := by
  cases e with
  | deliverUser =>
    obtain rfl := Option.some.inj hstep
    exact iff_of_true ⟨h.frame rfl List.prefix_rfl rfl rfl, trivial⟩ trivial
  | deliverMethod pushId snap =>
    obtain rfl := Option.some.inj hstep
    exact iff_of_true ⟨h.frame rfl List.prefix_rfl rfl rfl, trivial⟩ trivial
  | proceed n outcome =>
    obtain ⟨run, hrun, rfl⟩ := Option.map_eq_some_iff.mp hstep
    have hnever : ∀ P : SetupRun → Prop, (∀ r ∈ s.runs.running n, P r) ↔ P run := by
      intro P
      rw [hrun]
      simp
    cases outcome with
    | done answer =>
      have hlanded : (CallOutcome.done answer).landed = true := rfl
      rw [NeverOlder, KeepsSetup, hnever, hnever, forall_prop_of_true hlanded,
        forall_prop_of_true hlanded]
      refine (and_congr_left fun _ => setUpOnce_goOn).trans ?_
      refine setUpOnce_effect h (hsound n run hrun) ?_
      cases hset : run.isSet with
      | false => exact Or.inl (Bool.or_false _)
      | true => exact Or.inr rfl
    | failed landed error =>
      cases landed with
      | false =>
        -- nothing has been written
        refine iff_of_true ⟨setUpOnce_goOn.mpr h, ?_⟩ ?_
        · exact fun hlanded => by cases hlanded
        · exact fun hlanded => by cases hlanded
      | true =>
        have hlanded : (CallOutcome.failed true error :
            CallOutcome (List (String × Value))).landed = true := rfl
        rw [NeverOlder, KeepsSetup, hnever, hnever, forall_prop_of_true hlanded,
          forall_prop_of_true hlanded]
        refine (and_congr_left fun _ => setUpOnce_goOn).trans ?_
        exact setUpOnce_effect h (hsound n run hrun)
          (Or.inl (run.effect_completed api uid email s))

theorem setUpOnce_initial (store : Firestore) : SetUpOnce api uid (SetupState.initial store) :=
  ⟨Nat.zero_le 1, fun hdone => by cases hdone⟩

theorem runsSound_initial (store : Firestore) : RunsSound api (SetupState.initial store) := by
  intro n run hrun
  cases hrun

end

/-- **When a user is set up once.**  In every run of deliveries of the two triggers, with
calls that succeed, or fail with or without effect, in any order: there is never a second
customer, every completed run has left a document that names the customer with a secret
of his, and no older secret is ever written over a newer one, if and only if each step
meets `KeepsSetup`. -/
theorem setup_iff (api : StripeSetup) (uid : String) (email : Option String) (store : Firestore)
    {es : List SetupEvent} {t : SetupState}
    (h : run (setupStep api uid email) (SetupState.initial store) es = some t) :
    (∀ k s, run (setupStep api uid email) (SetupState.initial store) (es.take k) = some s →
        SetUpOnce api uid s) ∧
      Along (setupStep api uid email) (NeverOlder api uid) (SetupState.initial store) es ↔
      Along (setupStep api uid email) (KeepsSetup api uid) (SetupState.initial store) es := by
  refine always_and_iff_along (RunsSound api) (SetUpOnce api uid) ?_ ?_ (runsSound_initial store)
    (setUpOnce_initial store) h
  · exact fun s e s' hsound hstep => runsSound_step hsound hstep
  · exact fun s e s' hsound honce hstep => setUpOnce_step hsound honce hstep

/-! ## Setup in order -/

/-- The first call of `createStripeCustomer`. -/
def SetupRun.isFirst : SetupRun → Bool
  | .createCustomer => true
  | _ => false

/-- Every run of `createStripeCustomer` so far has failed in its first call, without effect:
Stripe has made no customer, and no run is about to make one. -/
def NoneThrough (s : SetupState) : Prop :=
  s.customers = [] ∧ ∀ n < s.runs.started, ∀ run ∈ s.runs.running n, run.isFirst = false

/-- No run has an older intent that it may still write the secret of. -/
def OldestFirst (s : SetupState) (intent : ℕ) : Prop :=
  ∀ n < s.runs.started, ∀ run ∈ s.runs.running n, ∀ older ∈ run.secretOf, intent ≤ older

section
variable (api : StripeSetup) (uid : String)

/-- What `customer` names is a customer that Stripe has made for the user. -/
def MadeForUser (s : SetupState) (customer : Option Value) : Prop :=
  ∃ n < s.customers.length, customer = some (.string (api.customerId n))

/-- A payment method is retrieved that is one of the user's own; a secret is written by the run
that has the oldest intent. -/
def SetupRun.InTurn (s : SetupState) (outcome : CallOutcome (List (String × Value))) :
    SetupRun → Prop
  | .retrieve _ _ =>
    match outcome with
    | .done answer => MadeForUser api s (answer.lookup "customer")
    | .failed _ _ => True
  | .set _ intent | .merge _ intent => outcome.landed = true → OldestFirst s intent
  | _ => True

/-- The creation event is delivered once, or again after runs that have come to nothing; payment
methods are the user's own; and secrets are written in the order in which their intents were
made. -/
def OrderlySetup (s : SetupState) : SetupEvent → Prop
  | .deliverUser => NoneThrough s
  | .deliverMethod _ _ => True
  | .proceed n outcome => ∀ run ∈ s.runs.running n, run.InTurn api s outcome

instance (s : SetupState) : Decidable (NoneThrough s) := inferInstanceAs (Decidable (_ ∧ _))

instance (s : SetupState) (intent : ℕ) : Decidable (OldestFirst s intent) :=
  inferInstanceAs (Decidable (∀ n < s.runs.started, _))

instance (s : SetupState) (customer : Option Value) : Decidable (MadeForUser api s customer) :=
  inferInstanceAs (Decidable (∃ n < s.customers.length, _))

instance (s : SetupState) (outcome : CallOutcome (List (String × Value))) (run : SetupRun) :
    Decidable (run.InTurn api s outcome) :=
  match run, outcome with
  | .retrieve _ _, .done answer =>
    inferInstanceAs (Decidable (MadeForUser api s (answer.lookup "customer")))
  | .retrieve _ _, .failed _ _ => isTrue trivial
  | .set _ intent, outcome =>
    inferInstanceAs (Decidable (outcome.landed = true → OldestFirst s intent))
  | .merge _ intent, outcome =>
    inferInstanceAs (Decidable (outcome.landed = true → OldestFirst s intent))
  | .createCustomer, _ | .createIntent _, _ | .setMethod _ _, _ | .createMethodIntent _ _, _
  | .mergeError _ _, _ => isTrue trivial

instance (s : SetupState) : (e : SetupEvent) → Decidable (OrderlySetup api s e)
  | .deliverUser => inferInstanceAs (Decidable (NoneThrough s))
  | .deliverMethod _ _ => isTrue trivial
  | .proceed n _ => inferInstanceAs (Decidable (∀ run ∈ s.runs.running n, _))

/-- What a run has of the user: the customer that its payment method or its intent is for. -/
def SetupRun.OfUser (s : SetupState) : SetupRun → Prop
  | .setMethod _ paymentMethod => MadeForUser api s (paymentMethod.lookup "customer")
  | .createMethodIntent _ customer => MadeForUser api s customer
  | .merge _ intent => ∃ customer, MadeForUser api s customer ∧ s.intents[intent]? = some customer
  | _ => True

/-- The document's secret, if it is one of Stripe's, is that of an intent up to this one. -/
def Behind (s : SetupState) (intent : ℕ) : Prop :=
  ∀ i, fieldAt s.store (stripeCustomerRef uid) "setup_secret" =
    some (.string (api.clientSecret i)) → i ≤ intent

/-- **The invariant of the runs in order.** -/
structure InOrder (s : SetupState) : Prop where
  sound : RunsSound api s
  once : SetUpOnce api uid s
  /-- At most one run is about to make a customer, and there is none before. -/
  first : ∀ n m run run', s.runs.running n = some run → s.runs.running m = some run' →
    run.isFirst = true → run'.isFirst = true → n = m
  fresh : ∀ n run, s.runs.running n = some run → run.isFirst = true → s.customers = []
  held : ∀ n run, s.runs.running n = some run → ∀ intent ∈ run.secretOf,
    intent < s.intents.length ∧ Behind api uid s intent
  known : ∀ i, fieldAt s.store (stripeCustomerRef uid) "setup_secret" =
    some (.string (api.clientSecret i)) → i < s.intents.length
  ofUser : ∀ n run, s.runs.running n = some run → run.OfUser api s

end

section
variable {api : StripeSetup} {uid : String} {email : Option String} {s s' : SetupState}

theorem MadeForUser.mono {customer : Option Value} (h : MadeForUser api s customer)
    (hcustomers : s.customers <+: s'.customers) : MadeForUser api s' customer := by
  obtain ⟨n, hn, hcustomer⟩ := h
  exact ⟨n, hn.trans_le hcustomers.length_le, hcustomer⟩

theorem SetupRun.OfUser.mono {run : SetupRun} (h : run.OfUser api s)
    (hcustomers : s.customers <+: s'.customers) (hintents : s.intents <+: s'.intents) :
    run.OfUser api s' := by
  cases run with
  | setMethod pushId paymentMethod => exact MadeForUser.mono h hcustomers
  | createMethodIntent pushId customer => exact MadeForUser.mono h hcustomers
  | merge pushId intent =>
    obtain ⟨customer, hmade, hintent⟩ := h
    exact ⟨customer, hmade.mono hcustomers, getElem?_of_prefix hintents hintent⟩
  | _ => trivial

/-- A call leaves the document's secret alone, or writes that of its own intent. -/
theorem secret_effect (api : StripeSetup) (uid : String) (email : Option String) (s : SetupState)
    (run : SetupRun) :
    fieldAt (run.effect api uid email s).store (stripeCustomerRef uid) "setup_secret" =
      match run.secretOf with
      | some intent => some (.string (api.clientSecret intent))
      | none => fieldAt s.store (stripeCustomerRef uid) "setup_secret" := by
  have hmethod : ∀ (pushId : String) (d : Doc),
      fieldAt (s.store.insert (stripePaymentMethodRef uid pushId) d) (stripeCustomerRef uid)
        "setup_secret" = fieldAt s.store (stripeCustomerRef uid) "setup_secret" := by
    intro pushId d
    rw [fieldAt, Finmap.lookup_insert_of_ne _ (stripePaymentMethodRef_ne uid pushId), fieldAt]
  cases run with
  | set customer intent =>
    simp only [SetupRun.effect, fieldAt, Firestore.setData, Finmap.lookup_insert]
    rfl
  | merge pushId intent =>
    simp only [SetupRun.effect, fieldAt, Firestore.setMerge, Finmap.lookup_insert]
    rfl
  | setMethod pushId paymentMethod => exact hmethod pushId _
  | mergeError pushId error => exact hmethod pushId _
  | createCustomer | createIntent _ | retrieve _ _ | createMethodIntent _ _ => rfl

/-- A run that goes on is not about to make a customer. -/
theorem SetupRun.next_isFirst {run run' : SetupRun} {answer : List (String × Value)}
    (h : run.next s answer = some run') : run'.isFirst = false := by
  cases run <;> cases h <;> rfl

theorem SetupRun.caught_isFirst {run run' : SetupRun} {error : JsError}
    (h : run.caught error = some run') : run'.isFirst = false ∧ run'.secretOf = none := by
  cases run <;> cases h <;> exact ⟨rfl, rfl⟩

/-- The intent that a run goes on with has just been made. -/
theorem SetupRun.next_secretOf {run run' : SetupRun} {answer : List (String × Value)} {intent : ℕ}
    (h : run.next s answer = some run') (hintent : intent ∈ run'.secretOf) :
    intent = s.intents.length ∧ run.secretOf = none ∧
      (run.effect api uid email s).intents.length = s.intents.length + 1 := by
  cases run <;> cases h <;> cases hintent <;> exact ⟨rfl, rfl, List.length_append⟩

/-- What a run goes on with is the user's own, if the payment method is. -/
theorem SetupRun.OfUser.next {run run' : SetupRun} {answer : List (String × Value)}
    (h : run.OfUser api s) (hturn : run.InTurn api s (.done answer))
    (hnext : run.next s answer = some run') : run'.OfUser api (run.effect api uid email s) := by
  cases run with
  | createCustomer | createIntent _ =>
    cases hnext
    trivial
  | retrieve pushId paymentMethodId =>
    cases hnext
    exact hturn
  | setMethod pushId paymentMethod =>
    cases hnext
    exact h
  | createMethodIntent pushId customer =>
    cases hnext
    exact ⟨customer, h, List.getElem?_concat_length⟩
  | set _ _ | merge _ _ | mergeError _ _ => cases hnext

theorem SetupRun.ofUser_caught {run run' : SetupRun} {error : JsError}
    (h : run.caught error = some run') : run'.OfUser api s := by
  cases run <;> cases h <;> trivial

/-- In order, a call that takes effect is allowed. -/
theorem InOrder.allowed (h : InOrder api uid s) {n : ℕ} {run : SetupRun}
    (hrun : s.runs.running n = some run) : run.Allowed api uid s := by
  have hnot : ∀ intent ∈ run.secretOf, NotOlder api uid s intent :=
    fun intent hintent newer _ hnewer => (h.held n run hrun intent hintent).2 newer hnewer
  cases run with
  | createCustomer => exact h.fresh n _ hrun rfl
  | set customer intent => exact hnot intent rfl
  | merge pushId intent =>
    refine ⟨hnot intent rfl, fun hdone => ?_⟩
    -- there is one customer only
    obtain ⟨customer, ⟨c, hc, rfl⟩, hintent⟩ := h.ofUser n _ hrun
    obtain ⟨c', hc', -, -, hid, -⟩ := h.once.named hdone
    have hone := h.once.one
    have hsame : c = c' := by omega
    rw [hintent, hid, hsame]
  | createIntent _ | retrieve _ _ | setMethod _ _ | createMethodIntent _ _ | mergeError _ _ =>
    trivial

theorem InOrder.keepsSetup (h : InOrder api uid s) (e : SetupEvent) : KeepsSetup api uid s e := by
  cases e with
  | deliverUser => trivial
  | deliverMethod pushId snap => trivial
  | proceed n outcome =>
    intro _ run hrun
    exact h.allowed hrun

/-- What an effect leaves of the order, for the other runs and the document. -/
structure EffectKeeps (api : StripeSetup) (uid : String) (n : ℕ) (s t : SetupState) : Prop where
  runs : t.runs = s.runs
  customers : s.customers <+: t.customers
  intents : s.intents <+: t.intents
  fresh : ∀ m run, m ≠ n → s.runs.running m = some run → run.isFirst = true → t.customers = []
  behind : ∀ m run, m ≠ n → s.runs.running m = some run → ∀ intent ∈ run.secretOf,
    Behind api uid t intent
  known : ∀ i, fieldAt t.store (stripeCustomerRef uid) "setup_secret" =
    some (.string (api.clientSecret i)) → i < t.intents.length

theorem InOrder.effectKeeps_none (h : InOrder api uid s) (n : ℕ) : EffectKeeps api uid n s s where
  runs := rfl
  customers := List.prefix_rfl
  intents := List.prefix_rfl
  fresh := fun m run _ hm hfirst => h.fresh m run hm hfirst
  behind := fun m run _ hm intent hintent => (h.held m run hm intent hintent).2
  known := h.known

theorem InOrder.effectKeeps (h : InOrder api uid s) {n : ℕ} {run : SetupRun}
    (hrun : s.runs.running n = some run)
    (hturn : ∀ intent ∈ run.secretOf, OldestFirst s intent) (email : Option String) :
    EffectKeeps api uid n s (run.effect api uid email s) := by
  obtain ⟨hcustomers, hintents⟩ := run.effect_mono api uid email s
  have hsecret := secret_effect api uid email s run
  refine ⟨run.effect_runs api uid email s, hcustomers, hintents, ?_, ?_, ?_⟩
  · intro m run' hne hm hfirst
    cases run with
    | createCustomer => exact absurd (h.first m n run' _ hm hrun hfirst rfl) hne
    | _ => exact h.fresh m run' hm hfirst
  · intro m run' hne hm intent hintent i hi
    rw [hsecret] at hi
    cases hwritten : run.secretOf with
    | none =>
      rw [hwritten] at hi
      exact (h.held m run' hm intent hintent).2 i hi
    | some written =>
      -- the secret that is written is the oldest of those that wait
      rw [hwritten] at hi
      have heq : written = i :=
        api.clientSecret_injective (Value.string.inj (Option.some.inj hi))
      rw [← heq]
      exact hturn written hwritten m (InFlight.lt_started hm) run' hm intent hintent
  · intro i hi
    rw [hsecret] at hi
    have hlength := hintents.length_le
    cases hwritten : run.secretOf with
    | none =>
      rw [hwritten] at hi
      exact (h.known i hi).trans_le hlength
    | some written =>
      rw [hwritten] at hi
      have heq : written = i :=
        api.clientSecret_injective (Value.string.inj (Option.some.inj hi))
      rw [← heq]
      exact (h.held n run hrun written hwritten).1.trans_le hlength

/-- The run goes on, and the others are where they were. -/
theorem goOn_cases {n m : ℕ} {run run' : SetupRun} {next : Option SetupRun}
    (hrun : s.runs.running n = some run) (h : (s.goOn n next).runs.running m = some run') :
    m = n ∧ next = some run' ∨ m ≠ n ∧ s.runs.running m = some run' := by
  cases next with
  | none => exact Or.inr (InFlight.finish_cases h)
  | some next =>
    rcases InFlight.put_cases hrun h with ⟨hm, rfl⟩ | ⟨hm, h⟩
    · exact Or.inl ⟨hm, rfl⟩
    · exact Or.inr ⟨hm, h⟩

/-- A run that goes on after an effect keeps the order. -/
theorem InOrder.goOn {t : SetupState} (h : InOrder api uid s) {n : ℕ} {run : SetupRun}
    (hrun : s.runs.running n = some run) (hkeeps : EffectKeeps api uid n s t)
    {next : Option SetupRun} (hsound : RunsSound api (t.goOn n next))
    (honce : SetUpOnce api uid (t.goOn n next))
    (hnext : ∀ run', next = some run' → run'.isFirst = false ∧ run'.OfUser api t ∧
      ∀ intent ∈ run'.secretOf, intent < t.intents.length ∧ Behind api uid t intent) :
    InOrder api uid (t.goOn n next) := by
  have hruns : t.runs.running n = some run := by rw [hkeeps.runs, hrun]
  have hcases : ∀ m run', (t.goOn n next).runs.running m = some run' →
      m = n ∧ next = some run' ∨ m ≠ n ∧ s.runs.running m = some run' := by
    intro m run' hm
    have hm := goOn_cases hruns hm
    rwa [hkeeps.runs] at hm
  have hfirst : ∀ m run', (t.goOn n next).runs.running m = some run' → run'.isFirst = true →
      m ≠ n ∧ s.runs.running m = some run' := by
    intro m run' hm hfirst
    rcases hcases m run' hm with ⟨-, hrun'⟩ | hother
    · rw [(hnext run' hrun').1] at hfirst
      cases hfirst
    · exact hother
  have hstate : (t.goOn n next).customers = t.customers ∧ (t.goOn n next).intents = t.intents ∧
      (t.goOn n next).store = t.store := by
    cases next <;> exact ⟨rfl, rfl, rfl⟩
  obtain ⟨hcustomers, hintents, hstore⟩ := hstate
  refine ⟨hsound, honce, ?_, ?_, ?_, ?_, ?_⟩
  · intro m m' run₁ run₂ hm hm' hfirst₁ hfirst₂
    exact h.first m m' run₁ run₂ (hfirst m run₁ hm hfirst₁).2 (hfirst m' run₂ hm' hfirst₂).2
      hfirst₁ hfirst₂
  · intro m run' hm hfirst'
    obtain ⟨hne, hm⟩ := hfirst m run' hm hfirst'
    rw [hcustomers]
    exact hkeeps.fresh m run' hne hm hfirst'
  · intro m run' hm intent hintent
    simp only [Behind, hstore, hintents]
    rcases hcases m run' hm with ⟨-, hrun'⟩ | ⟨hne, hm⟩
    · exact (hnext run' hrun').2.2 intent hintent
    · exact ⟨(h.held m run' hm intent hintent).1.trans_le hkeeps.intents.length_le,
        hkeeps.behind m run' hne hm intent hintent⟩
  · rw [hstore, hintents]
    exact hkeeps.known
  · intro m run' hm
    have hprefix : t.customers <+: (t.goOn n next).customers ∧
        t.intents <+: (t.goOn n next).intents := by
      rw [hcustomers, hintents]
      exact ⟨List.prefix_rfl, List.prefix_rfl⟩
    rcases hcases m run' hm with ⟨-, hrun'⟩ | ⟨-, hm⟩
    · exact (hnext run' hrun').2.1.mono hprefix.1 hprefix.2
    · exact ((h.ofUser m run' hm).mono hkeeps.customers hkeeps.intents).mono hprefix.1 hprefix.2

/-- A delivery that the order allows keeps it. -/
theorem InOrder.start (h : InOrder api uid s) {run : SetupRun}
    (hrun : run.Sound api s ∧ run.OfUser api s ∧ run.secretOf = none)
    (hnone : run.isFirst = true → NoneThrough s) :
    InOrder api uid { s with runs := s.runs.start run } := by
  obtain ⟨hsound, hofUser, hsecret⟩ := hrun
  have hcases : ∀ n run', (s.runs.start run).running n = some run' →
      n = s.runs.started ∧ run' = run ∨ s.runs.running n = some run' :=
    fun n run' hn => InFlight.start_cases hn
  refine ⟨h.sound.start hsound, h.once.frame rfl List.prefix_rfl rfl rfl, ?_, ?_, ?_, h.known, ?_⟩
  · intro n m run₁ run₂ hn hm hfirst₁ hfirst₂
    have hold : ∀ k run', s.runs.running k = some run' → run'.isFirst = true →
        ¬ run.isFirst = true := by
      intro k run' hk hfirst hstart
      have hno := (hnone hstart).2 k (InFlight.lt_started hk) run' hk
      rw [hfirst] at hno
      cases hno
    rcases hcases n run₁ hn with ⟨hn₀, rfl⟩ | hold₁
    · rcases hcases m run₂ hm with ⟨hm₀, -⟩ | hm
      · exact hn₀.trans hm₀.symm
      · exact absurd hfirst₁ (hold m run₂ hm hfirst₂)
    · rcases hcases m run₂ hm with ⟨-, rfl⟩ | hm
      · exact absurd hfirst₂ (hold n run₁ hold₁ hfirst₁)
      · exact h.first n m run₁ run₂ hold₁ hm hfirst₁ hfirst₂
  · intro n run' hn hfirst
    rcases hcases n run' hn with ⟨-, rfl⟩ | hn
    · exact (hnone hfirst).1
    · exact h.fresh n run' hn hfirst
  · intro n run' hn intent hintent
    rcases hcases n run' hn with ⟨-, rfl⟩ | hn
    · rw [hsecret] at hintent
      cases hintent
    · exact h.held n run' hn intent hintent
  · intro n run' hn
    rcases hcases n run' hn with ⟨-, rfl⟩ | hn
    · exact hofUser.mono List.prefix_rfl List.prefix_rfl
    · exact (h.ofUser n run' hn).mono List.prefix_rfl List.prefix_rfl

/-- **An orderly step keeps the order.** -/
theorem inOrder_step {e : SetupEvent} (h : InOrder api uid s) (horderly : OrderlySetup api s e)
    (hstep : setupStep api uid email s e = some s') : InOrder api uid s' := by
  have hsound := runsSound_step h.sound hstep
  have honce := ((setUpOnce_step h.sound h.once hstep).mpr (h.keepsSetup e)).1
  cases e with
  | deliverUser =>
    obtain rfl := Option.some.inj hstep
    exact h.start ⟨trivial, trivial, rfl⟩ fun _ => horderly
  | deliverMethod pushId snap =>
    obtain rfl := Option.some.inj hstep
    exact h.start ⟨trivial, trivial, rfl⟩ fun hfirst => by cases hfirst
  | proceed n outcome =>
    obtain ⟨run, hrun, rfl⟩ := Option.map_eq_some_iff.mp hstep
    have hturn := horderly run hrun
    have hoffered : outcome.landed = true → ∀ intent ∈ run.secretOf, OldestFirst s intent := by
      intro hlanded intent hintent
      cases run <;> cases hintent <;> exact hturn hlanded
    cases outcome with
    | done answer =>
      have hkeeps := h.effectKeeps hrun (hoffered rfl) email
      refine h.goOn (t := { run.effect api uid email s with
        completed := s.completed || run.isSet }) hrun { hkeeps with } hsound honce ?_
      intro run' hrun'
      refine ⟨SetupRun.next_isFirst hrun', ?_, ?_⟩
      · exact ((h.ofUser n run hrun).next hturn hrun').mono List.prefix_rfl List.prefix_rfl
      · intro intent hintent
        obtain ⟨heq, hnone, hlength⟩ :=
          @SetupRun.next_secretOf api uid email s run run' answer intent hrun' hintent
        -- the document's secret is that of an intent before this one
        have hsecret := secret_effect api uid email s run
        rw [hnone] at hsecret
        refine ⟨by rw [hlength]; omega, fun i hi => ?_⟩
        rw [hsecret] at hi
        have hlt := h.known i hi
        omega
    | failed landed error =>
      have hcaught : ∀ (t : SetupState) run', run.caught error = some run' →
          run'.isFirst = false ∧ run'.OfUser api t ∧ ∀ intent ∈ run'.secretOf,
            intent < t.intents.length ∧ Behind api uid t intent := by
        intro t run' hrun'
        obtain ⟨hfirst, hnone⟩ := SetupRun.caught_isFirst hrun'
        refine ⟨hfirst, SetupRun.ofUser_caught hrun', fun intent hintent => ?_⟩
        rw [hnone] at hintent
        cases hintent
      cases landed with
      | false => exact h.goOn hrun (h.effectKeeps_none n) hsound honce (hcaught s)
      | true =>
        exact h.goOn hrun (h.effectKeeps hrun (hoffered rfl) email) hsound honce (hcaught _)

theorem inOrder_initial {store : Firestore}
    (hnew : ∀ i, fieldAt store (stripeCustomerRef uid) "setup_secret" ≠
      some (.string (api.clientSecret i))) :
    InOrder api uid (SetupState.initial store) where
  sound := runsSound_initial store
  once := setUpOnce_initial store
  first := fun n m run run' hn => by cases hn
  fresh := fun n run hn => by cases hn
  held := fun n run hn => by cases hn
  known := fun i hi => absurd hi (hnew i)
  ofUser := fun n run hn => by cases hn

end

/-- **In order, a user is set up once.**  Where the creation event of a new user is delivered
once, or again only after runs that have come to nothing in their first call, where the payment
methods are those of the user's customer, and where secrets are written in the order in which
their intents were made: in every run there is never a second customer, every completed run has
left a document that names the customer with a secret of his own, and no older secret is ever
written over a newer one.  Any call may fail, with or without effect. -/
theorem setUpOnce_of_orderly (api : StripeSetup) (uid : String) (email : Option String)
    (store : Firestore)
    (hnew : ∀ i, fieldAt store (stripeCustomerRef uid) "setup_secret" ≠
      some (.string (api.clientSecret i)))
    {es : List SetupEvent} {t : SetupState}
    (h : run (setupStep api uid email) (SetupState.initial store) es = some t)
    (horderly : Along (setupStep api uid email) (OrderlySetup api) (SetupState.initial store) es) :
    (∀ k s, run (setupStep api uid email) (SetupState.initial store) (es.take k) = some s →
        SetUpOnce api uid s) ∧
      Along (setupStep api uid email) (NeverOlder api uid) (SetupState.initial store) es := by
  refine (setup_iff api uid email store h).mpr ?_
  exact Along.of_invariant (InOrder api uid) (fun _ _ _ hs he hstep => inOrder_step hs he hstep)
    (fun _ e hs _ => hs.keepsSetup e) horderly (inOrder_initial hnew)

/-- Ids like those of Stripe. -/
def numberedSetup : StripeSetup where
  customerId n := "cus_" ++ n.repr
  clientSecret n := "seti_" ++ n.repr
  clientSecret_injective _ _ h := Nat.repr_injective ((String.append_right_inj _).mp h)

/-- A user signs up, and later adds a payment method. -/
def signUpThenMethod : List SetupEvent :=
  [.deliverUser, .proceed 0 (.done []), .proceed 0 (.done []), .proceed 0 (.done []),
    .deliverMethod "pm" Doc.empty, .proceed 1 (.done [("customer", .string "cus_0")]),
    .proceed 1 (.done []), .proceed 1 (.done []), .proceed 1 (.done [])]

theorem setUpOnce_signUp :
    ∃ t, run (setupStep numberedSetup "uid" none) (SetupState.initial ∅) signUpThenMethod = some t ∧
      (∀ k s, run (setupStep numberedSetup "uid" none) (SetupState.initial ∅)
          (signUpThenMethod.take k) = some s → SetUpOnce numberedSetup "uid" s) ∧
      Along (setupStep numberedSetup "uid" none) (NeverOlder numberedSetup "uid")
        (SetupState.initial ∅) signUpThenMethod := by
  have hsome : (run (setupStep numberedSetup "uid" none) (SetupState.initial ∅)
      signUpThenMethod).isSome := by decide +kernel
  obtain ⟨t, ht⟩ := Option.isSome_iff_exists.mp hsome
  exact ⟨t, ht, setUpOnce_of_orderly numberedSetup "uid" none ∅ (fun i hi => by cases hi) ht
    (by decide +kernel)⟩

/-! ## The event is delivered again -/

/-- **Two customers for one user.**  The first run fails when it asks for an intent, the event
is delivered again, and the second run makes its own customer. -/
theorem two_customers :
    ∃ t, run (setupStep numberedSetup "uid" none) (SetupState.initial ∅)
        [.deliverUser, .proceed 0 (.done []), .proceed 0 (.failed false ⟨none, "down"⟩),
          .deliverUser, .proceed 1 (.done []), .proceed 1 (.done []), .proceed 1 (.done [])] =
        some t ∧
      t.customers.length = 2 ∧ ¬ SetUpOnce numberedSetup "uid" t := by
  have hsome : (run (setupStep numberedSetup "uid" none) (SetupState.initial ∅)
      [.deliverUser, .proceed 0 (.done []), .proceed 0 (.failed false ⟨none, "down"⟩),
        .deliverUser, .proceed 1 (.done []), .proceed 1 (.done []), .proceed 1 (.done [])]).map
      (·.customers.length) = some 2 := by decide +kernel
  obtain ⟨t, ht, htwo⟩ := Option.map_eq_some_iff.mp hsome
  refine ⟨t, ht, htwo, fun honce => ?_⟩
  have hone := honce.one
  omega

/-! ## A run that nothing comes between -/

/-- The call comes to the same, with another answer. -/
def CallOutcome.answered {α β : Type} (answer : β) : CallOutcome α → CallOutcome β
  | .done _ => .done answer
  | .failed landed error => .failed landed error

/-- A run of `createStripeCustomer`, number `n`, from its delivery to its end. -/
def userRun (n : ℕ) : (create createIntent set : CallOutcome (List (String × Value))) →
    List SetupEvent
  | .done customer, .done intent, set =>
    [.deliverUser, .proceed n (.done customer), .proceed n (.done intent), .proceed n set]
  | .done customer, createIntent, _ =>
    [.deliverUser, .proceed n (.done customer), .proceed n createIntent]
  | create, _, _ => [.deliverUser, .proceed n create]

/-- A run of `addPaymentMethodDetails` whose writes succeed. -/
def methodRun (n : ℕ) (pushId : String) (snap : Doc) :
    (retrieve : Except JsError (List (String × Value))) → (createIntent : Option JsError) →
      List SetupEvent
  | .error error, _ =>
    [.deliverMethod pushId snap, .proceed n (.failed false error), .proceed n (.done [])]
  | .ok paymentMethod, some error =>
    [.deliverMethod pushId snap, .proceed n (.done paymentMethod), .proceed n (.done []),
      .proceed n (.failed false error), .proceed n (.done [])]
  | .ok paymentMethod, none =>
    [.deliverMethod pushId snap, .proceed n (.done paymentMethod), .proceed n (.done []),
      .proceed n (.done []), .proceed n (.done [])]

/-- **Alone, a run of `createStripeCustomer` leaves what `createStripeCustomer` says.** -/
theorem userRun_store (api : StripeSetup) (uid : String) (email : Option String) (s : SetupState)
    (create createIntent set : CallOutcome (List (String × Value))) :
    (run (setupStep api uid email) s (userRun s.runs.started create createIntent set)).map
        (·.store) =
      some (createStripeCustomer uid
        ⟨create.answered (api.customerId s.customers.length),
          createIntent.answered (api.clientSecret s.intents.length), set.answered ()⟩ s.store) := by
  have hcreate := s.runs.start_self SetupRun.createCustomer
  have hintent := InFlight.put_self hcreate (.createIntent s.customers.length)
  have hset := InFlight.put_self hintent (.set s.customers.length s.intents.length)
  cases create with
  | failed landed error =>
    cases landed <;>
    · simp [userRun, run, setupStep, proceedSetup, SetupRun.effect, SetupRun.caught,
        SetupState.goOn, CallOutcome.answered, createStripeCustomer]
  | done customer =>
    cases createIntent with
    | failed landed error =>
      cases landed <;>
      · simp [userRun, run, setupStep, proceedSetup, SetupRun.effect, SetupRun.caught,
          SetupRun.next, SetupState.goOn, CallOutcome.answered, createStripeCustomer, hintent]
    | done intent =>
      cases set with
      | done answer =>
        simp [userRun, run, setupStep, proceedSetup, SetupRun.effect, SetupRun.next,
          SetupState.goOn, CallOutcome.answered, createStripeCustomer, CallOutcome.landed, hintent,
          hset]
      | failed landed error =>
        cases landed <;>
        · simp [userRun, run, setupStep, proceedSetup, SetupRun.effect, SetupRun.caught,
            SetupRun.next, SetupState.goOn, CallOutcome.answered, createStripeCustomer,
            CallOutcome.landed, hintent, hset]

/-- What `stripe.setupIntents.create` answers with. -/
def setupSecret (secret : String) : Option JsError → Except JsError String
  | none => .ok secret
  | some error => .error error

/-- **Alone, a run of `addPaymentMethodDetails` leaves what `addPaymentMethodDetails` says.** -/
theorem methodRun_store (api : StripeSetup) (uid : String) (email : Option String)
    (s : SetupState) (pushId : String) (snap : Doc)
    (retrieve : Except JsError (List (String × Value))) (createIntent : Option JsError) :
    (run (setupStep api uid email) s
        (methodRun s.runs.started pushId snap retrieve createIntent)).map (·.store) =
      some (addPaymentMethodDetails (fun _ => retrieve)
        (fun _ => setupSecret (api.clientSecret s.intents.length) createIntent)
        (stripePaymentMethodRef uid pushId) snap s.store) := by
  have hretrieve := s.runs.start_self (SetupRun.retrieve pushId (snap "id"))
  have hparent : (stripePaymentMethodRef uid pushId).dropLast.dropLast = stripeCustomerRef uid :=
    rfl
  cases retrieve with
  | error error =>
    have herror := InFlight.put_self hretrieve (.mergeError pushId error)
    simp [methodRun, run, setupStep, proceedSetup, SetupRun.effect, SetupRun.caught,
      SetupRun.next, SetupState.goOn, addPaymentMethodDetails, herror]
  | ok paymentMethod =>
    have hset := InFlight.put_self hretrieve (.setMethod pushId paymentMethod)
    have hintent := InFlight.put_self hset
      (.createMethodIntent pushId (paymentMethod.lookup "customer"))
    cases createIntent with
    | some error =>
      have herror := InFlight.put_self hintent (.mergeError pushId error)
      simp [methodRun, run, setupStep, proceedSetup, SetupRun.effect, SetupRun.caught,
        SetupRun.next, SetupState.goOn, addPaymentMethodDetails, setupSecret, hset, hintent,
        herror]
    | none =>
      have hmerge := InFlight.put_self hintent (.merge pushId s.intents.length)
      simp [methodRun, run, setupStep, proceedSetup, SetupRun.effect, SetupRun.next,
        SetupState.goOn, addPaymentMethodDetails, setupSecret, hset, hintent, hmerge, hparent]

end Lidora
