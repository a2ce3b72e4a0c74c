import Lidora.AccountLife

/-! # Who holds a customer of Stripe

What `cleanupUser` deletes is the customer that the user's document names.  So a customer
can be got at while a run of `createStripeCustomer` goes on with it, while the document names
it, or while a run of `cleanupUser` that has read it is about to delete it.  `holds` counts
these; a customer whom Stripe has and nobody holds is stray.

A call of either function lets go of a hold (`LetsGo`), passes it on, or adds one for a
customer that is held already (`HoldStep`).
-/
namespace Lidora
open DocumentStore Runs

section
variable (api : StripeSetup) (uid : String)

/-- The document names this customer. -/
def Named (c : ℕ) (store : Firestore) : Prop :=
  fieldAt store (stripeCustomerRef uid) "customer_id" = some (.string (api.customerId c))

instance (c : ℕ) (store : Firestore) : Decidable (Named api uid c store) :=
  inferInstanceAs (Decidable (fieldAt _ _ _ = _))

/-- A run of `createStripeCustomer` goes on with the customer. -/
def SetupRun.holds (c : ℕ) : SetupRun → Bool
  | .createIntent customer | .set customer _ => customer = c
  | _ => false

/-- A run of `cleanupUser` is about to delete the customer. -/
def CleanupRun.holds (c : ℕ) : CleanupRun → Bool
  | .del id => id = some (.string (api.customerId c))
  | _ => false

/-- On how many sides the customer can be got at. -/
def holds (c : ℕ) (s : AccountLife) : ℕ :=
  s.setup.runs.count (·.holds c) + s.cleanups.count (·.holds api c) +
    if Named api uid c s.setup.store then 1 else 0

/-- Stripe has deleted the customer. -/
def Gone (c : ℕ) (s : AccountLife) : Prop := some (.string (api.customerId c)) ∈ s.deleted

instance (c : ℕ) (s : AccountLife) : Decidable (Gone api c s) :=
  inferInstanceAs (Decidable (_ ∈ _))

/-- **The customer is stray**: Stripe has it, and nobody can get at it. -/
def Stray (c : ℕ) (s : AccountLife) : Prop :=
  c < s.setup.customers.length ∧ ¬ Gone api c s ∧ holds api uid c s = 0

/-- What a call of `createStripeCustomer` comes to lets go of the customer. -/
def SetupRun.LetsGo {α : Type} (c : ℕ) (s : AccountLife) : SetupRun → CallOutcome α → Prop
  | .createIntent customer, .failed _ _ => customer = c
  | .set customer _, outcome =>
    if outcome.landed then Named api uid c s.setup.store else customer = c
  | _, _ => False

/-- The same for a call of `cleanupUser`. -/
def CleanupRun.LetsGo {α : Type} (c : ℕ) (s : AccountLife) (outcome : CallOutcome α) :
    CleanupRun → Prop
  | .del id => id = some (.string (api.customerId c)) ∧ outcome.landed = false
  | .delete => outcome.landed = true ∧ Named api uid c s.setup.store
  | .get | .query => False

instance {α : Type} (c : ℕ) (s : AccountLife) :
    (run : SetupRun) → (outcome : CallOutcome α) → Decidable (run.LetsGo api uid c s outcome)
  | .createIntent customer, .failed _ _ => inferInstanceAs (Decidable (customer = c))
  | .set customer _, outcome => inferInstanceAs (Decidable
      (if outcome.landed then Named api uid c s.setup.store else customer = c))
  | .createIntent _, .done _ | .createCustomer, _ | .retrieve _ _, _ | .setMethod _ _, _
  | .createMethodIntent _ _, _ | .merge _ _, _ | .mergeError _ _, _ => isFalse id

instance {α : Type} (c : ℕ) (s : AccountLife) (outcome : CallOutcome α) :
    (run : CleanupRun) → Decidable (run.LetsGo api uid c s outcome)
  | .del _ | .delete => inferInstanceAs (Decidable (_ ∧ _))
  | .get | .query => isFalse id

/-- The step lets go of one hold on the customer. -/
def LetsGo (c : ℕ) (s : AccountLife) : LifeEvent → Prop
  | .setup (.proceed n outcome) =>
    ∃ run ∈ s.setup.runs.running n, run.LetsGo api uid c s outcome
  | .cleanup n outcome => ∃ run ∈ s.cleanups.running n, run.LetsGo api uid c s outcome
  | _ => False

/-- The run waits for `stripe.customers.create`. -/
def SetupRun.makes : SetupRun → Bool
  | .createCustomer => true
  | _ => false

/-- The step makes a customer, and ends the run for which it is made. -/
def MakesInVain (s : AccountLife) : LifeEvent → Prop
  | .setup (.proceed n (.failed true _)) => ∃ run ∈ s.setup.runs.running n, run.makes = true
  | _ => False

/-- **The step makes a customer stray**: it lets go of the only hold on it, or there never
is one. -/
def Strays (s : AccountLife) (e : LifeEvent) : Prop :=
  (∃ c < s.setup.customers.length, ¬ Gone api c s ∧ holds api uid c s = 1 ∧ LetsGo api uid c s e) ∨
    (MakesInVain s e ∧ ¬ Gone api s.setup.customers.length s ∧
      holds api uid s.setup.customers.length s = 0)

instance (c : ℕ) (s : AccountLife) : (e : LifeEvent) → Decidable (LetsGo api uid c s e)
  | .setup (.proceed n _) => inferInstanceAs (Decidable (∃ run ∈ s.setup.runs.running n, _))
  | .cleanup n _ => inferInstanceAs (Decidable (∃ run ∈ s.cleanups.running n, _))
  | .setup .deliverUser | .setup (.deliverMethod _ _) | .deliverDeletion | .methodDeleted _ _ =>
    isFalse id

instance (s : AccountLife) : (e : LifeEvent) → Decidable (MakesInVain s e)
  | .setup (.proceed n (.failed true _)) =>
    inferInstanceAs (Decidable (∃ run ∈ s.setup.runs.running n, _))
  | .setup (.proceed _ (.failed false _)) | .setup (.proceed _ (.done _))
  | .setup .deliverUser | .setup (.deliverMethod _ _) | .cleanup _ _ | .deliverDeletion
  | .methodDeleted _ _ => isFalse id

instance (s : AccountLife) (e : LifeEvent) : Decidable (Strays api uid s e) :=
  inferInstanceAs (Decidable (_ ∨ _))

end

/-! ## What a step does to the holds on a customer -/

section
variable {api : StripeSetup} {uid : String} {email : Option String} {c : ℕ} {s s' : AccountLife}

/-- What a step does to the holds on a customer. -/
inductive HoldStep (api : StripeSetup) (uid : String) (c : ℕ) (s s' : AccountLife) (e : LifeEvent) :
    Prop
  | kept (hnot : ¬ LetsGo api uid c s e) (hgone : Gone api c s' → Gone api c s)
      (hholds : holds api uid c s' = holds api uid c s)
  | gained (hnot : ¬ LetsGo api uid c s e) (hgone : Gone api c s' → Gone api c s)
      (hheld : 0 < holds api uid c s) (hholds : holds api uid c s' = holds api uid c s + 1)
  | letGo (hgo : LetsGo api uid c s e) (hgone : Gone api c s' → Gone api c s)
      (hholds : holds api uid c s' + 1 = holds api uid c s)
  | deleted (hnot : ¬ LetsGo api uid c s e) (hgone : Gone api c s')
      (hheld : 0 < holds api uid c s)

/-- Only the `set` of the customer's document changes whom it names. -/
theorem named_effect (api : StripeSetup) (uid : String) (c : ℕ) (email : Option String)
    (setup : SetupState) {run : SetupRun} (hset : run.isSet = false) :
    Named api uid c (run.effect api uid email setup).store ↔ Named api uid c setup.store := by
  cases run with
  | set customer intent => cases hset
  | merge pushId intent =>
    simp only [Named, SetupRun.effect]
    rw [fieldAt_setMerge _ _ _ (by rfl)]
  | setMethod pushId paymentMethod =>
    simp only [Named, SetupRun.effect, fieldAt, Firestore.setData]
    rw [Finmap.lookup_insert_of_ne _ (stripePaymentMethodRef_ne uid pushId)]
  | mergeError pushId error =>
    simp only [Named, SetupRun.effect, fieldAt, Firestore.setMerge]
    rw [Finmap.lookup_insert_of_ne _ (stripePaymentMethodRef_ne uid pushId)]
  | _ => rfl

/-- The document that is set names the customer it is set for. -/
theorem named_set (hids : Function.Injective api.customerId) (email : Option String)
    (setup : SetupState) (customer intent : ℕ) :
    Named api uid c ((SetupRun.set customer intent).effect api uid email setup).store ↔
      customer = c := by
  have hfield : fieldAt ((SetupRun.set customer intent).effect api uid email setup).store
      (stripeCustomerRef uid) "customer_id" = some (.string (api.customerId customer)) := by
    simp only [SetupRun.effect, fieldAt, Firestore.setData, Finmap.lookup_insert]
    rfl
  rw [Named, hfield, Option.some.injEq, Value.string.injEq]
  exact hids.eq_iff

/-- A part of a run of `createStripeCustomer`: what it gives up, and what it takes. -/
theorem holds_setup (api : StripeSetup) (uid : String) (c : ℕ) {n : ℕ} {run : SetupRun}
    (hrun : s.setup.runs.running n = some run) (setup : SetupState)
    (hruns : setup.runs = s.setup.runs) (next : Option SetupRun) :
    holds api uid c { s with setup := setup.goOn n next } + (if run.holds c = true then 1 else 0) +
        (if Named api uid c s.setup.store then 1 else 0) =
      holds api uid c s + (if next.any (·.holds c) = true then 1 else 0) +
        if Named api uid c setup.store then 1 else 0 := by
  cases next with
  | none =>
    have hcount := InFlight.count_finish (fun run : SetupRun => run.holds c) hrun
    simp only [holds, SetupState.goOn, hruns]
    simp only [Option.any_none, Bool.false_eq_true, if_false]
    omega
  | some next =>
    have hcount := InFlight.count_put (fun run : SetupRun => run.holds c) hrun next
    simp only [holds, SetupState.goOn, hruns]
    simp only [Option.any_some]
    omega

/-- The event is a part of this run: it lets go where the run does. -/
theorem letsGo_setup (api : StripeSetup) (uid : String) (c : ℕ) {n : ℕ} {run : SetupRun}
    (hrun : s.setup.runs.running n = some run) (outcome : CallOutcome (List (String × Value))) :
    LetsGo api uid c s (.setup (.proceed n outcome)) ↔ run.LetsGo api uid c s outcome := by
  simp [LetsGo, hrun]

/-- Calls that neither hold a customer nor take one. -/
theorem holdStep_of_idle {n : ℕ} {run : SetupRun} (hrun : s.setup.runs.running n = some run)
    {outcome : CallOutcome (List (String × Value))} (setup : SetupState) (next : Option SetupRun)
    (hruns : setup.runs = s.setup.runs)
    (hnot : ¬ run.LetsGo api uid c s outcome) (hsame : next.any (·.holds c) = run.holds c)
    (hnamed : Named api uid c setup.store ↔ Named api uid c s.setup.store) :
    HoldStep api uid c s { s with setup := setup.goOn n next } (.setup (.proceed n outcome)) := by
  refine .kept ((letsGo_setup api uid c hrun outcome).not.mpr hnot) id ?_
  have hsum := holds_setup api uid c hrun setup hruns next
  simp only [hsame, hnamed] at hsum
  omega

/-- The `set` of the customer's document lets go of whom the document has named; if it fails,
of the customer that it was for. -/
theorem holdStep_set (hids : Function.Injective api.customerId) {n customer intent : ℕ}
    (hrun : s.setup.runs.running n = some (.set customer intent))
    (outcome : CallOutcome (List (String × Value))) :
    HoldStep api uid c s
      { s with setup := proceedSetup api uid email s.setup n (.set customer intent) outcome }
      (.setup (.proceed n outcome)) := by
  have hgo := letsGo_setup api uid c hrun outcome
  obtain ⟨setup, hsetup, hruns, hnamed⟩ : ∃ setup : SetupState,
      proceedSetup api uid email s.setup n (.set customer intent) outcome = setup.goOn n none ∧
      setup.runs = s.setup.runs ∧ (Named api uid c setup.store ↔
        if outcome.landed then customer = c else Named api uid c s.setup.store) := by
    cases outcome with
    | done answer => exact ⟨_, rfl, rfl, named_set hids email s.setup customer intent⟩
    | failed landed error =>
      cases landed with
      | true => exact ⟨_, rfl, rfl, named_set hids email s.setup customer intent⟩
      | false => exact ⟨s.setup, rfl, rfl, Iff.rfl⟩
  rw [hsetup]
  have hsum := holds_setup api uid c hrun setup hruns none
  simp only [SetupRun.holds, decide_eq_true_eq, Option.any_none, Bool.false_eq_true, if_false,
    hnamed] at hsum
  simp only [SetupRun.LetsGo] at hgo
  by_cases hlanded : outcome.landed = true
  · simp only [if_pos hlanded] at hsum hgo
    by_cases hnow : Named api uid c s.setup.store
    · rw [if_pos hnow] at hsum
      exact .letGo (hgo.mpr hnow) id (by omega)
    · rw [if_neg hnow] at hsum
      exact .kept (hgo.not.mpr hnow) id (by omega)
  · simp only [if_neg hlanded] at hsum hgo
    by_cases hc : customer = c
    · rw [if_pos hc] at hsum
      exact .letGo (hgo.mpr hc) id (by omega)
    · rw [if_neg hc] at hsum
      exact .kept (hgo.not.mpr hc) id (by omega)

/-- After a call that has succeeded, a run holds whom it has held. -/
theorem holds_next {setup : SetupState} (hc : c < setup.customers.length) {run : SetupRun}
    (hset : run.isSet = false) (answer : List (String × Value)) :
    (run.next setup answer).any (·.holds c) = run.holds c := by
  cases run with
  | set customer intent => cases hset
  | createCustomer =>
    have hne : setup.customers.length ≠ c := by omega
    simp [SetupRun.next, SetupRun.holds, hne]
  | _ => rfl

/-- A run that fails holds nobody. -/
theorem holds_caught (error : JsError) (run : SetupRun) :
    (run.caught error).any (·.holds c) = false := by
  cases run <;> rfl

/-- A part of a run of `createStripeCustomer` or `addPaymentMethodDetails`. -/
theorem holdStep_proceedSetup (hids : Function.Injective api.customerId)
    (hc : c < s.setup.customers.length) {n : ℕ} {run : SetupRun}
    (hrun : s.setup.runs.running n = some run) (outcome : CallOutcome (List (String × Value))) :
    HoldStep api uid c s
      { s with setup := proceedSetup api uid email s.setup n run outcome }
      (.setup (.proceed n outcome)) := by
  have hruns : (run.effect api uid email s.setup).runs = s.setup.runs :=
    run.effect_runs api uid email s.setup
  cases hset : run.isSet with
  | true =>
    cases run with
    | set customer intent => exact holdStep_set hids hrun outcome
    | _ => cases hset
  | false =>
    have hnamed := named_effect api uid c email s.setup hset
    cases outcome with
    | done answer =>
      refine holdStep_of_idle hrun { run.effect api uid email s.setup with
        completed := s.setup.completed || run.isSet } (run.next s.setup answer) hruns ?_
        (holds_next hc hset answer) hnamed
      cases run <;> first | exact id | cases hset
    | failed landed error =>
      obtain ⟨setup, hsetup, hsame, hsameNamed⟩ : ∃ setup : SetupState,
          proceedSetup api uid email s.setup n run (.failed landed error) =
            setup.goOn n (run.caught error) ∧ setup.runs = s.setup.runs ∧
          (Named api uid c setup.store ↔ Named api uid c s.setup.store) := by
        cases landed with
        | true => exact ⟨_, rfl, hruns, hnamed⟩
        | false => exact ⟨_, rfl, rfl, Iff.rfl⟩
      rw [hsetup]
      by_cases hholds : run.holds c = true
      · -- the run asks for an intent, and ends
        have hgo : LetsGo api uid c s (.setup (.proceed n (.failed landed error))) := by
          refine (letsGo_setup api uid c hrun _).mpr ?_
          cases run with
          | createIntent customer =>
            have hmine : customer = c := by simpa [SetupRun.holds] using hholds
            exact hmine
          | set customer intent => cases hset
          | _ => cases hholds
        have hsum := holds_setup api uid c hrun setup hsame (run.caught error)
        simp only [hholds, holds_caught, hsameNamed, Bool.false_eq_true, if_false, if_true] at hsum
        exact .letGo hgo id (by omega)
      · refine holdStep_of_idle hrun setup (run.caught error) hsame ?_ ?_ hsameNamed
        · cases run with
          | createIntent customer =>
            intro hgo
            have hmine : customer = c := hgo
            exact hholds (by simp [SetupRun.holds, hmine])
          | set customer intent => cases hset
          | _ => exact id
        · rw [holds_caught, Bool.eq_false_iff.mpr hholds]

/-- A part of a run of `cleanupUser`: what it gives up, and what it takes. -/
theorem holds_cleanup (api : StripeSetup) (uid : String) (c : ℕ) {n : ℕ} {run : CleanupRun}
    (hrun : s.cleanups.running n = some run) (hsetup : s'.setup.runs = s.setup.runs)
    (hcleanups : s'.cleanups = s.cleanups) (next : Option CleanupRun) :
    holds api uid c (s'.goOn n next) + (if run.holds api c = true then 1 else 0) +
        (if Named api uid c s.setup.store then 1 else 0) =
      holds api uid c s + (if next.any (·.holds api c) = true then 1 else 0) +
        if Named api uid c s'.setup.store then 1 else 0 := by
  cases next with
  | none =>
    have hcount := InFlight.count_finish (fun run : CleanupRun => run.holds api c) hrun
    simp only [holds, AccountLife.goOn, hsetup, hcleanups]
    simp only [Option.any_none, Bool.false_eq_true, if_false]
    omega
  | some next =>
    have hcount := InFlight.count_put (fun run : CleanupRun => run.holds api c) hrun next
    simp only [holds, AccountLife.goOn, hsetup, hcleanups]
    simp only [Option.any_some]
    omega

theorem gone_goOn {n : ℕ} {next : Option CleanupRun} : Gone api c (s.goOn n next) ↔ Gone api c s := by
  cases next <;> exact Iff.rfl

theorem letsGo_cleanup (api : StripeSetup) (uid : String) (c : ℕ) {n : ℕ} {run : CleanupRun}
    (hrun : s.cleanups.running n = some run) (outcome : CallOutcome Unit) :
    LetsGo api uid c s (.cleanup n outcome) ↔ run.LetsGo api uid c s outcome := by
  simp [LetsGo, hrun]

/-- The read of the customer's document: the run goes on with the customer that it names. -/
theorem holdStep_get {n : ℕ} (hrun : s.cleanups.running n = some .get)
    (outcome : CallOutcome Unit) :
    HoldStep api uid c s (proceedCleanup uid s n .get outcome) (.cleanup n outcome) := by
  have hnot : ¬ LetsGo api uid c s (.cleanup n outcome) :=
    (letsGo_cleanup api uid c hrun outcome).not.mpr id
  have hidle : CleanupRun.get.holds api c = false := rfl
  cases outcome with
  | done answer =>
    have hstep : proceedCleanup uid s n .get (.done answer) =
        s.goOn n (CleanupRun.get.next uid s) := by
      simp [proceedCleanup, CleanupRun.effect, CleanupRun.sends]
    rw [hstep]
    have hsum := holds_cleanup api uid c hrun rfl rfl (CleanupRun.get.next uid s)
    by_cases hnow : Named api uid c s.setup.store
    · have hread : (CleanupRun.get.next uid s).any (·.holds api c) = true := by
        obtain ⟨d, hd, hid⟩ := Option.bind_eq_some_iff.mp hnow
        simp [CleanupRun.next, hd, CleanupRun.holds, hid]
      have hheld : 0 < holds api uid c s := by
        simp only [holds, if_pos hnow]
        omega
      simp only [hidle, hread, Bool.false_eq_true, if_false, if_true] at hsum
      exact .gained hnot gone_goOn.mp hheld (by omega)
    · have hread : (CleanupRun.get.next uid s).any (·.holds api c) = false := by
        rw [Option.any_eq_false]
        intro run hnext
        obtain ⟨d, hd, rfl⟩ := Option.map_eq_some_iff.mp hnext
        simpa [Named, fieldAt, hd, CleanupRun.holds] using hnow
      simp only [hidle, hread, Bool.false_eq_true, if_false] at hsum
      exact .kept hnot gone_goOn.mp (by omega)
  | failed landed error =>
    have hstep : proceedCleanup uid s n .get (.failed landed error) = s.goOn n none := by
      cases landed <;> rfl
    rw [hstep]
    have hsum := holds_cleanup api uid c hrun rfl rfl none
    simp only [hidle, Option.any_none, Bool.false_eq_true, if_false] at hsum
    exact .kept hnot gone_goOn.mp (by omega)

/-- Stripe deletes a customer. -/
theorem holdStep_del {n : ℕ} {id : Option Value} (hrun : s.cleanups.running n = some (.del id))
    {outcome : CallOutcome Unit} (hlanded : outcome.landed = true) :
    HoldStep api uid c s (proceedCleanup uid s n (.del id) outcome) (.cleanup n outcome) := by
  have hnot : ¬ LetsGo api uid c s (.cleanup n outcome) := by
    rw [letsGo_cleanup api uid c hrun outcome]
    rintro ⟨-, hfailed⟩
    rw [hlanded] at hfailed
    cases hfailed
  obtain ⟨s', next, hstep, hsetup, hcleanups, hdeleted, hnext⟩ :
      ∃ (s' : AccountLife) (next : Option CleanupRun),
        proceedCleanup uid s n (.del id) outcome = s'.goOn n next ∧ s'.setup = s.setup ∧
        s'.cleanups = s.cleanups ∧ s'.deleted = id :: s.deleted ∧
        next.any (·.holds api c) = false := by
    cases outcome with
    | done answer => exact ⟨_, some .query, rfl, rfl, rfl, rfl, rfl⟩
    | failed landed error =>
      cases landed with
      | true => exact ⟨_, none, rfl, rfl, rfl, rfl, rfl⟩
      | false => cases hlanded
  rw [hstep]
  by_cases hmine : id = some (.string (api.customerId c))
  · have hsum := holds_cleanup api uid c hrun (by rw [hsetup]) hcleanups next
    have hheld : (CleanupRun.del id).holds api c = true := by simp [CleanupRun.holds, hmine]
    simp only [hheld, hnext, hsetup, Bool.false_eq_true, if_false, if_true] at hsum
    refine .deleted hnot (gone_goOn.mpr ?_) (by omega)
    rw [Gone, hdeleted, hmine]
    exact List.mem_cons_self
  · have hsum := holds_cleanup api uid c hrun (by rw [hsetup]) hcleanups next
    have hother : (CleanupRun.del id).holds api c = false := by simp [CleanupRun.holds, hmine]
    simp only [hother, hnext, hsetup, Bool.false_eq_true, if_false] at hsum
    refine .kept hnot (fun hgone => ?_) (by omega)
    have hgone := gone_goOn.mp hgone
    rw [Gone, hdeleted, List.mem_cons] at hgone
    exact hgone.resolve_left fun heq => hmine heq.symm

/-- Stripe does not delete the customer, and the run ends. -/
theorem holdStep_refused {n : ℕ} {id : Option Value}
    (hrun : s.cleanups.running n = some (.del id)) {outcome : CallOutcome Unit}
    (hlanded : outcome.landed = false) :
    HoldStep api uid c s (proceedCleanup uid s n (.del id) outcome) (.cleanup n outcome) := by
  have hgo := letsGo_cleanup api uid c hrun outcome
  have hstep : proceedCleanup uid s n (.del id) outcome = s.goOn n none := by
    cases outcome with
    | done answer => cases hlanded
    | failed landed error =>
      cases landed with
      | true => cases hlanded
      | false => rfl
  rw [hstep]
  have hsum := holds_cleanup api uid c hrun rfl rfl none
  by_cases hmine : id = some (.string (api.customerId c))
  · have hheld : (CleanupRun.del id).holds api c = true := by simp [CleanupRun.holds, hmine]
    simp only [hheld, Option.any_none, Bool.false_eq_true, if_false, if_true] at hsum
    exact .letGo (hgo.mpr ⟨hmine, hlanded⟩) gone_goOn.mp (by omega)
  · have hother : (CleanupRun.del id).holds api c = false := by simp [CleanupRun.holds, hmine]
    simp only [hother, Option.any_none, Bool.false_eq_true, if_false] at hsum
    exact .kept (hgo.not.mpr fun hlets => hmine hlets.1) gone_goOn.mp (by omega)

/-- The query for the payment methods. -/
theorem holdStep_query {n : ℕ} (hrun : s.cleanups.running n = some .query)
    (outcome : CallOutcome Unit) :
    HoldStep api uid c s (proceedCleanup uid s n .query outcome) (.cleanup n outcome) := by
  obtain ⟨s', next, hstep, hsetup, hcleanups, hdeleted, hnext⟩ :
      ∃ (s' : AccountLife) (next : Option CleanupRun),
        proceedCleanup uid s n .query outcome = s'.goOn n next ∧ s'.setup = s.setup ∧
        s'.cleanups = s.cleanups ∧ s'.deleted = s.deleted ∧
        next.any (·.holds api c) = false := by
    cases outcome with
    | done answer => exact ⟨_, some .delete, rfl, rfl, rfl, rfl, rfl⟩
    | failed landed error => cases landed <;> exact ⟨_, none, rfl, rfl, rfl, rfl, rfl⟩
  rw [hstep]
  have hsum := holds_cleanup api uid c hrun (by rw [hsetup]) hcleanups next
  have hidle : CleanupRun.query.holds api c = false := rfl
  simp only [hidle, hnext, hsetup, Bool.false_eq_true, if_false] at hsum
  refine .kept ((letsGo_cleanup api uid c hrun outcome).not.mpr id) (fun hgone => ?_) (by omega)
  have hgone := gone_goOn.mp hgone
  rwa [Gone, hdeleted] at hgone

/-- The customer's document is deleted, or not. -/
theorem holdStep_delete {n : ℕ} (hrun : s.cleanups.running n = some .delete)
    (outcome : CallOutcome Unit) :
    HoldStep api uid c s (proceedCleanup uid s n .delete outcome) (.cleanup n outcome) := by
  have hgo := letsGo_cleanup api uid c hrun outcome
  have herased : ¬ Named api uid c (s.setup.store.erase (stripeCustomerRef uid)) := by
    simp [Named, fieldAt, Finmap.lookup_erase]
  obtain ⟨s', hstep, hruns, hcleanups, hdeleted, hnamed⟩ : ∃ s' : AccountLife,
      proceedCleanup uid s n .delete outcome = s'.goOn n none ∧
      s'.setup.runs = s.setup.runs ∧ s'.cleanups = s.cleanups ∧ s'.deleted = s.deleted ∧
      (Named api uid c s'.setup.store ↔
        outcome.landed = false ∧ Named api uid c s.setup.store) := by
    cases outcome with
    | done answer =>
      exact ⟨_, rfl, rfl, rfl, rfl, iff_of_false herased fun hkept => by cases hkept.1⟩
    | failed landed error =>
      cases landed with
      | true =>
        exact ⟨_, rfl, rfl, rfl, rfl, iff_of_false herased fun hkept => by cases hkept.1⟩
      | false => exact ⟨s, rfl, rfl, rfl, rfl, (and_iff_right rfl).symm⟩
  rw [hstep]
  have hsum := holds_cleanup api uid c hrun hruns hcleanups none
  have hidle : CleanupRun.delete.holds api c = false := rfl
  have hgone : Gone api c (s'.goOn n none) → Gone api c s := by
    intro hgone
    have hgone := gone_goOn.mp hgone
    rwa [Gone, hdeleted] at hgone
  simp only [hidle, Option.any_none, Bool.false_eq_true, if_false, hnamed] at hsum
  by_cases hlets : outcome.landed = true ∧ Named api uid c s.setup.store
  · rw [if_pos hlets.2, if_neg (by simp [hlets.1])] at hsum
    exact .letGo (hgo.mpr hlets) hgone (by omega)
  · refine .kept (hgo.not.mpr hlets) hgone ?_
    by_cases hnow : Named api uid c s.setup.store
    · have hlanded : outcome.landed = false :=
        Bool.eq_false_iff.mpr fun hlanded => hlets ⟨hlanded, hnow⟩
      rw [if_pos hnow, if_pos ⟨hlanded, hnow⟩] at hsum
      omega
    · rw [if_neg hnow, if_neg fun hkept => hnow hkept.2] at hsum
      omega

/-- A part of a run of `cleanupUser`. -/
theorem holdStep_proceedCleanup {n : ℕ} {run : CleanupRun} (hrun : s.cleanups.running n = some run)
    (outcome : CallOutcome Unit) :
    HoldStep api uid c s (proceedCleanup uid s n run outcome) (.cleanup n outcome) := by
  cases run with
  | get => exact holdStep_get hrun outcome
  | del id =>
    cases hlanded : outcome.landed with
    | true => exact holdStep_del hrun hlanded
    | false => exact holdStep_refused hrun hlanded
  | query => exact holdStep_query hrun outcome
  | delete => exact holdStep_delete hrun outcome

end

end Lidora
