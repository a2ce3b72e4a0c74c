import Lidora.CustomerHolds

/-! # Stray customers of Stripe

A customer whom nobody holds is never deleted, whatever is delivered later (`stray_forever`).

`never_stray_iff` says which steps make one, namely those that let go of the last hold on a
customer: a run of `createStripeCustomer` fails after the customer has been made, a second run
writes over the name of the first one's customer, or `cleanupUser` deletes a document that has
come to name another customer than the one it has deleted.  Without such a step, nobody is left
in the end but the one whom the document names (`none_left_at_rest`).
-/
namespace Lidora
open DocumentStore Runs

section
variable {api : StripeSetup} {uid : String} {email : Option String} {c : ℕ} {s s' : AccountLife}

/-- The deletes that nobody waits for are of payment methods. -/
def DeletesMethods (uid : String) (s : AccountLife) : Prop :=
  ∀ p ∈ s.deletes, p ≠ stripeCustomerRef uid

theorem ne_of_mem_documents {store : Firestore} {p : Path}
    (h : p ∈ store.documents (stripePaymentMethodsRef uid)) : p ≠ stripeCustomerRef uid := by
  obtain ⟨id, rfl⟩ := Firestore.inCollection_iff.mp (Firestore.mem_documents.mp h).1
  simp [stripePaymentMethodsRef, stripeCustomerRef]

theorem deletes_goOn {n : ℕ} {next : Option CleanupRun} : (s.goOn n next).deletes = s.deletes := by
  cases next <;> rfl

theorem deletes_effect (uid : String) (s : AccountLife) (run : CleanupRun) :
    (run.effect uid s).deletes = s.deletes := by
  cases run <;> rfl

/-- A delete has been sent off before, or is sent off now. -/
theorem mem_deletes_of_proceed {n : ℕ} {run : CleanupRun} {outcome : CallOutcome Unit} {p : Path}
    (h : p ∈ (proceedCleanup uid s n run outcome).deletes) :
    p ∈ s.deletes ∨ p ∈ run.sends uid s := by
  cases outcome with
  | done answer =>
    simp only [proceedCleanup, deletes_goOn] at h
    exact List.mem_append.mp h
  | failed landed error =>
    simp only [proceedCleanup, deletes_goOn] at h
    split at h
    · rw [deletes_effect] at h
      exact Or.inl h
    · exact Or.inl h

theorem deletesMethods_step (h : DeletesMethods uid s) {e : LifeEvent}
    (hstep : lifeStep api uid email s e = some s') : DeletesMethods uid s' := by
  cases e with
  | setup e =>
    obtain ⟨setup, -, rfl⟩ := Option.map_eq_some_iff.mp hstep
    exact h
  | deliverDeletion =>
    cases hstep
    exact h
  | cleanup n outcome =>
    obtain ⟨run, hrun, rfl⟩ := Option.map_eq_some_iff.mp hstep
    intro p hp
    rcases mem_deletes_of_proceed hp with hp | hp
    · exact h p hp
    · cases run with
      | query => exact ne_of_mem_documents hp
      | _ => cases hp
  | methodDeleted k ok =>
    obtain ⟨p, hp, rfl⟩ := Option.map_eq_some_iff.mp hstep
    exact fun q hq => h q (List.mem_of_mem_eraseIdx hq)

/-- **What a step does to the holds on a customer.** -/
theorem holdStep_of_step (hids : Function.Injective api.customerId) (h : DeletesMethods uid s)
    (hc : c < s.setup.customers.length) {e : LifeEvent}
    (hstep : lifeStep api uid email s e = some s') : HoldStep api uid c s s' e := by
  cases e with
  | setup e =>
    obtain ⟨setup, hsetup, rfl⟩ := Option.map_eq_some_iff.mp hstep
    cases e with
    | deliverUser =>
      cases hsetup
      refine .kept id id ?_
      simp [holds, InFlight.count_start, SetupRun.holds]
    | deliverMethod pushId snap =>
      cases hsetup
      refine .kept id id ?_
      simp [holds, InFlight.count_start, SetupRun.holds]
    | proceed n outcome =>
      obtain ⟨run, hrun, rfl⟩ := Option.map_eq_some_iff.mp hsetup
      exact holdStep_proceedSetup hids hc hrun outcome
  | deliverDeletion =>
    cases hstep
    refine .kept id id ?_
    simp [holds, InFlight.count_start, CleanupRun.holds]
  | cleanup n outcome =>
    obtain ⟨run, hrun, rfl⟩ := Option.map_eq_some_iff.mp hstep
    exact holdStep_proceedCleanup hrun outcome
  | methodDeleted k ok =>
    obtain ⟨p, hp, rfl⟩ := Option.map_eq_some_iff.mp hstep
    refine .kept id id ?_
    have hne : stripeCustomerRef uid ≠ p := (h p (List.mem_of_getElem? hp)).symm
    have hnamed : Named api uid c (if ok then s.setup.store.erase p else s.setup.store) ↔
        Named api uid c s.setup.store := by
      cases ok with
      | false => exact Iff.rfl
      | true => simp only [Named, fieldAt, if_true, Finmap.lookup_erase_ne hne]
    simp only [holds, AccountLife.withStore, hnamed]

/-- Whom Stripe has deleted stays deleted. -/
theorem gone_of_step {e : LifeEvent} (hstep : lifeStep api uid email s e = some s')
    (h : Gone api c s) : Gone api c s' := by
  cases e with
  | setup e =>
    obtain ⟨setup, -, rfl⟩ := Option.map_eq_some_iff.mp hstep
    exact h
  | deliverDeletion =>
    cases hstep
    exact h
  | cleanup n outcome =>
    obtain ⟨run, hrun, rfl⟩ := Option.map_eq_some_iff.mp hstep
    have heffect : Gone api c (run.effect uid s) := by
      cases run with
      | del id => exact List.mem_cons_of_mem _ h
      | _ => exact h
    cases outcome with
    | done answer => exact gone_goOn.mpr heffect
    | failed landed error =>
      cases landed with
      | true => exact gone_goOn.mpr heffect
      | false => exact gone_goOn.mpr h
  | methodDeleted k ok =>
    obtain ⟨p, hp, rfl⟩ := Option.map_eq_some_iff.mp hstep
    exact h

theorem customers_goOn {setup : SetupState} {n : ℕ} {next : Option SetupRun} :
    (setup.goOn n next).customers = setup.customers := by
  cases next <;> rfl

theorem customers_effect (api : StripeSetup) (uid : String) (email : Option String)
    (setup : SetupState) {run : SetupRun} (hmakes : run.makes = false) :
    (run.effect api uid email setup).customers = setup.customers := by
  cases run with
  | createCustomer => cases hmakes
  | _ => rfl

/-- A customer that a step makes is made by a run that asks for one. -/
theorem made_of_step {e : LifeEvent} (hstep : lifeStep api uid email s e = some s') :
    s'.setup.customers = s.setup.customers ∨
      ∃ n outcome, e = .setup (.proceed n outcome) ∧ outcome.landed = true ∧
        s.setup.runs.running n = some .createCustomer ∧
        s'.setup.customers = s.setup.customers ++ [email] := by
  cases e with
  | setup e =>
    obtain ⟨setup, hsetup, rfl⟩ := Option.map_eq_some_iff.mp hstep
    cases e with
    | deliverUser =>
      cases hsetup
      exact Or.inl rfl
    | deliverMethod pushId snap =>
      cases hsetup
      exact Or.inl rfl
    | proceed n outcome =>
      obtain ⟨run, hrun, rfl⟩ := Option.map_eq_some_iff.mp hsetup
      cases hmakes : run.makes with
      | false =>
        have hsame := customers_effect api uid email s.setup hmakes
        refine Or.inl ?_
        cases outcome with
        | done answer => exact customers_goOn.trans hsame
        | failed landed error =>
          cases landed with
          | true => exact customers_goOn.trans hsame
          | false => exact customers_goOn
      | true =>
        obtain rfl : run = .createCustomer := by
          cases run with
          | createCustomer => rfl
          | _ => cases hmakes
        cases outcome with
        | done answer => exact Or.inr ⟨n, _, rfl, rfl, hrun, customers_goOn⟩
        | failed landed error =>
          cases landed with
          | true => exact Or.inr ⟨n, _, rfl, rfl, hrun, customers_goOn⟩
          | false => exact Or.inl customers_goOn
  | deliverDeletion =>
    cases hstep
    exact Or.inl rfl
  | cleanup n outcome =>
    obtain ⟨run, -, rfl⟩ := Option.map_eq_some_iff.mp hstep
    have hgoOn : ∀ (s : AccountLife) (next : Option CleanupRun),
        (s.goOn n next).setup.customers = s.setup.customers := by
      intro s next
      cases next <;> rfl
    have heffect : (run.effect uid s).setup.customers = s.setup.customers := by
      cases run <;> rfl
    refine Or.inl ?_
    cases outcome with
    | done answer => exact (hgoOn _ _).trans heffect
    | failed landed error =>
      cases landed with
      | true => exact (hgoOn _ _).trans heffect
      | false => exact hgoOn _ _
  | methodDeleted k ok =>
    obtain ⟨p, hp, rfl⟩ := Option.map_eq_some_iff.mp hstep
    exact Or.inl rfl

/-- What becomes of a customer that is made: the run goes on with it, unless it fails. -/
theorem holds_made {n : ℕ} (hrun : s.setup.runs.running n = some .createCustomer)
    {outcome : CallOutcome (List (String × Value))} (hlanded : outcome.landed = true)
    (hstep : lifeStep api uid email s (.setup (.proceed n outcome)) = some s') :
    (Gone api c s' ↔ Gone api c s) ∧
      ((MakesInVain s (.setup (.proceed n outcome)) ∧ holds api uid c s' = holds api uid c s) ∨
        (¬ MakesInVain s (.setup (.proceed n outcome)) ∧
          (c = s.setup.customers.length → 0 < holds api uid c s'))) := by
  obtain ⟨setup, hsetup, rfl⟩ := Option.map_eq_some_iff.mp hstep
  obtain ⟨run, hrun', rfl⟩ := Option.map_eq_some_iff.mp hsetup
  obtain rfl := Option.some.inj (hrun.symm.trans hrun')
  refine ⟨Iff.rfl, ?_⟩
  cases outcome with
  | done answer =>
    refine Or.inr ⟨id, ?_⟩
    rintro rfl
    let setup : SetupState := { SetupRun.createCustomer.effect api uid email s.setup with
      completed := s.setup.completed || SetupRun.createCustomer.isSet }
    have hsum := holds_setup api uid s.setup.customers.length hrun setup rfl
      (some (.createIntent s.setup.customers.length))
    have hnext : (some (SetupRun.createIntent s.setup.customers.length)).any
        (·.holds s.setup.customers.length) = true := by simp [SetupRun.holds]
    have hidle : SetupRun.createCustomer.holds s.setup.customers.length = false := rfl
    have hnamed : Named api uid s.setup.customers.length setup.store ↔
        Named api uid s.setup.customers.length s.setup.store := Iff.rfl
    simp only [hnext, hidle, hnamed, Bool.false_eq_true, if_false, if_true] at hsum
    have hheld : 0 < holds api uid s.setup.customers.length
        { s with setup := setup.goOn n (some (.createIntent s.setup.customers.length)) } := by
      omega
    exact hheld
  | failed landed error =>
    cases landed with
    | false => cases hlanded
    | true =>
      let setup : SetupState := SetupRun.createCustomer.effect api uid email s.setup
      have hsum := holds_setup api uid c hrun setup rfl none
      have hidle : SetupRun.createCustomer.holds c = false := rfl
      have hnamed : Named api uid c setup.store ↔ Named api uid c s.setup.store := Iff.rfl
      simp only [hidle, hnamed, Option.any_none, Bool.false_eq_true, if_false] at hsum
      have hsame : holds api uid c { s with setup := setup.goOn n none } = holds api uid c s := by
        omega
      refine Or.inl ⟨?_, hsame⟩
      exact ⟨.createCustomer, hrun, rfl⟩

/-- The step that makes one in vain. -/
theorem makesInVain_cases {e : LifeEvent} (h : MakesInVain s e) :
    ∃ n error, e = .setup (.proceed n (.failed true error)) ∧
      s.setup.runs.running n = some .createCustomer := by
  unfold MakesInVain at h
  split at h
  · rename_i n error
    obtain ⟨run, hrun, hmakes⟩ := h
    refine ⟨n, error, rfl, ?_⟩
    cases run with
    | createCustomer => exact hrun
    | _ => cases hmakes
  · exact h.elim

/-- **A step makes a customer stray exactly where it lets go of the only hold on one**, or
makes one for nobody. -/
theorem strays_iff (hids : Function.Injective api.customerId) (h : DeletesMethods uid s)
    (hnone : ∀ c, ¬ Stray api uid c s) {e : LifeEvent}
    (hstep : lifeStep api uid email s e = some s') :
    (∀ c, ¬ Stray api uid c s') ↔ ¬ Strays api uid s e := by
  have hmade := made_of_step hstep
  constructor
  · rintro hnone' (⟨c, hc, hgone, hone, hgo⟩ | ⟨hvain, hgone, hzero⟩)
    · have hlength : s.setup.customers.length ≤ s'.setup.customers.length := by
        rcases hmade with hsame | ⟨-, -, -, -, -, hmore⟩
        · rw [hsame]
        · rw [hmore, List.length_append]
          omega
      cases holdStep_of_step hids h hc hstep with
      | letGo _ hgone' hholds =>
        exact hnone' c ⟨by omega, fun hgone' => hgone (by tauto), by omega⟩
      | kept hkeeps | gained hkeeps | deleted hkeeps => exact hkeeps hgo
    · obtain ⟨n, error, rfl, hrun⟩ := makesInVain_cases hvain
      obtain ⟨hgone', ⟨-, hsame⟩ | ⟨hnot, -⟩⟩ := holds_made hrun rfl hstep
      · refine hnone' s.setup.customers.length ⟨?_, hgone'.not.mpr hgone, hsame.trans hzero⟩
        obtain ⟨setup, hsetup, rfl⟩ := Option.map_eq_some_iff.mp hstep
        obtain ⟨run, hrun', rfl⟩ := Option.map_eq_some_iff.mp hsetup
        obtain rfl := Option.some.inj (hrun.symm.trans hrun')
        show s.setup.customers.length < (s.setup.customers ++ [email]).length
        rw [List.length_append, List.length_singleton]
        omega
      · exact hnot hvain
  · rintro hnot c ⟨hc, hgone, hzero⟩
    have hbefore : ¬ Gone api c s := fun hgone' => hgone (gone_of_step hstep hgone')
    by_cases hold : c < s.setup.customers.length
    · cases holdStep_of_step hids h hold hstep with
      | kept _ _ hholds => exact hnone c ⟨hold, hbefore, by omega⟩
      | gained _ _ hheld hholds => omega
      | letGo hgo _ hholds => exact hnot (Or.inl ⟨c, hold, hbefore, by omega, hgo⟩)
      | deleted _ hgone' => exact hgone hgone'
    · -- the customer has just been made
      rcases hmade with hsame | ⟨n, outcome, rfl, hlanded, hrun, hmore⟩
      · rw [hsame] at hc
        exact hold hc
      · obtain rfl : c = s.setup.customers.length := by
          rw [hmore, List.length_append, List.length_singleton] at hc
          omega
        obtain ⟨-, ⟨hvain, hsame⟩ | ⟨-, hheld⟩⟩ := holds_made hrun hlanded hstep
        · exact hnot (Or.inr ⟨hvain, hbefore, hsame.symm.trans hzero⟩)
        · have hpos := hheld rfl
          omega

/-- Nobody comes by a customer that nobody holds. -/
theorem stray_of_step (hids : Function.Injective api.customerId) (h : DeletesMethods uid s)
    (hstray : Stray api uid c s) {e : LifeEvent}
    (hstep : lifeStep api uid email s e = some s') : Stray api uid c s' := by
  obtain ⟨hc, hgone, hzero⟩ := hstray
  have hc' : c < s'.setup.customers.length := by
    rcases made_of_step hstep with hsame | ⟨-, -, -, -, -, hmore⟩
    · rwa [hsame]
    · rw [hmore, List.length_append]
      omega
  cases holdStep_of_step hids h hc hstep with
  | kept _ hgone' hholds => exact ⟨hc', fun hnow => hgone (hgone' hnow), hholds.trans hzero⟩
  | gained _ _ hheld => omega
  | letGo _ _ hholds => omega
  | deleted _ _ hheld => omega

theorem not_stray_initial (store : Firestore) (c : ℕ) :
    ¬ Stray api uid c (AccountLife.initial store) := by
  rintro ⟨hc, -⟩
  cases hc

theorem deletesMethods_initial (store : Firestore) :
    DeletesMethods uid (AccountLife.initial store) := by
  intro p hp
  cases hp

theorem deletesMethods_of_run {store : Firestore} {es : List LifeEvent}
    (hrun : run (lifeStep api uid email) (AccountLife.initial store) es = some s) :
    DeletesMethods uid s :=
  run_invariant (DeletesMethods uid) (fun _ _ _ h hstep => deletesMethods_step h hstep)
    (deletesMethods_initial store) hrun

/-- Where no step makes a customer stray, none is. -/
theorem none_stray_of_run (hids : Function.Injective api.customerId) {store : Firestore}
    {es : List LifeEvent}
    (hrun : run (lifeStep api uid email) (AccountLife.initial store) es = some s)
    (hstrays : Along (lifeStep api uid email) (fun s e => ¬ Strays api uid s e)
      (AccountLife.initial store) es) (c : ℕ) : ¬ Stray api uid c s := by
  have hinv : DeletesMethods uid s ∧ ∀ c, ¬ Stray api uid c s := by
    refine run_invariant_along (fun s => DeletesMethods uid s ∧ ∀ c, ¬ Stray api uid c s) ?_
      ⟨deletesMethods_initial store, not_stray_initial store⟩ hstrays hrun
    rintro s e s' ⟨h, hnone⟩ hnot hstep
    exact ⟨deletesMethods_step h hstep, (strays_iff hids h hnone hstep).mpr hnot⟩
  exact hinv.2 c

/-- When all runs have ended, only the document holds anybody. -/
theorem holds_at_rest (hrest : s.setup.runs.Quiet ∧ s.cleanups.Quiet) (c : ℕ) :
    holds api uid c s = if Named api uid c s.setup.store then 1 else 0 := by
  rw [holds, InFlight.count_of_quiet _ hrest.1, InFlight.count_of_quiet _ hrest.2]
  omega

end

/-- **When a customer goes astray.**  In every run of deliveries of a user's creation and
deletion, and of the creation of payment methods, with calls that succeed, or fail with or
without effect, in any order: no customer is ever stray exactly when no step lets go of the
only hold on one, or makes one for nobody. -/
theorem never_stray_iff (api : StripeSetup) (hids : Function.Injective api.customerId)
    (uid : String) (email : Option String) (store : Firestore) {es : List LifeEvent}
    {t : AccountLife} (hrun : run (lifeStep api uid email) (AccountLife.initial store) es = some t) :
    (∀ k s, run (lifeStep api uid email) (AccountLife.initial store) (es.take k) = some s →
        ∀ c, ¬ Stray api uid c s) ↔
      Along (lifeStep api uid email) (fun s e => ¬ Strays api uid s e) (AccountLife.initial store)
        es :=
  always_iff_along (DeletesMethods uid) (fun s => ∀ c, ¬ Stray api uid c s)
    (fun _ _ _ h hstep => deletesMethods_step h hstep)
    (fun _ _ _ h hnone hstep => strays_iff hids h hnone hstep)
    (deletesMethods_initial store) (not_stray_initial store) hrun

theorem numberedSetup_injective : Function.Injective numberedSetup.customerId :=
  fun _ _ h => Nat.repr_injective ((String.append_right_inj _).mp h)

/-- The customer is made, and the intent is not. -/
def madeInVain : List LifeEvent :=
  [.setup .deliverUser, .setup (.proceed 0 (.done [])),
    .setup (.proceed 0 (.failed false ⟨none, "down"⟩))]

theorem madeInVain_runs :
    ∃ t, run (lifeStep numberedSetup "uid" none) (AccountLife.initial ∅) madeInVain = some t ∧
      Stray numberedSetup "uid" 0 t := by
  have hsome : (run (lifeStep numberedSetup "uid" none) (AccountLife.initial ∅)
      madeInVain).isSome := by decide +kernel
  obtain ⟨t, ht⟩ := Option.isSome_iff_exists.mp hsome
  have hstray : ∀ t ∈ run (lifeStep numberedSetup "uid" none) (AccountLife.initial ∅) madeInVain,
      0 < t.setup.customers.length ∧ ¬ Gone numberedSetup 0 t ∧
        holds numberedSetup "uid" 0 t = 0 := by decide +kernel
  exact ⟨t, ht, hstray t ht⟩

theorem never_stray_in_vain : ¬ Along (lifeStep numberedSetup "uid" none)
    (fun s e => ¬ Strays numberedSetup "uid" s e) (AccountLife.initial ∅) madeInVain := by
  obtain ⟨t, ht, hstray⟩ := madeInVain_runs
  intro halong
  exact (never_stray_iff numberedSetup numberedSetup_injective "uid" none ∅ ht).mpr halong
    madeInVain.length t (by rwa [List.take_length]) 0 hstray

/-- **A stray customer stays with Stripe**, whatever is delivered and whatever runs later. -/
theorem stray_forever (api : StripeSetup) (hids : Function.Injective api.customerId)
    (uid : String) (email : Option String) (store : Firestore) {es fs : List LifeEvent}
    {s t : AccountLife} (hs : run (lifeStep api uid email) (AccountLife.initial store) es = some s)
    {c : ℕ} (hstray : Stray api uid c s) (hrun : run (lifeStep api uid email) s fs = some t) :
    Stray api uid c t := by
  have hinv : DeletesMethods uid t ∧ Stray api uid c t := by
    refine run_invariant (fun s => DeletesMethods uid s ∧ Stray api uid c s) ?_
      ⟨deletesMethods_of_run hs, hstray⟩ hrun
    rintro s e s' ⟨h, hstray⟩ hstep
    exact ⟨deletesMethods_step h hstep, stray_of_step hids h hstray hstep⟩
  exact hinv.2

/-- The user is created, for good this time, and deleted. -/
def setUpAndCleanedUp (n : ℕ) : List LifeEvent :=
  [.setup .deliverUser, .setup (.proceed n (.done [])), .setup (.proceed n (.done [])),
    .setup (.proceed n (.done [])), .deliverDeletion, .cleanup 0 (.done ()), .cleanup 0 (.done ()),
    .cleanup 0 (.done ()), .cleanup 0 (.done ())]

theorem stray_forever_in_vain : ∃ t,
    run (lifeStep numberedSetup "uid" none) (AccountLife.initial ∅)
      (madeInVain ++ setUpAndCleanedUp 1) = some t ∧ Stray numberedSetup "uid" 0 t := by
  have hsome : (run (lifeStep numberedSetup "uid" none) (AccountLife.initial ∅)
      (madeInVain ++ setUpAndCleanedUp 1)).isSome := by decide +kernel
  obtain ⟨t, ht⟩ := Option.isSome_iff_exists.mp hsome
  obtain ⟨s, hs, hrest⟩ := (run_append_iff _).mp ht
  obtain ⟨s', hs', hstray⟩ := madeInVain_runs
  rw [hs, Option.some.injEq] at hs'
  subst hs'
  exact ⟨t, ht, stray_forever numberedSetup numberedSetup_injective "uid" none ∅ hs hstray hrest⟩

/-- **Who is left when all runs have ended**: where no step has made a customer stray, only the
one whom the user's document names, and nobody once the document is deleted. -/
theorem none_left_at_rest (api : StripeSetup) (hids : Function.Injective api.customerId)
    (uid : String) (email : Option String) (store : Firestore) {es : List LifeEvent}
    {t : AccountLife} (hrun : run (lifeStep api uid email) (AccountLife.initial store) es = some t)
    (hstrays : Along (lifeStep api uid email) (fun s e => ¬ Strays api uid s e)
      (AccountLife.initial store) es)
    (hrest : t.setup.runs.Quiet ∧ t.cleanups.Quiet) :
    ∀ c < t.setup.customers.length, Gone api c t ∨ Named api uid c t.setup.store := by
  intro c hc
  by_contra hleft
  obtain ⟨hgone, hnamed⟩ := not_or.mp hleft
  refine none_stray_of_run hids hrun hstrays c ⟨hc, hgone, ?_⟩
  rw [holds_at_rest hrest, if_neg hnamed]

theorem none_left_when_cleaned_up : ∃ t,
    run (lifeStep numberedSetup "uid" none) (AccountLife.initial ∅) (setUpAndCleanedUp 0) =
      some t ∧ t.setup.customers.length = 1 ∧
    ∀ c < t.setup.customers.length,
      Gone numberedSetup c t ∨ Named numberedSetup "uid" c t.setup.store := by
  have hsome : (run (lifeStep numberedSetup "uid" none) (AccountLife.initial ∅)
      (setUpAndCleanedUp 0)).isSome := by decide +kernel
  obtain ⟨t, ht⟩ := Option.isSome_iff_exists.mp hsome
  have hrest : ∀ t ∈ run (lifeStep numberedSetup "uid" none) (AccountLife.initial ∅)
      (setUpAndCleanedUp 0), t.setup.customers.length = 1 ∧
        t.setup.runs.Quiet ∧ t.cleanups.Quiet := by decide +kernel
  obtain ⟨hone, hquiet⟩ := hrest t ht
  exact ⟨t, ht, hone, none_left_at_rest numberedSetup numberedSetup_injective "uid" none ∅ ht
    (by decide +kernel) hquiet⟩

end Lidora
