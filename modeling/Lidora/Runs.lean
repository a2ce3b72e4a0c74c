import Mathlib

/-! # Runs of a partial transition function

A system is given by `step : σ → ε → Option σ`: what event `e` makes of state `s`,
and `none` where the event cannot happen.  `run` follows a list of events,
`Along` says of every step of a run that it meets a condition on the state before
it, and the two induction rules carry an invariant over a whole run, one of them
for the runs whose steps all meet a condition.
-/
namespace Runs
variable {σ ε : Type} (step : σ → ε → Option σ)

/-- The state after the events, if each of them could happen. -/
def run : σ → List ε → Option σ
  | s, [] => some s
  | s, e :: es => (step s e).bind fun s' => run s' es

/-- Every step of the run meets `P`, a condition on the state before the step and
the event. -/
def Along (P : σ → ε → Prop) : σ → List ε → Prop
  | _, [] => True
  | s, e :: es => P s e ∧ ∀ s', step s e = some s' → Along P s' es

/-- A condition that can be evaluated at one step can be evaluated along a run. -/
instance decidableAlong {P : σ → ε → Prop} [∀ s e, Decidable (P s e)] :
    ∀ s es, Decidable (Along step P s es)
  | _, [] => isTrue trivial
  | s, e :: es =>
    match h : step s e with
    | none => decidable_of_iff (P s e) (by simp [Along, h])
    | some s' =>
      have : Decidable (Along step P s' es) := decidableAlong s' es
      decidable_of_iff (P s e ∧ Along step P s' es) (by simp [Along, h])

@[simp] theorem run_nil (s : σ) : run step s [] = some s := rfl

theorem run_cons_iff {s t : σ} {e : ε} {es : List ε} :
    run step s (e :: es) = some t ↔ ∃ s', step s e = some s' ∧ run step s' es = some t :=
  Option.bind_eq_some_iff

theorem run_append_iff {s t : σ} {es fs : List ε} :
    run step s (es ++ fs) = some t ↔ ∃ s', run step s es = some s' ∧ run step s' fs = some t := by
  induction es generalizing s with
  | nil => simp
  | cons e es ih =>
    rw [List.cons_append, run_cons_iff]
    constructor
    · rintro ⟨s₁, h₁, h⟩
      obtain ⟨s₂, h₂, h⟩ := ih.mp h
      exact ⟨s₂, (run_cons_iff step).mpr ⟨s₁, h₁, h₂⟩, h⟩
    · rintro ⟨s₂, h₂, h⟩
      obtain ⟨s₁, h₁, h₂⟩ := (run_cons_iff step).mp h₂
      exact ⟨s₁, h₁, ih.mpr ⟨s₂, h₂, h⟩⟩

/-- A run that ends has every prefix of its events as a run. -/
theorem run_take {s t : σ} {es : List ε} (h : run step s es = some t) (k : ℕ) :
    ∃ s', run step s (es.take k) = some s' := by
  rw [← List.take_append_drop k es, run_append_iff] at h
  obtain ⟨s', hs', _⟩ := h
  exact ⟨s', hs'⟩

variable {step}

/-- What holds along a run holds along its second part. -/
theorem Along.right {P : σ → ε → Prop} {s t : σ} {es fs : List ε}
    (h : Along step P s (es ++ fs)) (hrun : run step s es = some t) : Along step P t fs := by
  induction es generalizing s with
  | nil =>
    cases hrun
    exact h
  | cons e es ih =>
    obtain ⟨s', he, hrun⟩ := (run_cons_iff step).mp hrun
    exact ih (h.2 s' he) hrun

/-- What holds along a run holds along its first part. -/
theorem Along.left {P : σ → ε → Prop} {s : σ} {es fs : List ε}
    (h : Along step P s (es ++ fs)) : Along step P s es := by
  induction es generalizing s with
  | nil => trivial
  | cons e es ih => exact ⟨h.1, fun s' he => ih (h.2 s' he)⟩

/-- What each step meets, it meets together with what follows from it. -/
theorem Along.mono {P Q : σ → ε → Prop} {s : σ} {es : List ε} (h : Along step P s es)
    (hPQ : ∀ s e, P s e → Q s e) : Along step Q s es := by
  induction es generalizing s with
  | nil => trivial
  | cons e es ih => exact ⟨hPQ s e h.1, fun s' he => ih (h.2 s' he)⟩

theorem Along.and {P Q : σ → ε → Prop} {s : σ} {es : List ε} (hP : Along step P s es)
    (hQ : Along step Q s es) : Along step (fun s e => P s e ∧ Q s e) s es := by
  induction es generalizing s with
  | nil => trivial
  | cons e es ih => exact ⟨⟨hP.1, hQ.1⟩, fun s' he => ih (hP.2 s' he) (hQ.2 s' he)⟩

/-- **The states of a run are reached by it.** -/
theorem along_reached {s t : σ} {es fs : List ε} (h : run step s es = some t) :
    Along step (fun s' _ => ∃ k, run step s ((es ++ fs).take k) = some s') t fs := by
  induction fs generalizing es t with
  | nil => trivial
  | cons e fs ih =>
    constructor
    · exact ⟨es.length, by rwa [List.take_left]⟩
    · intro t' he
      have hnext : run step s (es ++ [e]) = some t' :=
        (run_append_iff step).mpr ⟨t, h, (run_cons_iff step).mpr ⟨t', he, rfl⟩⟩
      have hrest := ih hnext
      rwa [List.append_assoc, List.singleton_append] at hrest

/-- A state that a run reaches is its last one, or one that a step starts from. -/
theorem Along.reached {P : σ → ε → Prop} {s s' t : σ} {es : List ε} {k : ℕ}
    (h : Along step P s es) (hrun : run step s es = some t)
    (hk : run step s (es.take k) = some s') : s' = t ∨ ∃ e, P s' e := by
  by_cases hlt : k < es.length
  · refine Or.inr ⟨es[k], ?_⟩
    rw [← List.take_append_drop k es] at h
    have hright := h.right hk
    rw [List.drop_eq_getElem_cons hlt] at hright
    exact hright.1
  · rw [List.take_of_length_le (by omega), hrun] at hk
    exact Or.inl (Option.some.inj hk).symm

/-- **Invariants of all runs.** -/
theorem run_invariant (Inv : σ → Prop)
    (hstep : ∀ s e s', Inv s → step s e = some s' → Inv s')
    {s t : σ} {es : List ε} (hs : Inv s) (h : run step s es = some t) : Inv t := by
  induction es generalizing s with
  | nil => exact Option.some.inj h ▸ hs
  | cons e es ih =>
    obtain ⟨s', he, h⟩ := (run_cons_iff step).mp h
    exact ih (hstep s e s' hs he) h

/-- **Invariants of the runs whose steps all meet a condition.** -/
theorem run_invariant_along (Inv : σ → Prop) {P : σ → ε → Prop}
    (hstep : ∀ s e s', Inv s → P s e → step s e = some s' → Inv s')
    {s t : σ} {es : List ε} (hs : Inv s) (hP : Along step P s es)
    (h : run step s es = some t) : Inv t := by
  induction es generalizing s with
  | nil => exact Option.some.inj h ▸ hs
  | cons e es ih =>
    obtain ⟨s', he, h⟩ := (run_cons_iff step).mp h
    exact ih (hstep s e s' hs hP.1 he) (hP.2 s' he) h

/-- **What an invariant gives each step.**  Where the steps of a run all meet `P`, and `P`
keeps the invariant and gives `Q` with it, they all meet `Q`. -/
theorem Along.of_invariant (Inv : σ → Prop) {P Q : σ → ε → Prop}
    (hinv : ∀ s e s', Inv s → P s e → step s e = some s' → Inv s')
    (hPQ : ∀ s e, Inv s → P s e → Q s e) {s : σ} {es : List ε} (h : Along step P s es)
    (hs : Inv s) : Along step Q s es := by
  induction es generalizing s with
  | nil => trivial
  | cons e es ih =>
    exact ⟨hPQ s e hs h.1, fun s' he => ih (h.2 s' he) (hinv s e s' hs h.1 he)⟩

/-- Two conditions that agree wherever an invariant holds agree along a run. -/
theorem along_congr (Inv : σ → Prop) {P P' : σ → ε → Prop}
    (hinv : ∀ s e s', Inv s → step s e = some s' → Inv s')
    (hPP' : ∀ s e, Inv s → (P s e ↔ P' s e)) {s : σ} {es : List ε} (hs : Inv s) :
    Along step P s es ↔ Along step P' s es := by
  induction es generalizing s with
  | nil => exact Iff.rfl
  | cons e es ih =>
    exact and_congr (hPP' s e hs)
      (forall_congr' fun s' => forall_congr' fun he => ih (hinv s e s' hs he))

/-- **A property of the states and one of the steps hold all along a run exactly when each
step meets the condition under which it has the one and keeps the other.** -/
theorem always_and_iff_along (Inv Good : σ → Prop) {P Q : σ → ε → Prop}
    (hinv : ∀ s e s', Inv s → step s e = some s' → Inv s')
    (hgood : ∀ s e s', Inv s → Good s → step s e = some s' → (Good s' ∧ Q s e ↔ P s e))
    {s t : σ} {es : List ε} (hi : Inv s) (hg : Good s) (h : run step s es = some t) :
    (∀ k s', run step s (es.take k) = some s' → Good s') ∧ Along step Q s es ↔
      Along step P s es := by
  induction es generalizing s with
  | nil =>
    refine ⟨fun _ => trivial, fun _ => ⟨fun k s' hk => ?_, trivial⟩⟩
    rw [List.take_nil] at hk
    exact Option.some.inj hk ▸ hg
  | cons e es ih =>
    obtain ⟨s₁, he, h⟩ := (run_cons_iff step).mp h
    have hrest : ∀ k s', run step s ((e :: es).take (k + 1)) = some s' ↔
        run step s₁ (es.take k) = some s' := by
      intro k s'
      rw [List.take_succ_cons, run_cons_iff]
      exact ⟨fun ⟨_, he', h'⟩ => Option.some.inj (he.symm.trans he') ▸ h', fun h' => ⟨s₁, he, h'⟩⟩
    have hi₁ := hinv s e s₁ hi he
    constructor
    · rintro ⟨hall, hQ, hrestQ⟩
      have hg₁ : Good s₁ := hall 1 s₁ ((hrest 0 s₁).mpr rfl)
      refine ⟨(hgood s e s₁ hi hg he).mp ⟨hg₁, hQ⟩, fun s' he' => ?_⟩
      rw [← Option.some.inj (he.symm.trans he')]
      refine (ih hi₁ hg₁ h).mp ⟨fun k s' hk => ?_, hrestQ s₁ he⟩
      exact hall (k + 1) s' ((hrest k s').mpr hk)
    · rintro ⟨hP, hrestP⟩
      obtain ⟨hg₁, hQ⟩ := (hgood s e s₁ hi hg he).mpr hP
      obtain ⟨hall, hrestQ⟩ := (ih hi₁ hg₁ h).mpr (hrestP s₁ he)
      refine ⟨fun k s' hk => ?_, hQ, fun s' he' => ?_⟩
      · cases k with
        | zero => exact Option.some.inj hk ▸ hg
        | succ k => exact hall k s' ((hrest k s').mp hk)
      · rw [← Option.some.inj (he.symm.trans he')]
        exact hrestQ

theorem along_true (s : σ) (es : List ε) : Along step (fun _ _ => True) s es := by
  induction es generalizing s with
  | nil => trivial
  | cons e es ih => exact ⟨trivial, fun s' _ => ih s'⟩

/-- **A property holds all along a run exactly when each step meets the condition under
which it keeps the property.** -/
theorem always_iff_along (Inv Good : σ → Prop) {P : σ → ε → Prop}
    (hinv : ∀ s e s', Inv s → step s e = some s' → Inv s')
    (hgood : ∀ s e s', Inv s → Good s → step s e = some s' → (Good s' ↔ P s e))
    {s t : σ} {es : List ε} (hi : Inv s) (hg : Good s) (h : run step s es = some t) :
    (∀ k s', run step s (es.take k) = some s' → Good s') ↔ Along step P s es := by
  rw [← always_and_iff_along (Q := fun _ _ => True) Inv Good hinv ?_ hi hg h]
  · exact (and_iff_left (along_true s es)).symm
  · intro s e s' hi hg he
    rw [and_iff_left trivial]
    exact hgood s e s' hi hg he

end Runs
