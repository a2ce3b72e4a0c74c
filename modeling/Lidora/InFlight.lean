import Mathlib

/-! # Operations in flight

Operations are numbered in the order in which they start.  A table of them
(`InFlight`) holds the state of each one that is running; an operation that has
ended, or not started yet, has none.  That a number not yet given out runs nothing
is a field of the table.
-/

/-- The operations that are running, by number. -/
structure InFlight (α : Type) where
  started : ℕ
  running : ℕ → Option α
  fresh : ∀ n, started ≤ n → running n = none

namespace InFlight
variable {α : Type}

/-- Nothing has started. -/
def empty : InFlight α := ⟨0, fun _ => none, fun _ _ => rfl⟩

/-- One more operation, with the next number. -/
def start (o : InFlight α) (x : α) : InFlight α where
  started := o.started + 1
  running := Function.update o.running o.started (some x)
  fresh := by
    intro n hn
    rw [Function.update_of_ne (by omega)]
    exact o.fresh n (by omega)

/-- Operation `n` moves on, or ends with `none`. -/
def move (o : InFlight α) (n : ℕ) (f : α → Option α) : InFlight α where
  started := o.started
  running := Function.update o.running n ((o.running n).bind f)
  fresh := by
    intro m hm
    by_cases h : m = n
    · subst h
      rw [Function.update_self, o.fresh m hm]
      rfl
    · rw [Function.update_of_ne h]
      exact o.fresh m hm

/-- Operation `n` ends. -/
def finish (o : InFlight α) (n : ℕ) : InFlight α := o.move n fun _ => none

/-- Operation `n` is now `x`. -/
def put (o : InFlight α) (n : ℕ) (x : α) : InFlight α := o.move n fun _ => some x

/-- Nothing is running. -/
def Quiet (o : InFlight α) : Prop := ∀ n, o.running n = none

/-- Some operation that is running meets `p`. -/
def Any (o : InFlight α) (p : α → Prop) : Prop := ∃ n x, o.running n = some x ∧ p x

@[simp] theorem finish_started (o : InFlight α) (n : ℕ) : (o.finish n).started = o.started := rfl

theorem lt_started {o : InFlight α} {n : ℕ} {x : α} (h : o.running n = some x) :
    n < o.started := by
  by_contra hn
  rw [o.fresh n (by omega)] at h
  cases h

@[simp] theorem start_self (o : InFlight α) (x : α) :
    (o.start x).running o.started = some x := Function.update_self ..

theorem start_of_ne (o : InFlight α) (x : α) {n : ℕ} (hn : n ≠ o.started) :
    (o.start x).running n = o.running n := Function.update_of_ne hn ..

theorem move_self (o : InFlight α) (n : ℕ) (f : α → Option α) :
    (o.move n f).running n = (o.running n).bind f := Function.update_self ..

theorem move_of_ne (o : InFlight α) (f : α → Option α) {n m : ℕ} (hm : m ≠ n) :
    (o.move n f).running m = o.running m := Function.update_of_ne hm ..

theorem put_self {o : InFlight α} {n : ℕ} {y : α} (h : o.running n = some y) (x : α) :
    (o.put n x).running n = some x := by
  rw [put, move_self, h]
  rfl

theorem put_of_ne (o : InFlight α) (x : α) {n m : ℕ} (hm : m ≠ n) :
    (o.put n x).running m = o.running m := o.move_of_ne _ hm

@[simp] theorem finish_self (o : InFlight α) (n : ℕ) : (o.finish n).running n = none := by
  rw [finish, move_self]
  cases o.running n <;> rfl

theorem finish_of_ne (o : InFlight α) {n m : ℕ} (hm : m ≠ n) :
    (o.finish n).running m = o.running m := o.move_of_ne _ hm

/-- Operation `m` after one has started: the new one, or one that was running. -/
theorem start_cases {o : InFlight α} {x y : α} {m : ℕ} (h : (o.start x).running m = some y) :
    m = o.started ∧ y = x ∨ o.running m = some y := by
  by_cases hm : m = o.started
  · rw [hm, start_self] at h
    exact Or.inl ⟨hm, (Option.some.inj h).symm⟩
  · rw [start_of_ne _ _ hm] at h
    exact Or.inr h

/-- Operation `m` after `n` has moved on: `n` itself, or another that was running. -/
theorem put_cases {o : InFlight α} {n m : ℕ} {x y z : α} (hrun : o.running n = some z)
    (h : (o.put n x).running m = some y) : m = n ∧ y = x ∨ m ≠ n ∧ o.running m = some y := by
  by_cases hm : m = n
  · rw [hm, put_self hrun] at h
    exact Or.inl ⟨hm, (Option.some.inj h).symm⟩
  · rw [put_of_ne _ _ hm] at h
    exact Or.inr ⟨hm, h⟩

/-- Operation `m` after `n` has ended is another that was running. -/
theorem finish_cases {o : InFlight α} {n m : ℕ} {y : α} (h : (o.finish n).running m = some y) :
    m ≠ n ∧ o.running m = some y := by
  have hm : m ≠ n := by
    rintro rfl
    rw [finish_self] at h
    cases h
  exact ⟨hm, (o.finish_of_ne hm).symm.trans h⟩

/-- What has ended, or not started, stays so while others end. -/
theorem finish_of_none {o : InFlight α} (n : ℕ) {m : ℕ} (h : o.running m = none) :
    (o.finish n).running m = none := by
  by_cases hm : m = n
  · rw [hm]
    exact o.finish_self n
  · rw [finish_of_ne _ hm]
    exact h

/-- The same while others go on. -/
theorem put_of_none {o : InFlight α} {n m : ℕ} {y : α} (hrun : o.running n = some y) (x : α)
    (h : o.running m = none) : (o.put n x).running m = none := by
  have hm : m ≠ n := by
    rintro rfl
    rw [hrun] at h
    cases h
  rw [put_of_ne _ _ hm]
  exact h

/-! ## Some operation or other -/

section Any
variable {o : InFlight α} {p q : α → Prop}

/-- Only the operations that have started need to be looked at. -/
instance [DecidablePred p] : Decidable (o.Any p) :=
  decidable_of_iff (∃ n < o.started, ∃ x ∈ o.running n, p x) (by
    constructor
    · rintro ⟨n, -, x, hx, hp⟩
      exact ⟨n, x, hx, hp⟩
    · rintro ⟨n, x, hx, hp⟩
      exact ⟨n, lt_started hx, x, hx, hp⟩)

instance : Decidable o.Quiet :=
  decidable_of_iff (∀ n < o.started, (o.running n).isNone) (by
    constructor
    · intro h n
      by_cases hn : n < o.started
      · exact Option.isNone_iff_eq_none.mp (h n hn)
      · exact o.fresh n (by omega)
    · intro h n _
      rw [h n]
      rfl)

theorem Quiet.not_any (h : o.Quiet) : ¬ o.Any p := by
  rintro ⟨n, x, hx, -⟩
  rw [h n] at hx
  cases hx

theorem Any.mono (h : o.Any p) (hpq : ∀ x, p x → q x) : o.Any q := by
  obtain ⟨n, x, hx, hp⟩ := h
  exact ⟨n, x, hx, hpq x hp⟩

theorem any_start {x : α} : (o.start x).Any p ↔ p x ∨ o.Any p := by
  constructor
  · rintro ⟨n, y, hy, hp⟩
    rcases start_cases hy with ⟨-, rfl⟩ | hy
    · exact Or.inl hp
    · exact Or.inr ⟨n, y, hy, hp⟩
  · rintro (hp | ⟨n, y, hy, hp⟩)
    · exact ⟨o.started, x, o.start_self x, hp⟩
    · have hn : n ≠ o.started := by
        have hlt := lt_started hy
        omega
      exact ⟨n, y, (o.start_of_ne x hn).trans hy, hp⟩

/-- Either operation `n` itself, or one that its end leaves. -/
theorem any_iff {n : ℕ} {x : α} (h : o.running n = some x) :
    o.Any p ↔ p x ∨ (o.finish n).Any p := by
  constructor
  · rintro ⟨m, y, hy, hp⟩
    by_cases hm : m = n
    · subst hm
      rw [h] at hy
      cases hy
      exact Or.inl hp
    · exact Or.inr ⟨m, y, (o.finish_of_ne hm).trans hy, hp⟩
  · rintro (hp | ⟨m, y, hy, hp⟩)
    · exact ⟨n, x, h, hp⟩
    · exact ⟨m, y, (finish_cases hy).2, hp⟩

theorem any_put {n : ℕ} {x y : α} (h : o.running n = some y) :
    (o.put n x).Any p ↔ p x ∨ (o.finish n).Any p := by
  have hfinish : (o.put n x).finish n = o.finish n := by
    simp only [finish, put, move, Function.update_self, h, Function.update_idem]
    rfl
  rw [any_iff (put_self h x), hfinish]

end Any

/-! ## How many operations -/

section Count
variable {o : InFlight α} (p : α → Bool)

/-- How many of the operations that are running meet `p`. -/
def count (o : InFlight α) (p : α → Bool) : ℕ :=
  ∑ n ∈ Finset.range o.started, if (o.running n).any p then 1 else 0

@[simp] theorem count_empty : (empty : InFlight α).count p = 0 := rfl

theorem count_of_quiet (h : o.Quiet) : o.count p = 0 := by
  refine Finset.sum_eq_zero fun n _ => ?_
  rw [h n]
  rfl

theorem count_start (x : α) : (o.start x).count p = o.count p + if p x then 1 else 0 := by
  have hold : ∀ n ∈ Finset.range o.started, (o.start x).running n = o.running n := by
    intro n hn
    rw [Finset.mem_range] at hn
    exact o.start_of_ne x (by omega)
  rw [count, show (o.start x).started = o.started + 1 from rfl, Finset.sum_range_succ, start_self]
  refine congrArg (· + _) (Finset.sum_congr rfl fun n hn => ?_)
  rw [hold n hn]

/-- **One operation moves on**, to `z` or to its end: the count moves with it. -/
theorem count_move {n : ℕ} {x : α} (h : o.running n = some x) (f : α → Option α) :
    (o.move n f).count p + (if p x then 1 else 0) = o.count p + if (f x).any p then 1 else 0 := by
  have hn : n ∈ Finset.range o.started := Finset.mem_range.mpr (lt_started h)
  have hother : ∀ m ∈ (Finset.range o.started).erase n, (o.move n f).running m = o.running m :=
    fun m hm => o.move_of_ne f (Finset.ne_of_mem_erase hm)
  have hself : (o.move n f).running n = f x := by
    rw [move_self, h]
    rfl
  rw [count, count, show (o.move n f).started = o.started from rfl,
    ← Finset.add_sum_erase _ _ hn, ← Finset.add_sum_erase _ (fun m => if (o.running m).any p then
      1 else 0) hn, hself, h, Option.any_some]
  have hrest : ∑ m ∈ (Finset.range o.started).erase n,
        (if ((o.move n f).running m).any p then 1 else 0) =
      ∑ m ∈ (Finset.range o.started).erase n, if (o.running m).any p then 1 else 0 :=
    Finset.sum_congr rfl fun m hm => by rw [hother m hm]
  rw [hrest]
  omega

theorem count_put {n : ℕ} {x : α} (h : o.running n = some x) (y : α) :
    (o.put n y).count p + (if p x then 1 else 0) = o.count p + if p y then 1 else 0 :=
  count_move p h _

theorem count_finish {n : ℕ} {x : α} (h : o.running n = some x) :
    (o.finish n).count p + (if p x then 1 else 0) = o.count p :=
  count_move p h _

end Count

end InFlight
