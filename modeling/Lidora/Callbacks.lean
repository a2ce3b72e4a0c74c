import Mathlib

/-! # Functions that are called back

An asynchronous function with a completion handler is a tree (`Flow`): it returns, it
traps, it calls its handler, it sends a request that it does not wait for, or it asks for
something and goes on with the answer.  `Q` are the requests, and a request `q` is
answered by an `A q`.  An oracle answers every request, by its number, and so a function
that is answered always runs to an end (`Flow.run`).

`OnceIf P f` says that `f` calls its handler exactly once, and does not trap, precisely
when every answer that it gets meets `P`.  The rules for it follow the tree: an answer
that meets `P` leads to a function of that kind, and one that does not leads to one that
never does it right (`Never`), since it stops, traps, or calls the handler again.
-/
namespace Callbacks
variable {Q : Type} (A : Q → Type) (R : Type)

/-- A function that is called back. -/
inductive Flow where
  | stop
  | trap
  /-- The completion handler is called with `r`. -/
  | complete (r : R) (next : Flow)
  /-- A request whose answer nobody waits for. -/
  | send (q : Q) (next : Flow)
  | ask (q : Q) (next : A q → Flow)

/-- The answer to each request, when it is the `n`-th. -/
abbrev Oracle : Type := ℕ → (q : Q) → A q

/-- What the caller sees: the values that the handler is called with, and whether the
app has trapped. -/
structure Ending where
  completions : List R
  trapped : Bool
  deriving DecidableEq

variable {A R}

/-- The handler is called exactly once, and nothing traps. -/
def Ending.Once (e : Ending R) : Prop := e.completions.length = 1 ∧ e.trapped = false

instance (e : Ending R) : Decidable e.Once := inferInstanceAs (Decidable (_ ∧ _))

namespace Flow

/-- The function run to its end, its first request being the `n`-th. -/
def run (o : Oracle A) : ℕ → Flow A R → Ending R
  | _, stop => ⟨[], false⟩
  | _, trap => ⟨[], true⟩
  | n, complete r next => ⟨r :: (next.run o n).completions, (next.run o n).trapped⟩
  | n, send _ next => next.run o n
  | n, ask q next => (next (o n q)).run o (n + 1)

/-- The answers that it has got. -/
def answers (o : Oracle A) : ℕ → Flow A R → List ((q : Q) × A q)
  | _, stop => []
  | _, trap => []
  | n, complete _ next => next.answers o n
  | n, send _ next => next.answers o n
  | n, ask q next => ⟨q, o n q⟩ :: (next (o n q)).answers o (n + 1)

@[simp] theorem run_stop (o : Oracle A) (n : ℕ) : (stop : Flow A R).run o n = ⟨[], false⟩ := rfl

@[simp] theorem run_trap (o : Oracle A) (n : ℕ) : (trap : Flow A R).run o n = ⟨[], true⟩ := rfl

@[simp] theorem run_complete (o : Oracle A) (n : ℕ) (r : R) (f : Flow A R) :
    (complete r f).run o n = ⟨r :: (f.run o n).completions, (f.run o n).trapped⟩ := rfl

@[simp] theorem run_ask (o : Oracle A) (n : ℕ) (q : Q) (f : A q → Flow A R) :
    (ask q f).run o n = (f (o n q)).run o (n + 1) := rfl

/-! ## Exactly one completion -/

/-- Whatever the answers, it does not come to one completion without a trap. -/
def Never (f : Flow A R) : Prop := ∀ o n, ¬ (f.run o n).Once

/-- Whatever the answers, the handler is called, or the app traps. -/
def Loud (f : Flow A R) : Prop := ∀ o n, (f.run o n).completions = [] → (f.run o n).trapped = true

/-- Exactly one completion, and no trap, precisely when all answers meet `P`. -/
def OnceIf (P : (q : Q) × A q → Prop) (f : Flow A R) : Prop :=
  ∀ o n, (f.run o n).Once ↔ ∀ x ∈ f.answers o n, P x

theorem never_stop : (stop : Flow A R).Never := fun _ _ h => absurd h.1 (by simp)

theorem never_trap : (trap : Flow A R).Never := fun _ _ h => absurd h.2 (by simp)

theorem loud_trap : (trap : Flow A R).Loud := fun _ _ _ => rfl

theorem loud_complete (r : R) (f : Flow A R) : (complete r f).Loud :=
  fun _ _ h => absurd h (List.cons_ne_nil _ _)

theorem loud_ask {q : Q} {f : A q → Flow A R} (h : ∀ a, (f a).Loud) : (ask q f).Loud :=
  fun o n => h (o n q) o (n + 1)

theorem never_ask {q : Q} {f : A q → Flow A R} (h : ∀ a, (f a).Never) : (ask q f).Never :=
  fun o n => h (o n q) o (n + 1)

/-- A handler that has been called is called again, or the app traps. -/
theorem never_complete {r : R} {f : Flow A R} (h : f.Loud) : (complete r f).Never := by
  rintro o n ⟨hlength, htrapped⟩
  simp only [run_complete, List.length_cons, Nat.add_eq_right, List.length_eq_zero_iff]
    at hlength htrapped
  rw [h o n hlength] at htrapped
  cases htrapped

variable {P : (q : Q) × A q → Prop}

theorem onceIf_complete (r : R) : (complete r stop : Flow A R).OnceIf P :=
  fun _ _ => iff_of_true ⟨rfl, rfl⟩ (List.forall_mem_nil _)

theorem OnceIf.send {f : Flow A R} (h : f.OnceIf P) (q : Q) : (Flow.send q f).OnceIf P := h

/-- **The rule for a request.**  A good answer leads to a function that completes once
precisely when the later answers are good, a bad one to a function that never does. -/
theorem onceIf_ask {q : Q} {f : A q → Flow A R} (hgood : ∀ a, P ⟨q, a⟩ → (f a).OnceIf P)
    (hbad : ∀ a, ¬ P ⟨q, a⟩ → (f a).Never) : (ask q f).OnceIf P := by
  intro o n
  rw [run_ask, answers, List.forall_mem_cons]
  by_cases ha : P ⟨q, o n q⟩
  · exact (hgood _ ha o (n + 1)).trans (and_iff_right ha).symm
  · exact iff_of_false (hbad _ ha o (n + 1)) fun h => ha h.1

/-- The same for a function that may also be called with arguments that it cannot start
with: `S` says of them that it can. -/
def OnceWhen (S : Prop) (P : (q : Q) × A q → Prop) (f : Flow A R) : Prop :=
  (S → f.OnceIf P) ∧ (¬ S → f.Never)

theorem OnceIf.onceWhen {f : Flow A R} (h : f.OnceIf P) : f.OnceWhen True P :=
  ⟨fun _ => h, fun hn => absurd trivial hn⟩

theorem OnceWhen.congr {S S' : Prop} {f : Flow A R} (h : f.OnceWhen S P) (hS : S ↔ S') :
    f.OnceWhen S' P := propext hS ▸ h

/-- A guard before the function. -/
theorem OnceWhen.guard {S S' : Prop} {f : Flow A R} (h : S → f.OnceWhen S' P)
    (hn : ¬ S → f.Never) : f.OnceWhen (S ∧ S') P := by
  refine ⟨fun hS => (h hS.1).1 hS.2, fun hS => ?_⟩
  by_cases hfirst : S
  · exact (h hfirst).2 fun hsecond => hS ⟨hfirst, hsecond⟩
  · exact hn hfirst

theorem OnceWhen.iff {S : Prop} {f : Flow A R} (h : f.OnceWhen S P) (o : Oracle A) (n : ℕ) :
    (f.run o n).Once ↔ S ∧ ∀ x ∈ f.answers o n, P x := by
  by_cases hS : S
  · exact (h.1 hS o n).trans (and_iff_right hS).symm
  · exact iff_of_false (h.2 hS o n) fun hboth => hS hboth.1

end Flow

end Callbacks
