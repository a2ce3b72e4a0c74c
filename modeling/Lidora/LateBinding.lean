import Lidora.Callbacks
import Lidora.InFlight
import Lidora.Runs

/-! # Functions that look at where they are, each time they are called back

A function that is called back (`Callbacks.Flow`) may depend on something outside of it, such as
who is signed in.  What it depends on can be looked at when the function is called, and then stays
fixed for it (`Late.fixed`), or whenever one of its callbacks says so (`Late.look`).  By then
it may have changed.

A device runs many calls at once (`Device`).  Each is made for whatever is current when it is
made, its `caller`, and goes on when one of its requests is answered, in any order; in between,
what is current switches at will.  `mine e q` says that the request `q` is one that `e` makes.

The result is `mine_iff`.  While the device is up, every request of every call is its caller's
**if and only if** every callback that looks again still finds the caller.  It takes two
properties of the functions, both by cases along the tree: a request is of whom the function
has looked at last (`Follows`), and who looks tells, by the next request, whom it has seen
(`Tells`).
-/
namespace LateBinding
open Callbacks Runs

section
variable {Q : Type} (A : Q → Type) (R E : Type)

/-- A function that is called back, and that looks around. -/
inductive Late where
  | stop
  | trap
  | complete (r : R) (next : Late)
  | send (q : Q) (next : Late)
  | ask (q : Q) (next : A q → Late)
  /-- What is current is looked at. -/
  | look (next : E → Late)

/-- A call that waits for the answer to a request. -/
abbrev Waiting : Type := (q : Q) × (A q → Late A R E)

end

variable {Q : Type} {A : Q → Type} {R E : Type}

/-! ## Functions that look once -/

namespace Late

/-- A function that does not look. -/
def ofFlow : Flow A R → Late A R E
  | .stop => .stop
  | .trap => .trap
  | .complete r next => .complete r (ofFlow next)
  | .send q next => .send q (ofFlow next)
  | .ask q next => .ask q fun a => ofFlow (next a)

/-- The function if it finds `e` whenever it looks. -/
def fixed (e : E) : Late A R E → Flow A R
  | stop => .stop
  | trap => .trap
  | complete r next => .complete r (next.fixed e)
  | send q next => .send q (next.fixed e)
  | ask q next => .ask q fun a => (next a).fixed e
  | look next => (next e).fixed e

@[simp] theorem fixed_ofFlow (e : E) (f : Flow A R) : (ofFlow f).fixed e = f := by
  induction f with
  | stop => rfl
  | trap => rfl
  | complete r next ih => exact congrArg (Flow.complete r) ih
  | send q next ih => exact congrArg (Flow.send q) ih
  | ask q next ih => exact congrArg (Flow.ask q) (funext ih)

/-! ## Up to the next answer -/

/-- The requests that it makes before it waits for an answer, with `e` current. -/
def made (e : E) : Late A R E → List Q
  | stop | trap => []
  | complete _ next => next.made e
  | send q next => q :: next.made e
  | ask q _ => [q]
  | look next => (next e).made e

/-- It traps before it waits. -/
def traps (e : E) : Late A R E → Bool
  | trap => true
  | stop | ask _ _ => false
  | complete _ next | send _ next => next.traps e
  | look next => (next e).traps e

/-- What it waits for, unless it has ended. -/
def waiting (e : E) : Late A R E → Option (Waiting A R E)
  | stop | trap => none
  | complete _ next | send _ next => next.waiting e
  | ask q next => some ⟨q, next⟩
  | look next => (next e).waiting e

/-- It looks before it waits. -/
def looks : Late A R E → Bool
  | stop | trap | ask _ _ => false
  | complete _ next | send _ next => next.looks
  | look _ => true

/-! ## Whose requests it makes -/

section
variable (mine : E → Q → Prop)

/-- Every request is of whom it has looked at last, `e` to begin with. -/
def Follows (e : E) : Late A R E → Prop
  | stop | trap => True
  | complete _ next => next.Follows e
  | send q next => mine e q ∧ next.Follows e
  | ask q next => mine e q ∧ ∀ a, (next a).Follows e
  | look next => ∀ e', (next e').Follows e'

/-- It goes on with a request that none but `e` makes, or traps. -/
def Names (e : E) : Late A R E → Prop
  | trap => True
  | send q _ | ask q _ => ∀ e', mine e' q → e' = e
  | stop | complete _ _ | look _ => False

/-- Whenever it looks, what it does next tells whom it has found. -/
def Tells : Late A R E → Prop
  | stop | trap => True
  | complete _ next | send _ next => next.Tells
  | ask _ next => ∀ a, (next a).Tells
  | look next => ∀ e, (next e).Names mine e ∧ (next e).Tells

/-- Whenever it looks and finds `e`, it traps. -/
def Needs (e : E) : Late A R E → Prop
  | stop | trap => True
  | complete _ next | send _ next => next.Needs e
  | ask _ next => ∀ a, (next a).Needs e
  | look next => next e = trap ∧ ∀ e', (next e').Needs e

end

/-- It never looks. -/
def NeverLooks : Late A R E → Prop
  | stop | trap => True
  | complete _ next | send _ next => next.NeverLooks
  | ask _ next => ∀ a, (next a).NeverLooks
  | look _ => False

/-- It never looks after it has waited. -/
def LooksAtOnce : Late A R E → Prop
  | stop | trap => True
  | complete _ next | send _ next => next.LooksAtOnce
  | ask _ next => ∀ a, (next a).NeverLooks
  | look next => ∀ e, (next e).LooksAtOnce

/-! ## What these say of the part before an answer -/

variable {mine : E → Q → Prop} {e e₀ : E} {f : Late A R E}

/-- **Without a look**, all requests are of whom it has looked at before, and so it goes on. -/
theorem Follows.of_not_looks (h : f.Follows mine e₀) (hlooks : f.looks = false) :
    (∀ q ∈ f.made e, mine e₀ q) ∧ ∀ w, f.waiting e = some w → ∀ a, (w.2 a).Follows mine e₀ := by
  induction f with
  | stop | trap => exact ⟨by simp [made], by simp [waiting]⟩
  | complete r next ih => exact ih h hlooks
  | send q next ih =>
    obtain ⟨hmade, hwaiting⟩ := ih h.2 hlooks
    exact ⟨List.forall_mem_cons.mpr ⟨h.1, hmade⟩, hwaiting⟩
  | ask q next ih =>
    refine ⟨List.forall_mem_singleton.mpr h.1, fun w hw a => ?_⟩
    cases hw
    exact h.2 a
  | look next ih => cases hlooks

/-- **With a look at `e`**, it goes on for `e`. -/
theorem Follows.of_looks (h : f.Follows mine e₀) (hlooks : f.looks = true) :
    ∀ w, f.waiting e = some w → ∀ a, (w.2 a).Follows mine e := by
  induction f generalizing e₀ with
  | stop | trap | ask => cases hlooks
  | complete r next ih => exact ih h hlooks
  | send q next ih => exact ih h.2 hlooks
  | look next ih =>
    have hnext := h e
    by_cases hagain : (next e).looks = true
    · exact ih e hnext hagain
    · exact (hnext.of_not_looks (Bool.eq_false_iff.mpr hagain)).2

/-- Where it has been for `e` all along, all requests are of `e`. -/
theorem Follows.made_mine (h : f.Follows mine e) : ∀ q ∈ f.made e, mine e q := by
  induction f with
  | stop | trap => exact by simp [made]
  | complete r next ih => exact ih h
  | send q next ih => exact List.forall_mem_cons.mpr ⟨h.1, ih h.2⟩
  | ask q next ih => exact List.forall_mem_singleton.mpr h.1
  | look next ih => exact ih e (h e)

/-- A request that names `e` is made, if it does not trap. -/
theorem Names.exists_made (h : f.Names mine e₀) (htraps : f.traps e = false) :
    ∃ q ∈ f.made e, ∀ e', mine e' q → e' = e₀ := by
  cases f with
  | trap => cases htraps
  | send q next => exact ⟨q, List.mem_cons_self, h⟩
  | ask q next => exact ⟨q, List.mem_singleton_self q, h⟩
  | stop | complete | look => exact h.elim

/-- **Who looks tells**: there is a request that only `e` makes. -/
theorem Tells.exists_made (h : f.Tells mine) (hlooks : f.looks = true)
    (htraps : f.traps e = false) : ∃ q ∈ f.made e, ∀ e', mine e' q → e' = e := by
  induction f with
  | stop | trap | ask => cases hlooks
  | complete r next ih => exact ih h hlooks htraps
  | send q next ih =>
    obtain ⟨q', hq', honly⟩ := ih h hlooks htraps
    exact ⟨q', List.mem_cons_of_mem q hq', honly⟩
  | look next ih => exact (h e).1.exists_made htraps

theorem Tells.waiting (h : f.Tells mine) :
    ∀ w, f.waiting e = some w → ∀ a, (w.2 a).Tells mine := by
  induction f with
  | stop | trap => exact by simp [Late.waiting]
  | complete r next ih => exact ih h
  | send q next ih => exact ih h
  | ask q next ih =>
    intro w hw a
    cases hw
    exact h a
  | look next ih => exact ih e (h e).2

theorem Needs.waiting (h : f.Needs e₀) :
    ∀ w, f.waiting e = some w → ∀ a, (w.2 a).Needs e₀ := by
  induction f with
  | stop | trap => exact by simp [Late.waiting]
  | complete r next ih => exact ih h
  | send q next ih => exact ih h
  | ask q next ih =>
    intro w hw a
    cases hw
    exact h a
  | look next ih => exact ih e (h.2 e)

/-- A function that needs somebody and looks when nobody is there traps. -/
theorem Needs.traps (h : f.Needs e) (hlooks : f.looks = true) : f.traps e = true := by
  induction f with
  | stop | trap | ask => cases hlooks
  | complete r next ih => exact ih h hlooks
  | send q next ih => exact ih h hlooks
  | look next ih =>
    rw [Late.traps, h.1]
    rfl

theorem NeverLooks.looks (h : f.NeverLooks) : f.looks = false := by
  induction f with
  | stop | trap | ask => rfl
  | complete r next ih => exact ih h
  | send q next ih => exact ih h
  | look next ih => exact h.elim

theorem NeverLooks.looksAtOnce (h : f.NeverLooks) : f.LooksAtOnce := by
  induction f with
  | stop | trap => trivial
  | complete r next ih => exact ih h
  | send q next ih => exact ih h
  | ask q next ih => exact h
  | look next ih => exact h.elim

theorem LooksAtOnce.waiting (h : f.LooksAtOnce) :
    ∀ w, f.waiting e = some w → ∀ a, (w.2 a).NeverLooks := by
  induction f with
  | stop | trap => exact by simp [Late.waiting]
  | complete r next ih => exact ih h
  | send q next ih => exact ih h
  | ask q next ih =>
    intro w hw a
    cases hw
    exact h a
  | look next ih => exact ih e (h e)

end Late

/-! ## A device -/

/-- A call in progress: whom it was made for, and what it waits for. -/
structure Ongoing (A : Q → Type) (R E : Type) where
  caller : E
  rest : Waiting A R E

/-- A device: what is current, the calls in progress, the requests that were made and for
whom, and whether the app has trapped. -/
structure Device (A : Q → Type) (R E : Type) where
  current : E
  calls : InFlight (Ongoing A R E)
  made : List (E × Q)
  down : Bool

/-- What happens on a device.  An answer comes for whatever the call has asked. -/
inductive Event (A : Q → Type) (E C : Type) where
  | switch (e : E)
  | call (c : C)
  | answer (n : ℕ) (a : (q : Q) → A q)

namespace Device

def start (e : E) : Device A R E := ⟨e, .empty, [], false⟩

/-- The part of `f` before its next answer, for `caller`. -/
def perform (s : Device A R E) (caller : E) (f : Late A R E) (calls : InFlight (Ongoing A R E)) :
    Device A R E where
  current := s.current
  calls := calls
  made := s.made ++ (f.made s.current).map (caller, ·)
  down := f.traps s.current

end Device

section
variable {C : Type} (operation : C → Late A R E)

/-- The function that an event sets going, and for whom. -/
def going (s : Device A R E) : Event A E C → Option (E × Late A R E)
  | .switch _ => none
  | .call c => some (s.current, operation c)
  | .answer n a => (s.calls.running n).map fun c => (c.caller, c.rest.2 (a c.rest.1))

/-- `none` where the app is down, or the call does not wait. -/
def deviceStep (s : Device A R E) (e : Event A E C) : Option (Device A R E) :=
  if s.down then none
  else
    match e with
    | .switch e => some { s with current := e }
    | .call c =>
      let f := operation c
      some (s.perform s.current f (match f.waiting s.current with
        | some w => s.calls.start ⟨s.current, w⟩
        | none => s.calls))
    | .answer n a =>
      (s.calls.running n).map fun c =>
        let f := c.rest.2 (a c.rest.1)
        s.perform c.caller f (s.calls.move n fun _ => (f.waiting s.current).map (⟨c.caller, ·⟩))

/-- The step looks at what is current only if its caller is. -/
def FindsCaller (s : Device A R E) (e : Event A E C) : Prop :=
  ∀ x ∈ going operation s e, x.2.looks = true → x.1 = s.current

/-- The step does not look while `bad` is current. -/
def Avoids (bad : E) (s : Device A R E) (e : Event A E C) : Prop :=
  ∀ x ∈ going operation s e, x.2.looks = true → s.current ≠ bad

/-- Every request so far is its caller's. -/
def AllMine (mine : E → Q → Prop) (s : Device A R E) : Prop := ∀ x ∈ s.made, mine x.1 x.2

variable {operation} {s s' t : Device A R E} {e : Event A E C} {es : List (Event A E C)}

/-- What a step does: it switches, or it performs the function that it sets going, after
which the calls in progress are those from before and maybe this one. -/
theorem deviceStep_cases (h : deviceStep operation s e = some s') : s.down = false ∧
    ((going operation s e = none ∧ ∃ e', s' = { s with current := e' }) ∨
      ∃ caller f calls, going operation s e = some (caller, f) ∧
        s' = s.perform caller f calls ∧
        ∀ m c, calls.running m = some c → s.calls.running m = some c ∨
          c.caller = caller ∧ f.waiting s.current = some c.rest) := by
  unfold deviceStep at h
  split at h
  · cases h
  rename_i hup
  refine ⟨Bool.eq_false_iff.mpr hup, ?_⟩
  cases e with
  | switch e =>
    cases h
    exact Or.inl ⟨rfl, e, rfl⟩
  | call c =>
    cases h
    refine Or.inr ⟨s.current, operation c, _, rfl, rfl, fun m c' hc' => ?_⟩
    cases hw : (operation c).waiting s.current with
    | none =>
      rw [hw] at hc'
      exact Or.inl hc'
    | some w =>
      rw [hw] at hc'
      rcases InFlight.start_cases hc' with ⟨-, rfl⟩ | hc'
      · exact Or.inr ⟨rfl, rfl⟩
      · exact Or.inl hc'
  | answer n a =>
    obtain ⟨c, hc, rfl⟩ := Option.map_eq_some_iff.mp h
    refine Or.inr ⟨c.caller, c.rest.2 (a c.rest.1), _, ?_, rfl, fun m c' hc' => ?_⟩
    · rw [going, hc]
      rfl
    · by_cases hm : m = n
      · rw [hm, InFlight.move_self, hc, Option.bind_some] at hc'
        obtain ⟨w, hw, rfl⟩ := Option.map_eq_some_iff.mp hc'
        exact Or.inr ⟨rfl, hw⟩
      · rw [InFlight.move_of_ne _ _ hm] at hc'
        exact Or.inl hc'

/-- No request is forgotten. -/
theorem prefix_of_made (h : run (deviceStep operation) s es = some t) : s.made <+: t.made := by
  refine run_invariant (s.made <+: ·.made) ?_ (List.prefix_refl _) h
  intro s₁ e s₂ hs₁ hstep
  obtain ⟨-, ⟨-, e', rfl⟩ | ⟨caller, f, calls, -, rfl, -⟩⟩ := deviceStep_cases hstep
  · exact hs₁
  · exact hs₁.trans (List.prefix_append _ _)

/-- An app that is up has been up. -/
theorem up_of_run (h : run (deviceStep operation) s es = some t) (hup : t.down = false) :
    s.down = false := by
  cases es with
  | nil =>
    cases h
    exact hup
  | cons e es =>
    obtain ⟨s', he, -⟩ := (run_cons_iff _).mp h
    exact (deviceStep_cases he).1

end

/-! ## The requests of all calls -/

/-- The functions of a device, of which `mine` says whose requests they make. -/
structure Service {Q : Type} (A : Q → Type) (R E C : Type) (mine : E → Q → Prop) where
  operation : C → Late A R E
  follows : ∀ c e, (operation c).Follows mine e
  tells : ∀ c, (operation c).Tells mine

section
variable {C : Type} {mine : E → Q → Prop} (service : Service A R E C mine)
  {s s' t : Device A R E} {e : Event A E C} {es : List (Event A E C)}

/-- Each call in progress goes on for whom it has looked at last, and if that is not its
caller, a request gives it away. -/
def Traced (mine : E → Q → Prop) (s : Device A R E) : Prop :=
  ∀ m c, s.calls.running m = some c → (∀ a, (c.rest.2 a).Tells mine) ∧
    ∃ e, (∀ a, (c.rest.2 a).Follows mine e) ∧
      (e = c.caller ∨ ∃ q, (c.caller, q) ∈ s.made ∧ ¬ mine c.caller q)

/-- What a step sets going tells, and follows its caller or whom a request gives away. -/
theorem Traced.going (h : Traced mine s) {caller : E} {f : Late A R E}
    (hgoing : LateBinding.going service.operation s e = some (caller, f)) : f.Tells mine ∧
      ∃ e₀, f.Follows mine e₀ ∧ (e₀ = caller ∨ ∃ q, (caller, q) ∈ s.made ∧ ¬ mine caller q) := by
  cases e with
  | switch e => cases hgoing
  | call c =>
    cases hgoing
    exact ⟨service.tells c, s.current, service.follows c s.current, Or.inl rfl⟩
  | answer n a =>
    obtain ⟨c, hc, heq⟩ := Option.map_eq_some_iff.mp hgoing
    cases heq
    obtain ⟨htells, e₀, hfollows, hlast⟩ := h n c hc
    exact ⟨htells _, e₀, hfollows _, hlast⟩

/-- A request that none but `e` makes is the caller's only if the caller is `e`. -/
theorem eq_or_foreign {caller e : E} {f : Late A R E} (htells : f.Tells mine)
    (hlooks : f.looks = true) (htraps : f.traps e = false) :
    e = caller ∨ ∃ q ∈ f.made e, ¬ mine caller q := by
  obtain ⟨q, hq, honly⟩ := htells.exists_made hlooks htraps
  by_cases hmine : mine caller q
  · exact Or.inl (honly caller hmine).symm
  · exact Or.inr ⟨q, hq, hmine⟩

/-- A step that does not trap leaves every call traced. -/
theorem Traced.step (h : Traced mine s) (hstep : deviceStep service.operation s e = some s')
    (hup : s'.down = false) : Traced mine s' := by
  obtain ⟨-, ⟨-, e', rfl⟩ | ⟨caller, f, calls, hgoing, rfl, hcalls⟩⟩ := deviceStep_cases hstep
  · exact h
  obtain ⟨htells, e₀, hfollows, hlast⟩ := h.going service hgoing
  intro m c hc
  rcases hcalls m c hc with hold | ⟨rfl, hw⟩
  · obtain ⟨htells', e₁, hfollows', hlast'⟩ := h m c hold
    refine ⟨htells', e₁, hfollows', hlast'.imp_right ?_⟩
    rintro ⟨q, hq, hforeign⟩
    exact ⟨q, List.mem_append_left _ hq, hforeign⟩
  · refine ⟨htells.waiting _ hw, ?_⟩
    by_cases hlooks : f.looks = true
    · -- it goes on for whom it has found now
      refine ⟨s.current, hfollows.of_looks hlooks _ hw, ?_⟩
      refine (eq_or_foreign htells hlooks hup).imp_right ?_
      rintro ⟨q, hq, hforeign⟩
      exact ⟨q, List.mem_append_right _ (List.mem_map_of_mem hq), hforeign⟩
    · refine ⟨e₀, (hfollows.of_not_looks (Bool.eq_false_iff.mpr hlooks)).2 _ hw, ?_⟩
      refine hlast.imp_right ?_
      rintro ⟨q, hq, hforeign⟩
      exact ⟨q, List.mem_append_left _ hq, hforeign⟩

/-- **One step** that finds its caller whenever it looks makes requests for the caller alone. -/
theorem allMine_step (h : Traced mine s) (hmine : AllMine mine s)
    (hstep : deviceStep service.operation s e = some s')
    (hfinds : FindsCaller service.operation s e) : AllMine mine s' := by
  obtain ⟨-, ⟨-, e', rfl⟩ | ⟨caller, f, calls, hgoing, rfl, -⟩⟩ := deviceStep_cases hstep
  · exact hmine
  obtain ⟨-, e₀, hfollows, hlast⟩ := h.going service hgoing
  have hcaller : e₀ = caller := by
    refine hlast.resolve_right ?_
    rintro ⟨q, hq, hforeign⟩
    exact hforeign (hmine _ hq)
  subst hcaller
  refine List.forall_mem_append.mpr ⟨hmine, fun x hx => ?_⟩
  obtain ⟨q, hq, rfl⟩ := List.mem_map.mp hx
  by_cases hlooks : f.looks = true
  · have hcurrent : e₀ = s.current := hfinds (e₀, f) hgoing hlooks
    rw [← hcurrent] at hq
    exact hfollows.made_mine q hq
  · exact (hfollows.of_not_looks (Bool.eq_false_iff.mpr hlooks)).1 q hq

/-- A step that looks, finds somebody else and does not trap gives itself away. -/
theorem findsCaller_of_allMine (h : Traced mine s)
    (hstep : deviceStep service.operation s e = some s') (hup : s'.down = false)
    (hall : AllMine mine s') : FindsCaller service.operation s e := by
  intro x hx hlooks
  obtain ⟨-, ⟨hgoing, -⟩ | ⟨caller, f, calls, hgoing, rfl, -⟩⟩ := deviceStep_cases hstep
  · cases hgoing.symm.trans hx
  cases hgoing.symm.trans hx
  obtain ⟨htells, -⟩ := h.going service hgoing
  have hwhose : s.current = caller ∨ _ := eq_or_foreign htells hlooks hup
  rcases hwhose with heq | ⟨q, hq, hforeign⟩
  · exact heq.symm
  · exact absurd (hall _ (List.mem_append_right _ (List.mem_map_of_mem hq))) hforeign

/-- Where every step finds its caller, all requests are their callers'. -/
theorem allMine_of_finds (h : Traced mine s) (hmine : AllMine mine s)
    (hrun : run (deviceStep service.operation) s es = some t)
    (hfinds : Along (deviceStep service.operation) (FindsCaller service.operation) s es) :
    AllMine mine t := by
  induction es generalizing s with
  | nil =>
    cases hrun
    exact hmine
  | cons e es ih =>
    obtain ⟨s₁, he, hrun⟩ := (run_cons_iff _).mp hrun
    have hmine₁ := allMine_step service h hmine he hfinds.1
    by_cases hup : s₁.down = false
    · exact ih (h.step service he hup) hmine₁ hrun (hfinds.2 s₁ he)
    · -- nothing happens after a trap
      cases es with
      | nil =>
        cases hrun
        exact hmine₁
      | cons e' es =>
        obtain ⟨s₂, he', -⟩ := (run_cons_iff _).mp hrun
        exact absurd (deviceStep_cases he').1 hup

/-- **All calls, whatever happens.**  Where the app is still up, every request of every call
is its caller's if and only if every step finds its caller whenever it looks. -/
theorem mine_iff (h : Traced mine s) (hmine : AllMine mine s)
    (hrun : run (deviceStep service.operation) s es = some t) (hup : t.down = false) :
    AllMine mine t ↔
      Along (deviceStep service.operation) (FindsCaller service.operation) s es := by
  refine ⟨fun hall => ?_, allMine_of_finds service h hmine hrun⟩
  clear hmine
  induction es generalizing s with
  | nil => trivial
  | cons e es ih =>
    obtain ⟨s₁, he, hrun⟩ := (run_cons_iff _).mp hrun
    have hup₁ := up_of_run hrun hup
    have hmine₁ : AllMine mine s₁ := fun x hx => hall x ((prefix_of_made hrun).subset hx)
    refine ⟨findsCaller_of_allMine service h he hup₁ hmine₁, fun s' he' => ?_⟩
    cases he.symm.trans he'
    exact ih (h.step service he hup₁) hrun

end

/-! ## Nobody there -/

section
variable {C : Type} {operation : C → Late A R E} {s t : Device A R E} {es : List (Event A E C)}

/-- **A look at nobody takes the app down**, where every function needs somebody: an app that
is up has never looked while `bad` was current. -/
theorem avoids_of_up {bad : E} (hneeds : ∀ c, (operation c).Needs bad)
    (hs : ∀ m c, s.calls.running m = some c → ∀ a, (c.rest.2 a).Needs bad)
    (hrun : run (deviceStep operation) s es = some t) (hup : t.down = false) :
    Along (deviceStep operation) (Avoids operation bad) s es := by
  induction es generalizing s with
  | nil => trivial
  | cons e es ih =>
    obtain ⟨s₁, he, hrun⟩ := (run_cons_iff _).mp hrun
    have hup₁ := up_of_run hrun hup
    have hgoing : ∀ x ∈ going operation s e, x.2.Needs bad := by
      intro x hx
      cases e with
      | switch e => cases hx
      | call c =>
        cases hx
        exact hneeds c
      | answer n a =>
        obtain ⟨c, hc, rfl⟩ := Option.map_eq_some_iff.mp hx
        exact hs n c hc _
    obtain ⟨-, ⟨hnone, e', rfl⟩ | ⟨caller, f, calls, hsome, rfl, hcalls⟩⟩ := deviceStep_cases he
    · refine ⟨fun x hx => ?_, fun s' he' => ?_⟩
      · rw [hnone] at hx
        cases hx
      · cases he.symm.trans he'
        exact ih hs hrun
    · refine ⟨fun x hx hlooks hbad => ?_, fun s' he' => ?_⟩
      · cases hsome.symm.trans hx
        have htraps : f.traps s.current = true := by
          rw [hbad]
          exact (hgoing _ hx).traps hlooks
        exact absurd (htraps.symm.trans hup₁) (by decide)
      · cases he.symm.trans he'
        refine ih (fun m c hc => ?_) hrun
        rcases hcalls m c hc with hold | ⟨-, hw⟩
        · exact hs m c hold
        · exact (hgoing _ hsome).waiting _ hw

/-- **Functions that look at once find their caller**, whatever switches later. -/
theorem findsCaller_of_looksAtOnce
    (hs : ∀ m c, s.calls.running m = some c → ∀ a, (c.rest.2 a).NeverLooks)
    (hes : ∀ c, .call c ∈ es → (operation c).LooksAtOnce) :
    Along (deviceStep operation) (FindsCaller operation) s es := by
  induction es generalizing s with
  | nil => trivial
  | cons e es ih =>
    have hgoing : ∀ x ∈ going operation s e,
        x.2.LooksAtOnce ∧ (x.2.looks = true → x.1 = s.current) := by
      intro x hx
      cases e with
      | switch e => cases hx
      | call c =>
        cases hx
        exact ⟨hes c List.mem_cons_self, fun _ => rfl⟩
      | answer n a =>
        obtain ⟨c, hc, rfl⟩ := Option.map_eq_some_iff.mp hx
        have hnever := hs n c hc (a c.rest.1)
        refine ⟨hnever.looksAtOnce, fun hlooks => ?_⟩
        rw [hnever.looks] at hlooks
        cases hlooks
    refine ⟨fun x hx hlooks => (hgoing x hx).2 hlooks, fun s' he => ?_⟩
    refine ih (fun m c hc => ?_) fun c hc => hes c (List.mem_cons_of_mem _ hc)
    obtain ⟨-, ⟨-, e', rfl⟩ | ⟨caller, f, calls, hsome, rfl, hcalls⟩⟩ := deviceStep_cases he
    · exact hs m c hc
    · rcases hcalls m c hc with hold | ⟨-, hw⟩
      · exact hs m c hold
      · exact (hgoing _ hsome).1.waiting _ hw

end

end LateBinding
