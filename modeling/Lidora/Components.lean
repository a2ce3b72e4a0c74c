import Lidora.DocumentStore
import Lidora.Runs

/-! # Components over one store

A component is a transition system that holds a store among other things (`Component`).
Its footprint says which keys it reads and which it writes (`Footprint`): a step leaves the
other keys as they are, and comes out the same over any store that agrees on the keys that
are read.

Any number of components may share one store, each step being a step of one of them
(`wholeStep`).  A component whose keys nobody else writes does not notice: the events that
are its own, taken out of a run of the whole, are a run of the component by itself
(`run_share`), and where this goes for all of them the runs of the whole are exactly the
interleavings of their runs (`run_whole_iff`).
-/
namespace Components
open DocumentStore Runs

variable {K V : Type}

/-! ## Components -/

/-- A transition system whose states hold a store, with the laws of taking the store out
and of putting another in its place. -/
structure Component (K V : Type) where
  State : Type
  Event : Type
  step : State → Event → Option State
  store : State → Store K V
  withStore : State → Store K V → State
  store_withStore : ∀ s m, store (withStore s m) = m
  withStore_store : ∀ s, withStore s (store s) = s
  withStore_withStore : ∀ s m m', withStore (withStore s m) m' = withStore s m'

/-! ## All components together -/

section
variable {ι : Type} (c : ι → Component K V)

/-- The store that the components share, and the state of each; the store within such a
state is not looked at. -/
structure Whole where
  store : Store K V
  parts : ∀ i, (c i).State

/-- An event of one of the components. -/
abbrev WholeEvent : Type := Σ i, (c i).Event

variable {c}

/-- Component `i`, over the store that is shared. -/
def Whole.view (s : Whole c) (i : ι) : (c i).State := (c i).withStore (s.parts i) s.store

@[simp] theorem store_view (s : Whole c) (i : ι) : (c i).store (s.view i) = s.store :=
  (c i).store_withStore _ _

variable [DecidableEq ι] (c)

/-- One step of one component. -/
def wholeStep (s : Whole c) (e : WholeEvent c) : Option (Whole c) :=
  ((c e.1).step (s.view e.1) e.2).map fun s' =>
    ⟨(c e.1).store s', Function.update s.parts e.1 s'⟩

/-- The events of component `i`. -/
def share (i : ι) (es : List (WholeEvent c)) : List (c i).Event :=
  es.filterMap fun e => if h : e.1 = i then some (h ▸ e.2) else none

variable {c}

@[simp] theorem share_nil (i : ι) : share c i [] = [] := rfl

theorem share_cons_self {i : ι} (e : (c i).Event) (es : List (WholeEvent c)) :
    share c i (⟨i, e⟩ :: es) = e :: share c i es := by
  rw [share, List.filterMap_cons_some (b := e) (dif_pos rfl)]
  rfl

theorem share_cons_of_ne {i j : ι} (h : j ≠ i) (e : (c j).Event) (es : List (WholeEvent c)) :
    share c i (⟨j, e⟩ :: es) = share c i es := by
  rw [share, List.filterMap_cons_none (dif_neg h)]
  rfl

/-- A step of the whole is one of the component that the event belongs to. -/
theorem wholeStep_iff {s s' : Whole c} {i : ι} {e : (c i).Event} :
    wholeStep c s ⟨i, e⟩ = some s' ↔ ∃ p, (c i).step (s.view i) e = some p ∧
      s' = ⟨(c i).store p, Function.update s.parts i p⟩ := by
  unfold wholeStep
  rw [Option.map_eq_some_iff]
  exact exists_congr fun p => and_congr_right fun _ => eq_comm

/-- The component that has moved is seen as it is. -/
theorem view_update_self (s : Whole c) (i : ι) (p : (c i).State) :
    (⟨(c i).store p, Function.update s.parts i p⟩ : Whole c).view i = p := by
  show (c i).withStore (Function.update s.parts i p i) ((c i).store p) = p
  rw [Function.update_self, (c i).withStore_store]

/-- The others are where they were, over the new store. -/
theorem view_update_of_ne {i j : ι} (h : j ≠ i) (s : Whole c) (p : (c i).State) :
    (⟨(c i).store p, Function.update s.parts i p⟩ : Whole c).view j =
      (c j).withStore (s.view j) ((c i).store p) := by
  show (c j).withStore (Function.update s.parts i p j) ((c i).store p) = _
  rw [Function.update_of_ne h, Whole.view, (c j).withStore_withStore]

end

/-! ## Stores that agree on some keys -/

variable [DecidableEq K]

/-- The stores hold the same documents under the keys of `R`. -/
def Agree (R : Set K) (m m' : Store K V) : Prop := ∀ k ∈ R, m'.lookup k = m.lookup k

section
variable {R : Set K} {m m' m'' : Store K V}

theorem Agree.refl (R : Set K) (m : Store K V) : Agree R m m := fun _ _ => rfl

theorem Agree.symm (h : Agree R m m') : Agree R m' m := fun k hk => (h k hk).symm

theorem Agree.trans (h : Agree R m m') (h' : Agree R m' m'') : Agree R m m'' :=
  fun k hk => (h' k hk).trans (h k hk)

/-- The same document is inserted into both. -/
theorem Agree.insert (h : Agree R m m') (k : K) (v : V) :
    Agree R (m.insert k v) (m'.insert k v) := by
  intro l hl
  by_cases hlk : l = k
  · subst hlk
    rw [Finmap.lookup_insert, Finmap.lookup_insert]
  · rw [Finmap.lookup_insert_of_ne _ hlk, Finmap.lookup_insert_of_ne _ hlk]
    exact h l hl

/-- The same document is erased from both. -/
theorem Agree.erase (h : Agree R m m') (k : K) : Agree R (m.erase k) (m'.erase k) := by
  intro l hl
  by_cases hlk : l = k
  · subst hlk
    rw [Finmap.lookup_erase, Finmap.lookup_erase]
  · rw [Finmap.lookup_erase_ne hlk, Finmap.lookup_erase_ne hlk]
    exact h l hl

/-- A write to a key that they agree on comes to the same in both. -/
theorem Agree.applyWrite (h : Agree R m m') {w : Write K V} (hw : w.key ∈ R) :
    Agree R (applyWrite m w) (applyWrite m' w) := by
  unfold DocumentStore.applyWrite
  rw [h w.key hw]
  split
  · exact h.insert _ _
  · exact h.erase _

theorem Agree.applyWrites {ws : List (Write K V)} (hws : ∀ w ∈ ws, w.key ∈ R)
    (h : Agree R m m') : Agree R (applyWrites m ws) (applyWrites m' ws) := by
  induction ws generalizing m m' with
  | nil => exact h
  | cons w ws ih =>
    rw [List.forall_mem_cons] at hws
    exact ih hws.2 (h.applyWrite hws.1)

/-- A document outside is inserted into one of them, or erased. -/
theorem agree_insert_off {k : K} (hk : k ∉ R) (m : Store K V) (v : V) :
    Agree R m (m.insert k v) :=
  fun _ hl => Finmap.lookup_insert_of_ne _ fun hlk => hk (hlk ▸ hl)

theorem agree_erase_off {k : K} (hk : k ∉ R) (m : Store K V) : Agree R m (m.erase k) :=
  fun _ hl => Finmap.lookup_erase_ne fun hlk => hk (hlk ▸ hl)

end

/-! ## What a component touches -/

/-- The keys that a component reads and those that it writes, in the states that meet `Inv`,
which it keeps to and which does not depend on the store. -/
structure Footprint (c : Component K V) where
  reads : Set K
  writes : Set K
  Inv : c.State → Prop
  writes_subset : writes ⊆ reads
  inv_withStore : ∀ s m, Inv s → Inv (c.withStore s m)
  inv_step : ∀ s e s', Inv s → c.step s e = some s' → Inv s'
  /-- What is not written stays. -/
  frame : ∀ s e s', Inv s → c.step s e = some s' → Agree writesᶜ (c.store s) (c.store s')
  /-- What is not read does not matter. -/
  congr : ∀ s e s' m, Inv s → c.step s e = some s' → Agree reads (c.store s) m →
    ∃ m', c.step (c.withStore s m) e = some (c.withStore s' m') ∧ Agree reads (c.store s') m'

section
variable {ι : Type} {c : ι → Component K V} (f : ∀ i, Footprint (c i))

/-- Every component is in a state that its footprint speaks of. -/
def Sound (s : Whole c) : Prop := ∀ i, (f i).Inv (s.view i)

/-- Nobody else writes what component `i` reads. -/
def Apart (i : ι) : Prop := ∀ j, j ≠ i → Disjoint (f j).writes (f i).reads

variable {f}

/-- Component `i` of the whole is where `p` is, and what it reads is the same. -/
structure Mirrors (f : ∀ i, Footprint (c i)) (i : ι) (p : (c i).State) (s : Whole c) : Prop where
  view : s.view i = (c i).withStore p s.store
  agree : Agree (f i).reads ((c i).store p) s.store

/-- At first it is where the whole sees it. -/
theorem mirrors_view (s : Whole c) (i : ι) : Mirrors f i (s.view i) s where
  view := by
    conv_rhs => rw [← store_view s i, (c i).withStore_store]
  agree := by
    rw [store_view]
    exact Agree.refl _ _

/-- What the whole sees of a component, put back over the component's own store. -/
theorem Mirrors.withStore_view {i : ι} {p : (c i).State} {s : Whole c} (h : Mirrors f i p s) :
    (c i).withStore (s.view i) ((c i).store p) = p := by
  rw [h.view, (c i).withStore_withStore, (c i).withStore_store]

variable [DecidableEq ι]

theorem sound_step {s s' : Whole c} {e : WholeEvent c} (h : Sound f s)
    (hstep : wholeStep c s e = some s') : Sound f s' := by
  obtain ⟨i, e⟩ := e
  obtain ⟨p, hp, rfl⟩ := wholeStep_iff.mp hstep
  intro j
  by_cases hj : j = i
  · subst hj
    rw [view_update_self]
    exact (f j).inv_step _ _ _ (h j) hp
  · rw [view_update_of_ne hj]
    exact (f j).inv_withStore _ _ (h j)

/-- A step writes where its component does. -/
theorem agree_of_step {s s' : Whole c} {i : ι} {e : (c i).Event} (h : Sound f s)
    (hstep : wholeStep c s ⟨i, e⟩ = some s') :
    Agree (f i).writesᶜ s.store s'.store := by
  obtain ⟨p, hp, rfl⟩ := wholeStep_iff.mp hstep
  have hframe := (f i).frame _ _ _ (h i) hp
  rwa [store_view] at hframe

/-- **What nobody writes stays** in every run. -/
theorem lookup_of_run {s t : Whole c} {es : List (WholeEvent c)} (h : Sound f s)
    (hrun : run (wholeStep c) s es = some t) {k : K} (hk : ∀ e ∈ es, k ∉ (f e.1).writes) :
    t.store.lookup k = s.store.lookup k := by
  induction es generalizing s with
  | nil => rw [← Option.some.inj hrun]
  | cons e es ih =>
    rw [List.forall_mem_cons] at hk
    obtain ⟨i, e⟩ := e
    obtain ⟨s₁, hstep, hrun⟩ := (run_cons_iff _).mp hrun
    rw [ih (sound_step h hstep) hrun hk.2]
    exact agree_of_step h hstep k hk.1

/-! ## A component by itself -/

section Step
variable {i : ι} {p : (c i).State} {s s' : Whole c} (h : Mirrors f i p s)
include h

/-- A component of the whole moves, and so does the component by itself. -/
theorem Mirrors.step (hs : Sound f s) {e : (c i).Event} (hstep : wholeStep c s ⟨i, e⟩ = some s') :
    ∃ p', (c i).step p e = some p' ∧ Mirrors f i p' s' := by
  obtain ⟨p₁, hp₁, rfl⟩ := wholeStep_iff.mp hstep
  obtain ⟨m', hm', hagree⟩ := (f i).congr _ _ _ ((c i).store p) (hs i) hp₁
    (by rw [store_view]; exact h.agree.symm)
  rw [h.withStore_view] at hm'
  refine ⟨_, hm', ?_, ?_⟩
  · rw [view_update_self, (c i).withStore_withStore, (c i).withStore_store]
  · rw [(c i).store_withStore]
    exact hagree.symm

/-- The other way round. -/
theorem Mirrors.step_back (hp : (f i).Inv p) {e : (c i).Event} {p' : (c i).State}
    (hstep : (c i).step p e = some p') :
    ∃ s', wholeStep c s ⟨i, e⟩ = some s' ∧ Mirrors f i p' s' := by
  obtain ⟨m', hm', hagree⟩ := (f i).congr _ _ _ s.store hp hstep h.agree
  rw [← h.view] at hm'
  refine ⟨_, wholeStep_iff.mpr ⟨_, hm', rfl⟩, ?_, ?_⟩
  · rw [view_update_self, (c i).store_withStore]
  · rw [(c i).store_withStore]
    exact hagree

/-- Another component moves: nothing that this one reads is written. -/
theorem Mirrors.step_other (hs : Sound f s) {j : ι} (hj : j ≠ i)
    (hapart : Disjoint (f j).writes (f i).reads) {e : (c j).Event}
    (hstep : wholeStep c s ⟨j, e⟩ = some s') : Mirrors f i p s' := by
  have hagree := agree_of_step hs hstep
  obtain ⟨q, hq, rfl⟩ := wholeStep_iff.mp hstep
  constructor
  · rw [view_update_of_ne hj.symm, h.view, (c i).withStore_withStore]
  · refine h.agree.trans fun k hk => hagree k fun hwritten => ?_
    exact Set.disjoint_left.mp hapart hwritten hk

end Step

/-- **A component that nobody interferes with runs by itself.**  Its own events, taken out
of a run of the whole, are a run of the component alone, to the same state over the same
documents. -/
theorem run_share {i : ι} (hapart : Apart f i) {p : (c i).State} {s t : Whole c}
    (h : Mirrors f i p s) (hs : Sound f s) {es : List (WholeEvent c)}
    (hrun : run (wholeStep c) s es = some t) :
    ∃ q, run (c i).step p (share c i es) = some q ∧ Mirrors f i q t := by
  induction es generalizing p s with
  | nil =>
    cases hrun
    exact ⟨p, rfl, h⟩
  | cons e es ih =>
    obtain ⟨j, e⟩ := e
    obtain ⟨s₁, hstep, hrun⟩ := (run_cons_iff _).mp hrun
    have hs₁ := sound_step hs hstep
    by_cases hj : j = i
    · subst hj
      obtain ⟨p₁, hp₁, h₁⟩ := h.step hs hstep
      obtain ⟨q, hq, ht⟩ := ih h₁ hs₁ hrun
      refine ⟨q, ?_, ht⟩
      rw [share_cons_self]
      exact (run_cons_iff _).mpr ⟨p₁, hp₁, hq⟩
    · obtain ⟨q, hq, ht⟩ := ih (h.step_other hs hj (hapart j hj) hstep) hs₁ hrun
      exact ⟨q, (share_cons_of_ne hj e es).symm ▸ hq, ht⟩

/-- **The runs of the whole are the interleavings of the components' runs**, where nobody
interferes with anybody. -/
theorem run_whole_iff (hapart : ∀ i, Apart f i) {s : Whole c} (hs : Sound f s)
    {es : List (WholeEvent c)} :
    (∃ t, run (wholeStep c) s es = some t) ↔
      ∀ i, ∃ q, run (c i).step (s.view i) (share c i es) = some q := by
  constructor
  · rintro ⟨t, hrun⟩ i
    obtain ⟨q, hq, -⟩ := run_share (hapart i) (mirrors_view s i) hs hrun
    exact ⟨q, hq⟩
  · intro hall
    -- the components move one event at a time, each a mirror of its own run
    have hweave : ∀ (es : List (WholeEvent c)) (s : Whole c) (p : ∀ i, (c i).State), Sound f s →
        (∀ i, Mirrors f i (p i) s) → (∀ i, (f i).Inv (p i)) →
        (∀ i, ∃ q, run (c i).step (p i) (share c i es) = some q) →
          ∃ t, run (wholeStep c) s es = some t := by
      intro es
      induction es with
      | nil => exact fun s p _ _ _ _ => ⟨s, rfl⟩
      | cons e es ih =>
        intro s p hs hmirror hinv hall
        obtain ⟨j, e⟩ := e
        obtain ⟨q, hq⟩ := hall j
        rw [share_cons_self] at hq
        obtain ⟨p₁, hp₁, hq⟩ := (run_cons_iff _).mp hq
        obtain ⟨s₁, hstep, hmirror₁⟩ := (hmirror j).step_back (hinv j) hp₁
        have hmirrors : ∀ i, Mirrors f i (Function.update p j p₁ i) s₁ := by
          intro i
          by_cases hi : i = j
          · subst hi
            rwa [Function.update_self]
          · rw [Function.update_of_ne hi]
            exact (hmirror i).step_other hs (Ne.symm hi) (hapart i j (Ne.symm hi)) hstep
        have hinvs : ∀ i, (f i).Inv (Function.update p j p₁ i) := by
          intro i
          by_cases hi : i = j
          · subst hi
            rw [Function.update_self]
            exact (f i).inv_step _ _ _ (hinv i) hp₁
          · rw [Function.update_of_ne hi]
            exact hinv i
        have hshares : ∀ i, ∃ q, run (c i).step (Function.update p j p₁ i) (share c i es) =
            some q := by
          intro i
          by_cases hi : i = j
          · subst hi
            rw [Function.update_self]
            exact ⟨q, hq⟩
          · rw [Function.update_of_ne hi, ← share_cons_of_ne (Ne.symm hi) e es]
            exact hall i
        obtain ⟨t, ht⟩ := ih s₁ _ (sound_step hs hstep) hmirrors hinvs hshares
        exact ⟨t, (run_cons_iff _).mpr ⟨s₁, hstep, ht⟩⟩
    exact hweave es s s.view hs (mirrors_view s) hs hall

end

end Components
