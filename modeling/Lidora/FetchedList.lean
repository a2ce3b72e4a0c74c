import Lidora.Runs

/-! # Lists that are filled by fetches

A list on a screen is filled by asynchronous fetches.  A fetch is started for a selection,
which may clear the list (`clears`) and is the only thing that does; when it is answered,
its documents are put into the list one by one (`put`), whatever the selection has become
by then.  Fetches are answered in any order, and one that fails brings nothing.

What is listed and what is still on its way make up the documents of the selection all
along a run exactly when no fetch is started while others will still bring something, or,
where the list is not cleared, while there is anything listed either, and none that would
bring something fails (`balanced_iff`).  When everything has been answered the list then
holds the documents of the selection, each of them once.
-/
namespace FetchedList
open Runs

variable {Sel α : Type}

/-- A list, the selection of the last fetch, and those of the fetches that have not been
answered. -/
structure State (Sel α : Type) where
  selected : Option Sel
  items : List α
  pending : List Sel

inductive Event (Sel : Type) where
  /-- A fetch is started. -/
  | start (sel : Sel)
  /-- The `k`-th fetch on its way is answered, or fails. -/
  | answer (k : ℕ) (ok : Bool)

/-- How a list is filled: the documents of a selection, whether a fetch clears the list
when it is started, and where a document goes. -/
structure Filling (Sel α : Type) where
  docs : Sel → List α
  clears : Bool
  put : List α → α → List α
  put_perm : ∀ items a, (put items a).Perm (a :: items)

/-- Nothing has been fetched yet. -/
def State.initial : State Sel α := ⟨none, [], []⟩

namespace Filling
variable (f : Filling Sel α)

/-- One step of the list. -/
def step (s : State Sel α) : Event Sel → Option (State Sel α)
  | .start sel => some ⟨some sel, if f.clears then [] else s.items, s.pending ++ [sel]⟩
  | .answer k ok =>
    s.pending[k]?.map fun sel =>
      ⟨s.selected, if ok then (f.docs sel).foldl f.put s.items else s.items, s.pending.eraseIdx k⟩

/-- What is on its way. -/
def coming (s : State Sel α) : List α := s.pending.flatMap f.docs

/-- The documents of the selection, if there is one. -/
def wanted (s : State Sel α) : List α := s.selected.elim [] f.docs

/-- What is listed and what is on its way are the documents of the selection, each once. -/
def Balanced (s : State Sel α) : Prop := (s.items ++ f.coming s).Perm (f.wanted s)

/-- The list holds the documents of the selection, each once. -/
def Complete (s : State Sel α) : Prop := s.items.Perm (f.wanted s)

/-- The condition on one step under which the list stays balanced. -/
def KeepsBalance (s : State Sel α) : Event Sel → Prop
  | .start _ => f.coming s = [] ∧ (f.clears = false → s.items = [])
  | .answer k ok => ok = false → ∀ sel ∈ s.pending[k]?, f.docs sel = []

/-- The documents of one fetch, put into the list. -/
theorem foldl_put_perm (docs items : List α) : (docs.foldl f.put items).Perm (docs ++ items) := by
  induction docs generalizing items with
  | nil => exact List.Perm.refl _
  | cons a docs ih =>
    refine (ih (f.put items a)).trans ?_
    refine ((f.put_perm items a).append_left docs).trans ?_
    exact List.perm_middle

/-- A fetch that is answered is no longer on its way. -/
theorem coming_perm {s : State Sel α} {k : ℕ} {sel : Sel} (h : s.pending[k]? = some sel) :
    (f.coming s).Perm (f.docs sel ++ (s.pending.eraseIdx k).flatMap f.docs) := by
  obtain ⟨hk, rfl⟩ := List.getElem?_eq_some_iff.mp h
  have hperm := (List.getElem_cons_eraseIdx_perm hk).symm.flatMap_right f.docs
  rwa [List.flatMap_cons] at hperm

variable {f} {s s' : State Sel α} {e : Event Sel}

/-- A fetch is started: nothing else may be listed or on its way. -/
theorem balanced_start {sel : Sel} :
    f.Balanced ⟨some sel, if f.clears then [] else s.items, s.pending ++ [sel]⟩ ↔
      f.KeepsBalance s (.start sel) := by
  have hcoming : f.coming ⟨some sel, if f.clears then [] else s.items, s.pending ++ [sel]⟩ =
      f.coming s ++ f.docs sel := by
    simp [coming]
  unfold Balanced KeepsBalance
  rw [hcoming, ← List.append_assoc]
  constructor
  · intro hperm
    -- nothing can be added to the documents of the selection
    have hlength := hperm.length_eq
    rw [List.length_append, List.length_append, show f.wanted _ = f.docs sel from rfl] at hlength
    dsimp only at hlength
    have hitems : (if f.clears then [] else s.items).length = 0 := by omega
    have hzero : (f.coming s).length = 0 := by omega
    refine ⟨List.length_eq_zero_iff.mp hzero, fun hclears => ?_⟩
    rw [hclears] at hitems
    exact List.length_eq_zero_iff.mp hitems
  · rintro ⟨hcoming, hitems⟩
    have hempty : (if f.clears then [] else s.items) = [] := by
      cases hclears : f.clears with
      | true => rfl
      | false => exact hitems hclears
    rw [hcoming, hempty]
    exact List.Perm.refl _

/-- A fetch is answered: what was on its way is listed. -/
theorem balanced_answered (h : f.Balanced s) {k : ℕ} {sel : Sel}
    (hk : s.pending[k]? = some sel) :
    f.Balanced ⟨s.selected, (f.docs sel).foldl f.put s.items, s.pending.eraseIdx k⟩ := by
  refine List.Perm.trans ?_ h
  refine ((f.foldl_put_perm (f.docs sel) s.items).append_right _).trans ?_
  rw [List.append_assoc]
  refine (List.perm_append_comm_assoc ..).trans ?_
  exact (f.coming_perm hk).symm.append_left s.items

/-- A fetch fails: it must have had nothing to bring. -/
theorem balanced_failed (h : f.Balanced s) {k : ℕ} {sel : Sel}
    (hk : s.pending[k]? = some sel) :
    f.Balanced ⟨s.selected, s.items, s.pending.eraseIdx k⟩ ↔ f.docs sel = [] := by
  have hcoming := f.coming_perm hk
  constructor
  · intro h'
    have hlength := h.length_eq
    have hlength' := h'.length_eq
    have hsplit := hcoming.length_eq
    rw [List.length_append] at hlength hlength' hsplit
    simp only [coming, wanted] at hlength hlength' hsplit
    exact List.length_eq_zero_iff.mp (by omega)
  · intro hnone
    rw [hnone, List.nil_append] at hcoming
    exact (hcoming.symm.append_left s.items).trans h

/-- **One step keeps the balance** exactly when it meets the condition. -/
theorem balanced_step (h : f.Balanced s) (hstep : f.step s e = some s') :
    f.Balanced s' ↔ f.KeepsBalance s e := by
  cases e with
  | start sel =>
    cases hstep
    exact balanced_start
  | answer k ok =>
    obtain ⟨sel, hk, rfl⟩ := Option.map_eq_some_iff.mp hstep
    cases ok with
    | true => exact iff_of_true (balanced_answered h hk) fun hok => by cases hok
    | false =>
      refine (balanced_failed h hk).trans ?_
      constructor
      · intro hnone _ sel' hsel'
        cases hk.symm.trans hsel'
        exact hnone
      · exact fun hkeeps => hkeeps rfl sel hk

/-- **When a list is right.**  In every run, what is listed and what is on its way are the
documents of the selection in every state if and only if each step meets the condition. -/
theorem balanced_iff {es : List (Event Sel)} {t : State Sel α}
    (h : run f.step State.initial es = some t) :
    (∀ k s, run f.step State.initial (es.take k) = some s → f.Balanced s) ↔
      Along f.step f.KeepsBalance State.initial es :=
  always_iff_along (fun _ => True) f.Balanced (fun _ _ _ _ _ => trivial)
    (fun _ _ _ _ hg he => balanced_step hg he) trivial (List.Perm.refl _) h

/-- When everything has been answered, a balanced list is complete. -/
theorem Balanced.complete (h : f.Balanced s) (hpending : s.pending = []) : f.Complete s := by
  unfold Balanced coming at h
  rwa [hpending, List.flatMap_nil, List.append_nil] at h

/-- **Once all fetches have been answered**, in a run whose steps all meet the condition, the
list holds the documents of the selection, each once. -/
theorem complete_of_along {es : List (Event Sel)} {t : State Sel α}
    (h : run f.step State.initial es = some t)
    (halong : Along f.step f.KeepsBalance State.initial es) {k : ℕ} {s : State Sel α}
    (hk : run f.step State.initial (es.take k) = some s) (hpending : s.pending = []) :
    f.Complete s :=
  ((balanced_iff h).mpr halong k s hk).complete hpending

/-- A list that is longer than it should be is not complete. -/
theorem not_complete_of_length (h : (f.wanted s).length < s.items.length) : ¬ f.Complete s := by
  intro hcomplete
  have hlength := hcomplete.length_eq
  omega

end Filling

end FetchedList
