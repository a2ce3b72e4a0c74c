import Mathlib

/-! # Stores of documents

A store is a finite map from keys to documents, Mathlib's `Finmap`.  A `Write`
names one key and says what it makes of the document stored under it; a batch of
writes is applied in order.  `sumOver` adds up one number per document over the
documents whose key satisfies a predicate, and its lemmas say what inserting or
erasing one document does to such a sum.
-/
namespace DocumentStore

/-- A finite map from keys to documents. -/
abbrev Store (K V : Type) : Type := Finmap fun _ : K => V

variable {K V : Type} [DecidableEq K]

/-! ## Writes -/

/-- A write to one key: what it makes of the document stored there, `none` being
no document. -/
structure Write (K V : Type) where
  key : K
  change : Option V → Option V

/-- The store after one write. -/
def applyWrite (s : Store K V) (w : Write K V) : Store K V :=
  match w.change (s.lookup w.key) with
  | some v => s.insert w.key v
  | none => s.erase w.key

/-- The store after a batch of writes, in order. -/
def applyWrites (s : Store K V) (ws : List (Write K V)) : Store K V :=
  ws.foldl applyWrite s

@[simp] theorem applyWrites_nil (s : Store K V) : applyWrites s [] = s := rfl

@[simp] theorem applyWrites_cons (s : Store K V) (w : Write K V) (ws : List (Write K V)) :
    applyWrites s (w :: ws) = applyWrites (applyWrite s w) ws := rfl

theorem applyWrite_of_some {s : Store K V} {w : Write K V} {v : V}
    (h : w.change (s.lookup w.key) = some v) : applyWrite s w = s.insert w.key v := by
  rw [applyWrite, h]

/-- A write leaves the other keys alone. -/
theorem lookup_applyWrite_of_ne {s : Store K V} {w : Write K V} {k : K} (h : k ≠ w.key) :
    (applyWrite s w).lookup k = s.lookup k := by
  unfold applyWrite
  split
  · exact Finmap.lookup_insert_of_ne _ h
  · exact Finmap.lookup_erase_ne h

/-- A batch leaves the keys it does not write alone. -/
theorem lookup_applyWrites_of_notMem {ws : List (Write K V)} {k : K}
    (h : ∀ w ∈ ws, k ≠ w.key) (s : Store K V) : (applyWrites s ws).lookup k = s.lookup k := by
  induction ws generalizing s with
  | nil => rfl
  | cons w ws ih =>
    rw [applyWrites_cons, ih (fun w' hw' => h w' (List.mem_cons_of_mem _ hw')),
      lookup_applyWrite_of_ne (h w List.mem_cons_self)]

/-- The store without the documents under these keys. -/
def eraseAll (s : Store K V) (ks : List K) : Store K V := ks.foldl (fun s k => s.erase k) s

theorem lookup_eraseAll_of_notMem {ks : List K} {k : K} (h : k ∉ ks) (s : Store K V) :
    (eraseAll s ks).lookup k = s.lookup k := by
  induction ks generalizing s with
  | nil => rfl
  | cons l ks ih =>
    obtain ⟨hl, hks⟩ := not_or.mp (mt List.mem_cons.mpr h)
    exact (ih hks (s.erase l)).trans (Finmap.lookup_erase_ne hl)

theorem lookup_eraseAll_of_mem {ks : List K} {k : K} (h : k ∈ ks) (s : Store K V) :
    (eraseAll s ks).lookup k = none := by
  induction ks generalizing s with
  | nil => cases h
  | cons l ks ih =>
    by_cases hk : k ∈ ks
    · exact ih hk (s.erase l)
    · have hl : k = l := (List.mem_cons.mp h).resolve_right hk
      subst hl
      exact (lookup_eraseAll_of_notMem hk (s.erase k)).trans (Finmap.lookup_erase k s)

/-! ## Sums over the documents of a store -/

section Sums
variable {M : Type} [AddCommGroup M] (q : K → Prop) [DecidablePred q] (f : V → M)

/-- What the document under `k` contributes: `0` where there is none. -/
def valueAt (s : Store K V) (k : K) : M := (s.lookup k).elim 0 f

/-- The sum of `f` over the documents whose key satisfies `q`. -/
def sumOver (s : Store K V) : M := ∑ k ∈ s.keys.filter q, valueAt f s k

omit [DecidablePred q] in
theorem valueAt_of_lookup {s : Store K V} {k : K} {v : V} (h : s.lookup k = some v) :
    valueAt f s k = f v := by
  rw [valueAt, h]
  rfl

omit [DecidablePred q] in
theorem valueAt_of_lookup_none {s : Store K V} {k : K} (h : s.lookup k = none) :
    valueAt f s k = 0 := by
  rw [valueAt, h]
  rfl

/-- Keys that store nothing add nothing, so a sum may run over any larger finite
set of keys. -/
theorem sumOver_eq_sum {s : Store K V} {t : Finset K} (h : s.keys ⊆ t) :
    sumOver q f s = ∑ k ∈ t.filter q, valueAt f s k := by
  refine Finset.sum_subset (Finset.filter_subset_filter q h) ?_
  intro k hk hnot
  rw [Finset.mem_filter] at hk hnot
  have hkeys : k ∉ s.keys := fun hmem => hnot ⟨hmem, hk.2⟩
  rw [Finmap.mem_keys] at hkeys
  exact valueAt_of_lookup_none f (Finmap.lookup_eq_none.mpr hkeys)

/-- Two stores that differ only at `k` have sums that differ only by what `k`
contributes. -/
theorem sumOver_of_eq_off {s s' : Store K V} {k : K}
    (h : ∀ j, j ≠ k → s'.lookup j = s.lookup j) :
    sumOver q f s' =
      sumOver q f s + if q k then valueAt f s' k - valueAt f s k else 0 := by
  classical
  have hoff : ∀ j, j ≠ k → valueAt f s' j = valueAt f s j := by
    intro j hj
    rw [valueAt, valueAt, h j hj]
  have ht : s.keys ⊆ insert k (s.keys ∪ s'.keys) := fun j hj => by simp [hj]
  have ht' : s'.keys ⊆ insert k (s.keys ∪ s'.keys) := fun j hj => by simp [hj]
  rw [sumOver_eq_sum q f ht, sumOver_eq_sum q f ht']
  split
  · rename_i hq
    have hk : k ∈ (insert k (s.keys ∪ s'.keys)).filter q := by simp [hq]
    rw [← Finset.add_sum_erase _ _ hk, ← Finset.add_sum_erase _ (valueAt f s) hk]
    have hrest : ∑ j ∈ ((insert k (s.keys ∪ s'.keys)).filter q).erase k, valueAt f s' j =
        ∑ j ∈ ((insert k (s.keys ∪ s'.keys)).filter q).erase k, valueAt f s j :=
      Finset.sum_congr rfl fun j hj => hoff j (Finset.ne_of_mem_erase hj)
    rw [hrest]
    abel
  · rename_i hq
    rw [add_zero]
    refine Finset.sum_congr rfl fun j hj => hoff j ?_
    rintro rfl
    exact hq (Finset.mem_filter.mp hj).2

/-- Only the documents whose key satisfies the predicate count. -/
theorem sumOver_congr {s s' : Store K V} (h : ∀ k, q k → s'.lookup k = s.lookup k) :
    sumOver q f s' = sumOver q f s := by
  have ht : s.keys ⊆ s.keys ∪ s'.keys := Finset.subset_union_left
  have ht' : s'.keys ⊆ s.keys ∪ s'.keys := Finset.subset_union_right
  rw [sumOver_eq_sum q f ht, sumOver_eq_sum q f ht']
  refine Finset.sum_congr rfl fun k hk => ?_
  rw [valueAt, valueAt, h k (Finset.mem_filter.mp hk).2]

/-- Inserting one document. -/
theorem sumOver_insert (s : Store K V) (k : K) (v : V) :
    sumOver q f (s.insert k v) =
      sumOver q f s + if q k then f v - valueAt f s k else 0 := by
  rw [sumOver_of_eq_off q f (s := s) (k := k) fun j hj => Finmap.lookup_insert_of_ne _ hj,
    valueAt_of_lookup f (Finmap.lookup_insert s)]

/-- Where no document satisfies the predicate, the sum is empty. -/
theorem sumOver_eq_zero {s : Store K V} (h : ∀ k, q k → s.lookup k = none) :
    sumOver q f s = 0 := by
  refine Finset.sum_eq_zero fun k hk => ?_
  exact valueAt_of_lookup_none f (h k (Finset.mem_filter.mp hk).2)

end Sums

end DocumentStore
