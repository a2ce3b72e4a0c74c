import Mathlib

/-! # Which order is cheapest

A value is built up from a list, one element after the other, by `op`.  Where `op` grows with
the value (`mono`) and two neighbours `a`, `b` with `r a b` cost no more in this order than in
the other one (`swap`), a list in which every element is related by `r` to all later ones costs
no more than any rearrangement of it (`foldl_le_of_perm`), and its reverse no less
(`le_foldl_reverse_of_perm`).

The argument is the usual exchange: whatever the other list starts with is moved to the front of
the sorted one, past elements that are all related to it.  Only values in `S` and elements
in `A` need to behave.
-/
namespace Exchange
variable {α β : Type} [Preorder β]

/-- On the values `S` and the elements `A`, `op` grows with the value, and prefers the
order `r`. -/
structure Exchangeable (S : Set β) (A : Set α) (r : α → α → Prop) (op : β → α → β) : Prop where
  keeps : ∀ {x a}, x ∈ S → a ∈ A → op x a ∈ S
  mono : ∀ {x y a}, x ∈ S → y ∈ S → a ∈ A → x ≤ y → op x a ≤ op y a
  swap : ∀ {x a b}, x ∈ S → a ∈ A → b ∈ A → r a b → op (op x a) b ≤ op (op x b) a

namespace Exchangeable
variable {S : Set β} {A : Set α} {r : α → α → Prop} {op : β → α → β}
  (h : Exchangeable S A r op) {l l' : List α} {x y : β}
include h

theorem foldl_mem (hl : ∀ a ∈ l, a ∈ A) (hx : x ∈ S) : l.foldl op x ∈ S := by
  induction l generalizing x with
  | nil => exact hx
  | cons a l ih =>
    obtain ⟨ha, hl⟩ := List.forall_mem_cons.mp hl
    exact ih hl (h.keeps hx ha)

/-- What starts lower ends lower. -/
theorem foldl_mono (hl : ∀ a ∈ l, a ∈ A) (hx : x ∈ S) (hy : y ∈ S) (hxy : x ≤ y) :
    l.foldl op x ≤ l.foldl op y := by
  induction l generalizing x y with
  | nil => exact hxy
  | cons a l ih =>
    obtain ⟨ha, hl⟩ := List.forall_mem_cons.mp hl
    exact ih hl (h.keeps hx ha) (h.keeps hy ha) (h.mono hx hy ha hxy)

/-- An element costs no less when it is moved before others that are related to it. -/
theorem foldl_le_move {b : α} (hl : ∀ a ∈ l, a ∈ A) (hb : b ∈ A) (hr : ∀ a ∈ l, r a b)
    (hx : x ∈ S) : op (l.foldl op x) b ≤ l.foldl op (op x b) := by
  induction l generalizing x with
  | nil => exact le_rfl
  | cons a l ih =>
    obtain ⟨ha, hl⟩ := List.forall_mem_cons.mp hl
    obtain ⟨hab, hr⟩ := List.forall_mem_cons.mp hr
    calc op (l.foldl op (op x a)) b
        ≤ l.foldl op (op (op x a) b) := ih hl hr (h.keeps hx ha)
      _ ≤ l.foldl op (op (op x b) a) :=
          h.foldl_mono hl (h.keeps (h.keeps hx ha) hb) (h.keeps (h.keeps hx hb) ha)
            (h.swap hx ha hb hab)

/-- **The sorted list is cheapest** among its rearrangements. -/
theorem foldl_le_of_perm (hl : ∀ a ∈ l, a ∈ A) (hsorted : l.Pairwise r) (hperm : l.Perm l')
    (hx : x ∈ S) : l.foldl op x ≤ l'.foldl op x := by
  induction l' generalizing l x with
  | nil =>
    rw [hperm.eq_nil]
  | cons b l' ih =>
    obtain ⟨l₁, l₂, rfl⟩ := List.append_of_mem (hperm.mem_iff.mpr List.mem_cons_self)
    have hrest : (l₁ ++ l₂).Perm l' :=
      (List.perm_cons b).mp (List.perm_middle.symm.trans hperm)
    have hsorted' : (l₁ ++ l₂).Pairwise r :=
      hsorted.sublist ((List.sublist_cons_self b l₂).append_left l₁)
    have hbefore : ∀ a ∈ l₁, r a b := fun a ha =>
      (List.pairwise_append.mp hsorted).2.2 a ha b List.mem_cons_self
    obtain ⟨hl₁, hl₂⟩ := List.forall_mem_append.mp hl
    obtain ⟨hb, hl₂⟩ := List.forall_mem_cons.mp hl₂
    have hxb := h.keeps hx hb
    calc (l₁ ++ b :: l₂).foldl op x
        = l₂.foldl op (op (l₁.foldl op x) b) := by rw [List.foldl_append, List.foldl_cons]
      _ ≤ l₂.foldl op (l₁.foldl op (op x b)) :=
          h.foldl_mono hl₂ (h.keeps (h.foldl_mem hl₁ hx) hb) (h.foldl_mem hl₁ hxb)
            (h.foldl_le_move hl₁ hb hbefore hx)
      _ = (l₁ ++ l₂).foldl op (op x b) := by rw [List.foldl_append]
      _ ≤ l'.foldl op (op x b) :=
          ih (List.forall_mem_append.mpr ⟨hl₁, hl₂⟩) hsorted' hrest hxb

/-- With the order of the values turned round, `op` prefers the elements the other way round. -/
theorem dual : Exchangeable (β := βᵒᵈ) S A (fun a b => r b a) op where
  keeps := h.keeps
  mono hx hy ha hxy := h.mono hy hx ha hxy
  swap hx ha hb hba := h.swap hx hb ha hba

/-- **The reversed list is dearest.** -/
theorem le_foldl_reverse_of_perm (hl : ∀ a ∈ l, a ∈ A) (hsorted : l.Pairwise r)
    (hperm : l.Perm l') (hx : x ∈ S) : l'.foldl op x ≤ l.reverse.foldl op x := by
  refine h.dual.foldl_le_of_perm (x := x) (fun a ha => hl a (List.mem_reverse.mp ha)) ?_
    ((List.reverse_perm l).trans hperm) hx
  exact List.pairwise_reverse.mpr hsorted

end Exchangeable

end Exchange
