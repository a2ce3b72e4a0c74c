import Lidora.AddItemToOrder
import Lidora.Runs

/-! # What the order document says of a bag filled by successive calls

`addsFrom` runs successful `addItemToOrder` calls one after the other.  The fees of
an order are meant to be those of the goods in the bag (`FeesOnGoods`).  The first
call computes them from its line total; every later call adds its line total to the
stored `total`, fees included, and takes the fees of that.  So the order document is
right after one call and wrong after two (`feesOnGoods_iff`).
-/
namespace Lidora
open DocumentStore Rounding Runs

/-- One call that completes with `(true, nil)`. -/
def addStep (uid : String) (s : Firestore) (c : AddCall) : Option Firestore :=
  match addItemToOrder uid c s with
  | .completed s' => some s'
  | _ => none

/-- Successful calls, one after the other. -/
def addsFrom (uid : String) (s : Firestore) (calls : List AddCall) : Option Firestore :=
  run (addStep uid) s calls

theorem addStep_eq_some {uid : String} {s s' : Firestore} {c : AddCall} :
    addStep uid s c = some s' ↔ addItemToOrder uid c s = .completed s' := by
  unfold addStep
  split <;> simp_all

/-- The document shows the goods and the fees on them. -/
structure FeesOf (goods : ℚ) (d : Doc) : Prop where
  subtotal : d "subtotal" = some (.double goods)
  platformFee : d "platform_fee" = some (.double (serviceFee goods).platformFee)
  stripeFee : d "stripe_fee" = some (.double (serviceFee goods).stripeFee)
  service : d "service_fee" = some (.double (serviceFee goods).serviceFee)
  total : d "total" = some (.double (serviceFee goods).total)

/-- **Fees are taken once, on the goods**: the order document shows the sum of its
items' totals and the fees on that sum. -/
def FeesOnGoods (uid orderId : String) (s : Firestore) : Prop :=
  ∃ d, s.lookup (orderRef uid orderId) = some d ∧ FeesOf (itemsTotal uid orderId s) d

/-- A bag that one call has filled. -/
theorem feesOnGoods_first {uid : String} {c : AddCall} {s s' : Firestore}
    (hempty : EmptyBag uid c.orderId s) (hc : WholeCents c.total)
    (h : addItemToOrder uid c s = .completed s') :
    FeesOnGoods uid c.orderId s' ∧ itemsTotal uid c.orderId s' = c.total := by
  have hp := hempty.priced
  have hitem : storedDouble (s.lookup (itemRef uid c.orderId c.item.id)) "total" = 0 := by
    rw [hempty.item]
    rfl
  have hnone : itemsTotal uid c.orderId s = 0 := by
    refine sumOver_eq_zero _ _ fun p hq => ?_
    obtain ⟨id, rfl⟩ := isItem_iff.mp hq
    exact hempty.item id
  have hgoods : itemsTotal uid c.orderId s' = c.total := by
    rw [itemsTotal_of_completed rfl hp h hc (by rw [hitem]; exact OnGrid.zero 100), hnone, zero_add]
  obtain ⟨d, hd, hadded⟩ := lookup_order_of_completed rfl hp h
  have hstored : storedDouble (s.lookup (orderRef uid c.orderId)) "total" = 0 := by
    rw [hempty.order]
    rfl
  have hsum : c.total + storedDouble (s.lookup (orderRef uid c.orderId)) "total" = c.total := by
    rw [hstored, add_zero]
  refine ⟨⟨d, hd, ?_⟩, hgoods⟩
  rw [hgoods]
  constructor
  · rw [hadded.subtotal, hsum, serviceFee_subtotal hc]
  · rw [hadded.platformFee, hsum]
  · rw [hadded.stripeFee, hsum]
  · rw [hadded.service, hsum]
  · rw [hadded.total, hsum]

/-- A bag that two calls have filled: the first call's fees are among the goods of
the second. -/
theorem not_feesOnGoods_second {uid : String} {c c' : AddCall} {s s₁ s₂ : Firestore}
    (hempty : EmptyBag uid c.orderId s) (hc : WholeCents c.total) (hpos : 0 ≤ c.total)
    (hsame : c'.orderId = c.orderId) (hc' : WholeCents c'.total)
    (h₁ : addItemToOrder uid c s = .completed s₁)
    (h₂ : addItemToOrder uid c' s₁ = .completed s₂) : ¬ FeesOnGoods uid c.orderId s₂ := by
  have hp := hempty.priced
  have hp₁ := bagPriced_of_completed rfl hp h₁
  obtain ⟨⟨d, hd, hfees⟩, hgoods⟩ := feesOnGoods_first hempty hc h₁
  have htotal : storedDouble (some d) "total" = (serviceFee c.total).total := by
    rw [hgoods] at hfees
    simp [storedDouble, Doc.double, hfees.total, Value.asDouble]
  have hitem : WholeCents (storedDouble (s₁.lookup (itemRef uid c.orderId c'.item.id)) "total") := by
    by_cases hid : c'.item.id = c.item.id
    · obtain ⟨item, hitem, hadded⟩ := lookup_item_of_completed rfl hp h₁
      rw [hid, hitem, hadded.storedDouble_total]
      exact wholeCents_roundNumber _
    · rw [lookup_other_item_of_completed rfl hp h₁ hid, hempty.item]
      exact OnGrid.zero 100
  rw [← hsame] at hd hp₁ hitem hgoods ⊢
  have hgoods₂ : itemsTotal uid c'.orderId s₂ = c.total + c'.total := by
    rw [itemsTotal_of_completed rfl hp₁ h₂ hc' hitem, hgoods]
  obtain ⟨d₂, hd₂, hadded₂⟩ := lookup_order_of_completed rfl hp₁ h₂
  rintro ⟨d', hd', hfees'⟩
  rw [hd₂] at hd'
  cases hd'
  have hcents : WholeCents (c'.total + (serviceFee c.total).total) :=
    hc'.add (wholeCents_serviceFee c.total).2.2.2.2.2
  have hsub := hadded₂.subtotal
  rw [hd, htotal, serviceFee_subtotal hcents, hfees'.subtotal, hgoods₂] at hsub
  -- the goods are short of the stored subtotal by the fees of the first call
  have hlt := lt_serviceFee_total hc hpos
  simp only [Option.some.injEq, Value.double.injEq] at hsub
  linarith

/-- **The order document is right after the first call and wrong after the second.**
In a run of successful calls on an empty bag, it shows the fees on the goods after
every call if and only if there is at most one call. -/
theorem feesOnGoods_iff (uid orderId : String) (s : Firestore) (hempty : EmptyBag uid orderId s)
    (calls : List AddCall) (horder : ∀ c ∈ calls, c.orderId = orderId)
    (hcents : ∀ c ∈ calls, WholeCents c.total ∧ 0 ≤ c.total)
    (hrun : (addsFrom uid s calls).isSome) :
    (∀ k s', 0 < k → k ≤ calls.length → addsFrom uid s (calls.take k) = some s' →
      FeesOnGoods uid orderId s') ↔ calls.length ≤ 1 := by
  rcases calls with _ | ⟨c, _ | ⟨c', rest⟩⟩
  · -- no call, and nothing to show
    refine ⟨fun _ => by simp, fun _ k s' hk hkl => ?_⟩
    rw [List.length_nil] at hkl
    omega
  · -- one call
    refine ⟨fun _ => le_rfl, fun _ k s' hk hkl hs' => ?_⟩
    have hk1 : k = 1 := by
      rw [List.length_singleton] at hkl
      omega
    subst hk1
    obtain ⟨s₁, h₁, hnil⟩ := (run_cons_iff _).mp hs'
    cases hnil
    have ho := horder c List.mem_cons_self
    subst ho
    exact (feesOnGoods_first hempty (hcents c List.mem_cons_self).1 (addStep_eq_some.mp h₁)).1
  · -- two calls or more: the second breaks it
    have hmem : c ∈ c :: c' :: rest := List.mem_cons_self
    have hmem' : c' ∈ c :: c' :: rest := List.mem_cons_of_mem _ List.mem_cons_self
    obtain ⟨t, ht⟩ := Option.isSome_iff_exists.mp hrun
    obtain ⟨s₂, hs₂⟩ := run_take (addStep uid) ht 2
    obtain ⟨s₁, h₁, hrun₂⟩ := (run_cons_iff _).mp hs₂
    obtain ⟨_, h₂, hnil⟩ := (run_cons_iff _).mp hrun₂
    cases hnil
    have ho := horder c hmem
    subst ho
    have hwrong := not_feesOnGoods_second hempty (hcents c hmem).1 (hcents c hmem).2
      (horder c' hmem') (hcents c' hmem').1 (addStep_eq_some.mp h₁) (addStep_eq_some.mp h₂)
    constructor
    · intro hall
      exact absurd (hall 2 s₂ (by omega) (by simp) hs₂) hwrong
    · intro hlen
      simp at hlen

/-! ## A bag of soup and bread -/

/-- A chef with everything that a call asks of one. -/
def sampleChef (id : String) : Chef :=
  Chef.init id (Doc.ofFields [("first_name", .string "Ana"), ("imageURL", .string "ana.png")])

/-- A dish with everything that a call asks of one. -/
def sampleDish (id : String) (price : ℚ) : Menu :=
  Menu.init id (Doc.ofFields [("imageURL", .string "dish.png"), ("name", .string id),
    ("description", .string "of the day"), ("price", .double price)])

/-- One dish at ten dollars. -/
def soupCall : AddCall := ⟨"bag", sampleChef "ana", sampleDish "soup" 10, 1, 10⟩

/-- One dish at five dollars. -/
def breadCall : AddCall := ⟨"bag", sampleChef "ana", sampleDish "bread" 5, 1, 5⟩

/-- The subtotal that the order document shows. -/
def shownSubtotal (uid orderId : String) (s : Firestore) : Option Value :=
  (s.lookup (orderRef uid orderId)).bind fun d => d "subtotal"

theorem shownSubtotal_of_feesOnGoods {uid orderId : String} {s : Firestore}
    (h : FeesOnGoods uid orderId s) :
    shownSubtotal uid orderId s = some (.double (itemsTotal uid orderId s)) := by
  obtain ⟨d, hd, hfees⟩ := h
  rw [shownSubtotal, hd, Option.bind_some, hfees.subtotal]

theorem feesOnGoods_iff_soup :
    (∀ k s', 0 < k → k ≤ [soupCall].length → addsFrom "uid" ∅ ([soupCall].take k) = some s' →
      FeesOnGoods "uid" "bag" s') ↔ [soupCall].length ≤ 1 :=
  feesOnGoods_iff "uid" "bag" ∅ ⟨Finmap.lookup_empty _, fun _ => Finmap.lookup_empty _⟩ [soupCall]
    (by decide) (by
      intro c hc
      rw [List.mem_singleton] at hc
      subst hc
      exact ⟨⟨1000, by norm_num [soupCall]⟩, by norm_num [soupCall]⟩) (by decide +kernel)

/-- **Fees on fees.**  Soup for 10 dollars and bread for 5: the order shows a
subtotal of 16.89 dollars over items worth 15. -/
theorem fees_on_fees : ∃ s, addsFrom "uid" ∅ [soupCall, breadCall] = some s ∧
    shownSubtotal "uid" "bag" s = some (.double 16.89) ∧ itemsTotal "uid" "bag" s = 15 ∧
    ¬ FeesOnGoods "uid" "bag" s := by
  have hsome : (addsFrom "uid" ∅ [soupCall, breadCall]).isSome := by decide +kernel
  obtain ⟨s, hs⟩ := Option.isSome_iff_exists.mp hsome
  have hshown : (addsFrom "uid" ∅ [soupCall, breadCall]).bind (shownSubtotal "uid" "bag") =
      some (.double 16.89) := by decide +kernel
  have hgoods : (addsFrom "uid" ∅ [soupCall, breadCall]).map (itemsTotal "uid" "bag") =
      some 15 := by decide +kernel
  rw [hs, Option.bind_some] at hshown
  rw [hs, Option.map_some, Option.some.injEq] at hgoods
  refine ⟨s, hs, hshown, hgoods, fun h => ?_⟩
  have hsub := shownSubtotal_of_feesOnGoods h
  rw [hshown, hgoods] at hsub
  exact absurd hsub (by decide +kernel)

end Lidora
