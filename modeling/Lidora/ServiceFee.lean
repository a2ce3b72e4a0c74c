import Lidora.Rounding

/-! # Fees

`roundNumber`, `percentage` and `Double.serviceFee` of `Extension.swift`, with
`Double` read as an exact rational.
-/
namespace Lidora
open Rounding

/-- `roundNumber`: to the cent, ties away from zero. -/
def roundNumber (value : ℚ) : ℚ :=
  let divisor : ℚ := 10 ^ 2
  roundAway (value * divisor) / divisor

/-- `percentage`. -/
def percentage (value percentageVal : ℚ) (additional : Option ℚ) : ℚ :=
  let val := value * percentageVal
  match additional with
  | some additional => val / 100 + additional
  | none => val / 100

/-- The tuple that `serviceFee()` returns. -/
structure ServiceFee where
  subtotal : ℚ
  stripeFee : ℚ
  platformFee : ℚ
  serviceFee : ℚ
  deliveryFee : ℚ
  total : ℚ
  deriving DecidableEq

/-- `Double.serviceFee()`. -/
def serviceFee (self : ℚ) : ServiceFee :=
  let subtotal := roundNumber self
  let stripeFee := roundNumber (percentage subtotal 2.9 (some 0.30))
  let platformFee := roundNumber (percentage subtotal 10 none)
  let serviceFee := roundNumber (stripeFee + platformFee)
  let deliveryFee := 0.30
  let total := roundNumber (subtotal + stripeFee + platformFee + deliveryFee)
  ⟨subtotal, stripeFee, platformFee, serviceFee, deliveryFee, total⟩

/-- A whole number of cents. -/
def WholeCents (x : ℚ) : Prop := OnGrid 100 x

theorem roundNumber_eq_roundTo (x : ℚ) : roundNumber x = roundTo 100 x := by
  norm_num [roundNumber, roundTo]

theorem wholeCents_roundNumber (x : ℚ) : WholeCents (roundNumber x) := by
  rw [roundNumber_eq_roundTo]
  exact roundTo_onGrid 100 x

/-- Rounding leaves whole cents alone. -/
theorem roundNumber_of_wholeCents {x : ℚ} (hx : WholeCents x) : roundNumber x = x := by
  rw [roundNumber_eq_roundTo]
  exact roundTo_of_onGrid (by norm_num) hx

theorem roundNumber_nonneg {x : ℚ} (hx : 0 ≤ x) : 0 ≤ roundNumber x := by
  rw [roundNumber_eq_roundTo]
  exact roundTo_nonneg (by norm_num) hx

theorem wholeCents_deliveryFee : WholeCents 0.30 := ⟨30, by norm_num⟩

/-- Every component of the fees is a whole number of cents. -/
theorem wholeCents_serviceFee (s : ℚ) : WholeCents (serviceFee s).subtotal ∧
    WholeCents (serviceFee s).stripeFee ∧ WholeCents (serviceFee s).platformFee ∧
    WholeCents (serviceFee s).serviceFee ∧ WholeCents (serviceFee s).deliveryFee ∧
    WholeCents (serviceFee s).total :=
  ⟨wholeCents_roundNumber _, wholeCents_roundNumber _, wholeCents_roundNumber _,
    wholeCents_roundNumber _, wholeCents_deliveryFee, wholeCents_roundNumber _⟩

theorem serviceFee_subtotal {s : ℚ} (hs : WholeCents s) : (serviceFee s).subtotal = s :=
  roundNumber_of_wholeCents hs

/-- The total is the exact sum of the rounded parts. -/
theorem serviceFee_total (s : ℚ) : (serviceFee s).total =
    (serviceFee s).subtotal + (serviceFee s).stripeFee + (serviceFee s).platformFee +
      (serviceFee s).deliveryFee := by
  obtain ⟨hsub, hstripe, hplat, _, hdel, _⟩ := wholeCents_serviceFee s
  exact roundNumber_of_wholeCents (((hsub.add hstripe).add hplat).add hdel)

theorem serviceFee_stripeFee_nonneg {s : ℚ} (hs : 0 ≤ s) : 0 ≤ (serviceFee s).stripeFee := by
  have hsub : 0 ≤ roundNumber s := roundNumber_nonneg hs
  refine roundNumber_nonneg ?_
  simp only [percentage]
  positivity

theorem serviceFee_platformFee_nonneg {s : ℚ} (hs : 0 ≤ s) :
    0 ≤ (serviceFee s).platformFee := by
  have hsub : 0 ≤ roundNumber s := roundNumber_nonneg hs
  refine roundNumber_nonneg ?_
  simp only [percentage]
  positivity

/-- **Fees cost something**: on goods worth `s`, at least the delivery fee. -/
theorem lt_serviceFee_total {s : ℚ} (hs : WholeCents s) (hpos : 0 ≤ s) :
    s < (serviceFee s).total := by
  have hstripe := serviceFee_stripeFee_nonneg hpos
  have hplat := serviceFee_platformFee_nonneg hpos
  have hdel : (serviceFee s).deliveryFee = 0.30 := rfl
  rw [serviceFee_total, serviceFee_subtotal hs, hdel]
  linarith

/-! ## Larger bags -/

theorem roundNumber_mono {x y : ℚ} (h : x ≤ y) : roundNumber x ≤ roundNumber y := by
  rw [roundNumber_eq_roundTo, roundNumber_eq_roundTo]
  exact roundTo_mono (by norm_num) h

/-- Rounding to the cent moves an amount by half a cent at most. -/
theorem abs_roundNumber_sub_le (x : ℚ) : |roundNumber x - x| ≤ 0.005 := by
  rw [roundNumber_eq_roundTo]
  exact (abs_roundTo_sub_le (by norm_num) x).trans (by norm_num)

/-- A positive share of a larger value is larger, whatever is added to both. -/
theorem percentage_mono {x y percentageVal : ℚ} (hp : 0 ≤ percentageVal) (h : x ≤ y)
    (additional : Option ℚ) :
    percentage x percentageVal additional ≤ percentage y percentageVal additional := by
  have hshare : x * percentageVal / 100 ≤ y * percentageVal / 100 :=
    div_le_div_of_nonneg_right (mul_le_mul_of_nonneg_right h hp) (by norm_num)
  cases additional with
  | none => exact hshare
  | some additional => exact add_le_add_left hshare additional

/-- Every component of `f` is at most that of `g`. -/
structure ServiceFee.AtMost (f g : ServiceFee) : Prop where
  subtotal : f.subtotal ≤ g.subtotal
  stripeFee : f.stripeFee ≤ g.stripeFee
  platformFee : f.platformFee ≤ g.platformFee
  serviceFee : f.serviceFee ≤ g.serviceFee
  deliveryFee : f.deliveryFee ≤ g.deliveryFee
  total : f.total ≤ g.total

/-- No component of the fees falls when the amount rises. -/
theorem serviceFee_atMost {a b : ℚ} (h : a ≤ b) : (serviceFee a).AtMost (serviceFee b) := by
  have hsub : (serviceFee a).subtotal ≤ (serviceFee b).subtotal := roundNumber_mono h
  have hstripe : (serviceFee a).stripeFee ≤ (serviceFee b).stripeFee :=
    roundNumber_mono (percentage_mono (by norm_num) hsub _)
  have hplat : (serviceFee a).platformFee ≤ (serviceFee b).platformFee :=
    roundNumber_mono (percentage_mono (by norm_num) hsub _)
  have hsum := add_le_add (add_le_add hsub hstripe) hplat
  exact ⟨hsub, hstripe, hplat, roundNumber_mono (add_le_add hstripe hplat), le_rfl,
    roundNumber_mono (add_le_add_left hsum _)⟩

/-- **A larger bag is never cheaper**: on whole cents the goods themselves are not
rounded, so the total grows with them. -/
theorem serviceFee_total_lt {a b : ℚ} (ha : WholeCents a) (hb : WholeCents b) (h : a < b) :
    (serviceFee a).total < (serviceFee b).total := by
  have hle := serviceFee_atMost h.le
  rw [serviceFee_total, serviceFee_total, serviceFee_subtotal ha, serviceFee_subtotal hb]
  linarith [hle.stripeFee, hle.platformFee, hle.deliveryFee]

/-- **The roundings do not drift**: two of them change an amount of whole cents, each by
half a cent at most, and the last one adds nothing. -/
theorem abs_serviceFee_total_sub_le {s : ℚ} (hs : WholeCents s) :
    |(serviceFee s).total - (1.129 * s + 0.60)| ≤ 0.01 := by
  have hsub := serviceFee_subtotal hs
  have hstripe := abs_roundNumber_sub_le (percentage (serviceFee s).subtotal 2.9 (some 0.30))
  have hplat := abs_roundNumber_sub_le (percentage (serviceFee s).subtotal 10 none)
  rw [hsub, abs_le] at hstripe hplat
  have htotal : (serviceFee s).total =
      s + roundNumber (percentage s 2.9 (some 0.30)) + roundNumber (percentage s 10 none) +
        0.30 := by
    rw [serviceFee_total]
    simp only [serviceFee, show roundNumber s = s from hsub]
  rw [htotal, abs_le]
  simp only [percentage] at hstripe hplat ⊢
  constructor
  · linarith [hstripe.1, hplat.1]
  · linarith [hstripe.2, hplat.2]

/-- **Fees keep the order of the amounts and stay within a cent of the unrounded ones.**
Nothing here needs the amounts to be non-negative. -/
theorem serviceFee_ordered_within_cent {a b : ℚ} (ha : WholeCents a) (hb : WholeCents b)
    (h : a < b) :
    (serviceFee a).total < (serviceFee b).total ∧ (serviceFee a).AtMost (serviceFee b) ∧
      ∀ s, WholeCents s → |(serviceFee s).total - (1.129 * s + 0.60)| ≤ 0.01 :=
  ⟨serviceFee_total_lt ha hb h, serviceFee_atMost h.le,
    fun _ hs => abs_serviceFee_total_sub_le hs⟩

/-- At the tie of five cents, whose platform fee of half a cent rounds up. -/
theorem serviceFee_ordered_at_tie :
    (serviceFee 0.05).total < (serviceFee 0.06).total ∧
      (serviceFee 0.05).AtMost (serviceFee 0.06) ∧
      ∀ s, WholeCents s → |(serviceFee s).total - (1.129 * s + 0.60)| ≤ 0.01 :=
  serviceFee_ordered_within_cent ⟨5, by norm_num⟩ ⟨6, by norm_num⟩ (by norm_num)

/-- Fees on twenty dollars of goods. -/
example : serviceFee 20 = ⟨20, 0.88, 2, 2.88, 0.30, 23.18⟩ := by decide +kernel

end Lidora
