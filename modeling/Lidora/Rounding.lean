import Mathlib

/-! # Rounding to a grid, ties away from zero

The C function `round`, and with it Swift's, sends a number to the nearest
integer and a tie to the neighbour further from zero.  `roundAway` is that
function over any ordered field with a floor.  `roundTo d` rounds to the grid of
multiples of `1 / d`; a number already on the grid (`OnGrid d`) is left alone,
and the grid is closed under sums, so a sum of rounded numbers needs no second
rounding.  Rounding keeps the order and moves a number by half a step at most.
-/
namespace Rounding
variable {α : Type} [Field α] [LinearOrder α] [IsStrictOrderedRing α] [FloorRing α]

/-- The nearest integer, ties away from zero. -/
def roundAway (x : α) : ℤ :=
  if 0 ≤ x then ⌊x + 1 / 2⌋ else -⌊-x + 1 / 2⌋

/-- An integer plus one half has that integer as its floor. -/
theorem floor_intCast_add_half (n : ℤ) : ⌊(n : α) + 1 / 2⌋ = n := by
  rw [Int.floor_eq_iff]
  constructor
  · have : (0 : α) ≤ 1 / 2 := by positivity
    linarith
  · have : (1 / 2 : α) < 1 := by norm_num
    linarith

/-- Rounding fixes the integers. -/
@[simp] theorem roundAway_intCast (n : ℤ) : roundAway (n : α) = n := by
  unfold roundAway
  split
  · exact floor_intCast_add_half n
  · have h := floor_intCast_add_half (α := α) (-n)
    rw [Int.cast_neg] at h
    rw [h, neg_neg]

theorem roundAway_nonneg {x : α} (hx : 0 ≤ x) : 0 ≤ roundAway x := by
  rw [roundAway, if_pos hx]
  exact Int.floor_nonneg.mpr (add_nonneg hx (by positivity))

/-- Rounding keeps the order. -/
theorem roundAway_mono {x y : α} (h : x ≤ y) : roundAway x ≤ roundAway y := by
  by_cases hx : 0 ≤ x
  · rw [roundAway, roundAway, if_pos hx, if_pos (hx.trans h)]
    exact Int.floor_le_floor (by linarith)
  · by_cases hy : 0 ≤ y
    · -- a negative number rounds to at most zero
      have hneg : roundAway x ≤ 0 := by
        rw [roundAway, if_neg hx, neg_nonpos]
        exact Int.floor_nonneg.mpr (by linarith)
      exact hneg.trans (roundAway_nonneg hy)
    · rw [roundAway, roundAway, if_neg hx, if_neg hy, neg_le_neg_iff]
      exact Int.floor_le_floor (by linarith)

/-- Rounding moves a number by one half at most. -/
theorem abs_roundAway_sub_le (x : α) : |(roundAway x : α) - x| ≤ 1 / 2 := by
  have hfloor : ∀ z : α, |(⌊z + 1 / 2⌋ : α) - z| ≤ 1 / 2 := by
    intro z
    have hle := Int.floor_le (z + 1 / 2)
    have hlt := Int.lt_floor_add_one (z + 1 / 2)
    rw [abs_le]
    constructor
    · linarith
    · linarith
  unfold roundAway
  split
  · exact hfloor x
  · rw [Int.cast_neg, ← abs_neg, neg_sub', neg_neg]
    exact hfloor (-x)

/-! ## The grid of multiples of `1 / d` -/

/-- `x` is a whole number of `d`-ths. -/
def OnGrid (d x : α) : Prop := ∃ n : ℤ, x = n / d

/-- Rounding to the nearest whole number of `d`-ths, ties away from zero. -/
def roundTo (d x : α) : α := (roundAway (x * d) : α) / d

omit [LinearOrder α] [IsStrictOrderedRing α] [FloorRing α] in
theorem OnGrid.zero (d : α) : OnGrid d 0 := ⟨0, by simp⟩

omit [LinearOrder α] [IsStrictOrderedRing α] [FloorRing α] in
theorem OnGrid.add {d x y : α} (hx : OnGrid d x) (hy : OnGrid d y) : OnGrid d (x + y) := by
  obtain ⟨m, rfl⟩ := hx
  obtain ⟨n, rfl⟩ := hy
  exact ⟨m + n, by rw [Int.cast_add, add_div]⟩

omit [IsStrictOrderedRing α] in
theorem roundTo_onGrid (d x : α) : OnGrid d (roundTo d x) := ⟨roundAway (x * d), rfl⟩

/-- Rounding leaves the grid alone. -/
theorem roundTo_of_onGrid {d x : α} (hd : d ≠ 0) (hx : OnGrid d x) : roundTo d x = x := by
  obtain ⟨n, rfl⟩ := hx
  rw [roundTo, div_mul_cancel₀ _ hd, roundAway_intCast]

theorem roundTo_nonneg {d x : α} (hd : 0 < d) (hx : 0 ≤ x) : 0 ≤ roundTo d x :=
  div_nonneg (Int.cast_nonneg (roundAway_nonneg (mul_nonneg hx hd.le))) hd.le

/-- Rounding to the grid keeps the order. -/
theorem roundTo_mono {d x y : α} (hd : 0 < d) (h : x ≤ y) : roundTo d x ≤ roundTo d y := by
  have hround := roundAway_mono (mul_le_mul_of_nonneg_right h hd.le)
  exact div_le_div_of_nonneg_right (Int.cast_le.mpr hround) hd.le

/-- Rounding to the grid moves a number by half a step at most. -/
theorem abs_roundTo_sub_le {d : α} (hd : 0 < d) (x : α) : |roundTo d x - x| ≤ 1 / (2 * d) := by
  have hscale : roundTo d x - x = ((roundAway (x * d) : α) - x * d) / d := by
    rw [roundTo, sub_div, mul_div_cancel_right₀ _ hd.ne']
  rw [hscale, abs_div, abs_of_pos hd, ← div_div]
  exact div_le_div_of_nonneg_right (abs_roundAway_sub_le (x * d)) hd.le

end Rounding
