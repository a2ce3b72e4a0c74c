import Mathlib

/-! # Swift strings, cut at characters

An index into a Swift string counts characters, each of them a cluster of Unicode
scalars, while a number is parsed scalar by scalar.  How a string falls into characters is
Unicode's matter, and here the content of a structure (`Graphemes`): they join up to the
string, and in printable ASCII each scalar is a character.

`parseUInt` is Swift's `UInt(_:)`: decimal digits, behind an optional sign, with a value
that fits 64 bits.
-/
namespace SwiftText

/-- The characters of a string, each by its scalars. -/
structure Graphemes where
  characters : String → List (List Char)
  joined : ∀ s, (characters s).flatten = s.toList
  ascii : ∀ s, (∀ c ∈ s.toList, ' ' ≤ c ∧ c ≤ '~') → characters s = s.toList.map fun c => [c]

/-- Single scalars join up to what they are taken from. -/
theorem flatten_singletons (cs : List Char) : (cs.map fun c => [c]).flatten = cs := by
  induction cs with
  | nil => rfl
  | cons c cs ih => rw [List.map_cons, List.flatten_cons, ih, List.singleton_append]

/-- Every scalar a character of its own. -/
def Graphemes.byScalar : Graphemes where
  characters s := s.toList.map fun c => [c]
  joined s := flatten_singletons s.toList
  ascii _ _ := rfl

section
variable (g : Graphemes) {s : String} (h : ∀ c ∈ s.toList, ' ' ≤ c ∧ c ≤ '~')
include h

/-- In printable ASCII, characters may be counted and cut as scalars. -/
theorem Graphemes.length_ascii : (g.characters s).length = s.toList.length := by
  rw [g.ascii s h, List.length_map]

theorem Graphemes.take_ascii (n : ℕ) :
    ((g.characters s).take n).flatten = s.toList.take n := by
  rw [g.ascii s h, ← List.map_take, flatten_singletons]

theorem Graphemes.drop_ascii (n : ℕ) :
    ((g.characters s).drop n).flatten = s.toList.drop n := by
  rw [g.ascii s h, ← List.map_drop, flatten_singletons]

end

/-! ## Numbers -/

/-- The value of a decimal digit. -/
def digitValue (c : Char) : Option ℕ :=
  if c.isDigit then some (c.toNat - '0'.toNat) else none

/-- The digits that follow `n`. -/
def parseFrom : ℕ → List Char → Option ℕ
  | n, [] => some n
  | n, c :: cs =>
    match digitValue c with
    | none => none
    | some d => if 10 * n + d < 2 ^ 64 then parseFrom (10 * n + d) cs else none

/-- One digit or more. -/
def parseDigits : List Char → Option ℕ
  | [] => none
  | cs => parseFrom 0 cs

/-- `UInt(text)`: nothing but zero may be negative. -/
def parseUInt : List Char → Option ℕ
  | '+' :: cs => parseDigits cs
  | '-' :: cs => (parseDigits cs).filter (· = 0)
  | cs => parseDigits cs

/-- A number does not shrink as digits are added to it. -/
theorem le_ofDigitChars (cs : List Char) (n : ℕ) : n ≤ Nat.ofDigitChars 10 cs n := by
  rw [Nat.ofDigitChars_eq_ofDigitChars_zero]
  have hpow : 1 ≤ 10 ^ cs.length := Nat.one_le_pow _ _ (by decide)
  have hmul : 1 * n ≤ 10 ^ cs.length * n := Nat.mul_le_mul_right n hpow
  omega

theorem parseFrom_of_digits {cs : List Char} (hcs : ∀ c ∈ cs, c.isDigit) {n : ℕ}
    (h : Nat.ofDigitChars 10 cs n < 2 ^ 64) : parseFrom n cs = some (Nat.ofDigitChars 10 cs n) := by
  induction cs generalizing n with
  | nil => rw [parseFrom, Nat.ofDigitChars_nil]
  | cons c cs ih =>
    rw [List.forall_mem_cons] at hcs
    rw [Nat.ofDigitChars_cons] at h ⊢
    have hle := le_ofDigitChars cs (10 * n + (c.toNat - '0'.toNat))
    rw [parseFrom, digitValue, if_pos hcs.1]
    simp only
    rw [if_pos (by omega)]
    exact ih hcs.2 h

/-- Digits alone have no sign. -/
theorem parseUInt_of_digits {cs : List Char} (hne : cs ≠ []) (hcs : ∀ c ∈ cs, c.isDigit)
    (h : Nat.ofDigitChars 10 cs 0 < 2 ^ 64) : parseUInt cs = some (Nat.ofDigitChars 10 cs 0) := by
  unfold parseUInt
  split
  · exact absurd (hcs '+' List.mem_cons_self) (by decide)
  · exact absurd (hcs '-' List.mem_cons_self) (by decide)
  · unfold parseDigits
    split
    · exact absurd rfl hne
    · exact parseFrom_of_digits hcs h

/-- **Parsing undoes printing.** -/
theorem parseUInt_toString {n : ℕ} (h : n < 2 ^ 64) : parseUInt (toString n).toList = some n := by
  rw [Nat.toString_eq_repr, Nat.toList_repr]
  have hdigits : ∀ c ∈ Nat.toDigits 10 n, c.isDigit := fun c hc =>
    Nat.isDigit_of_mem_toDigits (by decide) (by decide) hc
  rw [parseUInt_of_digits Nat.toDigits_ne_nil hdigits (by rwa [Nat.ofDigitChars_ten_toDigits]),
    Nat.ofDigitChars_ten_toDigits]

/-- A number grows by one digit at a time. -/
theorem parseFrom_lt {cs : List Char} {n m : ℕ} (h : parseFrom n cs = some m) :
    m < (n + 1) * 10 ^ cs.length := by
  induction cs generalizing n with
  | nil =>
    rw [parseFrom, Option.some.injEq] at h
    simp [h]
  | cons c cs ih =>
    rw [parseFrom] at h
    split at h
    · cases h
    · rename_i d hd
      split at h
      · have hdigit : d ≤ 9 := by
          unfold digitValue at hd
          split at hd
          · rename_i hc
            rw [Char.isDigit_iff_toNat] at hc
            have hzero : '0'.toNat = 48 := rfl
            have hnine : '9'.toNat = 57 := rfl
            cases hd
            omega
          · cases hd
        have hle : 10 * n + d + 1 ≤ (n + 1) * 10 := by omega
        calc m < (10 * n + d + 1) * 10 ^ cs.length := ih h
          _ ≤ (n + 1) * 10 * 10 ^ cs.length := Nat.mul_le_mul_right _ hle
          _ = (n + 1) * 10 ^ (c :: cs).length := by rw [List.length_cons, pow_succ]; ring
      · cases h

theorem parseDigits_lt {cs : List Char} {n : ℕ} (h : parseDigits cs = some n) :
    n < 10 ^ cs.length := by
  unfold parseDigits at h
  split at h
  · cases h
  · have hlt := parseFrom_lt h
    rwa [Nat.zero_add, Nat.one_mul] at hlt

/-- A text of a few characters is read as a number of as many digits at most. -/
theorem parseUInt_lt {cs : List Char} {n : ℕ} (h : parseUInt cs = some n) :
    n < 10 ^ cs.length := by
  have hsign : ∀ (c : Char) (rest : List Char) (m : ℕ), m < 10 ^ rest.length →
      m < 10 ^ (c :: rest).length := by
    intro c rest m hm
    exact hm.trans_le (Nat.pow_le_pow_right (by decide) (by simp))
  unfold parseUInt at h
  split at h
  · exact hsign _ _ _ (parseDigits_lt h)
  · exact hsign _ _ _ (parseDigits_lt (Option.filter_eq_some_iff.mp h).1)
  · exact parseDigits_lt h

/-- Two digits are read as they are written. -/
theorem parseUInt_two (a b : Fin 10) :
    parseUInt [Nat.digitChar a, Nat.digitChar b] = some (10 * (a : ℕ) + b) := by
  revert a b
  decide

/-- Digits are printable. -/
theorem ascii_of_isDigit {c : Char} (h : c.isDigit) : ' ' ≤ c ∧ c ≤ '~' := by
  rw [Char.isDigit_iff_toNat] at h
  have hle : ∀ x y : Char, x.toNat ≤ y.toNat → x ≤ y := fun x y hxy => hxy
  have h0 : ' '.toNat ≤ '0'.toNat := by decide
  have h9 : '9'.toNat ≤ '~'.toNat := by decide
  exact ⟨hle _ _ (by omega), hle _ _ (by omega)⟩

theorem isDigit_digitChar (d : Fin 10) : (Nat.digitChar d).isDigit := by
  rw [Nat.isDigit_digitChar]
  exact decide_eq_true d.isLt

/-- A plus sign is passed over. -/
example : parseUInt ['+', '1'] = some 1 := rfl

end SwiftText
