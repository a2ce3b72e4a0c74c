import Mathlib

/-! # Separators in a text

A formatter that groups a text as it is typed takes the separators out (`strip`) and puts
them in again at fixed positions (`separate`), before some of the characters and behind some,
whatever the user has put where.  The positions are those of the stripped text.

The separators carry nothing: a text without them is got back from its grouping
(`strip_separate`), so that no two texts are grouped alike, and grouping a second time changes
nothing (`format_format`).  A grouped text is as long as what is grouped and the separators
at the positions up to its end (`length_separate`).
-/
namespace Separators

variable {α : Type}

/-- The text without its separators. -/
def strip [DecidableEq α] (sep : α) (text : List α) : List α := text.filter (· ≠ sep)

/-- The characters from position `idx` on, with separators before and behind some of them. -/
def separate (before behind : ℕ → Bool) (sep : α) : ℕ → List α → List α
  | _, [] => []
  | idx, c :: cs =>
    (if before idx then [sep] else []) ++ c :: (if behind idx then [sep] else []) ++
      separate before behind sep (idx + 1) cs

/-- What a formatter makes of a text: stripped, and grouped. -/
def format [DecidableEq α] (before behind : ℕ → Bool) (sep : α) (text : List α) : List α :=
  separate before behind sep 0 (strip sep text)

section
variable [DecidableEq α] {sep : α}

@[simp] theorem strip_nil : strip sep [] = [] := rfl

@[simp] theorem strip_append (text rest : List α) :
    strip sep (text ++ rest) = strip sep text ++ strip sep rest :=
  List.filter_append text rest

theorem strip_self {cs : List α} (h : sep ∉ cs) : strip sep cs = cs :=
  List.filter_eq_self.mpr fun _ hc => decide_eq_true (ne_of_mem_of_not_mem hc h)

@[simp] theorem not_mem_strip (text : List α) : sep ∉ strip sep text := by
  intro h
  exact of_decide_eq_true (List.mem_filter.mp h).2 rfl

theorem mem_of_mem_strip {text : List α} {c : α} (h : c ∈ strip sep text) : c ∈ text :=
  List.mem_of_mem_filter h

theorem strip_strip (text : List α) : strip sep (strip sep text) = strip sep text :=
  strip_self (not_mem_strip text)

/-- One separator, or none, is taken out. -/
theorem strip_ite (b : Bool) : strip sep (if b then [sep] else []) = [] := by
  cases b <;> simp [strip]

end

section
variable (before behind : ℕ → Bool) {sep : α}

@[simp] theorem separate_nil (idx : ℕ) : separate before behind sep idx [] = [] := rfl

/-- Nothing but separators is put in. -/
theorem mem_separate {cs : List α} {idx : ℕ} {c : α}
    (h : c ∈ separate before behind sep idx cs) : c = sep ∨ c ∈ cs := by
  have hsep : ∀ b : Bool, c ∈ (if b then [sep] else []) → c = sep := by
    intro b hb
    cases b with
    | true => exact List.mem_singleton.mp hb
    | false => exact absurd hb List.not_mem_nil
  induction cs generalizing idx with
  | nil => exact absurd h List.not_mem_nil
  | cons d cs ih =>
    rw [separate, List.append_assoc, List.mem_append, List.cons_append, List.mem_cons,
      List.mem_append] at h
    rcases h with h | rfl | h | h
    · exact Or.inl (hsep _ h)
    · exact Or.inr List.mem_cons_self
    · exact Or.inl (hsep _ h)
    · exact (ih h).imp_right fun hmem => List.mem_cons_of_mem d hmem

/-- Past the last position of a separator, a text stands as it is. -/
theorem separate_of_none {idx : ℕ} (hbefore : ∀ i, idx ≤ i → before i = false)
    (hbehind : ∀ i, idx ≤ i → behind i = false) (cs : List α) :
    separate before behind sep idx cs = cs := by
  induction cs generalizing idx with
  | nil => rfl
  | cons c cs ih =>
    rw [separate, hbefore idx le_rfl, hbehind idx le_rfl,
      ih (fun i hi => hbefore i (by omega)) (fun i hi => hbehind i (by omega))]
    rfl

/-- The separators at the positions of a text count as characters. -/
theorem length_separate (idx : ℕ) (cs : List α) :
    (separate before behind sep idx cs).length =
      cs.length + (List.range' idx cs.length).countP before +
        (List.range' idx cs.length).countP behind := by
  have hone : ∀ b : Bool, (if b then [sep] else []).length = if b then 1 else 0 := by
    intro b
    cases b <;> rfl
  induction cs generalizing idx with
  | nil => rfl
  | cons c cs ih =>
    rw [separate, List.length_append, List.length_append, List.length_cons, hone, hone, ih,
      List.length_cons, List.range'_succ, List.countP_cons, List.countP_cons]
    omega

variable [DecidableEq α]

/-- **Stripping undoes grouping.** -/
theorem strip_separate (idx : ℕ) (cs : List α) :
    strip sep (separate before behind sep idx cs) = strip sep cs := by
  induction cs generalizing idx with
  | nil => rfl
  | cons c cs ih =>
    have hcons : ∀ rest : List α, c :: rest = [c] ++ rest := fun rest => rfl
    rw [separate, hcons, hcons cs]
    simp only [strip_append, strip_ite, ih, List.nil_append, List.append_nil]

/-- A stripped text is found again in its format. -/
theorem strip_format (text : List α) :
    strip sep (format before behind sep text) = strip sep text := by
  rw [format, strip_separate, strip_strip]

/-- **Formatting a second time changes nothing.** -/
theorem format_format (text : List α) :
    format before behind sep (format before behind sep text) = format before behind sep text := by
  rw [format, strip_format, format]

theorem format_of_not_mem {cs : List α} (h : sep ∉ cs) :
    format before behind sep cs = separate before behind sep 0 cs := by
  rw [format, strip_self h]

end

/-- A thousand, grouped by threes from the left. -/
example : format (fun i => i ≠ 0 && i % 3 = 0) (fun _ => false) ',' ['1', ',', '2', '3', '4'] =
    ['1', '2', '3', ',', '4'] := rfl

end Separators
