import Lidora.PaymentForm
import Lidora.Separators

/-! # What is typed into the payment form

The fields for the number and the expiration date of a card group their text while it is typed:
an edit of the user is put to the field's validator, and the text that it leaves is formatted
anew (`FormTextField.change`).  So neither text is what the user has typed, and what Save makes
of the date, cut at fixed offsets, depends on what the formatter has made of it.

Nothing bad comes of that: once the user has touched the date, the cut falls at the slash
(`typed_reads`), whatever is typed, pasted or deleted, and wherever.  What the validator is for
is another matter.  It looks at the text as if it were typed at its end, and there it does what
it is meant to do: with digits and deletions at the end, the texts that can be reached are the
beginnings of the dates that have not expired, and no others (`typed_at_end_iff`).  But the month
can then not be corrected from the end, since the slash comes back with every deletion
(`month_stays`); and where the user goes back into the text, the slash gets among the characters
that are looked at, the month is not looked at again, and any date at all can be entered
(`any_date`).

The number has to be as long as a grouped number of sixteen digits, and what can be entered
and passes is exactly every number of sixteen digits (`enterable_iff`): a card of fifteen, as
one of the brands that the form shows has them, cannot be saved.
-/
namespace Lidora
open Separators SwiftText

/-! ## Fields -/

/-- What the fields take from Foundation.  In printable ASCII, the decimal digits are the ten;
they are read as a number, and a text with a slash in it is none. -/
structure Foundation where
  graphemes : Graphemes
  decimalDigits : Char → Bool
  /-- `NumberFormatter().number(from:)?.intValue`. -/
  number : List Char → Option ℤ
  decimalDigits_ascii : ∀ c, ' ' ≤ c ∧ c ≤ '~' → decimalDigits c = c.isDigit
  number_digits : ∀ cs, cs ≠ [] → cs.length ≤ 2 → (∀ c ∈ cs, c.isDigit) →
    number cs = some (Nat.ofDigitChars 10 cs 0 : ℤ)
  number_slash : ∀ cs, '/' ∈ cs → number cs = none

/-- A Foundation that knows ASCII only. -/
def Foundation.plain : Foundation where
  graphemes := .byScalar
  decimalDigits := Char.isDigit
  number cs :=
    if cs ≠ [] ∧ cs.all Char.isDigit = true then some (Nat.ofDigitChars 10 cs 0 : ℤ) else none
  decimalDigits_ascii _ _ := rfl
  number_digits _ hne _ hdigits := if_pos ⟨hne, List.all_eq_true.mpr hdigits⟩
  number_slash _ hslash :=
    if_neg fun h => absurd (List.all_eq_true.mp h.2 '/' hslash) (by decide)

/-- In printable ASCII. -/
def Printable (text : List Char) : Prop := ∀ c ∈ text, ' ' ≤ c ∧ c ≤ '~'

structure NSRange where
  location : ℕ
  length : ℕ

/-- An edit: the user types, pastes or deletes.  A range that reaches beyond the text is as
good as one that ends with it. -/
structure Edit where
  range : NSRange
  replacementString : List Char
  printable : Printable replacementString

/-- `composedString`: the text as the edit would leave it. -/
def composedString (replacementString fullString : List Char) (range : NSRange) : List Char :=
  fullString.take range.location ++ replacementString ++
    fullString.drop (range.location + range.length)

/-- A `FormTextField`, by its formatter and what its validator says to an edit. -/
structure FormTextField where
  formatter : Option (List Char → Bool → List Char)
  validateReplacementString : List Char → List Char → NSRange → Bool

namespace FormTextField

/-- `updateText`. -/
def updateText (field : FormTextField) (text : List Char) : List Char :=
  match field.formatter with
  | some formatString => formatString text false
  | none => text

/-- An edit of the text: `shouldChangeCharactersIn` is asked, and `textFieldDidUpdate` told. -/
def change (field : FormTextField) (text : List Char) (e : Edit) : List Char :=
  if field.validateReplacementString e.replacementString text e.range then
    field.updateText (composedString e.replacementString text e.range)
  else text

/-- The text after some edits. -/
def typed (field : FormTextField) (text : List Char) (edits : List Edit) : List Char :=
  edits.foldl field.change text

end FormTextField

/-- `InputValidatable.validateReplacementString`. -/
def InputValidatable.validateReplacementString (g : Graphemes) (v : Validation)
    (replacementString fullString : List Char) (range : NSRange) : Bool :=
  v.validateString g (String.ofList (composedString replacementString fullString range)) false

/-- `CardNumberFormatter.formatString`. -/
def CardNumberFormatter.formatString (string : List Char) (reverse : Bool) : List Char :=
  if reverse then strip ' ' string
  else format (fun idx => idx ≠ 0 && idx % 4 = 0) (fun _ => false) ' ' string

/-- `CardExpirationDateFormatter.formatString`. -/
def CardExpirationDateFormatter.formatString (string : List Char) (reverse : Bool) : List Char :=
  if reverse then strip '/' string
  else format (fun _ => false) (fun idx => idx = 1) '/' string

/-- `CardExpirationDateInputValidator.validateReplacementString`, in the calendar year
`year`. -/
def CardExpirationDateInputValidator.validateReplacementString (F : Foundation) (year : ℕ)
    (replacementString fullString : List Char) (range : NSRange) : Bool :=
  let composed := composedString replacementString fullString range
  InputValidatable.validateReplacementString F.graphemes expirationValidation replacementString
      fullString range &&
    if 0 < composed.length then
      let precomposed :=
        if composed.length = 4 ∨ composed.length = 5 then composed.drop 3 else composed
      match F.number precomposed with
      | none => true
      | some number =>
        match composed.length with
        | 1 => number = 0 ∨ number = 1
        | 2 => 0 < number ∧ number ≤ 12
        | 3 => replacementString = ['/']
        | 4 | 5 =>
          let century := year / 100
          let basicYear := year - century * 100
          let decade := basicYear / 10
          if precomposed.length = 1 then (decade : ℤ) ≤ number
          else if precomposed.length = 2 then (basicYear : ℤ) ≤ number
          else true
        | _ => true
    else true

section
variable (F : Foundation) (year : ℕ)

/-- `cardNumberField`. -/
def cardNumberField : FormTextField where
  formatter := some CardNumberFormatter.formatString
  validateReplacementString := InputValidatable.validateReplacementString F.graphemes
    (cardNumberValidation F.decimalDigits)

/-- `cardExpirationDateField`. -/
def cardExpirationDateField : FormTextField where
  formatter := some CardExpirationDateFormatter.formatString
  validateReplacementString := CardExpirationDateInputValidator.validateReplacementString F year

/-- `cvcField`. -/
def cvcField : FormTextField where
  formatter := none
  validateReplacementString := InputValidatable.validateReplacementString F.graphemes
    (cvcValidation F.decimalDigits)

end

/-! ## What an edit can do -/

section
variable {text rest : List Char} {F : Foundation} {year : ℕ}

theorem printable_nil : Printable [] := fun _ hc => absurd hc List.not_mem_nil

theorem printable_digits (ds : List (Fin 10)) :
    Printable (ds.map fun d : Fin 10 => Nat.digitChar d) := by
  intro c hc
  obtain ⟨d, -, rfl⟩ := List.mem_map.mp hc
  exact ascii_of_isDigit (isDigit_digitChar d)

theorem Printable.append (h : Printable text) (hrest : Printable rest) :
    Printable (text ++ rest) := by
  intro c hc
  rcases List.mem_append.mp hc with hc | hc
  · exact h c hc
  · exact hrest c hc

theorem Printable.take (h : Printable text) (n : ℕ) : Printable (text.take n) :=
  fun c hc => h c (List.mem_of_mem_take hc)

theorem Printable.drop (h : Printable text) (n : ℕ) : Printable (text.drop n) :=
  fun c hc => h c (List.mem_of_mem_drop hc)

theorem Printable.composed (h : Printable text) (e : Edit) :
    Printable (composedString e.replacementString text e.range) :=
  ((h.take _).append e.printable).append (h.drop _)

/-- Grouping a printable text leaves it printable. -/
theorem Printable.format {before behind : ℕ → Bool} {sep : Char} (h : Printable text)
    (hsep : ' ' ≤ sep ∧ sep ≤ '~') : Printable (format before behind sep text) := by
  intro c hc
  rcases mem_separate before behind hc with rfl | hc
  · exact hsep
  · exact h c (mem_of_mem_strip hc)

/-- The number of characters of a printable text. -/
theorem Printable.count (h : Printable text) :
    (F.graphemes.characters (String.ofList text)).length = text.length := by
  have hascii : ∀ c ∈ (String.ofList text).toList, ' ' ≤ c ∧ c ≤ '~' := by
    rw [String.toList_ofList]
    exact h
  rw [F.graphemes.length_ascii hascii, String.toList_ofList]

/-- What holds of a text and is kept by every edit that is let through holds of all that is
typed. -/
theorem FormTextField.typed_induction {field : FormTextField} {P : List Char → Prop}
    (hstart : P text)
    (hstep : ∀ (text : List Char) (e : Edit), P text →
      field.validateReplacementString e.replacementString text e.range = true →
      P (field.updateText (composedString e.replacementString text e.range)))
    (edits : List Edit) : P (field.typed text edits) := by
  induction edits generalizing text with
  | nil => exact hstart
  | cons e edits ih =>
    have hchange : P (field.change text e) := by
      unfold FormTextField.change
      by_cases hvalid : field.validateReplacementString e.replacementString text e.range = true
      · rw [if_pos hvalid]
        exact hstep text e hstart hvalid
      · rw [if_neg hvalid]
        exact hstart
    exact ih hchange

/-! ## The date -/

/-- The text that the date formatter makes: with two characters or more, the slash is the
third. -/
theorem formatString_date {a b : Char} (ha : a ≠ '/') (hb : b ≠ '/') (rest : List Char) :
    CardExpirationDateFormatter.formatString (a :: b :: rest) false =
      a :: b :: '/' :: strip '/' rest := by
  have hstrip : strip '/' (a :: b :: rest) = a :: b :: strip '/' rest := by
    simp [strip, ha, hb]
  have hrest : separate (fun _ => false) (fun idx => idx = 1) '/' 2 (strip '/' rest) =
      strip '/' rest :=
    separate_of_none _ _ (fun _ _ => rfl) (fun i hi => decide_eq_false (by omega)) _
  rw [CardExpirationDateFormatter.formatString, if_neg Bool.false_ne_true, Separators.format,
    hstrip, separate, separate, hrest]
  rfl

/-- A text of which the formatter has made what it is. -/
def DateFormatted (text : List Char) : Prop :=
  text = CardExpirationDateFormatter.formatString text false

/-- The kinds of formatted dates: none or one character, or two and the slash before the
rest. -/
theorem DateFormatted.cases (h : DateFormatted text) :
    (text.length ≤ 1 ∧ '/' ∉ text) ∨
      ∃ a b rest, text = a :: b :: '/' :: rest ∧ '/' ∉ [a, b] ∧ '/' ∉ rest := by
  have hmem : '/' ∉ strip '/' text := not_mem_strip text
  have htext : text = separate (fun _ => false) (fun idx => idx = 1) '/' 0 (strip '/' text) := h
  rcases hcs : strip '/' text with _ | ⟨a, _ | ⟨b, rest⟩⟩
  · left
    rw [hcs] at htext
    rw [htext]
    simp
  · left
    rw [hcs] at htext hmem
    have hone : text = [a] := htext
    rw [hone]
    exact ⟨le_rfl, hmem⟩
  · right
    rw [hcs] at hmem
    rw [List.mem_cons, List.mem_cons, not_or, not_or] at hmem
    obtain ⟨ha, hb, hrest⟩ := hmem
    refine ⟨a, b, rest, ?_, by simp [ha, hb], hrest⟩
    rw [hcs] at htext
    rw [htext, ← format_of_not_mem _ _ (by simp [ha, hb, hrest])]
    have := formatString_date (Ne.symm ha) (Ne.symm hb) rest
    rw [strip_self hrest] at this
    exact this

/-- The date as a reader takes it: the month before the slash, and the year behind it. -/
def ReadsAs (text : List Char) (month year : ℕ) : Prop :=
  ∃ before behind, text = before ++ '/' :: behind ∧ '/' ∉ before ∧
    parseUInt before = some month ∧ parseUInt behind = some year

/-- **The cut falls at the slash**: of a formatted date, `addPaymentMethod` parses what a
reader reads. -/
theorem parses_iff_reads (g : Graphemes) (hprint : Printable text) (h : DateFormatted text)
    {month year : ℕ} :
    expMonth g (String.ofList text) = some month ∧ expYear g (String.ofList text) = some year ↔
      ReadsAs text month year := by
  have hascii : ∀ c ∈ (String.ofList text).toList, ' ' ≤ c ∧ c ≤ '~' := by
    rw [String.toList_ofList]
    exact hprint
  rw [expMonth, expYear, g.length_ascii hascii, g.take_ascii hascii, g.drop_ascii hascii,
    String.toList_ofList]
  rcases h.cases with ⟨hshort, hslash⟩ | ⟨a, b, rest, rfl, hslash, hrest⟩
  · rw [if_neg (by omega)]
    refine iff_of_false (fun hm => absurd hm.1 (by simp)) ?_
    rintro ⟨before, behind, rfl, -⟩
    exact hslash (List.mem_append_right _ List.mem_cons_self)
  · rw [if_pos (by simp), if_pos (by simp)]
    constructor
    · rintro ⟨hm, hy⟩
      exact ⟨[a, b], rest, rfl, hslash, hm, hy⟩
    · rintro ⟨before, behind, htext, hbefore, hm, hy⟩
      have hcut : [a, b] = before ∧ rest = behind := by
        have hinj := (List.append_cons_inj_of_notMem hslash hrest).mp htext
        exact ⟨hinj.1, hinj.2.2⟩
      rw [← hcut.1] at hm
      rw [← hcut.2] at hy
      exact ⟨hm, hy⟩

theorem dateFormatted_format (text : List Char) :
    DateFormatted (CardExpirationDateFormatter.formatString text false) := by
  rw [DateFormatted, CardExpirationDateFormatter.formatString, if_neg Bool.false_ne_true,
    CardExpirationDateFormatter.formatString, if_neg Bool.false_ne_true, format_format]

/-- A date is left as it was, or it has been formatted, and printable it stays. -/
theorem typed_date (F : Foundation) (year : ℕ) (hprint : Printable text) (edits : List Edit) :
    Printable ((cardExpirationDateField F year).typed text edits) ∧
      ((cardExpirationDateField F year).typed text edits = text ∨
        DateFormatted ((cardExpirationDateField F year).typed text edits)) := by
  refine FormTextField.typed_induction
    (P := fun now => Printable now ∧ (now = text ∨ DateFormatted now)) ⟨hprint, Or.inl rfl⟩ ?_ edits
  rintro now e ⟨hnow, -⟩ -
  exact ⟨(hnow.composed e).format (by decide), Or.inr (dateFormatted_format _)⟩

/-- **What is typed is what is read.**  However the expiration date is typed, pasted and
deleted, at its end or anywhere else: once it is another text than the printable one it started
from, or when it started empty, Save traps if and only if the text is no number, slash and
number, and what it writes are these two numbers. -/
theorem typed_reads (F : Foundation) (year : ℕ) (start : List Char) (hstart : Printable start)
    (edits : List Edit)
    (hchanged : start = [] ∨ (cardExpirationDateField F year).typed start edits ≠ start)
    (form : PaymentForm)
    (hform : form.expiration =
      String.ofList ((cardExpirationDateField F year).typed start edits)) :
    (form.addPaymentMethod F.graphemes F.decimalDigits = .trapped ↔
        ¬ ∃ month year', ReadsAs ((cardExpirationDateField F year).typed start edits) month year') ∧
      ∀ month year',
        (form.addPaymentMethod F.graphemes F.decimalDigits).written = some (month, year') →
          ReadsAs ((cardExpirationDateField F year).typed start edits) month year' := by
  obtain ⟨hprint, hkept⟩ := typed_date F year hstart edits
  set text := (cardExpirationDateField F year).typed start edits with htext
  have hformatted : DateFormatted text := by
    rcases hkept with hsame | hformatted
    · rcases hchanged with hempty | hother
      · rw [hsame, hempty]
        rfl
      · exact absurd hsame hother
    · exact hformatted
  have hiff : ∀ month year', expMonth F.graphemes form.expiration = some month ∧
      expYear F.graphemes form.expiration = some year' ↔ ReadsAs text month year' := by
    rw [hform]
    exact fun _ _ => parses_iff_reads F.graphemes hprint hformatted
  by_cases hreads : ∃ month year', ReadsAs text month year'
  · obtain ⟨month, year', hdate⟩ := hreads
    obtain ⟨hm, hy⟩ := (hiff month year').mpr hdate
    obtain ⟨htrapped, hwritten⟩ := written_of_parses F.decimalDigits hm hy
    refine ⟨iff_of_false htrapped (fun hnone => hnone ⟨month, year', hdate⟩), ?_⟩
    intro month' year'' hw
    rcases hwritten with ⟨-, hsome⟩ | ⟨-, hnone⟩
    · rw [hsome] at hw
      cases hw
      exact hdate
    · rw [hnone] at hw
      cases hw
  · have htrapped : form.addPaymentMethod F.graphemes F.decimalDigits = .trapped := by
      refine trapped_of_not_parses F.decimalDigits fun hparses => hreads ?_
      obtain ⟨hm, hy⟩ := dateParses_iff.mp hparses
      obtain ⟨month, hm⟩ := Option.isSome_iff_exists.mp hm
      obtain ⟨year', hy⟩ := Option.isSome_iff_exists.mp hy
      exact ⟨month, year', (hiff month year').mp ⟨hm, hy⟩⟩
    refine ⟨iff_of_true htrapped hreads, ?_⟩
    intro month year' hw
    rw [htrapped] at hw
    cases hw

/-- Four digits at once. -/
def pastedDate : Edit := ⟨⟨0, 0⟩, ['1', '2', '3', '4'], printable_digits [1, 2, 3, 4]⟩

/-- The form of a new card with that date. -/
def pastedForm : PaymentForm :=
  ⟨none, none, "", String.ofList ((cardExpirationDateField .plain 2020).typed [] [pastedDate]), ""⟩

theorem typed_reads_pasted :
    pastedForm.expiration = "12/34" ∧
      (pastedForm.addPaymentMethod Graphemes.byScalar Char.isDigit = .trapped ↔
        ¬ ∃ month year',
          ReadsAs ((cardExpirationDateField .plain 2020).typed [] [pastedDate]) month year') ∧
      ∀ month year',
        (pastedForm.addPaymentMethod Graphemes.byScalar Char.isDigit).written =
            some (month, year') →
          ReadsAs ((cardExpirationDateField .plain 2020).typed [] [pastedDate]) month year' :=
  ⟨by decide +kernel,
    typed_reads .plain 2020 [] printable_nil [pastedDate] (Or.inl rfl) pastedForm rfl⟩

/-! ## Typing at the end -/

/-- A key that is typed: one of a character, or the one that deletes. -/
inductive Key where
  | char (c : Char) (printable : ' ' ≤ c ∧ c ≤ '~')
  | delete

/-- The edit that a key makes while the cursor stands at the end. -/
def Key.edit (text : List Char) : Key → Edit
  | char c printable => ⟨⟨text.length, 0⟩, [c], List.forall_mem_singleton.mpr printable⟩
  | delete => ⟨⟨text.length - 1, 1⟩, [], printable_nil⟩

/-- The text after some keys, typed at its end. -/
def FormTextField.typedAtEnd (field : FormTextField) (text : List Char) (keys : List Key) :
    List Char :=
  keys.foldl (fun now key => field.change now (key.edit now)) text

/-- What a key makes of a text, before that is put to the validator. -/
def Key.compose (text : List Char) : Key → List Char
  | char c _ => text ++ [c]
  | delete => text.dropLast

theorem composedString_edit (text : List Char) (key : Key) :
    composedString (key.edit text).replacementString text (key.edit text).range =
      key.compose text := by
  cases key with
  | char c printable => simp [Key.edit, Key.compose, composedString]
  | delete =>
    have hbeyond : text.length ≤ text.length - 1 + 1 := by omega
    simp [Key.edit, Key.compose, composedString, List.dropLast_eq_take, hbeyond]

/-- A key leaves the text as it is, or the formatter makes a text of what it composes. -/
theorem change_key (field : FormTextField) (text : List Char) (key : Key) :
    field.change text (key.edit text) = text ∨
      field.change text (key.edit text) = field.updateText (key.compose text) := by
  rw [FormTextField.change, composedString_edit]
  split
  · exact Or.inr rfl
  · exact Or.inl rfl

theorem FormTextField.typedAtEnd_append (field : FormTextField) (text : List Char)
    (keys keys' : List Key) : field.typedAtEnd text (keys ++ keys') =
      field.typedAtEnd (field.typedAtEnd text keys) keys' :=
  List.foldl_append

theorem FormTextField.typedAtEnd_singleton (field : FormTextField) (text : List Char) (key : Key) :
    field.typedAtEnd text [key] = field.change text (key.edit text) :=
  rfl

/-- What holds of a text and is kept by every key that is let through holds of all that is
typed at the end. -/
theorem FormTextField.typedAtEnd_induction {field : FormTextField} {P : List Char → Prop}
    (hstart : P text)
    (hstep : ∀ (now : List Char) (key : Key), P now → P (field.updateText (key.compose now)))
    (keys : List Key) : P (field.typedAtEnd text keys) := by
  induction keys generalizing text with
  | nil => exact hstart
  | cons key keys ih =>
    have hchange : P (field.change text (key.edit text)) := by
      rcases change_key field text key with hsame | hnew
      · rw [hsame]
        exact hstart
      · rw [hnew]
        exact hstep text key hstart
    exact ih hchange

/-- A key at the end does not get past the slash. -/
theorem compose_after_slash {a b : Char} (ha : a ≠ '/') (hb : b ≠ '/') (rest : List Char)
    (key : Key) : ∃ rest', CardExpirationDateFormatter.formatString
      (key.compose (a :: b :: '/' :: rest)) false = a :: b :: '/' :: rest' := by
  cases key with
  | char c printable => exact ⟨_, formatString_date ha hb ('/' :: rest ++ [c])⟩
  | delete =>
    rcases rest with _ | ⟨c, rest⟩
    · exact ⟨[], formatString_date ha hb []⟩
    · exact ⟨_, formatString_date ha hb ('/' :: (c :: rest).dropLast)⟩

/-- **The month cannot be corrected from the end**: once a text that the formatter has made holds
two characters or more, no typing and deleting at its end, in printable ASCII, changes the month
or takes the slash away. -/
theorem month_stays (F : Foundation) (year : ℕ) (start : List Char) (hstart : DateFormatted start)
    (keys keys' : List Key)
    (hmonth : 2 ≤ ((cardExpirationDateField F year).typedAtEnd start keys).length) :
    ((cardExpirationDateField F year).typedAtEnd start (keys ++ keys')).take 3 =
      ((cardExpirationDateField F year).typedAtEnd start keys).take 3 := by
  have hformatted : DateFormatted ((cardExpirationDateField F year).typedAtEnd start keys) := by
    refine FormTextField.typedAtEnd_induction hstart ?_ keys
    intro now key _
    exact dateFormatted_format (key.compose now)
  rw [FormTextField.typedAtEnd_append]
  rcases hformatted.cases with ⟨hshort, -⟩ | ⟨a, b, rest, htext, hslash, -⟩
  · omega
  · have ha : a ≠ '/' := fun h => hslash (h ▸ List.mem_cons_self)
    have hb : b ≠ '/' := fun h => hslash (h ▸ List.mem_cons_of_mem a List.mem_cons_self)
    have hstays : ∃ rest', (cardExpirationDateField F year).typedAtEnd (a :: b :: '/' :: rest)
        keys' = a :: b :: '/' :: rest' := by
      refine FormTextField.typedAtEnd_induction
        (P := fun now => ∃ rest', now = a :: b :: '/' :: rest') ⟨rest, rfl⟩ ?_ keys'
      rintro _ key ⟨rest, rfl⟩
      exact compose_after_slash ha hb rest key
    obtain ⟨rest', hthen⟩ := hstays
    rw [htext, hthen]
    rfl

/-- A key of an ASCII character. -/
def keyOne : Key := .char '1' (by decide)

theorem month_stays_deleting :
    ((cardExpirationDateField .plain 2020).typedAtEnd []
        ([keyOne, keyOne] ++ [.delete, .delete, keyOne])).take 3 =
      ((cardExpirationDateField .plain 2020).typedAtEnd [] [keyOne, keyOne]).take 3 :=
  month_stays .plain 2020 [] rfl [keyOne, keyOne] [.delete, .delete, keyOne] (by decide +kernel)

/-! ## What the validator says to digits -/

/-- One digit, or two, are read as a number. -/
theorem number_one (F : Foundation) (d : Fin 10) :
    F.number [Nat.digitChar d] = some (d : ℤ) := by
  rw [F.number_digits _ (by simp) (by simp) (by simp),
    Nat.ofDigitChars_cons_digitChar_of_lt_ten d.isLt, Nat.ofDigitChars_nil]
  simp

theorem number_two (F : Foundation) (a b : Fin 10) :
    F.number [Nat.digitChar a, Nat.digitChar b] = some ((10 * a + b : ℕ) : ℤ) := by
  rw [F.number_digits _ (by simp) (by simp) (by simp),
    Nat.ofDigitChars_cons_digitChar_of_lt_ten a.isLt,
    Nat.ofDigitChars_cons_digitChar_of_lt_ten b.isLt, Nat.ofDigitChars_nil]
  simp

/-- Of the length of a date, the validator says that it has at most five characters. -/
theorem allows_length {composed : List Char} (h : Printable composed) :
    expirationValidation.validateString F.graphemes (String.ofList composed) false =
      decide (composed.length ≤ 5) := by
  rw [Validation.validateString, h.count]
  simp [expirationValidation]

section
variable {replacementString fullString : List Char} {range : NSRange} {a b c d : Fin 10}
  {x y z : Char}

/-- The first digit is a zero or a one. -/
theorem validate_one (h : composedString replacementString fullString range = [Nat.digitChar a]) :
    CardExpirationDateInputValidator.validateReplacementString F year replacementString fullString
      range = decide ((a : ℕ) ≤ 1) := by
  have hprint : Printable [Nat.digitChar a] := printable_digits [a]
  unfold CardExpirationDateInputValidator.validateReplacementString
  simp only [InputValidatable.validateReplacementString, h, allows_length hprint,
    List.length_cons, List.length_nil]
  rw [Bool.eq_iff_iff]
  simp [number_one]
  omega

/-- The first two digits are a month. -/
theorem validate_two
    (h : composedString replacementString fullString range = [Nat.digitChar a, Nat.digitChar b]) :
    CardExpirationDateInputValidator.validateReplacementString F year replacementString fullString
      range = decide (1 ≤ 10 * (a : ℕ) + b ∧ 10 * (a : ℕ) + b ≤ 12) := by
  have hprint : Printable [Nat.digitChar a, Nat.digitChar b] := printable_digits [a, b]
  unfold CardExpirationDateInputValidator.validateReplacementString
  simp only [InputValidatable.validateReplacementString, h, allows_length hprint,
    List.length_cons, List.length_nil]
  rw [Bool.eq_iff_iff]
  simp [number_two]
  omega

/-- The fourth character is a decade that is not over. -/
theorem validate_four (hprint : Printable [x, y, z])
    (h : composedString replacementString fullString range = [x, y, z, Nat.digitChar a]) :
    CardExpirationDateInputValidator.validateReplacementString F year replacementString fullString
      range = decide (year % 100 / 10 ≤ a) := by
  have hprint' : Printable [x, y, z, Nat.digitChar a] :=
    hprint.append (printable_digits [a])
  have hcentury : year - year / 100 * 100 = year % 100 := by omega
  unfold CardExpirationDateInputValidator.validateReplacementString
  simp only [InputValidatable.validateReplacementString, h, allows_length hprint', hcentury,
    List.length_cons, List.length_nil, List.drop_succ_cons, List.drop_zero]
  rw [Bool.eq_iff_iff]
  simp [number_one]
  omega

/-- The last two digits are a year that is not over. -/
theorem validate_five (hprint : Printable [x, y, z])
    (h : composedString replacementString fullString range =
      [x, y, z, Nat.digitChar a, Nat.digitChar b]) :
    CardExpirationDateInputValidator.validateReplacementString F year replacementString fullString
      range = decide (year % 100 ≤ 10 * (a : ℕ) + b) := by
  have hprint' : Printable [x, y, z, Nat.digitChar a, Nat.digitChar b] :=
    hprint.append (printable_digits [a, b])
  have hcentury : year - year / 100 * 100 = year % 100 := by omega
  unfold CardExpirationDateInputValidator.validateReplacementString
  simp only [InputValidatable.validateReplacementString, h, allows_length hprint', hcentury,
    List.length_cons, List.length_nil, List.drop_succ_cons, List.drop_zero]
  rw [Bool.eq_iff_iff]
  simp [number_two]
  omega

/-- There are at most five characters. -/
theorem validate_long
    (hprint : Printable (composedString replacementString fullString range))
    (h : 6 ≤ (composedString replacementString fullString range).length) :
    CardExpirationDateInputValidator.validateReplacementString F year replacementString fullString
      range = false := by
  unfold CardExpirationDateInputValidator.validateReplacementString
  simp only [InputValidatable.validateReplacementString, allows_length hprint]
  rw [decide_eq_false (by omega), Bool.false_and]

end

/-! ## The dates that are typed -/

/-- The keys of the keypad that the field asks for. -/
inductive Keypad where
  | digit (d : Fin 10)
  | delete

def Keypad.key : Keypad → Key
  | digit d => .char (Nat.digitChar d) (ascii_of_isDigit (isDigit_digitChar d))
  | delete => .delete

/-- The digits of a date: of the month, and of the year in its century. -/
def dateDigits (a b c d : Fin 10) : List Char := [a, b, c, d].map fun x : Fin 10 => Nat.digitChar x

/-- A month, and a year of the century that is not over. -/
def NotExpired (year : ℕ) (a b c d : Fin 10) : Prop :=
  1 ≤ 10 * (a : ℕ) + b ∧ 10 * (a : ℕ) + b ≤ 12 ∧ year % 100 ≤ 10 * (c : ℕ) + d

/-- The text is what the formatter makes of the first digits of a date. -/
def IsBeginning (year : ℕ) (text : List Char) : Prop :=
  ∃ a b c d n, NotExpired year a b c d ∧
    text = CardExpirationDateFormatter.formatString ((dateDigits a b c d).take n) false

theorem digitChar_ne_slash (d : Fin 10) : Nat.digitChar d ≠ '/' := by
  revert d
  decide

/-- The formatter, digit by digit. -/
theorem formatString_take (a b c d : Fin 10) (n : ℕ) :
    CardExpirationDateFormatter.formatString ((dateDigits a b c d).take n) false =
      match n with
      | 0 => []
      | 1 => [Nat.digitChar a]
      | 2 => [Nat.digitChar a, Nat.digitChar b, '/']
      | 3 => [Nat.digitChar a, Nat.digitChar b, '/', Nat.digitChar c]
      | _ => [Nat.digitChar a, Nat.digitChar b, '/', Nat.digitChar c, Nat.digitChar d] := by
  have hslash : ∀ x : Fin 10, '/' ≠ Nat.digitChar x := fun x => (digitChar_ne_slash x).symm
  rcases n with _ | _ | _ | _ | n
  · rfl
  · have hone : strip '/' [Nat.digitChar a] = [Nat.digitChar a] :=
      strip_self (by simp [hslash])
    simp [dateDigits, CardExpirationDateFormatter.formatString, Separators.format, hone, separate]
  · exact formatString_date (digitChar_ne_slash a) (digitChar_ne_slash b) []
  · refine (formatString_date (digitChar_ne_slash a) (digitChar_ne_slash b) _).trans ?_
    rw [strip_self (by simp [hslash])]
    rfl
  · refine (formatString_date (digitChar_ne_slash a) (digitChar_ne_slash b) _).trans ?_
    rw [strip_self (by simp [hslash])]
    simp

/-- A digit at the end, by what the validator says to it. -/
theorem change_digit (F : Foundation) (year : ℕ) (text : List Char) (e : Fin 10) :
    (cardExpirationDateField F year).change text ((Keypad.digit e).key.edit text) =
      if CardExpirationDateInputValidator.validateReplacementString F year [Nat.digitChar e] text
          ⟨text.length, 0⟩ then
        CardExpirationDateFormatter.formatString (text ++ [Nat.digitChar e]) false
      else text := by
  rw [FormTextField.change, composedString_edit]
  rfl

/-- What a digit at the end composes. -/
theorem composedString_digit (text : List Char) (e : Fin 10) :
    composedString [Nat.digitChar e] text ⟨text.length, 0⟩ = text ++ [Nat.digitChar e] :=
  composedString_edit text (Keypad.digit e).key

/-- What is typed behind a formatted text is formatted with what that was made of. -/
theorem formatString_append (cs ds : List Char) :
    CardExpirationDateFormatter.formatString
        (CardExpirationDateFormatter.formatString cs false ++ ds) false =
      CardExpirationDateFormatter.formatString (cs ++ ds) false := by
  simp only [CardExpirationDateFormatter.formatString, if_neg Bool.false_ne_true,
    Separators.format, strip_append, strip_separate, strip_strip]

/-- A deletion at the end of a beginning leaves a beginning. -/
theorem beginning_delete (h : IsBeginning year text) :
    IsBeginning year ((cardExpirationDateField F year).change text (Key.delete.edit text)) := by
  rcases change_key (cardExpirationDateField F year) text Key.delete with hsame | hnew
  · rw [hsame]
    exact h
  · rw [hnew]
    change IsBeginning year (CardExpirationDateFormatter.formatString text.dropLast false)
    obtain ⟨a, b, c, d, n, hdate, rfl⟩ := h
    have hagain : ∀ m, CardExpirationDateFormatter.formatString
        (CardExpirationDateFormatter.formatString ((dateDigits a b c d).take m) false) false =
          CardExpirationDateFormatter.formatString ((dateDigits a b c d).take m) false := by
      intro m
      have := formatString_append ((dateDigits a b c d).take m) []
      rwa [List.append_nil, List.append_nil] at this
    rw [formatString_take]
    rcases n with _ | _ | _ | _ | n
    · exact ⟨a, b, c, d, 0, hdate, rfl⟩
    · exact ⟨a, b, c, d, 0, hdate, rfl⟩
    · exact ⟨a, b, c, d, 2, hdate, rfl⟩
    · refine ⟨a, b, c, d, 2, hdate, (Eq.trans ?_ (hagain 2))⟩
      rw [formatString_take]
      rfl
    · refine ⟨a, b, c, d, 3, hdate, (Eq.trans ?_ (hagain 3))⟩
      rw [formatString_take]
      rfl

/-- What the validator says to a digit behind the first `n` digits of a date. -/
theorem validate_digit (F : Foundation) (year : ℕ) (a b c d e : Fin 10) (n : ℕ) :
    CardExpirationDateInputValidator.validateReplacementString F year [Nat.digitChar e]
        (CardExpirationDateFormatter.formatString ((dateDigits a b c d).take n) false)
        ⟨(CardExpirationDateFormatter.formatString ((dateDigits a b c d).take n) false).length, 0⟩ =
      match n with
      | 0 => decide ((e : ℕ) ≤ 1)
      | 1 => decide (1 ≤ 10 * (a : ℕ) + e ∧ 10 * (a : ℕ) + e ≤ 12)
      | 2 => decide (year % 100 / 10 ≤ e)
      | 3 => decide (year % 100 ≤ 10 * (c : ℕ) + e)
      | _ => false := by
  have hslash : Printable ['/'] := List.forall_mem_singleton.mpr (by decide)
  have hthree : Printable [Nat.digitChar a, Nat.digitChar b, '/'] :=
    (printable_digits [a, b]).append hslash
  have hcomposed := composedString_digit
    (CardExpirationDateFormatter.formatString ((dateDigits a b c d).take n) false) e
  rw [formatString_take] at hcomposed ⊢
  rcases n with _ | _ | _ | _ | n
  · exact validate_one hcomposed
  · exact validate_two hcomposed
  · exact validate_four hthree hcomposed
  · exact validate_five hthree hcomposed
  · refine validate_long ?_ ?_
    · rw [hcomposed]
      exact (hthree.append (printable_digits [c, d])).append (printable_digits [e])
    · rw [hcomposed]
      exact le_rfl

/-- A digit at the end of a beginning makes a longer one, where it is let through. -/
theorem beginning_digit (h : IsBeginning year text) (e : Fin 10) :
    IsBeginning year
      ((cardExpirationDateField F year).change text ((Keypad.digit e).key.edit text)) := by
  have hold := h
  obtain ⟨a, b, c, d, n, ⟨hfirst, hlast, hyear⟩, rfl⟩ := h
  rw [change_digit, formatString_append]
  split
  · rename_i hvalid
    rw [validate_digit] at hvalid
    rcases n with _ | _ | _ | _ | n
    · -- the first digit of a month that is completed by 1 or by 0
      have he : (e : ℕ) ≤ 1 := of_decide_eq_true hvalid
      by_cases hzero : (e : ℕ) = 0
      · exact ⟨e, 1, c, d, 1, ⟨by rw [hzero]; decide, by rw [hzero]; decide, hyear⟩, rfl⟩
      · have hone : (e : ℕ) = 1 := by omega
        exact ⟨e, 0, c, d, 1, ⟨by rw [hone]; decide, by rw [hone]; decide, hyear⟩, rfl⟩
    · obtain ⟨hfirst', hlast'⟩ := of_decide_eq_true hvalid
      exact ⟨a, e, c, d, 2, ⟨hfirst', hlast', hyear⟩, rfl⟩
    · -- the last year of a decade that is not over is not over
      have he : year % 100 / 10 ≤ e := of_decide_eq_true hvalid
      have hnine : year % 100 ≤ 10 * (e : ℕ) + (9 : Fin 10) := by
        change year % 100 ≤ 10 * (e : ℕ) + 9
        omega
      exact ⟨a, b, e, 9, 3, ⟨hfirst, hlast, hnine⟩, rfl⟩
    · have he : year % 100 ≤ 10 * (c : ℕ) + e := of_decide_eq_true hvalid
      exact ⟨a, b, c, e, 4, ⟨hfirst, hlast, he⟩, rfl⟩
    · cases hvalid
  · exact hold

/-- One more digit of a date, where it is let through. -/
theorem typed_next {a b c d e : Fin 10} {n : ℕ} {keys : List Keypad}
    (hkeys : (cardExpirationDateField F year).typedAtEnd [] (keys.map Keypad.key) =
      CardExpirationDateFormatter.formatString ((dateDigits a b c d).take n) false)
    (hvalid : CardExpirationDateInputValidator.validateReplacementString F year [Nat.digitChar e]
      (CardExpirationDateFormatter.formatString ((dateDigits a b c d).take n) false)
      ⟨(CardExpirationDateFormatter.formatString ((dateDigits a b c d).take n) false).length, 0⟩ =
        true)
    (htake : (dateDigits a b c d).take n ++ [Nat.digitChar e] = (dateDigits a b c d).take (n + 1)) :
    (cardExpirationDateField F year).typedAtEnd [] ((keys ++ [Keypad.digit e]).map Keypad.key) =
      CardExpirationDateFormatter.formatString ((dateDigits a b c d).take (n + 1)) false := by
  rw [List.map_append, FormTextField.typedAtEnd_append, hkeys, List.map_singleton,
    FormTextField.typedAtEnd_singleton, change_digit, hvalid, if_pos rfl, formatString_append,
    htake]

/-- A date that has not expired is let through digit by digit. -/
theorem typed_beginning (F : Foundation) {a b c d : Fin 10} (hdate : NotExpired year a b c d)
    (n : ℕ) : ∃ keys : List Keypad,
      (cardExpirationDateField F year).typedAtEnd [] (keys.map Keypad.key) =
        CardExpirationDateFormatter.formatString ((dateDigits a b c d).take n) false := by
  obtain ⟨hfirst, hlast, hyear⟩ := hdate
  have hone : (a : ℕ) ≤ 1 := by omega
  have hdecade : year % 100 / 10 ≤ c := by omega
  have h0 : (cardExpirationDateField F year).typedAtEnd [] (([] : List Keypad).map Keypad.key) =
      CardExpirationDateFormatter.formatString ((dateDigits a b c d).take 0) false := rfl
  have h1 := typed_next (e := a) h0 (by rw [validate_digit]; exact decide_eq_true hone) rfl
  have h2 := typed_next (e := b) h1
    (by rw [validate_digit]; exact decide_eq_true ⟨hfirst, hlast⟩) rfl
  have h3 := typed_next (e := c) h2 (by rw [validate_digit]; exact decide_eq_true hdecade) rfl
  have h4 := typed_next (e := d) h3 (by rw [validate_digit]; exact decide_eq_true hyear) rfl
  rcases n with _ | _ | _ | _ | n
  · exact ⟨_, h0⟩
  · exact ⟨_, h1⟩
  · exact ⟨_, h2⟩
  · exact ⟨_, h3⟩
  · refine ⟨_, h4.trans ?_⟩
    rw [formatString_take, formatString_take]
    rfl

/-- **Typing at the end makes the beginnings of valid dates**: a text can be reached from the
empty field with the digits and the deletion of the keypad, used at the end of the text, if and
only if it is what the formatter makes of the first digits of a month and of a year that is
not over in its century. -/
theorem typed_at_end_iff (F : Foundation) (year : ℕ) (text : List Char) :
    (∃ keys : List Keypad,
        (cardExpirationDateField F year).typedAtEnd [] (keys.map Keypad.key) = text) ↔
      IsBeginning year text := by
  constructor
  · rintro ⟨keys, rfl⟩
    have hempty : IsBeginning year [] :=
      ⟨0, 1, 9, 9, 0, ⟨by decide, by decide, by change _ ≤ 99; omega⟩, rfl⟩
    induction keys using List.reverseRecOn with
    | nil => exact hempty
    | append_singleton keys key ih =>
      rw [List.map_append, FormTextField.typedAtEnd_append]
      cases key with
      | digit e => exact beginning_digit ih e
      | delete => exact beginning_delete ih
  · rintro ⟨a, b, c, d, n, hdate, rfl⟩
    exact typed_beginning F hdate n

/-! ## With the cursor anywhere -/

/-- A digit in the place of a part of the text. -/
def digitEdit (location length : ℕ) (d : Fin 10) : Edit :=
  ⟨⟨location, length⟩, [Nat.digitChar d], printable_digits [d]⟩

/-- A slash among the characters that are looked at lets an edit through. -/
theorem validate_slash {replacementString fullString : List Char} {range : NSRange}
    (composed : List Char)
    (h : composedString replacementString fullString range = composed) (hprint : Printable composed)
    (hlen : composed.length ≤ 5)
    (hslash : '/' ∈ if composed.length = 4 ∨ composed.length = 5 then composed.drop 3
      else composed) :
    CardExpirationDateInputValidator.validateReplacementString F year replacementString fullString
      range = true := by
  unfold CardExpirationDateInputValidator.validateReplacementString
  simp only [InputValidatable.validateReplacementString, h, allows_length hprint]
  rw [F.number_slash _ hslash, decide_eq_true hlen]
  simp

/-- An edit that is let through and leaves two digits or more in front. -/
theorem change_of_valid {e : Edit} (x y : Fin 10) (rest : List Char)
    (h : composedString e.replacementString text e.range =
      Nat.digitChar x :: Nat.digitChar y :: rest)
    (hvalid : CardExpirationDateInputValidator.validateReplacementString F year
      e.replacementString text e.range = true) :
    (cardExpirationDateField F year).change text e =
      Nat.digitChar x :: Nat.digitChar y :: '/' :: strip '/' rest := by
  rw [← formatString_date (digitChar_ne_slash x) (digitChar_ne_slash y) rest, ← h]
  exact if_pos hvalid

/-- **Any date at all can be entered**, digit by digit, with the cursor at the right places:
one of the months to begin with, whose digits are replaced by those of the year; and then the
month, in front of it. -/
theorem any_date (F : Foundation) (year : ℕ) (a b c d : Fin 10) :
    ∃ edits : List Edit, (∀ e ∈ edits, ∃ x : Fin 10, e.replacementString = [Nat.digitChar x]) ∧
      (cardExpirationDateField F year).typed [] edits =
        [Nat.digitChar a, Nat.digitChar b, '/', Nat.digitChar c, Nat.digitChar d] := by
  have hslash : Printable ['/'] := List.forall_mem_singleton.mpr (by decide)
  have hbehind : ∀ x : Fin 10, Printable ['/', Nat.digitChar x] :=
    fun x => hslash.append (printable_digits [x])
  have hone : ∀ x : Fin 10, strip '/' [Nat.digitChar x, '/'] = [Nat.digitChar x] := by
    decide
  have htwo : ∀ x y : Fin 10, strip '/' [Nat.digitChar x, '/', Nat.digitChar y] =
      [Nat.digitChar x, Nat.digitChar y] := by
    decide
  have hzero : CardExpirationDateInputValidator.validateReplacementString F year ['0'] [] ⟨0, 0⟩ =
      true := (validate_one (a := 0) rfl).trans (by decide)
  have h1 : (cardExpirationDateField F year).change [] (digitEdit 0 0 0) = ['0'] := if_pos hzero
  have h2 : (cardExpirationDateField F year).change ['0'] (digitEdit 1 0 1) = ['0', '1', '/'] :=
    change_of_valid 0 1 [] rfl ((validate_two (a := 0) (b := 1) rfl).trans (by decide))
  have h3 : (cardExpirationDateField F year).change ['0', '1', '/'] (digitEdit 0 1 c) =
      [Nat.digitChar c, '1', '/'] :=
    change_of_valid c 1 ['/'] rfl (validate_slash [Nat.digitChar c, '1', '/'] rfl
      ((printable_digits [c, 1]).append hslash) (by simp) (by simp))
  have h4 : (cardExpirationDateField F year).change [Nat.digitChar c, '1', '/']
      (digitEdit 1 1 d) = [Nat.digitChar c, Nat.digitChar d, '/'] :=
    change_of_valid c d ['/'] rfl (validate_slash [Nat.digitChar c, Nat.digitChar d, '/'] rfl
      ((printable_digits [c, d]).append hslash) (by simp) (by simp))
  have h5 : (cardExpirationDateField F year).change [Nat.digitChar c, Nat.digitChar d, '/']
      (digitEdit 0 0 b) = [Nat.digitChar b, Nat.digitChar c, '/', Nat.digitChar d] := by
    rw [← hone d]
    exact change_of_valid b c [Nat.digitChar d, '/'] rfl (validate_slash
      [Nat.digitChar b, Nat.digitChar c, Nat.digitChar d, '/'] rfl
      ((printable_digits [b, c, d]).append hslash) (by simp) (by simp))
  have h6 : (cardExpirationDateField F year).change
      [Nat.digitChar b, Nat.digitChar c, '/', Nat.digitChar d] (digitEdit 0 0 a) =
        [Nat.digitChar a, Nat.digitChar b, '/', Nat.digitChar c, Nat.digitChar d] := by
    rw [← htwo c d]
    exact change_of_valid a b [Nat.digitChar c, '/', Nat.digitChar d] rfl (validate_slash
      [Nat.digitChar a, Nat.digitChar b, Nat.digitChar c, '/', Nat.digitChar d] rfl
      ((printable_digits [a, b, c]).append (hbehind d)) (by simp) (by simp))
  refine ⟨[digitEdit 0 0 0, digitEdit 1 0 1, digitEdit 0 1 c, digitEdit 1 1 d, digitEdit 0 0 b,
    digitEdit 0 0 a], ?_, ?_⟩
  · intro e he
    simp only [List.mem_cons, List.not_mem_nil, or_false] at he
    rcases he with rfl | rfl | rfl | rfl | rfl | rfl <;> exact ⟨_, rfl⟩
  · simp only [FormTextField.typed, List.foldl_cons, List.foldl_nil]
    rw [h1, h2, h3, h4, h5, h6]

/-! ## The number -/

/-- The spaces in a number of `n` digits. -/
theorem countP_spaces (n : ℕ) :
    (List.range' 0 n).countP (fun idx => idx ≠ 0 && idx % 4 = 0) = (n - 1) / 4 := by
  induction n with
  | zero => rfl
  | succ n ih =>
    rw [List.range'_1_concat, List.countP_append, ih, List.countP_singleton, Nat.zero_add]
    by_cases hspace : n ≠ 0 ∧ n % 4 = 0
    · rw [if_pos (by simp [hspace.1, hspace.2])]
      omega
    · rw [if_neg (by simp; omega)]
      omega

theorem digit_ne_space {cs : List Char} (h : ∀ c ∈ cs, c.isDigit) : ' ' ∉ cs := by
  intro hmem
  exact absurd (h ' ' hmem) (by decide)

/-- The length of a grouped number. -/
theorem length_grouped {cs : List Char} (h : ∀ c ∈ cs, c.isDigit) :
    (CardNumberFormatter.formatString cs false).length = cs.length + (cs.length - 1) / 4 := by
  have hnone : (List.range' 0 cs.length).countP (fun _ => false) = 0 :=
    List.countP_eq_zero.mpr fun _ _ => Bool.false_ne_true
  rw [CardNumberFormatter.formatString, if_neg Bool.false_ne_true,
    format_of_not_mem _ _ (digit_ne_space h), length_separate, countP_spaces, hnone, Nat.add_zero]

theorem strip_grouped {cs : List Char} (h : ∀ c ∈ cs, c.isDigit) :
    strip ' ' (CardNumberFormatter.formatString cs false) = cs := by
  rw [CardNumberFormatter.formatString, if_neg Bool.false_ne_true, strip_format,
    strip_self (digit_ne_space h)]

/-- What a validation of one length and one set of characters says of a printable text. -/
theorem validateString_iff {n : ℕ} {characterSet : Char → Bool} {complete : Bool}
    (h : Printable text) :
    Validation.validateString F.graphemes ⟨n, some n, some characterSet⟩ (String.ofList text)
        complete = true ↔
      (complete = true → n ≤ text.length) ∧ text.length ≤ n ∧
        ∀ c ∈ text, characterSet c = true := by
  rw [Validation.validateString, h.count]
  simp only [String.toList_ofList, Bool.and_eq_true, Bool.or_eq_true, Bool.not_eq_true',
    decide_eq_true_iff, List.all_eq_true, and_assoc]
  cases complete with
  | false => simp
  | true => simp only [Bool.true_eq_false, false_or, forall_const]

/-- The characters of a number. -/
theorem number_characters (h : Printable text) :
    (∀ c ∈ text, (F.decimalDigits c || decide (c = ' ')) = true) ↔
      ∀ c ∈ text, c.isDigit = true ∨ c = ' ' := by
  refine forall₂_congr fun c hc => ?_
  rw [Bool.or_eq_true, decide_eq_true_iff, F.decimalDigits_ascii c (h c hc)]

/-- The text is a grouping of digits. -/
def Grouped (text : List Char) : Prop :=
  Printable text ∧ ∃ cs : List Char, (∀ c ∈ cs, c.isDigit) ∧
    text = CardNumberFormatter.formatString cs false

theorem grouped_nil : Grouped [] :=
  ⟨printable_nil, [], fun _ hc => absurd hc List.not_mem_nil, rfl⟩

/-- A number that is typed is a grouping of digits. -/
theorem typed_number (h : Grouped text) (edits : List Edit) :
    Grouped ((cardNumberField F).typed text edits) := by
  refine FormTextField.typed_induction h ?_ edits
  rintro now e ⟨hnow, -⟩ hvalid
  have hcomposed : Printable (composedString e.replacementString now e.range) := hnow.composed e
  have hallowed : (cardNumberValidation F.decimalDigits).validateString F.graphemes
      (String.ofList (composedString e.replacementString now e.range)) false = true := hvalid
  have hset := (number_characters hcomposed).mp ((validateString_iff hcomposed).mp hallowed).2.2
  change Grouped (CardNumberFormatter.formatString
    (composedString e.replacementString now e.range) false)
  refine ⟨?_, strip ' ' (composedString e.replacementString now e.range), ?_, ?_⟩
  · rw [CardNumberFormatter.formatString, if_neg Bool.false_ne_true]
    exact hcomposed.format (by decide)
  · intro c hc
    rcases hset c (mem_of_mem_strip hc) with hdigit | hspace
    · exact hdigit
    · rw [hspace] at hc
      exact absurd hc (not_mem_strip _)
  · simp only [CardNumberFormatter.formatString, if_neg Bool.false_ne_true, Separators.format,
      strip_strip]

/-- A grouped number validates if and only if it has sixteen digits. -/
theorem validates_grouped {cs : List Char} (h : ∀ c ∈ cs, c.isDigit) :
    InputValidatable.validateString F.graphemes (cardNumberValidation F.decimalDigits)
        (String.ofList (CardNumberFormatter.formatString cs false)) = true ↔ cs.length = 16 := by
  have hprint : Printable (CardNumberFormatter.formatString cs false) :=
    Printable.format (fun c hc => ascii_of_isDigit (h c hc)) (by decide)
  have hset : ∀ c ∈ CardNumberFormatter.formatString cs false, c.isDigit = true ∨ c = ' ' := by
    intro c hc
    by_cases hspace : c = ' '
    · exact Or.inr hspace
    · left
      refine h c ?_
      rw [← strip_grouped h]
      exact List.mem_filter.mpr ⟨hc, decide_eq_true hspace⟩
  rw [InputValidatable.validateString, Bool.and_eq_true, cardNumberValidation,
    validateString_iff hprint, validateString_iff hprint, number_characters hprint,
    length_grouped h]
  constructor
  · rintro ⟨⟨hmin, hmax, -⟩, -⟩
    have hmin := hmin rfl
    omega
  · intro hlen
    rw [hlen]
    exact ⟨⟨fun _ => le_rfl, le_rfl, hset⟩, fun hcomplete => absurd hcomplete (by decide), le_rfl,
      hset⟩

/-- A text in the place of all that is there. -/
def Edit.paste (text replacement : List Char) (printable : Printable replacement) : Edit :=
  ⟨⟨0, text.length⟩, replacement, printable⟩

theorem composedString_paste (text : List Char) {replacement : List Char}
    (printable : Printable replacement) :
    composedString (Edit.paste text replacement printable).replacementString text
      (Edit.paste text replacement printable).range = replacement := by
  simp [Edit.paste, composedString]

/-- A number of sixteen digits can be pasted as it is. -/
theorem change_paste_number (text : List Char) {cs : List Char} (hdigits : ∀ c ∈ cs, c.isDigit)
    (hlen : cs.length = 16) (hprint : Printable cs) :
    (cardNumberField F).change text (.paste text cs hprint) =
      CardNumberFormatter.formatString cs false := by
  have hallowed : (cardNumberValidation F.decimalDigits).validateString F.graphemes
      (String.ofList cs) false = true := by
    rw [cardNumberValidation, validateString_iff hprint, number_characters hprint]
    exact ⟨fun hcomplete => absurd hcomplete (by decide), by omega,
      fun c hc => Or.inl (hdigits c hc)⟩
  rw [← composedString_paste text hprint] at hallowed
  rw [FormTextField.change, composedString_paste]
  exact if_pos hallowed

/-- **Sixteen digits, and no other number.**  The digits that can be entered into the empty field
for the card number, by any edits in printable ASCII, so that the field validates, are exactly
those of the numbers of sixteen digits. -/
theorem enterable_iff (F : Foundation) (cs : List Char) :
    (∃ edits : List Edit,
        InputValidatable.validateString F.graphemes (cardNumberValidation F.decimalDigits)
            (String.ofList ((cardNumberField F).typed [] edits)) = true ∧
          strip ' ' ((cardNumberField F).typed [] edits) = cs) ↔
      (∀ c ∈ cs, c.isDigit) ∧ cs.length = 16 := by
  constructor
  · rintro ⟨edits, hvalid, rfl⟩
    obtain ⟨-, cs, hdigits, htext⟩ := typed_number (F := F) grouped_nil edits
    rw [htext] at hvalid ⊢
    rw [strip_grouped hdigits]
    exact ⟨hdigits, (validates_grouped hdigits).mp hvalid⟩
  · rintro ⟨hdigits, hlen⟩
    have hprint : Printable cs := fun c hc => ascii_of_isDigit (hdigits c hc)
    have htyped : (cardNumberField F).typed [] [.paste [] cs hprint] =
        CardNumberFormatter.formatString cs false := change_paste_number [] hdigits hlen hprint
    refine ⟨[.paste [] cs hprint], ?_, ?_⟩
    · rw [htyped]
      exact (validates_grouped hdigits).mpr hlen
    · rw [htyped]
      exact strip_grouped hdigits

end

end Lidora
