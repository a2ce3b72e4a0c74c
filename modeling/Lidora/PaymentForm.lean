import Lidora.PaymentMethods
import Lidora.SwiftText

/-! # The payment form

`PaymentViewController` takes a card, or shows one that is stored, and saves it.  The
expiration date is a text, MM/YY, that `addPaymentMethod` cuts at fixed offsets and parses
by force before anything is validated: a text that is too short or not numeric takes the
app down.  A stored card is then updated without any validation, and what stands between
is a comparison of the card's cvc with the entered one that goes the wrong way.  For a new
card three fields are validated, and of the date no more than its length.

`save_iff` says for which texts all goes well.  `edit_iff` is about a stored card whose
date is left as `updateViews` has written it, as `0`, the month, `/` and the year without
its century: such a text is cut at the right places only for months of one digit.
-/
namespace Lidora
open SwiftText

/-- `Validation`, of the pod `FormTextField`.  Bounds on values and formats are not
used. -/
structure Validation where
  minimumLength : ℕ
  maximumLength : Option ℕ
  characterSet : Option (Char → Bool)

/-- What the user has before him, with the card that is edited, if any. -/
structure PaymentForm where
  card : Option Card
  primaryCardId : Option String
  cardNumber : String
  expiration : String
  cvc : String

/-- How a tap on Save ends: in a trap, in a message, without a word, or in a request. -/
inductive Saved where
  | trapped
  | message (text : String)
  | stopped
  /-- `updatePaymentMethod`. -/
  | update (cardId : String) (month year : ℕ)
  /-- `createStripePaymentMethod`. -/
  | create (primaryCard : Option String) (entry : CardEntry)
  deriving DecidableEq

/-- The month and the year that are written. -/
def Saved.written : Saved → Option (ℕ × ℕ)
  | .update _ month year => some (month, year)
  | .create _ entry => some (entry.month, entry.year)
  | _ => none

section
variable (g : Graphemes) (decimalDigits : Char → Bool)

/-- `Validation.validateString`. -/
def Validation.validateString (v : Validation) (string : String) (complete : Bool) : Bool :=
  let count := (g.characters string).length
  (!complete || v.minimumLength ≤ count) &&
    (match v.maximumLength with
      | none => true
      | some maximumLength => count ≤ maximumLength) &&
    match v.characterSet with
    | none => true
    | some characterSet => string.toList.all characterSet

/-- `InputValidatable.validateString`: complete, and then, with nothing replaced, as if
still being typed. -/
def InputValidatable.validateString (v : Validation) (string : String) : Bool :=
  v.validateString g string true && v.validateString g string false

/-- The validation of `cardNumberField`. -/
def cardNumberValidation : Validation :=
  ⟨19, some 19, some fun c => decimalDigits c || c = ' '⟩

/-- The validation that `CardExpirationDateInputValidator` makes itself, whatever it is
given. -/
def expirationValidation : Validation := ⟨5, some 5, none⟩

/-- The validation of `cvcField`. -/
def cvcValidation : Validation := ⟨3, some 3, some decimalDigits⟩

/-- The month: the first two characters. -/
def expMonth (text : String) : Option ℕ :=
  if 2 ≤ (g.characters text).length then parseUInt ((g.characters text).take 2).flatten else none

/-- The year: the characters from the fourth on. -/
def expYear (text : String) : Option ℕ :=
  if 3 ≤ (g.characters text).length then parseUInt ((g.characters text).drop 3).flatten else none

/-- The three `validate()`s of a new card. -/
def PaymentForm.validates (form : PaymentForm) : Bool :=
  InputValidatable.validateString g (cardNumberValidation decimalDigits) form.cardNumber &&
    InputValidatable.validateString g expirationValidation form.expiration &&
    InputValidatable.validateString g (cvcValidation decimalDigits) form.cvc

/-- `addPaymentMethod`. -/
def PaymentForm.addPaymentMethod (form : PaymentForm) : Saved :=
  match expMonth g form.expiration, expYear g form.expiration with
  | some month, some year =>
    match form.card with
    | some card =>
      if some form.cvc ≠ card.cvc then .update card.id month year
      else .message "The cvc doesn't match the cvc of the card."
    | none =>
      if form.validates g decimalDigits then
        .create form.primaryCardId ⟨form.cardNumber, month, year, form.cvc⟩
      else .stopped
  | _, _ => .trapped

/-- `updateViews`, as far as the expiration date goes. -/
def PaymentForm.updateViews (form : PaymentForm) : PaymentForm :=
  match form.card with
  | none => form
  | some card =>
    match card.last4, card.month, card.year with
    | some _, some month, some year =>
      { form with expiration := "0" ++ toString month ++ "/" ++ toString (year % 100) }
    | _, _, _ => form

/-- The date in the form MM/YY. -/
def IsMonthYear (text : String) (month year : ℕ) : Prop :=
  ∃ a b c d : Fin 10,
    text = String.ofList
        [Nat.digitChar a, Nat.digitChar b, '/', Nat.digitChar c, Nat.digitChar d] ∧
      month = 10 * a + b ∧ 1 ≤ month ∧ month ≤ 12 ∧ year = 10 * c + d

/-- **Save is safe**: it does not trap, and what it writes is the date that is shown. -/
def PaymentForm.SavesSafely (form : PaymentForm) : Prop :=
  form.addPaymentMethod g decimalDigits ≠ .trapped ∧
    ∀ month year, (form.addPaymentMethod g decimalDigits).written = some (month, year) →
      IsMonthYear form.expiration month year

/-- Both numbers are there to be parsed: the first two characters, and those from the
fourth on. -/
def DateParses (text : String) : Prop :=
  3 ≤ (g.characters text).length ∧
    (parseUInt ((g.characters text).take 2).flatten).isSome ∧
    (parseUInt ((g.characters text).drop 3).flatten).isSome

/-- The last guard before a request lets the form pass: for a stored card, the cvc that is
entered is another one than the card's; for a new card, the three fields validate. -/
def PaymentForm.PassesGuard (form : PaymentForm) : Prop :=
  match form.card with
  | some card => some form.cvc ≠ card.cvc
  | none => form.validates g decimalDigits = true

variable {g} {form : PaymentForm}

theorem dateParses_iff {text : String} :
    DateParses g text ↔ (expMonth g text).isSome ∧ (expYear g text).isSome := by
  unfold DateParses expMonth expYear
  by_cases hlong : 3 ≤ (g.characters text).length
  · have htwo : 2 ≤ (g.characters text).length := by omega
    rw [if_pos hlong, if_pos htwo]
    exact and_iff_right hlong
  · rw [if_neg hlong]
    exact iff_of_false (fun h => hlong h.1) (fun h => nomatch h.2)

/-- A form whose date parses is written, or the guard stops it. -/
theorem written_of_parses {month year : ℕ} (hm : expMonth g form.expiration = some month)
    (hy : expYear g form.expiration = some year) :
    form.addPaymentMethod g decimalDigits ≠ .trapped ∧
      (form.PassesGuard g decimalDigits ∧
          (form.addPaymentMethod g decimalDigits).written = some (month, year) ∨
        ¬ form.PassesGuard g decimalDigits ∧
          (form.addPaymentMethod g decimalDigits).written = none) := by
  unfold PaymentForm.addPaymentMethod PaymentForm.PassesGuard
  rw [hm, hy]
  cases form.card with
  | some card =>
    by_cases hcvc : some form.cvc ≠ card.cvc
    · simp only [if_pos hcvc]
      exact ⟨nofun, Or.inl ⟨hcvc, rfl⟩⟩
    · simp only [if_neg hcvc]
      exact ⟨nofun, Or.inr ⟨hcvc, rfl⟩⟩
  | none =>
    by_cases hvalid : form.validates g decimalDigits = true
    · simp only [if_pos hvalid]
      exact ⟨nofun, Or.inl ⟨hvalid, rfl⟩⟩
    · simp only [if_neg hvalid]
      exact ⟨nofun, Or.inr ⟨hvalid, rfl⟩⟩

/-- A form whose date does not parse takes the app down. -/
theorem trapped_of_not_parses (h : ¬ DateParses g form.expiration) :
    form.addPaymentMethod g decimalDigits = .trapped := by
  unfold PaymentForm.addPaymentMethod
  split
  · rename_i month year hm hy
    exact absurd (dateParses_iff.mpr ⟨by rw [hm]; rfl, by rw [hy]; rfl⟩) h
  · rfl

/-- A date in the form MM/YY is parsed to its month and year. -/
theorem parses_of_isMonthYear (g : Graphemes) {text : String} {month year : ℕ}
    (h : IsMonthYear text month year) : expMonth g text = some month ∧ expYear g text = some year := by
  obtain ⟨a, b, c, d, rfl, rfl, -, -, rfl⟩ := h
  set text := String.ofList
    [Nat.digitChar a, Nat.digitChar b, '/', Nat.digitChar c, Nat.digitChar d] with htext
  have hlist : text.toList =
      [Nat.digitChar a, Nat.digitChar b, '/', Nat.digitChar c, Nat.digitChar d] := by
    rw [htext, String.toList_ofList]
  have hascii : ∀ x ∈ text.toList, ' ' ≤ x ∧ x ≤ '~' := by
    intro x hx
    simp only [hlist, List.mem_cons, List.not_mem_nil, or_false] at hx
    rcases hx with rfl | rfl | rfl | rfl | rfl
    · exact ascii_of_isDigit (isDigit_digitChar a)
    · exact ascii_of_isDigit (isDigit_digitChar b)
    · decide
    · exact ascii_of_isDigit (isDigit_digitChar c)
    · exact ascii_of_isDigit (isDigit_digitChar d)
  constructor
  · rw [expMonth, g.length_ascii hascii, g.take_ascii hascii, hlist]
    exact parseUInt_two a b
  · rw [expYear, g.length_ascii hascii, g.drop_ascii hascii, hlist]
    exact parseUInt_two c d

/-- **When Save is safe.**  For every form: Save does not trap, and writes nothing but the
date that is shown, if and only if the date is of the form MM/YY, or it parses all the same
and the last guard lets nothing pass. -/
theorem save_iff (g : Graphemes) (decimalDigits : Char → Bool) (form : PaymentForm) :
    form.SavesSafely g decimalDigits ↔
      (∃ month year, IsMonthYear form.expiration month year) ∨
        DateParses g form.expiration ∧ ¬ form.PassesGuard g decimalDigits := by
  constructor
  · rintro ⟨htrapped, hwritten⟩
    have hparses : DateParses g form.expiration := by
      by_contra hnot
      exact htrapped (trapped_of_not_parses decimalDigits hnot)
    obtain ⟨hmonth, hyear⟩ := dateParses_iff.mp hparses
    obtain ⟨month, hm⟩ := Option.isSome_iff_exists.mp hmonth
    obtain ⟨year, hy⟩ := Option.isSome_iff_exists.mp hyear
    rcases (written_of_parses decimalDigits hm hy).2 with ⟨-, hw⟩ | ⟨hguard, -⟩
    · exact Or.inl ⟨month, year, hwritten month year hw⟩
    · exact Or.inr ⟨hparses, hguard⟩
  · rintro (⟨month, year, hdate⟩ | ⟨hparses, hguard⟩)
    · obtain ⟨hm, hy⟩ := parses_of_isMonthYear g hdate
      obtain ⟨htrapped, hw⟩ := written_of_parses decimalDigits hm hy
      refine ⟨htrapped, fun month' year' hwritten => ?_⟩
      rcases hw with ⟨-, hw⟩ | ⟨-, hw⟩
      · rw [hw] at hwritten
        cases hwritten
        exact hdate
      · rw [hw] at hwritten
        cases hwritten
    · obtain ⟨hmonth, hyear⟩ := dateParses_iff.mp hparses
      obtain ⟨month, hm⟩ := Option.isSome_iff_exists.mp hmonth
      obtain ⟨year, hy⟩ := Option.isSome_iff_exists.mp hyear
      obtain ⟨htrapped, hw⟩ := written_of_parses decimalDigits hm hy
      refine ⟨htrapped, fun month' year' hwritten => ?_⟩
      rw [(hw.resolve_left fun h => hguard h.1).2] at hwritten
      cases hwritten

/-! ## A stored card, saved as it is shown -/

/-- The text that `updateViews` makes of a date. -/
def shownDate (month year : ℕ) : String := "0" ++ toString month ++ "/" ++ toString (year % 100)

/-- Its scalars. -/
def dateScalars (month year : ℕ) : List Char :=
  '0' :: (toString month).toList ++ '/' :: (toString year).toList

theorem toList_shownDate (month year : ℕ) :
    (shownDate month year).toList = dateScalars month (year % 100) := by
  simp [shownDate, dateScalars]

/-- A date is plain ASCII. -/
theorem dateScalars_ascii (month year : ℕ) : ∀ c ∈ dateScalars month year, ' ' ≤ c ∧ c ≤ '~' := by
  have hnumber : ∀ n : ℕ, ∀ c ∈ (toString n).toList, ' ' ≤ c ∧ c ≤ '~' := by
    intro n c hc
    rw [Nat.toString_eq_repr, Nat.toList_repr] at hc
    exact ascii_of_isDigit (Nat.isDigit_of_mem_toDigits (by decide) (by decide) hc)
  intro c hc
  simp only [dateScalars, List.cons_append, List.mem_cons, List.mem_append] at hc
  rcases hc with rfl | hc | rfl | hc
  · decide
  · exact hnumber month c hc
  · decide
  · exact hnumber year c hc

/-- A month of one digit is one scalar. -/
theorem toList_toString_low {month : ℕ} (h : month < 10) :
    (toString month).toList = [Nat.digitChar month] := by
  rw [Nat.toString_eq_repr, Nat.toList_repr, Nat.toDigits_of_lt_base h]

/-- A month of two digits begins with a one. -/
theorem toList_toString_high {month : ℕ} (h : 10 ≤ month) (hle : month ≤ 12) :
    (toString month).toList = ['1', Nat.digitChar (month % 10)] := by
  have hten : month / 10 = 1 := by omega
  rw [Nat.toString_eq_repr, Nat.toList_repr, Nat.toDigits_of_base_le (by decide) h, hten]
  rfl

/-- **Parsing a shown date**: for a month of one digit it gives the month, and the year
without its century; for the others it fails. -/
theorem parses_shownDate (g : Graphemes) {month : ℕ} (hmonth : month ≤ 12) (year : ℕ) :
    (month < 10 → expMonth g (shownDate month year) = some month ∧
      expYear g (shownDate month year) = some (year % 100)) ∧
    (10 ≤ month → expYear g (shownDate month year) = none) := by
  have hascii : ∀ c ∈ (shownDate month year).toList, ' ' ≤ c ∧ c ≤ '~' := by
    rw [toList_shownDate]
    exact dateScalars_ascii month (year % 100)
  rw [expMonth, expYear, g.length_ascii hascii, g.take_ascii hascii, g.drop_ascii hascii,
    toList_shownDate, dateScalars]
  constructor
  · intro hlow
    have hzero : parseUInt ['0', Nat.digitChar month] = some month := by
      have htwo := parseUInt_two 0 ⟨month, hlow⟩
      change parseUInt ['0', Nat.digitChar month] = some (10 * 0 + month) at htwo
      rwa [Nat.mul_zero, Nat.zero_add] at htwo
    have hyear : parseUInt (toString (year % 100)).toList = some (year % 100) :=
      parseUInt_toString (by omega)
    rw [toList_toString_low hlow]
    simp only [List.cons_append, List.nil_append, List.length_cons, List.take_succ_cons,
      List.take_zero, List.drop_succ_cons, List.drop_zero]
    rw [if_pos (by omega), if_pos (by omega)]
    exact ⟨hzero, hyear⟩
  · intro hhigh
    rw [toList_toString_high hhigh hmonth]
    simp only [List.cons_append, List.nil_append, List.length_cons, List.drop_succ_cons,
      List.drop_zero]
    -- the slash comes first
    split <;> rfl

/-- **The round trip** of a date through the form: parsing undoes formatting for a month of
one digit and a year without a century, and for no other date. -/
theorem roundTrip_iff (g : Graphemes) {month : ℕ} (hmonth : month ≤ 12) (year : ℕ) :
    expMonth g (shownDate month year) = some month ∧ expYear g (shownDate month year) = some year ↔
      month < 10 ∧ year < 100 := by
  obtain ⟨hlow, hhigh⟩ := parses_shownDate g hmonth year
  by_cases h : month < 10
  · rw [(hlow h).1, (hlow h).2]
    simp only [true_and, h, Option.some.injEq]
    omega
  · rw [hhigh (by omega)]
    simp [h]

/-- The stored document after Save, where that updates it. -/
def Saved.store (uid : String) (s : Firestore) : Saved → Option Firestore
  | .update cardId month year => updatePaymentMethod uid cardId month year s
  | _ => none

/-- **A stored card is edited right**: it is updated if and only if the cvc is the card's,
and its month and year stay as they were. -/
def EditsRight (uid : String) (s : Firestore) (card : Card) (cvc : String) (saved : Saved) : Prop :=
  ((∃ month year, saved = .update card.id month year) ↔ some cvc = card.cvc) ∧
    ∀ s' ∈ saved.store uid s, ∀ d ∈ s'.lookup (paymentMethodRef uid card.id),
      (Card.init card.id d).month = card.month ∧ (Card.init card.id d).year = card.year

/-- A card with a month has all its fields. -/
theorem last4_isSome {id : String} {data : Doc} {month : ℕ}
    (h : (Card.init id data).month = some month) : (Card.init id data).last4.isSome := by
  unfold Card.init at h ⊢
  split <;> simp_all

/-- **What Save makes of a stored card as it is shown.**  With a month of two digits the app
traps; otherwise the card is updated where the cvc is another one, and loses the century of
its year, and where the cvc is the card's own the user is told that it does not match. -/
theorem edit_outcome (g : Graphemes) (decimalDigits : Char → Bool) {id : String} {data : Doc}
    {form : PaymentForm} (hcard : form.card = some (Card.init id data)) {month year : ℕ}
    (hmonth : (Card.init id data).month = some month) (hle : month ≤ 12)
    (hyear : (Card.init id data).year = some year) :
    form.updateViews.addPaymentMethod g decimalDigits =
      if 10 ≤ month then .trapped
      else if some form.cvc ≠ (Card.init id data).cvc then .update (Card.init id data).id month (year % 100)
      else .message "The cvc doesn't match the cvc of the card." := by
  obtain ⟨last4, hlast4⟩ := Option.isSome_iff_exists.mp (last4_isSome hmonth)
  have hshown : form.updateViews = { form with expiration := shownDate month year } := by
    simp only [PaymentForm.updateViews, hcard, hlast4, hmonth, hyear]
    rw [← hcard]
    rfl
  obtain ⟨hlow, hhigh⟩ := parses_shownDate g hle year
  rw [hshown]
  by_cases hdigits : 10 ≤ month
  · rw [if_pos hdigits]
    refine trapped_of_not_parses decimalDigits fun hparses => ?_
    have hsome : (expYear g (shownDate month year)).isSome := (dateParses_iff.mp hparses).2
    rw [hhigh hdigits] at hsome
    cases hsome
  · rw [if_neg hdigits]
    obtain ⟨hm, hy⟩ := hlow (by omega)
    simp only [PaymentForm.addPaymentMethod, hm, hy, hcard]

/-- **When a stored card is edited right.**  For every card with a month of the year,
whatever the form held before and whatever cvc is entered: saving it as it is shown is
right if and only if the month has two digits and the cvc is not the card's, and then it
is so since the app traps before it writes. -/
theorem edit_iff (g : Graphemes) (decimalDigits : Char → Bool) (uid id : String) (s : Firestore)
    (data : Doc) (form : PaymentForm) (hcard : form.card = some (Card.init id data))
    (month year : ℕ) (hmonth : (Card.init id data).month = some month)
    (hrange : 1 ≤ month ∧ month ≤ 12) (hyear : (Card.init id data).year = some year) :
    EditsRight uid s (Card.init id data) form.cvc
        (form.updateViews.addPaymentMethod g decimalDigits) ↔
      10 ≤ month ∧ some form.cvc ≠ (Card.init id data).cvc := by
  rw [edit_outcome g decimalDigits hcard hmonth hrange.2 hyear]
  by_cases hdigits : 10 ≤ month
  · rw [if_pos hdigits]
    constructor
    · rintro ⟨hupdates, -⟩
      refine ⟨hdigits, fun hcvc => ?_⟩
      obtain ⟨m, y, hupdate⟩ := hupdates.mpr hcvc
      cases hupdate
    · rintro ⟨-, hcvc⟩
      exact ⟨iff_of_false nofun hcvc, nofun⟩
  · -- the card is updated exactly when it should not be
    rw [if_neg hdigits]
    refine iff_of_false ?_ fun h => hdigits h.1
    rintro ⟨hupdates, -⟩
    split at hupdates
    · rename_i hcvc
      exact hcvc (hupdates.mp ⟨month, year % 100, rfl⟩)
    · rename_i hcvc
      obtain ⟨m, y, hupdate⟩ := hupdates.mpr (not_not.mp hcvc)
      cases hupdate

/-! ## Forms -/

/-- A stored card that expires in month `month` of 2030. -/
def storedCard (month : ℤ) : Doc :=
  Doc.ofFields [("brand", .string "visa"), ("last4", .string "4242"), ("month", .int month),
    ("year", .int 2030), ("number", .string "4242424242424242"), ("cvc", .string "123"),
    ("primary", .bool true)]

/-- The form of a stored card, with a date and a cvc as they are entered. -/
def editForm (month : ℤ) (expiration cvc : String) : PaymentForm :=
  ⟨some (Card.init "pm" (storedCard month)), none, "", expiration, cvc⟩

/-- **An empty form takes the app down**, and a stored card is given a month of 99. -/
theorem form_unsafe :
    PaymentForm.addPaymentMethod Graphemes.byScalar Char.isDigit ⟨none, none, "", "", ""⟩ =
      .trapped ∧
    (editForm 5 "99/07" "000").addPaymentMethod Graphemes.byScalar Char.isDigit =
      .update "pm" 99 7 ∧
    ¬ ∀ form : PaymentForm, form.SavesSafely Graphemes.byScalar Char.isDigit := by
  refine ⟨by decide +kernel, by decide +kernel, fun hall => ?_⟩
  exact (hall ⟨none, none, "", "", ""⟩).1 (by decide +kernel)

theorem edit_iff_may :
    EditsRight "uid" ∅ (Card.init "pm" (storedCard 5)) "123"
        ((editForm 5 "" "123").updateViews.addPaymentMethod Graphemes.byScalar Char.isDigit) ↔
      10 ≤ 5 ∧ some "123" ≠ (Card.init "pm" (storedCard 5)).cvc :=
  edit_iff Graphemes.byScalar Char.isDigit "uid" "pm" ∅ (storedCard 5) (editForm 5 "" "123") rfl 5
    2030 (by decide +kernel) (by decide) (by decide +kernel)

/-- **The right cvc is turned away, and a wrong one is let in** and takes the century off
the year; in October the app traps. -/
theorem wrong_cvc_updates :
    (editForm 5 "" "123").updateViews.addPaymentMethod Graphemes.byScalar Char.isDigit =
      .message "The cvc doesn't match the cvc of the card." ∧
    (editForm 5 "" "000").updateViews.addPaymentMethod Graphemes.byScalar Char.isDigit =
      .update "pm" 5 30 ∧
    (editForm 10 "" "123").updateViews.addPaymentMethod Graphemes.byScalar Char.isDigit =
      .trapped ∧
    ¬ EditsRight "uid" ∅ (Card.init "pm" (storedCard 5)) "123"
        ((editForm 5 "" "123").updateViews.addPaymentMethod Graphemes.byScalar Char.isDigit) := by
  have hmessage : (editForm 5 "" "123").updateViews.addPaymentMethod Graphemes.byScalar
      Char.isDigit = .message "The cvc doesn't match the cvc of the card." := by decide +kernel
  refine ⟨hmessage, by decide +kernel, by decide +kernel, fun h => ?_⟩
  rw [hmessage] at h
  obtain ⟨month, year, hupdate⟩ := h.1.mpr (by decide +kernel)
  cases hupdate

end

end Lidora
