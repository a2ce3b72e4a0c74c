import Lidora.Runs
import Lidora.TypedText

/-! # The payment form over time

`PaymentViewController` from its opening on, with empty fields: the user edits them in any order,
in printable ASCII, taps Save whenever the button is on, and the completion of a request
switches the button on again, since a tap has switched it off (`showLoading`).

Two questions are answered for every run.  What can the form of a new card send?  Sixteen
digits, grouped by four, three digits, and any month and any year below a hundred
(`requests_iff`): of what is validated, only the lengths and the digits remain, since the
validator of the date does not look at the month again.  And when can it still send something?
Save shows that it loads before it looks at the form, and a form that it then stops, without a
request, leaves the button off for good: the form is dead.  It is so exactly after a tap on a
form whose date parses and which does not pass the last guard (`dead_iff`), as with a number of
fifteen digits; and in every other state, unless the app has gone down, there is a way to go on
to a request (`can_send_iff`).
-/
namespace Lidora
open Runs Separators SwiftText

/-- `PaymentViewController`, with the texts of its fields. -/
structure CardForm where
  card : Option Card
  primaryCardId : Option String
  cardNumber : List Char
  expiration : List Char
  cvc : List Char
  /-- `cardNumberField` is in the view. -/
  takesNumber : Bool
  /-- `button.isEnabled`. -/
  isEnabled : Bool
  /-- The requests without a completion yet. -/
  saving : ℕ
  /-- The requests. -/
  sent : List Saved
  trapped : Bool

/-- What happens to the form. -/
inductive FormEvent where
  | viewWillAppear
  | cardNumber (e : Edit)
  | expiration (e : Edit)
  | cvc (e : Edit)
  | addPaymentMethod
  /-- The completion of a request, with or without an error; for a card that has been added, at
  the end of the delay behind it. -/
  | completed

/-- The form as it is opened. -/
def CardForm.opened (card : Option Card) (primaryCardId : Option String) : CardForm :=
  ⟨card, primaryCardId, [], [], [], true, true, 0, [], false⟩

/-- What Save looks at. -/
def CardForm.texts (s : CardForm) : PaymentForm :=
  ⟨s.card, s.primaryCardId, String.ofList s.cardNumber, String.ofList s.expiration,
    String.ofList s.cvc⟩

/-- `updateViews`: the form of a stored card loses the field of the number. -/
def CardForm.updateViews (s : CardForm) : CardForm :=
  match s.card with
  | none => s
  | some card =>
    match card.last4, card.month, card.year with
    | some _, some _, some _ =>
      { s with takesNumber := false, expiration := s.texts.updateViews.expiration.toList }
    | _, _, _ => s

section
variable (F : Foundation) (year : ℕ)

/-- `addPaymentMethod`, from `showLoading` on. -/
def CardForm.addPaymentMethod (s : CardForm) : CardForm :=
  match s.texts.addPaymentMethod F.graphemes F.decimalDigits with
  | .trapped => { s with isEnabled := false, trapped := true }
  | .message _ | .stopped => { s with isEnabled := false }
  | request => { s with isEnabled := false, saving := s.saving + 1, sent := s.sent ++ [request] }

def formStep (s : CardForm) (event : FormEvent) : Option CardForm :=
  if s.trapped then none
  else match event with
    | .viewWillAppear => some s.updateViews
    | .cardNumber e =>
      if s.takesNumber then some { s with cardNumber := (cardNumberField F).change s.cardNumber e }
      else none
    | .expiration e =>
      some { s with expiration := (cardExpirationDateField F year).change s.expiration e }
    | .cvc e => some { s with cvc := (cvcField F).change s.cvc e }
    | .addPaymentMethod => if s.isEnabled then some (s.addPaymentMethod F) else none
    | .completed =>
      if 0 < s.saving then some { s with isEnabled := true, saving := s.saving - 1 } else none

/-- The button is off, and nothing is under way that could switch it on. -/
def CardForm.Dead (s : CardForm) : Prop :=
  s.trapped = false ∧ s.isEnabled = false ∧ s.saving = 0

/-- A tap on Save is stopped: the date parses, and the last guard does not let the form pass. -/
def CardForm.Stops (s : CardForm) : Prop :=
  DateParses F.graphemes s.texts.expiration ∧ ¬ s.texts.PassesGuard F.graphemes F.decimalDigits

/-- A card as the form can send it. -/
def Sendable (entry : CardEntry) : Prop :=
  (∃ cs : List Char, (∀ c ∈ cs, c.isDigit) ∧ cs.length = 16 ∧
      entry.cardNumber = String.ofList (CardNumberFormatter.formatString cs false)) ∧
    entry.month < 100 ∧ entry.year < 100 ∧
    ∃ cs : List Char, (∀ c ∈ cs, c.isDigit) ∧ cs.length = 3 ∧ entry.cvc = String.ofList cs

end

/-! ## What a tap on Save does -/

section
variable {F : Foundation} {year : ℕ} {s s' t : CardForm}

/-- The ways that a tap on Save can go. -/
inductive Tapped (F : Foundation) (s s' : CardForm) : Prop
  | down (hnot : ¬ DateParses F.graphemes s.texts.expiration)
      (h : s' = { s with isEnabled := false, trapped := true })
  | stopped (hstops : s.Stops F) (h : s' = { s with isEnabled := false })
  | sent (hnot : ¬ s.Stops F) (request : Saved)
      (hrequest : s.texts.addPaymentMethod F.graphemes F.decimalDigits = request)
      (hpasses : s.texts.PassesGuard F.graphemes F.decimalDigits)
      (h : s' = { s with isEnabled := false, saving := s.saving + 1, sent := s.sent ++ [request] })

theorem tapped (s : CardForm) : Tapped F s (s.addPaymentMethod F) := by
  by_cases hparses : DateParses F.graphemes s.texts.expiration
  · obtain ⟨hm, hy⟩ := dateParses_iff.mp hparses
    obtain ⟨month, hm⟩ := Option.isSome_iff_exists.mp hm
    obtain ⟨year, hy⟩ := Option.isSome_iff_exists.mp hy
    obtain ⟨htrapped, hw⟩ := written_of_parses F.decimalDigits hm hy
    rcases hw with ⟨hpasses, hw⟩ | ⟨hguard, hw⟩
    · refine .sent (fun h => h.2 hpasses) _ rfl hpasses ?_
      unfold CardForm.addPaymentMethod
      split
      · rename_i h
        exact absurd h htrapped
      · rename_i h
        rw [h] at hw
        cases hw
      · rename_i h
        rw [h] at hw
        cases hw
      · rfl
    · refine .stopped ⟨hparses, hguard⟩ ?_
      unfold CardForm.addPaymentMethod
      split
      · rename_i h
        exact absurd h htrapped
      · rfl
      · rfl
      · rename_i hmessage hstopped
        cases hsaved : s.texts.addPaymentMethod F.graphemes F.decimalDigits with
        | trapped => exact absurd hsaved htrapped
        | message text => exact absurd hsaved (hmessage text)
        | stopped => exact absurd hsaved hstopped
        | update id m y =>
          rw [hsaved] at hw
          cases hw
        | create primary entry =>
          rw [hsaved] at hw
          cases hw
  · refine .down hparses ?_
    unfold CardForm.addPaymentMethod
    rw [trapped_of_not_parses F.decimalDigits hparses]

/-- **The steps of the form.** -/
inductive Stepped (F : Foundation) (year : ℕ) (s : CardForm) : FormEvent → CardForm → Prop
  | viewWillAppear : Stepped F year s .viewWillAppear s.updateViews
  | cardNumber (e : Edit) (h : s.takesNumber = true) : Stepped F year s (.cardNumber e)
      { s with cardNumber := (cardNumberField F).change s.cardNumber e }
  | expiration (e : Edit) : Stepped F year s (.expiration e)
      { s with expiration := (cardExpirationDateField F year).change s.expiration e }
  | cvc (e : Edit) : Stepped F year s (.cvc e) { s with cvc := (cvcField F).change s.cvc e }
  | addPaymentMethod (hon : s.isEnabled = true) {s' : CardForm} (h : Tapped F s s') :
      Stepped F year s .addPaymentMethod s'
  | completed (h : 0 < s.saving) : Stepped F year s .completed
      { s with isEnabled := true, saving := s.saving - 1 }

theorem stepped {e : FormEvent} (h : formStep F year s e = some s') :
    s.trapped = false ∧ Stepped F year s e s' := by
  unfold formStep at h
  split at h
  · cases h
  · rename_i hup
    refine ⟨by simpa using hup, ?_⟩
    cases e with
    | viewWillAppear =>
      cases h
      exact .viewWillAppear
    | cardNumber e =>
      simp only at h
      split at h
      · rename_i hshown
        cases h
        exact .cardNumber e hshown
      · cases h
    | expiration e =>
      cases h
      exact .expiration e
    | cvc e =>
      cases h
      exact .cvc e
    | addPaymentMethod =>
      simp only at h
      split at h
      · rename_i hon
        cases h
        exact .addPaymentMethod hon (tapped s)
      · cases h
    | completed =>
      simp only at h
      split at h
      · rename_i hsaving
        cases h
        exact .completed hsaving
      · cases h

/-- What the button depends on. -/
def CardForm.control (s : CardForm) : Bool × ℕ × List Saved × Bool :=
  (s.isEnabled, s.saving, s.sent, s.trapped)

theorem CardForm.control_updateViews (s : CardForm) : s.updateViews.control = s.control := by
  unfold CardForm.updateViews
  split
  · rfl
  · split <;> rfl

/-- For the button there are taps, completions, and the rest. -/
theorem Stepped.control {e : FormEvent} (h : Stepped F year s e s') :
    (e ≠ .addPaymentMethod ∧ s'.control = s.control) ∨
      (e = .addPaymentMethod ∧ s.isEnabled = true ∧ Tapped F s s') ∨
      (e = .completed ∧ 0 < s.saving ∧
        s' = { s with isEnabled := true, saving := s.saving - 1 }) := by
  cases h with
  | viewWillAppear => exact Or.inl ⟨by simp, s.control_updateViews⟩
  | cardNumber e _ => exact Or.inl ⟨by simp, rfl⟩
  | expiration e => exact Or.inl ⟨by simp, rfl⟩
  | cvc e => exact Or.inl ⟨by simp, rfl⟩
  | addPaymentMethod hon htap => exact Or.inr (Or.inl ⟨rfl, hon, htap⟩)
  | completed hsaving => exact Or.inr (Or.inr ⟨rfl, hsaving, rfl⟩)

/-! ## A form that is dead -/

/-- The form waits for one request at most, and for none while the button is on. -/
def CardForm.OneAtATime (s : CardForm) : Prop :=
  s.saving ≤ 1 ∧ (s.isEnabled = true → s.saving = 0)

theorem dead_congr (h : s'.control = s.control) : s'.Dead ↔ s.Dead := by
  simp only [CardForm.control, Prod.mk.injEq] at h
  obtain ⟨henabled, hsaving, -, htrapped⟩ := h
  rw [CardForm.Dead, CardForm.Dead, henabled, hsaving, htrapped]

theorem oneAtATime_step {e : FormEvent} (hone : s.OneAtATime)
    (h : formStep F year s e = some s') : s'.OneAtATime := by
  obtain ⟨hle, hoff⟩ := hone
  obtain ⟨-, hstep⟩ := stepped h
  rcases hstep.control with ⟨-, hsame⟩ | ⟨-, hon, htap⟩ | ⟨-, hsaving, rfl⟩
  · simp only [CardForm.control, Prod.mk.injEq] at hsame
    obtain ⟨henabled, hsaving, -, -⟩ := hsame
    rw [CardForm.OneAtATime, henabled, hsaving]
    exact ⟨hle, hoff⟩
  · have hnone := hoff hon
    rcases htap with ⟨-, rfl⟩ | ⟨-, rfl⟩ | ⟨-, request, -, -, rfl⟩
    · exact ⟨hle, nofun⟩
    · exact ⟨hle, nofun⟩
    · refine ⟨?_, nofun⟩
      change s.saving + 1 ≤ 1
      omega
  · refine ⟨?_, fun _ => ?_⟩
    · change s.saving - 1 ≤ 1
      omega
    · change s.saving - 1 = 0
      omega

/-- **How a form dies**: it is dead after a step if it was dead before, or if the step was a
tap that is stopped. -/
theorem dead_step {e : FormEvent} (hone : s.OneAtATime) (h : formStep F year s e = some s') :
    s'.Dead ↔ s.Dead ∨ (e = .addPaymentMethod ∧ s.Stops F) := by
  obtain ⟨hup, hstep⟩ := stepped h
  rcases hstep.control with ⟨hnot, hsame⟩ | ⟨rfl, hon, htap⟩ | ⟨rfl, hsaving, rfl⟩
  · rw [dead_congr hsame]
    exact ⟨Or.inl, fun hd => hd.resolve_right fun htap => hnot htap.1⟩
  · have hnone := hone.2 hon
    have hlive : ¬ s.Dead := fun hd => absurd (hon.symm.trans hd.2.1) (by decide)
    rcases htap with ⟨hnot, rfl⟩ | ⟨hstops, rfl⟩ | ⟨hnot, request, -, -, rfl⟩
    · refine iff_of_false (fun hd => Bool.false_ne_true hd.1.symm) ?_
      rintro (hd | ⟨-, hstops⟩)
      · exact hlive hd
      · exact hnot hstops.1
    · exact iff_of_true ⟨hup, rfl, hnone⟩ (Or.inr ⟨rfl, hstops⟩)
    · refine iff_of_false (fun hd => absurd hd.2.2 (Nat.succ_ne_zero _)) ?_
      rintro (hd | ⟨-, hstops⟩)
      · exact hlive hd
      · exact hnot hstops
  · refine iff_of_false (fun hd => Bool.false_ne_true hd.2.1.symm) ?_
    rintro (hd | ⟨htap, -⟩)
    · have := hd.2.2
      omega
    · cases htap

theorem dead_run {events : List FormEvent} (hone : s.OneAtATime)
    (h : run (formStep F year) s events = some t) :
    t.Dead ↔ s.Dead ∨
      ¬ Along (formStep F year) (fun s e => ¬ (e = .addPaymentMethod ∧ s.Stops F)) s events := by
  induction events generalizing s with
  | nil =>
    cases h
    exact ⟨Or.inl, fun hd => hd.resolve_right fun hnot => hnot trivial⟩
  | cons e events ih =>
    obtain ⟨s₁, he, h⟩ := (run_cons_iff _).mp h
    have hnext : ∀ P : CardForm → Prop, (∀ s', formStep F year s e = some s' → P s') ↔ P s₁ := by
      intro P
      refine ⟨fun hall => hall s₁ he, fun hP s' he' => ?_⟩
      rwa [Option.some.inj (he'.symm.trans he)]
    rw [ih (oneAtATime_step hone he) h, dead_step hone he, Along, hnext]
    tauto

/-- **When the form is dead.**  In every run of the form from its opening, with edits,
taps on Save and completions in any order: the button is off with nothing under way that could
switch it on, if and only if some tap on Save was stopped, by a form whose date parses and which
does not pass the last guard. -/
theorem dead_iff (F : Foundation) (year : ℕ) (card : Option Card) (primaryCardId : Option String)
    (events : List FormEvent) (t : CardForm)
    (h : run (formStep F year) (.opened card primaryCardId) events = some t) :
    t.Dead ↔
      ¬ Along (formStep F year) (fun s e => ¬ (e = .addPaymentMethod ∧ s.Stops F))
        (.opened card primaryCardId) events := by
  have hone : (CardForm.opened card primaryCardId).OneAtATime := ⟨Nat.zero_le 1, fun _ => rfl⟩
  have hlive : ¬ (CardForm.opened card primaryCardId).Dead :=
    fun hd => Bool.false_ne_true hd.2.1.symm
  rw [dead_run hone h]
  exact or_iff_right hlive

theorem printable_fifteen :
    Printable ['3', '7', '8', '2', '8', '2', '2', '4', '6', '3', '1', '0', '0', '0', '5'] :=
  printable_digits [3, 7, 8, 2, 8, 2, 2, 4, 6, 3, 1, 0, 0, 0, 5]

theorem printable_lastMonth : Printable ['1', '2', '9', '9'] := printable_digits [1, 2, 9, 9]

theorem printable_oneTwoThree : Printable ['1', '2', '3'] := printable_digits [1, 2, 3]

/-- A number of fifteen digits, a date and a cvc, and a tap on Save. -/
def fifteenDigits : List FormEvent :=
  [.cardNumber (.paste [] _ printable_fifteen), .expiration (.paste [] _ printable_lastMonth),
    .cvc (.paste [] _ printable_oneTwoThree), .addPaymentMethod]

theorem dead_after_fifteen :
    ∃ t, run (formStep .plain 2020) (.opened none none) fifteenDigits = some t ∧
      (t.trapped, t.isEnabled, t.saving) = (false, false, 0) ∧
      (t.Dead ↔
        ¬ Along (formStep .plain 2020) (fun s e => ¬ (e = .addPaymentMethod ∧ s.Stops .plain))
          (.opened none none) fifteenDigits) := by
  have hrun : (run (formStep .plain 2020) (.opened none none) fifteenDigits).map
      (fun t => (t.trapped, t.isEnabled, t.saving)) = some (false, false, 0) := by decide +kernel
  obtain ⟨t, ht, hcontrol⟩ := Option.map_eq_some_iff.mp hrun
  exact ⟨t, ht, hcontrol, dead_iff .plain 2020 none none fifteenDigits t ht⟩

/-! ## What validates -/

/-- A cvc validates if and only if it has three digits. -/
theorem validates_cvc {text : List Char} (h : Printable text) :
    InputValidatable.validateString F.graphemes (cvcValidation F.decimalDigits)
        (String.ofList text) = true ↔ text.length = 3 ∧ ∀ c ∈ text, c.isDigit := by
  have hset : (∀ c ∈ text, F.decimalDigits c = true) ↔ ∀ c ∈ text, c.isDigit := by
    refine forall₂_congr fun c hc => ?_
    rw [F.decimalDigits_ascii c (h c hc)]
  rw [InputValidatable.validateString, Bool.and_eq_true, cvcValidation, validateString_iff h,
    validateString_iff h, hset]
  constructor
  · rintro ⟨⟨hmin, hmax, hdigits⟩, -⟩
    have hmin := hmin rfl
    exact ⟨by omega, hdigits⟩
  · rintro ⟨hlen, hdigits⟩
    rw [hlen]
    exact ⟨⟨fun _ => le_rfl, le_rfl, hdigits⟩, fun hcomplete => absurd hcomplete (by decide),
      le_rfl, hdigits⟩

/-- Of a date, no more than the length is validated. -/
theorem validates_date {text : List Char} (h : Printable text) :
    InputValidatable.validateString F.graphemes expirationValidation (String.ofList text) = true ↔
      text.length = 5 := by
  rw [expirationValidation, InputValidatable.validateString, Validation.validateString,
    Validation.validateString, h.count]
  simp only [Bool.and_eq_true, Bool.or_eq_true, Bool.not_true, Bool.false_eq_true, Bool.not_false,
    false_or, true_or, decide_eq_true_iff, true_and, and_true]
  omega

/-- Three digits can be pasted as they are. -/
theorem change_paste_cvc (text : List Char) {cs : List Char} (hdigits : ∀ c ∈ cs, c.isDigit)
    (hlen : cs.length = 3) (hprint : Printable cs) :
    (cvcField F).change text (.paste text cs hprint) = cs := by
  have hvalid := (validates_cvc (F := F) hprint).mpr ⟨hlen, hdigits⟩
  rw [InputValidatable.validateString, Bool.and_eq_true] at hvalid
  have hallowed := hvalid.2
  rw [← composedString_paste text hprint] at hallowed
  rw [FormTextField.change, composedString_paste]
  exact if_pos hallowed

/-- A date at the end of the century can be pasted in any year. -/
theorem change_paste_date (text : List Char) (hprint : Printable ['1', '2', '9', '9']) :
    (cardExpirationDateField F year).change text (.paste text ['1', '2', '9', '9'] hprint) =
      ['1', '2', '/', '9', '9'] := by
  have hthree : Printable ['1', '2', '9'] := printable_digits [1, 2, 9]
  have hallowed : CardExpirationDateInputValidator.validateReplacementString F year _ text _ = _ :=
    validate_four (a := 9) hthree (composedString_paste text hprint)
  rw [decide_eq_true (by change year % 100 / 10 ≤ 9; omega)] at hallowed
  rw [FormTextField.change, composedString_paste]
  exact if_pos hallowed

/-! ## From a form to a request -/

/-- A form that is dead stays dead, and sends nothing. -/
theorem dead_stays (hd : s.Dead) {events : List FormEvent}
    (h : run (formStep F year) s events = some t) : t.Dead ∧ t.sent = s.sent := by
  refine run_invariant (fun now => now.Dead ∧ now.sent = s.sent) ?_ ⟨hd, rfl⟩ h
  rintro now e next ⟨hdead, hsent⟩ he
  obtain ⟨-, hstep⟩ := stepped he
  rcases hstep.control with ⟨-, hsame⟩ | ⟨-, hon, -⟩ | ⟨-, hsaving, -⟩
  · refine ⟨(dead_congr hsame).mpr hdead, ?_⟩
    simp only [CardForm.control, Prod.mk.injEq] at hsame
    rw [hsame.2.2.1, hsent]
  · exact absurd (hon.symm.trans hdead.2.1) (by decide)
  · have := hdead.2.2
    omega

/-- The form of a new card keeps the field for its number. -/
def CardForm.HasNumberField (s : CardForm) : Prop := s.card = none → s.takesNumber = true

theorem hasNumberField_run {card : Option Card} {primaryCardId : Option String}
    {events : List FormEvent}
    (h : run (formStep F year) (.opened card primaryCardId) events = some s) :
    s.HasNumberField := by
  refine run_invariant CardForm.HasNumberField ?_ (fun _ => rfl) h
  intro now e next hnow he
  obtain ⟨-, hstep⟩ := stepped he
  cases hstep with
  | viewWillAppear =>
    unfold CardForm.updateViews
    split
    · exact hnow
    · rename_i card hcard
      split
      · intro hnone
        exact absurd (hcard.symm.trans hnone) (by simp)
      · exact hnow
  | cardNumber e _ => exact hnow
  | expiration e => exact hnow
  | cvc e => exact hnow
  | addPaymentMethod _ htap =>
    rcases htap with ⟨-, rfl⟩ | ⟨-, rfl⟩ | ⟨-, request, -, -, rfl⟩
    · exact hnow
    · exact hnow
    · exact hnow
  | completed _ => exact hnow

/-- A tap on Save that sends a request. -/
theorem save_sends (year : ℕ) (hup : s.trapped = false) (hon : s.isEnabled = true)
    (hparses : DateParses F.graphemes s.texts.expiration)
    (hpasses : s.texts.PassesGuard F.graphemes F.decimalDigits) :
    ∃ s', formStep F year s .addPaymentMethod = some s' ∧
      s'.sent = s.sent ++ [s.texts.addPaymentMethod F.graphemes F.decimalDigits] := by
  refine ⟨s.addPaymentMethod F, ?_, ?_⟩
  · simp only [formStep, hup, hon, if_true, if_neg Bool.false_ne_true]
  · rcases tapped (F := F) s with ⟨hnot, -⟩ | ⟨hstops, -⟩ | ⟨-, request, hrequest, -, h⟩
    · exact absurd hparses hnot
    · exact absurd hpasses hstops.2
    · rw [h, hrequest]

/-- What is validated of a new card, in the texts of its fields. -/
theorem validates_iff {cs : List Char} (hdigits : ∀ c ∈ cs, c.isDigit)
    (hnumber : s.cardNumber = CardNumberFormatter.formatString cs false)
    (hdate : Printable s.expiration) (hcvc : Printable s.cvc) :
    s.texts.validates F.graphemes F.decimalDigits = true ↔
      cs.length = 16 ∧ s.expiration.length = 5 ∧ s.cvc.length = 3 ∧ ∀ c ∈ s.cvc, c.isDigit := by
  rw [PaymentForm.validates, Bool.and_eq_true, Bool.and_eq_true]
  change (InputValidatable.validateString F.graphemes _ (String.ofList s.cardNumber) = true ∧
    InputValidatable.validateString F.graphemes _ (String.ofList s.expiration) = true) ∧
      InputValidatable.validateString F.graphemes _ (String.ofList s.cvc) = true ↔ _
  rw [hnumber, validates_grouped hdigits, validates_date hdate, validates_cvc hcvc, and_assoc]

/-- Edits of the date, one after the other. -/
theorem run_expiration (hup : s.trapped = false) (edits : List Edit) :
    run (formStep F year) s (edits.map .expiration) =
      some { s with expiration := (cardExpirationDateField F year).typed s.expiration edits } := by
  induction edits generalizing s with
  | nil => rfl
  | cons e edits ih =>
    rw [List.map_cons, run_cons_iff]
    refine ⟨{ s with expiration := (cardExpirationDateField F year).change s.expiration e }, ?_, ?_⟩
    · simp only [formStep, hup, if_neg Bool.false_ne_true]
    · exact ih hup

/-- The date and the cvc are filled in. -/
theorem run_fill (F : Foundation) (year : ℕ) (hup : s.trapped = false) (edits : List Edit)
    {ds : List Char} (hds : ∀ c ∈ ds, c.isDigit) (hlen : ds.length = 3) : ∃ events,
      run (formStep F year) s events = some { s with
        expiration := (cardExpirationDateField F year).typed s.expiration edits, cvc := ds } := by
  have hprint : Printable ds := fun c hc => ascii_of_isDigit (hds c hc)
  refine ⟨edits.map .expiration ++ [.cvc (.paste s.cvc ds hprint)], (run_append_iff _).mpr
    ⟨_, run_expiration hup edits, (run_cons_iff _).mpr ⟨_, ?_, rfl⟩⟩⟩
  simp only [formStep, hup, if_neg Bool.false_ne_true, change_paste_cvc s.cvc hds hlen hprint]

/-- The three fields of a new card are filled in. -/
theorem run_fill_new (F : Foundation) (year : ℕ) (hup : s.trapped = false)
    (hfield : s.takesNumber = true) {cs : List Char} (hcs : ∀ c ∈ cs, c.isDigit)
    (hsixteen : cs.length = 16) (edits : List Edit) {ds : List Char}
    (hds : ∀ c ∈ ds, c.isDigit) (hlen : ds.length = 3) : ∃ events,
      run (formStep F year) s events = some { s with
        cardNumber := CardNumberFormatter.formatString cs false,
        expiration := (cardExpirationDateField F year).typed s.expiration edits, cvc := ds } := by
  have hprint : Printable cs := fun c hc => ascii_of_isDigit (hcs c hc)
  have hnumber : formStep F year s (.cardNumber (.paste s.cardNumber cs hprint)) =
      some { s with cardNumber := CardNumberFormatter.formatString cs false } := by
    simp only [formStep, hup, hfield, if_true, if_neg Bool.false_ne_true,
      change_paste_number s.cardNumber hcs hsixteen hprint]
  obtain ⟨events, hrun⟩ := run_fill F year
    (s := { s with cardNumber := CardNumberFormatter.formatString cs false }) hup edits hds hlen
  exact ⟨.cardNumber (.paste s.cardNumber cs hprint) :: events,
    (run_cons_iff _).mpr ⟨_, hnumber, hrun⟩⟩

/-- The date of the last month of the century parses. -/
theorem dateParses_paste (g : Graphemes) :
    DateParses g (String.ofList ['1', '2', '/', '9', '9']) := by
  have hdate : IsMonthYear (String.ofList ['1', '2', '/', '9', '9']) 12 99 :=
    ⟨1, 2, 9, 9, rfl, rfl, by decide, by decide, rfl⟩
  obtain ⟨hm, hy⟩ := parses_of_isMonthYear g hdate
  exact dateParses_iff.mpr ⟨by rw [hm]; rfl, by rw [hy]; rfl⟩

/-- From a form whose button is on there is a way to a request. -/
theorem can_go_on (F : Foundation) (year : ℕ) (hup : s.trapped = false)
    (hon : s.isEnabled = true) (hfield : s.HasNumberField) :
    ∃ events t, run (formStep F year) s events = some t ∧ s.sent.length < t.sent.length := by
  have htyped : (cardExpirationDateField F year).typed s.expiration
      [.paste s.expiration _ printable_lastMonth] = ['1', '2', '/', '9', '9'] :=
    change_paste_date s.expiration printable_lastMonth
  have hlast : Printable ['1', '2', '/', '9', '9'] :=
    ((printable_digits [1, 2]).append (List.forall_mem_singleton.mpr (by decide))).append
      (printable_digits [9, 9])
  have htap : ∀ {events : List FormEvent} {filled : CardForm},
      run (formStep F year) s events = some filled → filled.trapped = false →
      filled.isEnabled = true → filled.sent = s.sent →
      filled.expiration = ['1', '2', '/', '9', '9'] →
      filled.texts.PassesGuard F.graphemes F.decimalDigits →
      ∃ events t, run (formStep F year) s events = some t ∧ s.sent.length < t.sent.length := by
    intro events filled hrun hup' hon' hsent hdate hpasses
    have hparses : DateParses F.graphemes filled.texts.expiration := by
      rw [CardForm.texts, hdate]
      exact dateParses_paste F.graphemes
    obtain ⟨t, ht, hmore⟩ := save_sends year hup' hon' hparses hpasses
    refine ⟨events ++ [.addPaymentMethod], t, (run_append_iff _).mpr
      ⟨filled, hrun, (run_cons_iff _).mpr ⟨t, ht, rfl⟩⟩, ?_⟩
    rw [hmore, hsent, List.length_append]
    exact Nat.lt_succ_self _
  have hzeros : ∀ n, ∀ c ∈ List.replicate n '0', c.isDigit = true := by
    intro n c hc
    rw [List.eq_of_mem_replicate hc]
    decide
  cases hcard : s.card with
  | none =>
    obtain ⟨events, hrun⟩ := run_fill_new F year hup (hfield hcard) (hzeros 16)
      List.length_replicate [.paste s.expiration _ printable_lastMonth] (hzeros 3)
      List.length_replicate
    refine htap hrun hup hon rfl htyped ?_
    unfold PaymentForm.PassesGuard
    simp only [CardForm.texts, hcard]
    have hvalid := (validates_iff (F := F) (s := { s with
      cardNumber := CardNumberFormatter.formatString (List.replicate 16 '0') false,
      expiration := ['1', '2', '/', '9', '9'], cvc := List.replicate 3 '0' })
      (hzeros 16) rfl hlast (fun c hc => ascii_of_isDigit (hzeros 3 c hc))).mpr
      ⟨List.length_replicate, rfl, List.length_replicate, hzeros 3⟩
    simp only [CardForm.texts, hcard] at hvalid
    rw [htyped]
    exact hvalid
  | some card =>
    -- a cvc that is not the card's
    obtain ⟨ds, hdigits, hlen, hother⟩ : ∃ ds : List Char, (∀ c ∈ ds, c.isDigit = true) ∧
        ds.length = 3 ∧ some (String.ofList ds) ≠ card.cvc := by
      by_cases hcvc : some (String.ofList (List.replicate 3 '0')) = card.cvc
      · refine ⟨['0', '0', '1'], by simp, rfl, ?_⟩
        rw [← hcvc]
        decide
      · exact ⟨List.replicate 3 '0', hzeros 3, List.length_replicate, hcvc⟩
    obtain ⟨events, hrun⟩ := run_fill F year hup
      [.paste s.expiration _ printable_lastMonth] hdigits hlen
    refine htap hrun hup hon rfl htyped ?_
    unfold PaymentForm.PassesGuard
    simp only [CardForm.texts, hcard]
    exact hother

/-- **When the form can still send something.**  In every state that a run of the form
reaches: some continuation sends one more request, if and only if the app has not gone down and
the form is not dead. -/
theorem can_send_iff (F : Foundation) (year : ℕ) (card : Option Card)
    (primaryCardId : Option String) (events : List FormEvent) (s : CardForm)
    (h : run (formStep F year) (.opened card primaryCardId) events = some s) :
    (∃ more t, run (formStep F year) s more = some t ∧ s.sent.length < t.sent.length) ↔
      s.trapped = false ∧ ¬ s.Dead := by
  constructor
  · rintro ⟨more, t, hrun, hlen⟩
    constructor
    · by_contra hdown
      rcases more with _ | ⟨e, more⟩
      · cases hrun
        exact lt_irrefl _ hlen
      · obtain ⟨s', he, -⟩ := (run_cons_iff _).mp hrun
        exact hdown (stepped he).1
    · intro hdead
      rw [(dead_stays hdead hrun).2] at hlen
      exact lt_irrefl _ hlen
  · rintro ⟨hup, hlive⟩
    have hfield : s.HasNumberField := hasNumberField_run h
    by_cases hon : s.isEnabled = true
    · exact can_go_on F year hup hon hfield
    · -- the completion of the request that is under way comes first
      have hsaving : 0 < s.saving := by
        refine Nat.pos_of_ne_zero fun hnone => hlive ⟨hup, ?_, hnone⟩
        simpa using hon
      have hcompleted : formStep F year s .completed =
          some { s with isEnabled := true, saving := s.saving - 1 } := by
        simp only [formStep, hup, hsaving, if_true, if_neg Bool.false_ne_true]
      obtain ⟨more, t, hrun, hlen⟩ := can_go_on F year
        (s := { s with isEnabled := true, saving := s.saving - 1 }) hup rfl hfield
      exact ⟨.completed :: more, t, (run_cons_iff _).mpr ⟨_, hcompleted, hrun⟩, hlen⟩

theorem can_send_opened :
    (∃ more t, run (formStep .plain 2020) (.opened none none) more = some t ∧
        (CardForm.opened none none).sent.length < t.sent.length) ↔
      (CardForm.opened none none).trapped = false ∧ ¬ (CardForm.opened none none).Dead :=
  can_send_iff .plain 2020 none none [] (.opened none none) rfl

/-! ## What a new card can be -/

/-- The month has two characters. -/
theorem expMonth_lt (g : Graphemes) {text : List Char} (h : Printable text) {month : ℕ}
    (hm : expMonth g (String.ofList text) = some month) : month < 100 := by
  have hascii : ∀ c ∈ (String.ofList text).toList, ' ' ≤ c ∧ c ≤ '~' := by
    rw [String.toList_ofList]
    exact h
  rw [expMonth, g.take_ascii hascii, String.toList_ofList] at hm
  split at hm
  · refine (parseUInt_lt hm).trans_le ?_
    exact Nat.pow_le_pow_right (by decide) (List.length_take_le 2 text)
  · cases hm

/-- In a date of five characters, so has the year. -/
theorem expYear_lt (g : Graphemes) {text : List Char} (h : Printable text)
    (hlen : text.length = 5) {year : ℕ}
    (hy : expYear g (String.ofList text) = some year) : year < 100 := by
  have hascii : ∀ c ∈ (String.ofList text).toList, ' ' ≤ c ∧ c ≤ '~' := by
    rw [String.toList_ofList]
    exact h
  rw [expYear, g.drop_ascii hascii, String.toList_ofList] at hy
  split at hy
  · have hlt := parseUInt_lt hy
    rwa [List.length_drop, hlen] at hlt
  · cases hy

/-- Four digits and the slash are read as a month and a year. -/
theorem parses_digits (g : Graphemes) (a b c d : Fin 10) :
    expMonth g (String.ofList
        [Nat.digitChar a, Nat.digitChar b, '/', Nat.digitChar c, Nat.digitChar d]) =
        some (10 * (a : ℕ) + b) ∧
      expYear g (String.ofList
        [Nat.digitChar a, Nat.digitChar b, '/', Nat.digitChar c, Nat.digitChar d]) =
        some (10 * (c : ℕ) + d) := by
  have hprint : Printable
      [Nat.digitChar a, Nat.digitChar b, '/', Nat.digitChar c, Nat.digitChar d] :=
    ((printable_digits [a, b]).append (List.forall_mem_singleton.mpr (by decide))).append
      (printable_digits [c, d])
  have hslash : ∀ x y : Fin 10, '/' ∉ [Nat.digitChar x, Nat.digitChar y] := by
    intro x y hmem
    simp only [List.mem_cons, List.not_mem_nil, or_false] at hmem
    rcases hmem with h | h
    · exact digitChar_ne_slash x h.symm
    · exact digitChar_ne_slash y h.symm
  have hformatted : DateFormatted
      [Nat.digitChar a, Nat.digitChar b, '/', Nat.digitChar c, Nat.digitChar d] := by
    have hformat := formatString_date (digitChar_ne_slash a) (digitChar_ne_slash b)
      ['/', Nat.digitChar c, Nat.digitChar d]
    have hstrip : strip '/' ['/', Nat.digitChar c, Nat.digitChar d] =
        [Nat.digitChar c, Nat.digitChar d] := strip_self (hslash c d)
    rw [hstrip] at hformat
    exact hformat.symm
  exact (parses_iff_reads g hprint hformatted).mpr
    ⟨[Nat.digitChar a, Nat.digitChar b], [Nat.digitChar c, Nat.digitChar d], rfl, hslash a b,
      parseUInt_two a b, parseUInt_two c d⟩

/-- A number below a hundred has two digits. -/
theorem two_digits {n : ℕ} (h : n < 100) : ∃ a b : Fin 10, n = 10 * (a : ℕ) + b :=
  ⟨⟨n / 10, by omega⟩, ⟨n % 10, by omega⟩, by simp only; omega⟩

/-- The form of a new card: its texts are what the fields make of edits, and what it has sent
could be sent. -/
structure NewCard (primaryCardId : Option String) (s : CardForm) : Prop where
  card : s.card = none
  primary : s.primaryCardId = primaryCardId
  number : Grouped s.cardNumber
  date : Printable s.expiration
  cvc : Printable s.cvc
  sent : ∀ primary entry, Saved.create primary entry ∈ s.sent →
    primary = primaryCardId ∧ Sendable entry

/-- What a tap on Save sends could be sent. -/
theorem NewCard.sendable {primaryCardId primary : Option String} {entry : CardEntry}
    (hnew : NewCard primaryCardId s)
    (h : s.texts.addPaymentMethod F.graphemes F.decimalDigits = .create primary entry) :
    primary = primaryCardId ∧ Sendable entry := by
  obtain ⟨hcard, hprimary, ⟨-, cs, hdigits, hnumber⟩, hdate, hcvc, -⟩ := hnew
  unfold PaymentForm.addPaymentMethod at h
  split at h
  · rename_i month year' hm hy
    have hnone : s.texts.card = none := hcard
    rw [hnone] at h
    simp only at h
    split at h
    · rename_i hvalid
      obtain ⟨hsixteen, hfive, hthree, hcvcdigits⟩ :=
        (validates_iff hdigits hnumber hdate hcvc).mp hvalid
      simp only [Saved.create.injEq] at h
      obtain ⟨rfl, rfl⟩ := h
      refine ⟨hprimary, ⟨cs, hdigits, hsixteen, ?_⟩, expMonth_lt F.graphemes hdate hm,
        expYear_lt F.graphemes hdate hfive hy, s.cvc, hcvcdigits, hthree, rfl⟩
      change String.ofList s.cardNumber = _
      rw [hnumber]
    · cases h
  · cases h

theorem newCard_step {primaryCardId : Option String} {e : FormEvent}
    (hnew : NewCard primaryCardId s) (h : formStep F year s e = some s') :
    NewCard primaryCardId s' := by
  have hold := hnew
  obtain ⟨hcard, hprimary, hnumber, hdate, hcvc, hsent⟩ := hnew
  obtain ⟨-, hstep⟩ := stepped h
  cases hstep with
  | viewWillAppear =>
    have hsame : s.updateViews = s := by
      unfold CardForm.updateViews
      rw [hcard]
    rw [hsame]
    exact hold
  | cardNumber e _ => exact ⟨hcard, hprimary, typed_number hnumber [e], hdate, hcvc, hsent⟩
  | expiration e => exact ⟨hcard, hprimary, hnumber, (typed_date F year hdate [e]).1, hcvc, hsent⟩
  | cvc e =>
    refine ⟨hcard, hprimary, hnumber, hdate, ?_, hsent⟩
    change Printable ((cvcField F).change s.cvc e)
    rw [FormTextField.change]
    split
    · exact hcvc.composed e
    · exact hcvc
  | addPaymentMethod _ htap =>
    rcases htap with ⟨-, rfl⟩ | ⟨-, rfl⟩ | ⟨-, request, hrequest, -, rfl⟩
    · exact ⟨hcard, hprimary, hnumber, hdate, hcvc, hsent⟩
    · exact ⟨hcard, hprimary, hnumber, hdate, hcvc, hsent⟩
    · refine ⟨hcard, hprimary, hnumber, hdate, hcvc, fun primary entry hmem => ?_⟩
      rcases List.mem_append.mp hmem with hmem | hmem
      · exact hsent primary entry hmem
      · rw [List.mem_singleton] at hmem
        rw [← hmem] at hrequest
        exact hold.sendable hrequest
  | completed _ => exact ⟨hcard, hprimary, hnumber, hdate, hcvc, hsent⟩

/-- A tap on Save, with the fields of a new card filled in. -/
theorem save_new (F : Foundation) (year : ℕ) (hup : s.trapped = false)
    (hon : s.isEnabled = true) (hcard : s.card = none) {cs : List Char}
    (hcs : ∀ c ∈ cs, c.isDigit) (hsixteen : cs.length = 16)
    (hnumber : s.cardNumber = CardNumberFormatter.formatString cs false) {a b c d : Fin 10}
    (hdate : s.expiration =
      [Nat.digitChar a, Nat.digitChar b, '/', Nat.digitChar c, Nat.digitChar d])
    (hprint : Printable s.expiration) (hcvc : ∀ c ∈ s.cvc, c.isDigit) (hthree : s.cvc.length = 3) :
    ∃ s', formStep F year s .addPaymentMethod = some s' ∧
      s'.sent = s.sent ++ [.create s.primaryCardId ⟨String.ofList s.cardNumber,
        10 * (a : ℕ) + b, 10 * (c : ℕ) + d, String.ofList s.cvc⟩] := by
  have hvalid : s.texts.validates F.graphemes F.decimalDigits = true :=
    (validates_iff hcs hnumber hprint (fun x hx => ascii_of_isDigit (hcvc x hx))).mpr
      ⟨hsixteen, by rw [hdate]; rfl, hthree, hcvc⟩
  obtain ⟨hm, hy⟩ := parses_digits F.graphemes a b c d
  rw [← hdate] at hm hy
  have hm' : expMonth F.graphemes s.texts.expiration = some (10 * (a : ℕ) + b) := hm
  have hy' : expYear F.graphemes s.texts.expiration = some (10 * (c : ℕ) + d) := hy
  have hnone : s.texts.card = none := hcard
  have hrequest : s.texts.addPaymentMethod F.graphemes F.decimalDigits =
      .create s.primaryCardId ⟨String.ofList s.cardNumber, 10 * (a : ℕ) + b,
        10 * (c : ℕ) + d, String.ofList s.cvc⟩ := by
    simp only [PaymentForm.addPaymentMethod, hm', hy', hnone, hvalid, if_true]
    rfl
  have hpasses : s.texts.PassesGuard F.graphemes F.decimalDigits := by
    unfold PaymentForm.PassesGuard
    rw [hnone]
    exact hvalid
  have hparses : DateParses F.graphemes s.texts.expiration :=
    dateParses_iff.mpr ⟨by rw [hm']; rfl, by rw [hy']; rfl⟩
  rw [← hrequest]
  exact save_sends year hup hon hparses hpasses

/-- **What the form of a new card can send.**  Over all runs of the form, with edits, taps on
Save and completions in any order, the cards that are sent are exactly those with a number of
sixteen digits grouped by four, a cvc of three digits, and any month and any year below a
hundred; and the primary card that is sent with them is the one that the form was opened
with. -/
theorem requests_iff (F : Foundation) (year : ℕ) (primaryCardId primary : Option String)
    (entry : CardEntry) :
    (∃ events s, run (formStep F year) (.opened none primaryCardId) events = some s ∧
        Saved.create primary entry ∈ s.sent) ↔
      primary = primaryCardId ∧ Sendable entry := by
  constructor
  · rintro ⟨events, s, hrun, hmem⟩
    have hopened : NewCard primaryCardId (.opened none primaryCardId) :=
      ⟨rfl, rfl, grouped_nil, printable_nil, printable_nil,
        fun _ _ hmem => absurd hmem List.not_mem_nil⟩
    have hnew : NewCard primaryCardId s :=
      run_invariant (NewCard primaryCardId) (fun _ _ _ hnow he => newCard_step hnow he) hopened hrun
    exact hnew.sent primary entry hmem
  · rintro ⟨rfl, ⟨cs, hcs, hsixteen, hnumber⟩, hmonth, hyear, ds, hds, hthree, hcvc⟩
    obtain ⟨number, month, yy, cvc⟩ := entry
    simp only at hnumber hmonth hyear hcvc
    obtain ⟨a, b, rfl⟩ := two_digits hmonth
    obtain ⟨c, d, rfl⟩ := two_digits hyear
    subst hnumber hcvc
    obtain ⟨edits, -, hdate⟩ := any_date F year a b c d
    obtain ⟨events, hrun⟩ : ∃ events, run (formStep F year) (.opened none primary) events =
        some { CardForm.opened none primary with
          cardNumber := CardNumberFormatter.formatString cs false,
          expiration := (cardExpirationDateField F year).typed [] edits, cvc := ds } :=
      run_fill_new F year rfl rfl hcs hsixteen edits hds hthree
    have hprint : Printable ((cardExpirationDateField F year).typed [] edits) :=
      (typed_date F year printable_nil edits).1
    obtain ⟨s', hs', hsent⟩ := save_new F year (s := { CardForm.opened none primary
      with cardNumber := CardNumberFormatter.formatString cs false,
           expiration := (cardExpirationDateField F year).typed [] edits, cvc := ds })
      rfl rfl rfl hcs hsixteen rfl hdate hprint hds hthree
    refine ⟨events ++ [.addPaymentMethod], s', ?_, ?_⟩
    · rw [run_append_iff]
      exact ⟨_, hrun, (run_cons_iff _).mpr ⟨s', hs', rfl⟩⟩
    rw [hsent]
    exact List.mem_append_right _ (List.mem_singleton.mpr rfl)

end

end Lidora
