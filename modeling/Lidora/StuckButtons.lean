import Lidora.DroppedTaps

/-! # The buttons of the bag

"Clear bag" and "Place Order" are `LoadingButton`s.  A tap switches the button off
(`showLoading`), and the completion that the tap leads to, or "Cancel" in the alert that it
opens, switches it on again (`hideLoading`).  Where a tap leads to neither, the button stays off.

A button is owed an answer (`owed`) while its alert is open, an operation of its kind is running,
or an answer to one has not been taken up; it is never owed more than one, and none while it
is on (`OwedOnce`).  Off and owed nothing, it is stuck, and stays so for the rest of every run
(`stuck_forever`): the screen has nothing else that switches it on, and the view is built once.

`never_stuck_iff` says which steps do it.  "Clear bag" is lost by a tap while no order is on the
screen, since its guard comes after `showLoading`; and by the delete of the order document
being rejected.  "Place Order" is lost where `placeOrder` ends in silence: its read fails, or
finds no document, or the card lacks a field.  A query of the items that fails, and an order
document that does not decode, are on the way to a trap.
-/
namespace Lidora
open DocumentStore Runs

/-- The two buttons of `ProceedView`. -/
inductive BagButton where
  | clear
  | proceed
  deriving DecidableEq

namespace BagButton

/-- `isEnabled`. -/
def enabled (s : Screen) : BagButton → Bool
  | clear => s.clearEnabled
  | proceed => s.proceedEnabled

/-- The button's alert is open; that of "Place Order" does not wait for the button. -/
def asking (s : Screen) : BagButton → Bool
  | clear => match s.alert with
    | some (.clearBag _) => true
    | _ => false
  | proceed => false

/-- The call that the button leads to. -/
def calls : BagCall → BagButton → Bool
  | .clearOrder _, clear | .placeOrder _ _, proceed => true
  | _, _ => false

/-- The operations of that call. -/
def runs {orderId : String} : BagOp orderId → BagButton → Bool
  | .clearing _, clear => true
  | .reading _ _, proceed | .tokenizing _ _ _, proceed | .charging _ _ _ _, proceed => true
  | _, _ => false

/-- The tap on it. -/
def tap : BagButton → ScreenEvent
  | clear => .clearOrder
  | proceed => .placeOrder

/-- The completions of that call. -/
def hears : Answer → BagButton → Bool
  | .clearOrder _, clear | .placeOrder _, proceed => true
  | _, _ => false

end BagButton

section
variable {D : Type} [DecidableEq D] {orderId : String}

/-- The operations and answers that the button of device `d` waits for. -/
def awaited (b : BagButton) (d : D) (s : BagState D orderId) : ℕ :=
  s.ops.count (fun x => x.1 = d && b.runs x.2) +
    s.answers.countP (fun x => x.1 = d && b.hears x.2)

/-- What the button is owed, with its alert. -/
def owed (b : BagButton) (d : D) (screen : Screen) (s : BagState D orderId) : ℕ :=
  (if b.asking screen then 1 else 0) + awaited b d s

/-- The button is off, and is owed nothing. -/
def Stuck (b : BagButton) (d : D) (s : BagSystem D orderId) : Prop :=
  ∃ screen ∈ s.screens d, b.enabled screen = false ∧ owed b d screen s.service = 0

/-- The reply ends an operation of the button without a completion. -/
def EndsSilently (uid : String) (b : BagButton) (s : BagState D orderId) :
    BagOp orderId → Reply → Prop
  | .clearing none, .failed => b = .clear
  | .reading _ _, .failed => b = .proceed
  | .reading order card, .bag _ =>
    b = .proceed ∧ ∀ c, readBag order card (s.store.lookup (orderRef uid orderId)) ≠ .charge c
  | _, _ => False

/-- A tap on "Clear bag" with no order on the screen. -/
def LostTap (b : BagButton) (s : Screen) (e : ScreenEvent) : Prop :=
  b = .clear ∧ e = .clearOrder ∧ s.order = []

/-- The step loses the button of device `d`. -/
def Loses (uid : String) (b : BagButton) (d : D) (s : BagSystem D orderId) :
    SystemEvent D → Prop
  | .screen d' e => d' = d ∧ ∃ screen ∈ s.screens d, LostTap b screen e
  | .reply n r => (s.screens d).isSome ∧ ∃ op, s.service.ops.running n = some (d, op) ∧
      EndsSilently uid b s.service op r
  | .answer k => (s.screens d).isSome ∧ b = .clear ∧
      s.service.answers[k]? = some (d, .clearOrder false)

/-! ## What an event on the screen does to a button -/

/-- What an event on a screen does to a button: nothing, or one of the four steps of a tap. -/
inductive Pressed (b : BagButton) (s s' : Screen) (e : ScreenEvent) (call : Option BagCall) : Prop
  | untouched (hnot : ¬ LostTap b s e) (henabled : b.enabled s' = b.enabled s)
      (hasking : b.asking s' = b.asking s) (hcall : ∀ c ∈ call, b.calls c = false)
  /-- A tap that opens the alert, or leads to the call. -/
  | tapped (hnot : ¬ LostTap b s e) (henabled : b.enabled s = true)
      (henabled' : b.enabled s' = false) (hasking : b.asking s = false)
      (howed : (b.asking s' = true ∧ call = none) ∨
        (b.asking s' = false ∧ ∃ c ∈ call, b.calls c = true))
  | lost (hlost : LostTap b s e) (henabled : b.enabled s = true) (henabled' : b.enabled s' = false)
      (hasking : b.asking s = false) (hasking' : b.asking s' = false) (hcall : call = none)
  | confirmed (hnot : ¬ LostTap b s e) (henabled : b.enabled s' = b.enabled s)
      (hasking : b.asking s = true) (hasking' : b.asking s' = false)
      (hcall : ∃ c ∈ call, b.calls c = true)
  | cancelled (hnot : ¬ LostTap b s e) (henabled' : b.enabled s' = true)
      (hasking : b.asking s = true) (hasking' : b.asking s' = false) (hcall : call = none)

end

namespace Screen

/-- What a button depends on. -/
def buttons (s : Screen) : Bool × Bool × Option BagAlert :=
  (s.clearEnabled, s.proceedEnabled, s.alert)

@[simp] theorem buttons_setCardState (s : Screen) (state : CardState) :
    (s.setCardState state).buttons = s.buttons := by
  cases state <;> rfl

@[simp] theorem buttons_fetchOrder (s : Screen) : s.fetchOrder.buttons = s.buttons := by
  unfold fetchOrder
  split <;> rfl

theorem buttons_fetchPrimaryCard (s : Screen) : s.fetchPrimaryCard.buttons = s.buttons := by
  unfold fetchPrimaryCard
  split <;> rfl

theorem buttons_userFetched (s : Screen) (uid : String) (snapshot : Option Doc) :
    (s.userFetched uid snapshot).buttons = s.buttons := by
  unfold userFetched
  cases snapshot with
  | none => rfl
  | some data => exact (buttons_fetchPrimaryCard _).trans (buttons_fetchOrder _)

theorem buttons_cardFetched (s : Screen) (k : ℕ) (id : String) (snapshot : Option Doc) :
    (s.cardFetched k id snapshot).buttons = s.buttons := by
  unfold cardFetched
  cases snapshot <;> rfl

theorem buttons_orderSnapshot (s : Screen) (id : String) (snapshot : Option Doc) :
    (s.orderSnapshot id snapshot).buttons = s.buttons := by
  unfold orderSnapshot
  cases snapshot with
  | none => exact buttons_setCardState s .none
  | some data => rfl

theorem buttons_receive {s s' : Screen} {order : Order} {menu : Menu}
    (h : s.receive order menu = some s') : s'.buttons = s.buttons := by
  unfold receive at h
  split at h
  · cases h
    rfl
  · cases h

theorem buttons_itemsSnapshot {order : Order} {items : List (String × Doc)} {s s' : Screen}
    (h : s.itemsSnapshot order items = some s') : s'.buttons = s.buttons :=
  itemsSnapshot_keeps buttons (fun _ _ _ => buttons_receive) h

theorem buttons_curtain (s : Screen) (height : CurtainHeight) :
    (s.curtain height).buttons = s.buttons := by
  unfold curtain
  cases height <;> simp only <;> split <;> split <;> rfl

theorem buttons_didSelect {s s' : Screen} {menu : Menu} {chef : Option Chef} {front : Bool}
    (h : s.didSelect menu chef front = some s') : s'.buttons = s.buttons := by
  unfold didSelect at h
  split at h
  · cases h
  · simp only at h
    split at h
    · cases h
      exact buttons_setCardState _ .overview
    · cases h
      rfl

theorem buttons_addToOrder {s s' : Screen} {item : Menu} {quantity : ℤ} {total : ℚ}
    (h : s' ∈ (s.addToOrder item quantity total).screen) : s'.buttons = s.buttons := by
  unfold addToOrder at h
  simp only at h
  split at h
  · cases h
    exact buttons_setCardState s .notEmpty
  · cases h
    exact buttons_setCardState s .notEmpty

theorem buttons_tapAddToOrder {s s' : Screen} (h : s' ∈ s.tapAddToOrder.screen) :
    s'.buttons = s.buttons := by
  unfold tapAddToOrder at h
  split at h
  · cases h
    rfl
  · split at h
    · cases h
      rfl
    · split at h
      · cases h
      · obtain ⟨s₁, hs₁, rfl⟩ := Option.map_eq_some_iff.mp h
        have hbuttons : s₁.buttons = s.buttons := buttons_addToOrder hs₁
        exact hbuttons

/-- An add is no call of either button. -/
theorem calls_tapAddToOrder (s : Screen) (b : BagButton) :
    ∀ c ∈ s.tapAddToOrder.call, b.calls c = false := by
  intro c hc
  unfold tapAddToOrder at hc
  split at hc
  · cases hc
  · split at hc
    · cases hc
    · split at hc
      · cases hc
      · simp only [addToOrder] at hc
        split at hc
        · cases hc
          cases b <;> rfl
        · cases hc

end Screen

section
variable {uid : String} {store : Firestore} {b : BagButton} {s s' : Screen} {e : ScreenEvent}
  {call : Option BagCall}

theorem of_buttons (b : BagButton) (h : s'.buttons = s.buttons) :
    b.enabled s' = b.enabled s ∧ b.asking s' = b.asking s := by
  simp only [Screen.buttons, Prod.mk.injEq] at h
  obtain ⟨hclear, hproceed, halert⟩ := h
  constructor
  · cases b with
    | clear => exact hclear
    | proceed => exact hproceed
  · unfold BagButton.asking
    rw [halert]

theorem Pressed.of_buttons (he : e ≠ .clearOrder) (h : s'.buttons = s.buttons)
    (hcall : ∀ c ∈ call, b.calls c = false) : Pressed b s s' e call := by
  obtain ⟨henabled, hasking⟩ := Lidora.of_buttons b h
  exact .untouched (fun hlost => he hlost.2.1) henabled hasking hcall

theorem Pressed.quiet (he : e ≠ .clearOrder) (h : s'.buttons = s.buttons) :
    Pressed b s s' e none :=
  .of_buttons he h (by simp)

theorem Pressed.of_tapClearOrder (hon : s.clearEnabled = true) (halert : s.alert = none) :
    Pressed b s s.tapClearOrder .clearOrder none := by
  have hquiet : b.asking s = false := by
    cases b <;> simp [BagButton.asking, halert]
  unfold Screen.tapClearOrder
  cases horder : s.order with
  | nil =>
    cases b with
    | clear =>
      exact .lost ⟨rfl, rfl, horder⟩ hon rfl hquiet (by simp [BagButton.asking, halert]) rfl
    | proceed => exact .untouched (by simp [LostTap]) rfl rfl (by simp)
  | cons order orders =>
    have hnot : ¬ LostTap b s .clearOrder := by simp [LostTap, horder]
    cases b with
    | clear => exact .tapped hnot hon rfl hquiet (Or.inl ⟨rfl, rfl⟩)
    | proceed => exact .untouched hnot rfl rfl (by simp)

theorem Pressed.of_tapPlaceOrder (hon : s.proceedEnabled = true) (halert : s.alert = none)
    (hs : s' ∈ s.tapPlaceOrder.screen) : Pressed b s s' .placeOrder s.tapPlaceOrder.call := by
  have hnot : ¬ LostTap b s .placeOrder := by simp [LostTap]
  unfold Screen.tapPlaceOrder at hs ⊢
  simp only at hs ⊢
  split at hs
  · cases hs
    cases b with
    | clear => exact .untouched hnot rfl rfl (by simp [BagButton.calls])
    | proceed => exact .tapped hnot hon rfl rfl (Or.inr ⟨rfl, _, rfl, rfl⟩)
  · cases hs
    cases b with
    | clear =>
      exact .untouched hnot rfl (by simp [BagButton.asking, halert]) (by simp [Screen.quiet])
    | proceed => exact .untouched hnot hon.symm rfl (by simp [Screen.quiet])

/-- **What an event does to a button.** -/
theorem pressed_of_act {turn : Turn} (h : s.act uid store e = some turn)
    (hs : s' ∈ turn.screen) : Pressed b s s' e turn.call := by
  cases e with
  | fetchData =>
    cases h
    cases hs
    exact .quiet (by simp) rfl
  | userFetched ok =>
    simp only [Screen.act] at h
    split at h
    · cases h
    · split at h
      · cases h
        cases hs
        exact .quiet (by simp) (Screen.buttons_userFetched s uid _)
      · cases h
        cases hs
        exact .quiet (by simp) rfl
  | cardFetched k ok =>
    simp only [Screen.act] at h
    split at h
    · cases h
    · split at h
      · cases h
        cases hs
        exact .quiet (by simp) (Screen.buttons_cardFetched s k _ _)
      · cases h
        cases hs
        exact .quiet (by simp) rfl
  | orderSnapshot k ok =>
    simp only [Screen.act] at h
    split at h
    · cases h
    · split at h
      · cases h
        cases hs
        exact .quiet (by simp) (Screen.buttons_orderSnapshot s _ _)
      · cases h
        cases hs
        exact .quiet (by simp) rfl
  | itemsSnapshot k ok =>
    simp only [Screen.act] at h
    split at h
    · cases h
    · split at h
      · cases h
        exact .quiet (by simp) (Screen.buttons_itemsSnapshot hs)
      · cases h
        cases hs
        exact .quiet (by simp) rfl
  | curtain height =>
    cases h
    cases hs
    exact .quiet (by simp) (Screen.buttons_curtain s height)
  | didSelect menu chef front =>
    cases h
    exact .quiet (by simp) (Screen.buttons_didSelect hs)
  | stepTo value =>
    simp only [Screen.act] at h
    split at h
    · cases h
      cases hs
      exact .quiet (by simp) rfl
    · cases h
  | addToOrder =>
    simp only [Screen.act] at h
    split at h
    · cases h
      exact .of_buttons (by simp) (Screen.buttons_tapAddToOrder hs) (Screen.calls_tapAddToOrder s b)
    · cases h
  | switchCard card =>
    cases h
    cases hs
    exact .quiet (by simp) rfl
  | clearOrder =>
    simp only [Screen.act] at h
    split at h
    · rename_i hon
      obtain ⟨-, hon, halert⟩ := hon
      cases h
      cases hs
      exact .of_tapClearOrder hon halert
    · cases h
  | confirmClear =>
    have hnot : ¬ LostTap b s .confirmClear := by simp [LostTap]
    simp only [Screen.act] at h
    split at h
    · rename_i id halert
      cases h
      cases hs
      cases b with
      | clear => exact .confirmed hnot rfl (by simp [BagButton.asking, halert]) rfl ⟨_, rfl, rfl⟩
      | proceed => exact .untouched hnot rfl rfl (by simp [BagButton.calls])
    · cases h
  | cancelAlert =>
    have hnot : ¬ LostTap b s .cancelAlert := by simp [LostTap]
    simp only [Screen.act] at h
    split at h
    · rename_i id halert
      cases h
      cases hs
      cases b with
      | clear => exact .cancelled hnot rfl (by simp [BagButton.asking, halert]) rfl rfl
      | proceed => exact .untouched hnot rfl rfl (by simp [Screen.quiet])
    · rename_i halert
      cases h
      cases hs
      refine .untouched hnot ?_ ?_ (by simp [Screen.quiet])
      · cases b <;> rfl
      · cases b <;> simp [BagButton.asking, halert]
    · cases h
  | placeOrder =>
    simp only [Screen.act] at h
    split at h
    · rename_i hon
      obtain ⟨-, hon, halert⟩ := hon
      cases h
      exact .of_tapPlaceOrder hon halert hs
    · cases h

end

/-! ## What the service does to what is owed -/

section
variable {D : Type} [DecidableEq D] {uid orderId : String} {b : BagButton} {d d' : D}
  {s s' : BagState D orderId}

theorem awaited_call {c : BagCall} (h : call s d' c = some s') :
    awaited b d s' = awaited b d s + if d' = d ∧ b.calls c = true then 1 else 0 := by
  have hstart : ∀ op : BagOp orderId, b.runs op = b.calls c →
      awaited b d (s.start d' op) =
        awaited b d s + if d' = d ∧ b.calls c = true then 1 else 0 := by
    intro op hop
    simp only [awaited, BagState.start, InFlight.count_start, hop, Bool.and_eq_true,
      decide_eq_true_eq]
    omega
  unfold call at h
  split at h
  · split at h
    · split at h
      · cases h
        refine hstart _ ?_
        cases b <;> rfl
      · cases h
        cases b <;> simp [BagButton.calls]
    · cases h
  · split at h
    · cases h
      refine hstart _ ?_
      cases b <;> rfl
    · cases h
  · split at h
    · cases h
      refine hstart _ ?_
      cases b <;> rfl
    · cases h

/-- Going on with an operation of the same button leaves what it waits for. -/
theorem awaited_put {n : ℕ} {op op' : BagOp orderId} (hop : s.ops.running n = some (d', op))
    (hruns : b.runs op' = b.runs op) (hops : s'.ops = s.ops.put n (d', op'))
    (hanswers : s'.answers = s.answers) : awaited b d s' = awaited b d s := by
  have hcount := InFlight.count_put (fun x => x.1 = d && b.runs x.2) hop (d', op')
  simp only [hruns] at hcount
  rw [awaited, awaited, hops, hanswers]
  omega

/-- The end of an operation, with what its device hears of it. -/
theorem awaited_finish {n : ℕ} {op : BagOp orderId} {answers : List (D × Answer)}
    (hop : s.ops.running n = some (d', op)) (hops : s'.ops = s.ops.finish n)
    (hanswers : s'.answers = s.answers ++ answers) :
    awaited b d s' + (if (d' = d && b.runs op) = true then 1 else 0) =
      awaited b d s + answers.countP (fun x => x.1 = d && b.hears x.2) := by
  have hcount := InFlight.count_finish (fun x => x.1 = d && b.runs x.2) hop
  simp only at hcount
  rw [awaited, awaited, hops, hanswers, List.countP_append]
  omega

/-- An operation that ends with the answer that its button waits for. -/
theorem awaited_answer {n : ℕ} {op : BagOp orderId} {a : Answer}
    (hop : s.ops.running n = some (d', op)) (hhears : b.hears a = b.runs op)
    (hops : s'.ops = s.ops.finish n) (hanswers : s'.answers = s.answers ++ [(d', a)]) :
    awaited b d s' = awaited b d s := by
  have hfinish := awaited_finish (b := b) (d := d) hop hops hanswers
  simp only [List.countP_singleton, hhears] at hfinish
  exact Nat.add_right_cancel hfinish

/-- An operation of a button that ends without that answer. -/
theorem awaited_silent {n : ℕ} {op : BagOp orderId} {answers : List (D × Answer)}
    (hop : s.ops.running n = some (d', op)) (hsilent : ∀ x ∈ answers, b.hears x.2 = false)
    (hops : s'.ops = s.ops.finish n) (hanswers : s'.answers = s.answers ++ answers) :
    awaited b d s' + (if (d' = d && b.runs op) = true then 1 else 0) = awaited b d s := by
  have hnone : answers.countP (fun x => x.1 = d && b.hears x.2) = 0 := by
    rw [List.countP_eq_zero]
    intro x hx
    simp [hsilent x hx]
  rw [awaited_finish hop hops hanswers, hnone, Nat.add_zero]

/-- **What a reply does to what is owed**: nothing, but for an end in silence, which takes the
one that was owed. -/
theorem awaited_proceed {n : ℕ} {op : BagOp orderId} {r : Reply}
    (hop : s.ops.running n = some (d', op)) (h : proceed uid s n d' op r = some s') :
    (awaited b d s' = awaited b d s ∧ ¬ (d' = d ∧ EndsSilently uid b s op r)) ∨
      (awaited b d s' + 1 = awaited b d s ∧ d' = d ∧ EndsSilently uid b s op r) := by
  -- the replies that lead on, or to an answer, and those that lead to silence or a trap
  have hkept : awaited b d s' = awaited b d s → ¬ EndsSilently uid b s op r →
      (awaited b d s' = awaited b d s ∧ ¬ (d' = d ∧ EndsSilently uid b s op r)) ∨
        (awaited b d s' + 1 = awaited b d s ∧ d' = d ∧ EndsSilently uid b s op r) :=
    fun hsame hnot => Or.inl ⟨hsame, fun hd => hnot hd.2⟩
  have hsilent : ∀ answers : List (D × Answer), (∀ x ∈ answers, b.hears x.2 = false) →
      s'.ops = s.ops.finish n → s'.answers = s.answers ++ answers →
      (EndsSilently uid b s op r ↔ b.runs op = true) →
      (awaited b d s' = awaited b d s ∧ ¬ (d' = d ∧ EndsSilently uid b s op r)) ∨
        (awaited b d s' + 1 = awaited b d s ∧ d' = d ∧ EndsSilently uid b s op r) := by
    intro answers hanswers hops happend hiff
    have hsum := awaited_silent (b := b) (d := d) hop hanswers hops happend
    by_cases hmine : d' = d ∧ b.runs op = true
    · rw [if_pos (by simp [hmine])] at hsum
      exact Or.inr ⟨hsum, hmine.1, hiff.mpr hmine.2⟩
    · rw [if_neg (by simpa using hmine), Nat.add_zero] at hsum
      exact Or.inl ⟨hsum, fun hd => hmine ⟨hd.1, hiff.mp hd.2⟩⟩
  unfold proceed at h
  split at h
  · split at h
    · cases h
      exact hkept (awaited_answer hop (by cases b <;> rfl) rfl rfl) id
    · cases h
  · split at h
    · cases h
      exact hkept (awaited_answer hop (by cases b <;> rfl) rfl rfl) id
    · cases h
  · cases h
    exact hkept (awaited_answer hop (by cases b <;> rfl) rfl rfl) id
  · cases h
    exact hkept (awaited_put hop (by cases b <;> rfl) rfl rfl) id
  · cases h
    refine hsilent [(d', .trapped)] ?_ rfl rfl ?_
    · cases b <;> simp [BagButton.hears]
    · cases b <;> simp [EndsSilently, BagButton.runs]
  · cases h
    exact hkept (awaited_put hop (by cases b <;> rfl) rfl rfl) id
  · cases h
    exact hkept (awaited_answer hop (by cases b <;> rfl) rfl rfl) id
  · rename_i order card created
    split at h
    · rename_i hread
      cases h
      refine hsilent [] (by simp) rfl (List.append_nil _).symm ?_
      cases b <;> simp [EndsSilently, BagButton.runs, hread]
    · rename_i hread
      cases h
      refine hsilent [(d', .trapped)] ?_ rfl rfl ?_
      · cases b <;> simp [BagButton.hears]
      · cases b <;> simp [EndsSilently, BagButton.runs, hread]
    · rename_i c hread
      cases h
      refine hkept (awaited_put hop (by cases b <;> rfl) rfl rfl) fun hends => ?_
      exact hends.2 c hread
  · cases h
    refine hsilent [] (by simp) rfl (List.append_nil _).symm ?_
    cases b <;> simp [EndsSilently, BagButton.runs]
  · cases h
    exact hkept (awaited_answer hop (by cases b <;> rfl) rfl rfl) id
  · split at h
    · cases h
    · cases h
      exact hkept (awaited_put hop (by cases b <;> rfl) rfl rfl) id
  · cases h
    exact hkept (awaited_answer hop (by cases b <;> rfl) rfl rfl) id
  · cases h
    exact hkept (awaited_answer hop (by cases b <;> rfl) rfl rfl) id
  · cases h

/-- An answer that is taken up is owed no longer. -/
theorem awaited_handle {k : ℕ} {a : Answer} (ha : s.answers[k]? = some (d', a)) :
    awaited b d { s with answers := s.answers.eraseIdx k } +
      (if d' = d ∧ b.hears a = true then 1 else 0) = awaited b d s := by
  obtain ⟨hk, hget⟩ := List.getElem?_eq_some_iff.mp ha
  have hcount := (List.getElem_cons_eraseIdx_perm hk).countP_eq
    (fun x : D × Answer => x.1 = d && b.hears x.2)
  rw [hget, List.countP_cons] at hcount
  simp only [Bool.and_eq_true, decide_eq_true_eq] at hcount
  simp only [awaited]
  omega

end

/-- **What an answer does to a button** on the screen that takes it up. -/
theorem hears_of_hear {b : BagButton} {s s' : Screen} {a : Answer} (h : s.hear a = some s') :
    b.asking s' = b.asking s ∧
      ((b.hears a = true ∧ b.enabled s' = true ∧ ¬ (b = .clear ∧ a = .clearOrder false)) ∨
        (b.enabled s' = b.enabled s ∧
          (b.hears a = true ↔ b = .clear ∧ a = .clearOrder false))) := by
  unfold Screen.hear at h
  split at h
  · cases h
    obtain ⟨henabled, hasking⟩ := of_buttons b (Screen.buttons_fetchOrder s)
    exact ⟨hasking, Or.inr ⟨henabled, by simp [BagButton.hears]⟩⟩
  · cases h
    exact ⟨rfl, Or.inr ⟨rfl, by simp [BagButton.hears]⟩⟩
  · cases h
    cases b with
    | clear => exact ⟨rfl, Or.inl ⟨rfl, rfl, by simp⟩⟩
    | proceed => exact ⟨rfl, Or.inr ⟨rfl, by simp [BagButton.hears]⟩⟩
  · cases h
    exact ⟨rfl, Or.inr ⟨rfl, by cases b <;> simp [BagButton.hears]⟩⟩
  · cases h
    cases b with
    | clear => exact ⟨rfl, Or.inr ⟨rfl, by simp [BagButton.hears]⟩⟩
    | proceed => exact ⟨rfl, Or.inl ⟨rfl, rfl, by simp⟩⟩
  · cases h
    cases b with
    | clear => exact ⟨rfl, Or.inr ⟨rfl, by simp [BagButton.hears]⟩⟩
    | proceed => exact ⟨rfl, Or.inl ⟨rfl, rfl, by simp⟩⟩
  · cases h

/-! ## Runs -/

section
variable {D : Type} [DecidableEq D] {uid orderId : String} {b : BagButton} {d : D}
  {s s' : BagSystem D orderId}

/-- What a step does to the button of a device whose screen goes on. -/
inductive ButtonStep (uid : String) (b : BagButton) (d : D) (s s' : BagSystem D orderId)
    (e : SystemEvent D) (screen screen' : Screen) : Prop
  | kept (hnot : ¬ Loses uid b d s e) (henabled : b.enabled screen' = b.enabled screen)
      (howed : owed b d screen' s'.service = owed b d screen s.service)
  | tapped (hnot : ¬ Loses uid b d s e) (henabled : b.enabled screen = true)
      (henabled' : b.enabled screen' = false)
      (howed : owed b d screen' s'.service = owed b d screen s.service + 1)
  | settled (hnot : ¬ Loses uid b d s e) (henabled' : b.enabled screen' = true)
      (howed : owed b d screen' s'.service + 1 = owed b d screen s.service)
  /-- The tap on "Clear bag" without an order. -/
  | lostTap (hloses : Loses uid b d s e) (henabled : b.enabled screen = true)
      (henabled' : b.enabled screen' = false)
      (howed : owed b d screen' s'.service = owed b d screen s.service)
  | lostAnswer (hloses : Loses uid b d s e) (henabled : b.enabled screen' = b.enabled screen)
      (howed : owed b d screen' s'.service + 1 = owed b d screen s.service)

theorem buttonStep_of_pressed {e : ScreenEvent} {screen screen' : Screen} {call : Option BagCall}
    (hscreen : s.screens d = some screen) (h : Pressed b screen screen' e call)
    (hawaited : (call = none ∧ awaited b d s'.service = awaited b d s.service) ∨
      ∃ c ∈ call, awaited b d s'.service =
        awaited b d s.service + if b.calls c = true then 1 else 0) :
    ButtonStep uid b d s s' (.screen d e) screen screen' := by
  have hloses : Loses uid b d s (.screen d e) ↔ LostTap b screen e := by
    simp [Loses, hscreen]
  have hcalled : (∃ c ∈ call, b.calls c = true) →
      awaited b d s'.service = awaited b d s.service + 1 := by
    rintro ⟨c, hc, hcalls⟩
    rcases hawaited with ⟨hnone, -⟩ | ⟨c', hc', hmore⟩
    · rw [hnone] at hc
      cases hc
    · rw [hmore, Option.some.inj (hc'.symm.trans hc), if_pos hcalls]
  have hquiet : (∀ c ∈ call, b.calls c = false) →
      awaited b d s'.service = awaited b d s.service := by
    intro hcalls
    rcases hawaited with ⟨-, hsame⟩ | ⟨c, hc, hmore⟩
    · exact hsame
    · rw [hmore, if_neg (by simp [hcalls c hc]), Nat.add_zero]
  cases h with
  | untouched hnot henabled hasking hcall =>
    refine .kept (hloses.not.mpr hnot) henabled ?_
    simp only [owed, hasking, hquiet hcall]
  | tapped hnot henabled henabled' hasking howed =>
    refine .tapped (hloses.not.mpr hnot) henabled henabled' ?_
    rcases howed with ⟨hasking', hcall⟩ | ⟨hasking', hcall⟩
    · have hsame := hquiet (by simp [hcall])
      simp only [owed, hasking, hasking', hsame, if_true, Bool.false_eq_true, if_false]
      omega
    · simp only [owed, hasking, hasking', hcalled hcall, Nat.add_assoc]
  | lost hlost henabled henabled' hasking hasking' hcall =>
    refine .lostTap (hloses.mpr hlost) henabled henabled' ?_
    simp only [owed, hasking, hasking', hquiet (by simp [hcall])]
  | confirmed hnot henabled hasking hasking' hcall =>
    refine .kept (hloses.not.mpr hnot) henabled ?_
    simp only [owed, hasking, hasking', hcalled hcall, if_true, Bool.false_eq_true, if_false]
    omega
  | cancelled hnot henabled' hasking hasking' hcall =>
    refine .settled (hloses.not.mpr hnot) henabled' ?_
    have hsame := hquiet (by simp [hcall])
    simp only [owed, hasking, hasking', hsame, if_true, Bool.false_eq_true, if_false]
    omega

theorem buttonStep_of_hear {k : ℕ} {a : Answer} {screen screen' : Screen}
    (hscreen : s.screens d = some screen) (ha : s.service.answers[k]? = some (d, a))
    (hhear : screen.hear a = some screen')
    (hless : awaited b d s'.service + (if b.hears a = true then 1 else 0) =
      awaited b d s.service) :
    ButtonStep uid b d s s' (.answer k) screen screen' := by
  have hloses : Loses uid b d s (.answer k) ↔ b = .clear ∧ a = .clearOrder false := by
    simp [Loses, hscreen, ha]
  obtain ⟨hasking, ⟨hhears, henabled, hnot⟩ | ⟨henabled, hiff⟩⟩ := hears_of_hear (b := b) hhear
  · rw [if_pos hhears] at hless
    refine .settled (hloses.not.mpr hnot) henabled ?_
    simp only [owed, hasking]
    omega
  · by_cases hhears : b.hears a = true
    · rw [if_pos hhears] at hless
      refine .lostAnswer (hloses.mpr (hiff.mp hhears)) henabled ?_
      simp only [owed, hasking]
      omega
    · rw [if_neg hhears, Nat.add_zero] at hless
      refine .kept (hloses.not.mpr (hiff.not.mp hhears)) henabled ?_
      simp only [owed, hasking, hless]

/-- **What a step of the system does to a button.** -/
theorem buttonStep_of_step {e : SystemEvent D} (hstep : systemStep uid s e = some s')
    {screen' : Screen} (hscreen' : s'.screens d = some screen') :
    ∃ screen, s.screens d = some screen ∧ ButtonStep uid b d s s' e screen screen' := by
  cases e with
  | screen d' e =>
    simp only [systemStep, Option.bind_eq_some_iff] at hstep
    obtain ⟨old, hold, turn, hturn, hstep⟩ := hstep
    -- what the call of the turn, if there is one, adds
    obtain ⟨hscreens, hawaited⟩ : s'.screens = Function.update s.screens d' turn.screen ∧
        ((turn.call = none ∧ awaited b d s'.service = awaited b d s.service) ∨
          ∃ c ∈ turn.call, awaited b d s'.service =
            awaited b d s.service + if d' = d ∧ b.calls c = true then 1 else 0) := by
      split at hstep
      · rename_i hcall
        cases hstep
        exact ⟨rfl, Or.inl ⟨hcall, rfl⟩⟩
      · rename_i c hcall
        obtain ⟨service, hservice, rfl⟩ := Option.map_eq_some_iff.mp hstep
        exact ⟨rfl, Or.inr ⟨c, hcall, awaited_call hservice⟩⟩
    by_cases hd : d = d'
    · subst hd
      rw [hscreens, Function.update_self] at hscreen'
      exact ⟨old, hold, buttonStep_of_pressed hold (pressed_of_act hturn hscreen')
        (by simpa using hawaited)⟩
    · rw [hscreens, Function.update_of_ne hd] at hscreen'
      refine ⟨screen', hscreen', .kept ?_ rfl ?_⟩
      · exact fun hloses => hd hloses.1.symm
      · have hsame : awaited b d s'.service = awaited b d s.service := by
          rcases hawaited with ⟨-, hsame⟩ | ⟨c, -, hmore⟩
          · exact hsame
          · rw [hmore, if_neg fun hmine => hd hmine.1.symm, Nat.add_zero]
        simp only [owed, hsame]
  | reply n r =>
    simp only [systemStep] at hstep
    obtain ⟨service, hservice, rfl⟩ := Option.map_eq_some_iff.mp hstep
    simp only [bagStep, Option.bind_eq_some_iff] at hservice
    obtain ⟨⟨d', op⟩, hop, hservice⟩ := hservice
    refine ⟨screen', hscreen', ?_⟩
    change s.screens d = some screen' at hscreen'
    rcases awaited_proceed (b := b) (d := d) hop hservice with ⟨hsame, hnot⟩ | ⟨hless, rfl, hends⟩
    · refine .kept ?_ rfl ?_
      · rintro ⟨-, op', hop', hends⟩
        rw [hop, Option.some.injEq, Prod.mk.injEq] at hop'
        obtain ⟨rfl, rfl⟩ := hop'
        exact hnot ⟨rfl, hends⟩
      · simp only [owed, hsame]
    · refine .lostAnswer ⟨by rw [hscreen']; rfl, op, hop, hends⟩ rfl ?_
      simp only [owed]
      omega
  | answer k =>
    simp only [systemStep, Option.bind_eq_some_iff] at hstep
    obtain ⟨⟨d', a⟩, ha, hstep⟩ := hstep
    obtain ⟨service, hservice, rfl⟩ := Option.map_eq_some_iff.mp hstep
    simp only [bagStep] at hservice
    split at hservice
    · cases hservice
      have hless := awaited_handle (b := b) (d := d) ha
      by_cases hd : d = d'
      · subst hd
        simp only [Function.update_self, Option.bind_eq_some_iff] at hscreen'
        obtain ⟨screen, hscreen, hhear⟩ := hscreen'
        exact ⟨screen, hscreen, buttonStep_of_hear hscreen ha hhear (by simpa using hless)⟩
      · simp only [Function.update_of_ne hd] at hscreen'
        refine ⟨screen', hscreen', .kept ?_ rfl ?_⟩
        · rintro ⟨-, -, hmine⟩
          rw [ha, Option.some.injEq, Prod.mk.injEq] at hmine
          exact hd hmine.1.symm
        · rw [if_neg fun hmine => hd hmine.1.symm, Nat.add_zero] at hless
          simp only [owed, hless]
    · cases hservice

/-- The button is owed at most one answer, and none while it is on. -/
def OwedOnce (b : BagButton) (d : D) (s : BagSystem D orderId) : Prop :=
  ∀ screen ∈ s.screens d, owed b d screen s.service ≤ 1 ∧
    (b.enabled screen = true → owed b d screen s.service = 0)

theorem owedOnce_step (h : OwedOnce b d s) {e : SystemEvent D}
    (hstep : systemStep uid s e = some s') : OwedOnce b d s' := by
  intro screen' hscreen'
  obtain ⟨screen, hscreen, hbutton⟩ := buttonStep_of_step (b := b) hstep hscreen'
  obtain ⟨hone, hon⟩ := h screen hscreen
  cases hbutton with
  | kept hnot henabled howed =>
    rw [henabled, howed]
    exact ⟨hone, hon⟩
  | tapped hnot henabled henabled' howed =>
    rw [henabled', howed, hon henabled]
    simp
  | settled hnot henabled' howed =>
    refine ⟨by omega, fun _ => by omega⟩
  | lostTap hloses henabled henabled' howed =>
    rw [howed]
    exact ⟨hone, fun _ => hon henabled⟩
  | lostAnswer hloses henabled howed =>
    refine ⟨by omega, fun _ => by omega⟩

/-- A step that loses a button leaves its screen. -/
theorem isSome_of_loses {e : SystemEvent D} (hloses : Loses uid b d s e)
    (hstep : systemStep uid s e = some s') : (s'.screens d).isSome := by
  cases e with
  | screen d' e =>
    obtain ⟨rfl, screen, hscreen, -, rfl, -⟩ := hloses
    rw [Option.mem_def] at hscreen
    simp only [systemStep, hscreen, Option.bind_some, Screen.act] at hstep
    split at hstep
    · cases hstep
      simp [Screen.quiet]
    · cases hstep
  | reply n r =>
    obtain ⟨service, -, rfl⟩ := Option.map_eq_some_iff.mp hstep
    exact hloses.1
  | answer k =>
    obtain ⟨hscreen, -, ha⟩ := hloses
    obtain ⟨screen, hscreen⟩ := Option.isSome_iff_exists.mp hscreen
    simp only [systemStep, ha, Option.bind_some] at hstep
    obtain ⟨service, -, rfl⟩ := Option.map_eq_some_iff.mp hstep
    simp [hscreen, Screen.hear]

/-- A button that is not stuck is stuck after a step exactly where the step loses it. -/
theorem stuck_step_iff (h : OwedOnce b d s) (hnot : ¬ Stuck b d s) {e : SystemEvent D}
    (hstep : systemStep uid s e = some s') : ¬ Stuck b d s' ↔ ¬ Loses uid b d s e := by
  refine not_congr ⟨?_, fun hloses => ?_⟩
  · rintro ⟨screen', hscreen', hoff, hnone⟩
    obtain ⟨screen, hscreen, hbutton⟩ := buttonStep_of_step (b := b) hstep hscreen'
    cases hbutton with
    | kept hkeeps henabled howed =>
      exact absurd ⟨screen, hscreen, henabled ▸ hoff, howed ▸ hnone⟩ hnot
    | tapped hkeeps henabled henabled' howed => omega
    | settled hkeeps henabled' howed =>
      rw [henabled'] at hoff
      cases hoff
    | lostTap hloses => exact hloses
    | lostAnswer hloses => exact hloses
  · obtain ⟨screen', hscreen'⟩ := Option.isSome_iff_exists.mp (isSome_of_loses hloses hstep)
    obtain ⟨screen, hscreen, hbutton⟩ := buttonStep_of_step (b := b) hstep hscreen'
    obtain ⟨hone, hon⟩ := h screen hscreen
    cases hbutton with
    | kept hkeeps => exact absurd hloses hkeeps
    | tapped hkeeps => exact absurd hloses hkeeps
    | settled hkeeps => exact absurd hloses hkeeps
    | lostTap _ henabled henabled' howed =>
      exact ⟨screen', hscreen', henabled', howed.trans (hon henabled)⟩
    | lostAnswer _ henabled howed =>
      have hoff : b.enabled screen ≠ true := by
        intro henabled
        have hzero := hon henabled
        omega
      refine ⟨screen', hscreen', ?_, by omega⟩
      rw [henabled]
      simpa using hoff

theorem owedOnce_initial (orderId : String) (store : Firestore) :
    OwedOnce b d (BagSystem.initial orderId store) := by
  intro screen hscreen
  cases hscreen
  have hnone : owed b d Screen.initial (BagState.initial orderId store) = 0 := by
    cases b <;> rfl
  exact ⟨by rw [BagSystem.initial, hnone]; exact Nat.zero_le 1, fun _ => hnone⟩

theorem not_stuck_initial (orderId : String) (store : Firestore) :
    ¬ Stuck b d (BagSystem.initial orderId store) := by
  rintro ⟨screen, hscreen, hoff, -⟩
  cases hscreen
  cases b <;> cases hoff

/-- A screen that is gone does not come back. -/
theorem dead_of_step (h : s.screens d = none) {e : SystemEvent D}
    (hstep : systemStep uid s e = some s') : s'.screens d = none := by
  by_contra hscreen'
  obtain ⟨screen', hscreen'⟩ := Option.ne_none_iff_exists'.mp hscreen'
  obtain ⟨screen, hscreen, -⟩ := buttonStep_of_step (b := .clear) hstep hscreen'
  rw [h] at hscreen
  cases hscreen

/-- A stuck button stays stuck, unless its app goes down. -/
theorem stuck_of_step (h : Stuck b d s) {e : SystemEvent D} (hstep : systemStep uid s e = some s') :
    s'.screens d = none ∨ Stuck b d s' := by
  cases hscreen' : s'.screens d with
  | none => exact Or.inl rfl
  | some screen' =>
    obtain ⟨screen, hscreen, hbutton⟩ := buttonStep_of_step (b := b) hstep hscreen'
    obtain ⟨_, hsame, hoff, hnone⟩ := h
    rw [hscreen] at hsame
    cases hsame
    refine Or.inr ⟨screen', hscreen', ?_⟩
    cases hbutton with
    | kept _ henabled howed => exact ⟨henabled.trans hoff, howed.trans hnone⟩
    | tapped _ henabled =>
      rw [henabled] at hoff
      cases hoff
    | settled _ _ howed => omega
    | lostTap _ henabled =>
      rw [henabled] at hoff
      cases hoff
    | lostAnswer _ _ howed => omega

end

/-- **When a button gets stuck.**  In every run of any number of devices, a button is never
stuck exactly when no step loses it. -/
theorem never_stuck_iff {D : Type} [DecidableEq D] (uid orderId : String) (store : Firestore)
    (b : BagButton) (d : D) {t : BagSystem D orderId} {es : List (SystemEvent D)}
    (hrun : run (systemStep uid) (BagSystem.initial orderId store) es = some t) :
    (∀ k s, run (systemStep uid) (BagSystem.initial orderId store) (es.take k) = some s →
        ¬ Stuck b d s) ↔
      Along (systemStep uid) (fun s e => ¬ Loses uid b d s e) (BagSystem.initial orderId store)
        es :=
  always_iff_along (OwedOnce b d) (fun s => ¬ Stuck b d s)
    (fun _ _ _ h hstep => owedOnce_step h hstep)
    (fun _ _ _ h hnot hstep => stuck_step_iff h hnot hstep)
    (owedOnce_initial orderId store) (not_stuck_initial orderId store) hrun

/-- Soup is added, in vain; the bag, shown as filled, is pulled up, and "Clear bag" tapped. -/
def clearedInVain : List (SystemEvent Unit) :=
  soupSelected ++ [.screen () .addToOrder, .screen () (.curtain .mid), .screen () .clearOrder]

theorem clearedInVain_runs :
    ∃ t, run (systemStep "uid") (BagSystem.initial "bag" accountStore) clearedInVain = some t ∧
      Stuck .clear () t := by
  have hsome : (run (systemStep "uid") (BagSystem.initial "bag" accountStore)
      clearedInVain).isSome := by decide +kernel
  obtain ⟨t, ht⟩ := Option.isSome_iff_exists.mp hsome
  have hscreen : ∀ t ∈ run (systemStep "uid") (BagSystem.initial "bag" accountStore)
      clearedInVain, ∃ screen ∈ t.screens (), screen.clearEnabled = false ∧
        owed .clear () screen t.service = 0 := by decide +kernel
  exact ⟨t, ht, hscreen t ht⟩

/-- Somewhere in that run a step loses the button: the last one. -/
theorem never_stuck_cleared : ¬ Along (systemStep "uid")
    (fun s e => ¬ Loses "uid" .clear () s e) (BagSystem.initial "bag" accountStore)
    clearedInVain := by
  obtain ⟨t, ht, hstuck⟩ := clearedInVain_runs
  intro halong
  exact (never_stuck_iff "uid" "bag" accountStore .clear () ht).mpr halong clearedInVain.length t
    (by rwa [List.take_length]) hstuck

/-- **A button that is stuck stays so**: for the rest of every run, or until its app goes down,
it is off, owed nothing, and no tap on it happens. -/
theorem stuck_forever {D : Type} [DecidableEq D] {uid orderId : String} {b : BagButton} {d : D}
    {s t : BagSystem D orderId} (hstuck : Stuck b d s) {es : List (SystemEvent D)}
    (hrun : run (systemStep uid) s es = some t) :
    (t.screens d = none ∨ Stuck b d t) ∧ systemStep uid t (.screen d b.tap) = none := by
  have hinv : t.screens d = none ∨ Stuck b d t := by
    refine run_invariant (fun s => s.screens d = none ∨ Stuck b d s) ?_ (Or.inr hstuck) hrun
    rintro s e s' (hdead | hstuck) hstep
    · exact Or.inl (dead_of_step hdead hstep)
    · exact stuck_of_step hstuck hstep
  refine ⟨hinv, ?_⟩
  rcases hinv with hdead | ⟨screen, hscreen, hoff, -⟩
  · simp only [systemStep, hdead, Option.bind_none]
  · rw [Option.mem_def] at hscreen
    have hnone : screen.act uid t.service.store b.tap = none := by
      cases b with
      | clear => exact if_neg fun hon => by simp [BagButton.enabled, hon.2.1] at hoff
      | proceed => exact if_neg fun hon => by simp [BagButton.enabled, hon.2.1] at hoff
    simp only [systemStep, hscreen, hnone, Option.bind_some, Option.bind_none]

/-- The bag is pushed down, and refreshed from its title. -/
theorem stuck_forever_cleared : ∃ t, run (systemStep "uid")
      (BagSystem.initial "bag" accountStore) (clearedInVain ++ [.screen () (.curtain .min),
        .screen () .fetchData, .screen () (.userFetched true), .screen () (.curtain .max)]) =
        some t ∧ (t.screens () = none ∨ Stuck .clear () t) ∧
      systemStep "uid" t (.screen () .clearOrder) = none := by
  have hsome : (run (systemStep "uid") (BagSystem.initial "bag" accountStore)
      (clearedInVain ++ [.screen () (.curtain .min), .screen () .fetchData,
        .screen () (.userFetched true), .screen () (.curtain .max)])).isSome := by decide +kernel
  obtain ⟨t, ht⟩ := Option.isSome_iff_exists.mp hsome
  obtain ⟨s, hs, hrest⟩ := (run_append_iff _).mp ht
  obtain ⟨s', hs', hstuck⟩ := clearedInVain_runs
  rw [hs, Option.some.injEq] at hs'
  subst hs'
  exact ⟨t, ht, stuck_forever hstuck hrest⟩

end Lidora
