import Lidora.DroppedTaps

/-! # What the add button says

The button of `OverView` reads "Add 2 to bag - $20.0": a quantity and an amount.  Its title
is written by three handlers.  `increment` writes the stepper's value and the price times
it, `addToOrder` writes one and the price after it has set the stepper back to one, and
`updateViews`, which runs when a dish is selected, writes the stepper's value and the plain
price.  The stepper keeps its value when another dish is selected, so the third title is
wrong whenever the stepper stands at two or more (`three_at_the_price_of_one`).

`increment` is attached to `.touchUpInside` and not to `.valueChanged`: a stepper that is
held counts on, and when the finger leaves it before it is lifted the title stays as it
was.

The title announces what a tap would post, all along a run of the screen, exactly when no
step is of one of these two kinds (`announces_iff`).  Left out: how a `Double` is printed.
-/
namespace Lidora
open DocumentStore Runs

/-- The screen, and the quantity and the amount on the button; `none` is the title
"Add to bag" of `setupViews`. -/
structure ButtonScreen where
  screen : Screen
  title : Option (ℕ × ℚ)

/-- What happens to one screen, as far as the button can tell. -/
inductive ButtonEvent where
  /-- The customer or a snapshot, over the store as it is then. -/
  | screen (uid : String) (store : Firestore) (e : ScreenEvent)
  /-- A call is answered. -/
  | hear (answer : Answer)
  /-- The stepper changes, and the finger is lifted outside. -/
  | stepOutside (value : ℕ)

/-- The title that `increment` writes, with the stepper at `quantity`. -/
def OverView.increment (v : OverView) (quantity : ℕ) (title : Option (ℕ × ℚ)) :
    Option (ℕ × ℚ) :=
  match v.menu.bind Menu.price with
  | none => title
  | some price => some (quantity, price * quantity)

/-- The title that `OverView.addToOrder` leaves. -/
def OverView.titleAdded (v : OverView) (title : Option (ℕ × ℚ)) : Option (ℕ × ℚ) :=
  match v.menu with
  | none => title
  | some item => if Screen.otherChef v then title else some (1, item.price.getD 0)

/-- The title that `updateViews` writes for the dish. -/
def OverView.updateViews (v : OverView) (menu : Menu) : Option (ℕ × ℚ) :=
  some (v.stepper, menu.price.getD 0)

/-- The title after an event on the screen. -/
def ButtonScreen.titleAfter (s : ButtonScreen) : ScreenEvent → Option (ℕ × ℚ)
  | .didSelect menu _ _ => s.screen.overView.updateViews menu
  | .stepTo value => s.screen.overView.increment value s.title
  | .addToOrder => s.screen.overView.titleAdded s.title
  | _ => s.title

/-- One step of a screen with its button, while the app has not trapped. -/
def buttonStep (s : ButtonScreen) : ButtonEvent → Option ButtonScreen
  | .screen uid store e =>
    (s.screen.act uid store e).bind fun turn =>
      turn.screen.map fun screen => ⟨screen, s.titleAfter e⟩
  | .hear answer => (s.screen.hear answer).map fun screen => ⟨screen, s.title⟩
  | .stepOutside value =>
    if s.screen.hidden.overView = false ∧ 1 ≤ value ∧ value ≤ 100 then
      some { s with screen.overView.stepper := value }
    else none

/-- The screen after `viewDidLoad`. -/
def ButtonScreen.initial : ButtonScreen := ⟨Screen.initial, none⟩

/-- Of the dish on show, if it has a price, the button announces the stepper's value and the
price times it. -/
def ButtonScreen.Announces (s : ButtonScreen) : Prop :=
  ∀ price ∈ s.screen.overView.menu.bind Menu.price,
    s.title = some (s.screen.overView.stepper, price * s.screen.overView.stepper)

/-- A dish is selected with the stepper at one, or is free; and the stepper does not change
under a finger that leaves it. -/
def ButtonScreen.KeepsTitle (s : ButtonScreen) : ButtonEvent → Prop
  | .screen _ _ (.didSelect menu _ _) =>
    ∀ price ∈ menu.price, s.screen.overView.stepper = 1 ∨ price = 0
  | .stepOutside value =>
    ∀ _price ∈ s.screen.overView.menu.bind Menu.price, value = s.screen.overView.stepper
  | _ => True

/-- **What is announced is what a tap posts**: its quantity and its total. -/
theorem ButtonScreen.Announces.posted {s : ButtonScreen} (h : s.Announces) {item : Menu}
    {quantity : ℤ} {total : ℚ} (hposted : s.screen.posted = some (item, quantity, total)) :
    ∃ n : ℕ, quantity = n ∧ s.title = some (n, total) := by
  unfold Screen.posted at hposted
  split at hposted
  · cases hposted
  · rename_i item' hmenu
    split at hposted
    · cases hposted
    · obtain ⟨price, hprice, hnotice⟩ := Option.map_eq_some_iff.mp hposted
      cases hnotice
      refine ⟨s.screen.overView.stepper, rfl, h price ?_⟩
      rw [hmenu]
      exact hprice

/-! ## The events that leave the dish and the stepper alone -/

namespace Screen

/-- The dish on show and the stepper. -/
def offer (s : Screen) : Option Menu × ℕ := (s.overView.menu, s.overView.stepper)

@[simp] theorem offer_setCardState (s : Screen) (state : CardState) :
    (s.setCardState state).offer = s.offer := by
  cases state <;> rfl

@[simp] theorem offer_fetchOrder (s : Screen) : s.fetchOrder.offer = s.offer := by
  unfold fetchOrder
  split <;> rfl

@[simp] theorem offer_fetchPrimaryCard (s : Screen) : s.fetchPrimaryCard.offer = s.offer := by
  unfold fetchPrimaryCard
  split <;> rfl

theorem offer_userFetched (s : Screen) (uid : String) (snapshot : Option Doc) :
    (s.userFetched uid snapshot).offer = s.offer := by
  unfold userFetched
  cases snapshot with
  | none => rfl
  | some data =>
    simp only [offer_fetchPrimaryCard, offer_fetchOrder]
    rfl

theorem offer_cardFetched (s : Screen) (k : ℕ) (id : String) (snapshot : Option Doc) :
    (s.cardFetched k id snapshot).offer = s.offer := by
  unfold cardFetched
  cases snapshot <;> rfl

theorem offer_orderSnapshot (s : Screen) (id : String) (snapshot : Option Doc) :
    (s.orderSnapshot id snapshot).offer = s.offer := by
  unfold orderSnapshot
  cases snapshot with
  | none => exact offer_setCardState s .none
  | some d => rfl

theorem offer_receive {s s' : Screen} {order : Order} {menu : Menu}
    (h : s.receive order menu = some s') : s'.offer = s.offer := by
  unfold receive at h
  split at h
  · cases h
    rfl
  · cases h

theorem offer_itemsSnapshot {order : Order} {items : List (String × Doc)} {s s' : Screen}
    (h : s.itemsSnapshot order items = some s') : s'.offer = s.offer :=
  itemsSnapshot_keeps Screen.offer (fun _ _ _ => offer_receive) h

@[simp] theorem offer_curtain (s : Screen) (height : CurtainHeight) :
    (s.curtain height).offer = s.offer := by
  unfold curtain
  cases height <;> simp only <;> split <;> split <;> rfl

@[simp] theorem offer_tapClearOrder (s : Screen) : s.tapClearOrder.offer = s.offer := by
  unfold tapClearOrder
  simp only
  split <;> rfl

theorem offer_tapPlaceOrder {s s' : Screen} (h : s' ∈ s.tapPlaceOrder.screen) :
    s'.offer = s.offer := by
  unfold tapPlaceOrder at h
  simp only at h
  split at h <;> cases h <;> rfl

theorem offer_hear {s s' : Screen} {a : Answer} (h : s.hear a = some s') :
    s'.offer = s.offer := by
  unfold hear at h
  split at h <;> cases h <;> first | rfl | exact offer_fetchOrder s

/-! ## The events that do not -/

theorem offer_didSelect {s s' : Screen} {menu : Menu} {chef : Option Chef} {front : Bool}
    (h : s.didSelect menu chef front = some s') :
    s'.offer = (some menu, s.overView.stepper) := by
  unfold didSelect at h
  split at h
  · cases h
  · simp only at h
    split at h <;> cases h <;> rfl

theorem addToOrder_screen (s : Screen) (item : Menu) (quantity : ℤ) (total : ℚ) :
    (s.addToOrder item quantity total).screen = some (s.setCardState .notEmpty) := by
  unfold addToOrder
  simp only
  split <;> rfl

/-- A tap leaves the dish and the stepper as they were, or posts the dish and sets the
stepper to one. -/
theorem tapAddToOrder_cases {s s' : Screen} (h : s' ∈ s.tapAddToOrder.screen) :
    s'.offer = s.offer ∧ (s.overView.menu = none ∨ otherChef s.overView) ∨
      s'.offer = (s.overView.menu, 1) ∧ ¬ otherChef s.overView ∧
        (s.overView.menu.bind Menu.price).isSome := by
  unfold tapAddToOrder at h
  split at h
  · cases h
    exact Or.inl ⟨rfl, Or.inl ‹_›⟩
  · rename_i item hmenu
    split at h
    · cases h
      exact Or.inl ⟨rfl, Or.inr ‹_›⟩
    · rename_i hother
      split at h
      · cases h
      · rename_i price hprice
        obtain ⟨s₁, hs₁, rfl⟩ := Option.map_eq_some_iff.mp h
        cases (addToOrder_screen ..).symm.trans hs₁
        refine Or.inr ⟨rfl, hother, ?_⟩
        rw [hmenu, Option.bind_some, hprice]
        rfl

/-- The events that write no title leave the dish and the stepper alone. -/
theorem offer_act {uid : String} {store : Firestore} {s s' : Screen} {e : ScreenEvent}
    (h : s.Acts uid store e s') (hselect : ∀ menu chef front, e ≠ .didSelect menu chef front)
    (hstep : ∀ value, e ≠ .stepTo value) (htap : e ≠ .addToOrder) : s'.offer = s.offer := by
  cases h with
  | fetchData => rfl
  | userFetched => exact offer_userFetched s uid _
  | cardFetched k id => exact offer_cardFetched s k id _
  | orderSnapshot hlistener => exact offer_orderSnapshot s _ _
  | itemsSnapshot hlistener h => exact offer_itemsSnapshot h
  | orderFailed k => exact offer_setCardState s .none
  | itemsFailed k => exact offer_setCardState s .none
  | curtain height => exact offer_curtain s height
  | didSelect h => exact absurd rfl (hselect _ _ _)
  | stepTo value => exact absurd rfl (hstep value)
  | addToOrder h => exact absurd rfl htap
  | clearOrder => exact offer_tapClearOrder s
  | placeOrder h => exact offer_tapPlaceOrder h
  -- what is left does not touch the view
  | _ => rfl

end Screen

/-! ## Runs -/

namespace ButtonScreen
variable {s s' : ButtonScreen}

theorem announces_iff_of_offer {menu : Option Menu} {quantity : ℕ}
    (h : s.screen.offer = (menu, quantity)) :
    s.Announces ↔
      ∀ price ∈ menu.bind Menu.price, s.title = some (quantity, price * quantity) := by
  obtain ⟨rfl, rfl⟩ := Prod.mk.inj h
  exact Iff.rfl

/-- What leaves the dish, the stepper and the title alone leaves the title right. -/
theorem announces_of_offer (h : s.Announces) (hoffer : s'.screen.offer = s.screen.offer)
    (htitle : s'.title = s.title) : s'.Announces := by
  rw [announces_iff_of_offer hoffer, htitle]
  exact h

/-- A dish is selected: its plain price is right for one of it, or for nothing. -/
theorem announces_select {menu : Menu} (hoffer : s'.screen.offer =
      (some menu, s.screen.overView.stepper))
    (htitle : s'.title = s.screen.overView.updateViews menu) :
    s'.Announces ↔ ∀ price ∈ menu.price, s.screen.overView.stepper = 1 ∨ price = 0 := by
  rw [announces_iff_of_offer hoffer, htitle]
  refine forall_congr' fun price => forall_congr' fun hprice => ?_
  have hprice' : menu.price = some price := hprice
  simp only [OverView.updateViews, hprice', Option.getD_some, Option.some.injEq, Prod.mk.injEq,
    true_and]
  constructor
  · intro h
    by_cases hzero : price = 0
    · exact Or.inr hzero
    · have hone : (s.screen.overView.stepper : ℚ) = 1 :=
        mul_left_cancel₀ hzero (by rw [← h, mul_one])
      exact Or.inl (Nat.cast_eq_one.mp hone)
  · rintro (h | rfl)
    · rw [h, Nat.cast_one, mul_one]
    · rw [zero_mul]

/-- `increment` is right for whatever the stepper says. -/
theorem announces_increment {value : ℕ}
    (hoffer : s'.screen.offer = (s.screen.overView.menu, value))
    (htitle : s'.title = s.screen.overView.increment value s.title) : s'.Announces := by
  rw [announces_iff_of_offer hoffer, htitle]
  intro price hprice
  have hprice' : s.screen.overView.menu.bind Menu.price = some price := hprice
  rw [OverView.increment, hprice']

/-- A tap leaves everything alone, or posts and starts again at one. -/
theorem announces_tap (h : s.Announces) (hs' : s'.screen ∈ s.screen.tapAddToOrder.screen)
    (htitle : s'.title = s.screen.overView.titleAdded s.title) : s'.Announces := by
  rcases Screen.tapAddToOrder_cases hs' with ⟨hoffer, hnone⟩ | ⟨hoffer, hother, hsome⟩
  · refine announces_of_offer h hoffer (htitle.trans ?_)
    unfold OverView.titleAdded
    rcases hnone with hnone | hother
    · rw [hnone]
    · cases s.screen.overView.menu with
      | none => rfl
      | some item => exact if_pos hother
  · rw [announces_iff_of_offer hoffer, htitle]
    intro price hprice
    obtain ⟨item, hitem, hprice⟩ := Option.bind_eq_some_iff.mp hprice
    simp only [OverView.titleAdded, hitem, if_neg hother, hprice]
    norm_num

/-- **One step keeps the title right** exactly when it is neither of the two that do not. -/
theorem announces_step {e : ButtonEvent} (hg : s.Announces) (h : buttonStep s e = some s') :
    s'.Announces ↔ s.KeepsTitle e := by
  cases e with
  | screen uid store e =>
    obtain ⟨turn, hturn, h⟩ := Option.bind_eq_some_iff.mp h
    obtain ⟨screen, hscreen, rfl⟩ := Option.map_eq_some_iff.mp h
    have hacts := Screen.act_cases hturn hscreen
    cases e with
    | didSelect menu chef front =>
      cases hacts with
      | didSelect hselect => exact announces_select (Screen.offer_didSelect hselect) rfl
    | stepTo value =>
      cases hacts with
      | stepTo => exact iff_of_true (announces_increment (s := s) rfl rfl) trivial
    | addToOrder =>
      cases hacts with
      | addToOrder htap => exact iff_of_true (announces_tap hg htap rfl) trivial
    | _ =>
      refine iff_of_true (announces_of_offer hg (Screen.offer_act hacts ?_ ?_ ?_) rfl) trivial
      · simp
      · simp
      · simp
  | hear answer =>
    obtain ⟨screen, hscreen, rfl⟩ := Option.map_eq_some_iff.mp h
    exact iff_of_true (announces_of_offer hg (Screen.offer_hear hscreen) rfl) trivial
  | stepOutside value =>
    simp only [buttonStep] at h
    split at h
    · cases h
      -- the title still has the stepper's old value
      refine forall_congr' fun price => forall_congr' fun hprice => ?_
      rw [hg price hprice, Option.some.injEq, Prod.mk.injEq]
      constructor
      · intro heq
        exact heq.1.symm
      · intro heq
        rw [heq]
        exact ⟨rfl, rfl⟩
    · cases h

end ButtonScreen

/-- **When the button tells the truth.**  In every run of the screen, from `viewDidLoad` on:
the title announces, in every state, the quantity and the total of the dish on show if and
only if no dish with a price is selected while the stepper stands elsewhere than at one,
and the stepper is never left by the finger that changes it. -/
theorem announces_iff {es : List ButtonEvent} {t : ButtonScreen}
    (h : run buttonStep ButtonScreen.initial es = some t) :
    (∀ k s, run buttonStep ButtonScreen.initial (es.take k) = some s → s.Announces) ↔
      Along buttonStep ButtonScreen.KeepsTitle ButtonScreen.initial es := by
  refine always_iff_along (fun _ => True) ButtonScreen.Announces (fun _ _ _ _ _ => trivial)
    (fun s e s' _ hg he => ButtonScreen.announces_step hg he) trivial ?_ h
  intro price hprice
  cases hprice

/-! ## Three at the price of one -/

/-- A dish is selected. -/
def selects (dish : Menu) : ButtonEvent :=
  .screen "uid" accountStore (.didSelect dish (some (sampleChef "ana")) true)

/-- Soup is selected and the stepper goes to three; then bread is selected. -/
def threeThenBread : List ButtonEvent :=
  [selects (sampleDish "soup" 10), .screen "uid" accountStore (.stepTo 3),
    selects (sampleDish "bread" 5)]

/-- Soup is selected and posted three times over, then bread is selected: the tap has set
the stepper back. -/
def threePosted : List ButtonEvent :=
  [selects (sampleDish "soup" 10), .screen "uid" accountStore (.stepTo 3),
    .screen "uid" accountStore .addToOrder, selects (sampleDish "bread" 5)]

theorem announces_iff_posted :
    ∃ t, run buttonStep ButtonScreen.initial threePosted = some t ∧
      ((∀ k s, run buttonStep ButtonScreen.initial (threePosted.take k) = some s →
        s.Announces) ↔
        Along buttonStep ButtonScreen.KeepsTitle ButtonScreen.initial threePosted) := by
  have hsome : (run buttonStep ButtonScreen.initial threePosted).isSome := by decide +kernel
  obtain ⟨t, ht⟩ := Option.isSome_iff_exists.mp hsome
  exact ⟨t, ht, announces_iff ht⟩

/-- **Three at the price of one.**  The button says "Add 3 to bag - $5.0", and the tap posts
three loaves for fifteen dollars. -/
theorem three_at_the_price_of_one :
    ∃ t, run buttonStep ButtonScreen.initial threeThenBread = some t ∧
      t.title = some (3, 5) ∧ t.screen.posted = some (sampleDish "bread" 5, 3, 15) ∧
      ¬ t.Announces := by
  have hsome : (run buttonStep ButtonScreen.initial threeThenBread).isSome := by decide +kernel
  obtain ⟨t, ht⟩ := Option.isSome_iff_exists.mp hsome
  have hfacts : (run buttonStep ButtonScreen.initial threeThenBread).map (fun t =>
      decide (t.title = some (3, 5) ∧
        t.screen.posted = some (sampleDish "bread" 5, 3, 15))) = some true := by decide +kernel
  rw [ht, Option.map_some] at hfacts
  obtain ⟨htitle, hposted⟩ := of_decide_eq_true (Option.some.inj hfacts)
  refine ⟨t, ht, htitle, hposted, fun hg => ?_⟩
  obtain ⟨n, -, htitle'⟩ := hg.posted hposted
  rw [htitle] at htitle'
  obtain ⟨-, hamount⟩ := Prod.mk.inj (Option.some.inj htitle')
  norm_num at hamount

end Lidora
