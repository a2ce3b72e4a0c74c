import Lidora.BagScreen
import Lidora.OneShots
import Lidora.OrderTotals

/-! # Taps on "Add to bag"

`OverView` posts a notification with an item, a quantity and a total.  The handler,
`CardViewController.addToOrder`, first shows the bag as filled and then needs a chef and
the `order_id` of the customer, and without one of them it does nothing.

The customer's document is made by `createAccount`, which writes a name and a phone
number.  Nothing that the app or its functions write has an `order_id`.  So the handler
never gets past its guard (`no_tap_delivers`): every notification is dropped, in every run
of any number of devices, whatever the refreshes and the selections between the taps.
-/
namespace Lidora
open DocumentStore Runs

/-- The document holds no `order_id`. -/
def NoOrderId (document : Option Doc) : Prop := ∀ d ∈ document, d.string "order_id" = none

/-- The notification that a tap on "Add to bag" posts: the item, the quantity and the
total, past the guards of `OverView.addToOrder`. -/
def Screen.posted (s : Screen) : Option (Menu × ℤ × ℚ) :=
  match s.overView.menu with
  | none => none
  | some item =>
    if Screen.otherChef s.overView then none
    else item.price.map fun price => (item, (s.overView.stepper : ℤ), price * s.overView.stepper)

/-- The tap leads to one call with the values of its notification, on the customer's
order, or to a message. -/
def Delivered (s : Screen) (turn : Turn) (n : Menu × ℤ × ℚ) : Prop :=
  (∃ chef bagId, s.user.bind User.orderId = some bagId ∧
    turn.call = some (.addItemToOrder ⟨bagId, chef, n.1, n.2.1, n.2.2⟩)) ∨
  ∃ s' ∈ turn.screen, s'.messages ≠ s.messages

section
variable {D : Type} [DecidableEq D] {orderId : String}

/-- The notification posted by the event, if it is a tap on "Add to bag". -/
def postedAt (s : BagSystem D orderId) : SystemEvent D → Option (Screen × Menu × ℤ × ℚ)
  | .screen d .addToOrder =>
    (s.screens d).bind fun screen =>
      if screen.hidden.overView = false then screen.posted.map fun n => (screen, n) else none
  | _ => none

/-- No notification is dropped: the event posts none, or delivers it. -/
def Delivers (s : BagSystem D orderId) (e : SystemEvent D) : Prop :=
  ∀ n ∈ postedAt s e, Delivered n.1 n.1.tapAddToOrder n.2

/-- Nobody has an `order_id`: the customer's document has none, and no screen does. -/
structure NoOrderIds (uid : String) (s : BagSystem D orderId) : Prop where
  stored : NoOrderId (s.service.store.lookup (refCurrentUser uid))
  shown : ∀ d, ∀ screen ∈ s.screens d, screen.user.bind User.orderId = none

end

/-! ## The handler -/

namespace Screen

@[simp] theorem user_setCardState (s : Screen) (state : CardState) :
    (s.setCardState state).user = s.user := by
  cases state <;> rfl

@[simp] theorem chef_setCardState (s : Screen) (state : CardState) :
    (s.setCardState state).chef = s.chef := by
  cases state <;> rfl

@[simp] theorem messages_setCardState (s : Screen) (state : CardState) :
    (s.setCardState state).messages = s.messages := by
  cases state <;> rfl

@[simp] theorem user_fetchOrder (s : Screen) : s.fetchOrder.user = s.user := by
  unfold fetchOrder
  split <;> rfl

@[simp] theorem user_fetchPrimaryCard (s : Screen) : s.fetchPrimaryCard.user = s.user := by
  unfold fetchPrimaryCard
  split <;> rfl

/-- **When a tap is delivered**: exactly when the screen has a chef, and its user an
order. -/
theorem delivered_iff {s : Screen} {n : Menu × ℤ × ℚ} (h : s.posted = some n) :
    Delivered s s.tapAddToOrder n ↔ s.chef.isSome ∧ (s.user.bind User.orderId).isSome := by
  unfold posted at h
  split at h
  · cases h
  · rename_i item hmenu
    split at h
    · cases h
    · rename_i hother
      obtain ⟨price, hprice, rfl⟩ := Option.map_eq_some_iff.mp h
      have htap : s.tapAddToOrder =
          { s.addToOrder item s.overView.stepper (price * s.overView.stepper) with
            screen := (s.addToOrder item s.overView.stepper
              (price * s.overView.stepper)).screen.map fun s =>
                { s with overView := { s.overView with stepper := 1 } } } := by
        simp only [tapAddToOrder, hmenu, if_neg hother, hprice]
      rw [htap]
      simp only [Delivered, addToOrder, chef_setCardState, user_setCardState]
      cases hchef : s.chef with
      | none => simp [quiet]
      | some chef =>
        cases huser : s.user.bind User.orderId with
        | none => simp [quiet]
        | some bagId => simp

/-! ## Where a screen's user comes from -/

theorem user_receive {s s' : Screen} {order : Order} {menu : Menu}
    (h : s.receive order menu = some s') : s'.user = s.user := by
  unfold receive at h
  split at h
  · cases h
    simp
  · cases h

/-- What every completion of a snapshot of the items leaves alone, the snapshot does. -/
theorem itemsSnapshot_keeps {α : Type} (f : Screen → α) {order : Order}
    (hreceive : ∀ (s s' : Screen) (menu : Menu), s.receive order menu = some s' → f s' = f s)
    {items : List (String × Doc)} {s s' : Screen} (h : s.itemsSnapshot order items = some s') :
    f s' = f s := by
  induction items generalizing s with
  | nil =>
    cases h
    rfl
  | cons item items ih =>
    simp only [itemsSnapshot, List.foldlM_cons, Option.bind_eq_bind, Option.bind_eq_some_iff] at h
    obtain ⟨s₁, h₁, h⟩ := h
    exact (ih h).trans (hreceive _ _ _ h₁)

theorem user_itemsSnapshot {order : Order} {items : List (String × Doc)} {s s' : Screen}
    (h : s.itemsSnapshot order items = some s') : s'.user = s.user :=
  itemsSnapshot_keeps Screen.user (fun _ _ _ => user_receive) h

@[simp] theorem user_curtain (s : Screen) (height : CurtainHeight) :
    (s.curtain height).user = s.user := by
  unfold curtain
  cases height <;> simp only <;> split <;> split <;> simp

theorem user_didSelect {s s' : Screen} {menu : Menu} {chef : Option Chef} {front : Bool}
    (h : s.didSelect menu chef front = some s') : s'.user = s.user := by
  unfold didSelect at h
  split at h
  · cases h
  · simp only at h
    split at h <;> cases h <;> simp

@[simp] theorem user_tapClearOrder (s : Screen) : s.tapClearOrder.user = s.user := by
  unfold tapClearOrder
  simp only
  split <;> rfl

theorem user_tapPlaceOrder {s s' : Screen} (h : s' ∈ s.tapPlaceOrder.screen) :
    s'.user = s.user := by
  unfold tapPlaceOrder at h
  simp only at h
  split at h <;> cases h <;> rfl

theorem user_addToOrder {s s' : Screen} {item : Menu} {quantity : ℤ} {total : ℚ}
    (h : s' ∈ (s.addToOrder item quantity total).screen) : s'.user = s.user := by
  unfold addToOrder at h
  simp only at h
  split at h <;> cases h <;> simp

theorem user_tapAddToOrder {s s' : Screen} (h : s' ∈ s.tapAddToOrder.screen) :
    s'.user = s.user := by
  unfold tapAddToOrder at h
  split at h
  · cases h
    rfl
  · split at h
    · cases h
      rfl
    · split at h
      · cases h
      · obtain ⟨s₁, hs₁, rfl⟩ := Option.map_eq_some_iff.mp h
        have huser : s₁.user = s.user := user_addToOrder hs₁
        exact huser

theorem user_hear {s s' : Screen} {a : Answer} (h : s.hear a = some s') : s'.user = s.user := by
  unfold hear at h
  split at h <;> cases h <;> simp [emptied]

theorem user_userFetched (s : Screen) (uid : String) (snapshot : Option Doc) :
    (s.userFetched uid snapshot).user = s.user ∨
      ∃ d, snapshot = some d ∧ (s.userFetched uid snapshot).user = some (User.init uid d) := by
  unfold userFetched
  cases snapshot with
  | none => exact Or.inl rfl
  | some d => exact Or.inr ⟨d, rfl, by simp⟩

theorem user_cardFetched (s : Screen) (k : ℕ) (id : String) (snapshot : Option Doc) :
    (s.cardFetched k id snapshot).user = s.user := by
  unfold cardFetched
  cases snapshot <;> rfl

theorem user_orderSnapshot (s : Screen) (id : String) (snapshot : Option Doc) :
    (s.orderSnapshot id snapshot).user = s.user := by
  unfold orderSnapshot
  cases snapshot with
  | none => exact user_setCardState s .none
  | some d => rfl

/-- **A screen's user is none, the one it had, or the stored one.** -/
theorem user_act {uid : String} {store : Firestore} {s s' : Screen} {e : ScreenEvent} {turn : Turn}
    (h : s.act uid store e = some turn) (hs : s' ∈ turn.screen) :
    s'.user = s.user ∨ s'.user = none ∨
      ∃ d, store.lookup (refCurrentUser uid) = some d ∧ s'.user = some (User.init uid d) := by
  cases act_cases h hs with
  | fetchData => exact Or.inr (Or.inl rfl)
  | userFetched => exact (user_userFetched s uid _).imp_right Or.inr
  | cardFetched k id => exact Or.inl (user_cardFetched s k id _)
  | orderSnapshot hlistener => exact Or.inl (user_orderSnapshot s _ _)
  | itemsSnapshot hlistener h => exact Or.inl (user_itemsSnapshot h)
  | orderFailed k => exact Or.inl (user_setCardState s .none)
  | itemsFailed k => exact Or.inl (user_setCardState s .none)
  | curtain height => exact Or.inl (user_curtain s height)
  | didSelect h => exact Or.inl (user_didSelect h)
  | addToOrder h => exact Or.inl (user_tapAddToOrder h)
  | clearOrder => exact Or.inl (user_tapClearOrder s)
  | placeOrder h => exact Or.inl (user_tapPlaceOrder h)
  -- what is left does not touch the user
  | _ => exact Or.inl rfl

end Screen

/-! ## Runs -/

section
variable {D : Type} [DecidableEq D] {uid orderId : String} {s s' : BagSystem D orderId}

omit [DecidableEq D] in
/-- No operation on the bag writes the customer's document. -/
theorem customer_bagStep {b b' : BagState D orderId} {e : BagEvent D}
    (hstep : bagStep uid b e = some b') :
    b'.store.lookup (refCurrentUser uid) = b.store.lookup (refCurrentUser uid) ∨
      b'.store.lookup (refCurrentUser uid) = none := by
  have hdelete : ∀ (p : Path) (ok : Bool),
      (b.delete p ok).store.lookup (refCurrentUser uid) = b.store.lookup (refCurrentUser uid) ∨
        (b.delete p ok).store.lookup (refCurrentUser uid) = none := by
    intro p ok
    rw [BagState.delete_store]
    split
    · by_cases hp : refCurrentUser uid = p
      · rw [← hp]
        exact Or.inr (Finmap.lookup_erase _ _)
      · exact Or.inl (Finmap.lookup_erase_ne hp)
    · exact Or.inl rfl
  rcases bagStep_cases hstep with ⟨d, c, -, rfl | ⟨op, rfl, -⟩⟩ | ⟨n, r, d, op, -, -, hmoved⟩ |
    ⟨k, -, rfl⟩
  · exact Or.inl rfl
  · exact Or.inl rfl
  · cases hmoved with
    | ended answers hcommit hwritten hclear => exact Or.inl rfl
    | committed hadd =>
      refine Or.inl (lookup_of_completed_off hadd ?_ ?_)
      · simp [orderRef, refOrders]
      · simp [itemRef, itemsRef, orderRef, refOrders]
    | queried => exact Or.inl rfl
    | deletedItem item items ok => exact hdelete item ok
    | deletedOrder ok => exact hdelete _ ok
    | read created hread => exact Or.inl rfl
    | token hnew => exact Or.inl rfl
    | paid c token created covers =>
      have hne : refCurrentUser uid ≠ paymentRef uid token := by simp [paymentRef, refPayments]
      exact Or.inl (Finmap.lookup_insert_of_ne _ hne)
  · exact Or.inl rfl

/-- The same of a step of the whole system. -/
theorem customer_systemStep {e : SystemEvent D} (hstep : systemStep uid s e = some s') :
    s'.service.store.lookup (refCurrentUser uid) = s.service.store.lookup (refCurrentUser uid) ∨
      s'.service.store.lookup (refCurrentUser uid) = none := by
  rcases systemStep_service hstep with ⟨-, hsame | ⟨e', he', -⟩⟩ | ⟨n, r, -, he'⟩
  · exact Or.inl (by rw [hsame])
  · exact customer_bagStep he'
  · exact customer_bagStep he'

/-- **Where the user of a screen comes from**, step by step: it is none, the one the screen
had, or the stored one. -/
theorem user_systemStep {e : SystemEvent D} (hstep : systemStep uid s e = some s') {d : D}
    {screen' : Screen} (hscreen' : s'.screens d = some screen') :
    ∃ screen, s.screens d = some screen ∧
      (screen'.user = screen.user ∨ screen'.user = none ∨
        ∃ data, s.service.store.lookup (refCurrentUser uid) = some data ∧
          screen'.user = some (User.init uid data)) := by
  rcases systemStep_cases hstep with ⟨d', e', screen, turn, -, hscreen, hturn, hscreens, -⟩ |
    ⟨n, r, -, -, hscreens⟩ | ⟨k, d', a, -, -, -, hscreens⟩
  · rw [hscreens] at hscreen'
    by_cases hd : d = d'
    · subst hd
      rw [Function.update_self] at hscreen'
      exact ⟨screen, hscreen, Screen.user_act hturn hscreen'⟩
    · rw [Function.update_of_ne hd] at hscreen'
      exact ⟨screen', hscreen', Or.inl rfl⟩
  · rw [hscreens] at hscreen'
    exact ⟨screen', hscreen', Or.inl rfl⟩
  · rw [hscreens] at hscreen'
    by_cases hd : d = d'
    · subst hd
      rw [Function.update_self] at hscreen'
      obtain ⟨screen, hscreen, hhear⟩ := Option.bind_eq_some_iff.mp hscreen'
      exact ⟨screen, hscreen, Or.inl (Screen.user_hear hhear)⟩
    · rw [Function.update_of_ne hd] at hscreen'
      exact ⟨screen', hscreen', Or.inl rfl⟩

/-- **Nobody ever gets an `order_id`.** -/
theorem noOrderIds_step (h : NoOrderIds uid s) {e : SystemEvent D}
    (hstep : systemStep uid s e = some s') : NoOrderIds uid s' := by
  constructor
  · intro data hdata
    rcases customer_systemStep hstep with hsame | hnone
    · exact h.stored data (hsame ▸ hdata)
    · rw [hnone] at hdata
      cases hdata
  · intro d screen' hscreen'
    obtain ⟨screen, hscreen, huser⟩ := user_systemStep hstep hscreen'
    rcases huser with huser | huser | ⟨data, hdata, huser⟩
    · rw [huser]
      exact h.shown d screen hscreen
    · rw [huser]
      rfl
    · rw [huser]
      exact h.stored data hdata

omit [DecidableEq D] in
/-- Without an `order_id`, a step keeps to its notifications where it posts none. -/
theorem delivers_iff (h : NoOrderIds uid s) (e : SystemEvent D) :
    Delivers s e ↔ postedAt s e = none := by
  constructor
  · intro hdelivers
    rw [Option.eq_none_iff_forall_ne_some]
    intro n hn
    have hdelivered := hdelivers n hn
    unfold postedAt at hn
    split at hn
    · obtain ⟨screen, hscreen, hn⟩ := Option.bind_eq_some_iff.mp hn
      split at hn
      · obtain ⟨m, hm, rfl⟩ := Option.map_eq_some_iff.mp hn
        have horder := ((Screen.delivered_iff hm).mp hdelivered).2
        rw [h.shown _ screen hscreen] at horder
        cases horder
      · cases hn
    · cases hn
  · intro hnone n hn
    rw [hnone] at hn
    cases hn

end

/-- **No tap on "Add to bag" is delivered.**  For a customer whose account was made by
`createAccount`, in every run of any number of devices: all notifications are delivered if
and only if there are none. -/
theorem no_tap_delivers {D : Type} [DecidableEq D] (uid orderId : String) (store : Firestore)
    (hnew : store.lookup (refCurrentUser uid) = none) (firstName lastName phone : String)
    (es : List (SystemEvent D)) :
    let account := store.setMerge (refCurrentUser uid)
      (AuthService.accountData firstName lastName phone)
    Along (systemStep uid) Delivers (BagSystem.initial orderId account) es ↔
      Along (systemStep uid) (fun s e => postedAt s e = none) (BagSystem.initial orderId account)
        es := by
  intro account
  have hinit : NoOrderIds uid (BagSystem.initial orderId account : BagSystem D orderId) := by
    constructor
    · intro d hd
      change (store.setMerge _ _).lookup _ = some d at hd
      rw [Firestore.setMerge, Finmap.lookup_insert, hnew] at hd
      cases hd
      rfl
    · intro d screen hscreen
      cases hscreen
      rfl
  exact along_congr (NoOrderIds uid) (fun s e s' hs he => noOrderIds_step hs he)
    (fun s e hs => delivers_iff hs e) hinit

/-! ## A first soup -/

/-- The customer of a fresh account. -/
def accountStore : Firestore :=
  (∅ : Firestore).setMerge (refCurrentUser "uid") (AuthService.accountData "Eva" "Roy" "555")

/-- The bag appears, the customer is fetched, and soup is selected. -/
def soupSelected : List (SystemEvent Unit) :=
  [.screen () .fetchData, .screen () (.userFetched true),
    .screen () (.didSelect (sampleDish "soup" 10) (some (sampleChef "ana")) true)]

theorem no_tap_delivers_soup :
    Along (systemStep "uid") Delivers (BagSystem.initial "bag" accountStore)
        (soupSelected ++ [.screen () .addToOrder]) ↔
      Along (systemStep "uid") (fun s e => postedAt s e = none)
        (BagSystem.initial "bag" accountStore) (soupSelected ++ [.screen () .addToOrder]) :=
  no_tap_delivers "uid" "bag" ∅ (Finmap.lookup_empty _) "Eva" "Roy" "555" _

/-- The screen before the soup is added. -/
def soupScreen : Option Screen :=
  (run (systemStep "uid") (BagSystem.initial "bag" accountStore) soupSelected).bind
    fun s => s.screens ()

/-- **A tap in vain.**  The user and the chef are there and the soup is posted; the bag is
shown as filled, and there is neither a call nor a message. -/
theorem soup_dropped : ∃ screen ∈ soupScreen, screen.user.isSome ∧ screen.chef.isSome ∧
    screen.posted = some (sampleDish "soup" 10, 1, 10) ∧ screen.tapAddToOrder.call.isNone ∧
    (screen.tapAddToOrder.screen.map fun s => (s.cardState, s.messages)) =
      some (.notEmpty, []) ∧
    ¬ Along (systemStep "uid") Delivers (BagSystem.initial "bag" accountStore)
      (soupSelected ++ [.screen () .addToOrder]) := by
  have hsome : soupScreen.isSome := by decide +kernel
  obtain ⟨screen, hscreen⟩ := Option.isSome_iff_exists.mp hsome
  have hfacts : ∀ screen ∈ soupScreen, screen.user.isSome ∧ screen.chef.isSome ∧
      screen.posted = some (sampleDish "soup" 10, 1, 10) ∧ screen.tapAddToOrder.call.isNone ∧
      (screen.tapAddToOrder.screen.map fun s => (s.cardState, s.messages)) =
        some (.notEmpty, []) ∧
      screen.hidden.overView = false ∧ screen.user.bind User.orderId = none := by decide +kernel
  obtain ⟨huser, hchef, hposted, hcall, hnext, hhidden, horder⟩ := hfacts screen hscreen
  refine ⟨screen, hscreen, huser, hchef, hposted, hcall, hnext, fun halong => ?_⟩
  obtain ⟨s, hs, hshown⟩ := Option.bind_eq_some_iff.mp hscreen
  have hdelivered := (halong.right hs).1 (screen, sampleDish "soup" 10, 1, 10)
    (by simp [postedAt, hshown, hhidden, hposted])
  have hsome := ((Screen.delivered_iff hposted).mp hdelivered).2
  rw [horder] at hsome
  cases hsome

end Lidora
