import Lidora.BagOperations

/-! # The bag on the screen

`CardViewController` shows the bag, and `OverView`, inside it, the dish that may be added
to it.  Both keep copies of what the store holds: `overView.order`, against which a new
dish's chef is checked, and `order`, `menus`, `orderDetails` and `card`, which are shown
and of which the first order and card are placed.  The copies are filled by snapshots
(`fetchOrder` attaches a listener to the order, whose every snapshot attaches one more to
its items) and emptied when an order has been placed or a bag cleared.

`Screen.act` is what one event does to a screen: its next state, or a trap, and at most
one call of `DataService`.  `Screen.hear` is what the completion of such a call does.
`systemStep` puts the screens of any number of devices on top of `bagStep`.  A device
here is one run of the app: restarted, it is another device.

Left out: the layout, the button titles, the list adapter and the curtain's own position.
-/
namespace Lidora
open DocumentStore Runs

/-- `CardState`. -/
inductive CardState where
  | none
  | empty
  | notEmpty
  | overview
  deriving DecidableEq

/-- `OverView`: the dish on show, its chef, and the order it is checked against. -/
structure OverView where
  menu : Option Menu
  chef : Option Chef
  order : Option Order
  stepper : ℕ
  deriving DecidableEq

/-- `isHidden` of the four views of `CardViewController`. -/
structure Hidden where
  emptyView : Bool
  collectionView : Bool
  overView : Bool
  proceedView : Bool
  deriving DecidableEq

/-- `addCardAlert` and `clearBagAlert`. -/
inductive BagAlert where
  | addCard
  | clearBag (orderId : String)
  deriving DecidableEq

/-- `CardViewController`, with the requests and listeners that it is waiting for. -/
structure Screen where
  user : Option User
  chef : Option Chef
  overView : OverView
  orderDetails : List String
  order : List Order
  menus : List Menu
  card : List Card
  cardState : CardState
  hidden : Hidden
  title : Option String
  clearEnabled : Bool
  proceedEnabled : Bool
  alert : Option BagAlert
  messages : List String
  /-- Calls of `fetchUser` without an answer. -/
  userFetches : ℕ
  /-- The cards that `fetchPrimaryPaymentMethod` has been asked for. -/
  cardFetches : List String
  /-- The order ids that a listener is attached to. -/
  orderListeners : List String
  /-- The listeners on the items of an order, each with the order it hands on. -/
  itemListeners : List (String × Order)
  deriving DecidableEq

/-- `CurtainHeightState`. -/
inductive CurtainHeight where
  | hide
  | min
  | mid
  | max
  deriving DecidableEq

namespace Screen

/-- After `viewDidLoad`. -/
def initial : Screen where
  user := none
  chef := none
  overView := ⟨none, none, none, 1⟩
  orderDetails := []
  order := []
  menus := []
  card := []
  cardState := .none
  hidden := ⟨false, true, true, true⟩
  title := some "View Bag"
  clearEnabled := true
  proceedEnabled := true
  alert := none
  messages := []
  userFetches := 0
  cardFetches := []
  orderListeners := []
  itemListeners := []

/-- `cardState`, with its `didSet`. -/
def setCardState (s : Screen) : CardState → Screen
  | .empty =>
    { s with
      cardState := .empty
      title := some "View Bag"
      hidden := ⟨false, true, s.hidden.overView, true⟩ }
  | .notEmpty =>
    { s with
      cardState := .notEmpty
      hidden := ⟨true, s.hidden.collectionView, true, s.hidden.proceedView⟩ }
  | .overview =>
    { s with
      cardState := .overview
      title := none
      hidden := ⟨true, true, false, true⟩ }
  | .none =>
    { s with
      cardState := .none
      hidden := ⟨true, true, true, true⟩ }

/-- `fetchOrder`. -/
def fetchOrder (s : Screen) : Screen :=
  match s.user.bind User.orderId with
  | none => s
  | some orderId =>
    { s with order := [], menus := [], orderListeners := s.orderListeners ++ [orderId] }

/-- `fetchPrimaryCard`. -/
def fetchPrimaryCard (s : Screen) : Screen :=
  match s.user.bind User.primaryCard with
  | none => { s with card := [] }
  | some primaryCardId => { s with card := [], cardFetches := s.cardFetches ++ [primaryCardId] }

/-- `fetchData`. -/
def fetchData (s : Screen) : Screen :=
  { s with user := none, userFetches := s.userFetches + 1 }

/-- `fetchUser` is answered; a customer document that is missing ends it in silence. -/
def userFetched (s : Screen) (uid : String) (snapshot : Option Doc) : Screen :=
  let s := { s with userFetches := s.userFetches - 1 }
  match snapshot with
  | none => s
  | some data => fetchPrimaryCard (fetchOrder { s with user := some (User.init uid data) })

/-- `fetchPrimaryPaymentMethod` is answered. -/
def cardFetched (s : Screen) (k : ℕ) (id : String) (snapshot : Option Doc) : Screen :=
  let s := { s with cardFetches := s.cardFetches.eraseIdx k }
  match snapshot with
  | none => s
  | some data => { s with card := s.card ++ [Card.init id data] }

/-- The completion of `fetchCurrentOrder` with an item.  An order without a quantity or
a provider's name traps. -/
def receive (s : Screen) (order : Order) (menu : Menu) : Option Screen :=
  match order.quantity, order.providerName with
  | some quantity, some providerName =>
    let s := { s with
      title := some ("View Bag - " ++ toString quantity)
      overView := { s.overView with order := some order } }
    let s := s.setCardState .notEmpty
    some { s with
      orderDetails := s.orderDetails ++ [providerName]
      order := s.order ++ [order]
      menus := s.menus ++ [menu] }
  | _, _ => none

/-- The order listener of `fetchCurrentOrder` fires. -/
def orderSnapshot (s : Screen) (orderId : String) (snapshot : Option Doc) : Screen :=
  match snapshot with
  | none => s.setCardState .none
  | some data =>
    { s with itemListeners := s.itemListeners ++ [(orderId, Order.init orderId data)] }

/-- The items listener of `fetchCurrentOrder` fires: one completion for each item. -/
def itemsSnapshot (s : Screen) (order : Order) (items : List (String × Doc)) : Option Screen :=
  items.foldlM (fun s item => s.receive order (Menu.init item.1 item.2)) s

/-- `curtain(_:didChange:)`. -/
def curtain (s : Screen) (height : CurtainHeight) : Screen :=
  let s :=
    if s.cardState = .overview then
      match height with
      | .min => s.setCardState .notEmpty
      | .mid | .max => { s with hidden := { s.hidden with overView := false } }
      | .hide => s
    else s
  if s.cardState = .notEmpty then
    match height with
    | .min =>
      { s with
        title := some ("View Bag - " ++ toString ((s.order.head?.bind Order.quantity).getD 0))
        hidden := ⟨true, true, s.hidden.overView, true⟩ }
    | .mid | .max =>
      { s with hidden := ⟨s.hidden.emptyView, false, s.hidden.overView, false⟩ }
    | .hide => s
  else
    match height with
    | .min =>
      { s with
        title := some "View Bag"
        hidden := ⟨true, true, s.hidden.overView, s.hidden.proceedView⟩ }
    | .mid | .max =>
      { s with hidden := ⟨false, true, s.hidden.overView, s.hidden.proceedView⟩ }
    | .hide => s

/-- `MenuViewController.didSelect`, and `OverView.updateViews`, which traps on a dish
without an image.  `front`: the bag is on top of its navigation stack. -/
def didSelect (s : Screen) (menu : Menu) (chef : Option Chef) (front : Bool) : Option Screen :=
  match menu.imageURL with
  | none => none
  | some _ =>
    let s := { s with overView := { s.overView with menu := some menu } }
    if front then
      some ({ s with chef := chef, overView := { s.overView with chef := chef } }.setCardState
        .overview)
    else some s

end Screen

/-- What an event makes of a screen, `none` being a trap, and what the screen asks of
`DataService`. -/
structure Turn where
  screen : Option Screen
  call : Option BagCall

/-- The event leads to no call. -/
def Screen.quiet (s : Screen) : Turn := ⟨some s, none⟩

namespace Screen

/-- `CardViewController.addToOrder`, on the notification that `OverView` posts. -/
def addToOrder (s : Screen) (item : Menu) (quantity : ℤ) (total : ℚ) : Turn :=
  let s := s.setCardState .notEmpty
  match s.chef, s.user.bind User.orderId with
  | some chef, some bagId => ⟨some s, some (.addItemToOrder ⟨bagId, chef, item, quantity, total⟩)⟩
  | _, _ => s.quiet

/-- The guard of `OverView.addToOrder`: an order from another chef is on the screen. -/
def otherChef (v : OverView) : Bool :=
  match v.order.bind Order.providerId with
  | none => false
  | some providerId => v.chef.map Chef.id ≠ some providerId

/-- `OverView.addToOrder`: "Add to bag" is tapped. -/
def tapAddToOrder (s : Screen) : Turn :=
  match s.overView.menu with
  | none => s.quiet
  | some item =>
    if otherChef s.overView then
      { s with messages := s.messages ++ ["You can't order from two different chefs."] }.quiet
    else
      match item.price with
      | none => ⟨none, none⟩
      | some price =>
        let quantity := s.overView.stepper
        let turn := s.addToOrder item quantity (price * quantity)
        { turn with
          screen := turn.screen.map fun s =>
            { s with overView := { s.overView with stepper := 1 } } }

/-- `clearOrder`: "Clear bag" is tapped. -/
def tapClearOrder (s : Screen) : Screen :=
  let s := { s with clearEnabled := false }
  match s.order.head? with
  | none => s
  | some order => { s with alert := some (.clearBag order.id) }

/-- `placeOrder`: "Place Order" is tapped. -/
def tapPlaceOrder (s : Screen) : Turn :=
  let s := { s with proceedEnabled := false }
  match s.order.head?, s.card.head? with
  | some order, some card => ⟨some s, some (.placeOrder order card)⟩
  | _, _ => { s with alert := some .addCard, proceedEnabled := true }.quiet

/-- The bag is gone: what both completions do to the screen. -/
def emptied (s : Screen) : Screen :=
  { s with
    overView := { s.overView with order := none }
    order := []
    orderDetails := [] }.setCardState .empty

/-- The completion handlers of the three calls. -/
def hear (s : Screen) : Answer → Option Screen
  | .addItemToOrder true => some s.fetchOrder
  | .addItemToOrder false => some s
  | .clearOrder true => some { s.emptied with clearEnabled := true }
  | .clearOrder false => some s
  | .placeOrder true =>
    some { s.emptied with proceedEnabled := true, messages := s.messages ++ ["Order placed"] }
  | .placeOrder false => some { s with proceedEnabled := true }
  | .trapped => none

end Screen

/-- What happens on one device. -/
inductive ScreenEvent where
  /-- The bag appears, or its title is tapped. -/
  | fetchData
  | userFetched (ok : Bool)
  | cardFetched (k : ℕ) (ok : Bool)
  | orderSnapshot (k : ℕ) (ok : Bool)
  | itemsSnapshot (k : ℕ) (ok : Bool)
  | curtain (height : CurtainHeight)
  | didSelect (menu : Menu) (chef : Option Chef) (front : Bool)
  | stepTo (value : ℕ)
  | addToOrder
  | clearOrder
  | confirmClear
  | cancelAlert
  | placeOrder
  /-- A card is chosen in the list of payment methods. -/
  | switchCard (card : Card)

/-- The items of an order, with their ids. -/
def itemDocuments (uid orderId : String) (store : Firestore) : List (String × Doc) :=
  (store.documents (itemsRef uid orderId)).map fun p =>
    (p.getLastD "", (store.lookup p).getD Doc.empty)

/-- What the event does to a screen, over the store as it is; `none` where it cannot
happen: a request that was not made, a view that is hidden, a button that is off. -/
def Screen.act (uid : String) (store : Firestore) (s : Screen) : ScreenEvent → Option Turn
  | .fetchData => some s.fetchData.quiet
  | .userFetched ok =>
    if s.userFetches = 0 then none
    else if ok then some (s.userFetched uid (store.lookup (refCurrentUser uid))).quiet
    else some { s with userFetches := s.userFetches - 1 }.quiet
  | .cardFetched k ok =>
    match s.cardFetches[k]? with
    | none => none
    | some id =>
      if ok then some (s.cardFetched k id (store.lookup (refPaymentsMethods uid ++ [id]))).quiet
      else some { s with cardFetches := s.cardFetches.eraseIdx k }.quiet
  | .orderSnapshot k ok =>
    match s.orderListeners[k]? with
    | none => none
    | some orderId =>
      if ok then some (s.orderSnapshot orderId (store.lookup (orderRef uid orderId))).quiet
      else some (s.setCardState .none).quiet
  | .itemsSnapshot k ok =>
    match s.itemListeners[k]? with
    | none => none
    | some (orderId, order) =>
      if ok then some ⟨s.itemsSnapshot order (itemDocuments uid orderId store), none⟩
      else some (s.setCardState .none).quiet
  | .curtain height => some (s.curtain height).quiet
  | .didSelect menu chef front => some ⟨s.didSelect menu chef front, none⟩
  | .stepTo value =>
    if s.hidden.overView = false ∧ 1 ≤ value ∧ value ≤ 100 then
      some { s with overView := { s.overView with stepper := value } }.quiet
    else none
  | .addToOrder => if s.hidden.overView = false then some s.tapAddToOrder else none
  | .clearOrder =>
    if s.hidden.proceedView = false ∧ s.clearEnabled ∧ s.alert = none then
      some s.tapClearOrder.quiet
    else none
  | .confirmClear =>
    match s.alert with
    | some (.clearBag orderId) => some ⟨some { s with alert := none }, some (.clearOrder orderId)⟩
    | _ => none
  | .cancelAlert =>
    match s.alert with
    | some (.clearBag _) => some { s with alert := none, clearEnabled := true }.quiet
    | some .addCard => some { s with alert := none }.quiet
    | none => none
  | .placeOrder =>
    if s.hidden.proceedView = false ∧ s.proceedEnabled ∧ s.alert = none then
      some s.tapPlaceOrder
    else none
  | .switchCard card => some { s with card := [card] }.quiet

namespace Screen

/-- What an event that does not trap makes of a screen, case by case. -/
inductive Acts (uid : String) (store : Firestore) (s : Screen) : ScreenEvent → Screen → Prop
  | fetchData : Acts uid store s .fetchData s.fetchData
  | userFetched : Acts uid store s (.userFetched true)
      (s.userFetched uid (store.lookup (refCurrentUser uid)))
  | userFailed : Acts uid store s (.userFetched false) { s with userFetches := s.userFetches - 1 }
  | cardFetched (k : ℕ) (id : String) : Acts uid store s (.cardFetched k true)
      (s.cardFetched k id (store.lookup (refPaymentsMethods uid ++ [id])))
  | cardFailed (k : ℕ) : Acts uid store s (.cardFetched k false)
      { s with cardFetches := s.cardFetches.eraseIdx k }
  | orderSnapshot {k : ℕ} {id : String} (hlistener : s.orderListeners[k]? = some id) :
      Acts uid store s (.orderSnapshot k true)
        (s.orderSnapshot id (store.lookup (orderRef uid id)))
  | orderFailed (k : ℕ) : Acts uid store s (.orderSnapshot k false) (s.setCardState .none)
  | itemsSnapshot {k : ℕ} {id : String} {order : Order} {s' : Screen}
      (hlistener : s.itemListeners[k]? = some (id, order))
      (h : s.itemsSnapshot order (itemDocuments uid id store) = some s') :
      Acts uid store s (.itemsSnapshot k true) s'
  | itemsFailed (k : ℕ) : Acts uid store s (.itemsSnapshot k false) (s.setCardState .none)
  | curtain (height : CurtainHeight) : Acts uid store s (.curtain height) (s.curtain height)
  | didSelect {menu : Menu} {chef : Option Chef} {front : Bool} {s' : Screen}
      (h : s.didSelect menu chef front = some s') :
      Acts uid store s (.didSelect menu chef front) s'
  | stepTo (value : ℕ) : Acts uid store s (.stepTo value)
      { s with overView := { s.overView with stepper := value } }
  | addToOrder {s' : Screen} (h : s' ∈ s.tapAddToOrder.screen) : Acts uid store s .addToOrder s'
  | clearOrder : Acts uid store s .clearOrder s.tapClearOrder
  | confirmClear : Acts uid store s .confirmClear { s with alert := none }
  | cancelClear : Acts uid store s .cancelAlert { s with alert := none, clearEnabled := true }
  | cancelCard : Acts uid store s .cancelAlert { s with alert := none }
  | placeOrder {s' : Screen} (h : s' ∈ s.tapPlaceOrder.screen) : Acts uid store s .placeOrder s'
  | switchCard (card : Card) : Acts uid store s (.switchCard card) { s with card := [card] }

theorem act_cases {uid : String} {store : Firestore} {s s' : Screen} {e : ScreenEvent}
    {turn : Turn} (h : s.act uid store e = some turn) (hs : s' ∈ turn.screen) :
    s.Acts uid store e s' := by
  cases e with
  | fetchData =>
    cases h
    cases hs
    exact .fetchData
  | userFetched ok =>
    simp only [act] at h
    split at h
    · cases h
    · cases ok <;> cases h <;> cases hs
      · exact .userFailed
      · exact .userFetched
  | cardFetched k ok =>
    simp only [act] at h
    split at h
    · cases h
    · cases ok <;> cases h <;> cases hs
      · exact .cardFailed k
      · exact .cardFetched k _
  | orderSnapshot k ok =>
    simp only [act] at h
    split at h
    · cases h
    · cases ok <;> cases h <;> cases hs
      · exact .orderFailed k
      · exact .orderSnapshot ‹_›
  | itemsSnapshot k ok =>
    simp only [act] at h
    split at h
    · cases h
    · cases ok <;> cases h
      · cases hs
        exact .itemsFailed k
      · exact .itemsSnapshot ‹_› hs
  | curtain height =>
    cases h
    cases hs
    exact .curtain height
  | didSelect menu chef front =>
    cases h
    exact .didSelect hs
  | stepTo value =>
    simp only [act] at h
    split at h <;> cases h
    cases hs
    exact .stepTo value
  | addToOrder =>
    simp only [act] at h
    split at h <;> cases h
    exact .addToOrder hs
  | clearOrder =>
    simp only [act] at h
    split at h <;> cases h
    cases hs
    exact .clearOrder
  | confirmClear =>
    simp only [act] at h
    split at h <;> cases h
    cases hs
    exact .confirmClear
  | cancelAlert =>
    simp only [act] at h
    split at h <;> cases h <;> cases hs
    · exact .cancelClear
    · exact .cancelCard
  | placeOrder =>
    simp only [act] at h
    split at h <;> cases h
    exact .placeOrder hs
  | switchCard card =>
    cases h
    cases hs
    exact .switchCard card

end Screen

/-- The store with the operations on one order, and the screens of the devices: `none`
where the app has trapped. -/
structure BagSystem (D : Type) (orderId : String) where
  service : BagState D orderId
  screens : D → Option Screen

inductive SystemEvent (D : Type) where
  | screen (d : D) (e : ScreenEvent)
  | reply (n : ℕ) (r : Reply)
  /-- The device that the `k`-th answer is for takes it up. -/
  | answer (k : ℕ)

section
variable {D : Type} [DecidableEq D] (uid : String) {orderId : String}

/-- Every device has just been started. -/
def BagSystem.initial (orderId : String) (store : Firestore) : BagSystem D orderId :=
  ⟨BagState.initial orderId store, fun _ => some Screen.initial⟩

/-- One step of the whole system. -/
def systemStep (s : BagSystem D orderId) : SystemEvent D → Option (BagSystem D orderId)
  | .screen d e =>
    (s.screens d).bind fun screen =>
      (screen.act uid s.service.store e).bind fun turn =>
        let screens := Function.update s.screens d turn.screen
        match turn.call with
        | none => some ⟨s.service, screens⟩
        | some c => (bagStep uid s.service (.call d c)).map fun service => ⟨service, screens⟩
  | .reply n r => (bagStep uid s.service (.reply n r)).map fun service => ⟨service, s.screens⟩
  | .answer k =>
    s.service.answers[k]?.bind fun (d, a) =>
      (bagStep uid s.service (.handle k)).map fun service =>
        ⟨service, Function.update s.screens d ((s.screens d).bind fun screen => screen.hear a)⟩

/-- What a step of the system is: an event on one screen, with a call if there is one; a
reply; or an answer that one screen takes up. -/
theorem systemStep_cases {uid : String} {s s' : BagSystem D orderId} {e : SystemEvent D}
    (h : systemStep uid s e = some s') :
    (∃ d e' screen turn, e = .screen d e' ∧ s.screens d = some screen ∧
      screen.act uid s.service.store e' = some turn ∧
      s'.screens = Function.update s.screens d turn.screen ∧
      (s'.service = s.service ∨ ∃ c, bagStep uid s.service (.call d c) = some s'.service)) ∨
    (∃ n r, e = .reply n r ∧ bagStep uid s.service (.reply n r) = some s'.service ∧
      s'.screens = s.screens) ∨
    (∃ k d a, e = .answer k ∧ s.service.answers[k]? = some (d, a) ∧
      bagStep uid s.service (.handle k) = some s'.service ∧
      s'.screens = Function.update s.screens d ((s.screens d).bind fun screen => screen.hear a)) := by
  cases e with
  | screen d e =>
    simp only [systemStep, Option.bind_eq_some_iff] at h
    obtain ⟨screen, hscreen, turn, hturn, h⟩ := h
    refine Or.inl ⟨d, e, screen, turn, rfl, hscreen, hturn, ?_⟩
    split at h
    · cases h
      exact ⟨rfl, Or.inl rfl⟩
    · obtain ⟨service, hservice, rfl⟩ := Option.map_eq_some_iff.mp h
      exact ⟨rfl, Or.inr ⟨_, hservice⟩⟩
  | reply n r =>
    simp only [systemStep] at h
    obtain ⟨service, hservice, rfl⟩ := Option.map_eq_some_iff.mp h
    exact Or.inr (Or.inl ⟨n, r, rfl, hservice, rfl⟩)
  | answer k =>
    simp only [systemStep, Option.bind_eq_some_iff] at h
    obtain ⟨⟨d, a⟩, hanswer, h⟩ := h
    obtain ⟨service, hservice, rfl⟩ := Option.map_eq_some_iff.mp h
    exact Or.inr (Or.inr ⟨k, d, a, rfl, hanswer, hservice, rfl⟩)

/-- **The screens work on the bag through `bagStep` alone.**  A step of the system leaves
the operations as they are or is one step of them, and only a reply is a reply. -/
theorem systemStep_service {uid : String} {s s' : BagSystem D orderId} {e : SystemEvent D}
    (h : systemStep uid s e = some s') :
    ((∀ n r, e ≠ .reply n r) ∧ (s'.service = s.service ∨
      ∃ e', bagStep uid s.service e' = some s'.service ∧ ∀ n r, e' ≠ .reply n r)) ∨
    ∃ n r, e = .reply n r ∧ bagStep uid s.service (.reply n r) = some s'.service := by
  rcases systemStep_cases h with ⟨d, e', screen, turn, rfl, -, -, -, hservice⟩ |
    ⟨n, r, rfl, hservice, -⟩ | ⟨k, d, a, rfl, -, hservice, -⟩
  · refine Or.inl ⟨nofun, ?_⟩
    rcases hservice with hsame | ⟨c, hc⟩
    · exact Or.inl hsame
    · exact Or.inr ⟨_, hc, nofun⟩
  · exact Or.inr ⟨n, r, rfl, hservice⟩
  · exact Or.inl ⟨nofun, Or.inr ⟨_, hservice, nofun⟩⟩

/-- A condition on the replies, as one on the events of the system. -/
def OnReplies (P : BagState D orderId → ℕ → Reply → Prop) (s : BagSystem D orderId) :
    SystemEvent D → Prop
  | .reply n r => P s.service n r
  | _ => True

instance {P : BagState D orderId → ℕ → Reply → Prop} [∀ s n r, Decidable (P s n r)]
    (s : BagSystem D orderId) : (e : SystemEvent D) → Decidable (OnReplies P s e)
  | .reply n r => inferInstanceAs (Decidable (P s.service n r))
  | .screen _ _ | .answer _ => isTrue trivial

/-- An invariant of the operations, where every reply meets `P`, is one of the system. -/
theorem system_invariant_along {uid : String} (Inv : BagState D orderId → Prop)
    {P : BagState D orderId → ℕ → Reply → Prop}
    (hreply : ∀ s n r s', Inv s → P s n r → bagStep uid s (.reply n r) = some s' → Inv s')
    (hother : ∀ s e s', Inv s → (∀ n r, e ≠ .reply n r) → bagStep uid s e = some s' → Inv s')
    {s t : BagSystem D orderId} {es : List (SystemEvent D)} (hi : Inv s.service)
    (hP : Along (systemStep uid) (OnReplies P) s es) (h : run (systemStep uid) s es = some t) :
    Inv t.service := by
  refine run_invariant_along (fun s => Inv s.service) ?_ hi hP h
  intro s e s' hi hP he
  rcases systemStep_service he with ⟨-, hsame | ⟨e', he', hne⟩⟩ | ⟨n, r, rfl, he'⟩
  · rw [hsame]
    exact hi
  · exact hother _ _ _ hi hne he'
  · exact hreply _ _ _ _ hi hP he'

/-- **What the operations keep, the system keeps.**  Where a property of the operations
survives a reply exactly under `P`, and everything else always, it holds all along a run
of the system exactly when every reply meets `P`. -/
theorem system_always_iff {uid : String} (Inv Good : BagState D orderId → Prop)
    {P : BagState D orderId → ℕ → Reply → Prop}
    (hinv : ∀ s e s', Inv s → bagStep uid s e = some s' → Inv s')
    (hreply : ∀ s n r s', Inv s → Good s → bagStep uid s (.reply n r) = some s' →
      (Good s' ↔ P s n r))
    (hother : ∀ s e s', Inv s → Good s → (∀ n r, e ≠ .reply n r) → bagStep uid s e = some s' →
      Good s')
    {s t : BagSystem D orderId} {es : List (SystemEvent D)} (hi : Inv s.service)
    (hg : Good s.service) (h : run (systemStep uid) s es = some t) :
    (∀ k s', run (systemStep uid) s (es.take k) = some s' → Good s'.service) ↔
      Along (systemStep uid) (OnReplies P) s es := by
  refine always_iff_along (fun s => Inv s.service) (fun s => Good s.service) ?_ ?_ hi hg h
  · intro s e s' hi he
    rcases systemStep_service he with ⟨-, hsame | ⟨e', he', -⟩⟩ | ⟨n, r, rfl, he'⟩
    · rw [hsame]
      exact hi
    · exact hinv _ _ _ hi he'
    · exact hinv _ _ _ hi he'
  · intro s e s' hi hg he
    rcases systemStep_service he with ⟨hne, hservice⟩ | ⟨n, r, rfl, he'⟩
    · have hP : OnReplies P s e := by
        cases e with
        | reply n r => exact absurd rfl (hne n r)
        | screen d e => trivial
        | answer k => trivial
      refine iff_of_true ?_ hP
      rcases hservice with hsame | ⟨e', he', hne'⟩
      · rw [hsame]
        exact hg
      · exact hother _ _ _ hi hg hne' he'
    · exact hreply _ _ _ _ hi hg he'

end

end Lidora
