import Lidora.ClearOrder
import Lidora.DroppedTaps
import Lidora.Watching

/-! # The snapshots on their way to the screens

`fetchOrder` attaches a listener to the order document, and every snapshot of an order
attaches one more to its items.  None is ever removed.  Firestore tells each listener of
the documents as it finds them, and then of every change, in order; between two listeners
there is no order, and a snapshot may arrive when the documents have long changed.

Here every device has a feed for each of its listeners (`Listening`).  A step of the
operations that writes the order document or one of its items publishes the store to the
feeds of those who watch it, and a snapshot that a screen handles is the next one on the
listener's feed.  Everything else is a step of `systemStep`.

What the screen shows of the bag (`menus`, `order`, `orderDetails`, the title) and its
listeners are only touched in a few ways: `KeepsBag`, `Refetches`, `Empties`.
-/
namespace Lidora
open DocumentStore Runs Watching

/-! ## What the title shows, and what a screen does to it -/

/-- If the title shows a quantity, it is `quantity`. -/
def Screen.TitleShows (s : Screen) (quantity : ℤ) : Prop :=
  s.title = none ∨ s.title = some "View Bag" ∨
    s.title = some ("View Bag - " ++ toString quantity)

namespace Screen

/-- The bag on the screen and the listeners are as they were.  The curtain may have
rewritten the title, from the first order. -/
structure KeepsBag (s s' : Screen) : Prop where
  menus : s'.menus = s.menus
  order : s'.order = s.order
  orderDetails : s'.orderDetails = s.orderDetails
  orderListeners : s'.orderListeners = s.orderListeners
  itemListeners : s'.itemListeners = s.itemListeners
  title : s'.title = s.title ∨ s'.TitleShows ((s.order.head?.bind Order.quantity).getD 0)

/-- `fetchOrder` has attached a listener to the order `id`. -/
structure Refetches (id : String) (s s' : Screen) : Prop where
  menus : s'.menus = []
  order : s'.order = []
  orderDetails : s'.orderDetails = s.orderDetails
  orderListeners : s'.orderListeners = s.orderListeners ++ [id]
  itemListeners : s'.itemListeners = s.itemListeners
  title : s'.title = s.title

/-- A completion of `clearOrder` or `placeOrder` has emptied the bag on the screen, all
but the items. -/
structure Empties (s s' : Screen) : Prop where
  menus : s'.menus = s.menus
  order : s'.order = []
  orderDetails : s'.orderDetails = []
  orderListeners : s'.orderListeners = s.orderListeners
  itemListeners : s'.itemListeners = s.itemListeners
  title : s'.title = some "View Bag"

/-- What an event of another kind leaves alone. -/
def bag (s : Screen) : List Menu × List Order × List String × List String ×
    List (String × Order) × Option String :=
  (s.menus, s.order, s.orderDetails, s.orderListeners, s.itemListeners, s.title)

theorem KeepsBag.of_bag {s s' : Screen} (h : s'.bag = s.bag) : s.KeepsBag s' := by
  simp only [bag, Prod.mk.injEq] at h
  obtain ⟨hmenus, horder, hdetails, hlisteners, hitems, htitle⟩ := h
  exact ⟨hmenus, horder, hdetails, hlisteners, hitems, Or.inl htitle⟩

theorem KeepsBag.refl (s : Screen) : s.KeepsBag s := .of_bag rfl

theorem KeepsBag.trans {s s' s'' : Screen} (h : s.KeepsBag s') (h' : s'.KeepsBag s'') :
    s.KeepsBag s'' where
  menus := h'.menus.trans h.menus
  order := h'.order.trans h.order
  orderDetails := h'.orderDetails.trans h.orderDetails
  orderListeners := h'.orderListeners.trans h.orderListeners
  itemListeners := h'.itemListeners.trans h.itemListeners
  title := by
    rcases h'.title with htitle | hshows
    · rcases h.title with hsame | hshows
      · exact Or.inl (htitle.trans hsame)
      · refine Or.inr ?_
        unfold TitleShows at hshows ⊢
        rwa [htitle]
    · rw [h.order] at hshows
      exact Or.inr hshows

theorem keepsBag_setCardState (s : Screen) (state : CardState) :
    s.KeepsBag (s.setCardState state) := by
  cases state with
  | none => exact .of_bag rfl
  | empty => exact ⟨rfl, rfl, rfl, rfl, rfl, Or.inr (Or.inr (Or.inl rfl))⟩
  | notEmpty => exact .of_bag rfl
  | overview => exact ⟨rfl, rfl, rfl, rfl, rfl, Or.inr (Or.inl rfl)⟩

theorem keepsBag_curtain (s : Screen) (height : CurtainHeight) : s.KeepsBag (s.curtain height) := by
  have htitle : ∀ (s : Screen) (quantity : ℤ) (hidden : Hidden),
      (s.order.head?.bind Order.quantity).getD 0 = quantity →
      s.KeepsBag { s with
        title := some ("View Bag - " ++ toString quantity)
        hidden := hidden } := by
    rintro s quantity hidden rfl
    exact ⟨rfl, rfl, rfl, rfl, rfl, Or.inr (Or.inr (Or.inr rfl))⟩
  have hplain : ∀ (s : Screen) (hidden : Hidden),
      s.KeepsBag { s with title := some "View Bag", hidden := hidden } :=
    fun s hidden => ⟨rfl, rfl, rfl, rfl, rfl, Or.inr (Or.inr (Or.inl rfl))⟩
  have hhidden : ∀ (s : Screen) (hidden : Hidden), s.KeepsBag { s with hidden := hidden } :=
    fun s hidden => .of_bag rfl
  unfold curtain
  -- the overview's own part, then the part of every state
  set s₁ : Screen := if s.cardState = .overview then _ else s with hs₁
  have hfirst : s.KeepsBag s₁ := by
    rw [hs₁]
    split
    · cases height with
      | hide => exact .refl s
      | min => exact keepsBag_setCardState s .notEmpty
      | mid => exact hhidden s _
      | max => exact hhidden s _
    · exact .refl s
  refine hfirst.trans ?_
  simp only
  split
  · cases height with
    | hide => exact .refl s₁
    | min => exact htitle s₁ _ _ rfl
    | mid => exact hhidden s₁ _
    | max => exact hhidden s₁ _
  · cases height with
    | hide => exact .refl s₁
    | min => exact hplain s₁ _
    | mid => exact hhidden s₁ _
    | max => exact hhidden s₁ _

theorem keepsBag_didSelect {s s' : Screen} {menu : Menu} {chef : Option Chef} {front : Bool}
    (h : s.didSelect menu chef front = some s') : s.KeepsBag s' := by
  unfold didSelect at h
  split at h
  · cases h
  · simp only at h
    split at h
    · cases h
      have hchosen : s.KeepsBag { s with
          overView := { s.overView with menu := some menu, chef := chef }
          chef := chef } := .of_bag rfl
      exact hchosen.trans (keepsBag_setCardState _ .overview)
    · cases h
      exact .of_bag rfl

theorem keepsBag_tapClearOrder (s : Screen) : s.KeepsBag s.tapClearOrder := by
  unfold tapClearOrder
  simp only
  split
  · exact .of_bag rfl
  · exact .of_bag rfl

theorem keepsBag_tapPlaceOrder {s s' : Screen} (h : s' ∈ s.tapPlaceOrder.screen) :
    s.KeepsBag s' := by
  unfold tapPlaceOrder at h
  simp only at h
  split at h
  · cases h
    exact .of_bag rfl
  · cases h
    exact .of_bag rfl

theorem keepsBag_addToOrder {s s' : Screen} {item : Menu} {quantity : ℤ} {total : ℚ}
    (h : s' ∈ (s.addToOrder item quantity total).screen) : s.KeepsBag s' := by
  unfold addToOrder at h
  simp only at h
  split at h
  · cases h
    exact keepsBag_setCardState s .notEmpty
  · cases h
    exact keepsBag_setCardState s .notEmpty

theorem keepsBag_tapAddToOrder {s s' : Screen} (h : s' ∈ s.tapAddToOrder.screen) :
    s.KeepsBag s' := by
  unfold tapAddToOrder at h
  split at h
  · cases h
    exact .refl s
  · split at h
    · cases h
      exact .of_bag rfl
    · split at h
      · cases h
      · obtain ⟨s₁, hs₁, rfl⟩ := Option.map_eq_some_iff.mp h
        exact (keepsBag_addToOrder hs₁).trans (.of_bag rfl)

theorem keepsBag_fetchPrimaryCard (s : Screen) : s.KeepsBag s.fetchPrimaryCard := by
  unfold fetchPrimaryCard
  split
  · exact .of_bag rfl
  · exact .of_bag rfl

/-- `fetchOrder` needs a user with an order. -/
theorem fetchOrder_cases (s : Screen) : s.KeepsBag s.fetchOrder ∨
    ∃ id, s.user.bind User.orderId = some id ∧ s.Refetches id s.fetchOrder := by
  unfold fetchOrder
  split
  · exact Or.inl (.refl s)
  · exact Or.inr ⟨_, ‹_›, rfl, rfl, rfl, rfl, rfl, rfl⟩

theorem Refetches.keeps {id : String} {s s' s'' : Screen} (h : Refetches id s s')
    (h' : s'.KeepsBag s'') (htitle : s''.title = s'.title) : Refetches id s s'' where
  menus := h'.menus.trans h.menus
  order := h'.order.trans h.order
  orderDetails := h'.orderDetails.trans h.orderDetails
  orderListeners := h'.orderListeners.trans h.orderListeners
  itemListeners := h'.itemListeners.trans h.itemListeners
  title := htitle.trans h.title

theorem keepsBag_cardFetched (s : Screen) (k : ℕ) (id : String) (snapshot : Option Doc) :
    s.KeepsBag (s.cardFetched k id snapshot) := by
  unfold cardFetched
  cases snapshot with
  | none => exact .of_bag rfl
  | some d => exact .of_bag rfl

/-- The customer's document names the order that a listener is attached to. -/
theorem userFetched_cases (s : Screen) (uid : String) (snapshot : Option Doc) :
    s.KeepsBag (s.userFetched uid snapshot) ∨ ∃ id data, snapshot = some data ∧
      (User.init uid data).orderId = some id ∧ s.Refetches id (s.userFetched uid snapshot) := by
  unfold userFetched
  cases snapshot with
  | none => exact Or.inl (.of_bag rfl)
  | some data =>
    set s₁ : Screen := { s with
      userFetches := s.userFetches - 1
      user := some (User.init uid data) }
    have hcard := keepsBag_fetchPrimaryCard s₁.fetchOrder
    have htitle : s₁.fetchOrder.fetchPrimaryCard.title = s₁.fetchOrder.title := by
      unfold fetchPrimaryCard
      split <;> rfl
    rcases fetchOrder_cases s₁ with hkeeps | ⟨id, hid, hrefetches⟩
    · exact Or.inl ((KeepsBag.of_bag rfl : s.KeepsBag s₁).trans (hkeeps.trans hcard))
    · obtain ⟨hmenus, horder, hdetails, hlisteners, hitems, htitle'⟩ :=
        hrefetches.keeps hcard htitle
      exact Or.inr ⟨id, data, rfl, hid, hmenus, horder, hdetails, hlisteners, hitems, htitle'⟩

/-- **What an event other than a snapshot does to the bag on a screen.** -/
theorem bag_act {uid : String} {store : Firestore} {s s' : Screen} {e : ScreenEvent} {turn : Turn}
    (hne : ∀ k, e ≠ .orderSnapshot k true ∧ e ≠ .itemsSnapshot k true)
    (h : s.act uid store e = some turn) (hs : s' ∈ turn.screen) :
    s.KeepsBag s' ∨ ∃ id data, store.lookup (refCurrentUser uid) = some data ∧
      (User.init uid data).orderId = some id ∧ s.Refetches id s' := by
  cases act_cases h hs with
  | userFetched => exact userFetched_cases s uid _
  | cardFetched k id => exact Or.inl (keepsBag_cardFetched s k id _)
  | orderSnapshot hlistener => exact absurd rfl (hne _).1
  | itemsSnapshot hlistener h => exact absurd rfl (hne _).2
  | orderFailed k => exact Or.inl (keepsBag_setCardState s .none)
  | itemsFailed k => exact Or.inl (keepsBag_setCardState s .none)
  | curtain height => exact Or.inl (keepsBag_curtain s height)
  | didSelect h => exact Or.inl (keepsBag_didSelect h)
  | addToOrder h => exact Or.inl (keepsBag_tapAddToOrder h)
  | clearOrder => exact Or.inl (keepsBag_tapClearOrder s)
  | placeOrder h => exact Or.inl (keepsBag_tapPlaceOrder h)
  -- what is left touches nothing of the bag
  | _ => exact Or.inl (.of_bag rfl)

/-- **What a completion does to the bag on a screen.** -/
theorem hear_cases {s s' : Screen} {a : Answer} (h : s.hear a = some s') :
    s.KeepsBag s' ∨ (∃ id, s.user.bind User.orderId = some id ∧ s.Refetches id s') ∨
      (a = .clearOrder true ∨ a = .placeOrder true) ∧ s.Empties s' := by
  unfold hear at h
  split at h
  · cases h
    exact (fetchOrder_cases s).imp_right Or.inl
  · cases h
    exact Or.inl (.refl s)
  · cases h
    exact Or.inr (Or.inr ⟨Or.inl rfl, rfl, rfl, rfl, rfl, rfl, rfl⟩)
  · cases h
    exact Or.inl (.refl s)
  · cases h
    exact Or.inr (Or.inr ⟨Or.inr rfl, rfl, rfl, rfl, rfl, rfl, rfl⟩)
  · cases h
    exact Or.inl (.of_bag rfl)
  · cases h

end Screen

/-! ## Listening -/

/-- The documents of the bag that a reply to the operation writes, where that changes
them. -/
def BagOp.written {orderId : String} (uid : String) (store : Firestore) :
    BagOp orderId → Reply → List Path
  | .adding c _, .committed =>
    match c.guard with
    | none => []
    | some e =>
      let ref := orderRef uid c.orderId
      let itemRef := itemRef uid c.orderId c.item.id
      ((addItemBlock c e ref itemRef (store.lookup ref) (store.lookup itemRef)).getD []).map
        fun w => w.toWrite.key
  | .clearing (some items), .deleted true =>
    let p := items.headD (orderRef uid orderId)
    if (store.lookup p).isSome then [p] else []
  | _, _ => []

/-- The system, and what each device's listeners have still to be told. -/
structure Listening (D : Type) (orderId : String) where
  system : BagSystem D orderId
  /-- The feeds of the listeners on the order document. -/
  orders : D → Feeds Firestore
  /-- The feeds of the listeners on the items. -/
  items : D → Feeds Firestore

inductive ListeningEvent (D : Type) where
  /-- The `k`-th order listener handles its next snapshot. -/
  | orderSnapshot (d : D) (k : ℕ)
  | itemsSnapshot (d : D) (k : ℕ)
  /-- Anything else. -/
  | other (e : SystemEvent D)

/-- The event is a snapshot, and not the error of a listener. -/
def SystemEvent.isSnapshot {D : Type} : SystemEvent D → Bool
  | .screen _ (.orderSnapshot _ true) | .screen _ (.itemsSnapshot _ true) => true
  | _ => false

namespace Listening
variable {D : Type} {orderId : String}

/-- No listener has been attached. -/
def initial [DecidableEq D] (orderId : String) (store : Firestore) : Listening D orderId :=
  ⟨BagSystem.initial orderId store, fun _ => [], fun _ => []⟩

def store (s : Listening D orderId) : Firestore := s.system.service.store

/-- The listeners that have just been attached find the store as it is. -/
def attached (s : Listening D orderId) : Listening D orderId where
  system := s.system
  orders d := (s.system.screens d).elim (s.orders d) fun screen =>
    attach (s.orders d) screen.orderListeners.length s.store
  items d := (s.system.screens d).elim (s.items d) fun screen =>
    attach (s.items d) screen.itemListeners.length s.store

/-- Those who listen to a document that has been written are told. -/
def published (uid : String) (s : Listening D orderId) (written : List Path) :
    Listening D orderId where
  system := s.system
  orders d := publishTo (· = orderRef uid orderId) written (s.orders d) s.store
  items d := publishTo (IsItem uid orderId) written (s.items d) s.store

end Listening

section
variable {D : Type} [DecidableEq D] (uid : String) {orderId : String}

/-- The documents of the bag that an event writes. -/
def writtenAt (s : BagState D orderId) : SystemEvent D → List Path
  | .reply n r => (s.ops.running n).elim [] fun x => x.2.written uid s.store r
  | _ => []

/-- One step, with the snapshots in the order of each feed. -/
def listeningStep (s : Listening D orderId) : ListeningEvent D → Option (Listening D orderId)
  | .orderSnapshot d k =>
    (deliver (s.orders d) k).bind fun (seen, orders) =>
      (s.system.screens d).bind fun screen =>
        (screen.act uid seen (.orderSnapshot k true)).map fun turn =>
          { s with
            system := { s.system with screens := Function.update s.system.screens d turn.screen }
            orders := Function.update s.orders d orders : Listening D orderId }.attached
  | .itemsSnapshot d k =>
    (deliver (s.items d) k).bind fun (seen, items) =>
      (s.system.screens d).bind fun screen =>
        (screen.act uid seen (.itemsSnapshot k true)).map fun turn =>
          { s with
            system := { s.system with screens := Function.update s.system.screens d turn.screen }
            items := Function.update s.items d items : Listening D orderId }.attached
  | .other e =>
    if e.isSnapshot then none
    else (systemStep uid s.system e).map fun system =>
      (({ s with system := system } : Listening D orderId).published uid
        (writtenAt uid s.system.service e)).attached

/-- **What a step is to the device `d`**: a snapshot on its own screen, a move that leaves the
store alone, or a reply to some operation. -/
inductive SeenBy (s s' : Listening D orderId) (d : D) (screen screen' : Screen) :
    ListeningEvent D → Prop where
  | order {k : ℕ} {id : String} {seen : Firestore} {orders : Feeds Firestore}
      (hdeliver : deliver (s.orders d) k = some (seen, orders))
      (hlistener : screen.orderListeners[k]? = some id)
      (hscreen : screen' = screen.orderSnapshot id (seen.lookup (orderRef uid id)))
      (hservice : s'.system.service = s.system.service)
      (horders : s'.orders d = attach orders screen'.orderListeners.length s.store)
      (hitems : s'.items d = attach (s.items d) screen'.itemListeners.length s.store) :
      SeenBy s s' d screen screen' (.orderSnapshot d k)
  | items {k : ℕ} {id : String} {order : Order} {seen : Firestore} {items : Feeds Firestore}
      (hdeliver : deliver (s.items d) k = some (seen, items))
      (hlistener : screen.itemListeners[k]? = some (id, order))
      (hscreen : screen.itemsSnapshot order (itemDocuments uid id seen) = some screen')
      (hservice : s'.system.service = s.system.service)
      (horders : s'.orders d = attach (s.orders d) screen'.orderListeners.length s.store)
      (hitems : s'.items d = attach items screen'.itemListeners.length s.store) :
      SeenBy s s' d screen screen' (.itemsSnapshot d k)
  | moved {e : ListeningEvent D} (hstore : s'.store = s.store)
      (horders : s'.orders d = attach (s.orders d) screen'.orderListeners.length s.store)
      (hitems : s'.items d = attach (s.items d) screen'.itemListeners.length s.store)
      (heffect : screen.KeepsBag screen' ∨
        (∃ id, (screen.user.bind User.orderId = some id ∨ ∃ data,
          s.store.lookup (refCurrentUser uid) = some data ∧
            (User.init uid data).orderId = some id) ∧ screen.Refetches id screen') ∨
        ∃ k a, e = .other (.answer k) ∧ s.system.service.answers[k]? = some (d, a) ∧
          (a = .clearOrder true ∨ a = .placeOrder true) ∧ screen.Empties screen')
      (huser : screen'.user = screen.user ∨ screen'.user = none ∨ ∃ data,
        s.store.lookup (refCurrentUser uid) = some data ∧
          screen'.user = some (User.init uid data)) :
      SeenBy s s' d screen screen' e
  | replied {n : ℕ} {r : Reply} {d' : D} {op : BagOp orderId}
      (hrun : s.system.service.ops.running n = some (d', op))
      (hmoved : Proceeded uid s.system.service n d' op r s'.system.service)
      (hscreen : screen' = screen)
      (horders : s'.orders d = attach (publishTo (· = orderRef uid orderId)
        (op.written uid s.store r) (s.orders d) s'.store) screen.orderListeners.length s'.store)
      (hitems : s'.items d = attach (publishTo (IsItem uid orderId)
        (op.written uid s.store r) (s.items d) s'.store) screen.itemListeners.length s'.store) :
      SeenBy s s' d screen screen' (.other (.reply n r))

variable {uid} {s s' : Listening D orderId}

omit [DecidableEq D] in
theorem Listening.orders_attached {d : D} {screen : Screen}
    (h : s.attached.system.screens d = some screen) :
    s.attached.orders d = attach (s.orders d) screen.orderListeners.length s.store := by
  have hscreen : s.system.screens d = some screen := h
  simp only [attached, hscreen, Option.elim_some]

omit [DecidableEq D] in
theorem Listening.items_attached {d : D} {screen : Screen}
    (h : s.attached.system.screens d = some screen) :
    s.attached.items d = attach (s.items d) screen.itemListeners.length s.store := by
  have hscreen : s.system.screens d = some screen := h
  simp only [attached, hscreen, Option.elim_some]

/-- A snapshot on another device's screen. -/
theorem seenBy_elsewhere {e : ListeningEvent D} {t : Listening D orderId} {d d' : D}
    {screen' : Screen} {turn : Turn} (hd : d ≠ d')
    (hsystem : t.system =
      ⟨s.system.service, Function.update s.system.screens d' turn.screen⟩)
    (horders : t.orders d = s.orders d) (hitems : t.items d = s.items d)
    (hscreen' : t.attached.system.screens d = some screen') :
    ∃ screen, s.system.screens d = some screen ∧ SeenBy uid s t.attached d screen screen' e := by
  have hstore : t.store = s.store := by rw [Listening.store, hsystem, Listening.store]
  have hafter : t.system.screens d = some screen' := hscreen'
  have hscreen : s.system.screens d = some screen' := by
    rw [hsystem] at hafter
    exact (Function.update_of_ne hd turn.screen s.system.screens).symm.trans hafter
  refine ⟨screen', hscreen, .moved hstore ?_ ?_ (Or.inl (.refl _)) (Or.inl rfl)⟩
  · rw [Listening.orders_attached hscreen', horders, hstore]
  · rw [Listening.items_attached hscreen', hitems, hstore]

/-- Anything but a snapshot. -/
theorem seenBy_other {e : SystemEvent D} (hsnapshot : ¬ e.isSnapshot)
    (hstep : systemStep uid s.system e = some s'.system) {d : D} {screen' : Screen}
    (hafter : s'.system.screens d = some screen')
    (horders : s'.orders d = attach (publishTo (· = orderRef uid orderId)
      (writtenAt uid s.system.service e) (s.orders d) s'.store) screen'.orderListeners.length
        s'.store)
    (hitems : s'.items d = attach (publishTo (IsItem uid orderId)
      (writtenAt uid s.system.service e) (s.items d) s'.store) screen'.itemListeners.length
        s'.store) :
    ∃ screen, s.system.screens d = some screen ∧
      SeenBy uid s s' d screen screen' (.other e) := by
  -- a step that is no reply leaves the store, and tells nobody
  have hmoved : ∀ screen, writtenAt uid s.system.service e = [] → s'.store = s.store →
      (screen.KeepsBag screen' ∨
        (∃ id, (screen.user.bind User.orderId = some id ∨ ∃ data,
          s.store.lookup (refCurrentUser uid) = some data ∧
            (User.init uid data).orderId = some id) ∧ screen.Refetches id screen') ∨
        ∃ k a, (.other e : ListeningEvent D) = .other (.answer k) ∧
          s.system.service.answers[k]? = some (d, a) ∧
          (a = .clearOrder true ∨ a = .placeOrder true) ∧ screen.Empties screen') →
      (screen'.user = screen.user ∨ screen'.user = none ∨ ∃ data,
        s.store.lookup (refCurrentUser uid) = some data ∧
          screen'.user = some (User.init uid data)) →
      SeenBy uid s s' d screen screen' (.other e) := by
    intro screen hwritten hstore heffect huser
    refine .moved hstore ?_ ?_ heffect huser
    · rw [horders, hwritten, hstore, publishTo_nil]
    · rw [hitems, hwritten, hstore, publishTo_nil]
  rcases systemStep_cases hstep with
    ⟨d', e', screen, turn, rfl, hscreen, hturn, hscreens, hservice⟩ |
    ⟨n, r, rfl, hservice, hscreens⟩ | ⟨k, d', a, rfl, hanswer, hservice, hscreens⟩
  · have hstore : s'.store = s.store := by
      rcases hservice with hsame | ⟨c, hc⟩
      · exact congrArg BagState.store hsame
      · exact (bagStep_of_not_reply (e := .call d' c) (by simp) hc).1
    by_cases hd : d = d'
    · subst hd
      rw [hscreens, Function.update_self] at hafter
      have hne : ∀ k, e' ≠ .orderSnapshot k true ∧ e' ≠ .itemsSnapshot k true := by
        intro k
        constructor
        · rintro rfl
          exact hsnapshot rfl
        · rintro rfl
          exact hsnapshot rfl
      refine ⟨screen, hscreen, hmoved screen rfl hstore ?_ (Screen.user_act hturn hafter)⟩
      rcases Screen.bag_act hne hturn hafter with hkeeps | ⟨id, data, hdata, hid, hrefetches⟩
      · exact Or.inl hkeeps
      · exact Or.inr (Or.inl ⟨id, Or.inr ⟨data, hdata, hid⟩, hrefetches⟩)
    · rw [hscreens, Function.update_of_ne hd] at hafter
      exact ⟨screen', hafter, hmoved screen' rfl hstore (Or.inl (.refl _)) (Or.inl rfl)⟩
  · simp only [bagStep, Option.bind_eq_some_iff] at hservice
    obtain ⟨⟨d', op⟩, hrun, hproceed⟩ := hservice
    rw [hscreens] at hafter
    have hwritten : writtenAt uid s.system.service (.reply n r) = op.written uid s.store r := by
      rw [writtenAt, hrun]
      rfl
    rw [hwritten] at horders hitems
    exact ⟨screen', hafter, .replied hrun (proceed_cases hproceed) rfl horders hitems⟩
  · have hstore : s'.store = s.store := (bagStep_of_not_reply (e := .handle k) (by simp) hservice).1
    by_cases hd : d = d'
    · subst hd
      rw [hscreens, Function.update_self] at hafter
      obtain ⟨screen, hscreen, hhear⟩ := Option.bind_eq_some_iff.mp hafter
      refine ⟨screen, hscreen, hmoved screen rfl hstore ?_ (Or.inl (Screen.user_hear hhear))⟩
      rcases Screen.hear_cases hhear with hkeeps | ⟨id, hid, hrefetches⟩ | ⟨ha, hempties⟩
      · exact Or.inl hkeeps
      · exact Or.inr (Or.inl ⟨id, Or.inl hid, hrefetches⟩)
      · exact Or.inr (Or.inr ⟨k, a, rfl, hanswer, ha, hempties⟩)
    · rw [hscreens, Function.update_of_ne hd] at hafter
      exact ⟨screen', hafter, hmoved screen' rfl hstore (Or.inl (.refl _)) (Or.inl rfl)⟩

/-- **Every step is seen by each device whose app is still up.** -/
theorem listeningStep_seenBy {e : ListeningEvent D} (h : listeningStep uid s e = some s') {d : D}
    {screen' : Screen} (hscreen' : s'.system.screens d = some screen') :
    ∃ screen, s.system.screens d = some screen ∧ SeenBy uid s s' d screen screen' e := by
  cases e with
  | orderSnapshot d' k =>
    simp only [listeningStep, Option.bind_eq_some_iff, Option.map_eq_some_iff] at h
    obtain ⟨⟨seen, orders⟩, hdeliver, screen, hscreen, turn, hturn, rfl⟩ := h
    by_cases hd : d = d'
    · subst hd
      have hself : turn.screen = some screen' := by
        change Function.update s.system.screens d turn.screen d = some screen' at hscreen'
        rwa [Function.update_self] at hscreen'
      refine ⟨screen, hscreen, ?_⟩
      simp only [Screen.act] at hturn
      split at hturn
      · cases hturn
      · cases hturn
        cases hself
        refine .order hdeliver ‹_› rfl rfl ?_ ?_
        · rw [Listening.orders_attached hscreen']
          simp only [Function.update_self]
          rfl
        · rw [Listening.items_attached hscreen']
          rfl
    · exact seenBy_elsewhere hd rfl (Function.update_of_ne hd ..) rfl hscreen'
  | itemsSnapshot d' k =>
    simp only [listeningStep, Option.bind_eq_some_iff, Option.map_eq_some_iff] at h
    obtain ⟨⟨seen, items⟩, hdeliver, screen, hscreen, turn, hturn, rfl⟩ := h
    by_cases hd : d = d'
    · subst hd
      have hself : turn.screen = some screen' := by
        change Function.update s.system.screens d turn.screen d = some screen' at hscreen'
        rwa [Function.update_self] at hscreen'
      refine ⟨screen, hscreen, ?_⟩
      simp only [Screen.act] at hturn
      split at hturn
      · cases hturn
      · cases hturn
        refine .items hdeliver ‹_› hself rfl ?_ ?_
        · rw [Listening.orders_attached hscreen']
          rfl
        · rw [Listening.items_attached hscreen']
          simp only [Function.update_self]
          rfl
    · exact seenBy_elsewhere hd rfl rfl (Function.update_of_ne hd ..) hscreen'
  | other e =>
    simp only [listeningStep] at h
    split at h
    · cases h
    · rename_i hsnapshot
      obtain ⟨system, hstep, rfl⟩ := Option.map_eq_some_iff.mp h
      exact seenBy_other hsnapshot hstep hscreen' (Listening.orders_attached hscreen')
        (Listening.items_attached hscreen')

/-- A step is a snapshot, which leaves the operations alone, or a step of the system. -/
theorem listeningStep_system {e : ListeningEvent D} (h : listeningStep uid s e = some s') :
    s'.system.service = s.system.service ∨
      ∃ e', e = .other e' ∧ systemStep uid s.system e' = some s'.system := by
  cases e with
  | orderSnapshot d k =>
    simp only [listeningStep, Option.bind_eq_some_iff, Option.map_eq_some_iff] at h
    obtain ⟨_, -, _, -, _, -, rfl⟩ := h
    exact Or.inl rfl
  | itemsSnapshot d k =>
    simp only [listeningStep, Option.bind_eq_some_iff, Option.map_eq_some_iff] at h
    obtain ⟨_, -, _, -, _, -, rfl⟩ := h
    exact Or.inl rfl
  | other e =>
    simp only [listeningStep] at h
    split at h
    · cases h
    · obtain ⟨system, hstep, rfl⟩ := Option.map_eq_some_iff.mp h
      exact Or.inr ⟨e, rfl, hstep⟩

/-! ## What a reply writes -/

omit [DecidableEq D] in
/-- A document of the bag that a reply does not write stays as it is. -/
theorem lookup_of_notMem_written {b b' : BagState D orderId} {n : ℕ} {d : D} {op : BagOp orderId}
    {r : Reply} (h : Proceeded uid b n d op r b') {p : Path}
    (hp : p = orderRef uid orderId ∨ IsItem uid orderId p) (hnot : p ∉ op.written uid b.store r) :
    b'.store.lookup p = b.store.lookup p := by
  have hpayment : ∀ token, p ≠ paymentRef uid token := by
    intro token
    rcases hp with rfl | hitem
    · exact (paymentRef_ne_orderRef uid orderId token).symm
    · obtain ⟨id, rfl⟩ := isItem_iff.mp hitem
      exact (paymentRef_ne_itemRef uid orderId token id).symm
  -- a delete of something that is not there changes nothing
  have hdelete : ∀ (q : Path) (ok : Bool), (ok = true → (b.store.lookup q).isSome → p ≠ q) →
      (b.delete q ok).store.lookup p = b.store.lookup p := by
    intro q ok hne
    by_cases hpq : p = q
    · subst hpq
      refine lookup_delete_eq ?_ p
      cases ok with
      | false => exact Or.inl rfl
      | true => exact Or.inr (Option.not_isSome_iff_eq_none.mp fun hsome => hne rfl hsome rfl)
    · rw [BagState.delete_store]
      split
      · exact Finmap.lookup_erase_ne hpq
      · rfl
  cases h with
  | ended answers hcommit hwritten hclear => rfl
  | @committed c ho store hadd =>
    unfold addItemToOrder at hadd
    cases hguard : c.guard with
    | none => simp only [hguard, reduceCtorEq] at hadd
    | some entry =>
      simp only [hguard] at hadd
      split at hadd
      · cases hadd
      · rename_i ws hws
        cases hadd
        refine lookup_applyWrites_of_notMem (fun w hw hpw => hnot ?_) _
        obtain ⟨dw, hdw, rfl⟩ := List.mem_map.mp hw
        simp only [BagOp.written, hguard, hws, Option.getD_some]
        exact List.mem_map.mpr ⟨dw, hdw, hpw.symm⟩
  | queried => rfl
  | deletedItem item items ok =>
    refine hdelete item ok fun hok hsome hpq => hnot ?_
    subst hok hpq
    simp [BagOp.written, hsome]
  | deletedOrder ok =>
    refine hdelete _ ok fun hok hsome hpq => hnot ?_
    subst hok hpq
    simp [BagOp.written, hsome]
  | read created hread => rfl
  | token hnew => rfl
  | paid c token created covers => exact Finmap.lookup_insert_of_ne _ (hpayment token)

omit [DecidableEq D] in
/-- A reply that does not write the order document adds no document to the bag. -/
theorem isSome_of_order_unwritten {b b' : BagState D orderId} {n : ℕ} {d : D}
    {op : BagOp orderId} {r : Reply} (h : Proceeded uid b n d op r b')
    (hnot : orderRef uid orderId ∉ op.written uid b.store r) {p : Path}
    (hp : p = orderRef uid orderId ∨ IsItem uid orderId p)
    (hsome : (b'.store.lookup p).isSome) : (b.store.lookup p).isSome := by
  by_cases hmem : p ∈ op.written uid b.store r
  · -- a document that is written without the order is deleted, so it was there
    cases h with
    | ended answers hcommit hwritten hclear => exact hsome
    | @committed c ho store hadd =>
      -- an add writes the order with the item
      refine absurd ?_ hnot
      simp only [BagOp.written] at hmem ⊢
      split at hmem
      · cases hmem
      · rename_i entry hguard
        obtain ⟨w, hw, -⟩ := List.mem_map.mp hmem
        cases hws : addItemBlock c entry (orderRef uid c.orderId)
            (itemRef uid c.orderId c.item.id) (b.store.lookup (orderRef uid c.orderId))
            (b.store.lookup (itemRef uid c.orderId c.item.id)) with
        | none =>
          rw [hws] at hw
          cases hw
        | some ws =>
          rw [hws, Option.getD_some] at hw
          obtain ⟨w', hw', hkey⟩ := (key_of_addItemBlock hws w hw).2
          exact List.mem_map.mpr ⟨w', hw', hkey.trans (by rw [ho])⟩
    | queried => exact hsome
    | deletedItem item items ok => exact isSome_of_delete hsome
    | deletedOrder ok => exact isSome_of_delete hsome
    | read created hread => exact hsome
    | token hnew => exact hsome
    | paid c token created covers =>
      cases hmem
  · rwa [lookup_of_notMem_written h hp hmem] at hsome

/-- The items are listed as they were when none of them has changed. -/
theorem itemDocuments_congr {store store' : Firestore}
    (h : ∀ p, IsItem uid orderId p → store'.lookup p = store.lookup p) :
    itemDocuments uid orderId store' = itemDocuments uid orderId store := by
  have hdocuments : store'.documents (itemsRef uid orderId) =
      store.documents (itemsRef uid orderId) := by
    unfold Firestore.documents
    congr 1
    ext p
    simp only [Finset.mem_filter, Finmap.mem_keys]
    refine and_congr_left fun hp => ?_
    rw [← Finmap.lookup_isSome, ← Finmap.lookup_isSome, h p hp]
  unfold itemDocuments
  rw [hdocuments]
  refine List.map_congr_left fun p hp => ?_
  rw [h p (Firestore.mem_documents.mp hp).1]

/-- There are items to list when an item is stored. -/
theorem itemDocuments_ne_nil {store : Firestore} :
    itemDocuments uid orderId store ≠ [] ↔
      ∃ id, (store.lookup (itemRef uid orderId id)).isSome := by
  rw [itemDocuments, Ne, List.map_eq_nil_iff, List.eq_nil_iff_forall_not_mem]
  push Not
  constructor
  · rintro ⟨p, hp⟩
    obtain ⟨hitem, hsome⟩ := Firestore.mem_documents.mp hp
    obtain ⟨id, rfl⟩ := isItem_iff.mp hitem
    exact ⟨id, hsome⟩
  · rintro ⟨id, hid⟩
    exact ⟨_, Firestore.mem_documents.mpr ⟨isItem_itemRef uid orderId id, hid⟩⟩

end

end Lidora
