import Lidora.BagListeners
import Lidora.OneChef

/-! # When the screen shows the stored bag

Every listener that `fetchOrder` and the order snapshots have attached stays, and each
snapshot of the items appends to `menus`, `order` and `orderDetails`, once for each item.
`fetchOrder` empties the first two only, and a completion of `clearOrder` or `placeOrder`
the last two only.  So the arrays hold the bag only where they were filled once from
nothing: two snapshots, or one with two items, and the provider is named twice
(`named_twice`).

The run is undisturbed for a device when it keeps to that.  Items reach its screen one at
a time and only while the screen is bare, from the last snapshot on its way, and with the
order that is stored; the bag is written only while the screen is bare; and a completion
that empties the bag finds no items on the screen.  Then whenever nothing is pending the
screen shows exactly the stored bag (`bag_shown`), if the bag is consistent, which is what
`Orderly` replies are for.

The invariant is a phase: the screen is bare, or has been emptied by `fetchOrder` and
waits for a filled bag (which it will never show rightly, as `orderDetails` is not empty),
or shows the bag.  A screen without items that listens to a filled bag has still something
to hear.
-/
namespace Lidora
open DocumentStore Runs Watching

/-- The order that is stored. -/
def storedOrder (uid orderId : String) (store : Firestore) : Option Order :=
  (store.lookup (orderRef uid orderId)).map (Order.init orderId)

/-- **The screen shows exactly the stored bag**: each item once, the order, the provider's
name once, and the order's quantity. -/
structure Screen.ShowsBag (uid orderId : String) (store : Firestore) (s : Screen) : Prop where
  menus : s.menus.Perm ((itemDocuments uid orderId store).map fun item => Menu.init item.1 item.2)
  order : s.order = (storedOrder uid orderId store).toList
  orderDetails : s.orderDetails = ((storedOrder uid orderId store).bind Order.providerName).toList
  title : s.TitleShows (((storedOrder uid orderId store).bind Order.quantity).getD 0)

/-- There is nothing of a bag on the screen. -/
def Screen.Bare (s : Screen) : Prop := s.menus = [] ∧ s.order = [] ∧ s.orderDetails = []

instance (s : Screen) : Decidable s.Bare := inferInstanceAs (Decidable (_ ∧ _ ∧ _))

/-- There is an order with items. -/
def FilledBag (uid orderId : String) (store : Firestore) : Prop :=
  (store.lookup (orderRef uid orderId)).isSome ∧ itemDocuments uid orderId store ≠ []

/-- The customer's document names no order but `orderId`. -/
def NamesOrder (uid orderId : String) (store : Firestore) : Prop :=
  ∀ data, store.lookup (refCurrentUser uid) = some data →
    ∀ id, (User.init uid data).orderId = some id → id = orderId

/-- The next snapshot of the items may be handled: it has no item, or it is the last one
for this listener and brings one item, and its order, to a bare screen. -/
def ItemsFit (uid orderId : String) (store : Firestore) (screen : Screen) (order : Order)
    (feed : List Firestore) : Prop :=
  ∀ seen ∈ feed.head?, (itemDocuments uid orderId seen).length = 0 ∨
    (itemDocuments uid orderId seen).length = 1 ∧ feed.length = 1 ∧ screen.Bare ∧
      storedOrder uid orderId store = some order

section
variable {D : Type} [DecidableEq D] {orderId : String}

/-- No operation is changing the bag and the device has heard all that its listeners have
to tell. -/
def NothingPending (d : D) (s : Listening D orderId) : Prop :=
  BagIdle s.system.service ∧ Idle (s.orders d) ∧ Idle (s.items d)

/-- **The step does not disturb the bag on the screen of `d`.** -/
def Undisturbed (goes : ℕ → Bool) (uid : String) (d : D) (s : Listening D orderId) :
    ListeningEvent D → Prop
  | .itemsSnapshot d' k => d' = d → ∀ screen ∈ s.system.screens d,
      ∀ listener ∈ screen.itemListeners[k]?, ∀ feed ∈ (s.items d)[k]?,
        ItemsFit uid orderId s.store screen listener.2 feed
  | .other (.reply n r) => Orderly goes uid s.system.service (.reply n r) ∧
      (writtenAt uid s.system.service (.reply n r) ≠ [] →
        ∀ screen ∈ s.system.screens d, screen.Bare)
  | .other (.answer k) => ∀ x ∈ s.system.service.answers[k]?, x.1 = d →
      x.2 = .clearOrder true ∨ x.2 = .placeOrder true →
        ∀ screen ∈ s.system.screens d, screen.menus = []
  | _ => True

instance (uid : String) (store : Firestore) (screen : Screen) (order : Order)
    (feed : List Firestore) : Decidable (ItemsFit uid orderId store screen order feed) := by
  unfold ItemsFit
  infer_instance

instance (d : D) (s : Listening D orderId) : Decidable (NothingPending d s) :=
  inferInstanceAs (Decidable (_ ∧ _ ∧ _))

instance (goes : ℕ → Bool) (uid : String) (d : D) (s : Listening D orderId)
    (e : ListeningEvent D) : Decidable (Undisturbed goes uid d s e) := by
  unfold Undisturbed
  split <;> infer_instance

end

/-! ## The phases of a screen -/

section
variable {uid orderId : String} {store store' : Firestore} {s s' : Screen}

/-- What the screen shows, and what is stored. -/
inductive Phase (uid orderId : String) (store : Firestore) (s : Screen) : Prop
  | bare (hbare : s.Bare) (htitle : s.TitleShows 0)
  /-- `fetchOrder` has emptied a screen that showed the bag. -/
  | waiting (hmenus : s.menus = []) (horder : s.order = []) (hdetails : s.orderDetails ≠ [])
      (hlistens : s.orderListeners ≠ []) (hfilled : FilledBag uid orderId store)
  | shown (hshows : s.ShowsBag uid orderId store) (hdetails : s.orderDetails ≠ [])
      (hfilled : FilledBag uid orderId store)

theorem Screen.TitleShows.congr {quantity : ℤ} (hs : s.TitleShows quantity)
    (h : s'.title = s.title) : s'.TitleShows quantity := by
  unfold Screen.TitleShows at hs ⊢
  rwa [h]

/-- Only in the first phase is the screen bare. -/
theorem Phase.of_bare (h : Phase uid orderId store s) (hbare : s.Bare) :
    Phase uid orderId store' s := by
  cases h with
  | bare hbare htitle => exact .bare hbare htitle
  | waiting hmenus horder hdetails hlistens hfilled => exact absurd hbare.2.2 hdetails
  | shown hshows hdetails hfilled => exact absurd hbare.2.2 hdetails

/-- What leaves the stored bag alone. -/
theorem Phase.of_sameBag (h : Phase uid orderId store s)
    (horder : store'.lookup (orderRef uid orderId) = store.lookup (orderRef uid orderId))
    (hitems : itemDocuments uid orderId store' = itemDocuments uid orderId store) :
    Phase uid orderId store' s := by
  have hstored : storedOrder uid orderId store' = storedOrder uid orderId store := by
    rw [storedOrder, horder, storedOrder]
  have hfills : FilledBag uid orderId store → FilledBag uid orderId store' := by
    rintro ⟨hsome, hne⟩
    exact ⟨by rwa [horder], by rwa [hitems]⟩
  cases h with
  | bare hbare htitle => exact .bare hbare htitle
  | waiting hmenus hempty hdetails hlistens hfilled =>
    exact .waiting hmenus hempty hdetails hlistens (hfills hfilled)
  | shown hshows hdetails hfilled =>
    refine .shown ⟨?_, ?_, ?_, ?_⟩ hdetails (hfills hfilled)
    · rw [hitems]
      exact hshows.menus
    · rw [hstored]
      exact hshows.order
    · rw [hstored]
      exact hshows.orderDetails
    · rw [hstored]
      exact hshows.title

/-- What leaves the bag on the screen alone. -/
theorem Phase.keep (h : Phase uid orderId store s) (hmenus : s'.menus = s.menus)
    (horder : s'.order = s.order) (hdetails : s'.orderDetails = s.orderDetails)
    (hlisteners : s'.orderListeners = s.orderListeners)
    (htitle : s'.title = s.title ∨ s'.TitleShows ((s.order.head?.bind Order.quantity).getD 0)) :
    Phase uid orderId store s' := by
  cases h with
  | bare hbare hshows =>
    refine .bare ⟨hmenus.trans hbare.1, horder.trans hbare.2.1, hdetails.trans hbare.2.2⟩ ?_
    rcases htitle with hsame | htitle
    · exact hshows.congr hsame
    · rwa [hbare.2.1] at htitle
  | waiting hnone hempty hnamed hlistens hfilled =>
    exact .waiting (hmenus.trans hnone) (horder.trans hempty) (by rwa [hdetails])
      (by rwa [hlisteners]) hfilled
  | shown hshows hnamed hfilled =>
    refine .shown ⟨?_, horder.trans hshows.order, hdetails.trans hshows.orderDetails, ?_⟩
      (by rwa [hdetails]) hfilled
    · rw [hmenus]
      exact hshows.menus
    · rcases htitle with hsame | htitle
      · exact hshows.title.congr hsame
      · -- the first order on the screen is the stored one
        rwa [hshows.order, Option.head?_toList] at htitle

/-- `fetchOrder` leaves a bare screen bare; a screen that showed the bag waits. -/
theorem Phase.refetch (h : Phase uid orderId store s) {id : String} (hr : s.Refetches id s') :
    Phase uid orderId store s' := by
  have hlistens : s'.orderListeners ≠ [] := by
    rw [hr.orderListeners]
    simp
  cases h with
  | bare hbare htitle =>
    exact .bare ⟨hr.menus, hr.order, hr.orderDetails.trans hbare.2.2⟩
      (htitle.congr hr.title)
  | waiting hmenus horder hdetails hold hfilled =>
    exact .waiting hr.menus hr.order (by rwa [hr.orderDetails]) hlistens hfilled
  | shown hshows hdetails hfilled =>
    -- the provider's name stays on the screen
    exact .waiting hr.menus hr.order (by rwa [hr.orderDetails]) hlistens hfilled

/-- A completion empties the bag on a screen without items. -/
theorem phase_of_empties (h : s.Empties s') (hmenus : s.menus = []) :
    Phase uid orderId store s' :=
  .bare ⟨h.menus.trans hmenus, h.order, h.orderDetails⟩ (Or.inr (Or.inl h.title))

/-- The first item on a bare screen. -/
theorem shows_of_receive {order : Order} {item : String × Doc} (hbare : s.Bare)
    (horder : storedOrder uid orderId store = some order)
    (hitem : itemDocuments uid orderId store = [item])
    (h : s.receive order (Menu.init item.1 item.2) = some s') :
    s'.ShowsBag uid orderId store ∧ s'.orderDetails ≠ [] := by
  obtain ⟨hmenus, hempty, hdetails⟩ := hbare
  unfold Screen.receive at h
  split at h
  · rename_i quantity providerName hquantity hname
    cases h
    refine ⟨⟨?_, ?_, ?_, ?_⟩, ?_⟩
    · simp [Screen.setCardState, hmenus, hitem]
    · simp [Screen.setCardState, hempty, horder]
    · simp [Screen.setCardState, hdetails, horder, hname]
    · rw [horder, Option.bind_some, hquantity]
      exact Or.inr (Or.inr rfl)
    · simp [Screen.setCardState]
  · cases h

theorem listeners_of_receive {order : Order} {menu : Menu} (h : s.receive order menu = some s') :
    s'.orderListeners = s.orderListeners ∧ s'.itemListeners = s.itemListeners := by
  unfold Screen.receive at h
  split at h
  · cases h
    exact ⟨rfl, rfl⟩
  · cases h

/-! ## A screen with its listeners -/

/-- What holds of one device: its user and its listeners are about the order `orderId`,
each listener has a feed, whose last snapshot is of the bag as it is, and a screen without
items that listens to a filled bag has something to hear. -/
structure ScreenInv (uid orderId : String) (store : Firestore) (orders items : Feeds Firestore)
    (s : Screen) : Prop where
  user : ∀ id, s.user.bind User.orderId = some id → id = orderId
  orderIds : ∀ id ∈ s.orderListeners, id = orderId
  itemIds : ∀ listener ∈ s.itemListeners, listener.1 = orderId
  orderFeeds : orders.length = s.orderListeners.length
  itemFeeds : items.length = s.itemListeners.length
  ordersCurrent : Current (fun store => store.lookup (orderRef uid orderId)) store orders
  itemsCurrent : Current (itemDocuments uid orderId) store items
  phase : Phase uid orderId store s
  awaited : s.menus = [] → s.orderListeners ≠ [] → FilledBag uid orderId store →
    ¬ (Idle orders ∧ Idle items)

variable {orders items orders' items' : Feeds Firestore}

/-- What a step leaves to show when it attaches no listener. -/
theorem ScreenInv.listening (h : ScreenInv uid orderId store orders items s)
    (horders : s'.orderListeners = s.orderListeners) (hitems : s'.itemListeners = s.itemListeners)
    (horderFeeds : orders'.length = s.orderListeners.length)
    (hitemFeeds : items'.length = s.itemListeners.length)
    (hordersCurrent : Current (fun store => store.lookup (orderRef uid orderId)) store orders')
    (hitemsCurrent : Current (itemDocuments uid orderId) store items')
    (huser : ∀ id, s'.user.bind User.orderId = some id → id = orderId)
    (hphase : Phase uid orderId store s')
    (hawaited : s'.menus = [] → s.orderListeners ≠ [] → FilledBag uid orderId store →
      ¬ (Idle orders' ∧ Idle items')) :
    ScreenInv uid orderId store (attach orders' s'.orderListeners.length store)
      (attach items' s'.itemListeners.length store) s' := by
  rw [horders, hitems, attach_of_length horderFeeds, attach_of_length hitemFeeds]
  refine ⟨huser, ?_, ?_, ?_, ?_, hordersCurrent, hitemsCurrent, hphase, ?_⟩
  · rw [horders]
    exact h.orderIds
  · rw [hitems]
    exact h.itemIds
  · rw [horders]
    exact horderFeeds
  · rw [hitems]
    exact hitemFeeds
  · rw [horders]
    exact hawaited

/-- A snapshot of the order. -/
theorem screenInv_order (h : ScreenInv uid orderId store orders items s) {k : ℕ} {id : String}
    {seen : Firestore} (hdeliver : deliver orders k = some (seen, orders'))
    (hlistener : s.orderListeners[k]? = some id)
    (hscreen : s' = s.orderSnapshot id (seen.lookup (orderRef uid id))) :
    ScreenInv uid orderId store (attach orders' s'.orderListeners.length store)
      (attach items s'.itemListeners.length store) s' := by
  have hid : id = orderId := h.orderIds id (List.mem_of_getElem? hlistener)
  subst hid
  have hlength : orders'.length = s.orderListeners.length :=
    (length_deliver hdeliver).trans h.orderFeeds
  have hcurrent := h.ordersCurrent.deliver hdeliver
  cases hdocument : seen.lookup (orderRef uid id) with
  | none =>
    rw [hdocument] at hscreen
    subst hscreen
    refine h.listening rfl rfl hlength h.itemFeeds hcurrent h.itemsCurrent h.user
      (h.phase.keep rfl rfl rfl rfl (Or.inl rfl)) fun _ _ hfilled hidle => ?_
    -- had all been heard, the order would be stored no more
    have hview := h.ordersCurrent.view_of_idle hdeliver hidle.1
    rw [hdocument] at hview
    have hsome := hfilled.1
    rw [← hview] at hsome
    cases hsome
  | some data =>
    rw [hdocument] at hscreen
    subst hscreen
    have hlonger : items.length < (s.itemListeners ++ [(id, Order.init id data)]).length := by
      rw [h.itemFeeds, List.length_append, List.length_singleton]
      omega
    change ScreenInv uid id store (attach orders' s.orderListeners.length store)
      (attach items (s.itemListeners ++ [(id, Order.init id data)]).length store) _
    rw [attach_of_length hlength]
    refine ⟨h.user, h.orderIds, ?_, hlength, length_attach hlonger.le, hcurrent,
      h.itemsCurrent.attach _, h.phase.keep rfl rfl rfl rfl (Or.inl rfl),
      fun _ _ _ hidle => not_idle_attach hlonger hidle.2⟩
    intro listener hlistener'
    rcases List.mem_append.mp hlistener' with hold | hnew
    · exact h.itemIds listener hold
    · rw [List.mem_singleton.mp hnew]

/-- A snapshot of the items. -/
theorem screenInv_items (h : ScreenInv uid orderId store orders items s) {k : ℕ} {id : String}
    {order : Order} {seen : Firestore} (hdeliver : deliver items k = some (seen, items'))
    (hlistener : s.itemListeners[k]? = some (id, order))
    (hfit : ∀ feed ∈ items[k]?, ItemsFit uid orderId store s order feed)
    (hscreen : s.itemsSnapshot order (itemDocuments uid id seen) = some s') :
    ScreenInv uid orderId store (attach orders s'.orderListeners.length store)
      (attach items' s'.itemListeners.length store) s' := by
  have hid : id = orderId := h.itemIds (id, order) (List.mem_of_getElem? hlistener)
  subst hid
  have hlength : items'.length = s.itemListeners.length :=
    (length_deliver hdeliver).trans h.itemFeeds
  have hcurrent := h.itemsCurrent.deliver hdeliver
  obtain ⟨rest, hk, -⟩ := deliver_spec hdeliver
  rcases hfit (seen :: rest) hk seen rfl with hnone | ⟨hone, hlast, hbare, horder⟩
  · -- nothing is appended
    have hnil := List.length_eq_zero_iff.mp hnone
    rw [hnil] at hscreen
    cases hscreen
    refine h.listening rfl rfl h.orderFeeds hlength h.ordersCurrent hcurrent h.user h.phase
      fun _ _ hfilled hidle => hfilled.2 ?_
    rw [← h.itemsCurrent.view_of_idle hdeliver hidle.2, hnil]
  · have hrest : rest = [] := List.length_eq_zero_iff.mp (Nat.succ.inj hlast)
    subst hrest
    obtain ⟨item, hitem⟩ := List.length_eq_one_iff.mp hone
    have hstored : itemDocuments uid id store = [item] :=
      (h.itemsCurrent.view_of_last hk).symm.trans hitem
    rw [hitem] at hscreen
    have hreceive : s.receive order (Menu.init item.1 item.2) = some s' := by
      simpa [Screen.itemsSnapshot] using hscreen
    obtain ⟨hshows, hdetails⟩ := shows_of_receive hbare horder hstored hreceive
    have hfilled : FilledBag uid id store := by
      refine ⟨?_, by simp [hstored]⟩
      obtain ⟨data, hdata, -⟩ := Option.map_eq_some_iff.mp horder
      rw [hdata]
      rfl
    obtain ⟨horders, hitems⟩ := listeners_of_receive hreceive
    refine h.listening horders hitems h.orderFeeds hlength h.ordersCurrent hcurrent ?_
      (.shown hshows hdetails hfilled) fun hmenus => ?_
    · rw [Screen.user_receive hreceive]
      exact h.user
    · have hperm := hshows.menus
      rw [hmenus, hstored] at hperm
      cases hperm.length_eq

/-- Any other event of the device, over a store that stays as it is. -/
theorem screenInv_moved (h : ScreenInv uid orderId store orders items s)
    (hnames : NamesOrder uid orderId store)
    (heffect : s.KeepsBag s' ∨ (∃ id, (s.user.bind User.orderId = some id ∨ ∃ data,
      store.lookup (refCurrentUser uid) = some data ∧ (User.init uid data).orderId = some id) ∧
        s.Refetches id s') ∨ s.menus = [] ∧ s.Empties s')
    (huser : s'.user = s.user ∨ s'.user = none ∨ ∃ data,
      store.lookup (refCurrentUser uid) = some data ∧ s'.user = some (User.init uid data)) :
    ScreenInv uid orderId store (attach orders s'.orderListeners.length store)
      (attach items s'.itemListeners.length store) s' := by
  have hown : ∀ id, s'.user.bind User.orderId = some id → id = orderId := by
    intro id hid
    rcases huser with hsame | hnone | ⟨data, hdata, hinit⟩
    · rw [hsame] at hid
      exact h.user id hid
    · rw [hnone] at hid
      cases hid
    · rw [hinit] at hid
      exact hnames data hdata id hid
  rcases heffect with hkeeps | ⟨id, hid, hrefetches⟩ | ⟨hnil, hempties⟩
  · exact h.listening hkeeps.orderListeners hkeeps.itemListeners h.orderFeeds h.itemFeeds
      h.ordersCurrent h.itemsCurrent hown
      (h.phase.keep hkeeps.menus hkeeps.order hkeeps.orderDetails hkeeps.orderListeners
        hkeeps.title)
      fun hnil => h.awaited (hkeeps.menus.symm.trans hnil)
  · -- a new listener, with a snapshot on its way
    have hmine : id = orderId := by
      rcases hid with hold | ⟨data, hdata, hnew⟩
      · exact h.user id hold
      · exact hnames data hdata id hnew
    have hlonger : orders.length < s'.orderListeners.length := by
      rw [h.orderFeeds, hrefetches.orderListeners, List.length_append, List.length_singleton]
      omega
    have hitems : items.length = s'.itemListeners.length := by
      rw [hrefetches.itemListeners, h.itemFeeds]
    rw [attach_of_length hitems]
    refine ⟨hown, ?_, ?_, length_attach hlonger.le, hitems, h.ordersCurrent.attach _,
      h.itemsCurrent, h.phase.refetch hrefetches,
      fun _ _ _ hidle => not_idle_attach hlonger hidle.1⟩
    · rw [hrefetches.orderListeners]
      intro listener hlistener
      rcases List.mem_append.mp hlistener with hold | hnew
      · exact h.orderIds listener hold
      · rw [List.mem_singleton.mp hnew, hmine]
    · rw [hrefetches.itemListeners]
      exact h.itemIds
  · exact h.listening hempties.orderListeners hempties.itemListeners h.orderFeeds h.itemFeeds
      h.ordersCurrent h.itemsCurrent hown (phase_of_empties hempties hnil) fun _ => h.awaited hnil

end

/-! ## Replies -/

section
variable {D : Type} {uid orderId : String}

/-- The bag is filled after a reply that does not write the order only if it was. -/
theorem filledBag_of_unwritten {b b' : BagState D orderId} {n : ℕ} {d : D} {op : BagOp orderId}
    {r : Reply} (h : Proceeded uid b n d op r b')
    (hnot : orderRef uid orderId ∉ op.written uid b.store r)
    (hfilled : FilledBag uid orderId b'.store) : FilledBag uid orderId b.store := by
  obtain ⟨id, hid⟩ := itemDocuments_ne_nil.mp hfilled.2
  have hitem := isSome_of_order_unwritten h hnot (Or.inr (isItem_itemRef uid orderId id)) hid
  exact ⟨isSome_of_order_unwritten h hnot (Or.inl rfl) hfilled.1,
    itemDocuments_ne_nil.mpr ⟨id, hitem⟩⟩

/-- A reply.  One that writes documents of the bag finds the screen bare. -/
theorem screenInv_replied {b b' : BagState D orderId} {n : ℕ} {d : D} {op : BagOp orderId}
    {r : Reply} (hmoved : Proceeded uid b n d op r b') {orders items : Feeds Firestore}
    {s : Screen} (h : ScreenInv uid orderId b.store orders items s)
    (hbare : op.written uid b.store r ≠ [] → s.Bare) :
    ScreenInv uid orderId b'.store
      (attach (publishTo (· = orderRef uid orderId) (op.written uid b.store r) orders b'.store)
        s.orderListeners.length b'.store)
      (attach (publishTo (IsItem uid orderId) (op.written uid b.store r) items b'.store)
        s.itemListeners.length b'.store) s := by
  have horder : orderRef uid orderId ∉ op.written uid b.store r →
      b'.store.lookup (orderRef uid orderId) = b.store.lookup (orderRef uid orderId) :=
    lookup_of_notMem_written hmoved (Or.inl rfl)
  have hitems : (∀ p ∈ op.written uid b.store r, ¬ IsItem uid orderId p) →
      itemDocuments uid orderId b'.store = itemDocuments uid orderId b.store := by
    intro hnone
    refine itemDocuments_congr fun p hp => lookup_of_notMem_written hmoved (Or.inr hp) ?_
    exact fun hmem => hnone p hmem hp
  rw [attach_of_length (length_publishTo.trans h.orderFeeds),
    attach_of_length (length_publishTo.trans h.itemFeeds)]
  refine ⟨h.user, h.orderIds, h.itemIds, length_publishTo.trans h.orderFeeds,
    length_publishTo.trans h.itemFeeds, h.ordersCurrent.publishTo fun hnone => ?_,
    h.itemsCurrent.publishTo hitems, ?_, fun hmenus hne hfilled hidle => ?_⟩
  · exact horder fun hmem => hnone _ hmem rfl
  · by_cases hnothing : op.written uid b.store r = []
    · -- the bag is as it was
      exact h.phase.of_sameBag (horder (by simp [hnothing])) (hitems (by simp [hnothing]))
    · exact h.phase.of_bare (hbare hnothing)
  · by_cases hmem : orderRef uid orderId ∈ op.written uid b.store r
    · -- the order's listeners are told
      refine absurd hidle.1 (not_idle_publishTo hmem rfl ?_)
      intro hnil
      have hlength := h.orderFeeds
      rw [hnil, List.length_nil] at hlength
      exact hne (List.length_eq_zero_iff.mp hlength.symm)
    · -- the bag was filled before, and then something was on its way already
      exact h.awaited hmenus hne (filledBag_of_unwritten hmoved hmem hfilled)
        ⟨idle_of_publishTo hidle.1, idle_of_publishTo hidle.2⟩

end

/-! ## Undisturbed runs -/

section
variable {D : Type} [DecidableEq D] {goes : ℕ → Bool} {uid orderId : String} {d : D}
  {s s' : Listening D orderId}

/-- The invariant of the runs that are undisturbed for `d`. -/
structure ShownInv (goes : ℕ → Bool) (uid : String) (d : D) (s : Listening D orderId) : Prop where
  clears : ClearInv goes uid s.system.service
  names : NamesOrder uid orderId s.store
  screen : ∀ screen, s.system.screens d = some screen →
    ScreenInv uid orderId s.store (s.orders d) (s.items d) screen

/-- Undisturbed replies are orderly. -/
theorem clears_step (hi : ClearInv goes uid s.system.service) {e : ListeningEvent D}
    (hP : Undisturbed goes uid d s e) (h : listeningStep uid s e = some s') :
    ClearInv goes uid s'.system.service := by
  rcases listeningStep_system h with hsame | ⟨e', rfl, hstep⟩
  · rw [hsame]
    exact hi
  · rcases systemStep_service hstep with ⟨-, hsame | ⟨e'', hstep', hne⟩⟩ | ⟨n, r, rfl, hstep'⟩
    · rw [hsame]
      exact hi
    · refine clearInv_step hi ?_ hstep'
      cases e'' with
      | reply n r => exact absurd rfl (hne n r)
      | call d c => trivial
      | handle k => trivial
    · exact clearInv_step hi hP.1 hstep'

theorem names_step (hi : NamesOrder uid orderId s.store) {e : ListeningEvent D}
    (h : listeningStep uid s e = some s') : NamesOrder uid orderId s'.store := by
  intro data hdata
  rcases listeningStep_system h with hsame | ⟨e', -, hstep⟩
  · rw [Listening.store, hsame] at hdata
    exact hi data hdata
  · rcases customer_systemStep hstep with hsame | hnone
    · exact hi data (hsame.symm.trans hdata)
    · cases hnone.symm.trans hdata

/-- A device that has just been started shows nothing and listens to nothing. -/
theorem screenInv_initial (uid orderId : String) (store : Firestore) :
    ScreenInv uid orderId store [] [] Screen.initial where
  user := by
    intro id hid
    cases hid
  orderIds := by simp [Screen.initial]
  itemIds := by simp [Screen.initial]
  orderFeeds := rfl
  itemFeeds := rfl
  ordersCurrent := by simp [Current]
  itemsCurrent := by simp [Current]
  phase := .bare ⟨rfl, rfl, rfl⟩ (Or.inr (Or.inl rfl))
  awaited := fun _ hlistens => absurd rfl hlistens

theorem shownInv_initial (d : D) {store : Firestore} (hp : BagPriced uid orderId store)
    (hc : ConsistentBag uid orderId store) (hnames : NamesOrder uid orderId store) :
    ShownInv goes uid d (Listening.initial orderId store : Listening D orderId) where
  clears := clearInv_initial hp hc
  names := hnames
  screen := by
    intro screen hscreen
    cases hscreen
    exact screenInv_initial uid orderId store

/-- **One undisturbed step.** -/
theorem shownInv_step (hi : ShownInv goes uid d s) {e : ListeningEvent D}
    (hP : Undisturbed goes uid d s e) (h : listeningStep uid s e = some s') :
    ShownInv goes uid d s' := by
  refine ⟨clears_step hi.clears hP h, names_step hi.names h, fun screen' hscreen' => ?_⟩
  obtain ⟨screen, hscreen, hseen⟩ := listeningStep_seenBy h hscreen'
  have hbefore := hi.screen screen hscreen
  cases hseen with
  | order hdeliver hlistener hsnapshot hservice horders hitems =>
    have hstore : s'.store = s.store := congrArg BagState.store hservice
    rw [horders, hitems, hstore]
    exact screenInv_order hbefore hdeliver hlistener hsnapshot
  | items hdeliver hlistener hsnapshot hservice horders hitems =>
    have hstore : s'.store = s.store := congrArg BagState.store hservice
    rw [horders, hitems, hstore]
    exact screenInv_items hbefore hdeliver hlistener
      (hP rfl screen hscreen _ hlistener) hsnapshot
  | moved hstore horders hitems heffect huser =>
    rw [horders, hitems, hstore]
    refine screenInv_moved hbefore hi.names ?_ huser
    rcases heffect with hkeeps | hrefetches | ⟨k, a, rfl, hanswer, ha, hempties⟩
    · exact Or.inl hkeeps
    · exact Or.inr (Or.inl hrefetches)
    · exact Or.inr (Or.inr ⟨hP (d, a) hanswer rfl ha screen hscreen, hempties⟩)
  | @replied n r d' op hrun hmoved hsame horders hitems =>
    rw [horders, hitems, hsame]
    refine screenInv_replied hmoved hbefore fun hwritten => hP.2 ?_ screen hscreen
    rw [writtenAt, hrun]
    exact hwritten

omit [DecidableEq D] in
/-- With nothing pending, a screen that listens shows the bag. -/
theorem ShownInv.shows (hi : ShownInv goes uid d s) (hrest : NothingPending d s) {screen : Screen}
    (hscreen : s.system.screens d = some screen) (hlistens : screen.orderListeners ≠ []) :
    screen.ShowsBag uid orderId s.store := by
  obtain ⟨hidle, hheard⟩ := hrest
  have hinv := hi.screen screen hscreen
  have hconsistent := consistent_of_idle hi.clears hidle
  cases hinv.phase with
  | bare hbare htitle =>
    -- a bag that is filled would be heard of, so there is none
    have hempty : ¬ FilledBag uid orderId s.store := fun hfilled =>
      hinv.awaited hbare.1 hlistens hfilled hheard
    have horder : s.store.lookup (orderRef uid orderId) = none := by
      rw [← Option.not_isSome_iff_eq_none]
      intro hsome
      exact hempty ⟨hsome, itemDocuments_ne_nil.mpr (hconsistent.both.mp hsome)⟩
    have hitems : itemDocuments uid orderId s.store = [] := by
      by_contra hne
      have hsome := hconsistent.both.mpr (itemDocuments_ne_nil.mp hne)
      exact hempty ⟨hsome, hne⟩
    have hstored : storedOrder uid orderId s.store = none := by
      rw [storedOrder, horder, Option.map_none]
    refine ⟨?_, ?_, ?_, ?_⟩
    · rw [hbare.1, hitems, List.map_nil]
    · rw [hbare.2.1, hstored, Option.toList_none]
    · rw [hbare.2.2, hstored, Option.bind_none, Option.toList_none]
    · rw [hstored]
      exact htitle
  | waiting hmenus horder hdetails hlistens' hfilled =>
    exact absurd hheard (hinv.awaited hmenus hlistens' hfilled)
  | shown hshows hdetails hfilled => exact hshows

end

/-- **In undisturbed runs the screen shows the stored bag.**  From a consistent bag that
decodes, for any device: if each step of the run leaves its screen undisturbed, then with
nothing pending the screen, once it listens to the order, shows exactly the stored bag. -/
theorem bag_shown {D : Type} [DecidableEq D] (uid orderId : String) (store : Firestore)
    (hp : BagPriced uid orderId store) (hc : ConsistentBag uid orderId store)
    (hnames : NamesOrder uid orderId store) (goes : ℕ → Bool) (d : D)
    (es : List (ListeningEvent D))
    (hP : Along (listeningStep uid) (Undisturbed goes uid d) (Listening.initial orderId store) es)
    (s : Listening D orderId)
    (h : run (listeningStep uid) (Listening.initial orderId store) es = some s)
    (hrest : NothingPending d s) (screen : Screen) (hscreen : s.system.screens d = some screen)
    (hlistens : screen.orderListeners ≠ []) : screen.ShowsBag uid orderId s.store := by
  have hinv : ShownInv goes uid d s :=
    run_invariant_along (ShownInv goes uid d) (fun _ _ _ hi hP h => shownInv_step hi hP h)
      (shownInv_initial d hp hc hnames) hP h
  exact hinv.shows hrest hscreen hlistens

/-! ## The first soup -/

/-- The bag appears on a device, and the customer is fetched. -/
def appears {D : Type} (d : D) : List (ListeningEvent D) :=
  [.other (.screen d .fetchData), .other (.screen d (.userFetched true))]

/-- Soup is selected on a device and added to the bag. -/
def addsSoup {D : Type} (d : D) : List (ListeningEvent D) :=
  [.other (.screen d (.didSelect (sampleDish "soup" 10) (some (sampleChef "ana")) true)),
    .other (.screen d .addToOrder), .other (.reply 0 .committed), .other (.answer 0)]

/-- The soup goes into the bag on one device, and another one, which listens to the order
already, is told of it. -/
def soupElsewhere : List (ListeningEvent Bool) :=
  appears true ++ [.orderSnapshot true 0] ++ appears false ++ addsSoup false ++
    [.orderSnapshot true 0, .itemsSnapshot true 0]

/-- The soup goes into the bag on the only device, which is told of the order by both of
its listeners. -/
def firstSoup : List (ListeningEvent Unit) :=
  appears () ++ addsSoup () ++ [.orderSnapshot () 0, .orderSnapshot () 0, .orderSnapshot () 1,
    .itemsSnapshot () 0, .itemsSnapshot () 1]

theorem namesOrder_customerStore : NamesOrder "uid" "bag" customerStore := by
  intro data hdata id hid
  rw [customerStore, Firestore.setData, Finmap.lookup_insert] at hdata
  cases hdata
  cases hid
  rfl

theorem bag_shown_elsewhere : ∃ (s : Listening Bool "bag") (screen : Screen),
    run (listeningStep "uid") (Listening.initial "bag" customerStore) soupElsewhere = some s ∧
      s.system.screens true = some screen ∧ screen.orderDetails = ["Ana"] ∧
      screen.ShowsBag "uid" "bag" s.store := by
  have hrun : (run (listeningStep "uid")
      (Listening.initial "bag" customerStore : Listening Bool "bag") soupElsewhere).map
      (fun s => decide (NothingPending true s ∧ (s.system.screens true).isSome ∧ ∀ screen ∈ s.system.screens true,
          screen.orderListeners ≠ [] ∧ screen.orderDetails = ["Ana"])) = some true := by
    decide +kernel
  obtain ⟨s, hs, hdecide⟩ := Option.map_eq_some_iff.mp hrun
  obtain ⟨hrest, hup, hfacts⟩ := of_decide_eq_true hdecide
  obtain ⟨screen, hscreen⟩ := Option.isSome_iff_exists.mp hup
  obtain ⟨hlistens, hdetails⟩ := hfacts screen hscreen
  exact ⟨s, screen, hs, hscreen, hdetails, bag_shown "uid" "bag" customerStore
    emptyBag_customerStore.priced emptyBag_customerStore.consistent namesOrder_customerStore
    (fun _ => true) true soupElsewhere (by decide +kernel) s hs hrest screen hscreen hlistens⟩

/-- **The provider is named twice.**  With one dish in the bag and nothing pending, neither
an answer nor a snapshot, every array of the screen holds it twice. -/
theorem named_twice : ∃ (s : Listening Unit "bag") (screen : Screen),
    run (listeningStep "uid") (Listening.initial "bag" customerStore) firstSoup = some s ∧
      NothingPending () s ∧ s.system.service.answers = [] ∧ s.system.screens () = some screen ∧
      screen.orderListeners ≠ [] ∧ screen.orderDetails = ["Ana", "Ana"] ∧
      screen.menus.length = 2 ∧ screen.order.length = 2 ∧
      ¬ screen.ShowsBag "uid" "bag" s.store := by
  have hrun : (run (listeningStep "uid")
      (Listening.initial "bag" customerStore : Listening Unit "bag") firstSoup).map
      (fun s => decide (NothingPending () s ∧ s.system.service.answers = [] ∧
        (s.system.screens ()).isSome ∧ ∀ screen ∈ s.system.screens (),
          screen.orderListeners ≠ [] ∧ screen.orderDetails = ["Ana", "Ana"] ∧
            screen.menus.length = 2 ∧ screen.order.length = 2)) = some true := by decide +kernel
  obtain ⟨s, hs, hdecide⟩ := Option.map_eq_some_iff.mp hrun
  obtain ⟨hrest, hanswers, hup, hfacts⟩ := of_decide_eq_true hdecide
  obtain ⟨screen, hscreen⟩ := Option.isSome_iff_exists.mp hup
  obtain ⟨hlistens, hdetails, hmenus, horder⟩ := hfacts screen hscreen
  refine ⟨s, screen, hs, hrest, hanswers, hscreen, hlistens, hdetails, hmenus, horder,
    fun hshows => ?_⟩
  -- an order has one provider
  have hone := hshows.orderDetails
  rw [hdetails] at hone
  cases hname : (storedOrder "uid" "bag" s.store).bind Order.providerName with
  | none =>
    rw [hname] at hone
    cases hone
  | some name =>
    rw [hname] at hone
    cases hone

end Lidora
