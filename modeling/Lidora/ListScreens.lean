import Lidora.FetchedList
import Lidora.PaymentMethods

/-! # Orders, menus and cards on their screens

`OrdersViewController`, `MenuViewController` and `PaymentListViewController` fill a list by
fetches.  `fetchPastOrders`, `fetchUpcomingOrders` and `loadCards` clear their list when
they are called, `fetchMenu` does not; the callbacks append an order or a dish and put a
card in front.  None of them looks at what the screen has asked for since.

So after a switch of the segment with a fetch on its way the past orders stand among the
upcoming ones, and a menu that appears twice lists every dish twice (`lists_mixed`).  When
the lists are right is said by `lists_iff`, for all three of them, by the rules of
`FetchedList`.  The documents are taken as they are stored; that they change is left out.
-/
namespace Lidora
open DocumentStore Runs FetchedList

/-- `OrderType`, the segments of `OrdersViewController`. -/
inductive OrderType where
  | past
  | upcoming
  deriving DecidableEq

/-- The documents of a collection, decoded, in the order of their ids. -/
def decodedDocuments {α : Type} (init : String → Doc → α) (coll : Path) (s : Firestore) : List α :=
  (s.documents coll).map fun p => init (p.getLastD "") ((s.lookup p).getD Doc.empty)

/-- `fetchPastOrders` of `DataService`. -/
def fetchPastOrders (uid : String) (s : Firestore) : List Order :=
  decodedDocuments Order.init (refCurrentUser uid ++ ["past_orders"]) s

/-- `fetchUpcomingOrders` of `DataService`. -/
def fetchUpcomingOrders (uid : String) (s : Firestore) : List Order :=
  decodedDocuments Order.init (refCurrentUser uid ++ ["upcoming_orders"]) s

/-- `fetchMenu` of `DataService`. -/
def fetchMenu (chefId : String) (s : Firestore) : List Menu :=
  decodedDocuments Menu.init ["chefs", chefId, "menu"] s

/-- `orders` of `OrdersViewController`: `viewDidLoad` fetches the past orders, and
`switchOrderType` those of the segment. -/
def ordersViewController (uid : String) (s : Firestore) : Filling OrderType Order where
  docs
    | .past => fetchPastOrders uid s
    | .upcoming => fetchUpcomingOrders uid s
  clears := true
  put orders order := orders ++ [order]
  put_perm orders order := List.perm_append_singleton order orders

/-- `menus` of `MenuViewController`, which fetches them whenever it appears. -/
def menuViewController (chefId : String) (s : Firestore) : Filling Unit Menu where
  docs _ := fetchMenu chefId s
  clears := false
  put menus menu := menus ++ [menu]
  put_perm menus menu := List.perm_append_singleton menu menus

/-- `cards` of `PaymentListViewController`, which loads them whenever it appears. -/
def paymentListViewController (uid : String) (s : Firestore) : Filling Unit Card where
  docs _ := fetchPaymentMethods uid s
  clears := true
  put cards card := card :: cards
  put_perm _ _ := List.Perm.refl _

/-- The three screens. -/
inductive ListScreen where
  | orders
  | menus
  | cards

namespace ListScreen

/-- What can be selected. -/
abbrev Selection : ListScreen → Type
  | .orders => OrderType
  | .menus => Unit
  | .cards => Unit

/-- What is listed. -/
abbrev Item : ListScreen → Type
  | .orders => Order
  | .menus => Menu
  | .cards => Card

/-- How the screen fills its list, for the customer and the chef whose menu is shown. -/
def filling (uid chefId : String) (s : Firestore) : (v : ListScreen) → Filling v.Selection v.Item
  | .orders => ordersViewController uid s
  | .menus => menuViewController chefId s
  | .cards => paymentListViewController uid s

end ListScreen

/-- **When the lists are right.**  On each of the three screens, in every run: what is listed
and what is still on its way are the documents of the selection in every state if and only
if every step meets the condition; and when that is so, the list holds exactly the
documents of the selection, each once, whenever all fetches have been answered. -/
theorem lists_iff (uid chefId : String) (store : Firestore) (v : ListScreen)
    {es : List (Event v.Selection)} {t : State v.Selection v.Item}
    (h : run (v.filling uid chefId store).step State.initial es = some t) :
    ((∀ k s, run (v.filling uid chefId store).step State.initial (es.take k) = some s →
        (v.filling uid chefId store).Balanced s) ↔
      Along (v.filling uid chefId store).step (v.filling uid chefId store).KeepsBalance
        State.initial es) ∧
    (Along (v.filling uid chefId store).step (v.filling uid chefId store).KeepsBalance
        State.initial es →
      ∀ k s, run (v.filling uid chefId store).step State.initial (es.take k) = some s →
        s.pending = [] → (v.filling uid chefId store).Complete s) :=
  ⟨Filling.balanced_iff h, fun halong _ _ hk hpending =>
    Filling.complete_of_along h halong hk hpending⟩

/-! ## A switch too early, and a menu shown twice -/

/-- One past and one upcoming order, and a menu with one dish. -/
def orderedStore : Firestore :=
  (((∅ : Firestore).setData (refCurrentUser "uid" ++ ["past_orders", "old"])
      [("total", .double 10)]).setData (refCurrentUser "uid" ++ ["upcoming_orders", "new"])
      [("total", .double 20)]).setData ["chefs", "ana", "menu", "soup"] [("price", .double 10)]

/-- The segment is switched once the past orders are there. -/
def switchedInTime : List (Event OrderType) :=
  [.start .past, .answer 0 true, .start .upcoming, .answer 0 true]

/-- The segment is switched while the past orders are on their way. -/
def switchedTooEarly : List (Event OrderType) :=
  [.start .past, .start .upcoming, .answer 0 true, .answer 0 true]

/-- The menu appears, and appears again. -/
def menuTwice : List (Event Unit) :=
  [.start (), .answer 0 true, .start (), .answer 0 true]

theorem lists_iff_in_time : ∃ t,
    run (ListScreen.orders.filling "uid" "ana" orderedStore).step State.initial switchedInTime =
      some t ∧
    ((∀ k s, run (ListScreen.orders.filling "uid" "ana" orderedStore).step State.initial
          (switchedInTime.take k) = some s →
        (ListScreen.orders.filling "uid" "ana" orderedStore).Balanced s) ↔
      Along (ListScreen.orders.filling "uid" "ana" orderedStore).step
        (ListScreen.orders.filling "uid" "ana" orderedStore).KeepsBalance State.initial
        switchedInTime) ∧
    (Along (ListScreen.orders.filling "uid" "ana" orderedStore).step
        (ListScreen.orders.filling "uid" "ana" orderedStore).KeepsBalance State.initial
        switchedInTime →
      ∀ k s, run (ListScreen.orders.filling "uid" "ana" orderedStore).step State.initial
          (switchedInTime.take k) = some s →
        s.pending = [] → (ListScreen.orders.filling "uid" "ana" orderedStore).Complete s) := by
  have hsome : (run (ListScreen.orders.filling "uid" "ana" orderedStore).step State.initial
      switchedInTime).isSome := rfl
  obtain ⟨t, ht⟩ := Option.isSome_iff_exists.mp hsome
  exact ⟨t, ht, lists_iff "uid" "ana" orderedStore .orders ht⟩

/-- **Old orders among the new ones, and two soups on a menu of one dish.**  All fetches have
been answered in both runs, and neither list holds the documents of what is selected. -/
theorem lists_mixed :
    (∃ t, run (ListScreen.orders.filling "uid" "ana" orderedStore).step State.initial
        switchedTooEarly = some t ∧ t.pending = [] ∧ t.selected = some .upcoming ∧
      t.items.map Order.id = ["old", "new"] ∧
      ¬ (ListScreen.orders.filling "uid" "ana" orderedStore).Complete t) ∧
    ∃ t, run (ListScreen.menus.filling "uid" "ana" orderedStore).step State.initial menuTwice =
        some t ∧ t.pending = [] ∧ t.items.map Menu.id = ["soup", "soup"] ∧
      ¬ (ListScreen.menus.filling "uid" "ana" orderedStore).Complete t := by
  constructor
  · have hrun : (run (ListScreen.orders.filling "uid" "ana" orderedStore).step State.initial
        switchedTooEarly).map (fun t => decide (t.pending = [] ∧
          t.selected = some OrderType.upcoming ∧ t.items.map Order.id = ["old", "new"] ∧
          ((ListScreen.orders.filling "uid" "ana" orderedStore).wanted t).length <
            t.items.length)) = some true := by
      decide +kernel
    obtain ⟨t, ht, hfacts⟩ := Option.map_eq_some_iff.mp hrun
    obtain ⟨hpending, hselected, hids, hlength⟩ := of_decide_eq_true hfacts
    exact ⟨t, ht, hpending, hselected, hids, Filling.not_complete_of_length hlength⟩
  · have hrun : (run (ListScreen.menus.filling "uid" "ana" orderedStore).step State.initial
        menuTwice).map (fun t => decide (t.pending = [] ∧ t.items.map Menu.id = ["soup", "soup"] ∧
          ((ListScreen.menus.filling "uid" "ana" orderedStore).wanted t).length <
            t.items.length)) = some true := by
      decide +kernel
    obtain ⟨t, ht, hfacts⟩ := Option.map_eq_some_iff.mp hrun
    obtain ⟨hpending, hids, hlength⟩ := of_decide_eq_true hfacts
    exact ⟨t, ht, hpending, hids, Filling.not_complete_of_length hlength⟩

end Lidora
