import Lidora.BagScreen
import Lidora.OrderTotals

/-! # One bag, one chef

All items of a bag should come from the chef that the order document names
(`OneChef`).  The only check is in `OverView.addToOrder`, against the copy of the order
that the screen has; the transaction that writes the bag looks at no provider.  Where the
copy is missing or late, a dish of a second chef goes in (`two_chefs`).

What the bag depends on is the commits (`oneChef_iff`): it keeps to one chef exactly as
long as every add that commits joins an order of its own chef, or an item that the bag
has already, and every add that creates the order finds no items of another chef left
over from an earlier one.  When the check on the screen sees to that is in `ChefCheck`.
-/
namespace Lidora
open DocumentStore Runs

/-- Every stored item is from the chef that the order names, and no two items are from
different chefs. -/
structure OneChef (uid orderId : String) (s : Firestore) : Prop where
  provider : ∀ order id item, s.lookup (orderRef uid orderId) = some order →
    s.lookup (itemRef uid orderId id) = some item → item "destination" = order "provider_id"
  alike : ∀ id id' item item', s.lookup (itemRef uid orderId id) = some item →
    s.lookup (itemRef uid orderId id') = some item' → item "destination" = item' "destination"

/-- The call adds a dish of the bag's own chef. -/
def FromBagChef (uid orderId : String) (s : Firestore) (c : AddCall) : Prop :=
  match s.lookup (orderRef uid orderId) with
  | some order => (s.lookup (itemRef uid orderId c.item.id)).isSome ∨
      order "provider_id" = some (.string c.chef.id)
  | none => ∀ id item, s.lookup (itemRef uid orderId id) = some item →
      item "destination" = some (.string c.chef.id)

theorem EmptyBag.oneChef {uid orderId : String} {s : Firestore} (h : EmptyBag uid orderId s) :
    OneChef uid orderId s where
  provider := fun order id item _ hitem => by rw [h.item id] at hitem; cases hitem
  alike := fun id _ item _ hitem => by rw [h.item id] at hitem; cases hitem

theorem SameBag.oneChef {uid orderId : String} {s s' : Firestore} (h : SameBag uid orderId s s')
    (ho : OneChef uid orderId s) : OneChef uid orderId s' where
  provider := fun order id item horder hitem =>
    ho.provider order id item (h.order ▸ horder) (h.item id ▸ hitem)
  alike := fun id id' item item' hitem hitem' =>
    ho.alike id id' item item' (h.item id ▸ hitem) (h.item id' ▸ hitem')

theorem OneChef.erase {uid orderId : String} {s : Firestore} (h : OneChef uid orderId s)
    (p : Path) : OneChef uid orderId (s.erase p) where
  provider := fun order id item horder hitem =>
    h.provider order id item (lookup_of_erase horder).2 (lookup_of_erase hitem).2
  alike := fun id id' item item' hitem hitem' =>
    h.alike id id' item item' (lookup_of_erase hitem).2 (lookup_of_erase hitem').2

/-- A bag whose order is stored has one chef as soon as its items have the order's. -/
theorem oneChef_of_provider {uid orderId : String} {s : Firestore} {order : Doc}
    (horder : s.lookup (orderRef uid orderId) = some order)
    (h : ∀ id item, s.lookup (itemRef uid orderId id) = some item →
      item "destination" = order "provider_id") : OneChef uid orderId s where
  provider := by
    intro order' id item horder' hitem
    rw [horder] at horder'
    cases horder'
    exact h id item hitem
  alike := fun id id' item item' hitem hitem' => (h id item hitem).trans (h id' item' hitem').symm

/-- **One add.**  A bag of one chef stays so exactly when the dish is from that chef. -/
theorem oneChef_of_completed {uid orderId : String} {c : AddCall} {s s' : Firestore}
    (ho : c.orderId = orderId) (hp : BagPriced uid orderId s) (h : OneChef uid orderId s)
    (hadd : addItemToOrder uid c s = .completed s') :
    OneChef uid orderId s' ↔ FromBagChef uid orderId s c := by
  obtain ⟨order', horder', horderAdded⟩ := lookup_order_of_completed ho hp hadd
  obtain ⟨item', hitem', hitemAdded⟩ := lookup_item_of_completed ho hp hadd
  have hother := fun id (hid : id ≠ c.item.id) => lookup_other_item_of_completed ho hp hadd hid
  have hprovider := horderAdded.providerId
  have hdestination := hitemAdded.destination
  constructor
  · intro h'
    unfold FromBagChef
    cases horder : s.lookup (orderRef uid orderId) with
    | some order =>
      cases hitem : s.lookup (itemRef uid orderId c.item.id) with
      | some item => exact Or.inl rfl
      | none =>
        -- a new item carries the call's chef, the order the one it had
        rw [horder, Option.elim_some] at hprovider
        rw [hitem, Option.elim_none] at hdestination
        refine Or.inr ?_
        rw [← hprovider, ← h'.provider order' _ item' horder' hitem', hdestination]
    | none =>
      rw [horder, Option.elim_none] at hprovider
      intro id item hitem
      by_cases hid : id = c.item.id
      · subst hid
        rw [hitem, Option.elim_some] at hdestination
        rw [← hdestination, h'.provider order' _ item' horder' hitem', hprovider]
      · rw [h'.provider order' id item horder' ((hother id hid).trans hitem), hprovider]
  · intro hfrom
    refine oneChef_of_provider horder' fun id item hitem => ?_
    unfold FromBagChef at hfrom
    cases horder : s.lookup (orderRef uid orderId) with
    | some order =>
      rw [horder] at hfrom
      rw [horder, Option.elim_some] at hprovider
      by_cases hid : id = c.item.id
      · subst hid
        rw [hitem'] at hitem
        cases hitem
        cases hold : s.lookup (itemRef uid orderId c.item.id) with
        | some old =>
          rw [hold, Option.elim_some] at hdestination
          rw [hdestination, hprovider]
          exact h.provider order _ old horder hold
        | none =>
          rw [hold, Option.elim_none] at hdestination
          simp only [hold, Option.isSome_none, Bool.false_eq_true, false_or] at hfrom
          rw [hdestination, hprovider]
          exact hfrom.symm
      · rw [hother id hid] at hitem
        rw [hprovider]
        exact h.provider order id item horder hitem
    | none =>
      rw [horder] at hfrom
      rw [horder, Option.elim_none] at hprovider
      by_cases hid : id = c.item.id
      · subst hid
        rw [hitem'] at hitem
        cases hitem
        cases hold : s.lookup (itemRef uid orderId c.item.id) with
        | some old =>
          rw [hold, Option.elim_some] at hdestination
          rw [hdestination, hprovider]
          exact hfrom _ old hold
        | none =>
          rw [hold, Option.elim_none] at hdestination
          rw [hdestination, hprovider]
      · rw [hother id hid] at hitem
        rw [hprovider]
        exact hfrom id item hitem

section
variable {D : Type} {uid orderId : String} {s s' : BagState D orderId}

/-- A commit of `addItemToOrder` adds a dish of the bag's own chef. -/
def CommitsFromBagChef (uid : String) (s : BagState D orderId) (n : ℕ) : Reply → Prop
  | .committed => ∀ x ∈ s.ops.running n, ∀ c ho, x.2 = .adding c ho → FromBagChef uid orderId s.store c
  | _ => True

theorem oneChef_reply (hp : BagPriced uid orderId s.store) (h : OneChef uid orderId s.store)
    {n : ℕ} {r : Reply} (hstep : bagStep uid s (.reply n r) = some s') :
    OneChef uid orderId s'.store ↔ CommitsFromBagChef uid s n r := by
  rcases bagStep_cases hstep with ⟨d, c, he, -⟩ | ⟨n', r', d, op, he, hrun, hmoved⟩ | ⟨k, he, -⟩
  · cases he
  · cases he
    cases hmoved with
    | ended answers hcommit hwritten hclear =>
      refine iff_of_true h ?_
      cases r with
      | committed => exact absurd rfl hcommit
      | _ => trivial
    | @committed c ho store hadd =>
      refine (oneChef_of_completed ho hp h hadd).trans ?_
      constructor
      · intro hfrom x hx c' ho' hadding
        rw [hrun] at hx
        cases hx
        cases hadding
        exact hfrom
      · intro hall
        exact hall _ hrun c ho rfl
    | queried => exact iff_of_true h trivial
    | deletedItem item items ok =>
      exact iff_of_true (BagState.delete_keeps h (h.erase item)) trivial
    | deletedOrder ok => exact iff_of_true (BagState.delete_keeps h (h.erase _)) trivial
    | read created hread => exact iff_of_true h trivial
    | token hnew => exact iff_of_true h trivial
    | paid c token created covers =>
      exact iff_of_true ((sameBag_setMerge_payment _ _ _ _ _).oneChef h) trivial
  · cases he

end

/-- **A bag keeps to one chef exactly as long as the adds that commit do.**  In every run
of any number of devices, the bag holds items of the order's chef alone in every state
reached if and only if each add that commits joins an order of its own chef, or an item
that is stored already, and each add that creates the order finds no items of another
chef. -/
theorem oneChef_iff {D : Type} [DecidableEq D] (uid orderId : String) (store : Firestore)
    (hp : BagPriced uid orderId store) (hone : OneChef uid orderId store)
    (es : List (SystemEvent D)) (s : BagSystem D orderId)
    (h : run (systemStep uid) (BagSystem.initial orderId store) es = some s) :
    (∀ k s', run (systemStep uid) (BagSystem.initial orderId store) (es.take k) = some s' →
      OneChef uid orderId s'.service.store) ↔
    Along (systemStep uid) (OnReplies (CommitsFromBagChef uid))
      (BagSystem.initial orderId store) es := by
  refine system_always_iff (fun s => BagPriced uid orderId s.store)
    (fun s => OneChef uid orderId s.store) (fun s e s' hi he => bagPriced_step hi he)
    (fun s n r s' hi hg he => oneChef_reply hi hg he) ?_ hp hone h
  intro s e s' _ hg hne he
  rw [(bagStep_of_not_reply hne he).1]
  exact hg

/-! ## Two chefs in one bag -/

/-- A customer with an empty bag. -/
def customerStore : Firestore :=
  (∅ : Firestore).setData (refCurrentUser "uid") [("order_id", .string "bag")]

theorem emptyBag_customerStore : EmptyBag "uid" "bag" customerStore where
  order := Finmap.lookup_insert_of_ne _ (by decide)
  item := fun id => Finmap.lookup_insert_of_ne _ (by simp [itemRef, itemsRef, orderRef, refOrders,
    refCurrentUser])

/-- A dish is selected and added to the bag, and the add commits as operation `n`. -/
def select (dish : Menu) (chefId : String) (n : ℕ) : List (SystemEvent Unit) :=
  [.screen () (.didSelect dish (some (sampleChef chefId)) true), .screen () .addToOrder,
    .reply n .committed, .answer 0]

/-- The bag appears; the customer adds soup from one chef and, before a snapshot of the
order has come, bread from another. -/
def twoChefs : List (SystemEvent Unit) :=
  [.screen () .fetchData, .screen () (.userFetched true)] ++
    select (sampleDish "soup" 10) "ana" 0 ++ select (sampleDish "bread" 5) "bob" 1

theorem oneChef_iff_two_chefs : ∃ s : BagSystem Unit "bag",
    run (systemStep "uid") (BagSystem.initial "bag" customerStore) twoChefs = some s ∧
    ((∀ k s', run (systemStep "uid") (BagSystem.initial "bag" customerStore)
        (twoChefs.take k) = some s' → OneChef "uid" "bag" s'.service.store) ↔
      Along (systemStep "uid") (OnReplies (CommitsFromBagChef "uid"))
        (BagSystem.initial "bag" customerStore) twoChefs) := by
  have hsome : (run (systemStep "uid") (BagSystem.initial "bag" customerStore)
      twoChefs).isSome := by decide +kernel
  obtain ⟨s, hs⟩ := Option.isSome_iff_exists.mp hsome
  exact ⟨s, hs, oneChef_iff "uid" "bag" customerStore emptyBag_customerStore.priced
    emptyBag_customerStore.oneChef twoChefs s hs⟩

/-- **Two chefs in one bag.**  One device is enough: the bread goes in while the screen
has no copy of the order yet. -/
theorem two_chefs : ∃ s : BagSystem Unit "bag",
    run (systemStep "uid") (BagSystem.initial "bag" customerStore) twoChefs = some s ∧
      ¬ OneChef "uid" "bag" s.service.store := by
  have hrun : (run (systemStep "uid") (BagSystem.initial "bag" customerStore) twoChefs).map
      (fun s => ((s.service.store.lookup (orderRef "uid" "bag")).map fun d => d "provider_id",
        (s.service.store.lookup (itemRef "uid" "bag" "bread")).map fun d => d "destination")) =
      some (some (some (.string "ana")), some (some (.string "bob"))) := by decide +kernel
  obtain ⟨s, hs, hdocs⟩ := Option.map_eq_some_iff.mp hrun
  obtain ⟨horder, hitem⟩ := Prod.mk.injEq .. ▸ hdocs
  obtain ⟨order, horder, hana⟩ := Option.map_eq_some_iff.mp horder
  obtain ⟨item, hitem, hbob⟩ := Option.map_eq_some_iff.mp hitem
  refine ⟨s, hs, fun h => ?_⟩
  have hsame := h.provider order "bread" item horder hitem
  rw [hana, hbob] at hsame
  exact absurd hsame (by decide)

end Lidora
