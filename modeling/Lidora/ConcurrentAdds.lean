import Lidora.OrderTotals

/-! # Concurrent calls of `addItemToOrder`

Any number of clients add to one order at once, each through the optimistic
transaction of `addItemToOrder`: its attempts read the two documents at different
times, are turned away when either has changed, and start over.  By
`OptimisticTransactions.run_atomic` the committed calls act one after the other, so
what holds of a bag filled by successive calls (`addsFrom_sums`) holds here: no add is
lost and none is counted twice (`concurrent_adds_sum`).
-/
namespace Lidora
open DocumentStore OptimisticTransactions Runs

/-- The number of times the client's `TransactionRunner` starts a transaction over. -/
def kRetryCount : ℕ := 5

/-- A call that has passed the guard, adds to the order `orderId` and carries a line
total in whole cents. -/
structure CentsAdd (orderId : String) where
  call : AddCall
  entry : AddEntry
  passed : call.guard = some entry
  sameOrder : call.orderId = orderId
  cents : WholeCents call.total

/-- The transaction of a call: the order is read before the item. -/
def addItemTxn (uid : String) {orderId : String} (a : CentsAdd orderId) : Txn Path Doc where
  reads := [orderRef uid a.call.orderId, itemRef uid a.call.orderId a.call.item.id]
  block
    | [document, itemDocument] =>
      match addItemBlock a.call a.entry (orderRef uid a.call.orderId)
        (itemRef uid a.call.orderId a.call.item.id) document itemDocument with
      | some ws => .commit (ws.map DocWrite.toWrite)
      | none => .abort
    | _ => .abort

/-- Run in one go, the transaction is the call without interference. -/
theorem atomic_addItemTxn (uid : String) {orderId : String} (a : CentsAdd orderId)
    (s : Firestore) : atomic (addItemTxn uid) s a = addStep uid s a.call := by
  simp only [atomic, addItemTxn, List.map_cons, List.map_nil, addStep, addItemToOrder, a.passed]
  cases addItemBlock a.call a.entry (orderRef uid a.call.orderId)
    (itemRef uid a.call.orderId a.call.item.id) (s.lookup (orderRef uid a.call.orderId))
    (s.lookup (itemRef uid a.call.orderId a.call.item.id)) <;> rfl

/-- The bag's documents decode, and its items' totals are whole cents. -/
structure WellFormedBag (uid orderId : String) (s : Firestore) : Prop
    extends BagPriced uid orderId s where
  cents : ∀ id, WholeCents (storedDouble (s.lookup (itemRef uid orderId id)) "total")

theorem EmptyBag.wellFormed {uid orderId : String} {s : Firestore}
    (h : EmptyBag uid orderId s) : WellFormedBag uid orderId s where
  toBagPriced := h.priced
  cents := fun id => by rw [h.item id]; exact Rounding.OnGrid.zero 100

/-- What the calls `as` add up to, on top of the bag `s`: the order's quantity, and
each item's quantity and total. -/
structure Sums (uid orderId : String) (s : Firestore) (as : List (CentsAdd orderId))
    (s' : Firestore) : Prop where
  orderQuantity : storedInt (s'.lookup (orderRef uid orderId)) "quantity" =
    storedInt (s.lookup (orderRef uid orderId)) "quantity" +
      (as.map fun a => a.call.quantity).sum
  itemQuantity : ∀ id, storedInt (s'.lookup (itemRef uid orderId id)) "quantity" =
    storedInt (s.lookup (itemRef uid orderId id)) "quantity" +
      ((as.filter fun a => a.call.item.id = id).map fun a => a.call.quantity).sum
  itemTotal : ∀ id, storedDouble (s'.lookup (itemRef uid orderId id)) "total" =
    storedDouble (s.lookup (itemRef uid orderId id)) "total" +
      ((as.filter fun a => a.call.item.id = id).map fun a => a.call.total).sum
  stored : ∀ a ∈ as, (s'.lookup (orderRef uid orderId)).isSome ∧
    (s'.lookup (itemRef uid orderId a.call.item.id)).isSome

section Step
variable {uid orderId : String} {s s' : Firestore} {a : CentsAdd orderId}
  (hw : WellFormedBag uid orderId s) (h : addItemToOrder uid a.call s = .completed s')
include hw h

theorem wellFormedBag_of_completed : WellFormedBag uid orderId s' := by
  obtain ⟨item, hitem, hadded⟩ := lookup_item_of_completed a.sameOrder hw.toBagPriced h
  refine ⟨bagPriced_of_completed a.sameOrder hw.toBagPriced h, fun id => ?_⟩
  by_cases hid : id = a.call.item.id
  · rw [hid, hitem, hadded.storedDouble_total]
    exact wholeCents_roundNumber _
  · rw [lookup_other_item_of_completed a.sameOrder hw.toBagPriced h hid]
    exact hw.cents id

/-- One call adds its quantity to the order, and its quantity and total to its item;
rounding changes nothing, since whole cents are added to whole cents. -/
theorem sums_of_completed : Sums uid orderId s [a] s' := by
  have hp := hw.toBagPriced
  obtain ⟨order, horder, hadded⟩ := lookup_order_of_completed a.sameOrder hp h
  obtain ⟨item, hitem, hitemAdded⟩ := lookup_item_of_completed a.sameOrder hp h
  refine ⟨?_, fun id => ?_, fun id => ?_, fun b hb => ?_⟩
  · rw [horder, hadded.storedInt_quantity, List.map_singleton, List.sum_singleton, add_comm]
  · by_cases hid : a.call.item.id = id
    · subst hid
      simp [hitem, hitemAdded.storedInt_quantity, add_comm]
    · rw [lookup_other_item_of_completed a.sameOrder hp h (Ne.symm hid)]
      simp [hid]
  · by_cases hid : a.call.item.id = id
    · subst hid
      rw [hitem, hitemAdded.storedDouble_total,
        roundNumber_of_wholeCents (a.cents.add (hw.cents a.call.item.id))]
      simp [add_comm]
    · rw [lookup_other_item_of_completed a.sameOrder hp h (Ne.symm hid)]
      simp [hid]
  · rw [List.mem_singleton] at hb
    subst hb
    rw [horder, hitem]
    exact ⟨rfl, rfl⟩

/-- A call deletes nothing. -/
theorem isSome_of_completed {p : Path} (hs : (s.lookup p).isSome) : (s'.lookup p).isSome := by
  obtain ⟨order, item, _, _, rfl⟩ := addItemToOrder_completed a.sameOrder hw.toBagPriced h
  rw [Finmap.lookup_isSome] at hs ⊢
  rw [Finmap.mem_insert, Finmap.mem_insert]
  exact Or.inr (Or.inr hs)

end Step

/-- Sums over successive stretches of calls add up. -/
theorem Sums.cons {uid orderId : String} {s s₁ s₂ : Firestore} {a : CentsAdd orderId}
    {as : List (CentsAdd orderId)} (h₁ : Sums uid orderId s [a] s₁)
    (h₂ : Sums uid orderId s₁ as s₂)
    (hkeep : ∀ p, (s₁.lookup p).isSome → (s₂.lookup p).isSome) :
    Sums uid orderId s (a :: as) s₂ := by
  refine ⟨?_, fun id => ?_, fun id => ?_, fun b hb => ?_⟩
  · rw [h₂.orderQuantity, h₁.orderQuantity]
    simp [add_assoc]
  · rw [h₂.itemQuantity, h₁.itemQuantity, List.filter_cons, List.filter_cons, List.filter_nil]
    split <;> simp [add_assoc]
  · rw [h₂.itemTotal, h₁.itemTotal, List.filter_cons, List.filter_cons, List.filter_nil]
    split <;> simp [add_assoc]
  · rcases List.mem_cons.mp hb with rfl | hb
    · obtain ⟨ho, hi⟩ := h₁.stored b (List.mem_singleton.mpr rfl)
      exact ⟨hkeep _ ho, hkeep _ hi⟩
    · exact h₂.stored b hb

theorem isSome_of_addsFrom {uid orderId : String} {s s' : Firestore}
    {as : List (CentsAdd orderId)} (hw : WellFormedBag uid orderId s)
    (h : addsFrom uid s (as.map CentsAdd.call) = some s') {p : Path}
    (hs : (s.lookup p).isSome) : (s'.lookup p).isSome := by
  induction as generalizing s with
  | nil =>
    cases h
    exact hs
  | cons a as ih =>
    obtain ⟨s₁, h₁, h⟩ := (run_cons_iff _).mp h
    have h₁ := addStep_eq_some.mp h₁
    exact ih (wellFormedBag_of_completed hw h₁) h (isSome_of_completed hw h₁ hs)

/-- **Successive calls add up.** -/
theorem addsFrom_sums {uid orderId : String} {s s' : Firestore} {as : List (CentsAdd orderId)}
    (hw : WellFormedBag uid orderId s) (h : addsFrom uid s (as.map CentsAdd.call) = some s') :
    Sums uid orderId s as s' := by
  induction as generalizing s with
  | nil =>
    cases h
    exact ⟨by simp, fun id => by simp, fun id => by simp, fun a ha => by cases ha⟩
  | cons a as ih =>
    obtain ⟨s₁, h₁, h⟩ := (run_cons_iff _).mp h
    have h₁ := addStep_eq_some.mp h₁
    have hw₁ := wellFormedBag_of_completed hw h₁
    exact (sums_of_completed hw h₁).cons (ih hw₁ h) fun p => isSome_of_addsFrom hw₁ h

/-- Calls run one after the other are `addsFrom`. -/
theorem run_atomic_addItemTxn (uid : String) {orderId : String} (s : Firestore)
    (as : List (CentsAdd orderId)) :
    run (atomic (addItemTxn uid)) s as = addsFrom uid s (as.map CentsAdd.call) := by
  induction as generalizing s with
  | nil => rfl
  | cons a as ih =>
    simp only [run, addsFrom, List.map_cons, atomic_addItemTxn]
    exact congrArg _ (funext fun s' => ih s')

/-- **No add is lost and none is counted twice.**  In every run of any number of
clients that add to one order, however their attempts read, commit, are turned away
and start over, the order's quantity and each item's quantity and total are the sums
over the committed calls, and a client has committed no call more often than it made
it. -/
theorem concurrent_adds_sum {C : Type} [DecidableEq C] (uid orderId : String) (docs : Firestore)
    (hw : WellFormedBag uid orderId docs) (es : List (Event C (CentsAdd orderId)))
    (s : State Path Doc C (CentsAdd orderId))
    (h : run (step (addItemTxn uid) kRetryCount) (initial docs) es = some s) :
    Sums uid orderId docs (s.committed.map Prod.snd) s.docs ∧
      ∀ c, List.Sublist ((s.committed.filter fun x => x.1 = c).map Prod.snd) (started c es) := by
  have hserial := run_atomic h
  rw [run_atomic_addItemTxn] at hserial
  exact ⟨addsFrom_sums hw hserial, committed_sublist_started h⟩

/-- Soup for the bag, as a call that has passed the guard. -/
def soupAdd : CentsAdd "bag" where
  call := soupCall
  entry := ⟨"ana", "soup", "of the day", "ana.png", "dish.png"⟩
  passed := rfl
  sameOrder := rfl
  cents := ⟨1000, by norm_num [soupCall]⟩

/-- Two devices add soup at once; the second is turned away once and starts over. -/
def twoDevices : List (Event Bool (CentsAdd "bag")) :=
  [.start false soupAdd, .start true soupAdd, .read false, .read true, .read false, .read true,
    .commit false, .commit true, .read true, .read true, .commit true]

theorem concurrent_adds_sum_two_devices :
    ∃ s, run (step (addItemTxn "uid") kRetryCount) (initial ∅) twoDevices = some s ∧
      s.committed.length = 2 ∧ Sums "uid" "bag" ∅ (s.committed.map Prod.snd) s.docs ∧
      ∀ c, List.Sublist ((s.committed.filter fun x => x.1 = c).map Prod.snd)
        (started c twoDevices) := by
  have hlen : (run (step (addItemTxn "uid") kRetryCount) (initial ∅) twoDevices).map
      (fun s => s.committed.length) = some 2 := by decide +kernel
  obtain ⟨s, hs, hcommitted⟩ := Option.map_eq_some_iff.mp hlen
  have hempty : EmptyBag "uid" "bag" ∅ := ⟨Finmap.lookup_empty _, fun _ => Finmap.lookup_empty _⟩
  exact ⟨s, hs, hcommitted, concurrent_adds_sum "uid" "bag" ∅ hempty.wellFormed twoDevices s hs⟩

end Lidora
