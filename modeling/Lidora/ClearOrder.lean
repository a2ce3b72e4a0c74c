import Lidora.BagOperations
import Lidora.OrderTotals

/-! # Clearing a bag that others fill

`addItemToOrder` writes the order and one of its items together.  `clearOrder` reads the
items once and then deletes them and the order one by one, without a transaction and
without looking at the outcome of a delete.  So a bag with nothing in flight need not be
consistent (`ConsistentBag`): an item added after the query survives its order
(`orphan_after_clear`), and so does an item whose delete is rejected.

What the code does guarantee is said for runs (`consistent_of_orderly`).  Fix which calls
of `clearOrder` take effect, `goes`.  The run is orderly when each of these carries out
all its deletes, the others none (except while one that takes effect is under way, which
sweeps up after them), and while one that takes effect is under way nothing is added but
what it has still to delete.  The invariant is that as long as such a call is under way,
every stored item is on the list of one.
-/
namespace Lidora
open DocumentStore Runs

/-- There is an order if and only if there are items, and the order's quantity is the
sum of the items'. -/
structure ConsistentBag (uid orderId : String) (s : Firestore) : Prop where
  both : (s.lookup (orderRef uid orderId)).isSome ↔
    ∃ id, (s.lookup (itemRef uid orderId id)).isSome
  quantity : ∀ d, s.lookup (orderRef uid orderId) = some d →
    d.int "quantity" = some (itemsQuantity uid orderId s)

theorem EmptyBag.consistent {uid orderId : String} {s : Firestore} (h : EmptyBag uid orderId s) :
    ConsistentBag uid orderId s where
  both := by simp [h.order, h.item]
  quantity := fun d hd => by rw [h.order] at hd; cases hd

theorem SameBag.consistent {uid orderId : String} {s s' : Firestore}
    (h : SameBag uid orderId s s') (hc : ConsistentBag uid orderId s) :
    ConsistentBag uid orderId s' where
  both := by simp only [h.order, h.item, hc.both]
  quantity := fun d hd => by rw [h.itemsQuantity]; exact hc.quantity d (h.order ▸ hd)

/-- The order's quantity, `0` where there is no order, is that of the items. -/
theorem ConsistentBag.storedInt {uid orderId : String} {s : Firestore}
    (h : ConsistentBag uid orderId s) :
    storedInt (s.lookup (orderRef uid orderId)) "quantity" = itemsQuantity uid orderId s := by
  cases hd : s.lookup (orderRef uid orderId) with
  | some d => simp [Lidora.storedInt, h.quantity d hd]
  | none =>
    have hnone : ∀ p, IsItem uid orderId p → s.lookup p = none := by
      intro p hp
      obtain ⟨id, rfl⟩ := isItem_iff.mp hp
      rw [← Option.not_isSome_iff_eq_none]
      intro hsome
      have := h.both.mpr ⟨id, hsome⟩
      rw [hd] at this
      cases this
    rw [itemsQuantity, sumOver_eq_zero _ _ hnone]
    rfl

/-- An add keeps a bag consistent. -/
theorem ConsistentBag.add {uid orderId : String} {c : AddCall} {s s' : Firestore}
    (ho : c.orderId = orderId) (hp : BagPriced uid orderId s) (hc : ConsistentBag uid orderId s)
    (h : addItemToOrder uid c s = .completed s') : ConsistentBag uid orderId s' := by
  obtain ⟨order, horder, hadded⟩ := lookup_order_of_completed ho hp h
  obtain ⟨item, hitem, _⟩ := lookup_item_of_completed ho hp h
  constructor
  · rw [horder]
    exact ⟨fun _ => ⟨c.item.id, by rw [hitem]; rfl⟩, fun _ => rfl⟩
  · intro d hd
    rw [horder] at hd
    cases hd
    rw [Doc.int, hadded.quantity, hc.storedInt, itemsQuantity_of_completed ho hp h, add_comm]
    rfl

/-- The list of a call of `clearOrder`, once it has made one. -/
def BagOp.clearList {orderId : String} : BagOp orderId → Option (Option (List Path))
  | .clearing items => some items
  | _ => none

/-- The operation changes the bag. -/
def BagOp.changesBag {orderId : String} : BagOp orderId → Bool
  | .adding _ _ | .clearing _ => true
  | _ => false

section
variable {D : Type} {uid orderId : String} (goes : ℕ → Bool)

/-- The list of operation `n`, if that is a call of `clearOrder` under way. -/
def clearList (s : BagState D orderId) (n : ℕ) : Option (Option (List Path)) :=
  (s.ops.running n).bind fun x => x.2.clearList

/-- A call of `clearOrder` that takes effect is under way. -/
def ClearAhead (s : BagState D orderId) : Prop :=
  ∃ n, goes n = true ∧ (clearList s n).isSome

/-- A call of `clearOrder` that takes effect has still to delete `p`: `p` is on its list,
or it has still to make its list. -/
def Doomed (s : BagState D orderId) (p : Path) : Prop :=
  ∃ n, goes n = true ∧ ∃ items ∈ clearList s n, ∀ l ∈ items, p ∈ l

/-- The reply `r` to operation `n` keeps to the verdicts `goes`. -/
def OrderlyReply (uid : String) (s : BagState D orderId) (n : ℕ) : BagOp orderId → Reply → Prop
  | .adding c _, .committed => ClearAhead goes s → Doomed goes s (itemRef uid orderId c.item.id)
  | .clearing none, .failed => goes n = false
  | .clearing (some items), .deleted ok =>
    if goes n then ok = true ∨ s.store.lookup (items.headD (orderRef uid orderId)) = none
    else ok = false ∨ s.store.lookup (items.headD (orderRef uid orderId)) = none ∨ ClearAhead goes s
  | _, _ => True

def Orderly (uid : String) (s : BagState D orderId) : BagEvent D → Prop
  | .reply n r => ∀ x ∈ s.ops.running n, OrderlyReply goes uid s n x.2 r
  | _ => True

/-- No operation in flight changes the bag. -/
def BagIdle (s : BagState D orderId) : Prop :=
  ∀ n, ∀ x ∈ s.ops.running n, x.2.changesBag = false

/-- **The invariant of orderly runs.**  While a call of `clearOrder` that takes effect is
under way every stored item is doomed; otherwise the bag is consistent. -/
structure ClearInv (uid : String) (s : BagState D orderId) : Prop where
  priced : BagPriced uid orderId s.store
  doomed : ClearAhead goes s → ∀ id, (s.store.lookup (itemRef uid orderId id)).isSome →
    Doomed goes s (itemRef uid orderId id)
  consistent : ¬ ClearAhead goes s → ConsistentBag uid orderId s.store

/-- The two states have the same calls of `clearOrder` that take effect. -/
def SameClears (s s' : BagState D orderId) : Prop :=
  ∀ n, goes n = true → clearList s' n = clearList s n

variable {goes} {s s' : BagState D orderId}

theorem clearList_of_running {n : ℕ} {d : D} {op : BagOp orderId}
    (h : s.ops.running n = some (d, op)) : clearList s n = op.clearList := by
  rw [clearList, h]
  rfl

theorem clearList_of_running_eq {n : ℕ} (h : s'.ops.running n = s.ops.running n) :
    clearList s' n = clearList s n := by
  rw [clearList, h, clearList]

theorem lt_started_of_clearList {n : ℕ} {items : Option (List Path)}
    (h : clearList s n = some items) : n < s.ops.started := by
  obtain ⟨x, hx, -⟩ := Option.bind_eq_some_iff.mp h
  exact InFlight.lt_started hx

/-- The numbers in use are known, so that the conditions can be evaluated. -/
instance : Decidable (ClearAhead goes s) :=
  decidable_of_iff (∃ n < s.ops.started, goes n = true ∧ (clearList s n).isSome) <| by
    constructor
    · rintro ⟨n, -, h⟩
      exact ⟨n, h⟩
    · rintro ⟨n, hn, h⟩
      obtain ⟨items, hitems⟩ := Option.isSome_iff_exists.mp h
      exact ⟨n, lt_started_of_clearList hitems, hn, h⟩

instance (p : Path) : Decidable (Doomed goes s p) :=
  decidable_of_iff
    (∃ n < s.ops.started, goes n = true ∧ ∃ items ∈ clearList s n, ∀ l ∈ items, p ∈ l) <| by
    constructor
    · rintro ⟨n, -, h⟩
      exact ⟨n, h⟩
    · rintro ⟨n, hn, items, hitems, h⟩
      exact ⟨n, lt_started_of_clearList hitems, hn, items, hitems, h⟩

instance (n : ℕ) (op : BagOp orderId) (r : Reply) : Decidable (OrderlyReply goes uid s n op r) := by
  unfold OrderlyReply
  split <;> infer_instance

instance (e : BagEvent D) : Decidable (Orderly goes uid s e) := by
  unfold Orderly
  split <;> infer_instance

instance : Decidable (BagIdle s) :=
  decidable_of_iff (∀ n < s.ops.started, ∀ x ∈ s.ops.running n, x.2.changesBag = false)
    ⟨fun h n x hx => h n (InFlight.lt_started hx) x hx, fun h n _ => h n⟩

theorem SameClears.clearAhead (h : SameClears goes s s') :
    ClearAhead goes s' ↔ ClearAhead goes s := by
  constructor
  · rintro ⟨n, hn, hsome⟩
    exact ⟨n, hn, h n hn ▸ hsome⟩
  · rintro ⟨n, hn, hsome⟩
    exact ⟨n, hn, (h n hn).symm ▸ hsome⟩

theorem SameClears.doomed (h : SameClears goes s s') {p : Path} (hd : Doomed goes s p) :
    Doomed goes s' p := by
  obtain ⟨n, hn, items, hitems, hmem⟩ := hd
  exact ⟨n, hn, items, (h n hn).symm ▸ hitems, hmem⟩

/-- An operation that moves takes no effective call of `clearOrder` away or brings one
about, unless it is one. -/
theorem sameClears_of_move {n : ℕ}
    (hoff : ∀ m, m ≠ n → s'.ops.running m = s.ops.running m)
    (hn : goes n = false ∨ clearList s n = none ∧ clearList s' n = none) :
    SameClears goes s s' := by
  intro m hm
  by_cases hmn : m = n
  · subst hmn
    rcases hn with hfalse | ⟨hbefore, hafter⟩
    · rw [hm] at hfalse
      cases hfalse
    · rw [hbefore, hafter]
  · exact clearList_of_running_eq (hoff m hmn)

/-! ## One step -/

theorem SameBag.refl (uid orderId : String) (s : Firestore) : SameBag uid orderId s s :=
  ⟨rfl, fun _ => rfl⟩

/-- A step that touches neither the bag nor an effective call of `clearOrder`. -/
theorem ClearInv.same (hi : ClearInv goes uid s) (hc : SameClears goes s s')
    (hb : SameBag uid orderId s.store s'.store) : ClearInv goes uid s' where
  priced := hb.priced hi.priced
  doomed := by
    intro hahead id hsome
    rw [hb.item id] at hsome
    exact hc.doomed (hi.doomed (hc.clearAhead.mp hahead) id hsome)
  consistent := fun hahead => hb.consistent (hi.consistent fun h => hahead (hc.clearAhead.mpr h))

/-- Whatever is deleted while an effective call of `clearOrder` is under way. -/
theorem ClearInv.shrink (hi : ClearInv goes uid s) (hc : SameClears goes s s')
    (hahead : ClearAhead goes s) (hp : BagPriced uid orderId s'.store)
    (hsub : ∀ id, (s'.store.lookup (itemRef uid orderId id)).isSome →
      (s.store.lookup (itemRef uid orderId id)).isSome) : ClearInv goes uid s' where
  priced := hp
  doomed := fun _ id hsome => hc.doomed (hi.doomed hahead id (hsub id hsome))
  consistent := fun hnot => absurd (hc.clearAhead.mpr hahead) hnot

theorem clearInv_start (hi : ClearInv goes uid s) (d : D) (op : BagOp orderId)
    (hop : op.IsFirst) : ClearInv goes uid (s.start d op) := by
  have hoff : ∀ m, m ≠ s.ops.started → (s.start d op).ops.running m = s.ops.running m :=
    fun m hm => s.ops.start_of_ne _ hm
  have hnew : clearList (s.start d op) s.ops.started = op.clearList :=
    clearList_of_running (s.ops.start_self _)
  have hold : clearList s s.ops.started = none := by
    rw [clearList, s.ops.fresh _ le_rfl]
    rfl
  cases hlist : op.clearList with
  | none => exact hi.same (sameClears_of_move hoff (Or.inr ⟨hold, hnew.trans hlist⟩)) (.refl _ _ _)
  | some items =>
    cases hgoes : goes s.ops.started with
    | false => exact hi.same (sameClears_of_move hoff (Or.inl hgoes)) (.refl _ _ _)
    | true =>
      -- a new call that takes effect will list whatever is stored by then
      have hitems : items = none := by
        cases op <;> cases hlist
        cases items
        · rfl
        · exact hop.elim
      subst hitems
      rw [hlist] at hnew
      exact ⟨hi.priced, fun _ id _ => ⟨_, hgoes, none, hnew, nofun⟩,
        fun hnot => absurd ⟨_, hgoes, by rw [hnew]; rfl⟩ hnot⟩

/-- A reply to an operation that is not `clearOrder`, or to a call of it without
effect. -/
theorem sameClears_of_running {n : ℕ} {d : D} {op : BagOp orderId}
    (hrun : s.ops.running n = some (d, op))
    (hoff : ∀ m, m ≠ n → s'.ops.running m = s.ops.running m)
    (hn : goes n = false ∨ op.clearList = none ∧ clearList s' n = none) : SameClears goes s s' :=
  sameClears_of_move hoff (hn.imp_right fun h => ⟨(clearList_of_running hrun).trans h.1, h.2⟩)

theorem clearList_finish {n : ℕ} (h : s'.ops = s.ops.finish n) : clearList s' n = none := by
  rw [clearList, h, InFlight.finish_self]
  rfl

theorem clearList_put {n : ℕ} {d : D} {op : BagOp orderId} {x : D × BagOp orderId}
    {l : Option (Option (List Path))} (hrun : s.ops.running n = some x)
    (h : s'.ops = s.ops.put n (d, op)) (hl : op.clearList = l) : clearList s' n = l := by
  rw [clearList, h, InFlight.put_self hrun, ← hl]
  rfl

/-- A delete that is carried out, or that has nothing to delete, leaves nothing. -/
theorem lookup_delete_self {p : Path} {ok : Bool} (h : ok = true ∨ s.store.lookup p = none) :
    (s.delete p ok).store.lookup p = none := by
  rw [BagState.delete_store]
  split
  · exact Finmap.lookup_erase _ _
  · exact h.resolve_left ‹_›

/-- A delete that is rejected, or that has nothing to delete, changes nothing. -/
theorem lookup_delete_eq {p : Path} {ok : Bool} (h : ok = false ∨ s.store.lookup p = none)
    (q : Path) : (s.delete p ok).store.lookup q = s.store.lookup q := by
  rw [BagState.delete_store]
  split
  · have hnone := h.resolve_left (by simp [*])
    by_cases hq : q = p
    · rw [hq, Finmap.lookup_erase, hnone]
    · exact Finmap.lookup_erase_ne hq
  · rfl

/-- A delete of a call of `clearOrder` without effect. -/
theorem clearInv_delete_idle (hi : ClearInv goes uid s) {p : Path} {ok : Bool}
    (hc : SameClears goes s s') (hstore : s'.store = (s.delete p ok).store)
    (hok : ok = false ∨ s.store.lookup p = none ∨ ClearAhead goes s) : ClearInv goes uid s' := by
  rw [← or_assoc] at hok
  rcases hok with hnothing | hahead
  · refine hi.same hc ⟨?_, fun id => ?_⟩
    · rw [hstore, lookup_delete_eq hnothing]
    · rw [hstore, lookup_delete_eq hnothing]
  · refine hi.shrink hc hahead ?_ fun id hsome => ?_
    · rw [hstore]
      exact BagState.delete_keeps hi.priced (hi.priced.erase p)
    · rw [hstore] at hsome
      exact isSome_of_delete hsome

/-- The next delete of an effective call of `clearOrder`, of an item. -/
theorem clearInv_delete_item (hi : ClearInv goes uid s) {n : ℕ} {d : D} {item : Path}
    {items : List Path} {ok : Bool} (hn : goes n = true)
    (hrun : s.ops.running n = some (d, .clearing (some (item :: items))))
    (hok : ok = true ∨ s.store.lookup item = none) :
    ClearInv goes uid ((s.delete item ok).next n d (.clearing (some items))) := by
  have hself : clearList ((s.delete item ok).next n d (.clearing (some items))) n =
      some (some items) := clearList_put hrun rfl rfl
  have hahead : ClearAhead goes s := ⟨n, hn, by rw [clearList_of_running hrun]; rfl⟩
  refine ⟨BagState.delete_keeps hi.priced (hi.priced.erase item), fun _ id hsome => ?_,
    fun hnot => absurd ⟨n, hn, by rw [hself]; rfl⟩ hnot⟩
  have hne : itemRef uid orderId id ≠ item := by
    rintro rfl
    change ((s.delete _ ok).store.lookup _).isSome at hsome
    rw [lookup_delete_self hok] at hsome
    cases hsome
  obtain ⟨m, hm, l, hl, hmem⟩ := hi.doomed hahead id (isSome_of_delete hsome)
  by_cases hmn : m = n
  · -- it was on this call's own list, and is not its head
    subst hmn
    rw [clearList_of_running hrun] at hl
    cases hl
    refine ⟨m, hm, _, hself, fun l hl => ?_⟩
    cases hl
    exact List.mem_of_ne_of_mem hne (hmem _ rfl)
  · exact ⟨m, hm, l, (clearList_of_running_eq (s.ops.put_of_ne _ hmn)).trans hl, hmem⟩

/-- The last delete of an effective call of `clearOrder`, of the order. -/
theorem clearInv_delete_order (hi : ClearInv goes uid s) {n : ℕ} {d : D} {ok : Bool}
    (hn : goes n = true) (hrun : s.ops.running n = some (d, .clearing (some [])))
    (hok : ok = true ∨ s.store.lookup (orderRef uid orderId) = none) :
    ClearInv goes uid
      ((s.deleteOrder (orderRef uid orderId) ok).answer n d (.clearOrder ok)) := by
  have hahead : ClearAhead goes s := ⟨n, hn, by rw [clearList_of_running hrun]; rfl⟩
  -- an item that is still stored is on the list of another call
  have hother : ∀ id, ((s.delete (orderRef uid orderId) ok).store.lookup
      (itemRef uid orderId id)).isSome → ∃ m, goes m = true ∧ ∃ l,
        clearList ((s.deleteOrder (orderRef uid orderId) ok).answer n d (.clearOrder ok)) m =
          some l ∧ ∀ items ∈ l, itemRef uid orderId id ∈ items := by
    intro id hsome
    obtain ⟨m, hm, l, hl, hmem⟩ := hi.doomed hahead id (isSome_of_delete hsome)
    have hmn : m ≠ n := by
      rintro rfl
      rw [clearList_of_running hrun] at hl
      cases hl
      exact absurd (hmem [] rfl) List.not_mem_nil
    exact ⟨m, hm, l, (clearList_of_running_eq (s.ops.finish_of_ne hmn)).trans hl, hmem⟩
  refine ⟨BagState.delete_keeps hi.priced (hi.priced.erase _),
    fun _ id hsome => hother id hsome, fun hnot => ?_⟩
  refine EmptyBag.consistent ⟨lookup_delete_self hok, fun id => ?_⟩
  rw [← Option.not_isSome_iff_eq_none]
  intro hsome
  obtain ⟨m, hm, l, hl, -⟩ := hother id hsome
  exact hnot ⟨m, hm, by rw [hl]; rfl⟩

/-- A commit of `addItemToOrder`. -/
theorem clearInv_commit (hi : ClearInv goes uid s) {c : AddCall} {store : Firestore}
    (ho : c.orderId = orderId) (hc : SameClears goes s s') (hstore : s'.store = store)
    (hP : ClearAhead goes s → Doomed goes s (itemRef uid orderId c.item.id))
    (hadd : addItemToOrder uid c s.store = .completed store) : ClearInv goes uid s' := by
  subst hstore
  refine ⟨bagPriced_of_completed ho hi.priced hadd, fun hahead id hsome => ?_, fun hnot =>
    (hi.consistent fun h => hnot (hc.clearAhead.mpr h)).add ho hi.priced hadd⟩
  have hahead := hc.clearAhead.mp hahead
  by_cases hid : id = c.item.id
  · subst hid
    exact hc.doomed (hP hahead)
  · rw [lookup_other_item_of_completed ho hi.priced hadd hid] at hsome
    exact hc.doomed (hi.doomed hahead id hsome)

theorem clearInv_step (hi : ClearInv goes uid s) {e : BagEvent D} (hP : Orderly goes uid s e)
    (h : bagStep uid s e = some s') : ClearInv goes uid s' := by
  rcases bagStep_cases h with ⟨d, c, rfl, rfl | ⟨op, rfl, hop⟩⟩ | ⟨n, r, d, op, rfl, hrun, hmoved⟩ |
    ⟨k, rfl, rfl⟩
  · exact hi
  · exact clearInv_start hi d op hop
  · have hreply := hP (d, op) hrun
    have hput : ∀ op' m, m ≠ n → (s.ops.put n (d, op')).running m = s.ops.running m :=
      fun op' m hm => s.ops.put_of_ne _ hm
    have hfinish : ∀ m, m ≠ n → (s.ops.finish n).running m = s.ops.running m :=
      fun m hm => s.ops.finish_of_ne hm
    cases hmoved with
    | ended answers hcommit hwritten hclear =>
      refine hi.same (sameClears_of_running hrun hfinish ?_) (.refl _ _ _)
      cases hlist : op.clearList with
      | none => exact Or.inr ⟨rfl, clearList_finish rfl⟩
      | some items =>
        -- a query that fails: its call has no effect
        cases op <;> cases hlist
        obtain ⟨rfl, rfl⟩ := hclear _ rfl
        exact Or.inl hreply
    | committed hadd =>
      exact clearInv_commit hi (by assumption)
        (sameClears_of_running hrun hfinish (Or.inr ⟨rfl, clearList_finish rfl⟩)) rfl hreply hadd
    | queried =>
      cases hn : goes n with
      | true =>
        -- an effective call lists every stored item
        have hself : clearList (s.next n d
            (.clearing (some (s.store.documents (itemsRef uid orderId))))) n =
            some (some (s.store.documents (itemsRef uid orderId))) :=
          clearList_put hrun rfl rfl
        refine ⟨hi.priced, fun _ id hsome => ⟨n, hn, _, hself, fun l hl => ?_⟩,
          fun hnot => absurd ⟨n, hn, by rw [hself]; rfl⟩ hnot⟩
        cases hl
        exact Firestore.mem_documents.mpr ⟨isItem_itemRef _ _ _, hsome⟩
      | false => exact hi.same (sameClears_of_running hrun (hput _) (Or.inl hn)) (.refl _ _ _)
    | deletedItem item items ok =>
      simp only [OrderlyReply, List.headD_cons] at hreply
      cases hn : goes n with
      | true => exact clearInv_delete_item hi hn hrun (by rwa [hn, if_pos rfl] at hreply)
      | false =>
        rw [hn, if_neg Bool.false_ne_true] at hreply
        exact clearInv_delete_idle hi (sameClears_of_running hrun (hput _) (Or.inl hn)) rfl hreply
    | deletedOrder ok =>
      simp only [OrderlyReply, List.headD_nil] at hreply
      cases hn : goes n with
      | true => exact clearInv_delete_order hi hn hrun (by rwa [hn, if_pos rfl] at hreply)
      | false =>
        rw [hn, if_neg Bool.false_ne_true] at hreply
        exact clearInv_delete_idle hi (sameClears_of_running hrun hfinish (Or.inl hn)) rfl hreply
    | read created hread =>
      exact hi.same (sameClears_of_running hrun (hput _)
        (Or.inr ⟨rfl, clearList_put hrun rfl rfl⟩)) (.refl _ _ _)
    | token hnew =>
      exact hi.same (sameClears_of_running hrun (hput _)
        (Or.inr ⟨rfl, clearList_put hrun rfl rfl⟩)) (.refl _ _ _)
    | paid c token created covers =>
      exact hi.same (sameClears_of_running hrun hfinish (Or.inr ⟨rfl, clearList_finish rfl⟩))
        (sameBag_setMerge_payment _ _ _ _ _)
  · exact hi.same (fun n _ => rfl) (.refl _ _ _)

theorem clearInv_initial {store : Firestore} (hp : BagPriced uid orderId store)
    (hc : ConsistentBag uid orderId store) :
    ClearInv goes uid (BagState.initial orderId store : BagState D orderId) := by
  refine ⟨hp, fun hahead => ?_, fun _ => hc⟩
  obtain ⟨n, -, hn⟩ := hahead
  cases hn

/-- With no change of the bag in flight, the bag is consistent. -/
theorem consistent_of_idle (hi : ClearInv goes uid s) (hidle : BagIdle s) :
    ConsistentBag uid orderId s.store := by
  refine hi.consistent ?_
  rintro ⟨n, -, hn⟩
  obtain ⟨items, hitems⟩ := Option.isSome_iff_exists.mp hn
  obtain ⟨⟨d, op⟩, hrun, hop⟩ := Option.bind_eq_some_iff.mp hitems
  have hchanges := hidle n (d, op) hrun
  cases op <;> cases hop
  cases hchanges

end

/-- **Clearing and adding keep the bag consistent in orderly runs.**  From a consistent
bag that decodes, whatever the devices do, the bag is consistent whenever no operation in
flight changes it, provided that the run keeps to some verdicts `goes`: of one call of
`clearOrder` all deletes are carried out or none, and nothing is added while such a call
is under way but what it has still to delete. -/
theorem consistent_of_orderly {D : Type} (uid orderId : String) (store : Firestore)
    (hp : BagPriced uid orderId store) (hc : ConsistentBag uid orderId store) (goes : ℕ → Bool)
    (es : List (BagEvent D))
    (hP : Along (bagStep uid) (Orderly goes uid) (BagState.initial orderId store) es)
    (s : BagState D orderId) (h : run (bagStep uid) (BagState.initial orderId store) es = some s)
    (hidle : BagIdle s) : ConsistentBag uid orderId s.store := by
  have hinv : ClearInv goes uid s :=
    run_invariant_along (ClearInv goes uid) (fun _ _ _ hi hP h => clearInv_step hi hP h)
      (clearInv_initial hp hc) hP h
  exact consistent_of_idle hinv hidle

/-- One device adds soup while another clears the bag of soup. -/
def soupWhileClearing : List (BagEvent Bool) :=
  [.call false (.addItemToOrder soupCall), .reply 0 .committed, .call true (.clearOrder "bag"),
    .reply 1 .items, .call false (.addItemToOrder soupCall), .reply 2 .committed,
    .reply 1 (.deleted true), .reply 1 (.deleted true)]

/-- One device adds bread while another clears the bag of soup. -/
def breadWhileClearing : List (BagEvent Bool) :=
  [.call false (.addItemToOrder soupCall), .reply 0 .committed, .call true (.clearOrder "bag"),
    .reply 1 .items, .call false (.addItemToOrder breadCall), .reply 2 .committed,
    .reply 1 (.deleted true), .reply 1 (.deleted true)]

theorem consistent_of_orderly_soup : ∃ s : BagState Bool "bag",
    run (bagStep "uid") (BagState.initial "bag" ∅) soupWhileClearing = some s ∧
      ConsistentBag "uid" "bag" s.store := by
  have hidle : (run (bagStep "uid") (BagState.initial "bag" ∅ : BagState Bool "bag")
      soupWhileClearing).map (fun s => decide (BagIdle s)) = some true := by decide +kernel
  obtain ⟨s, hs, hdecide⟩ := Option.map_eq_some_iff.mp hidle
  have hempty : EmptyBag "uid" "bag" ∅ := ⟨Finmap.lookup_empty _, fun _ => Finmap.lookup_empty _⟩
  exact ⟨s, hs, consistent_of_orderly "uid" "bag" ∅ hempty.priced hempty.consistent (fun _ => true)
    soupWhileClearing (by decide +kernel) s hs (of_decide_eq_true hdecide)⟩

/-- **An item without its order.**  The bread added after the query of the items
survives the clearing of the bag, and its order does not. -/
theorem orphan_after_clear : ∃ s : BagState Bool "bag",
    run (bagStep "uid") (BagState.initial "bag" ∅) breadWhileClearing = some s ∧ BagIdle s ∧
      s.store.lookup (orderRef "uid" "bag") = none ∧
      (s.store.lookup (itemRef "uid" "bag" "bread")).isSome ∧
      ¬ ConsistentBag "uid" "bag" s.store := by
  have hrun : (run (bagStep "uid") (BagState.initial "bag" ∅ : BagState Bool "bag")
      breadWhileClearing).map (fun s => decide (BagIdle s ∧
        (s.store.lookup (orderRef "uid" "bag")).isSome = false ∧
        (s.store.lookup (itemRef "uid" "bag" "bread")).isSome)) = some true := by decide +kernel
  obtain ⟨s, hs, hdecide⟩ := Option.map_eq_some_iff.mp hrun
  obtain ⟨hidle, horder, hitem⟩ := of_decide_eq_true hdecide
  refine ⟨s, hs, hidle, by simpa using horder, hitem, fun hc => ?_⟩
  have := hc.both.mpr ⟨"bread", hitem⟩
  rw [horder] at this
  cases this

end Lidora
