import Lidora.BagScreen
import Lidora.OrderTotals

/-! # What is paid for, and how often

A payment charges the total of the order document that `placeOrder` has read, and with it
every call of `addItemToOrder` that the document held then.  A successful `placeOrder`
empties the screen and leaves the stored order where it is.  The next refresh shows it
again, and it can be placed again (`paid_twice`).

An order document is named here by the call that created it, the head of `content`.  No
call is paid for twice exactly as long as no order document is (`neverTwice_iff`): the
lists of calls that two payments charge either begin with the same call or have none in
common, since calls are only ever appended to the stored order's list, and a new list
begins with a new call (`PaidInv.apart`).
-/
namespace Lidora
open DocumentStore Runs

/-- What a `placeOrder` under way is going to charge. -/
def BagOp.covers {orderId : String} : BagOp orderId → Option (List ℕ)
  | .tokenizing _ _ covers | .charging _ _ _ covers => some covers
  | _ => none

section
variable {D : Type} {orderId : String}

/-- What operation `n` is going to charge. -/
def coversAt (s : BagState D orderId) (n : ℕ) : Option (List ℕ) :=
  (s.ops.running n).bind fun x => x.2.covers

/-- **No call of `addItemToOrder` is charged by two payments.** -/
def NeverTwice (s : BagState D orderId) : Prop :=
  ∀ n, s.paid.countP (fun p => n ∈ p.2) ≤ 1

/-- A payment that is written with success charges an order document that no earlier one
has charged. -/
def PaysNewOrder (s : BagState D orderId) (n : ℕ) : Reply → Prop
  | .written true => ∀ covers ∈ coversAt s n, ∀ p ∈ s.paid, p.2.head? ≠ covers.head?
  | _ => True

/-- The lists of calls that are paid for, or are going to be. -/
def Charged (s : BagState D orderId) (l : List ℕ) : Prop :=
  (∃ p ∈ s.paid, p.2 = l) ∨ ∃ n, coversAt s n = some l

/-- **The invariant of the records.** -/
structure PaidInv (uid : String) (s : BagState D orderId) : Prop where
  /-- A stored order holds a call. -/
  held : (s.store.lookup (orderRef uid orderId)).isSome → s.content ≠ []
  nonempty : ∀ l, Charged s l → l ≠ []
  /-- The calls on the lists have ended. -/
  ended : ∀ l, l = s.content ∨ Charged s l → ∀ n ∈ l, n < s.ops.started ∧ s.ops.running n = none
  /-- Two lists begin with the same call or are disjoint. -/
  apart : ∀ l l', l = s.content ∨ Charged s l → l' = s.content ∨ Charged s l' →
    l.head? ≠ l'.head? → l.Disjoint l'

variable {uid : String} {s s' : BagState D orderId}

theorem coversAt_of_running {n : ℕ} {d : D} {op : BagOp orderId}
    (h : s.ops.running n = some (d, op)) : coversAt s n = op.covers := by
  rw [coversAt, h]
  rfl

/-- A step that only takes lists away, or adds a copy of the stored order's own. -/
theorem PaidInv.of_charged (hi : PaidInv uid s)
    (hstarted : s.ops.started ≤ s'.ops.started)
    (hended : ∀ n, n < s.ops.started → s.ops.running n = none → s'.ops.running n = none)
    (hheld : (s'.store.lookup (orderRef uid orderId)).isSome → s'.content ≠ [])
    (hcontent : s'.content = s.content ∨ s'.content = [])
    (hcharged : ∀ l, Charged s' l → Charged s l ∨ l = s.content ∧ l ≠ []) : PaidInv uid s' := by
  -- every list of the new state but the empty one is a list of the old one
  have hold : ∀ l, l = s'.content ∨ Charged s' l → l = [] ∨ l = s.content ∨ Charged s l := by
    rintro l (rfl | hl)
    · rcases hcontent with h | h
      · exact Or.inr (Or.inl h)
      · exact Or.inl h
    · rcases hcharged l hl with h | ⟨h, -⟩
      · exact Or.inr (Or.inr h)
      · exact Or.inr (Or.inl h)
  refine ⟨hheld, fun l hl => ?_, fun l hl n hn => ?_, fun l l' hl hl' hhead => ?_⟩
  · rcases hcharged l hl with h | ⟨-, h⟩
    · exact hi.nonempty l h
    · exact h
  · rcases hold l hl with rfl | hl
    · cases hn
    · obtain ⟨hlt, hnone⟩ := hi.ended l hl n hn
      exact ⟨by omega, hended n hlt hnone⟩
  · rcases hold l hl with rfl | hl
    · exact List.disjoint_nil_left _
    · rcases hold l' hl' with rfl | hl'
      · exact List.disjoint_nil_right _
      · exact hi.apart l l' hl hl' hhead

theorem coversAt_of_finish {n m : ℕ} {l : List ℕ} (h : coversAt s' m = some l)
    (hops : s'.ops = s.ops.finish n) : coversAt s m = some l := by
  by_cases hmn : m = n
  · rw [coversAt, hops, hmn, InFlight.finish_self] at h
    cases h
  · rwa [coversAt, hops, InFlight.finish_of_ne _ hmn] at h

/-- An operation that ends takes its list with it. -/
theorem charged_of_finish {n : ℕ} {l : List ℕ} (h : Charged s' l) (hpaid : s'.paid = s.paid)
    (hops : s'.ops = s.ops.finish n) : Charged s l := by
  rcases h with ⟨p, hp, hl⟩ | ⟨m, hm⟩
  · exact Or.inl ⟨p, hpaid ▸ hp, hl⟩
  · exact Or.inr ⟨m, coversAt_of_finish hm hops⟩

/-- An operation that goes on brings the list of its next part. -/
theorem charged_of_put {n : ℕ} {d : D} {op : BagOp orderId} {x : D × BagOp orderId} {l : List ℕ}
    (hrun : s.ops.running n = some x) (h : Charged s' l) (hpaid : s'.paid = s.paid)
    (hops : s'.ops = s.ops.put n (d, op)) : Charged s l ∨ op.covers = some l := by
  rcases h with ⟨p, hp, hl⟩ | ⟨m, hm⟩
  · exact Or.inl (Or.inl ⟨p, hpaid ▸ hp, hl⟩)
  · by_cases hmn : m = n
    · rw [coversAt, hops, hmn, InFlight.put_self hrun] at hm
      exact Or.inr hm
    · rw [coversAt, hops, InFlight.put_of_ne _ _ hmn] at hm
      exact Or.inl (Or.inr ⟨m, hm⟩)

/-- An add that commits puts a call on the stored order's list that is on no other. -/
theorem paidInv_commit (hi : PaidInv uid s) {n : ℕ} {d : D} {c : AddCall}
    {ho : c.orderId = orderId} (hrun : s.ops.running n = some (d, .adding c ho))
    (hops : s'.ops = s.ops.finish n) (hpaid : s'.paid = s.paid)
    (hcontent : s'.content =
      if (s.store.lookup (orderRef uid orderId)).isSome then s.content ++ [n] else [n]) :
    PaidInv uid s' := by
  have hne : s'.content ≠ [] := by
    rw [hcontent]
    split <;> simp
  have hcharged : ∀ l, Charged s' l → Charged s l := fun l hl =>
    charged_of_finish hl hpaid hops
  -- the call has not ended before, so it is on no list
  have hfresh : ∀ l, l = s.content ∨ Charged s l → n ∉ l := by
    intro l hl hn
    rw [(hi.ended l hl n hn).2] at hrun
    cases hrun
  have hmem : ∀ m ∈ s'.content, m = n ∨ m ∈ s.content := by
    intro m hm
    rw [hcontent] at hm
    split at hm
    · rw [List.mem_append, List.mem_singleton] at hm
      exact hm.symm
    · exact Or.inl (List.mem_singleton.mp hm)
  have hdisjoint : ∀ l, Charged s l → s'.content.head? ≠ l.head? → s'.content.Disjoint l := by
    intro l hl hhead m hm hml
    by_cases hheld : (s.store.lookup (orderRef uid orderId)).isSome
    · rw [hcontent, if_pos hheld] at hm hhead
      rw [List.head?_append_of_ne_nil _ (hi.held hheld)] at hhead
      rcases List.mem_append.mp hm with hm | hm
      · exact hi.apart _ l (Or.inl rfl) (Or.inr hl) hhead hm hml
      · exact hfresh l (Or.inr hl) (List.mem_singleton.mp hm ▸ hml)
    · rw [hcontent, if_neg hheld, List.mem_singleton] at hm
      exact hfresh l (Or.inr hl) (hm ▸ hml)
  have hended : ∀ l, l = s.content ∨ Charged s l → ∀ m ∈ l,
      m < s.ops.started ∧ s'.ops.running m = none := by
    intro l hl m hm
    obtain ⟨hlt, hnone⟩ := hi.ended l hl m hm
    have hmn : m ≠ n := by
      rintro rfl
      exact hfresh l hl hm
    exact ⟨hlt, by rw [hops, s.ops.finish_of_ne hmn, hnone]⟩
  have hstarted : s'.ops.started = s.ops.started := by rw [hops, InFlight.finish_started]
  refine ⟨fun _ => hne, fun l hl => hi.nonempty l (hcharged l hl), fun l hl m hm => ?_,
    fun l l' hl hl' hhead => ?_⟩
  · rw [hstarted]
    rcases hl with rfl | hl
    · rcases hmem m hm with rfl | hm
      · exact ⟨InFlight.lt_started hrun, by rw [hops, InFlight.finish_self]⟩
      · exact hended _ (Or.inl rfl) m hm
    · exact hended l (Or.inr (hcharged l hl)) m hm
  · rcases hl with rfl | hl <;> rcases hl' with rfl | hl'
    · exact absurd rfl hhead
    · exact hdisjoint l' (hcharged l' hl') hhead
    · exact (hdisjoint l (hcharged l hl) (Ne.symm hhead)).symm
    · exact hi.apart l l' (Or.inr (hcharged l hl)) (Or.inr (hcharged l' hl')) hhead

theorem paidInv_step (hi : PaidInv uid s) {e : BagEvent D} (h : bagStep uid s e = some s') :
    PaidInv uid s' := by
  rcases bagStep_cases h with ⟨d, c, rfl, rfl | ⟨op, rfl, hop⟩⟩ | ⟨n, r, d, op, rfl, hrun, hmoved⟩ |
    ⟨k, rfl, rfl⟩
  · exact hi
  · have hoff : ∀ m, m ≠ s.ops.started → (s.start d op).ops.running m = s.ops.running m :=
      fun m hm => s.ops.start_of_ne _ hm
    refine hi.of_charged (Nat.le_succ _) (fun m hm hnone => (hoff m (by omega)).trans hnone) hi.held
      (Or.inl rfl) fun l hl => Or.inl ?_
    rcases hl with hl | ⟨m, hm⟩
    · exact Or.inl hl
    · by_cases hstarted : m = s.ops.started
      · -- an operation that has just been started charges nothing yet
        subst hstarted
        rw [coversAt_of_running (s.ops.start_self (d, op))] at hm
        cases op <;> cases hm <;> exact hop.elim
      · exact Or.inr ⟨m, by rwa [coversAt, hoff m hstarted] at hm⟩
  · have hfinish : ∀ m, m < s.ops.started → s.ops.running m = none →
        (s.ops.finish n).running m = none := fun m _ hnone => InFlight.finish_of_none n hnone
    have hput : ∀ op' m, m < s.ops.started → s.ops.running m = none →
        (s.ops.put n (d, op')).running m = none :=
      fun op' m _ hnone => InFlight.put_of_none hrun _ hnone
    cases hmoved with
    | ended answers hcommit hwritten hclear =>
      exact hi.of_charged le_rfl hfinish hi.held (Or.inl rfl)
        fun l hl => Or.inl (charged_of_finish hl rfl rfl)
    | committed hadd => exact paidInv_commit hi hrun rfl rfl rfl
    | queried =>
      exact hi.of_charged le_rfl (hput _) hi.held (Or.inl rfl)
        fun l hl => (charged_of_put hrun hl rfl rfl).imp_right nofun
    | deletedItem item items ok =>
      exact hi.of_charged le_rfl (hput _) (fun h => hi.held (isSome_of_delete h)) (Or.inl rfl)
        fun l hl => (charged_of_put hrun hl rfl rfl).imp_right nofun
    | deletedOrder ok =>
      refine hi.of_charged le_rfl hfinish ?_ ?_
        fun l hl => Or.inl (charged_of_finish hl rfl rfl)
      · cases ok
        · exact hi.held
        · intro h
          simp [BagState.answer, BagState.deleteOrder, BagState.delete, Finmap.lookup_erase] at h
      · cases ok
        · exact Or.inl rfl
        · exact Or.inr rfl
    | read created hread =>
      -- the operation is going to charge what the stored order holds
      obtain ⟨bagData, hsome, -⟩ := readBag_charge hread
      have hne : s.content ≠ [] := hi.held (by rw [hsome]; rfl)
      refine hi.of_charged le_rfl (hput _) hi.held (Or.inl rfl)
        fun l hl => (charged_of_put hrun hl rfl rfl).imp_right fun h => ?_
      cases h
      exact ⟨rfl, hne⟩
    | token hnew =>
      refine hi.of_charged le_rfl (hput _) hi.held (Or.inl rfl) fun l hl => Or.inl ?_
      rcases charged_of_put hrun hl rfl rfl with h | h
      · exact h
      · exact Or.inr ⟨n, (coversAt_of_running hrun).trans h⟩
    | paid c token created covers =>
      refine hi.of_charged le_rfl hfinish ?_ (Or.inl rfl) fun l hl => Or.inl ?_
      · intro h
        refine hi.held ?_
        rwa [← (sameBag_setMerge_payment uid orderId token s.store _).order]
      · -- the list of the operation is now the list of its payment
        rcases hl with ⟨p, hp, rfl⟩ | hl
        · rcases List.mem_append.mp hp with hp | hp
          · exact Or.inl ⟨p, hp, rfl⟩
          · rw [List.mem_singleton] at hp
            subst hp
            exact Or.inr ⟨n, coversAt_of_running hrun⟩
        · obtain ⟨m, hm⟩ := hl
          exact Or.inr ⟨m, coversAt_of_finish hm rfl⟩
  · exact hi.of_charged le_rfl (fun _ _ h => h) hi.held (Or.inl rfl) fun l hl => Or.inl hl

/-- A payment is written, exactly when no call is charged twice by it. -/
theorem neverTwice_pay (hi : PaidInv uid s) (hg : NeverTwice s) {covers : List ℕ}
    (hcovers : Charged s covers) {token : String} (hpaid : s'.paid = s.paid ++ [(token, covers)]) :
    NeverTwice s' ↔ ∀ p ∈ s.paid, p.2.head? ≠ covers.head? := by
  have hcount : ∀ n, s'.paid.countP (fun p => n ∈ p.2) =
      s.paid.countP (fun p => n ∈ p.2) + if n ∈ covers then 1 else 0 := by
    intro n
    rw [hpaid, List.countP_append, List.countP_singleton]
    simp
  constructor
  · -- two payments for one order document charge the call that created it
    intro hg' p hp hhead
    obtain ⟨n, rest, rfl⟩ := List.exists_cons_of_ne_nil (hi.nonempty covers hcovers)
    have hn : n ∈ p.2 := List.mem_of_head? (hhead.trans rfl)
    have hpos : 0 < s.paid.countP (fun p => n ∈ p.2) :=
      List.countP_pos_iff.mpr ⟨p, hp, decide_eq_true hn⟩
    have hle := hg' n
    rw [hcount n, if_pos List.mem_cons_self] at hle
    omega
  · intro hnew n
    rw [hcount n]
    have hle := hg n
    split
    · rename_i hn
      have hzero : s.paid.countP (fun p => n ∈ p.2) = 0 := by
        rw [List.countP_eq_zero]
        intro p hp
        rw [decide_eq_true_eq]
        exact fun hmem =>
          hi.apart _ _ (Or.inr (Or.inl ⟨p, hp, rfl⟩)) (Or.inr hcovers) (hnew p hp) hmem hn
      omega
    · omega

theorem neverTwice_reply (hi : PaidInv uid s) (hg : NeverTwice s) {n : ℕ} {r : Reply}
    (hstep : bagStep uid s (.reply n r) = some s') : NeverTwice s' ↔ PaysNewOrder s n r := by
  rcases bagStep_cases hstep with ⟨d, c, he, -⟩ | ⟨n', r', d, op, he, hrun, hmoved⟩ | ⟨k, he, -⟩
  · cases he
  · cases he
    cases hmoved with
    | ended answers hcommit hwritten hclear =>
      refine iff_of_true hg ?_
      unfold PaysNewOrder
      split
      · exact absurd rfl hwritten
      · trivial
    | committed hadd => exact iff_of_true hg trivial
    | queried => exact iff_of_true hg trivial
    | deletedItem item items ok => exact iff_of_true hg trivial
    | deletedOrder ok => exact iff_of_true hg trivial
    | read created hread => exact iff_of_true hg trivial
    | token hnew => exact iff_of_true hg trivial
    | paid c token created covers =>
      have hcovers : coversAt s n = some covers := coversAt_of_running hrun
      rw [neverTwice_pay hi hg (Or.inr ⟨n, hcovers⟩) rfl]
      simp only [PaysNewOrder, hcovers, Option.mem_some_iff, forall_eq']
  · cases he

end

/-- **No call is paid for twice exactly as long as no order document is.**  In every run
of any number of devices that starts without an order, no call of `addItemToOrder` is
charged by two payments in any state reached, if and only if every payment that is written
with success charges an order document, created by one call and not deleted since, that
no earlier successful payment has charged. -/
theorem neverTwice_iff {D : Type} [DecidableEq D] (uid orderId : String) (store : Firestore)
    (hnone : store.lookup (orderRef uid orderId) = none) (es : List (SystemEvent D))
    (s : BagSystem D orderId)
    (h : run (systemStep uid) (BagSystem.initial orderId store) es = some s) :
    (∀ k s', run (systemStep uid) (BagSystem.initial orderId store) (es.take k) = some s' →
      NeverTwice s'.service) ↔
    Along (systemStep uid) (OnReplies PaysNewOrder) (BagSystem.initial orderId store) es := by
  have hinit : PaidInv uid (BagSystem.initial orderId store : BagSystem D orderId).service := by
    have hcharged : ∀ l, ¬ Charged (BagSystem.initial orderId store :
        BagSystem D orderId).service l := by
      rintro l (⟨p, hp, -⟩ | ⟨n, hn⟩)
      · cases hp
      · cases hn
    refine ⟨fun hsome => ?_, fun l hl => absurd hl (hcharged l), fun l hl n hn => ?_,
      fun l l' hl hl' hhead => ?_⟩
    · rw [show (BagSystem.initial orderId store : BagSystem D orderId).service.store = store from rfl,
        hnone] at hsome
      cases hsome
    · rcases hl with rfl | hl
      · cases hn
      · exact absurd hl (hcharged l)
    · rcases hl with rfl | hl
      · exact List.disjoint_nil_left _
      · exact absurd hl (hcharged l)
  refine system_always_iff (PaidInv uid) NeverTwice (fun s e s' hi he => paidInv_step hi he)
    (fun s n r s' hi hg he => neverTwice_reply hi hg he) ?_ hinit (fun n => Nat.zero_le _) h
  intro s e s' _ hg hne he n
  rw [(bagStep_of_not_reply hne he).2.2]
  exact hg n

/-! ## Placed, refreshed, placed again -/

/-- A customer with an empty bag and a card to pay with. -/
def cardStore : Firestore :=
  ((∅ : Firestore).setData (refCurrentUser "uid")
    [("order_id", .string "bag"), ("primary_card", .string "pm")]).setData
    (refPaymentsMethods "uid" ++ ["pm"])
    [("brand", .string "visa"), ("last4", .string "4242"), ("month", .int 1), ("year", .int 30),
      ("number", .string "4242424242424242"), ("cvc", .string "123"), ("primary", .bool true)]

/-- The bag appears, and the customer and the primary card are fetched. -/
def refresh : List (SystemEvent Unit) :=
  [.screen () .fetchData, .screen () (.userFetched true), .screen () (.cardFetched 0 true)]

/-- The `k`-th order listener shows the bag through the `i`-th items listener, and the
order is placed with success, as operation `n`. -/
def place (k i n : ℕ) (token : String) : List (SystemEvent Unit) :=
  [.screen () (.orderSnapshot k true), .screen () (.itemsSnapshot i true),
    .screen () (.curtain .max), .screen () .placeOrder, .reply n (.bag "today"),
    .reply n (.token (some token)), .reply n (.written true), .answer 0]

/-- Soup is added to the bag, and the order is placed. -/
def placedOnce : List (SystemEvent Unit) :=
  refresh ++ [.screen () (.didSelect (sampleDish "soup" 10) (some (sampleChef "ana")) true),
    .screen () .addToOrder, .reply 0 .committed, .answer 0] ++ place 1 0 1 "tok_1"

/-- The bag is refreshed after that, and the order is placed again. -/
def placedTwice : List (SystemEvent Unit) := placedOnce ++ refresh ++ place 2 1 2 "tok_2"

theorem lookup_order_cardStore : cardStore.lookup (orderRef "uid" "bag") = none := by
  decide +kernel

theorem neverTwice_iff_placed_once : ∃ s : BagSystem Unit "bag",
    run (systemStep "uid") (BagSystem.initial "bag" cardStore) placedOnce = some s ∧
    ((∀ k s', run (systemStep "uid") (BagSystem.initial "bag" cardStore)
        (placedOnce.take k) = some s' → NeverTwice s'.service) ↔
      Along (systemStep "uid") (OnReplies PaysNewOrder) (BagSystem.initial "bag" cardStore)
        placedOnce) := by
  have hsome : (run (systemStep "uid") (BagSystem.initial "bag" cardStore)
      placedOnce).isSome := by decide +kernel
  obtain ⟨s, hs⟩ := Option.isSome_iff_exists.mp hsome
  exact ⟨s, hs, neverTwice_iff "uid" "bag" cardStore lookup_order_cardStore placedOnce s hs⟩

/-- **One bag, two payments.**  The soup of the only call ever made is charged by two
payment documents, each of a `placeOrder` that reported success. -/
theorem paid_twice : ∃ s : BagSystem Unit "bag",
    run (systemStep "uid") (BagSystem.initial "bag" cardStore) placedTwice = some s ∧
      s.service.paid = [("tok_1", [0]), ("tok_2", [0])] ∧
      (s.service.store.lookup (paymentRef "uid" "tok_1")).isSome ∧
      (s.service.store.lookup (paymentRef "uid" "tok_2")).isSome ∧ ¬ NeverTwice s.service := by
  have hrun : (run (systemStep "uid") (BagSystem.initial "bag" cardStore) placedTwice).map
      (fun s => (s.service.paid, (s.service.store.lookup (paymentRef "uid" "tok_1")).isSome,
        (s.service.store.lookup (paymentRef "uid" "tok_2")).isSome)) =
      some ([("tok_1", [0]), ("tok_2", [0])], true, true) := by decide +kernel
  obtain ⟨s, hs, hpaid⟩ := Option.map_eq_some_iff.mp hrun
  simp only [Prod.mk.injEq] at hpaid
  refine ⟨s, hs, hpaid.1, hpaid.2.1, hpaid.2.2, fun hnever => ?_⟩
  have hle := hnever 0
  rw [hpaid.1] at hle
  exact absurd hle (by decide)

end Lidora
