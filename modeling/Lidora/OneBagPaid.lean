import Lidora.PaidOnce

/-! # Whose bag a payment pays for

A payment document names a chef and a total.  The total is read from the store when
`placeOrder` runs; the chef comes from the order on the screen, as an earlier snapshot has
brought it.  In between, another device may clear the bag and fill it from another chef
under the same id, and then the first chef is sent the total of the second one's bag
(`wrong_chef_paid`).

`one_bag_paid` says that nothing else goes wrong: as long as each order document that
`placeOrder` reads, and goes on to charge, names the chef of the order on the screen,
every payment is that of one state of the bag.  The rest of the argument is that a payment
document, once it is written, is not touched again.  Its path is a token that Stripe
makes once, and an operation that is going to write under one is the only one to know it
(`OneBagInv`).
-/
namespace Lidora
open DocumentStore Runs

/-- The charge is what the order document holds. -/
structure Charge.HeldBy (c : Charge) (order : Doc) : Prop where
  destination : order.string "provider_id" = some c.destination
  destinationName : order.string "provider_name" = some c.destinationName
  subtotal : order.double "subtotal" = some c.subtotal
  total : order.double "total" = some c.total

/-- The charge is what the payment document holds. -/
structure Charge.WrittenTo (c : Charge) (payment : Doc) : Prop where
  destination : payment.string "destination" = some c.destination
  destinationName : payment.string "provider_name" = some c.destinationName
  subtotal : payment.double "subtotal" = some c.subtotal
  total : payment.double "total" = some c.total

/-- The order document that has led to the charge names its chef. -/
def BagRead.NamesChef (snapshot : Option Doc) : BagRead → Prop
  | .charge c => ∀ order ∈ snapshot, order.string "provider_id" = some c.destination ∧
      order.string "provider_name" = some c.destinationName
  | _ => True

instance (snapshot : Option Doc) : (read : BagRead) → Decidable (read.NamesChef snapshot)
  | .charge c => inferInstanceAs (Decidable (∀ order ∈ snapshot,
      order.string "provider_id" = some c.destination ∧
        order.string "provider_name" = some c.destinationName))
  | .silent | .trapped => isTrue trivial

/-- The same of an operation that waits for its read. -/
def BagOp.ReadsChef {orderId : String} (snapshot : Option Doc) : BagOp orderId → Prop
  | .reading order card => (readBag order card snapshot).NamesChef snapshot
  | _ => True

instance {orderId : String} (snapshot : Option Doc) :
    (op : BagOp orderId) → Decidable (op.ReadsChef snapshot)
  | .reading order card =>
    inferInstanceAs (Decidable ((readBag order card snapshot).NamesChef snapshot))
  | .adding _ _ | .clearing _ | .tokenizing _ _ _ | .charging _ _ _ _ => isTrue trivial

/-- The token under which an operation is going to write its payment. -/
def BagOp.token {orderId : String} : BagOp orderId → Option String
  | .charging _ token _ _ => some token
  | _ => none

section
variable {D : Type} {orderId : String} (uid : String)

/-- **Each payment is that of one state of the bag**: its document holds a charge that an
order document among `seen` holds. -/
def OneBag (seen : Doc → Prop) (s : BagState D orderId) : Prop :=
  ∀ p ∈ s.paid, ∃ payment, s.store.lookup (paymentRef uid p.1) = some payment ∧
    ∃ c : Charge, c.WrittenTo payment ∧ ∃ order, seen order ∧ c.HeldBy order

/-- A read of `placeOrder` that leads to a charge finds the chef of the order on the
screen. -/
def ReadsShownChef (s : BagState D orderId) (n : ℕ) : Reply → Prop
  | .bag _ => ∀ x ∈ s.ops.running n, x.2.ReadsChef (s.store.lookup (orderRef uid orderId))
  | _ => True

instance (s : BagState D orderId) (n : ℕ) : (r : Reply) → Decidable (ReadsShownChef uid s n r)
  | .bag _ => inferInstanceAs (Decidable (∀ x ∈ s.ops.running n,
      x.2.ReadsChef (s.store.lookup (orderRef uid orderId))))
  | .committed | .trapped | .failed | .items | .deleted _ | .token _ | .written _ =>
    isTrue trivial

/-- What an operation has in hand: items to delete, a charge that has been read, a token of
its own. -/
def InHand (seen : Doc → Prop) (s : BagState D orderId) : BagOp orderId → Prop
  | .clearing (some items) => ∀ p ∈ items, Firestore.InCollection (itemsRef uid orderId) p
  | .tokenizing c _ _ => ∃ order, seen order ∧ c.HeldBy order
  | .charging c token _ _ => (∃ order, seen order ∧ c.HeldBy order) ∧ token ∈ s.tokens ∧
      ∀ p ∈ s.paid, p.1 ≠ token
  | _ => True

/-- The token of operation `n`. -/
def tokenAt (s : BagState D orderId) (n : ℕ) : Option String :=
  (s.ops.running n).bind fun x => x.2.token

/-- **The invariant.** -/
structure OneBagInv (seen : Doc → Prop) (s : BagState D orderId) : Prop where
  inHand : ∀ n d op, s.ops.running n = some (d, op) → InHand uid seen s op
  apart : ∀ n m token, tokenAt s n = some token → tokenAt s m = some token → n = m
  made : ∀ p ∈ s.paid, p.1 ∈ s.tokens
  paid : OneBag uid seen s

variable {uid} {seen : Doc → Prop} {s s' : BagState D orderId}

/-- Reading by force, and finding the chef of the screen, is reading one document. -/
theorem heldBy_of_read {order : Order} {card : Card} {c : Charge} {snapshot : Option Doc}
    (hread : readBag order card snapshot = .charge c)
    (hchef : (readBag order card snapshot).NamesChef snapshot) :
    ∃ data, snapshot = some data ∧ c.HeldBy data := by
  obtain ⟨data, hdata, hsubtotal, htotal, -⟩ := readBag_charge hread
  rw [hread] at hchef
  obtain ⟨hid, hname⟩ := hchef data hdata
  exact ⟨data, hdata, hid, hname, hsubtotal, htotal⟩

/-- The payment document holds the charge, whatever it is merged into. -/
theorem writtenTo_merge (c : Charge) (token created : String) (d : Doc) :
    c.WrittenTo (d.merge (paymentFields c token created)) where
  destination := rfl
  destinationName := rfl
  subtotal := rfl
  total := rfl

theorem paymentRef_injective {token token' : String}
    (h : paymentRef uid token = paymentRef uid token') : token = token' := by
  simpa [paymentRef] using h

/-- No payment document is among the items of an order. -/
theorem paymentRef_ne_of_inCollection {p : Path}
    (hp : Firestore.InCollection (itemsRef uid orderId) p) (token : String) :
    paymentRef uid token ≠ p := by
  rintro rfl
  have hlength := congrArg List.length hp.1
  simp [paymentRef, refPayments, itemsRef, orderRef, refOrders, refCurrentUser] at hlength

theorem tokenAt_of_running {n : ℕ} {d : D} {op : BagOp orderId}
    (h : s.ops.running n = some (d, op)) : tokenAt s n = op.token := by
  rw [tokenAt, h]
  rfl

/-- Only an operation with a token asks something of the state. -/
theorem InHand.keep {op : BagOp orderId} (h : InHand uid seen s op)
    (htokens : ∀ token ∈ s.tokens, token ∈ s'.tokens)
    (hpaid : ∀ token, op.token = some token → (∀ p ∈ s.paid, p.1 ≠ token) →
      ∀ p ∈ s'.paid, p.1 ≠ token) : InHand uid seen s' op := by
  cases op with
  | charging c token created covers =>
    obtain ⟨horder, hmade, hnew⟩ := h
    exact ⟨horder, htokens token hmade, hpaid token rfl hnew⟩
  | clearing items => cases items <;> exact h
  | adding c ho => exact h
  | reading order card => exact h
  | tokenizing c created covers => exact h

/-- A token in hand is one that Stripe has made. -/
theorem InHand.made {op : BagOp orderId} (h : InHand uid seen s op) {token : String}
    (htoken : op.token = some token) : token ∈ s.tokens := by
  cases op with
  | charging c token' created covers =>
    cases htoken
    exact h.2.1
  | adding c ho => cases htoken
  | clearing items => cases htoken
  | reading order card => cases htoken
  | tokenizing c created covers => cases htoken

/-- A step that writes no payment, and gives no token. -/
theorem OneBagInv.frame (hi : OneBagInv uid seen s)
    (hops : ∀ n d op, s'.ops.running n = some (d, op) → s.ops.running n = some (d, op) ∨
      op.token = none ∧ InHand uid seen s op)
    (htokens : s'.tokens = s.tokens) (hpaid : s'.paid = s.paid)
    (hstore : ∀ token, s'.store.lookup (paymentRef uid token) =
      s.store.lookup (paymentRef uid token)) : OneBagInv uid seen s' := by
  have hsame : ∀ op : BagOp orderId, InHand uid seen s op → InHand uid seen s' op := by
    intro op hop
    refine hop.keep (fun token hmade => ?_) fun token _ hnew => ?_
    · rwa [htokens]
    · rwa [hpaid]
  have htoken : ∀ n token, tokenAt s' n = some token → tokenAt s n = some token := by
    intro n token h
    obtain ⟨⟨d, op⟩, hrun, hop⟩ := Option.bind_eq_some_iff.mp h
    rcases hops n d op hrun with hold | ⟨hnone, -⟩
    · exact (tokenAt_of_running hold).trans hop
    · have hsome : op.token = some token := hop
      rw [hnone] at hsome
      cases hsome
  constructor
  · intro n d op hrun
    rcases hops n d op hrun with hold | ⟨-, hop⟩
    · exact hsame op (hi.inHand n d op hold)
    · exact hsame op hop
  · intro n m token hn hm
    exact hi.apart n m token (htoken n token hn) (htoken m token hm)
  · rw [htokens, hpaid]
    exact hi.made
  · intro p hp
    rw [hpaid] at hp
    rw [hstore]
    exact hi.paid p hp

/-- A step after which `n` has ended, and nothing else has moved. -/
theorem OneBagInv.finish (hi : OneBagInv uid seen s) {n : ℕ} (hops : s'.ops = s.ops.finish n)
    (htokens : s'.tokens = s.tokens) (hpaid : s'.paid = s.paid)
    (hstore : ∀ token, s'.store.lookup (paymentRef uid token) =
      s.store.lookup (paymentRef uid token)) : OneBagInv uid seen s' := by
  refine hi.frame ?_ htokens hpaid hstore
  intro m d op hrun
  rw [hops] at hrun
  exact Or.inl (InFlight.finish_cases hrun).2

/-- A step after which `n` goes on without a token. -/
theorem OneBagInv.put (hi : OneBagInv uid seen s) {n : ℕ} {d : D} {op : BagOp orderId}
    {x : D × BagOp orderId} (hrun : s.ops.running n = some x) (hops : s'.ops = s.ops.put n (d, op))
    (htoken : op.token = none) (hop : InHand uid seen s op) (htokens : s'.tokens = s.tokens)
    (hpaid : s'.paid = s.paid)
    (hstore : ∀ token, s'.store.lookup (paymentRef uid token) =
      s.store.lookup (paymentRef uid token)) : OneBagInv uid seen s' := by
  refine hi.frame ?_ htokens hpaid hstore
  intro m d' op' hm
  rw [hops] at hm
  rcases InFlight.put_cases hrun hm with ⟨-, hsame⟩ | ⟨-, hold⟩
  · cases hsame
    exact Or.inr ⟨htoken, hop⟩
  · exact Or.inl hold

/-- A delete of anything else leaves the payments. -/
theorem lookup_delete_payment {p : Path} (ok : Bool) {token : String}
    (hp : paymentRef uid token ≠ p) :
    (s.delete p ok).store.lookup (paymentRef uid token) =
      s.store.lookup (paymentRef uid token) := by
  rw [BagState.delete_store]
  split
  · exact Finmap.lookup_erase_ne hp
  · rfl

/-- **Stripe makes a token**, for operation `n`. -/
theorem oneBagInv_token (hi : OneBagInv uid seen s) {n : ℕ} {d : D} {c : Charge}
    {created token : String} {covers : List ℕ}
    (hrun : s.ops.running n = some (d, .tokenizing c created covers)) (hnew : token ∉ s.tokens) :
    OneBagInv uid seen
      ({ s with tokens := token :: s.tokens }.next n d (.charging c token created covers)) := by
  set s' := ({ s with tokens := token :: s.tokens } : BagState D orderId).next n d
    (.charging c token created covers)
  have hcases : ∀ m d' op, s'.ops.running m = some (d', op) →
      m = n ∧ op = .charging c token created covers ∨ m ≠ n ∧ s.ops.running m = some (d', op) := by
    intro m d' op hm
    rcases InFlight.put_cases hrun hm with ⟨hmn, hsame⟩ | hold
    · cases hsame
      exact Or.inl ⟨hmn, rfl⟩
    · exact Or.inr hold
  -- no operation knew the token
  have hknown : ∀ m, tokenAt s m ≠ some token := by
    intro m hm
    obtain ⟨⟨d', op⟩, hrun', hop⟩ := Option.bind_eq_some_iff.mp hm
    exact hnew ((hi.inHand m d' op hrun').made hop)
  have htoken : ∀ m t, tokenAt s' m = some t → m = n ∧ t = token ∨ tokenAt s m = some t := by
    intro m t hm
    obtain ⟨⟨d', op⟩, hrun', hop⟩ := Option.bind_eq_some_iff.mp hm
    rcases hcases m d' op hrun' with ⟨hmn, rfl⟩ | ⟨-, hold⟩
    · cases hop
      exact Or.inl ⟨hmn, rfl⟩
    · exact Or.inr ((tokenAt_of_running hold).trans hop)
  constructor
  · intro m d' op hm
    rcases hcases m d' op hm with ⟨-, rfl⟩ | ⟨-, hold⟩
    · have hin := hi.inHand n d _ hrun
      exact ⟨hin, List.mem_cons_self, fun p hp heq => hnew (heq ▸ hi.made p hp)⟩
    · exact (hi.inHand m d' op hold).keep (fun _ => List.mem_cons_of_mem _) fun _ _ hne => hne
  · intro m k t hm hk
    rcases htoken m t hm with ⟨hmn, rfl⟩ | hold
    · rcases htoken k t hk with ⟨hkn, -⟩ | hold'
      · rw [hmn, hkn]
      · exact absurd hold' (hknown k)
    · rcases htoken k t hk with ⟨-, rfl⟩ | hold'
      · exact absurd hold (hknown m)
      · exact hi.apart m k t hold hold'
  · exact fun p hp => List.mem_cons_of_mem _ (hi.made p hp)
  · exact hi.paid

/-- **A payment is written**, of the charge that operation `n` has in hand. -/
theorem oneBagInv_pay (hi : OneBagInv uid seen s) {n : ℕ} {d : D} {c : Charge}
    {token created : String} {covers : List ℕ} {a : Answer}
    (hrun : s.ops.running n = some (d, .charging c token created covers)) :
    OneBagInv uid seen
      ((s.pay (s.store.setMerge (paymentRef uid token) (paymentFields c token created)) token
        covers).answer n d a) := by
  set s' := (s.pay (s.store.setMerge (paymentRef uid token) (paymentFields c token created)) token
    covers).answer n d a
  obtain ⟨⟨order, hseen, hheld⟩, hmade, hnew⟩ := hi.inHand n d _ hrun
  have hold : ∀ m x, s'.ops.running m = some x → m ≠ n ∧ s.ops.running m = some x :=
    fun m x hm => InFlight.finish_cases hm
  constructor
  · intro m d' op hm
    obtain ⟨hmn, hm⟩ := hold m (d', op) hm
    refine (hi.inHand m d' op hm).keep (fun _ hmade => hmade) fun token' hop hne p hp => ?_
    rcases List.mem_append.mp hp with hp | hp
    · exact hne p hp
    · -- the token that has been used is the operation's own
      rw [List.mem_singleton] at hp
      subst hp
      rintro rfl
      exact hmn (hi.apart m n token ((tokenAt_of_running hm).trans hop) (tokenAt_of_running hrun))
  · have htoken : ∀ m t, tokenAt s' m = some t → tokenAt s m = some t := by
      intro m t h
      obtain ⟨x, hm, hx⟩ := Option.bind_eq_some_iff.mp h
      exact Option.bind_eq_some_iff.mpr ⟨x, (hold m x hm).2, hx⟩
    intro m k t hm hk
    exact hi.apart m k t (htoken m t hm) (htoken k t hk)
  · intro p hp
    rcases List.mem_append.mp hp with hp | hp
    · exact hi.made p hp
    · rw [List.mem_singleton] at hp
      subst hp
      exact hmade
  · intro p hp
    rcases List.mem_append.mp hp with hp | hp
    · obtain ⟨payment, hpayment, hone⟩ := hi.paid p hp
      refine ⟨payment, ?_, hone⟩
      have hne : paymentRef uid p.1 ≠ paymentRef uid token :=
        fun heq => hnew p hp (paymentRef_injective heq)
      exact (Finmap.lookup_insert_of_ne _ hne).trans hpayment
    · rw [List.mem_singleton] at hp
      subst hp
      exact ⟨_, Finmap.lookup_insert _, c, writtenTo_merge c token created _, order, hseen, hheld⟩

/-- **One step.**  If it is a reply, the order document of the state is among those
seen. -/
theorem oneBagInv_step (hi : OneBagInv uid seen s) {e : BagEvent D}
    (hP : ∀ n r, e = .reply n r → ReadsShownChef uid s n r ∧
      ∀ order, s.store.lookup (orderRef uid orderId) = some order → seen order)
    (h : bagStep uid s e = some s') : OneBagInv uid seen s' := by
  rcases bagStep_cases h with ⟨d, c, rfl, rfl | ⟨op, rfl, hop⟩⟩ | ⟨n, r, d, op, rfl, hrun, hmoved⟩ |
    ⟨k, rfl, rfl⟩
  · exact hi
  · refine hi.frame ?_ rfl rfl fun _ => rfl
    intro m d' op' hm
    rcases InFlight.start_cases hm with ⟨-, hsame⟩ | hold
    · -- an operation that has just been started has nothing in hand
      cases hsame
      refine Or.inr ?_
      cases op with
      | adding c' ho => exact ⟨rfl, trivial⟩
      | reading order card => exact ⟨rfl, trivial⟩
      | clearing items =>
        cases items with
        | none => exact ⟨rfl, trivial⟩
        | some items => exact hop.elim
      | tokenizing c' created covers => exact hop.elim
      | charging c' token created covers => exact hop.elim
    · exact Or.inl hold
  · cases hmoved with
    | ended answers hcommit hwritten hclear => exact hi.finish rfl rfl rfl fun _ => rfl
    | committed hadd =>
      refine hi.finish rfl rfl rfl fun token => ?_
      exact lookup_of_completed_off hadd (paymentRef_ne_orderRef _ _ _)
        (paymentRef_ne_itemRef _ _ _ _)
    | queried =>
      refine hi.put hrun rfl rfl ?_ rfl rfl fun _ => rfl
      exact fun p hp => (Firestore.mem_documents.mp hp).1
    | deletedItem item items ok =>
      have hin := hi.inHand n d _ hrun
      refine hi.put hrun rfl rfl (fun p hp => hin p (List.mem_cons_of_mem _ hp)) rfl rfl ?_
      intro token
      exact lookup_delete_payment ok
        (paymentRef_ne_of_inCollection (hin item List.mem_cons_self) token)
    | deletedOrder ok =>
      refine hi.finish rfl rfl rfl fun token => ?_
      exact lookup_delete_payment ok (paymentRef_ne_orderRef uid orderId token)
    | @read order card c created hread =>
      obtain ⟨hreads, hseen⟩ := hP n _ rfl
      obtain ⟨data, hdata, hheld⟩ := heldBy_of_read hread (hreads (d, .reading order card) hrun)
      exact hi.put hrun rfl rfl ⟨data, hseen data hdata, hheld⟩ rfl rfl fun _ => rfl
    | token hnew => exact oneBagInv_token hi hrun hnew
    | paid c token created covers => exact oneBagInv_pay hi hrun
  · exact hi.frame (fun _ _ _ h => Or.inl h) rfl rfl fun _ => rfl

end

/-- **Each payment is that of one state of the bag.**  In every run of any number of
devices, from whatever is stored: if each read of `placeOrder` that leads to a charge finds
an order document that names the chef of the order on the screen, then every payment
document of a successful `placeOrder` names the chef and holds the amounts of one order
document, stored in some state that the run has reached. -/
theorem one_bag_paid {D : Type} [DecidableEq D] (uid orderId : String) (store : Firestore)
    (es : List (SystemEvent D)) (s : BagSystem D orderId)
    (h : run (systemStep uid) (BagSystem.initial orderId store) es = some s)
    (hP : Along (systemStep uid) (OnReplies (ReadsShownChef uid))
      (BagSystem.initial orderId store) es) :
    OneBag uid (fun order => ∃ k s',
      run (systemStep uid) (BagSystem.initial orderId store) (es.take k) = some s' ∧
        s'.service.store.lookup (orderRef uid orderId) = some order) s.service := by
  set seen : Doc → Prop := fun order => ∃ k s',
    run (systemStep uid) (BagSystem.initial orderId store) (es.take k) = some s' ∧
      s'.service.store.lookup (orderRef uid orderId) = some order
  have hinit : OneBagInv uid seen (BagSystem.initial orderId store :
      BagSystem D orderId).service := by
    constructor
    · exact fun n d op hrun => nomatch hrun
    · exact fun n m token hn => nomatch hn
    · exact List.forall_mem_nil _
    · exact List.forall_mem_nil _
  -- the order document of each state on the way is one of those seen
  have hreached : Along (systemStep uid) (OnReplies fun s n r => ReadsShownChef uid s n r ∧
      ∀ order, s.store.lookup (orderRef uid orderId) = some order → seen order)
      (BagSystem.initial orderId store) es := by
    have hstates : Along (systemStep uid) (fun s' _ => ∃ k,
        run (systemStep uid) (BagSystem.initial orderId store) (([] ++ es).take k) = some s')
        (BagSystem.initial orderId store : BagSystem D orderId) es := along_reached rfl
    refine (hP.and hstates).mono ?_
    rintro s' e ⟨hreads, k, hk⟩
    cases e with
    | screen d e => trivial
    | answer k => trivial
    | reply n r => exact ⟨hreads, fun order horder => ⟨k, s', hk, horder⟩⟩
  refine (system_invariant_along (OneBagInv uid seen) ?_ ?_ hinit hreached h).paid
  · intro s n r s' hi hP he
    refine oneBagInv_step hi ?_ he
    rintro n' r' heq
    cases heq
    exact hP
  · intro s e s' hi hne he
    exact oneBagInv_step hi (fun n r heq => absurd heq (hne n r)) he

theorem one_bag_paid_placed_once : ∃ s : BagSystem Unit "bag",
    run (systemStep "uid") (BagSystem.initial "bag" cardStore) placedOnce = some s ∧
    OneBag "uid" (fun order => ∃ k s',
      run (systemStep "uid") (BagSystem.initial "bag" cardStore) (placedOnce.take k) = some s' ∧
        s'.service.store.lookup (orderRef "uid" "bag") = some order) s.service := by
  have hsome : (run (systemStep "uid") (BagSystem.initial "bag" cardStore)
      placedOnce).isSome := by decide +kernel
  obtain ⟨s, hs⟩ := Option.isSome_iff_exists.mp hsome
  exact ⟨s, hs, one_bag_paid "uid" "bag" cardStore placedOnce s hs (by decide +kernel)⟩

/-! ## One chef's bag on the screen, another's in the store -/

/-- The bag appears on a device. -/
def shows (d : Bool) : List (SystemEvent Bool) :=
  [.screen d .fetchData, .screen d (.userFetched true), .screen d (.cardFetched 0 true)]

/-- A dish is added to the bag, as operation `n`. -/
def adds (d : Bool) (dish : Menu) (chefId : String) (n : ℕ) : List (SystemEvent Bool) :=
  [.screen d (.didSelect dish (some (sampleChef chefId)) true), .screen d .addToOrder,
    .reply n .committed, .answer 0]

/-- The `k`-th order listener shows the bag. -/
def opens (d : Bool) (k : ℕ) : List (SystemEvent Bool) :=
  [.screen d (.orderSnapshot k true), .screen d (.itemsSnapshot 0 true), .screen d (.curtain .max)]

/-- One device shows soup of Ana's; another clears the bag and adds bread of Bob's; then the
first places its order. -/
def placedMeanwhile : List (SystemEvent Bool) :=
  shows false ++ adds false (sampleDish "soup" 10) "ana" 0 ++ opens false 1 ++ shows true ++
    opens true 0 ++
    [.screen true .clearOrder, .screen true .confirmClear, .reply 1 .items,
      .reply 1 (.deleted true), .reply 1 (.deleted true), .answer 0] ++
    adds true (sampleDish "bread" 6) "bob" 2 ++
    [.screen false .placeOrder, .reply 3 (.bag "today"), .reply 3 (.token (some "tok")),
      .reply 3 (.written true)]

/-- **One chef is paid another's total.**  The payment names Ana and holds the total of Bob's
bag, and no order document of the run holds the two. -/
theorem wrong_chef_paid : ∃ s : BagSystem Bool "bag",
    run (systemStep "uid") (BagSystem.initial "bag" cardStore) placedMeanwhile = some s ∧
      (∃ payment, s.service.store.lookup (paymentRef "uid" "tok") = some payment ∧
        payment.string "destination" = some "ana" ∧ payment.double "total" = some 7.37) ∧
      ¬ OneBag "uid" (fun order => ∃ k s',
        run (systemStep "uid") (BagSystem.initial "bag" cardStore) (placedMeanwhile.take k) =
            some s' ∧
          s'.service.store.lookup (orderRef "uid" "bag") = some order) s.service := by
  have hrun : (run (systemStep "uid") (BagSystem.initial "bag" cardStore) placedMeanwhile).map
      (fun s => decide (s.service.paid = [("tok", [2])] ∧
        (s.service.store.lookup (paymentRef "uid" "tok")).map (fun d =>
          (d.string "destination", d.double "total")) = some (some "ana", some 7.37) ∧
        ∀ order ∈ s.service.store.lookup (orderRef "uid" "bag"),
          order.string "provider_id" ≠ some "ana" ∨ order.double "total" ≠ some 7.37)) =
      some true := by decide +kernel
  have halong : Along (systemStep "uid") (fun s _ => ∀ order ∈ s.service.store.lookup
      (orderRef "uid" "bag"),
      order.string "provider_id" ≠ some "ana" ∨ order.double "total" ≠ some 7.37)
      (BagSystem.initial "bag" cardStore : BagSystem Bool "bag") placedMeanwhile := by
    decide +kernel
  obtain ⟨s, hs, hdecide⟩ := Option.map_eq_some_iff.mp hrun
  obtain ⟨hpaid, hpayment, hlast⟩ := of_decide_eq_true hdecide
  obtain ⟨payment, hpayment, hfields⟩ := Option.map_eq_some_iff.mp hpayment
  obtain ⟨hana, htotal⟩ := Prod.mk.injEq .. ▸ hfields
  refine ⟨s, hs, ⟨payment, hpayment, hana, htotal⟩, fun hone => ?_⟩
  obtain ⟨payment', hpayment', c, hwritten, order, ⟨k, s', hk, horder⟩, hheld⟩ :=
    hone ("tok", [2]) (by rw [hpaid]; exact List.mem_cons_self)
  rw [hpayment] at hpayment'
  cases hpayment'
  -- the charge names Ana, and none of the order documents with her name has this total
  have hid : order.string "provider_id" = some "ana" := by
    rw [hheld.destination, ← hwritten.destination, hana]
  have hsame : order.double "total" = some 7.37 := by
    rw [hheld.total, ← hwritten.total, htotal]
  have hnone : order.string "provider_id" ≠ some "ana" ∨ order.double "total" ≠ some 7.37 := by
    rcases halong.reached hs hk with rfl | ⟨-, hbefore⟩
    · exact hlast order horder
    · exact hbefore order horder
  rcases hnone with hnone | hnone
  · exact hnone hid
  · exact hnone hsame

end Lidora
