import Lidora.Exchange
import Lidora.OrderTotals

/-! # The order in which a bag is filled

What a bag holds does not depend on the order of the calls that have filled it: every item has
the sum of what was added of it, and the order's quantity is the sum of all.  What it costs
does.  Each call takes fees on what the order has cost so far, so the line that is added last
is charged the fewest fees, and the same calls are cheapest with their line totals ascending and
dearest with them descending (`total_between`).

The reason is that the fees on an amount do not fall when the amount rises (`addOn_mono`); the
roundings do not disturb this, since in whole cents they only concern the fees.  A call whose
goods are on top of what was there costs at least sixty cents besides them, and a bag that `n`
calls have filled at least sixty cents for each call after the first, over what one call with
the same goods would have made of it (`total_ge`).
-/
namespace Lidora
open DocumentStore Exchange Rounding Runs

/-! ## What a bag holds and costs -/

section
variable (uid orderId : String) (s : Firestore)

/-- The stored `total` of the order. -/
def orderTotal : ℚ := storedDouble (s.lookup (orderRef uid orderId)) "total"

/-- The stored `quantity` of the order. -/
def orderQuantity : ℤ := storedInt (s.lookup (orderRef uid orderId)) "quantity"

/-- The stored `total` of an item. -/
def itemTotal (id : String) : ℚ := storedDouble (s.lookup (itemRef uid orderId id)) "total"

/-- The stored `quantity` of an item. -/
def itemQuantity (id : String) : ℤ := storedInt (s.lookup (itemRef uid orderId id)) "quantity"

/-- The stored amounts are whole cents. -/
structure BagInCents : Prop where
  order : WholeCents (orderTotal uid orderId s)
  item : ∀ id, WholeCents (itemTotal uid orderId s id)

end

/-- Two bags with the same goods. -/
structure SameGoods (uid orderId : String) (s t : Firestore) : Prop where
  orderQuantity : orderQuantity uid orderId s = orderQuantity uid orderId t
  itemQuantity : ∀ id, itemQuantity uid orderId s id = itemQuantity uid orderId t id
  itemTotal : ∀ id, itemTotal uid orderId s id = itemTotal uid orderId t id

/-- The total of the order after a call, of the one before it. -/
def billed (x : ℚ) (c : AddCall) : ℚ := (serviceFee (c.total + x)).total

/-- What the calls add of one item. -/
def addedOf (id : String) (calls : List AddCall) : List AddCall :=
  calls.filter fun c => c.item.id = id

/-! ## Runs of calls -/

section
variable {uid orderId : String} {s t : Firestore}

theorem BagInCents.step {c : AddCall} (hcents : BagInCents uid orderId s)
    (hp : BagPriced uid orderId s) (ho : c.orderId = orderId)
    (h : addItemToOrder uid c s = .completed t) : BagInCents uid orderId t := by
  obtain ⟨order, horder, hadded⟩ := lookup_order_of_completed ho hp h
  obtain ⟨item, hitem, hitemAdded⟩ := lookup_item_of_completed ho hp h
  constructor
  · rw [orderTotal, horder, hadded.storedDouble_total]
    exact (wholeCents_serviceFee _).2.2.2.2.2
  · intro id
    by_cases hid : id = c.item.id
    · rw [hid, itemTotal, hitem, hitemAdded.storedDouble_total]
      exact wholeCents_roundNumber _
    · rw [itemTotal, lookup_other_item_of_completed ho hp h hid]
      exact hcents.item id

/-- **One call**: what it makes of the amounts that are stored. -/
theorem amounts_of_completed {c : AddCall} (hcents : BagInCents uid orderId s)
    (hp : BagPriced uid orderId s) (ho : c.orderId = orderId) (hc : WholeCents c.total)
    (h : addItemToOrder uid c s = .completed t) :
    orderTotal uid orderId t = billed (orderTotal uid orderId s) c ∧
      orderQuantity uid orderId t = c.quantity + orderQuantity uid orderId s ∧
      ∀ id, itemTotal uid orderId t id =
          ((addedOf id [c]).map AddCall.total).sum + itemTotal uid orderId s id ∧
        itemQuantity uid orderId t id =
          ((addedOf id [c]).map AddCall.quantity).sum + itemQuantity uid orderId s id := by
  obtain ⟨order, horder, hadded⟩ := lookup_order_of_completed ho hp h
  obtain ⟨item, hitem, hitemAdded⟩ := lookup_item_of_completed ho hp h
  refine ⟨?_, ?_, fun id => ?_⟩
  · rw [orderTotal, horder, hadded.storedDouble_total]
    rfl
  · rw [orderQuantity, horder, hadded.storedInt_quantity]
    rfl
  · by_cases hid : c.item.id = id
    · have hone : addedOf id [c] = [c] := by simp [addedOf, hid]
      subst hid
      have hround : WholeCents (c.total + itemTotal uid orderId s c.item.id) :=
        hc.add (hcents.item c.item.id)
      rw [hone, itemTotal, itemQuantity, hitem, hitemAdded.storedDouble_total,
        hitemAdded.storedInt_quantity]
      exact ⟨by simpa [itemTotal] using roundNumber_of_wholeCents hround, by simp [itemQuantity]⟩
    · have hnone : addedOf id [c] = [] := by simp [addedOf, hid]
      rw [hnone, itemTotal, itemQuantity, lookup_other_item_of_completed ho hp h (Ne.symm hid)]
      exact ⟨by simp [itemTotal], by simp [itemQuantity]⟩

/-- **A run of calls.**  The goods are added up, and the total is billed call by call. -/
theorem amounts_of_addsFrom {calls : List AddCall} (hcents : BagInCents uid orderId s)
    (hp : BagPriced uid orderId s) (horder : ∀ c ∈ calls, c.orderId = orderId)
    (hcalls : ∀ c ∈ calls, WholeCents c.total) (h : addsFrom uid s calls = some t) :
    orderTotal uid orderId t = calls.foldl billed (orderTotal uid orderId s) ∧
      orderQuantity uid orderId t = (calls.map AddCall.quantity).sum + orderQuantity uid orderId s ∧
      ∀ id, itemTotal uid orderId t id =
          ((addedOf id calls).map AddCall.total).sum + itemTotal uid orderId s id ∧
        itemQuantity uid orderId t id =
          ((addedOf id calls).map AddCall.quantity).sum + itemQuantity uid orderId s id := by
  induction calls generalizing s with
  | nil =>
    cases h
    simp [addedOf]
  | cons c calls ih =>
    obtain ⟨s₁, h₁, h⟩ := (run_cons_iff _).mp h
    rw [addStep_eq_some] at h₁
    obtain ⟨ho, horder⟩ := List.forall_mem_cons.mp horder
    obtain ⟨hc, hcalls⟩ := List.forall_mem_cons.mp hcalls
    obtain ⟨htotal, hquantity, hitems⟩ := amounts_of_completed hcents hp ho hc h₁
    obtain ⟨htotal', hquantity', hitems'⟩ :=
      ih (hcents.step hp ho h₁) (bagPriced_of_completed ho hp h₁) horder hcalls h
    refine ⟨?_, ?_, fun id => ?_⟩
    · rw [htotal', htotal, List.foldl_cons]
    · rw [hquantity', hquantity, List.map_cons, List.sum_cons]
      ring
    · have hsplit : addedOf id (c :: calls) = addedOf id [c] ++ addedOf id calls := by
        rw [addedOf, addedOf, addedOf, ← List.filter_append, List.singleton_append]
      rw [(hitems' id).1, (hitems' id).2, (hitems id).1, (hitems id).2, hsplit, List.map_append,
        List.map_append, List.sum_append, List.sum_append]
      constructor <;> ring

/-- The goods do not depend on the order of the calls. -/
theorem sameGoods_of_perm {t' : Firestore} {calls calls' : List AddCall}
    (hcents : BagInCents uid orderId s) (hp : BagPriced uid orderId s)
    (horder : ∀ c ∈ calls, c.orderId = orderId) (hcalls : ∀ c ∈ calls, WholeCents c.total)
    (hperm : calls.Perm calls') (h : addsFrom uid s calls = some t)
    (h' : addsFrom uid s calls' = some t') : SameGoods uid orderId t t' := by
  have horder' : ∀ c ∈ calls', c.orderId = orderId := fun c hc => horder c (hperm.mem_iff.mpr hc)
  have hcalls' : ∀ c ∈ calls', WholeCents c.total := fun c hc => hcalls c (hperm.mem_iff.mpr hc)
  obtain ⟨-, hquantity, hitems⟩ := amounts_of_addsFrom hcents hp horder hcalls h
  obtain ⟨-, hquantity', hitems'⟩ := amounts_of_addsFrom hcents hp horder' hcalls' h'
  have hadded : ∀ id, (addedOf id calls).Perm (addedOf id calls') := fun id => hperm.filter _
  constructor
  · rw [hquantity, hquantity', (hperm.map AddCall.quantity).sum_eq]
  · intro id
    rw [(hitems id).2, (hitems' id).2, ((hadded id).map AddCall.quantity).sum_eq]
  · intro id
    rw [(hitems id).1, (hitems' id).1, ((hadded id).map AddCall.total).sum_eq]

end

/-! ## What the order costs -/

/-- The fees on an amount: what its total is on top of it. -/
def addOn (x : ℚ) : ℚ := (serviceFee x).total - x

/-- **Fees on a larger amount are no smaller.** -/
theorem addOn_mono {x y : ℚ} (hx : WholeCents x) (hy : WholeCents y) (h : x ≤ y) :
    addOn x ≤ addOn y := by
  have hle := serviceFee_atMost h
  rw [addOn, addOn, serviceFee_total, serviceFee_total, serviceFee_subtotal hx,
    serviceFee_subtotal hy]
  linarith [hle.stripeFee, hle.platformFee, hle.deliveryFee]

theorem wholeCents_billed (x : ℚ) (c : AddCall) : WholeCents (billed x c) :=
  (wholeCents_serviceFee _).2.2.2.2.2

/-- **Smaller lines first**: of two neighbouring calls, the larger line is charged fewer fees
when it comes last. -/
theorem exchangeable_billed : Exchangeable {x | WholeCents x} {c | WholeCents c.total}
    (fun c c' => c.total ≤ c'.total) billed where
  keeps {x c} _ _ := wholeCents_billed x c
  mono {x y c} _ _ _ hxy := (serviceFee_atMost (by linarith)).total
  swap {x c c'} hx hc hc' hle := by
    have hfirst : WholeCents (c.total + x) := hc.add hx
    have hsecond : WholeCents (c'.total + x) := hc'.add hx
    have hfees := addOn_mono hfirst hsecond (by linarith)
    refine (serviceFee_atMost ?_).total
    show c'.total + (serviceFee (c.total + x)).total ≤ c.total + (serviceFee (c'.total + x)).total
    rw [addOn, addOn] at hfees
    linarith

/-- **The same goods at another price.**  From any bag in whole cents, take any successful calls
on its order with whole cents for line totals, in an order in which these ascend.  Whatever
other order the calls are made in, they leave the same goods, at a total that is no lower than
in the ascending order and no higher than in the descending one. -/
theorem total_between (uid orderId : String) (s tUp t tDown : Firestore)
    (calls calls' : List AddCall) (hcents : BagInCents uid orderId s)
    (hp : BagPriced uid orderId s) (horder : ∀ c ∈ calls, c.orderId = orderId)
    (hcalls : ∀ c ∈ calls, WholeCents c.total)
    (hsorted : calls.Pairwise fun c c' => c.total ≤ c'.total) (hperm : calls.Perm calls')
    (hUp : addsFrom uid s calls = some tUp) (h : addsFrom uid s calls' = some t)
    (hDown : addsFrom uid s calls.reverse = some tDown) :
    SameGoods uid orderId tUp t ∧ SameGoods uid orderId t tDown ∧
      orderTotal uid orderId tUp ≤ orderTotal uid orderId t ∧
      orderTotal uid orderId t ≤ orderTotal uid orderId tDown := by
  have horder' : ∀ c ∈ calls', c.orderId = orderId := fun c hc => horder c (hperm.mem_iff.mpr hc)
  have hcalls' : ∀ c ∈ calls', WholeCents c.total := fun c hc => hcalls c (hperm.mem_iff.mpr hc)
  have hreverse : calls'.Perm calls.reverse := hperm.symm.trans (List.reverse_perm calls).symm
  have htotalUp := (amounts_of_addsFrom hcents hp horder hcalls hUp).1
  have htotal := (amounts_of_addsFrom hcents hp horder' hcalls' h).1
  have htotalDown := (amounts_of_addsFrom hcents hp
    (fun c hc => horder c (List.mem_reverse.mp hc)) (fun c hc => hcalls c (List.mem_reverse.mp hc))
    hDown).1
  refine ⟨sameGoods_of_perm hcents hp horder hcalls hperm hUp h,
    sameGoods_of_perm hcents hp horder' hcalls' hreverse h hDown, ?_, ?_⟩
  · rw [htotalUp, htotal]
    exact exchangeable_billed.foldl_le_of_perm hcalls hsorted hperm hcents.order
  · rw [htotal, htotalDown]
    exact exchangeable_billed.le_foldl_reverse_of_perm hcalls hsorted hperm hcents.order

/-! ## What each further call costs -/

/-- **Sixty cents at least**: thirty to Stripe, and thirty for the delivery. -/
theorem addOn_ge {x : ℚ} (hx : WholeCents x) (hpos : 0 ≤ x) : 0.60 ≤ addOn x := by
  have hthirty : roundNumber 0.30 = 0.30 := roundNumber_of_wholeCents wholeCents_deliveryFee
  have hstripe : 0.30 ≤ (serviceFee x).stripeFee := by
    have hround : roundNumber 0.30 ≤ (serviceFee x).stripeFee := by
      refine roundNumber_mono ?_
      have hsub : 0 ≤ roundNumber x := roundNumber_nonneg hpos
      simp only [percentage]
      linarith
    rwa [hthirty] at hround
  have hplatform := serviceFee_platformFee_nonneg hpos
  have hdelivery : (serviceFee x).deliveryFee = 0.30 := rfl
  rw [addOn, serviceFee_total, serviceFee_subtotal hx, hdelivery]
  linarith

/-- What is added to an amount is added to its total, at least. -/
theorem serviceFee_add_ge {x d : ℚ} (hx : WholeCents x) (hd : WholeCents d) (hpos : 0 ≤ d) :
    (serviceFee x).total + d ≤ (serviceFee (x + d)).total := by
  have hfees := addOn_mono hx (hx.add hd) (by linarith)
  rw [addOn, addOn] at hfees
  linarith

theorem wholeCents_sixty (k : ℕ) : WholeCents (0.60 * k) :=
  ⟨60 * k, by push_cast; ring⟩

/-- **Call by call**, a total that is sixty cents for each of `k` calls above that of its goods
stays so. -/
theorem foldl_billed_ge {calls : List AddCall} (hcalls : ∀ c ∈ calls, WholeCents c.total ∧
    0 ≤ c.total) {goods x : ℚ} {k : ℕ} (hgoods : WholeCents goods) (hpos : 0 ≤ goods)
    (hx : (serviceFee goods).total + 0.60 * k ≤ x) :
    (serviceFee ((calls.map AddCall.total).sum + goods)).total + 0.60 * (k + calls.length : ℕ) ≤
      calls.foldl billed x := by
  induction calls generalizing goods x k with
  | nil => simpa using hx
  | cons c calls ih =>
    obtain ⟨⟨hc, hcpos⟩, hcalls⟩ := List.forall_mem_cons.mp hcalls
    have hmore : WholeCents (c.total + goods) := hc.add hgoods
    have hstep : (serviceFee (c.total + goods)).total + 0.60 * (k + 1 : ℕ) ≤ billed x c := by
      calc (serviceFee (c.total + goods)).total + 0.60 * (k + 1 : ℕ)
          ≤ (serviceFee (c.total + goods + 0.60 * (k + 1 : ℕ))).total :=
            serviceFee_add_ge hmore (wholeCents_sixty (k + 1)) (by positivity)
        _ ≤ billed x c := by
            refine (serviceFee_atMost ?_).total
            have hfees := addOn_ge hgoods hpos
            rw [addOn] at hfees
            push_cast
            linarith
    have hrest := ih hcalls hmore (by linarith) hstep
    have hsum : (List.map AddCall.total (c :: calls)).sum + goods =
        (calls.map AddCall.total).sum + (c.total + goods) := by
      rw [List.map_cons, List.sum_cons]
      ring
    have hlength : k + (c :: calls).length = k + 1 + calls.length := by
      rw [List.length_cons]
      omega
    rwa [hsum, hlength]

/-- The items hold what the calls have added. -/
theorem itemsTotal_of_addsFrom {uid orderId : String} {s t : Firestore} {calls : List AddCall}
    (hcents : BagInCents uid orderId s) (hp : BagPriced uid orderId s)
    (horder : ∀ c ∈ calls, c.orderId = orderId) (hcalls : ∀ c ∈ calls, WholeCents c.total)
    (h : addsFrom uid s calls = some t) :
    itemsTotal uid orderId t = (calls.map AddCall.total).sum + itemsTotal uid orderId s := by
  induction calls generalizing s with
  | nil =>
    cases h
    simp
  | cons c calls ih =>
    obtain ⟨s₁, h₁, h⟩ := (run_cons_iff _).mp h
    rw [addStep_eq_some] at h₁
    obtain ⟨ho, horder⟩ := List.forall_mem_cons.mp horder
    obtain ⟨hc, hcalls⟩ := List.forall_mem_cons.mp hcalls
    rw [ih (hcents.step hp ho h₁) (bagPriced_of_completed ho hp h₁) horder hcalls h,
      itemsTotal_of_completed ho hp h₁ hc (hcents.item c.item.id), List.map_cons, List.sum_cons]
    ring

theorem EmptyBag.inCents {uid orderId : String} {s : Firestore} (h : EmptyBag uid orderId s) :
    BagInCents uid orderId s := by
  constructor
  · rw [orderTotal, h.order]
    exact OnGrid.zero 100
  · intro id
    rw [itemTotal, h.item id]
    exact OnGrid.zero 100

/-- **Every further call costs sixty cents.**  A bag that `n` successful calls have filled, with
line totals of whole cents that are not negative, costs at least sixty cents for each call
after the first, over the total of its goods, which is what a single call would have come to. -/
theorem total_ge (uid orderId : String) (s t : Firestore) (c : AddCall) (calls : List AddCall)
    (hempty : EmptyBag uid orderId s) (horder : ∀ c' ∈ c :: calls, c'.orderId = orderId)
    (hcalls : ∀ c' ∈ c :: calls, WholeCents c'.total ∧ 0 ≤ c'.total)
    (h : addsFrom uid s (c :: calls) = some t) :
    (serviceFee (itemsTotal uid orderId t)).total + 0.60 * calls.length ≤
        orderTotal uid orderId t ∧
      (calls = [] → orderTotal uid orderId t = (serviceFee (itemsTotal uid orderId t)).total) := by
  have hcents : ∀ c' ∈ c :: calls, WholeCents c'.total := fun c' hc' => (hcalls c' hc').1
  have hnone : itemsTotal uid orderId s = 0 := by
    refine sumOver_eq_zero _ _ fun p hp => ?_
    obtain ⟨id, rfl⟩ := isItem_iff.mp hp
    exact hempty.item id
  have hzero : orderTotal uid orderId s = 0 := by
    rw [orderTotal, hempty.order]
    rfl
  have hgoods : itemsTotal uid orderId t = (calls.map AddCall.total).sum + c.total := by
    rw [itemsTotal_of_addsFrom hempty.inCents hempty.priced horder hcents h, hnone, List.map_cons,
      List.sum_cons]
    ring
  have htotal : orderTotal uid orderId t = calls.foldl billed (serviceFee c.total).total := by
    rw [(amounts_of_addsFrom hempty.inCents hempty.priced horder hcents h).1, hzero,
      List.foldl_cons, billed, add_zero]
  obtain ⟨⟨hc, hpos⟩, hrest⟩ := List.forall_mem_cons.mp hcalls
  rw [hgoods, htotal]
  constructor
  · have hge := foldl_billed_ge hrest (k := 0) hc hpos (x := (serviceFee c.total).total) (by simp)
    rwa [Nat.zero_add] at hge
  · rintro rfl
    simp

/-! ## Soup and salad, either way round -/

theorem emptyBag_empty : EmptyBag "uid" "bag" ∅ :=
  ⟨Finmap.lookup_empty _, fun _ => Finmap.lookup_empty _⟩

/-- One dish at six dollars. -/
def saladCall : AddCall := ⟨"bag", sampleChef "ana", sampleDish "salad" 6, 1, 6⟩

theorem cents_saladCall : WholeCents saladCall.total ∧ 0 ≤ saladCall.total :=
  ⟨⟨600, by norm_num [saladCall]⟩, by norm_num [saladCall]⟩

theorem cents_soupCall : WholeCents soupCall.total ∧ 0 ≤ soupCall.total :=
  ⟨⟨1000, by norm_num [soupCall]⟩, by norm_num [soupCall]⟩

/-- **Two salads and a soup** come to 29.62 dollars with the soup last, to 30.19 with the soup in
between, and to 30.86 with the soup first. -/
theorem total_between_soup : ∃ tUp t tDown,
    addsFrom "uid" ∅ [saladCall, saladCall, soupCall] = some tUp ∧
    addsFrom "uid" ∅ [saladCall, soupCall, saladCall] = some t ∧
    addsFrom "uid" ∅ [soupCall, saladCall, saladCall] = some tDown ∧
    orderTotal "uid" "bag" tUp = 29.62 ∧ orderTotal "uid" "bag" t = 30.19 ∧
    orderTotal "uid" "bag" tDown = 30.86 ∧
    (SameGoods "uid" "bag" tUp t ∧ SameGoods "uid" "bag" t tDown ∧
      orderTotal "uid" "bag" tUp ≤ orderTotal "uid" "bag" t ∧
      orderTotal "uid" "bag" t ≤ orderTotal "uid" "bag" tDown) := by
  have hUp : (addsFrom "uid" ∅ [saladCall, saladCall, soupCall]).map
      (orderTotal "uid" "bag") = some 29.62 := by decide +kernel
  have hBetween : (addsFrom "uid" ∅ [saladCall, soupCall, saladCall]).map
      (orderTotal "uid" "bag") = some 30.19 := by decide +kernel
  have hDown : (addsFrom "uid" ∅ [soupCall, saladCall, saladCall]).map
      (orderTotal "uid" "bag") = some 30.86 := by decide +kernel
  obtain ⟨tUp, htUp, hvalueUp⟩ := Option.map_eq_some_iff.mp hUp
  obtain ⟨t, ht, hvalue⟩ := Option.map_eq_some_iff.mp hBetween
  obtain ⟨tDown, htDown, hvalueDown⟩ := Option.map_eq_some_iff.mp hDown
  have hle : saladCall.total ≤ soupCall.total := by norm_num [saladCall, soupCall]
  refine ⟨tUp, t, tDown, htUp, ht, htDown, hvalueUp, hvalue, hvalueDown,
    total_between "uid" "bag" ∅ tUp t tDown [saladCall, saladCall, soupCall]
      [saladCall, soupCall, saladCall] emptyBag_empty.inCents emptyBag_empty.priced (by decide) ?_
      ?_ (by decide) htUp ht htDown⟩
  · intro c hc
    simp only [List.mem_cons, List.not_mem_nil, or_false] at hc
    rcases hc with rfl | rfl | rfl
    · exact cents_saladCall.1
    · exact cents_saladCall.1
    · exact cents_soupCall.1
  · simp [hle]

theorem total_ge_soup : ∃ t, addsFrom "uid" ∅ [soupCall, saladCall] = some t ∧
    ((serviceFee (itemsTotal "uid" "bag" t)).total + 0.60 * [saladCall].length ≤
        orderTotal "uid" "bag" t ∧
      ([saladCall] = [] →
        orderTotal "uid" "bag" t = (serviceFee (itemsTotal "uid" "bag" t)).total)) := by
  have hsome : (addsFrom "uid" ∅ [soupCall, saladCall]).isSome := by decide +kernel
  obtain ⟨t, ht⟩ := Option.isSome_iff_exists.mp hsome
  refine ⟨t, ht, total_ge "uid" "bag" ∅ t soupCall [saladCall] emptyBag_empty (by decide) ?_ ht⟩
  rintro c hc
  rcases List.mem_pair.mp hc with rfl | rfl
  · exact cents_soupCall
  · exact cents_saladCall

end Lidora
