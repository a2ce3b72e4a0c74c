import Lidora.OptimisticTransactions
import Lidora.Records
import Lidora.ServiceFee

/-! # `addItemToOrder`

`DataService.addItemToOrder` runs a Firestore transaction over two documents, the
order and one item under it.  The block (`addItemBlock`) first queues a write of the
order, created or updated, then one of the item, created or updated, and the two
choices are made independently.  A stored `total` or `quantity` that does not decode
makes the block return where it stands, with what it has queued so far and no error.

`addItemToOrder` is the call without interference; `addItemTxn` is the same block as
an optimistic transaction.  What a completed call leaves behind, on a bag whose
documents decode (`BagPriced`), is said once, by `addItemToOrder_completed`.
-/
namespace Lidora
open DocumentStore

/-- Swift's `+` on `Int`: out of range it traps. -/
def addInt (a b : ℤ) : Option ℤ :=
  if -2 ^ 63 ≤ a + b ∧ a + b < 2 ^ 63 then some (a + b) else none

theorem addInt_eq_some {a b c : ℤ} (h : addInt a b = some c) : c = a + b := by
  unfold addInt at h
  split at h
  · exact (Option.some.inj h).symm
  · cases h

/-- The arguments of `addItemToOrder`. -/
structure AddCall where
  orderId : String
  chef : Chef
  item : Menu
  quantity : ℤ
  total : ℚ
  deriving DecidableEq

/-- What the guard at the head of `addItemToOrder` binds. -/
structure AddEntry where
  providerId : String
  name : String
  description : String
  providerImageURL : String
  imageURL : String

/-- The guard at the head of `addItemToOrder`. -/
def AddCall.guard (c : AddCall) : Option AddEntry :=
  match c.item.name, c.item.description, c.chef.imageURL, c.item.imageURL with
  | some name, some description, some providerImageURL, some imageURL =>
    some ⟨c.chef.id, name, description, providerImageURL, imageURL⟩
  | _, _, _, _ => none

/-- How one half of the block goes: it traps, it returns early, or it queues a
write. -/
inductive Queued where
  | trap
  | giveUp
  | write (w : DocWrite)

/-- The order half of the block. -/
def orderPart (c : AddCall) (e : AddEntry) (ref : Path) (document : Option Doc) : Queued :=
  match document with
  | some data =>
    match data.double "total", data.int "quantity" with
    | some totalPrice, some totalQuantity =>
      let service := serviceFee (c.total + totalPrice)
      match addInt c.quantity totalQuantity with
      | none => .trap
      | some quantity =>
        .write (.updateData
          [("subtotal", .double service.subtotal), ("platform_fee", .double service.platformFee),
            ("stripe_fee", .double service.stripeFee), ("service_fee", .double service.serviceFee),
            ("total", .double service.total), ("quantity", .int quantity)] ref)
    | _, _ => .giveUp
  | none =>
    let service := serviceFee c.total
    match c.chef.firstName with
    | none => .trap
    | some firstName =>
      .write (.setData
        [("subtotal", .double service.subtotal), ("platform_fee", .double service.platformFee),
          ("stripe_fee", .double service.stripeFee), ("service_fee", .double service.serviceFee),
          ("delivery_fee", .double service.deliveryFee), ("total", .double service.total),
          ("quantity", .int c.quantity), ("provider_id", .string c.chef.id),
          ("provider_name", .string firstName),
          ("provider_imageURL", .string e.providerImageURL)] ref)

/-- The item half of the block. -/
def itemPart (c : AddCall) (e : AddEntry) (itemRef : Path) (itemDocument : Option Doc) : Queued :=
  match itemDocument with
  | some data =>
    match data.double "total", data.int "quantity" with
    | some totalPrice, some totalQuantity =>
      let roundedTotal := roundNumber (c.total + totalPrice)
      match addInt c.quantity totalQuantity with
      | none => .trap
      | some quantity =>
        .write (.updateData [("total", .double roundedTotal), ("quantity", .int quantity)] itemRef)
    | _, _ => .giveUp
  | none =>
    let roundedTotal := roundNumber c.total
    .write (.setData
      [("destination", .string e.providerId), ("name", .string e.name),
        ("description", .string e.description), ("total", .double roundedTotal),
        ("quantity", .int c.quantity), ("imageURL", .string e.imageURL)] itemRef)

/-- The transaction block on the two documents it has read: the writes it has queued
when it returns, `none` where it traps. -/
def addItemBlock (c : AddCall) (e : AddEntry) (ref itemRef : Path)
    (document itemDocument : Option Doc) : Option (List DocWrite) :=
  match orderPart c e ref document with
  | .trap => none
  | .giveUp => some []
  | .write w =>
    match itemPart c e itemRef itemDocument with
    | .trap => none
    | .giveUp => some [w]
    | .write w' => some [w, w']

/-- How a call ends: the guard turns it away without a word, the app traps, or the
call completes with `(true, nil)` and this store. -/
inductive AddResult where
  | ignored
  | trapped
  | completed (s : Firestore)

/-- `addItemToOrder` of the customer `uid`, when nothing interferes. -/
def addItemToOrder (uid : String) (c : AddCall) (s : Firestore) : AddResult :=
  match c.guard with
  | none => .ignored
  | some e =>
    let ref := orderRef uid c.orderId
    let itemRef := itemRef uid c.orderId c.item.id
    match addItemBlock c e ref itemRef (s.lookup ref) (s.lookup itemRef) with
    | none => .trapped
    | some ws => .completed (applyWrites s (ws.map DocWrite.toWrite))

/-! ## Paths under an order -/

theorem itemRef_ne_orderRef (uid orderId id : String) :
    itemRef uid orderId id ≠ orderRef uid orderId := by
  intro h
  have := congrArg List.length h
  simp [itemRef, itemsRef, orderRef] at this

theorem itemRef_inj {uid orderId i j : String} :
    itemRef uid orderId i = itemRef uid orderId j ↔ i = j := by
  simp [itemRef]

/-- The path of an item of the order. -/
def IsItem (uid orderId : String) (p : Path) : Prop :=
  Firestore.InCollection (itemsRef uid orderId) p

instance (uid orderId : String) : DecidablePred (IsItem uid orderId) :=
  fun p => inferInstanceAs (Decidable (Firestore.InCollection _ p))

theorem isItem_iff {uid orderId : String} {p : Path} :
    IsItem uid orderId p ↔ ∃ id, p = itemRef uid orderId id :=
  Firestore.inCollection_iff

theorem isItem_itemRef (uid orderId id : String) : IsItem uid orderId (itemRef uid orderId id) :=
  isItem_iff.mpr ⟨id, rfl⟩

theorem not_isItem_orderRef (uid orderId : String) :
    ¬ IsItem uid orderId (orderRef uid orderId) := by
  rw [isItem_iff]
  rintro ⟨id, h⟩
  exact itemRef_ne_orderRef uid orderId id h.symm

/-! ## What a call leaves behind -/

/-- A number field of a document that may be missing: `0` where it is. -/
def storedDouble (d : Option Doc) (k : String) : ℚ := (d.bind fun d => d.double k).getD 0

def storedInt (d : Option Doc) (k : String) : ℤ := (d.bind fun d => d.int k).getD 0

/-- The two fields that the block reads decode. -/
def Priced (d : Doc) : Prop := (∃ t, d.double "total" = some t) ∧ ∃ q, d.int "quantity" = some q

/-- The documents of the order `orderId` decode. -/
structure BagPriced (uid orderId : String) (s : Firestore) : Prop where
  order : ∀ d, s.lookup (orderRef uid orderId) = some d → Priced d
  item : ∀ id d, s.lookup (itemRef uid orderId id) = some d → Priced d

/-- What a call makes of the order document. -/
structure OrderAdded (c : AddCall) (old : Option Doc) (new : Doc) : Prop where
  quantity : new "quantity" = some (.int (c.quantity + storedInt old "quantity"))
  subtotal : new "subtotal" =
    some (.double (serviceFee (c.total + storedDouble old "total")).subtotal)
  platformFee : new "platform_fee" =
    some (.double (serviceFee (c.total + storedDouble old "total")).platformFee)
  stripeFee : new "stripe_fee" =
    some (.double (serviceFee (c.total + storedDouble old "total")).stripeFee)
  service : new "service_fee" =
    some (.double (serviceFee (c.total + storedDouble old "total")).serviceFee)
  total : new "total" = some (.double (serviceFee (c.total + storedDouble old "total")).total)
  /-- Written by the creating branch alone. -/
  deliveryFee : new "delivery_fee" =
    old.elim (some (.double (serviceFee c.total).deliveryFee)) fun d => d "delivery_fee"
  providerId : new "provider_id" =
    old.elim (some (.string c.chef.id)) fun d => d "provider_id"

/-- What a call makes of the item document. -/
structure ItemAdded (c : AddCall) (old : Option Doc) (new : Doc) : Prop where
  quantity : new "quantity" = some (.int (c.quantity + storedInt old "quantity"))
  total : new "total" = some (.double (roundNumber (c.total + storedDouble old "total")))
  destination : new "destination" =
    old.elim (some (.string c.chef.id)) fun d => d "destination"

theorem OrderAdded.priced {c : AddCall} {old : Option Doc} {new : Doc}
    (h : OrderAdded c old new) : Priced new :=
  ⟨⟨_, by rw [Doc.double, h.total]; rfl⟩, ⟨_, by rw [Doc.int, h.quantity]; rfl⟩⟩

theorem ItemAdded.priced {c : AddCall} {old : Option Doc} {new : Doc}
    (h : ItemAdded c old new) : Priced new :=
  ⟨⟨_, by rw [Doc.double, h.total]; rfl⟩, ⟨_, by rw [Doc.int, h.quantity]; rfl⟩⟩

/-- On an order document that decodes, or none, the order half writes. -/
theorem orderPart_spec (c : AddCall) (e : AddEntry) (ref : Path) {document : Option Doc}
    (hp : ∀ d, document = some d → Priced d) : orderPart c e ref document = .trap ∨
      ∃ w new, orderPart c e ref document = .write w ∧ w.toWrite.key = ref ∧
        w.toWrite.change document = some new ∧ OrderAdded c document new := by
  cases document with
  | none =>
    cases hname : c.chef.firstName with
    | none => exact Or.inl (by simp only [orderPart, hname])
    | some firstName =>
      refine Or.inr ⟨_, _, by simp only [orderPart, hname]; rfl, rfl, rfl, ?_⟩
      constructor <;> simp [Doc.ofFields, List.lookup, storedInt, storedDouble]
  | some data =>
    obtain ⟨⟨totalPrice, ht⟩, ⟨totalQuantity, hq⟩⟩ := hp data rfl
    cases hadd : addInt c.quantity totalQuantity with
    | none => exact Or.inl (by simp only [orderPart, ht, hq, hadd])
    | some quantity =>
      have hquantity := addInt_eq_some hadd
      subst hquantity
      refine Or.inr ⟨_, _, by simp only [orderPart, ht, hq, hadd]; rfl, rfl, rfl, ?_⟩
      constructor <;>
        simp [Doc.merge, List.lookup, storedInt, storedDouble, ht, hq]

/-- On an item document that decodes, or none, the item half writes. -/
theorem itemPart_spec {c : AddCall} {e : AddEntry} (itemRef : Path) {itemDocument : Option Doc}
    (he : c.guard = some e) (hp : ∀ d, itemDocument = some d → Priced d) :
    itemPart c e itemRef itemDocument = .trap ∨
      ∃ w new, itemPart c e itemRef itemDocument = .write w ∧ w.toWrite.key = itemRef ∧
        w.toWrite.change itemDocument = some new ∧ ItemAdded c itemDocument new := by
  have hprov : e.providerId = c.chef.id := by
    unfold AddCall.guard at he
    split at he
    · cases he
      rfl
    · cases he
  cases itemDocument with
  | none =>
    refine Or.inr ⟨_, _, rfl, rfl, rfl, ?_⟩
    constructor <;> simp [Doc.ofFields, List.lookup, storedInt, storedDouble, hprov]
  | some data =>
    obtain ⟨⟨totalPrice, ht⟩, ⟨totalQuantity, hq⟩⟩ := hp data rfl
    cases hadd : addInt c.quantity totalQuantity with
    | none => exact Or.inl (by simp only [itemPart, ht, hq, hadd])
    | some quantity =>
      have hquantity := addInt_eq_some hadd
      subst hquantity
      refine Or.inr ⟨_, _, by simp only [itemPart, ht, hq, hadd]; rfl, rfl, rfl, ?_⟩
      constructor <;>
        simp [Doc.merge, List.lookup, storedInt, storedDouble, ht, hq]

/-- **A completed call, on a bag that decodes, writes both documents.** -/
theorem addItemToOrder_completed {uid orderId : String} {c : AddCall} {s s' : Firestore}
    (ho : c.orderId = orderId) (hp : BagPriced uid orderId s)
    (h : addItemToOrder uid c s = .completed s') :
    ∃ order item, OrderAdded c (s.lookup (orderRef uid orderId)) order ∧
      ItemAdded c (s.lookup (itemRef uid orderId c.item.id)) item ∧
      s' = (s.insert (orderRef uid orderId) order).insert (itemRef uid orderId c.item.id) item := by
  subst ho
  unfold addItemToOrder at h
  split at h
  · cases h
  · rename_i e he
    have hne := itemRef_ne_orderRef uid c.orderId c.item.id
    rcases orderPart_spec c e (orderRef uid c.orderId) hp.order with
      ht | ⟨w, order, hw, hkey, hchange, horder⟩
    · simp only [addItemBlock, ht] at h
      cases h
    · rcases itemPart_spec (itemRef uid c.orderId c.item.id) he
          (hp.item c.item.id) with ht | ⟨w', item, hw', hkey', hchange', hitem⟩
      · simp only [addItemBlock, hw, ht] at h
        cases h
      · simp only [addItemBlock, hw, hw', List.map_cons, List.map_nil, applyWrites_cons,
          applyWrites_nil] at h
        cases h
        refine ⟨order, item, horder, hitem, ?_⟩
        have hfirst : applyWrite s w.toWrite = s.insert (orderRef uid c.orderId) order := by
          rw [← hkey] at hchange ⊢
          exact applyWrite_of_some hchange
        rw [hfirst, ← hkey']
        apply applyWrite_of_some
        rw [hkey', Finmap.lookup_insert_of_ne _ hne]
        exact hchange'

/-- The order half writes the order. -/
theorem key_of_orderPart {c : AddCall} {e : AddEntry} {ref : Path} {document : Option Doc}
    {w : DocWrite} (h : orderPart c e ref document = .write w) : w.toWrite.key = ref := by
  unfold orderPart at h
  repeat' split at h
  all_goals cases h
  all_goals rfl

/-- The item half writes the item. -/
theorem key_of_itemPart {c : AddCall} {e : AddEntry} {item : Path} {itemDocument : Option Doc}
    {w : DocWrite} (h : itemPart c e item itemDocument = .write w) : w.toWrite.key = item := by
  unfold itemPart at h
  repeat' split at h
  all_goals cases h
  all_goals rfl

/-- The writes of a call's block are to the order and the item that it names, and it writes
the order if anything. -/
theorem key_of_addItemBlock {c : AddCall} {e : AddEntry} {ref item : Path}
    {document itemDocument : Option Doc} {ws : List DocWrite}
    (h : addItemBlock c e ref item document itemDocument = some ws) :
    ∀ w ∈ ws, (w.toWrite.key = ref ∨ w.toWrite.key = item) ∧ ∃ w' ∈ ws, w'.toWrite.key = ref := by
  unfold addItemBlock at h
  split at h
  · cases h
  · cases h
    exact List.forall_mem_nil _
  · rename_i w hw
    split at h
    · cases h
    · cases h
      intro w' hw'
      rw [List.mem_singleton] at hw'
      exact ⟨Or.inl (hw' ▸ key_of_orderPart hw), w, List.mem_singleton_self _, key_of_orderPart hw⟩
    · rename_i w₂ hw₂
      cases h
      intro w' hw'
      refine ⟨?_, w, List.mem_cons_self, key_of_orderPart hw⟩
      rcases List.mem_pair.mp hw' with rfl | rfl
      · exact Or.inl (key_of_orderPart hw)
      · exact Or.inr (key_of_itemPart hw₂)

/-- A completed call, on whatever documents, changes no others. -/
theorem lookup_of_completed_off {uid : String} {c : AddCall} {s s' : Firestore}
    (h : addItemToOrder uid c s = .completed s') {p : Path} (hp : p ≠ orderRef uid c.orderId)
    (hi : p ≠ itemRef uid c.orderId c.item.id) : s'.lookup p = s.lookup p := by
  unfold addItemToOrder at h
  split at h
  · cases h
  · simp only at h
    split at h
    · cases h
    · rename_i ws hws
      cases h
      refine lookup_applyWrites_of_notMem ?_ s
      intro w hw
      obtain ⟨dw, hdw, rfl⟩ := List.mem_map.mp hw
      rcases (key_of_addItemBlock hws dw hdw).1 with hkey | hkey
      · rwa [hkey]
      · rwa [hkey]

/-! ## Bags over calls -/

/-- The items of the order, as `getDocuments()` of its `items` collection finds
them: a sum of one number field over them. -/
def itemsTotal (uid orderId : String) (s : Firestore) : ℚ :=
  sumOver (IsItem uid orderId) (fun d => storedDouble (some d) "total") s

def itemsQuantity (uid orderId : String) (s : Firestore) : ℤ :=
  sumOver (IsItem uid orderId) (fun d => storedInt (some d) "quantity") s

/-- Nothing is stored for the order. -/
structure EmptyBag (uid orderId : String) (s : Firestore) : Prop where
  order : s.lookup (orderRef uid orderId) = none
  item : ∀ id, s.lookup (itemRef uid orderId id) = none

theorem EmptyBag.priced {uid orderId : String} {s : Firestore} (h : EmptyBag uid orderId s) :
    BagPriced uid orderId s where
  order := fun d hd => by rw [h.order] at hd; cases hd
  item := fun id d hd => by rw [h.item id] at hd; cases hd

theorem valueAt_double (s : Firestore) (p : Path) :
    valueAt (fun d => storedDouble (some d) "total") s p = storedDouble (s.lookup p) "total" := by
  unfold valueAt
  cases s.lookup p <;> rfl

theorem valueAt_int (s : Firestore) (p : Path) :
    valueAt (fun d => storedInt (some d) "quantity") s p = storedInt (s.lookup p) "quantity" := by
  unfold valueAt
  cases s.lookup p <;> rfl

theorem OrderAdded.storedInt_quantity {c : AddCall} {old : Option Doc} {new : Doc}
    (h : OrderAdded c old new) :
    storedInt (some new) "quantity" = c.quantity + storedInt old "quantity" := by
  simp [storedInt, Doc.int, h.quantity, Value.asInt]

theorem OrderAdded.storedDouble_total {c : AddCall} {old : Option Doc} {new : Doc}
    (h : OrderAdded c old new) :
    storedDouble (some new) "total" = (serviceFee (c.total + storedDouble old "total")).total := by
  simp [storedDouble, Doc.double, h.total, Value.asDouble]

theorem ItemAdded.storedInt_quantity {c : AddCall} {old : Option Doc} {new : Doc}
    (h : ItemAdded c old new) :
    storedInt (some new) "quantity" = c.quantity + storedInt old "quantity" := by
  simp [storedInt, Doc.int, h.quantity, Value.asInt]

theorem ItemAdded.storedDouble_total {c : AddCall} {old : Option Doc} {new : Doc}
    (h : ItemAdded c old new) :
    storedDouble (some new) "total" = roundNumber (c.total + storedDouble old "total") := by
  simp [storedDouble, Doc.double, h.total, Value.asDouble]

section Completed
variable {uid orderId : String} {c : AddCall} {s s' : Firestore} (ho : c.orderId = orderId)
  (hp : BagPriced uid orderId s) (h : addItemToOrder uid c s = .completed s')
include ho hp h

/-- The order document after the call. -/
theorem lookup_order_of_completed : ∃ order,
    s'.lookup (orderRef uid orderId) = some order ∧
      OrderAdded c (s.lookup (orderRef uid orderId)) order := by
  obtain ⟨order, item, horder, hitem, rfl⟩ := addItemToOrder_completed ho hp h
  refine ⟨order, ?_, horder⟩
  rw [Finmap.lookup_insert_of_ne _ (itemRef_ne_orderRef uid orderId c.item.id).symm,
    Finmap.lookup_insert]

/-- The item document after the call. -/
theorem lookup_item_of_completed : ∃ item,
    s'.lookup (itemRef uid orderId c.item.id) = some item ∧
      ItemAdded c (s.lookup (itemRef uid orderId c.item.id)) item := by
  obtain ⟨order, item, horder, hitem, rfl⟩ := addItemToOrder_completed ho hp h
  exact ⟨item, Finmap.lookup_insert _, hitem⟩

/-- No other document changes. -/
theorem lookup_of_completed {p : Path} (hne : p ≠ orderRef uid orderId)
    (hi : p ≠ itemRef uid orderId c.item.id) : s'.lookup p = s.lookup p := by
  obtain ⟨order, item, horder, hitem, rfl⟩ := addItemToOrder_completed ho hp h
  rw [Finmap.lookup_insert_of_ne _ hi, Finmap.lookup_insert_of_ne _ hne]

theorem lookup_other_item_of_completed {id : String} (hid : id ≠ c.item.id) :
    s'.lookup (itemRef uid orderId id) = s.lookup (itemRef uid orderId id) :=
  lookup_of_completed ho hp h (itemRef_ne_orderRef _ _ _) fun he => hid (itemRef_inj.mp he)

/-- The call leaves a bag that decodes. -/
theorem bagPriced_of_completed : BagPriced uid orderId s' := by
  obtain ⟨order, horder, hadded⟩ := lookup_order_of_completed ho hp h
  obtain ⟨item, hitem, hitemAdded⟩ := lookup_item_of_completed ho hp h
  constructor
  · intro d hd
    rw [horder] at hd
    cases hd
    exact hadded.priced
  · intro id d hd
    by_cases hid : id = c.item.id
    · subst hid
      rw [hitem] at hd
      cases hd
      exact hitemAdded.priced
    · rw [lookup_other_item_of_completed ho hp h hid] at hd
      exact hp.item id d hd

/-- The sum over the items moves by what the call's own item moves. -/
theorem sumOver_items_of_completed {M : Type} [AddCommGroup M] (f : Doc → M) :
    sumOver (IsItem uid orderId) f s' = sumOver (IsItem uid orderId) f s +
      (valueAt f s' (itemRef uid orderId c.item.id) -
        valueAt f s (itemRef uid orderId c.item.id)) := by
  obtain ⟨order, item, horder, hitem, rfl⟩ := addItemToOrder_completed ho hp h
  rw [sumOver_insert, if_pos (isItem_itemRef _ _ _), sumOver_insert,
    if_neg (not_isItem_orderRef _ _), add_zero, valueAt_of_lookup f (Finmap.lookup_insert _),
    valueAt, Finmap.lookup_insert_of_ne _ (itemRef_ne_orderRef _ _ _)]
  rfl

theorem itemsQuantity_of_completed :
    itemsQuantity uid orderId s' = itemsQuantity uid orderId s + c.quantity := by
  obtain ⟨item, hitem, hadded⟩ := lookup_item_of_completed ho hp h
  rw [itemsQuantity, sumOver_items_of_completed ho hp h, valueAt_int, valueAt_int, hitem,
    hadded.storedInt_quantity, itemsQuantity]
  ring

theorem itemsTotal_of_completed (hc : WholeCents c.total)
    (hi : WholeCents (storedDouble (s.lookup (itemRef uid orderId c.item.id)) "total")) :
    itemsTotal uid orderId s' = itemsTotal uid orderId s + c.total := by
  obtain ⟨item, hitem, hadded⟩ := lookup_item_of_completed ho hp h
  rw [itemsTotal, sumOver_items_of_completed ho hp h, valueAt_double, valueAt_double, hitem,
    hadded.storedDouble_total, roundNumber_of_wholeCents (hc.add hi), itemsTotal]
  ring

end Completed

end Lidora
