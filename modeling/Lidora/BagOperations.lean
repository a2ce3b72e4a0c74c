import Lidora.AddItemToOrder
import Lidora.InFlight
import Lidora.PlaceOrder
import Lidora.Runs

/-! # The operations on one bag, request by request

Any number of devices of the customer `uid` work on the order `orderId`, through
three functions of `DataService`: `addItemToOrder`, `clearOrder` and `placeOrder` with
`completeCharge`.  Each of them waits for replies of Firestore or Stripe, and between
two replies of one operation any other operation may move.  An operation in flight is
therefore cut at its callbacks (`BagOp`), and `proceed` says what a reply makes of it:

* `addItemToOrder` waits for its transaction, which takes effect at its commit
  (`OptimisticTransactions.run_atomic` is why it may be taken as one step);
* `clearOrder` waits for the query of the items, then its deletes are carried out one
  by one, the items in the order of the query and the order document last.  Nobody
  looks at what becomes of the items' deletes;
* `placeOrder` waits for its read, `completeCharge` for the token and then for the
  write of the payment document.

`content`, `covers` and `paid` are not in the code.  They record which calls of
`addItemToOrder` the stored order document holds, which of them a `placeOrder` has read,
and which of them each successful `placeOrder` has charged.
-/
namespace Lidora
open DocumentStore Runs

/-- What a device asks of `DataService`. -/
inductive BagCall where
  | addItemToOrder (c : AddCall)
  | clearOrder (orderId : String)
  | placeOrder (order : Order) (card : Card)

/-- An operation on the order `orderId` that waits for a reply. -/
inductive BagOp (orderId : String) where
  | adding (c : AddCall) (ho : c.orderId = orderId)
  /-- `clearOrder`, with the items that it has still to delete once it knows them. -/
  | clearing (items : Option (List Path))
  | reading (order : Order) (card : Card)
  | tokenizing (c : Charge) (created : String) (covers : List ℕ)
  | charging (c : Charge) (token created : String) (covers : List ℕ)

/-- The operation has just been started. -/
def BagOp.IsFirst {orderId : String} : BagOp orderId → Prop
  | .adding _ _ | .clearing none | .reading _ _ => True
  | _ => False

/-- A reply to an operation: of Firestore, or of Stripe for `token`. -/
inductive Reply where
  /-- The transaction commits. -/
  | committed
  /-- The transaction's block traps on the documents that it has read. -/
  | trapped
  /-- The transaction, the query or the read ends with an error. -/
  | failed
  /-- The query of the items is answered, with what is stored; the cache that the SDK may answer
  from when it is offline is left out. -/
  | items
  /-- The next delete is carried out or rejected. -/
  | deleted (ok : Bool)
  /-- The read of the order is answered, on the date `created`. -/
  | bag (created : String)
  | token (id : Option String)
  | written (ok : Bool)
  deriving DecidableEq

/-- What a device hears of an operation: the completion, or a trap, which takes the
app down. -/
inductive Answer where
  | addItemToOrder (success : Bool)
  | clearOrder (success : Bool)
  | placeOrder (success : Bool)
  | trapped
  deriving DecidableEq

/-- The store, the operations in flight, and the answers that no device has taken up
yet. -/
structure BagState (D : Type) (orderId : String) where
  store : Firestore
  ops : InFlight (D × BagOp orderId)
  answers : List (D × Answer)
  /-- The tokens that Stripe has made. -/
  tokens : List String
  /-- The calls that the stored order document holds. -/
  content : List ℕ
  /-- The payment documents of successful `placeOrder`s, by token, each with the calls it
  charges. -/
  paid : List (String × List ℕ)

inductive BagEvent (D : Type) where
  | call (d : D) (c : BagCall)
  | reply (n : ℕ) (r : Reply)
  /-- A device takes up the `k`-th answer. -/
  | handle (k : ℕ)

namespace BagState
variable {D : Type} {orderId : String}

/-- Nothing has been asked for yet. -/
def initial (orderId : String) (store : Firestore) : BagState D orderId :=
  ⟨store, InFlight.empty, [], [], [], []⟩

/-- A device starts an operation. -/
def start (s : BagState D orderId) (d : D) (op : BagOp orderId) : BagState D orderId :=
  { s with ops := s.ops.start (d, op) }

/-- Operation `n` goes on as `op`. -/
def next (s : BagState D orderId) (n : ℕ) (d : D) (op : BagOp orderId) : BagState D orderId :=
  { s with ops := s.ops.put n (d, op) }

/-- Operation `n` ends without a completion. -/
def stop (s : BagState D orderId) (n : ℕ) : BagState D orderId :=
  { s with ops := s.ops.finish n }

/-- Operation `n` ends with an answer. -/
def answer (s : BagState D orderId) (n : ℕ) (d : D) (a : Answer) : BagState D orderId :=
  { s with ops := s.ops.finish n, answers := s.answers ++ [(d, a)] }

/-- A delete is carried out or rejected. -/
def delete (s : BagState D orderId) (p : Path) (ok : Bool) : BagState D orderId :=
  { s with store := if ok then s.store.erase p else s.store }

/-- The same for the order document. -/
def deleteOrder (s : BagState D orderId) (p : Path) (ok : Bool) : BagState D orderId :=
  { s.delete p ok with content := if ok then [] else s.content }

/-- The transaction of operation `n` commits. -/
def commit (s : BagState D orderId) (n : ℕ) (held : Bool) (store : Firestore) :
    BagState D orderId :=
  { s with store := store, content := if held then s.content ++ [n] else [n] }

/-- The payment document is written. -/
def pay (s : BagState D orderId) (store : Firestore) (token : String) (covers : List ℕ) :
    BagState D orderId :=
  { s with store := store, paid := s.paid ++ [(token, covers)] }

end BagState

section
variable {D : Type} (uid : String) {orderId : String}

/-- What reply `r` makes of operation `n` of device `d`; `none` where the operation
waits for something else. -/
def proceed (s : BagState D orderId) (n : ℕ) (d : D) :
    BagOp orderId → Reply → Option (BagState D orderId)
  | .adding c _, .committed =>
    match addItemToOrder uid c s.store with
    | .completed store =>
      some ((s.commit n (s.store.lookup (orderRef uid orderId)).isSome store).answer n d
        (.addItemToOrder true))
    | _ => none
  | .adding c _, .trapped =>
    match addItemToOrder uid c s.store with
    | .trapped => some (s.answer n d .trapped)
    | _ => none
  | .adding _ _, .failed => some (s.answer n d (.addItemToOrder false))
  | .clearing none, .items =>
    some (s.next n d (.clearing (some (s.store.documents (itemsRef uid orderId)))))
  | .clearing none, .failed => some (s.answer n d .trapped)
  | .clearing (some (item :: items)), .deleted ok =>
    some ((s.delete item ok).next n d (.clearing (some items)))
  | .clearing (some []), .deleted ok =>
    some ((s.deleteOrder (orderRef uid orderId) ok).answer n d (.clearOrder ok))
  | .reading order card, .bag created =>
    match readBag order card (s.store.lookup (orderRef uid orderId)) with
    | .silent => some (s.stop n)
    | .trapped => some (s.answer n d .trapped)
    | .charge c => some (s.next n d (.tokenizing c created s.content))
  | .reading _ _, .failed => some (s.stop n)
  | .tokenizing _ _ _, .token none => some (s.answer n d (.placeOrder false))
  | .tokenizing c created covers, .token (some token) =>
    -- Stripe makes no token twice
    if token ∈ s.tokens then none
    else some ({ s with tokens := token :: s.tokens }.next n d (.charging c token created covers))
  | .charging c token created covers, .written true =>
    some ((s.pay (s.store.setMerge (paymentRef uid token) (paymentFields c token created))
      token covers).answer n d (.placeOrder true))
  | .charging _ _ _ _, .written false => some (s.answer n d (.placeOrder false))
  | _, _ => none

/-- The first part of a call, up to its first request.  A call of `addItemToOrder` that
its guard turns away leaves nothing behind. -/
def call (s : BagState D orderId) (d : D) : BagCall → Option (BagState D orderId)
  | .addItemToOrder c =>
    if ho : c.orderId = orderId then
      if c.guard.isSome then some (s.start d (.adding c ho)) else some s
    else none
  | .clearOrder id => if id = orderId then some (s.start d (.clearing none)) else none
  | .placeOrder order card =>
    if order.id = orderId then some (s.start d (.reading order card)) else none

/-- One step of the operations on the order `orderId`. -/
def bagStep (s : BagState D orderId) : BagEvent D → Option (BagState D orderId)
  | .call d c => call s d c
  | .reply n r => (s.ops.running n).bind fun (d, op) => proceed uid s n d op r
  | .handle k => if k < s.answers.length then some { s with answers := s.answers.eraseIdx k } else none

/-- What a reply does to an operation, case by case: `proceed` read backwards. -/
inductive Proceeded (s : BagState D orderId) (n : ℕ) (d : D) :
    BagOp orderId → Reply → BagState D orderId → Prop
  /-- The operation ends, and nothing else changes but what its device hears. -/
  | ended {op : BagOp orderId} {r : Reply} (answers : List (D × Answer))
      (hcommit : r ≠ .committed) (hwritten : r ≠ .written true)
      (hclear : ∀ items, op = .clearing items → items = none ∧ r = .failed) :
      Proceeded s n d op r { s with ops := s.ops.finish n, answers := answers }
  | committed {c : AddCall} {ho : c.orderId = orderId} {store : Firestore}
      (hadd : addItemToOrder uid c s.store = .completed store) :
      Proceeded s n d (.adding c ho) .committed
        ((s.commit n (s.store.lookup (orderRef uid orderId)).isSome store).answer n d
          (.addItemToOrder true))
  | queried : Proceeded s n d (.clearing none) .items
      (s.next n d (.clearing (some (s.store.documents (itemsRef uid orderId)))))
  | deletedItem (item : Path) (items : List Path) (ok : Bool) :
      Proceeded s n d (.clearing (some (item :: items))) (.deleted ok)
        ((s.delete item ok).next n d (.clearing (some items)))
  | deletedOrder (ok : Bool) :
      Proceeded s n d (.clearing (some [])) (.deleted ok)
        ((s.deleteOrder (orderRef uid orderId) ok).answer n d (.clearOrder ok))
  | read {order : Order} {card : Card} {c : Charge} (created : String)
      (hread : readBag order card (s.store.lookup (orderRef uid orderId)) = .charge c) :
      Proceeded s n d (.reading order card) (.bag created)
        (s.next n d (.tokenizing c created s.content))
  | token {c : Charge} {created : String} {covers : List ℕ} {token : String}
      (hnew : token ∉ s.tokens) :
      Proceeded s n d (.tokenizing c created covers) (.token (some token))
        ({ s with tokens := token :: s.tokens }.next n d (.charging c token created covers))
  | paid (c : Charge) (token created : String) (covers : List ℕ) :
      Proceeded s n d (.charging c token created covers) (.written true)
        ((s.pay (s.store.setMerge (paymentRef uid token) (paymentFields c token created))
          token covers).answer n d (.placeOrder true))

variable {uid} {s s' : BagState D orderId} {n : ℕ} {d : D} {op : BagOp orderId} {r : Reply}

theorem proceed_cases (h : proceed uid s n d op r = some s') : Proceeded uid s n d op r s' := by
  unfold proceed at h
  split at h
  · split at h
    · cases h
      exact .committed ‹_›
    · cases h
  · split at h
    · cases h
      exact .ended _ nofun nofun nofun
    · cases h
  · cases h
    exact .ended _ nofun nofun nofun
  · cases h
    exact .queried
  · cases h
    exact .ended _ nofun nofun fun items hitems => by cases hitems; exact ⟨rfl, rfl⟩
  · cases h
    exact .deletedItem _ _ _
  · cases h
    exact .deletedOrder _
  · -- the answer to the read: silence, a trap or a charge
    split at h
    · cases h
      exact .ended s.answers nofun nofun nofun
    · cases h
      exact .ended _ nofun nofun nofun
    · cases h
      exact .read _ ‹_›
  · cases h
    exact .ended s.answers nofun nofun nofun
  · cases h
    exact .ended _ nofun nofun nofun
  · split at h
    · cases h
    · cases h
      exact .token ‹_›
  · cases h
    exact .paid _ _ _ _
  · cases h
    exact .ended _ nofun nofun nofun
  · cases h

/-- What an event does to the bag: a call starts an operation or nothing, a reply moves
one, and taking up an answer changes neither the store nor an operation. -/
theorem bagStep_cases {e : BagEvent D} (h : bagStep uid s e = some s') :
    (∃ d c, e = .call d c ∧ (s' = s ∨ ∃ op : BagOp orderId, s' = s.start d op ∧ op.IsFirst)) ∨
    (∃ n r d op, e = .reply n r ∧ s.ops.running n = some (d, op) ∧
      Proceeded uid s n d op r s') ∨
    (∃ k, e = .handle k ∧ s' = { s with answers := s.answers.eraseIdx k }) := by
  cases e with
  | call d c =>
    refine Or.inl ⟨d, c, rfl, ?_⟩
    simp only [bagStep] at h
    unfold call at h
    repeat' split at h
    all_goals cases h
    · exact Or.inr ⟨_, rfl, trivial⟩
    · exact Or.inl rfl
    · exact Or.inr ⟨_, rfl, trivial⟩
    · exact Or.inr ⟨_, rfl, trivial⟩
  | reply n r =>
    simp only [bagStep, Option.bind_eq_some_iff] at h
    obtain ⟨⟨d, op⟩, hop, h⟩ := h
    exact Or.inr (Or.inl ⟨n, r, d, op, rfl, hop, proceed_cases h⟩)
  | handle k =>
    simp only [bagStep] at h
    split at h
    · cases h
      exact Or.inr (Or.inr ⟨k, rfl, rfl⟩)
    · cases h

end

/-! ## What the operations leave alone -/

/-- The two stores hold the same documents of the order. -/
structure SameBag (uid orderId : String) (s s' : Firestore) : Prop where
  order : s'.lookup (orderRef uid orderId) = s.lookup (orderRef uid orderId)
  item : ∀ id, s'.lookup (itemRef uid orderId id) = s.lookup (itemRef uid orderId id)

theorem paymentRef_ne_orderRef (uid orderId token : String) :
    paymentRef uid token ≠ orderRef uid orderId := by
  simp [paymentRef, refPayments, orderRef, refOrders, refCurrentUser]

theorem paymentRef_ne_itemRef (uid orderId token id : String) :
    paymentRef uid token ≠ itemRef uid orderId id := by
  simp [paymentRef, refPayments, itemRef, itemsRef, orderRef, refOrders, refCurrentUser]

/-- Payment documents lie elsewhere. -/
theorem sameBag_setMerge_payment (uid orderId token : String) (s : Firestore)
    (fields : List (String × Value)) :
    SameBag uid orderId s (s.setMerge (paymentRef uid token) fields) where
  order := Finmap.lookup_insert_of_ne _ (paymentRef_ne_orderRef uid orderId token).symm
  item := fun id => Finmap.lookup_insert_of_ne _ (paymentRef_ne_itemRef uid orderId token id).symm

theorem SameBag.priced {uid orderId : String} {s s' : Firestore} (h : SameBag uid orderId s s')
    (hp : BagPriced uid orderId s) : BagPriced uid orderId s' where
  order := fun d hd => hp.order d (h.order ▸ hd)
  item := fun id d hd => hp.item id d (h.item id ▸ hd)

theorem SameBag.itemsQuantity {uid orderId : String} {s s' : Firestore}
    (h : SameBag uid orderId s s') :
    Lidora.itemsQuantity uid orderId s' = Lidora.itemsQuantity uid orderId s := by
  refine sumOver_congr _ _ fun p hq => ?_
  obtain ⟨id, rfl⟩ := isItem_iff.mp hq
  exact h.item id

/-- What is left after a delete was there before. -/
theorem lookup_of_erase {s : Firestore} {p q : Path} {d : Doc}
    (h : (s.erase p).lookup q = some d) : q ≠ p ∧ s.lookup q = some d := by
  have hne : q ≠ p := by
    rintro rfl
    rw [Finmap.lookup_erase] at h
    cases h
  rw [Finmap.lookup_erase_ne hne] at h
  exact ⟨hne, h⟩

theorem BagPriced.erase {uid orderId : String} {s : Firestore} (h : BagPriced uid orderId s)
    (p : Path) : BagPriced uid orderId (s.erase p) where
  order := fun d hd => h.order d (lookup_of_erase hd).2
  item := fun id d hd => h.item id d (lookup_of_erase hd).2

section
variable {D : Type} {uid orderId : String} {s s' : BagState D orderId}

theorem BagState.delete_store (p : Path) (ok : Bool) :
    (s.delete p ok).store = if ok then s.store.erase p else s.store := rfl

/-- What survives the removal of a document survives a delete, carried out or rejected. -/
theorem BagState.delete_keeps {P : Firestore → Prop} {p : Path} {ok : Bool} (h : P s.store)
    (herase : P (s.store.erase p)) : P (s.delete p ok).store := by
  cases ok
  · exact h
  · exact herase

/-- A delete adds no document. -/
theorem isSome_of_delete {p q : Path} {ok : Bool} (h : ((s.delete p ok).store.lookup q).isSome) :
    (s.store.lookup q).isSome := by
  cases ok
  · exact h
  · obtain ⟨d, hd⟩ := Option.isSome_iff_exists.mp h
    rw [(lookup_of_erase hd).2]
    rfl

/-- Only a reply changes the store, or the records of what has been added and paid. -/
theorem bagStep_of_not_reply {e : BagEvent D} (hne : ∀ n r, e ≠ .reply n r)
    (h : bagStep uid s e = some s') :
    s'.store = s.store ∧ s'.content = s.content ∧ s'.paid = s.paid := by
  rcases bagStep_cases h with ⟨d, c, -, rfl | ⟨op, rfl, -⟩⟩ | ⟨n, r, d, op, rfl, -, -⟩ |
    ⟨k, -, rfl⟩
  · exact ⟨rfl, rfl, rfl⟩
  · exact ⟨rfl, rfl, rfl⟩
  · exact absurd rfl (hne n r)
  · exact ⟨rfl, rfl, rfl⟩

/-- The bag goes on decoding. -/
theorem bagPriced_step (hp : BagPriced uid orderId s.store) {e : BagEvent D}
    (h : bagStep uid s e = some s') : BagPriced uid orderId s'.store := by
  rcases bagStep_cases h with ⟨d, c, rfl, rfl | ⟨op, rfl, hop⟩⟩ | ⟨n, r, d, op, rfl, hop, hmoved⟩ |
    ⟨k, rfl, rfl⟩
  · exact hp
  · exact hp
  · cases hmoved with
    | ended answers hcommit hwritten hclear => exact hp
    | committed hadd => exact bagPriced_of_completed (by assumption) hp hadd
    | queried => exact hp
    | deletedItem item items ok => exact BagState.delete_keeps hp (hp.erase item)
    | deletedOrder ok => exact BagState.delete_keeps hp (hp.erase _)
    | read created hread => exact hp
    | token hnew => exact hp
    | paid c token created covers => exact (sameBag_setMerge_payment _ _ _ _ _).priced hp
  · exact hp

/-- Left alone and answered with success, the parts of `placeOrder` are `placeOrder`. -/
theorem run_placeOrder {n : ℕ} {d : D} {order : Order} {card : Card} {token created : String}
    {store : Firestore} (ho : order.id = orderId)
    (hrun : s.ops.running n = some (d, .reading order card)) (htoken : token ∉ s.tokens)
    (h : placeOrder uid order card token created s.store = some store) :
    ∃ s', run (bagStep uid) s
        [.reply n (.bag created), .reply n (.token (some token)), .reply n (.written true)] =
      some s' ∧ s'.store = store := by
  unfold placeOrder at h
  split at h
  · rename_i c hread
    cases h
    rw [ho] at hread
    -- the states between the three replies
    set s₁ := s.next n d (.tokenizing c created s.content) with hs₁
    set s₂ := ({ s₁ with tokens := token :: s₁.tokens } : BagState D orderId).next n d
      (.charging c token created s.content) with hs₂
    have hrun₁ : s₁.ops.running n = some (d, .tokenizing c created s.content) :=
      InFlight.put_self hrun _
    have hrun₂ : s₂.ops.running n = some (d, .charging c token created s.content) :=
      InFlight.put_self hrun₁ _
    have h₁ : bagStep uid s (.reply n (.bag created)) = some s₁ := by
      simp only [bagStep, hrun, Option.bind_some, proceed, hread, hs₁]
    have h₂ : bagStep uid s₁ (.reply n (.token (some token))) = some s₂ := by
      simp only [bagStep, hrun₁, Option.bind_some, proceed]
      exact if_neg htoken
    have h₃ : bagStep uid s₂ (.reply n (.written true)) =
        some ((s₂.pay (s₂.store.setMerge (paymentRef uid token) (paymentFields c token created))
          token s.content).answer n d (.placeOrder true)) := by
      simp only [bagStep, hrun₂, Option.bind_some, proceed]
    exact ⟨_, (run_cons_iff _).mpr ⟨s₁, h₁, (run_cons_iff _).mpr ⟨s₂, h₂,
      (run_cons_iff _).mpr ⟨_, h₃, rfl⟩⟩⟩, rfl⟩
  · cases h

end

end Lidora
