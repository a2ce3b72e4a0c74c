import Lidora.OneShots
import Lidora.OrderTotals

/-! # Is an add all or nothing

A call of `addItemToOrder` should end with `(true, nil)` and both documents changed, or
with `(false, error)` and neither (`AllOrNothing`).  Whether the writes that the block has
queued are committed is decided by the error pointer, and the block sets that for a failed
read alone.  Where a stored `total` or `quantity` does not decode, the block returns
without an error, before its first write or between its two writes, and the call reports
success over a bag in which nothing, or only the order, has changed.

So a transaction that commits is whole exactly when each document is missing or decodes,
with a sum of quantities that is an `Int` (`allOrNothing_iff`).  One that Firestore fails
leaves everything as it was, unless the block has trapped before that.
-/
namespace Lidora
open Callbacks DocumentStore

/-! ## The block, document by document -/

/-- The sum of the quantities is an `Int`. -/
def SumFits (c : AddCall) (d : Doc) : Prop :=
  -2 ^ 63 ≤ c.quantity + storedInt (some d) "quantity" ∧
    c.quantity + storedInt (some d) "quantity" < 2 ^ 63

/-- The document is missing, or its `total` and `quantity` decode. -/
def Readable (document : Option Doc) : Prop := ∀ d ∈ document, Priced d

/-- The document is read and written. -/
def OrderReady (c : AddCall) : Option Doc → Prop
  | none => c.chef.firstName.isSome
  | some d => Priced d ∧ SumFits c d

/-- The order half traps: on a chef without a first name, or on the sum. -/
def OrderTraps (c : AddCall) : Option Doc → Prop
  | none => c.chef.firstName = none
  | some d => Priced d ∧ ¬ SumFits c d

/-- The same of the item's document. -/
def ItemReady (c : AddCall) : Option Doc → Prop
  | none => True
  | some d => Priced d ∧ SumFits c d

def ItemTraps (c : AddCall) : Option Doc → Prop
  | none => False
  | some d => Priced d ∧ ¬ SumFits c d

/-- The block traps: in its first half, or, where that does not return, in its second. -/
def BlockTraps (c : AddCall) (document itemDocument : Option Doc) : Prop :=
  OrderTraps c document ∨ Readable document ∧ ItemTraps c itemDocument

theorem addInt_isSome_iff {c : AddCall} {d : Doc} {q : ℤ} (hq : d.int "quantity" = some q) :
    (addInt c.quantity q).isSome ↔ SumFits c d := by
  have hstored : storedInt (some d) "quantity" = q := by simp [storedInt, hq]
  rw [SumFits, hstored, addInt]
  split <;> simp_all

/-- What either half can find in a stored document: a field that does not decode, a sum
that is no `Int`, or a sum that is one. -/
theorem stored_cases (c : AddCall) (d : Doc) :
    ¬ Priced d ∧ (d.double "total" = none ∨ d.int "quantity" = none) ∨
    ∃ t q, d.double "total" = some t ∧ d.int "quantity" = some q ∧
      (¬ SumFits c d ∧ addInt c.quantity q = none ∨
        SumFits c d ∧ ∃ sum, addInt c.quantity q = some sum) := by
  cases ht : d.double "total" with
  | none =>
    refine Or.inl ⟨?_, Or.inl rfl⟩
    rintro ⟨⟨t, ht'⟩, -⟩
    rw [ht] at ht'
    cases ht'
  | some t =>
    cases hq : d.int "quantity" with
    | none =>
      refine Or.inl ⟨?_, Or.inr rfl⟩
      rintro ⟨-, q, hq'⟩
      rw [hq] at hq'
      cases hq'
    | some q =>
      refine Or.inr ⟨t, q, rfl, rfl, ?_⟩
      rw [← addInt_isSome_iff hq]
      cases addInt c.quantity q with
      | none => exact Or.inl ⟨nofun, rfl⟩
      | some sum => exact Or.inr ⟨rfl, sum, rfl⟩

theorem readable_some {d : Doc} : Readable (some d) ↔ Priced d := by
  simp [Readable]

/-- What the order half does, and when. -/
theorem orderPart_cases (c : AddCall) (e : AddEntry) (ref : Path) (document : Option Doc) :
    orderPart c e ref document = .trap ∧ OrderTraps c document ∨
    orderPart c e ref document = .giveUp ∧ ¬ Readable document ∨
    (∃ w, orderPart c e ref document = .write w) ∧ OrderReady c document := by
  cases document with
  | none =>
    cases hname : c.chef.firstName with
    | none => exact Or.inl ⟨by simp only [orderPart, hname], hname⟩
    | some firstName =>
      exact Or.inr (Or.inr ⟨⟨_, by simp only [orderPart, hname]; rfl⟩,
        by rw [OrderReady, hname]; rfl⟩)
  | some d =>
    rcases stored_cases c d with ⟨hnot, ht | hq⟩ |
      ⟨t, q, ht, hq, ⟨hfits, hadd⟩ | ⟨hfits, sum, hadd⟩⟩
    · exact Or.inr (Or.inl ⟨by simp only [orderPart, ht], readable_some.not.mpr hnot⟩)
    · refine Or.inr (Or.inl ⟨?_, readable_some.not.mpr hnot⟩)
      cases ht : d.double "total" <;> simp only [orderPart, ht, hq]
    · exact Or.inl ⟨by simp only [orderPart, ht, hq, hadd], ⟨⟨t, ht⟩, q, hq⟩, hfits⟩
    · refine Or.inr (Or.inr ⟨?_, ⟨⟨t, ht⟩, q, hq⟩, hfits⟩)
      exact ⟨_, by simp only [orderPart, ht, hq, hadd]; rfl⟩

/-- What the item half does, and when. -/
theorem itemPart_cases (c : AddCall) (e : AddEntry) (itemRef : Path) (itemDocument : Option Doc) :
    itemPart c e itemRef itemDocument = .trap ∧ ItemTraps c itemDocument ∨
    itemPart c e itemRef itemDocument = .giveUp ∧ ¬ Readable itemDocument ∨
    (∃ w, itemPart c e itemRef itemDocument = .write w) ∧ ItemReady c itemDocument := by
  cases itemDocument with
  | none => exact Or.inr (Or.inr ⟨⟨_, rfl⟩, trivial⟩)
  | some d =>
    rcases stored_cases c d with ⟨hnot, ht | hq⟩ |
      ⟨t, q, ht, hq, ⟨hfits, hadd⟩ | ⟨hfits, sum, hadd⟩⟩
    · exact Or.inr (Or.inl ⟨by simp only [itemPart, ht], readable_some.not.mpr hnot⟩)
    · refine Or.inr (Or.inl ⟨?_, readable_some.not.mpr hnot⟩)
      cases ht : d.double "total" <;> simp only [itemPart, ht, hq]
    · exact Or.inl ⟨by simp only [itemPart, ht, hq, hadd], ⟨⟨t, ht⟩, q, hq⟩, hfits⟩
    · refine Or.inr (Or.inr ⟨?_, ⟨⟨t, ht⟩, q, hq⟩, hfits⟩)
      exact ⟨_, by simp only [itemPart, ht, hq, hadd]; rfl⟩

theorem OrderReady.readable {c : AddCall} {document : Option Doc} (h : OrderReady c document) :
    Readable document := by
  cases document with
  | none => nofun
  | some d => exact readable_some.mpr h.1

theorem ItemReady.readable {c : AddCall} {document : Option Doc} (h : ItemReady c document) :
    Readable document := by
  cases document with
  | none => nofun
  | some d => exact readable_some.mpr h.1

theorem OrderTraps.readable {c : AddCall} {document : Option Doc} (h : OrderTraps c document) :
    Readable document := by
  cases document with
  | none => nofun
  | some d => exact readable_some.mpr h.1

theorem ItemTraps.readable {c : AddCall} {document : Option Doc} (h : ItemTraps c document) :
    Readable document := by
  cases document with
  | none => nofun
  | some d => exact readable_some.mpr h.1

theorem OrderReady.not_traps {c : AddCall} {document : Option Doc} (h : OrderReady c document) :
    ¬ OrderTraps c document := by
  cases document with
  | none =>
    intro hnone
    rw [OrderTraps] at hnone
    rw [OrderReady, hnone] at h
    cases h
  | some d => exact fun htraps => htraps.2 h.2

theorem ItemReady.not_traps {c : AddCall} {document : Option Doc} (h : ItemReady c document) :
    ¬ ItemTraps c document := by
  cases document with
  | none => exact id
  | some d => exact fun htraps => htraps.2 h.2

/-- The write puts a document that meets `P` under `ref`, where `old` is stored. -/
def Puts (w : DocWrite) (ref : Path) (old : Option Doc) (P : Doc → Prop) : Prop :=
  w.toWrite.key = ref ∧ ∃ new, w.toWrite.change old = some new ∧ P new

/-- What the block comes to on two documents. -/
inductive BlockCase (c : AddCall) (ref itemRef : Path) (document itemDocument : Option Doc) :
    Option (List DocWrite) → Prop
  | traps (h : BlockTraps c document itemDocument) : BlockCase c ref itemRef document itemDocument none
  /-- The order does not decode. -/
  | nothing (h : ¬ Readable document) : BlockCase c ref itemRef document itemDocument (some [])
  /-- The item does not decode. -/
  | orderAlone {w : DocWrite} (hw : Puts w ref document (OrderAdded c document))
      (h : OrderReady c document) (hitem : ¬ Readable itemDocument) :
      BlockCase c ref itemRef document itemDocument (some [w])
  | both {w w' : DocWrite} (hw : Puts w ref document (OrderAdded c document))
      (hw' : Puts w' itemRef itemDocument (ItemAdded c itemDocument))
      (h : OrderReady c document) (hitem : ItemReady c itemDocument) :
      BlockCase c ref itemRef document itemDocument (some [w, w'])

/-- **What the block does with two documents.** -/
theorem addItemBlock_cases {c : AddCall} {e : AddEntry} (he : c.guard = some e) (ref itemRef : Path)
    (document itemDocument : Option Doc) :
    BlockCase c ref itemRef document itemDocument
      (addItemBlock c e ref itemRef document itemDocument) := by
  rcases orderPart_cases c e ref document with ⟨ho, htraps⟩ | ⟨ho, hnot⟩ | ⟨⟨w, ho⟩, hready⟩
  · simp only [addItemBlock, ho]
    exact .traps (Or.inl htraps)
  · simp only [addItemBlock, ho]
    exact .nothing hnot
  · have hw : Puts w ref document (OrderAdded c document) := by
      rcases orderPart_spec c e ref hready.readable with h | ⟨w', new, h, hkey, hchange, hadded⟩ <;>
        rw [ho] at h <;> cases h
      exact ⟨hkey, new, hchange, hadded⟩
    rcases itemPart_cases c e itemRef itemDocument with
      ⟨hi, htraps⟩ | ⟨hi, hnot⟩ | ⟨⟨w', hi⟩, hitem⟩
    · simp only [addItemBlock, ho, hi]
      exact .traps (Or.inr ⟨hready.readable, htraps⟩)
    · simp only [addItemBlock, ho, hi]
      exact .orderAlone hw hready hnot
    · have hw' : Puts w' itemRef itemDocument (ItemAdded c itemDocument) := by
        rcases itemPart_spec itemRef he hitem.readable with h | ⟨w'', new, h, hkey, hchange, hadded⟩ <;>
          rw [hi] at h <;> cases h
        exact ⟨hkey, new, hchange, hadded⟩
      simp only [addItemBlock, ho, hi]
      exact .both hw hw' hready hitem

/-- The block traps where it is said to, and nowhere else. -/
theorem BlockCase.eq_none_iff {c : AddCall} {ref itemRef : Path} {document itemDocument : Option Doc}
    {block : Option (List DocWrite)} (h : BlockCase c ref itemRef document itemDocument block) :
    block = none ↔ BlockTraps c document itemDocument := by
  cases h with
  | traps h => exact iff_of_true rfl h
  | nothing h =>
    refine iff_of_false nofun ?_
    rintro (htraps | ⟨hreadable, -⟩)
    · exact h htraps.readable
    · exact h hreadable
  | orderAlone hw h hitem =>
    refine iff_of_false nofun ?_
    rintro (htraps | ⟨-, htraps⟩)
    · exact h.not_traps htraps
    · exact hitem htraps.readable
  | both hw hw' h hitem =>
    refine iff_of_false nofun ?_
    rintro (htraps | ⟨-, htraps⟩)
    · exact h.not_traps htraps
    · exact hitem.not_traps htraps

/-! ## The transaction over a store -/

/-- The references that the call builds. -/
def AddCall.refs (currentUser : Option UserId) (c : AddCall) : Option (Path × Path) :=
  (DataService.refCurrentUser currentUser).bind fun user =>
    (document (user ++ ["orders"]) c.orderId).bind fun ref =>
      (document (ref ++ ["items"]) c.item.id).map fun itemRef => (ref, itemRef)

/-- Firestore, with the documents of `s`, where the `n`-th request fails with `faults n`.
The requests of the other operations are not sent. -/
def answersOf (s : Firestore) (faults : ℕ → Option FirestoreErrorCode) :
    Oracle Request.Response
  | n, .transactionGet ref itemRef =>
    match faults n with
    | some error => .error error
    | none => .ok (s.lookup ref, s.lookup itemRef)
  | n, .commit _ => faults n
  | _, .getDocument path => .ok (s.lookup path)
  | _, .getDocuments collection => .ok (s.documents collection)
  | _, .setMerge _ _ | _, .delete _ | _, .commitChanges _ => none
  | _, .signIn _ _ | _, .createUser _ _ | _, .verifyPhoneNumber _ => .ok none
  | _, .createToken _ => (none, none)

/-- A read of a transaction has been answered with its documents. -/
def isRead : (q : Request) × q.Response → Bool
  | ⟨.transactionGet _ _, response⟩ =>
    match (response : Except FirestoreErrorCode (Option Doc × Option Doc)) with
    | .ok _ => true
    | .error _ => false
  | _ => false

/-- The writes that Firestore has accepted. -/
def accepted : (q : Request) × q.Response → Option (List DocWrite)
  | ⟨.commit writes, response⟩ =>
    match (response : Option FirestoreErrorCode) with
    | some _ => none
    | none => some writes
  | _ => none

/-- The store after the answers: with the writes that have been accepted.  A commit that is
answered with an error is taken to have changed nothing, as Firestore says of its
transactions. -/
def storeAfter (s : Firestore) (answers : List ((q : Request) × q.Response)) : Firestore :=
  applyWrites s ((answers.filterMap accepted).flatten.map DocWrite.toWrite)

/-- How the transaction ends, by the answers that it has got, where its block comes to
`block` on the stored documents. -/
inductive Transacted (block : Option (List DocWrite)) (e : Ending Completed)
    (answers : List ((q : Request) × q.Response)) : Prop
  | failed (hread : answers.any isRead = true → block.isSome)
      (hcommit : answers.filterMap accepted = []) (htrapped : e.trapped = false)
      (hlast : ∃ error, e.completions.getLast? = some (.done false (some error)))
  | trapped (hblock : block = none) (hread : answers.any isRead = true)
      (hcommit : answers.filterMap accepted = []) (htrapped : e.trapped = true)
  | committed {writes : List DocWrite} (hblock : block = some writes)
      (hcommit : answers.filterMap accepted = [writes]) (htrapped : e.trapped = false)
      (hlast : e.completions.getLast? = some (.done true none))

section
variable {s : Firestore} {faults : ℕ → Option FirestoreErrorCode} {c : AddCall} {e : AddEntry}
  {ref itemRef : Path} {block : Option (List DocWrite)}

/-- A transaction that Firestore gives up. -/
theorem transacted_finish (error : FirestoreErrorCode) (n : ℕ) :
    Transacted block ((Operation.finish (.done false (some (.firestore error)))).run
        (answersOf s faults) n)
      ((Operation.finish (.done false (some (.firestore error)))).answers (answersOf s faults) n) :=
  .failed nofun rfl rfl ⟨_, rfl⟩

/-- A completion that is followed by another is not the last one. -/
theorem Transacted.complete {ending : Ending Completed}
    {answers : List ((q : Request) × q.Response)} (h : Transacted block ending answers)
    (r : Completed) :
    Transacted block ⟨r :: ending.completions, ending.trapped⟩ answers := by
  have hlast : ∀ {x}, ending.completions.getLast? = some x →
      (r :: ending.completions).getLast? = some x := by
    intro x hx
    rw [List.getLast?_cons, hx]
    rfl
  cases h with
  | failed hread hcommit htrapped hl =>
    obtain ⟨error, hl⟩ := hl
    exact .failed hread hcommit htrapped ⟨error, hlast hl⟩
  | trapped hblock hread hcommit htrapped => exact .trapped hblock hread hcommit htrapped
  | committed hblock hcommit htrapped hl => exact .committed hblock hcommit htrapped (hlast hl)

/-- A read that fails is an answer that changes nothing. -/
theorem Transacted.cons {ending : Ending Completed} {answers : List ((q : Request) × q.Response)}
    (h : Transacted block ending answers) {x : (q : Request) × q.Response}
    (hread : isRead x = true → block.isSome) (hx : accepted x = none) :
    Transacted block ending (x :: answers) := by
  have hcommits : (x :: answers).filterMap accepted = answers.filterMap accepted :=
    List.filterMap_cons_none hx
  cases h with
  | failed hr hcommit htrapped hlast =>
    refine .failed ?_ (hcommits.trans hcommit) htrapped hlast
    rw [List.any_cons, Bool.or_eq_true]
    rintro (h | h)
    · exact hread h
    · exact hr h
  | trapped hblock hr hcommit htrapped =>
    refine .trapped hblock ?_ (hcommits.trans hcommit) htrapped
    rw [List.any_cons, hr, Bool.or_true]
  | committed hblock hcommit htrapped hlast =>
    exact .committed hblock (hcommits.trans hcommit) htrapped hlast

variable (hblock : block = addItemBlock c e ref itemRef (s.lookup ref) (s.lookup itemRef))
include hblock

/-- One attempt: it fails and is followed by what follows a failure, it traps, or it
commits. -/
theorem transacted_attempt {failed : FirestoreErrorCode → Operation}
    (hfailed : ∀ error n, Transacted block ((failed error).run (answersOf s faults) n)
      ((failed error).answers (answersOf s faults) n)) (n : ℕ) :
    Transacted block
      ((DataService.addItemAttempt c e ref itemRef failed).run (answersOf s faults) n)
      ((DataService.addItemAttempt c e ref itemRef failed).answers (answersOf s faults) n) := by
  simp only [DataService.addItemAttempt, Flow.run_ask, Flow.answers]
  have hget : answersOf s faults n (.transactionGet ref itemRef) =
      match faults n with
      | some error => .error error
      | none => .ok (s.lookup ref, s.lookup itemRef) := rfl
  cases hread : faults n with
  | some error =>
    simp only [hread] at hget
    simp only [hget]
    exact ((hfailed error (n + 1)).complete _).cons (fun h => absurd h Bool.false_ne_true) rfl
  | none =>
    simp only [hread] at hget
    simp only [hget, ← hblock]
    cases block with
    | none => exact .trapped rfl rfl rfl rfl
    | some writes =>
      simp only [Flow.run_ask, Flow.answers]
      have hset : answersOf s faults (n + 1) (.commit writes) = faults (n + 1) := rfl
      cases hcommit : faults (n + 1) with
      | some error =>
        rw [hcommit] at hset
        simp only [hset]
        have hlater := (hfailed error (n + 1 + 1)).cons (x := ⟨.commit writes, some error⟩)
          (fun h => absurd h Bool.false_ne_true) rfl
        exact hlater.cons (fun _ => rfl) rfl
      | none =>
        rw [hcommit] at hset
        simp only [hset]
        exact .committed rfl rfl rfl rfl

/-- **How a transaction ends**, by induction on the retries that are left. -/
theorem transacted (retriesLeft n : ℕ) :
    Transacted block
      ((DataService.addItemTransaction c e ref itemRef retriesLeft).run (answersOf s faults) n)
      ((DataService.addItemTransaction c e ref itemRef retriesLeft).answers
        (answersOf s faults) n) := by
  induction retriesLeft generalizing n with
  | zero => exact transacted_attempt hblock transacted_finish n
  | succ retriesLeft ih =>
    refine transacted_attempt hblock (fun error m => ?_) n
    split
    · exact ih m
    · exact transacted_finish error m

end

/-! ## All or nothing -/

/-- Both documents have changed by the quantity and the amount of the call. -/
def BothChanged (c : AddCall) (ref itemRef : Path) (s s' : Firestore) : Prop :=
  (∃ order, s'.lookup ref = some order ∧ OrderAdded c (s.lookup ref) order) ∧
    ∃ item, s'.lookup itemRef = some item ∧ ItemAdded c (s.lookup itemRef) item

/-- **All or nothing**: the call ends with `(true, nil)` and both documents changed, or
with `(false, error)` and neither. -/
def AllOrNothing (c : AddCall) (ref itemRef : Path) (s s' : Firestore) (e : Ending Completed) :
    Prop :=
  e.trapped = false ∧
    (e.completions.getLast? = some (.done true none) ∧ BothChanged c ref itemRef s s' ∨
      (∃ error, e.completions.getLast? = some (.done false (some error))) ∧
        s'.lookup ref = s.lookup ref ∧ s'.lookup itemRef = s.lookup itemRef)

/-- A read of the transaction has been answered. -/
def ReadAnswered (answers : List ((q : Request) × q.Response)) : Prop :=
  answers.any isRead = true

/-- A commit of the transaction has been accepted. -/
def CommitAccepted (answers : List ((q : Request) × q.Response)) : Prop :=
  answers.filterMap accepted ≠ []

theorem addItemToOrder_eq {currentUser : Option UserId} {c : AddCall} {e : AddEntry}
    (he : c.guard = some e) : DataService.addItemToOrder currentUser c =
      match c.refs currentUser with
      | none => .trap
      | some (ref, itemRef) =>
        DataService.addItemTransaction c e ref itemRef DataService.kRetryCount := by
  unfold DataService.addItemToOrder AddCall.refs Operation.withReference
  rw [he]
  cases DataService.refCurrentUser currentUser with
  | none => rfl
  | some user =>
    simp only [Option.bind_some]
    cases document (user ++ ["orders"]) c.orderId with
    | none => rfl
    | some ref =>
      simp only [Option.bind_some]
      cases document (ref ++ ["items"]) c.item.id <;> rfl

/-- Ids that Firebase has made lead to the documents of the bag. -/
theorem refs_of_segmentIds {uid orderId itemId : SegmentId} {c : AddCall}
    (ho : c.orderId = orderId.val) (hi : c.item.id = itemId.val) :
    c.refs (some uid) =
      some (orderRef uid.val c.orderId, itemRef uid.val c.orderId c.item.id) := by
  simp [AddCall.refs, DataService.refCurrentUser, ho, hi, orderRef, itemRef, itemsRef, refOrders,
    refCurrentUser]

/-- **Left alone, the operation is the function `addItemToOrder`.** -/
theorem run_addItemToOrder {uid : UserId} {c : AddCall} {s s' : Firestore}
    (hrefs : c.refs (some uid) =
      some (orderRef uid.val c.orderId, itemRef uid.val c.orderId c.item.id))
    (h : addItemToOrder uid.val c s = .completed s') :
    (DataService.addItemToOrder (some uid) c).run (answersOf s fun _ => none) 0 =
        ⟨[.done true none], false⟩ ∧
      storeAfter s ((DataService.addItemToOrder (some uid) c).answers
        (answersOf s fun _ => none) 0) = s' := by
  unfold addItemToOrder at h
  split at h
  · cases h
  · rename_i e he
    simp only at h
    split at h
    · cases h
    · rename_i ws hws
      cases h
      have hread : answersOf s (fun _ => none) 0 (.transactionGet (orderRef uid.val c.orderId)
          (itemRef uid.val c.orderId c.item.id)) =
          .ok (s.lookup (orderRef uid.val c.orderId),
            s.lookup (itemRef uid.val c.orderId c.item.id)) := rfl
      have hcommit : answersOf s (fun _ => none) 1 (.commit ws) = none := rfl
      simp only [addItemToOrder_eq he, hrefs, DataService.kRetryCount,
        DataService.addItemTransaction, DataService.addItemAttempt, Flow.run_ask, Flow.answers,
        hread, hws, hcommit]
      refine ⟨rfl, ?_⟩
      change applyWrites s ([ws].flatten.map DocWrite.toWrite) = _
      rw [List.flatten_singleton]

/-- A document of a collection has a longer path than the document that it is under. -/
theorem ne_of_document {ref path : Path} {collection id : String}
    (h : document (ref ++ [collection]) id = some path) : path ≠ ref := by
  unfold document at h
  split at h
  · cases h
    intro heq
    have hlength := congrArg List.length heq
    simp only [List.length_append, List.length_singleton] at hlength
    omega
  · cases h

theorem itemRef_ne_ref {currentUser : Option UserId} {c : AddCall} {ref itemRef : Path}
    (h : c.refs currentUser = some (ref, itemRef)) : itemRef ≠ ref := by
  simp only [AddCall.refs, Option.bind_eq_some_iff, Option.map_eq_some_iff] at h
  obtain ⟨user, -, ref', -, itemRef', hitem, heq⟩ := h
  cases heq
  exact ne_of_document hitem

/-- The writes of a block, applied. -/
theorem applyWrites_puts {s : Firestore} {w : DocWrite} {ref : Path} {P : Doc → Prop}
    (hw : Puts w ref (s.lookup ref) P) :
    ∃ new, applyWrite s w.toWrite = s.insert ref new ∧ P new := by
  obtain ⟨hkey, new, hchange, hP⟩ := hw
  refine ⟨new, ?_, hP⟩
  rw [← hkey] at hchange ⊢
  exact applyWrite_of_some hchange

/-- A transaction that commits is whole exactly when both documents could be written. -/
theorem bothChanged_iff {c : AddCall} {ref itemRef : Path} {s : Firestore} (hne : itemRef ≠ ref)
    {writes : List DocWrite}
    (h : BlockCase c ref itemRef (s.lookup ref) (s.lookup itemRef) (some writes)) :
    BothChanged c ref itemRef s (applyWrites s (writes.map DocWrite.toWrite)) ↔
      OrderReady c (s.lookup ref) ∧ ItemReady c (s.lookup itemRef) := by
  cases h with
  | nothing h =>
    refine iff_of_false ?_ fun hready => h hready.1.readable
    rintro ⟨⟨order, horder, hadded⟩, -⟩
    change s.lookup ref = some order at horder
    refine h fun d hd => ?_
    rw [show s.lookup ref = some d from hd] at horder
    cases horder
    exact hadded.priced
  | orderAlone hw hready hitem =>
    refine iff_of_false ?_ fun hready => hitem hready.2.readable
    rintro ⟨-, item, hstored, hadded⟩
    obtain ⟨order, happly, -⟩ := applyWrites_puts hw
    rw [List.map_singleton, applyWrites_cons, applyWrites_nil, happly,
      Finmap.lookup_insert_of_ne _ hne] at hstored
    refine hitem fun d hd => ?_
    rw [show s.lookup itemRef = some d from hd] at hstored
    cases hstored
    exact hadded.priced
  | @both w w' hw hw' hready hitem =>
    refine iff_of_true ?_ ⟨hready, hitem⟩
    obtain ⟨order, happly, horder⟩ := applyWrites_puts hw
    have hsame : (s.insert ref order).lookup itemRef = s.lookup itemRef :=
      Finmap.lookup_insert_of_ne _ hne
    have hputs : Puts w' itemRef ((s.insert ref order).lookup itemRef)
        (ItemAdded c (s.lookup itemRef)) := by
      rw [hsame]
      exact hw'
    obtain ⟨item, happly', hitem⟩ := applyWrites_puts hputs
    rw [List.map_cons, List.map_singleton, applyWrites_cons, applyWrites_cons, applyWrites_nil,
      happly, happly']
    refine ⟨⟨order, ?_, horder⟩, item, Finmap.lookup_insert _, hitem⟩
    rw [Finmap.lookup_insert_of_ne _ hne.symm, Finmap.lookup_insert]

/-- **An add is all or nothing exactly when both documents can be written.**  For every
store, every call past the guard and every way in which Firestore fails its requests: the
call is all or nothing if and only if its ids name documents, the block does not trap on
the documents that it gets to read, and where Firestore accepts a commit, each of the two
documents is missing or decodes, with a sum of quantities that is an `Int`. -/
theorem allOrNothing_iff (currentUser : Option UserId) (c : AddCall) (s : Firestore)
    (faults : ℕ → Option FirestoreErrorCode) (hguard : c.guard.isSome) :
    let operation := DataService.addItemToOrder currentUser c
    let answers := operation.answers (answersOf s faults) 0
    (∃ ref itemRef, c.refs currentUser = some (ref, itemRef) ∧
      AllOrNothing c ref itemRef s (storeAfter s answers)
        (operation.run (answersOf s faults) 0)) ↔
    ∃ ref itemRef, c.refs currentUser = some (ref, itemRef) ∧
      (ReadAnswered answers → ¬ BlockTraps c (s.lookup ref) (s.lookup itemRef)) ∧
      (CommitAccepted answers →
        OrderReady c (s.lookup ref) ∧ ItemReady c (s.lookup itemRef)) := by
  intro operation answers
  obtain ⟨e, he⟩ := Option.isSome_iff_exists.mp hguard
  refine exists_congr fun ref => exists_congr fun itemRef => and_congr_right fun hrefs => ?_
  have hoperation : operation =
      DataService.addItemTransaction c e ref itemRef DataService.kRetryCount := by
    simp only [operation, addItemToOrder_eq he, hrefs]
  have hcase := addItemBlock_cases he ref itemRef (s.lookup ref) (s.lookup itemRef)
  have hended := @transacted s faults c e ref itemRef _ rfl DataService.kRetryCount 0
  rw [← hoperation] at hended
  change Transacted _ _ answers at hended
  rw [AllOrNothing, ReadAnswered, CommitAccepted, storeAfter, ← hcase.eq_none_iff]
  cases hended with
  | failed hread hcommit htrapped hlast =>
    -- nothing has been written, and the call says so
    rw [hcommit, htrapped]
    refine iff_of_true ⟨rfl, Or.inr ⟨hlast, rfl, rfl⟩⟩ ⟨fun h hnone => ?_, fun h => absurd rfl h⟩
    have hsome := hread h
    rw [hnone] at hsome
    cases hsome
  | trapped hblock hread hcommit htrapped =>
    rw [htrapped, hread]
    exact iff_of_false (fun h => Bool.noConfusion h.1) fun h => h.1 rfl hblock
  | @committed writes hblock hcommit htrapped hlast =>
    rw [hblock] at hcase
    have hboth := bothChanged_iff (itemRef_ne_ref hrefs) hcase
    rw [hcommit, htrapped, hlast, hblock, List.flatten_singleton]
    constructor
    · rintro ⟨-, ⟨-, hchanged⟩ | ⟨⟨error, herror⟩, -⟩⟩
      · exact ⟨fun _ => Option.some_ne_none _, fun _ => hboth.mp hchanged⟩
      · cases herror
    · rintro ⟨-, hready⟩
      exact ⟨rfl, Or.inl ⟨rfl, hboth.mpr (hready (List.cons_ne_nil _ _))⟩⟩

/-! ## A soup without a price -/

/-- A customer whose id is `uid`. -/
def sampleUser : UserId := ⟨"uid", by decide, by decide⟩

/-- An item whose `total` is a text. -/
def unpricedStore : Firestore :=
  (∅ : Firestore).setData (itemRef "uid" "bag" "soup")
    [("total", .string "10"), ("quantity", .int 1)]

/-- Soup is added to an empty store. -/
theorem allOrNothing_iff_soup :
    let operation := DataService.addItemToOrder (some sampleUser) soupCall
    let answers := operation.answers (answersOf ∅ fun _ => none) 0
    (∃ ref itemRef, soupCall.refs (some sampleUser) = some (ref, itemRef) ∧
      AllOrNothing soupCall ref itemRef ∅ (storeAfter ∅ answers)
        (operation.run (answersOf ∅ fun _ => none) 0)) ↔
    ∃ ref itemRef, soupCall.refs (some sampleUser) = some (ref, itemRef) ∧
      (ReadAnswered answers →
        ¬ BlockTraps soupCall ((∅ : Firestore).lookup ref) ((∅ : Firestore).lookup itemRef)) ∧
      (CommitAccepted answers → OrderReady soupCall ((∅ : Firestore).lookup ref) ∧
        ItemReady soupCall ((∅ : Firestore).lookup itemRef)) :=
  allOrNothing_iff (some sampleUser) soupCall ∅ (fun _ => none) (by decide)

/-- **Success over half a bag.**  The order is created, the item stays as it is, and the
call reports `(true, nil)`. -/
theorem half_added :
    let operation := DataService.addItemToOrder (some sampleUser) soupCall
    let answers := operation.answers (answersOf unpricedStore fun _ => none) 0
    soupCall.guard.isSome ∧
    operation.run (answersOf unpricedStore fun _ => none) 0 = ⟨[.done true none], false⟩ ∧
    ((storeAfter unpricedStore answers).lookup (orderRef "uid" "bag")).isSome ∧
    ¬ ∃ ref itemRef, soupCall.refs (some sampleUser) = some (ref, itemRef) ∧
      AllOrNothing soupCall ref itemRef unpricedStore (storeAfter unpricedStore answers)
        (operation.run (answersOf unpricedStore fun _ => none) 0) := by
  intro operation answers
  have hrun : operation.run (answersOf unpricedStore fun _ => none) 0 =
      ⟨[.done true none], false⟩ := by decide +kernel
  have hrefs : soupCall.refs (some sampleUser) =
      some (orderRef "uid" "bag", itemRef "uid" "bag" "soup") := by decide +kernel
  have hitem : ((storeAfter unpricedStore answers).lookup (itemRef "uid" "bag" "soup")).bind
      (fun d => d "quantity") = some (.int 1) := by decide +kernel
  refine ⟨by decide, hrun, by decide +kernel, ?_⟩
  rintro ⟨ref, item, hrefs', hall⟩
  rw [hrefs] at hrefs'
  cases hrefs'
  rw [hrun] at hall
  rcases hall.2 with ⟨-, -, stored, hstored, hadded⟩ | ⟨⟨error, herror⟩, -⟩
  · rw [hstored, Option.bind_some, hadded.quantity] at hitem
    exact absurd hitem (by decide +kernel)
  · cases herror

end Lidora
