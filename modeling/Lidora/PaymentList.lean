import Lidora.PaymentMethods
import Lidora.Runs

/-! # The list of payment methods

`PaymentListViewController` lists the cards, `PaymentViewController` on top of it enters a
new one.  The primary card is kept three times: as the flag `primary` of its document, as
`primary_card` of the customer's document, and as `selectedIndex`, the row that the list
remembers.

A new card comes without the flag, and nothing in the code ever writes `primary_card`.
The flag is set by selecting a row, but only when the list remembers one, which it does
for a card that has the flag.  So a customer who begins without cards never gets a primary
one (`primaryCard_iff`).
-/
namespace Lidora
open DocumentStore Runs

/-- `PaymentListViewController`; `adding` is the `primaryCardId` of the
`PaymentViewController` on top of it. -/
structure PaymentList where
  currentCard : Option Card
  cards : List Card
  selectedIndex : Option ℕ
  adding : Option (Option String)
  /-- The rows whose removal has not been reported yet. -/
  removals : List ℕ

/-- The store and the list. -/
structure PaymentsState where
  store : Firestore
  list : PaymentList

inductive PaymentsEvent where
  /-- The list is opened, from the bag with the card shown there. -/
  | openList (currentCard : Option Card)
  /-- `loadCards`. -/
  | loadCards
  /-- `fetchPaymentMethods` is answered. -/
  | loaded
  | cellForRow (row : ℕ)
  | didSelectRow (row : ℕ)
  | goToAddNewPaymentVC
  /-- A new card is saved, as the payment method `tokenId`. -/
  | addPaymentMethod (tokenId number cvc : String)
  | updatePaymentMethod (cardId : String) (month year : ℕ)
  /-- A row's card is removed. -/
  | removePaymentMethod (row : ℕ)
  /-- The `k`-th removal is reported. -/
  | removed (k : ℕ)

namespace PaymentList

/-- `tableView(_:cellForRowAt:)`; a decoded card without the flag would trap. -/
def cellForRow (l : PaymentList) (row : ℕ) : Option PaymentList :=
  match l.cards[row]? with
  | none => none
  | some card =>
    match card.brand with
    | none => some l
    | some _ =>
      match card.primary with
      | none => none
      | some primary =>
        if l.currentCard.isSome ∧ primary then some { l with selectedIndex := some row }
        else some l

/-- `goToAddNewPaymentVC`. -/
def goToAddNewPaymentVC (l : PaymentList) : PaymentList :=
  { l with adding := some ((l.cards.find? fun card => card.primary = some true).map Card.id) }

end PaymentList

/-- One step; `none` where the event cannot happen, where a write fails, and where the
app traps. -/
def paymentsStep (uid : String) (s : PaymentsState) : PaymentsEvent → Option PaymentsState
  | .openList currentCard => some { s with list := ⟨currentCard, [], none, none, []⟩ }
  | .loadCards => some { s with list := { s.list with cards := [] } }
  | .loaded =>
    some { s with list := { s.list with
      cards := (fetchPaymentMethods uid s.store).reverse ++ s.list.cards } }
  | .cellForRow row => (s.list.cellForRow row).map fun list => { s with list := list }
  | .didSelectRow row =>
    match s.list.cards[row]? with
    | none => none
    | some card =>
      match s.list.selectedIndex with
      | none => some s
      | some selected =>
        match s.list.cards[selected]? with
        | none => none
        | some oldCard => some { s with store := setPrimaryPaymentMethod uid oldCard.id card.id s.store }
  | .goToAddNewPaymentVC => some { s with list := s.list.goToAddNewPaymentVC }
  | .addPaymentMethod tokenId number cvc =>
    s.list.adding.bind fun primaryCard =>
      (addPaymentMethod uid primaryCard tokenId number cvc s.store).map fun store =>
        { s with store := store }
  | .updatePaymentMethod cardId month year =>
    (updatePaymentMethod uid cardId month year s.store).map fun store => { s with store := store }
  | .removePaymentMethod row =>
    s.list.cards[row]?.map fun card =>
      { s with
        store := removePaymentMethod uid card.id s.store
        list := { s.list with removals := s.list.removals ++ [row] } }
  | .removed k =>
    s.list.removals[k]?.bind fun row =>
      if row < s.list.cards.length then
        some { s with list := { s.list with
          cards := s.list.cards.eraseIdx row
          removals := s.list.removals.eraseIdx k } }
      else none

/-- The list has not been opened yet. -/
def PaymentsState.initial (store : Firestore) : PaymentsState := ⟨store, ⟨none, [], none, none, []⟩⟩

/-- The stored payment method has the flag. -/
def IsPrimary (uid : String) (s : Firestore) (id : String) : Prop :=
  (fieldAt s (paymentMethodRef uid id) "primary").bind Value.asBool = some true

/-- Where there is a payment method, exactly one has the flag, and the customer's document
names it. -/
def OnePrimaryCard (uid : String) (s : Firestore) : Prop :=
  (∃ id, (s.lookup (paymentMethodRef uid id)).isSome) →
    ∃ id, (∀ id', IsPrimary uid s id' ↔ id' = id) ∧
      (fieldAt s (refCurrentUser uid) "primary_card").bind Value.asString = some id

/-- **The invariant.**  No payment method has a brand or the flag, and the list has no
card with either and remembers no row. -/
structure NoPrimary (uid : String) (s : PaymentsState) : Prop where
  brand : ∀ id, fieldAt s.store (paymentMethodRef uid id) "brand" = none
  flag : ∀ id, ¬ IsPrimary uid s.store id
  cards : ∀ card ∈ s.list.cards, card.brand = none
  selected : s.list.selectedIndex = none

/-- A document without a brand decodes to a card without one. -/
theorem Card.brand_of_init {id : String} {d : Doc} (h : d "brand" = none) :
    (Card.init id d).brand = none := by
  unfold Card.init
  split
  · rename_i hbrand _ _ _ _ _ _ _
    rw [Doc.string, h] at hbrand
    cases hbrand
  · rfl

theorem NoPrimary.fetched {uid : String} {s : PaymentsState} (hi : NoPrimary uid s) :
    ∀ card ∈ fetchPaymentMethods uid s.store, card.brand = none := by
  intro card hcard
  obtain ⟨p, hp, rfl⟩ := List.mem_map.mp hcard
  obtain ⟨hcoll, hsome⟩ := Firestore.mem_documents.mp hp
  obtain ⟨id, rfl⟩ := Firestore.inCollection_iff.mp hcoll
  obtain ⟨d, hd⟩ := Option.isSome_iff_exists.mp hsome
  refine Card.brand_of_init ?_
  have hbrand := hi.brand id
  rw [fieldAt, paymentMethodRef, hd] at hbrand
  rw [hd]
  exact hbrand

/-- A change of the store that writes no brand and no flag. -/
theorem NoPrimary.of_store {uid : String} {s : PaymentsState} (hi : NoPrimary uid s)
    {store : Firestore}
    (hbrand : ∀ id, fieldAt store (paymentMethodRef uid id) "brand" = none)
    (hflag : ∀ id, ¬ IsPrimary uid store id) : NoPrimary uid { s with store := store } :=
  ⟨hbrand, hflag, hi.cards, hi.selected⟩

/-- `addPaymentMethod` gives no card the flag: it only takes it from the old primary one. -/
theorem not_isPrimary_addPaymentMethod {uid tokenId number cvc : String}
    {primaryCard : Option String} {s s' : Firestore} (hflag : ∀ id, ¬ IsPrimary uid s id)
    (h : addPaymentMethod uid primaryCard tokenId number cvc s = some s') (id : String) :
    ¬ IsPrimary uid s' id := by
  have hfirst : fieldAt (s.setMerge (paymentMethodRef uid tokenId) [("id", .string tokenId),
      ("number", .string number), ("cvc", .string cvc)]) (paymentMethodRef uid id) "primary" =
      fieldAt s (paymentMethodRef uid id) "primary" :=
    fieldAt_setMerge s _ _ (by simp [List.lookup])
  intro hprimary
  unfold IsPrimary at hprimary
  unfold addPaymentMethod at h
  split at h
  · cases h
    rw [hfirst] at hprimary
    exact hflag id hprimary
  · rcases fieldAt_updateData_or h (paymentMethodRef uid id) "primary" with heq | heq
    · rw [heq, hfirst] at hprimary
      exact hflag id hprimary
    · rw [heq] at hprimary
      exact absurd hprimary (by decide)

theorem noPrimary_step {uid : String} {s s' : PaymentsState} {e : PaymentsEvent}
    (hi : NoPrimary uid s) (h : paymentsStep uid s e = some s') : NoPrimary uid s' := by
  cases e with
  | openList currentCard =>
    cases h
    exact ⟨hi.brand, hi.flag, List.forall_mem_nil _, rfl⟩
  | loadCards =>
    cases h
    exact ⟨hi.brand, hi.flag, List.forall_mem_nil _, hi.selected⟩
  | loaded =>
    cases h
    refine ⟨hi.brand, hi.flag, fun card hcard => ?_, hi.selected⟩
    rcases List.mem_append.mp hcard with hcard | hcard
    · exact hi.fetched card (List.mem_reverse.mp hcard)
    · exact hi.cards card hcard
  | cellForRow row =>
    simp only [paymentsStep, PaymentList.cellForRow] at h
    cases hcard : s.list.cards[row]? with
    | none =>
      rw [hcard] at h
      cases h
    | some card =>
      -- the card has no brand, so its cell is left blank and its row is not remembered
      simp only [hcard, hi.cards card (List.mem_of_getElem? hcard), Option.map_some] at h
      cases h
      exact hi
  | didSelectRow row =>
    simp only [paymentsStep, hi.selected] at h
    split at h
    · cases h
    · cases h
      exact hi
  | goToAddNewPaymentVC =>
    cases h
    exact ⟨hi.brand, hi.flag, hi.cards, hi.selected⟩
  | addPaymentMethod tokenId number cvc =>
    obtain ⟨primaryCard, -, h⟩ := Option.bind_eq_some_iff.mp h
    obtain ⟨store, hstore, rfl⟩ := Option.map_eq_some_iff.mp h
    refine hi.of_store (fun id => ?_) (not_isPrimary_addPaymentMethod hi.flag hstore)
    rw [fieldAt_addPaymentMethod hstore _ (by decide)]
    exact hi.brand id
  | updatePaymentMethod cardId month year =>
    obtain ⟨store, hstore, rfl⟩ := Option.map_eq_some_iff.mp h
    refine hi.of_store (fun id => ?_) fun id hprimary => ?_
    · rw [fieldAt_updateData hstore _ (by simp [List.lookup])]
      exact hi.brand id
    · rw [IsPrimary, fieldAt_updateData hstore _ (by simp [List.lookup])] at hprimary
      exact hi.flag id hprimary
  | removePaymentMethod row =>
    obtain ⟨card, -, rfl⟩ := Option.map_eq_some_iff.mp h
    refine ⟨fun id => ?_, fun id hprimary => ?_, hi.cards, hi.selected⟩
    · rcases fieldAt_erase s.store (paymentMethodRef uid card.id) (paymentMethodRef uid id)
        "brand" with heq | heq
      · exact heq.trans (hi.brand id)
      · exact heq
    · unfold IsPrimary at hprimary
      rcases fieldAt_erase s.store (paymentMethodRef uid card.id) (paymentMethodRef uid id)
        "primary" with heq | heq
      · rw [removePaymentMethod, heq] at hprimary
        exact hi.flag id hprimary
      · rw [removePaymentMethod, heq] at hprimary
        cases hprimary
  | removed k =>
    obtain ⟨row, -, h⟩ := Option.bind_eq_some_iff.mp h
    split at h
    · cases h
      exact ⟨hi.brand, hi.flag, fun card hcard => hi.cards card (List.mem_of_mem_eraseIdx hcard),
        hi.selected⟩
    · cases h

/-- **A customer's cards never get a primary one.**  In every state that is reached from no
cards, with every write succeeding, one card is primary and named by the customer's
document as soon as there is a card, if and only if there is none. -/
theorem primaryCard_iff (uid : String) (store : Firestore)
    (hnone : ∀ id, store.lookup (paymentMethodRef uid id) = none) (es : List PaymentsEvent)
    (s : PaymentsState) (h : run (paymentsStep uid) (PaymentsState.initial store) es = some s) :
    OnePrimaryCard uid s.store ↔ ∀ id, s.store.lookup (paymentMethodRef uid id) = none := by
  have hinit : NoPrimary uid (PaymentsState.initial store) := by
    have hfield : ∀ id k, fieldAt store (paymentMethodRef uid id) k = none := by
      intro id k
      rw [fieldAt, hnone id]
      rfl
    refine ⟨fun id => hfield id "brand", fun id hprimary => ?_, List.forall_mem_nil _, rfl⟩
    rw [IsPrimary, show (PaymentsState.initial store).store = store from rfl, hfield] at hprimary
    cases hprimary
  have hinv : NoPrimary uid s :=
    run_invariant (NoPrimary uid) (fun _ _ _ hi he => noPrimary_step hi he) hinit h
  constructor
  · intro hone id
    rw [← Option.not_isSome_iff_eq_none]
    intro hsome
    obtain ⟨primary, hflag, -⟩ := hone ⟨id, hsome⟩
    exact hinv.flag primary ((hflag primary).mpr rfl)
  · rintro hall ⟨id, hsome⟩
    rw [hall id] at hsome
    cases hsome

/-- A new customer enters a card and selects it in the list. -/
def firstCard : List PaymentsEvent :=
  [.openList none, .loadCards, .loaded, .goToAddNewPaymentVC,
    .addPaymentMethod "pm" "4242 4242 4242 4242" "123", .loadCards, .loaded, .cellForRow 0,
    .didSelectRow 0]

theorem primaryCard_iff_first_card : ∃ s,
    run (paymentsStep "uid") (PaymentsState.initial ∅) firstCard = some s ∧
    (OnePrimaryCard "uid" s.store ↔
      ∀ id, s.store.lookup (paymentMethodRef "uid" id) = none) := by
  have hsome : (run (paymentsStep "uid") (PaymentsState.initial ∅) firstCard).isSome := by
    decide +kernel
  obtain ⟨s, hs⟩ := Option.isSome_iff_exists.mp hsome
  exact ⟨s, hs, primaryCard_iff "uid" ∅ (fun _ => Finmap.lookup_empty _) firstCard s hs⟩

/-- **A card that is not primary.**  The only card of a customer, entered and selected,
has no flag, and the customer's document names none. -/
theorem first_card_not_primary : ∃ s,
    run (paymentsStep "uid") (PaymentsState.initial ∅) firstCard = some s ∧
    (s.store.lookup (paymentMethodRef "uid" "pm")).isSome ∧
    fieldAt s.store (refCurrentUser "uid") "primary_card" = none ∧
    ¬ OnePrimaryCard "uid" s.store := by
  have hrun : (run (paymentsStep "uid") (PaymentsState.initial ∅) firstCard).map (fun s =>
      ((s.store.lookup (paymentMethodRef "uid" "pm")).isSome,
        fieldAt s.store (refCurrentUser "uid") "primary_card")) = some (true, none) := by
    decide +kernel
  obtain ⟨s, hs, hdocs⟩ := Option.map_eq_some_iff.mp hrun
  obtain ⟨hsome, hnone⟩ := Prod.mk.injEq .. ▸ hdocs
  refine ⟨s, hs, hsome, hnone, fun hone => ?_⟩
  obtain ⟨id, -, hnamed⟩ := hone ⟨"pm", hsome⟩
  rw [hnone] at hnamed
  cases hnamed

end Lidora
