import Lidora.InFlight
import Lidora.ListScreens

/-! # Removing cards from the list

A tap on a row of `PaymentListViewController` opens an alert which keeps the row's index
and its card.  When the removal has been confirmed and the remote delete been answered,
the completion takes out of `cards` what stands at that index by then.  In between the
list may have been cleared by `loadCards`, filled at the front by the answer to a fetch,
or shortened by another removal.

So a completed removal is right exactly when its row still holds its card
(`removals_iff`, the first half).  It does in every run in which the list is neither
cleared nor filled while a removal is under way, and in which removals under way together
end from the lowest row up, that is, each only while the others are of rows above its own
(the second half).

`selectedIndex` is left out: the alert is shown in a list that remembers no row.
-/
namespace Lidora
open DocumentStore Runs

/-- A request of the list that is on its way. -/
inductive CardRequest where
  /-- `fetchPaymentMethods` has been called. -/
  | fetching
  /-- The documents have been read, and the callbacks have not run yet. -/
  | fetched (cards : List Card)
  /-- `removePaymentMethod` has been called for the card of the row. -/
  | removing (index : ℕ) (card : Card)
  /-- The document is deleted, and the completion has not run yet. -/
  | removed (index : ℕ) (card : Card)
  deriving DecidableEq

/-- The customer's documents and `PaymentListViewController`; `alert` is the alert of
`showAlert`, or the one that asks once more, with what it has captured. -/
structure CardList where
  store : Firestore
  cards : List Card
  alert : Option (ℕ × Card)
  requests : InFlight CardRequest

inductive CardListEvent where
  /-- `viewWillAppear`. -/
  | loadCards
  /-- A row is tapped. -/
  | showAlert (row : ℕ)
  /-- "Cancel", or "Edit Card". -/
  | dismiss
  /-- "Remove" is confirmed. -/
  | remove
  /-- The documents for fetch `n` are read, or the fetch fails. -/
  | read (n : ℕ) (ok : Bool)
  /-- The callbacks of fetch `n` run. -/
  | loaded (n : ℕ)
  /-- The remote delete of removal `n` is answered. -/
  | deleted (n : ℕ) (ok : Bool)
  /-- The completion of removal `n` runs. -/
  | completed (n : ℕ)
  /-- Another screen or device changes the stored cards. -/
  | changed (store : Firestore)

/-- `cards.remove(at: index)`, which traps outside of the array. -/
def removeAt (cards : List Card) (index : ℕ) : Option (List Card) :=
  if index < cards.length then some (cards.eraseIdx index) else none

/-- One step of the list; `none` also where the app traps. -/
def cardListStep (uid : String) (s : CardList) : CardListEvent → Option CardList
  | .loadCards => some { s with cards := [], requests := s.requests.start .fetching }
  | .showAlert row =>
    if s.alert = none then s.cards[row]?.map fun card => { s with alert := some (row, card) }
    else none
  | .dismiss => some { s with alert := none }
  | .remove =>
    s.alert.map fun (index, card) =>
      { s with alert := none, requests := s.requests.start (.removing index card) }
  | .read n ok =>
    (s.requests.running n).bind fun request =>
      match request with
      | .fetching =>
        some { s with requests :=
          if ok then s.requests.put n (.fetched (fetchPaymentMethods uid s.store))
          else s.requests.finish n }
      | _ => none
  | .loaded n =>
    (s.requests.running n).bind fun request =>
      match request with
      | .fetched cards =>
        some { s with
          cards := cards.foldl (paymentListViewController uid s.store).put s.cards
          requests := s.requests.finish n }
      | _ => none
  | .deleted n ok =>
    (s.requests.running n).bind fun request =>
      match request with
      | .removing index card =>
        some (if ok then
          { s with
            store := removePaymentMethod uid card.id s.store
            requests := s.requests.put n (.removed index card) }
        else { s with requests := s.requests.finish n })
      | _ => none
  | .completed n =>
    (s.requests.running n).bind fun request =>
      match request with
      | .removed index _ =>
        (removeAt s.cards index).map fun cards =>
          { s with cards := cards, requests := s.requests.finish n }
      | _ => none
  | .changed store => some { s with store := store }

/-- The list has not appeared yet. -/
def CardList.initial (store : Firestore) : CardList := ⟨store, [], none, InFlight.empty⟩

/-- The card is taken out of the list, or was not in it and nothing is. -/
def TakesOut (card : Card) (cards cards' : List Card) : Prop :=
  (∃ i, cards[i]?.map Card.id = some card.id ∧ cards' = cards.eraseIdx i) ∨
    card.id ∉ cards.map Card.id ∧ cards' = cards

/-- A removal that is completed takes out the card whose document has been deleted, and its
index lies in the array. -/
def RightRemoval (s : CardList) : CardListEvent → Prop
  | .completed n => ∀ index card, s.requests.running n = some (.removed index card) →
      ∃ cards', removeAt s.cards index = some cards' ∧ TakesOut card s.cards cards'
  | _ => True

/-- The row that was tapped still holds the card when its removal is completed. -/
def RowHolds (s : CardList) : CardListEvent → Prop
  | .completed n => ∀ index card, s.requests.running n = some (.removed index card) →
      s.cards[index]?.map Card.id = some card.id
  | _ => True

/-- A removal of the card of this row is under way: its alert is open, or it has been
confirmed and not completed. -/
def CardList.UnderWay (s : CardList) (index : ℕ) (card : Card) : Prop :=
  s.alert = some (index, card) ∨
    s.requests.Any fun request => request = .removing index card ∨ request = .removed index card

/-- The list is cleared and filled only while no removal is under way, and a removal is
completed only while all others under way are of rows above its own. -/
def RowsKept (s : CardList) : CardListEvent → Prop
  | .loadCards | .loaded _ => ∀ index card, ¬ s.UnderWay index card
  | .completed n => ∀ index card, s.requests.running n = some (.removed index card) →
      ∀ other card', { s with requests := s.requests.finish n }.UnderWay other card' →
        other < index
  | _ => True

/-- **The invariant**: every removal under way has its card at its row. -/
def CardList.Paired (s : CardList) : Prop :=
  ∀ index card, s.UnderWay index card → s.cards[index]?.map Card.id = some card.id

/-! ## One removal -/

/-- Taking out either of two entries leaves the same list only where they are equal. -/
theorem getElem_eq_of_eraseIdx_eq {α : Type} {l : List α} {i j : ℕ} (hi : i < l.length)
    (hj : j < l.length) (h : l.eraseIdx i = l.eraseIdx j) : l[i] = l[j] := by
  have hperm : (l[i] :: l.eraseIdx j).Perm (l[j] :: l.eraseIdx j) := by
    rw [← h]
    exact (List.getElem_cons_eraseIdx_perm hi).trans
      (h ▸ (List.getElem_cons_eraseIdx_perm hj).symm)
  have hcons : l[i] ::ₘ (l.eraseIdx j : Multiset α) = l[j] ::ₘ (l.eraseIdx j : Multiset α) :=
    Multiset.coe_eq_coe.mpr hperm
  exact (Multiset.cons_inj_left _).mp hcons

/-- **A removal is right** exactly when its row holds its card. -/
theorem takesOut_iff {cards : List Card} {index : ℕ} {card : Card} :
    (∃ cards', removeAt cards index = some cards' ∧ TakesOut card cards cards') ↔
      cards[index]?.map Card.id = some card.id := by
  constructor
  · rintro ⟨cards', hremove, htakes⟩
    unfold removeAt at hremove
    split at hremove
    · rename_i hindex
      cases hremove
      rcases htakes with ⟨i, hid, heq⟩ | ⟨-, heq⟩
      · obtain ⟨c, hc, hcid⟩ := Option.map_eq_some_iff.mp hid
        obtain ⟨hi, rfl⟩ := List.getElem?_eq_some_iff.mp hc
        rw [List.getElem?_eq_getElem hindex, getElem_eq_of_eraseIdx_eq hindex hi heq]
        exact congrArg some hcid
      · -- something is always taken out
        have hlength := congrArg List.length heq
        rw [List.length_eraseIdx_of_lt hindex] at hlength
        omega
    · cases hremove
  · intro hid
    obtain ⟨c, hc, -⟩ := Option.map_eq_some_iff.mp hid
    obtain ⟨hindex, -⟩ := List.getElem?_eq_some_iff.mp hc
    exact ⟨cards.eraseIdx index, if_pos hindex, Or.inl ⟨index, hid, rfl⟩⟩

theorem rightRemoval_iff (s : CardList) (e : CardListEvent) : RightRemoval s e ↔ RowHolds s e := by
  cases e with
  | completed n =>
    exact forall_congr' fun index => forall_congr' fun card => forall_congr' fun _ => takesOut_iff
  | _ => exact Iff.rfl

/-! ## Removals under way -/

section
variable {uid : String} {s s' : CardList}

/-- What keeps the rows and starts no removal keeps them paired. -/
theorem CardList.Paired.of_underWay (h : s.Paired) (hcards : s'.cards = s.cards)
    (hunder : ∀ index card, s'.UnderWay index card → s.UnderWay index card) : s'.Paired := by
  intro index card hway
  rw [hcards]
  exact h index card (hunder index card hway)

/-- A request that is no removal ends or goes on as none. -/
theorem underWay_finish {n : ℕ} {request : CardRequest} (hrun : s.requests.running n = some request)
    {index : ℕ} {card : Card}
    (h : { s with requests := s.requests.finish n }.UnderWay index card) :
    s.UnderWay index card :=
  h.imp_right fun hany => (InFlight.any_iff hrun).mpr (Or.inr hany)

theorem underWay_put {n : ℕ} {request request' : CardRequest}
    (hrun : s.requests.running n = some request) {index : ℕ} {card : Card}
    (hsame : request' = .removing index card ∨ request' = .removed index card →
      request = .removing index card ∨ request = .removed index card)
    (h : { s with requests := s.requests.put n request' }.UnderWay index card) :
    s.UnderWay index card := by
  refine h.imp_right fun hany => (InFlight.any_iff hrun).mpr ?_
  exact ((InFlight.any_put hrun).mp hany).imp_left hsame

/-- **One undisturbed step keeps the rows paired.** -/
theorem paired_step {e : CardListEvent} (h : s.Paired) (hP : RowsKept s e)
    (hstep : cardListStep uid s e = some s') : s'.Paired := by
  cases e with
  | loadCards =>
    cases hstep
    intro index card hway
    refine absurd (hway.imp_right fun hany => ?_) (hP index card)
    exact (InFlight.any_start.mp hany).resolve_left (by simp)
  | showAlert row =>
    simp only [cardListStep] at hstep
    split at hstep
    · obtain ⟨card, hcard, rfl⟩ := Option.map_eq_some_iff.mp hstep
      rintro index card' (halert | hany)
      · cases halert
        exact congrArg (Option.map Card.id) hcard
      · exact h index card' (Or.inr hany)
    · cases hstep
  | dismiss =>
    cases hstep
    rintro index card (halert | hany)
    · cases halert
    · exact h index card (Or.inr hany)
  | remove =>
    obtain ⟨⟨index, card⟩, halert, rfl⟩ := Option.map_eq_some_iff.mp hstep
    refine h.of_underWay rfl ?_
    rintro index' card' (hnone | hany)
    · cases hnone
    · -- what was captured by the alert is now captured by the call
      rcases InFlight.any_start.mp hany with hnew | hany
      · simp only [CardRequest.removing.injEq, reduceCtorEq, or_false] at hnew
        obtain ⟨rfl, rfl⟩ := hnew
        exact Or.inl halert
      · exact Or.inr hany
  | read n ok =>
    obtain ⟨request, hrun, hstep⟩ := Option.bind_eq_some_iff.mp hstep
    split at hstep
    · cases hstep
      cases ok with
      | true => exact h.of_underWay rfl fun _ _ => underWay_put hrun (by simp)
      | false => exact h.of_underWay rfl fun _ _ => underWay_finish hrun
    · cases hstep
  | loaded n =>
    obtain ⟨request, hrun, hstep⟩ := Option.bind_eq_some_iff.mp hstep
    split at hstep
    · cases hstep
      intro index card hway
      exact absurd (underWay_finish hrun hway) (hP index card)
    · cases hstep
  | deleted n ok =>
    obtain ⟨request, hrun, hstep⟩ := Option.bind_eq_some_iff.mp hstep
    split at hstep
    · cases hstep
      cases ok with
      | true => exact h.of_underWay rfl fun _ _ => underWay_put hrun (by simp)
      | false => exact h.of_underWay rfl fun _ _ => underWay_finish hrun
    · cases hstep
  | completed n =>
    obtain ⟨request, hrun, hstep⟩ := Option.bind_eq_some_iff.mp hstep
    split at hstep
    · rename_i index card
      obtain ⟨cards', hremove, rfl⟩ := Option.map_eq_some_iff.mp hstep
      intro other card' hway
      -- the rows above the one that goes stay where they are
      have hlt : other < index := hP index card hrun other card' hway
      have hid := h other card' (underWay_finish hrun hway)
      unfold removeAt at hremove
      split at hremove
      · cases hremove
        exact (congrArg _ (List.getElem?_eraseIdx_of_lt hlt)).trans hid
      · cases hremove
    · cases hstep
  | changed store =>
    cases hstep
    exact h.of_underWay rfl fun _ _ => id

end

/-- **When removals are right.**  In every run of the list: every completed removal takes out
exactly the card whose document has been deleted, with an index in the array, if and only
if each finds its row still holding its card; and each does when every step leaves the
removals under way undisturbed. -/
theorem removals_iff (uid : String) (store : Firestore) (es : List CardListEvent) :
    (Along (cardListStep uid) RightRemoval (CardList.initial store) es ↔
      Along (cardListStep uid) RowHolds (CardList.initial store) es) ∧
    (Along (cardListStep uid) RowsKept (CardList.initial store) es →
      Along (cardListStep uid) RightRemoval (CardList.initial store) es) := by
  have hinit : (CardList.initial store).Paired := by
    rintro index card (halert | hany)
    · cases halert
    · obtain ⟨n, request, hrun, -⟩ := hany
      cases hrun
  constructor
  · exact along_congr (fun _ => True) (fun _ _ _ _ _ => trivial)
      (fun s e _ => rightRemoval_iff s e) trivial
  · intro hundisturbed
    refine hundisturbed.of_invariant CardList.Paired
      (fun _ _ _ h hP hstep => paired_step h hP hstep) (fun s e h hP => (rightRemoval_iff s e).mpr ?_) hinit
    cases e with
    | completed n =>
      intro index card hrun
      exact h index card (Or.inr ⟨n, _, hrun, Or.inr rfl⟩)
    | _ => trivial

/-! ## Two removals at once -/

/-- Three cards. -/
def threeCards : Firestore :=
  (((∅ : Firestore).setData (paymentMethodRef "uid" "a") []).setData (paymentMethodRef "uid" "b")
    []).setData (paymentMethodRef "uid" "c") []

/-- A card with nothing but an id. -/
def bareCard (id : String) : Card := Card.init id (Doc.ofFields [])

theorem fetch_threeCards :
    fetchPaymentMethods "uid" threeCards = [bareCard "a", bareCard "b", bareCard "c"] := by
  have hkeys : threeCards.keys.filter (Firestore.InCollection (refPaymentsMethods "uid")) =
      [paymentMethodRef "uid" "a", paymentMethodRef "uid" "b",
        paymentMethodRef "uid" "c"].toFinset := by
    decide +kernel
  have hsorted : threeCards.documents (refPaymentsMethods "uid") =
      [paymentMethodRef "uid" "a", paymentMethodRef "uid" "b", paymentMethodRef "uid" "c"] := by
    rw [Firestore.documents, hkeys]
    exact (List.toFinset_sort _ (by decide)).mpr (by decide)
  rw [fetchPaymentMethods, hsorted]
  decide +kernel

/-- The list appears, and its cards are loaded. -/
def listAppears : List CardListEvent := [.loadCards, .read 0 true, .loaded 0]

/-- The list with the three cards, the last one first. -/
def threeListed : CardList where
  store := threeCards
  cards := [bareCard "c", bareCard "b", bareCard "a"]
  alert := none
  requests := ((InFlight.empty.start .fetching).put 0
    (.fetched [bareCard "a", bareCard "b", bareCard "c"])).finish 0

theorem run_listAppears :
    run (cardListStep "uid") (CardList.initial threeCards) listAppears = some threeListed := by
  have hloaded : run (cardListStep "uid") (CardList.initial threeCards) listAppears =
      some ⟨threeCards,
        (fetchPaymentMethods "uid" threeCards).foldl (fun cards card => card :: cards) [], none,
        ((InFlight.empty.start .fetching).put 0
          (.fetched (fetchPaymentMethods "uid" threeCards))).finish 0⟩ := rfl
  rw [hloaded, fetch_threeCards]
  rfl

/-- The first two rows, of the cards c and b, are removed one after the other; both deletes
are answered before either completion runs. -/
def twoRemovals : List CardListEvent :=
  [.showAlert 0, .remove, .showAlert 1, .remove, .deleted 1 true, .deleted 2 true, .completed 1]

/-- **The wrong card goes.**  The first completion takes out c and shifts the rows; the
second one, for the document of b, takes out a and leaves b in the list. -/
theorem wrong_card_removed : ∃ s,
    run (cardListStep "uid") (CardList.initial threeCards) (listAppears ++ twoRemovals) = some s ∧
    s.cards.map Card.id = ["b", "a"] ∧
    s.requests.running 2 = some (.removed 1 (bareCard "b")) ∧
    (removeAt s.cards 1).map (List.map Card.id) = some ["b"] ∧
    ¬ Along (cardListStep "uid") RightRemoval (CardList.initial threeCards)
      (listAppears ++ twoRemovals ++ [.completed 2]) := by
  have hrun : (run (cardListStep "uid") threeListed twoRemovals).map (fun s =>
      decide (s.cards.map Card.id = ["b", "a"] ∧
        s.requests.running 2 = some (.removed 1 (bareCard "b")) ∧
        (removeAt s.cards 1).map (List.map Card.id) = some ["b"] ∧
        s.cards[1]?.map Card.id = some "a")) = some true := by decide +kernel
  obtain ⟨s, hs, hfacts⟩ := Option.map_eq_some_iff.mp hrun
  obtain ⟨hcards, hrequest, hremoved, hrow⟩ := of_decide_eq_true hfacts
  have hall := (run_append_iff (cardListStep "uid")).mpr ⟨threeListed, run_listAppears, hs⟩
  refine ⟨s, hall, hcards, hrequest, hremoved, fun halong => ?_⟩
  have hholds := (rightRemoval_iff _ _).mp (halong.right hall).1 1 _ hrequest
  rw [hrow] at hholds
  exact absurd hholds (by decide)

end Lidora
