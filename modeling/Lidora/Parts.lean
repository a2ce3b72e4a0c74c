import Lidora.BagOperations
import Lidora.Components
import Lidora.CustomerSetup
import Lidora.Likes
import Lidora.PaymentList

/-! # The parts of the system, and the documents of each

Five parts of the program work on Firestore, each for one account at a time: the bag
(`bagStep`), the likes (`likesStep`), the payment methods and their list (`paymentsStep`),
the customer's own document (`accountStep`, with `saveUserDetails` and
`updateUserLocation`), and the two functions that set a customer up at Stripe
(`setupStep`).

`owner` says of a path which part it belongs to, if any.  No part reads or writes a
document of another: `footprint` has the proof for each of them.  For the bag it takes an
invariant, since a `clearOrder` deletes what its query has found, not what it has been told.
-/
namespace Lidora
open Components DocumentStore Runs

/-! ## The customer's own document -/

/-- `saveUserDetails`. -/
def saveUserDetails (userId : String) (data : List (String × Value)) (s : Firestore) : Firestore :=
  s.setMerge (refCurrentUser userId) data

/-- `updateUserLocation`, which fails where there is no document. -/
def updateUserLocation (uid line1 postalCode city state : String) (s : Firestore) :
    Option Firestore :=
  s.updateData (refCurrentUser uid) [("line1", .string line1), ("postal_code", .string postalCode),
    ("city", .string city), ("state", .string state)]

inductive AccountEvent where
  | saveUserDetails (data : List (String × Value))
  | updateUserLocation (line1 postalCode city state : String)
  /-- Either of them is rejected. -/
  | rejected

def accountStep (uid : String) (s : Firestore) : AccountEvent → Option Firestore
  | .saveUserDetails data => some (saveUserDetails uid data s)
  | .updateUserLocation line1 postalCode city state =>
    updateUserLocation uid line1 postalCode city state s
  | .rejected => some s

/-! ## Parts and paths -/

/-- A part of the system, for the account `uid`. -/
inductive Part where
  | bag (uid : String)
  | likes (uid : String)
  | cards (uid : String)
  | account (uid : String)
  | setup (uid : String)
  deriving DecidableEq

/-- The part that a document belongs to. -/
def owner : Path → Option Part
  | ["customers", uid] => some (.account uid)
  | ["customers", uid, "likes", _] => some (.likes uid)
  | ["customers", uid, "payment_methods", _] => some (.cards uid)
  | ["customers", uid, "orders", _] => some (.bag uid)
  | ["customers", uid, "orders", _, "items", _] => some (.bag uid)
  | ["customers", uid, "payments", _] => some (.bag uid)
  | ["stripe_customers", uid] => some (.setup uid)
  | ["stripe_customers", uid, "payment_methods", _] => some (.setup uid)
  | _ => none

theorem owner_refCurrentUser (uid : String) :
    owner (refCurrentUser uid) = some (.account uid) := rfl

theorem owner_likeRef (uid providerId : String) :
    owner (likeRef uid providerId) = some (.likes uid) := rfl

theorem owner_paymentMethodRef (uid id : String) :
    owner (paymentMethodRef uid id) = some (.cards uid) := rfl

theorem owner_orderRef (uid orderId : String) :
    owner (orderRef uid orderId) = some (.bag uid) := rfl

theorem owner_itemRef (uid orderId id : String) :
    owner (itemRef uid orderId id) = some (.bag uid) := rfl

theorem owner_paymentRef (uid token : String) :
    owner (paymentRef uid token) = some (.bag uid) := rfl

theorem owner_stripeCustomerRef (uid : String) :
    owner (stripeCustomerRef uid) = some (.setup uid) := rfl

theorem owner_stripePaymentMethodRef (uid pushId : String) :
    owner (stripePaymentMethodRef uid pushId) = some (.setup uid) := rfl

/-- The documents of a part. -/
def territory (part : Part) : Set Path := {p | owner p = some part}

theorem mem_territory {part : Part} {p : Path} : p ∈ territory part ↔ owner p = some part := Iff.rfl

/-- No document belongs to two parts. -/
theorem territory_disjoint {part part' : Part} (h : part ≠ part') :
    Disjoint (territory part) (territory part') := by
  rw [Set.disjoint_left]
  intro p hp hp'
  rw [mem_territory] at hp hp'
  exact h (Option.some.inj (hp.symm.trans hp'))

/-! ## The ways of writing, over stores that agree -/

section
variable {R : Set Path} {s s' m : Firestore} (h : Agree R s m)
include h

theorem agree_setMerge {p : Path} (hp : p ∈ R) (fields : List (String × Value)) :
    Agree R (s.setMerge p fields) (m.setMerge p fields) := by
  rw [Firestore.setMerge, Firestore.setMerge, h p hp]
  exact h.insert _ _

theorem agree_updateData {p : Path} (hp : p ∈ R) {fields : List (String × Value)}
    (hupdate : s.updateData p fields = some s') :
    ∃ m', m.updateData p fields = some m' ∧ Agree R s' m' := by
  obtain ⟨d, hd, rfl⟩ := Option.map_eq_some_iff.mp hupdate
  refine ⟨m.insert p (d.merge fields), ?_, h.insert _ _⟩
  rw [Firestore.updateData, h p hp, hd]
  rfl

/-- An update that fails in one store fails in the other. -/
theorem updateData_eq_none {p : Path} (hp : p ∈ R) {fields : List (String × Value)}
    (hupdate : s.updateData p fields = none) : m.updateData p fields = none := by
  rw [Firestore.updateData, Option.map_eq_none_iff] at hupdate ⊢
  rwa [h p hp]

/-- A query finds the same documents. -/
theorem documents_of_agree {coll : Path} (hcoll : ∀ id, coll ++ [id] ∈ R) :
    m.documents coll = s.documents coll := by
  have hkeys : m.keys.filter (Firestore.InCollection coll) =
      s.keys.filter (Firestore.InCollection coll) := by
    ext p
    rw [Finset.mem_filter, Finset.mem_filter]
    refine and_congr_left fun hp => ?_
    obtain ⟨id, rfl⟩ := Firestore.inCollection_iff.mp hp
    rw [Finmap.mem_keys, Finmap.mem_keys, ← Finmap.lookup_isSome, ← Finmap.lookup_isSome,
      h _ (hcoll id)]
  rw [Firestore.documents, Firestore.documents, hkeys]

end

/-- What is written under a key of `R` leaves the rest. -/
theorem agree_of_insert {R : Set Path} {p : Path} (hp : p ∈ R) (s : Firestore) (d : Doc) :
    Agree Rᶜ s (s.insert p d) :=
  agree_insert_off (Set.notMem_compl_iff.mpr hp) s d

theorem agree_of_erase {R : Set Path} {p : Path} (hp : p ∈ R) (s : Firestore) :
    Agree Rᶜ s (s.erase p) :=
  agree_erase_off (Set.notMem_compl_iff.mpr hp) s

theorem agree_of_updateData {R : Set Path} {p : Path} (hp : p ∈ R) {s s' : Firestore}
    {fields : List (String × Value)} (h : s.updateData p fields = some s') :
    Agree Rᶜ s s' := by
  obtain ⟨d, -, rfl⟩ := Option.map_eq_some_iff.mp h
  exact agree_of_insert hp s _

/-! ## The customer's document by itself -/

def accountComponent (uid : String) : Component Path Doc where
  State := Firestore
  Event := AccountEvent
  step := accountStep uid
  store s := s
  withStore _ m := m
  store_withStore _ _ := rfl
  withStore_store _ := rfl
  withStore_withStore _ _ _ := rfl

def accountFootprint (uid : String) : Footprint (accountComponent uid) where
  reads := territory (.account uid)
  writes := territory (.account uid)
  Inv _ := True
  writes_subset := subset_rfl
  inv_withStore _ _ _ := trivial
  inv_step _ _ _ _ _ := trivial
  frame := by
    intro (s : Firestore) e (s' : Firestore) _ h
    cases e with
    | saveUserDetails data =>
      cases h
      exact agree_of_insert (owner_refCurrentUser uid) s _
    | updateUserLocation line1 postalCode city state =>
      exact agree_of_updateData (owner_refCurrentUser uid) h
    | rejected =>
      cases h
      exact Agree.refl _ _
  congr := by
    intro (s : Firestore) e (s' : Firestore) m _ h hagree
    cases e with
    | saveUserDetails data =>
      cases h
      exact ⟨_, rfl, agree_setMerge hagree (owner_refCurrentUser uid) data⟩
    | updateUserLocation line1 postalCode city state =>
      exact agree_updateData hagree (owner_refCurrentUser uid) h
    | rejected =>
      cases h
      exact ⟨m, rfl, hagree⟩

/-! ## The likes -/

section
variable (D : Type) [DecidableEq D] (uid : String)

def likesComponent : Component Path Doc where
  State := LikesState D
  Event := LikesEvent D
  step := likesStep uid
  store := LikesState.store
  withStore s m := { s with store := m }
  store_withStore _ _ := rfl
  withStore_store _ := rfl
  withStore_withStore _ _ _ := rfl

/-- A read finds the same over stores that agree on the likes. -/
theorem find_of_agree {D : Type} [DecidableEq D] {uid : String} {s : LikesState D} {m : Firestore}
    (h : Agree (territory (.likes uid)) s.store m) (c : LikeCall D) (source : ReadSource) :
    LikesState.find uid { s with store := m } c source = s.find uid c source := by
  cases source with
  | server =>
    simp only [LikesState.find, isLiked]
    rw [h _ (owner_likeRef uid c.providerId)]
  | pending k => rfl
  | failed => rfl

theorem agree_adjustLikes {s m : Firestore} {uid : String}
    (h : Agree (territory (.likes uid)) s m) (providerId : String) (found : Bool) :
    Agree (territory (.likes uid)) (adjustLikes uid providerId found s)
      (adjustLikes uid providerId found m) := by
  cases found
  · exact h.insert _ _
  · exact h.erase _

def likesFootprint : Footprint (likesComponent D uid) where
  reads := territory (.likes uid)
  writes := territory (.likes uid)
  Inv _ := True
  writes_subset := subset_rfl
  inv_withStore _ _ _ := trivial
  inv_step _ _ _ _ _ := trivial
  frame := by
    intro s e s' _ h
    rcases likesStep_cases h with ⟨device, p, -, rfl⟩ | ⟨n, source, c, found, -, -, -, rfl⟩ |
      ⟨n, c, found, -, -, -, rfl⟩
    · exact Agree.refl _ _
    · exact Agree.refl _ _
    · cases found
      · exact agree_of_insert (owner_likeRef uid c.providerId) s.store _
      · exact agree_of_erase (owner_likeRef uid c.providerId) s.store
  congr := by
    intro (s : LikesState D) e s' m _ h hagree
    cases e with
    | tap device p =>
      cases h
      exact ⟨m, rfl, hagree⟩
    | read n source =>
      obtain ⟨c, hc, h⟩ := Option.bind_eq_some_iff.mp h
      split at h
      · rename_i hphase
        obtain ⟨found, hfound, rfl⟩ := Option.map_eq_some_iff.mp h
        refine ⟨m, ?_, hagree⟩
        refine Option.bind_eq_some_iff.mpr ⟨c, hc, ?_⟩
        simp only [hphase]
        exact Option.map_eq_some_iff.mpr ⟨found, (find_of_agree hagree c source).trans hfound, rfl⟩
      · cases h
    | write n =>
      obtain ⟨c, hc, h⟩ := Option.bind_eq_some_iff.mp h
      split at h
      · rename_i found hphase
        cases h
        refine ⟨adjustLikes uid c.providerId found m, ?_, agree_adjustLikes hagree _ found⟩
        refine Option.bind_eq_some_iff.mpr ⟨c, hc, ?_⟩
        simp only [hphase]
        rfl
      · cases h

end

/-! ## The payment methods -/

section
variable (uid : String)

def cardsComponent : Component Path Doc where
  State := PaymentsState
  Event := PaymentsEvent
  step := paymentsStep uid
  store := PaymentsState.store
  withStore s m := { s with store := m }
  store_withStore _ _ := rfl
  withStore_store _ := rfl
  withStore_withStore _ _ _ := rfl

variable {uid} {s m : Firestore} (h : Agree (territory (.cards uid)) s m)
include h

theorem fetchPaymentMethods_of_agree : fetchPaymentMethods uid m = fetchPaymentMethods uid s := by
  rw [fetchPaymentMethods, documents_of_agree h (owner_paymentMethodRef uid)]
  refine List.map_congr_left fun p hp => ?_
  obtain ⟨id, rfl⟩ := Firestore.inCollection_iff.mp (Firestore.mem_documents.mp hp).1
  rw [h (refPaymentsMethods uid ++ [id]) (owner_paymentMethodRef uid id)]

theorem agree_addPaymentMethod {primaryCard : Option String} {tokenId number cvc : String}
    {s' : Firestore} (hadd : addPaymentMethod uid primaryCard tokenId number cvc s = some s') :
    ∃ m', addPaymentMethod uid primaryCard tokenId number cvc m = some m' ∧
      Agree (territory (.cards uid)) s' m' := by
  have hfirst := agree_setMerge h (owner_paymentMethodRef uid tokenId)
    [("id", .string tokenId), ("number", .string number), ("cvc", .string cvc)]
  cases primaryCard with
  | none =>
    cases hadd
    exact ⟨_, rfl, hfirst⟩
  | some primaryCard => exact agree_updateData hfirst (owner_paymentMethodRef uid primaryCard) hadd

theorem agree_setPrimaryPaymentMethod (oldCardId cardId : String) :
    Agree (territory (.cards uid)) (setPrimaryPaymentMethod uid oldCardId cardId s)
      (setPrimaryPaymentMethod uid oldCardId cardId m) := by
  refine agree_setMerge ?_ (owner_paymentMethodRef uid cardId) _
  cases hupdate : s.updateData (paymentMethodRef uid oldCardId) [("primary", .bool false)] with
  | none =>
    rw [updateData_eq_none h (owner_paymentMethodRef uid oldCardId) hupdate]
    exact h
  | some s' =>
    obtain ⟨m', hm', hagree⟩ := agree_updateData h (owner_paymentMethodRef uid oldCardId) hupdate
    rw [hm']
    exact hagree

omit h in
theorem agree_of_addPaymentMethod {primaryCard : Option String} {tokenId number cvc : String}
    {s' : Firestore} (hadd : addPaymentMethod uid primaryCard tokenId number cvc s = some s') :
    Agree (territory (.cards uid))ᶜ s s' := by
  have hfirst : Agree (territory (.cards uid))ᶜ s (s.setMerge (paymentMethodRef uid tokenId)
      [("id", .string tokenId), ("number", .string number), ("cvc", .string cvc)]) :=
    agree_of_insert (owner_paymentMethodRef uid tokenId) s _
  cases primaryCard with
  | none =>
    cases hadd
    exact hfirst
  | some primaryCard =>
    exact hfirst.trans (agree_of_updateData (owner_paymentMethodRef uid primaryCard) hadd)

omit h in
theorem agree_of_setPrimaryPaymentMethod (oldCardId cardId : String) :
    Agree (territory (.cards uid))ᶜ s (setPrimaryPaymentMethod uid oldCardId cardId s) := by
  refine Agree.trans ?_ (agree_of_insert (owner_paymentMethodRef uid cardId) _ _)
  cases hupdate : s.updateData (paymentMethodRef uid oldCardId) [("primary", .bool false)] with
  | none => exact Agree.refl _ _
  | some s' => exact agree_of_updateData (owner_paymentMethodRef uid oldCardId) hupdate

end

def cardsFootprint (uid : String) : Footprint (cardsComponent uid) where
  reads := territory (.cards uid)
  writes := territory (.cards uid)
  Inv _ := True
  writes_subset := subset_rfl
  inv_withStore _ _ _ := trivial
  inv_step _ _ _ _ _ := trivial
  frame := by
    intro (s : PaymentsState) e (s' : PaymentsState) _ h
    change Agree _ s.store s'.store
    cases e with
    | openList _ | loadCards | loaded | goToAddNewPaymentVC =>
      cases h
      exact Agree.refl _ _
    | cellForRow row =>
      obtain ⟨list, -, rfl⟩ := Option.map_eq_some_iff.mp h
      exact Agree.refl _ _
    | didSelectRow row =>
      simp only [cardsComponent, paymentsStep] at h
      repeat' split at h
      all_goals cases h
      · exact Agree.refl _ _
      · exact agree_of_setPrimaryPaymentMethod _ _
    | addPaymentMethod tokenId number cvc =>
      obtain ⟨primaryCard, -, h⟩ := Option.bind_eq_some_iff.mp h
      obtain ⟨store, hadd, rfl⟩ := Option.map_eq_some_iff.mp h
      exact agree_of_addPaymentMethod hadd
    | updatePaymentMethod cardId month year =>
      obtain ⟨store, hupdate, rfl⟩ := Option.map_eq_some_iff.mp h
      exact agree_of_updateData (owner_paymentMethodRef uid cardId) hupdate
    | removePaymentMethod row =>
      obtain ⟨card, -, rfl⟩ := Option.map_eq_some_iff.mp h
      exact agree_of_erase (owner_paymentMethodRef uid card.id) s.store
    | removed k =>
      obtain ⟨row, -, h⟩ := Option.bind_eq_some_iff.mp h
      split at h <;> cases h
      exact Agree.refl _ _
  congr := by
    intro (s : PaymentsState) e (s' : PaymentsState) m _ h hagree
    change Agree _ s.store m at hagree
    cases e with
    | openList _ | loadCards | goToAddNewPaymentVC =>
      cases h
      exact ⟨m, rfl, hagree⟩
    | loaded =>
      cases h
      refine ⟨m, ?_, hagree⟩
      show paymentsStep uid { s with store := m } .loaded = _
      rw [paymentsStep, fetchPaymentMethods_of_agree hagree]
      rfl
    | cellForRow row =>
      obtain ⟨list, hlist, rfl⟩ := Option.map_eq_some_iff.mp h
      exact ⟨m, Option.map_eq_some_iff.mpr ⟨list, hlist, rfl⟩, hagree⟩
    | didSelectRow row =>
      simp only [cardsComponent, paymentsStep] at h ⊢
      split at h
      · cases h
      · split at h
        · cases h
          exact ⟨m, rfl, hagree⟩
        · split at h
          · cases h
          · cases h
            exact ⟨_, rfl, agree_setPrimaryPaymentMethod hagree _ _⟩
    | addPaymentMethod tokenId number cvc =>
      obtain ⟨primaryCard, hadding, h⟩ := Option.bind_eq_some_iff.mp h
      obtain ⟨store, hadd, rfl⟩ := Option.map_eq_some_iff.mp h
      obtain ⟨m', hm', hagree'⟩ := agree_addPaymentMethod hagree hadd
      refine ⟨m', ?_, hagree'⟩
      exact Option.bind_eq_some_iff.mpr
        ⟨primaryCard, hadding, Option.map_eq_some_iff.mpr ⟨m', hm', rfl⟩⟩
    | updatePaymentMethod cardId month year =>
      obtain ⟨store, hupdate, rfl⟩ := Option.map_eq_some_iff.mp h
      obtain ⟨m', hm', hagree'⟩ :=
        agree_updateData hagree (owner_paymentMethodRef uid cardId) hupdate
      exact ⟨m', Option.map_eq_some_iff.mpr ⟨m', hm', rfl⟩, hagree'⟩
    | removePaymentMethod row =>
      obtain ⟨card, hcard, rfl⟩ := Option.map_eq_some_iff.mp h
      exact ⟨_, Option.map_eq_some_iff.mpr ⟨card, hcard, rfl⟩, hagree.erase _⟩
    | removed k =>
      obtain ⟨row, hrow, h⟩ := Option.bind_eq_some_iff.mp h
      split at h
      · rename_i hlt
        cases h
        exact ⟨m, Option.bind_eq_some_iff.mpr ⟨row, hrow, if_pos hlt⟩, hagree⟩
      · cases h

/-! ## The setup at Stripe -/

section
variable (api : StripeSetup) (uid : String) (email : Option String)

def setupComponent : Component Path Doc where
  State := SetupState
  Event := SetupEvent
  step := setupStep api uid email
  store := SetupState.store
  withStore s m := { s with store := m }
  store_withStore _ _ := rfl
  withStore_store _ := rfl
  withStore_withStore _ _ _ := rfl

variable {api uid email}

/-- A call that takes effect takes the same over stores that agree on the setup. -/
theorem effect_of_agree (api : StripeSetup) (email : Option String) {s : SetupState}
    {m : Firestore} (h : Agree (territory (.setup uid)) s.store m) (run : SetupRun) :
    ∃ m', run.effect api uid email { s with store := m } =
        { run.effect api uid email s with store := m' } ∧
      Agree (territory (.setup uid)) (run.effect api uid email s).store m' := by
  cases run with
  | createCustomer | createIntent _ | retrieve _ _ | createMethodIntent _ _ => exact ⟨m, rfl, h⟩
  | set customer intent => exact ⟨_, rfl, h.insert _ _⟩
  | setMethod pushId paymentMethod => exact ⟨_, rfl, h.insert _ _⟩
  | merge pushId intent =>
    exact ⟨_, rfl, agree_setMerge h (owner_stripeCustomerRef uid) _⟩
  | mergeError pushId error =>
    exact ⟨_, rfl, agree_setMerge h (owner_stripePaymentMethodRef uid pushId) _⟩

theorem agree_of_effect (s : SetupState) (run : SetupRun) :
    Agree (territory (.setup uid))ᶜ s.store (run.effect api uid email s).store := by
  cases run with
  | createCustomer | createIntent _ | retrieve _ _ | createMethodIntent _ _ => exact Agree.refl _ _
  | set customer intent => exact agree_of_insert (owner_stripeCustomerRef uid) s.store _
  | merge pushId intent => exact agree_of_insert (owner_stripeCustomerRef uid) s.store _
  | setMethod pushId paymentMethod =>
    exact agree_of_insert (owner_stripePaymentMethodRef uid pushId) s.store _
  | mergeError pushId error =>
    exact agree_of_insert (owner_stripePaymentMethodRef uid pushId) s.store _

theorem store_goOn (s : SetupState) (n : ℕ) (run : Option SetupRun) :
    (s.goOn n run).store = s.store := by
  cases run <;> rfl

theorem goOn_withStore (s : SetupState) (m : Firestore) (n : ℕ) (run : Option SetupRun) :
    ({ s with store := m } : SetupState).goOn n run = { s.goOn n run with store := m } := by
  cases run <;> rfl

theorem next_withStore (s : SetupState) (m : Firestore) (answer : List (String × Value))
    (run : SetupRun) : run.next { s with store := m } answer = run.next s answer := by
  cases run <;> rfl

variable (api uid email)

def setupFootprint : Footprint (setupComponent api uid email) where
  reads := territory (.setup uid)
  writes := territory (.setup uid)
  Inv _ := True
  writes_subset := subset_rfl
  inv_withStore _ _ _ := trivial
  inv_step _ _ _ _ _ := trivial
  frame := by
    intro (s : SetupState) e (s' : SetupState) _ h
    change Agree _ s.store s'.store
    cases e with
    | deliverUser | deliverMethod _ _ =>
      cases h
      exact Agree.refl _ _
    | proceed n outcome =>
      obtain ⟨run, -, rfl⟩ := Option.map_eq_some_iff.mp h
      cases outcome with
      | done answer =>
        rw [proceedSetup, store_goOn]
        exact agree_of_effect s run
      | failed landed error =>
        rw [proceedSetup, store_goOn]
        cases landed
        · exact Agree.refl _ _
        · exact agree_of_effect s run
  congr := by
    intro (s : SetupState) e (s' : SetupState) m _ h hagree
    change Agree _ s.store m at hagree
    cases e with
    | deliverUser | deliverMethod _ _ =>
      cases h
      exact ⟨m, rfl, hagree⟩
    | proceed n outcome =>
      obtain ⟨run, hrun, rfl⟩ := Option.map_eq_some_iff.mp h
      obtain ⟨m', heffect, hagree'⟩ := effect_of_agree api email hagree run
      cases outcome with
      | done answer =>
        refine ⟨m', Option.map_eq_some_iff.mpr ⟨run, hrun, ?_⟩, ?_⟩
        · show proceedSetup api uid email { s with store := m } n run (.done answer) = _
          rw [proceedSetup, heffect, next_withStore]
          exact goOn_withStore { run.effect api uid email s with
            completed := s.completed || run.isSet } m' n _
        · show Agree _ (proceedSetup api uid email s n run (.done answer)).store m'
          rw [proceedSetup, store_goOn]
          exact hagree'
      | failed landed error =>
        cases landed with
        | false =>
          refine ⟨m, Option.map_eq_some_iff.mpr ⟨run, hrun, ?_⟩, ?_⟩
          · exact goOn_withStore s m n _
          · show Agree _ (proceedSetup api uid email s n run (.failed false error)).store m
            rw [proceedSetup, store_goOn]
            exact hagree
        | true =>
          refine ⟨m', Option.map_eq_some_iff.mpr ⟨run, hrun, ?_⟩, ?_⟩
          · show proceedSetup api uid email { s with store := m } n run (.failed true error) = _
            rw [proceedSetup, if_pos rfl, heffect]
            exact goOn_withStore (run.effect api uid email s) m' n _
          · show Agree _ (proceedSetup api uid email s n run (.failed true error)).store m'
            rw [proceedSetup, store_goOn, if_pos rfl]
            exact hagree'

end

/-! ## The bag -/

section
variable {uid : String}

/-- A call that completes over one store completes over the other, with the same writes. -/
theorem completed_of_agree {c : AddCall} {s m store : Firestore}
    (h : Agree (territory (.bag uid)) s m) (hadd : addItemToOrder uid c s = .completed store) :
    ∃ m', addItemToOrder uid c m = .completed m' ∧ Agree (territory (.bag uid)) store m' := by
  unfold addItemToOrder at hadd ⊢
  simp only [h _ (owner_orderRef uid c.orderId), h _ (owner_itemRef uid c.orderId c.item.id)]
  split at hadd
  · cases hadd
  · simp only at hadd ⊢
    split at hadd
    · cases hadd
    · rename_i ws hws
      cases hadd
      refine ⟨_, rfl, h.applyWrites fun w hw => ?_⟩
      obtain ⟨dw, hdw, rfl⟩ := List.mem_map.mp hw
      rcases (key_of_addItemBlock hws dw hdw).1 with hkey | hkey
      · exact hkey ▸ owner_orderRef uid c.orderId
      · exact hkey ▸ owner_itemRef uid c.orderId c.item.id

theorem trapped_of_agree {c : AddCall} {s m : Firestore} (h : Agree (territory (.bag uid)) s m)
    (hadd : addItemToOrder uid c s = .trapped) : addItemToOrder uid c m = .trapped := by
  unfold addItemToOrder at hadd ⊢
  simp only [h _ (owner_orderRef uid c.orderId), h _ (owner_itemRef uid c.orderId c.item.id)]
  split at hadd
  · cases hadd
  · simp only at hadd ⊢
    split at hadd
    · rfl
    · cases hadd

variable {D : Type} {orderId : String}

/-- What a `clearOrder` has still to delete are documents of the bag. -/
def ClearsOwn (uid : String) (s : BagState D orderId) : Prop :=
  ∀ n d items, s.ops.running n = some (d, .clearing (some items)) →
    ∀ p ∈ items, p ∈ territory (.bag uid)

/-- A reply leaves no clear with anything else to delete. -/
theorem clearsOwn_put {s s' : BagState D orderId} (h : ClearsOwn uid s) {n : ℕ} {d d' : D}
    {op op' : BagOp orderId} (hrun : s.ops.running n = some (d, op))
    (hops : s'.ops = s.ops.put n (d', op'))
    (hitems : ∀ items, op' = .clearing (some items) → ∀ p ∈ items, p ∈ territory (.bag uid)) :
    ClearsOwn uid s' := by
  intro m d'' items hm
  rw [hops] at hm
  rcases InFlight.put_cases hrun hm with ⟨-, hsame⟩ | ⟨-, hm⟩
  · exact hitems items (Prod.mk.inj hsame).2.symm
  · exact h m d'' items hm

theorem clearsOwn_finish {s s' : BagState D orderId} (h : ClearsOwn uid s) {n : ℕ}
    (hops : s'.ops = s.ops.finish n) : ClearsOwn uid s' := by
  intro m d items hm
  rw [hops] at hm
  exact h m d items (InFlight.finish_cases hm).2

theorem clearsOwn_step {s s' : BagState D orderId} {e : BagEvent D} (h : ClearsOwn uid s)
    (hstep : bagStep uid s e = some s') : ClearsOwn uid s' := by
  rcases bagStep_cases hstep with ⟨d, c, -, rfl | ⟨op, rfl, hfirst⟩⟩ |
    ⟨n, r, d, op, -, hrun, hmoved⟩ | ⟨k, -, rfl⟩
  · exact h
  · -- a clear that has just started knows of no items yet
    intro m d' items hm
    rcases InFlight.start_cases hm with ⟨-, hsame⟩ | hm
    · obtain rfl := (Prod.mk.inj hsame).2
      exact hfirst.elim
    · exact h m d' items hm
  · cases hmoved with
    | ended answers hcommit hwritten hclear => exact clearsOwn_finish h rfl
    | committed hadd => exact clearsOwn_finish h rfl
    | queried =>
      refine clearsOwn_put h hrun rfl fun items hitems p hp => ?_
      obtain rfl := Option.some.inj (BagOp.clearing.inj hitems)
      obtain ⟨id, rfl⟩ := Firestore.inCollection_iff.mp (Firestore.mem_documents.mp hp).1
      exact owner_itemRef uid orderId id
    | deletedItem item rest ok =>
      refine clearsOwn_put h hrun rfl fun items hitems p hp => ?_
      obtain rfl := Option.some.inj (BagOp.clearing.inj hitems)
      exact h n d _ hrun p (List.mem_cons_of_mem _ hp)
    | deletedOrder ok => exact clearsOwn_finish h rfl
    | read created hread => exact clearsOwn_put h hrun rfl nofun
    | token hnew => exact clearsOwn_put h hrun rfl nofun
    | paid c token created covers => exact clearsOwn_finish h rfl
  · exact h

theorem agree_of_delete {s : BagState D orderId} {p : Path} (hp : p ∈ territory (.bag uid))
    (ok : Bool) : Agree (territory (.bag uid))ᶜ s.store (s.delete p ok).store := by
  cases ok
  · exact Agree.refl _ _
  · exact agree_of_erase hp s.store

theorem agree_delete {s : BagState D orderId} {m : Firestore}
    (h : Agree (territory (.bag uid)) s.store m) (p : Path) (ok : Bool) :
    ∃ m', ({ s with store := m } : BagState D orderId).delete p ok =
        { s.delete p ok with store := m' } ∧
      Agree (territory (.bag uid)) (s.delete p ok).store m' := by
  cases ok
  · exact ⟨m, rfl, h⟩
  · exact ⟨m.erase p, rfl, h.erase p⟩

theorem bag_frame {s s' : BagState D orderId} {e : BagEvent D} (h : ClearsOwn uid s)
    (hstep : bagStep uid s e = some s') : Agree (territory (.bag uid))ᶜ s.store s'.store := by
  rcases bagStep_cases hstep with ⟨d, c, -, rfl | ⟨op, rfl, -⟩⟩ |
    ⟨n, r, d, op, -, hrun, hmoved⟩ | ⟨k, -, rfl⟩
  · exact Agree.refl _ _
  · exact Agree.refl _ _
  · cases hmoved with
    | ended _ _ _ _ | queried | read _ _ | token _ => exact Agree.refl _ _
    | @committed c ho store hadd =>
      intro p hp
      refine lookup_of_completed_off hadd ?_ ?_
      · rintro rfl
        exact hp (owner_orderRef uid c.orderId)
      · rintro rfl
        exact hp (owner_itemRef uid c.orderId c.item.id)
    | deletedItem item rest ok =>
      exact agree_of_delete (h n d _ hrun item List.mem_cons_self) ok
    | deletedOrder ok => exact agree_of_delete (owner_orderRef uid orderId) ok
    | paid c token created covers => exact agree_of_insert (owner_paymentRef uid token) s.store _
  · exact Agree.refl _ _

/-- A reply does the same over stores that agree on the bag. -/
theorem proceed_of_agree {s s' : BagState D orderId} {m : Firestore}
    (h : Agree (territory (.bag uid)) s.store m) {n : ℕ} {d : D} {op : BagOp orderId} {r : Reply}
    (hproceed : proceed uid s n d op r = some s') :
    ∃ m', proceed uid { s with store := m } n d op r = some { s' with store := m' } ∧
      Agree (territory (.bag uid)) s'.store m' := by
  have horder := h _ (owner_orderRef uid orderId)
  unfold proceed at hproceed
  split at hproceed
  · split at hproceed
    · rename_i store hadd
      cases hproceed
      obtain ⟨m', hm', hagree⟩ := completed_of_agree h hadd
      refine ⟨m', ?_, hagree⟩
      simp only [proceed, hm', horder]
      rfl
    · cases hproceed
  · split at hproceed
    · rename_i hadd
      cases hproceed
      refine ⟨m, ?_, h⟩
      simp only [proceed, trapped_of_agree h hadd]
      rfl
    · cases hproceed
  · cases hproceed
    exact ⟨m, rfl, h⟩
  · cases hproceed
    refine ⟨m, ?_, h⟩
    simp only [proceed, documents_of_agree h (owner_itemRef uid orderId)]
    rfl
  · cases hproceed
    exact ⟨m, rfl, h⟩
  · rename_i item items ok
    cases hproceed
    obtain ⟨m', hdelete, hagree⟩ := agree_delete h item ok
    refine ⟨m', ?_, hagree⟩
    simp only [proceed, hdelete]
    rfl
  · rename_i ok
    cases hproceed
    obtain ⟨m', hdelete, hagree⟩ := agree_delete h (orderRef uid orderId) ok
    refine ⟨m', ?_, hagree⟩
    simp only [proceed, BagState.deleteOrder, hdelete]
    rfl
  · -- the answer to the read: silence, a trap or a charge
    simp only [proceed, horder]
    split at hproceed
    · cases hproceed
      exact ⟨m, rfl, h⟩
    · cases hproceed
      exact ⟨m, rfl, h⟩
    · cases hproceed
      exact ⟨m, rfl, h⟩
  · cases hproceed
    exact ⟨m, rfl, h⟩
  · cases hproceed
    exact ⟨m, rfl, h⟩
  · split at hproceed
    · cases hproceed
    · rename_i hnew
      cases hproceed
      exact ⟨m, if_neg hnew, h⟩
  · rename_i c token created covers
    cases hproceed
    exact ⟨_, rfl, agree_setMerge h (owner_paymentRef uid token) _⟩
  · cases hproceed
    exact ⟨m, rfl, h⟩
  · cases hproceed

/-- A call starts the same operation over any store. -/
theorem call_withStore {s s' : BagState D orderId} {d : D} {c : BagCall}
    (hcall : call s d c = some s') (m : Firestore) :
    call { s with store := m } d c = some { s' with store := m } ∧ s'.store = s.store := by
  unfold call at hcall ⊢
  repeat' split at hcall
  all_goals cases hcall
  · rename_i ho hguard
    simp only [dif_pos ho, if_pos hguard]
    exact ⟨rfl, rfl⟩
  · rename_i ho hguard
    simp only [dif_pos ho, if_neg hguard]
    exact ⟨trivial, trivial⟩
  · rename_i hid
    simp only [if_pos hid]
    exact ⟨rfl, rfl⟩
  · rename_i hid
    simp only [if_pos hid]
    exact ⟨rfl, rfl⟩

end

def bagComponent (D : Type) (uid orderId : String) : Component Path Doc where
  State := BagState D orderId
  Event := BagEvent D
  step := bagStep uid
  store := BagState.store
  withStore s m := { s with store := m }
  store_withStore _ _ := rfl
  withStore_store _ := rfl
  withStore_withStore _ _ _ := rfl

def bagFootprint (D : Type) (uid orderId : String) : Footprint (bagComponent D uid orderId) where
  reads := territory (.bag uid)
  writes := territory (.bag uid)
  Inv := ClearsOwn uid
  writes_subset := subset_rfl
  inv_withStore _ _ h := h
  inv_step _ _ _ h hstep := clearsOwn_step h hstep
  frame _ _ _ h hstep := bag_frame h hstep
  congr := by
    intro (s : BagState D orderId) e (s' : BagState D orderId) m _ h hagree
    change Agree _ s.store m at hagree
    cases e with
    | call d c =>
      obtain ⟨hcall, hstore⟩ := call_withStore h m
      refine ⟨m, hcall, ?_⟩
      show Agree _ s'.store m
      rw [hstore]
      exact hagree
    | reply n r =>
      obtain ⟨⟨d, op⟩, hrun, hproceed⟩ := Option.bind_eq_some_iff.mp h
      obtain ⟨m', hm', hagree'⟩ := proceed_of_agree hagree hproceed
      exact ⟨m', Option.bind_eq_some_iff.mpr ⟨(d, op), hrun, hm'⟩, hagree'⟩
    | handle k =>
      simp only [bagComponent, bagStep] at h ⊢
      split at h
      · rename_i hlt
        cases h
        exact ⟨m, if_pos hlt, hagree⟩
      · cases h

end Lidora
