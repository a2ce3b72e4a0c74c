import Lidora.OneShots
import Lidora.PaymentMethods

/-! # Saving a card, when it fails

`createStripePaymentMethod` has Stripe make a payment method, and `addPaymentMethod` then
writes its document and takes the flag from the primary card.  These are three calls, and
a failure of the last one is reported as one of the whole, with the new document in
place.  That call is an `updateData`, which fails whenever the primary card is gone.

Here both functions are modelled with the outcome of each call, where `PaymentMethods` has
them for calls that Firestore does not reject (`saved_iff` connects the two).  A reported
failure leaves the payment methods as they were exactly if the last call is not the one
that fails, or had nothing to add to (`unchangedOnFailure_iff`).
-/
namespace Lidora
open DocumentStore

/-- What a save reports, `none` being a trap, and the documents after it. -/
structure CardSave where
  completion : Option (Bool × Option NSError)
  store : Firestore

/-- The outcomes of the calls: Stripe's payment method, and the errors with which Firestore
rejects the two writes. -/
structure SaveOutcomes where
  method : Except NSError (Option String)
  setData : Option NSError
  updateData : Option NSError

/-- The first write of `addPaymentMethod`. -/
def writeMethod (uid tokenId number cvc : String) (s : Firestore) : Firestore :=
  s.setMerge (paymentMethodRef uid tokenId)
    [("id", .string tokenId), ("number", .string number), ("cvc", .string cvc)]

/-- `addPaymentMethod`, with what it calls its completion with. -/
def addPaymentMethodWith (o : SaveOutcomes) (uid : String) (primaryCard : Option String)
    (tokenId number cvc : String) (s : Firestore) : CardSave :=
  match o.setData with
  | some error => ⟨some (false, some error), s⟩
  | none =>
    let s := writeMethod uid tokenId number cvc s
    match primaryCard with
    | none => ⟨some (true, none), s⟩
    | some primaryCard =>
      match o.updateData with
      | some error => ⟨some (false, some error), s⟩
      | none =>
        match s.updateData (paymentMethodRef uid primaryCard) [("primary", .bool false)] with
        | none => ⟨some (false, some (.firestore .notFound)), s⟩
        | some s => ⟨some (true, none), s⟩

/-- `createStripePaymentMethod`: an error of `addPaymentMethod` is handed on. -/
def createStripePaymentMethodWith (o : SaveOutcomes) (uid : String) (primaryCard : Option String)
    (entry : CardEntry) (s : Firestore) : CardSave :=
  match o.method with
  | .error error => ⟨some (false, some error), s⟩
  | .ok none => ⟨none, s⟩
  | .ok (some id) =>
    let save := addPaymentMethodWith o uid primaryCard id entry.cardNumber entry.cvc s
    { save with
      completion := save.completion.map fun
        | (_, some error) => (false, some error)
        | (_, none) => (true, none) }

/-- No write is rejected. -/
def SaveOutcomes.accepted (method : String) : SaveOutcomes := ⟨.ok (some method), none, none⟩

/-- **Without rejected writes this is the save of `PaymentMethods`**: it succeeds there when
it reports success here, with the same documents. -/
theorem saved_iff (uid : String) (primaryCard : Option String) (entry : CardEntry) (id : String)
    (s s' : Firestore) :
    createStripePaymentMethod uid primaryCard entry (some id) s = some s' ↔
      createStripePaymentMethodWith (.accepted id) uid primaryCard entry s =
        ⟨some (true, none), s'⟩ := by
  simp only [createStripePaymentMethod, Option.bind_some, addPaymentMethod,
    createStripePaymentMethodWith, SaveOutcomes.accepted, addPaymentMethodWith, writeMethod]
  cases primaryCard with
  | none => simp
  | some primaryCard =>
    dsimp only
    split
    · rename_i hnone
      simp [hnone]
    · rename_i s₁ hsome
      simp [hsome]

/-- A reported failure leaves the stored payment methods, and with them their flags, as they
were. -/
def UnchangedOnFailure (uid : String) (s : Firestore) (save : CardSave) : Prop :=
  ∀ error, save.completion = some (false, error) →
    ∀ id, save.store.lookup (paymentMethodRef uid id) = s.lookup (paymentMethodRef uid id)

/-- The update of the primary card fails: it is rejected, or the card is gone. -/
def UpdateFails (o : SaveOutcomes) (uid tokenId primaryCard : String) (s : Firestore) : Prop :=
  o.updateData.isSome ∨
    primaryCard ≠ tokenId ∧ s.lookup (paymentMethodRef uid primaryCard) = none

/-- The document already holds what the first write would write. -/
def AlreadyWritten (uid tokenId number cvc : String) (s : Firestore) : Prop :=
  ∃ d, s.lookup (paymentMethodRef uid tokenId) = some d ∧ d "id" = some (.string tokenId) ∧
    d "number" = some (.string number) ∧ d "cvc" = some (.string cvc)

/-- Where Stripe has made a payment method, its document has been written and the update of
a primary card fails, there was nothing to write. -/
def NothingLeft (o : SaveOutcomes) (uid : String) (primaryCard : Option String)
    (entry : CardEntry) (s : Firestore) : Prop :=
  ∀ id, o.method = .ok (some id) → ∀ card ∈ primaryCard, o.setData = none →
    UpdateFails o uid id card s → AlreadyWritten uid id entry.cardNumber entry.cvc s

/-! ## The two writes -/

section
variable {o : SaveOutcomes} {uid tokenId number cvc : String} {primaryCard : Option String}
  {s : Firestore}

/-- The first write changes the payment methods, unless its fields are there already. -/
theorem writeMethod_unchanged_iff :
    (∀ id, (writeMethod uid tokenId number cvc s).lookup (paymentMethodRef uid id) =
        s.lookup (paymentMethodRef uid id)) ↔ AlreadyWritten uid tokenId number cvc s := by
  constructor
  · intro hsame
    have hwritten := (hsame tokenId).symm.trans (Finmap.lookup_insert s)
    exact ⟨_, hwritten, rfl, rfl, rfl⟩
  · rintro ⟨d, hd, hid, hnumber, hcvc⟩ id
    by_cases heq : paymentMethodRef uid id = paymentMethodRef uid tokenId
    · rw [heq, writeMethod, Firestore.setMerge, Finmap.lookup_insert, hd, Option.getD_some]
      refine congrArg some (funext fun k => ?_)
      by_cases hk : k = "id"
      · rw [hk, hid]
        rfl
      · by_cases hk' : k = "number"
        · rw [hk', hnumber]
          rfl
        · by_cases hk'' : k = "cvc"
          · rw [hk'', hcvc]
            rfl
          · simp [Doc.merge, List.lookup, beq_eq_false_iff_ne.mpr, hk, hk', hk'']
    · rw [writeMethod, Firestore.setMerge, Finmap.lookup_insert_of_ne _ heq]

/-- After the first write, the update of a card finds nothing exactly if the card is not the
new one and is gone. -/
theorem updateData_writeMethod (card : String) (fields : List (String × Value)) :
    (writeMethod uid tokenId number cvc s).updateData (paymentMethodRef uid card) fields = none ↔
      card ≠ tokenId ∧ s.lookup (paymentMethodRef uid card) = none := by
  rw [Firestore.updateData, Option.map_eq_none_iff, writeMethod, Firestore.setMerge]
  by_cases hcard : card = tokenId
  · subst hcard
    rw [Finmap.lookup_insert]
    exact iff_of_false (by simp) fun h => h.1 rfl
  · have hne : paymentMethodRef uid card ≠ paymentMethodRef uid tokenId := by
      simpa [paymentMethodRef] using hcard
    rw [Finmap.lookup_insert_of_ne _ hne]
    exact (and_iff_right hcard).symm

/-- How a save ends: the first write is rejected; it is made and the update fails; or there
is nothing to update, or the update succeeds. -/
theorem addPaymentMethodWith_cases (o : SaveOutcomes) (uid : String) (primaryCard : Option String)
    (tokenId number cvc : String) (s : Firestore) :
    (∃ error, o.setData = some error ∧
      addPaymentMethodWith o uid primaryCard tokenId number cvc s =
        ⟨some (false, some error), s⟩) ∨
    (o.setData = none ∧ (∃ card ∈ primaryCard, UpdateFails o uid tokenId card s) ∧
      ∃ error, addPaymentMethodWith o uid primaryCard tokenId number cvc s =
        ⟨some (false, some error), writeMethod uid tokenId number cvc s⟩) ∨
    (o.setData = none ∧ (∀ card ∈ primaryCard, ¬ UpdateFails o uid tokenId card s) ∧
      ∃ s', addPaymentMethodWith o uid primaryCard tokenId number cvc s =
        ⟨some (true, none), s'⟩) := by
  unfold addPaymentMethodWith
  cases hset : o.setData with
  | some error => exact Or.inl ⟨error, rfl, rfl⟩
  | none =>
    refine Or.inr ?_
    cases primaryCard with
    | none => exact Or.inr ⟨rfl, fun card hcard => absurd hcard (by simp), _, rfl⟩
    | some card =>
      cases hupdate : o.updateData with
      | some error =>
        refine Or.inl ⟨rfl, ⟨card, rfl, Or.inl ?_⟩, error, rfl⟩
        rw [hupdate]
        rfl
      | none =>
        dsimp only
        cases hfound : (writeMethod uid tokenId number cvc s).updateData
            (paymentMethodRef uid card) [("primary", .bool false)] with
        | none =>
          have hgone := (updateData_writeMethod card _).mp hfound
          exact Or.inl ⟨rfl, ⟨card, rfl, Or.inr hgone⟩, _, rfl⟩
        | some s' =>
          refine Or.inr ⟨rfl, fun card' hcard' hfails => ?_, s', rfl⟩
          cases hcard'
          rcases hfails with hrejected | hgone
          · rw [hupdate] at hrejected
            cases hrejected
          · rw [(updateData_writeMethod card _).mpr hgone] at hfound
            cases hfound

end

/-- **When a failure leaves nothing behind.**  For every state of the payment methods and
all outcomes of the three calls: a reported failure leaves the payment methods as they
were if and only if it is not the update of the primary card that fails, or there was
nothing to write before it. -/
theorem unchangedOnFailure_iff (o : SaveOutcomes) (uid : String) (primaryCard : Option String)
    (entry : CardEntry) (s : Firestore) :
    UnchangedOnFailure uid s (createStripePaymentMethodWith o uid primaryCard entry s) ↔
      NothingLeft o uid primaryCard entry s := by
  unfold createStripePaymentMethodWith NothingLeft
  cases hmethod : o.method with
  | error error =>
    refine iff_of_true (fun _ _ _ => rfl) fun id hid => ?_
    cases hid
  | ok method =>
    cases method with
    | none =>
      refine iff_of_true (fun _ hcompletion => ?_) fun id hid => ?_
      · cases hcompletion
      · cases hid
    | some id =>
      dsimp only
      rcases addPaymentMethodWith_cases o uid primaryCard id entry.cardNumber entry.cvc s with
        ⟨error, hset, hsave⟩ | ⟨hset, ⟨card, hcard, hfails⟩, error, hsave⟩ |
          ⟨hset, hsucceeds, s', hsave⟩
      · -- nothing has been written
        rw [hsave]
        refine iff_of_true (fun _ _ _ => rfl) fun id' _ card _ hnone => ?_
        rw [hset] at hnone
        cases hnone
      · -- the new document has been written
        rw [hsave]
        constructor
        · intro hunchanged id' hid' _ _ _ _
          cases hid'
          exact writeMethod_unchanged_iff.mp (hunchanged (some error) rfl)
        · intro hnothing _ _
          exact writeMethod_unchanged_iff.mpr (hnothing id rfl card hcard hset hfails)
      · rw [hsave]
        refine iff_of_true (fun _ hcompletion => ?_) fun id' hid' card hcard _ hfails => ?_
        · cases hcompletion
        · cases hid'
          exact absurd hfails (hsucceeds card hcard)

/-! ## The primary card is gone -/

/-- **A failure that saves the card.**  The primary card has been removed meanwhile; the save
reports a failure, and so does the retry, and afterwards the card is stored twice. -/
theorem saved_twice :
    let first := createStripePaymentMethodWith (.accepted "pm1") "uid" (some "gone") sampleEntry ∅
    let retry := createStripePaymentMethodWith (.accepted "pm2") "uid" (some "gone") sampleEntry
      first.store
    first.completion = some (false, some (.firestore .notFound)) ∧
      retry.completion = some (false, some (.firestore .notFound)) ∧
      (retry.store.lookup (paymentMethodRef "uid" "pm1")).isSome ∧
      (retry.store.lookup (paymentMethodRef "uid" "pm2")).isSome ∧
      ¬ UnchangedOnFailure "uid" ∅ first := by
  refine ⟨by decide +kernel, by decide +kernel, by decide +kernel, by decide +kernel, ?_⟩
  intro hunchanged
  have hsame := congrArg Option.isSome
    (hunchanged (some (.firestore .notFound)) (by decide +kernel) "pm1")
  exact absurd hsame (by decide +kernel)

end Lidora
