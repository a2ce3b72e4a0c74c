import Lidora.Records
import Lidora.StripeFunctions

/-! # Payment methods

A payment method has one document, which the client creates when a card has been
entered and which the backend's `addPaymentMethodDetails` overwrites with Stripe's own
object.  `Card(id:data:)` decodes it, all or nothing, from seven keys at its top level.

The client writes three keys, `id`, `number` and `cvc`, and later no more than `month`,
`year` and `primary`; Stripe's object has its details one level down and never the number.
So neither writer leaves a document that decodes (`entered_card_never_decodes`).
-/
namespace Lidora
open DocumentStore

/-- `RefPaymentsMethods.document(id)`. -/
def paymentMethodRef (uid id : String) : Path := refPaymentsMethods uid ++ [id]

/-! ## The client -/

/-- `addPaymentMethod`, when no write is rejected: the store after it, if it reports
success.  The second write is an update and fails where there is nothing to update. -/
def addPaymentMethod (uid : String) (primaryCard : Option String) (tokenId number cvc : String)
    (s : Firestore) : Option Firestore :=
  let s := s.setMerge (paymentMethodRef uid tokenId)
    [("id", .string tokenId), ("number", .string number), ("cvc", .string cvc)]
  match primaryCard with
  | none => some s
  | some primaryCard => s.updateData (paymentMethodRef uid primaryCard) [("primary", .bool false)]

/-- A card as it is entered. -/
structure CardEntry where
  cardNumber : String
  month : ℕ
  year : ℕ
  cvc : String
  deriving DecidableEq

/-- `createStripePaymentMethod`, where `method` is the id of the payment method that Stripe
has made of the card, or its refusal. -/
def createStripePaymentMethod (uid : String) (primaryCard : Option String) (entry : CardEntry)
    (method : Option String) (s : Firestore) : Option Firestore :=
  method.bind fun id => addPaymentMethod uid primaryCard id entry.cardNumber entry.cvc s

/-- `updatePaymentMethod`. -/
def updatePaymentMethod (uid cardId : String) (month year : ℕ) (s : Firestore) :
    Option Firestore :=
  s.updateData (paymentMethodRef uid cardId) [("month", .int month), ("year", .int year)]

/-- `setPrimaryPaymentMethod`, which looks at the outcome of neither write. -/
def setPrimaryPaymentMethod (uid oldCardId cardId : String) (s : Firestore) : Firestore :=
  let s := (s.updateData (paymentMethodRef uid oldCardId) [("primary", .bool false)]).getD s
  s.setMerge (paymentMethodRef uid cardId) [("primary", .bool true)]

/-- `fetchPaymentMethods`: the cards of the collection, in the order of their ids. -/
def fetchPaymentMethods (uid : String) (s : Firestore) : List Card :=
  (s.documents (refPaymentsMethods uid)).map fun p =>
    Card.init (p.getLastD "") ((s.lookup p).getD Doc.empty)

/-- `removePaymentMethod`. -/
def removePaymentMethod (uid id : String) (s : Firestore) : Firestore :=
  s.erase (paymentMethodRef uid id)

/-! ## The backend -/

/-- `addPaymentMethodDetails` on the document that was created at `ref`, with `snap` for its
data.  `retrieve` is `stripe.paymentMethods.retrieve`, which answers with the fields of a
payment method, and `createSetupIntent` is `stripe.setupIntents.create`, which answers
with a client secret. -/
def addPaymentMethodDetails (retrieve : Option Value → Except JsError (List (String × Value)))
    (createSetupIntent : Option Value → Except JsError String) (ref : Path) (snap : Doc)
    (s : Firestore) : Firestore :=
  match retrieve (snap "id") with
  | .error error => s.setMerge ref [("error", .string (userFacingMessage error))]
  | .ok paymentMethod =>
    let s := s.setData ref paymentMethod
    match createSetupIntent (paymentMethod.lookup "customer") with
    | .error error => s.setMerge ref [("error", .string (userFacingMessage error))]
    | .ok secret => s.setMerge ref.dropLast.dropLast [("setup_secret", .string secret)]

/-- The trigger sees no payment method of the client, which are kept under `customers`.
What follows is about a trigger that did. -/
theorem paymentMethodRef_unmatched (uid id : String) :
    pathParams addPaymentMethodDetailsPattern (paymentMethodRef uid id) = none := by
  rw [Option.eq_none_iff_forall_not_mem]
  intro params hparams
  have hhead := pathParams_literal hparams
  simp [paymentMethodRef, refPaymentsMethods, refCurrentUser] at hhead

/-! ## Fields of stored documents -/

/-- A field of a stored document. -/
def fieldAt (s : Firestore) (p : Path) (k : String) : Option Value :=
  (s.lookup p).bind fun d => d k

/-- A merge changes the fields that it writes, and no other. -/
theorem fieldAt_setMerge (s : Firestore) (p q : Path) {fields : List (String × Value)}
    {k : String} (hk : fields.lookup k = none) :
    fieldAt (s.setMerge p fields) q k = fieldAt s q k := by
  by_cases hq : q = p
  · subst hq
    rw [fieldAt, Firestore.setMerge, Finmap.lookup_insert, Option.bind_some, Doc.merge, hk, fieldAt]
    cases s.lookup q <;> rfl
  · rw [fieldAt, Firestore.setMerge, Finmap.lookup_insert_of_ne _ hq, fieldAt]

theorem fieldAt_updateData {s s' : Firestore} {p : Path} {fields : List (String × Value)}
    (h : s.updateData p fields = some s') (q : Path) {k : String} (hk : fields.lookup k = none) :
    fieldAt s' q k = fieldAt s q k := by
  obtain ⟨d, hd, rfl⟩ := Option.map_eq_some_iff.mp h
  by_cases hq : q = p
  · subst hq
    rw [fieldAt, Finmap.lookup_insert, Option.bind_some, Doc.merge, hk, fieldAt, hd]
    rfl
  · rw [fieldAt, Finmap.lookup_insert_of_ne _ hq, fieldAt]

/-- An update either leaves a field or writes it. -/
theorem fieldAt_updateData_or {s s' : Firestore} {p : Path} {fields : List (String × Value)}
    (h : s.updateData p fields = some s') (q : Path) (k : String) :
    fieldAt s' q k = fieldAt s q k ∨ fieldAt s' q k = fields.lookup k := by
  cases hk : fields.lookup k with
  | none => exact Or.inl (fieldAt_updateData h q hk)
  | some v =>
    obtain ⟨d, hd, rfl⟩ := Option.map_eq_some_iff.mp h
    by_cases hq : q = p
    · subst hq
      rw [fieldAt, Finmap.lookup_insert, Option.bind_some, Doc.merge, hk]
      exact Or.inr rfl
    · rw [fieldAt, Finmap.lookup_insert_of_ne _ hq, fieldAt]
      exact Or.inl rfl

theorem fieldAt_erase (s : Firestore) (p q : Path) (k : String) :
    fieldAt (s.erase p) q k = fieldAt s q k ∨ fieldAt (s.erase p) q k = none := by
  by_cases hq : q = p
  · subst hq
    rw [fieldAt, Finmap.lookup_erase]
    exact Or.inr rfl
  · rw [fieldAt, Finmap.lookup_erase_ne hq, fieldAt]
    exact Or.inl rfl

/-- `addPaymentMethod` writes four keys. -/
theorem fieldAt_addPaymentMethod {uid tokenId number cvc : String} {primaryCard : Option String}
    {s s' : Firestore} (h : addPaymentMethod uid primaryCard tokenId number cvc s = some s')
    (p : Path) {k : String} (hk : k ∉ ["id", "number", "cvc", "primary"]) :
    fieldAt s' p k = fieldAt s p k := by
  simp only [List.mem_cons, List.not_mem_nil, or_false, not_or] at hk
  obtain ⟨hid, hnumber, hcvc, hprimary⟩ := hk
  have hfirst : fieldAt (s.setMerge (paymentMethodRef uid tokenId) [("id", .string tokenId),
      ("number", .string number), ("cvc", .string cvc)]) p k = fieldAt s p k :=
    fieldAt_setMerge s _ p (by simp [List.lookup, beq_eq_false_iff_ne.mpr, *])
  unfold addPaymentMethod at h
  split at h
  · cases h
    exact hfirst
  · rw [fieldAt_updateData h p (by simp [List.lookup, beq_eq_false_iff_ne.mpr, *]), hfirst]

/-! ## Decoding what was entered -/

/-- The card has every field set, and the entered ones as they were entered. -/
structure Card.IsEntered (card : Card) (entry : CardEntry) : Prop where
  cardNumber : card.cardNumber = some entry.cardNumber
  cvc : card.cvc = some entry.cvc
  month : card.month = some entry.month
  year : card.year = some entry.year
  last4 : card.last4.isSome
  brand : card.brand.isSome
  primary : card.primary.isSome

/-- The stored document of the payment method decodes to the entered card. -/
def DecodesAsEntered (uid id : String) (entry : CardEntry) (s : Firestore) : Prop :=
  ∃ d, s.lookup (paymentMethodRef uid id) = some d ∧ (Card.init id d).IsEntered entry

/-- A card with a number has been decoded from a document with a brand and a number. -/
theorem Card.keys_of_init {id : String} {d : Doc} (h : (Card.init id d).cardNumber.isSome) :
    (d "brand").isSome ∧ (d "number").isSome := by
  unfold Card.init at h
  split at h
  · rename_i hbrand _ _ _ hnumber _ _ _
    obtain ⟨v, hv, -⟩ := Option.bind_eq_some_iff.mp hbrand
    obtain ⟨w, hw, -⟩ := Option.bind_eq_some_iff.mp hnumber
    rw [hv, hw]
    exact ⟨rfl, rfl⟩
  · cases h

theorem DecodesAsEntered.keys {uid id : String} {entry : CardEntry} {s : Firestore}
    (h : DecodesAsEntered uid id entry s) :
    (fieldAt s (paymentMethodRef uid id) "brand").isSome ∧
      (fieldAt s (paymentMethodRef uid id) "number").isSome := by
  obtain ⟨d, hd, hentered⟩ := h
  have hkeys := @Card.keys_of_init id d (by rw [hentered.cardNumber]; rfl)
  rw [fieldAt, fieldAt, hd]
  exact hkeys

/-- **An entered card never decodes.**  For every card that is stored with success under a
new payment method's id, the document decodes to no card as it was entered, neither as
the client has written it nor once the backend has been at it, provided that Stripe's
object has no `number` of its own. -/
theorem entered_card_never_decodes (uid : String) (primaryCard : Option String)
    (entry : CardEntry) (id : String) (s s' : Firestore)
    (hnew : s.lookup (paymentMethodRef uid id) = none)
    (h : createStripePaymentMethod uid primaryCard entry (some id) s = some s')
    (retrieve : Option Value → Except JsError (List (String × Value)))
    (createSetupIntent : Option Value → Except JsError String)
    (hnumber : ∀ i fields, retrieve i = .ok fields → fields.lookup "number" = none) :
    ¬ DecodesAsEntered uid id entry s' ∧
      ∀ snap, s'.lookup (paymentMethodRef uid id) = some snap →
        ¬ DecodesAsEntered uid id entry (addPaymentMethodDetails retrieve createSetupIntent
          (paymentMethodRef uid id) snap s') := by
  have hbrand : fieldAt s' (paymentMethodRef uid id) "brand" = none := by
    rw [fieldAt_addPaymentMethod h _ (by decide), fieldAt, hnew]
    rfl
  constructor
  · intro hdecodes
    have hsome := hdecodes.keys.1
    rw [hbrand] at hsome
    cases hsome
  · intro snap _ hdecodes
    obtain ⟨hsomeBrand, hsomeNumber⟩ := hdecodes.keys
    unfold addPaymentMethodDetails at hsomeBrand hsomeNumber
    cases hretrieve : retrieve (snap "id") with
    | error error =>
      -- the client's document stays, with an error added
      simp only [hretrieve] at hsomeBrand
      rw [fieldAt_setMerge _ _ _ rfl, hbrand] at hsomeBrand
      cases hsomeBrand
    | ok paymentMethod =>
      -- Stripe's object takes its place
      have hset : fieldAt (s'.setData (paymentMethodRef uid id) paymentMethod)
          (paymentMethodRef uid id) "number" = none := by
        rw [fieldAt, Firestore.setData, Finmap.lookup_insert, Option.bind_some, Doc.ofFields]
        exact hnumber _ _ hretrieve
      simp only [hretrieve] at hsomeNumber
      split at hsomeNumber <;>
      · rw [fieldAt_setMerge _ _ _ rfl, hset] at hsomeNumber
        cases hsomeNumber

/-! ## A card entered by a new customer -/

/-- A payment method as Stripe answers with it. -/
def stripePaymentMethod (id : Option Value) : List (String × Value) :=
  [("id", id.getD .null), ("object", .string "payment_method"),
    ("card", .map [("brand", .string "visa"), ("exp_month", .int 1), ("exp_year", .int 2030),
      ("last4", .string "4242")]),
    ("customer", .null), ("livemode", .bool false), ("type", .string "card")]

def sampleEntry : CardEntry := ⟨"4242 4242 4242 4242", 1, 30, "123"⟩

theorem entered_card_never_decodes_sample : ∃ s',
    createStripePaymentMethod "uid" none sampleEntry (some "pm") ∅ = some s' ∧
    (¬ DecodesAsEntered "uid" "pm" sampleEntry s' ∧
      ∀ snap, s'.lookup (paymentMethodRef "uid" "pm") = some snap →
        ¬ DecodesAsEntered "uid" "pm" sampleEntry
          (addPaymentMethodDetails (fun id => .ok (stripePaymentMethod id)) (fun _ => .ok "secret")
            (paymentMethodRef "uid" "pm") snap s')) :=
  ⟨_, rfl, entered_card_never_decodes "uid" none sampleEntry "pm" ∅ _ (Finmap.lookup_empty _) rfl
    _ _ fun i fields h => by cases h; rfl⟩

/-- **A card that is entered and cannot be charged.**  The document that the client has
stored decodes to a card with nothing but an id, and so does Stripe's. -/
theorem stored_card_is_blank : ∃ s' snap,
    createStripePaymentMethod "uid" none sampleEntry (some "pm") ∅ = some s' ∧
    s'.lookup (paymentMethodRef "uid" "pm") = some snap ∧
    Card.init "pm" snap = ⟨"pm", none, none, none, none, none, none, none⟩ ∧
    ((addPaymentMethodDetails (fun id => .ok (stripePaymentMethod id)) (fun _ => .ok "secret")
      (paymentMethodRef "uid" "pm") snap s').lookup (paymentMethodRef "uid" "pm")).map
        (Card.init "pm") = some ⟨"pm", none, none, none, none, none, none, none⟩ ∧
    ¬ DecodesAsEntered "uid" "pm" sampleEntry s' := by
  refine ⟨_, _, rfl, Finmap.lookup_insert _, by decide, by decide +kernel, ?_⟩
  rintro ⟨d, hd, hentered⟩
  rw [Firestore.setMerge, Finmap.lookup_insert] at hd
  cases hd
  exact absurd hentered.cardNumber (by decide)

end Lidora
