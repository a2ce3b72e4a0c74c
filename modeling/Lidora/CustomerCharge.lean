import Lidora.OrderTotals
import Lidora.PlaceOrder
import Lidora.StripeFunctions

/-! # From the placed order to the charge

The client's `completeCharge` writes a payment document and the backend's
`createStripePayment` is to charge the customer by it.  The document is all that the two
share, and they disagree on it in three ways:

* on its place: the client writes under `customers`, the backend watches
  `stripe_customers`, so that no payment document is ever seen
  (`paymentRef_unmatched`);
* on the amount: the client writes `total`, in dollars, and the backend reads `amount`
  (`request_amount_undefined`);
* on the payment method: the client writes the id of a token that it has had made for
  this payment, the backend hands it to Stripe as the id of a payment method.

So no placed order is charged as it should be (`placeOrder_not_charged`).
-/
namespace Lidora
open DocumentStore

/-- The document of the payment `token` leads to a charge of its total, in whole cents,
in its currency and on the payment method `paymentMethod`. -/
def ChargesExactly (uid token paymentMethod : String) (s : Firestore) : Prop :=
  ∃ data params request total cents, s.lookup (paymentRef uid token) = some data ∧
    pathParams stripePaymentPattern (paymentRef uid token) = some params ∧
    createStripePaymentRequest data (s.lookup (paymentRef uid token).dropLast.dropLast)
      ((params.lookup "pushId").getD "") = some request ∧
    data.double "total" = some total ∧ request.amount.bind Value.asInt = some cents ∧
    (cents : ℚ) = total * 100 ∧ request.currency = data "currency" ∧
    request.paymentMethod = some (.string paymentMethod)

/-- The trigger sees no payment document of the client. -/
theorem paymentRef_unmatched (uid token : String) :
    pathParams stripePaymentPattern (paymentRef uid token) = none := by
  rw [Option.eq_none_iff_forall_not_mem]
  intro params hparams
  have hhead := pathParams_literal hparams
  simp [paymentRef, refPayments, refCurrentUser] at hhead

/-- Even if it saw one, the amount of its request would be undefined. -/
theorem request_amount_undefined {uid token created pushId : String} {order : Order} {card : Card}
    {s s' : Firestore} (hnew : s.lookup (paymentRef uid token) = none)
    (h : placeOrder uid order card token created s = some s') {data : Doc} {customer : Option Doc}
    {request : PaymentIntentRequest} (hdata : s'.lookup (paymentRef uid token) = some data)
    (hrequest : createStripePaymentRequest data customer pushId = some request) :
    request.amount = none := by
  have hamount : data "amount" = none := by
    unfold placeOrder at h
    split at h
    · cases h
      rw [Firestore.setMerge, hnew, Finmap.lookup_insert] at hdata
      cases hdata
      rfl
    · cases h
  obtain ⟨d, -, rfl⟩ := Option.map_eq_some_iff.mp hrequest
  exact hamount

/-- **No placed order is charged.**  For every customer, order, card, bag and token for
which `placeOrder` reports success, and whatever payment method was made for the card, the
payment document does not lead to a charge of the bag's total. -/
theorem placeOrder_not_charged (uid : String) (order : Order) (card : Card)
    (token created paymentMethod : String) (s s' : Firestore)
    (h : placeOrder uid order card token created s = some s') :
    (s'.lookup (paymentRef uid token)).isSome ∧ ¬ ChargesExactly uid token paymentMethod s' := by
  constructor
  · unfold placeOrder at h
    split at h
    · cases h
      rw [Firestore.setMerge, Finmap.lookup_insert]
      rfl
    · cases h
  · rintro ⟨data, params, request, total, cents, -, hparams, -⟩
    rw [paymentRef_unmatched] at hparams
    cases hparams

/-! ## A bag of soup -/

/-- A card with everything that a charge asks of one. -/
def sampleCard : Card :=
  ⟨"pm", some "4242424242424242", some "123", some .visa, some "4242", some 1, some 30, some true⟩

/-- The order of a bag, as the screen has decoded it. -/
def sampleOrder : Order :=
  Order.init "bag" (Doc.ofFields [("provider_id", .string "ana"), ("provider_name", .string "Ana")])

/-- A bag of soup is filled and placed. -/
def soupPlaced : Option Firestore :=
  (addsFrom "uid" ∅ [soupCall]).bind (placeOrder "uid" sampleOrder sampleCard "tok" "today")

theorem placeOrder_not_charged_soup : ∃ s s', addsFrom "uid" ∅ [soupCall] = some s ∧
    placeOrder "uid" sampleOrder sampleCard "tok" "today" s = some s' ∧
    ((s'.lookup (paymentRef "uid" "tok")).isSome ∧ ¬ ChargesExactly "uid" "tok" "pm" s') := by
  have hsome : soupPlaced.isSome := by decide +kernel
  obtain ⟨s', hs'⟩ := Option.isSome_iff_exists.mp hsome
  obtain ⟨s, hs, hplaced⟩ := Option.bind_eq_some_iff.mp hs'
  exact ⟨s, s', hs, hplaced,
    placeOrder_not_charged "uid" sampleOrder sampleCard "tok" "today" "pm" s s' hplaced⟩

/-- **Soup for nothing.**  The payment document for 11.89 dollars lies where the backend
does not look, and has no amount. -/
theorem soup_not_charged : ∃ s' data, soupPlaced = some s' ∧
    s'.lookup (paymentRef "uid" "tok") = some data ∧ data.double "total" = some 11.89 ∧
    data "amount" = none ∧ pathParams stripePaymentPattern (paymentRef "uid" "tok") = none ∧
    ¬ ChargesExactly "uid" "tok" "pm" s' := by
  have hrun : (soupPlaced.bind fun s => s.lookup (paymentRef "uid" "tok")).map
      (fun d => (d.double "total", d "amount")) = some (some 11.89, none) := by decide +kernel
  obtain ⟨data, hdata, hfields⟩ := Option.map_eq_some_iff.mp hrun
  obtain ⟨s', hs', hlookup⟩ := Option.bind_eq_some_iff.mp hdata
  obtain ⟨htotal, hamount⟩ := Prod.mk.injEq .. ▸ hfields
  refine ⟨s', data, hs', hlookup, htotal, hamount, by decide, ?_⟩
  rintro ⟨_, params, request, total, cents, -, hparams, -⟩
  rw [paymentRef_unmatched] at hparams
  cases hparams

end Lidora
