import Lidora.Records

/-! # `placeOrder` and `completeCharge`

`DataService.placeOrder` reads the order document again and hands its amounts, with
the provider of the order on the screen, to `completeCharge`, which has Stripe make a
token of the card and writes a payment document under that token.  The requests are
answered one by one, so the two functions are cut at their callbacks: `readBag` is
what the answer to the read leads to, `paymentFields` the document that the answer to
the token request has written.
-/
namespace Lidora

/-- The four fields of a card that Stripe makes a token of. -/
structure CardParams where
  number : String
  expMonth : ℕ
  expYear : ℕ
  cvc : String
  deriving DecidableEq

/-- The guard at the head of `completeCharge`. -/
def Card.params (card : Card) : Option CardParams :=
  match card.cardNumber, card.month, card.year, card.cvc with
  | some number, some month, some year, some cvv => some ⟨number, month, year, cvv⟩
  | _, _, _, _ => none

/-- The arguments of `completeCharge`, past its guard. -/
structure Charge where
  destination : String
  destinationName : String
  subtotal : ℚ
  total : ℚ
  card : CardParams
  deriving DecidableEq

/-- What the answer to `placeOrder`'s read leads to: nothing, not even a completion;
a trap; or a token request for this charge. -/
inductive BagRead where
  | silent
  | trapped
  | charge (c : Charge)

/-- `placeOrder` and the head of `completeCharge`, on the snapshot read.  The amounts
are cast by force, and so are the provider's id and name. -/
def readBag (order : Order) (card : Card) (snapshot : Option Doc) : BagRead :=
  match snapshot with
  | none => .silent
  | some bagData =>
    match bagData.double "subtotal", bagData.double "total", order.providerId,
      order.providerName with
    | some subtotal, some total, some destination, some destinationName =>
      match card.params with
      | none => .silent
      | some params => .charge ⟨destination, destinationName, subtotal, total, params⟩
    | _, _, _, _ => .trapped

/-- `RefPayments.document(token.tokenId)`. -/
def paymentRef (uid token : String) : Path := refPayments uid ++ [token]

/-- The payment document's fields. -/
def paymentFields (c : Charge) (token created : String) : List (String × Value) :=
  [("subtotal", .double c.subtotal), ("total", .double c.total), ("currency", .string "usd"),
    ("payment_method", .string token), ("destination", .string c.destination),
    ("provider_name", .string c.destinationName), ("created", .string created)]

/-- `placeOrder` when nothing interferes and every request is answered with success: the
store after it, if it reports success. -/
def placeOrder (uid : String) (order : Order) (card : Card) (token created : String)
    (s : Firestore) : Option Firestore :=
  match readBag order card (s.lookup (orderRef uid order.id)) with
  | .charge c => some (s.setMerge (paymentRef uid token) (paymentFields c token created))
  | _ => none

/-- A read that leads to a token request saw a document, and took its amounts. -/
theorem readBag_charge {order : Order} {card : Card} {snapshot : Option Doc} {c : Charge}
    (h : readBag order card snapshot = .charge c) : ∃ bagData, snapshot = some bagData ∧
      bagData.double "subtotal" = some c.subtotal ∧ bagData.double "total" = some c.total ∧
      order.providerId = some c.destination ∧ order.providerName = some c.destinationName ∧
      card.params = some c.card := by
  unfold readBag at h
  split at h
  · cases h
  · rename_i bagData
    split at h
    · split at h
      · cases h
      · cases h
        exact ⟨bagData, rfl, ‹_›, ‹_›, ‹_›, ‹_›, ‹_›⟩
    · cases h

end Lidora
