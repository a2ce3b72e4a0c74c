import Lidora.Firestore

/-! # The client's records

The classes of `Model/`, each decoded from a document's fields by its `init`.  A
field that is missing, or holds a value of another type, decodes to `none`, behind
Swift's implicitly unwrapped optionals.  An `id` comes from the document's key and
is always there.

Left out: `Chef.dob`, `Chef.menu` and `Order.items`, which no function reads.
-/
namespace Lidora

/-- `Chef.swift`. -/
structure Chef where
  id : String
  firstName : Option String
  lastName : Option String
  email : Option String
  phone : Option String
  ssnLast4 : Option String
  ssn : Option String
  imageURL : Option String
  thumbnailsURL : Option String
  description : Option String
  ip : Option String
  deriving DecidableEq

/-- `Chef(key:data:)`. -/
def Chef.init (key : String) (data : Doc) : Chef where
  id := key
  firstName := data.string "first_name"
  lastName := data.string "last_name"
  email := data.string "email_address"
  phone := data.string "phone"
  ssnLast4 := data.string "ssnLast4"
  ssn := data.string "ssn"
  imageURL := data.string "imageURL"
  thumbnailsURL := data.string "thumbnail_url"
  description := data.string "description"
  ip := data.string "ip"

/-- `Menu`, of `Chef.swift`: a dish of a chef's menu, and an item of a bag. -/
structure Menu where
  id : String
  imageURL : Option String
  name : Option String
  description : Option String
  price : Option ℚ
  total : Option ℚ
  quantity : Option ℤ
  deriving DecidableEq

/-- `Menu(key:data:)`. -/
def Menu.init (key : String) (data : Doc) : Menu where
  id := key
  imageURL := data.string "imageURL"
  name := data.string "name"
  description := data.string "description"
  price := data.double "price"
  total := data.double "total"
  quantity := data.int "quantity"

/-- `Order.swift`. -/
structure Order where
  id : String
  providerId : Option String
  providerName : Option String
  providerImageURL : Option String
  quantity : Option ℤ
  subtotal : Option ℚ
  platformFee : Option ℚ
  stripeFee : Option ℚ
  serviceFee : Option ℚ
  deliveryFee : Option ℚ
  total : Option ℚ
  createdDate : Option String
  deriving DecidableEq

/-- `Order(key:data:)`. -/
def Order.init (key : String) (data : Doc) : Order where
  id := key
  providerId := data.string "provider_id"
  providerName := data.string "provider_name"
  providerImageURL := data.string "provider_imageURL"
  quantity := data.int "quantity"
  subtotal := data.double "subtotal"
  platformFee := data.double "platform_fee"
  stripeFee := data.double "stripe_fee"
  serviceFee := data.double "service_fee"
  deliveryFee := data.double "delivery_fee"
  total := data.double "total"
  createdDate := data.string "created"

/-- `CardBrand`, of `Card.swift`. -/
inductive CardBrand where
  | visa
  | mastercard
  | amex
  | discovery
  deriving DecidableEq

/-- `CardBrand(rawValue:)`. -/
def CardBrand.ofRawValue : String → Option CardBrand
  | "visa" => some .visa
  | "mastercard" => some .mastercard
  | "amex" => some .amex
  | "discovery" => some .discovery
  | _ => none

/-- `Card.swift`. -/
structure Card where
  id : String
  cardNumber : Option String
  cvc : Option String
  brand : Option CardBrand
  last4 : Option String
  month : Option ℕ
  year : Option ℕ
  primary : Option Bool
  deriving DecidableEq

/-- `Card(id:data:)`: with one of the seven keys missing or ill-typed, or with a brand that
is not known, no field but the id is set. -/
def Card.init (id : String) (data : Doc) : Card :=
  match data.string "brand", data.string "last4", data.uint "month", data.uint "year",
    data.string "number", data.string "cvc",
    (data.string "brand").bind CardBrand.ofRawValue, data.bool "primary" with
  | some _, some last4, some month, some year, some cardNumber, some cvc, some brand,
    some primary =>
    ⟨id, some cardNumber, some cvc, some brand, some last4, some month, some year, some primary⟩
  | _, _, _, _, _, _, _, _ => ⟨id, none, none, none, none, none, none, none⟩

/-- `User.swift`. -/
structure User where
  id : String
  orderId : Option String
  firstName : Option String
  lastName : Option String
  email : Option String
  phoneNumber : Option String
  primaryCard : Option String
  line1 : Option String
  state : Option String
  city : Option String
  postalCode : Option String
  deriving DecidableEq

/-- `User(id:data:)`. -/
def User.init (id : String) (data : Doc) : User where
  id := id
  orderId := data.string "order_id"
  firstName := data.string "first_name"
  lastName := data.string "last_name"
  email := data.string "email"
  phoneNumber := data.string "phone"
  primaryCard := data.string "primary_card"
  line1 := data.string "line1"
  state := data.string "state"
  city := data.string "city"
  postalCode := data.string "postal_code"

end Lidora
