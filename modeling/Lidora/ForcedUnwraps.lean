import Lidora.ButtonTitle
import Lidora.PaymentList
import Lidora.Unwrapping

/-! # Forced unwraps of decoded documents

The `init`s of `Model/` turn a key that is missing, or holds a value of another type, into
`nil` behind an implicitly unwrapped property.  The screens then unwrap some of these by
force, which ends the app, some with a default or a guard, and hand others to UIKit, which
takes `nil`.  `ChefCell`, say, loads `chef?.imageURL ?? ""`, and `MenuCell` loads
`(menu?.imageURL)!`; the list of payment methods writes `card.last4 ?? "****"`, and
`CardSection` writes `card!.last4!` one line above its guard.

Code that unwraps is an `Except ForcedNil`: it goes on, or ends with the property that was
`nil`.  Every use of a document (`DocumentUse`) is followed from the decoder to its
unwraps, and `unwraps_iff` says which keys it needs: the image of a dish, a dish's price,
the thumbnail of a chef and, for a new order, his first name, the image of an order's
provider, in the bag its quantity and its provider's name, and all seven keys of the
primary card.  The list of payment methods needs none.

The labels are what the code gives them; how Swift writes a number is left out, and so is
the unwrap of an image's average colour, which no document decides.
-/
namespace Lidora
open DocumentStore Unwrapping

/-! ## The screens -/

/-- `MenuCell`; of the price, the amount behind the dollar sign. -/
structure MenuCell where
  nameLabel : Option String
  descriptionLabel : Option String
  priceLabel : ℚ
  /-- The URL that `imageView` loads. -/
  imageView : String

/-- The `didSet` of `MenuCell.menu`. -/
def MenuCell.didSet (menu : Menu) : Except ForcedNil MenuCell := do
  let imageURL ← force "imageURL" menu.imageURL
  return ⟨menu.name, menu.description, menu.price.getD 0, imageURL⟩

/-- What `MenuViewController` shows of the chef, and the chef whose menu it fetches. -/
structure MenuScreen where
  imageView : String
  /-- The labels of `TitleCell`. -/
  label : String
  descriptionLabel : Option String
  fetched : String

/-- `MenuViewController` appears: `setupViews`, `fetchMenu` and, for the chef, `TitleCell`. -/
def MenuViewController.appear (chef : List Chef) : Except ForcedNil MenuScreen := do
  let first ← force "first" chef.head?
  let thumbnailsURL ← force "thumbnailsURL" first.thumbnailsURL
  let id ← force "id" (chef.head?.map Chef.id)
  return ⟨thumbnailsURL, first.firstName.getD "" ++ " " ++ first.lastName.getD "",
    first.description, id⟩

/-- What `OverView` shows of a dish; the button as in `OverView.updateViews`. -/
structure DishShown where
  imageView : String
  nameLabel : Option String
  textView : Option String
  button : Option (ℕ × ℚ)

/-- `OverView.updateViews`, all of it. -/
def OverView.showMenu (v : OverView) (menu : Menu) : Except ForcedNil DishShown := do
  let imageURL ← force "imageURL" menu.imageURL
  return ⟨imageURL, menu.name, menu.description, v.updateViews menu⟩

/-- `CardBrand.rawValue`. -/
def CardBrand.rawValue : CardBrand → String
  | .visa => "visa"
  | .mastercard => "mastercard"
  | .amex => "amex"
  | .discovery => "discovery"

/-- A cell of `CardSection`. -/
inductive CardSectionCell where
  | header (title : String)
  | primaryCard (label imageView : String)
  /-- `UICollectionViewCell()`. -/
  | blank

/-- `CardSection.cellForItem`. -/
def CardSection.cellForItem (card : Option Card) (index : ℕ) :
    Except ForcedNil CardSectionCell := do
  if index = 0 then
    return .header "Payment method"
  else
    let card ← force "card" card
    let last4 ← force "last4" card.last4
    match card.brand with
    | none => return .blank
    | some brand => return .primaryCard ("*" ++ last4) brand.rawValue

/-- `UpcomingOrderCell`. -/
structure UpcomingOrderCell where
  imageView : String
  nameLabel : Option String
  dateLabel : Option String

/-- The `didSet` of `UpcomingOrderCell.order`. -/
def UpcomingOrderCell.didSet (order : Option Order) : Except ForcedNil UpcomingOrderCell := do
  let order ← force "order" order
  let providerImageURL ← force "providerImageURL" order.providerImageURL
  return ⟨providerImageURL, order.providerName, order.createdDate⟩

/-- A row of `PaymentListViewController`. -/
structure PaymentCell where
  imageView : String
  /-- The brand, to be capitalized, and the digits. -/
  textLabel : String × String
  detailTextLabel : String
  checkmark : Bool

/-- `tableView(_:cellForRowAt:)` for this card; `none` is an empty cell. -/
def PaymentCell.cellForRow (currentCard : Option Card) (card : Card) :
    Except ForcedNil (Option PaymentCell) := do
  match card.brand with
  | none => return none
  | some brand =>
    let primary ← force "primary" card.primary
    return some ⟨brand.rawValue, (brand.rawValue, card.last4.getD "****"),
      if primary then "Primary" else "", currentCard.isSome && primary⟩

/-- The completion of `fetchCurrentOrder`: the title of the bag, and the name that it adds to
`orderDetails`. -/
def CardViewController.fetched (order : Option Order) : Except ForcedNil (String × String) := do
  let order ← force "order" order
  let quantity ← force "quantity" order.quantity
  let providerName ← force "providerName" order.providerName
  return ("View Bag - " ++ toString quantity, providerName)

/-! ## Adding to the bag -/

/-- `OverView.addToOrder`, up to the notification. -/
def OverView.post (v : OverView) : Except ForcedNil (Option (Menu × ℤ × ℚ)) := do
  match v.menu with
  | none => return none
  | some item =>
    if Screen.otherChef v then return none
    else
      let price ← force "price" item.price
      return some (item, v.stepper, price * v.stepper)

/-- The order half of the block of `addItemToOrder`: a new order takes `chef.firstName!`.
The item half unwraps nothing. -/
def AddCall.orderHalf (c : AddCall) (e : AddEntry) (ref : Path) (document : Option Doc) :
    Except ForcedNil Queued := do
  match document with
  | some _ => return orderPart c e ref document
  | none =>
    let _ ← force "firstName" c.chef.firstName
    return orderPart c e ref none

/-- A tap on "Add to bag": the dish and its chef, the order that the chef is checked
against, the bag of the customer, the stepper, and the document of the order when the
transaction reads it. -/
structure AddTap where
  item : String × Doc
  chef : Option (String × Doc)
  order : Option (String × Doc)
  bagId : Option String
  stepper : ℕ
  stored : Option Doc

namespace AddTap

/-- The `OverView` that is tapped. -/
def overView (t : AddTap) : OverView where
  menu := some (Menu.init t.item.1 t.item.2)
  chef := t.chef.map fun chef => Chef.init chef.1 chef.2
  order := t.order.map fun order => Order.init order.1 order.2
  stepper := t.stepper

/-- `CardViewController.addToOrder` on the notification, up to the order half of the block;
`none` where a guard turns it away. -/
def addItem (uid : String) (t : AddTap) (item : Menu) (quantity : ℤ) (total : ℚ) :
    Except ForcedNil (Option Queued) := do
  match t.overView.chef, t.bagId with
  | some chef, some bagId =>
    let c : AddCall := ⟨bagId, chef, item, quantity, total⟩
    match c.guard with
    | none => return none
    | some e => return some (← c.orderHalf e (orderRef uid bagId) t.stored)
  | _, _ => return none

/-- From the tap to the order half of the block. -/
def addToBag (uid : String) (t : AddTap) : Except ForcedNil (Option Queued) := do
  match ← t.overView.post with
  | none => return none
  | some (item, quantity, total) => t.addItem uid item quantity total

/-- The order on the screen is from another chef. -/
def OtherChef (t : AddTap) : Prop :=
  ∃ order ∈ t.order, ∃ providerId, order.2.string "provider_id" = some providerId ∧
    ∀ chef ∈ t.chef, chef.1 ≠ providerId

/-- The guard of `addItemToOrder` finds what it looks for. -/
def Accepted (t : AddTap) (chef : Doc) : Prop :=
  (t.item.2.string "name").isSome ∧ (t.item.2.string "description").isSome ∧
    (chef.string "imageURL").isSome ∧ (t.item.2.string "imageURL").isSome

/-- The tap is turned away at once, or the dish has a price and, where an order is created,
its chef has a first name. -/
def HasFields (t : AddTap) : Prop :=
  t.OtherChef ∨ (t.item.2.double "price").isSome ∧
    ∀ chef ∈ t.chef, t.bagId.isSome → t.Accepted chef.2 → t.stored = none →
      (chef.2.string "first_name").isSome

end AddTap

/-! ## The uses of a document -/

/-- What the app does with a document, given by its key and its fields. -/
inductive DocumentUse where
  | menuCell (id : String) (menu : Doc)
  | menuViewController (id : String) (chef : Doc)
  /-- The dish is shown, and the stepper moved. -/
  | overView (v : OverView) (id : String) (menu : Doc) (quantity : ℕ)
  | cardSection (id : String) (card : Doc) (index : ℕ)
  | upcomingOrderCell (id : String) (order : Doc)
  | paymentList (currentCard : Option Card) (id : String) (card : Doc)
  /-- The order is shown in the bag. -/
  | bag (id : String) (order : Doc)
  | addToBag (t : AddTap)

/-- The use comes to its end without an unwrap of `nil`. -/
def DocumentUse.EndsWell (uid : String) : DocumentUse → Prop
  | .menuCell id menu => Survives (MenuCell.didSet (Menu.init id menu))
  | .menuViewController id chef => Survives (MenuViewController.appear [Chef.init id chef])
  | .overView v id menu quantity => Survives do
    let shown ← v.showMenu (Menu.init id menu)
    return { v with menu := some (Menu.init id menu) }.increment quantity shown.button
  | .cardSection id card index =>
    Survives (CardSection.cellForItem (some (Card.init id card)) index)
  | .upcomingOrderCell id order => Survives (UpcomingOrderCell.didSet (some (Order.init id order)))
  | .paymentList currentCard id card =>
    Survives (PaymentCell.cellForRow currentCard (Card.init id card))
  | .bag id order => Survives (CardViewController.fetched (some (Order.init id order)))
  | .addToBag t => Survives (t.addToBag uid)

/-- All seven keys of a card are there, of the right types, and the brand is known. -/
def CardComplete (d : Doc) : Prop :=
  ((d.string "brand").bind CardBrand.ofRawValue).isSome ∧ (d.string "last4").isSome ∧
    (d.uint "month").isSome ∧ (d.uint "year").isSome ∧ (d.string "number").isSome ∧
    (d.string "cvc").isSome ∧ (d.bool "primary").isSome

/-- The document has the keys that the use unwraps. -/
def DocumentUse.HasFields : DocumentUse → Prop
  | .menuCell _ menu | .overView _ _ menu _ => (menu.string "imageURL").isSome
  | .menuViewController _ chef => (chef.string "thumbnail_url").isSome
  | .cardSection _ card index => index = 0 ∨ CardComplete card
  | .upcomingOrderCell _ order => (order.string "provider_imageURL").isSome
  | .paymentList _ _ _ => True
  | .bag _ order => (order.int "quantity").isSome ∧ (order.string "provider_name").isSome
  | .addToBag t => t.HasFields

/-! ## The cards -/

/-- A decoded card has its last four digits exactly if it is complete. -/
theorem last4_isSome_iff (id : String) (d : Doc) :
    (Card.init id d).last4.isSome ↔ CardComplete d := by
  unfold Card.init
  split
  · rename_i hbrand hlast4 hmonth hyear hnumber hcvc hknown hprimary
    refine iff_of_true rfl ?_
    simp only [CardComplete, hlast4, hmonth, hyear, hnumber, hcvc, hknown, hprimary]
    simp
  · rename_i hnot
    refine iff_of_false (by simp) ?_
    rintro ⟨hknown, hlast4, hmonth, hyear, hnumber, hcvc, hprimary⟩
    obtain ⟨brand, hknown⟩ := Option.isSome_iff_exists.mp hknown
    obtain ⟨name, hname, -⟩ := Option.bind_eq_some_iff.mp hknown
    obtain ⟨last4, hlast4⟩ := Option.isSome_iff_exists.mp hlast4
    obtain ⟨month, hmonth⟩ := Option.isSome_iff_exists.mp hmonth
    obtain ⟨year, hyear⟩ := Option.isSome_iff_exists.mp hyear
    obtain ⟨number, hnumber⟩ := Option.isSome_iff_exists.mp hnumber
    obtain ⟨cvc, hcvc⟩ := Option.isSome_iff_exists.mp hcvc
    obtain ⟨primary, hprimary⟩ := Option.isSome_iff_exists.mp hprimary
    exact hnot _ _ _ _ _ _ _ _ hname hlast4 hmonth hyear hnumber hcvc hknown hprimary

/-- A decoded card with a brand has the flag, too. -/
theorem primary_of_brand {id : String} {d : Doc} {brand : CardBrand}
    (h : (Card.init id d).brand = some brand) : (Card.init id d).primary.isSome := by
  unfold Card.init at h ⊢
  split at h
  · rfl
  · cases h

/-- The second cell of `CardSection` unwraps the digits before it looks at the brand. -/
theorem cardSection_survives_iff (id : String) (d : Doc) (index : ℕ) :
    Survives (CardSection.cellForItem (some (Card.init id d)) index) ↔
      index = 0 ∨ CardComplete d := by
  rw [← last4_isSome_iff id]
  unfold CardSection.cellForItem
  by_cases hindex : index = 0
  · rw [if_pos hindex]
    exact iff_of_true (survives_pure _) (Or.inl hindex)
  · rw [if_neg hindex, survives_force_bind, or_iff_right hindex]
    constructor
    · rintro ⟨card, hcard, hsurvives⟩
      cases hcard
      obtain ⟨last4, hlast4, -⟩ := survives_force_bind.mp hsurvives
      exact Option.isSome_iff_exists.mpr ⟨last4, hlast4⟩
    · intro hlast4
      obtain ⟨last4, hlast4⟩ := Option.isSome_iff_exists.mp hlast4
      refine ⟨_, rfl, survives_force_bind.mpr ⟨last4, hlast4, ?_⟩⟩
      cases (Card.init id d).brand with
      | none => exact survives_pure _
      | some brand => exact survives_pure _

/-- **The list of payment methods never ends the app**: a card that does not decode has no
brand, and is an empty row. -/
theorem paymentList_survives (currentCard : Option Card) (id : String) (d : Doc) :
    Survives (PaymentCell.cellForRow currentCard (Card.init id d)) := by
  unfold PaymentCell.cellForRow
  split
  · exact survives_pure _
  · rename_i brand hbrand
    obtain ⟨primary, hprimary⟩ := Option.isSome_iff_exists.mp (primary_of_brand hbrand)
    exact survives_force_bind.mpr ⟨primary, hprimary, survives_pure _⟩

/-! ## Adding to the bag -/

theorem otherChef_overView_iff (t : AddTap) :
    Screen.otherChef t.overView = true ↔ t.OtherChef := by
  unfold Screen.otherChef AddTap.OtherChef AddTap.overView
  cases t.order with
  | none => simp
  | some order =>
    cases hprovider : order.2.string "provider_id" with
    | none => simp [Order.init, hprovider]
    | some providerId =>
      cases t.chef with
      | none => simp [Order.init, hprovider]
      | some chef => simp [Order.init, Chef.init, hprovider]

theorem post_of_otherChef {v : OverView} {item : Menu} (hitem : v.menu = some item)
    (hother : Screen.otherChef v = true) : v.post = .ok none := by
  unfold OverView.post
  rw [hitem]
  dsimp only
  rw [if_pos hother]
  rfl

/-- Past the check of the chef the price is unwrapped. -/
theorem post_of_sameChef {v : OverView} {item : Menu} (hitem : v.menu = some item)
    (hsame : ¬ Screen.otherChef v = true) :
    v.post = do
      let price ← force "price" item.price
      return some (item, (v.stepper : ℤ), price * v.stepper) := by
  unfold OverView.post
  rw [hitem]
  dsimp only
  rw [if_neg hsame]

/-- `OverView.addToOrder` unwraps the price, unless the order is from another chef. -/
theorem post_survives_iff {v : OverView} {item : Menu} (hitem : v.menu = some item) :
    Survives v.post ↔ Screen.otherChef v = true ∨ item.price.isSome := by
  by_cases hother : Screen.otherChef v = true
  · rw [post_of_otherChef hitem hother]
    exact iff_of_true (survives_pure _) (Or.inl hother)
  · rw [post_of_sameChef hitem hother, or_iff_right hother]
    exact survives_force_return

theorem guard_isSome_iff (c : AddCall) :
    c.guard.isSome ↔ c.item.name.isSome ∧ c.item.description.isSome ∧ c.chef.imageURL.isSome ∧
      c.item.imageURL.isSome := by
  unfold AddCall.guard
  cases c.item.name <;> cases c.item.description <;> cases c.chef.imageURL <;>
    cases c.item.imageURL <;> simp

/-- The order half unwraps the first name of the chef where it creates the order. -/
theorem orderHalf_survives_iff (c : AddCall) (e : AddEntry) (ref : Path) (document : Option Doc) :
    Survives (c.orderHalf e ref document) ↔ (document = none → c.chef.firstName.isSome) := by
  cases document with
  | some data => exact iff_of_true (survives_pure _) fun h => by cases h
  | none =>
    rw [AddCall.orderHalf, survives_force_bind, forall_prop_of_true rfl]
    simp [Option.isSome_iff_exists]

/-- Past the notification, only an order that is created unwraps something. -/
theorem addItem_survives_iff (uid : String) (t : AddTap) (quantity : ℤ) (total : ℚ) :
    Survives (t.addItem uid (Menu.init t.item.1 t.item.2) quantity total) ↔
      ∀ chef ∈ t.chef, t.bagId.isSome → t.Accepted chef.2 → t.stored = none →
        (chef.2.string "first_name").isSome := by
  unfold AddTap.addItem AddTap.overView
  cases t.chef with
  | none => exact iff_of_true (survives_pure _) (by simp)
  | some chef =>
    cases t.bagId with
    | none => exact iff_of_true (survives_pure _) (by simp)
    | some bagId =>
      have hguard := guard_isSome_iff
        ⟨bagId, Chef.init chef.1 chef.2, Menu.init t.item.1 t.item.2, quantity, total⟩
      dsimp only [Option.map_some]
      split
      · rename_i hnone
        rw [hnone] at hguard
        refine iff_of_true (survives_pure _) ?_
        rintro chef' hchef' - haccepted
        cases hchef'
        exact absurd (hguard.mpr haccepted) (by simp)
      · rename_i e hsome
        rw [hsome] at hguard
        rw [survives_bind]
        have hhalf := orderHalf_survives_iff
          ⟨bagId, Chef.init chef.1 chef.2, Menu.init t.item.1 t.item.2, quantity, total⟩ e
          (orderRef uid bagId) t.stored
        constructor
        · rintro ⟨queued, hqueued, -⟩ chef' hchef' - - hstored
          cases hchef'
          exact hhalf.mp ⟨queued, hqueued⟩ hstored
        · intro hname
          obtain ⟨queued, hqueued⟩ := hhalf.mpr
            (hname chef rfl rfl (hguard.mp rfl))
          exact ⟨queued, hqueued, survives_pure _⟩

theorem addToBag_survives_iff (uid : String) (t : AddTap) :
    Survives (t.addToBag uid) ↔ t.HasFields := by
  unfold AddTap.addToBag AddTap.HasFields
  by_cases hother : t.OtherChef
  · rw [post_of_otherChef rfl ((otherChef_overView_iff t).mpr hother)]
    exact iff_of_true (survives_pure _) (Or.inl hother)
  · rw [or_iff_right hother, post_of_sameChef rfl (mt (otherChef_overView_iff t).mp hother),
      show (Menu.init t.item.1 t.item.2).price = t.item.2.double "price" from rfl]
    cases t.item.2.double "price" with
    | none =>
      refine iff_of_false ?_ (fun h => absurd h.1 (by simp))
      rintro ⟨queued, hqueued⟩
      cases hqueued
    | some price =>
      refine Iff.trans ?_ (and_iff_right rfl).symm
      exact addItem_survives_iff uid t t.stepper (price * t.stepper)

/-! ## The same traps elsewhere

The models of the bag and of the list say of a step only that it traps.  These are the
unwraps behind it. -/

theorem didSelect_isSome_iff (s : Screen) (menu : Menu) (chef : Option Chef) (front : Bool) :
    (s.didSelect menu chef front).isSome ↔ Survives (s.overView.showMenu menu) := by
  refine Iff.trans ?_ survives_force_return.symm
  unfold Screen.didSelect
  cases menu.imageURL with
  | none => exact Iff.rfl
  | some imageURL => cases front <;> exact Iff.rfl

theorem receive_isSome_iff (s : Screen) (order : Order) (menu : Menu) :
    (s.receive order menu).isSome ↔ Survives (CardViewController.fetched (some order)) := by
  unfold Screen.receive CardViewController.fetched
  rw [survives_force_some]
  cases order.quantity with
  | none =>
    refine iff_of_false (by simp) ?_
    rw [survives_force_bind]
    rintro ⟨quantity, hquantity, -⟩
    cases hquantity
  | some quantity =>
    rw [survives_force_some, survives_force_return]
    cases order.providerName <;> exact Iff.rfl

theorem tapAddToOrder_isSome_iff (s : Screen) :
    s.tapAddToOrder.screen.isSome ↔ Survives s.overView.post := by
  unfold Screen.tapAddToOrder
  cases hmenu : s.overView.menu with
  | none =>
    refine iff_of_true rfl ?_
    unfold OverView.post
    rw [hmenu]
    exact survives_pure _
  | some item =>
    rw [post_survives_iff hmenu]
    by_cases hother : Screen.otherChef s.overView = true
    · simp [hother, Screen.quiet]
    · simp only [hother]
      cases item.price with
      | none => simp
      | some price => simp [Screen.addToOrder_screen]

theorem cellForRow_isSome_iff {l : PaymentList} {row : ℕ} {card : Card}
    (h : l.cards[row]? = some card) :
    (l.cellForRow row).isSome ↔ Survives (PaymentCell.cellForRow l.currentCard card) := by
  unfold PaymentList.cellForRow PaymentCell.cellForRow
  rw [h]
  dsimp only
  cases card.brand with
  | none => exact iff_of_true rfl (survives_pure _)
  | some brand =>
    refine Iff.trans ?_ survives_force_return.symm
    cases card.primary with
    | none => exact Iff.rfl
    | some primary =>
      dsimp only
      split <;> exact Iff.rfl

theorem orderPart_trap_iff (c : AddCall) (e : AddEntry) (ref : Path) :
    orderPart c e ref none = .trap ↔ ¬ Survives (c.orderHalf e ref none) := by
  rw [orderHalf_survives_iff, forall_prop_of_true rfl]
  unfold orderPart
  cases c.chef.firstName <;> simp

/-- Where the order half unwraps `nil`, the whole call ends the app. -/
theorem addItemToOrder_trapped {uid : String} {c : AddCall} {e : AddEntry} {s : Firestore}
    (he : c.guard = some e)
    (h : ¬ Survives (c.orderHalf e (orderRef uid c.orderId) (s.lookup (orderRef uid c.orderId)))) :
    addItemToOrder uid c s = .trapped := by
  have hnone : s.lookup (orderRef uid c.orderId) = none := by
    by_contra hsome
    exact h ((orderHalf_survives_iff _ _ _ _).mpr fun hnone => absurd hnone hsome)
  rw [hnone] at h
  have htrap := (orderPart_trap_iff c e (orderRef uid c.orderId)).mpr h
  simp only [addItemToOrder, he, hnone, addItemBlock, htrap]

/-! ## The keys that a document needs -/

/-- **When a document does not end the app.**  For every use of every document, whatever of
its keys are missing or of another type: no `nil` is unwrapped by force if and only if the
keys are there that `DocumentUse.HasFields` names. -/
theorem unwraps_iff (uid : String) (u : DocumentUse) : u.EndsWell uid ↔ u.HasFields := by
  cases u with
  | menuCell id menu => exact survives_force_return
  | menuViewController id chef =>
    refine survives_force_some.trans (survives_force_bind.trans ?_)
    rw [DocumentUse.HasFields, Option.isSome_iff_exists]
    exact exists_congr fun _ => and_iff_left (survives_force_some.mpr (survives_pure _))
  | overView v id menu quantity =>
    refine survives_bind.trans ?_
    rw [DocumentUse.HasFields]
    constructor
    · rintro ⟨shown, hshown, -⟩
      exact survives_force_return.mp ⟨shown, hshown⟩
    · intro hurl
      obtain ⟨shown, hshown⟩ : Survives (v.showMenu (Menu.init id menu)) :=
        survives_force_return.mpr hurl
      exact ⟨shown, hshown, survives_pure _⟩
  | cardSection id card index => exact cardSection_survives_iff id card index
  | upcomingOrderCell id order => exact survives_force_some.trans survives_force_return
  | paymentList currentCard id card =>
    exact iff_of_true (paymentList_survives currentCard id card) trivial
  | bag id order =>
    refine survives_force_some.trans (survives_force_bind.trans ?_)
    constructor
    · rintro ⟨quantity, hquantity, hsurvives⟩
      exact ⟨Option.isSome_iff_exists.mpr ⟨quantity, hquantity⟩, survives_force_return.mp hsurvives⟩
    · rintro ⟨hquantity, hname⟩
      obtain ⟨quantity, hquantity⟩ := Option.isSome_iff_exists.mp hquantity
      exact ⟨quantity, hquantity, survives_force_return.mpr hname⟩
  | addToBag t => exact addToBag_survives_iff uid t

/-! ## Documents with a key missing -/

/-- A tap on a dish that has an image, and nothing else. -/
def tapWithoutPrice : AddTap :=
  ⟨("soup", .ofFields [("imageURL", .string "soup.png")]), none, none, none, 1, none⟩

/-- A dish without an image. -/
def plainDish : Doc :=
  .ofFields [("name", .string "Soup"), ("description", .string "Hot"), ("price", .double 9)]

/-- A card as Stripe has it, without its number. -/
def cardWithoutNumber : Doc :=
  .ofFields [("brand", .string "visa"), ("last4", .string "4242"), ("month", .int 5),
    ("year", .int 2027), ("cvc", .string "123"), ("primary", .bool true)]

/-- **A missing key ends the app.**  The dish cannot be shown in the menu nor opened, the card
not shown in the bag although its last four digits are there, and the dish, with an image
but no price, not added. -/
theorem missing_key_ends_the_app :
    ¬ (DocumentUse.menuCell "soup" plainDish).EndsWell "uid" ∧
      ¬ (DocumentUse.overView ⟨none, none, none, 1⟩ "soup" plainDish 2).EndsWell "uid" ∧
      ¬ (DocumentUse.cardSection "pm" cardWithoutNumber 1).EndsWell "uid" ∧
      ¬ (DocumentUse.addToBag tapWithoutPrice).EndsWell "uid" := by
  refine ⟨?_, ?_, ?_, ?_⟩
  · exact of_decide_eq_true (p := ¬ Survives _) (by decide)
  · exact of_decide_eq_true (p := ¬ Survives _) (by decide)
  · exact of_decide_eq_true (p := ¬ Survives _) (by decide)
  · exact of_decide_eq_true (p := ¬ Survives _) (by decide)

end Lidora
