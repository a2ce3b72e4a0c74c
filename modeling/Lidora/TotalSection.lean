import Lidora.BagOperations
import Lidora.OrderTotals

/-! # The four lines under a bag

`TotalSection` shows four amounts of the order: the subtotal, the service fee, the
delivery fee and the total.  The service fee is itself the sum of two fees.  All of them
are rounded to the cent one by one, and the delivery fee is written only where the order
is created, while every later call computes the total anew.

The amounts add up all the same (`order_adds_up`), since an order document always shows
the fees of one number (`ShowsFees`), though not of the goods in the bag: the sums are
sums of whole cents, which rounding leaves alone.
-/
namespace Lidora
open DocumentStore Runs

/-- A line of `TotalSection`: its title, and the amount behind the dollar sign. -/
structure TotalLine where
  title : String
  amount : ℚ
  deriving DecidableEq

/-- `TotalCell.updateViews`. -/
def TotalLine.updateViews (title : String) (value : Option ℚ) : TotalLine :=
  ⟨title, value.getD 0⟩

/-- `TotalSection.cellForItem`, for the four items. -/
def totalSection (order : Order) : List TotalLine :=
  [.updateViews "Subtotal" order.subtotal, .updateViews "Service Fee" order.serviceFee,
    .updateViews "Delivery Fee" order.deliveryFee, .updateViews "Total" order.total]

/-- The last line is the sum of the others. -/
def LinesAddUp (lines : List TotalLine) : Prop :=
  ∃ total ∈ lines.getLast?, (lines.dropLast.map TotalLine.amount).sum = total.amount

/-- The document has these six amounts. -/
structure ShowsFees (d : Doc) (fees : ServiceFee) : Prop where
  subtotal : d.double "subtotal" = some fees.subtotal
  platformFee : d.double "platform_fee" = some fees.platformFee
  stripeFee : d.double "stripe_fee" = some fees.stripeFee
  service : d.double "service_fee" = some fees.serviceFee
  deliveryFee : d.double "delivery_fee" = some fees.deliveryFee
  total : d.double "total" = some fees.total

/-- The amounts are whole cents, and their sums are exact. -/
structure AddsUp (fees : ServiceFee) : Prop where
  service : fees.serviceFee = fees.platformFee + fees.stripeFee
  total : fees.total = fees.subtotal + fees.serviceFee + fees.deliveryFee
  subtotal_cents : WholeCents fees.subtotal
  platformFee_cents : WholeCents fees.platformFee
  stripeFee_cents : WholeCents fees.stripeFee
  service_cents : WholeCents fees.serviceFee
  deliveryFee_cents : WholeCents fees.deliveryFee
  total_cents : WholeCents fees.total

/-- The fees of any number add up. -/
theorem addsUp_serviceFee (x : ℚ) : AddsUp (serviceFee x) := by
  obtain ⟨hsub, hstripe, hplat, hserv, hdel, htot⟩ := wholeCents_serviceFee x
  have hservice : (serviceFee x).serviceFee =
      (serviceFee x).stripeFee + (serviceFee x).platformFee :=
    roundNumber_of_wholeCents (hstripe.add hplat)
  refine ⟨?_, ?_, hsub, hplat, hstripe, hserv, hdel, htot⟩
  · rw [hservice, add_comm]
  · rw [serviceFee_total, hservice]
    ring

/-- The lines that show the fees: these four, under these titles. -/
def totalLines (fees : ServiceFee) : List TotalLine :=
  [⟨"Subtotal", fees.subtotal⟩, ⟨"Service Fee", fees.serviceFee⟩,
    ⟨"Delivery Fee", fees.deliveryFee⟩, ⟨"Total", fees.total⟩]

/-- `TotalSection` shows the amounts of the document. -/
theorem ShowsFees.totalSection {d : Doc} {fees : ServiceFee} (h : ShowsFees d fees)
    (orderId : String) : totalSection (Order.init orderId d) = totalLines fees := by
  simp only [Lidora.totalSection, totalLines, Order.init, TotalLine.updateViews, h.subtotal,
    h.service, h.deliveryFee, h.total, Option.getD_some]

theorem AddsUp.linesAddUp {fees : ServiceFee} (h : AddsUp fees) : LinesAddUp (totalLines fees) := by
  refine ⟨⟨"Total", fees.total⟩, rfl, ?_⟩
  change fees.subtotal + (fees.serviceFee + (fees.deliveryFee + 0)) = fees.total
  rw [h.total]
  ring

/-- What a call makes of an order document shows the fees of one number again, if the
document did before it. -/
theorem OrderAdded.showsFees {c : AddCall} {old : Option Doc} {new : Doc}
    (h : OrderAdded c old new) (hold : ∀ d, old = some d → ∃ x, ShowsFees d (serviceFee x)) :
    ShowsFees new (serviceFee (c.total + storedDouble old "total")) := by
  have hfield : ∀ {k q}, new k = some (.double q) → new.double k = some q := by
    intro k q hk
    rw [Doc.double, hk]
    rfl
  refine ⟨hfield h.subtotal, hfield h.platformFee, hfield h.stripeFee, hfield h.service, ?_,
    hfield h.total⟩
  -- the delivery fee is a constant, so it does not matter which call has written it
  cases old with
  | none => exact hfield h.deliveryFee
  | some d =>
    obtain ⟨x, hx⟩ := hold d rfl
    have hkept : new "delivery_fee" = d "delivery_fee" := h.deliveryFee
    rw [Doc.double, hkept]
    exact hx.deliveryFee

/-- A call writes documents of its own order alone. -/
theorem sameBag_of_completed {uid orderId : String} {c : AddCall} {s s' : Firestore}
    (ho : c.orderId ≠ orderId) (h : addItemToOrder uid c s = .completed s') :
    SameBag uid orderId s s' := by
  have hne : ∀ o o' id, itemRef uid o id ≠ orderRef uid o' := by
    intro o o' id heq
    have := congrArg List.length heq
    simp [itemRef, itemsRef, orderRef] at this
  constructor
  · refine lookup_of_completed_off h ?_ (hne _ _ _).symm
    intro heq
    simp only [orderRef, List.append_cancel_left_eq, List.cons.injEq, and_true] at heq
    exact ho heq.symm
  · intro id
    refine lookup_of_completed_off h (hne _ _ _) ?_
    intro heq
    simp [itemRef, itemsRef, orderRef, refOrders, refCurrentUser] at heq
    exact ho heq.1.symm

/-- **The lines of every order document add up.**  Whatever calls have completed, from an
empty bag on, the order document shows amounts of whole cents that add up exactly, the four
lines of `TotalSection` are its subtotal, service fee, delivery fee and total, and the last of
them is the sum of the others. -/
theorem order_adds_up (uid orderId : String) (s s' : Firestore) (hempty : EmptyBag uid orderId s)
    (calls : List AddCall) (hrun : addsFrom uid s calls = some s') (d : Doc)
    (hd : s'.lookup (orderRef uid orderId) = some d) :
    ∃ fees, ShowsFees d fees ∧ AddsUp fees ∧
      totalSection (Order.init orderId d) = totalLines fees ∧
      LinesAddUp (totalSection (Order.init orderId d)) := by
  -- the bag decodes, and its order shows the fees of one number
  have hinv := run_invariant (fun s => BagPriced uid orderId s ∧
      ∀ d, s.lookup (orderRef uid orderId) = some d → ∃ x, ShowsFees d (serviceFee x))
    (fun s c s₁ hs hc => ?_) ⟨hempty.priced, fun d hd => by rw [hempty.order] at hd; cases hd⟩ hrun
  · obtain ⟨x, hx⟩ := hinv.2 d hd
    have hsum := addsUp_serviceFee x
    have hlines := hx.totalSection orderId
    exact ⟨_, hx, hsum, hlines, hlines ▸ hsum.linesAddUp⟩
  · obtain ⟨hp, hshows⟩ := hs
    have hadd := addStep_eq_some.mp hc
    by_cases ho : c.orderId = orderId
    · refine ⟨bagPriced_of_completed ho hp hadd, ?_⟩
      obtain ⟨order, horder, hadded⟩ := lookup_order_of_completed ho hp hadd
      intro d hd
      rw [horder] at hd
      cases hd
      exact ⟨_, hadded.showsFees hshows⟩
    · have hsame := sameBag_of_completed ho hadd
      refine ⟨hsame.priced hp, ?_⟩
      rw [hsame.order]
      exact hshows

/-- The bag of soup and bread. -/
theorem order_adds_up_soup : ∃ s' d, addsFrom "uid" ∅ [soupCall, breadCall] = some s' ∧
    s'.lookup (orderRef "uid" "bag") = some d ∧ ∃ fees, ShowsFees d fees ∧ AddsUp fees ∧
      totalSection (Order.init "bag" d) = totalLines fees ∧
      LinesAddUp (totalSection (Order.init "bag" d)) := by
  have hsome : ((addsFrom "uid" ∅ [soupCall, breadCall]).bind fun s =>
      s.lookup (orderRef "uid" "bag")).isSome := by decide +kernel
  obtain ⟨d, hd⟩ := Option.isSome_iff_exists.mp hsome
  obtain ⟨s', hs', hd⟩ := Option.bind_eq_some_iff.mp hd
  exact ⟨s', d, hs', hd, order_adds_up "uid" "bag" ∅ s'
    ⟨Finmap.lookup_empty _, fun _ => Finmap.lookup_empty _⟩ [soupCall, breadCall] hs' d hd⟩

end Lidora
