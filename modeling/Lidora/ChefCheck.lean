import Lidora.DroppedTaps
import Lidora.OneChef

/-! # The check of the chef

`OverView.addToOrder` compares the chef of the dish with its copy of the order when the button
is tapped, and the transaction commits later, without looking again.  Both chefs that the
screen keeps, the view's and the bag's, are the same one (`Screen.SameChef`), so the check is
about the chef whose dish is added.

`chef_checked` says when that is enough: if every tap finds a copy of the stored order, or an
empty bag, and no order is created while a dish of another chef is on its way, then every add
that commits joins an order of its own chef.  An order that is cleared and filled again in
between is one that is created.
-/
namespace Lidora
open DocumentStore Runs

/-- The view's copy is of the stored order, as far as its chef goes; where no order is stored,
the bag is empty. -/
def CopyCurrent (uid orderId : String) (s : Firestore) (v : OverView) : Prop :=
  match s.lookup (orderRef uid orderId) with
  | some order => ∃ providerId ∈ v.order.bind Order.providerId,
      order "provider_id" = some (.string providerId)
  | none => s.documents (itemsRef uid orderId) = []

/-- The chef is the bag's, or the bag has none. -/
def BagChef (uid orderId : String) (s : Firestore) (chefId : String) : Prop :=
  match s.lookup (orderRef uid orderId) with
  | some order => order "provider_id" = some (.string chefId)
  | none => ∀ id item, s.lookup (itemRef uid orderId id) = some item →
      item "destination" = some (.string chefId)

/-- The chef whose dish an operation adds. -/
def BagOp.chefId {orderId : String} : BagOp orderId → Option String
  | .adding c _ => some c.chef.id
  | _ => none

section
variable {D : Type} (uid : String) {orderId : String}

/-- An add that creates the order commits while no dish of another chef is on its way. -/
def CreatesAlone (s : BagState D orderId) (n : ℕ) : Reply → Prop
  | .committed => s.store.lookup (orderRef uid orderId) = none →
      ∀ x ∈ s.ops.running n, ∀ a ∈ x.2.chefId,
        ∀ m < s.ops.started, ∀ y ∈ s.ops.running m, ∀ b ∈ y.2.chefId, b = a
  | _ => True

/-- A tap on "Add to bag" finds a current copy on its screen, and no dish of another chef is on
its way while an order is created. -/
def CheckedInTime (s : BagSystem D orderId) : SystemEvent D → Prop
  | .screen d .addToOrder => ∀ screen ∈ s.screens d,
      CopyCurrent uid orderId s.service.store screen.overView
  | .reply n r => CreatesAlone uid s.service n r
  | _ => True

instance (s : Firestore) (v : OverView) : Decidable (CopyCurrent uid orderId s v) := by
  unfold CopyCurrent
  split <;> infer_instance

instance (s : BagState D orderId) (n : ℕ) : (r : Reply) → Decidable (CreatesAlone uid s n r)
  | .committed => inferInstanceAs (Decidable (s.store.lookup (orderRef uid orderId) = none →
      ∀ x ∈ s.ops.running n, ∀ a ∈ x.2.chefId,
        ∀ m < s.ops.started, ∀ y ∈ s.ops.running m, ∀ b ∈ y.2.chefId, b = a))
  | .trapped | .failed | .items | .deleted _ | .bag _ | .token _ | .written _ => isTrue trivial

instance (s : BagSystem D orderId) : (e : SystemEvent D) → Decidable (CheckedInTime uid s e)
  | .screen d .addToOrder => inferInstanceAs (Decidable (∀ screen ∈ s.screens d,
      CopyCurrent uid orderId s.service.store screen.overView))
  | .reply n r => inferInstanceAs (Decidable (CreatesAlone uid s.service n r))
  | .screen _ .fetchData | .screen _ (.userFetched _) | .screen _ (.cardFetched _ _)
  | .screen _ (.orderSnapshot _ _) | .screen _ (.itemsSnapshot _ _) | .screen _ (.curtain _)
  | .screen _ (.didSelect _ _ _) | .screen _ (.stepTo _) | .screen _ .clearOrder
  | .screen _ .confirmClear | .screen _ .cancelAlert | .screen _ .placeOrder
  | .screen _ (.switchCard _) | .answer _ => isTrue trivial

end

/-! ## The chefs of a screen -/

namespace Screen

/-- The chef that the view checks is the one whose dish is added. -/
def SameChef (s : Screen) : Prop := s.overView.chef = s.chef

@[simp] theorem sameChef_setCardState (s : Screen) (state : CardState) :
    (s.setCardState state).SameChef ↔ s.SameChef := by
  cases state <;> exact Iff.rfl

@[simp] theorem sameChef_fetchOrder (s : Screen) : s.fetchOrder.SameChef ↔ s.SameChef := by
  unfold fetchOrder
  split <;> exact Iff.rfl

@[simp] theorem sameChef_fetchPrimaryCard (s : Screen) :
    s.fetchPrimaryCard.SameChef ↔ s.SameChef := by
  unfold fetchPrimaryCard
  split <;> exact Iff.rfl

theorem sameChef_userFetched (s : Screen) (uid : String) (snapshot : Option Doc) :
    (s.userFetched uid snapshot).SameChef ↔ s.SameChef := by
  unfold userFetched
  cases snapshot with
  | none => exact Iff.rfl
  | some d =>
    simp only [sameChef_fetchPrimaryCard, sameChef_fetchOrder]
    exact Iff.rfl

theorem sameChef_cardFetched (s : Screen) (k : ℕ) (id : String) (snapshot : Option Doc) :
    (s.cardFetched k id snapshot).SameChef ↔ s.SameChef := by
  unfold cardFetched
  cases snapshot <;> exact Iff.rfl

theorem sameChef_orderSnapshot (s : Screen) (id : String) (snapshot : Option Doc) :
    (s.orderSnapshot id snapshot).SameChef ↔ s.SameChef := by
  unfold orderSnapshot
  cases snapshot with
  | none => exact sameChef_setCardState s .none
  | some d => exact Iff.rfl

theorem sameChef_receive {s s' : Screen} {order : Order} {menu : Menu}
    (h : s.receive order menu = some s') : s'.SameChef = s.SameChef := by
  unfold receive at h
  split at h
  · cases h
    rfl
  · cases h

theorem sameChef_curtain (s : Screen) (height : CurtainHeight) :
    (s.curtain height).SameChef ↔ s.SameChef := by
  unfold curtain
  cases height <;> simp only <;> split <;> split <;> exact Iff.rfl

theorem sameChef_tapPlaceOrder {s s' : Screen} (h : s' ∈ s.tapPlaceOrder.screen) :
    s'.SameChef ↔ s.SameChef := by
  unfold tapPlaceOrder at h
  simp only at h
  split at h <;> cases h <;> exact Iff.rfl

theorem sameChef_hear {s s' : Screen} {a : Answer} (h : s.hear a = some s') :
    s'.SameChef ↔ s.SameChef := by
  unfold hear at h
  split at h <;> cases h <;> first | exact Iff.rfl | exact sameChef_fetchOrder s

/-- A dish is selected with its chef, for the view and the bag alike. -/
theorem SameChef.didSelect {s s' : Screen} {menu : Menu} {chef : Option Chef} {front : Bool}
    (h : s.SameChef) (hs : s.didSelect menu chef front = some s') : s'.SameChef := by
  unfold Screen.didSelect at hs
  split at hs
  · cases hs
  · simp only at hs
    split at hs <;> cases hs
    · rfl
    · exact h

theorem sameChef_addToOrder {s s' : Screen} {item : Menu} {quantity : ℤ} {total : ℚ}
    (h : s' ∈ (s.addToOrder item quantity total).screen) : s'.SameChef ↔ s.SameChef := by
  unfold addToOrder at h
  simp only at h
  split at h <;> cases h <;> exact Iff.rfl

theorem sameChef_tapAddToOrder {s s' : Screen} (h : s' ∈ s.tapAddToOrder.screen) :
    s'.SameChef ↔ s.SameChef := by
  unfold tapAddToOrder at h
  split at h
  · cases h
    exact Iff.rfl
  · split at h
    · cases h
      exact Iff.rfl
    · split at h
      · cases h
      · obtain ⟨s₁, hs₁, rfl⟩ := Option.map_eq_some_iff.mp h
        have hsame : s₁.SameChef ↔ s.SameChef := sameChef_addToOrder hs₁
        exact hsame

/-- **The two chefs stay the same.** -/
theorem SameChef.act {uid : String} {store : Firestore} {s s' : Screen} {e : ScreenEvent}
    {turn : Turn} (h : s.SameChef) (hturn : s.act uid store e = some turn)
    (hs : s' ∈ turn.screen) : s'.SameChef := by
  cases act_cases hturn hs with
  | userFetched => exact (sameChef_userFetched s uid _).mpr h
  | cardFetched k id => exact (sameChef_cardFetched s k id _).mpr h
  | orderSnapshot hlistener => exact (sameChef_orderSnapshot s _ _).mpr h
  | itemsSnapshot hlistener hitems =>
    exact (itemsSnapshot_keeps SameChef (fun _ _ _ => sameChef_receive) hitems).mpr h
  | orderFailed k => exact (sameChef_setCardState s .none).mpr h
  | itemsFailed k => exact (sameChef_setCardState s .none).mpr h
  | curtain height => exact (sameChef_curtain s height).mpr h
  | didSelect hselect => exact h.didSelect hselect
  | addToOrder htap => exact (sameChef_tapAddToOrder htap).mpr h
  | clearOrder =>
    unfold tapClearOrder
    simp only
    split <;> exact h
  | placeOrder htap => exact (sameChef_tapPlaceOrder htap).mpr h
  -- what is left does not touch a chef
  | _ => exact h

/-- A dish is only asked for by a tap on "Add to bag". -/
theorem act_addItem {uid : String} {store : Firestore} {s : Screen} {e : ScreenEvent}
    {turn : Turn} {c : AddCall} (h : s.act uid store e = some turn)
    (hcall : turn.call = some (.addItemToOrder c)) :
    e = .addToOrder ∧ s.tapAddToOrder.call = some (.addItemToOrder c) := by
  cases e with
  | addToOrder =>
    simp only [act] at h
    split at h <;> cases h
    exact ⟨rfl, hcall⟩
  | placeOrder =>
    simp only [act] at h
    split at h <;> cases h
    unfold tapPlaceOrder at hcall
    simp only at hcall
    split at hcall <;> cases hcall
  | confirmClear =>
    simp only [act] at h
    split at h <;> cases h
    cases hcall
  | fetchData | curtain _ | didSelect _ _ _ | switchCard _ =>
    cases h
    cases hcall
  | userFetched _ | cardFetched _ _ | orderSnapshot _ _ | itemsSnapshot _ _ | stepTo _ | clearOrder
  | cancelAlert =>
    simp only [act] at h
    repeat' split at h
    all_goals cases h
    all_goals cases hcall

/-- The tap has passed the check, and asks for a dish of the screen's chef. -/
theorem tapAddToOrder_call {s : Screen} {c : AddCall}
    (h : s.tapAddToOrder.call = some (.addItemToOrder c)) :
    otherChef s.overView = false ∧ s.chef = some c.chef := by
  unfold tapAddToOrder at h
  split at h
  · cases h
  · split at h
    · cases h
    · rename_i hother
      split at h
      · cases h
      · simp only [addToOrder] at h
        split at h
        · rename_i chef bagId hchef horder
          cases h
          exact ⟨Bool.eq_false_iff.mpr hother, (chef_setCardState s .notEmpty).symm.trans hchef⟩
        · cases h

/-- Where the copy is current, a tap that passes adds a dish of the bag's chef. -/
theorem bagChef_of_tap {uid orderId : String} {store : Firestore} {s : Screen} {c : AddCall}
    (h : s.SameChef) (hcopy : CopyCurrent uid orderId store s.overView)
    (hcall : s.tapAddToOrder.call = some (.addItemToOrder c)) :
    BagChef uid orderId store c.chef.id := by
  obtain ⟨hpassed, hchef⟩ := tapAddToOrder_call hcall
  have hview : s.overView.chef = some c.chef := by rw [h, hchef]
  unfold CopyCurrent at hcopy
  unfold BagChef
  cases horder : store.lookup (orderRef uid orderId) with
  | none =>
    rw [horder] at hcopy
    intro id item hitem
    have hmem : itemRef uid orderId id ∈ store.documents (itemsRef uid orderId) :=
      Firestore.mem_documents.mpr ⟨isItem_itemRef uid orderId id, by rw [hitem]; rfl⟩
    rw [hcopy] at hmem
    cases hmem
  | some order =>
    rw [horder] at hcopy
    obtain ⟨providerId, hprovider, hstored⟩ := hcopy
    -- the check has compared the chef with the copy's
    have hsame : c.chef.id = providerId := by
      simpa [otherChef, Option.mem_def.mp hprovider, hview] using hpassed
    rw [hsame]
    exact hstored

end Screen

/-! ## The bag's chef -/

section
variable {D : Type} {uid orderId : String} {s s' : Firestore}

theorem BagChef.fromBagChef {c : AddCall} (h : BagChef uid orderId s c.chef.id) :
    FromBagChef uid orderId s c := by
  unfold BagChef at h
  unfold FromBagChef
  cases horder : s.lookup (orderRef uid orderId) with
  | none =>
    rw [horder] at h
    exact h
  | some order =>
    rw [horder] at h
    exact Or.inr h

theorem SameBag.bagChef {chefId : String} (hsame : SameBag uid orderId s s')
    (h : BagChef uid orderId s chefId) : BagChef uid orderId s' chefId := by
  unfold BagChef at h ⊢
  rw [hsame.order]
  simp only [hsame.item]
  exact h

/-- A deleted order leaves items of its chef. -/
theorem BagChef.erase {chefId : String} (h : BagChef uid orderId s chefId)
    (hone : OneChef uid orderId s) (p : Path) : BagChef uid orderId (s.erase p) chefId := by
  unfold BagChef at h ⊢
  cases herased : (s.erase p).lookup (orderRef uid orderId) with
  | some order =>
    rw [(lookup_of_erase herased).2] at h
    exact h
  | none =>
    intro id item hitem
    have hstored := (lookup_of_erase hitem).2
    cases horder : s.lookup (orderRef uid orderId) with
    | some order =>
      rw [horder] at h
      rw [hone.provider order id item horder hstored]
      exact h
    | none =>
      rw [horder] at h
      exact h id item hstored

theorem BagChef.delete {s : BagState D orderId} {chefId : String}
    (h : BagChef uid orderId s.store chefId) (hone : OneChef uid orderId s.store) (p : Path)
    (ok : Bool) : BagChef uid orderId (s.delete p ok).store chefId := by
  cases ok with
  | true => exact h.erase hone p
  | false => exact h

/-- An add leaves the chef of the bag, or gives it its own. -/
theorem BagChef.completed {c : AddCall} {chefId : String} (ho : c.orderId = orderId)
    (hp : BagPriced uid orderId s) (hadd : addItemToOrder uid c s = .completed s')
    (h : BagChef uid orderId s chefId)
    (hcreated : s.lookup (orderRef uid orderId) = none → chefId = c.chef.id) :
    BagChef uid orderId s' chefId := by
  obtain ⟨order', horder', horderAdded⟩ := lookup_order_of_completed ho hp hadd
  have hprovider := horderAdded.providerId
  unfold BagChef at h ⊢
  rw [horder']
  cases horder : s.lookup (orderRef uid orderId) with
  | some order =>
    rw [horder] at h
    rw [horder, Option.elim_some] at hprovider
    exact hprovider.trans h
  | none =>
    rw [horder, Option.elim_none] at hprovider
    rw [hcreated horder]
    exact hprovider

end

/-! ## Runs -/

section
variable {D : Type} {uid orderId : String}

/-- **The invariant**: each dish that is on its way is one of the bag's chef. -/
structure ChefInv (uid : String) (s : BagState D orderId) : Prop where
  priced : BagPriced uid orderId s.store
  oneChef : OneChef uid orderId s.store
  adds : ∀ n x, s.ops.running n = some x → ∀ a ∈ x.2.chefId, BagChef uid orderId s.store a

theorem ChefInv.commits {s : BagState D orderId} (h : ChefInv uid s) (n : ℕ) (r : Reply) :
    CommitsFromBagChef uid s n r := by
  cases r with
  | committed =>
    intro x hx c ho hop
    exact (h.adds n x hx c.chef.id (by rw [hop]; rfl)).fromBagChef
  | _ => trivial

/-- The invariant is about the store and the adds in flight. -/
theorem ChefInv.frame {s s' : BagState D orderId} (h : ChefInv uid s)
    (hp : BagPriced uid orderId s'.store) (hone : OneChef uid orderId s'.store)
    (hstore : ∀ a, BagChef uid orderId s.store a → BagChef uid orderId s'.store a)
    (hops : ∀ n x, s'.ops.running n = some x → x.2.chefId = none ∨ s.ops.running n = some x) :
    ChefInv uid s' := by
  refine ⟨hp, hone, fun n x hx a ha => ?_⟩
  rcases hops n x hx with hnone | hx
  · rw [hnone] at ha
    cases ha
  · exact hstore a (h.adds n x hx a ha)

/-- An operation that goes on adds nothing. -/
theorem chefId_put {s : BagState D orderId} {n m : ℕ} {x y z : D × BagOp orderId}
    (hrun : s.ops.running n = some z) (hnone : y.2.chefId = none)
    (hx : (s.ops.put n y).running m = some x) : x.2.chefId = none ∨ s.ops.running m = some x := by
  rcases InFlight.put_cases hrun hx with ⟨-, rfl⟩ | ⟨-, hx⟩
  · exact Or.inl hnone
  · exact Or.inr hx

theorem ChefInv.reply {s s' : BagState D orderId} (h : ChefInv uid s) {n : ℕ} {r : Reply}
    (halone : CreatesAlone uid s n r) (hstep : bagStep uid s (.reply n r) = some s') :
    ChefInv uid s' := by
  have hp := bagPriced_step h.priced hstep
  have hone := (oneChef_reply h.priced h.oneChef hstep).mpr (h.commits n r)
  rcases bagStep_cases hstep with ⟨d, c, he, -⟩ | ⟨n', r', d, op, he, hrun, hmoved⟩ | ⟨k, he, -⟩
  · cases he
  · cases he
    cases hmoved with
    | ended answers hcommit hwritten hclear =>
      exact h.frame hp hone (fun _ ha => ha) fun m x hx => Or.inr (InFlight.finish_cases hx).2
    | @committed c ho store hadd =>
      refine ⟨hp, hone, fun m x hx a ha => ?_⟩
      obtain ⟨-, hx⟩ := InFlight.finish_cases hx
      refine (h.adds m x hx a ha).completed ho h.priced hadd fun hnone => ?_
      exact halone hnone _ hrun c.chef.id rfl m (InFlight.lt_started hx) x hx a ha
    | queried =>
      exact h.frame hp hone (fun _ ha => ha) fun m x hx => chefId_put hrun rfl hx
    | deletedItem item items ok =>
      exact h.frame hp hone (fun a ha => ha.delete h.oneChef item ok)
        fun m x hx => chefId_put hrun rfl hx
    | deletedOrder ok =>
      exact h.frame hp hone (fun a ha => ha.delete h.oneChef _ ok)
        fun m x hx => Or.inr (InFlight.finish_cases hx).2
    | read created hread =>
      exact h.frame hp hone (fun _ ha => ha) fun m x hx => chefId_put hrun rfl hx
    | token hnew =>
      exact h.frame hp hone (fun _ ha => ha) fun m x hx => chefId_put hrun rfl hx
    | paid c token created covers =>
      exact h.frame hp hone (fun a ha => (sameBag_setMerge_payment _ _ _ _ _).bagChef ha)
        fun m x hx => Or.inr (InFlight.finish_cases hx).2
  · cases he

/-- A call may ask for a dish of the bag's chef. -/
theorem ChefInv.call {s s' : BagState D orderId} (h : ChefInv uid s) {d : D} {c : BagCall}
    (hcall : ∀ add, c = .addItemToOrder add → BagChef uid orderId s.store add.chef.id)
    (hstep : bagStep uid s (.call d c) = some s') : ChefInv uid s' := by
  have hstart : ∀ op : BagOp orderId, (∀ a ∈ op.chefId, BagChef uid orderId s.store a) →
      ChefInv uid (s.start d op) := by
    refine fun op hop => ⟨h.priced, h.oneChef, fun n x hx => ?_⟩
    rcases InFlight.start_cases hx with ⟨-, rfl⟩ | hx
    · exact hop
    · exact h.adds n x hx
  cases c with
  | addItemToOrder add =>
    simp only [bagStep, Lidora.call] at hstep
    split at hstep
    · split at hstep <;> cases hstep
      · refine hstart _ fun a ha => ?_
        cases ha
        exact hcall add rfl
      · exact h
    · cases hstep
  | clearOrder id =>
    simp only [bagStep, Lidora.call] at hstep
    split at hstep <;> cases hstep
    exact hstart _ fun a ha => by cases ha
  | placeOrder order card =>
    simp only [bagStep, Lidora.call] at hstep
    split at hstep <;> cases hstep
    exact hstart _ fun a ha => by cases ha

variable [DecidableEq D]

/-- The invariant of the system. -/
structure CheckedInv (uid : String) (s : BagSystem D orderId) : Prop where
  service : ChefInv uid s.service
  screens : ∀ d screen, s.screens d = some screen → screen.SameChef

theorem screens_update {screens : D → Option Screen} {d : D} {screen : Option Screen}
    (h : ∀ d screen, screens d = some screen → screen.SameChef)
    (hscreen : ∀ s ∈ screen, s.SameChef) :
    ∀ d' s, Function.update screens d screen d' = some s → s.SameChef := by
  intro d' s hs
  by_cases hd : d' = d
  · rw [hd, Function.update_self] at hs
    exact hscreen s hs
  · rw [Function.update_of_ne hd] at hs
    exact h d' s hs

theorem checkedInv_step {s s' : BagSystem D orderId} {e : SystemEvent D} (h : CheckedInv uid s)
    (he : CheckedInTime uid s e) (hstep : systemStep uid s e = some s') : CheckedInv uid s' := by
  cases e with
  | screen d e =>
    simp only [systemStep, Option.bind_eq_some_iff] at hstep
    obtain ⟨screen, hscreen, turn, hturn, hstep⟩ := hstep
    have hsame := h.screens d screen hscreen
    have hscreens := screens_update (d := d) h.screens fun s' hs' => hsame.act hturn hs'
    split at hstep
    · cases hstep
      exact ⟨h.service, hscreens⟩
    · rename_i c hcall
      obtain ⟨service, hservice, rfl⟩ := Option.map_eq_some_iff.mp hstep
      refine ⟨h.service.call (fun add hadd => ?_) hservice, hscreens⟩
      -- the tap has found a current copy
      obtain ⟨rfl, htap⟩ := Screen.act_addItem hturn (hcall.trans (congrArg some hadd))
      exact Screen.bagChef_of_tap hsame (he screen hscreen) htap
  | reply n r =>
    simp only [systemStep] at hstep
    obtain ⟨service, hservice, rfl⟩ := Option.map_eq_some_iff.mp hstep
    exact ⟨h.service.reply he hservice, h.screens⟩
  | answer k =>
    simp only [systemStep, Option.bind_eq_some_iff] at hstep
    obtain ⟨⟨d, a⟩, hanswer, hstep⟩ := hstep
    obtain ⟨service, hservice, rfl⟩ := Option.map_eq_some_iff.mp hstep
    refine ⟨?_, ?_⟩
    · simp only [bagStep] at hservice
      split at hservice <;> cases hservice
      exact ⟨h.service.priced, h.service.oneChef, h.service.adds⟩
    · refine screens_update h.screens fun s' hs' => ?_
      obtain ⟨screen, hscreen, hhear⟩ := Option.bind_eq_some_iff.mp hs'
      exact (Screen.sameChef_hear hhear).mpr (h.screens d screen hscreen)

/-- **The check is enough where it comes in time.**  In every run of any number of devices whose
taps find a current copy of the order, and whose orders are created while no dish of another chef
is on its way, each add that commits joins an order of its own chef, so that the bag keeps to
one. -/
theorem chef_checked {D : Type} [DecidableEq D] (uid orderId : String) (store : Firestore)
    (hp : BagPriced uid orderId store) (hone : OneChef uid orderId store)
    {es : List (SystemEvent D)}
    (h : Along (systemStep uid) (CheckedInTime uid) (BagSystem.initial orderId store) es) :
    Along (systemStep uid) (OnReplies (CommitsFromBagChef uid))
      (BagSystem.initial orderId store) es := by
  have hinit : CheckedInv uid (BagSystem.initial orderId store : BagSystem D orderId) := by
    refine ⟨⟨hp, hone, fun n x hx => nomatch hx⟩, fun d screen hscreen => ?_⟩
    cases hscreen
    rfl
  refine Along.of_invariant (CheckedInv uid) (fun s e s' hs he hstep =>
    checkedInv_step hs he hstep) (fun s e hs _ => ?_) h hinit
  cases e with
  | reply n r => exact hs.service.commits n r
  | screen d e => trivial
  | answer k => trivial

end

/-- The bag is shown before a second dish of Ana's is added. -/
def soupThenBread : List (SystemEvent Unit) :=
  [.screen () .fetchData, .screen () (.userFetched true)] ++
    select (sampleDish "soup" 10) "ana" 0 ++
    [.screen () (.orderSnapshot 1 true), .screen () (.itemsSnapshot 0 true)] ++
    select (sampleDish "bread" 5) "ana" 1

example : (run (systemStep "uid") (BagSystem.initial "bag" customerStore) soupThenBread).isSome ∧
    Along (systemStep "uid") (CheckedInTime "uid") (BagSystem.initial "bag" customerStore)
      soupThenBread := by
  decide +kernel

end Lidora
