import Lidora.OneChef
import Lidora.DroppedTaps

/-! # The views of the bag

`CardViewController` lays four views over each other: the empty view, the list of the bag, the
dish on show and the two buttons.  The `didSet` of `cardState` hides some of them and leaves the
others as they are, `curtain(_:didChange:)` does the same for the height that the bag is pulled
to, and every completion may change the state while the curtain stands where it is.  So what is
hidden depends on the order of all this.

`bag_views` says what can come of it: `MayShow` holds of the state and the views of every
screen in every run, and each combination that it allows is seen in some run.  The list and the
buttons are shown together, and only while the bag is filled; then neither the empty view nor the
dish is.  But the empty view and the dish are shown over each other in two of the states.
-/
namespace Lidora
open DocumentStore Runs

/-- What the views may be in a state of the bag. -/
def MayShow : CardState → Hidden → Prop
  | .none, hidden => hidden.collectionView ∧ hidden.overView ∧ hidden.proceedView
  | .empty, hidden => hidden.collectionView ∧ hidden.proceedView
  | .notEmpty, hidden =>
    hidden.emptyView ∧ hidden.overView ∧ hidden.collectionView = hidden.proceedView
  | .overview, hidden => hidden.collectionView ∧ hidden.overView = false ∧ hidden.proceedView

namespace Screen
variable {uid : String} {store : Firestore} {s s' : Screen}

/-- The state and the views of a screen agree. -/
def ViewsAgree (s : Screen) : Prop := MayShow s.cardState s.hidden

/-- The list and the buttons are shown together, and only in a filled bag. -/
theorem ViewsAgree.together (h : s.ViewsAgree) :
    s.hidden.collectionView = s.hidden.proceedView ∧
      (s.hidden.collectionView = false → s.cardState = .notEmpty) := by
  unfold ViewsAgree MayShow at h
  split at h
  · simp [h]
  · simp [h]
  · rename_i hstate
    exact ⟨h.2.2, fun _ => hstate⟩
  · simp [h]

/-- The `didSet` of `cardState`. -/
theorem viewsAgree_setCardState (h : s.ViewsAgree) (state : CardState) :
    (s.setCardState state).ViewsAgree := by
  cases state with
  | none => exact ⟨rfl, rfl, rfl⟩
  | empty => exact ⟨rfl, rfl⟩
  | notEmpty => exact ⟨rfl, rfl, h.together.1⟩
  | overview => exact ⟨rfl, rfl, rfl⟩

/-- A change of anything else. -/
theorem ViewsAgree.fetchOrder (h : s.ViewsAgree) : s.fetchOrder.ViewsAgree := by
  unfold Screen.fetchOrder
  split <;> exact h

theorem ViewsAgree.fetchPrimaryCard (h : s.ViewsAgree) : s.fetchPrimaryCard.ViewsAgree := by
  unfold Screen.fetchPrimaryCard
  split <;> exact h

theorem ViewsAgree.userFetched (h : s.ViewsAgree) (uid : String) (snapshot : Option Doc) :
    (s.userFetched uid snapshot).ViewsAgree := by
  unfold Screen.userFetched
  cases snapshot with
  | none => exact h
  | some data =>
    have hfetched : ({ { s with userFetches := s.userFetches - 1 } with
        user := some (User.init uid data) } : Screen).ViewsAgree := h
    exact hfetched.fetchOrder.fetchPrimaryCard

theorem ViewsAgree.cardFetched (h : s.ViewsAgree) (k : ℕ) (id : String) (snapshot : Option Doc) :
    (s.cardFetched k id snapshot).ViewsAgree := by
  unfold Screen.cardFetched
  cases snapshot <;> exact h

theorem ViewsAgree.orderSnapshot (h : s.ViewsAgree) (id : String) (snapshot : Option Doc) :
    (s.orderSnapshot id snapshot).ViewsAgree := by
  unfold Screen.orderSnapshot
  cases snapshot with
  | none => exact viewsAgree_setCardState h .none
  | some data => exact h

theorem ViewsAgree.receive (h : s.ViewsAgree) {order : Order} {menu : Menu}
    (hreceive : s.receive order menu = some s') : s'.ViewsAgree := by
  unfold Screen.receive at hreceive
  split at hreceive
  · rename_i quantity providerName hquantity hname
    cases hreceive
    have hstate := viewsAgree_setCardState (s := { s with
      title := some ("View Bag - " ++ toString quantity)
      overView := { s.overView with order := some order } }) h .notEmpty
    exact hstate
  · cases hreceive

theorem ViewsAgree.itemsSnapshot {order : Order} {items : List (String × Doc)} (h : s.ViewsAgree)
    (hitems : s.itemsSnapshot order items = some s') : s'.ViewsAgree := by
  induction items generalizing s with
  | nil =>
    cases hitems
    exact h
  | cons item items ih =>
    simp only [Screen.itemsSnapshot, List.foldlM_cons, Option.bind_eq_bind,
      Option.bind_eq_some_iff] at hitems
    obtain ⟨s₁, h₁, hitems⟩ := hitems
    exact ih (h.receive h₁) hitems

/-- **What the curtain does**: in a filled bag it shows or hides the list and the buttons, and
elsewhere the empty view. -/
theorem ViewsAgree.curtain (h : s.ViewsAgree) (height : CurtainHeight) :
    (s.curtain height).ViewsAgree := by
  unfold ViewsAgree at h
  -- by the state before; the dish on show alone changes it
  cases hstate : s.cardState with
  | none =>
    rw [hstate] at h
    cases height with
    | hide => simpa [Screen.curtain, ViewsAgree, hstate] using h
    | min | mid | max => simpa [Screen.curtain, ViewsAgree, MayShow, hstate] using h.2
  | empty =>
    rw [hstate] at h
    cases height with
    | hide => simpa [Screen.curtain, ViewsAgree, hstate] using h
    | min | mid | max => simpa [Screen.curtain, ViewsAgree, MayShow, hstate] using h.2
  | notEmpty =>
    rw [hstate] at h
    cases height with
    | hide => simpa [Screen.curtain, ViewsAgree, hstate] using h
    | min => simpa [Screen.curtain, ViewsAgree, MayShow, hstate] using h.2.1
    | mid | max => simpa [Screen.curtain, ViewsAgree, MayShow, hstate] using ⟨h.1, h.2.1⟩
  | overview =>
    rw [hstate] at h
    cases height with
    | hide => simpa [Screen.curtain, ViewsAgree, hstate] using h
    | min => simp [Screen.curtain, ViewsAgree, MayShow, hstate, setCardState]
    | mid | max => simpa [Screen.curtain, ViewsAgree, MayShow, hstate] using h.2.2

theorem ViewsAgree.didSelect {menu : Menu} {chef : Option Chef} {front : Bool} (h : s.ViewsAgree)
    (hselect : s.didSelect menu chef front = some s') : s'.ViewsAgree := by
  unfold Screen.didSelect at hselect
  split at hselect
  · cases hselect
  · simp only at hselect
    split at hselect
    · cases hselect
      exact ⟨rfl, rfl, rfl⟩
    · cases hselect
      exact h

theorem ViewsAgree.addToOrder {item : Menu} {quantity : ℤ} {total : ℚ} (h : s.ViewsAgree)
    (hs : s' ∈ (s.addToOrder item quantity total).screen) : s'.ViewsAgree := by
  unfold Screen.addToOrder at hs
  simp only at hs
  split at hs <;>
  · cases hs
    exact viewsAgree_setCardState h .notEmpty

theorem ViewsAgree.tapAddToOrder (h : s.ViewsAgree) (hs : s' ∈ s.tapAddToOrder.screen) :
    s'.ViewsAgree := by
  unfold Screen.tapAddToOrder at hs
  split at hs
  · cases hs
    exact h
  · split at hs
    · cases hs
      exact h
    · split at hs
      · cases hs
      · obtain ⟨s₁, hs₁, rfl⟩ := Option.map_eq_some_iff.mp hs
        have hadded : s₁.ViewsAgree := h.addToOrder hs₁
        exact hadded

theorem ViewsAgree.tapPlaceOrder (h : s.ViewsAgree) (hs : s' ∈ s.tapPlaceOrder.screen) :
    s'.ViewsAgree := by
  unfold Screen.tapPlaceOrder at hs
  simp only at hs
  split at hs <;>
  · cases hs
    exact h

theorem ViewsAgree.hear (h : s.ViewsAgree) {a : Answer} (hhear : s.hear a = some s') :
    s'.ViewsAgree := by
  unfold Screen.hear at hhear
  split at hhear
  · cases hhear
    exact h.fetchOrder
  · cases hhear
    exact h
  · cases hhear
    exact ⟨rfl, rfl⟩
  · cases hhear
    exact h
  · cases hhear
    exact ⟨rfl, rfl⟩
  · cases hhear
    exact h
  · cases hhear

/-- **One event on a screen.** -/
theorem ViewsAgree.act {e : ScreenEvent} {turn : Turn} (h : s.ViewsAgree)
    (hact : s.act uid store e = some turn) (hs : s' ∈ turn.screen) : s'.ViewsAgree := by
  cases act_cases hact hs with
  | userFetched => exact h.userFetched uid _
  | cardFetched k id => exact h.cardFetched k id _
  | orderSnapshot hlistener => exact h.orderSnapshot _ _
  | itemsSnapshot hlistener hitems => exact h.itemsSnapshot hitems
  | orderFailed k => exact viewsAgree_setCardState h .none
  | itemsFailed k => exact viewsAgree_setCardState h .none
  | curtain height => exact h.curtain height
  | didSelect hselect => exact h.didSelect hselect
  | addToOrder hadded => exact h.tapAddToOrder hadded
  | clearOrder =>
    unfold tapClearOrder
    simp only
    split <;> exact h
  | placeOrder hplaced => exact h.tapPlaceOrder hplaced
  -- what is left touches neither the state nor a view
  | _ => exact h

end Screen

/-! ## Runs -/

section
variable {D : Type} [DecidableEq D] {uid orderId : String} {s s' : BagSystem D orderId}

/-- On every screen the state and the views agree. -/
def AllViewsAgree (s : BagSystem D orderId) : Prop := ∀ d, ∀ screen ∈ s.screens d, screen.ViewsAgree

theorem allViewsAgree_step (h : AllViewsAgree s) {e : SystemEvent D}
    (hstep : systemStep uid s e = some s') : AllViewsAgree s' := by
  intro d screen' hscreen'
  rcases systemStep_cases hstep with ⟨d', e', screen, turn, -, hscreen, hturn, hscreens, -⟩ |
    ⟨n, r, -, -, hscreens⟩ | ⟨k, d', a, -, -, -, hscreens⟩
  · rw [hscreens] at hscreen'
    by_cases hd : d = d'
    · subst hd
      rw [Function.update_self] at hscreen'
      exact (h d screen hscreen).act hturn hscreen'
    · rw [Function.update_of_ne hd] at hscreen'
      exact h d screen' hscreen'
  · rw [hscreens] at hscreen'
    exact h d screen' hscreen'
  · rw [hscreens] at hscreen'
    by_cases hd : d = d'
    · subst hd
      rw [Function.update_self] at hscreen'
      obtain ⟨screen, hscreen, hhear⟩ := Option.bind_eq_some_iff.mp hscreen'
      exact (h d screen hscreen).hear hhear
    · rw [Function.update_of_ne hd] at hscreen'
      exact h d screen' hscreen'

end

/-! ## What can be seen -/

/-- What a run of one device shows in the end. -/
def shown (store : Firestore) (es : List (SystemEvent Unit)) : Option (CardState × Hidden) :=
  (run (systemStep "uid") (BagSystem.initial "bag" store) es).bind fun t =>
    (t.screens ()).map fun screen => (screen.cardState, screen.hidden)

/-- Soup is added, and the bag that holds it is cleared, on the screen that shows it. -/
def soupCleared : List (SystemEvent Unit) :=
  [.screen () .fetchData, .screen () (.userFetched true)] ++ select (sampleDish "soup" 10) "ana" 0 ++
    [.screen () (.orderSnapshot 0 true), .screen () (.itemsSnapshot 0 true),
      .screen () (.curtain .mid), .screen () .clearOrder, .screen () .confirmClear,
      .reply 1 .items, .reply 1 (.deleted true), .reply 1 (.deleted true)]

/-- Soup is selected. -/
def soupOnShow : SystemEvent Unit :=
  .screen () (.didSelect (sampleDish "soup" 10) (some (sampleChef "ana")) true)

/-- Events that lead to a state and its views. -/
def eventsTo : CardState → Hidden → List (SystemEvent Unit)
  | .none, hidden =>
    [.screen () .fetchData, .screen () (.userFetched true), .screen () (.orderSnapshot 0 true)] ++
      if hidden.emptyView then [] else [.screen () (.curtain .mid)]
  | .empty, hidden =>
    soupCleared ++ (if hidden.overView then [] else [soupOnShow]) ++ [.answer 0] ++
      if hidden.emptyView then [.screen () (.curtain .min)] else []
  | .notEmpty, hidden =>
    [soupOnShow, .screen () .addToOrder] ++
      if hidden.collectionView then [] else [.screen () (.curtain .mid)]
  | .overview, hidden =>
    soupOnShow :: if hidden.emptyView then [] else [.screen () (.curtain .mid)]

theorem shown_eventsTo (state : CardState) (hidden : Hidden) (h : MayShow state hidden) :
    shown customerStore (eventsTo state hidden) = some (state, hidden) := by
  obtain ⟨emptyView, collectionView, overView, proceedView⟩ := hidden
  cases state with
  | none =>
    obtain ⟨rfl, rfl, rfl⟩ : collectionView = true ∧ overView = true ∧ proceedView = true := h
    cases emptyView <;> decide +kernel
  | empty =>
    obtain ⟨rfl, rfl⟩ : collectionView = true ∧ proceedView = true := h
    cases emptyView <;> cases overView <;> decide +kernel
  | notEmpty =>
    obtain ⟨rfl, rfl, rfl⟩ : emptyView = true ∧ overView = true ∧ collectionView = proceedView := h
    cases collectionView <;> decide +kernel
  | overview =>
    obtain ⟨rfl, rfl, rfl⟩ : collectionView = true ∧ overView = false ∧ proceedView = true := h
    cases emptyView <;> decide +kernel

/-- **What the bag shows.**  In every run of any number of devices, the views of every screen
are among those that `MayShow` allows for its state; and each of these is seen, in some run. -/
theorem bag_views :
    (∀ (D : Type) [DecidableEq D] (uid orderId : String) (store : Firestore)
      (es : List (SystemEvent D)) (t : BagSystem D orderId),
      run (systemStep uid) (BagSystem.initial orderId store) es = some t →
        ∀ d, ∀ screen ∈ t.screens d, MayShow screen.cardState screen.hidden) ∧
    ∀ state hidden, MayShow state hidden →
      ∃ (store : Firestore) (es : List (SystemEvent Unit)) (t : BagSystem Unit "bag"),
        run (systemStep "uid") (BagSystem.initial "bag" store) es = some t ∧
          ∃ screen ∈ t.screens (), screen.cardState = state ∧ screen.hidden = hidden := by
  constructor
  · intro D _ uid orderId store es t hrun
    refine run_invariant AllViewsAgree (fun _ _ _ h hstep => allViewsAgree_step h hstep) ?_ hrun
    intro d screen hscreen
    cases hscreen
    exact ⟨rfl, rfl, rfl⟩
  · intro state hidden hmay
    obtain ⟨t, hrun, hshown⟩ := Option.bind_eq_some_iff.mp (shown_eventsTo state hidden hmay)
    obtain ⟨screen, hscreen, heq⟩ := Option.map_eq_some_iff.mp hshown
    cases heq
    exact ⟨customerStore, eventsTo screen.cardState screen.hidden, t, hrun, screen, hscreen, rfl, rfl⟩

end Lidora
