import Lidora.Runs

/-! # The messages of a view

`showMessage` puts a message on a view, for three seconds or until it is tapped.  A view keeps
two of them: `installedMessage`, the one that is shown, and `uninstallMessage`, the one that is
sliding out.  Showing a message sends the installed one out first, and where another one is
still on its way the new message is dropped.

The same guard is what a message has to fear: `hide` does nothing as long as another message is
sliding out, and the timer of a message fires once.  A message whose timer fires in that moment
has been overlooked, and nothing but a tap or another message takes it away again
(`stays_iff`).  With timers and animations that end when they are due, and with a delay that is
longer than the animation, as the defaults have it, no message is overlooked, and none is on
the view for longer than the delay and the animation together (`none_outstays`).

Times are in nanoseconds, as `GS_GCDAfter` rounds them.  A message that is neither installed nor
sliding out has been released, and its timer does nothing (`[weak self]`): for such a message
the guard of `hide` fails as well.
-/
namespace Lidora
open Runs

/-- `GSMessageType`. -/
inductive GSMessageType where
  | success
  | error
  | warning
  | info
  deriving DecidableEq

/-- `GSMessageOption`, as far as it is about times and taps. -/
inductive GSMessageOption where
  | animationDuration (value : ℤ)
  | autoHide (value : Bool)
  | autoHideDelay (value : ℤ)
  | hideOnTap (value : Bool)

/-- `GSMessage`.  The number tells one message from another (`===`). -/
structure GSMessage where
  number : ℕ
  attributedText : String
  type : GSMessageType
  animationDuration : ℤ := 250000000
  autoHide : Bool := true
  autoHideDelay : ℤ := 3000000000
  hideOnTap : Bool := true
  deriving DecidableEq

/-- One `case` of the loop of `init`. -/
def GSMessage.set (m : GSMessage) : GSMessageOption → GSMessage
  | .animationDuration value => { m with animationDuration := value }
  | .autoHide value => { m with autoHide := value }
  | .autoHideDelay value => { m with autoHideDelay := value }
  | .hideOnTap value => { m with hideOnTap := value }

/-- `init(attributedText:type:options:inView:inViewController:)`. -/
def GSMessage.init (number : ℕ) (attributedText : String) (type : GSMessageType)
    (options : Option (List GSMessageOption)) : GSMessage :=
  (options.getD []).foldl GSMessage.set
    { number := number, attributedText := attributedText, type := type }

/-- A view with its messages, and what is going to happen to them. -/
structure InView where
  installedMessage : Option GSMessage
  uninstallMessage : Option GSMessage
  /-- The messages whose `containerView` is in the view, the latest last. -/
  subviews : List GSMessage
  /-- The closures that `GS_GCDAfter` holds, with their deadlines. -/
  timers : List (GSMessage × ℤ)
  /-- The animations of `hide` that have not completed, with their ends. -/
  animations : List (GSMessage × ℤ)
  /-- The messages that have been made. -/
  made : ℕ
  now : ℤ
  deriving DecidableEq

/-- A view without a message. -/
def InView.empty (now : ℤ) : InView := ⟨none, none, [], [], [], 0, now⟩

/-- `removeFromSuperview`. -/
def InView.removeFromSuperview (v : InView) (m : GSMessage) : InView :=
  { v with subviews := v.subviews.erase m, uninstallMessage := none }

/-- `GSMessage.hide`. -/
def InView.hide (v : InView) (m : GSMessage) (animated : Bool) : InView :=
  if v.installedMessage = some m ∧ v.uninstallMessage = none then
    let v := { v with uninstallMessage := some m, installedMessage := none }
    if animated then
      { v with animations := v.animations ++ [(m, v.now + m.animationDuration)] }
    else v.removeFromSuperview m
  else v

/-- `UIView.hideMessage`. -/
def InView.hideMessage (v : InView) (animated : Bool) : InView :=
  match v.installedMessage with
  | some m => v.hide m animated
  | none => v

/-- `GSMessage.show`. -/
def InView.show (v : InView) (m : GSMessage) : InView :=
  if v.installedMessage = none then
    { v with
      installedMessage := some m
      subviews := v.subviews ++ [m]
      timers := if m.autoHide then v.timers ++ [(m, v.now + m.autoHideDelay)] else v.timers }
  else v

/-- `showMessageAddedTo`. -/
def InView.showMessageAddedTo (v : InView) (text : String) (type : GSMessageType)
    (options : Option (List GSMessageOption)) : InView :=
  let v := if v.installedMessage ≠ none ∧ v.uninstallMessage = none then v.hideMessage true else v
  if v.installedMessage = none then
    InView.show { v with made := v.made + 1 } (.init v.made text type options)
  else v

/-- What happens to a view with messages. -/
inductive MessageEvent where
  | showMessage (text : String) (type : GSMessageType) (options : Option (List GSMessageOption))
  | hideMessage (animated : Bool)
  /-- `handleTapForHide`. -/
  | tap (m : GSMessage)
  /-- The closure that `GS_GCDAfter` holds runs, at its deadline or later. -/
  | autoHide (m : GSMessage) (deadline : ℤ)
  /-- An animation completes, at its end or, cut short, before. -/
  | hidden (m : GSMessage) (ends : ℤ)
  | wait (d : ℤ)

def messageStep (v : InView) : MessageEvent → Option InView
  | .showMessage text type options => some (v.showMessageAddedTo text type options)
  | .hideMessage animated => some (v.hideMessage animated)
  | .tap m => if m ∈ v.subviews ∧ m.hideOnTap then some (v.hide m true) else none
  | .autoHide m deadline =>
    if (m, deadline) ∈ v.timers ∧ deadline ≤ v.now then
      some (InView.hide { v with timers := v.timers.erase (m, deadline) } m true)
    else none
  | .hidden m ends =>
    if (m, ends) ∈ v.animations then
      some (InView.removeFromSuperview { v with animations := v.animations.erase (m, ends) } m)
    else none
  | .wait d => if 0 ≤ d then some { v with now := v.now + d } else none

/-- Time passes, a timer fires, an animation completes: nobody does anything. -/
def MessageEvent.ByItself : MessageEvent → Prop
  | .autoHide _ _ | .hidden _ _ | .wait _ => True
  | _ => False

/-- The timer of `m` fires in the run while another message is sliding out. -/
def Overlooked (v : InView) (es : List MessageEvent) (m : GSMessage) : Prop :=
  ∃ before after deadline u, es = before ++ .autoHide m deadline :: after ∧
    run messageStep v before = some u ∧ u.uninstallMessage ≠ none

/-- Time does not pass over a deadline, or over the end of an animation. -/
def Punctual (v : InView) : MessageEvent → Prop
  | .wait d => ∀ x ∈ v.timers ++ v.animations, v.now + d ≤ x.2
  | _ => True

/-- A message hides itself, after at most `delay`, with an animation of at most `duration`, which
is over before the message itself would have to go. -/
def GSMessage.Brief (duration delay : ℤ) (m : GSMessage) : Prop :=
  m.autoHide ∧ 0 ≤ m.animationDuration ∧ m.animationDuration ≤ duration ∧
    duration < m.autoHideDelay ∧ m.autoHideDelay ≤ delay

/-- A message that is shown is a brief one. -/
def ShowsBrief (duration delay : ℤ) (v : InView) : MessageEvent → Prop
  | .showMessage text type options =>
    (GSMessage.init v.made text type options).Brief duration delay
  | _ => True

instance (v : InView) : ∀ e, Decidable (Punctual v e)
  | .wait d => inferInstanceAs (Decidable (∀ x ∈ v.timers ++ v.animations, v.now + d ≤ x.2))
  | .showMessage .. | .hideMessage _ | .tap _ | .autoHide .. | .hidden .. => isTrue trivial

instance (duration delay : ℤ) (m : GSMessage) : Decidable (m.Brief duration delay) :=
  inferInstanceAs (Decidable (_ ∧ _))

instance (duration delay : ℤ) (v : InView) : ∀ e, Decidable (ShowsBrief duration delay v e)
  | .showMessage text type options =>
    inferInstanceAs (Decidable ((GSMessage.init v.made text type options).Brief duration delay))
  | .hideMessage _ | .tap _ | .autoHide .. | .hidden .. | .wait _ => isTrue trivial

/-! ## What a step does -/

/-- The messages of a view, wherever they are kept. -/
structure InView.Sound (v : InView) : Prop where
  subviews : v.subviews = v.uninstallMessage.toList ++ v.installedMessage.toList
  animations : v.animations.map Prod.fst = v.uninstallMessage.toList
  apart : v.subviews.Nodup
  fresh : ∀ m ∈ v.subviews, m.number < v.made
  timers : ∀ x ∈ v.timers, x.1.number < v.made ∧ x.1.autoHide
  once : (v.timers.map Prod.fst).Nodup

/-- The ways that a step can go. -/
inductive Moved (v : InView) (e : MessageEvent) (v' : InView) : Prop
  | nothing (h : v' = v)
  | waited (d : ℤ) (hd : 0 ≤ d) (he : e = .wait d) (h : v' = { v with now := v.now + d })
  | fired (m : GSMessage) (deadline : ℤ) (he : e = .autoHide m deadline)
      (hmem : (m, deadline) ∈ v.timers) (hdue : deadline ≤ v.now)
      (hguard : ¬ (v.installedMessage = some m ∧ v.uninstallMessage = none))
      (h : v' = { v with timers := v.timers.erase (m, deadline) })
  | hid (m : GSMessage) (timers : List (GSMessage × ℤ)) (hinst : v.installedMessage = some m)
      (hun : v.uninstallMessage = none)
      (htimers : timers = v.timers ∨ ∃ deadline, (m, deadline) ∈ v.timers ∧
        timers = v.timers.erase (m, deadline))
      (hself : e.ByItself → ∃ deadline, (m, deadline) ∈ v.timers)
      (h : v' = { v with
        installedMessage := none, uninstallMessage := some m, timers := timers,
        animations := [(m, v.now + m.animationDuration)] })
  | closed (m : GSMessage) (hinst : v.installedMessage = some m)
      (hun : v.uninstallMessage = none) (hself : ¬ e.ByItself)
      (h : v' = { v with installedMessage := none, subviews := [] })
  | shown (text : String) (type : GSMessageType) (options : Option (List GSMessageOption))
      (m : GSMessage) (he : e = .showMessage text type options)
      (hm : m = .init v.made text type options) (u : InView)
      (hu : u = v ∧ v.installedMessage = none ∨
        ∃ m₀, v.installedMessage = some m₀ ∧ v.uninstallMessage = none ∧
          u = { v with
            installedMessage := none, uninstallMessage := some m₀,
            animations := [(m₀, v.now + m₀.animationDuration)] })
      (h : v' = { u with
        made := v.made + 1, installedMessage := some m, subviews := u.subviews ++ [m],
        timers := if m.autoHide then v.timers ++ [(m, v.now + m.autoHideDelay)] else v.timers })
  | gone (m : GSMessage) (ends : ℤ) (he : e = .hidden m ends)
      (hun : v.uninstallMessage = some m) (hmem : (m, ends) ∈ v.animations)
      (h : v' = { v with
        uninstallMessage := none, subviews := v.installedMessage.toList, animations := [] })

section
variable {v v' w : InView} {e : MessageEvent} {es : List MessageEvent} {m : GSMessage}

theorem hide_of (hinst : v.installedMessage = some m) (hun : v.uninstallMessage = none)
    (animated : Bool) : v.hide m animated =
      if animated then
        { v with
          installedMessage := none, uninstallMessage := some m,
          animations := v.animations ++ [(m, v.now + m.animationDuration)] }
      else { v with
        installedMessage := none, uninstallMessage := none, subviews := v.subviews.erase m } := by
  unfold InView.hide
  rw [if_pos ⟨hinst, hun⟩]
  rfl

theorem hide_of_not (h : ¬ (v.installedMessage = some m ∧ v.uninstallMessage = none))
    (animated : Bool) : v.hide m animated = v := if_neg h

namespace InView.Sound

theorem none_sliding (hv : v.Sound) (hun : v.uninstallMessage = none) : v.animations = [] := by
  have h := hv.animations
  rw [hun] at h
  exact List.map_eq_nil_iff.mp h

theorem sliding (hv : v.Sound) {x : GSMessage × ℤ} (hx : x ∈ v.animations) :
    v.uninstallMessage = some x.1 ∧ v.animations = [x] := by
  have h : x.1 ∈ v.animations.map Prod.fst := List.mem_map_of_mem hx
  rw [hv.animations, Option.mem_toList] at h
  have hmap := hv.animations
  rw [h] at hmap
  obtain ⟨y, hy, -⟩ := List.map_eq_singleton_iff.mp hmap
  rw [hy, List.mem_singleton] at hx
  exact ⟨h, hx ▸ hy⟩

/-- What is sliding out has its animation. -/
theorem animation_of (hv : v.Sound) (hun : v.uninstallMessage = some m) :
    ∃ ends, (m, ends) ∈ v.animations := by
  have hmap := hv.animations
  rw [hun] at hmap
  obtain ⟨⟨n, ends⟩, hone, hn⟩ := List.map_eq_singleton_iff.mp hmap
  refine ⟨ends, ?_⟩
  rw [hone, ← hn]
  exact List.mem_singleton_self _

theorem only (hv : v.Sound) (hinst : v.installedMessage = some m)
    (hun : v.uninstallMessage = none) : v.subviews = [m] := by
  rw [hv.subviews, hinst, hun]
  rfl

theorem mem_subviews (hv : v.Sound) :
    m ∈ v.subviews ↔ v.uninstallMessage = some m ∨ v.installedMessage = some m := by
  rw [hv.subviews, List.mem_append, Option.mem_toList, Option.mem_toList]

/-- There are never more than two messages on the view. -/
theorem length_subviews (hv : v.Sound) : v.subviews.length ≤ 2 := by
  rw [hv.subviews, List.length_append]
  have h : ∀ o : Option GSMessage, o.toList.length ≤ 1 := by
    intro o
    cases o with
    | none => exact Nat.zero_le 1
    | some m => exact le_rfl
  have h₁ := h v.uninstallMessage
  have h₂ := h v.installedMessage
  omega

end InView.Sound

theorem sound_empty (now : ℤ) : (InView.empty now).Sound where
  subviews := rfl
  animations := rfl
  apart := List.nodup_nil
  fresh := by
    intro m hm
    exact absurd hm List.not_mem_nil
  timers := by
    intro x hx
    exact absurd hx List.not_mem_nil
  once := List.nodup_nil

theorem number_init (number : ℕ) (text : String) (type : GSMessageType)
    (options : Option (List GSMessageOption)) :
    (GSMessage.init number text type options).number = number := by
  have h : ∀ (l : List GSMessageOption) (m : GSMessage),
      (l.foldl GSMessage.set m).number = m.number := by
    intro l
    induction l with
    | nil =>
      intro m
      rfl
    | cons o l ih =>
      intro m
      rw [List.foldl_cons, ih]
      cases o <;> rfl
  exact h _ _

theorem showMessageAddedTo_eq {u : InView} (text : String) (type : GSMessageType)
    (options : Option (List GSMessageOption))
    (hu : (if v.installedMessage ≠ none ∧ v.uninstallMessage = none then v.hideMessage true
      else v) = u) :
    v.showMessageAddedTo text type options =
      if u.installedMessage = none then
        InView.show { u with made := u.made + 1 } (.init u.made text type options)
      else u := by
  subst hu
  rfl

/-- `showMessageAddedTo` drops the message, or it shows it, behind another one. -/
theorem showMessageAddedTo_of (hv : v.Sound) (text : String) (type : GSMessageType)
    (options : Option (List GSMessageOption)) :
    Moved v (.showMessage text type options) (v.showMessageAddedTo text type options) := by
  by_cases hinst : v.installedMessage = none
  · rw [showMessageAddedTo_eq text type options (if_neg fun h => h.1 hinst), if_pos hinst]
    exact .shown text type options _ rfl rfl v (.inl ⟨rfl, hinst⟩) (if_pos hinst)
  · by_cases hun : v.uninstallMessage = none
    · obtain ⟨m₀, hinst₀⟩ := Option.ne_none_iff_exists'.mp hinst
      have hhide : v.hideMessage true = { v with
          installedMessage := none, uninstallMessage := some m₀,
          animations := [(m₀, v.now + m₀.animationDuration)] } := by
        unfold InView.hideMessage
        rw [hinst₀]
        dsimp only
        rw [hide_of hinst₀ hun, if_pos rfl, hv.none_sliding hun, List.nil_append]
      rw [showMessageAddedTo_eq text type options ((if_pos ⟨hinst, hun⟩).trans hhide), if_pos rfl]
      exact .shown text type options _ rfl rfl _ (.inr ⟨m₀, hinst₀, hun, rfl⟩) (if_pos rfl)
    · rw [showMessageAddedTo_eq text type options (if_neg fun h => hun h.2), if_neg hinst]
      exact .nothing rfl

theorem hide_moved (hv : v.Sound) (hself : e.ByItself → ∃ deadline, (m, deadline) ∈ v.timers) :
    Moved v e (v.hide m true) := by
  by_cases h : v.installedMessage = some m ∧ v.uninstallMessage = none
  · obtain ⟨hinst, hun⟩ := h
    refine .hid m v.timers hinst hun (.inl rfl) hself ?_
    rw [hide_of hinst hun, if_pos rfl, hv.none_sliding hun, List.nil_append]
  · exact .nothing (hide_of_not h true)

/-- **What a step can do.** -/
theorem moved (hv : v.Sound) (h : messageStep v e = some v') : Moved v e v' := by
  cases e with
  | showMessage text type options =>
    cases h
    exact showMessageAddedTo_of hv text type options
  | hideMessage animated =>
    cases h
    unfold InView.hideMessage
    split
    · rename_i m hinst
      cases animated with
      | true => exact hide_moved hv (fun h => absurd h not_false)
      | false =>
        by_cases hun : v.uninstallMessage = none
        · refine .closed m hinst hun not_false ?_
          rw [hide_of hinst hun, if_neg (by simp), hv.only hinst hun, List.erase_cons_head, ← hun]
        · exact .nothing (hide_of_not (fun h => hun h.2) false)
    · exact .nothing rfl
  | tap m =>
    obtain ⟨-, h⟩ := Option.ite_none_right_eq_some.mp h
    cases h
    exact hide_moved hv (fun h => absurd h not_false)
  | autoHide m deadline =>
    obtain ⟨⟨hmem, hdue⟩, h⟩ := Option.ite_none_right_eq_some.mp h
    cases h
    by_cases hguard : v.installedMessage = some m ∧ v.uninstallMessage = none
    · obtain ⟨hinst, hun⟩ := hguard
      refine .hid m _ hinst hun (.inr ⟨deadline, hmem, rfl⟩) (fun _ => ⟨deadline, hmem⟩) ?_
      rw [hide_of (v := { v with timers := v.timers.erase (m, deadline) }) hinst hun, if_pos rfl]
      dsimp only
      rw [hv.none_sliding hun, List.nil_append]
    · refine .fired m deadline rfl hmem hdue hguard ?_
      exact hide_of_not (v := { v with timers := v.timers.erase (m, deadline) }) hguard true
  | hidden m ends =>
    obtain ⟨hmem, h⟩ := Option.ite_none_right_eq_some.mp h
    cases h
    obtain ⟨hun, hone⟩ := hv.sliding hmem
    refine .gone m ends rfl hun hmem ?_
    unfold InView.removeFromSuperview
    dsimp only
    rw [hone, hv.subviews, hun, List.erase_cons_head]
    simp
  | wait d =>
    obtain ⟨hd, h⟩ := Option.ite_none_right_eq_some.mp h
    cases h
    exact .waited d hd rfl rfl

/-- A timer is one of the old ones, or the one that has been started. -/
theorem mem_started {l : List (GSMessage × ℤ)} {x y : GSMessage × ℤ} {b : Bool}
    (h : x ∈ if b then l ++ [y] else l) : x ∈ l ∨ b ∧ x = y := by
  split at h
  · rename_i hb
    exact (List.mem_append.mp h).imp_right fun hx => ⟨hb, List.mem_singleton.mp hx⟩
  · exact .inl h

theorem once_started {l : List (GSMessage × ℤ)} (hl : (l.map Prod.fst).Nodup)
    (hm : ∀ x ∈ l, x.1 ≠ m) (b : Bool) (deadline : ℤ) :
    ((if b then l ++ [(m, deadline)] else l).map Prod.fst).Nodup := by
  split
  · rw [List.map_append]
    refine List.nodup_append.mpr ⟨hl, List.nodup_singleton _, ?_⟩
    intro n hn k hk hnk
    obtain ⟨x, hx, rfl⟩ := List.mem_map.mp hn
    exact hm x hx (hnk.trans (List.mem_singleton.mp hk))
  · exact hl

theorem erased_sublist (x : GSMessage × ℤ) (l : List (GSMessage × ℤ)) :
    ((l.erase x).map Prod.fst).Sublist (l.map Prod.fst) := List.erase_sublist.map Prod.fst

/-- Fewer timers leave a view sound. -/
theorem InView.Sound.erase (hv : v.Sound) (x : GSMessage × ℤ) :
    InView.Sound { v with timers := v.timers.erase x } :=
  { hv with
    timers := fun y hy => hv.timers y (List.mem_of_mem_erase hy)
    once := hv.once.sublist (erased_sublist x v.timers) }

/-- The installed message slides out. -/
theorem InView.Sound.slide (hv : v.Sound) (hinst : v.installedMessage = some m)
    (hun : v.uninstallMessage = none) (ends : ℤ) :
    InView.Sound { v with
      installedMessage := none, uninstallMessage := some m, animations := [(m, ends)] } :=
  { hv with subviews := hv.only hinst hun, animations := rfl }

/-- A new message appears. -/
theorem InView.Sound.appear (hv : v.Sound) (hinst : v.installedMessage = none)
    (hnumber : m.number = v.made) :
    InView.Sound { v with
      made := v.made + 1, installedMessage := some m, subviews := v.subviews ++ [m],
      timers := if m.autoHide then v.timers ++ [(m, v.now + m.autoHideDelay)] else v.timers } := by
  have hnew : m ∉ v.subviews := by
    intro hmem
    have := hv.fresh m hmem
    omega
  have hsub : v.subviews = v.uninstallMessage.toList := by
    rw [hv.subviews, hinst]
    exact List.append_nil _
  constructor
  · exact congrArg (· ++ [m]) hsub
  · exact hv.animations
  · refine List.nodup_append.mpr ⟨hv.apart, List.nodup_singleton m, ?_⟩
    rintro a ha b hb rfl
    exact hnew (List.mem_singleton.mp hb ▸ ha)
  · intro n hn
    dsimp only
    rcases List.mem_append.mp hn with hn | hn
    · have := hv.fresh n hn
      omega
    · rw [List.mem_singleton.mp hn]
      omega
  · intro x hx
    rcases mem_started hx with hx | ⟨hauto, rfl⟩
    · have := hv.timers x hx
      exact ⟨by dsimp only; omega, this.2⟩
    · exact ⟨by dsimp only; omega, hauto⟩
  · refine once_started hv.once ?_ m.autoHide _
    rintro x hx rfl
    have := (hv.timers x hx).1
    omega

theorem InView.Sound.step (hv : v.Sound) (h : messageStep v e = some v') : v'.Sound := by
  rcases moved hv h with h | ⟨d, hd, he, h⟩ | ⟨n, deadline, he, hmem, hdue, hguard, h⟩ |
    ⟨n, timers, hinst, hun, htimers, hself, h⟩ | ⟨n, hinst, hun, hself, h⟩ |
    ⟨text, type, options, n, he, hn, u, hu, h⟩ | ⟨n, ends, he, hun, hmem, h⟩
  · rwa [h]
  · subst h
    exact { hv with }
  · rw [h]
    exact hv.erase _
  · have hslide := hv.slide hinst hun (v.now + n.animationDuration)
    rcases htimers with rfl | ⟨deadline, -, rfl⟩
    · rwa [h]
    · rw [h]
      exact hslide.erase (n, deadline)
  · subst h
    refine { hv with
      subviews := ?_, animations := ?_, apart := List.nodup_nil, fresh := ?_ }
    · rw [hun]
      rfl
    · exact hv.animations
    · exact fun m hm => absurd hm List.not_mem_nil
  · have hnumber : n.number = v.made := by rw [hn, number_init]
    rw [h]
    -- the message that slides out is in place before the new one is
    rcases hu with ⟨rfl, hinst⟩ | ⟨m₀, hinst, hun, rfl⟩
    · exact hv.appear hinst hnumber
    · exact (hv.slide hinst hun _).appear rfl hnumber
  · subst h
    refine { hv with subviews := rfl, animations := rfl, apart := ?_, fresh := ?_ }
    · dsimp only
      cases v.installedMessage with
      | none => exact List.nodup_nil
      | some m => exact List.nodup_singleton m
    · intro m hm
      exact hv.fresh m (hv.mem_subviews.mpr (.inr (Option.mem_toList.mp hm)))

theorem sound_run (hv : v.Sound) (h : run messageStep v es = some w) : w.Sound :=
  run_invariant InView.Sound (fun _ _ _ hs he => hs.step he) hv h

/-! ## Messages that stay -/

/-- The timer of `m` is not there, and will not come back. -/
structure NoTimer (v : InView) (m : GSMessage) : Prop where
  number : m.number < v.made
  none_left : ∀ deadline, (m, deadline) ∉ v.timers

/-- A timer fires once. -/
theorem once_fired {l : List (GSMessage × ℤ)} (hl : (l.map Prod.fst).Nodup) {deadline : ℤ}
    (hmem : (m, deadline) ∈ l) (d : ℤ) : (m, d) ∉ l.erase (m, deadline) := by
  intro hd
  have hperm := (List.perm_cons_erase hmem).map Prod.fst
  have hnodup := hperm.nodup_iff.mp hl
  rw [List.map_cons, List.nodup_cons] at hnodup
  exact hnodup.1 (List.mem_map.mpr ⟨(m, d), hd, rfl⟩)

theorem noTimer_step (hv : v.Sound) (hm : NoTimer v m) (h : messageStep v e = some v') :
    NoTimer v' m := by
  have herase : ∀ x, NoTimer { v with timers := v.timers.erase x } m :=
    fun x => ⟨hm.number, fun d hd => hm.none_left d (List.mem_of_mem_erase hd)⟩
  rcases moved hv h with h | ⟨d, hd, he, h⟩ | ⟨n, deadline, he, hmem, hdue, hguard, h⟩ |
    ⟨n, timers, hinst, hun, htimers, hself, h⟩ | ⟨n, hinst, hun, hself, h⟩ |
    ⟨text, type, options, n, he, hn, u, hu, h⟩ | ⟨n, ends, he, hun, hmem, h⟩
  · rwa [h]
  · rw [h]
    exact ⟨hm.number, hm.none_left⟩
  · rw [h]
    exact herase _
  · rcases htimers with rfl | ⟨deadline, -, rfl⟩
    · rw [h]
      exact ⟨hm.number, hm.none_left⟩
    · rw [h]
      exact ⟨hm.number, (herase (n, deadline)).none_left⟩
  · rw [h]
    exact ⟨hm.number, hm.none_left⟩
  · have hnumber : n.number = v.made := by rw [hn, number_init]
    have hlt := hm.number
    subst h
    refine ⟨Nat.lt_succ_of_lt hlt, fun d hd => ?_⟩
    rcases mem_started hd with hd | ⟨-, heq⟩
    · exact hm.none_left d hd
    · have heq : m = n := congrArg Prod.fst heq
      rw [heq] at hlt
      omega
  · rw [h]
    exact ⟨hm.number, hm.none_left⟩

/-- Without its timer, a message stays. -/
theorem stays_step (hv : v.Sound) (hinst : v.installedMessage = some m) (hm : NoTimer v m)
    (hself : e.ByItself) (h : messageStep v e = some v') : v'.installedMessage = some m := by
  rcases moved hv h with h | ⟨d, hd, he, h⟩ | ⟨n, deadline, he, hmem, hdue, hguard, h⟩ |
    ⟨n, timers, hn, hun, htimers, hsome, h⟩ | ⟨n, hn, hun, hnot, h⟩ |
    ⟨text, type, options, n, he, hn, u, hu, h⟩ | ⟨n, ends, he, hun, hmem, h⟩
  · rwa [h]
  · rwa [h]
  · rwa [h]
  · obtain ⟨deadline, hmem⟩ := hsome hself
    rw [hinst] at hn
    cases hn
    exact absurd hmem (hm.none_left deadline)
  · exact absurd hself hnot
  · rw [he] at hself
    exact absurd hself not_false
  · rwa [h]

theorem stays_run (hv : v.Sound) (hinst : v.installedMessage = some m) (hm : NoTimer v m)
    (hself : ∀ e ∈ es, e.ByItself) (h : run messageStep v es = some w) :
    w.installedMessage = some m := by
  induction es generalizing v with
  | nil =>
    cases h
    exact hinst
  | cons e es ih =>
    obtain ⟨v', he, h⟩ := (run_cons_iff messageStep).mp h
    have hfirst := hself e (List.mem_cons_self ..)
    exact ih (hv.step he) (stays_step hv hinst hm hfirst he) (noTimer_step hv hm he)
      (fun e he => hself e (List.mem_cons_of_mem _ he)) h

theorem installedMessage_hide (hinst : v.installedMessage = some m)
    (hun : v.uninstallMessage = none) : (v.hide m true).installedMessage = none := by
  rw [hide_of hinst hun]
  rfl

/-- A message with a timer goes when it is due, if the way is free. -/
theorem goes_of_free (hinst : v.installedMessage = some m) (hun : v.uninstallMessage = none)
    {deadline : ℤ} (hmem : (m, deadline) ∈ v.timers) :
    ∃ w, run messageStep v [.wait (max 0 (deadline - v.now)), .autoHide m deadline] = some w ∧
      w.installedMessage = none := by
  have hwait : messageStep v (.wait (max 0 (deadline - v.now))) =
      some { v with now := v.now + max 0 (deadline - v.now) } := if_pos (le_max_left _ _)
  have hdue : deadline ≤ v.now + max 0 (deadline - v.now) := by omega
  have hfire : messageStep { v with now := v.now + max 0 (deadline - v.now) }
      (.autoHide m deadline) = some (InView.hide { v with
        now := v.now + max 0 (deadline - v.now), timers := v.timers.erase (m, deadline) }
        m true) := if_pos ⟨hmem, hdue⟩
  exact ⟨_, (run_cons_iff messageStep).mpr ⟨_, hwait, (run_cons_iff messageStep).mpr
    ⟨_, hfire, rfl⟩⟩, installedMessage_hide hinst hun⟩

/-- With its timer, a message goes by itself. -/
theorem goes_of_timer (hv : v.Sound) (hinst : v.installedMessage = some m) {deadline : ℤ}
    (hmem : (m, deadline) ∈ v.timers) :
    ∃ fs w, (∀ e ∈ fs, e.ByItself) ∧ run messageStep v fs = some w ∧
      w.installedMessage = none := by
  cases hun : v.uninstallMessage with
  | none =>
    obtain ⟨w, hw, hnone⟩ := goes_of_free hinst hun hmem
    exact ⟨_, w, by simp [MessageEvent.ByItself], hw, hnone⟩
  | some n =>
    -- the message that is sliding out goes first
    obtain ⟨ends, hends⟩ := hv.animation_of hun
    have hhidden : messageStep v (.hidden n ends) = some (InView.removeFromSuperview
        { v with animations := v.animations.erase (n, ends) } n) := if_pos hends
    obtain ⟨w, hw, hnone⟩ := goes_of_free (v := InView.removeFromSuperview
      { v with animations := v.animations.erase (n, ends) } n) hinst rfl hmem
    exact ⟨_, w, by simp [MessageEvent.ByItself],
      (run_cons_iff messageStep).mpr ⟨_, hhidden, hw⟩, hnone⟩

/-- A message that would go is installed with its timer, or it has been overlooked. -/
theorem timer_or_overlooked (hv : v.Sound)
    (hstart : ∀ m, v.installedMessage = some m → m.autoHide → ∃ d, (m, d) ∈ v.timers)
    (h : run messageStep v es = some w) (hinst : w.installedMessage = some m)
    (hauto : m.autoHide) : (∃ d, (m, d) ∈ w.timers) ∨ Overlooked v es m := by
  induction es using List.reverseRecOn generalizing w with
  | nil =>
    cases h
    exact .inl (hstart m hinst hauto)
  | append_singleton es e ih =>
    obtain ⟨u, hu, h⟩ := (run_append_iff messageStep).mp h
    obtain ⟨u', hstep, h⟩ := (run_cons_iff messageStep).mp h
    cases h
    -- what has been overlooked before
    have hbefore : Overlooked v es m → Overlooked v (es ++ [e]) m := by
      rintro ⟨before, after, deadline, t, heq, hbefore, hun⟩
      exact ⟨before, after ++ [e], deadline, t, by rw [heq, List.append_assoc, List.cons_append],
        hbefore, hun⟩
    rcases moved (sound_run hv hu) hstep with h | ⟨d, hd, he, h⟩ |
      ⟨n, deadline, he, hmem, hdue, hguard, h⟩ | ⟨n, timers, hn, hun, htimers, hsome, h⟩ |
      ⟨n, hn, hun, hnot, h⟩ |
      ⟨text, type, options, n, he, hn, u', hu', h⟩ | ⟨n, ends, he, hun, hmem, h⟩
    · subst h
      exact (ih hu hinst).imp_right hbefore
    · subst h
      exact (ih hu hinst).imp_right hbefore
    · subst h
      rcases ih hu hinst with ⟨d, hd⟩ | hover
      · by_cases hsame : (m, d) = (n, deadline)
        · cases hsame
          exact .inr ⟨es, [], deadline, u, by rw [he], hu, fun hun => hguard ⟨hinst, hun⟩⟩
        · exact .inl ⟨d, (List.mem_erase_of_ne hsame).mpr hd⟩
      · exact .inr (hbefore hover)
    · subst h
      cases hinst
    · subst h
      cases hinst
    · subst h
      cases hinst
      refine .inl ⟨u.now + m.autoHideDelay, ?_⟩
      dsimp only
      rw [if_pos hauto]
      exact List.mem_append_right _ (List.mem_singleton_self _)
    · subst h
      exact (ih hu hinst).imp_right hbefore

/-- The timer of a message that has been overlooked is gone. -/
theorem noTimer_of_overlooked (hv : v.Sound) (h : run messageStep v es = some w)
    (hover : Overlooked v es m) : NoTimer w m := by
  obtain ⟨before, after, deadline, u, rfl, hu, -⟩ := hover
  obtain ⟨u₀, hu₀, h⟩ := (run_append_iff messageStep).mp h
  rw [hu] at hu₀
  cases hu₀
  obtain ⟨u', he, h⟩ := (run_cons_iff messageStep).mp h
  have hsound := sound_run hv hu
  obtain ⟨⟨hmem, hdue⟩, heq⟩ := Option.ite_none_right_eq_some.mp he
  have hfired : NoTimer { u with timers := u.timers.erase (m, deadline) } m :=
    ⟨(hsound.timers _ hmem).1, once_fired hsound.once hmem⟩
  have hnone : NoTimer u' m := by
    cases heq
    by_cases hguard : u.installedMessage = some m ∧ u.uninstallMessage = none
    · rw [hide_of (v := { u with timers := u.timers.erase (m, deadline) }) hguard.1 hguard.2]
      exact ⟨hfired.number, hfired.none_left⟩
    · rwa [hide_of_not (v := { u with timers := u.timers.erase (m, deadline) }) hguard]
  have hinv : u'.Sound ∧ NoTimer u' m := ⟨hsound.step he, hnone⟩
  exact (run_invariant (fun v => v.Sound ∧ NoTimer v m)
    (fun _ _ _ hs he => ⟨hs.1.step he, noTimer_step hs.1 hs.2 he⟩) hinv h).2

/-- **What stays on a view.**  The installed message stays for as long as nobody does anything
exactly when it is not to hide itself, or when its timer has fired while another message was
sliding out. -/
theorem stays_iff {now : ℤ} (h : run messageStep (.empty now) es = some v)
    (hinst : v.installedMessage = some m) :
    (∀ fs w, (∀ e ∈ fs, e.ByItself) → run messageStep v fs = some w →
        w.installedMessage = some m) ↔
      m.autoHide = false ∨ Overlooked (.empty now) es m := by
  have hv := sound_run (sound_empty now) h
  constructor
  · intro hstays
    by_cases hauto : m.autoHide
    · right
      rcases timer_or_overlooked (sound_empty now) (by simp [InView.empty]) h hinst hauto with
        ⟨d, hd⟩ | hover
      · obtain ⟨fs, w, hself, hw, hnone⟩ := goes_of_timer hv hinst hd
        rw [hstays fs w hself hw] at hnone
        cases hnone
      · exact hover
    · exact .inl (Bool.eq_false_iff.mpr hauto)
  · intro hm fs w hself hw
    refine stays_run hv hinst ?_ hself hw
    rcases hm with hauto | hover
    · refine ⟨hv.fresh m (hv.mem_subviews.mpr (.inr hinst)), fun d hd => ?_⟩
      have := (hv.timers _ hd).2
      rw [hauto] at this
      cases this
    · exact noTimer_of_overlooked (sound_empty now) h hover

def firstNote : GSMessage := .init 0 "The cvc doesn't match the cvc of the card." .error none

/-- A message with a delay that is shorter than the animation of the first one. -/
def shortNote : GSMessage :=
  .init 1 "Card successfully updated" .success (some [.autoHideDelay 100000000])

def crowded : List MessageEvent :=
  [.showMessage "The cvc doesn't match the cvc of the card." .error none,
    .showMessage "Card successfully updated" .success (some [.autoHideDelay 100000000]),
    .wait 100000000]

/-- The timer of the second message has fired behind the back of the first one. -/
def crowdedView : InView where
  installedMessage := some shortNote
  uninstallMessage := some firstNote
  subviews := [firstNote, shortNote]
  timers := [(firstNote, 3000000000)]
  animations := [(firstNote, 250000000)]
  made := 2
  now := 100000000

theorem stays_overlooked :
    run messageStep (.empty 0) (crowded ++ [.autoHide shortNote 100000000]) = some crowdedView ∧
      ∀ fs w, (∀ e ∈ fs, e.ByItself) → run messageStep crowdedView fs = some w →
        w.installedMessage = some shortNote := by
  have hrun : run messageStep (.empty 0) (crowded ++ [.autoHide shortNote 100000000]) =
      some crowdedView := by decide +kernel
  have hbefore : ∃ u, run messageStep (.empty 0) crowded = some u ∧ u.uninstallMessage ≠ none :=
    ⟨{ crowdedView with timers := [(firstNote, 3000000000), (shortNote, 100000000)] },
      by decide +kernel, by decide⟩
  obtain ⟨u, hu, hun⟩ := hbefore
  exact ⟨hrun, (stays_iff hrun rfl).mpr (.inr ⟨crowded, [], 100000000, u, rfl, hu, hun⟩)⟩

/-! ## Messages that go in time -/

/-- A view with brief messages on which everything has happened in time so far. -/
structure Timely (duration delay : ℤ) (v : InView) : Prop where
  timers : ∀ x ∈ v.timers, v.now ≤ x.2 ∧ x.2 ≤ v.now + delay
  animations : ∀ x ∈ v.animations, v.now ≤ x.2 ∧ x.2 ≤ v.now + duration
  brief : ∀ m ∈ v.subviews, m.Brief duration delay
  timer : ∀ m, v.installedMessage = some m → ∃ d, (m, d) ∈ v.timers
  /-- What is sliding out is gone before the installed message has to go. -/
  clear : ∀ m d, v.installedMessage = some m → (m, d) ∈ v.timers → ∀ x ∈ v.animations, x.2 < d

/-- The installed message has to go by `limit`, and `duration` after that it is gone. -/
structure GoesBy (duration limit : ℤ) (v : InView) (m : GSMessage) : Prop where
  number : m.number < v.made
  installed : v.installedMessage = some m → ∀ d, (m, d) ∈ v.timers → d ≤ limit
  sliding : v.uninstallMessage = some m → ∀ x ∈ v.animations, x.2 ≤ limit + duration

section
variable {duration delay limit : ℤ}

theorem timely_empty (now : ℤ) : Timely duration delay (InView.empty now) := by
  constructor <;> simp [InView.empty]

/-- In time, the timer of the installed message finds the way free. -/
theorem Timely.free (hv : v.Sound) (ht : Timely duration delay v)
    (hinst : v.installedMessage = some m) {d : ℤ} (hd : (m, d) ∈ v.timers) (hdue : d ≤ v.now) :
    v.uninstallMessage = none := by
  by_contra hun
  obtain ⟨n, hn⟩ := Option.ne_none_iff_exists'.mp hun
  obtain ⟨ends, hx⟩ := hv.animation_of hn
  have hclear := ht.clear m d hinst hd _ hx
  have hend := (ht.animations _ hx).1
  omega

/-- The installed message slides out. -/
theorem Timely.slide (ht : Timely duration delay v) (hv : v.Sound)
    (hinst : v.installedMessage = some m) :
    Timely duration delay { v with
      installedMessage := none, uninstallMessage := some m,
      animations := [(m, v.now + m.animationDuration)] } := by
  obtain ⟨-, hpos, hle, -⟩ := ht.brief m (hv.mem_subviews.mpr (.inr hinst))
  refine { ht with animations := ?_, timer := ?_, clear := ?_ }
  · intro x hx
    rw [List.mem_singleton.mp hx]
    dsimp only
    omega
  · exact fun m hm => absurd hm (by simp)
  · exact fun m d hm => absurd hm (by simp)

/-- A timer of a message that is not installed may go. -/
theorem Timely.erase (ht : Timely duration delay v) {n : GSMessage} {deadline : ℤ}
    (hn : v.installedMessage ≠ some n) :
    Timely duration delay { v with timers := v.timers.erase (n, deadline) } := by
  refine { ht with timers := ?_, timer := ?_, clear := ?_ }
  · exact fun x hx => ht.timers x (List.mem_of_mem_erase hx)
  · intro m hinst
    obtain ⟨d, hd⟩ := ht.timer m hinst
    refine ⟨d, (List.mem_erase_of_ne fun heq => ?_).mpr hd⟩
    cases heq
    exact hn hinst
  · exact fun m d hinst hd => ht.clear m d hinst (List.mem_of_mem_erase hd)

/-- A brief message appears. -/
theorem Timely.appear (ht : Timely duration delay v) (hv : v.Sound) (hm : m.Brief duration delay)
    (hnumber : m.number = v.made) :
    Timely duration delay { v with
      made := v.made + 1, installedMessage := some m, subviews := v.subviews ++ [m],
      timers := if m.autoHide then v.timers ++ [(m, v.now + m.autoHideDelay)] else v.timers } := by
  obtain ⟨hauto, hpos, hle, hlt, hdelay⟩ := hm
  rw [if_pos hauto]
  refine { ht with timers := ?_, brief := ?_, timer := ?_, clear := ?_ }
  · intro x hx
    rcases List.mem_append.mp hx with hx | hx
    · exact ht.timers x hx
    · rw [List.mem_singleton.mp hx]
      dsimp only
      omega
  · intro n hn
    rcases List.mem_append.mp hn with hn | hn
    · exact ht.brief n hn
    · rw [List.mem_singleton.mp hn]
      exact ⟨hauto, hpos, hle, hlt, hdelay⟩
  · intro n hn
    cases hn
    exact ⟨_, List.mem_append_right _ (List.mem_singleton_self _)⟩
  · intro n d hn hd x hx
    cases hn
    have hend := (ht.animations x hx).2
    rcases List.mem_append.mp hd with hd | hd
    · have hlt : m.number < v.made := (hv.timers _ hd).1
      omega
    · have hd : d = v.now + m.autoHideDelay := congrArg Prod.snd (List.mem_singleton.mp hd)
      omega

theorem timely_step (hv : v.Sound) (ht : Timely duration delay v)
    (hP : Punctual v e ∧ ShowsBrief duration delay v e) (h : messageStep v e = some v') :
    Timely duration delay v' := by
  obtain ⟨hpunctual, hbrief⟩ := hP
  rcases moved hv h with h | ⟨d, hd, he, h⟩ | ⟨n, deadline, he, hmem, hdue, hguard, h⟩ |
    ⟨n, timers, hinst, hun, htimers, hself, h⟩ | ⟨n, hinst, hun, hself, h⟩ |
    ⟨text, type, options, n, he, hn, u, hu, h⟩ | ⟨n, ends, he, hun, hmem, h⟩
  · rwa [h]
  · rw [he] at hpunctual
    subst h
    refine { ht with timers := ?_, animations := ?_ }
    · intro x hx
      have hnext := hpunctual x (List.mem_append_left _ hx)
      have hlast := (ht.timers x hx).2
      dsimp only
      omega
    · intro x hx
      have hnext := hpunctual x (List.mem_append_right _ hx)
      have hlast := (ht.animations x hx).2
      dsimp only
      omega
  · rw [h]
    exact ht.erase fun hinst => hguard ⟨hinst, ht.free hv hinst hmem hdue⟩
  · have hslide := ht.slide hv hinst
    rcases htimers with rfl | ⟨deadline, -, rfl⟩
    · rwa [h]
    · rw [h]
      exact hslide.erase (by simp)
  · subst h
    refine { ht with brief := ?_, timer := ?_, clear := ?_ }
    · exact fun m hm => absurd hm List.not_mem_nil
    · exact fun m hm => absurd hm (by simp)
    · exact fun m d hm => absurd hm (by simp)
  · have hnumber : n.number = v.made := by rw [hn, number_init]
    have hnew : n.Brief duration delay := by
      rw [he] at hbrief
      rwa [hn]
    rw [h]
    rcases hu with ⟨rfl, hinst⟩ | ⟨m₀, hinst, hun, rfl⟩
    · exact ht.appear hv hnew hnumber
    · exact (ht.slide hv hinst).appear (hv.slide hinst hun _) hnew hnumber
  · subst h
    refine { ht with animations := ?_, brief := ?_, clear := ?_ }
    · exact fun x hx => absurd hx List.not_mem_nil
    · exact fun m hm => ht.brief m (hv.mem_subviews.mpr (.inr (Option.mem_toList.mp hm)))
    · exact fun m d _ _ x hx => absurd hx List.not_mem_nil

/-- What a message has to be gone by does not change. -/
theorem goesBy_step (hv : v.Sound) (ht : Timely duration delay v) (hm : GoesBy duration limit v m)
    (h : messageStep v e = some v') : GoesBy duration limit v' m := by
  -- it starts to slide out when its timer is not overdue
  have hslide : v.installedMessage = some m →
      ∀ x ∈ [(m, v.now + m.animationDuration)], x.2 ≤ limit + duration := by
    intro hinst x hx
    obtain ⟨d, hd⟩ := ht.timer m hinst
    have hlimit := hm.installed hinst d hd
    have hnow := (ht.timers _ hd).1
    obtain ⟨-, hpos, hle, -⟩ := ht.brief m (hv.mem_subviews.mpr (.inr hinst))
    rw [List.mem_singleton.mp hx]
    dsimp only at hnow ⊢
    omega
  rcases moved hv h with h | ⟨d, hd, he, h⟩ | ⟨n, deadline, he, hmem, hdue, hguard, h⟩ |
    ⟨n, timers, hinst, hun, htimers, hself, h⟩ | ⟨n, hinst, hun, hself, h⟩ |
    ⟨text, type, options, n, he, hn, u, hu, h⟩ | ⟨n, ends, he, hun, hmem, h⟩
  · rwa [h]
  · rw [h]
    exact { hm with }
  · rw [h]
    exact { hm with
      installed := fun hinst d hd => hm.installed hinst d (List.mem_of_mem_erase hd) }
  · subst h
    refine { hm with installed := fun hinst => absurd hinst (by simp), sliding := ?_ }
    intro hsliding
    cases hsliding
    exact hslide hinst
  · subst h
    exact { hm with installed := fun hinst => absurd hinst (by simp) }
  · have hnumber : n.number = v.made := by rw [hn, number_init]
    have hother : n ≠ m := by
      rintro rfl
      have := hm.number
      omega
    subst h
    refine ⟨Nat.lt_succ_of_lt hm.number, fun hinst => absurd hinst (by simpa using hother), ?_⟩
    rcases hu with ⟨rfl, hinst⟩ | ⟨m₀, hinst, hun, rfl⟩
    · exact hm.sliding
    · intro hsliding
      cases hsliding
      exact hslide hinst
  · subst h
    exact { hm with sliding := fun hsliding => absurd hsliding (by simp) }

/-- In time, the view and what each of its messages has to be gone by. -/
theorem timely_run (hv : v.Sound) (ht : Timely duration delay v)
    (hP : Along messageStep (fun v e => Punctual v e ∧ ShowsBrief duration delay v e) v es)
    (h : run messageStep v es = some w) : Timely duration delay w := by
  refine (run_invariant_along (fun v => v.Sound ∧ Timely duration delay v) ?_ ⟨hv, ht⟩ hP h).2
  exact fun s e s' hs hP he => ⟨hs.1.step he, timely_step hs.1 hs.2 hP he⟩

theorem goesBy_run (hv : v.Sound) (ht : Timely duration delay v) (hm : GoesBy duration limit v m)
    (hP : Along messageStep (fun v e => Punctual v e ∧ ShowsBrief duration delay v e) v es)
    (h : run messageStep v es = some w) : GoesBy duration limit w m := by
  refine (run_invariant_along
    (fun v => (v.Sound ∧ Timely duration delay v) ∧ GoesBy duration limit v m) ?_
    ⟨⟨hv, ht⟩, hm⟩ hP h).2
  exact fun s e s' hs hP he => ⟨⟨hs.1.1.step he, timely_step hs.1.1 hs.1.2 hP he⟩,
    goesBy_step hs.1.1 hs.1.2 hs.2 he⟩

/-- What is on a view in time is gone after the longest delay. -/
theorem goesBy_of_mem (hv : v.Sound) (ht : Timely duration delay v) (hm : m ∈ v.subviews) :
    GoesBy duration (v.now + delay) v m := by
  obtain ⟨-, hpos, hle, hlt, hdelay⟩ := ht.brief m hm
  refine ⟨hv.fresh m hm, fun _ d hd => (ht.timers _ hd).2, fun _ x hx => ?_⟩
  have hend := (ht.animations x hx).2
  omega

/-- After that, the message is not on the view. -/
theorem now_le_of_goesBy (hv : v.Sound) (ht : Timely duration delay v)
    (hm : GoesBy duration limit v m) (hmem : m ∈ v.subviews) : v.now ≤ limit + duration := by
  obtain ⟨-, hpos, hle, -⟩ := ht.brief m hmem
  rcases hv.mem_subviews.mp hmem with hsliding | hinst
  · obtain ⟨ends, hx⟩ := hv.animation_of hsliding
    have hend := hm.sliding hsliding _ hx
    have hnow := (ht.animations _ hx).1
    omega
  · obtain ⟨d, hd⟩ := ht.timer m hinst
    have hlimit := hm.installed hinst d hd
    have hnow : v.now ≤ d := (ht.timers _ hd).1
    omega

/-- **No message outstays its time.**  Whatever is shown and tapped, a message that is on the view
is gone once the longest delay and the longest animation have passed. -/
theorem none_outstays {now : ℤ} {before after : List MessageEvent}
    (hP : Along messageStep (fun v e => Punctual v e ∧ ShowsBrief duration delay v e)
      (.empty now) (before ++ after))
    (hv : run messageStep (.empty now) before = some v)
    (hw : run messageStep v after = some w) (hm : m ∈ v.subviews)
    (hlater : v.now + delay + duration < w.now) : m ∉ w.subviews := by
  intro hmem
  have hsound := sound_run (sound_empty now) hv
  have ht := timely_run (sound_empty now) (timely_empty now) hP.left hv
  have hright := hP.right hv
  have hgoes := goesBy_run hsound ht (goesBy_of_mem hsound ht hm) hright hw
  have hle := now_le_of_goesBy (sound_run hsound hw) (timely_run hsound ht hright hw) hgoes hmem
  omega

def secondNote : GSMessage := .init 1 "Card successfully updated" .success none

/-- A second after the first message, the second one has taken its place. -/
def replacedView : InView where
  installedMessage := some secondNote
  uninstallMessage := some firstNote
  subviews := [firstNote, secondNote]
  timers := [(firstNote, 3000000000), (secondNote, 4000000000)]
  animations := [(firstNote, 1250000000)]
  made := 2
  now := 1000000000

theorem none_outstays_replaced :
    ∃ w, run messageStep replacedView [
        .wait 250000000, .hidden firstNote 1250000000, .wait 1750000000,
        .autoHide firstNote 3000000000, .wait 1000000000, .autoHide secondNote 4000000000,
        .wait 250000000, .hidden secondNote 4250000000, .wait 750000000] = some w ∧
      secondNote ∉ w.subviews := by
  have hbefore : run messageStep (.empty 0) [
      .showMessage "The cvc doesn't match the cvc of the card." .error none, .wait 1000000000,
      .showMessage "Card successfully updated" .success none] = some replacedView := by
    decide +kernel
  have hafter : run messageStep replacedView [
      .wait 250000000, .hidden firstNote 1250000000, .wait 1750000000,
      .autoHide firstNote 3000000000, .wait 1000000000, .autoHide secondNote 4000000000,
      .wait 250000000, .hidden secondNote 4250000000, .wait 750000000] =
        some ⟨none, none, [], [], [], 2, 5000000000⟩ := by
    decide +kernel
  have hP : Along messageStep
      (fun v e => Punctual v e ∧ ShowsBrief 250000000 3000000000 v e) (.empty 0)
      ([.showMessage "The cvc doesn't match the cvc of the card." .error none, .wait 1000000000,
          .showMessage "Card successfully updated" .success none] ++
        [.wait 250000000, .hidden firstNote 1250000000, .wait 1750000000,
          .autoHide firstNote 3000000000, .wait 1000000000, .autoHide secondNote 4000000000,
          .wait 250000000, .hidden secondNote 4250000000, .wait 750000000]) := by
    decide +kernel
  exact ⟨_, hafter, none_outstays hP hbefore hafter (by decide +kernel) (by decide)⟩

end
end
end Lidora
