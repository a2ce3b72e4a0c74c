import Lidora.InFlight
import Lidora.Likes
import Lidora.Records

/-! # The heart of a chef's cell

`ChefCell` is reused: one cell shows one chef after another.  Whenever a chef is assigned
to it, `updateLike` asks `getLikes` whether the chef is liked, and a positive answer fills
the heart.  Nothing empties it but a tap: neither a negative answer nor another chef does.
An answer is not compared with the chef that the cell shows by then.

In every run of one cell, a filled heart is a liked chef's and a liked chef's heart is
filled or about to be, and a tap's answer touches no other chef's heart, exactly when
each step meets one condition (`heart_iff`): the cell is not given to a chef who is not
liked while it is filled, positive answers come only while the chef on show is liked, no
read fails that the heart still waits for, and the answer to a tap finds the chef it was
made on, or changes nothing.
-/
namespace Lidora
open DocumentStore Runs

/-- A request of the cell that is on its way. -/
inductive LikeRequest where
  /-- `getLikes` has been called for the chef. -/
  | getLikes (providerId : String)
  /-- Its documents have been read, and its callbacks have not run yet. -/
  | gotLikes (answers : List Bool)
  /-- `adjustLikes` has been called for the chef. -/
  | adjustLikes (providerId : String)
  /-- The document has, or has not, been found, and the callback has not run yet. -/
  | adjusting (providerId : String) (found : Bool)
  deriving DecidableEq

/-- The customer's documents and one `ChefCell`: its chef, and whether the heart is
`heart.fill`. -/
structure ChefCell where
  store : Firestore
  chef : Option Chef
  filled : Bool
  requests : InFlight LikeRequest

inductive ChefCellEvent where
  /-- `chef` is set, by `cellForItem` of the section that has dequeued the cell. -/
  | assign (chef : Option Chef)
  /-- The like button is tapped. -/
  | likeChef
  /-- Request `n` is read, or fails. -/
  | read (n : ℕ) (ok : Bool)
  /-- The callbacks of request `n` run. -/
  | callback (n : ℕ)

namespace ChefCell

/-- `updateLike`. -/
def updateLike (s : ChefCell) : ChefCell :=
  match s.chef with
  | none => s
  | some chef => { s with requests := s.requests.start (.getLikes chef.id) }

/-- `likeChef`. -/
def likeChef (s : ChefCell) : ChefCell :=
  match s.chef with
  | none => s
  | some chef => { s with requests := s.requests.start (.adjustLikes chef.id) }

/-- The callback of `updateLike`, which fills the heart or leaves it. -/
def fill (filled success : Bool) : Bool := if success then true else filled

end ChefCell

section
variable (uid : String)

/-- One step of the cell.  The write of `adjustLikes` is issued in its callback, and from
then on the customer's reads see it. -/
def chefCellStep (s : ChefCell) : ChefCellEvent → Option ChefCell
  | .assign chef => some { s with chef := chef }.updateLike
  | .likeChef => some s.likeChef
  | .read n ok =>
    (s.requests.running n).bind fun request =>
      match request with
      | .getLikes providerId =>
        some { s with requests :=
          if ok then s.requests.put n (.gotLikes (getLikes uid providerId s.store))
          else s.requests.finish n }
      | .adjustLikes providerId =>
        some { s with requests :=
          s.requests.put n (.adjusting providerId (ok && isLiked uid s.store providerId)) }
      | _ => none
  | .callback n =>
    (s.requests.running n).bind fun request =>
      match request with
      | .gotLikes answers =>
        some { s with
          filled := answers.foldl ChefCell.fill s.filled
          requests := s.requests.finish n }
      | .adjusting providerId found =>
        some { s with
          store := adjustLikes uid providerId found s.store
          filled := !found
          requests := s.requests.finish n }
      | _ => none

/-- A new cell. -/
def ChefCell.initial (store : Firestore) : ChefCell := ⟨store, none, false, InFlight.empty⟩

/-- The chef that the cell shows is liked. -/
def ChefCell.Liked (s : ChefCell) : Prop :=
  ∃ chef ∈ s.chef, isLiked uid s.store chef.id = true

/-- The request will fill the heart, unless it fails or the chef is unliked before it is
read. -/
def ChefCell.Promise (s : ChefCell) : LikeRequest → Prop
  | .getLikes providerId => s.chef.map Chef.id = some providerId
  | .gotLikes answers => true ∈ answers
  | _ => False

/-- **The heart is right.**  A filled heart is a liked chef's, and a liked chef's heart is
filled or about to be. -/
structure ChefCell.HeartRight (s : ChefCell) : Prop where
  liked : s.filled = true → s.Liked uid
  filled : s.Liked uid → s.filled = true ∨ s.requests.Any s.Promise

/-- The answer to a tap finds the chef it was made on, or changes nothing. -/
def ChefCell.OwnEffect (s : ChefCell) : ChefCellEvent → Prop
  | .callback n => ∀ providerId found, s.requests.running n = some (.adjusting providerId found) →
      s.chef.map Chef.id = some providerId ∨ s.filled = !found
  | _ => True

/-- The condition on one step under which the heart stays right. -/
def ChefCell.KeepsHeart (s : ChefCell) : ChefCellEvent → Prop
  | .assign chef => s.filled = true → { s with chef := chef }.Liked uid
  | .likeChef => True
  | .read n ok => ok = false → (∃ providerId, s.requests.running n = some (.getLikes providerId)) →
      s.Liked uid → s.filled = true ∨ (s.requests.finish n).Any s.Promise
  | .callback n =>
    (∀ answers, s.requests.running n = some (.gotLikes answers) → true ∈ answers →
      s.Liked uid) ∧ s.OwnEffect (.callback n)

end

/-! ## One step -/

namespace ChefCell
variable {uid : String} {s s' : ChefCell}

theorem foldl_fill (filled : Bool) (answers : List Bool) :
    answers.foldl fill filled = true ↔ filled = true ∨ true ∈ answers := by
  induction answers generalizing filled with
  | nil => simp
  | cons answer answers ih =>
    rw [List.foldl_cons, ih, List.mem_cons]
    cases answer <;> simp [fill]

/-- What leaves the chef, the likes and the heart alone keeps the heart right as long as
the promises are kept. -/
theorem heartRight_of_requests (h : s.HeartRight uid) {requests : InFlight LikeRequest} :
    ({ s with requests := requests } : ChefCell).HeartRight uid ↔
      (s.Liked uid → s.filled = true ∨ requests.Any s.Promise) :=
  ⟨fun h' => h'.filled, fun hfilled => ⟨h.liked, hfilled⟩⟩

/-- Another chef: the heart is asked for, so that only a filled one can be wrong. -/
theorem heartRight_assign (chef : Option Chef) :
    ({ s with chef := chef }.updateLike).HeartRight uid ↔
      (s.filled = true → { s with chef := chef }.Liked uid) := by
  cases chef with
  | none =>
    constructor
    · exact fun h => h.liked
    · refine fun h => ⟨h, ?_⟩
      rintro ⟨chef, hchef, -⟩
      cases hchef
  | some chef =>
    constructor
    · exact fun h => h.liked
    · exact fun h => ⟨h, fun _ => Or.inr (InFlight.any_start.mpr (Or.inl rfl))⟩

theorem heartRight_likeChef (h : s.HeartRight uid) : s.likeChef.HeartRight uid := by
  unfold likeChef
  split
  · exact h
  · refine (heartRight_of_requests h).mpr fun hliked => ?_
    exact (h.filled hliked).imp_right fun hany => InFlight.any_start.mpr (Or.inr hany)

/-- The documents are read: a promise to the liked chef on show is kept. -/
theorem heartRight_gotLikes (h : s.HeartRight uid) {n : ℕ} {providerId : String}
    (hrun : s.requests.running n = some (.getLikes providerId)) :
    ({ s with requests := s.requests.put n (.gotLikes (getLikes uid providerId s.store)) } :
      ChefCell).HeartRight uid := by
  refine (heartRight_of_requests h).mpr fun hliked => (h.filled hliked).imp_right fun hany => ?_
  rw [InFlight.any_put hrun]
  rcases (InFlight.any_iff hrun).mp hany with hpromise | hany
  · obtain ⟨chef, hchef, hchefLiked⟩ := hliked
    have hid : chef.id = providerId := by
      have hmap : s.chef.map Chef.id = some providerId := hpromise
      rw [hchef] at hmap
      exact Option.some.inj hmap
    rw [hid] at hchefLiked
    exact Or.inl (true_mem_getLikes.mpr hchefLiked)
  · exact Or.inr hany

/-- The read fails: another promise has to be there. -/
theorem heartRight_failed (h : s.HeartRight uid) (n : ℕ) :
    ({ s with requests := s.requests.finish n } : ChefCell).HeartRight uid ↔
      (s.Liked uid → s.filled = true ∨ (s.requests.finish n).Any s.Promise) :=
  heartRight_of_requests h

/-- The document of a tap is read: no promise is touched. -/
theorem heartRight_adjusting (h : s.HeartRight uid) {n : ℕ} {providerId : String} (found : Bool)
    (hrun : s.requests.running n = some (.adjustLikes providerId)) :
    ({ s with requests := s.requests.put n (.adjusting providerId found) } :
      ChefCell).HeartRight uid := by
  refine (heartRight_of_requests h).mpr fun hliked => (h.filled hliked).imp_right fun hany => ?_
  rw [InFlight.any_put hrun]
  exact Or.inr (((InFlight.any_iff hrun).mp hany).resolve_left id)

/-- The callbacks of `getLikes`: a positive answer must be one for a liked chef. -/
theorem heartRight_filled (h : s.HeartRight uid) {n : ℕ} {answers : List Bool}
    (hrun : s.requests.running n = some (.gotLikes answers)) :
    ({ s with
      filled := answers.foldl fill s.filled
      requests := s.requests.finish n } : ChefCell).HeartRight uid ↔
      (true ∈ answers → s.Liked uid) := by
  constructor
  · intro h' hmem
    exact h'.liked ((foldl_fill _ _).mpr (Or.inr hmem))
  · intro hanswers
    refine ⟨fun hfilled => ?_, fun hliked => ?_⟩
    · rcases (foldl_fill _ _).mp hfilled with hfilled | hmem
      · exact h.liked hfilled
      · exact hanswers hmem
    · -- either this request was the promise, or another one still is
      rcases h.filled hliked with hfilled | hany
      · exact Or.inl ((foldl_fill _ _).mpr (Or.inl hfilled))
      · rcases (InFlight.any_iff hrun).mp hany with hpromise | hany
        · exact Or.inl ((foldl_fill _ _).mpr (Or.inr hpromise))
        · exact Or.inr hany

/-- The callback of `adjustLikes` for the chef on show: heart and document change together. -/
theorem heartRight_own {n : ℕ} {providerId : String} (found : Bool)
    (hchef : s.chef.map Chef.id = some providerId) :
    ({ s with
      store := adjustLikes uid providerId found s.store
      filled := !found
      requests := s.requests.finish n } : ChefCell).HeartRight uid := by
  obtain ⟨chef, hshown, rfl⟩ := Option.map_eq_some_iff.mp hchef
  constructor
  · intro hfilled
    exact ⟨chef, hshown, (isLiked_adjustLikes _ _ _ _).trans hfilled⟩
  · rintro ⟨chef', hshown', hliked⟩
    cases hshown.symm.trans hshown'
    exact Or.inl ((isLiked_adjustLikes _ _ _ _).symm.trans hliked)

/-- For another chef: it must leave the heart alone. -/
theorem heartRight_other (h : s.HeartRight uid) {n : ℕ} {providerId : String} {found : Bool}
    (hrun : s.requests.running n = some (.adjusting providerId found))
    (hchef : s.chef.map Chef.id ≠ some providerId) (hsame : s.filled = !found) :
    ({ s with
      store := adjustLikes uid providerId found s.store
      filled := !found
      requests := s.requests.finish n } : ChefCell).HeartRight uid := by
  have hliked : ∀ chef ∈ s.chef,
      isLiked uid (adjustLikes uid providerId found s.store) chef.id =
        isLiked uid s.store chef.id := by
    intro chef hmem
    refine isLiked_adjustLikes_of_ne (fun hid => hchef ?_) _ _
    rw [Option.mem_def.mp hmem, Option.map_some, hid]
  rw [← hsame]
  constructor
  · intro hfilled
    obtain ⟨chef, hmem, hchefLiked⟩ := h.liked hfilled
    exact ⟨chef, hmem, (hliked chef hmem).trans hchefLiked⟩
  · rintro ⟨chef, hmem, hchefLiked⟩
    have hbefore : s.Liked uid := ⟨chef, hmem, (hliked chef hmem).symm.trans hchefLiked⟩
    refine (h.filled hbefore).imp_right fun hany => ?_
    exact ((InFlight.any_iff hrun).mp hany).resolve_left id

end ChefCell

/-- **One step keeps the heart right**, and touches no other chef's heart, exactly when it
meets the condition. -/
theorem heartRight_step {uid : String} {s s' : ChefCell} {e : ChefCellEvent}
    (h : s.HeartRight uid) (hstep : chefCellStep uid s e = some s') :
    s'.HeartRight uid ∧ s.OwnEffect e ↔ s.KeepsHeart uid e := by
  cases e with
  | assign chef =>
    cases hstep
    exact (and_iff_left trivial).trans (ChefCell.heartRight_assign chef)
  | likeChef =>
    cases hstep
    exact iff_of_true ⟨ChefCell.heartRight_likeChef h, trivial⟩ trivial
  | read n ok =>
    obtain ⟨request, hrun, hstep⟩ := Option.bind_eq_some_iff.mp hstep
    refine (and_iff_left trivial).trans ?_
    split at hstep
    · rename_i providerId
      cases hstep
      cases ok with
      | true => exact iff_of_true (ChefCell.heartRight_gotLikes h hrun) fun hok => by cases hok
      | false =>
        refine (ChefCell.heartRight_failed h n).trans ?_
        exact ⟨fun hkept _ _ => hkept, fun hkeeps => hkeeps rfl ⟨providerId, hrun⟩⟩
    · cases hstep
      refine iff_of_true (ChefCell.heartRight_adjusting h _ hrun) ?_
      rintro - ⟨providerId, hrun'⟩
      cases hrun.symm.trans hrun'
    · cases hstep
  | callback n =>
    obtain ⟨request, hrun, hstep⟩ := Option.bind_eq_some_iff.mp hstep
    split at hstep
    · rename_i answers
      cases hstep
      refine and_congr_left fun _ => (ChefCell.heartRight_filled h hrun).trans ?_
      constructor
      · intro hanswers answers' hrun'
        cases hrun.symm.trans hrun'
        exact hanswers
      · intro hkeeps
        exact hkeeps answers hrun
    · rename_i providerId found
      cases hstep
      refine and_congr_left fun hown => iff_of_true ?_ ?_
      · by_cases hchef : s.chef.map Chef.id = some providerId
        · exact ChefCell.heartRight_own found hchef
        · exact ChefCell.heartRight_other h hrun hchef ((hown _ _ hrun).resolve_left hchef)
      · intro answers hrun'
        cases hrun.symm.trans hrun'
    · cases hstep

/-! ## Runs -/

/-- **When the heart tells the truth.**  In every run of one cell over any likes, the heart
is right in every state and no tap's answer touches another chef's heart if and only if
every step meets the condition; and when that is so, in every state without a request on
its way the heart is filled exactly if the chef on show is liked. -/
theorem heart_iff (uid : String) (store : Firestore) {es : List ChefCellEvent} {t : ChefCell}
    (h : run (chefCellStep uid) (ChefCell.initial store) es = some t) :
    ((∀ k s, run (chefCellStep uid) (ChefCell.initial store) (es.take k) = some s →
        s.HeartRight uid) ∧
      Along (chefCellStep uid) ChefCell.OwnEffect (ChefCell.initial store) es ↔
      Along (chefCellStep uid) (ChefCell.KeepsHeart uid) (ChefCell.initial store) es) ∧
    (Along (chefCellStep uid) (ChefCell.KeepsHeart uid) (ChefCell.initial store) es →
      ∀ k s, run (chefCellStep uid) (ChefCell.initial store) (es.take k) = some s →
        s.requests.Quiet → (s.filled = true ↔ s.Liked uid)) := by
  have hinit : (ChefCell.initial store).HeartRight uid := by
    constructor
    · intro hfilled
      cases hfilled
    · rintro ⟨chef, hchef, -⟩
      cases hchef
  have hiff := always_and_iff_along (fun _ => True) (ChefCell.HeartRight uid)
    (fun _ _ _ _ _ => trivial) (fun s e s' _ hg he => heartRight_step hg he) trivial hinit h
  refine ⟨hiff, fun halong k s hk hquiet => ?_⟩
  have hright := (hiff.mpr halong).1 k s hk
  exact ⟨hright.liked, fun hliked => (hright.filled hliked).resolve_right hquiet.not_any⟩

/-! ## A cell that is used twice -/

/-- The customer likes ana and nobody else. -/
def likesAna : Firestore := (∅ : Firestore).setData (likeRef "uid" "ana") [("id", .string "ana")]

/-- A chef with nothing but an id. -/
def bareChef (id : String) : Chef := Chef.init id Doc.empty

/-- Ana is shown and asked about; then she is tapped away, and back. -/
def tapsOnAna : List ChefCellEvent :=
  [.assign (bareChef "ana"), .read 0 true, .callback 0, .likeChef, .read 1 true, .callback 1,
    .likeChef, .read 2 true, .callback 2]

/-- Ana is shown and asked about, and then the cell is given to bob. -/
def anaThenBob : List ChefCellEvent :=
  [.assign (bareChef "ana"), .read 0 true, .callback 0, .assign (bareChef "bob"), .read 1 true,
    .callback 1]

theorem heart_iff_taps : ∃ t,
    run (chefCellStep "uid") (ChefCell.initial likesAna) tapsOnAna = some t ∧
    ((∀ k s, run (chefCellStep "uid") (ChefCell.initial likesAna) (tapsOnAna.take k) = some s →
        s.HeartRight "uid") ∧
      Along (chefCellStep "uid") ChefCell.OwnEffect (ChefCell.initial likesAna) tapsOnAna ↔
      Along (chefCellStep "uid") (ChefCell.KeepsHeart "uid") (ChefCell.initial likesAna)
        tapsOnAna) ∧
    (Along (chefCellStep "uid") (ChefCell.KeepsHeart "uid") (ChefCell.initial likesAna)
        tapsOnAna →
      ∀ k s, run (chefCellStep "uid") (ChefCell.initial likesAna) (tapsOnAna.take k) = some s →
        s.requests.Quiet → (s.filled = true ↔ s.Liked "uid")) := by
  have hsome : (run (chefCellStep "uid") (ChefCell.initial likesAna) tapsOnAna).isSome := by
    decide +kernel
  obtain ⟨t, ht⟩ := Option.isSome_iff_exists.mp hsome
  exact ⟨t, ht, heart_iff "uid" likesAna ht⟩

/-- **Bob inherits ana's heart.**  All requests have been answered, bob is not liked, and his
heart is filled. -/
theorem heart_inherited : ∃ t,
    run (chefCellStep "uid") (ChefCell.initial likesAna) anaThenBob = some t ∧
    t.requests.Quiet ∧ t.chef = some (bareChef "bob") ∧ t.filled = true ∧
    isLiked "uid" t.store "bob" = false ∧ ¬ (t.filled = true ↔ t.Liked "uid") := by
  have hrun : (run (chefCellStep "uid") (ChefCell.initial likesAna) anaThenBob).map (fun t =>
      decide (t.requests.Quiet ∧ t.chef = some (bareChef "bob") ∧ t.filled = true ∧
        isLiked "uid" t.store "bob" = false)) = some true := by decide +kernel
  obtain ⟨t, ht, hfacts⟩ := Option.map_eq_some_iff.mp hrun
  obtain ⟨hquiet, hchef, hfilled, hnot⟩ := of_decide_eq_true hfacts
  refine ⟨t, ht, hquiet, hchef, hfilled, hnot, fun hiff => ?_⟩
  obtain ⟨chef, hmem, hliked⟩ := hiff.mp hfilled
  rw [Option.mem_def, hchef] at hmem
  cases hmem
  rw [show (bareChef "bob").id = "bob" from rfl, hnot] at hliked
  cases hliked

end Lidora
