import Lidora.Firestore
import Lidora.Runs

/-! # Likes

A customer's likes are documents, one for each liked chef, named by the chef.
`adjustLikes` reads the document of one chef and then deletes it if it was there, and
writes it if it was not; nothing ties the write to what has been read, and the button stays
enabled all the while.

A call lies in the list of calls in the order of the taps, and its read and its write are
steps of their own.  Every write that finds the document as its read did toggles it, and
no other write changes it.  So in every run the presence of the document follows the
number of writes exactly as long as each of them finds what its call has read, and then a
run in which nothing is left to do has toggled it once for each tap
(`toggled_iff`).  Two taps that read before either writes toggle it once
(`two_taps_one_toggle`).
-/
namespace Lidora
open DocumentStore Runs

/-- `RefCurrentUser.collection("likes")`. -/
def likesRef (uid : String) : Path := refCurrentUser uid ++ ["likes"]

/-- The like document of a chef. -/
def likeRef (uid providerId : String) : Path := likesRef uid ++ [providerId]

/-- The customer likes the chef: the document is there. -/
def isLiked (uid : String) (s : Firestore) (providerId : String) : Bool :=
  (s.lookup (likeRef uid providerId)).isSome

/-- The answers of `getLikes`: one for each like of the customer. -/
def getLikes (uid providerId : String) (s : Firestore) : List Bool :=
  (s.documents (likesRef uid)).map fun p => p.getLastD "" = providerId

/-- One of the answers is positive exactly when the chef is liked. -/
theorem true_mem_getLikes {uid providerId : String} {s : Firestore} :
    true ∈ getLikes uid providerId s ↔ isLiked uid s providerId = true := by
  rw [getLikes, List.mem_map, isLiked]
  constructor
  · rintro ⟨p, hp, hid⟩
    obtain ⟨hcoll, hsome⟩ := Firestore.mem_documents.mp hp
    obtain ⟨id, rfl⟩ := Firestore.inCollection_iff.mp hcoll
    rw [List.getLastD_concat, decide_eq_true_iff] at hid
    subst hid
    exact hsome
  · intro hsome
    have hcoll : Firestore.InCollection (likesRef uid) (likeRef uid providerId) :=
      Firestore.inCollection_iff.mpr ⟨providerId, rfl⟩
    refine ⟨likeRef uid providerId, Firestore.mem_documents.mpr ⟨hcoll, hsome⟩, ?_⟩
    rw [likeRef, List.getLastD_concat, decide_eq_true_iff]

/-- What `adjustLikes` does once its read has found the document, or has not. -/
def adjustLikes (uid providerId : String) (found : Bool) (s : Firestore) : Firestore :=
  if found then s.erase (likeRef uid providerId)
  else s.setData (likeRef uid providerId) [("id", .string providerId)]

/-- A call leaves the document there if it has not found it, and the other way round. -/
@[simp] theorem isLiked_adjustLikes (uid providerId : String) (found : Bool) (s : Firestore) :
    isLiked uid (adjustLikes uid providerId found s) providerId = !found := by
  cases found with
  | true => simp [isLiked, adjustLikes]
  | false => simp [isLiked, adjustLikes, Firestore.setData]

/-- The other chefs are not concerned. -/
theorem isLiked_adjustLikes_of_ne {uid p q : String} (h : p ≠ q) (found : Bool)
    (s : Firestore) : isLiked uid (adjustLikes uid q found s) p = isLiked uid s p := by
  have hne : likeRef uid p ≠ likeRef uid q := by simpa [likeRef] using h
  unfold isLiked adjustLikes
  split
  · rw [Finmap.lookup_erase_ne hne]
  · rw [Firestore.setData, Finmap.lookup_insert_of_ne _ hne]

/-! ## Calls of `adjustLikes` -/

/-- How far a call has come. -/
inductive LikePhase where
  | reading
  | writing (found : Bool)
  | done
  deriving DecidableEq

/-- A call of `adjustLikes`, for one chef and from one device. -/
structure LikeCall (D : Type) where
  device : D
  providerId : String
  phase : LikePhase

/-- The store, and the calls in the order of the taps. -/
structure LikesState (D : Type) where
  store : Firestore
  calls : List (LikeCall D)

/-- Where a read is answered from. -/
inductive ReadSource where
  /-- The document as it is stored. -/
  | server
  /-- The write of call `m`, from the same device, which has not landed yet. -/
  | pending (m : ℕ)
  /-- Nowhere: the read fails, and `snapshot?.data()` is nil. -/
  | failed

inductive LikesEvent (D : Type) where
  /-- The button of the chef is tapped. -/
  | tap (device : D) (providerId : String)
  /-- The read of call `n` is answered. -/
  | read (n : ℕ) (source : ReadSource)
  /-- The write of call `n` lands. -/
  | write (n : ℕ)

section
variable {D : Type} [DecidableEq D] (uid : String)

/-- What a read by call `c` finds, if it can be answered from there. -/
def LikesState.find (s : LikesState D) (c : LikeCall D) : ReadSource → Option Bool
  | .server => some (isLiked uid s.store c.providerId)
  | .pending m =>
    match s.calls[m]? with
    | some ⟨device, providerId, .writing found⟩ =>
      if device = c.device ∧ providerId = c.providerId then some !found else none
    | _ => none
  | .failed => some false

/-- Call `n` goes on with this phase. -/
def LikesState.goOn (s : LikesState D) (n : ℕ) (c : LikeCall D) (phase : LikePhase) :
    LikesState D :=
  { s with calls := s.calls.set n { c with phase := phase } }

/-- One step of the calls. -/
def likesStep (s : LikesState D) : LikesEvent D → Option (LikesState D)
  | .tap device providerId =>
    some { s with calls := s.calls ++ [⟨device, providerId, .reading⟩] }
  | .read n source =>
    s.calls[n]?.bind fun c =>
      match c.phase with
      | .reading => (s.find uid c source).map fun found => s.goOn n c (.writing found)
      | _ => none
  | .write n =>
    s.calls[n]?.bind fun c =>
      match c.phase with
      | .writing found =>
        some { s.goOn n c .done with store := adjustLikes uid c.providerId found s.store }
      | _ => none

/-- Nobody has tapped yet. -/
def LikesState.initial (store : Firestore) : LikesState D := ⟨store, []⟩

omit [DecidableEq D] in
/-- The event is a tap on the chef's button. -/
def LikesEvent.isTap (providerId : String) : LikesEvent D → Bool
  | .tap _ p => p = providerId
  | _ => false

/-- The calls for the chef. -/
def LikesState.taps (s : LikesState D) (providerId : String) : ℕ :=
  s.calls.countP fun c => c.providerId = providerId

/-- The calls for the chef whose write has landed. -/
def LikesState.written (s : LikesState D) (providerId : String) : ℕ :=
  s.calls.countP fun c => c.providerId = providerId ∧ c.phase = .done

/-- Every call has done its write. -/
def LikesState.AllDone (s : LikesState D) : Prop := ∀ c ∈ s.calls, c.phase = .done

/-- The document has been toggled once for each write since it was there, or was not. -/
def LikesState.Toggled (s : LikesState D) (providerId : String) (initially : Bool) : Prop :=
  isLiked uid s.store providerId = (initially ^^ (s.written providerId).bodd)

/-- A write of a call for the chef finds the document as the call has read it. -/
def FindsWhatItRead (providerId : String) (s : LikesState D) : LikesEvent D → Prop
  | .write n =>
    ∀ c ∈ s.calls[n]?, c.providerId = providerId →
      ∀ found, c.phase = .writing found → isLiked uid s.store providerId = found
  | _ => True

/-! ## One step -/

variable {uid} {s s' : LikesState D} {e : LikesEvent D}

/-- What a step is: a tap, an answer to a read, or a write that lands. -/
theorem likesStep_cases (h : likesStep uid s e = some s') :
    (∃ device p, e = .tap device p ∧
      s' = { s with calls := s.calls ++ [⟨device, p, .reading⟩] }) ∨
    (∃ n source c found, e = .read n source ∧ s.calls[n]? = some c ∧ c.phase = .reading ∧
      s' = s.goOn n c (.writing found)) ∨
    (∃ n c found, e = .write n ∧ s.calls[n]? = some c ∧ c.phase = .writing found ∧
      s' = { s.goOn n c .done with store := adjustLikes uid c.providerId found s.store }) := by
  cases e with
  | tap device p => exact Or.inl ⟨device, p, rfl, (Option.some.inj h).symm⟩
  | read n source =>
    obtain ⟨c, hc, h⟩ := Option.bind_eq_some_iff.mp h
    split at h
    · rename_i hphase
      obtain ⟨found, -, rfl⟩ := Option.map_eq_some_iff.mp h
      exact Or.inr (Or.inl ⟨n, source, c, found, rfl, hc, hphase, rfl⟩)
    · cases h
  | write n =>
    obtain ⟨c, hc, h⟩ := Option.bind_eq_some_iff.mp h
    split at h
    · rename_i found hphase
      exact Or.inr (Or.inr ⟨n, c, found, rfl, hc, hphase, (Option.some.inj h).symm⟩)
    · cases h

/-- Counting in a list of which one entry is replaced. -/
theorem countP_set_add {α : Type} {l : List α} {n : ℕ} {x : α} (hx : l[n]? = some x) (y : α)
    (p : α → Bool) : (l.set n y).countP p + (p x).toNat = l.countP p + (p y).toNat := by
  obtain ⟨hn, rfl⟩ := List.getElem?_eq_some_iff.mp hx
  have hle := List.boole_getElem_le_countP (p := p) hn
  have hnat : ∀ b : Bool, b.toNat = if b then 1 else 0 := by decide
  rw [List.countP_set hn, hnat, hnat]
  omega

omit [DecidableEq D] in
theorem taps_goOn {n : ℕ} {c : LikeCall D} (hc : s.calls[n]? = some c) (phase : LikePhase)
    (p : String) : (s.goOn n c phase).taps p = s.taps p :=
  Nat.add_right_cancel (countP_set_add hc _ _)

omit [DecidableEq D] in
/-- A call that goes on has not written yet; it has once it is done. -/
theorem written_goOn {n : ℕ} {c : LikeCall D} (hc : s.calls[n]? = some c)
    (hphase : c.phase ≠ .done) (phase : LikePhase) (p : String) :
    (s.goOn n c phase).written p =
      s.written p + (decide (c.providerId = p ∧ phase = .done)).toNat := by
  have hset := countP_set_add hc { c with phase := phase }
    fun c => decide (c.providerId = p ∧ c.phase = .done)
  have hnot : decide (c.providerId = p ∧ c.phase = .done) = false :=
    decide_eq_false fun h => hphase h.2
  rw [hnot, Bool.toNat_false, Nat.add_zero] at hset
  exact hset

/-- **One step keeps count** exactly when it is no write that finds something else than its
call has read. -/
theorem toggled_step {p : String} {initially : Bool} (hg : s.Toggled uid p initially)
    (h : likesStep uid s e = some s') : s'.Toggled uid p initially ↔ FindsWhatItRead uid p s e := by
  rcases likesStep_cases h with ⟨device, q, rfl, rfl⟩ |
    ⟨n, source, c, found, rfl, hc, hphase, rfl⟩ | ⟨n, c, found, rfl, hc, hphase, rfl⟩
  · refine iff_of_true ?_ trivial
    have hwritten : ({ s with calls := s.calls ++ [⟨device, q, .reading⟩] } :
        LikesState D).written p = s.written p := by
      simp [LikesState.written, List.countP_append]
    rw [LikesState.Toggled, hwritten]
    exact hg
  · refine iff_of_true ?_ trivial
    have hwritten := written_goOn hc (by simp [hphase]) (.writing found) p
    simp only [reduceCtorEq, and_false, decide_false, Bool.toNat_false, Nat.add_zero] at hwritten
    rw [LikesState.Toggled, hwritten]
    exact hg
  · have hwritten := written_goOn hc (by simp [hphase]) .done p
    simp only [and_true] at hwritten
    rw [LikesState.Toggled]
    change isLiked uid (adjustLikes uid c.providerId found s.store) p =
      (initially ^^ ((s.goOn n c .done).written p).bodd) ↔ _
    rw [hwritten]
    by_cases hp : c.providerId = p
    · -- the write leaves the opposite of what the call has found
      subst hp
      have hfinds : FindsWhatItRead uid c.providerId s (.write n) ↔
          isLiked uid s.store c.providerId = found := by
        constructor
        · intro hfinds
          exact hfinds c hc rfl found hphase
        · intro hfound c' hc' _ found' hphase'
          cases hc.symm.trans hc'
          cases hphase.symm.trans hphase'
          exact hfound
      rw [hfinds, isLiked_adjustLikes, decide_eq_true rfl, Bool.toNat_true, Nat.bodd_succ,
        Bool.xor_not, ← hg, Bool.not_inj_iff]
      exact eq_comm
    · have hfinds : FindsWhatItRead uid p s (.write n) := by
        intro c' hc' hp'
        cases hc.symm.trans hc'
        exact absurd hp' hp
      rw [isLiked_adjustLikes_of_ne (Ne.symm hp), decide_eq_false hp, Bool.toNat_false,
        Nat.add_zero]
      exact iff_of_true hg hfinds

/-- The taps are the calls. -/
theorem taps_step (h : likesStep uid s e = some s') (p : String) :
    s'.taps p = s.taps p + (e.isTap p).toNat := by
  rcases likesStep_cases h with ⟨device, q, rfl, rfl⟩ |
    ⟨n, source, c, found, rfl, hc, -, rfl⟩ | ⟨n, c, found, rfl, hc, -, rfl⟩
  · simp only [LikesState.taps, List.countP_append, List.countP_singleton, LikesEvent.isTap]
    by_cases hq : q = p <;> simp [hq]
  · exact taps_goOn hc _ p
  · exact taps_goOn hc .done p

/-! ## Runs -/

theorem taps_run {es : List (LikesEvent D)} {s t : LikesState D}
    (h : run (likesStep uid) s es = some t) (p : String) :
    t.taps p = s.taps p + es.countP (LikesEvent.isTap p) := by
  induction es generalizing s with
  | nil =>
    cases h
    rfl
  | cons e es ih =>
    obtain ⟨s', he, h⟩ := (run_cons_iff _).mp h
    rw [ih h, taps_step he, List.countP_cons, Nat.add_assoc]
    cases e.isTap p <;> simp [Nat.add_comm]

omit [DecidableEq D] in
/-- Once every call has done its write, there are as many writes as taps. -/
theorem written_of_allDone (h : s.AllDone) (p : String) : s.written p = s.taps p := by
  refine List.countP_congr fun c hc => ?_
  simp [h c hc]

end

/-- **When no toggle is lost.**  In every run of the calls that taps start on any number of
devices, the chef's document is there, in every state, just as the writes so far would
toggle it, if and only if every write for the chef finds the document as its call has read
it; and when that is so, a run in which every call has done its write has toggled the
document once for each tap. -/
theorem toggled_iff {D : Type} [DecidableEq D] (uid providerId : String) (store : Firestore)
    {es : List (LikesEvent D)} {t : LikesState D}
    (h : run (likesStep uid) (LikesState.initial store) es = some t) :
    ((∀ k s, run (likesStep uid) (LikesState.initial store) (es.take k) = some s →
        s.Toggled uid providerId (isLiked uid store providerId)) ↔
      Along (likesStep uid) (FindsWhatItRead uid providerId) (LikesState.initial store) es) ∧
    (Along (likesStep uid) (FindsWhatItRead uid providerId) (LikesState.initial store) es →
      t.AllDone →
        isLiked uid t.store providerId =
          (isLiked uid store providerId ^^ (es.countP (LikesEvent.isTap providerId)).bodd)) := by
  have hinit : (LikesState.initial store : LikesState D).Toggled uid providerId
      (isLiked uid store providerId) := by
    simp [LikesState.Toggled, LikesState.initial, LikesState.written]
  have hiff := always_iff_along (fun _ => True)
    (fun s => s.Toggled uid providerId (isLiked uid store providerId))
    (fun _ _ _ _ _ => trivial) (fun s e s' _ hg he => toggled_step hg he) trivial hinit h
  refine ⟨hiff, fun halong hdone => ?_⟩
  have htoggled := hiff.mpr halong es.length t (by rwa [List.take_length])
  have htaps := taps_run h providerId
  rw [LikesState.Toggled, written_of_allDone hdone, htaps] at htoggled
  simpa [LikesState.taps, LikesState.initial] using htoggled

/-! ## Two taps -/

/-- Two taps, one after the other: both toggle. -/
def tapsInTurn : List (LikesEvent Bool) :=
  [.tap false "ana", .read 0 .server, .write 0, .tap true "ana", .read 1 .server, .write 1]

/-- Two taps, on two devices, that both read before either writes. -/
def tapsAtOnce : List (LikesEvent Bool) :=
  [.tap false "ana", .tap true "ana", .read 0 .server, .read 1 .server, .write 0, .write 1]

theorem toggled_in_turn : ∃ t,
    run (likesStep "uid") (LikesState.initial ∅) tapsInTurn = some t ∧
    ((∀ k s, run (likesStep "uid") (LikesState.initial ∅) (tapsInTurn.take k) = some s →
        s.Toggled "uid" "ana" (isLiked "uid" ∅ "ana")) ↔
      Along (likesStep "uid") (FindsWhatItRead "uid" "ana") (LikesState.initial ∅) tapsInTurn) ∧
    (Along (likesStep "uid") (FindsWhatItRead "uid" "ana") (LikesState.initial ∅) tapsInTurn →
      t.AllDone →
        isLiked "uid" t.store "ana" =
          (isLiked "uid" ∅ "ana" ^^ (tapsInTurn.countP (LikesEvent.isTap "ana")).bodd)) := by
  have hsome : (run (likesStep "uid") (LikesState.initial ∅) tapsInTurn).isSome := by
    decide +kernel
  obtain ⟨t, ht⟩ := Option.isSome_iff_exists.mp hsome
  exact ⟨t, ht, toggled_iff "uid" "ana" ∅ ht⟩

/-- **Two taps, one toggle.**  Both calls find no document and both write it: after two
taps a chef who was not liked is. -/
theorem two_taps_one_toggle : ∃ t,
    run (likesStep "uid") (LikesState.initial ∅) tapsAtOnce = some t ∧ t.AllDone ∧
    isLiked "uid" ∅ "ana" = false ∧ tapsAtOnce.countP (LikesEvent.isTap "ana") = 2 ∧
    isLiked "uid" t.store "ana" = true ∧
    isLiked "uid" t.store "ana" ≠
      (isLiked "uid" ∅ "ana" ^^ (tapsAtOnce.countP (LikesEvent.isTap "ana")).bodd) := by
  have hrun : (run (likesStep "uid") (LikesState.initial ∅) tapsAtOnce).map (fun t =>
      decide ((∀ c ∈ t.calls, c.phase = .done) ∧ isLiked "uid" t.store "ana" = true)) =
        some true := by decide +kernel
  obtain ⟨t, ht, hfacts⟩ := Option.map_eq_some_iff.mp hrun
  obtain ⟨hdone, hliked⟩ := of_decide_eq_true hfacts
  have hnot : isLiked "uid" ∅ "ana" = false := by decide +kernel
  refine ⟨t, ht, hdone, hnot, by decide, hliked, ?_⟩
  rw [hliked, hnot]
  decide

end Lidora
