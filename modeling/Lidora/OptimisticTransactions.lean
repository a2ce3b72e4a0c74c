import Lidora.DocumentStore
import Lidora.Runs

/-! # Optimistic transactions

A transaction reads a fixed list of documents and hands them to its block, which
answers with a batch of writes or gives up.  Any number of clients run
transactions at once: a client's attempt reads its documents one by one, at any
time, and remembers the version it saw of each; its commit is accepted only if
none of these versions has changed, and is turned away otherwise, upon which the
attempt starts over while it has retries left.

The documents of every reachable state are those of a **serial** execution: the
committed transactions, each run in one go on the store it finds, in the order in
which they committed (`run_atomic`).  What a client has committed is a
sublist of the calls it made, so no call is committed twice
(`committed_sublist_started`).
-/
namespace OptimisticTransactions
open DocumentStore Runs

/-- What a block asks for once it has its documents: a batch of writes, or
nothing at all. -/
inductive Outcome (K V : Type) where
  | commit (ws : List (Write K V))
  | abort

/-- A transaction: the documents it reads, in order, and its block. -/
structure Txn (K V : Type) where
  reads : List K
  block : List (Option V) → Outcome K V

/-- One document read by an attempt, with the version it had then. -/
structure Seen (K V : Type) where
  key : K
  doc : Option V
  version : ℕ

/-- One attempt of a client's call. -/
structure Attempt (K V T : Type) where
  call : T
  retriesLeft : ℕ
  seen : List (Seen K V)

/-- The stored documents with their versions, each client's attempt, and the
calls committed so far with the client that made them, in order. -/
structure State (K V C T : Type) where
  docs : Store K V
  version : K → ℕ
  attempt : C → Option (Attempt K V T)
  committed : List (C × T)

inductive Event (C T : Type) where
  /-- The client makes a call. -/
  | start (c : C) (t : T)
  /-- The attempt reads its next document. -/
  | read (c : C)
  /-- The attempt, having read everything, runs its block and commits. -/
  | commit (c : C)
  /-- The attempt is turned away for any other reason. -/
  | abort (c : C)

variable {K V C T : Type} [DecidableEq K] [DecidableEq C]

/-- The store nobody has called on yet. -/
def initial (docs : Store K V) : State K V C T := ⟨docs, fun _ => 0, fun _ => none, []⟩

/-- The client's attempt is now `x`, `none` once it is over. -/
def State.set (s : State K V C T) (c : C) (x : Option (Attempt K V T)) : State K V C T :=
  { s with attempt := Function.update s.attempt c x }

/-- The client's attempt starts over, unless its retries are used up. -/
def State.retry (s : State K V C T) (c : C) (a : Attempt K V T) : State K V C T :=
  match a.retriesLeft with
  | 0 => s.set c none
  | r + 1 => s.set c (some ⟨a.call, r, []⟩)

/-- The versions once the keys of a batch have been written. -/
def bump (version : K → ℕ) (ws : List (Write K V)) (k : K) : ℕ :=
  if k ∈ ws.map Write.key then version k + 1 else version k

/-- Nothing the attempt read has changed since. -/
def Unchanged (s : State K V C T) (a : Attempt K V T) : Prop :=
  ∀ r ∈ a.seen, s.version r.key = r.version

instance (s : State K V C T) (a : Attempt K V T) : Decidable (Unchanged s a) :=
  inferInstanceAs (Decidable (∀ _ ∈ _, _))

variable (txn : T → Txn K V) (retries : ℕ)

/-- The block runs on what the attempt read; its writes are applied only if
nothing it read has changed. -/
def commitAttempt (s : State K V C T) (c : C) (a : Attempt K V T) : State K V C T :=
  match (txn a.call).block (a.seen.map Seen.doc) with
  | .abort => s.set c none
  | .commit ws =>
    if Unchanged s a then
      ⟨applyWrites s.docs ws, bump s.version ws, Function.update s.attempt c none,
        s.committed ++ [(c, a.call)]⟩
    else s.retry c a

/-- One event. -/
def step (s : State K V C T) : Event C T → Option (State K V C T)
  | .start c t =>
    match s.attempt c with
    | none => some (s.set c (some ⟨t, retries, []⟩))
    | some _ => none
  | .read c =>
    (s.attempt c).bind fun a =>
      ((txn a.call).reads[a.seen.length]?).map fun k =>
        s.set c (some { a with seen := a.seen ++ [⟨k, s.docs.lookup k, s.version k⟩] })
  | .commit c =>
    (s.attempt c).bind fun a =>
      if a.seen.length = (txn a.call).reads.length then some (commitAttempt txn s c a) else none
  | .abort c => (s.attempt c).map fun a => s.retry c a

/-- A call run in one go on the store it finds, `none` where its block gives up. -/
def atomic (docs : Store K V) (t : T) : Option (Store K V) :=
  match (txn t).block ((txn t).reads.map docs.lookup) with
  | .commit ws => some (applyWrites docs ws)
  | .abort => none

/-! ## What one step does -/

omit [DecidableEq K] in
@[simp] theorem set_committed (s : State K V C T) (c : C) (x : Option (Attempt K V T)) :
    (s.set c x).committed = s.committed := rfl

omit [DecidableEq K] in
@[simp] theorem set_attempt_self (s : State K V C T) (c : C) (x : Option (Attempt K V T)) :
    (s.set c x).attempt c = x := Function.update_self ..

omit [DecidableEq K] in
theorem set_attempt_of_ne (s : State K V C T) {c c' : C} (x : Option (Attempt K V T))
    (h : c' ≠ c) : (s.set c x).attempt c' = s.attempt c' := Function.update_of_ne h ..

variable {txn retries} {s s' : State K V C T}

/-- What a step that commits nothing may make of a client's attempt: none, one
that has read nothing yet, or the same one with its next document read. -/
inductive Moves (txn : T → Txn K V) (s : State K V C T) (c : C) : Option (Attempt K V T) → Prop
  | leave : Moves txn s c none
  | fresh (t : T) (r : ℕ) : Moves txn s c (some ⟨t, r, []⟩)
  | read {a : Attempt K V T} {k : K} (ha : s.attempt c = some a)
      (hk : (txn a.call).reads[a.seen.length]? = some k) :
      Moves txn s c (some { a with seen := a.seen ++ [⟨k, s.docs.lookup k, s.version k⟩] })

theorem retry_moves (txn : T → Txn K V) (s : State K V C T) (c : C) (a : Attempt K V T) :
    ∃ x, Moves txn s c x ∧ s.retry c a = s.set c x := by
  unfold State.retry
  split
  · exact ⟨_, .leave, rfl⟩
  · exact ⟨_, .fresh _ _, rfl⟩

/-- **Every step either moves one attempt or commits one** whose reads are all
current. -/
theorem step_cases {e : Event C T} (h : step txn retries s e = some s') :
    (∃ c x, Moves txn s c x ∧ s' = s.set c x) ∨
    (∃ c a ws, s.attempt c = some a ∧ a.seen.length = (txn a.call).reads.length ∧
      Unchanged s a ∧ (txn a.call).block (a.seen.map Seen.doc) = .commit ws ∧
      s' = ⟨applyWrites s.docs ws, bump s.version ws, Function.update s.attempt c none,
        s.committed ++ [(c, a.call)]⟩) := by
  cases e with
  | start c t =>
    simp only [step] at h
    split at h
    · cases h
      exact Or.inl ⟨c, _, .fresh t retries, rfl⟩
    · cases h
  | read c =>
    simp only [step] at h
    obtain ⟨a, ha, h⟩ := Option.bind_eq_some_iff.mp h
    obtain ⟨k, hk, rfl⟩ := Option.map_eq_some_iff.mp h
    exact Or.inl ⟨c, _, .read ha hk, rfl⟩
  | commit c =>
    simp only [step] at h
    obtain ⟨a, ha, h⟩ := Option.bind_eq_some_iff.mp h
    split at h
    · rename_i hlen
      cases h
      unfold commitAttempt
      split
      · exact Or.inl ⟨c, _, .leave, rfl⟩
      · rename_i ws hws
        split
        · rename_i hun
          exact Or.inr ⟨c, a, ws, ha, hlen, hun, hws, rfl⟩
        · obtain ⟨x, hx, he⟩ := retry_moves txn s c a
          exact Or.inl ⟨c, x, hx, he⟩
    · cases h
  | abort c =>
    simp only [step] at h
    obtain ⟨a, ha, rfl⟩ := Option.map_eq_some_iff.mp h
    obtain ⟨x, hx, he⟩ := retry_moves txn s c a
    exact Or.inl ⟨c, x, hx, he⟩

/-! ## Serializability -/

/-- The committed calls run one after the other and leave these documents, and
every attempt has read a prefix of its documents, each of which is still as read
if its version is. -/
structure Inv (txn : T → Txn K V) (docs₀ : Store K V) (s : State K V C T) : Prop where
  serial_docs : run (atomic txn) docs₀ (s.committed.map Prod.snd) = some s.docs
  seen_keys : ∀ c a, s.attempt c = some a →
    a.seen.map Seen.key = (txn a.call).reads.take a.seen.length
  seen_current : ∀ c a, s.attempt c = some a → ∀ r ∈ a.seen,
    r.version ≤ s.version r.key ∧ (s.version r.key = r.version → s.docs.lookup r.key = r.doc)

omit [DecidableEq C] in
theorem inv_initial (docs₀ : Store K V) : Inv txn docs₀ (initial docs₀ : State K V C T) where
  serial_docs := rfl
  seen_keys := fun _ _ h => by cases h
  seen_current := fun _ _ h => by cases h

omit [DecidableEq C] in
/-- An attempt that has read everything, with nothing changed since, holds the
stored documents. -/
theorem seen_docs {docs₀ : Store K V} (hs : Inv txn docs₀ s) {c : C} {a : Attempt K V T}
    (ha : s.attempt c = some a) (hlen : a.seen.length = (txn a.call).reads.length)
    (hun : Unchanged s a) : a.seen.map Seen.doc = (txn a.call).reads.map s.docs.lookup := by
  have hkeys : a.seen.map Seen.key = (txn a.call).reads := by
    rw [hs.seen_keys c a ha, hlen, List.take_length]
  rw [← hkeys, List.map_map]
  refine List.map_congr_left fun r hr => ?_
  exact ((hs.seen_current c a ha r hr).2 (hun r hr)).symm

theorem inv_moves {docs₀ : Store K V} (hs : Inv txn docs₀ s) {c : C}
    {x : Option (Attempt K V T)} (hx : Moves txn s c x) : Inv txn docs₀ (s.set c x) where
  serial_docs := hs.serial_docs
  seen_keys := by
    intro c' a' ha'
    by_cases hc : c' = c
    · subst hc
      rw [set_attempt_self] at ha'
      subst ha'
      cases hx with
      | fresh t r => rfl
      | @read a k ha hk =>
        rw [List.map_append, hs.seen_keys c' a ha, List.length_append]
        simp [List.take_add_one, hk]
    · rw [set_attempt_of_ne s x hc] at ha'
      exact hs.seen_keys c' a' ha'
  seen_current := by
    intro c' a' ha' r hr
    by_cases hc : c' = c
    · subst hc
      rw [set_attempt_self] at ha'
      subst ha'
      cases hx with
      | fresh t r => cases hr
      | @read a k ha hk =>
        rcases List.mem_append.mp hr with hr | hr
        · exact hs.seen_current c' a ha r hr
        · rw [List.mem_singleton] at hr
          subst hr
          exact ⟨le_rfl, fun _ => rfl⟩
    · rw [set_attempt_of_ne s x hc] at ha'
      exact hs.seen_current c' a' ha' r hr

theorem inv_commit {docs₀ : Store K V} (hs : Inv txn docs₀ s) {c : C} {a : Attempt K V T}
    {ws : List (Write K V)} (ha : s.attempt c = some a)
    (hlen : a.seen.length = (txn a.call).reads.length) (hun : Unchanged s a)
    (hws : (txn a.call).block (a.seen.map Seen.doc) = .commit ws) :
    Inv txn docs₀ ⟨applyWrites s.docs ws, bump s.version ws, Function.update s.attempt c none,
      s.committed ++ [(c, a.call)]⟩ := by
  have others : ∀ {c' a'}, Function.update s.attempt c none c' = some a' →
      s.attempt c' = some a' := by
    intro c' a' ha'
    by_cases hc : c' = c
    · subst hc
      rw [Function.update_self] at ha'
      cases ha'
    · rwa [Function.update_of_ne hc] at ha'
  refine ⟨?_, fun c' a' ha' => hs.seen_keys c' a' (others ha'), ?_⟩
  · rw [seen_docs hs ha hlen hun] at hws
    have hatomic : atomic txn s.docs a.call = some (applyWrites s.docs ws) := by
      rw [atomic, hws]
    rw [List.map_append, run_append_iff]
    exact ⟨s.docs, hs.serial_docs, (run_cons_iff _).mpr ⟨_, hatomic, rfl⟩⟩
  · intro c' a' ha' r hr
    obtain ⟨hle, hcur⟩ := hs.seen_current c' a' (others ha') r hr
    by_cases hk : r.key ∈ ws.map Write.key
    · -- a written document has a version no earlier read saw
      simp only [bump, if_pos hk]
      exact ⟨by omega, fun he => by omega⟩
    · simp only [bump, if_neg hk]
      refine ⟨hle, fun he => ?_⟩
      rw [lookup_applyWrites_of_notMem _ s.docs]
      · exact hcur he
      · intro w hw heq
        exact hk (heq ▸ List.mem_map_of_mem hw)

theorem inv_step {docs₀ : Store K V} {e : Event C T} (hs : Inv txn docs₀ s)
    (h : step txn retries s e = some s') : Inv txn docs₀ s' := by
  rcases step_cases h with ⟨c, x, hx, rfl⟩ | ⟨c, a, ws, ha, hlen, hun, hws, rfl⟩
  · exact inv_moves hs hx
  · exact inv_commit hs ha hlen hun hws

/-- **Optimistic transactions are serializable.**  Whatever the clients do, the
committed calls run one after the other, none of them giving up, and the documents
are those this leaves. -/
theorem run_atomic {docs₀ : Store K V} {es : List (Event C T)}
    (h : run (step txn retries) (initial docs₀) es = some s) :
    run (atomic txn) docs₀ (s.committed.map Prod.snd) = some s.docs :=
  (run_invariant (Inv txn docs₀) (fun _ _ _ hs => inv_step hs) (inv_initial docs₀) h).serial_docs

/-! ## No call commits twice -/

/-- The calls a client makes in a run. -/
def started (c : C) (es : List (Event C T)) : List T :=
  es.filterMap fun
    | .start c' t => if c' = c then some t else none
    | _ => none

/-- The calls of a client that are committed or may still be. -/
def State.calls (s : State K V C T) (c : C) : List T :=
  (s.committed.filter fun x => x.1 = c).map Prod.snd ++ ((s.attempt c).map Attempt.call).toList

omit [DecidableEq K] in
theorem calls_set_self (s : State K V C T) (c : C) (x : Option (Attempt K V T)) :
    (s.set c x).calls c =
      (s.committed.filter fun y => y.1 = c).map Prod.snd ++ (x.map Attempt.call).toList := by
  rw [State.calls, set_attempt_self, set_committed]

omit [DecidableEq K] in
theorem calls_set_of_ne (s : State K V C T) {c c' : C} (x : Option (Attempt K V T))
    (h : c' ≠ c) : (s.set c x).calls c' = s.calls c' := by
  rw [State.calls, set_attempt_of_ne s x h, set_committed, State.calls]

omit [DecidableEq K] in
theorem calls_retry_sublist (s : State K V C T) (c c' : C) {a : Attempt K V T}
    (ha : s.attempt c' = some a) : List.Sublist ((s.retry c' a).calls c) (s.calls c) := by
  by_cases hc : c = c'
  · subst hc
    unfold State.retry
    split
    · rw [calls_set_self, State.calls]
      exact List.Sublist.append_left (List.nil_sublist _) _
    · rw [calls_set_self, State.calls, ha]
      exact List.Sublist.refl _
  · unfold State.retry
    split <;> rw [calls_set_of_ne s _ hc]

theorem calls_commitAttempt_sublist (s : State K V C T) (c c' : C) {a : Attempt K V T}
    (ha : s.attempt c' = some a) :
    List.Sublist ((commitAttempt txn s c' a).calls c) (s.calls c) := by
  unfold commitAttempt
  split
  · by_cases hc : c = c'
    · subst hc
      rw [calls_set_self, State.calls]
      exact List.Sublist.append_left (List.nil_sublist _) _
    · rw [calls_set_of_ne s _ hc]
  · split
    · unfold State.calls
      by_cases hc : c = c'
      · subst hc
        simp [ha, List.filter_append]
      · simp [Function.update_of_ne hc, List.filter_append, Ne.symm hc]
    · exact calls_retry_sublist s c c' ha

theorem calls_step_sublist {e : Event C T} (c : C) (h : step txn retries s e = some s') :
    List.Sublist (s'.calls c) (s.calls c ++ started c [e]) := by
  cases e with
  | start c' t =>
    simp only [step] at h
    split at h
    · rename_i hnone
      cases h
      by_cases hc : c' = c
      · subst hc
        rw [calls_set_self, State.calls, hnone]
        simp [started]
      · rw [calls_set_of_ne s _ (Ne.symm hc)]
        exact List.sublist_append_left _ _
    · cases h
  | read c' =>
    simp only [step] at h
    obtain ⟨a, ha, h⟩ := Option.bind_eq_some_iff.mp h
    obtain ⟨k, hk, rfl⟩ := Option.map_eq_some_iff.mp h
    rw [show started c [Event.read c'] = ([] : List T) from rfl, List.append_nil]
    by_cases hc : c = c'
    · subst hc
      rw [calls_set_self, State.calls, ha]
      exact List.Sublist.refl _
    · rw [calls_set_of_ne s _ hc]
  | commit c' =>
    simp only [step] at h
    obtain ⟨a, ha, h⟩ := Option.bind_eq_some_iff.mp h
    split at h
    · cases h
      rw [show started c [Event.commit c'] = ([] : List T) from rfl, List.append_nil]
      exact calls_commitAttempt_sublist s c c' ha
    · cases h
  | abort c' =>
    simp only [step] at h
    obtain ⟨a, ha, rfl⟩ := Option.map_eq_some_iff.mp h
    rw [show started c [Event.abort c'] = ([] : List T) from rfl, List.append_nil]
    exact calls_retry_sublist s c c' ha

theorem calls_run_sublist {es : List (Event C T)} (c : C)
    (h : run (step txn retries) s es = some s') :
    List.Sublist (s'.calls c) (s.calls c ++ started c es) := by
  induction es generalizing s with
  | nil =>
    cases h
    exact List.sublist_append_left _ _
  | cons e es ih =>
    obtain ⟨s₁, h₁, h⟩ := (run_cons_iff _).mp h
    have hcons : started c (e :: es) = started c [e] ++ started c es := by
      rw [started, started, started, ← List.filterMap_append]
      rfl
    rw [hcons, ← List.append_assoc]
    exact (ih h).trans (List.Sublist.append_right (calls_step_sublist c h₁) _)

/-- **No call commits twice.**  What a client has committed is a sublist of the
calls it made. -/
theorem committed_sublist_started {docs₀ : Store K V} {es : List (Event C T)}
    (h : run (step txn retries) (initial docs₀) es = some s) (c : C) :
    List.Sublist ((s.committed.filter fun x => x.1 = c).map Prod.snd) (started c es) := by
  have hcalls := calls_run_sublist c h
  rw [show (initial docs₀ : State K V C T).calls c = [] from rfl, List.nil_append] at hcalls
  exact (List.sublist_append_left _ _).trans hcalls

end OptimisticTransactions
