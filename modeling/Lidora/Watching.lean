import Mathlib

/-! # What is on its way to the watchers of a store

A store tells each of its watchers of every version.  A **feed** is what one watcher has
not been told yet, oldest first.  A new watcher is told of the version it finds
(`attach`), a new version goes to the end of every feed (`publish`), and a watcher is told
of the versions in their order (`deliver`), while the feeds of different watchers move
independently.

A watcher looks at a part of the store only, its `view`.  The feeds are `Current` when the
last thing that each watcher will hear is how that part is now, and then whoever has heard
everything has seen it so (`Current.view_of_idle`).
-/
namespace Watching
variable {K V W : Type}

/-- The watchers' feeds. -/
abbrev Feeds (V : Type) : Type := List (List V)

/-- There are now `n` watchers, and the new ones have found `v`. -/
def attach (feeds : Feeds V) (n : ℕ) (v : V) : Feeds V :=
  feeds ++ List.replicate (n - feeds.length) [v]

/-- There is a new version, `v`. -/
def publish (feeds : Feeds V) (v : V) : Feeds V := feeds.map fun feed => feed ++ [v]

/-- The keys `written` have changed: a new version for those who watch the keys in `P`. -/
def publishTo (P : K → Prop) [DecidablePred P] (written : List K) (feeds : Feeds V) (v : V) :
    Feeds V :=
  if ∃ k ∈ written, P k then publish feeds v else feeds

/-- The `k`-th watcher is told of the next version. -/
def deliver (feeds : Feeds V) (k : ℕ) : Option (V × Feeds V) :=
  match feeds[k]? with
  | some (v :: rest) => some (v, feeds.set k rest)
  | _ => none

/-- Everything has been delivered. -/
def Idle (feeds : Feeds V) : Prop := ∀ feed ∈ feeds, feed = []

/-- The last version on each feed looks like `v`. -/
def Current (view : V → W) (v : V) (feeds : Feeds V) : Prop :=
  ∀ feed ∈ feeds, ∀ last ∈ feed.getLast?, view last = view v

instance (feeds : Feeds V) : Decidable (Idle feeds) :=
  inferInstanceAs (Decidable (∀ feed ∈ feeds, feed = []))

variable {view : V → W} {v v' : V} {feeds feeds' : Feeds V} {k n : ℕ}

/-! ## New watchers -/

theorem length_attach (h : feeds.length ≤ n) : (attach feeds n v).length = n := by
  rw [attach, List.length_append, List.length_replicate]
  omega

theorem attach_of_length (h : feeds.length = n) : attach feeds n v = feeds := by
  rw [attach, h, Nat.sub_self, List.replicate_zero, List.append_nil]

theorem Current.attach (h : Current view v feeds) (n : ℕ) : Current view v (attach feeds n v) := by
  intro feed hfeed last hlast
  rcases List.mem_append.mp hfeed with hold | hnew
  · exact h feed hold last hlast
  · rw [(List.mem_replicate.mp hnew).2] at hlast
    cases hlast
    rfl

/-- A new watcher has something to hear. -/
theorem not_idle_attach (h : feeds.length < n) : ¬ Idle (attach feeds n v) := by
  intro hidle
  have hnew : [v] ∈ List.replicate (n - feeds.length) [v] :=
    List.mem_replicate.mpr ⟨by omega, rfl⟩
  cases hidle [v] (List.mem_append_right _ hnew)

/-! ## New versions -/

theorem length_publish (feeds : Feeds V) (v : V) : (publish feeds v).length = feeds.length :=
  List.length_map _

theorem current_publish (view : V → W) (feeds : Feeds V) (v : V) :
    Current view v (publish feeds v) := by
  intro feed hfeed last hlast
  obtain ⟨old, -, rfl⟩ := List.mem_map.mp hfeed
  rw [List.getLast?_concat] at hlast
  cases hlast
  rfl

/-- A change that the watchers do not look at. -/
theorem Current.congr (h : Current view v feeds) (hview : view v' = view v) :
    Current view v' feeds := by
  intro feed hfeed last hlast
  rw [hview]
  exact h feed hfeed last hlast

/-- With a watcher, a new version is something to hear. -/
theorem not_idle_publish (h : feeds ≠ []) : ¬ Idle (publish feeds v) := by
  intro hidle
  obtain ⟨feed, rest, rfl⟩ := List.exists_cons_of_ne_nil h
  have hnil := hidle (feed ++ [v]) List.mem_cons_self
  simp at hnil

theorem idle_of_publish (h : Idle (publish feeds v)) : Idle feeds := by
  intro feed hfeed
  exact absurd h (not_idle_publish (List.ne_nil_of_mem hfeed))

section
variable {P : K → Prop} [DecidablePred P] {written : List K}

@[simp] theorem publishTo_nil : publishTo P [] feeds v = feeds := by
  simp [publishTo]

theorem length_publishTo : (publishTo P written feeds v).length = feeds.length := by
  unfold publishTo
  split
  · exact length_publish feeds v
  · rfl

/-- The watchers of `P` hear of every change of what they look at. -/
theorem Current.publishTo (h : Current view v feeds)
    (hview : (∀ k ∈ written, ¬ P k) → view v' = view v) :
    Current view v' (publishTo P written feeds v') := by
  unfold Watching.publishTo
  split
  · exact current_publish view feeds v'
  · rename_i hnone
    exact h.congr (hview fun k hk hP => hnone ⟨k, hk, hP⟩)

theorem not_idle_publishTo {k : K} (hk : k ∈ written) (hP : P k) (h : feeds ≠ []) :
    ¬ Idle (publishTo P written feeds v) := by
  rw [publishTo, if_pos ⟨k, hk, hP⟩]
  exact not_idle_publish h

theorem idle_of_publishTo (h : Idle (publishTo P written feeds v)) : Idle feeds := by
  unfold publishTo at h
  split at h
  · exact idle_of_publish h
  · exact h

end

/-! ## Deliveries -/

theorem deliver_spec (h : deliver feeds k = some (v, feeds')) :
    ∃ rest, feeds[k]? = some (v :: rest) ∧ feeds' = feeds.set k rest := by
  unfold deliver at h
  split at h
  · rename_i v₀ rest hk
    cases h
    exact ⟨rest, hk, rfl⟩
  · cases h

theorem length_deliver (h : deliver feeds k = some (v, feeds')) :
    feeds'.length = feeds.length := by
  obtain ⟨rest, -, rfl⟩ := deliver_spec h
  exact List.length_set

theorem Current.deliver (hc : Current view v feeds) (h : deliver feeds k = some (v', feeds')) :
    Current view v feeds' := by
  obtain ⟨rest, hk, rfl⟩ := deliver_spec h
  intro feed hfeed last hlast
  rcases List.mem_or_eq_of_mem_set hfeed with hold | rfl
  · exact hc feed hold last hlast
  · -- what is left of the feed ends as the feed did
    refine hc (v' :: feed) (List.mem_of_getElem? hk) last ?_
    cases feed with
    | nil => cases hlast
    | cons x rest =>
      rw [List.getLast?_cons_cons]
      exact hlast

/-- **The last delivery of a feed** shows how things are now. -/
theorem Current.view_of_last (hc : Current view v feeds) (hk : feeds[k]? = some [v']) :
    view v' = view v :=
  hc [v'] (List.mem_of_getElem? hk) v' rfl

/-- **Whoever has heard everything has seen how things are.** -/
theorem Current.view_of_idle (hc : Current view v feeds)
    (h : Watching.deliver feeds k = some (v', feeds')) (hidle : Idle feeds') : view v' = view v := by
  obtain ⟨rest, hk, rfl⟩ := deliver_spec h
  have hlt : k < feeds.length := (List.getElem?_eq_some_iff.mp hk).1
  have hrest : rest = [] := hidle rest (List.mem_set hlt rest)
  subst hrest
  exact hc.view_of_last hk

end Watching
