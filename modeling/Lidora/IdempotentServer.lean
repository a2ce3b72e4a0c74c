import Mathlib

/-! # A server with idempotency keys

A server executes requests and keeps the executed ones in a log, the id of what comes of a
request being its place in it.  A request that is executed is accepted or declined, and either
result is saved; one that is not even valid is turned away without a trace.  Every request
carries a key.  A request under a key with a saved result gets that result if it equals the
first request, and is rejected otherwise; it is never executed itself.

`OneEach` says of a log that no key occurs twice.  It holds of the empty log and survives
every request, and while it holds a request that the server accepts, and that meets no
other request under its key, always gets an object of its own (`create_own`).
-/
namespace IdempotentServer
variable {K R E : Type} [DecidableEq K] [DecidableEq R]

/-- What the server says to a request on its own. -/
inductive Verdict (E : Type) where
  | accepted
  /-- It is executed, and fails. -/
  | declined (e : E)
  /-- It is not executed. -/
  | invalid (e : E)
  deriving DecidableEq

/-- What the server answers: the object, an error of the request's own, or an error since
the key has been used for another request. -/
inductive Response (E : Type) where
  | object (i : ℕ)
  | refused (e : E)
  | conflict

/-- The request is executed, so that its result is saved. -/
def Verdict.executes : Verdict E → Bool
  | .accepted | .declined _ => true
  | .invalid _ => false

/-- The result of a request at place `i` of the log. -/
def Verdict.response (i : ℕ) : Verdict E → Response E
  | .accepted => .object i
  | .declined e | .invalid e => .refused e

/-- One request, and the log after it. -/
def create (key : R → K) (verdict : R → Verdict E) (log : List R) (r : R) : Response E × List R :=
  match log.findIdx? fun r' => key r' = key r with
  | some i => if log[i]? = some r then ((verdict r).response i, log) else (.conflict, log)
  | none =>
    ((verdict r).response log.length, if (verdict r).executes then log ++ [r] else log)

/-- No key has been used twice. -/
def OneEach (key : R → K) (log : List R) : Prop :=
  ∀ (i j : ℕ) (r r' : R), log[i]? = some r → log[j]? = some r' → key r = key r' → i = j

variable {key : R → K} {verdict : R → Verdict E} {log : List R} {r : R}

omit [DecidableEq K] [DecidableEq R] in
theorem oneEach_nil : OneEach key ([] : List R) := by
  intro i j r r' hi
  simp at hi

theorem Verdict.response_eq_object {v : Verdict E} {i j : ℕ} (h : v.response i = .object j) :
    v = .accepted ∧ i = j := by
  cases v with
  | accepted =>
    cases h
    exact ⟨rfl, rfl⟩
  | declined e => cases h
  | invalid e => cases h

/-- A request leaves the log as it is, or is the first under its key and is appended. -/
theorem create_log (key : R → K) (verdict : R → Verdict E) (log : List R) (r : R) :
    (create key verdict log r).2 = log ∨
      (create key verdict log r).2 = log ++ [r] ∧ (verdict r).executes = true ∧
        ∀ r' ∈ log, key r' ≠ key r := by
  unfold create
  split
  · split <;> exact Or.inl rfl
  · rename_i hnone
    by_cases hexecutes : (verdict r).executes = true
    · refine Or.inr ⟨if_pos hexecutes, hexecutes, ?_⟩
      intro r' hr'
      have hne := List.findIdx?_eq_none_iff.mp hnone r' hr'
      simpa using hne
    · exact Or.inl (if_neg hexecutes)

/-- The first request of all is in the log, if it is executed. -/
theorem create_nil (hexecutes : (verdict r).executes = true) :
    (create key verdict [] r).2 = [r] := if_pos hexecutes

/-- What has been executed stays. -/
theorem create_mono {i : ℕ} {r' : R} (h : log[i]? = some r') :
    (create key verdict log r).2[i]? = some r' := by
  rcases create_log key verdict log r with heq | ⟨heq, -⟩
  · rw [heq, h]
  · obtain ⟨hlt, -⟩ := List.getElem?_eq_some_iff.mp h
    rw [heq, List.getElem?_append_left hlt, h]

/-- What is in the log is there by its own request, which was executed. -/
theorem mem_create {r' : R} (h : r' ∈ (create key verdict log r).2) :
    r' ∈ log ∨ r' = r ∧ (verdict r).executes = true := by
  rcases create_log key verdict log r with heq | ⟨heq, hexecutes, -⟩
  · rw [heq] at h
    exact Or.inl h
  · rw [heq, List.mem_append, List.mem_singleton] at h
    rcases h with hlog | hthis
    · exact Or.inl hlog
    · exact Or.inr ⟨hthis, hexecutes⟩

/-- **No request uses a key twice.** -/
theorem create_oneEach (h : OneEach key log) : OneEach key (create key verdict log r).2 := by
  rcases create_log key verdict log r with heq | ⟨heq, -, hfirst⟩
  · rw [heq]
    exact h
  · rw [heq]
    intro i j a b hi hj hkey
    have hcases : ∀ k c, (log ++ [r])[k]? = some c → log[k]? = some c ∨ k = log.length ∧ c = r := by
      intro k c hk
      rcases lt_trichotomy k log.length with hlt | rfl | hgt
      · rw [List.getElem?_append_left hlt] at hk
        exact Or.inl hk
      · rw [List.getElem?_concat_length] at hk
        exact Or.inr ⟨rfl, (Option.some.inj hk).symm⟩
      · rw [List.getElem?_eq_none (by rw [List.length_append, List.length_singleton]; omega)] at hk
        cases hk
    rcases hcases i a hi with ha | ⟨hi', ha⟩ <;> rcases hcases j b hj with hb | ⟨hj', hb⟩
    · exact h i j a b ha hb hkey
    · exact absurd (hkey.trans (congrArg key hb)) (hfirst a (List.mem_of_getElem? ha))
    · exact absurd (hkey.symm.trans (congrArg key ha)) (hfirst b (List.mem_of_getElem? hb))
    · omega

/-- An object that is answered is in the log, for the request itself. -/
theorem create_object {i : ℕ} (h : (create key verdict log r).1 = .object i) :
    (create key verdict log r).2[i]? = some r := by
  unfold create at h ⊢
  split at h
  · split at h
    · rename_i hsame
      obtain ⟨-, rfl⟩ := Verdict.response_eq_object h
      rw [if_pos hsame]
      exact hsame
    · cases h
  · obtain ⟨haccepted, rfl⟩ := Verdict.response_eq_object h
    dsimp only
    rw [haccepted]
    exact List.getElem?_concat_length

/-- **A request gets an object of its own**, when the server accepts it and no other
request has used its key. -/
theorem create_own (hown : ∀ r' ∈ log, key r' = key r → r' = r) (haccept : verdict r = .accepted) :
    ∃ i, (create key verdict log r).1 = .object i := by
  unfold create
  split
  · rename_i i hfound
    obtain ⟨hlt, hkey, -⟩ := List.findIdx?_eq_some_iff_getElem.mp hfound
    have hsame : log[i] = r := hown _ (List.getElem_mem hlt) (by simpa using hkey)
    refine ⟨i, ?_⟩
    rw [if_pos (by rw [List.getElem?_eq_getElem hlt, hsame]), haccept]
    rfl
  · refine ⟨log.length, ?_⟩
    rw [haccept]
    rfl

end IdempotentServer
