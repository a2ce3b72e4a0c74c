import Lidora.AllOrNothing

/-! # What a registration leaves behind

`createAccount` makes an account, asks for the phone number to be verified, sets the
account's display name and writes the customer's document, one after the other.  A step
that fails ends it with `(false, error)`, except that nobody looks at what becomes of the
display name; and no step is undone.  So a registration that fails after its first step
leaves an account behind, and cannot be made again with the same email.

`AuthBackend.after` is what the requests of a run, with the answers that they get, make of the
accounts and the documents; a call of Auth that fails may have taken effect all the same
(`landed`), a write that Firestore fails has not.  `registers_iff` says for which answers a
completion tells the truth about what is left.
-/
namespace Lidora
open Callbacks DocumentStore

/-- An account, as far as `createAccount` writes it. -/
structure Account where
  displayName : Option String
  deriving DecidableEq

/-- The accounts of Firebase Auth, by email, and the documents. -/
structure AuthBackend where
  accounts : String → Option Account
  store : Firestore

namespace AuthBackend

/-- An account is made. -/
def addAccount (b : AuthBackend) (email : String) : AuthBackend :=
  { b with accounts := Function.update b.accounts email (some ⟨none⟩) }

/-- The account's display name is set. -/
def setDisplayName (b : AuthBackend) (email displayName : String) : AuthBackend :=
  { b with accounts := Function.update b.accounts email (some ⟨some displayName⟩) }

/-- What a request of the registration of `email` makes of the backend, with its answer. -/
def apply (email : String) (b : AuthBackend) (landed : Bool) :
    ((q : Request) × q.Response) → AuthBackend
  | ⟨.createUser email _, .ok (some _)⟩ => b.addAccount email
  | ⟨.createUser email _, .error _⟩ => if landed then b.addAccount email else b
  | ⟨.commitChanges displayName, none⟩ => b.setDisplayName email displayName
  | ⟨.commitChanges displayName, some _⟩ =>
    if landed then b.setDisplayName email displayName else b
  | ⟨.setMerge path fields, none⟩ => { b with store := b.store.setMerge path fields }
  | _ => b

/-- The backend after all the requests; `landed` says of each that fails whether it has
taken effect. -/
def after (email : String) (landed : ℕ → Bool) :
    AuthBackend → ℕ → List ((q : Request) × q.Response) → AuthBackend
  | b, _, [] => b
  | b, n, x :: xs => after email landed (b.apply email (landed n) x) (n + 1) xs

end AuthBackend

/-- The account is there with its display name, and the customer's document with the first
name, the last name and the phone number. -/
def Registered (firstName lastName email phone : String) (user : UserId) (b : AuthBackend) : Prop :=
  b.accounts email = some ⟨some (firstName ++ " " ++ lastName)⟩ ∧
    ∃ d, b.store.lookup ["customers", user.val] = some d ∧
      d "first_name" = some (.string firstName) ∧ d "last_name" = some (.string lastName) ∧
      d "phone" = some (.string phone)

/-- `(false, _)` leaves everything as it was, and `(true, nil)` a registered customer. -/
def TellsTruth (firstName lastName email phone : String) (user : Option UserId) (b b' : AuthBackend)
    (ending : Ending Completed) : Prop :=
  ∀ r ∈ ending.completions,
    (∀ error, r = .done false error → b' = b) ∧
    (r = .done true none → ∃ u ∈ user, Registered firstName lastName email phone u b')

/-- The user of the answer to `createUser`. -/
def createdUser : Except NSError (Option UserId) → Option UserId
  | .ok user => user
  | .error _ => none

/-- The answers of Auth and Firestore for which a registration tells the truth: no account
is made, or everything that follows it takes effect, unless it never comes to an end. -/
def WellAnswered (o : Oracle Request.Response) (landed : ℕ → Bool)
    (firstName lastName email phone pwd : String) : Prop :=
  match o 0 (.createUser email pwd) with
  | .error _ => landed 0 = false
  | .ok none => True
  | .ok (some user) =>
    match o 1 (.verifyPhoneNumber phone) with
    | .error _ => False
    | .ok none => True
    | .ok (some _) =>
      (o 2 (.commitChanges (firstName ++ " " ++ lastName)) = none ∨ landed 2 = true) ∧
        o 3 (.setMerge ["customers", user.val]
          (AuthService.accountData firstName lastName phone)) = none

/-! ## The steps -/

section
variable {firstName lastName email phone pwd : String} {b : AuthBackend}

/-- Whatever happens to the display name, an account that has been made is there. -/
theorem accounts_ne (h : b.accounts email = none) {b' : AuthBackend}
    (hsome : (b'.accounts email).isSome) : b' ≠ b := by
  rintro rfl
  rw [h] at hsome
  cases hsome

/-- The customer's document, once it has been written. -/
theorem lookup_accountData (s : Firestore) (p : Path) :
    ∃ d, (s.setMerge p (AuthService.accountData firstName lastName phone)).lookup p = some d ∧
      d "first_name" = some (.string firstName) ∧ d "last_name" = some (.string lastName) ∧
      d "phone" = some (.string phone) := by
  refine ⟨_, Finmap.lookup_insert _, ?_, ?_, ?_⟩
  · rfl
  · rfl
  · rfl

/-- The account after its display name has been asked for. -/
theorem accounts_commitChanges (b : AuthBackend) (email displayName : String)
    (answer : Option NSError) (landed : Bool) :
    (((b.addAccount email).apply email landed ⟨.commitChanges displayName, answer⟩).accounts
      email) = some ⟨if answer = none ∨ landed = true then some displayName else none⟩ := by
  cases answer with
  | none => simp [AuthBackend.apply, AuthBackend.setDisplayName]
  | some error =>
    cases landed with
    | true => simp [AuthBackend.apply, AuthBackend.setDisplayName]
    | false => simp [AuthBackend.apply, AuthBackend.addAccount]

/-- The registration is done exactly if the display name has been set. -/
theorem registered_iff (user : UserId) (answer : Option NSError) (landed landed' : Bool) :
    Registered firstName lastName email phone user
        (((b.addAccount email).apply email landed
          ⟨.commitChanges (firstName ++ " " ++ lastName), answer⟩).apply email landed'
          ⟨.setMerge ["customers", user.val] (AuthService.accountData firstName lastName phone),
            none⟩) ↔
      answer = none ∨ landed = true := by
  have haccount := accounts_commitChanges b email (firstName ++ " " ++ lastName) answer landed
  constructor
  · rintro ⟨hname, -⟩
    by_contra hnot
    have hname' := haccount.symm.trans hname
    rw [if_neg hnot] at hname'
    cases hname'
  · intro hset
    rw [if_pos hset] at haccount
    exact ⟨haccount, lookup_accountData _ _⟩

@[simp] theorem after_finish (landed : ℕ → Bool) (n m : ℕ) (r : Completed)
    (o : Oracle Request.Response) :
    b.after email landed n ((Operation.finish r).answers o m) = b := rfl

/-! ## The ends of a registration -/

variable {o : Oracle Request.Response} {landed : ℕ → Bool}

/-- A completion with `(false, error)`: nothing may have changed. -/
theorem tellsTruth_failed {user : Option UserId} {b' : AuthBackend} {error : Option NSError} :
    TellsTruth firstName lastName email phone user b b' ⟨[.done false error], false⟩ ↔
      b' = b := by
  constructor
  · intro h
    exact (h _ (List.mem_singleton.mpr rfl)).1 error rfl
  · intro hsame r hr
    rw [List.mem_singleton] at hr
    subst hr
    refine ⟨fun _ _ => hsame, fun hr => ?_⟩
    simp at hr

/-- A completion with `(true, nil)`: the customer must be registered. -/
theorem tellsTruth_done {user : UserId} {b' : AuthBackend} :
    TellsTruth firstName lastName email phone (some user) b b' ⟨[.done true none], false⟩ ↔
      Registered firstName lastName email phone user b' := by
  constructor
  · intro h
    obtain ⟨u, hu, hregistered⟩ := (h _ (List.mem_singleton.mpr rfl)).2 rfl
    cases hu
    exact hregistered
  · intro hregistered r hr
    rw [List.mem_singleton] at hr
    subst hr
    refine ⟨fun _ hr => ?_, fun _ => ⟨user, rfl, hregistered⟩⟩
    simp at hr

/-- No completion says nothing. -/
theorem tellsTruth_silent {user : Option UserId} {b' : AuthBackend} {trapped : Bool} :
    TellsTruth firstName lastName email phone user b b' ⟨[], trapped⟩ := by
  intro r hr
  cases hr

end

/-- **When a registration tells the truth.**  For all arguments, and for all answers of the
backend that refuse to make an account twice: what is left behind is as reported exactly
for the answers that `WellAnswered` names. -/
theorem registers_iff (firstName lastName email phone pwd : String) (o : Oracle Request.Response)
    (landed : ℕ → Bool) (b : AuthBackend)
    (hunique : b.accounts email ≠ none →
      createdUser (o 0 (.createUser email pwd)) = none ∧ landed 0 = false) :
    TellsTruth firstName lastName email phone (createdUser (o 0 (.createUser email pwd))) b
        (b.after email landed 0
          ((AuthService.createAccount firstName lastName email phone pwd).answers o 0))
        ((AuthService.createAccount firstName lastName email phone pwd).run o 0) ↔
      WellAnswered o landed firstName lastName email phone pwd := by
  have hnew : ∀ user, createdUser (o 0 (.createUser email pwd)) = some user →
      b.accounts email = none := by
    intro user huser
    by_contra hsome
    rw [(hunique hsome).1] at huser
    cases huser
  unfold AuthService.createAccount WellAnswered
  rw [Flow.run_ask, Flow.answers]
  cases h₀ : o 0 (.createUser email pwd) with
  | error error =>
    refine tellsTruth_failed.trans ?_
    simp only [AuthBackend.after, after_finish, AuthBackend.apply]
    constructor
    · -- a call that fails and takes effect leaves an account
      intro hsame
      by_contra hlanded
      rw [if_pos (Bool.not_eq_false _ ▸ hlanded)] at hsame
      have hfree : b.accounts email = none := by
        by_contra hsome
        exact hlanded (hunique hsome).2
      exact accounts_ne hfree (by simp [AuthBackend.addAccount]) hsame
    · intro hlanded
      rw [hlanded]
      rfl
  | ok user =>
    cases user with
    | none => exact iff_of_true tellsTruth_silent trivial
    | some user =>
      have hfree : b.accounts email = none := hnew user (by rw [h₀]; rfl)
      simp only [Flow.run_ask, Flow.answers, AuthBackend.after, createdUser, Nat.zero_add]
      cases h₁ : o 1 (.verifyPhoneNumber phone) with
      | error error =>
        refine tellsTruth_failed.trans (iff_of_false ?_ not_false)
        exact accounts_ne hfree (by simp [AuthBackend.apply, AuthBackend.addAccount])
      | ok verification =>
        cases verification with
        | none => exact iff_of_true tellsTruth_silent trivial
        | some verificationID =>
          simp only [Flow.run_ask, Flow.answers, AuthBackend.after, DataService.saveUserDetails,
            document_segmentId, Operation.withReference]
          cases h₃ : o (1 + 1 + 1) (.setMerge (["customers"] ++ [user.val])
              (AuthService.accountData firstName lastName phone)) with
          | none =>
            refine tellsTruth_done.trans ?_
            exact (registered_iff user _ (landed 2) (landed 3)).trans (and_iff_left h₃).symm
          | some error =>
            refine tellsTruth_failed.trans (iff_of_false ?_ ?_)
            · have haccount := accounts_commitChanges b email (firstName ++ " " ++ lastName)
                (o 2 (.commitChanges (firstName ++ " " ++ lastName))) (landed 2)
              exact accounts_ne hfree (Option.isSome_iff_exists.mpr ⟨_, haccount⟩)
            · intro h
              exact absurd (h₃.symm.trans h.2) (by simp)

/-! ## A number that cannot be verified -/

/-- Every request succeeds, and the verification is answered with `verification`. -/
def online (verification : Except NSError (Option String)) : Oracle Request.Response
  | _, .getDocument _ => .ok none
  | _, .getDocuments _ => .ok []
  | _, .setMerge _ _ | _, .delete _ | _, .commitChanges _ => none
  | _, .transactionGet _ _ => .ok (none, none)
  | _, .commit _ => none
  | _, .signIn _ _ | _, .createUser _ _ => .ok (some sampleUser)
  | _, .verifyPhoneNumber _ => verification
  | _, .createToken _ => (none, none)

/-- Nobody has registered yet. -/
def AuthBackend.empty : AuthBackend := ⟨fun _ => none, ∅⟩

theorem registers_iff_verified :
    TellsTruth "Eva" "Roy" "eva@lidora" "555" (some sampleUser) AuthBackend.empty
        (AuthBackend.empty.after "eva@lidora" (fun _ => false) 0
          ((AuthService.createAccount "Eva" "Roy" "eva@lidora" "555" "secret").answers
            (online (.ok (some "id"))) 0))
        ((AuthService.createAccount "Eva" "Roy" "eva@lidora" "555" "secret").run
          (online (.ok (some "id"))) 0) ↔
      WellAnswered (online (.ok (some "id"))) (fun _ => false) "Eva" "Roy" "eva@lidora" "555"
        "secret" :=
  registers_iff "Eva" "Roy" "eva@lidora" "555" "secret" (online (.ok (some "id")))
    (fun _ => false) AuthBackend.empty fun h => absurd rfl h

/-- **An account that cannot be registered again.**  The phone number is refused, the
registration reports `(false, error)`, and the account for the email is there. -/
theorem unverified_account :
    (AuthService.createAccount "Eva" "Roy" "eva@lidora" "5" "secret").run
        (online (.error (.other "invalid phone number"))) 0 =
      ⟨[.done false (some (.other "invalid phone number"))], false⟩ ∧
    (AuthBackend.empty.after "eva@lidora" (fun _ => false) 0
      ((AuthService.createAccount "Eva" "Roy" "eva@lidora" "5" "secret").answers
        (online (.error (.other "invalid phone number"))) 0)).accounts "eva@lidora" =
          some ⟨none⟩ ∧
    ¬ TellsTruth "Eva" "Roy" "eva@lidora" "5" (some sampleUser) AuthBackend.empty
        (AuthBackend.empty.after "eva@lidora" (fun _ => false) 0
          ((AuthService.createAccount "Eva" "Roy" "eva@lidora" "5" "secret").answers
            (online (.error (.other "invalid phone number"))) 0))
        ((AuthService.createAccount "Eva" "Roy" "eva@lidora" "5" "secret").run
          (online (.error (.other "invalid phone number"))) 0) := by
  refine ⟨rfl, rfl, fun htruth => ?_⟩
  have haccount := congrArg (fun b : AuthBackend => b.accounts "eva@lidora")
    (tellsTruth_failed.mp htruth)
  exact absurd haccount (by decide)

end Lidora
