import Lidora.ConfirmPayments

/-! # The status of a payment

The document is meant to show the status of the intent.  `Follows` says that it does, or
that something pending will bring it; a step that keeps this, and does not write over a
recorded success, is `Safe`.  In a run of safe steps success stays, and once nothing is
pending the document shows the intent's status (`status_follows`).

The condition leaves out nothing that ends right (`not_safe_ends`).  What it is about is
mostly the answer that Stripe replays: a creation event that is delivered again after the
customer has been asked to authenticate takes a success back (`success_overwritten`).
-/
namespace Lidora
open Runs

section
variable (intent : PaymentIntent) (data : Fields) (customer : Option Doc) (pushId : String)

/-! ## What the status is -/

/-- The document shows this status. -/
def Shows (document : Fields) (status : IntentStatus) : Prop :=
  Doc.ofFields document "status" = some (.string status.name)

instance (document : Fields) (status : IntentStatus) : Decidable (Shows document status) :=
  inferInstanceAs (Decidable (_ = _))

/-- The document has recorded the intent as succeeded. -/
def RecordedSucceeded (s : PaymentState) : Prop :=
  Shows s.document .succeeded ∧ ∃ i ∈ s.stripe, i.status = .succeeded

instance (s : PaymentState) : Decidable (RecordedSucceeded s) :=
  inferInstanceAs (Decidable (_ ∧ _))

/-- The document shows the status of the intent, if there is one. -/
def StatusCurrent (s : PaymentState) : Prop := ∀ i ∈ s.stripe, Shows s.document i.status

/-- The event of the `i`-th update is pending, and the update leaves the document at
`after`. -/
def PendingUpdate (s : PaymentState) (i : ℕ) (after : Fields) : Prop :=
  s.updates[i]? = some after ∧ i ∉ s.delivered

/-- No event is pending, no run is under way and the client has nothing to set. -/
structure AtRest (s : PaymentState) : Prop where
  runs : s.runs.Quiet
  updates : ∀ i after, ¬ PendingUpdate s i after
  client : s.authenticated = 0

instance (s : PaymentState) : Decidable (StatusCurrent s) :=
  inferInstanceAs (Decidable (∀ i ∈ s.stripe, _))

/-- Only the updates that there are need to be looked at. -/
instance (s : PaymentState) : Decidable (AtRest s) :=
  decidable_of_iff (s.runs.Quiet ∧ (∀ j < s.updates.length, j ∈ s.delivered) ∧ s.authenticated = 0)
    (by
      constructor
      · rintro ⟨hruns, hupdates, hclient⟩
        refine ⟨hruns, ?_, hclient⟩
        rintro j after ⟨hafter, hnot⟩
        obtain ⟨hj, -⟩ := List.getElem?_eq_some_iff.mp hafter
        exact hnot (hupdates j hj)
      · intro h
        refine ⟨h.runs, ?_, h.client⟩
        intro j hj
        by_contra hnot
        exact h.updates j s.updates[j] ⟨List.getElem?_eq_getElem hj, hnot⟩)

/-- **The law of the status**, from the state `s` of a run to a later one `t`: a recorded
success stays, and at rest the document shows the intent's status. -/
structure StatusLaw (s t : PaymentState) : Prop where
  stays : RecordedSucceeded s → RecordedSucceeded t
  current : AtRest t → StatusCurrent t

/-- The run, if it goes on now, writes the status of the intent `i`. -/
def Brings (i : StripeIntent) : PaymentRun → Prop
  | .creating .lookup => customer.isSome ∧ i.original = .ok i.status
  | .creating (.create _) => i.original = .ok i.status
  | .creating (.set payment) | .writeBack payment => Shows payment i.status
  | .creating (.setError _) => False
  | .confirm id => Confirmable intent id i

instance (i : StripeIntent) : DecidablePred (Brings intent customer i)
  | .creating .lookup => inferInstanceAs (Decidable (_ ∧ _))
  | .creating (.create _) => inferInstanceAs (Decidable (_ = _))
  | .creating (.set _) | .writeBack _ => inferInstanceAs (Decidable (Shows _ _))
  | .creating (.setError _) => inferInstanceAs (Decidable False)
  | .confirm _ => inferInstanceAs (Decidable (Confirmable _ _ _))

/-- Some pending update leads to a confirmation of the intent. -/
def UpdateConfirms (s : PaymentState) : Prop :=
  ∃ j < s.updates.length, j ∉ s.delivered ∧
    ∃ after ∈ s.updates[j]?, confirmStripePayment after = some (some (.string intent.id))

instance (s : PaymentState) : Decidable (UpdateConfirms intent s) :=
  inferInstanceAs (Decidable (∃ _ < _, _))

/-- Something pending brings the status of the intent `i`: a run, or where the intent is to
be confirmed the client or an update. -/
def Brought (i : StripeIntent) (s : PaymentState) : Prop :=
  s.runs.Any (Brings intent customer i) ∨
    i.status = .requiresConfirmation ∧ (0 < s.authenticated ∨ UpdateConfirms intent s)

instance (i : StripeIntent) (s : PaymentState) : Decidable (Brought intent customer i s) :=
  inferInstanceAs (Decidable (_ ∨ _))

/-- The status of the intent `i` is shown, or brought by something pending. -/
def Kept (i : StripeIntent) (s : PaymentState) : Prop :=
  Shows s.document i.status ∨ Brought intent customer i s

instance (i : StripeIntent) (s : PaymentState) : Decidable (Kept intent customer i s) :=
  inferInstanceAs (Decidable (_ ∨ _))

/-- **The invariant.** -/
def Follows (s : PaymentState) : Prop := ∀ i ∈ s.stripe, Kept intent customer i s

/-! ## The condition -/

/-- The write of `after` is not stale: it shows the intent's status, or it takes no success
back and something else (`s` is without the writer) brings that status. -/
def SafeWrite (s : PaymentState) (after : Fields) : Prop :=
  ∀ i ∈ s.stripe,
    Shows after i.status ∨ ¬ RecordedSucceeded s ∧ Brought intent customer i s

instance (s : PaymentState) (after : Fields) : Decidable (SafeWrite intent customer s after) :=
  inferInstanceAs (Decidable (∀ i ∈ s.stripe, _))

/-- A first create that is declined leaves an intent behind; the document shows its status,
or something brings it. -/
def SafeCreate (s : PaymentState) : Option StripeIntent → StripeAnswer → Prop
  | none, .declined error => Kept intent customer ⟨.requiresPaymentMethod, .error error⟩ s
  | _, _ => True

instance (s : PaymentState) (i : Option StripeIntent) :
    DecidablePred (SafeCreate intent customer s i) := fun answer =>
  match i, answer with
  | none, .declined _ => inferInstanceAs (Decidable (Kept _ _ _ _))
  | none, .intent _ | none, .refused _ | some _, _ => isTrue trivial

/-- A confirmation that fails writes nothing; the document shows the status that it leaves
the intent in, or something brings it. -/
def SafeConfirm (s : PaymentState) (i : StripeIntent) : StripeAnswer → Prop
  | .intent _ => True
  | .declined _ => Kept intent customer { i with status := .requiresPaymentMethod } s
  | .refused _ => Kept intent customer i s

instance (s : PaymentState) (i : StripeIntent) :
    DecidablePred (SafeConfirm intent customer s i)
  | .intent _ => inferInstanceAs (Decidable True)
  | .declined _ => inferInstanceAs (Decidable (Kept _ _ _ _))
  | .refused _ => inferInstanceAs (Decidable (Kept _ _ _ _))

/-- The condition on one part of run `n`. -/
def SafeProceed (s : PaymentState) (n : ℕ) (answer : StripeAnswer) : PaymentRun → Prop
  | .creating (.set payment) | .writeBack payment =>
    SafeWrite intent customer (s.without n) payment
  | .creating (.create _) => SafeCreate intent customer (s.without n) s.stripe answer
  | .confirm id => ∀ i ∈ s.stripe, Confirmable intent id i →
    SafeConfirm intent customer (s.without n) i answer
  | .creating .lookup | .creating (.setError _) => True

instance (s : PaymentState) (n : ℕ) (answer : StripeAnswer) :
    DecidablePred (SafeProceed intent customer s n answer)
  | .creating (.set _) | .writeBack _ => inferInstanceAs (Decidable (SafeWrite _ _ _ _))
  | .creating (.create _) => inferInstanceAs (Decidable (SafeCreate _ _ _ _ _))
  | .confirm _ => inferInstanceAs (Decidable (∀ i ∈ s.stripe, _))
  | .creating .lookup | .creating (.setError _) => inferInstanceAs (Decidable True)

/-- **The condition.** -/
def Safe (s : PaymentState) : PaymentEvent → Prop
  | .proceed n answer => ∀ run ∈ s.runs.running n, SafeProceed intent customer s n answer run
  | .setStatus => SafeWrite intent customer s.oneSet (statusSet s.document)
  | .deliverCreation | .deliverUpdate _ | .authenticate => True

instance (s : PaymentState) : DecidablePred (Safe intent customer s)
  | .proceed n _ => inferInstanceAs (Decidable (∀ run ∈ s.runs.running n, _))
  | .setStatus => inferInstanceAs (Decidable (SafeWrite _ _ _ _))
  | .deliverCreation | .deliverUpdate _ | .authenticate => inferInstanceAs (Decidable True)

/-! ## What shows a status, and what brings it -/

variable {intent data customer pushId} {s s' : PaymentState} {i : StripeIntent} {n : ℕ}

theorem IntentStatus.name_inj {a b : IntentStatus} (h : a.name = b.name) : a = b := by
  cases a <;> cases b <;> first | rfl | exact absurd h (by decide)

theorem shows_object {status status' : IntentStatus} :
    Shows (intent.object status) status' ↔ status = status' := by
  have hread : Doc.ofFields (intent.object status) "status" = some (.string status.name) := rfl
  rw [Shows, hread, Option.some.injEq, Value.string.injEq]
  exact ⟨IntentStatus.name_inj, congrArg _⟩

theorem shows_statusSet {document : Fields} {status : IntentStatus} :
    Shows (statusSet document) status ↔ status = .requiresConfirmation := by
  have hread : Doc.ofFields (statusSet document) "status" =
      some (.string IntentStatus.requiresConfirmation.name) := rfl
  rw [Shows, hread, Option.some.injEq, Value.string.injEq]
  exact ⟨fun h => IntentStatus.name_inj h.symm, fun h => h ▸ rfl⟩

theorem shows_errorMerged {document : Fields} {error : JsError} {status : IntentStatus} :
    Shows (errorMerged document error) status ↔ Shows document status := Iff.rfl

/-- Only an update to `requires_confirmation` is confirmed. -/
theorem shows_of_confirm {after : Fields} {id : Option Value}
    (h : confirmStripePayment after = some id) : Shows after .requiresConfirmation := by
  unfold confirmStripePayment at h
  split at h
  · assumption
  · cases h

theorem brought_running {run : PaymentRun} (h : s.runs.running n = some run) :
    Brought intent customer i s ↔
      Brings intent customer i run ∨ Brought intent customer i (s.without n) := by
  simp only [Brought, InFlight.any_iff h, or_assoc]
  rfl

theorem brought_waiting {run run' : PaymentRun} (h : s.runs.running n = some run) :
    Brought intent customer i (s.waiting n run') ↔
      Brings intent customer i run' ∨ Brought intent customer i (s.without n) := by
  have hany : (s.waiting n run').runs.Any (Brings intent customer i) ↔
      Brings intent customer i run' ∨ (s.without n).runs.Any (Brings intent customer i) :=
    InFlight.any_put h
  simp only [Brought, hany, or_assoc]
  rfl

theorem kept_running {run : PaymentRun} (h : s.runs.running n = some run) :
    Kept intent customer i s ↔
      Brings intent customer i run ∨ Kept intent customer i (s.without n) := by
  rw [Kept, brought_running h, or_left_comm]
  rfl

theorem kept_waiting {run run' : PaymentRun} (h : s.runs.running n = some run) :
    Kept intent customer i (s.waiting n run') ↔
      Brings intent customer i run' ∨ Kept intent customer i (s.without n) := by
  rw [Kept, brought_waiting h, or_left_comm]
  rfl

/-- What is pending stays pending when the document is written. -/
theorem Brought.write {after : Fields} (h : Brought intent customer i s) :
    Brought intent customer i (s.write after) := by
  rcases h with hany | ⟨hstatus, hclient | ⟨j, hj, hnot, hupdate⟩⟩
  · exact Or.inl hany
  · exact Or.inr ⟨hstatus, Or.inl hclient⟩
  · refine Or.inr ⟨hstatus, Or.inr ⟨j, ?_, hnot, ?_⟩⟩
    · rw [show (s.write after).updates = s.updates ++ _ from rfl, List.length_append]
      omega
    · rw [show (s.write after).updates = s.updates ++ _ from rfl, List.getElem?_append_left hj]
      exact hupdate

/-- A write keeps a status that it shows, or that was brought before it.  That it may lead
to a confirmation adds nothing, for then it shows that status. -/
theorem kept_write {after : Fields} :
    Kept intent customer i (s.write after) ↔
      Shows after i.status ∨ Brought intent customer i s := by
  constructor
  · rintro (hshows | hany | ⟨hstatus, hclient | ⟨j, hj, hnot, hupdate⟩⟩)
    · exact Or.inl hshows
    · exact Or.inr (Or.inl hany)
    · exact Or.inr (Or.inr ⟨hstatus, Or.inl hclient⟩)
    · by_cases hlt : j < s.updates.length
      · rw [show (s.write after).updates = s.updates ++ _ from rfl,
          List.getElem?_append_left hlt] at hupdate
        exact Or.inr (Or.inr ⟨hstatus, Or.inr ⟨j, hlt, hnot, hupdate⟩⟩)
      · -- the update is the write's own
        obtain ⟨after', hafter, hconfirm⟩ := hupdate
        have hmem := List.mem_of_getElem? hafter
        rw [show (s.write after).updates = s.updates ++ _ from rfl, List.getElem?_append_right
          (by omega)] at hafter
        have hmem := List.mem_of_getElem? hafter
        split at hmem
        · cases hmem
        · rw [List.mem_singleton.mp hmem] at hconfirm
          rw [hstatus]
          exact Or.inl (shows_of_confirm hconfirm)
  · rintro (hshows | hbrought)
    · exact Or.inl hshows
    · exact Or.inr hbrought.write

/-! ## One step -/

theorem follows_iff (h : s.stripe = some i) :
    Follows intent customer s ↔ Kept intent customer i s := by
  constructor
  · intro hfollows
    exact hfollows i h
  · intro hkept j hj
    rw [h] at hj
    cases hj
    exact hkept

theorem follows_of_none (h : s.stripe = none) : Follows intent customer s := by
  intro i hi
  rw [h] at hi
  cases hi

/-- A success stays recorded by what changes neither the document nor the intent. -/
theorem RecordedSucceeded.congr (h : RecordedSucceeded s) (hdocument : s'.document = s.document)
    (hstripe : s'.stripe = s.stripe) : RecordedSucceeded s' := by
  rw [RecordedSucceeded, hdocument, hstripe]
  exact h

/-- **A write is right exactly when it is safe.** -/
theorem write_iff (after : Fields) :
    (Follows intent customer (s.write after) ∧
      (RecordedSucceeded s → RecordedSucceeded (s.write after))) ↔
    SafeWrite intent customer s after := by
  constructor
  · rintro ⟨hfollows, hrecorded⟩ i hi
    by_cases hs : RecordedSucceeded s
    · obtain ⟨hshows, j, hj, hstatus⟩ := hrecorded hs
      have hji : j = i := Option.some.inj (hj.symm.trans hi)
      left
      rw [← hji, hstatus]
      exact hshows
    · rcases kept_write.mp (hfollows i hi) with hshows | hbrought
      · exact Or.inl hshows
      · exact Or.inr ⟨hs, hbrought⟩
  · intro hsafe
    constructor
    · intro i hi
      apply kept_write.mpr
      rcases hsafe i hi with hshows | ⟨-, hbrought⟩
      · exact Or.inl hshows
      · exact Or.inr hbrought
    · rintro ⟨hshows, i, hi, hstatus⟩
      refine ⟨?_, i, hi, hstatus⟩
      rcases hsafe i hi with hshows' | ⟨hnot, -⟩
      · rw [← hstatus]
        exact hshows'
      · exact absurd ⟨hshows, i, hi, hstatus⟩ hnot

theorem kept_start {run : PaymentRun} (h : Kept intent customer i s) :
    Kept intent customer i { s with runs := s.runs.start run } := by
  rcases h with hshows | hany | hpending
  · exact Or.inl hshows
  · exact Or.inr (Or.inl (InFlight.any_start.mpr (Or.inr hany)))
  · exact Or.inr (Or.inr hpending)

/-- An update that is delivered has its run from then on. -/
theorem kept_onUpdate {k : ℕ} {after : Fields} (hafter : s.updates[k]? = some after)
    (h : Kept intent customer i s) : Kept intent customer i (onUpdate s k after) := by
  rcases h with hshows | hany | ⟨hstatus, hclient | ⟨j, hj, hnot, after', hafter', hconfirm⟩⟩
  · exact Or.inl hshows
  · refine Or.inr (Or.inl ?_)
    unfold onUpdate
    cases confirmStripePayment after with
    | none => exact hany
    | some id => exact InFlight.any_start.mpr (Or.inr hany)
  · exact Or.inr (Or.inr ⟨hstatus, Or.inl hclient⟩)
  · by_cases hjk : j = k
    · subst hjk
      have hsame : after' = after := Option.some.inj (hafter'.symm.trans hafter)
      rw [hsame] at hconfirm
      refine Or.inr (Or.inl ?_)
      unfold onUpdate
      rw [hconfirm]
      exact InFlight.any_start.mpr (Or.inl ⟨rfl, hstatus⟩)
    · refine Or.inr (Or.inr ⟨hstatus, Or.inr ⟨j, hj, ?_, after', hafter', hconfirm⟩⟩)
      intro hmem
      rcases List.mem_append.mp hmem with hmem | hmem
      · exact hnot hmem
      · exact hjk (List.mem_singleton.mp hmem)

/-- A run that goes on without writing, and brings what it brought, is right. -/
theorem waiting_keeps {run run' : PaymentRun} (hf : Follows intent customer s)
    (hrun : s.runs.running n = some run)
    (hbrings : ∀ i ∈ s.stripe, Brings intent customer i run → Brings intent customer i run') :
    Follows intent customer (s.waiting n run') := by
  intro i hi
  apply (kept_waiting hrun).mpr
  rcases (kept_running hrun).mp (hf i hi) with hthis | hrest
  · exact Or.inl (hbrings i hi hthis)
  · exact Or.inr hrest

theorem createIntent_iff (hf : Follows intent customer s) {request : PaymentIntentRequest}
    (hrun : s.runs.running n = some (.creating (.create request))) (answer : StripeAnswer) :
    (Follows intent customer (createIntent intent s n answer) ∧
      (RecordedSucceeded s → RecordedSucceeded (createIntent intent s n answer))) ↔
    SafeProceed intent customer s n answer (.creating (.create request)) := by
  unfold createIntent SafeProceed SafeCreate
  cases hstripe : s.stripe with
  | some j =>
    refine iff_of_true ⟨waiting_keeps hf hrun ?_, fun h => h.congr rfl rfl⟩ trivial
    intro i hi hbrings
    rw [hstripe] at hi
    cases hi
    -- the answer that is replayed is the status that it would bring
    rw [show j.original = .ok j.status from hbrings]
    exact shows_object.mpr rfl
  | none =>
    have hnot : ¬ RecordedSucceeded s := by
      rintro ⟨-, j, hj, -⟩
      rw [hstripe] at hj
      cases hj
    cases answer with
    | intent status =>
      refine iff_of_true ⟨(follows_iff rfl).mpr ?_, fun h => absurd h hnot⟩ trivial
      exact (kept_waiting hrun).mpr (Or.inl (shows_object.mpr rfl))
    | declined error =>
      have hkept : Follows intent customer { s.waiting n (afterOriginal intent (.error error)) with
            stripe := some ⟨.requiresPaymentMethod, .error error⟩ } ↔
          Kept intent customer ⟨.requiresPaymentMethod, .error error⟩ (s.without n) := by
        rw [follows_iff rfl]
        exact (kept_waiting hrun).trans (or_iff_right id)
      exact ⟨fun h => hkept.mp h.1, fun h => ⟨hkept.mpr h, fun hs => absurd hs hnot⟩⟩
    | refused error =>
      exact iff_of_true ⟨follows_of_none hstripe, fun h => absurd h hnot⟩ trivial

/-- A run that ends without writing, and brings nothing, leaves everything as it is. -/
theorem without_keeps {run : PaymentRun} (hf : Follows intent customer s)
    (hrun : s.runs.running n = some run)
    (hbrings : ∀ i ∈ s.stripe, ¬ Brings intent customer i run) :
    Follows intent customer (s.without n) := by
  intro i hi
  rcases (kept_running hrun).mp (hf i hi) with hthis | hrest
  · exact absurd hthis (hbrings i hi)
  · exact hrest

theorem confirmIntent_iff (hf : Follows intent customer s) {id : Option Value}
    (hrun : s.runs.running n = some (.confirm id)) (answer : StripeAnswer) :
    (Follows intent customer (confirmIntent intent s n id answer) ∧
      (RecordedSucceeded s → RecordedSucceeded (confirmIntent intent s n id answer))) ↔
    SafeProceed intent customer s n answer (.confirm id) := by
  unfold confirmIntent SafeProceed
  cases hstripe : s.stripe with
  | some j =>
    by_cases hconfirm : Confirmable intent id j
    · have hsafe : (∀ i ∈ some j, Confirmable intent id i →
          SafeConfirm intent customer (s.without n) i answer) ↔
          SafeConfirm intent customer (s.without n) j answer := by
        constructor
        · intro h
          exact h j rfl hconfirm
        · intro h i hi _
          cases hi
          exact h
      -- an intent that is to be confirmed has not succeeded
      have hnot : ¬ RecordedSucceeded s := by
        rintro ⟨-, i, hi, hstatus⟩
        rw [hstripe] at hi
        cases hi
        rw [hconfirm.2] at hstatus
        cases hstatus
      simp only [if_pos hconfirm]
      rw [hsafe]
      cases answer with
      | intent status =>
        refine iff_of_true ⟨(follows_iff rfl).mpr ?_, fun h => absurd h hnot⟩ trivial
        exact (kept_waiting hrun).mpr (Or.inl (shows_object.mpr rfl))
      | declined error =>
        rw [follows_iff rfl]
        exact and_iff_left fun h => absurd h hnot
      | refused error =>
        rw [follows_iff (show (s.without n).stripe = some j from hstripe)]
        exact and_iff_left fun h => absurd h hnot
    · simp only [if_neg hconfirm]
      refine iff_of_true ⟨without_keeps hf hrun ?_, fun h => h.congr rfl rfl⟩ ?_
      · intro i hi
        rw [hstripe] at hi
        cases hi
        exact hconfirm
      · intro i hi hi'
        cases hi
        exact absurd hi' hconfirm
  | none =>
    refine iff_of_true ⟨follows_of_none hstripe, fun h => h.congr rfl rfl⟩ ?_
    intro i hi
    cases hi

/-- **A part of a run is right exactly when it is safe.** -/
theorem proceed_iff (hf : Follows intent customer s) {run : PaymentRun}
    (hrun : s.runs.running n = some run) (answer : StripeAnswer) :
    (Follows intent customer (proceedPayment intent data customer pushId s n answer run) ∧
      (RecordedSucceeded s →
        RecordedSucceeded (proceedPayment intent data customer pushId s n answer run))) ↔
    SafeProceed intent customer s n answer run := by
  cases run with
  | creating run =>
    cases run with
    | lookup =>
      refine iff_of_true ?_ trivial
      unfold proceedPayment
      cases customer with
      | some customer =>
        refine ⟨waiting_keeps hf hrun ?_, fun h => h.congr rfl rfl⟩
        intro i _ hbrings
        exact hbrings.2
      | none =>
        refine ⟨waiting_keeps hf hrun ?_, fun h => h.congr rfl rfl⟩
        intro i _ hbrings
        cases hbrings.1
    | create request => exact createIntent_iff hf hrun answer
    | set payment => exact write_iff payment
    | setError error =>
      -- the status is left as it is
      refine iff_of_true ⟨?_, ?_⟩ trivial
      · intro i hi
        have hkept : Kept intent customer i (s.without n) :=
          without_keeps hf hrun (fun _ _ hbrings => hbrings) i hi
        exact kept_write.mpr (hkept.imp_left shows_errorMerged.mpr)
      · rintro ⟨hshows, hintent⟩
        exact ⟨shows_errorMerged.mpr hshows, hintent⟩
  | confirm id => exact confirmIntent_iff hf hrun answer
  | writeBack payment => exact write_iff payment

/-- **A step is right exactly when it is safe**: it leaves the status shown or brought, and
a recorded success recorded. -/
theorem step_iff (hf : Follows intent customer s) {e : PaymentEvent}
    (h : paymentStep intent data customer pushId s e = some s') :
    (Follows intent customer s' ∧ (RecordedSucceeded s → RecordedSucceeded s')) ↔
      Safe intent customer s e := by
  cases e with
  | deliverCreation =>
    cases h
    refine iff_of_true ⟨?_, fun h => h.congr rfl rfl⟩ trivial
    intro i hi
    exact kept_start (hf i hi)
  | deliverUpdate k =>
    obtain ⟨after, hafter, rfl⟩ := Option.map_eq_some_iff.mp h
    refine iff_of_true ⟨?_, fun h => h.congr rfl rfl⟩ trivial
    intro i hi
    exact kept_onUpdate hafter (hf i hi)
  | proceed n answer =>
    obtain ⟨run, hrun, rfl⟩ := Option.map_eq_some_iff.mp h
    rw [proceed_iff hf hrun]
    constructor
    · intro hsafe run' hrun'
      rw [hrun] at hrun'
      cases hrun'
      exact hsafe
    · intro hsafe
      exact hsafe run hrun
  | authenticate =>
    obtain ⟨i, hi, h⟩ := Option.bind_eq_some_iff.mp h
    split at h
    · rename_i hstatus
      cases h
      refine iff_of_true ⟨?_, ?_⟩ trivial
      · -- the client will set the status
        apply (follows_iff rfl).mpr
        exact Or.inr (Or.inr ⟨rfl, Or.inl (Nat.succ_pos _)⟩)
      · rintro ⟨-, j, hj, hsucceeded⟩
        rw [hi] at hj
        cases hj
        rw [hstatus] at hsucceeded
        cases hsucceeded
    · cases h
  | setStatus =>
    simp only [paymentStep] at h
    split at h
    · cases h
      exact write_iff (s := s.oneSet) (statusSet s.document)
    · cases h

/-! ## Runs -/

/-- At rest nothing brings a status. -/
theorem AtRest.not_brought (h : AtRest s) : ¬ Brought intent customer i s := by
  rintro (hany | ⟨-, hclient | ⟨j, -, hnot, after, hafter, -⟩⟩)
  · exact h.runs.not_any hany
  · rw [h.client] at hclient
    omega
  · exact h.updates j after ⟨hafter, hnot⟩

theorem Follows.current (hf : Follows intent customer s) (h : AtRest s) : StatusCurrent s := by
  intro i hi
  rcases hf i hi with hshows | hbrought
  · exact hshows
  · exact absurd hbrought h.not_brought

/-- Where the condition is not met a success is taken back, or nothing follows any more. -/
theorem not_safe (hf : Follows intent customer s) {e : PaymentEvent}
    (h : paymentStep intent data customer pushId s e = some s')
    (hnot : ¬ Safe intent customer s e) :
    ¬ Follows intent customer s' ∨ RecordedSucceeded s ∧ ¬ RecordedSucceeded s' := by
  by_contra hright
  push Not at hright
  exact hnot ((step_iff hf h).mp hright)

/-- The events that bring to an end what is pending: no event is delivered again, and the
customer does not authenticate again. -/
def Finishing (s : PaymentState) : PaymentEvent → Prop
  | .deliverUpdate i => i ∉ s.delivered
  | .proceed _ _ | .setStatus => True
  | .deliverCreation | .authenticate => False

theorem lost_waiting {run run' : PaymentRun} (hlost : ¬ Follows intent customer s)
    (hrun : s.runs.running n = some run)
    (hbrings : ∀ i ∈ s.stripe, Brings intent customer i run' → Brings intent customer i run) :
    ¬ Follows intent customer (s.waiting n run') := by
  intro hf
  apply hlost
  intro i hi
  apply (kept_running hrun).mpr
  rcases (kept_waiting hrun).mp (hf i hi) with hthis | hrest
  · exact Or.inl (hbrings i hi hthis)
  · exact Or.inr hrest

theorem lost_without {run : PaymentRun} (hlost : ¬ Follows intent customer s)
    (hrun : s.runs.running n = some run) : ¬ Follows intent customer (s.without n) := by
  intro hf
  apply hlost
  intro i hi
  exact (kept_running hrun).mpr (Or.inr (hf i hi))

/-- A write by run `n` that shows no more than the run brought. -/
theorem lost_write {run : PaymentRun} {after : Fields} (hlost : ¬ Follows intent customer s)
    (hrun : s.runs.running n = some run)
    (hshows : ∀ i ∈ s.stripe, Shows after i.status → Kept intent customer i s) :
    ¬ Follows intent customer ((s.without n).write after) := by
  intro hf
  apply hlost
  intro i hi
  rcases kept_write.mp (hf i hi) with hthis | hrest
  · exact hshows i hi hthis
  · exact Or.inr ((brought_running hrun).mpr (Or.inr hrest))

/-- The event of an update that was pending brings nothing that was not brought before. -/
theorem kept_of_onUpdate {k : ℕ} {after : Fields} (hafter : s.updates[k]? = some after)
    (hpending : k ∉ s.delivered) (h : Kept intent customer i (onUpdate s k after)) :
    Kept intent customer i s := by
  rcases h with hshows | hany | ⟨hstatus, hclient | ⟨j, hj, hnot, hupdate⟩⟩
  · exact Or.inl hshows
  · unfold onUpdate at hany
    cases hconfirm : confirmStripePayment after with
    | none =>
      rw [hconfirm] at hany
      exact Or.inr (Or.inl hany)
    | some id =>
      rw [hconfirm] at hany
      rcases InFlight.any_start.mp hany with hthis | hrest
      · -- the update itself was to be confirmed
        obtain ⟨hid, hstatus⟩ := hthis
        obtain ⟨hk, -⟩ := List.getElem?_eq_some_iff.mp hafter
        rw [hid] at hconfirm
        exact Or.inr (Or.inr ⟨hstatus, Or.inr ⟨k, hk, hpending, after, hafter, hconfirm⟩⟩)
      · exact Or.inr (Or.inl hrest)
  · exact Or.inr (Or.inr ⟨hstatus, Or.inl hclient⟩)
  · refine Or.inr (Or.inr ⟨hstatus, Or.inr ⟨j, hj, ?_, hupdate⟩⟩)
    intro hmem
    exact hnot (List.mem_append_left _ hmem)

theorem lost_proceed (hlost : ¬ Follows intent customer s) {j : StripeIntent}
    (hj : s.stripe = some j) {run : PaymentRun} (hrun : s.runs.running n = some run)
    (answer : StripeAnswer) :
    ¬ Follows intent customer (proceedPayment intent data customer pushId s n answer run) := by
  have hbringsNot : ¬ Brings intent customer j run := by
    intro hbrings
    exact hlost ((follows_iff hj).mpr ((kept_running hrun).mpr (Or.inl hbrings)))
  cases run with
  | creating run =>
    cases run with
    | lookup =>
      unfold proceedPayment
      cases customer with
      | some customer => exact lost_waiting hlost hrun fun i _ hbrings => ⟨rfl, hbrings⟩
      | none => exact lost_waiting hlost hrun fun i _ hbrings => absurd hbrings id
    | create request =>
      simp only [proceedPayment, createIntent, hj]
      apply lost_waiting hlost hrun
      intro i hi hbrings
      rw [hj] at hi
      cases hi
      unfold afterOriginal at hbrings
      cases horiginal : j.original with
      | ok status =>
        rw [horiginal] at hbrings
        exact horiginal.trans (congrArg _ (shows_object.mp hbrings))
      | error error =>
        rw [horiginal] at hbrings
        exact absurd hbrings id
    | set payment =>
      apply lost_write hlost hrun
      intro i _ hshows
      exact (kept_running hrun).mpr (Or.inl hshows)
    | setError error =>
      apply lost_write hlost hrun
      intro i _ hshows
      exact Or.inl (shows_errorMerged.mp hshows)
  | confirm id =>
    simp only [proceedPayment, confirmIntent, hj]
    rw [if_neg (show ¬ Confirmable intent id j from hbringsNot)]
    exact lost_without hlost hrun
  | writeBack payment =>
    apply lost_write hlost hrun
    intro i _ hshows
    exact (kept_running hrun).mpr (Or.inl hshows)

/-- **What does not follow never does again** by what is pending. -/
theorem lost_step (hlost : ¬ Follows intent customer s) {e : PaymentEvent}
    (hfinishing : Finishing s e) (h : paymentStep intent data customer pushId s e = some s') :
    ¬ Follows intent customer s' := by
  obtain ⟨j, hj⟩ : ∃ j, s.stripe = some j := by
    cases hstripe : s.stripe with
    | some j => exact ⟨j, rfl⟩
    | none => exact absurd (follows_of_none hstripe) hlost
  cases e with
  | deliverCreation => exact absurd hfinishing id
  | authenticate => exact absurd hfinishing id
  | deliverUpdate k =>
    obtain ⟨after, hafter, rfl⟩ := Option.map_eq_some_iff.mp h
    intro hf
    apply hlost
    intro i hi
    exact kept_of_onUpdate hafter hfinishing (hf i hi)
  | proceed n answer =>
    obtain ⟨run, hrun, rfl⟩ := Option.map_eq_some_iff.mp h
    exact lost_proceed hlost hj hrun answer
  | setStatus =>
    simp only [paymentStep] at h
    split at h
    · rename_i hclient
      cases h
      intro hf
      apply hlost
      intro i hi
      rcases kept_write.mp (hf i hi) with hshows | hany | ⟨hstatus, -⟩
      · exact Or.inr (Or.inr ⟨shows_statusSet.mp hshows, Or.inl hclient⟩)
      · exact Or.inr (Or.inl hany)
      · exact Or.inr (Or.inr ⟨hstatus, Or.inl hclient⟩)
    · cases h

/-- **The condition leaves out nothing that ends right.**  A step that does not meet it
takes a success back, or however what is pending comes to its end the document does not
show the status of the intent. -/
theorem not_safe_ends (hf : Follows intent customer s) {e : PaymentEvent}
    (h : paymentStep intent data customer pushId s e = some s')
    (hnot : ¬ Safe intent customer s e) {es : List PaymentEvent} {t : PaymentState}
    (hfinishing : Along (paymentStep intent data customer pushId) Finishing s' es)
    (ht : run (paymentStep intent data customer pushId) s' es = some t) :
    RecordedSucceeded s ∧ ¬ RecordedSucceeded s' ∨ ¬ StatusCurrent t := by
  rcases not_safe hf h hnot with hlost | hback
  · right
    have hlost' : ¬ Follows intent customer t :=
      run_invariant_along (fun x => ¬ Follows intent customer x)
        (fun _ _ _ hx he hx' => lost_step hx he hx') hlost hfinishing ht
    intro hcurrent
    exact hlost' fun i hi => Or.inl (hcurrent i hi)
  · exact Or.inl hback

end

/-- **The status of a payment follows the intent.**  In every run of safe steps, from the
creation of any payment document on, a success that has been recorded stays, and when no
event is pending the document shows the intent's status at Stripe. -/
theorem status_follows (intent : PaymentIntent) (data : Fields) (customer : Option Doc)
    (pushId : String) (es es' : List PaymentEvent) (s t : PaymentState)
    (hsafe : Along (paymentStep intent data customer pushId) (Safe intent customer)
      (PaymentState.initial data) (es ++ es'))
    (hs : run (paymentStep intent data customer pushId) (PaymentState.initial data) es = some s)
    (ht : run (paymentStep intent data customer pushId) s es' = some t) : StatusLaw s t := by
  have hinit : Follows intent customer (PaymentState.initial data) := follows_of_none rfl
  have hfollows : Follows intent customer s :=
    run_invariant_along (Follows intent customer)
      (fun _ _ _ hf he h => ((step_iff hf h).mpr he).1) hinit hsafe.left hs
  have hboth : Follows intent customer t ∧ (RecordedSucceeded s → RecordedSucceeded t) :=
    run_invariant_along
      (fun x => Follows intent customer x ∧ (RecordedSucceeded s → RecordedSucceeded x))
      (fun _ _ _ hx he h =>
        have hright := (step_iff hx.1 h).mpr he
        ⟨hright.1, fun hsucceeded => hright.2 (hx.2 hsucceeded)⟩)
      ⟨hfollows, id⟩ (hsafe.right hs) ht
  exact ⟨hboth.2, fun hrest => hboth.1.current hrest⟩

/-! ## A payment that is challenged -/

def sampleIntent : PaymentIntent := ⟨"pi_1", fun _ => [("amount", .int 1000)]⟩

def sampleData : Fields :=
  [("amount", .int 1000), ("currency", .string "usd"), ("payment_method", .string "pm_1")]

def sampleStripeCustomer : Option Doc := some (Doc.ofFields [("customer_id", .string "cus_1")])

/-- The customer authenticates and the payment succeeds. -/
def challenged : List PaymentEvent :=
  let answer := StripeAnswer.intent .requiresAction
  [.deliverCreation, .proceed 0 answer, .proceed 0 answer, .proceed 0 answer, .deliverUpdate 0,
    .authenticate, .setStatus, .deliverUpdate 1, .proceed 1 (.intent .succeeded),
    .proceed 1 answer, .deliverUpdate 2]

/-- The event of the update that was confirmed is delivered again; the intent cannot be
confirmed any more. -/
theorem status_follows_sample : ∃ s t,
    run (paymentStep sampleIntent sampleData sampleStripeCustomer "x")
      (PaymentState.initial sampleData) challenged = some s ∧
    run (paymentStep sampleIntent sampleData sampleStripeCustomer "x") s
      [.deliverUpdate 1, .proceed 2 (.intent .succeeded)] = some t ∧
    RecordedSucceeded s ∧ AtRest t ∧ StatusLaw s t := by
  have hsafe : Along (paymentStep sampleIntent sampleData sampleStripeCustomer "x")
      (Safe sampleIntent sampleStripeCustomer) (PaymentState.initial sampleData)
      (challenged ++ [.deliverUpdate 1, .proceed 2 (.intent .succeeded)]) := by decide +kernel
  have hrun : ∃ s ∈ run (paymentStep sampleIntent sampleData sampleStripeCustomer "x")
        (PaymentState.initial sampleData) challenged,
      ∃ t ∈ run (paymentStep sampleIntent sampleData sampleStripeCustomer "x") s
        [.deliverUpdate 1, .proceed 2 (.intent .succeeded)],
      RecordedSucceeded s ∧ AtRest t := by decide +kernel
  obtain ⟨s, hs, t, ht, hrecorded, hrest⟩ := hrun
  exact ⟨s, t, hs, ht, hrecorded, hrest,
    status_follows sampleIntent sampleData sampleStripeCustomer "x" challenged _ s t hsafe hs ht⟩

/-- **A success is taken back.**  The creation event is delivered again after the payment
has succeeded: Stripe answers as it did at first, and the document shows
`requires_action` for good. -/
theorem success_overwritten : ∃ s t,
    run (paymentStep sampleIntent sampleData sampleStripeCustomer "x")
      (PaymentState.initial sampleData) challenged = some s ∧
    run (paymentStep sampleIntent sampleData sampleStripeCustomer "x") s
      [.deliverCreation, .proceed 2 (.intent .requiresAction),
        .proceed 2 (.intent .requiresAction), .proceed 2 (.intent .requiresAction),
        .deliverUpdate 3] = some t ∧
    RecordedSucceeded s ∧ AtRest s ∧ Shows t.document .requiresAction ∧ AtRest t ∧
    ¬ StatusLaw s t := by
  have hrun : ∃ s ∈ run (paymentStep sampleIntent sampleData sampleStripeCustomer "x")
        (PaymentState.initial sampleData) challenged,
      ∃ t ∈ run (paymentStep sampleIntent sampleData sampleStripeCustomer "x") s
        [.deliverCreation, .proceed 2 (.intent .requiresAction),
          .proceed 2 (.intent .requiresAction), .proceed 2 (.intent .requiresAction),
          .deliverUpdate 3],
      RecordedSucceeded s ∧ AtRest s ∧ Shows t.document .requiresAction ∧ AtRest t ∧
        ¬ StatusCurrent t := by decide +kernel
  obtain ⟨s, hs, t, ht, hrecorded, hrest, hshows, hrest', hnot⟩ := hrun
  exact ⟨s, t, hs, ht, hrecorded, hrest, hshows, hrest', fun hlaw => hnot (hlaw.current hrest')⟩

end Lidora
