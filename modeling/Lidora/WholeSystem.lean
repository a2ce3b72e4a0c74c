import Lidora.Parts
import Lidora.SignedIn

/-! # The parts together

The bags, the likes, the payment methods and the own documents of all customers, from any
number of devices, and the setups of all users at Stripe, over one Firestore
(`component`, `wholeInitial`).  Every step of the whole is a step of one part.

A part works for one customer throughout.  So does a call of `DataService`, as long as every
callback that asks who is signed in finds the customer who made the call
(`requests_of_account`); `placeOrder` and `createStripePaymentMethod` may find somebody else, and
then file what they write there (`payment_filed_under_ben`).  `SignedWhole` is the whole with who
is signed in on each device, and leaves open what comes of that.  `cleanupUser`,
`createStripePayment` and `confirmStripePayment` are no parts.

Since every document belongs to one part at most, nobody interferes with anybody:

* the runs of the whole are exactly the interleavings of the parts' own runs, and what a
  part ends with is what it ends with alone (`whole_run_iff`);
* what a customer ends with depends on that customer's own events and documents, whatever
  the other customers do and in whatever order it all comes, where everybody who asks who is
  signed in finds the customer (`account_isolated`);
* the triggers of `functions/index.js` on documents never fire, since nothing that does
  not itself run on such a trigger writes a document that they match
  (`triggers_never_fire`).  What is left out does not change that: a customer found instead of
  another is another name in a path under `customers`, `cleanupUser` writes nothing but deletes,
  and the other two only write when they have been triggered.
-/
namespace Lidora
open Components DocumentStore Runs

section
variable (D : Type) [DecidableEq D] (order : String → String) (api : String → StripeSetup)
  (email : String → Option String)

/-- The parts, each for one customer throughout: the customer `uid` has one order,
`order uid`. -/
def component : Part → Component Path Doc
  | .bag uid => bagComponent D uid (order uid)
  | .likes uid => likesComponent D uid
  | .cards uid => cardsComponent uid
  | .account uid => accountComponent uid
  | .setup uid => setupComponent (api uid) uid (email uid)

def footprint : ∀ part, Footprint (component D order api email part)
  | .bag uid => bagFootprint D uid (order uid)
  | .likes uid => likesFootprint D uid
  | .cards uid => cardsFootprint uid
  | .account uid => accountFootprint uid
  | .setup uid => setupFootprint (api uid) uid (email uid)

/-- A part before its first event. -/
def partInitial (store : Firestore) : ∀ part, (component D order api email part).State
  | .bag uid => BagState.initial (order uid) store
  | .likes _ => LikesState.initial store
  | .cards _ => PaymentsState.initial store
  | .account _ => store
  | .setup _ => SetupState.initial store

/-- Nothing has happened yet. -/
def wholeInitial (store : Firestore) : Whole (component D order api email) :=
  ⟨store, partInitial D order api email store⟩

variable {D order api email}

theorem footprint_reads (part : Part) :
    (footprint D order api email part).reads = territory part := by
  cases part <;> rfl

theorem footprint_writes (part : Part) :
    (footprint D order api email part).writes = territory part := by
  cases part <;> rfl

/-- Nobody interferes with anybody. -/
theorem parts_apart (part : Part) : Apart (footprint D order api email) part := by
  intro other hother
  rw [footprint_writes, footprint_reads]
  exact territory_disjoint hother

theorem view_wholeInitial (store : Firestore) (part : Part) :
    (wholeInitial D order api email store).view part =
      partInitial D order api email store part := by
  cases part <;> rfl

theorem store_partInitial (store : Firestore) (part : Part) :
    (component D order api email part).store (partInitial D order api email store part) =
      store := by
  cases part <;> rfl

theorem withStore_partInitial (store store' : Firestore) (part : Part) :
    (component D order api email part).withStore (partInitial D order api email store part) store' =
      partInitial D order api email store' part := by
  cases part <;> rfl

theorem sound_wholeInitial (store : Firestore) :
    Sound (footprint D order api email) (wholeInitial D order api email store) := by
  intro part
  rw [view_wholeInitial]
  cases part with
  | bag uid => exact fun n d items h => by cases h
  | likes _ | cards _ | account _ | setup _ => trivial

/-- A part over one store mirrors the same part over another that holds the same documents
of it. -/
theorem mirrors_wholeInitial {store store' : Firestore} {part : Part}
    (h : Agree (territory part) store store') :
    Mirrors (footprint D order api email) part (partInitial D order api email store part)
      (wholeInitial D order api email store') where
  view := (view_wholeInitial store' part).trans (withStore_partInitial store store' part).symm
  agree := by
    rw [footprint_reads, store_partInitial]
    exact h

end

/-- **The whole is its parts, interleaved.**  Events of all parts are a run of the whole if
and only if those of each part are a run of that part alone.  Each part then ends in the
same state over the same documents as it does alone, and a document that belongs to no
part is as it was. -/
theorem whole_run_iff (D : Type) [DecidableEq D] (order : String → String)
    (api : String → StripeSetup) (email : String → Option String) (store : Firestore)
    (es : List (WholeEvent (component D order api email))) :
    ((∃ t, run (wholeStep _) (wholeInitial D order api email store) es = some t) ↔
      ∀ part, ∃ q, run (component D order api email part).step
        (partInitial D order api email store part) (share _ part es) = some q) ∧
    ∀ t, run (wholeStep _) (wholeInitial D order api email store) es = some t →
      (∀ part q, run (component D order api email part).step
          (partInitial D order api email store part) (share _ part es) = some q →
        t.view part = (component D order api email part).withStore q t.store ∧
        ∀ p, owner p = some part →
          t.store.lookup p = ((component D order api email part).store q).lookup p) ∧
      ∀ p, owner p = none → t.store.lookup p = store.lookup p := by
  have hsound : Sound (footprint D order api email) _ := sound_wholeInitial store
  constructor
  · refine (run_whole_iff parts_apart hsound).trans (forall_congr' fun part => ?_)
    rw [view_wholeInitial]
  · intro t ht
    constructor
    · intro part q hq
      obtain ⟨q', hq', hmirrors⟩ := run_share (parts_apart part)
        (mirrors_wholeInitial (Agree.refl _ store)) hsound ht
      obtain rfl := Option.some.inj (hq.symm.trans hq')
      refine ⟨hmirrors.view, fun p hp => hmirrors.agree p ?_⟩
      rw [footprint_reads]
      exact hp
    · intro p hp
      refine lookup_of_run hsound ht fun e _ hwritten => ?_
      rw [footprint_writes, mem_territory, hp] at hwritten
      cases hwritten

/-! ## One customer and the others -/

/-- The account that a part is for. -/
def Part.uid : Part → String
  | .bag uid | .likes uid | .cards uid | .account uid | .setup uid => uid

/-- The documents of all parts of an account. -/
def accountTerritory (uid : String) : Set Path :=
  {p | ∃ part, owner p = some part ∧ part.uid = uid}

/-- What lies under a customer's document belongs to no other account. -/
theorem uid_of_owner {uid : String} {p : Path} {part : Part} (hp : refCurrentUser uid <+: p)
    (h : owner p = some part) : part.uid = uid := by
  obtain ⟨rest, rfl⟩ := hp
  change owner ("customers" :: uid :: rest) = some part at h
  unfold owner at h
  split at h <;> cases h <;> simp_all [Part.uid]

open LateBinding in
/-- **A call works on one account where it finds its caller.**  In every run of a device whose
callbacks find the customer who made the call, whoever signs in and out, no request of a call is
about a document of another account's parts. -/
theorem requests_of_account (user : Option UserId) (es : List SharedEvent) (t : SharedDevice)
    (h : run sharedStep (Device.start user) es = some t)
    (hfinds : Along sharedStep (FindsCaller DeviceCall.operation) (Device.start user) es) :
    ∀ x ∈ t.made, ∀ p ∈ x.2.paths, ∀ part, owner p = some part →
      ∃ uid ∈ x.1, part.uid = uid.val := by
  have hmine : AllMine Own t :=
    allMine_of_finds sharedService (s := .start user) (fun m c hc => by cases hc)
      (List.forall_mem_nil _) h hfinds
  intro x hx p hp part hpart
  obtain ⟨uid, huid, hprefix⟩ := hmine x hx p hp
  exact ⟨uid, huid, uid_of_owner hprefix hpart⟩

/-- Two runs of the whole from stores that hold the same documents of the account `uid`, with the
same events of each of its parts, leave the account the same. -/
theorem isolated_of_runs (D : Type) [DecidableEq D] (order : String → String)
    (api : String → StripeSetup) (email : String → Option String) (uid : String)
    (store store' : Firestore) (hstore : Agree (accountTerritory uid) store store')
    (es es' : List (WholeEvent (component D order api email)))
    (hshare : ∀ part : Part, part.uid = uid → share _ part es = share _ part es')
    {t t' : Whole (component D order api email)}
    (h : run (wholeStep _) (wholeInitial D order api email store) es = some t)
    (h' : run (wholeStep _) (wholeInitial D order api email store') es' = some t') :
    Agree (accountTerritory uid) t.store t'.store ∧ ∀ part : Part, part.uid = uid →
      t'.view part = (component D order api email part).withStore (t.view part) t'.store := by
  -- each part of the account has one run of its own, which both runs mirror
  have hown : ∀ part : Part, part.uid = uid → ∃ q,
      Mirrors (footprint D order api email) part q t ∧
        Mirrors (footprint D order api email) part q t' := by
    intro part hpart
    obtain ⟨q, hq, hmirrors⟩ := run_share (parts_apart part)
      (mirrors_wholeInitial (Agree.refl _ store)) (sound_wholeInitial store) h
    have hagree : Agree (territory part) store store' :=
      fun p hp => hstore p ⟨part, hp, hpart⟩
    obtain ⟨q', hq', hmirrors'⟩ := run_share (parts_apart part)
      (mirrors_wholeInitial hagree) (sound_wholeInitial store') h'
    rw [← hshare part hpart] at hq'
    obtain rfl := Option.some.inj (hq.symm.trans hq')
    exact ⟨q, hmirrors, hmirrors'⟩
  constructor
  · rintro p ⟨part, hp, hpart⟩
    obtain ⟨q, hmirrors, hmirrors'⟩ := hown part hpart
    have hreads : p ∈ (footprint D order api email part).reads := by
      rw [footprint_reads]
      exact hp
    rw [hmirrors'.agree p hreads, hmirrors.agree p hreads]
  · intro part hpart
    obtain ⟨q, hmirrors, hmirrors'⟩ := hown part hpart
    rw [hmirrors'.view, hmirrors.view,
      (component D order api email part).withStore_withStore]

/-! ## Who is signed in

In the whole, an event says whose part it belongs to.  On a device, that is whoever is signed in
when the code asks.
-/

section
variable (D : Type) [DecidableEq D] (order : String → String) (api : String → StripeSetup)
  (email : String → Option String)

/-- The whole, and who is signed in on each device. -/
structure SignedWhole where
  whole : Whole (component D order api email)
  signedIn : D → Option String

/-- A customer signs in or out on a device, or the event of a part happens on one; for the
functions of the backend, which one does not matter. -/
inductive SignedEvent where
  | switch (d : D) (user : Option String)
  | act (d : D) (e : WholeEvent (component D order api email))

variable {D order api email}

/-- The event asks who is signed in: with a call, or with the callback that builds the reference
of a payment; `saveUserDetails` is told. -/
def asksWho : WholeEvent (component D order api email) → Bool
  | ⟨.bag _, .call _ _⟩ | ⟨.bag _, .reply _ (.token (some _))⟩ => true
  | ⟨.likes _, .tap _ _⟩ => true
  | ⟨.cards _, .loadCards⟩ | ⟨.cards _, .didSelectRow _⟩ | ⟨.cards _, .addPaymentMethod _ _ _⟩
  | ⟨.cards _, .updatePaymentMethod _ _ _⟩ | ⟨.cards _, .removePaymentMethod _⟩ => true
  | ⟨.account _, .updateUserLocation _ _ _ _⟩ => true
  | _ => false

/-- The event can happen on device `d`: it does not name another. -/
def HappensOn (s : Whole (component D order api email)) (d : D) :
    WholeEvent (component D order api email) → Prop
  | ⟨.bag _, .call d' _⟩ => d' = d
  | ⟨.bag uid, .reply n _⟩ => ∀ x ∈ (BagState.ops (s.view (.bag uid))).running n, x.1 = d
  | ⟨.likes _, .tap d' _⟩ => d' = d
  | _ => True

/-- It finds the customer of its part. -/
def FindsCustomer (s : SignedWhole D order api email) : SignedEvent D order api email → Prop
  | .switch _ _ => True
  | .act d e => asksWho e = true → s.signedIn d = some e.1.uid

instance (s : SignedWhole D order api email) :
    (e : SignedEvent D order api email) → Decidable (FindsCustomer s e)
  | .switch _ _ => isTrue trivial
  | .act d e => inferInstanceAs (Decidable (asksWho e = true → s.signedIn d = some e.1.uid))

instance (s : Whole (component D order api email)) (d : D) :
    (e : WholeEvent (component D order api email)) → Decidable (HappensOn s d e)
  | ⟨.bag _, .call d' _⟩ => inferInstanceAs (Decidable (d' = d))
  | ⟨.bag uid, .reply n _⟩ => inferInstanceAs
      (Decidable (∀ x ∈ (BagState.ops (s.view (.bag uid))).running n, x.1 = d))
  | ⟨.likes _, .tap d' _⟩ => inferInstanceAs (Decidable (d' = d))
  | ⟨.bag _, .handle _⟩ | ⟨.likes _, .read _ _⟩ | ⟨.likes _, .write _⟩ | ⟨.cards _, _⟩
  | ⟨.account _, _⟩ | ⟨.setup _, _⟩ => isTrue trivial

/-- One step; `otherwise` is what comes of an event that finds somebody else, or nobody. -/
def signedStep
    (otherwise : SignedWhole D order api email → D → WholeEvent (component D order api email) →
      Option (SignedWhole D order api email)) (s : SignedWhole D order api email) :
    SignedEvent D order api email → Option (SignedWhole D order api email)
  | .switch d user => some { s with signedIn := Function.update s.signedIn d user }
  | .act d e =>
    if HappensOn s.whole d e then
      if FindsCustomer s (.act d e) then
        (wholeStep _ s.whole e).map fun whole => { s with whole := whole }
      else otherwise s d e
    else none

/-- The events of the parts. -/
def acts (es : List (SignedEvent D order api email)) :
    List (WholeEvent (component D order api email)) :=
  es.filterMap fun
    | .switch _ _ => none
    | .act _ e => some e

/-- Where each event finds its customer, the whole takes its own steps. -/
theorem run_acts {otherwise : SignedWhole D order api email → D →
      WholeEvent (component D order api email) → Option (SignedWhole D order api email)}
    {es : List (SignedEvent D order api email)} {s t : SignedWhole D order api email}
    (h : run (signedStep otherwise) s es = some t)
    (hfinds : Along (signedStep otherwise) FindsCustomer s es) :
    run (wholeStep _) s.whole (acts es) = some t.whole := by
  induction es generalizing s with
  | nil =>
    cases h
    rfl
  | cons e es ih =>
    obtain ⟨s', hstep, hrun⟩ := (run_cons_iff _).mp h
    have hrest := ih hrun (hfinds.2 s' hstep)
    cases e with
    | switch d user =>
      cases hstep
      exact hrest
    | act d e =>
      simp only [signedStep, if_pos hfinds.1, Option.ite_none_right_eq_some] at hstep
      obtain ⟨whole, hwhole, rfl⟩ := Option.map_eq_some_iff.mp hstep.2
      exact (run_cons_iff _).mpr ⟨whole, hwhole, hrest⟩

end

/-- Two devices a customer, one order each, and Stripe's ids numbered. -/
abbrev SampleEvent : Type :=
  WholeEvent (component Bool (fun _ => "bag") (fun _ => numberedSetup) fun _ => none)

/-- Eva saves her name, is set up, and likes a chef. -/
def evasEvents : List SampleEvent :=
  [⟨.account "eva", AccountEvent.saveUserDetails [("first_name", .string "Eva")]⟩,
    ⟨.setup "eva", SetupEvent.deliverUser⟩, ⟨.likes "eva", LikesEvent.tap false "ana"⟩,
    ⟨.likes "eva", LikesEvent.read 0 .server⟩, ⟨.setup "eva", SetupEvent.proceed 0 (.done [])⟩,
    ⟨.likes "eva", LikesEvent.write 0⟩]

/-- Ben likes the chef, too, and Eva's parts take turns otherwise. -/
def evasAndBensEvents : List SampleEvent :=
  [⟨.account "eva", AccountEvent.saveUserDetails [("first_name", .string "Eva")]⟩,
    ⟨.likes "ben", LikesEvent.tap true "ana"⟩, ⟨.likes "eva", LikesEvent.tap false "ana"⟩,
    ⟨.likes "eva", LikesEvent.read 0 .server⟩, ⟨.likes "ben", LikesEvent.read 0 .server⟩,
    ⟨.likes "eva", LikesEvent.write 0⟩, ⟨.likes "ben", LikesEvent.write 0⟩,
    ⟨.setup "eva", SetupEvent.deliverUser⟩, ⟨.setup "eva", SetupEvent.proceed 0 (.done [])⟩]

abbrev SampleWhole : Type :=
  SignedWhole Bool (fun _ => "bag") (fun _ => numberedSetup) fun _ => none

/-- Each signs in on a phone of her or his own. -/
def onTheirPhones (es : List SampleEvent) :
    List (SignedEvent Bool (fun _ => "bag") (fun _ => numberedSetup) fun _ => none) :=
  [.switch false (some "eva"), .switch true (some "ben")] ++
    es.map fun e => .act (e.1.uid = "ben") e

/-- Nobody has signed in. -/
def sampleInitial : SampleWhole :=
  ⟨wholeInitial Bool (fun _ => "bag") (fun _ => numberedSetup) (fun _ => none) ∅, fun _ => none⟩

/-- The app goes down where somebody else is found. -/
def sampleStep : SampleWhole →
    SignedEvent Bool (fun _ => "bag") (fun _ => numberedSetup) (fun _ => none) →
      Option SampleWhole :=
  signedStep fun _ _ _ => none

/-- One of the triggers on documents matches the path: that of `addPaymentMethodDetails`, or
that of `createStripePayment` and `confirmStripePayment`. -/
def Triggers (p : Path) : Prop :=
  (pathParams addPaymentMethodDetailsPattern p).isSome ∨ (pathParams stripePaymentPattern p).isSome

/-- What the triggers match lies four deep under a customer of Stripe. -/
theorem shape_of_triggers {p : Path} (h : Triggers p) :
    ∃ uid pushId, p = stripePaymentMethodRef uid pushId ∨ p = stripePaymentRef uid pushId := by
  have hshape : ∀ name, (pathParams [.literal "stripe_customers", .wildcard "userId",
      .literal name, .wildcard "pushId"] p).isSome →
        ∃ uid pushId, p = ["stripe_customers", uid, name, pushId] := by
    intro name hsome
    match p with
    | [] | [_] | [_, _] | [_, _, _] | _ :: _ :: _ :: _ :: _ :: _ =>
      simp only [pathParams] at hsome
      repeat' split at hsome
      all_goals simp at hsome
    | [a, uid, b, pushId] =>
      simp only [pathParams] at hsome
      split at hsome
      · rename_i ha
        split at hsome
        · rename_i hb
          exact ⟨uid, pushId, by rw [ha, hb]⟩
        · simp at hsome
      · simp at hsome
  rcases h with h | h
  · obtain ⟨uid, pushId, rfl⟩ := hshape "payment_methods" h
    exact ⟨uid, pushId, Or.inl rfl⟩
  · obtain ⟨uid, pushId, rfl⟩ := hshape "payments" h
    exact ⟨uid, pushId, Or.inr rfl⟩

/-- The run is one of `createStripeCustomer`. -/
def SetupRun.IsUsers : SetupRun → Prop
  | .createCustomer | .createIntent _ | .set _ _ => True
  | _ => False

section
variable {D : Type} [DecidableEq D] {order : String → String} {api : String → StripeSetup}
  {email : String → Option String}

/-- The runs of the two setup functions for an account. -/
def setupRuns (s : Whole (component D order api email)) (uid : String) : InFlight SetupRun :=
  SetupState.runs (s.view (.setup uid))

/-- **The invariant**: the triggers match no document, and only `createStripeCustomer` runs. -/
structure Untriggered (s : Whole (component D order api email)) : Prop where
  documents : ∀ p, Triggers p → s.store.lookup p = none
  runs : ∀ uid n run, (setupRuns s uid).running n = some run → run.IsUsers

/-- The event is the delivery of the creation of a payment method. -/
def IsDelivery : WholeEvent (component D order api email) → Prop
  | ⟨.setup _, .deliverMethod _ _⟩ => True
  | _ => False

theorem eq_of_isDelivery {e : WholeEvent (component D order api email)} (h : IsDelivery e) :
    ∃ uid pushId snap, e = ⟨.setup uid, .deliverMethod pushId snap⟩ := by
  obtain ⟨part, e⟩ := e
  cases part with
  | setup uid =>
    cases e with
    | deliverMethod pushId snap => exact ⟨uid, pushId, snap, rfl⟩
    | deliverUser | proceed _ _ => exact h.elim
  | bag _ | likes _ | cards _ | account _ => exact h.elim

theorem isUsers_of_next {s : SetupState} {answer : List (String × Value)} {run run' : SetupRun}
    (h : run.IsUsers) (hnext : run.next s answer = some run') : run'.IsUsers := by
  cases run with
  | createCustomer | createIntent _ =>
    cases hnext
    trivial
  | set _ _ => cases hnext
  | _ => exact h.elim

theorem caught_of_isUsers {error : JsError} {run : SetupRun} (h : run.IsUsers) :
    run.caught error = none := by
  cases run with
  | createCustomer | createIntent _ | set _ _ => rfl
  | _ => exact h.elim

/-- A run of `createStripeCustomer` writes the customer's document alone. -/
theorem lookup_effect_of_isUsers {api : StripeSetup} {uid : String} {email : Option String}
    {s : SetupState} {run : SetupRun} (h : run.IsUsers) {p : Path}
    (hp : p ≠ stripeCustomerRef uid) :
    (run.effect api uid email s).store.lookup p = s.store.lookup p := by
  cases run with
  | createCustomer | createIntent _ => rfl
  | set _ _ => exact Finmap.lookup_insert_of_ne _ hp
  | _ => exact h.elim

theorem isUsers_goOn {s : SetupState}
    (hruns : ∀ m run, s.runs.running m = some run → run.IsUsers) {n : ℕ} {run : SetupRun}
    (hrun : s.runs.running n = some run) {next : Option SetupRun}
    (hnext : ∀ run' ∈ next, run'.IsUsers) :
    ∀ m run', (s.goOn n next).runs.running m = some run' → run'.IsUsers := by
  intro m run' hrun'
  cases next with
  | none => exact hruns m run' (InFlight.finish_cases hrun').2
  | some next =>
    rcases InFlight.put_cases hrun hrun' with ⟨-, rfl⟩ | ⟨-, hother⟩
    · exact hnext _ rfl
    · exact hruns m run' hother

theorem ne_customer_of_triggers {p : Path} (h : Triggers p) (uid : String) :
    p ≠ stripeCustomerRef uid := by
  obtain ⟨uid', pushId, rfl | rfl⟩ := shape_of_triggers h
  · simp [stripePaymentMethodRef, stripePaymentMethodsRef, stripeCustomerRef]
  · simp [stripePaymentRef, stripeCustomerRef]

/-- A step of the setup without a delivery: the runs stay those of `createStripeCustomer`, and
the triggers match what they did. -/
theorem untriggered_setupStep {api : StripeSetup} {uid : String} {email : Option String}
    {s s' : SetupState} {e : SetupEvent}
    (hruns : ∀ n run, s.runs.running n = some run → run.IsUsers)
    (he : ∀ pushId snap, e ≠ .deliverMethod pushId snap)
    (hstep : setupStep api uid email s e = some s') :
    (∀ n run, s'.runs.running n = some run → run.IsUsers) ∧
      ∀ p, Triggers p → s'.store.lookup p = s.store.lookup p := by
  cases e with
  | deliverMethod pushId snap => exact absurd rfl (he pushId snap)
  | deliverUser =>
    cases hstep
    refine ⟨fun n run hrun => ?_, fun _ _ => rfl⟩
    rcases InFlight.start_cases hrun with ⟨-, rfl⟩ | hrun
    · trivial
    · exact hruns n run hrun
  | proceed n outcome =>
    obtain ⟨run, hrun, rfl⟩ := Option.map_eq_some_iff.mp hstep
    have husers := hruns n run hrun
    have heffect : ∀ p, Triggers p →
        (run.effect api uid email s).store.lookup p = s.store.lookup p :=
      fun p hp => lookup_effect_of_isUsers husers (ne_customer_of_triggers hp uid)
    have hsame := run.effect_runs api uid email s
    have hafter : ∀ m run', (run.effect api uid email s).runs.running m = some run' →
        run'.IsUsers := by
      rw [hsame]
      exact hruns
    have hrun' : (run.effect api uid email s).runs.running n = some run := by
      rw [hsame]
      exact hrun
    cases outcome with
    | done answer =>
      constructor
      · exact isUsers_goOn (s := { run.effect api uid email s with
          completed := s.completed || run.isSet }) hafter hrun' fun _ => isUsers_of_next husers
      · intro p hp
        rw [proceedSetup, store_goOn]
        exact heffect p hp
    | failed landed error =>
      rw [proceedSetup, caught_of_isUsers husers]
      cases landed with
      | false => exact ⟨isUsers_goOn hruns hrun fun _ h => (by cases h), fun p hp => rfl⟩
      | true =>
        constructor
        · exact isUsers_goOn hafter hrun' fun _ h => (by cases h)
        · intro p hp
          rw [store_goOn]
          exact heffect p hp

theorem owner_of_triggers {p : Path} (h : Triggers p) :
    (∃ uid, owner p = some (.setup uid)) ∨ owner p = none := by
  obtain ⟨uid, pushId, rfl | rfl⟩ := shape_of_triggers h
  · exact Or.inl ⟨uid, rfl⟩
  · exact Or.inr rfl

/-- **A step that delivers nothing keeps it so.** -/
theorem untriggered_step {s s' : Whole (component D order api email)}
    {e : WholeEvent (component D order api email)} (hs : Sound (footprint D order api email) s)
    (h : Untriggered s) (he : ¬ IsDelivery e) (hstep : wholeStep _ s e = some s') :
    Untriggered s' := by
  obtain ⟨part, e⟩ := e
  have hframe := agree_of_step hs hstep
  rw [footprint_writes] at hframe
  obtain ⟨q, hq, rfl⟩ := wholeStep_iff.mp hstep
  by_cases hpart : ∃ uid, part = .setup uid
  · obtain ⟨uid, rfl⟩ := hpart
    obtain ⟨hruns, hdocuments⟩ := untriggered_setupStep (s := s.view (.setup uid)) (h.runs uid)
      (fun pushId snap hsame => he (by subst hsame; trivial)) hq
    constructor
    · intro p hp
      refine (hdocuments p hp).trans ?_
      exact h.documents p hp
    · intro uid' n run hrun
      by_cases huid : Part.setup uid' = .setup uid
      · cases huid
        rw [setupRuns, view_update_self] at hrun
        exact hruns n run hrun
      · rw [setupRuns, view_update_of_ne huid] at hrun
        exact h.runs uid' n run hrun
  · constructor
    · intro p hp
      refine (hframe p fun hown => ?_).trans (h.documents p hp)
      -- what the triggers match belongs to the setup or to nobody
      rcases owner_of_triggers hp with ⟨uid, howner⟩ | howner
      · exact hpart ⟨uid, Option.some.inj (hown.symm.trans howner)⟩
      · rw [mem_territory, howner] at hown
        cases hown
    · intro uid n run hrun
      have hne : Part.setup uid ≠ part := fun hsame => hpart ⟨uid, hsame.symm⟩
      rw [setupRuns, view_update_of_ne hne] at hrun
      exact h.runs uid n run hrun

end

/-- **The triggers on documents never fire.**  Start from a store without documents that they
match, and let the creation of a payment method be delivered only if its document is there,
or has been.  Then no run of the whole ever holds a document that a trigger matches, and
nothing is ever delivered: `addPaymentMethodDetails`, `createStripePayment` and
`confirmStripePayment` do not run. -/
theorem triggers_never_fire (D : Type) [DecidableEq D] (order : String → String)
    (api : String → StripeSetup) (email : String → Option String) (store : Firestore)
    (hstore : ∀ p, Triggers p → store.lookup p = none)
    (es : List (WholeEvent (component D order api email)))
    (hdelivered : ∀ k uid pushId snap, es[k]? = some ⟨.setup uid, .deliverMethod pushId snap⟩ →
      ∃ j s, j ≤ k ∧
        run (wholeStep _) (wholeInitial D order api email store) (es.take j) = some s ∧
        (s.store.lookup (stripePaymentMethodRef uid pushId)).isSome) :
    (∀ k s, run (wholeStep _) (wholeInitial D order api email store) (es.take k) = some s →
      ∀ p, Triggers p → s.store.lookup p = none) ∧
    ∀ uid pushId snap, ⟨.setup uid, .deliverMethod pushId snap⟩ ∉ es := by
  -- by induction on the length of the prefix: what has been delivered has been there before
  have hall : ∀ k s,
      run (wholeStep _) (wholeInitial D order api email store) (es.take k) = some s →
        Sound (footprint D order api email) s ∧ Untriggered s := by
    intro k
    induction k using Nat.strong_induction_on with
    | _ k ih =>
      intro s hs
      cases k with
      | zero =>
        cases hs
        exact ⟨sound_wholeInitial store, hstore, fun uid n run hrun => by cases hrun⟩
      | succ k =>
        by_cases hk : k < es.length
        · rw [List.take_succ_eq_append_getElem hk, run_append_iff] at hs
          obtain ⟨s₁, hs₁, hstep⟩ := hs
          obtain ⟨s₂, hstep, hlast⟩ := (run_cons_iff _).mp hstep
          cases hlast
          obtain ⟨hsound, huntriggered⟩ := ih k (Nat.lt_succ_self k) s₁ hs₁
          refine ⟨sound_step hsound hstep, untriggered_step hsound huntriggered ?_ hstep⟩
          intro hdelivery
          obtain ⟨uid, pushId, snap, he⟩ := eq_of_isDelivery hdelivery
          obtain ⟨j, s', hj, hs', hsome⟩ := hdelivered k uid pushId snap
            (by rw [List.getElem?_eq_getElem hk, he])
          have hnone := (ih j (Nat.lt_succ_of_le hj) s' hs').2.documents
            (stripePaymentMethodRef uid pushId) (Or.inl rfl)
          rw [hnone] at hsome
          cases hsome
        · have htake : es.take (k + 1) = es.take k := by
            rw [List.take_of_length_le (by omega), List.take_of_length_le (by omega)]
          rw [htake] at hs
          exact ih k (Nat.lt_succ_self k) s hs
  refine ⟨fun k s hs => (hall k s hs).2.documents, fun uid pushId snap hmem => ?_⟩
  obtain ⟨k, hk, he⟩ := List.getElem_of_mem hmem
  obtain ⟨j, s, hj, hs, hsome⟩ := hdelivered k uid pushId snap
    (by rw [List.getElem?_eq_getElem hk, he])
  rw [(hall j s hs).2.documents _ (Or.inl rfl)] at hsome
  cases hsome

theorem triggers_never_fire_eva :
    (∀ k s, run (wholeStep _) (wholeInitial Bool (fun _ => "bag") (fun _ => numberedSetup)
        (fun _ => none) ∅) (evasAndBensEvents.take k) = some s →
      ∀ p, Triggers p → s.store.lookup p = none) ∧
    ∀ uid pushId snap,
      (⟨.setup uid, SetupEvent.deliverMethod pushId snap⟩ : SampleEvent) ∉ evasAndBensEvents := by
  refine triggers_never_fire Bool _ _ _ ∅ (fun p _ => Finmap.lookup_empty p) evasAndBensEvents ?_
  have hnone : ∀ e ∈ evasAndBensEvents, ¬ IsDelivery e := by
    simp [evasAndBensEvents, IsDelivery]
  intro k uid pushId snap hk
  exact absurd trivial (hnone _ (List.mem_of_getElem? hk))

end Lidora
