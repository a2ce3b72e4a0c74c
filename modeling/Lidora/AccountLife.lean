import Lidora.CustomerSetup

/-! # A user's creation and deletion

A user's customer of Stripe is made by `createStripeCustomer` and deleted by `cleanupUser`,
which are triggered by the user's creation and deletion.  Either event may be delivered again,
any call may fail, and the runs of both move in between, call by call: `lifeStep` puts the runs
of `cleanupUser` on top of `setupStep`, which has those of `createStripeCustomer` and
`addPaymentMethodDetails`.

The deletes of the payment methods are sent off without waiting for them, so they come about at
any time, or not at all.  Left alone, the parts of a run of `cleanupUser` are `cleanupUser`
(`run_cleanupEvents`).
-/
namespace Lidora
open DocumentStore Runs

/-- A run of `cleanupUser`, by the call that it waits for. -/
inductive CleanupRun where
  /-- `get` of the customer's document. -/
  | get
  /-- `stripe.customers.del`. -/
  | del (customerId : Option Value)
  /-- `get` of the payment methods. -/
  | query
  /-- `delete` of the customer's document. -/
  | delete

/-- A user's documents and customers, and the runs of both functions. -/
structure AccountLife where
  setup : SetupState
  /-- The ids of the customers that Stripe has deleted. -/
  deleted : List (Option Value)
  cleanups : InFlight CleanupRun
  /-- The deletes of payment methods, which nobody waits for. -/
  deletes : List Path

inductive LifeEvent where
  | setup (e : SetupEvent)
  /-- The deletion event of the user is delivered. -/
  | deliverDeletion
  /-- What run `n` of `cleanupUser` waits for comes about, or fails. -/
  | cleanup (n : ℕ) (outcome : CallOutcome Unit)
  /-- A payment method is deleted, or not. -/
  | methodDeleted (k : ℕ) (ok : Bool)

section
variable (api : StripeSetup) (uid : String) (email : Option String)

/-- The store becomes another. -/
def AccountLife.withStore (s : AccountLife) (store : Firestore) : AccountLife :=
  { s with setup := { s.setup with store := store } }

/-- What a call of `cleanupUser` does when it takes effect. -/
def CleanupRun.effect (s : AccountLife) : CleanupRun → AccountLife
  | .del id => { s with deleted := id :: s.deleted }
  | .delete => s.withStore (s.setup.store.erase (stripeCustomerRef uid))
  | .get | .query => s

/-- The deletes that are sent off once a call has succeeded. -/
def CleanupRun.sends (s : AccountLife) : CleanupRun → List Path
  | .query => s.setup.store.documents (stripePaymentMethodsRef uid)
  | .get | .del _ | .delete => []

/-- What a run waits for after a call that has succeeded; without a document, the
customer's id cannot be read, and the run throws. -/
def CleanupRun.next (s : AccountLife) : CleanupRun → Option CleanupRun
  | .get => (s.setup.store.lookup (stripeCustomerRef uid)).map fun d => .del (d "customer_id")
  | .del _ => some .query
  | .query => some .delete
  | .delete => none

/-- The run goes on, or ends. -/
def AccountLife.goOn (s : AccountLife) (n : ℕ) : Option CleanupRun → AccountLife
  | some run => { s with cleanups := s.cleanups.put n run }
  | none => { s with cleanups := s.cleanups.finish n }

/-- One part of a run of `cleanupUser`, which catches nothing. -/
def proceedCleanup (s : AccountLife) (n : ℕ) (run : CleanupRun) : CallOutcome Unit → AccountLife
  | .done () =>
    ({ run.effect uid s with deletes := s.deletes ++ run.sends uid s }).goOn n (run.next uid s)
  | .failed landed _ => (if landed then run.effect uid s else s).goOn n none

def lifeStep (s : AccountLife) : LifeEvent → Option AccountLife
  | .setup e => (setupStep api uid email s.setup e).map fun setup => { s with setup := setup }
  | .deliverDeletion => some { s with cleanups := s.cleanups.start .get }
  | .cleanup n outcome =>
    (s.cleanups.running n).map fun run => proceedCleanup uid s n run outcome
  | .methodDeleted k ok =>
    s.deletes[k]?.map fun p =>
      { s.withStore (if ok then s.setup.store.erase p else s.setup.store) with
        deletes := s.deletes.eraseIdx k }

/-- Nothing has been delivered. -/
def AccountLife.initial (store : Firestore) : AccountLife :=
  ⟨SetupState.initial store, [], InFlight.empty, []⟩

end

/-! ## A run of `cleanupUser` that nothing comes between -/

/-- What comes of a read. -/
def CallOutcome.ofRead : Option JsError → CallOutcome Unit
  | none => .done ()
  | some error => .failed false error

/-- A run of `cleanupUser`, number `n`, from its delivery to its end. -/
def cleanupEvents (uid : String) (n : ℕ) (calls : CleanupCalls) (s : Backend) : List LifeEvent :=
  let get := [.deliverDeletion, .cleanup n (.ofRead calls.get)]
  match calls.get, s.store.lookup (stripeCustomerRef uid) with
  | none, some customer =>
    let del := get ++ [.cleanup n (calls.del (customer "customer_id"))]
    match calls.del (customer "customer_id"), calls.query with
    | .done (), none =>
      del ++ [.cleanup n (.ofRead calls.query)] ++
        (s.store.documents (stripePaymentMethodsRef uid)).map
          (fun p => .methodDeleted 0 (calls.deletes p)) ++
        [.cleanup n calls.delete]
    | .done (), some _ => del ++ [.cleanup n (.ofRead calls.query)]
    | .failed _ _, _ => del
  | _, _ => get

/-- Firestore's documents and Stripe's deleted customers. -/
def AccountLife.backend (s : AccountLife) : Backend := ⟨s.setup.store, s.deleted⟩

section
variable {api : StripeSetup} {uid : String} {email : Option String}

/-- The deletes are carried out or not, in order. -/
theorem run_methodDeleted (deletes : Path → Bool) (s : AccountLife) :
    run (lifeStep api uid email) s (s.deletes.map fun p => .methodDeleted 0 (deletes p)) =
      some { s.withStore (eraseAll s.setup.store (s.deletes.filter deletes)) with deletes := [] } := by
  obtain ⟨setup, deleted, cleanups, ps⟩ := s
  induction ps generalizing setup with
  | nil => rfl
  | cons p ps ih =>
    rw [List.map_cons, run]
    have hstep : lifeStep api uid email ⟨setup, deleted, cleanups, p :: ps⟩
        (.methodDeleted 0 (deletes p)) =
        some ⟨{ setup with
          store := if deletes p then setup.store.erase p else setup.store }, deleted, cleanups, ps⟩ :=
      rfl
    rw [hstep, Option.bind_some, ih]
    cases hp : deletes p with
    | true => simp [AccountLife.withStore, eraseAll, hp]
    | false => simp [AccountLife.withStore, eraseAll, hp]

/-- **Alone, a run of `cleanupUser` leaves what `cleanupUser` says.** -/
theorem run_cleanupEvents (calls : CleanupCalls) (s : AccountLife) (hnone : s.deletes = []) :
    (run (lifeStep api uid email) s
        (cleanupEvents uid s.cleanups.started calls s.backend)).map AccountLife.backend =
      some (cleanupUser uid calls s.backend).backend := by
  obtain ⟨setup, deleted, cleanups, deletes⟩ := s
  obtain rfl : deletes = [] := hnone
  have hget := cleanups.start_self CleanupRun.get
  cases hread : calls.get with
  | some error =>
    simp [cleanupEvents, cleanupUser, hread, run, lifeStep, proceedCleanup, CallOutcome.ofRead,
      AccountLife.goOn, AccountLife.backend]
  | none =>
    cases hd : setup.store.lookup (stripeCustomerRef uid) with
    | none =>
      simp [cleanupEvents, cleanupUser, hread, hd, run, lifeStep, proceedCleanup,
        CallOutcome.ofRead, CleanupRun.effect, CleanupRun.sends, CleanupRun.next, AccountLife.goOn,
        AccountLife.backend]
    | some d =>
      have hdel := InFlight.put_self hget (.del (d "customer_id"))
      cases hanswer : calls.del (d "customer_id") with
      | failed landed error =>
        cases landed <;>
        · simp [cleanupEvents, cleanupUser, hread, hd, hanswer, hdel, run, lifeStep,
            proceedCleanup, CallOutcome.ofRead, CleanupRun.effect, CleanupRun.sends,
            CleanupRun.next, AccountLife.goOn, AccountLife.backend, Backend.deleting]
      | done answer =>
        have hquery := InFlight.put_self hdel .query
        cases hmethods : calls.query with
        | some error =>
          simp [cleanupEvents, cleanupUser, hread, hd, hanswer, hmethods, hdel, hquery, run,
            lifeStep, proceedCleanup, CallOutcome.ofRead, CleanupRun.effect, CleanupRun.sends,
            CleanupRun.next, AccountLife.goOn, AccountLife.backend, Backend.deleting]
        | none =>
          have hdelete := InFlight.put_self hquery .delete
          -- the run up to the query, with the deletes that it sends off
          let sent : AccountLife := ⟨setup, d "customer_id" :: deleted,
            (((cleanups.start .get).put cleanups.started (.del (d "customer_id"))).put
              cleanups.started .query).put cleanups.started .delete,
            setup.store.documents (stripePaymentMethodsRef uid)⟩
          have hsent : run (lifeStep api uid email) ⟨setup, deleted, cleanups, []⟩
              [.deliverDeletion, .cleanup cleanups.started (.done ()),
                .cleanup cleanups.started (.done ()), .cleanup cleanups.started (.done ())] =
              some sent := by
            simp [run, lifeStep, proceedCleanup, CleanupRun.effect, CleanupRun.sends,
              CleanupRun.next, AccountLife.goOn, hd, hdel, hquery, sent]
          have hrun : ∀ t, lifeStep api uid email { sent.withStore (eraseAll setup.store
                (sent.deletes.filter calls.deletes)) with deletes := [] }
                (.cleanup cleanups.started calls.delete) = some t →
              run (lifeStep api uid email) ⟨setup, deleted, cleanups, []⟩
                (cleanupEvents uid cleanups.started calls
                  (AccountLife.backend ⟨setup, deleted, cleanups, []⟩)) = some t := by
            intro t ht
            have hevents : cleanupEvents uid cleanups.started calls
                (AccountLife.backend ⟨setup, deleted, cleanups, []⟩) =
                [.deliverDeletion, .cleanup cleanups.started (.done ()),
                  .cleanup cleanups.started (.done ()), .cleanup cleanups.started (.done ())] ++
                sent.deletes.map (fun p => .methodDeleted 0 (calls.deletes p)) ++
                [.cleanup cleanups.started calls.delete] := by
              simp [cleanupEvents, hread, hd, hanswer, hmethods, CallOutcome.ofRead,
                AccountLife.backend, sent]
            rw [hevents, run_append_iff]
            refine ⟨_, (run_append_iff _).mpr ⟨sent, hsent, run_methodDeleted calls.deletes sent⟩, ?_⟩
            exact (run_cons_iff _).mpr ⟨t, ht, rfl⟩
          cases hlast : calls.delete with
          | done answer =>
            rw [hrun _ (by
              rw [hlast]
              simp only [lifeStep, AccountLife.withStore, sent, hdelete, Option.map_some]
              rfl)]
            simp [cleanupUser, hread, hd, hanswer, hmethods, hlast, proceedCleanup,
              CleanupRun.effect, CleanupRun.next, AccountLife.goOn, AccountLife.backend,
              AccountLife.withStore, Backend.deleting, Backend.emptied]
          | failed landed error =>
            rw [hrun _ (by
              rw [hlast]
              simp only [lifeStep, AccountLife.withStore, sent, hdelete, Option.map_some]
              rfl)]
            cases landed <;>
            · simp [cleanupUser, hread, hd, hanswer, hmethods, hlast, proceedCleanup,
                CleanupRun.effect, AccountLife.goOn, AccountLife.backend, AccountLife.withStore,
                Backend.deleting, Backend.emptied]

end

end Lidora
