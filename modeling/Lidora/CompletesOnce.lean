import Lidora.AllOrNothing
import Lidora.CustomerCharge

/-! # Exactly one completion

A caller that shows a loading state waits for its completion handler to be called, once,
when every request has been answered.  None of the seven one-shot operations does so in
all cases: a document that is absent, or a guard, ends most of them in silence; a query or
a verification that fails takes `clearOrder` and `createAccount` down; `emailLogin` and
`placeOrder` never report a read that fails; and `addItemToOrder` reports one twice.

`once_iff` says exactly when each of them is right: for arguments that it can start with
(`OneShot.Starts`), and answers that are all good (`OneShot.Good`).
-/
namespace Lidora
open Callbacks

/-- The one-shot operations, with their arguments. -/
inductive OneShot where
  | fetchUser
  | fetchPrimaryPaymentMethod (cardId : String)
  | addItemToOrder (c : AddCall)
  | clearOrder (orderId : String)
  | placeOrder (order : Order) (card : Card) (created : String)
  | emailLogin (email pwd : String)
  | createAccount (firstName lastName email phone pwd : String)

namespace OneShot

/-- The operation, with a handler of its caller's. -/
def operation (currentUser : Option UserId) : OneShot → Operation
  | fetchUser => DataService.fetchUser currentUser fun user error => .finish (.user user error)
  | fetchPrimaryPaymentMethod cardId =>
    DataService.fetchPrimaryPaymentMethod currentUser cardId fun card error =>
      .finish (.card card error)
  | addItemToOrder c => DataService.addItemToOrder currentUser c
  | clearOrder orderId => DataService.clearOrder currentUser orderId
  | placeOrder order card created => DataService.placeOrder currentUser order card created
  | emailLogin email pwd => AuthService.emailLogin email pwd
  | createAccount firstName lastName email phone pwd =>
    AuthService.createAccount firstName lastName email phone pwd

/-- The arguments pass the guards, and someone is signed in. -/
def Starts (currentUser : Option UserId) : OneShot → Prop
  | fetchUser => currentUser.isSome
  | fetchPrimaryPaymentMethod cardId => currentUser.isSome ∧ NamesDocument cardId
  | addItemToOrder c =>
    c.guard.isSome ∧ currentUser.isSome ∧ NamesDocument c.orderId ∧ NamesDocument c.item.id
  | clearOrder orderId => currentUser.isSome ∧ NamesDocument orderId
  | placeOrder order card _ =>
    currentUser.isSome ∧ NamesDocument order.id ∧ order.providerId.isSome ∧
      order.providerName.isSome ∧ card.params.isSome
  | emailLogin _ _ | createAccount _ _ _ _ _ => True

/-- The answers to a read with which the operation goes on to its handler. -/
def GoodSnapshot : OneShot → Except NSError (Option Doc) → Prop
  | fetchUser, response | fetchPrimaryPaymentMethod _, response => response ≠ .ok none
  | emailLogin _ _, response => ∃ data, response = .ok (some data)
  | placeOrder _ _ _, response =>
    ∃ data, response = .ok (some data) ∧ (data.double "subtotal").isSome ∧
      (data.double "total").isSome
  | _, _ => True

/-- The same for the reads of a transaction: they do not fail, and the block does not trap
on the documents. -/
def GoodRead : OneShot → Except FirestoreErrorCode (Option Doc × Option Doc) → Prop
  | addItemToOrder c, response =>
    ∃ documents, response = .ok documents ∧ ¬ BlockTraps c documents.1 documents.2
  | _, _ => True

/-- The answer leads on to the handler. -/
def Good (op : OneShot) : (q : Request) × q.Response → Prop
  | ⟨.getDocument _, response⟩ => op.GoodSnapshot response
  | ⟨.getDocuments _, response⟩ =>
    ∃ documents, (response : Except NSError (List Path)) = .ok documents
  | ⟨.transactionGet _ _, response⟩ => op.GoodRead response
  | ⟨.signIn _ _, response⟩ | ⟨.createUser _ _, response⟩ =>
    (response : Except NSError (Option UserId)) ≠ .ok none
  | ⟨.verifyPhoneNumber _, response⟩ => (response : Except NSError (Option String)) ≠ .ok none
  | _ => True

end OneShot

/-! ## References -/

section
variable {P : (q : Request) × q.Response → Prop} {S : Prop}

/-- A reference that is built leads on, and an exception takes the app down. -/
theorem onceWhen_withReference {ref : Option Path} {next : Path → Operation}
    (h : ∀ path, (next path).OnceWhen S P) :
    (Operation.withReference ref next).OnceWhen (ref.isSome ∧ S) P := by
  cases ref with
  | none => exact .guard (fun hsome => Bool.noConfusion hsome) fun _ => Flow.never_trap
  | some path => exact .guard (fun _ => h path) fun hnot => absurd rfl hnot

theorem document_isSome_iff {collection : Path} {path : String} :
    (document collection path).isSome ↔ NamesDocument path := by
  unfold document
  split <;> simp_all

theorem refCurrentUser_isSome_iff {currentUser : Option UserId} :
    (DataService.refCurrentUser currentUser).isSome ↔ currentUser.isSome := by
  cases currentUser with
  | none => exact iff_of_false (by decide) (by decide)
  | some uid => simp [DataService.refCurrentUser]

theorem onceIf_finish (r : Completed) : (Operation.finish r).OnceIf P := Flow.onceIf_complete r

theorem onceIf_finishWith (error : Option NSError) : (Operation.finishWith error).OnceIf P := by
  cases error <;> exact onceIf_finish _

end

/-! ## The operations, one by one -/

section
variable (currentUser : Option UserId)

theorem onceWhen_fetchUser :
    (OneShot.fetchUser.operation currentUser).OnceWhen (OneShot.fetchUser.Starts currentUser)
      OneShot.fetchUser.Good := by
  refine (onceWhen_withReference (S := True) fun ref => ?_).congr ?_
  · refine (Flow.onceIf_ask ?_ ?_).onceWhen
    · rintro (error | _ | data) hgood
      · exact onceIf_finish _
      · exact absurd rfl hgood
      · exact onceIf_finish _
    · rintro (error | _ | data) hbad
      · exact absurd nofun hbad
      · exact Flow.never_stop
      · exact absurd nofun hbad
  · rw [and_true, refCurrentUser_isSome_iff]
    rfl

theorem onceWhen_fetchPrimaryPaymentMethod (cardId : String) :
    ((OneShot.fetchPrimaryPaymentMethod cardId).operation currentUser).OnceWhen
      ((OneShot.fetchPrimaryPaymentMethod cardId).Starts currentUser)
      (OneShot.fetchPrimaryPaymentMethod cardId).Good := by
  refine (onceWhen_withReference (S := NamesDocument cardId) fun user => ?_).congr ?_
  · refine (onceWhen_withReference (S := True) fun ref => ?_).congr ?_
    · refine (Flow.onceIf_ask ?_ ?_).onceWhen
      · rintro (error | _ | data) hgood
        · exact onceIf_finish _
        · exact absurd rfl hgood
        · exact onceIf_finish _
      · rintro (error | _ | data) hbad
        · exact absurd nofun hbad
        · exact Flow.never_stop
        · exact absurd nofun hbad
    · rw [and_true, document_isSome_iff]
  · rw [refCurrentUser_isSome_iff]
    rfl

theorem onceWhen_clearOrder (orderId : String) :
    ((OneShot.clearOrder orderId).operation currentUser).OnceWhen
      ((OneShot.clearOrder orderId).Starts currentUser) (OneShot.clearOrder orderId).Good := by
  refine (onceWhen_withReference (S := NamesDocument orderId) fun user => ?_).congr ?_
  · refine (onceWhen_withReference (S := True) fun ref => ?_).congr ?_
    · refine (Flow.onceIf_ask ?_ ?_).onceWhen
      · rintro (error | documents) hgood
        · obtain ⟨documents, hdocuments⟩ := hgood
          cases hdocuments
        · -- the items' deletes are sent, however many there are
          induction documents with
          | nil =>
            exact Flow.onceIf_ask (fun error _ => onceIf_finishWith error)
              fun error hbad => absurd trivial hbad
          | cons item documents ih => exact (ih ⟨documents, rfl⟩).send _
      · rintro (error | documents) hbad
        · exact Flow.never_trap
        · exact absurd ⟨documents, rfl⟩ hbad
    · rw [and_true, document_isSome_iff]
  · rw [refCurrentUser_isSome_iff]
    rfl

/-- Every attempt of the transaction calls the handler, or traps, as does what follows. -/
theorem loud_addItemAttempt (c : AddCall) (e : AddEntry) (ref itemRef : Path)
    {failed : FirestoreErrorCode → Operation} (hfailed : ∀ error, (failed error).Loud) :
    (DataService.addItemAttempt c e ref itemRef failed).Loud := by
  refine Flow.loud_ask ?_
  rintro (error | ⟨order, item⟩)
  · exact Flow.loud_complete _ _
  · simp only
    split
    · exact Flow.loud_trap
    · refine Flow.loud_ask ?_
      rintro (_ | error)
      · exact Flow.loud_complete _ _
      · exact hfailed error

/-- One attempt: the reads are good, or they are reported twice, or the block traps. -/
theorem onceIf_addItemAttempt {c : AddCall} {e : AddEntry} (he : c.guard = some e)
    (ref itemRef : Path) {failed : FirestoreErrorCode → Operation}
    (hloud : ∀ error, (failed error).Loud)
    (hfailed : ∀ error, (failed error).OnceIf (OneShot.addItemToOrder c).Good) :
    (DataService.addItemAttempt c e ref itemRef failed).OnceIf
      (OneShot.addItemToOrder c).Good := by
  refine Flow.onceIf_ask ?_ ?_
  · rintro (error | ⟨order, item⟩) ⟨documents, hdocuments, hblock⟩
    · cases hdocuments
    · cases hdocuments
      simp only
      split
      · rename_i hnone
        exact absurd ((addItemBlock_cases he ref itemRef order item).eq_none_iff.mp hnone) hblock
      · refine Flow.onceIf_ask ?_ fun error hbad => absurd trivial hbad
        rintro (_ | error) -
        · exact onceIf_finish _
        · exact hfailed error
  · rintro (error | ⟨order, item⟩) hbad
    · exact Flow.never_complete (hloud error)
    · have htraps : BlockTraps c order item := by
        by_contra hnot
        exact hbad ⟨(order, item), rfl, hnot⟩
      simp only [(addItemBlock_cases he ref itemRef order item).eq_none_iff.mpr htraps]
      exact Flow.never_trap

/-- The whole transaction, by induction on the retries that are left. -/
theorem onceIf_addItemTransaction {c : AddCall} {e : AddEntry} (he : c.guard = some e)
    (ref itemRef : Path) (retriesLeft : ℕ) :
    (DataService.addItemTransaction c e ref itemRef retriesLeft).Loud ∧
      (DataService.addItemTransaction c e ref itemRef retriesLeft).OnceIf
        (OneShot.addItemToOrder c).Good := by
  induction retriesLeft with
  | zero =>
    exact ⟨loud_addItemAttempt c e ref itemRef fun _ => Flow.loud_complete _ _,
      onceIf_addItemAttempt he ref itemRef (fun _ => Flow.loud_complete _ _)
        fun _ => onceIf_finish _⟩
  | succ retriesLeft ih =>
    have hloud : ∀ error : FirestoreErrorCode,
        (if error.isRetryableTransactionError then
          DataService.addItemTransaction c e ref itemRef retriesLeft
        else .finish (.done false (some (.firestore error)))).Loud := by
      intro error
      split
      · exact ih.1
      · exact Flow.loud_complete _ _
    refine ⟨loud_addItemAttempt c e ref itemRef hloud,
      onceIf_addItemAttempt he ref itemRef hloud fun error => ?_⟩
    split
    · exact ih.2
    · exact onceIf_finish _

theorem onceWhen_addItemToOrder (c : AddCall) :
    ((OneShot.addItemToOrder c).operation currentUser).OnceWhen
      ((OneShot.addItemToOrder c).Starts currentUser) (OneShot.addItemToOrder c).Good := by
  refine Flow.OnceWhen.guard (fun hguard => ?_) fun hnot => ?_
  · obtain ⟨e, he⟩ := Option.isSome_iff_exists.mp hguard
    simp only [OneShot.operation, DataService.addItemToOrder, he]
    refine (onceWhen_withReference (S := NamesDocument c.orderId ∧ NamesDocument c.item.id)
      fun user => ?_).congr (by rw [refCurrentUser_isSome_iff])
    refine (onceWhen_withReference (S := NamesDocument c.item.id) fun ref => ?_).congr
      (by rw [document_isSome_iff])
    refine (onceWhen_withReference (S := True) fun itemRef => ?_).congr
      (by rw [document_isSome_iff, and_true])
    exact (onceIf_addItemTransaction he ref itemRef _).2.onceWhen
  · rw [Option.not_isSome_iff_eq_none] at hnot
    simp only [OneShot.operation, DataService.addItemToOrder, hnot]
    exact Flow.never_stop

theorem onceIf_completeCharge {op : OneShot} {uid : UserId} (c : Charge) (created : String) :
    (DataService.completeCharge (some uid) c created fun _ _ error => .finishWith error).OnceIf
      op.Good := by
  refine Flow.onceIf_ask ?_ fun response hbad => absurd trivial hbad
  rintro ⟨_ | token, _ | error⟩ -
  · exact onceIf_finishWith _
  · exact onceIf_finishWith _
  · simp only [DataService.refCurrentUser, Option.map_some, Option.getD_some,
      document_segmentId, Operation.withReference]
    refine Flow.onceIf_ask ?_ fun response hbad => absurd trivial hbad
    rintro (_ | error) -
    · exact onceIf_finishWith _
    · exact onceIf_finishWith _
  · exact onceIf_finishWith _

/-- The read of `placeOrder` leads to a token request where it finds both amounts, for an
order with a provider and a card with all four fields. -/
theorem exists_charge_iff {order : Order} {card : Card} {snapshot : Option Doc} :
    (∃ c, readBag order card snapshot = .charge c) ↔
      (∃ data, snapshot = some data ∧ (data.double "subtotal").isSome ∧
        (data.double "total").isSome) ∧
      order.providerId.isSome ∧ order.providerName.isSome ∧ card.params.isSome := by
  constructor
  · rintro ⟨c, hc⟩
    obtain ⟨data, hdata, hsubtotal, htotal, hid, hname, hparams⟩ := readBag_charge hc
    refine ⟨⟨data, hdata, ?_, ?_⟩, ?_, ?_, ?_⟩ <;> simp [*]
  · rintro ⟨⟨data, rfl, hsubtotal, htotal⟩, hid, hname, hparams⟩
    obtain ⟨subtotal, hsubtotal⟩ := Option.isSome_iff_exists.mp hsubtotal
    obtain ⟨total, htotal⟩ := Option.isSome_iff_exists.mp htotal
    obtain ⟨id, hid⟩ := Option.isSome_iff_exists.mp hid
    obtain ⟨name, hname⟩ := Option.isSome_iff_exists.mp hname
    obtain ⟨params, hparams⟩ := Option.isSome_iff_exists.mp hparams
    exact ⟨_, by simp only [readBag, hsubtotal, htotal, hid, hname, hparams]; rfl⟩

/-- Without a token request, `placeOrder` ends in silence or in a trap. -/
theorem never_of_no_charge {order : Order} {card : Card} {snapshot : Option Doc}
    {next : Charge → Operation} (h : ¬ ∃ c, readBag order card snapshot = .charge c) :
    (match readBag order card snapshot with
      | .silent => (.stop : Operation)
      | .trapped => .trap
      | .charge c => next c).Never := by
  split
  · exact Flow.never_stop
  · exact Flow.never_trap
  · exact absurd ⟨_, ‹_›⟩ h

theorem onceWhen_placeOrder (order : Order) (card : Card) (created : String) :
    ((OneShot.placeOrder order card created).operation currentUser).OnceWhen
      ((OneShot.placeOrder order card created).Starts currentUser)
      (OneShot.placeOrder order card created).Good := by
  cases currentUser with
  | none => exact .guard (fun hsome => Bool.noConfusion hsome) fun _ => Flow.never_trap
  | some uid =>
    refine (onceWhen_withReference (S := NamesDocument order.id ∧ order.providerId.isSome ∧
      order.providerName.isSome ∧ card.params.isSome) fun user => ?_).congr
      (by rw [refCurrentUser_isSome_iff]; rfl)
    refine (onceWhen_withReference (S := order.providerId.isSome ∧
      order.providerName.isSome ∧ card.params.isSome) fun ref => ?_).congr
      (by rw [document_isSome_iff])
    constructor
    · rintro hargs
      refine Flow.onceIf_ask ?_ ?_
      · rintro (error | snapshot) ⟨data, hdata, hamounts⟩
        · cases hdata
        · cases hdata
          obtain ⟨c, hc⟩ := exists_charge_iff.mpr ⟨⟨data, rfl, hamounts⟩, hargs⟩
          simp only [hc]
          exact onceIf_completeCharge c created
      · rintro (error | snapshot) hbad
        · exact Flow.never_stop
        · refine never_of_no_charge fun hcharge => hbad ?_
          obtain ⟨⟨data, rfl, hamounts⟩, -⟩ := exists_charge_iff.mp hcharge
          exact ⟨data, rfl, hamounts⟩
    · intro hargs
      refine Flow.never_ask ?_
      rintro (error | snapshot)
      · exact Flow.never_stop
      · exact never_of_no_charge fun hcharge => hargs (exists_charge_iff.mp hcharge).2

theorem onceWhen_emailLogin (email pwd : String) :
    ((OneShot.emailLogin email pwd).operation currentUser).OnceWhen
      ((OneShot.emailLogin email pwd).Starts currentUser) (OneShot.emailLogin email pwd).Good := by
  refine (Flow.onceIf_ask ?_ ?_).onceWhen
  · rintro (error | _ | uid) hgood
    · exact onceIf_finish _
    · exact absurd rfl hgood
    · simp only [DataService.fetchUser, DataService.refCurrentUser, Option.map_some,
        Option.getD_some, document_segmentId, Operation.withReference]
      refine Flow.onceIf_ask ?_ ?_
      · rintro (error | _ | data) ⟨data', hdata⟩
        · cases hdata
        · cases hdata
        · exact onceIf_finish _
      · rintro (error | _ | data) hbad
        · exact Flow.never_stop
        · exact Flow.never_stop
        · exact absurd ⟨data, rfl⟩ hbad
  · rintro (error | _ | uid) hbad
    · exact (hbad fun h => by cases h).elim
    · exact Flow.never_stop
    · exact (hbad fun h => by cases h).elim

theorem onceWhen_createAccount (firstName lastName email phone pwd : String) :
    ((OneShot.createAccount firstName lastName email phone pwd).operation currentUser).OnceWhen
      ((OneShot.createAccount firstName lastName email phone pwd).Starts currentUser)
      (OneShot.createAccount firstName lastName email phone pwd).Good := by
  refine (Flow.onceIf_ask ?_ ?_).onceWhen
  · rintro (error | _ | user) hgood
    · exact onceIf_finish _
    · exact absurd rfl hgood
    · refine Flow.onceIf_ask ?_ ?_
      · rintro (error | _ | verificationID) hgood
        · exact onceIf_finish _
        · exact absurd rfl hgood
        · refine Flow.onceIf_ask (fun committed _ => ?_) fun committed hbad => absurd trivial hbad
          simp only [DataService.saveUserDetails, document_segmentId, Operation.withReference]
          refine Flow.onceIf_ask ?_ fun response hbad => absurd trivial hbad
          rintro (_ | error) -
          · exact onceIf_finish _
          · exact onceIf_finish _
      · rintro (error | _ | verificationID) hbad
        · exact absurd nofun hbad
        · exact Flow.never_trap
        · exact absurd nofun hbad
  · rintro (error | _ | user) hbad
    · exact absurd nofun hbad
    · exact Flow.never_stop
    · exact absurd nofun hbad

end

/-- **When an operation completes exactly once.**  For every operation and every sequence
of answers: the handler is called exactly once and nothing traps if and only if the
operation can start with its arguments and every answer that it gets is good. -/
theorem once_iff (currentUser : Option UserId) (op : OneShot) (o : Oracle Request.Response) :
    ((op.operation currentUser).run o 0).Once ↔
      op.Starts currentUser ∧ ∀ x ∈ (op.operation currentUser).answers o 0, op.Good x := by
  cases op with
  | fetchUser => exact (onceWhen_fetchUser currentUser).iff o 0
  | fetchPrimaryPaymentMethod cardId =>
    exact (onceWhen_fetchPrimaryPaymentMethod currentUser cardId).iff o 0
  | addItemToOrder c => exact (onceWhen_addItemToOrder currentUser c).iff o 0
  | clearOrder orderId => exact (onceWhen_clearOrder currentUser orderId).iff o 0
  | placeOrder order card created =>
    exact (onceWhen_placeOrder currentUser order card created).iff o 0
  | emailLogin email pwd => exact (onceWhen_emailLogin currentUser email pwd).iff o 0
  | createAccount firstName lastName email phone pwd =>
    exact (onceWhen_createAccount currentUser firstName lastName email phone pwd).iff o 0

/-! ## Nothing heard, and too much -/

/-- Every request fails with `unavailable`. -/
def offline : Oracle Request.Response
  | _, .getDocument _ => .error (.firestore .unavailable)
  | _, .getDocuments _ => .error (.firestore .unavailable)
  | _, .setMerge _ _ | _, .delete _ | _, .commitChanges _ => some (.firestore .unavailable)
  | _, .transactionGet _ _ => .error .unavailable
  | _, .commit _ => some .unavailable
  | _, .signIn _ _ | _, .createUser _ _ => .error (.other "network error")
  | _, .verifyPhoneNumber _ => .error (.other "network error")
  | _, .createToken _ => (none, some (.other "network error"))

/-- **Offline, no operation on the bag completes once.**  `addItemToOrder` reports each of
its six attempts and then the transaction, `clearOrder` traps, and `placeOrder` is never
heard of again. -/
theorem offline_bag :
    ((OneShot.addItemToOrder soupCall).operation (some sampleUser)).run offline 0 =
      ⟨List.replicate 7 (.done false (some (.firestore .unavailable))), false⟩ ∧
    ((OneShot.clearOrder "bag").operation (some sampleUser)).run offline 0 = ⟨[], true⟩ ∧
    ((OneShot.placeOrder sampleOrder sampleCard "today").operation (some sampleUser)).run
      offline 0 = ⟨[], false⟩ ∧
    ¬ ∀ (op : OneShot) (currentUser : Option UserId) (o : Oracle Request.Response),
      ((op.operation currentUser).run o 0).Once := by
  refine ⟨by decide +kernel, by decide +kernel, by decide +kernel, fun h => ?_⟩
  exact absurd (h (.clearOrder "bag") (some sampleUser) offline) (by decide +kernel)

end Lidora
