import Lidora.CreatePayments

/-! # `cleanupUser` and its second run

When a user is deleted, `cleanupUser` reads the customer's document, has Stripe delete the
customer, queries the payment methods, deletes each of them without waiting, and deletes
the customer's document.  Any of the calls can fail, and then ends the run.

Stripe deletes a customer once and refuses to delete it again.  A run that is cut short
after that call can never be completed by another: the next one stops where it asks Stripe
(`rerun_refused`).  And whatever is stored under `payments`, no run ever touches it.
`erased_iff` says what is left after a first run, and a second one where the first was cut
short.
-/
namespace Lidora
open DocumentStore

/-- Firestore's documents, and the ids of the customers that Stripe has deleted. -/
structure Backend where
  store : Firestore
  deleted : List (Option Value)

/-- The `payment_methods` of `stripe_customers/{uid}`. -/
def stripePaymentMethodsRef (uid : String) : Path := stripeCustomerRef uid ++ ["payment_methods"]

/-! ## The customer's document -/

/-- What comes of the calls of one run of `createStripeCustomer`: the answers are the
customer's id and the intent's client secret. -/
structure CreateCustomerCalls where
  createCustomer : CallOutcome String
  createSetupIntent : CallOutcome String
  set : CallOutcome Unit

/-- `createStripeCustomer`. -/
def createStripeCustomer (uid : String) (calls : CreateCustomerCalls) (s : Firestore) : Firestore :=
  match calls.createCustomer, calls.createSetupIntent with
  | .done customerId, .done clientSecret =>
    if calls.set.landed then
      s.setData (stripeCustomerRef uid)
        [("customer_id", .string customerId), ("setup_secret", .string clientSecret)]
    else s
  | _, _ => s

/-- The customer's document, where there is one, names this customer of Stripe. -/
def NamesCustomer (uid : String) (customer : Value) (s : Firestore) : Prop :=
  ∀ d ∈ s.lookup (stripeCustomerRef uid), d "customer_id" = some customer

/-- The document names the customer that Stripe has created. -/
theorem createStripeCustomer_names {uid customerId : String} {calls : CreateCustomerCalls}
    (hcustomer : calls.createCustomer = .done customerId) {s : Firestore}
    (hnew : s.lookup (stripeCustomerRef uid) = none) :
    NamesCustomer uid (.string customerId) (createStripeCustomer uid calls s) := by
  intro d hd
  unfold createStripeCustomer at hd
  rw [hcustomer] at hd
  split at hd
  · rename_i customer clientSecret heq hsecret
    cases heq
    split at hd
    · rw [Firestore.setData, Finmap.lookup_insert] at hd
      cases hd
      rfl
    · rw [hnew] at hd
      cases hd
  · rw [hnew] at hd
    cases hd

/-! ## A run -/

/-- What comes of the calls of one run of `cleanupUser`. -/
structure CleanupCalls where
  /-- What the read of the customer's document throws. -/
  get : Option JsError
  /-- `stripe.customers.del`. -/
  del : Option Value → CallOutcome Unit
  /-- What the query for the payment methods throws. -/
  query : Option JsError
  /-- The payment methods whose deletion is carried out. -/
  deletes : Path → Bool
  /-- The deletion of the customer's document. -/
  delete : CallOutcome Unit

/-- What a run leaves, and what it throws. -/
structure CleanupEnd where
  backend : Backend
  thrown : Option JsError

/-- The customer with this id is deleted. -/
def Backend.deleting (s : Backend) (id : Option Value) : Backend :=
  { s with deleted := id :: s.deleted }

/-- The payment methods are deleted, as far as that is carried out, and the customer's
document, if it is. -/
def Backend.emptied (s : Backend) (uid : String) (deletes : Path → Bool) (own : Bool) : Backend :=
  let rest := eraseAll s.store
    ((s.store.documents (stripePaymentMethodsRef uid)).filter deletes)
  { s with store := if own then rest.erase (stripeCustomerRef uid) else rest }

/-- `cleanupUser`. -/
def cleanupUser (uid : String) (calls : CleanupCalls) (s : Backend) : CleanupEnd :=
  match calls.get with
  | some error => ⟨s, some error⟩
  | none =>
    match s.store.lookup (stripeCustomerRef uid) with
    | none => ⟨s, some missingCustomer⟩
    | some customer =>
      match calls.del (customer "customer_id") with
      | .failed landed error =>
        ⟨if landed then s.deleting (customer "customer_id") else s, some error⟩
      | .done () =>
        let s := s.deleting (customer "customer_id")
        match calls.query with
        | some error => ⟨s, some error⟩
        | none =>
          match calls.delete with
          | .done () => ⟨s.emptied uid calls.deletes true, none⟩
          | .failed landed error => ⟨s.emptied uid calls.deletes landed, some error⟩

/-- The calls where nothing fails, but that Stripe refuses to delete what it has deleted. -/
def CleanupCalls.reliable (refusal : JsError) (s : Backend) : CleanupCalls where
  get := none
  del id := if id ∈ s.deleted then .failed false refusal else .done ()
  query := none
  deletes _ := true
  delete := .done ()

/-- A run, and another one where the first was cut short. -/
def cleanUp (uid : String) (first : CleanupCalls) (refusal : JsError) (s : Backend) : Backend :=
  let ended := cleanupUser uid first s
  match ended.thrown with
  | none => ended.backend
  | some _ => (cleanupUser uid (.reliable refusal ended.backend) ended.backend).backend

/-- **The user is erased**: Stripe's customer is deleted, and nothing is left under
`stripe_customers/{uid}`. -/
structure Erased (uid : String) (customer : Value) (s : Backend) : Prop where
  customer : some customer ∈ s.deleted
  empty : ∀ p, stripeCustomerRef uid <+: p → s.store.lookup p = none

/-- Under `stripe_customers/{uid}` there are payment methods only, and no payments. -/
def OnlyPaymentMethods (uid : String) (s : Firestore) : Prop :=
  ∀ p, stripeCustomerRef uid <+: p → (s.lookup p).isSome →
    p = stripeCustomerRef uid ∨ Firestore.InCollection (stripePaymentMethodsRef uid) p

/-- The run stops before Stripe has deleted the customer. -/
def CleanupCalls.StopsBefore (calls : CleanupCalls) (id : Option Value) : Prop :=
  calls.get.isSome ∨ (calls.del id).landed = false

/-- The run carries out everything. -/
structure CleanupCalls.CarriesOut (calls : CleanupCalls) (id : Option Value)
    (paymentMethods : List Path) : Prop where
  del : calls.del id = .done ()
  query : calls.query = none
  deletes : ∀ p ∈ paymentMethods, calls.deletes p
  delete : calls.delete.landed

section
variable {uid : String} {customer : Value} {calls : CleanupCalls} {s : Backend}

/-- Without the customer's document nothing happens. -/
theorem cleanupUser_missing (h : s.store.lookup (stripeCustomerRef uid) = none) :
    (cleanupUser uid calls s).backend = s ∧ (cleanupUser uid calls s).thrown.isSome := by
  unfold cleanupUser
  cases calls.get with
  | some error => exact ⟨rfl, rfl⟩
  | none =>
    rw [h]
    exact ⟨rfl, rfl⟩

/-- A run that stops before Stripe deletes the customer changes nothing. -/
theorem cleanupUser_stopsBefore {d : Doc} (hd : s.store.lookup (stripeCustomerRef uid) = some d)
    (h : calls.StopsBefore (d "customer_id")) :
    (cleanupUser uid calls s).backend = s ∧ (cleanupUser uid calls s).thrown.isSome := by
  unfold cleanupUser
  cases hget : calls.get with
  | some error => exact ⟨rfl, rfl⟩
  | none =>
    have hdel : (calls.del (d "customer_id")).landed = false := by
      rcases h with h | h
      · rw [hget] at h
        cases h
      · exact h
    simp only [hd]
    cases hanswer : calls.del (d "customer_id") with
    | done answer =>
      rw [hanswer] at hdel
      cases hdel
    | failed landed error =>
      rw [hanswer] at hdel
      have hfalse : landed = false := hdel
      subst hfalse
      exact ⟨rfl, rfl⟩

/-- **A run after Stripe has deleted the customer** stops there, and leaves everything. -/
theorem rerun_refused {refusal : JsError} (hnamed : NamesCustomer uid customer s.store)
    (hdeleted : some customer ∈ s.deleted) :
    (cleanupUser uid (.reliable refusal s) s).backend = s := by
  cases hd : s.store.lookup (stripeCustomerRef uid) with
  | none => exact (cleanupUser_missing hd).1
  | some d =>
    refine (cleanupUser_stopsBefore hd (Or.inr ?_)).1
    have hrefused : (CleanupCalls.reliable refusal s).del (d "customer_id") =
        .failed false refusal := by
      rw [hnamed d hd]
      exact if_pos hdeleted
    rw [hrefused]
    rfl

/-- A run that gets past Stripe. -/
theorem cleanupUser_deleting {d : Doc} (hd : s.store.lookup (stripeCustomerRef uid) = some d)
    (h : ¬ calls.StopsBefore (d "customer_id")) :
    (cleanupUser uid calls s).backend = s.deleting (d "customer_id") ∧
        (cleanupUser uid calls s).thrown.isSome ∧
        ¬ (calls.del (d "customer_id") = .done () ∧ calls.query = none) ∨
      (cleanupUser uid calls s).backend =
        (s.deleting (d "customer_id")).emptied uid calls.deletes calls.delete.landed ∧
      (calls.delete.landed = false → (cleanupUser uid calls s).thrown.isSome) ∧
      calls.del (d "customer_id") = .done () ∧ calls.query = none := by
  obtain ⟨hget, hdel⟩ := not_or.mp h
  unfold cleanupUser
  simp only [Option.not_isSome_iff_eq_none.mp hget, hd]
  cases hanswer : calls.del (d "customer_id") with
  | failed landed error =>
    rw [hanswer] at hdel
    have htrue : landed = true := Bool.eq_true_of_not_eq_false hdel
    subst htrue
    exact Or.inl ⟨rfl, rfl, fun h => nomatch h.1⟩
  | done answer =>
    cases hquery : calls.query with
    | some error => exact Or.inl ⟨rfl, rfl, fun h => nomatch h.2⟩
    | none =>
      cases hdelete : calls.delete with
      | done answer' => exact Or.inr ⟨rfl, nofun, rfl, rfl⟩
      | failed landed error => exact Or.inr ⟨rfl, fun _ => rfl, rfl, rfl⟩

/-- A payment method lies under the customer's document, and is not that. -/
theorem under_of_inCollection {p : Path}
    (h : Firestore.InCollection (stripePaymentMethodsRef uid) p) :
    stripeCustomerRef uid <+: p ∧ p ≠ stripeCustomerRef uid := by
  constructor
  · have hdrop : stripePaymentMethodsRef uid <+: p := h.1 ▸ List.dropLast_prefix p
    exact (List.prefix_append _ ["payment_methods"]).trans hdrop
  · rintro rfl
    have hlength := congrArg List.length h.1
    simp [stripePaymentMethodsRef, stripeCustomerRef] at hlength

/-- The customer's document is none of the payment methods. -/
theorem stripeCustomerRef_notMem (s : Firestore) (deletes : Path → Bool) :
    stripeCustomerRef uid ∉ (s.documents (stripePaymentMethodsRef uid)).filter deletes := by
  intro h
  have hin := (Firestore.mem_documents.mp (List.mem_filter.mp h).1).1
  exact (under_of_inCollection hin).2 rfl

theorem lookup_emptied_own (deletes : Path → Bool) (own : Bool) :
    (s.emptied uid deletes own).store.lookup (stripeCustomerRef uid) =
      if own then none else s.store.lookup (stripeCustomerRef uid) := by
  unfold Backend.emptied
  cases own with
  | true => exact Finmap.lookup_erase _ _
  | false => exact lookup_eraseAll_of_notMem (stripeCustomerRef_notMem s.store deletes) _

theorem lookup_emptied {p : Path} (hp : p ≠ stripeCustomerRef uid) (deletes : Path → Bool)
    (own : Bool) :
    (s.emptied uid deletes own).store.lookup p =
      if p ∈ (s.store.documents (stripePaymentMethodsRef uid)).filter deletes then none
      else s.store.lookup p := by
  have hrest : (s.emptied uid deletes own).store.lookup p =
      (eraseAll s.store ((s.store.documents (stripePaymentMethodsRef uid)).filter
        deletes)).lookup p := by
    unfold Backend.emptied
    cases own with
    | true => exact Finmap.lookup_erase_ne hp
    | false => rfl
  rw [hrest]
  split
  · rename_i hmem
    exact lookup_eraseAll_of_mem hmem _
  · rename_i hmem
    exact lookup_eraseAll_of_notMem hmem _

/-- **What is left of the user** after payment methods have been deleted, and perhaps the
customer's document: nothing, if all of that was carried out and there was nothing else. -/
theorem emptied_iff (deletes : Path → Bool) (own : Bool)
    (hsome : (s.store.lookup (stripeCustomerRef uid)).isSome) :
    (∀ p, stripeCustomerRef uid <+: p →
        (s.emptied uid deletes own).store.lookup p = none) ↔
      OnlyPaymentMethods uid s.store ∧ own = true ∧
        ∀ p ∈ s.store.documents (stripePaymentMethodsRef uid), deletes p := by
  constructor
  · intro hempty
    refine ⟨fun p hunder hp => ?_, ?_, fun p hp => ?_⟩
    · by_cases hown : p = stripeCustomerRef uid
      · exact Or.inl hown
      · have hnone := hempty p hunder
        rw [lookup_emptied hown] at hnone
        split at hnone
        · rename_i hmem
          exact Or.inr (Firestore.mem_documents.mp (List.mem_filter.mp hmem).1).1
        · rw [hnone] at hp
          cases hp
    · have hnone := hempty _ List.prefix_rfl
      rw [lookup_emptied_own] at hnone
      split at hnone
      · assumption
      · rw [hnone] at hsome
        cases hsome
    · obtain ⟨hin, hstored⟩ := Firestore.mem_documents.mp hp
      obtain ⟨hunder, hown⟩ := under_of_inCollection hin
      have hnone := hempty p hunder
      rw [lookup_emptied hown] at hnone
      split at hnone
      · rename_i hmem
        exact (List.mem_filter.mp hmem).2
      · rw [hnone] at hstored
        cases hstored
  · rintro ⟨honly, rfl, hdeletes⟩ p hunder
    by_cases hown : p = stripeCustomerRef uid
    · subst hown
      exact lookup_emptied_own deletes true
    · rw [lookup_emptied hown]
      split
      · rfl
      · -- what is left alone was not there
        rename_i hmem
        by_contra hstored
        have hsomep : (s.store.lookup p).isSome := Option.isSome_iff_ne_none.mpr hstored
        have hin := (honly p hunder hsomep).resolve_left hown
        have hdoc := Firestore.mem_documents.mpr ⟨hin, hsomep⟩
        exact hmem (List.mem_filter.mpr ⟨hdoc, hdeletes p hdoc⟩)

/-- A first run after which Stripe has deleted the customer is all there is. -/
theorem cleanUp_of_deleted {refusal : JsError}
    (hnamed : NamesCustomer uid customer (cleanupUser uid calls s).backend.store)
    (hdeleted : some customer ∈ (cleanupUser uid calls s).backend.deleted) :
    cleanUp uid calls refusal s = (cleanupUser uid calls s).backend := by
  unfold cleanUp
  cases hthrown : (cleanupUser uid calls s).thrown with
  | none => simp only [hthrown]
  | some error =>
    simp only [hthrown]
    exact rerun_refused hnamed hdeleted

/-- A run in which nothing fails. -/
theorem rerun_reliable {refusal : JsError} {d : Doc}
    (hd : s.store.lookup (stripeCustomerRef uid) = some d)
    (hlive : d "customer_id" ∉ s.deleted) :
    (cleanupUser uid (.reliable refusal s) s).backend =
      (s.deleting (d "customer_id")).emptied uid (fun _ => true) true := by
  have hdel : (CleanupCalls.reliable refusal s).del (d "customer_id") = .done () := if_neg hlive
  have hgoes : ¬ (CleanupCalls.reliable refusal s).StopsBefore (d "customer_id") := by
    rintro (hget | hrefused)
    · cases hget
    · rw [hdel] at hrefused
      cases hrefused
  rcases cleanupUser_deleting hd hgoes with ⟨-, -, hnot⟩ | ⟨hbackend, -, -, -⟩
  · exact absurd ⟨hdel, rfl⟩ hnot
  · exact hbackend

/-! ### Two runs -/

theorem cleanUp_missing {refusal : JsError}
    (hd : s.store.lookup (stripeCustomerRef uid) = none) : cleanUp uid calls refusal s = s := by
  obtain ⟨hbackend, hthrown⟩ := @cleanupUser_missing uid calls s hd
  obtain ⟨error, herror⟩ := Option.isSome_iff_exists.mp hthrown
  simp only [cleanUp, herror, hbackend]
  exact (cleanupUser_missing hd).1

/-- After a first run that stops before Stripe, the second starts anew. -/
theorem cleanUp_stopsBefore {refusal : JsError} {d : Doc}
    (hd : s.store.lookup (stripeCustomerRef uid) = some d) (hlive : d "customer_id" ∉ s.deleted)
    (hstops : calls.StopsBefore (d "customer_id")) :
    cleanUp uid calls refusal s =
      (s.deleting (d "customer_id")).emptied uid (fun _ => true) true := by
  obtain ⟨hbackend, hthrown⟩ := cleanupUser_stopsBefore hd hstops
  obtain ⟨error, herror⟩ := Option.isSome_iff_exists.mp hthrown
  simp only [cleanUp, herror, hbackend]
  exact rerun_reliable hd hlive

/-- After a first run that gets past Stripe, the second adds nothing. -/
theorem cleanUp_deleting {refusal : JsError} {d : Doc} (hnamed : NamesCustomer uid customer s.store)
    (hd : s.store.lookup (stripeCustomerRef uid) = some d)
    (hgoes : ¬ calls.StopsBefore (some customer)) :
    cleanUp uid calls refusal s = s.deleting (some customer) ∧
        ¬ (calls.del (some customer) = .done () ∧ calls.query = none) ∨
      cleanUp uid calls refusal s =
        (s.deleting (some customer)).emptied uid calls.deletes calls.delete.landed ∧
      calls.del (some customer) = .done () ∧ calls.query = none := by
  have hid : d "customer_id" = some customer := hnamed d hd
  rw [← hid] at hgoes
  rcases cleanupUser_deleting hd hgoes with ⟨hbackend, -, hnot⟩ | ⟨hbackend, -, hdel, hquery⟩
  · rw [hid] at hbackend hnot
    refine Or.inl ⟨?_, hnot⟩
    rw [← hbackend]
    refine @cleanUp_of_deleted uid customer calls s refusal ?_ ?_
    · rw [hbackend]
      exact hnamed
    · rw [hbackend]
      exact List.mem_cons_self
  · rw [hid] at hbackend hdel
    refine Or.inr ⟨?_, hdel, hquery⟩
    rw [← hbackend]
    refine @cleanUp_of_deleted uid customer calls s refusal ?_ ?_
    · rw [hbackend]
      intro d' hd'
      rw [lookup_emptied_own] at hd'
      split at hd'
      · cases hd'
      · exact hnamed d' hd'
    · rw [hbackend]
      exact List.mem_cons_self

end

/-- **When a user is erased.**  For whatever is stored under the user's document, and
whatever comes of the calls of the first run: after it, and after a second run that goes
through where the first was cut short, the user is erased if and only if the customer's
document was there, with payment methods and no payments, and the first run stopped before
Stripe had deleted the customer, or carried out everything. -/
theorem erased_iff (uid : String) (customer : Value) (first : CleanupCalls) (refusal : JsError)
    (s : Backend) (hnamed : NamesCustomer uid customer s.store)
    (hlive : some customer ∉ s.deleted) :
    Erased uid customer (cleanUp uid first refusal s) ↔
      (s.store.lookup (stripeCustomerRef uid)).isSome ∧ OnlyPaymentMethods uid s.store ∧
        (first.StopsBefore (some customer) ∨
          first.CarriesOut (some customer) (s.store.documents (stripePaymentMethodsRef uid))) := by
  cases hd : s.store.lookup (stripeCustomerRef uid) with
  | none =>
    -- neither run gets to Stripe
    rw [cleanUp_missing hd]
    exact iff_of_false (fun h => hlive h.customer) (fun h => nomatch h.1)
  | some d =>
    have hid : d "customer_id" = some customer := hnamed d hd
    have hsome : ((s.deleting (some customer)).store.lookup (stripeCustomerRef uid)).isSome := by
      change (s.store.lookup (stripeCustomerRef uid)).isSome
      rw [hd]
      rfl
    by_cases hstops : first.StopsBefore (some customer)
    · rw [cleanUp_stopsBefore hd (hid ▸ hlive) (hid ▸ hstops), hid]
      constructor
      · intro herased
        exact ⟨rfl, ((emptied_iff _ _ hsome).mp herased.empty).1, Or.inl hstops⟩
      · rintro ⟨-, honly, -⟩
        exact ⟨List.mem_cons_self, (emptied_iff _ _ hsome).mpr ⟨honly, rfl, fun _ _ => rfl⟩⟩
    · rcases cleanUp_deleting hnamed hd hstops with ⟨hleft, hnot⟩ | ⟨hleft, hdel, hquery⟩
      · -- the customer is gone, and the document is left for good
        rw [hleft]
        refine iff_of_false (fun herased => ?_) (fun h => ?_)
        · rw [herased.empty _ List.prefix_rfl] at hsome
          cases hsome
        · rcases h.2.2 with hstop | hcarries
          · exact hstops hstop
          · exact hnot ⟨hcarries.del, hcarries.query⟩
      · rw [hleft]
        constructor
        · intro herased
          obtain ⟨honly, hown, hdeletes⟩ := (emptied_iff _ _ hsome).mp herased.empty
          exact ⟨rfl, honly, Or.inr ⟨hdel, hquery, hdeletes, hown⟩⟩
        · rintro ⟨-, honly, hstop | hcarries⟩
          · exact absurd hstop hstops
          · exact ⟨List.mem_cons_self,
              (emptied_iff _ _ hsome).mpr ⟨honly, hcarries.delete, hcarries.deletes⟩⟩

/-! ## Users -/

/-- A customer with a payment method, and perhaps a payment. -/
def deletedUser (payment : Bool) : Backend where
  store :=
    let customer := ((∅ : Firestore).setData (stripeCustomerRef "uid")
      [("customer_id", .string "cus")]).setData
        (stripePaymentMethodsRef "uid" ++ ["pm"]) [("id", .string "pm")]
    if payment then
      customer.setData (stripePaymentRef "uid" "push") [("amount", .int 1189)]
    else customer
  deleted := []

/-- The calls of a run whose query fails with `unavailable`, if it does. -/
def cleanupCalls (unavailable : Bool) : CleanupCalls where
  get := none
  del _ := .done ()
  query := if unavailable then some ⟨none, "UNAVAILABLE"⟩ else none
  deletes _ := true
  delete := .done ()

/-- What Stripe says of a customer that it has deleted. -/
def noSuchCustomer : JsError := ⟨some "StripeInvalidRequestError", "No such customer: cus"⟩

theorem named_deletedUser (payment : Bool) :
    NamesCustomer "uid" (.string "cus") (deletedUser payment).store := by
  intro d hd
  have hall : ((deletedUser payment).store.lookup (stripeCustomerRef "uid")).all
      (fun d => decide (d "customer_id" = some (.string "cus"))) = true := by
    cases payment with
    | false => decide +kernel
    | true => decide +kernel
  rw [hd] at hall
  exact of_decide_eq_true hall

theorem erased_iff_without_payments :
    Erased "uid" (.string "cus")
        (cleanUp "uid" (cleanupCalls false) noSuchCustomer (deletedUser false)) ↔
      ((deletedUser false).store.lookup (stripeCustomerRef "uid")).isSome ∧
        OnlyPaymentMethods "uid" (deletedUser false).store ∧
        ((cleanupCalls false).StopsBefore (some (.string "cus")) ∨
          (cleanupCalls false).CarriesOut (some (.string "cus"))
            ((deletedUser false).store.documents (stripePaymentMethodsRef "uid"))) :=
  erased_iff "uid" (.string "cus") (cleanupCalls false) noSuchCustomer (deletedUser false)
    (named_deletedUser false) (by decide)

/-- **A payment is never deleted**, and a query that fails leaves the document and the
payment methods for good. -/
theorem payment_left :
    ¬ Erased "uid" (.string "cus")
        (cleanUp "uid" (cleanupCalls false) noSuchCustomer (deletedUser true)) ∧
      ¬ Erased "uid" (.string "cus")
        (cleanUp "uid" (cleanupCalls true) noSuchCustomer (deletedUser false)) := by
  constructor
  · intro h
    exact absurd (h.empty (stripePaymentRef "uid" "push") (by decide)) (by decide +kernel)
  · intro h
    exact absurd (h.empty (stripeCustomerRef "uid") (by decide)) (by decide +kernel)

end Lidora
