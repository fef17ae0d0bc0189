import Stallorder.Delivery.ExternalOrders

/-!
# Queueing a job twice

A job that is queued under a key that is taken is looked up and returned.  On a
connection of its own this works.  In a transaction the refused insert has
already aborted the transaction when the lookup is sent, so the call fails and
takes everything with it that its caller wrote.
-/

namespace Stallorder.DuplicateJobs

open OrderContract DeliveryDatabase SyncJobs ExternalOrders Transaction Transaction.Program

/-! ## Callers -/

/-- Code that queues a job somewhere in the middle. -/
structure Caller (Value Result : Type) where
  before : DeliveryProgram Value
  new : Value → NewDeliveryJob
  rest : Value → DeliverySyncJob → DeliveryProgram Result

variable {Value Result : Type}

def Caller.program (caller : Caller Value Result) (jobId : Uuid) (now : Timestamp) :
    DeliveryProgram Result := do
  let value ← caller.before
  let job ← enqueueDeliverySyncJob (caller.new value) jobId now
  caller.rest value job

/-- The same code, when the call is replaced by its result. -/
def Caller.resumed (caller : Caller Value Result) (existing : DeliverySyncJob) :
    DeliveryProgram Result := do
  let value ← caller.before
  caller.rest value existing

/-- Run a program in a transaction, or statement by statement. -/
def runAs (inTransaction : Bool) (program : DeliveryProgram Result) (db : DeliveryDb) :
    Except DeliveryError Result × DeliveryDb :=
  if inTransaction then
    transact program db
  else
    let (outcome, session) := program (.standalone db)
    (outcome, session.db)

/-- The caller gets to the call, and its key is taken by `existing`. -/
structure ReachesDuplicate (caller : Caller Value Result) (inTransaction : Bool) (db : DeliveryDb)
    (jobId : Uuid) (now : Timestamp) (value : Value) (db' : DeliveryDb)
    (existing : DeliverySyncJob) : Prop where
  before : caller.before ⟨db, inTransaction, false⟩ = (.ok value, ⟨db', inTransaction, false⟩)
  existing : findJobByKey (caller.new value) db' = some existing
  accepted : deliverySyncJobsChecks ((caller.new value).row jobId now) = true

/-- The call returns the job that is queued, and the caller goes on as if nothing
had happened. -/
structure Harmless (caller : Caller Value Result) (inTransaction : Bool) (db : DeliveryDb)
    (jobId : Uuid) (now : Timestamp) (value : Value) (db' : DeliveryDb)
    (existing : DeliverySyncJob) : Prop where
  returned : (enqueueDeliverySyncJob (caller.new value) jobId now
    ⟨db', inTransaction, false⟩).1 = .ok existing
  continued : runAs inTransaction (caller.program jobId now) db
    = runAs inTransaction (caller.resumed existing) db

/-! ## The call -/

variable {new : NewDeliveryJob} {db : DeliveryDb} {existing : DeliverySyncJob} {jobId : Uuid}
variable {now : Timestamp}

theorem createJob_of_duplicate (hexisting : findJobByKey new db = some existing)
    (haccepted : deliverySyncJobsChecks (new.row jobId now) = true) :
    createJob (new.row jobId now) db = .error .uniqueViolation := by
  obtain ⟨hmem, hkey⟩ := CheckedTable.mem_of_findFirst hexisting
  have hinsert : db.jobs.insert? (new.row jobId now) = none := by
    cases hinsert : db.jobs.insert? (new.row jobId now) with
    | none => rfl
    | some jobs =>
        have hexisting' : existing ∈ jobs := (CheckedTable.mem_of_insert? hinsert).mpr (Or.inl hmem)
        have hnew : new.row jobId now ∈ jobs := (CheckedTable.mem_of_insert? hinsert).mpr (Or.inr rfl)
        obtain ⟨table, htable, -⟩ := Option.bind_eq_some_iff.mp hinsert
        have hcollides : Indexed.collides existing (new.row jobId now) := by
          simp only [hasKey, Bool.and_eq_true, decide_eq_true_eq] at hkey
          simp [Indexed.collides, NewDeliveryJob.row, hkey.1.1, hkey.1.2, hkey.2]
        exact absurd hcollides (Table.not_collides_of_insert? htable hmem)
  simp only [createJob, haccepted, Bool.not_true, Checks.failWhen_false, Checks.bind_ok, hinsert]
  rfl

/-- Outside a transaction the existing job is found. -/
theorem enqueue_standalone (hexisting : findJobByKey new db = some existing)
    (haccepted : deliverySyncJobsChecks (new.row jobId now) = true) :
    enqueueDeliverySyncJob new jobId now ⟨db, false, false⟩ = (.ok existing, ⟨db, false, false⟩) := by
  have hcreate : statement .transactionAborted (createJob (new.row jobId now)) ⟨db, false, false⟩
      = (.error .uniqueViolation, ⟨db, false, false⟩) :=
    run_statement_of_error rfl (createJob_of_duplicate hexisting haccepted)
  have hfind : query .transactionAborted (findJobByKey new) ⟨db, false, false⟩
      = ((.ok (some existing) : Except DeliveryError _), ⟨db, false, false⟩) :=
    query_eq_ok.mpr ⟨rfl, hexisting.symm, rfl⟩
  rw [enqueueDeliverySyncJob, catchError, hcreate]
  exact (run_bind_of_ok hfind).trans rfl

/-- In a transaction the lookup is refused. -/
theorem enqueue_in_transaction (hexisting : findJobByKey new db = some existing)
    (haccepted : deliverySyncJobsChecks (new.row jobId now) = true) :
    enqueueDeliverySyncJob new jobId now ⟨db, true, false⟩
      = (.error .transactionAborted, ⟨db, true, true⟩) := by
  have hcreate : statement .transactionAborted (createJob (new.row jobId now)) ⟨db, true, false⟩
      = (.error .uniqueViolation, ⟨db, true, true⟩) :=
    run_statement_of_error rfl (createJob_of_duplicate hexisting haccepted)
  have hfind : query .transactionAborted (findJobByKey new) ⟨db, true, true⟩
      = ((.error .transactionAborted : Except DeliveryError _), ⟨db, true, true⟩) :=
    run_statement_of_aborted rfl
  rw [enqueueDeliverySyncJob, catchError, hcreate]
  exact run_bind_of_error hfind

/-- The error of the call ends its caller's transaction, which is rolled back. -/
theorem caller_rolls_back {caller : Caller Value Result} {value : Value} {db' : DeliveryDb}
    (hreaches : ReachesDuplicate caller true db jobId now value db' existing) :
    transact (caller.program jobId now) db = (.error .transactionAborted, db) := by
  apply transact_of_error
  rw [Caller.program]
  exact (run_bind_of_ok hreaches.before).trans
    (run_bind_of_error (enqueue_in_transaction hreaches.existing hreaches.accepted))

theorem harmless_standalone {caller : Caller Value Result} {value : Value} {db' : DeliveryDb}
    (hreaches : ReachesDuplicate caller false db jobId now value db' existing) :
    Harmless caller false db jobId now value db' existing where
  returned := by rw [enqueue_standalone hreaches.existing hreaches.accepted]
  continued := by
    have hprogram : caller.program jobId now (.standalone db)
        = caller.rest value existing ⟨db', false, false⟩ :=
      (run_bind_of_ok hreaches.before).trans
        (run_bind_of_ok (enqueue_standalone hreaches.existing hreaches.accepted))
    have hresumed : caller.resumed existing (.standalone db)
        = caller.rest value existing ⟨db', false, false⟩ :=
      run_bind_of_ok hreaches.before
    simp only [runAs, Bool.false_eq_true, if_false, hprogram, hresumed]

/-! ## The callers of the repository -/

/-- The transition of an imported order. -/
def transitionCaller (external : ExternalTransitionContext) (nextStatus : ExternalTransitionStatus)
    (jobType : DeliveryJobType) (now : Timestamp) : Caller ExternalOrder Unit where
  before := run (updateExternalOrder external.ledgerId (transitioned nextStatus now))
  new _ := actionJob external nextStatus jobType
  rest _ _ := pure ()

theorem persistExternalOrderTransition_eq {external : ExternalTransitionContext}
    {nextStatus : ExternalTransitionStatus} {jobType : DeliveryJobType}
    {capability : DeliveryCapability} (haction : actionOf nextStatus = some (jobType, capability))
    (hcapable : capability ∈ external.provider.capabilities) :
    persistExternalOrderTransition external nextStatus jobId now
      = (transitionCaller external nextStatus jobType now).program jobId now := by
  rw [persistExternalOrderTransition, queueAction, haction, Caller.program]
  simp only [if_pos hcapable]
  rfl

/-- The webhook of a platform that only sends references to its orders. -/
def referenceCaller (connection : DeliveryConnection) (verified : VerifiedWebhook)
    (reference : OrderReference) (ids : IntakeIds) (now : Timestamp) :
    Caller WebhookEvent (Uuid × Option Uuid) where
  before := do
    let event ← run (createWebhookEvent (verifiedEvent connection verified ids.eventId now))
    Program.failWhen (verified.announcesOrder
      && (verified.referencedStoreId ≠ connection.externalStoreId
        || verified.order.any fun order => order.provider ≠ connection.provider))
      (.permanent .storeNotFound)
    return event
  new _ := fetchJob connection verified reference ids.eventId
  rest event job := pure (event.id, some job.id)

theorem receiveWebhook_eq {connection : DeliveryConnection} {verified : VerifiedWebhook}
    {reference : OrderReference} {ids : IntakeIds}
    (hreference : verified.orderReference = some reference) :
    receiveWebhook connection verified ids now
      = (referenceCaller connection verified reference ids now).program ids.jobId now := by
  simp only [receiveWebhook, receiveAnnouncement, hreference, Caller.program, referenceCaller,
    Program.bind_assoc]
  rfl

/-! ## When a duplicate is harmless -/

/-- A duplicate is harmless exactly outside a transaction. -/
theorem duplicate_harmless_iff {caller : Caller Value Result} {inTransaction : Bool}
    {value : Value} {db' : DeliveryDb}
    (hreaches : ReachesDuplicate caller inTransaction db jobId now value db' existing) :
    Harmless caller inTransaction db jobId now value db' existing ↔ inTransaction = false := by
  constructor
  · intro hharmless
    cases inTransaction with
    | false => rfl
    | true =>
        have hreturned := hharmless.returned
        rw [enqueue_in_transaction hreaches.existing hreaches.accepted] at hreturned
        cases hreturned
  · rintro rfl
    exact harmless_standalone hreaches

/-! ## A second webhook for one order -/

def sampleDb : DeliveryDb where
  connections := ⟨[sampleConnection .uberEats], List.pairwise_singleton _ _⟩
  externalOrders := .empty
  webhookEvents := .empty
  orders := .empty
  jobs := .empty
  importAudits := []

/-- The platform announced the order once. -/
def announcedDb : DeliveryDb :=
  (processDeliveryWebhook (announceCall "first".toList ⟨100, 101, 102⟩ 1000) sampleDb).2

def announcedJob : DeliverySyncJob :=
  (fetchJob (sampleConnection .uberEats) (announcement "first".toList) sampleReference 100).row
    102 1000

def sampleCaller : Caller Unit Uuid where
  before := pure ()
  new _ := fetchJob (sampleConnection .uberEats) (announcement "second".toList) sampleReference 200
  rest _ job := pure job.id

theorem sample_duplicate_harmless :
    Harmless sampleCaller false announcedDb 202 2000 () announcedDb announcedJob :=
  (duplicate_harmless_iff ⟨rfl, by decide +kernel, by decide +kernel⟩).mpr rfl

/-- The second webhook for the order is answered with an error, and its event is
not recorded. -/
theorem second_webhook_lost :
    (findJobByKey (sampleCaller.new ()) announcedDb).isSome = true
      ∧ (processDeliveryWebhook (announceCall "second".toList ⟨200, 201, 202⟩ 2000) announcedDb).1
        = .error .transactionAborted
      ∧ (processDeliveryWebhook (announceCall "second".toList ⟨200, 201, 202⟩ 2000)
        announcedDb).2.webhookEvents.table.rows.all
          (fun event => event.replayKey ≠ .verified "second".toList) = true := by
  decide +kernel

end Stallorder.DuplicateJobs
