import Stallorder.Core.Checks
import Stallorder.Core.FirstOf
import Stallorder.Core.Transaction
import Stallorder.Delivery.DeliveryDatabase

/-!
# The queue of delivery jobs

How a job enters the queue, how a worker claims the jobs that are due, and what
it writes when it is done with one.  The outcome is written to the job by its
id alone.
-/

namespace Stallorder.SyncJobs

open OrderContract DeliveryDatabase Checks FirstOf Transaction Transaction.Program

/-! ## Entering the queue -/

structure NewDeliveryJob where
  organizationId : Uuid
  stallId : Uuid
  connectionId : Uuid
  provider : DeliveryProvider
  jobType : DeliveryJobType
  deduplicationKey : DeduplicationKey
  input : DeliveryJobInput
  priority : Option ℤ
  maxAttempts : Option ℕ

def NewDeliveryJob.row (new : NewDeliveryJob) (jobId : Uuid) (now : Timestamp) :
    DeliverySyncJob where
  id := jobId
  organizationId := new.organizationId
  stallId := new.stallId
  connectionId := new.connectionId
  provider := new.provider
  jobType := new.jobType
  status := .pending
  priority := new.priority.getD 100
  deduplicationKey := new.deduplicationKey
  claimedByWorker := none
  attemptCount := 0
  maxAttempts := new.maxAttempts.getD 5
  scheduledAt := now
  startedAt := none
  completedAt := none
  nextAttemptAt := none
  lastErrorCode := none
  input := new.input
  createdAt := now
  updatedAt := now

/-- The checks of a row precede its unique indexes. -/
def createJob (job : DeliverySyncJob) (db : DeliveryDb) :
    Except DeliveryError (DeliverySyncJob × DeliveryDb) := do
  failWhen (!deliverySyncJobsChecks job) .constraintViolated
  let jobs ← orFail (db.jobs.insert? job) .uniqueViolation
  return (job, { db with jobs })

def hasKey (new : NewDeliveryJob) (job : DeliverySyncJob) : Bool :=
  job.connectionId = new.connectionId && job.provider = new.provider
    && job.deduplicationKey = new.deduplicationKey

def findJobByKey (new : NewDeliveryJob) (db : DeliveryDb) : Option DeliverySyncJob :=
  db.jobs.findFirst (hasKey new)

/-- After a unique violation the job that is already queued is read. -/
def enqueueDeliverySyncJob (new : NewDeliveryJob) (jobId : Uuid) (now : Timestamp) :
    Program DeliveryDb DeliveryError DeliverySyncJob :=
  catchError (statement .transactionAborted (createJob (new.row jobId now))) fun error =>
    if error ≠ .uniqueViolation then
      raise error
    else do
      let existing ← query .transactionAborted (findJobByKey new)
      Program.orFail existing error

/-! ## Claims -/

def leaseMilliseconds : ℤ := 10 * 60_000

def hasExpiredLease (now : Timestamp) (job : DeliverySyncJob) : Bool :=
  job.status = .processing && job.updatedAt < now - leaseMilliseconds

def leaseExpired (now : Timestamp) (job : DeliverySyncJob) : DeliverySyncJob :=
  if job.maxAttempts ≤ job.attemptCount then
    { job with
      status := .deadLetter
      nextAttemptAt := none
      lastErrorCode := some .workerLeaseExpired
      claimedByWorker := none
      updatedAt := now }
  else
    { job with
      status := .retryPending
      nextAttemptAt := some now
      lastErrorCode := some .workerLeaseExpired
      claimedByWorker := none
      updatedAt := now }

def isDue (now : Timestamp) (job : DeliverySyncJob) : Bool :=
  job.attemptCount < job.maxAttempts
    && ((job.status = .pending && job.scheduledAt ≤ now)
      || (job.status = .retryPending && job.nextAttemptAt.any (· ≤ now)))

def claimed (workerId : Text) (now : Timestamp) (job : DeliverySyncJob) : DeliverySyncJob :=
  { job with
    status := .processing
    claimedByWorker := some workerId
    attemptCount := job.attemptCount + 1
    startedAt := some now
    nextAttemptAt := none
    updatedAt := now }

/-- The order in which jobs are claimed; `place` is where the scan meets the row
of a job, which decides between jobs that were created together. -/
def claimKey (place : Uuid → ℕ) (job : DeliverySyncJob) : ℤ ×ₗ Timestamp ×ₗ Timestamp ×ₗ ℕ :=
  toLex (job.priority, toLex (job.scheduledAt, toLex (job.createdAt, place job.id)))

def boundedLimit (limit : ℤ) : ℤ := min (max limit 1) 50

/-- The new state of the queue, and the jobs that the worker got. -/
def claimDeliverySyncJobs (db : DeliveryDb) (workerId : Text) (now : Timestamp) (limit : ℤ)
    (place : Uuid → ℕ) : Except DeliveryError (DeliveryDb × List DeliverySyncJob) := do
  let queued ← orFail (db.jobs.updateWhere? (hasExpiredLease now) (leaseExpired now))
    .constraintViolated
  let taken := firstOf (claimKey place) (boundedLimit limit).toNat
    (queued.table.rows.filter (isDue now))
  let jobs ← orFail (queued.updateWhere? (fun job => taken.any (·.id = job.id))
    (claimed workerId now)) .constraintViolated
  return ({ db with jobs }, taken.map (claimed workerId now))

/-! ## Outcomes -/

def delaysMinutes : List ℤ := [1, 5, 15, 60, 360]

def deliveryRetryAt (attemptCount : ℕ) (retryable : Bool) (now : Timestamp) :
    Option Timestamp :=
  if retryable then
    some (now + delaysMinutes.getD (min (attemptCount - 1) (delaysMinutes.length - 1)) 0 * 60_000)
  else
    none

/-- When the job is tried again after the error, if it is. -/
def nextAttemptAt (job : DeliverySyncJob) (error : DeliveryError) (now : Timestamp) :
    Option Timestamp :=
  if job.attemptCount < job.maxAttempts then
    deliveryRetryAt job.attemptCount error.retryable now
  else
    none

def succeeded (now written : Timestamp) (job : DeliverySyncJob) : DeliverySyncJob :=
  { job with
    status := .succeeded
    completedAt := some now
    claimedByWorker := none
    lastErrorCode := none
    updatedAt := written }

def failed (error : DeliveryError) (retryAt : Option Timestamp) (now written : Timestamp)
    (job : DeliverySyncJob) : DeliverySyncJob :=
  { job with
    status := if retryAt.isSome then .retryPending else .deadLetter
    claimedByWorker := none
    completedAt := if retryAt.isSome then none else some now
    nextAttemptAt := retryAt
    lastErrorCode := some (.delivery (safeDeliveryErrorCode error))
    updatedAt := written }

/-- Update the job with an id. -/
def updateJob (db : DeliveryDb) (jobId : Uuid) (change : DeliverySyncJob → DeliverySyncJob) :
    Except DeliveryError DeliveryDb := do
  let _ ← orFail (db.jobs.findFirst fun job => job.id = jobId) .recordNotFound
  let jobs ← orFail (db.jobs.updateWhere? (fun job => job.id = jobId) change) .constraintViolated
  return { db with jobs }

def succeedDeliveryJob (db : DeliveryDb) (job : DeliverySyncJob) (now written : Timestamp) :
    Except DeliveryError DeliveryDb := do
  let db' ← updateJob db job.id (succeeded now written)
  let _ ← orFail (db.connections.get? job.connectionId) .recordNotFound
  return db'

def failDeliveryJob (db : DeliveryDb) (job : DeliverySyncJob) (error : DeliveryError)
    (now written : Timestamp) : Except DeliveryError DeliveryDb :=
  updateJob db job.id (failed error (nextAttemptAt job error now) now written)

/-- The worker's copy of the job decides about the next attempt. -/
def writeOutcome (db : DeliveryDb) (job : DeliverySyncJob) (result : Except DeliveryError Unit)
    (now written : Timestamp) : Except DeliveryError DeliveryDb :=
  match result with
  | .ok () =>
      match succeedDeliveryJob db job now written with
      | .ok db' => .ok db'
      | .error error => failDeliveryJob db job error now written
  | .error error => failDeliveryJob db job error now written

def retried (now : Timestamp) (job : DeliverySyncJob) : DeliverySyncJob :=
  { job with
    status := .retryPending
    attemptCount := 0
    nextAttemptAt := some now
    completedAt := none
    claimedByWorker := none
    lastErrorCode := none
    updatedAt := now }

/-- A retry by hand. -/
def retryDeliverySyncJob (db : DeliveryDb) (jobId : Uuid) (now : Timestamp) :
    Except DeliveryError DeliveryDb := do
  let job ← orFail (db.jobs.findFirst fun job => job.id = jobId)
    (.permanent .connectionNotFound)
  failWhen (job.status ∉ [.failed, .deadLetter, .cancelled]) (.permanent .connectionStateConflict)
  updateJob db jobId (retried now)

/-! ## What the calls write -/

/-- The row still stands for the same task. -/
structure SameTask (job job' : DeliverySyncJob) : Prop where
  id : job'.id = job.id
  connectionId : job'.connectionId = job.connectionId
  provider : job'.provider = job.provider
  jobType : job'.jobType = job.jobType
  deduplicationKey : job'.deduplicationKey = job.deduplicationKey
  input : job'.input = job.input

theorem SameTask.refl (job : DeliverySyncJob) : SameTask job job := ⟨rfl, rfl, rfl, rfl, rfl, rfl⟩

theorem SameTask.trans {first second third : DeliverySyncJob} (hfirst : SameTask first second)
    (hsecond : SameTask second third) : SameTask first third where
  id := hsecond.id.trans hfirst.id
  connectionId := hsecond.connectionId.trans hfirst.connectionId
  provider := hsecond.provider.trans hfirst.provider
  jobType := hsecond.jobType.trans hfirst.jobType
  deduplicationKey := hsecond.deduplicationKey.trans hfirst.deduplicationKey
  input := hsecond.input.trans hfirst.input

theorem SameTask.symm {job job' : DeliverySyncJob} (hsame : SameTask job job') :
    SameTask job' job where
  id := hsame.id.symm
  connectionId := hsame.connectionId.symm
  provider := hsame.provider.symm
  jobType := hsame.jobType.symm
  deduplicationKey := hsame.deduplicationKey.symm
  input := hsame.input.symm

theorem SameTask.collides {job job' other : DeliverySyncJob} (hsame : SameTask job job')
    (hcollides : Indexed.collides job' other) : Indexed.collides job other := by
  simpa only [Indexed.collides, hsame.id, hsame.connectionId, hsame.provider,
    hsame.deduplicationKey] using hcollides

variable {db db' : DeliveryDb} {job : DeliverySyncJob} {jobId : Uuid} {now written : Timestamp}

/-! ### Claims -/

/-- A job after the leases that expired were taken back. -/
def reclaimed (now : Timestamp) (job : DeliverySyncJob) : DeliverySyncJob :=
  if hasExpiredLease now job then leaseExpired now job else job

theorem sameTask_leaseExpired (now : Timestamp) (job : DeliverySyncJob) :
    SameTask job (leaseExpired now job) := by
  by_cases hspent : job.maxAttempts ≤ job.attemptCount
  · rw [leaseExpired, if_pos hspent]
    exact ⟨rfl, rfl, rfl, rfl, rfl, rfl⟩
  · rw [leaseExpired, if_neg hspent]
    exact ⟨rfl, rfl, rfl, rfl, rfl, rfl⟩

theorem sameTask_reclaimed (now : Timestamp) (job : DeliverySyncJob) :
    SameTask job (reclaimed now job) := by
  by_cases hexpired : hasExpiredLease now job = true
  · rw [reclaimed, if_pos hexpired]
    exact sameTask_leaseExpired now job
  · rw [reclaimed, if_neg hexpired]
    exact SameTask.refl job

theorem sameTask_claimed (workerId : Text) (now : Timestamp) (job : DeliverySyncJob) :
    SameTask job (claimed workerId now job) := ⟨rfl, rfl, rfl, rfl, rfl, rfl⟩

/-- A job that is not worked on keeps its place in the queue. -/
theorem reclaimed_of_not_processing (hstatus : job.status ≠ .processing) :
    reclaimed now job = job := by
  simp [reclaimed, hasExpiredLease, hstatus]

theorem reclaimed_of_running (hrunning : hasExpiredLease now job = false) :
    reclaimed now job = job := by
  simp [reclaimed, hrunning]

/-- What a claim call made of a job, when it took the jobs of `taken`. -/
def afterClaim (workerId : Text) (now : Timestamp) (taken : List DeliverySyncJob)
    (job : DeliverySyncJob) : DeliverySyncJob :=
  if reclaimed now job ∈ taken then claimed workerId now (reclaimed now job)
  else reclaimed now job

theorem sameTask_afterClaim (workerId : Text) (now : Timestamp) (taken : List DeliverySyncJob)
    (job : DeliverySyncJob) : SameTask job (afterClaim workerId now taken job) := by
  unfold afterClaim
  split
  · exact (sameTask_reclaimed now job).trans (sameTask_claimed workerId now _)
  · exact sameTask_reclaimed now job

structure JobClaims (db db' : DeliveryDb) (workerId : Text) (now : Timestamp)
    (taken : List DeliverySyncJob) : Prop where
  mem : ∀ stored, stored ∈ db'.jobs ↔ ∃ job ∈ db.jobs, afterClaim workerId now taken job = stored
  due : ∀ job ∈ taken, isDue now job = true
  queued : ∀ job ∈ taken, ∃ before ∈ db.jobs, reclaimed now before = job
  rest : db' = { db with jobs := db'.jobs }

theorem claimDeliverySyncJobs_cases {workerId : Text} {limit : ℤ} {place : Uuid → ℕ}
    {jobs : List DeliverySyncJob}
    (hclaim : claimDeliverySyncJobs db workerId now limit place = .ok (db', jobs)) :
    ∃ taken, jobs = taken.map (claimed workerId now) ∧ JobClaims db db' workerId now taken := by
  obtain ⟨queued, hqueued, hclaim⟩ := bind_eq_ok.mp hclaim
  obtain ⟨table, htable, hreturn⟩ := bind_eq_ok.mp hclaim
  cases hreturn
  have hmem (stored : DeliverySyncJob) :
      stored ∈ queued ↔ ∃ job ∈ db.jobs, reclaimed now job = stored :=
    CheckedTable.mem_of_updateWhere? (orFail_eq_ok.mp hqueued)
  have hdue : ∀ job ∈ firstOf (claimKey place) (boundedLimit limit).toNat
      (queued.table.rows.filter (isDue now)), job ∈ queued ∧ isDue now job = true := by
    intro job hjob
    exact List.mem_filter.mp (mem_of_mem_firstOf hjob)
  refine ⟨_, rfl, fun stored => ?_, fun job hjob => (hdue job hjob).2,
    fun job hjob => (hmem job).mp (hdue job hjob).1, rfl⟩
  rw [CheckedTable.mem_of_updateWhere? (orFail_eq_ok.mp htable)]
  have htaken : ∀ job ∈ queued, (firstOf (claimKey place) (boundedLimit limit).toNat
      (queued.table.rows.filter (isDue now))).any (·.id = job.id) = true
        ↔ job ∈ firstOf (claimKey place) (boundedLimit limit).toNat
          (queued.table.rows.filter (isDue now)) := by
    intro job hjob
    rw [List.any_eq_true]
    constructor
    · rintro ⟨other, hother, hid⟩
      have hsame : other = job :=
        CheckedTable.eq_of_key_eq (hdue other hother).1 hjob (of_decide_eq_true hid)
      exact hsame ▸ hother
    · intro hmember
      exact ⟨job, hmember, decide_eq_true rfl⟩
  constructor
  · rintro ⟨middle, hmiddle, hstored⟩
    obtain ⟨job, hjob, rfl⟩ := (hmem middle).mp hmiddle
    refine ⟨job, hjob, ?_⟩
    rw [← hstored, afterClaim, if_congr (htaken _ hmiddle) rfl rfl]
  · rintro ⟨job, hjob, hstored⟩
    have hmiddle : reclaimed now job ∈ queued := (hmem _).mpr ⟨job, hjob, rfl⟩
    refine ⟨_, hmiddle, ?_⟩
    rw [← hstored, afterClaim, if_congr (htaken _ hmiddle) rfl rfl]

/-- A claim call leaves the jobs that are neither due nor worked on. -/
theorem JobClaims.mem_of_not_due {workerId : Text} {taken : List DeliverySyncJob}
    (hclaims : JobClaims db db' workerId now taken) (hjob : job ∈ db.jobs)
    (hkept : reclaimed now job = job) (hdue : isDue now job = false) : job ∈ db'.jobs := by
  refine (hclaims.mem job).mpr ⟨job, hjob, ?_⟩
  rw [afterClaim, hkept, if_neg]
  intro htaken
  rw [hclaims.due job htaken] at hdue
  cases hdue

/-! ### Outcomes -/

theorem updateJob_cases {change : DeliverySyncJob → DeliverySyncJob}
    (hupdate : updateJob db jobId change = .ok db') :
    (∀ stored, stored ∈ db'.jobs ↔
      ∃ job ∈ db.jobs, (if job.id = jobId then change job else job) = stored)
      ∧ db' = { db with jobs := db'.jobs } := by
  obtain ⟨_, _, hupdate⟩ := bind_eq_ok.mp hupdate
  obtain ⟨jobs, hjobs, hreturn⟩ := bind_eq_ok.mp hupdate
  cases hreturn
  refine ⟨fun stored => ?_, rfl⟩
  rw [CheckedTable.mem_of_updateWhere? (orFail_eq_ok.mp hjobs)]
  simp

theorem exists_updateJob {change : DeliverySyncJob → DeliverySyncJob} (hjob : job ∈ db.jobs)
    (hsame : ∀ job, SameTask job (change job))
    (hcheck : ∀ job ∈ db.jobs, deliverySyncJobsChecks (change job) = true) :
    ∃ db', updateJob db job.id change = .ok db' := by
  obtain ⟨jobs, hjobs⟩ := CheckedTable.exists_updateWhere? db.jobs (fun row => row.id = job.id)
    change (fun {row other} => (hsame row).collides) fun row hrow _ => hcheck row hrow
  have hfound : (db.jobs.findFirst fun row => row.id = job.id).isSome = true :=
    List.find?_isSome.mpr ⟨job, hjob, decide_eq_true rfl⟩
  obtain ⟨found, hfound⟩ := Option.isSome_iff_exists.mp hfound
  refine ⟨{ db with jobs }, ?_⟩
  rw [updateJob, hfound, hjobs]
  rfl

/-- The result that is written: a success needs the connection. -/
def effectiveResult (db : DeliveryDb) (job : DeliverySyncJob)
    (result : Except DeliveryError Unit) : Except DeliveryError Unit :=
  match result with
  | .ok () =>
      if (db.connections.get? job.connectionId).isSome then .ok () else .error .recordNotFound
  | .error error => .error error

def outcomeChange (job : DeliverySyncJob) (result : Except DeliveryError Unit)
    (now written : Timestamp) : DeliverySyncJob → DeliverySyncJob :=
  match result with
  | .ok () => succeeded now written
  | .error error => failed error (nextAttemptAt job error now) now written

theorem sameTask_outcomeChange (job : DeliverySyncJob) (result : Except DeliveryError Unit)
    (now written : Timestamp) (row : DeliverySyncJob) :
    SameTask row (outcomeChange job result now written row) := by
  cases result <;> exact ⟨rfl, rfl, rfl, rfl, rfl, rfl⟩

theorem checks_outcomeChange (job : DeliverySyncJob) (result : Except DeliveryError Unit)
    (now written : Timestamp) {row : DeliverySyncJob} (hrow : row ∈ db.jobs) :
    deliverySyncJobsChecks (outcomeChange job result now written row) = true := by
  have hchecks := db.jobs.checked row hrow
  simp only [deliverySyncJobsChecks, Bool.and_eq_true] at hchecks ⊢
  obtain ⟨⟨⟨⟨⟨hkey, -⟩, hattempts⟩, hmin⟩, hmax⟩, hbound⟩ := hchecks
  cases result <;> exact ⟨⟨⟨⟨⟨hkey, rfl⟩, hattempts⟩, hmin⟩, hmax⟩, hbound⟩

/-- An outcome is always written to the job that its claim was about. -/
theorem exists_writeOutcome {row : DeliverySyncJob} (hrow : row ∈ db.jobs) (hid : row.id = job.id)
    (result : Except DeliveryError Unit) (now written : Timestamp) :
    ∃ db', writeOutcome db job result now written = .ok db'
      ∧ (∀ stored, stored ∈ db'.jobs ↔ ∃ row ∈ db.jobs, (if row.id = job.id then
        outcomeChange job (effectiveResult db job result) now written row else row) = stored)
      ∧ db' = { db with jobs := db'.jobs } := by
  obtain ⟨db', hupdate⟩ := exists_updateJob hrow
    (sameTask_outcomeChange job (effectiveResult db job result) now written) fun row hrow =>
      checks_outcomeChange job _ now written hrow
  rw [hid] at hupdate
  refine ⟨db', ?_, updateJob_cases hupdate⟩
  cases result with
  | error error => exact hupdate
  | ok done =>
      cases hconnection : db.connections.get? job.connectionId with
      | some connection =>
          simp only [effectiveResult, hconnection, Option.isSome_some, if_true] at hupdate
          have hsucceeded : succeedDeliveryJob db job now written = .ok db' := by
            rw [succeedDeliveryJob]
            simp only [outcomeChange] at hupdate
            rw [hupdate, bind_ok, hconnection]
            rfl
          simp only [writeOutcome, hsucceeded]
      | none =>
          simp only [effectiveResult, hconnection, Option.isSome_none, Bool.false_eq_true,
            if_false] at hupdate
          obtain ⟨lost, hlost⟩ := exists_updateJob hrow
            (sameTask_outcomeChange job (.ok ()) now written) fun row hrow =>
              checks_outcomeChange job _ now written hrow
          rw [hid] at hlost
          have hfailed : succeedDeliveryJob db job now written = .error .recordNotFound := by
            rw [succeedDeliveryJob]
            simp only [outcomeChange] at hlost
            rw [hlost, bind_ok, hconnection]
            rfl
          simp only [writeOutcome, hfailed]
          exact hupdate

/-- Writing an outcome touches the queue alone. -/
theorem rest_of_writeOutcome {result : Except DeliveryError Unit}
    (hwrite : writeOutcome db job result now written = .ok db') :
    db' = { db with jobs := db'.jobs } := by
  cases result with
  | error error => exact (updateJob_cases hwrite).2
  | ok done =>
      simp only [writeOutcome] at hwrite
      cases hsucceed : succeedDeliveryJob db job now written with
      | error error =>
          rw [hsucceed] at hwrite
          exact (updateJob_cases hwrite).2
      | ok succeededDb =>
          rw [hsucceed] at hwrite
          cases hwrite
          obtain ⟨updated, hupdate, hfound⟩ := bind_eq_ok.mp hsucceed
          obtain ⟨_, _, hreturn⟩ := bind_eq_ok.mp hfound
          cases hreturn
          exact (updateJob_cases hupdate).2

theorem retryDeliverySyncJob_cases (hretry : retryDeliverySyncJob db jobId now = .ok db') :
    (∃ job ∈ db.jobs, job.id = jobId ∧ job.status ∈ [.failed, .deadLetter, .cancelled])
      ∧ (∀ stored, stored ∈ db'.jobs ↔
        ∃ job ∈ db.jobs, (if job.id = jobId then retried now job else job) = stored)
      ∧ db' = { db with jobs := db'.jobs } := by
  obtain ⟨job, hfound, hretry⟩ := bind_eq_ok.mp hretry
  obtain ⟨_, hstatus, hupdate⟩ := bind_eq_ok.mp hretry
  obtain ⟨hjob, hid⟩ := CheckedTable.mem_of_findFirst (orFail_eq_ok.mp hfound)
  refine ⟨⟨job, hjob, of_decide_eq_true hid, ?_⟩, updateJob_cases hupdate⟩
  exact not_not.mp (decide_eq_false_iff_not.mp (failWhen_eq_ok.mp hstatus))

end Stallorder.SyncJobs
