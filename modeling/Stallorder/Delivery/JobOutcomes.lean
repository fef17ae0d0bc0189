import Stallorder.Delivery.QueueGrowth

/-!
# Who decides about a job

The outcome of a job is written to it by its id, whoever holds the job by then.
So the present holder alone decides exactly in the runs in which no worker
writes an outcome after its claim was taken back, unless it repeats what the job
already says.
-/

namespace Stallorder.JobOutcomes

open OrderContract DeliveryDatabase SyncJobs ExternalOrders DeliveryRun QueueGrowth
open Transaction.Program Run

/-! ## The present holder -/

/-- What holds of the claims, whatever the workers do. -/
structure Sound (system : DeliverySystem) : Prop where
  claimed : ∀ claim ∈ system.claims, ∃ job ∈ system.db.jobs, job.id = claim.job.id
  /-- A job that is held is worked on. -/
  held : ∀ jobId ticket, system.holder jobId = some ticket →
    ∃ job ∈ system.db.jobs, job.id = jobId ∧ job.status = .processing

/-- The step leaves every finished job finished; a worker whose claim is not
current changes neither the status nor the next attempt of its job. -/
structure OnlyHolderDecides (system : DeliverySystem) (command : DeliveryCommand) : Prop where
  succeeded : ∀ job ∈ system.db.jobs, job.status = .succeeded →
    ∀ job' ∈ (step system command).db.jobs, job'.id = job.id → job'.status = .succeeded
  stale : ∀ claim ∈ system.claims, ∀ written, command = .settle claim written →
    claim.isCurrent system = false → ∀ job ∈ system.db.jobs, job.id = claim.job.id →
      ∀ job' ∈ (step system command).db.jobs, job'.id = job.id →
        job'.status = job.status ∧ job'.nextAttemptAt = job.nextAttemptAt
  attempts : ∀ job ∈ (step system command).db.jobs, job.attemptCount ≤ job.maxAttempts

/-- The job already says what the worker is about to write. -/
def repeats (claim : JobClaim) (result : Except DeliveryError Unit) (job : DeliverySyncJob) :
    Bool :=
  match result with
  | .ok () => job.status = .succeeded
  | .error error =>
      match nextAttemptAt claim.job error claim.now with
      | some retryAt => job.status = .retryPending && job.nextAttemptAt = some retryAt
      | none => job.status = .deadLetter && job.nextAttemptAt = none

/-- A worker writes an outcome while its claim is current, or repeats what the
job says. -/
def settlesOwnJob (system : DeliverySystem) : DeliveryCommand → Bool
  | .settle claim _ =>
      match claim.result with
      | none => true
      | some result => claim ∉ system.claims || claim.isCurrent system
          || system.db.jobs.table.rows.all fun job => job.id ≠ claim.job.id
            || repeats claim (effectiveResult system.db claim.job result) job
  | _ => true

/-! ## One step -/

variable {system : DeliverySystem} {command : DeliveryCommand}

theorem attempts_of_mem {db : DeliveryDb} {job : DeliverySyncJob} (hjob : job ∈ db.jobs) :
    job.attemptCount ≤ job.maxAttempts := by
  have hchecks := db.jobs.checked job hjob
  simp only [deliverySyncJobsChecks, Bool.and_eq_true, decide_eq_true_eq] at hchecks
  exact hchecks.2

theorem job_unique {db : DeliveryDb} {left right : DeliverySyncJob} (hleft : left ∈ db.jobs)
    (hright : right ∈ db.jobs) (hid : left.id = right.id) : left = right :=
  CheckedTable.eq_of_key_eq hleft hright hid

theorem repeats_iff {claim : JobClaim} {result : Except DeliveryError Unit}
    {job : DeliverySyncJob} (written : Timestamp) :
    (outcomeChange claim.job result claim.now written job).status = job.status
        ∧ (outcomeChange claim.job result claim.now written job).nextAttemptAt = job.nextAttemptAt
      ↔ repeats claim result job = true := by
  cases result with
  | ok done => simp [outcomeChange, SyncJobs.succeeded, repeats, eq_comm]
  | error error =>
      change (if (nextAttemptAt claim.job error claim.now).isSome then DeliveryJobStatus.retryPending
          else .deadLetter) = job.status
        ∧ nextAttemptAt claim.job error claim.now = job.nextAttemptAt ↔ _
      cases hretry : nextAttemptAt claim.job error claim.now with
      | some retryAt =>
          simp only [Option.isSome_some, if_true, repeats, hretry, Bool.and_eq_true,
            decide_eq_true_eq]
          exact and_congr eq_comm eq_comm
      | none =>
          simp only [Option.isSome_none, Bool.false_eq_true, if_false, repeats, hretry,
            Bool.and_eq_true, decide_eq_true_eq]
          exact and_congr eq_comm eq_comm

/-- What a settled claim wrote. -/
structure Settles (system system' : DeliverySystem) (claim : JobClaim)
    (result : Except DeliveryError Unit) (written : Timestamp) : Prop where
  jobs : ∀ stored, stored ∈ system'.db.jobs ↔ ∃ job ∈ system.db.jobs,
    (if job.id = claim.job.id then
      outcomeChange claim.job (effectiveResult system.db claim.job result) claim.now written job
      else job) = stored
  claims : ∀ other ∈ system'.claims, other ∈ system.claims
  holder : ∀ jobId, system'.holder jobId =
    if claim.isCurrent system && jobId = claim.job.id then none else system.holder jobId

theorem settles_of_claim (hsound : Sound system) {claim : JobClaim} (hclaim : claim ∈ system.claims)
    {result : Except DeliveryError Unit} (hresult : claim.result = some result)
    (written : Timestamp) :
    Settles system (step system (.settle claim written)) claim result written := by
  obtain ⟨row, hrow, hid⟩ := hsound.claimed claim hclaim
  obtain ⟨db, hwrite, hjobs, -⟩ :=
    exists_writeOutcome hrow hid result claim.now written
  have hstep : step system (.settle claim written) = {
      system with
      db
      claims := system.claims.erase claim
      holder := fun jobId =>
        if claim.isCurrent system && jobId = claim.job.id then none else system.holder jobId } := by
    simp only [step, settleClaim, hresult, if_pos hclaim, hwrite]
    rfl
  rw [hstep]
  exact ⟨hjobs, fun other hother => List.mem_of_mem_erase hother, fun jobId => rfl⟩

/-- A step that writes an outcome, claims jobs, retries one, or leaves the jobs
of the queue as they are. -/
theorem step_cases (hsound : Sound system) (command : DeliveryCommand) :
    (∃ claim ∈ system.claims, ∃ result written, command = .settle claim written
      ∧ claim.result = some result
      ∧ Settles system (step system command) claim result written)
    ∨ (∃ worker now limit place db taken, command = .claim worker now limit place
      ∧ JobClaims system.db db worker now taken
      ∧ step system command = {
        system with
        db
        claims := system.claims ++ (taken.map (SyncJobs.claimed worker now)).map fun job =>
          ⟨system.nextTicket, worker, job, now, none⟩
        nextTicket := system.nextTicket + 1
        holder := holderAfterClaim system now (taken.map (SyncJobs.claimed worker now)) })
    ∨ (∃ jobId now db, command = .retry jobId now
      ∧ retryDeliverySyncJob system.db jobId now = .ok db
      ∧ step system command = { system with db })
    ∨ ((∀ claim written, command = .settle claim written → claim ∈ system.claims →
        claim.result = none)
      ∧ (∀ job ∈ system.db.jobs, job ∈ (step system command).db.jobs)
      ∧ (step system command).holder = system.holder
      ∧ ∀ claim ∈ (step system command).claims, ∃ before ∈ system.claims,
        before.job = claim.job) := by
  have hgrow : ∀ job ∈ system.db.jobs, job ∈ system.db.jobs := fun job hjob => hjob
  have hsame : ∀ claim ∈ system.claims, ∃ before ∈ system.claims, before.job = claim.job :=
    fun claim hclaim => ⟨claim, hclaim, rfl⟩
  cases command with
  | webhook call =>
      right; right; right
      exact ⟨by simp, (jobsGrow_processDeliveryWebhook call system.db).kept, rfl, hsame⟩
  | claim worker now limit place =>
      cases hclaim : claimDeliverySyncJobs system.db worker now limit place with
      | error error =>
          right; right; right
          simp only [step, claimJobs, hclaim]
          exact ⟨by simp, hgrow, trivial, hsame⟩
      | ok outcome =>
          obtain ⟨db, jobs⟩ := outcome
          right; left
          obtain ⟨taken, rfl, hclaims⟩ := claimDeliverySyncJobs_cases hclaim
          refine ⟨worker, now, limit, place, db, taken, rfl, hclaims, ?_⟩
          simp only [step, claimJobs, hclaim]
  | execute claim response =>
      right; right; right
      simp only [step, executeClaim]
      by_cases hready : (decide (claim ∈ system.claims) && claim.result.isNone) = true
      · rw [if_pos hready]
        refine ⟨by simp, (jobsGrow_runJob claim.job response system.db).kept, rfl,
          fun other hother => ?_⟩
        rcases List.mem_append.mp hother with hkept | hnew
        · exact ⟨other, List.mem_of_mem_erase hkept, rfl⟩
        · rw [List.mem_singleton.mp hnew]
          simp only [Bool.and_eq_true, decide_eq_true_eq] at hready
          exact ⟨claim, hready.1, rfl⟩
      · rw [if_neg hready]
        exact ⟨by simp, hgrow, rfl, hsame⟩
  | settle claim written =>
      cases hresult : claim.result with
      | none =>
          right; right; right
          simp only [step, settleClaim, hresult]
          refine ⟨?_, hgrow, trivial, hsame⟩
          intro other _ hother _
          cases hother
          exact hresult
      | some result =>
          by_cases hclaim : claim ∈ system.claims
          · left
            exact ⟨claim, hclaim, result, written, rfl, hresult,
              settles_of_claim hsound hclaim hresult written⟩
          · right; right; right
            simp only [step, settleClaim, hresult, if_neg hclaim]
            refine ⟨?_, hgrow, trivial, hsame⟩
            intro other _ hother hmem
            cases hother
            exact absurd hmem hclaim
  | crash claim =>
      right; right; right
      exact ⟨by simp, hgrow, rfl, fun other hother => ⟨other, List.mem_of_mem_erase hother, rfl⟩⟩
  | retry jobId now =>
      cases hretry : retryDeliverySyncJob system.db jobId now with
      | error error =>
          right; right; right
          simp only [step, hretry]
          exact ⟨by simp, hgrow, trivial, hsame⟩
      | ok db =>
          right; right; left
          refine ⟨jobId, now, db, rfl, hretry, ?_⟩
          simp only [step, hretry]
          rfl
  | transition request =>
      right; right; right
      simp only [step, transitionOrders]
      cases hacknowledge : acknowledgeExternalOrderBeforeTransition request system.db with
      | error error => exact ⟨by simp, hgrow, rfl, hsame⟩
      | ok acknowledged =>
          have hmoves := moves_transact (moves_transitionOrder request acknowledged.1) system.db
          exact ⟨by simp, hmoves.kept, rfl, hsame⟩
  | connect connection =>
      right; right; right
      exact ⟨by simp, hgrow, rfl, hsame⟩
  | platformCancels provider connectionId externalOrderId =>
      right; right; right
      exact ⟨by simp, hgrow, rfl, hsame⟩

/-- Only a job that is neither finished nor worked on is claimed. -/
theorem processing_of_claimed {db db' : DeliveryDb} {worker : Text} {now : Timestamp}
    {taken : List DeliverySyncJob} (hclaims : JobClaims db db' worker now taken)
    {jobId : Uuid} (htaken : (taken.map (SyncJobs.claimed worker now)).any (·.id = jobId) = true) :
    ∃ job ∈ db'.jobs, job.id = jobId ∧ job.status = .processing := by
  obtain ⟨claimed, hclaimed, hid⟩ := List.any_eq_true.mp htaken
  obtain ⟨job, hjob, rfl⟩ := List.mem_map.mp hclaimed
  obtain ⟨before, hbefore, hreclaimed⟩ := hclaims.queued job hjob
  refine ⟨_, (hclaims.mem _).mpr ⟨before, hbefore, rfl⟩, ?_, ?_⟩
  · rw [(sameTask_afterClaim worker now taken before).id]
    have hsame := (sameTask_reclaimed now before).id
    rw [hreclaimed] at hsame
    exact hsame.symm.trans (of_decide_eq_true hid)
  · rw [afterClaim, hreclaimed, if_pos hjob]
    rfl

theorem not_due_of_processing {job : DeliverySyncJob} {now : Timestamp}
    (hstatus : job.status = .processing) : isDue now job = false := by
  simp [isDue, hstatus]

theorem not_due_of_succeeded {job : DeliverySyncJob} {now : Timestamp}
    (hstatus : job.status = .succeeded) : isDue now job = false := by
  simp [isDue, hstatus]

/-- What the condition says about a claim that is settled. -/
theorem settlesOwnJob_iff {claim : JobClaim} {result : Except DeliveryError Unit}
    {written : Timestamp} (hclaim : claim ∈ system.claims) (hresult : claim.result = some result) :
    settlesOwnJob system (.settle claim written) = true ↔ claim.isCurrent system = true
      ∨ ∀ job ∈ system.db.jobs, job.id = claim.job.id →
        repeats claim (effectiveResult system.db claim.job result) job = true := by
  simp only [settlesOwnJob, hresult, hclaim, not_true_eq_false, decide_false, Bool.false_or,
    Bool.or_eq_true, List.all_eq_true, decide_eq_true_eq, ← imp_iff_not_or]
  rfl

/-- A current claim is about a job that is worked on. -/
theorem Sound.processing_of_current (hsound : Sound system) {claim : JobClaim}
    (hcurrent : claim.isCurrent system = true) {job : DeliverySyncJob} (hjob : job ∈ system.db.jobs)
    (hid : job.id = claim.job.id) : job.status = .processing := by
  obtain ⟨held, hheld, hheldId, hstatus⟩ := hsound.held _ _ (of_decide_eq_true hcurrent)
  rw [job_unique hjob hheld (hid.trans hheldId.symm)]
  exact hstatus

/-- Settling leaves a finished job finished when the worker decides about its own
job or repeats what the job says. -/
theorem succeeded_of_settles (hsound : Sound system) {claim : JobClaim}
    {result : Except DeliveryError Unit} {written : Timestamp} {system' : DeliverySystem}
    (hsettles : Settles system system' claim result written)
    (howned : claim.isCurrent system = true ∨ ∀ job ∈ system.db.jobs, job.id = claim.job.id →
      repeats claim (effectiveResult system.db claim.job result) job = true)
    {job job' : DeliverySyncJob} (hjob : job ∈ system.db.jobs) (hstatus : job.status = .succeeded)
    (hjob' : job' ∈ system'.db.jobs) (hid : job'.id = job.id) : job'.status = .succeeded := by
  obtain ⟨before, hbefore, hrewritten⟩ := (hsettles.jobs job').mp hjob'
  by_cases hclaimed : before.id = claim.job.id
  · rw [if_pos hclaimed] at hrewritten
    have hsame : before = job := by
      apply job_unique hbefore hjob
      rw [← hid, ← hrewritten, (sameTask_outcomeChange _ _ _ _ before).id]
    rw [hsame] at hclaimed hrewritten
    rcases howned with hcurrent | hrepeats
    · rw [hsound.processing_of_current hcurrent hjob hclaimed] at hstatus
      cases hstatus
    · rw [← hrewritten, ((repeats_iff _).mpr (hrepeats job hjob hclaimed)).1]
      exact hstatus
  · rw [if_neg hclaimed] at hrewritten
    rw [← hrewritten] at hid ⊢
    rw [job_unique hbefore hjob hid]
    exact hstatus

theorem stale_of_settles {claim : JobClaim} {result : Except DeliveryError Unit}
    {written : Timestamp} {system' : DeliverySystem}
    (hsettles : Settles system system' claim result written)
    {job : DeliverySyncJob} (hjob : job ∈ system.db.jobs) (hid : job.id = claim.job.id) :
    (∀ job' ∈ system'.db.jobs, job'.id = job.id →
        job'.status = job.status ∧ job'.nextAttemptAt = job.nextAttemptAt)
      ↔ repeats claim (effectiveResult system.db claim.job result) job = true := by
  have hwritten : outcomeChange claim.job (effectiveResult system.db claim.job result) claim.now
      written job ∈ system'.db.jobs := (hsettles.jobs _).mpr ⟨job, hjob, if_pos hid⟩
  rw [← repeats_iff written]
  constructor
  · intro hkept
    exact hkept _ hwritten (sameTask_outcomeChange _ _ _ _ job).id
  · intro hkept job' hjob' hid'
    rw [job_unique hjob' hwritten (hid'.trans (sameTask_outcomeChange _ _ _ _ job).id.symm)]
    exact hkept

theorem onlyHolderDecides_iff (hsound : Sound system) (command : DeliveryCommand) :
    OnlyHolderDecides system command ↔ settlesOwnJob system command = true := by
  have hattempts : ∀ job ∈ (step system command).db.jobs, job.attemptCount ≤ job.maxAttempts :=
    fun job hjob => attempts_of_mem hjob
  rcases step_cases hsound command with
    ⟨claim, hclaim, result, written, rfl, hresult, hsettles⟩
    | ⟨worker, now, limit, place, db, taken, rfl, hclaims, hstep⟩
    | ⟨jobId, now, db, rfl, hretry, hstep⟩ | ⟨hnone, hgrow, -, -⟩
  · rw [settlesOwnJob_iff hclaim hresult]
    constructor
    · intro honly
      cases hcurrent : claim.isCurrent system with
      | true => exact Or.inl rfl
      | false =>
          right
          intro job hjob hid
          exact (stale_of_settles hsettles hjob hid).mp
            (honly.stale claim hclaim written rfl hcurrent job hjob hid)
    · intro howned
      refine ⟨fun job hjob hstatus job' hjob' hid =>
        succeeded_of_settles hsound hsettles howned hjob hstatus hjob' hid, ?_, hattempts⟩
      intro other _ otherWritten hcommand hstale job hjob hid
      cases hcommand
      rcases howned with hcurrent | hrepeats
      · rw [hcurrent] at hstale
        cases hstale
      · exact (stale_of_settles hsettles hjob hid).mpr (hrepeats job hjob hid)
  · refine iff_of_true ⟨?_, ?_, hattempts⟩ rfl
    · intro job hjob hstatus job' hjob' hid
      rw [hstep] at hjob'
      have hkept := hclaims.mem_of_not_due hjob
        (reclaimed_of_not_processing (by rw [hstatus]; exact DeliveryJobStatus.noConfusion))
        (not_due_of_succeeded hstatus)
      rw [job_unique hjob' hkept hid]
      exact hstatus
    · intro claim _ written hcommand
      cases hcommand
  · refine iff_of_true ⟨?_, ?_, hattempts⟩ rfl
    · intro job hjob hstatus job' hjob' hid
      obtain ⟨⟨retried, hretried, hretriedId, hretriedStatus⟩, hjobs, -⟩ :=
        retryDeliverySyncJob_cases hretry
      rw [hstep] at hjob'
      have hother : job.id ≠ jobId := by
        intro hsame
        rw [← job_unique hjob hretried (hsame.trans hretriedId.symm), hstatus] at hretriedStatus
        simp at hretriedStatus
      have hkept : job ∈ db.jobs := (hjobs job).mpr ⟨job, hjob, if_neg hother⟩
      rw [job_unique hjob' hkept hid]
      exact hstatus
    · intro claim _ written hcommand
      cases hcommand
  · refine iff_of_true ⟨?_, ?_, hattempts⟩ ?_
    · intro job hjob hstatus job' hjob' hid
      rw [job_unique hjob' (hgrow job hjob) hid]
      exact hstatus
    · intro claim hclaim written hcommand _ job hjob _ job' hjob' hid
      rw [job_unique hjob' (hgrow job hjob) hid]
      exact ⟨rfl, rfl⟩
    · cases command with
      | settle claim written =>
          cases hresult : claim.result with
          | none => simp [settlesOwnJob, hresult]
          | some result =>
              have hlost : claim ∉ system.claims := by
                intro hclaim
                rw [hnone claim written rfl hclaim] at hresult
                cases hresult
              simp [settlesOwnJob, hresult, hlost]
      | _ => rfl

theorem sound_step (system : DeliverySystem) (command : DeliveryCommand) (hsound : Sound system)
    (howned : settlesOwnJob system command = true) : Sound (step system command) := by
  rcases step_cases hsound command with
    ⟨claim, hclaim, result, written, rfl, hresult, hsettles⟩
    | ⟨worker, now, limit, place, db, taken, rfl, hclaims, hstep⟩
    | ⟨jobId, now, db, rfl, hretry, hstep⟩ | ⟨-, hgrow, hholder, hkept⟩
  · have hrow : ∀ job ∈ system.db.jobs, ∃ job' ∈ (step system (.settle claim written)).db.jobs,
        job'.id = job.id := by
      intro job hjob
      refine ⟨_, (hsettles.jobs _).mpr ⟨job, hjob, rfl⟩, ?_⟩
      split
      · exact (sameTask_outcomeChange _ _ _ _ job).id
      · rfl
    refine ⟨fun other hother => ?_, fun jobId ticket hheld => ?_⟩
    · obtain ⟨job, hjob, hid⟩ := hsound.claimed other (hsettles.claims other hother)
      obtain ⟨job', hjob', hid'⟩ := hrow job hjob
      exact ⟨job', hjob', hid'.trans hid⟩
    · rw [hsettles.holder] at hheld
      by_cases hreleased : (claim.isCurrent system && decide (jobId = claim.job.id)) = true
      · rw [if_pos hreleased] at hheld
        cases hheld
      · rw [if_neg hreleased] at hheld
        obtain ⟨job, hjob, hid, hstatus⟩ := hsound.held jobId ticket hheld
        by_cases hclaimed : job.id = claim.job.id
        · -- The outcome of a claim that is not current repeats what the job says.
          refine ⟨_, (hsettles.jobs _).mpr ⟨job, hjob, if_pos hclaimed⟩, ?_, ?_⟩
          · rw [(sameTask_outcomeChange _ _ _ _ job).id, hid]
          · rcases (settlesOwnJob_iff hclaim hresult).mp howned with hcurrent | hrepeats
            · rw [hcurrent, ← hid, hclaimed] at hreleased
              simp at hreleased
            · rw [((repeats_iff _).mpr (hrepeats job hjob hclaimed)).1]
              exact hstatus
        · exact ⟨job, (hsettles.jobs job).mpr ⟨job, hjob, if_neg hclaimed⟩, hid, hstatus⟩
  · have hrow : ∀ job ∈ system.db.jobs, ∃ job' ∈ db.jobs, job'.id = job.id := fun job hjob =>
      ⟨_, (hclaims.mem _).mpr ⟨job, hjob, rfl⟩, (sameTask_afterClaim worker now taken job).id⟩
    rw [hstep]
    refine ⟨fun other hother => ?_, fun jobId ticket hheld => ?_⟩
    · rcases List.mem_append.mp hother with hbefore | hnew
      · obtain ⟨job, hjob, hid⟩ := hsound.claimed other hbefore
        obtain ⟨job', hjob', hid'⟩ := hrow job hjob
        exact ⟨job', hjob', hid'.trans hid⟩
      · obtain ⟨job, hjob, rfl⟩ := List.mem_map.mp hnew
        obtain ⟨job', hjob', hid', -⟩ := processing_of_claimed hclaims
          (List.any_eq_true.mpr ⟨job, hjob, decide_eq_true rfl⟩)
        exact ⟨job', hjob', hid'⟩
    · change holderAfterClaim system now (taken.map (SyncJobs.claimed worker now)) jobId = some ticket
        at hheld
      unfold holderAfterClaim at hheld
      by_cases htaken : (taken.map (SyncJobs.claimed worker now)).any (·.id = jobId) = true
      · exact processing_of_claimed hclaims htaken
      · rw [if_neg htaken] at hheld
        by_cases hexpired : system.db.jobs.table.rows.any
            (fun job => job.id = jobId && hasExpiredLease now job) = true
        · rw [if_pos hexpired] at hheld
          cases hheld
        · rw [if_neg hexpired] at hheld
          obtain ⟨job, hjob, hid, hstatus⟩ := hsound.held jobId ticket hheld
          have hrunning : hasExpiredLease now job = false := by
            rw [Bool.eq_false_iff]
            intro hlapsed
            apply hexpired
            exact List.any_eq_true.mpr ⟨job, hjob, by simp [hid, hlapsed]⟩
          exact ⟨job, hclaims.mem_of_not_due hjob (reclaimed_of_running hrunning)
            (not_due_of_processing hstatus), hid, hstatus⟩
  · obtain ⟨⟨retried, hretried, hretriedId, hretriedStatus⟩, hjobs, -⟩ :=
      retryDeliverySyncJob_cases hretry
    rw [hstep]
    refine ⟨fun other hother => ?_, fun heldId ticket hheld => ?_⟩
    · obtain ⟨job, hjob, hid⟩ := hsound.claimed other hother
      refine ⟨_, (hjobs _).mpr ⟨job, hjob, rfl⟩, ?_⟩
      split <;> exact hid
    · obtain ⟨job, hjob, hid, hstatus⟩ := hsound.held heldId ticket hheld
      have hother : job.id ≠ jobId := by
        intro hsame
        rw [← job_unique hjob hretried (hsame.trans hretriedId.symm), hstatus] at hretriedStatus
        simp at hretriedStatus
      exact ⟨job, (hjobs job).mpr ⟨job, hjob, if_neg hother⟩, hid, hstatus⟩
  · refine ⟨fun other hother => ?_, fun jobId ticket hheld => ?_⟩
    · obtain ⟨before, hbefore, hsame⟩ := hkept other hother
      obtain ⟨job, hjob, hid⟩ := hsound.claimed before hbefore
      exact ⟨job, hgrow job hjob, hid.trans (congrArg (·.id) hsame)⟩
    · rw [hholder] at hheld
      obtain ⟨job, hjob, hid, hstatus⟩ := hsound.held jobId ticket hheld
      exact ⟨job, hgrow job hjob, hid, hstatus⟩

theorem sound_initial : Sound .initial where
  claimed _ hclaim := absurd hclaim List.not_mem_nil
  held _ _ hheld := by cases hheld

/-! ## Runs -/

theorem safely_decides_iff (hsound : Sound system) (commands : List DeliveryCommand) :
    Safely step OnlyHolderDecides system commands
      ↔ Safely step (fun system command => settlesOwnJob system command = true) system commands :=
  safely_congr Sound (fun _ command hsound => onlyHolderDecides_iff hsound command) sound_step
    hsound commands

/-- Whoever holds a job alone decides about it, throughout a run, exactly when
every worker settles its own job or repeats what the job says. -/
theorem only_holder_decides_iff (commands : List DeliveryCommand) :
    Safely step OnlyHolderDecides .initial commands
      ↔ Safely step (fun system command => settlesOwnJob system command = true) .initial
        commands :=
  safely_decides_iff sound_initial commands

/-! ## A worker that outlives its lease -/

def fetchResponse (access : Except DeliveryError Unit) : JobResponse where
  access := access
  fetched := .ok (sampleOrder .uberEats)
  action := .ok ()
  reads := sampleReads
  ids := ⟨200, 201, 202⟩
  orderId := 300
  now := 700_000

def fetchClaim (ticket : ℕ) (worker : Text) (attemptCount : ℕ) (now : Timestamp)
    (result : Option (Except DeliveryError Unit)) : JobClaim where
  ticket := ticket
  worker := worker
  job := {
    (fetchJob (sampleConnection .uberEats) (announcement "first".toList) sampleReference 100).row
      102 1000 with
    status := .processing
    claimedByWorker := some worker
    attemptCount := attemptCount
    startedAt := some now
    lastErrorCode := if attemptCount = 1 then none else some .workerLeaseExpired
    updatedAt := now }
  now := now
  result := result

/-- The first worker is slow; the second one gets the job eleven minutes later,
and fetches the order. -/
def fetchedRun : List DeliveryCommand :=
  [.connect (sampleConnection .uberEats),
    .webhook (announceCall "first".toList ⟨100, 101, 102⟩ 1000),
    .claim "slow".toList 1000 20 id,
    .claim "fast".toList 661_000 20 id,
    .execute (fetchClaim 1 "fast".toList 2 661_000 none) (fetchResponse (.ok ())),
    .settle (fetchClaim 1 "fast".toList 2 661_000 (some (.ok ()))) 700_000]

/-- Then the first worker reports that the platform did not answer. -/
def overtakenRun : List DeliveryCommand :=
  fetchedRun ++
    [.execute (fetchClaim 0 "slow".toList 1 1000 none)
      (fetchResponse (.error (.platform .providerTimeout true))),
    .settle (fetchClaim 0 "slow".toList 1 1000 (some (.error (.platform .providerTimeout true))))
      710_000]

theorem stale_worker_decides :
    (∃ job ∈ (exec step .initial fetchedRun).db.jobs.table.rows,
        job.id = 102 ∧ job.status = .succeeded)
      ∧ (∃ job ∈ (exec step .initial overtakenRun).db.jobs.table.rows,
        job.id = 102 ∧ job.status = .retryPending)
      ∧ ¬ Safely step OnlyHolderDecides .initial overtakenRun := by
  refine ⟨by decide +kernel, by decide +kernel, ?_⟩
  rw [safely_decides_iff sound_initial]
  decide +kernel

end Stallorder.JobOutcomes
