import Stallorder.Core.Run
import Stallorder.Outbox.OutboxDatabase

/-!
# Dispatching the notification outbox

Workers claim rows of the outbox, send them, and report what became of them.  A
worker may stop at any point, or go on after its lease expired and the row was
claimed by another one.  Calls arrive in any order; only the clock of the claim
calls does not run backwards.
-/

namespace Stallorder.OutboxDispatch

open OrderContract OutboxDatabase Checks FirstOf Run

/-! ## One delivery -/

inductive DeliveryError
  | outboxDelivery (code : Text) (retryable : Bool)
  | notificationProvider (code : Text) (retryable : Bool)
  | typeError
  | timeoutError
  | other

/-- A character outside the basic plane is replaced by two. -/
def safeErrorCode (value : Text) : Text :=
  let normalized := ((upper value.trim).flatMap fun c =>
    if c.val < 0x10000 then [safeErrorCharacter c] else ['_', '_']).take 120
  if normalized = [] then "OUTBOX_DELIVERY_FAILED".toList else normalized

structure OutboxFailure where
  code : Text
  retryable : Bool

def outboxFailure : DeliveryError → OutboxFailure
  | .outboxDelivery code retryable => ⟨safeErrorCode code, retryable⟩
  | .notificationProvider code retryable => ⟨safeErrorCode code, retryable⟩
  | .typeError => ⟨"OUTBOX_PROVIDER_TIMEOUT".toList, true⟩
  | .timeoutError => ⟨"OUTBOX_PROVIDER_TIMEOUT".toList, true⟩
  | .other => ⟨"OUTBOX_DELIVERY_FAILED".toList, false⟩

def delaysMinutes : List ℤ := [1, 5, 15, 60, 360]

def outboxRetryAt (attemptCount maxAttempts : ℕ) (retryable : Bool) (now : Timestamp) :
    Option Timestamp :=
  if !retryable || maxAttempts ≤ attemptCount then
    none
  else
    let delay := delaysMinutes.getD (min (attemptCount - 1) (delaysMinutes.length - 1)) 0
    some (now + delay * 60_000)

inductive DispatchOutcome
  | failed (status : FailStatus) (retryAt : Option Timestamp)
  | delivered
  | claimLost
  deriving DecidableEq

def dispatchClaimedNotificationOutbox (outbox : NotificationOutbox) (entry : OutboxRow)
    (worker : Text) (delivery : Except DeliveryError Unit) (now : Timestamp) :
    Except OutboxError (NotificationOutbox × DispatchOutcome) :=
  match delivery with
  | .error error => do
      let failure := outboxFailure error
      let retryAt := outboxRetryAt entry.attemptCount entry.maxAttempts failure.retryable now
      let (outbox', status) ← failNotificationOutbox outbox entry.id worker (some failure.code)
        retryAt
      return (outbox', .failed status retryAt)
  | .ok () => do
      let (outbox', completed) ← completeNotificationOutbox outbox entry.id worker now
      return (outbox', if completed then .delivered else .claimLost)

/-! ## Runs -/

/-- A row as the worker got it from its claim. -/
structure Held where
  worker : Text
  entry : OutboxRow
  deriving DecidableEq

structure OutboxSystem where
  outbox : NotificationOutbox
  clock : Timestamp
  held : List Held

/-- What the writers of notifications choose of a new row. -/
structure NewDelivery where
  id : Uuid
  organizationId : Uuid
  billingNotificationId : Uuid
  channel : OutboxChannel
  availableAt : Timestamp
  maxAttempts : ℕ
  createdAt : Timestamp

def NewDelivery.row (new : NewDelivery) : OutboxRow where
  id := new.id
  organizationId := new.organizationId
  billingNotificationId := new.billingNotificationId
  channel := new.channel
  status := .pending
  availableAt := new.availableAt
  deliveredAt := none
  attemptCount := 0
  maxAttempts := new.maxAttempts
  claimedByWorker := none
  leaseExpiresAt := none
  lastErrorCode := none
  createdAt := new.createdAt

inductive Command
  | insert (new : NewDelivery)
  | claim (worker : Text) (limit : ℤ) (now : Timestamp) (leaseSeconds : ℤ)
  | complete (outboxId : Uuid) (worker : Text) (now : Timestamp)
  | fail (outboxId : Uuid) (worker : Text) (errorCode : Option Text) (retryAt : Option Timestamp)
  | dispatch (held : Held) (delivery : Except DeliveryError Unit) (now : Timestamp)
  | crash (worker : Text)

/-- What the workers hold after one of them reported the outcome of a row. -/
def released (held : List Held) (outboxId : Uuid) (worker : Text) : List Held :=
  held.filter fun other => !(other.worker = worker && other.entry.id = outboxId)

def settle {Reply : Type} (system : OutboxSystem) (outboxId : Uuid) (worker : Text)
    (call : Except OutboxError (NotificationOutbox × Reply)) : OutboxSystem :=
  match call with
  | .ok (outbox, _) => { system with outbox, held := released system.held outboxId worker }
  | .error _ => system

def step (system : OutboxSystem) : Command → OutboxSystem
  | .insert new =>
      match system.outbox.insert? new.row with
      | some outbox => { system with outbox }
      | none => system
  | .claim worker limit now leaseSeconds =>
      if now < system.clock then
        system
      else
        match claimNotificationOutbox system.outbox worker limit now leaseSeconds with
        | .ok (outbox, entries) =>
            { outbox, clock := now, held := system.held ++ entries.map (Held.mk worker) }
        | .error _ => { system with clock := now }
  | .complete outboxId worker now =>
      settle system outboxId worker (completeNotificationOutbox system.outbox outboxId worker now)
  | .fail outboxId worker errorCode retryAt =>
      settle system outboxId worker
        (failNotificationOutbox system.outbox outboxId worker errorCode retryAt)
  | .dispatch held delivery now =>
      if held ∈ system.held then
        settle system held.entry.id held.worker
          (dispatchClaimedNotificationOutbox system.outbox held.entry held.worker delivery now)
      else
        system
  | .crash worker => { system with held := system.held.filter (·.worker ≠ worker) }

def initial : OutboxSystem where
  outbox := .empty
  clock := 0
  held := []

/-! ## What a step does -/

/-- One worker reported the outcome of a row, which settled it when the worker
held it. -/
structure Reports (system system' : OutboxSystem) (outboxId : Uuid) (worker : Text)
    (change : OutboxRow → OutboxRow) : Prop where
  same : ∀ row, SameDelivery row (change row)
  attemptCount : ∀ row, (change row).attemptCount = row.attemptCount
  rows : SettlesHeld system.outbox system'.outbox outboxId worker change
  clock : system'.clock = system.clock
  held : system'.held = released system.held outboxId worker

variable {system : OutboxSystem} {row : OutboxRow}

theorem reports_complete (system : OutboxSystem) (outboxId : Uuid) (worker : Text)
    (now : Timestamp) :
    Reports system (settle system outboxId worker
      (completeNotificationOutbox system.outbox outboxId worker now)) outboxId worker
      (delivered now) := by
  obtain ⟨outbox, done, hcomplete, hrows⟩ :=
    exists_completeNotificationOutbox system.outbox outboxId worker now
  rw [hcomplete]
  exact ⟨fun row => ⟨rfl, rfl, rfl, rfl⟩, fun row => rfl, hrows, rfl, rfl⟩

theorem attemptCount_failed (errorCode : Text) (nextAttempt : Option Timestamp)
    (row : OutboxRow) : (failed errorCode nextAttempt row).attemptCount = row.attemptCount := by
  cases nextAttempt <;> rfl

theorem reports_fail (system : OutboxSystem) (outboxId : Uuid) (worker : Text)
    (errorCode : Option Text) (retryAt : Option Timestamp) :
    Reports system (settle system outboxId worker
      (failNotificationOutbox system.outbox outboxId worker errorCode retryAt)) outboxId worker
      (fun row => failed (storedErrorCode errorCode) (nextAttemptAt retryAt row) row) := by
  obtain ⟨outbox, status, hfail, hrows⟩ :=
    exists_failNotificationOutbox system.outbox outboxId worker errorCode retryAt
  rw [hfail]
  exact ⟨fun row => sameDelivery_failed _ _ row, fun row => attemptCount_failed _ _ row, hrows,
    rfl, rfl⟩

theorem exists_reports_dispatch (system : OutboxSystem) (held : Held)
    (delivery : Except DeliveryError Unit) (now : Timestamp) :
    ∃ change, Reports system (settle system held.entry.id held.worker
      (dispatchClaimedNotificationOutbox system.outbox held.entry held.worker delivery now))
      held.entry.id held.worker change := by
  cases delivery with
  | ok done =>
      have hreports := reports_complete system held.entry.id held.worker now
      obtain ⟨outbox, completed, hcomplete, -⟩ :=
        exists_completeNotificationOutbox system.outbox held.entry.id held.worker now
      rw [hcomplete] at hreports
      refine ⟨delivered now, ?_⟩
      simp only [dispatchClaimedNotificationOutbox, hcomplete, bind_ok]
      exact hreports
  | error error =>
      let failure := outboxFailure error
      let retryAt := outboxRetryAt held.entry.attemptCount held.entry.maxAttempts
        failure.retryable now
      have hreports := reports_fail system held.entry.id held.worker (some failure.code) retryAt
      obtain ⟨outbox, status, hfail, -⟩ := exists_failNotificationOutbox system.outbox
        held.entry.id held.worker (some failure.code) retryAt
      rw [hfail] at hreports
      refine ⟨fun row => failed (storedErrorCode (some failure.code)) (nextAttemptAt retryAt row) row,
        ?_⟩
      simp only [dispatchClaimedNotificationOutbox]
      rw [hfail]
      exact hreports

/-- A step inserts a row, claims rows, reports the outcome of a row, or lets
workers stop. -/
theorem step_cases (system : OutboxSystem) (command : Command) :
    (∃ new outbox, command = .insert new ∧ system.outbox.insert? new.row = some outbox
      ∧ step system command = { system with outbox })
    ∨ (∃ worker limit now leaseSeconds queued outbox,
      command = .claim worker limit now leaseSeconds ∧ system.clock ≤ now
      ∧ ClaimAllowed worker limit leaseSeconds
      ∧ Claims system.outbox queued outbox worker limit now (now + leaseSeconds * 1000)
      ∧ step system command = {
        outbox
        clock := now
        held := system.held ++ (takenRows queued limit now).map fun row =>
          Held.mk worker (claimed worker (now + leaseSeconds * 1000) row) })
    ∨ (∃ outboxId worker change,
      Reports system (step system command) outboxId worker change)
    ∨ ((step system command).outbox = system.outbox
      ∧ system.clock ≤ (step system command).clock
      ∧ ∀ held ∈ (step system command).held, held ∈ system.held) := by
  cases command with
  | insert new =>
      cases hinsert : system.outbox.insert? new.row with
      | some outbox =>
          left
          exact ⟨new, outbox, rfl, hinsert, by simp only [step, hinsert]⟩
      | none =>
          right; right; right
          simp only [step, hinsert]
          exact ⟨trivial, le_refl _, fun held hheld => hheld⟩
  | claim worker limit now leaseSeconds =>
      by_cases hback : now < system.clock
      · right; right; right
        simp only [step, if_pos hback]
        exact ⟨trivial, le_refl _, fun held hheld => hheld⟩
      · by_cases hallowed : ClaimAllowed worker limit leaseSeconds
        · right; left
          obtain ⟨queued, outbox, hclaim, hclaims⟩ :=
            exists_claimNotificationOutbox hallowed system.outbox now
          refine ⟨worker, limit, now, leaseSeconds, queued, outbox, rfl, not_lt.mp hback, hallowed,
            hclaims, ?_⟩
          simp only [step, if_neg hback, hclaim, List.map_map]
          rfl
        · right; right; right
          obtain ⟨error, hrefused, -⟩ :=
            claimNotificationOutbox_refused system.outbox now hallowed
          simp only [step, if_neg hback, hrefused]
          exact ⟨trivial, not_lt.mp hback, fun held hheld => hheld⟩
  | complete outboxId worker now =>
      right; right; left
      exact ⟨outboxId, worker, _, reports_complete system outboxId worker now⟩
  | fail outboxId worker errorCode retryAt =>
      right; right; left
      exact ⟨outboxId, worker, _, reports_fail system outboxId worker errorCode retryAt⟩
  | dispatch held delivery now =>
      by_cases hheld : held ∈ system.held
      · right; right; left
        obtain ⟨change, hreports⟩ := exists_reports_dispatch system held delivery now
        refine ⟨held.entry.id, held.worker, change, ?_⟩
        simp only [step, if_pos hheld]
        exact hreports
      · right; right; right
        simp only [step, if_neg hheld]
        exact ⟨trivial, le_refl _, fun other hother => hother⟩
  | crash worker =>
      right; right; right
      exact ⟨rfl, le_refl _, fun held hheld => (List.mem_filter.mp hheld).1⟩

/-! ## What holds in every run -/

structure Sound (system : OutboxSystem) : Prop where
  attempts : ∀ row ∈ system.outbox, row.attemptCount ≤ row.maxAttempts
  claimedBy : ∀ held ∈ system.held, held.entry.claimedByWorker = some held.worker
  /-- Until its lease expires, the row of a worker stays as it was claimed. -/
  kept : ∀ held ∈ system.held, ∃ leaseExpiresAt, held.entry.leaseExpiresAt = some leaseExpiresAt
    ∧ (system.clock < leaseExpiresAt → held.entry ∈ system.outbox)

theorem Reports.mem_of_not_held {system' : OutboxSystem} {outboxId : Uuid} {worker : Text}
    {change : OutboxRow → OutboxRow} (hreports : Reports system system' outboxId worker change)
    (hrow : row ∈ system.outbox) (hnot : isHeldBy outboxId worker row = false) :
    row ∈ system'.outbox :=
  (hreports.rows row).mpr ⟨row, hrow, by rw [hnot]; rfl⟩

theorem sound_reports {system' : OutboxSystem} {outboxId : Uuid} {worker : Text}
    {change : OutboxRow → OutboxRow} (hsound : Sound system)
    (hreports : Reports system system' outboxId worker change) : Sound system' where
  attempts stored hstored := by
    obtain ⟨row, hrow, hrewritten⟩ := (hreports.rows stored).mp hstored
    rw [← hrewritten]
    by_cases hheld : isHeldBy outboxId worker row = true
    · rw [if_pos hheld, hreports.attemptCount, (hreports.same row).maxAttempts]
      exact hsound.attempts row hrow
    · rw [if_neg hheld]
      exact hsound.attempts row hrow
  claimedBy held hheld := by
    rw [hreports.held] at hheld
    exact hsound.claimedBy held (List.mem_filter.mp hheld).1
  kept held hheld := by
    rw [hreports.held] at hheld
    obtain ⟨hbefore, hother⟩ := List.mem_filter.mp hheld
    obtain ⟨leaseExpiresAt, hlease, hkept⟩ := hsound.kept held hbefore
    refine ⟨leaseExpiresAt, hlease, fun hrunning => ?_⟩
    rw [hreports.clock] at hrunning
    apply hreports.mem_of_not_held (hkept hrunning)
    have hclaimed := hsound.claimedBy held hbefore
    rw [isHeldBy, hclaimed]
    by_cases hid : held.entry.id = outboxId
    · have hworker : held.worker ≠ worker := by
        intro hsame
        simp [hsame, hid] at hother
      simp [hworker]
    · simp [hid]

theorem sound_step (system : OutboxSystem) (command : Command) (hsound : Sound system) :
    Sound (step system command) := by
  rcases step_cases system command with
    ⟨new, outbox, -, hinsert, hstep⟩
    | ⟨worker, limit, now, leaseSeconds, queued, outbox, -, hclock, hallowed, hclaims, hstep⟩
    | ⟨outboxId, worker, change, hreports⟩ | ⟨houtbox, hclock, hheld⟩
  · rw [hstep]
    refine ⟨fun row hrow => ?_, hsound.claimedBy, fun held hheld => ?_⟩
    · rcases (CheckedTable.mem_of_insert? hinsert).mp hrow with hbefore | rfl
      · exact hsound.attempts row hbefore
      · exact Nat.zero_le _
    · obtain ⟨leaseExpiresAt, hlease, hkept⟩ := hsound.kept held hheld
      exact ⟨leaseExpiresAt, hlease, fun hrunning =>
        (CheckedTable.mem_of_insert? hinsert).mpr (Or.inl (hkept hrunning))⟩
  · rw [hstep]
    refine ⟨hclaims.attempts hsound.attempts, fun held hheld => ?_, fun held hheld => ?_⟩
    · rcases List.mem_append.mp hheld with hbefore | htaken
      · exact hsound.claimedBy held hbefore
      · obtain ⟨row, -, rfl⟩ := List.mem_map.mp htaken
        rfl
    · rcases List.mem_append.mp hheld with hbefore | htaken
      · obtain ⟨lease, hlease, hkept⟩ := hsound.kept held hbefore
        exact ⟨lease, hlease, fun hrunning =>
          hclaims.mem_of_leased (hkept (hclock.trans_lt hrunning)) hlease hrunning⟩
      · obtain ⟨row, hrow, rfl⟩ := List.mem_map.mp htaken
        exact ⟨_, rfl, fun _ => (hclaims.mem _).mpr
          ⟨row, (candidate_of_taken hrow).1, if_pos hrow⟩⟩
  · exact sound_reports hsound hreports
  · refine ⟨?_, fun held hafter => hsound.claimedBy held (hheld held hafter),
      fun held hafter => ?_⟩
    · rw [houtbox]
      exact hsound.attempts
    · obtain ⟨lease, hlease, hkept⟩ := hsound.kept held (hheld held hafter)
      rw [houtbox]
      exact ⟨lease, hlease, fun hrunning => hkept (hclock.trans_lt hrunning)⟩

theorem sound_initial : Sound initial where
  attempts row hrow := absurd hrow (CheckedTable.notMem_empty row)
  claimedBy _ hheld := absurd hheld List.not_mem_nil
  kept _ hheld := absurd hheld List.not_mem_nil

/-- A row that is no longer pending is never written again. -/
theorem mem_step_of_not_pending (command : Command) (hrow : row ∈ system.outbox)
    (hstatus : row.status ≠ .pending) : row ∈ (step system command).outbox := by
  rcases step_cases system command with
    ⟨new, outbox, -, hinsert, hstep⟩
    | ⟨worker, limit, now, leaseSeconds, queued, outbox, -, -, -, hclaims, hstep⟩
    | ⟨outboxId, worker, change, hreports⟩ | ⟨houtbox, -, -⟩
  · rw [hstep]
    exact (CheckedTable.mem_of_insert? hinsert).mpr (Or.inl hrow)
  · rw [hstep]
    exact hclaims.mem_of_not_pending hrow hstatus
  · exact hreports.mem_of_not_held hrow (by simp [isHeldBy, hstatus])
  · rw [houtbox]
    exact hrow

theorem mem_exec_of_not_pending (commands : List Command) (hrow : row ∈ system.outbox)
    (hstatus : row.status ≠ .pending) : row ∈ (exec step system commands).outbox :=
  invariant_exec (fun reached : OutboxSystem => row ∈ reached.outbox)
    (fun _ command hreached => mem_step_of_not_pending command hreached hstatus) hrow commands

/-! ## No row is lost -/

/-- From then on a claim call may take the row. -/
def dueAt (row : OutboxRow) : Timestamp :=
  max row.availableAt (row.leaseExpiresAt.getD row.availableAt)

/-- The rows that a claim call finds queued. -/
def queueOf (outbox : NotificationOutbox) (now : Timestamp) : List OutboxRow :=
  match recoverOutbox outbox now with
  | .ok queued => candidates queued now
  | .error _ => []

/-- Once it is due, a pending row is queued or is out of attempts. -/
theorem queued_or_failed {now : Timestamp} (hrow : row ∈ system.outbox)
    (hpending : row.status = .pending) (hdue : dueAt row ≤ now) :
    isCandidate now (requeued now row) = true ∨ (requeued now row).status = .failed := by
  obtain ⟨havailable, hlease⟩ := max_le_iff.mp hdue
  cases hclaimed : row.claimedByWorker with
  | none =>
      have hunleased := unleased_of_unclaimed hrow hclaimed
      have hkept : hasExpiredLease now row = false := by simp [hasExpiredLease, hclaimed]
      by_cases hspent : row.maxAttempts ≤ row.attemptCount
      · right
        simp [requeued, unleased, hkept, isExhausted, isUnclaimed, hpending, hclaimed, hunleased,
          hspent, exhausted]
      · left
        simp [requeued, unleased, hkept, isExhausted, isCandidate, isUnclaimed, hpending,
          hclaimed, hunleased, hspent, havailable, not_le.mp hspent]
  | some worker =>
      obtain ⟨lease, hleased⟩ :=
        Option.isSome_iff_exists.mp (leased_of_claimed hrow hclaimed).2
      rw [hleased, Option.getD_some] at hlease
      have hexpired : hasExpiredLease now row = true := by
        simp [hasExpiredLease, hpending, hclaimed, hleased, hlease]
      by_cases hspent : row.maxAttempts ≤ row.attemptCount
      · right
        simp [requeued, unleased, hexpired, recovered, hspent, isExhausted, isUnclaimed]
      · left
        simp [requeued, unleased, hexpired, recovered, hspent, isExhausted, isUnclaimed,
          isCandidate, not_le.mp hspent]

/-- What a due row became after a claim call: the worker has it, or it has no
attempts left. -/
def ClaimedOrFailed (outbox : NotificationOutbox) (outboxId : Uuid) (worker : Text)
    (leaseExpiresAt : Timestamp) : Prop :=
  ∃ row ∈ outbox, row.id = outboxId
    ∧ (row.status = .failed ∨ (row.status = .pending ∧ row.claimedByWorker = some worker
      ∧ row.leaseExpiresAt = some leaseExpiresAt))

theorem nodup_queueKeys (outbox : NotificationOutbox) (now : Timestamp) :
    ((candidates outbox now).map queueKey).Nodup := by
  have hdistinct : outbox.table.rows.Pairwise fun left right => queueKey left ≠ queueKey right := by
    apply outbox.table.unique.imp
    intro left right hnot hsame
    apply hnot
    have hid : left.id = right.id := by
      have hsecond := congrArg (fun key => (ofLex (ofLex key).2).2) hsame
      simpa [queueKey] using hsecond
    exact Indexed.collides_of_key_eq hid
  exact List.pairwise_map.mpr (hdistinct.filter _)

theorem claimedOrFailed_of_due {worker : Text} {limit leaseSeconds : ℤ} {now : Timestamp}
    (hrow : row ∈ system.outbox) (hpending : row.status = .pending) (hdue : dueAt row ≤ now)
    (hclock : system.clock ≤ now) (hallowed : ClaimAllowed worker limit leaseSeconds)
    (hlimit : ((before queueKey (queueOf system.outbox now) (requeued now row)).length : ℤ) < limit) :
    ClaimedOrFailed (step system (.claim worker limit now leaseSeconds)).outbox row.id worker
      (now + leaseSeconds * 1000) := by
  obtain ⟨queued, outbox, hclaim, hclaims⟩ :=
    exists_claimNotificationOutbox hallowed system.outbox now
  have hstep : (step system (.claim worker limit now leaseSeconds)).outbox = outbox := by
    simp only [step, if_neg (not_lt.mpr hclock), hclaim]
  rw [hstep]
  have hqueued : requeued now row ∈ queued := (hclaims.mem_queued _).mpr ⟨row, hrow, rfl⟩
  have hid : (requeued now row).id = row.id := (sameDelivery_requeued now row).id
  rcases queued_or_failed hrow hpending hdue with hcandidate | hfailed
  · have hqueue : queueOf system.outbox now = candidates queued now := by
      rw [queueOf, hclaims.recovered]
    rw [hqueue] at hlimit
    have hmem : requeued now row ∈ candidates queued now :=
      List.mem_filter.mpr ⟨hqueued, hcandidate⟩
    have htaken : requeued now row ∈ takenRows queued limit now :=
      (mem_firstOf_iff (nodup_queueKeys queued now) hmem).mpr (by omega)
    refine ⟨_, (hclaims.mem _).mpr ⟨_, hqueued, if_pos htaken⟩, hid, Or.inr ⟨?_, rfl, rfl⟩⟩
    simp only [isCandidate, Bool.and_eq_true] at hcandidate
    exact (isUnclaimed_iff.mp hcandidate.1.1).1
  · have hnot : requeued now row ∉ takenRows queued limit now := by
      intro htaken
      have hcandidate := (candidate_of_taken htaken).2
      simp only [isCandidate, Bool.and_eq_true] at hcandidate
      have hstatus := (isUnclaimed_iff.mp hcandidate.1.1).1
      rw [hfailed] at hstatus
      cases hstatus
    exact ⟨_, (hclaims.mem _).mpr ⟨_, hqueued, if_neg hnot⟩, hid, Or.inl hfailed⟩

/-! ## The protocol -/

structure FollowsProtocol (system : OutboxSystem) : Prop where
  /-- A worker whose lease runs holds the row as it claimed it. -/
  holds : ∀ held ∈ system.held, ∀ leaseExpiresAt,
    held.entry.leaseExpiresAt = some leaseExpiresAt → system.clock < leaseExpiresAt →
      held.entry ∈ system.outbox ∧ held.entry.claimedByWorker = some held.worker
  /-- No two workers hold one row. -/
  oneHolder : ∀ left ∈ system.held, ∀ right ∈ system.held, left.entry.id = right.entry.id →
    (∀ leaseExpiresAt ∈ left.entry.leaseExpiresAt, system.clock < leaseExpiresAt) →
    (∀ leaseExpiresAt ∈ right.entry.leaseExpiresAt, system.clock < leaseExpiresAt) →
      left.worker = right.worker
  attempts : ∀ row ∈ system.outbox, row.attemptCount ≤ row.maxAttempts
  /-- Whatever happens later, a settled row stays as it is. -/
  settled : ∀ row ∈ system.outbox, row.status = .delivered ∨ row.status = .failed →
    ∀ commands, row ∈ (exec step system commands).outbox
  /-- The calls of other workers leave a row unchanged. -/
  completedByOther : ∀ row ∈ system.outbox, ∀ worker now, row.claimedByWorker ≠ some worker →
    row ∈ (step system (.complete row.id worker now)).outbox
  failedByOther : ∀ row ∈ system.outbox, ∀ worker errorCode retryAt,
    row.claimedByWorker ≠ some worker →
      row ∈ (step system (.fail row.id worker errorCode retryAt)).outbox
  /-- No call violates a constraint of the table. -/
  claimAccepted : ∀ worker limit now leaseSeconds,
    claimNotificationOutbox system.outbox worker limit now leaseSeconds
      ≠ .error .constraintViolated
  completeAccepted : ∀ outboxId worker now,
    completeNotificationOutbox system.outbox outboxId worker now ≠ .error .constraintViolated
  failAccepted : ∀ outboxId worker errorCode retryAt,
    failNotificationOutbox system.outbox outboxId worker errorCode retryAt
      ≠ .error .constraintViolated
  /-- A claim call whose limit reaches a due row takes it or sees it out of attempts. -/
  progress : ∀ row ∈ system.outbox, row.status = .pending →
    ∀ worker limit now leaseSeconds, dueAt row ≤ now → system.clock ≤ now →
      ClaimAllowed worker limit leaseSeconds →
      ((before queueKey (queueOf system.outbox now) (requeued now row)).length : ℤ) < limit →
        ClaimedOrFailed (step system (.claim worker limit now leaseSeconds)).outbox row.id worker
          (now + leaseSeconds * 1000)

theorem Sound.oneHolder (hsound : Sound system) {left right : Held} (hleft : left ∈ system.held)
    (hright : right ∈ system.held) (hid : left.entry.id = right.entry.id)
    (hleftLease : ∀ leaseExpiresAt ∈ left.entry.leaseExpiresAt, system.clock < leaseExpiresAt)
    (hrightLease : ∀ leaseExpiresAt ∈ right.entry.leaseExpiresAt, system.clock < leaseExpiresAt) :
    left.worker = right.worker := by
  obtain ⟨leftExpiry, hleftExpiry, hleftKept⟩ := hsound.kept left hleft
  obtain ⟨rightExpiry, hrightExpiry, hrightKept⟩ := hsound.kept right hright
  have hsame : left.entry = right.entry := CheckedTable.eq_of_key_eq
    (hleftKept (hleftLease leftExpiry hleftExpiry))
    (hrightKept (hrightLease rightExpiry hrightExpiry)) hid
  have hclaimed := hsound.claimedBy left hleft
  rw [hsame, hsound.claimedBy right hright] at hclaimed
  exact (Option.some.inj hclaimed).symm

theorem outbox_follows_protocol (commands : List Command) :
    FollowsProtocol (exec step initial commands) := by
  have hsound : Sound (exec step initial commands) :=
    invariant_exec Sound sound_step sound_initial commands
  constructor
  case holds =>
    intro held hheld leaseExpiresAt hlease hrunning
    obtain ⟨expiry, hexpiry, hkept⟩ := hsound.kept held hheld
    rw [hlease, Option.some_inj] at hexpiry
    exact ⟨hkept (hexpiry ▸ hrunning), hsound.claimedBy held hheld⟩
  case oneHolder =>
    intro left hleft right hright
    exact hsound.oneHolder hleft hright
  case attempts => exact hsound.attempts
  case settled =>
    intro row hrow hsettled later
    apply mem_exec_of_not_pending later hrow
    rcases hsettled with hstatus | hstatus
    · rw [hstatus]
      exact OutboxStatus.noConfusion
    · rw [hstatus]
      exact OutboxStatus.noConfusion
  case completedByOther =>
    intro row hrow worker now hother
    apply (reports_complete _ row.id worker now).mem_of_not_held hrow
    simp [isHeldBy, hother]
  case failedByOther =>
    intro row hrow worker errorCode retryAt hother
    apply (reports_fail _ row.id worker errorCode retryAt).mem_of_not_held hrow
    simp [isHeldBy, hother]
  case claimAccepted =>
    intro worker limit now leaseSeconds hviolated
    by_cases hallowed : ClaimAllowed worker limit leaseSeconds
    · obtain ⟨queued, outbox, hclaim, -⟩ := exists_claimNotificationOutbox hallowed
        (exec step initial commands).outbox now
      rw [hclaim] at hviolated
      cases hviolated
    · obtain ⟨error, hrefused, hne⟩ :=
        claimNotificationOutbox_refused (exec step initial commands).outbox now hallowed
      rw [hrefused] at hviolated
      exact hne (Except.error.inj hviolated)
  case completeAccepted =>
    intro outboxId worker now hviolated
    obtain ⟨outbox, done, hcomplete, -⟩ := exists_completeNotificationOutbox
      (exec step initial commands).outbox outboxId worker now
    rw [hcomplete] at hviolated
    cases hviolated
  case failAccepted =>
    intro outboxId worker errorCode retryAt hviolated
    obtain ⟨outbox, status, hfail, -⟩ := exists_failNotificationOutbox
      (exec step initial commands).outbox outboxId worker errorCode retryAt
    rw [hfail] at hviolated
    cases hviolated
  case progress =>
    intro row hrow hpending worker limit now leaseSeconds hdue hclock hallowed hlimit
    exact claimedOrFailed_of_due hrow hpending hdue hclock hallowed hlimit

end Stallorder.OutboxDispatch
