import Stallorder.Core.Checks
import Stallorder.Core.FirstOf
import Stallorder.Core.Table
import Stallorder.Offline.OrderContract

/-!
# The notification outbox

The table of notifications that wait for their delivery, and the three functions
through which workers claim rows of it, complete them and give them back.  Each
call is one statement sequence that holds the locks of the rows it writes, so
calls are taken one after another.
-/

namespace Stallorder.OutboxDatabase

open OrderContract Checks FirstOf

/-! ## The table -/

inductive OutboxChannel
  | inApp
  | email
  deriving DecidableEq

inductive OutboxStatus
  | pending
  | delivered
  | failed
  | cancelled
  deriving DecidableEq

structure OutboxRow where
  id : Uuid
  organizationId : Uuid
  billingNotificationId : Uuid
  channel : OutboxChannel
  status : OutboxStatus
  availableAt : Timestamp
  deliveredAt : Option Timestamp
  attemptCount : ℕ
  maxAttempts : ℕ
  claimedByWorker : Option Text
  leaseExpiresAt : Option Timestamp
  lastErrorCode : Option Text
  createdAt : Timestamp
  deriving DecidableEq

/-- A notification is sent once over each channel. -/
instance : Indexed OutboxRow Uuid where
  key := (·.id)
  collides left right :=
    left.id = right.id
      || (left.billingNotificationId = right.billingNotificationId
        && left.channel = right.channel)
  collides_symm hcollides := by
    simp only [Bool.or_eq_true, Bool.and_eq_true, decide_eq_true_eq] at hcollides ⊢
    exact hcollides.imp Eq.symm (And.imp Eq.symm Eq.symm)
  collides_of_key_eq hkey := by simp [hkey]

/-- The names that match `^[A-Za-z0-9:_-]{1,120}$`. -/
def isWorkerId (worker : Text) : Bool :=
  1 ≤ worker.length && worker.length ≤ 120
    && worker.all fun c => c.isAlphanum || c = ':' || c = '_' || c = '-'

def notificationOutboxMaxAttemptsCheck (row : OutboxRow) : Bool :=
  1 ≤ row.maxAttempts && row.maxAttempts ≤ 20

def notificationOutboxClaimCheck (row : OutboxRow) : Bool :=
  (row.claimedByWorker.isNone && row.leaseExpiresAt.isNone)
    || (row.status = .pending && row.claimedByWorker.isSome && row.leaseExpiresAt.isSome)

def notificationOutboxWorkerCheck (row : OutboxRow) : Bool :=
  row.claimedByWorker.all isWorkerId

def notificationOutboxChecks (row : OutboxRow) : Bool :=
  notificationOutboxMaxAttemptsCheck row && notificationOutboxClaimCheck row
    && notificationOutboxWorkerCheck row

abbrev NotificationOutbox := CheckedTable OutboxRow notificationOutboxChecks

inductive OutboxError
  | workerInvalid
  | limitInvalid
  | leaseInvalid
  | constraintViolated
  deriving DecidableEq

/-! ## Claims -/

def hasExpiredLease (now : Timestamp) (row : OutboxRow) : Bool :=
  row.status = .pending && row.claimedByWorker.isSome
    && row.leaseExpiresAt.any fun leaseExpiresAt => leaseExpiresAt ≤ now

def recovered (now : Timestamp) (row : OutboxRow) : OutboxRow :=
  if row.maxAttempts ≤ row.attemptCount then
    { row with
      status := .failed
      claimedByWorker := none
      leaseExpiresAt := none
      lastErrorCode := some "OUTBOX_LEASE_EXPIRED_MAX_ATTEMPTS".toList }
  else
    { row with
      status := .pending
      availableAt := now
      claimedByWorker := none
      leaseExpiresAt := none
      lastErrorCode := some "OUTBOX_LEASE_EXPIRED".toList }

def isUnclaimed (row : OutboxRow) : Bool :=
  row.status = .pending && row.claimedByWorker.isNone && row.leaseExpiresAt.isNone

def isExhausted (row : OutboxRow) : Bool :=
  isUnclaimed row && row.maxAttempts ≤ row.attemptCount

def exhausted (row : OutboxRow) : OutboxRow :=
  { row with
    status := .failed
    claimedByWorker := none
    leaseExpiresAt := none
    lastErrorCode := row.lastErrorCode <|> some "OUTBOX_MAX_ATTEMPTS_EXHAUSTED".toList }

def isCandidate (now : Timestamp) (row : OutboxRow) : Bool :=
  isUnclaimed row && row.availableAt ≤ now && row.attemptCount < row.maxAttempts

/-- The place of a row in the queue. -/
def queueKey (row : OutboxRow) : Timestamp ×ₗ Timestamp ×ₗ Uuid :=
  toLex (row.availableAt, toLex (row.createdAt, row.id))

def claimed (worker : Text) (leaseExpiresAt : Timestamp) (row : OutboxRow) : OutboxRow :=
  { row with
    attemptCount := row.attemptCount + 1
    claimedByWorker := some worker
    leaseExpiresAt := some leaseExpiresAt }

/-- The rows that are queued for a claim. -/
def candidates (outbox : NotificationOutbox) (now : Timestamp) : List OutboxRow :=
  outbox.table.rows.filter (isCandidate now)

/-- The outbox after the rows whose lease expired were taken back. -/
def recoverOutbox (outbox : NotificationOutbox) (now : Timestamp) :
    Except OutboxError NotificationOutbox := do
  let unleased ← orFail (outbox.updateWhere? (hasExpiredLease now) (recovered now))
    .constraintViolated
  orFail (unleased.updateWhere? isExhausted exhausted) .constraintViolated

/-- The new state of the outbox, and the rows that the worker got. -/
def claimNotificationOutbox (outbox : NotificationOutbox) (worker : Text) (limit : ℤ)
    (now : Timestamp) (leaseSeconds : ℤ) :
    Except OutboxError (NotificationOutbox × List OutboxRow) := do
  failWhen (!isWorkerId worker) .workerInvalid
  failWhen (limit < 1 || 50 < limit) .limitInvalid
  failWhen (leaseSeconds < 30 || 1800 < leaseSeconds) .leaseInvalid
  let queued ← recoverOutbox outbox now
  let taken := firstOf queueKey limit.toNat (candidates queued now)
  let change := claimed worker (now + leaseSeconds * 1000)
  let outbox' ← orFail (queued.updateWhere? (fun row => taken.any (·.id = row.id)) change)
    .constraintViolated
  return (outbox', taken.map change)

/-! ## Outcomes -/

def isHeldBy (outboxId : Uuid) (worker : Text) (row : OutboxRow) : Bool :=
  row.id = outboxId && row.status = .pending && row.claimedByWorker = some worker

def delivered (now : Timestamp) (row : OutboxRow) : OutboxRow :=
  { row with
    status := .delivered
    deliveredAt := some (row.deliveredAt.getD now)
    claimedByWorker := none
    leaseExpiresAt := none
    lastErrorCode := none }

/-- The new state of the outbox, and whether the row is delivered. -/
def completeNotificationOutbox (outbox : NotificationOutbox) (outboxId : Uuid) (worker : Text)
    (now : Timestamp) : Except OutboxError (NotificationOutbox × Bool) :=
  if outbox.table.rows.any (fun row => row.id = outboxId && row.status = .delivered) then
    .ok (outbox, true)
  else do
    let outbox' ← orFail (outbox.updateWhere? (isHeldBy outboxId worker) (delivered now))
      .constraintViolated
    return (outbox', outbox.table.rows.any (isHeldBy outboxId worker))

inductive FailStatus
  | skipped
  | delivered
  | retryPending
  | deadLetter
  deriving DecidableEq

/-- The upper case of the letters of error codes. -/
def upper (text : Text) : Text :=
  text.map Char.toUpper

def safeErrorCharacter (c : Char) : Char :=
  if c.isUpper || c.isDigit || c = '_' then c else '_'

def trimBlanks (text : Text) : Text :=
  (text.dropWhile (· = ' ')).rdropWhile (· = ' ')

/-- An absent or blank code is `OUTBOX_DELIVERY_FAILED`. -/
def storedErrorCode (errorCode : Option Text) : Text :=
  let code := match (errorCode.map trimBlanks).filter (· ≠ []) with
    | some code => code
    | none => "OUTBOX_DELIVERY_FAILED".toList
  ((upper code).map safeErrorCharacter).take 120

def retried (errorCode : Text) (retryAt : Timestamp) (row : OutboxRow) : OutboxRow :=
  { row with
    status := .pending
    availableAt := retryAt
    claimedByWorker := none
    leaseExpiresAt := none
    lastErrorCode := some errorCode }

def deadLettered (errorCode : Text) (row : OutboxRow) : OutboxRow :=
  { row with
    status := .failed
    claimedByWorker := none
    leaseExpiresAt := none
    lastErrorCode := some errorCode }

/-- The time of the next attempt, unless the row has none left. -/
def nextAttemptAt (retryAt : Option Timestamp) (row : OutboxRow) : Option Timestamp :=
  retryAt.filter fun _ => row.attemptCount < row.maxAttempts

def failed (errorCode : Text) (nextAttempt : Option Timestamp) (row : OutboxRow) : OutboxRow :=
  match nextAttempt with
  | some retryAt => retried errorCode retryAt row
  | none => deadLettered errorCode row

def failNotificationOutbox (outbox : NotificationOutbox) (outboxId : Uuid) (worker : Text)
    (errorCode : Option Text) (retryAt : Option Timestamp) :
    Except OutboxError (NotificationOutbox × FailStatus) :=
  match outbox.table.get? outboxId with
  | none => .ok (outbox, .skipped)
  | some row =>
      if row.status = .delivered then
        .ok (outbox, .delivered)
      else if row.status ≠ .pending || row.claimedByWorker ≠ some worker then
        .ok (outbox, .skipped)
      else do
        let nextAttempt := nextAttemptAt retryAt row
        let outbox' ← orFail (outbox.updateWhere? (fun stored => stored.id = outboxId)
          (failed (storedErrorCode errorCode) nextAttempt)) .constraintViolated
        return (outbox', if nextAttempt.isSome then .retryPending else .deadLetter)

/-! ## What the statements write -/

/-- The row still stands for the same delivery. -/
structure SameDelivery (row row' : OutboxRow) : Prop where
  id : row'.id = row.id
  billingNotificationId : row'.billingNotificationId = row.billingNotificationId
  channel : row'.channel = row.channel
  maxAttempts : row'.maxAttempts = row.maxAttempts

theorem SameDelivery.collides {row row' other : OutboxRow} (hsame : SameDelivery row row')
    (hcollides : Indexed.collides row' other) : Indexed.collides row other := by
  simpa only [Indexed.collides, hsame.id, hsame.billingNotificationId, hsame.channel] using hcollides

variable {outbox : NotificationOutbox} {row stored : OutboxRow} {now : Timestamp}

theorem SameDelivery.checks_of_unclaimed {row' : OutboxRow} (hsame : SameDelivery row row')
    (hrow : row ∈ outbox) (hworker : row'.claimedByWorker = none)
    (hlease : row'.leaseExpiresAt = none) : notificationOutboxChecks row' = true := by
  have hchecks := outbox.checked row hrow
  simp only [notificationOutboxChecks, Bool.and_eq_true] at hchecks ⊢
  have hmax := hchecks.1.1
  refine ⟨⟨?_, ?_⟩, ?_⟩
  · rw [notificationOutboxMaxAttemptsCheck, hsame.maxAttempts]
    exact hmax
  · rw [notificationOutboxClaimCheck, hworker, hlease]
    rfl
  · rw [notificationOutboxWorkerCheck, hworker]
    rfl

/-- A row that is claimed is pending, and has a lease. -/
theorem leased_of_claimed {worker : Text} (hrow : row ∈ outbox)
    (hclaimed : row.claimedByWorker = some worker) :
    row.status = .pending ∧ row.leaseExpiresAt.isSome = true := by
  have hchecks := outbox.checked row hrow
  simp only [notificationOutboxChecks, Bool.and_eq_true] at hchecks
  have hclaim := hchecks.1.2
  simpa [notificationOutboxClaimCheck, hclaimed] using hclaim

theorem unleased_of_unclaimed (hrow : row ∈ outbox) (hunclaimed : row.claimedByWorker = none) :
    row.leaseExpiresAt = none := by
  have hchecks := outbox.checked row hrow
  simp only [notificationOutboxChecks, Bool.and_eq_true] at hchecks
  have hclaim := hchecks.1.2
  simpa [notificationOutboxClaimCheck, hunclaimed] using hclaim

/-- An update that keeps what a row stands for, and the checks, is never refused. -/
theorem exists_update (outbox : NotificationOutbox) (wanted : OutboxRow → Bool)
    (change : OutboxRow → OutboxRow) (hsame : ∀ row, SameDelivery row (change row))
    (hcheck : ∀ row ∈ outbox, wanted row = true → notificationOutboxChecks (change row) = true) :
    ∃ outbox', orFail (outbox.updateWhere? wanted change) OutboxError.constraintViolated
        = .ok outbox'
      ∧ ∀ stored, stored ∈ outbox' ↔
        ∃ row ∈ outbox, (if wanted row then change row else row) = stored := by
  obtain ⟨outbox', hupdate⟩ := CheckedTable.exists_updateWhere? outbox wanted change
    (fun {row other} => (hsame row).collides) hcheck
  refine ⟨outbox', ?_, fun stored => CheckedTable.mem_of_updateWhere? hupdate⟩
  rw [hupdate, orFail_some]

/-! ### Claims -/

def unleased (now : Timestamp) (row : OutboxRow) : OutboxRow :=
  if hasExpiredLease now row then recovered now row else row

/-- What a claim call makes of a row before it takes the first ones. -/
def requeued (now : Timestamp) (row : OutboxRow) : OutboxRow :=
  if isExhausted (unleased now row) then exhausted (unleased now row) else unleased now row

theorem sameDelivery_recovered (now : Timestamp) (row : OutboxRow) :
    SameDelivery row (recovered now row) := by
  by_cases hspent : row.maxAttempts ≤ row.attemptCount
  · rw [recovered, if_pos hspent]
    exact ⟨rfl, rfl, rfl, rfl⟩
  · rw [recovered, if_neg hspent]
    exact ⟨rfl, rfl, rfl, rfl⟩

theorem unclaimed_recovered (now : Timestamp) (row : OutboxRow) :
    (recovered now row).claimedByWorker = none ∧ (recovered now row).leaseExpiresAt = none := by
  by_cases hspent : row.maxAttempts ≤ row.attemptCount
  · rw [recovered, if_pos hspent]
    exact ⟨rfl, rfl⟩
  · rw [recovered, if_neg hspent]
    exact ⟨rfl, rfl⟩

theorem exists_recoverOutbox (outbox : NotificationOutbox) (now : Timestamp) :
    ∃ queued, recoverOutbox outbox now = .ok queued
      ∧ ∀ stored, stored ∈ queued ↔ ∃ row ∈ outbox, requeued now row = stored := by
  obtain ⟨unleased, hunleased, hmem⟩ := exists_update outbox (hasExpiredLease now) (recovered now)
    (sameDelivery_recovered now) fun row hrow _ =>
      (sameDelivery_recovered now row).checks_of_unclaimed hrow (unclaimed_recovered now row).1
        (unclaimed_recovered now row).2
  have hexhausted (row : OutboxRow) : SameDelivery row (exhausted row) := ⟨rfl, rfl, rfl, rfl⟩
  obtain ⟨queued, hqueued, hmem'⟩ := exists_update unleased isExhausted exhausted hexhausted
    fun row hrow _ => (hexhausted row).checks_of_unclaimed hrow rfl rfl
  refine ⟨queued, ?_, fun stored => ?_⟩
  · rw [recoverOutbox, hunleased, bind_ok]
    exact hqueued
  · rw [hmem']
    constructor
    · rintro ⟨middle, hmiddle, hstored⟩
      obtain ⟨row, hrow, rfl⟩ := (hmem middle).mp hmiddle
      exact ⟨row, hrow, hstored⟩
    · rintro ⟨row, hrow, hstored⟩
      exact ⟨_, (hmem _).mpr ⟨row, hrow, rfl⟩, hstored⟩

theorem isUnclaimed_iff : isUnclaimed row = true ↔
    row.status = .pending ∧ row.claimedByWorker = none ∧ row.leaseExpiresAt = none := by
  simp [isUnclaimed, and_assoc]

theorem requeued_of_not_pending (hstatus : row.status ≠ .pending) : requeued now row = row := by
  have hlease : hasExpiredLease now row = false := by simp [hasExpiredLease, hstatus]
  have hspent : isExhausted row = false := by simp [isExhausted, isUnclaimed, hstatus]
  simp [requeued, unleased, hlease, hspent]

/-- A lease that has not expired keeps its row. -/
theorem requeued_of_leased {leaseExpiresAt : Timestamp}
    (hlease : row.leaseExpiresAt = some leaseExpiresAt) (hlater : now < leaseExpiresAt) :
    requeued now row = row := by
  have hkept : hasExpiredLease now row = false := by
    simp [hasExpiredLease, hlease, hlater]
  have hspent : isExhausted row = false := by simp [isExhausted, isUnclaimed, hlease]
  simp [requeued, unleased, hkept, hspent]

theorem sameDelivery_unleased (now : Timestamp) (row : OutboxRow) :
    SameDelivery row (unleased now row) := by
  by_cases hexpired : hasExpiredLease now row = true
  · rw [unleased, if_pos hexpired]
    exact sameDelivery_recovered now row
  · rw [unleased, if_neg hexpired]
    exact ⟨rfl, rfl, rfl, rfl⟩

theorem sameDelivery_requeued (now : Timestamp) (row : OutboxRow) :
    SameDelivery row (requeued now row) := by
  have hsame := sameDelivery_unleased now row
  by_cases hspent : isExhausted (unleased now row) = true
  · rw [requeued, if_pos hspent]
    exact ⟨hsame.id, hsame.billingNotificationId, hsame.channel, hsame.maxAttempts⟩
  · rw [requeued, if_neg hspent]
    exact hsame

theorem attemptCount_requeued (now : Timestamp) (row : OutboxRow) :
    (requeued now row).attemptCount = row.attemptCount := by
  have hunleased : (unleased now row).attemptCount = row.attemptCount := by
    simp only [unleased, recovered]
    split_ifs <;> rfl
  by_cases hspent : isExhausted (unleased now row) = true
  · rw [requeued, if_pos hspent]
    exact hunleased
  · rw [requeued, if_neg hspent]
    exact hunleased

/-- The rows that a claim call takes. -/
def takenRows (queued : NotificationOutbox) (limit : ℤ) (now : Timestamp) : List OutboxRow :=
  firstOf queueKey limit.toNat (candidates queued now)

theorem candidate_of_taken {queued : NotificationOutbox} {limit : ℤ}
    (hrow : row ∈ takenRows queued limit now) : row ∈ queued ∧ isCandidate now row = true := by
  have hcandidate := mem_of_mem_firstOf hrow
  exact List.mem_filter.mp hcandidate

/-- The parameters of a claim call that are not refused. -/
structure ClaimAllowed (worker : Text) (limit leaseSeconds : ℤ) : Prop where
  worker : isWorkerId worker = true
  limit : 1 ≤ limit ∧ limit ≤ 50
  lease : 30 ≤ leaseSeconds ∧ leaseSeconds ≤ 1800

/-- The effect of a claim call. -/
structure Claims (outbox queued outbox' : NotificationOutbox) (worker : Text) (limit : ℤ)
    (now leaseExpiresAt : Timestamp) : Prop where
  recovered : recoverOutbox outbox now = .ok queued
  mem_queued : ∀ stored, stored ∈ queued ↔ ∃ row ∈ outbox, requeued now row = stored
  mem : ∀ stored, stored ∈ outbox' ↔ ∃ row ∈ queued,
    (if row ∈ takenRows queued limit now then claimed worker leaseExpiresAt row else row) = stored

theorem checks_claimed {queued : NotificationOutbox} {worker : Text} {leaseExpiresAt : Timestamp}
    (hworker : isWorkerId worker = true) (hrow : row ∈ queued) (hpending : row.status = .pending) :
    notificationOutboxChecks (claimed worker leaseExpiresAt row) = true := by
  have hchecks := queued.checked row hrow
  simp only [notificationOutboxChecks, Bool.and_eq_true] at hchecks ⊢
  refine ⟨⟨hchecks.1.1, ?_⟩, hworker⟩
  simp [notificationOutboxClaimCheck, claimed, hpending]

theorem exists_claimNotificationOutbox {worker : Text} {limit leaseSeconds : ℤ}
    (hallowed : ClaimAllowed worker limit leaseSeconds) (outbox : NotificationOutbox)
    (now : Timestamp) :
    ∃ queued outbox', claimNotificationOutbox outbox worker limit now leaseSeconds
        = .ok (outbox', (takenRows queued limit now).map
          (claimed worker (now + leaseSeconds * 1000)))
      ∧ Claims outbox queued outbox' worker limit now (now + leaseSeconds * 1000) := by
  obtain ⟨queued, hqueued, hmem⟩ := exists_recoverOutbox outbox now
  have htaken : ∀ row ∈ queued, (takenRows queued limit now).any (·.id = row.id) = true ↔
      row ∈ takenRows queued limit now := by
    intro row hrow
    rw [List.any_eq_true]
    constructor
    · rintro ⟨other, hother, hid⟩
      have hsame : other = row := CheckedTable.eq_of_key_eq (candidate_of_taken hother).1 hrow
        (of_decide_eq_true hid)
      exact hsame ▸ hother
    · intro hrow
      exact ⟨row, hrow, decide_eq_true rfl⟩
  obtain ⟨outbox', hupdate, hmem'⟩ := exists_update queued
    (fun row => (takenRows queued limit now).any (·.id = row.id))
    (claimed worker (now + leaseSeconds * 1000)) (fun row => ⟨rfl, rfl, rfl, rfl⟩)
    fun row hrow htakes => by
      have hcandidate := (candidate_of_taken ((htaken row hrow).mp htakes)).2
      simp only [isCandidate, Bool.and_eq_true] at hcandidate
      exact checks_claimed hallowed.worker hrow (isUnclaimed_iff.mp hcandidate.1.1).1
  refine ⟨queued, outbox', ?_, hqueued, hmem, fun stored => ?_⟩
  · have hlimit : (decide (limit < 1) || decide (50 < limit)) = false := by
      simpa using hallowed.limit
    have hlease : (decide (leaseSeconds < 30) || decide (1800 < leaseSeconds)) = false := by
      simpa using hallowed.lease
    simp only [claimNotificationOutbox, hallowed.worker, hlimit, hlease, hqueued, Bool.not_true,
      failWhen_false, bind_ok]
    change (orFail (queued.updateWhere? (fun row =>
      (takenRows queued limit now).any (·.id = row.id)) _) _ >>= _) = _
    rw [hupdate]
    rfl
  · rw [hmem']
    apply exists_congr
    intro row
    apply and_congr_right
    intro hrow
    rw [if_congr (htaken row hrow) rfl rfl]

theorem Claims.mem_of_leased {outbox queued outbox' : NotificationOutbox} {worker : Text}
    {limit : ℤ} {now leaseExpiresAt lease : Timestamp}
    (hclaims : Claims outbox queued outbox' worker limit now leaseExpiresAt) (hrow : row ∈ outbox)
    (hlease : row.leaseExpiresAt = some lease) (hrunning : now < lease) : row ∈ outbox' := by
  have hqueued : row ∈ queued :=
    (hclaims.mem_queued row).mpr ⟨row, hrow, requeued_of_leased hlease hrunning⟩
  refine (hclaims.mem row).mpr ⟨row, hqueued, if_neg fun htaken => ?_⟩
  have hcandidate := (candidate_of_taken htaken).2
  simp only [isCandidate, Bool.and_eq_true] at hcandidate
  have hnone := (isUnclaimed_iff.mp hcandidate.1.1).2.2
  rw [hlease] at hnone
  cases hnone

theorem Claims.mem_of_not_pending {outbox queued outbox' : NotificationOutbox} {worker : Text}
    {limit : ℤ} {now leaseExpiresAt : Timestamp}
    (hclaims : Claims outbox queued outbox' worker limit now leaseExpiresAt) (hrow : row ∈ outbox)
    (hstatus : row.status ≠ .pending) : row ∈ outbox' := by
  have hqueued : row ∈ queued :=
    (hclaims.mem_queued row).mpr ⟨row, hrow, requeued_of_not_pending hstatus⟩
  refine (hclaims.mem row).mpr ⟨row, hqueued, if_neg fun htaken => ?_⟩
  have hcandidate := (candidate_of_taken htaken).2
  simp only [isCandidate, Bool.and_eq_true] at hcandidate
  exact hstatus (isUnclaimed_iff.mp hcandidate.1.1).1

theorem Claims.attempts {outbox queued outbox' : NotificationOutbox} {worker : Text}
    {limit : ℤ} {now leaseExpiresAt : Timestamp}
    (hclaims : Claims outbox queued outbox' worker limit now leaseExpiresAt)
    (hattempts : ∀ row ∈ outbox, row.attemptCount ≤ row.maxAttempts) :
    ∀ row ∈ outbox', row.attemptCount ≤ row.maxAttempts := by
  intro stored hstored
  obtain ⟨row, hrow, hrewritten⟩ := (hclaims.mem stored).mp hstored
  obtain ⟨before, hbefore, hrequeued⟩ := (hclaims.mem_queued row).mp hrow
  rw [← hrewritten]
  by_cases htaken : row ∈ takenRows queued limit now
  · rw [if_pos htaken]
    have hcandidate := (candidate_of_taken htaken).2
    simp only [isCandidate, Bool.and_eq_true, decide_eq_true_eq] at hcandidate
    exact hcandidate.2
  · rw [if_neg htaken, ← hrequeued, attemptCount_requeued,
      (sameDelivery_requeued now before).maxAttempts]
    exact hattempts before hbefore

theorem claimNotificationOutbox_refused (outbox : NotificationOutbox) (now : Timestamp)
    {worker : Text} {limit leaseSeconds : ℤ}
    (hrefused : ¬ ClaimAllowed worker limit leaseSeconds) :
    ∃ error, claimNotificationOutbox outbox worker limit now leaseSeconds = .error error
      ∧ error ≠ .constraintViolated := by
  unfold claimNotificationOutbox
  by_cases hworker : isWorkerId worker = true
  · by_cases hlimit : 1 ≤ limit ∧ limit ≤ 50
    · have hlease : (decide (leaseSeconds < 30) || decide (1800 < leaseSeconds)) = true := by
        by_contra hnot
        exact hrefused ⟨hworker, hlimit, by simpa using hnot⟩
      have hlimit' : (decide (limit < 1) || decide (50 < limit)) = false := by simpa using hlimit
      exact ⟨.leaseInvalid, by simp [hworker, hlimit', hlease], OutboxError.noConfusion⟩
    · have hlimit' : (decide (limit < 1) || decide (50 < limit)) = true := by
        rw [Bool.or_eq_true, decide_eq_true_eq, decide_eq_true_eq]
        omega
      exact ⟨.limitInvalid, by simp [hworker, hlimit'], OutboxError.noConfusion⟩
  · exact ⟨.workerInvalid, by simp [hworker], OutboxError.noConfusion⟩

/-! ### Outcomes -/

/-- The rows after the one that the worker holds was settled. -/
def SettlesHeld (outbox outbox' : NotificationOutbox) (outboxId : Uuid) (worker : Text)
    (change : OutboxRow → OutboxRow) : Prop :=
  ∀ stored, stored ∈ outbox' ↔ ∃ row ∈ outbox,
    (if isHeldBy outboxId worker row then change row else row) = stored

theorem settlesHeld_of_none {outboxId : Uuid} {worker : Text} {change : OutboxRow → OutboxRow}
    (hnone : ∀ row ∈ outbox, isHeldBy outboxId worker row = false) :
    SettlesHeld outbox outbox outboxId worker change := by
  intro stored
  constructor
  · intro hstored
    exact ⟨stored, hstored, by rw [hnone stored hstored]; rfl⟩
  · rintro ⟨row, hrow, hkept⟩
    rw [hnone row hrow] at hkept
    exact (show row = stored from hkept) ▸ hrow

theorem exists_completeNotificationOutbox (outbox : NotificationOutbox) (outboxId : Uuid)
    (worker : Text) (now : Timestamp) :
    ∃ outbox' done, completeNotificationOutbox outbox outboxId worker now = .ok (outbox', done)
      ∧ SettlesHeld outbox outbox' outboxId worker (delivered now) := by
  unfold completeNotificationOutbox
  by_cases hdelivered :
      outbox.table.rows.any (fun row => row.id = outboxId && row.status = .delivered) = true
  · rw [if_pos hdelivered]
    refine ⟨outbox, true, rfl, settlesHeld_of_none fun row hrow => ?_⟩
    obtain ⟨other, hother, hfound⟩ := List.any_eq_true.mp hdelivered
    simp only [Bool.and_eq_true, decide_eq_true_eq] at hfound
    by_cases hid : row.id = outboxId
    · have hsame : row = other :=
        CheckedTable.eq_of_key_eq hrow hother (hid.trans hfound.1.symm)
      simp [isHeldBy, hsame, hfound.2]
    · simp [isHeldBy, hid]
  · rw [if_neg hdelivered]
    have hsame (row : OutboxRow) : SameDelivery row (delivered now row) := ⟨rfl, rfl, rfl, rfl⟩
    obtain ⟨outbox', hupdate, hmem⟩ := exists_update outbox (isHeldBy outboxId worker)
      (delivered now) hsame fun row hrow _ => (hsame row).checks_of_unclaimed hrow rfl rfl
    refine ⟨outbox', outbox.table.rows.any (isHeldBy outboxId worker), ?_, hmem⟩
    rw [hupdate]
    rfl

theorem sameDelivery_failed (errorCode : Text) (nextAttempt : Option Timestamp)
    (row : OutboxRow) : SameDelivery row (failed errorCode nextAttempt row) := by
  cases nextAttempt <;> exact ⟨rfl, rfl, rfl, rfl⟩

theorem unclaimed_failed (errorCode : Text) (nextAttempt : Option Timestamp) (row : OutboxRow) :
    (failed errorCode nextAttempt row).claimedByWorker = none
      ∧ (failed errorCode nextAttempt row).leaseExpiresAt = none := by
  cases nextAttempt <;> exact ⟨rfl, rfl⟩

theorem exists_failNotificationOutbox (outbox : NotificationOutbox) (outboxId : Uuid)
    (worker : Text) (errorCode : Option Text) (retryAt : Option Timestamp) :
    ∃ outbox' status, failNotificationOutbox outbox outboxId worker errorCode retryAt
        = .ok (outbox', status)
      ∧ SettlesHeld outbox outbox' outboxId worker fun row =>
        failed (storedErrorCode errorCode) (nextAttemptAt retryAt row) row := by
  unfold failNotificationOutbox
  cases hfound : outbox.table.get? outboxId with
  | none =>
      refine ⟨outbox, .skipped, rfl, settlesHeld_of_none fun row hrow => ?_⟩
      have hid : row.id ≠ outboxId := Table.get?_eq_none_iff.mp hfound row hrow
      simp [isHeldBy, hid]
  | some row =>
      have hrow : row ∈ outbox := Table.mem_of_get? hfound
      have hid : row.id = outboxId := Table.key_of_get? hfound
      have hunique : ∀ other ∈ outbox, other.id = outboxId → other = row := by
        intro other hother hotherId
        exact CheckedTable.eq_of_key_eq hother hrow (hotherId.trans hid.symm)
      by_cases hheld : isHeldBy outboxId worker row = true
      · have hfields := hheld
        simp only [isHeldBy, Bool.and_eq_true, decide_eq_true_eq] at hfields
        obtain ⟨⟨-, hpending⟩, hclaimed⟩ := hfields
        obtain ⟨outbox', hupdate, hmem⟩ := exists_update outbox
          (fun stored => stored.id = outboxId)
          (failed (storedErrorCode errorCode) (nextAttemptAt retryAt row))
          (sameDelivery_failed _ _) fun other hother _ =>
            (sameDelivery_failed _ _ other).checks_of_unclaimed hother (unclaimed_failed _ _ other).1
              (unclaimed_failed _ _ other).2
        refine ⟨outbox', if (nextAttemptAt retryAt row).isSome then .retryPending else .deadLetter,
          ?_, fun stored => ?_⟩
        · simp only [hpending, hclaimed, reduceCtorEq, if_false, ne_eq, not_true_eq_false,
            decide_false, Bool.or_self, Bool.false_eq_true, hupdate, bind_ok]
          rfl
        · rw [hmem]
          apply exists_congr
          intro other
          apply and_congr_right
          intro hother
          by_cases hotherId : other.id = outboxId
          · rw [hunique other hother hotherId, if_pos (decide_eq_true hid), if_pos hheld]
          · rw [if_neg (by simpa using hotherId), if_neg (by simp [isHeldBy, hotherId])]
      · have hnone : ∀ other ∈ outbox, isHeldBy outboxId worker other = false := by
          intro other hother
          by_cases hotherId : other.id = outboxId
          · rw [hunique other hother hotherId]
            simpa using hheld
          · simp [isHeldBy, hotherId]
        by_cases hdelivered : row.status = .delivered
        · exact ⟨outbox, .delivered, if_pos hdelivered, settlesHeld_of_none hnone⟩
        · refine ⟨outbox, .skipped, ?_, settlesHeld_of_none hnone⟩
          have hskipped : (decide (row.status ≠ .pending)
              || decide (row.claimedByWorker ≠ some worker)) = true := by
            simp only [isHeldBy, hid, decide_true, Bool.true_and, Bool.and_eq_true,
              decide_eq_true_eq] at hheld
            simp only [Bool.or_eq_true, decide_eq_true_eq]
            exact not_and_or.mp hheld
          simp only [hdelivered, if_false]
          exact if_pos hskipped

end Stallorder.OutboxDatabase
