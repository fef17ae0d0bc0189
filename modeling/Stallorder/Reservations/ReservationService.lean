import Stallorder.Reservations.ReservationDatabase

/-!
# Reservation functions

The functions that create, modify and cancel a reservation and that issue a
preorder session for it.  Each one reads, waits for its locks, and then does the
rest while it holds them.  Any number of calls may wait, and the locks may be
granted in any order.
-/

namespace Stallorder.ReservationService

open OrderContract Checks SqlText ReservationDatabase

/-! ## Results -/

inductive RefusalCode
  | invalidInput
  | featureDisabled
  | bookingClosed
  | scopeInvalid
  | capacityUnavailable
  | tokenConflict
  | invalid
  | invalidState
  | versionConflict
  | modificationCutoffReached
  | cancellationCutoffReached
  | preorderNotOpen
  | preorderCutoffReached
  | sessionRequestConflict
  | preorderSessionExists
  deriving DecidableEq

/-- How a call ends; a call that raises an exception is rolled back. -/
inductive CallResult
  | refused (code : RefusalCode)
  | raised
  | reserved (reservation : Reservation)
  | modified (reservation : Reservation)
  | cancelled (reservation : Reservation) (idempotentReplay : Bool)
  | session (session : PreorderSession) (idempotentReplay : Bool)
  deriving DecidableEq

/-- The start of the transaction, and whether the feature is enabled for it. -/
structure CallContext where
  now : Timestamp
  featureEnabled : Bool

def requestIdValid (requestId : Text) : Bool := trimmedLength requestId 1 200

/-! ## Creating -/

structure CreateCall where
  reservationId : Uuid
  organizationId : Uuid
  stallId : Uuid
  diningTableId : Uuid
  publicTokenHash : Text
  partySize : ℤ
  startsAt : Timestamp
  endsAt : Timestamp
  timezone : Text
  requestId : Text
  actorProfileId : Option Uuid

/-- What a creation checks before it waits for the table. -/
def createChecks (db : ReservationDb) (context : CallContext) (call : CreateCall) :
    Except RefusalCode Unit := do
  failWhen (!hexDigest call.publicTokenHash || call.partySize < 1 || 20 < call.partySize
    || !timeRangeCheck call.startsAt call.endsAt || !requestIdValid call.requestId
    || call.timezone ∉ db.premises.timezoneNames) .invalidInput
  failWhen (!context.featureEnabled) .featureDisabled
  failWhen (call.startsAt ≤ context.now + hours 2) .bookingClosed
  failWhen (!db.premises.tableActive call.organizationId call.stallId call.diningTableId)
    .scopeInvalid

def reservationRow (call : CreateCall) : Reservation :=
  policyTimes {
    id := call.reservationId
    organizationId := call.organizationId
    stallId := call.stallId
    diningTableId := call.diningTableId
    publicTokenHash := call.publicTokenHash
    status := .confirmed
    partySize := call.partySize
    startsAt := call.startsAt
    endsAt := call.endsAt
    timezone := call.timezone
    preorderOpensAt := 0
    preorderCutoffAt := 0
    modificationCutoffAt := 0
    cancellationCutoffAt := 0
    lateGraceUntil := 0
    noShowEligibleAt := 0
    cancellationReasonCode := none
    cancelledAt := none
    version := 1
    createdByProfileId := call.actorProfileId
    updatedByProfileId := call.actorProfileId }

/-- The violation that a refused row is reported for: the unique indexes are
checked before the exclusion. -/
def insertViolation (reservations : CheckedTable Reservation reservationCheck)
    (row : Reservation) : CallResult :=
  if reservations.table.rows.any fun stored =>
      stored.id = row.id || stored.publicTokenHash = row.publicTokenHash then
    .refused .tokenConflict
  else if reservations.table.rows.any fun stored => stored.excludes row then
    .refused .capacityUnavailable
  else .raised

def createReservation (db : ReservationDb) (call : CreateCall) : ReservationDb × CallResult :=
  match prepareReservationRow db.premises none (reservationRow call) with
  | none => (db, .raised)
  | some row =>
      match db.reservations.insert? row with
      | some reservations => ({ db with reservations }, .reserved row)
      | none => (db, insertViolation db.reservations row)

/-! ## Rewriting a reservation -/

/-- The reservation of a call, as it is once it is locked. -/
def lockedReservation (db : ReservationDb) (reservationId organizationId stallId : Uuid) :
    Option Reservation :=
  db.reservations.findFirst fun row => row.id = reservationId
    && row.organizationId = organizationId && row.stallId = stallId

def revoked (now : Timestamp) (session : PreorderSession) : PreorderSession :=
  { session with status := .revoked, revokedAt := some now }

/-- Write a reservation in the place of its old row, and revoke its active session. -/
def rewriteReservation (db : ReservationDb) (now : Timestamp) (before after : Reservation) :
    Option ReservationDb := do
  let reservations ← db.reservations.updateWhere? (fun row => Indexed.key row = before.id)
    fun _ => after
  let sessions ← db.sessions.updateWhere?
    (fun session => session.reservationId = before.id && session.status = .active) (revoked now)
  return { db with reservations, sessions }

/-! ## Modifying -/

structure ModifyCall where
  reservationId : Uuid
  organizationId : Uuid
  stallId : Uuid
  expectedVersion : Option ℤ
  diningTableId : Uuid
  partySize : ℤ
  startsAt : Timestamp
  endsAt : Timestamp
  timezone : Text
  requestId : Text
  actorProfileId : Option Uuid

/-- What a modification checks before it waits for its tables. -/
def modifyInputChecks (db : ReservationDb) (call : ModifyCall) : Except RefusalCode Unit := do
  failWhen (call.expectedVersion.any (· < 1) || call.partySize < 1 || 20 < call.partySize
    || !timeRangeCheck call.startsAt call.endsAt || !requestIdValid call.requestId
    || call.timezone ∉ db.premises.timezoneNames) .invalidInput
  failWhen (lockedReservation db call.reservationId call.organizationId call.stallId).isNone
    .invalid

def modifyChecks (db : ReservationDb) (context : CallContext) (call : ModifyCall) :
    Except RefusalCode Reservation := do
  let before ← orFail
    (lockedReservation db call.reservationId call.organizationId call.stallId) .invalid
  failWhen (before.status ≠ .confirmed) .invalidState
  failWhen (call.expectedVersion.any (before.version ≠ ·)) .versionConflict
  failWhen (!context.featureEnabled) .featureDisabled
  failWhen (before.modificationCutoffAt ≤ context.now
    || call.startsAt ≤ context.now + hours 2) .modificationCutoffReached
  failWhen (!db.premises.tableActive before.organizationId before.stallId call.diningTableId)
    .scopeInvalid
  return before

def modifiedReservation (call : ModifyCall) (before : Reservation) : Reservation :=
  { before with
    diningTableId := call.diningTableId
    partySize := call.partySize
    startsAt := call.startsAt
    endsAt := call.endsAt
    timezone := call.timezone
    version := before.version + 1
    updatedByProfileId := call.actorProfileId }

/-- Another confirmed reservation has the table at the time of this one. -/
def capacityTaken (db : ReservationDb) (after : Reservation) : Bool :=
  db.reservations.table.rows.any fun stored => stored.id ≠ after.id && stored.excludes after

def modifyReservation (db : ReservationDb) (context : CallContext) (call : ModifyCall) :
    ReservationDb × CallResult :=
  match modifyChecks db context call with
  | .error code => (db, .refused code)
  | .ok before =>
      match prepareReservationRow db.premises (some before) (modifiedReservation call before) with
      | none => (db, .raised)
      | some after =>
          if capacityTaken db after then (db, .refused .capacityUnavailable)
          else
            match rewriteReservation db context.now before after with
            | some db => (db, .modified after)
            | none => (db, .raised)

/-! ## Cancelling -/

structure CancelCall where
  reservationId : Uuid
  organizationId : Uuid
  stallId : Uuid
  expectedVersion : Option ℤ
  reasonCode : Text
  requestId : Text
  actorProfileId : Option Uuid

def cancelInputChecks (db : ReservationDb) (call : CancelCall) : Except RefusalCode Unit := do
  failWhen (call.expectedVersion.any (· < 1) || !codeText 2 39 call.reasonCode
    || !requestIdValid call.requestId) .invalidInput
  failWhen (lockedReservation db call.reservationId call.organizationId call.stallId).isNone
    .invalid

def cancelChecks (context : CallContext) (call : CancelCall) (before : Reservation) :
    Except RefusalCode Unit := do
  failWhen (before.status ≠ .confirmed) .invalidState
  failWhen (call.expectedVersion.any (before.version ≠ ·)) .versionConflict
  failWhen (before.cancellationCutoffAt ≤ context.now) .cancellationCutoffReached

def cancelledReservation (now : Timestamp) (call : CancelCall) (before : Reservation) :
    Reservation :=
  { before with
    status := .cancelled
    cancellationReasonCode := some call.reasonCode
    cancelledAt := some now
    version := before.version + 1
    updatedByProfileId := call.actorProfileId }

def cancelReservation (db : ReservationDb) (context : CallContext) (call : CancelCall) :
    ReservationDb × CallResult :=
  match lockedReservation db call.reservationId call.organizationId call.stallId with
  | none => (db, .refused .invalid)
  | some before =>
      if before.status = .cancelled then (db, .cancelled before true)
      else
        match cancelChecks context call before with
        | .error code => (db, .refused code)
        | .ok () =>
            match prepareReservationRow db.premises (some before)
                (cancelledReservation context.now call before) with
            | none => (db, .raised)
            | some after =>
                match rewriteReservation db context.now before after with
                | some db => (db, .cancelled after false)
                | none => (db, .raised)

/-! ## Issuing sessions -/

structure IssueCall where
  sessionId : Uuid
  reservationTokenHash : Text
  sessionTokenHash : Text
  deviceHash : Text
  sessionRequestId : Uuid
  requestId : Text

/-- The confirmed reservation of a token at a table that takes reservations. -/
def issuableReservation (db : ReservationDb) (tokenHash : Text) : Option Reservation :=
  db.reservations.findFirst fun row => row.publicTokenHash = tokenHash
    && row.status = .confirmed
    && db.premises.tableActive row.organizationId row.stallId row.diningTableId

/-- What an issue checks before it waits for the reservation, and the table it
has joined the reservation with. -/
def issueChecks (db : ReservationDb) (call : IssueCall) : Except RefusalCode Uuid := do
  failWhen (!hexDigest call.reservationTokenHash || !hexDigest call.sessionTokenHash
    || !hexDigest call.deviceHash || !requestIdValid call.requestId) .invalid
  let reservation ← orFail (issuableReservation db call.reservationTokenHash) .invalid
  return reservation.diningTableId

/-- Once the reservation is locked its row is checked again, against the table
that it was joined with. -/
def openReservation (db : ReservationDb) (context : CallContext) (tableId : Uuid)
    (call : IssueCall) : Except RefusalCode Reservation := do
  let reservation ← orFail (db.reservations.findFirst fun row =>
    row.publicTokenHash = call.reservationTokenHash && row.status = .confirmed
      && row.diningTableId = tableId) .invalid
  failWhen (!context.featureEnabled) .featureDisabled
  failWhen (context.now < reservation.preorderOpensAt) .preorderNotOpen
  failWhen (reservation.preorderCutoffAt ≤ context.now) .preorderCutoffReached
  return reservation

def expired (session : PreorderSession) : PreorderSession :=
  { session with status := .expired }

def expireSessions (db : ReservationDb) (reservationId : Uuid) (now : Timestamp) :
    Option ReservationDb := do
  let sessions ← db.sessions.updateWhere? (fun session => session.reservationId = reservationId
    && session.status = .active && session.expiresAt ≤ now) expired
  return { db with sessions }

def sessionRow (call : IssueCall) (reservation : Reservation) : PreorderSession where
  id := call.sessionId
  organizationId := reservation.organizationId
  stallId := reservation.stallId
  reservationId := reservation.id
  reservationVersion := reservation.version
  sessionRequestId := call.sessionRequestId
  tokenHash := call.sessionTokenHash
  deviceHash := call.deviceHash
  status := .active
  scheduledFor := reservation.startsAt
  expiresAt := reservation.preorderCutoffAt
  revokedAt := none

def sessionOfRequest (db : ReservationDb) (reservationId sessionRequestId : Uuid) :
    Option PreorderSession :=
  db.sessions.findFirst fun session =>
    session.reservationId = reservationId && session.sessionRequestId = sessionRequestId

def sessionAnswers (now : Timestamp) (call : IssueCall) (session : PreorderSession) : Bool :=
  session.status = .active && now < session.expiresAt
    && session.tokenHash = call.sessionTokenHash && session.deviceHash = call.deviceHash

/-- A session of a request that has none, unless another session is active. -/
def issueNewSession (db : ReservationDb) (call : IssueCall) (reservation : Reservation) :
    Option (ReservationDb × CallResult) :=
  if db.sessions.table.rows.any fun session =>
      session.reservationId = reservation.id && session.status = .active then
    some (db, .refused .preorderSessionExists)
  else
    match db.sessions.insert? (sessionRow call reservation) with
    | some sessions => some ({ db with sessions }, .session (sessionRow call reservation) false)
    | none =>
        if sessionCheck (sessionRow call reservation) then
          some (db, .refused .preorderSessionExists)
        else none

/-- The session of a request, which is answered again or issued. -/
def answerRequest (db : ReservationDb) (now : Timestamp) (call : IssueCall)
    (reservation : Reservation) : Option (ReservationDb × CallResult) :=
  match sessionOfRequest db reservation.id call.sessionRequestId with
  | some session =>
      if sessionAnswers now call session then some (db, .session session true)
      else some (db, .refused .sessionRequestConflict)
  | none => issueNewSession db call reservation

def issueReservationPreorderSession (db : ReservationDb) (context : CallContext) (tableId : Uuid)
    (call : IssueCall) : ReservationDb × CallResult :=
  match openReservation db context tableId call with
  | .error code => (db, .refused code)
  | .ok reservation =>
      ((expireSessions db reservation.id context.now).bind fun expiredDb =>
        answerRequest expiredDb context.now call reservation).getD (db, .raised)

/-! ## Interleavings -/

inductive ReservationCall
  | create (call : CreateCall)
  | modify (call : ModifyCall)
  | cancel (call : CancelCall)
  | issue (call : IssueCall)

/-- A call that waits for its locks, with what it has read. -/
inductive WaitingCall
  | create (call : CreateCall)
  | modify (call : ModifyCall)
  | cancel (call : CancelCall)
  | issue (tableId : Uuid) (call : IssueCall)

structure ReservationSystem where
  db : ReservationDb
  waiting : List (CallContext × WaitingCall)
  results : List CallResult

def ReservationSystem.opened (premises : Premises) : ReservationSystem where
  db := .opened premises
  waiting := []
  results := []

/-- What a call does before it waits. -/
def start (db : ReservationDb) (context : CallContext) :
    ReservationCall → Except RefusalCode WaitingCall
  | .create call => do
      createChecks db context call
      return .create call
  | .modify call => do
      modifyInputChecks db call
      return .modify call
  | .cancel call => do
      cancelInputChecks db call
      return .cancel call
  | .issue call => do
      let tableId ← issueChecks db call
      return .issue tableId call

/-- What a call does while it holds its locks. -/
def finish (db : ReservationDb) (context : CallContext) :
    WaitingCall → ReservationDb × CallResult
  | .create call => createReservation db call
  | .modify call => modifyReservation db context call
  | .cancel call => cancelReservation db context call
  | .issue tableId call => issueReservationPreorderSession db context tableId call

inductive ReservationEvent
  | call (context : CallContext) (call : ReservationCall)
  | locked (position : ℕ)

def step (system : ReservationSystem) : ReservationEvent → ReservationSystem
  | .call context call =>
      match start system.db context call with
      | .ok waiting => { system with waiting := system.waiting ++ [(context, waiting)] }
      | .error code => { system with results := system.results ++ [.refused code] }
  | .locked position =>
      match system.waiting[position]? with
      | some (context, waiting) =>
          let outcome := finish system.db context waiting
          { db := outcome.1
            waiting := system.waiting.eraseIdx position
            results := system.results ++ [outcome.2] }
      | none => system

end Stallorder.ReservationService
