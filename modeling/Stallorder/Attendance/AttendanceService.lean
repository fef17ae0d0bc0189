import Stallorder.Core.Checks
import Stallorder.Core.FirstOf
import Stallorder.Core.Table
import Stallorder.Offline.OrderContract

/-!
# Clocking in and out

The attendance attempts of the staff and their review.  Texts that the server
signs or hashes are kept as what they say; the distance between two places and
the rotating codes are given from outside.
-/

namespace Stallorder.AttendanceService

open OrderContract Checks FirstOf

/-! ## Attempts -/

inductive AttendanceEventType
  | clockIn
  | clockOut
  deriving DecidableEq

inductive AttendanceDecision
  | accepted
  | rejected
  | reviewRequired
  deriving DecidableEq

inductive AttendanceRisk
  | locationStale
  | locationFuture
  | accuracyTooPoor
  | outsideGeofence
  | geofenceBoundary
  | rotatingCodeInvalid
  | impossibleTravel
  | highTravelSpeed
  | deviceNotBound
  | alreadyClockedIn
  | notClockedIn
  | lateClockIn
  | earlyClockOut
  deriving DecidableEq

inductive AttendanceError
  | attendanceDisabled
  | attendancePolicyIncomplete
  | challengeInvalid
  | challengeExpired
  | challengeReplayed
  | eventNotReviewable
  | constraintViolated
  | uniqueViolation
  deriving DecidableEq

structure Coordinates where
  latitude : ℚ
  longitude : ℚ
  deriving DecidableEq

structure ChallengePayload where
  sessionId : Uuid
  profileId : Uuid
  stallId : Uuid
  nonce : Text
  /-- In seconds. -/
  expiresAt : ℤ
  deriving DecidableEq

structure AttendanceAttempt where
  eventType : AttendanceEventType
  /-- What the token says, when its signature is right. -/
  challengeToken : Option ChallengePayload
  position : Coordinates
  accuracyMeters : ℚ
  capturedAt : Timestamp
  rotatingCode : Option Text
  deriving DecidableEq

/-! ## Tables -/

structure AttendancePolicy where
  enabled : Bool
  position : Option Coordinates
  radiusMeters : ℤ
  maxAccuracyMeters : ℤ
  requireRotatingCode : Bool
  locationEvidenceDays : ℤ

structure AuthSession where
  deviceId : Option Uuid
  profileId : Uuid
  revokedAt : Option Timestamp
  expiresAt : Timestamp

inductive ScheduleStatus
  | draft
  | published
  | cancelled
  deriving DecidableEq

structure WorkforceSchedule where
  organizationId : Uuid
  stallId : Uuid
  profileId : Uuid
  shiftStartAt : Option Timestamp
  shiftEndAt : Option Timestamp
  status : ScheduleStatus

structure AttendanceEvent where
  id : Uuid
  organizationId : Uuid
  stallId : Uuid
  profileId : Uuid
  sessionId : Option Uuid
  deviceId : Option Uuid
  eventType : AttendanceEventType
  decision : AttendanceDecision
  position : Option Coordinates
  accuracyMeters : Option ℚ
  distanceMeters : Option ℚ
  clientCapturedAt : Option Timestamp
  riskCodes : List AttendanceRisk
  rotatingCodeVerified : Bool
  challengeNonceHash : Text
  reviewNote : Option Text
  reviewedByProfileId : Option Uuid
  reviewedAt : Option Timestamp
  evidencePurgeAt : Timestamp
  occurredAt : Timestamp
  deriving DecidableEq

instance : Indexed AttendanceEvent Uuid where
  key := (·.id)
  collides left right :=
    left.id = right.id || left.challengeNonceHash = right.challengeNonceHash
  collides_symm hcollides := by
    simp only [Bool.or_eq_true, decide_eq_true_eq] at hcollides ⊢
    exact hcollides.imp Eq.symm Eq.symm
  collides_of_key_eq hkey := by simp [hkey]

def attendanceEventsChecks (event : AttendanceEvent) : Bool :=
  event.position.all (fun position => -90 ≤ position.latitude && position.latitude ≤ 90
      && -180 ≤ position.longitude && position.longitude ≤ 180)
    && event.accuracyMeters.all (fun meters => 0 ≤ meters && meters ≤ 10_000)
    && event.distanceMeters.all (fun meters => 0 ≤ meters && meters ≤ 40_075_000)
    && event.reviewNote.all (·.length ≤ 500)

/-- Policies, sessions and schedules are kept by other services. -/
structure AttendanceDb where
  policies : Uuid → Option AttendancePolicy
  sessions : Uuid → Option AuthSession
  schedules : List WorkforceSchedule
  events : CheckedTable AttendanceEvent attendanceEventsChecks

/-- What the server is given: the distance of two places, and the code that a
stall shows in a window of time. -/
structure Surroundings where
  haversineDistanceMeters : Coordinates → Coordinates → ℚ
  rotatingCodeForWindow : Uuid → ℤ → Text

/-! ## Challenges and codes -/

def verifyAttendanceChallenge (token : Option ChallengePayload) (sessionId profileId stallId : Uuid)
    (now : Timestamp) : Except AttendanceError ChallengePayload := do
  let payload ← orFail token .challengeInvalid
  failWhen (payload.expiresAt < now / 1000) .challengeExpired
  failWhen (payload.sessionId ≠ sessionId || payload.profileId ≠ profileId
    || payload.stallId ≠ stallId) .challengeInvalid
  return payload

def rotatingCodeWindowSeconds : ℤ := 60

def verifyRotatingAttendanceCode (surroundings : Surroundings) (stallId : Uuid)
    (supplied : Option Text) (now : Timestamp) : Bool :=
  match supplied with
  | none => false
  | some code =>
      code.length = 6 && code.all Char.isDigit
        && [now / 1000 / rotatingCodeWindowSeconds, now / 1000 / rotatingCodeWindowSeconds - 1].any
          fun window => surroundings.rotatingCodeForWindow stallId window = code

/-! ## Places -/

def locationMaxAgeMs : ℤ := 30_000
def locationFutureToleranceMs : ℤ := 10_000
def reviewSpeedKmh : ℚ := 120
def rejectSpeedKmh : ℚ := 250

/-- The risk of travelling from the last place where the staff member was. -/
def travelRisk (surroundings : Surroundings) (attempt : AttendanceAttempt)
    (previousAccepted : Option (Coordinates × Timestamp)) : List AttendanceRisk :=
  match previousAccepted with
  | none => []
  | some (position, occurredAt) =>
      let elapsedHours : ℚ := (attempt.capturedAt - occurredAt) / 3_600_000
      if 0 < elapsedHours then
        let speedKmh :=
          surroundings.haversineDistanceMeters position attempt.position / 1000 / elapsedHours
        if rejectSpeedKmh < speedKmh then [.impossibleTravel]
        else if reviewSpeedKmh < speedKmh then [.highTravelSpeed]
        else []
      else
        []

structure LocationEvaluation where
  distanceMeters : ℚ
  riskCodes : List AttendanceRisk
  decision : AttendanceDecision

/-- The risks that turn an attempt down. -/
def hardRisks : List AttendanceRisk :=
  [.locationStale, .locationFuture, .accuracyTooPoor, .outsideGeofence, .geofenceBoundary,
    .rotatingCodeInvalid, .impossibleTravel, .highTravelSpeed]

def evaluateAttendanceLocation (surroundings : Surroundings) (attempt : AttendanceAttempt)
    (policy : AttendancePolicy) (centre : Coordinates) (rotatingCodeVerified : Bool)
    (previousAccepted : Option (Coordinates × Timestamp)) (now : Timestamp) :
    LocationEvaluation :=
  let distanceMeters := surroundings.haversineDistanceMeters centre attempt.position
  let riskCodes :=
    (if attempt.capturedAt < now - locationMaxAgeMs then [AttendanceRisk.locationStale] else [])
      ++ (if now + locationFutureToleranceMs < attempt.capturedAt then [.locationFuture] else [])
      ++ (if policy.maxAccuracyMeters < attempt.accuracyMeters then [.accuracyTooPoor] else [])
      ++ (if policy.radiusMeters < distanceMeters - attempt.accuracyMeters then [.outsideGeofence]
        else if distanceMeters + attempt.accuracyMeters ≤ policy.radiusMeters then []
        else [.geofenceBoundary])
      ++ (if policy.requireRotatingCode && !rotatingCodeVerified then [.rotatingCodeInvalid] else [])
      ++ travelRisk surroundings attempt previousAccepted
  { distanceMeters
    riskCodes
    decision := if riskCodes.any (· ∈ hardRisks) then .rejected else .accepted }

def roundTo (digits : ℚ) (value : ℚ) : ℚ := ⌊value * digits + 1 / 2⌋ / digits

def roundCoordinate (value : ℚ) : ℚ := roundTo 10_000 value

def roundEvidence (value : ℚ) : ℚ := roundTo 100 value

/-! ## Schedules -/

def scheduleGraceMs : ℤ := 5 * 60_000
def scheduleMatchWindowMs : ℤ := 18 * 60 * 60_000

/-- The end of a shift that an event of the type is about. -/
def WorkforceSchedule.target (schedule : WorkforceSchedule) :
    AttendanceEventType → Option Timestamp
  | .clockIn => schedule.shiftStartAt
  | .clockOut => schedule.shiftEndAt

def attendanceScheduleRisk (eventType : AttendanceEventType) (occurredAt : Timestamp)
    (schedule : Option WorkforceSchedule) : Option AttendanceRisk :=
  match eventType, schedule.bind (·.target eventType) with
  | .clockIn, some shiftStartAt =>
      if shiftStartAt + scheduleGraceMs < occurredAt then some .lateClockIn else none
  | .clockOut, some shiftEndAt =>
      if occurredAt < shiftEndAt - scheduleGraceMs then some .earlyClockOut else none
  | _, none => none

def nearerSchedule (eventType : AttendanceEventType) (occurredAt : Timestamp)
    (nearest : Option WorkforceSchedule) (schedule : WorkforceSchedule) :
    Option WorkforceSchedule :=
  match schedule.target eventType, nearest.bind (·.target eventType) with
  | none, _ => nearest
  | some _, none => some schedule
  | some time, some nearestTime =>
      if |time - occurredAt| < |nearestTime - occurredAt| then some schedule else nearest

def nearestAttendanceSchedule (eventType : AttendanceEventType) (occurredAt : Timestamp)
    (schedules : List WorkforceSchedule) : Option WorkforceSchedule :=
  schedules.foldl (nearerSchedule eventType occurredAt) none

def isScheduledNear (organizationId stallId profileId : Uuid) (eventType : AttendanceEventType)
    (occurredAt : Timestamp) (schedule : WorkforceSchedule) : Bool :=
  schedule.organizationId = organizationId && schedule.stallId = stallId
    && schedule.profileId = profileId && schedule.status = .published
    && (schedule.target eventType).any fun time => occurredAt - scheduleMatchWindowMs ≤ time
      && time ≤ occurredAt + scheduleMatchWindowMs

/-! ## Events -/

def isAcceptedAt (stallId profileId : Uuid) (event : AttendanceEvent) : Bool :=
  event.stallId = stallId && event.profileId = profileId && event.decision = .accepted

/-- The latest of the wanted events; `place` is where the scan meets a row, which
decides between events of one time. -/
def latestEvent (db : AttendanceDb) (place : Uuid → ℕ) (wanted : AttendanceEvent → Bool) :
    Option AttendanceEvent :=
  (firstOf (fun event : AttendanceEvent => toLex (-event.occurredAt, place event.id)) 1
    (db.events.table.rows.filter wanted)).head?

/-- A second clock-in in a row, or a clock-out without one. -/
def breaksTurn (eventType : AttendanceEventType) (latestAccepted : Option AttendanceEvent) : Bool :=
  match eventType with
  | .clockIn => latestAccepted.any (·.eventType = .clockIn)
  | .clockOut => !latestAccepted.any (·.eventType = .clockIn)

structure AttemptCall where
  organizationId : Uuid
  stallId : Uuid
  profileId : Uuid
  sessionId : Uuid
  attempt : AttendanceAttempt
  verifiedAt : Timestamp
  occurredAt : Timestamp
  /-- The clock inside the transaction. -/
  now : Timestamp
  eventId : Uuid
  place : Uuid → ℕ

def isDeviceBound (session : Option AuthSession) (profileId : Uuid) (now : Timestamp) : Bool :=
  session.any fun session => session.deviceId.isSome && session.profileId = profileId
    && session.revokedAt.isNone && now < session.expiresAt

/-- The last place where the staff member was accepted, anywhere in the organization. -/
def previousLocated (db : AttendanceDb) (call : AttemptCall) : Option (Coordinates × Timestamp) :=
  (latestEvent db call.place fun event => event.organizationId = call.organizationId
    && event.profileId = call.profileId && event.decision = .accepted
    && event.position.isSome).bind fun event =>
      event.position.map fun position => (position, event.occurredAt)

/-- What the server makes of an attempt. -/
structure Assessment where
  decision : AttendanceDecision
  riskCodes : List AttendanceRisk
  distanceMeters : ℚ
  deviceBound : Bool
  rotatingCodeVerified : Bool

def assess (surroundings : Surroundings) (db : AttendanceDb) (call : AttemptCall)
    (policy : AttendancePolicy) (centre : Coordinates) : Assessment :=
  let deviceBound := isDeviceBound (db.sessions call.sessionId) call.profileId call.now
  let rotatingCodeVerified := policy.requireRotatingCode
    && verifyRotatingAttendanceCode surroundings call.stallId call.attempt.rotatingCode call.now
  let evaluation := evaluateAttendanceLocation surroundings call.attempt policy centre
    rotatingCodeVerified (previousLocated db call) call.now
  let latestAccepted := latestEvent db call.place (isAcceptedAt call.stallId call.profileId)
  let outOfTurn := breaksTurn call.attempt.eventType latestAccepted
  let decision := if !deviceBound || outOfTurn then .rejected else evaluation.decision
  let schedules := (db.schedules.filter (isScheduledNear call.organizationId call.stallId
    call.profileId call.attempt.eventType call.occurredAt)).take 8
  let scheduleRisk := if decision = .accepted then
      attendanceScheduleRisk call.attempt.eventType call.occurredAt
        (nearestAttendanceSchedule call.attempt.eventType call.occurredAt schedules)
    else
      none
  { decision := if scheduleRisk.isSome then .reviewRequired else decision
    riskCodes := evaluation.riskCodes ++ (if deviceBound then [] else [.deviceNotBound])
      ++ (if outOfTurn then
        [if call.attempt.eventType = .clockIn then .alreadyClockedIn else .notClockedIn] else [])
      ++ scheduleRisk.toList
    distanceMeters := evaluation.distanceMeters
    deviceBound
    rotatingCodeVerified }

def attendanceEvent (db : AttendanceDb) (call : AttemptCall) (nonce : Text)
    (policy : AttendancePolicy) (assessment : Assessment) : AttendanceEvent where
  id := call.eventId
  organizationId := call.organizationId
  stallId := call.stallId
  profileId := call.profileId
  sessionId := if assessment.deviceBound then some call.sessionId else none
  deviceId := if assessment.deviceBound then (db.sessions call.sessionId).bind (·.deviceId)
    else none
  eventType := call.attempt.eventType
  decision := assessment.decision
  position := some ⟨roundCoordinate call.attempt.position.latitude,
    roundCoordinate call.attempt.position.longitude⟩
  accuracyMeters := some (roundEvidence call.attempt.accuracyMeters)
  distanceMeters := some (roundEvidence assessment.distanceMeters)
  clientCapturedAt := some call.attempt.capturedAt
  riskCodes := assessment.riskCodes
  rotatingCodeVerified := assessment.rotatingCodeVerified
  challengeNonceHash := nonce
  reviewNote := none
  reviewedByProfileId := none
  reviewedAt := none
  evidencePurgeAt := call.occurredAt + policy.locationEvidenceDays * 24 * 60 * 60_000
  occurredAt := call.occurredAt

/-- The checks of a row precede its unique indexes. -/
def createEvent (db : AttendanceDb) (event : AttendanceEvent) :
    Except AttendanceError AttendanceDb := do
  failWhen (!attendanceEventsChecks event) .constraintViolated
  let events ← orFail (db.events.insert? event) .uniqueViolation
  return { db with events }

/-- The policy of the stall with the place that it guards. -/
def enabledPolicy (db : AttendanceDb) (stallId : Uuid) :
    Except AttendanceError (AttendancePolicy × Coordinates) := do
  let policy ← orFail ((db.policies stallId).filter (·.enabled)) .attendanceDisabled
  let centre ← orFail policy.position .attendancePolicyIncomplete
  return (policy, centre)

/-- The event that is recorded of an attempt. -/
def submittedEvent (surroundings : Surroundings) (db : AttendanceDb) (call : AttemptCall) :
    Except AttendanceError AttendanceEvent := do
  let challenge ← verifyAttendanceChallenge call.attempt.challengeToken call.sessionId
    call.profileId call.stallId call.verifiedAt
  failWhen (db.events.table.rows.any (·.challengeNonceHash = challenge.nonce)) .challengeReplayed
  let (policy, centre) ← enabledPolicy db call.stallId
  return attendanceEvent db call challenge.nonce policy
    (assess surroundings db call policy centre)

def submitAttendanceAttempt (surroundings : Surroundings) (db : AttendanceDb)
    (call : AttemptCall) : Except AttendanceError AttendanceDb := do
  let event ← submittedEvent surroundings db call
  createEvent db event

/-! ## Reviews -/

structure ReviewCall where
  organizationId : Uuid
  stallId : Uuid
  eventId : Uuid
  reviewerProfileId : Uuid
  /-- The review accepts the event, or turns it down. -/
  accepts : Bool
  note : Text
  now : Timestamp
  place : Uuid → ℕ

def reviewed (call : ReviewCall) (event : AttendanceEvent) : AttendanceEvent :=
  { event with
    decision := if call.accepts then .accepted else .rejected
    reviewNote := some call.note
    reviewedByProfileId := some call.reviewerProfileId
    reviewedAt := some call.now }

/-- The event that a review is about. -/
def reviewableEvent (db : AttendanceDb) (call : ReviewCall) : Option AttendanceEvent :=
  (db.events.findFirst fun event => event.id = call.eventId
    && event.organizationId = call.organizationId && event.stallId = call.stallId).filter
      (·.decision = .reviewRequired)

def reviewAttendanceEvent (db : AttendanceDb) (call : ReviewCall) :
    Except AttendanceError AttendanceDb := do
  let event ← orFail (reviewableEvent db call) .eventNotReviewable
  failWhen (call.accepts && breaksTurn event.eventType
    (latestEvent db call.place (isAcceptedAt call.stallId event.profileId))) .eventNotReviewable
  let events ← orFail (db.events.updateWhere? (·.id = event.id) (reviewed call)) .constraintViolated
  return { db with events }

end Stallorder.AttendanceService
