import Stallorder.Core.Checks
import Stallorder.Core.CheckedTotals
import Stallorder.Core.SqlText
import Stallorder.Offline.OrderContract

/-!
# The reservation tables

Reservations of dining tables, and the preorder sessions that are issued for
them.  A confirmed reservation excludes every other one of its table from its
time, and a reservation has one active session at most.
-/

namespace Stallorder.ReservationDatabase

open OrderContract SqlText

/-! ## Reservations -/

inductive ReservationStatus
  | confirmed
  | cancelled
  | completed
  | noShow
  deriving DecidableEq

structure Reservation where
  id : Uuid
  organizationId : Uuid
  stallId : Uuid
  diningTableId : Uuid
  publicTokenHash : Text
  status : ReservationStatus
  partySize : ℤ
  startsAt : Timestamp
  endsAt : Timestamp
  timezone : Text
  preorderOpensAt : Timestamp
  preorderCutoffAt : Timestamp
  modificationCutoffAt : Timestamp
  cancellationCutoffAt : Timestamp
  lateGraceUntil : Timestamp
  noShowEligibleAt : Timestamp
  cancellationReasonCode : Option Text
  cancelledAt : Option Timestamp
  version : ℤ
  createdByProfileId : Option Uuid
  updatedByProfileId : Option Uuid
  deriving DecidableEq

/-- Two confirmed reservations of a table whose times overlap. -/
def Reservation.excludes (left right : Reservation) : Bool :=
  left.status = .confirmed && right.status = .confirmed
    && left.diningTableId = right.diningTableId
    && left.startsAt < right.endsAt && right.startsAt < left.endsAt

instance : Indexed Reservation Uuid where
  key := (·.id)
  collides left right := left.id = right.id || left.publicTokenHash = right.publicTokenHash
    || left.excludes right
  collides_symm hcollides := by
    simp only [Reservation.excludes, Bool.or_eq_true, Bool.and_eq_true, decide_eq_true_eq]
      at hcollides ⊢
    refine hcollides.imp (Or.imp Eq.symm Eq.symm) ?_
    rintro ⟨⟨⟨⟨hleft, hright⟩, htable⟩, hbefore⟩, hafter⟩
    exact ⟨⟨⟨⟨hright, hleft⟩, htable.symm⟩, hafter⟩, hbefore⟩
  collides_of_key_eq hkey := by simp [hkey]

def hours (count : ℤ) : ℤ := count * 3_600_000

def minutes (count : ℤ) : ℤ := count * 60_000

def timeRangeCheck (startsAt endsAt : Timestamp) : Bool :=
  startsAt < endsAt && endsAt ≤ startsAt + hours 6

def reservationCheck (row : Reservation) : Bool :=
  hexDigest row.publicTokenHash
    && 1 ≤ row.partySize && row.partySize ≤ 20
    && timeRangeCheck row.startsAt row.endsAt
    && row.preorderOpensAt < row.preorderCutoffAt
    && row.preorderCutoffAt ≤ row.startsAt
    && row.modificationCutoffAt ≤ row.startsAt
    && row.cancellationCutoffAt ≤ row.startsAt
    && row.startsAt ≤ row.lateGraceUntil
    && row.lateGraceUntil ≤ row.noShowEligibleAt
    && decide (row.status = .cancelled) == row.cancelledAt.isSome
    && (row.status ≠ .cancelled || row.cancellationReasonCode.any (codeText 2 39))
    && 1 ≤ row.version

/-! ## Sessions -/

inductive SessionStatus
  | active
  | revoked
  | expired
  deriving DecidableEq

structure PreorderSession where
  id : Uuid
  organizationId : Uuid
  stallId : Uuid
  reservationId : Uuid
  reservationVersion : ℤ
  sessionRequestId : Uuid
  tokenHash : Text
  deviceHash : Text
  status : SessionStatus
  scheduledFor : Timestamp
  expiresAt : Timestamp
  revokedAt : Option Timestamp
  deriving DecidableEq

instance : Indexed PreorderSession Uuid :=
  (((KeyIndexed.ofKey (·.id)).addUnique fun session => some session.tokenHash).addUnique
    fun session => some (session.reservationId, session.sessionRequestId)).addUnique
    fun session => if session.status = .active then some session.reservationId else none

def sessionCheck (row : PreorderSession) : Bool :=
  hexDigest row.tokenHash && hexDigest row.deviceHash && 1 ≤ row.reservationVersion
    && row.expiresAt ≤ row.scheduledFor
    && decide (row.status = .revoked) == row.revokedAt.isSome

/-! ## The database -/

structure DiningTable where
  id : Uuid
  organizationId : Uuid
  stallId : Uuid
  isActive : Bool
  deriving DecidableEq

instance : KeyIndexed DiningTable Uuid := .ofKey (·.id)

structure ReservationStall where
  id : Uuid
  organizationId : Uuid
  isActive : Bool
  deriving DecidableEq

instance : KeyIndexed ReservationStall Uuid := .ofKey (·.id)

/-- What reservations are made of. -/
structure Premises where
  tables : Table DiningTable
  stalls : Table ReservationStall
  timezoneNames : List Text

structure ReservationDb where
  premises : Premises
  reservations : CheckedTable Reservation reservationCheck
  sessions : CheckedTable PreorderSession sessionCheck

def ReservationDb.opened (premises : Premises) : ReservationDb where
  premises := premises
  reservations := .empty
  sessions := .empty

/-- The table and its stall take reservations. -/
def Premises.tableActive (premises : Premises) (organizationId stallId tableId : Uuid) : Bool :=
  (premises.tables.get? tableId).any fun table =>
    table.stallId = stallId && table.organizationId = organizationId && table.isActive
      && (premises.stalls.get? stallId).any fun stall =>
        stall.organizationId = organizationId && stall.isActive

/-- The times that follow from the start of a reservation. -/
def policyTimes (row : Reservation) : Reservation :=
  { row with
    preorderOpensAt := row.startsAt - hours 24
    preorderCutoffAt := row.startsAt - minutes 30
    modificationCutoffAt := row.startsAt - hours 2
    cancellationCutoffAt := row.startsAt - hours 2
    lateGraceUntil := row.startsAt + minutes 15
    noShowEligibleAt := row.startsAt + minutes 30 }

/-- The trigger that prepares a row before it is written; `none` is its exception. -/
def prepareReservationRow (premises : Premises) (old : Option Reservation) (new : Reservation) :
    Option Reservation :=
  if new.timezone ∉ premises.timezoneNames then none
  else if old.all fun old => old.startsAt ≠ new.startsAt || old.timezone ≠ new.timezone then
    some (policyTimes new)
  else some new

end Stallorder.ReservationDatabase
