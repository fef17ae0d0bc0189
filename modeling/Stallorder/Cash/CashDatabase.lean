import Stallorder.Core.Checks
import Stallorder.Core.Totals
import Stallorder.Server.SyncDatabase

/-!
# The cash ledger

Shifts, movements and payments, and the triggers that guard them: which
movements a shift takes in each of its states, that a closed shift is never
written again, that a paid cash payment belongs to an open shift, and that it
records its sale.
-/

namespace Stallorder.CashDatabase

open OrderContract SyncDatabase Checks

/-! ## Tables -/

/-- The type and the id that a movement refers to. -/
inductive MovementReference
  | cashShift (shiftId : Uuid)
  | payment (paymentId : Uuid)
  | paymentMethodCorrection (eventId : Uuid)
  | offlineCashEvent (cashEventId : Uuid)
  deriving DecidableEq

def MovementReference.isOfflineCashEvent : MovementReference → Bool
  | .offlineCashEvent _ => true
  | _ => false

structure LedgerMovement where
  id : Uuid
  organizationId : Uuid
  stallId : Uuid
  cashShiftId : Uuid
  type : CashMovementType
  amount : ℤ
  reference : Option MovementReference
  /-- `none` when it falls to whoever opened the shift. -/
  recordedById : Option Uuid
  deriving DecidableEq

/-- A reference occurs once for each type, and an offline event once in its
shift. -/
instance : Indexed LedgerMovement Uuid where
  key := (·.id)
  collides left right :=
    left.id = right.id
      || (left.reference.isSome && left.reference = right.reference
        && (left.type = right.type
          || (left.reference.any (·.isOfflineCashEvent)
            && left.cashShiftId = right.cashShiftId)))
  collides_symm hcollides := by
    simp only [Bool.or_eq_true, Bool.and_eq_true, decide_eq_true_eq] at hcollides ⊢
    rcases hcollides with hid | ⟨⟨hsome, hreference⟩, hrest⟩
    · exact Or.inl hid.symm
    · refine Or.inr ⟨⟨hreference ▸ hsome, hreference.symm⟩, ?_⟩
      rcases hrest with htype | ⟨hoffline, hshift⟩
      · exact Or.inl htype.symm
      · exact Or.inr ⟨hreference ▸ hoffline, hshift.symm⟩
  collides_of_key_eq hkey := by simp [hkey]

structure Payment where
  id : Uuid
  organizationId : Uuid
  stallId : Uuid
  orderId : Uuid
  checkoutGroupId : Option Uuid
  paymentOptionId : Option Uuid
  cashShiftId : Option Uuid
  amount : ℤ
  method : PaymentMethod
  status : PaymentStatus
  cashReceived : Option ℤ
  changeAmount : Option ℤ
  recordedById : Option Uuid
  deriving DecidableEq

instance : Indexed Payment Uuid where
  key := (·.id)
  collides left right := left.id = right.id || left.orderId = right.orderId
  collides_symm hcollides := by
    simp only [Bool.or_eq_true, decide_eq_true_eq] at hcollides ⊢
    exact hcollides.imp Eq.symm Eq.symm
  collides_of_key_eq hkey := by simp [hkey]

/-- The event of an order whose payment method was corrected. -/
structure CorrectionEvent where
  id : Uuid
  orderId : Uuid
  deriving DecidableEq

instance : KeyIndexed CorrectionEvent Uuid := .ofKey (·.id)

structure CashDb where
  shifts : Table CashShift
  movements : Table LedgerMovement
  payments : Table Payment
  corrections : Table CorrectionEvent

def CashDb.empty : CashDb where
  shifts := .empty
  movements := .empty
  payments := .empty
  corrections := .empty

inductive CashError
  | shiftNotFound
  | shiftNotOpen
  | shiftNotReviewable
  | paymentNotFound
  | paymentNotRefundable
  | activeShiftRequired
  | cashShiftNotFound
  | cashMovementScopeMismatch
  | cashMovementNotAllowedForOpenShift
  | onlyCorrectionAllowedDuringReview
  | cashShiftLedgerLocked
  | closedCashShiftImmutable
  | paymentCashShiftImmutable
  | nonCashPaymentCannotHaveCashShift
  | activeCashShiftRequired
  | constraintViolated
  deriving DecidableEq

/-! ## Movements -/

def maxAmount : ℤ := 100000000

def cashMovementsAmountCheck (movement : LedgerMovement) : Bool :=
  -maxAmount ≤ movement.amount && movement.amount ≤ maxAmount && movement.amount ≠ 0
    && (movement.type = .correction || 0 < movement.amount)

/-- The movements that come from a shift or a payment refer to it. -/
def cashMovementsReferenceCheck (movement : LedgerMovement) : Bool :=
  match movement.type with
  | .openingFloat | .cashSale | .cashRefund => movement.reference.isSome
  | .cashIn | .cashOut | .correction => true

/-- An open shift takes everything but corrections, a shift under review
corrections only, and any other shift nothing. -/
def enforceCashMovementLedger (db : CashDb) (movement : LedgerMovement) :
    Except CashError Unit := do
  let shift ← orFail (db.shifts.get? movement.cashShiftId) .cashShiftNotFound
  failWhen (movement.organizationId ≠ shift.organizationId || movement.stallId ≠ shift.stallId)
    .cashMovementScopeMismatch
  match shift.status with
  | .open => failWhen (movement.type = .correction) .cashMovementNotAllowedForOpenShift
  | .reviewRequired => failWhen (movement.type ≠ .correction) .onlyCorrectionAllowedDuringReview
  | .closing | .closed => .error .cashShiftLedgerLocked

def checkMovement (db : CashDb) (movement : LedgerMovement) : Except CashError Unit := do
  enforceCashMovementLedger db movement
  failWhen (!cashMovementsAmountCheck movement || !cashMovementsReferenceCheck movement)
    .constraintViolated

def insertMovement (db : CashDb) (movement : LedgerMovement) : Except CashError CashDb := do
  checkMovement db movement
  let movements ← orFail (db.movements.insert? movement) .constraintViolated
  return { db with movements }

/-- `on conflict (reference_type, reference_id, type) do nothing` -/
def insertMovementOnce (db : CashDb) (movement : LedgerMovement) : Except CashError CashDb := do
  checkMovement db movement
  if db.movements.rows.any fun stored => stored.reference.isSome
      && stored.reference = movement.reference && stored.type = movement.type
  then return db
  else do
    let movements ← orFail (db.movements.insert? movement) .constraintViolated
    return { db with movements }

/-! ## Shifts -/

/-- The columns of the close are there exactly when the shift is not open. -/
def cashShiftsCloseFieldsCheck (shift : CashShift) : Bool :=
  if shift.status = .open then
    shift.closedAt.isNone && shift.closedById.isNone && shift.systemExpectedAmount.isNone
      && shift.countedAmount.isNone && shift.varianceAmount.isNone
  else
    shift.closedAt.isSome && shift.closedById.isSome && shift.systemExpectedAmount.isSome
      && shift.countedAmount.isSome && shift.varianceAmount.isSome

def cashShiftsAmountChecks (shift : CashShift) : Bool :=
  0 ≤ shift.openingAmount && shift.openingAmount ≤ maxAmount
    && shift.countedAmount.all fun counted => 0 ≤ counted && counted ≤ maxAmount

def cashShiftsChecks (shift : CashShift) : Bool :=
  cashShiftsCloseFieldsCheck shift && cashShiftsAmountChecks shift

/-- A stall has one open shift at most. -/
def insertShift (db : CashDb) (shift : CashShift) : Except CashError CashDb := do
  failWhen (!cashShiftsChecks shift) .constraintViolated
  failWhen (shift.status = .open && db.shifts.rows.any fun stored =>
    stored.status = .open && stored.stallId = shift.stallId) .constraintViolated
  let shifts ← orFail (db.shifts.insert? shift) .constraintViolated
  return { db with shifts }

/-- A closed shift is never written again. -/
def preventClosedCashShiftUpdate (old : CashShift) : Except CashError Unit :=
  failWhen (old.status = .closed) .closedCashShiftImmutable

theorem collides_of_same_id {change : CashShift → CashShift}
    (hid : ∀ row, (change row).id = row.id) {row other : CashShift}
    (hcollides : Indexed.collides (change row) other) : Indexed.collides row other :=
  Indexed.collides_of_key_eq ((hid row).symm.trans (KeyIndexed.key_eq_of_collides hcollides))

/-- Write a shift that was read in the same transaction.  No statement moves a
shift to the open state. -/
def updateShift (db : CashDb) (shift : CashShift) (change : CashShift → CashShift)
    (hid : ∀ row, (change row).id = row.id) : Except CashError CashDb := do
  preventClosedCashShiftUpdate shift
  failWhen (!cashShiftsChecks (change shift)) .constraintViolated
  return { db with
    shifts := db.shifts.update shift.id change (collides_of_same_id hid) }

/-! ## Payments -/

/-- What the guard of the payments lets through; a correction of the method has
to be announced by its transaction. -/
def enforcePaymentCashShift (db : CashDb) (old : Option Payment) (new : Payment)
    (methodCorrection : Bool) : Except CashError Unit := do
  let authorizedCorrection := methodCorrection && old.any fun old =>
    old.status = .paid && new.status = .paid && new.paymentOptionId ≠ old.paymentOptionId
  failWhen (old.any fun old => authorizedCorrection && new.amount ≠ old.amount)
    .paymentCashShiftImmutable
  failWhen (old.any fun old =>
    (new.cashShiftId ≠ old.cashShiftId || new.method ≠ old.method
      || (new.method = .cash && new.amount ≠ old.amount)) && !authorizedCorrection)
    .paymentCashShiftImmutable
  if new.method ≠ .cash then
    failWhen new.cashShiftId.isSome .nonCashPaymentCannotHaveCashShift
  else do
    let validatePaid := new.status = .paid && old.all fun old =>
      old.status ≠ new.status || old.method ≠ new.method || old.cashShiftId ≠ new.cashShiftId
    failWhen (validatePaid && !(new.cashShiftId.bind db.shifts.get?).any fun shift =>
      shift.organizationId = new.organizationId && shift.stallId = new.stallId
        && shift.status = .open) .activeCashShiftRequired

def saleMovement (payment : Payment) (cashShiftId movementId : Uuid) : LedgerMovement where
  id := movementId
  organizationId := payment.organizationId
  stallId := payment.stallId
  cashShiftId := cashShiftId
  type := .cashSale
  amount := payment.amount
  reference := some (.payment payment.id)
  recordedById := payment.recordedById

/-- A payment that becomes paid in cash records its sale. -/
def recordCashSaleMovement (db : CashDb) (payment : Payment) (movementId : Uuid) :
    Except CashError CashDb :=
  match payment.cashShiftId with
  | some cashShiftId =>
      if payment.method = .cash && payment.status = .paid then
        insertMovementOnce db (saleMovement payment cashShiftId movementId)
      else .ok db
  | none => .ok db

def insertPayment (db : CashDb) (payment : Payment) (movementId : Uuid) :
    Except CashError CashDb := do
  enforcePaymentCashShift db none payment false
  failWhen (payment.amount < 0) .constraintViolated
  let payments ← orFail (db.payments.insert? payment) .constraintViolated
  recordCashSaleMovement { db with payments } payment movementId

theorem collides_of_same_keys {change : Payment → Payment}
    (hkeys : ∀ row, (change row).id = row.id ∧ (change row).orderId = row.orderId)
    {row other : Payment} (hcollides : Indexed.collides (change row) other) :
    Indexed.collides row other := by
  simp only [Indexed.collides, (hkeys row).1, (hkeys row).2] at hcollides ⊢
  exact hcollides

/-- Write a payment that was read in the same transaction; a statement that sets
the status also comes to the trigger of the sales. -/
def updatePayment (db : CashDb) (payment : Payment) (change : Payment → Payment)
    (hkeys : ∀ row, (change row).id = row.id ∧ (change row).orderId = row.orderId)
    (methodCorrection setsStatus : Bool) (movementId : Uuid) : Except CashError CashDb := do
  enforcePaymentCashShift db (some payment) (change payment) methodCorrection
  let updated := { db with
    payments := db.payments.update payment.id change (collides_of_same_keys hkeys) }
  if setsStatus && (change payment).status ≠ payment.status then
    recordCashSaleMovement updated (change payment) movementId
  else return updated

end Stallorder.CashDatabase
