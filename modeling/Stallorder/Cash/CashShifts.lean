import Stallorder.Cash.CashDatabase

/-!
# Cash shift commands

Everything that writes the cash ledger: the commands of a shift, the checkouts
that collect payments, the cash events of an offline device, and the correction
of the payment method of a completed order, which reads the payment before its
transaction.
-/

namespace Stallorder.CashShifts

open OrderContract SyncDatabase CashDatabase Checks

/-! ## Commands -/

structure CashScope where
  organizationId : Uuid
  stallId : Uuid
  actorProfileId : Uuid
  reconciliationEnabled : Bool

inductive MoveType
  | cashIn
  | cashOut
  deriving DecidableEq

def MoveType.movementType : MoveType → CashMovementType
  | .cashIn => .cashIn
  | .cashOut => .cashOut

inductive ReviewDecision
  | approved
  | rejected
  | adjustmentRequired
  deriving DecidableEq

inductive CashShiftCommand
  | open (openingAmount : ℤ) (note : Option Text)
  | move (shiftId : Uuid) (type : MoveType) (amount : ℤ)
  | close (shiftId : Uuid) (countedAmount : ℤ) (note : Option Text)
  | refund (shiftId paymentId : Uuid)
  | review (shiftId : Uuid) (decision : ReviewDecision) (comment : Option Text)
  | adjust (shiftId : Uuid) (amount : ℤ)

def cashShiftCommandSchema : CashShiftCommand → Bool
  | .open openingAmount _ => 0 ≤ openingAmount && openingAmount ≤ maxAmount
  | .move _ _ amount => 1 ≤ amount && amount ≤ maxAmount
  | .close _ countedAmount _ => 0 ≤ countedAmount && countedAmount ≤ maxAmount
  | .refund _ _ => true
  | .review _ decision comment => decision = .approved || comment.isSome
  | .adjust _ amount => -maxAmount ≤ amount && amount ≤ maxAmount && amount ≠ 0

/-- The ids that a transaction generates. -/
structure FreshIds where
  shiftId : Uuid
  movementId : Uuid
  eventId : Uuid

/-! ## Totals -/

def amountFor (db : CashDb) (shiftId : Uuid) (type : CashMovementType) : ℤ :=
  db.movements.total fun movement =>
    if movement.cashShiftId = shiftId ∧ movement.type = type then movement.amount else 0

def calculateCashExpected (openingAmount cashSales cashIn cashOut cashRefund correction : ℤ) : ℤ :=
  openingAmount + cashSales + cashIn - cashOut - cashRefund + correction

/-- The expected amount of the runtime totals of a shift. -/
def expectedAmount (db : CashDb) (shift : CashShift) : ℤ :=
  calculateCashExpected shift.openingAmount (amountFor db shift.id .cashSale)
    (amountFor db shift.id .cashIn) (amountFor db shift.id .cashOut)
    (amountFor db shift.id .cashRefund) (amountFor db shift.id .correction)

def requireOpenCashShift (db : CashDb) (organizationId stallId : Uuid) :
    Except CashError CashShift :=
  orFail (db.shifts.rows.find? fun shift => shift.organizationId = organizationId
    && shift.stallId = stallId && shift.status = .open) .activeShiftRequired

def lockCashShift (db : CashDb) (scope : CashScope) (shiftId : Uuid) :
    Except CashError CashShift :=
  orFail ((db.shifts.get? shiftId).filter fun shift =>
    shift.organizationId = scope.organizationId && shift.stallId = scope.stallId) .shiftNotFound

def assertShiftOpen (shift : CashShift) : Except CashError Unit :=
  failWhen (shift.status ≠ .open) .shiftNotOpen

/-! ## Shift commands -/

def newShift (scope : CashScope) (shiftId : Uuid) (openingAmount : ℤ) (note : Option Text) :
    CashShift where
  id := shiftId
  organizationId := scope.organizationId
  stallId := scope.stallId
  status := .open
  openingAmount := openingAmount
  systemExpectedAmount := none
  countedAmount := none
  varianceAmount := none
  note := note
  closedById := none
  closedAt := none

def newMovement (scope : CashScope) (movementId shiftId : Uuid) (type : CashMovementType)
    (amount : ℤ) (reference : Option MovementReference) : LedgerMovement where
  id := movementId
  organizationId := scope.organizationId
  stallId := scope.stallId
  cashShiftId := shiftId
  type := type
  amount := amount
  reference := reference
  recordedById := some scope.actorProfileId

def openShift (db : CashDb) (scope : CashScope) (ids : FreshIds) (openingAmount : ℤ)
    (note : Option Text) : Except CashError CashDb := do
  let db ← insertShift db (newShift scope ids.shiftId openingAmount note)
  if 0 < openingAmount then
    insertMovement db (newMovement scope ids.movementId ids.shiftId .openingFloat openingAmount
      (some (.cashShift ids.shiftId)))
  else return db

def moveCash (db : CashDb) (scope : CashScope) (ids : FreshIds) (shift : CashShift)
    (type : MoveType) (amount : ℤ) : Except CashError CashDb := do
  assertShiftOpen shift
  insertMovement db
    (newMovement scope ids.movementId shift.id type.movementType amount none)

def markRefunded (payment : Payment) : Payment :=
  { payment with status := .refunded }

/-- The cash payment of the stall that a refund names. -/
def findRefundable (db : CashDb) (scope : CashScope) (paymentId : Uuid) :
    Except CashError Payment := do
  let payment ← orFail ((db.payments.get? paymentId).filter fun payment =>
    payment.organizationId = scope.organizationId && payment.stallId = scope.stallId
      && payment.method = .cash) .paymentNotFound
  failWhen (payment.status ≠ .paid || payment.amount ≤ 0) .paymentNotRefundable
  return payment

def refundPayment (db : CashDb) (scope : CashScope) (ids : FreshIds) (shift : CashShift)
    (paymentId : Uuid) : Except CashError CashDb := do
  assertShiftOpen shift
  let payment ← findRefundable db scope paymentId
  let db ← updatePayment db payment markRefunded (fun _ => ⟨rfl, rfl⟩) false true ids.movementId
  insertMovement db (newMovement scope ids.movementId shift.id .cashRefund payment.amount
    (some (.payment payment.id)))

/-- The columns that a close writes. -/
def closed (status : CashShiftStatus) (expected counted : ℤ) (note : Option Text)
    (closedById : Uuid) (closedAt : Timestamp) (shift : CashShift) : CashShift :=
  { shift with
    status := status
    systemExpectedAmount := some expected
    countedAmount := some counted
    varianceAmount := some (counted - expected)
    note := note
    closedById := some closedById
    closedAt := some closedAt }

def closeShift (db : CashDb) (scope : CashScope) (shift : CashShift) (countedAmount : ℤ)
    (note : Option Text) (now : Timestamp) : Except CashError CashDb := do
  assertShiftOpen shift
  updateShift db shift (closed (if scope.reconciliationEnabled then .closing else .closed)
    (expectedAmount db shift) countedAmount (note.or shift.note) scope.actorProfileId now)
    fun _ => rfl

def recalculated (expected : ℤ) (shift : CashShift) : CashShift :=
  { shift with
    status := .closing
    systemExpectedAmount := some expected
    varianceAmount := some (shift.countedAmount.getD 0 - expected) }

def adjustShift (db : CashDb) (scope : CashScope) (ids : FreshIds) (shift : CashShift)
    (amount : ℤ) : Except CashError CashDb := do
  failWhen (shift.status ≠ .reviewRequired) .shiftNotReviewable
  let db ← insertMovement db (newMovement scope ids.movementId shift.id .correction amount none)
  updateShift db shift (recalculated (expectedAmount db shift)) fun _ => rfl

def reviewed (decision : ReviewDecision) (shift : CashShift) : CashShift :=
  { shift with status := if decision = .approved then .closed else .reviewRequired }

def reviewShift (db : CashDb) (scope : CashScope) (shift : CashShift)
    (decision : ReviewDecision) : Except CashError CashDb := do
  failWhen (!scope.reconciliationEnabled
    || (shift.status ≠ .closing && shift.status ≠ .reviewRequired)) .shiftNotReviewable
  updateShift db shift (reviewed decision) fun _ => rfl

def executeCashShiftCommand (db : CashDb) (scope : CashScope) (ids : FreshIds)
    (now : Timestamp) : CashShiftCommand → Except CashError CashDb
  | .open openingAmount note => openShift db scope ids openingAmount note
  | .move shiftId type amount => do
      moveCash db scope ids (← lockCashShift db scope shiftId) type amount
  | .close shiftId countedAmount note => do
      closeShift db scope (← lockCashShift db scope shiftId) countedAmount note now
  | .refund shiftId paymentId => do
      refundPayment db scope ids (← lockCashShift db scope shiftId) paymentId
  | .review shiftId decision _ => do
      reviewShift db scope (← lockCashShift db scope shiftId) decision
  | .adjust shiftId amount => do
      adjustShift db scope ids (← lockCashShift db scope shiftId) amount

/-! ## Checkouts -/

/-- The payment of one order of a checkout. -/
structure OrderPayment where
  paymentId : Uuid
  orderId : Uuid
  amount : ℤ
  cashReceived : Option ℤ
  changeAmount : Option ℤ
  movementId : Uuid

/-- What a checkout has resolved; a table checkout pays several orders. -/
structure ResolvedCheckout where
  checkoutGroupId : Option Uuid
  paymentOptionId : Option Uuid
  method : PaymentMethod
  payments : List OrderPayment

def paymentRow (scope : CashScope) (checkout : ResolvedCheckout) (cashShiftId : Option Uuid)
    (input : OrderPayment) : Payment where
  id := input.paymentId
  organizationId := scope.organizationId
  stallId := scope.stallId
  orderId := input.orderId
  checkoutGroupId := checkout.checkoutGroupId
  paymentOptionId := checkout.paymentOptionId
  cashShiftId := cashShiftId
  amount := input.amount
  method := checkout.method
  status := .paid
  cashReceived := input.cashReceived
  changeAmount := input.changeAmount
  recordedById := some scope.actorProfileId

/-- Cash is collected into the open shift. -/
def checkoutShiftId (db : CashDb) (scope : CashScope) (method : PaymentMethod) :
    Except CashError (Option Uuid) :=
  if method = .cash then do
    let shift ← requireOpenCashShift db scope.organizationId scope.stallId
    return some shift.id
  else return none

def collectPayments (db : CashDb) (scope : CashScope) (checkout : ResolvedCheckout) :
    Except CashError CashDb := do
  let cashShiftId ← checkoutShiftId db scope checkout.method
  checkout.payments.foldlM (fun db input =>
    insertPayment db (paymentRow scope checkout cashShiftId input) input.movementId) db

/-! ## Offline cash events -/

def offlineMovement (db : CashDb) (scope : CashScope) (ids : FreshIds) (shift : CashShift)
    (event : OfflineCashEvent) (type : CashMovementType) : Except CashError CashDb :=
  if db.movements.rows.any fun movement => movement.cashShiftId = shift.id
      && movement.reference = some (.offlineCashEvent event.cashEventId)
  then .ok db
  else insertMovement db (newMovement scope ids.movementId shift.id type event.amount
    (some (.offlineCashEvent event.cashEventId)))

def importOfflineCashEvent (db : CashDb) (scope : CashScope) (ids : FreshIds)
    (event : OfflineCashEvent) (occurredAt : Timestamp) : Except CashError CashDb := do
  let shift ← lockCashShift db scope event.cashShiftId
  assertShiftOpen shift
  match event.eventType with
  | .cashIn => offlineMovement db scope ids shift event .cashIn
  | .cashOut => offlineMovement db scope ids shift event .cashOut
  | .provisionalClose =>
      updateShift db shift (closed .closing (expectedAmount db shift)
        (event.countedAmount.getD 0) (some event.reason) scope.actorProfileId occurredAt)
        fun _ => rfl

/-! ## Corrections of completed payments -/

structure PaymentOption where
  id : Uuid
  isCash : Bool

inductive CorrectionError
  | orderNotFound
  | noPaidPayment
  | groupPayment
  | samePaymentOption
  | cashShiftRequired
  | conflict
  | refused (error : CashError)
  deriving DecidableEq

def nextMethod (option : PaymentOption) : PaymentMethod :=
  if option.isCash then .cash else .other

def classificationChanged (read : Payment) (option : PaymentOption) : Bool :=
  decide (read.method = .cash) != decide (nextMethod option = .cash)

/-- The shift that balances a correction between cash and the rest: the shift of
the payment, or the open one. -/
def adjustmentShift (db : CashDb) (scope : CashScope) (read : Payment) : Option CashShift :=
  if read.method = .cash then
    (read.cashShiftId.bind db.shifts.get?).filter fun shift =>
      shift.organizationId = scope.organizationId && shift.stallId = scope.stallId
        && shift.status = .open
  else db.shifts.rows.find? fun shift => shift.organizationId = scope.organizationId
    && shift.stallId = scope.stallId && shift.status = .open

def correctedPayment (option : PaymentOption) (cashShiftId : Option Uuid) (read : Payment)
    (payment : Payment) : Payment :=
  { payment with
    paymentOptionId := some option.id
    method := nextMethod option
    cashShiftId := cashShiftId
    cashReceived := if option.isCash then some read.amount else none
    changeAmount := if option.isCash then some 0 else none }

/-- The row that the update finds: nothing it was decided on has changed. -/
def unchangedPayment (db : CashDb) (read : Payment) : Option Payment :=
  (db.payments.get? read.id).filter fun payment =>
    payment.orderId = read.orderId && payment.status = .paid
      && payment.paymentOptionId = read.paymentOptionId && payment.method = read.method
      && payment.cashShiftId = read.cashShiftId

def refuse {Value : Type} : Except CashError Value → Except CorrectionError Value
  | .ok value => .ok value
  | .error error => .error (.refused error)

/-- The transaction of a correction, decided on the payment as it was read. -/
def correctPayment (db : CashDb) (scope : CashScope) (ids : FreshIds) (read : Payment)
    (option : PaymentOption) : Except CorrectionError CashDb := do
  failWhen (read.organizationId ≠ scope.organizationId || read.stallId ≠ scope.stallId)
    .orderNotFound
  failWhen (read.status ≠ .paid) .noPaidPayment
  failWhen read.checkoutGroupId.isSome .groupPayment
  failWhen (read.paymentOptionId = some option.id) .samePaymentOption
  let changed := classificationChanged read option
  let adjustment := if changed then adjustmentShift db scope read else none
  failWhen (changed && adjustment.isNone) .cashShiftRequired
  let cashShiftId := if changed then
      (if option.isCash then adjustment.map (·.id) else none)
    else if option.isCash then read.cashShiftId else none
  let payment ← orFail (unchangedPayment db read) .conflict
  let db ← refuse (updatePayment db payment (correctedPayment option cashShiftId read)
    (fun _ => ⟨rfl, rfl⟩) (read.method ≠ nextMethod option || read.cashShiftId ≠ cashShiftId)
    false ids.movementId)
  let corrections ← orFail (db.corrections.insert? { id := ids.eventId, orderId := read.orderId })
    (.refused .constraintViolated)
  let db := { db with corrections }
  match adjustment with
  | some shift =>
      refuse (insertMovement db (newMovement scope ids.movementId shift.id
        (if option.isCash then .cashIn else .cashOut) read.amount
        (some (.paymentMethodCorrection ids.eventId))))
  | none => return db

/-! ## Runs -/

/-- The ledger, and the payments that corrections under way have read. -/
structure CashSystem where
  db : CashDb
  reads : List Payment

inductive CashRequest
  | command (scope : CashScope) (ids : FreshIds) (now : Timestamp) (command : CashShiftCommand)
  | checkout (scope : CashScope) (checkout : ResolvedCheckout)
  | offlineCashEvent (scope : CashScope) (ids : FreshIds) (event : OfflineCashEvent)
    (occurredAt : Timestamp)
  | readCompletedPayment (paymentId : Uuid)
  | correctPayment (scope : CashScope) (ids : FreshIds) (read : Payment) (option : PaymentOption)

def CashSystem.initial : CashSystem where
  db := .empty
  reads := []

def CashSystem.commit {Error : Type} (system : CashSystem) :
    Except Error CashDb → CashSystem
  | .ok db => { system with db }
  | .error _ => system

/-- One transaction; what it raises undoes it. -/
def step (system : CashSystem) : CashRequest → CashSystem
  | .command scope ids now command =>
      if cashShiftCommandSchema command then
        system.commit (executeCashShiftCommand system.db scope ids now command)
      else system
  | .checkout scope checkout => system.commit (collectPayments system.db scope checkout)
  | .offlineCashEvent scope ids event occurredAt =>
      system.commit (importOfflineCashEvent system.db scope ids event occurredAt)
  | .readCompletedPayment paymentId =>
      { system with reads := (system.db.payments.get? paymentId).toList ++ system.reads }
  | .correctPayment scope ids read option =>
      if read ∈ system.reads then
        system.commit (CashShifts.correctPayment system.db scope ids read option)
      else system

end Stallorder.CashShifts
