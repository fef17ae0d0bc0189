import Stallorder.Checkout.OrderRun
import Stallorder.Core.LatestWins

/-!
# Online payment intents

An order that is not paid may have one payment intent at its provider.  The
signed events of the provider are recorded and move the intent along; only the
reconciliation of a captured intent collects a payment from it.

`LOCAL_MOCK` is the only provider that the tables accept, so they carry no
column for it.
-/

namespace Stallorder.PaymentIntents

open OrderContract CashDatabase OrderDatabase Checks LatestWins
open SyncDatabase (OrderStatus PaymentStatus)

/-! ## Tables -/

inductive PaymentProvider
  | localMock
  | other
  deriving DecidableEq

inductive IntentStatus
  | requiresAuthorization
  | authorized
  | captured
  | failed
  | timedOut
  deriving DecidableEq

inductive ReconciliationStatus
  | pending
  | matched
  | mismatch
  | notApplicable
  deriving DecidableEq

inductive PaymentEventType
  | authorized
  | captured
  | failed
  | timedOut
  deriving DecidableEq

inductive ProcessingStatus
  | recorded
  | ignoredOutOfOrder
  | mismatch
  | applied
  deriving DecidableEq

inductive SafeErrorCode
  | orderMismatch
  | amountMismatch
  | currencyMismatch
  | orderOrTenantMismatch
  | alreadyReconciled
  | outOfOrderEvent
  deriving DecidableEq

structure Stall where
  id : Uuid
  organizationId : Uuid
  currency : Text
  deriving DecidableEq

instance : KeyIndexed Stall Uuid := .ofKey (·.id)

structure PaymentIntent where
  id : Uuid
  organizationId : Uuid
  stallId : Uuid
  orderId : Uuid
  providerIntentId : Text
  idempotencyKey : Text
  requestFingerprint : Text
  amount : ℤ
  currency : Text
  status : IntentStatus
  reconciliationStatus : ReconciliationStatus
  reconciliationCode : Option SafeErrorCode
  reconciledPaymentId : Option Uuid
  lastProviderEventId : Option Text
  lastProviderEventAt : Option Timestamp
  deriving DecidableEq

/-- An order has one intent, and an idempotency key one in its stall. -/
instance : Indexed PaymentIntent Uuid where
  key := (·.id)
  collides left right :=
    left.id = right.id || left.providerIntentId = right.providerIntentId
      || left.orderId = right.orderId
      || (left.organizationId = right.organizationId && left.stallId = right.stallId
        && left.idempotencyKey = right.idempotencyKey)
  collides_symm hcollides := by
    simp only [Bool.or_eq_true, Bool.and_eq_true, decide_eq_true_eq] at hcollides ⊢
    exact hcollides.imp (Or.imp (Or.imp Eq.symm Eq.symm) Eq.symm)
      (And.imp (And.imp Eq.symm Eq.symm) Eq.symm)
  collides_of_key_eq hkey := by simp [hkey]

structure PaymentEvent where
  organizationId : Uuid
  stallId : Uuid
  intentId : Uuid
  providerEventId : Text
  providerIntentId : Text
  eventType : PaymentEventType
  providerCreatedAt : Timestamp
  receivedAt : Timestamp
  bodySha256 : Text
  orderReference : Text
  amount : ℤ
  currency : Text
  processingStatus : ProcessingStatus
  safeErrorCode : Option SafeErrorCode
  deriving DecidableEq

instance : KeyIndexed PaymentEvent Text := .ofKey (·.providerEventId)

/-! ## Texts -/

def isHexDigit (c : Char) : Bool :=
  c.isDigit || ('a' ≤ c && c ≤ 'f')

def lower (text : Text) : Text :=
  text.map Char.toLower

def isHexText (length : ℕ) (text : Text) : Bool :=
  text.length = length && text.all isHexDigit

/-- The position of a hyphen in the text of a UUID. -/
def isHyphenIndex (index : ℕ) : Bool :=
  index ∈ [8, 13, 18, 23]

/-- The text of a UUID in either case. -/
def isUuidText (text : Text) : Bool :=
  text.length = 36 && (lower text).zipIdx.all fun (c, index) =>
    if isHyphenIndex index then c = '-' else isHexDigit c

def isCurrencyText (text : Text) : Bool :=
  text.length = 3 && text.all fun c => 'A' ≤ c && c ≤ 'Z'

/-- A prefix that 32 hexadecimal digits follow. -/
def isPrefixedHex (start : Text) (text : Text) : Bool :=
  start.isPrefixOf text && isHexText 32 (text.drop start.length)

def intentIdPrefix : Text := "local_mock_pi_".toList

def eventIdPrefix : Text := "local_mock_evt_".toList

def hexDigit (digit : ℕ) : Char :=
  "0123456789abcdef".toList.getD digit '0'

/-- The last `length` hexadecimal digits of a number. -/
def hexText : ℕ → ℕ → Text
  | 0, _ => []
  | length + 1, number => hexText length (number / 16) ++ [hexDigit (number % 16)]

def withHyphens (digits : Text) : Text :=
  digits.take 8 ++ ['-'] ++ (digits.drop 8).take 4 ++ ['-'] ++ (digits.drop 12).take 4
    ++ ['-'] ++ (digits.drop 16).take 4 ++ ['-'] ++ digits.drop 20

def uuidText (id : Uuid) : Text :=
  withHyphens (hexText 32 id)

def localMockIntentId (id : Uuid) : Text :=
  intentIdPrefix ++ hexText 32 id

/-! ## The database -/

/-- A matched intent names its payment, and no other intent names one. -/
def paymentIntentsChecks (intent : PaymentIntent) : Bool :=
  isPrefixedHex intentIdPrefix intent.providerIntentId && isUuidText intent.idempotencyKey
    && isHexText 64 intent.requestFingerprint && 0 < intent.amount
    && isCurrencyText intent.currency
    && (decide (intent.reconciliationStatus = .matched) == intent.reconciledPaymentId.isSome)

structure OnlineDb where
  checkout : CheckoutDb
  stalls : Table Stall
  intents : CheckedTable PaymentIntent paymentIntentsChecks
  events : Table PaymentEvent

def OnlineDb.empty : OnlineDb where
  checkout := .empty
  stalls := .empty
  intents := .empty
  events := .empty

inductive DatabaseError
  | constraintViolated
  deriving DecidableEq

inductive PaymentCode
  | paymentInvalidInput
  | paymentIdempotencyConflict
  | onlineOrderPaymentDisabled
  | paymentOrderIntentExists
  | paymentOrderNotFound
  | paymentOrderNotEligible
  | paymentEventInvalid
  | paymentWebhookTimestampExpired
  | paymentEventIdempotencyConflict
  | paymentIntentNotFound
  | paymentReconciliationMismatch
  | paymentNotCaptured
  | paymentCaptureEventNotFound
  | paymentAlreadyRecorded
  deriving DecidableEq

def findScopedOrder (db : OnlineDb) (organizationId stallId orderId : Uuid) : Option Order :=
  (findOrder db.checkout orderId).filter fun order =>
    order.organizationId = organizationId && order.stallId = stallId

def findStall (db : OnlineDb) (organizationId stallId : Uuid) : Option Stall :=
  (db.stalls.get? stallId).filter fun stall => stall.organizationId = organizationId

/-- Rewrite the intent with an id. -/
def updateIntent (db : OnlineDb) (intentId : Uuid) (change : PaymentIntent → PaymentIntent) :
    Except DatabaseError OnlineDb := do
  let intents ← orFail (db.intents.updateWhere? (fun intent => intent.id = intentId) change)
    .constraintViolated
  return { db with intents }

theorem collides_of_same_event_id {change : PaymentEvent → PaymentEvent}
    (hid : ∀ row, (change row).providerEventId = row.providerEventId) {row other : PaymentEvent}
    (hcollides : Indexed.collides (change row) other) : Indexed.collides row other :=
  Indexed.collides_of_key_eq ((hid row).symm.trans (KeyIndexed.key_eq_of_collides hcollides))

/-- Write what became of an event. -/
def processed (status : ProcessingStatus) (code : Option SafeErrorCode) (event : PaymentEvent) :
    PaymentEvent :=
  { event with processingStatus := status, safeErrorCode := code }

def updateEvent (db : OnlineDb) (providerEventId : Text) (status : ProcessingStatus)
    (code : Option SafeErrorCode) : OnlineDb :=
  { db with
    events := db.events.update providerEventId (processed status code)
      (collides_of_same_event_id fun _ => rfl) }

/-! ## Creating an intent -/

structure IntentRequest where
  organizationId : Uuid
  stallId : Uuid
  orderId : Uuid
  idempotencyKey : Text
  requestFingerprint : Text
  deriving DecidableEq

inductive IntentReply
  | refused (code : PaymentCode)
  | intent (intent : PaymentIntent) (idempotentReplay : Bool)
  deriving DecidableEq

def intentRequestValid (request : IntentRequest) : Bool :=
  isUuidText request.idempotencyKey && isHexText 64 request.requestFingerprint

def orderEligible (db : OnlineDb) (order : Order) : Bool :=
  order.status ≠ .cancelled && order.status ≠ .expired && order.paymentStatus = .unpaid
    && 0 < order.total && (paymentOf db.checkout order.id).isNone

def newIntent (request : IntentRequest) (intentId : Uuid) (order : Order) (currency : Text) :
    PaymentIntent where
  id := intentId
  organizationId := request.organizationId
  stallId := request.stallId
  orderId := request.orderId
  providerIntentId := localMockIntentId intentId
  idempotencyKey := lower request.idempotencyKey
  requestFingerprint := request.requestFingerprint
  amount := order.total
  currency := currency
  status := .requiresAuthorization
  reconciliationStatus := .pending
  reconciliationCode := none
  reconciledPaymentId := none
  lastProviderEventId := none
  lastProviderEventAt := none

/-- The order must be joined with its stall. -/
def findOrderOfStall (db : OnlineDb) (request : IntentRequest) : Option (Order × Stall) := do
  let order ← findScopedOrder db request.organizationId request.stallId request.orderId
  let stall ← findStall db request.organizationId request.stallId
  return (order, stall)

/-- The flag that enables the feature and the id of a new intent are given. -/
def createOnlineOrderPaymentIntent (db : OnlineDb) (request : IntentRequest) (enabled : Bool)
    (intentId : Uuid) : Except DatabaseError (OnlineDb × IntentReply) :=
  if !intentRequestValid request then return (db, .refused .paymentInvalidInput)
  else match db.intents.findFirst (fun intent =>
      intent.organizationId = request.organizationId && intent.stallId = request.stallId
        && intent.idempotencyKey = lower request.idempotencyKey) with
  | some existing =>
      if existing.orderId ≠ request.orderId
          || existing.requestFingerprint ≠ request.requestFingerprint
      then return (db, .refused .paymentIdempotencyConflict)
      else return (db, .intent existing true)
  | none =>
      if !enabled then return (db, .refused .onlineOrderPaymentDisabled)
      else if (db.intents.findFirst fun intent => intent.orderId = request.orderId
          && intent.organizationId = request.organizationId
          && intent.stallId = request.stallId).isSome
      then return (db, .refused .paymentOrderIntentExists)
      else match findOrderOfStall db request with
      | none => return (db, .refused .paymentOrderNotFound)
      | some (order, stall) =>
          if !orderEligible db order then return (db, .refused .paymentOrderNotEligible)
          else do
            let intent := newIntent request intentId order stall.currency
            let intents ← orFail (db.intents.insert? intent) .constraintViolated
            return ({ db with intents }, .intent intent false)

/-! ## Recording an event -/

/-- What a verified webhook says, whenever and however often it is delivered. -/
structure ProviderEvent where
  provider : PaymentProvider
  providerEventId : Text
  providerIntentId : Text
  /-- `none` is any other text. -/
  eventType : Option PaymentEventType
  providerCreatedAt : Timestamp
  bodySha256 : Text
  orderReference : Text
  amount : ℤ
  currency : Text
  deriving DecidableEq

inductive EventReply
  | refused (code : PaymentCode)
  | duplicate (event : PaymentEvent)
  | recorded (event : PaymentEvent) (intentStatus : IntentStatus)
  deriving DecidableEq

def signatureTolerance : ℤ := 5 * 60 * 1000

def eventFormatValid (event : ProviderEvent) : Bool :=
  event.provider = .localMock && isPrefixedHex eventIdPrefix event.providerEventId
    && isPrefixedHex intentIdPrefix event.providerIntentId && isHexText 64 event.bodySha256
    && isUuidText event.orderReference && 0 < event.amount && isCurrencyText event.currency

def signatureFresh (signatureTimestamp now : Timestamp) : Bool :=
  now - signatureTolerance ≤ signatureTimestamp && signatureTimestamp ≤ now + signatureTolerance

/-- The checks that need no table; the type of an event that passes them. -/
def checkEvent (event : ProviderEvent) (signatureTimestamp now : Timestamp) :
    Except PaymentCode PaymentEventType := do
  let eventType ← orFail event.eventType .paymentEventInvalid
  failWhen (!eventFormatValid event) .paymentEventInvalid
  failWhen (!signatureFresh signatureTimestamp now) .paymentWebhookTimestampExpired
  return eventType

/-- A stored event is the same event delivered again. -/
def isSameEvent (existing : PaymentEvent) (event : ProviderEvent)
    (eventType : PaymentEventType) : Bool :=
  existing.providerIntentId = event.providerIntentId && existing.eventType = eventType
    && existing.providerCreatedAt = event.providerCreatedAt
    && existing.bodySha256 = event.bodySha256
    && existing.orderReference = lower event.orderReference && existing.amount = event.amount
    && existing.currency = event.currency

/-- What of the event contradicts the intent. -/
def matchCode (intent : PaymentIntent) (event : ProviderEvent) : Option SafeErrorCode :=
  if lower event.orderReference ≠ uuidText intent.orderId then some .orderMismatch
  else if event.amount ≠ intent.amount then some .amountMismatch
  else if event.currency ≠ intent.currency then some .currencyMismatch
  else none

def incomingRank : PaymentEventType → ℕ
  | .authorized => 10
  | .failed | .timedOut => 20
  | .captured => 30

def currentRank : IntentStatus → ℕ
  | .requiresAuthorization => 0
  | .authorized => 10
  | .failed | .timedOut => 20
  | .captured => 30

/-- The event is at least as late as the last one that moved the intent. -/
def notBefore (intent : PaymentIntent) (event : ProviderEvent) : Bool :=
  intent.lastProviderEventAt.all fun last => last ≤ event.providerCreatedAt

def applies (intent : PaymentIntent) (event : ProviderEvent) (eventType : PaymentEventType) :
    Bool :=
  if intent.reconciliationStatus = .matched then false
  else currentRank intent.status < incomingRank eventType
    || (incomingRank eventType = currentRank intent.status && notBefore intent event)

def eventStatus (intent : PaymentIntent) (event : ProviderEvent)
    (eventType : PaymentEventType) : ProcessingStatus :=
  if (matchCode intent event).isSome then .mismatch
  else if applies intent event eventType then .recorded
  else .ignoredOutOfOrder

def eventErrorCode (intent : PaymentIntent) (event : ProviderEvent)
    (eventType : PaymentEventType) : Option SafeErrorCode :=
  match matchCode intent event with
  | some code => some code
  | none =>
      if applies intent event eventType then none
      else if intent.reconciliationStatus = .matched then some .alreadyReconciled
      else some .outOfOrderEvent

def eventRow (intent : PaymentIntent) (event : ProviderEvent) (eventType : PaymentEventType)
    (now : Timestamp) : PaymentEvent where
  organizationId := intent.organizationId
  stallId := intent.stallId
  intentId := intent.id
  providerEventId := event.providerEventId
  providerIntentId := event.providerIntentId
  eventType := eventType
  providerCreatedAt := event.providerCreatedAt
  receivedAt := now
  bodySha256 := event.bodySha256
  orderReference := lower event.orderReference
  amount := event.amount
  currency := event.currency
  processingStatus := eventStatus intent event eventType
  safeErrorCode := eventErrorCode intent event eventType

def statusAfter : PaymentEventType → IntentStatus
  | .authorized => .authorized
  | .captured => .captured
  | .failed => .failed
  | .timedOut => .timedOut

def reconciliationAfter : PaymentEventType → ReconciliationStatus
  | .failed | .timedOut => .notApplicable
  | .authorized | .captured => .pending

/-- The intent after an event for it was recorded. -/
def received (event : ProviderEvent) (eventType : PaymentEventType) (intent : PaymentIntent) :
    PaymentIntent :=
  match matchCode intent event with
  | some code =>
      if intent.reconciliationStatus = .matched then intent
      else { intent with reconciliationStatus := .mismatch, reconciliationCode := some code }
  | none =>
      if applies intent event eventType then
        { intent with
          status := statusAfter eventType
          reconciliationStatus := reconciliationAfter eventType
          reconciliationCode := none
          lastProviderEventId := some event.providerEventId
          lastProviderEventAt := some event.providerCreatedAt }
      else intent

def recordForIntent (db : OnlineDb) (intent : PaymentIntent) (event : ProviderEvent)
    (eventType : PaymentEventType) (now : Timestamp) :
    Except DatabaseError (OnlineDb × EventReply) := do
  let row := eventRow intent event eventType now
  let events ← orFail (db.events.insert? row) .constraintViolated
  let db ← updateIntent { db with events } intent.id (received event eventType)
  return (db, .recorded row (received event eventType intent).status)

def recordOnlineOrderPaymentEvent (db : OnlineDb) (event : ProviderEvent)
    (signatureTimestamp now : Timestamp) : Except DatabaseError (OnlineDb × EventReply) :=
  match checkEvent event signatureTimestamp now with
  | .error code => return (db, .refused code)
  | .ok eventType =>
      match db.events.get? event.providerEventId with
      | some existing =>
          if isSameEvent existing event eventType then return (db, .duplicate existing)
          else return (db, .refused .paymentEventIdempotencyConflict)
      | none =>
          match db.intents.findFirst fun intent =>
              intent.providerIntentId = event.providerIntentId with
          | none => return (db, .refused .paymentIntentNotFound)
          | some intent => recordForIntent db intent event eventType now

/-! ## Reconciling an intent -/

inductive ReconcileReply
  | refused (code : PaymentCode) (matchCode : Option SafeErrorCode)
  | reconciled (paymentId : Uuid) (idempotentReplay : Bool)
  deriving DecidableEq

def isCaptureOf (intentId : Uuid) (event : PaymentEvent) : Bool :=
  event.intentId = intentId && event.eventType = .captured
    && (event.processingStatus = .recorded || event.processingStatus = .applied)

/-- The order of the events of an intent: by the time of the provider, and then
by the time they were received. -/
def eventOrder (event : PaymentEvent) : Timestamp ×ₗ Timestamp :=
  toLex (event.providerCreatedAt, event.receivedAt)

/-- The latest capture that was recorded for the intent. -/
def captureEvent (db : OnlineDb) (intentId : Uuid) : Option PaymentEvent :=
  match db.events.rows.filter (isCaptureOf intentId) with
  | [] => none
  | first :: others => some (latest eventOrder first others)

def reconciliationMatchCode (intent : PaymentIntent) (order : Order) (event : PaymentEvent)
    (currency : Option Text) : Option SafeErrorCode :=
  if intent.organizationId ≠ order.organizationId || intent.stallId ≠ order.stallId
      || intent.orderId ≠ order.id || event.organizationId ≠ order.organizationId
      || event.stallId ≠ order.stallId || event.orderReference ≠ uuidText order.id
  then some .orderOrTenantMismatch
  else if intent.amount ≠ order.total || event.amount ≠ order.total then some .amountMismatch
  else if currency.any fun currency => intent.currency ≠ currency || event.currency ≠ currency
  then some .currencyMismatch
  else none

def mismatched (code : SafeErrorCode) (intent : PaymentIntent) : PaymentIntent :=
  { intent with reconciliationStatus := .mismatch, reconciliationCode := some code }

def matchedWith (paymentId : Uuid) (intent : PaymentIntent) : PaymentIntent :=
  { intent with
    reconciliationStatus := .matched
    reconciliationCode := none
    reconciledPaymentId := some paymentId }

def onlinePayment (order : Order) (paymentId : Uuid) : Payment where
  id := paymentId
  organizationId := order.organizationId
  stallId := order.stallId
  orderId := order.id
  checkoutGroupId := none
  paymentOptionId := none
  cashShiftId := none
  amount := order.total
  method := .other
  status := .paid
  cashReceived := none
  changeAmount := none
  recordedById := none

def paidOnline (event : PaymentEvent) (now : Timestamp) (order : Order) : Order :=
  { order with
    paymentStatus := .paid
    paidAt := some (order.paidAt.getD event.providerCreatedAt)
    updatedAt := now }

/-- No statement of it writes to a cash drawer, so no movement is numbered. -/
def collectCapture (db : OnlineDb) (intent : PaymentIntent) (order : Order)
    (event : PaymentEvent) (paymentId : Uuid) (now : Timestamp) :
    Except DatabaseError OnlineDb := do
  let cash ← (insertPayment db.checkout.cash (onlinePayment order paymentId) 0).mapError
    fun _ => .constraintViolated
  let checkout ← updateOrder { db.checkout with cash } order.id (fun _ => true)
    (paidOnline event now) .constraintViolated .constraintViolated
  updateIntent (updateEvent { db with checkout } event.providerEventId .applied none) intent.id
    (matchedWith paymentId)

def reconcileOnlineOrderPayment (db : OnlineDb) (organizationId stallId intentId : Uuid)
    (paymentId : Uuid) (now : Timestamp) : Except DatabaseError (OnlineDb × ReconcileReply) :=
  match db.intents.findFirst fun intent => intent.id = intentId
      && intent.organizationId = organizationId && intent.stallId = stallId with
  | none => return (db, .refused .paymentIntentNotFound none)
  | some intent =>
      match findScopedOrder db intent.organizationId intent.stallId intent.orderId with
      | none => return (db, .refused .paymentReconciliationMismatch none)
      | some order =>
          match intent.reconciliationStatus, intent.reconciledPaymentId with
          | .matched, some paid => return (db, .reconciled paid true)
          | .mismatch, _ =>
              return (db, .refused .paymentReconciliationMismatch intent.reconciliationCode)
          | _, _ =>
              if intent.status ≠ .captured then
                return (db, .refused .paymentNotCaptured none)
              else match captureEvent db intent.id with
              | none => return (db, .refused .paymentCaptureEventNotFound none)
              | some event =>
                  let currency :=
                    (findStall db intent.organizationId intent.stallId).map (·.currency)
                  match reconciliationMatchCode intent order event currency with
                  | some code => do
                      let db ← updateIntent db intent.id (mismatched code)
                      return (updateEvent db event.providerEventId .mismatch (some code),
                        .refused .paymentReconciliationMismatch (some code))
                  | none =>
                      if (paymentOf db.checkout order.id).isSome || order.paymentStatus ≠ .unpaid
                      then return (db, .refused .paymentAlreadyRecorded none)
                      else do
                        let db ← collectCapture db intent order event paymentId now
                        return (db, .reconciled paymentId false)

end Stallorder.PaymentIntents
