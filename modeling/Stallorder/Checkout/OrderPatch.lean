import Stallorder.Checkout.StaffCheckout

/-!
# Status changes of an order

The request of a member of staff that moves an order on, cancels it, or
completes it and collects its payment.  The order is read first; everything is
decided on that row, and the transaction that follows finds the order again by
its status, and by its payment status when a payment is collected.
-/

namespace Stallorder.OrderPatch

open OrderContract CashDatabase CashShifts OrderDatabase StaffCheckout Checks
open SyncDatabase (OrderStatus OrderItemStatus PaymentStatus)

/-! ## The request -/

inductive CompletionIntent
  | collectPayment
  | finalize
  deriving DecidableEq

inductive ProgressStatus
  | confirmed
  | preparing
  | packing
  | ready
  deriving DecidableEq

def ProgressStatus.orderStatus : ProgressStatus → OrderStatus
  | .confirmed => .confirmed
  | .preparing => .preparing
  | .packing => .packing
  | .ready => .ready

inductive OrderStatusUpdate
  | progress (status : ProgressStatus)
  | complete (completionIntent : Option CompletionIntent) (checkout : StaffCheckoutInput)
  | cancel (confirmationOrderNo : Text)
  deriving DecidableEq

def OrderStatusUpdate.nextStatus : OrderStatusUpdate → OrderStatus
  | .progress status => status.orderStatus
  | .complete _ _ => .completed
  | .cancel _ => .cancelled

def OrderStatusUpdate.completionIntent : OrderStatusUpdate → Option CompletionIntent
  | .complete completionIntent _ => completionIntent
  | .progress _ | .cancel _ => none

structure OrderingSettings where
  kdsModuleEnabled : Bool
  printModuleEnabled : Bool
  deriving DecidableEq

inductive PrintJobStatus
  | pending
  | printing
  | succeeded
  | failed
  | cancelled
  deriving DecidableEq

inductive SubscriptionStatus
  | active
  | suspended
  | cancelled
  deriving DecidableEq

/-- What the request is answered with besides the order: the actor, the
subscription, the settings and what the other tables say about the order. -/
structure PatchContext where
  scope : CashScope
  canUpdateOrders : Bool
  canCheckoutOrders : Bool
  managerAuthorized : Bool
  subscription : Option SubscriptionStatus
  orderingSettings : Option OrderingSettings
  printerIntegration : Bool
  printerConnected : Bool
  /-- The outcome of the print jobs of the order. -/
  primaryPrintStatus : Option PrintJobStatus
  /-- The business day that the order is fulfilled on has not come. -/
  productionBlocked : Bool
  incompleteItems : Bool
  stall : StallCheckout
  /-- The delivery platform of the order has taken the change. -/
  externalAcknowledged : Bool
  now : Timestamp
  paymentId : Uuid
  movementId : Uuid

inductive PatchError
  | orderNotFound
  | collectPaymentNotSupported
  | paymentAlreadyRecorded
  | subscriptionNotActive
  | subscriptionSuspended
  | featureNotIncluded
  | confirmationMismatch
  | managerNotAuthorized
  | transitionNotAllowed
  | productionNotDue
  | checkoutNotPermitted
  | pickupNotVerified
  | itemsIncomplete
  | printerRequired
  | checkout (error : StaffCheckoutError)
  | externalNotAcknowledged
  | transitionConflict
  | cash (error : CashError)
  | constraintViolated
  deriving DecidableEq

/-! ## Transitions -/

def streamlinedSource : OrderStatus → Bool
  | .confirmed | .preparing | .packing | .ready => true
  | .waitingConfirmation | .completed | .cancelled | .expired => false

def allowedOrderTransitions : OrderStatus → List OrderStatus
  | .waitingConfirmation => [.confirmed, .cancelled]
  | .confirmed => [.preparing, .packing, .ready, .cancelled]
  | .preparing => [.packing, .ready, .cancelled]
  | .packing => [.ready, .cancelled]
  | .ready => [.completed, .cancelled]
  | .completed | .cancelled | .expired => []

def canTransitionOrder (current next : OrderStatus) (canUpdateOrders : Bool) : Bool :=
  canUpdateOrders && next ∈ allowedOrderTransitions current

def canContinueOrderDuringSuspension (current next : OrderStatus) : Bool :=
  streamlinedSource current
    && next ∈ [OrderStatus.preparing, .packing, .ready, .completed, .cancelled]

/-- A paid order from the menu stays open until it has been handed over. -/
def shouldKeepQrOrderOpenAfterPayment (order : Order) (update : OrderStatusUpdate) : Bool :=
  update.nextStatus = .completed && update.completionIntent = some .collectPayment
    && order.source = .qrMenu && order.paymentStatus = .unpaid
    && order.externalProvider.isNone && streamlinedSource order.status

structure StreamlinedCheckoutPlan where
  targetStatus : OrderStatus
  itemStatus : OrderItemStatus
  queuePrint : Bool
  completionPendingPrint : Bool
  deriving DecidableEq

/-- Without a kitchen display an order is completed from any open status, after
its print when there is one to wait for. -/
def getStreamlinedCheckoutPlan (order : Order) (next : OrderStatus)
    (settings : Option OrderingSettings) (primaryPrintStatus : Option PrintJobStatus) :
    Option StreamlinedCheckoutPlan :=
  if next ≠ .completed || (settings.map (·.kdsModuleEnabled)).getD true
      || order.externalProvider.isSome || !streamlinedSource order.status then none
  else
    let printCompletesOrder := order.source ≠ .qrMenu
    let printModuleEnabled := settings.any (·.printModuleEnabled)
    let waitForPrint := printCompletesOrder && printModuleEnabled
      && primaryPrintStatus ≠ some .succeeded
    some {
      targetStatus := if waitForPrint then .ready else .completed
      itemStatus := if order.fulfillmentType = .dineIn then .served else .ready
      queuePrint := printCompletesOrder && printModuleEnabled && primaryPrintStatus.isNone
      completionPendingPrint := waitForPrint }

/-! ## Deciding on the order as it was read -/

structure PatchPlan where
  qrPaymentOnly : Bool
  streamlined : Option StreamlinedCheckoutPlan
  checkout : Option ResolvedStaffCheckout
  persistedStatus : OrderStatus
  deriving DecidableEq

/-- The print jobs are looked up only where they can matter. -/
def printStatusFor (order : Order) (next : OrderStatus) (qrPaymentOnly : Bool)
    (context : PatchContext) : Option PrintJobStatus :=
  if next = .completed && !qrPaymentOnly
      && !context.orderingSettings.any (·.kdsModuleEnabled)
      && context.orderingSettings.any (·.printModuleEnabled)
      && order.externalProvider.isNone then context.primaryPrintStatus
  else none

def assertSubscription (order : Order) (next : OrderStatus)
    (streamlined : Option StreamlinedCheckoutPlan) (context : PatchContext) :
    Except PatchError Unit := do
  failWhen (context.subscription.isNone || context.subscription = some .cancelled)
    .subscriptionNotActive
  failWhen (context.subscription = some .suspended
    && !canContinueOrderDuringSuspension order.status next) .subscriptionSuspended
  failWhen (streamlined.any (·.queuePrint) && !context.printerIntegration) .featureNotIncluded

def assertCancellation (order : Order) (update : OrderStatusUpdate) (context : PatchContext) :
    Except PatchError Unit :=
  match update with
  | .cancel confirmationOrderNo => do
      failWhen (confirmationOrderNo ≠ order.orderNo) .confirmationMismatch
      failWhen (!context.managerAuthorized) .managerNotAuthorized
  | .progress _ | .complete _ _ => .ok ()

def assertTransition (order : Order) (next : OrderStatus) (qrPaymentOnly : Bool)
    (streamlined : Option StreamlinedCheckoutPlan) (context : PatchContext) :
    Except PatchError Unit := do
  failWhen (streamlined.isNone && !qrPaymentOnly
    && !canTransitionOrder order.status next context.canUpdateOrders) .transitionNotAllowed
  failWhen (next = .completed && (streamlined.isSome || qrPaymentOnly)
    && context.productionBlocked) .productionNotDue
  failWhen (next = .preparing && order.status = .confirmed && context.productionBlocked)
    .productionNotDue
  failWhen (next = .completed && !context.canCheckoutOrders) .checkoutNotPermitted
  failWhen (next = .completed && order.fulfillmentType = .takeout && order.source = .qrMenu
    && !qrPaymentOnly && order.pickupVerifiedAt.isNone) .pickupNotVerified
  failWhen (next = .completed && streamlined.isNone && !qrPaymentOnly && context.incompleteItems)
    .itemsIncomplete
  failWhen (streamlined.any (·.queuePrint) && !context.printerConnected) .printerRequired

/-- The request collects the payment of the order. -/
def collects (order : Order) (update : OrderStatusUpdate) : Bool :=
  update.nextStatus = .completed && order.paymentStatus = .unpaid

/-- The checkout of an order that is completed unpaid. -/
def resolveCheckout (order : Order) (update : OrderStatusUpdate) (stall : StallCheckout) :
    Except PatchError (Option ResolvedStaffCheckout) :=
  match update with
  | .complete _ input =>
      if order.paymentStatus = .unpaid then do
        let checkout ← (resolveStaffCheckout stall [order] input).mapError .checkout
        return some checkout
      else .ok none
  | .progress _ | .cancel _ => .ok none

def planPatch (order : Order) (update : OrderStatusUpdate) (context : PatchContext) :
    Except PatchError PatchPlan := do
  let next := update.nextStatus
  failWhen (order.organizationId ≠ context.scope.organizationId
    || order.stallId ≠ context.scope.stallId) .orderNotFound
  failWhen (update.completionIntent = some .collectPayment
    && (order.source ≠ .qrMenu || order.externalProvider.isSome)) .collectPaymentNotSupported
  failWhen (update.completionIntent = some .collectPayment && order.paymentStatus ≠ .unpaid)
    .paymentAlreadyRecorded
  let qrPaymentOnly := shouldKeepQrOrderOpenAfterPayment order update
  let streamlined := if qrPaymentOnly then none
    else getStreamlinedCheckoutPlan order next context.orderingSettings
      (printStatusFor order next qrPaymentOnly context)
  assertSubscription order next streamlined context
  assertCancellation order update context
  assertTransition order next qrPaymentOnly streamlined context
  let checkout ← resolveCheckout order update context.stall
  failWhen (order.externalProvider.isSome && !context.externalAcknowledged)
    .externalNotAcknowledged
  return {
    qrPaymentOnly
    streamlined
    checkout
    persistedStatus := if qrPaymentOnly then
        (if streamlinedSource order.status then order.status else next)
      else (streamlined.map (·.targetStatus)).getD next }

/-! ## The transaction -/

/-- The row that the update finds. -/
def patchFinds (read : Order) (update : OrderStatusUpdate) (context : PatchContext)
    (order : Order) : Bool :=
  order.stallId = context.scope.stallId && order.status = read.status
    && (read.status ≠ .waitingConfirmation || context.now < order.confirmationExpiresAt)
    && (!collects read update || order.paymentStatus = .unpaid)

def writtenPaymentStatus (read : Order) (update : OrderStatusUpdate) : PaymentStatus :=
  if update.nextStatus = .completed then .paid else read.paymentStatus

/-- The columns of a discount; without a discount option they stay. -/
def withCheckout (checkout : Option ResolvedStaffCheckout) (order : Order) : Order :=
  match checkout.bind fun checkout => checkout.discount.map fun discount => (checkout, discount) with
  | some (checkout, discount) =>
      { order with
        discountOptionId := some discount.id
        discountSource := .staff
        discountRateBps := some discount.rateBps
        discountAmount := checkout.discountAmount
        total := checkout.total }
  | none => order

def withItemStatus (status : OrderItemStatus) (wanted : OrderItem → Bool) (order : Order) :
    Order :=
  { order with items := order.items.map fun item =>
      if wanted item then { item with status } else item }

/-- The items that the request moves along with the order. -/
def withItems (read : Order) (plan : PatchPlan) (context : PatchContext) (order : Order) : Order :=
  let served := match plan.streamlined with
    | some streamlined => withItemStatus streamlined.itemStatus (fun _ => true) order
    | none => order
  if plan.persistedStatus = .ready && !context.orderingSettings.any (·.kdsModuleEnabled)
      && read.source = .qrMenu && read.fulfillmentType ≠ .dineIn
  then withItemStatus .ready (fun item => item.status ≠ .served) served
  else served

def patched (read : Order) (update : OrderStatusUpdate) (plan : PatchPlan)
    (context : PatchContext) (order : Order) : Order :=
  { withItems read plan context (withCheckout plan.checkout order) with
    status := plan.persistedStatus
    paymentStatus := writtenPaymentStatus read update
    paidAt := if collects read update then some context.now else read.paidAt
    completedAt := if plan.persistedStatus = .completed then some context.now else read.completedAt
    updatedAt := context.now }

section Columns

variable (read : Order) (update : OrderStatusUpdate) (plan : PatchPlan) (context : PatchContext)
  (checkout : Option ResolvedStaffCheckout) (order : Order)

/-- Moving the items along writes no column of the order. -/
theorem withItems_eq : ∃ items, withItems read plan context order = { order with items } := by
  unfold withItems
  dsimp only
  cases plan.streamlined with
  | none =>
      split
      · exact ⟨_, rfl⟩
      · exact ⟨order.items, rfl⟩
  | some streamlined =>
      split
      · exact ⟨_, rfl⟩
      · exact ⟨_, rfl⟩

@[simp]
theorem withCheckout_id : (withCheckout checkout order).id = order.id := by
  unfold withCheckout
  split <;> rfl

@[simp]
theorem withCheckout_stallId : (withCheckout checkout order).stallId = order.stallId := by
  unfold withCheckout
  split <;> rfl

theorem withCheckout_of_no_discount (hnone : checkout.bind (·.discount) = none) :
    withCheckout checkout order = order := by
  cases checkout with
  | none => rfl
  | some checkout =>
      have hdiscount : checkout.discount = none := hnone
      simp [withCheckout, hdiscount]

theorem withCheckout_total {resolved : ResolvedStaffCheckout} {discount : DiscountOption}
    (hdiscount : resolved.discount = some discount) :
    (withCheckout (some resolved) order).total = resolved.total := by
  simp [withCheckout, hdiscount]

@[simp]
theorem patched_id : (patched read update plan context order).id = order.id := by
  obtain ⟨items, hitems⟩ := withItems_eq read plan context (withCheckout plan.checkout order)
  simp [patched, hitems]

@[simp]
theorem patched_stallId : (patched read update plan context order).stallId = order.stallId := by
  obtain ⟨items, hitems⟩ := withItems_eq read plan context (withCheckout plan.checkout order)
  simp [patched, hitems]

theorem patched_total : (patched read update plan context order).total
    = (withCheckout plan.checkout order).total := by
  obtain ⟨items, hitems⟩ := withItems_eq read plan context (withCheckout plan.checkout order)
  simp [patched, hitems]

end Columns

/-- The payment of one order of a checkout. -/
def checkoutPayment (scope : CashScope) (checkout : ResolvedStaffCheckout)
    (checkoutGroupId cashShiftId : Option Uuid) (payment : OrderPayment) : Payment :=
  paymentRow scope
    { checkoutGroupId
      paymentOptionId := checkout.paymentOptionId
      method := checkout.method
      payments := [payment] }
    cashShiftId payment

def orderPayment (orderId : Uuid) (checkout : ResolvedStaffCheckout) (context : PatchContext) :
    OrderPayment where
  paymentId := context.paymentId
  orderId := orderId
  amount := checkout.total
  cashReceived := checkout.cashReceived
  changeAmount := checkout.changeAmount
  movementId := context.movementId

/-- Cash is collected into the open shift of the stall. -/
def patchShiftId (cash : CashDb) (plan : PatchPlan) (context : PatchContext) :
    Except PatchError (Option Uuid) :=
  match plan.checkout with
  | some checkout => (checkoutShiftId cash context.scope checkout.method).mapError .cash
  | none => .ok none

def createPayment (db : CheckoutDb) (orderId : Uuid) (plan : PatchPlan)
    (cashShiftId : Option Uuid) (context : PatchContext) : Except PatchError CheckoutDb :=
  match plan.checkout with
  | some checkout => do
      let cash ← (insertPayment db.cash (checkoutPayment context.scope checkout none cashShiftId
        (orderPayment orderId checkout context)) context.movementId).mapError .cash
      return { db with cash }
  | none => .ok db

def commitPatch (db : CheckoutDb) (read : Order) (update : OrderStatusUpdate)
    (plan : PatchPlan) (context : PatchContext) : Except PatchError CheckoutDb := do
  let cashShiftId ← patchShiftId db.cash plan context
  let db ← updateOrder db read.id (patchFinds read update context)
    (patched read update plan context) .transitionConflict .constraintViolated
  createPayment db read.id plan cashShiftId context

/-- The transaction of a request that was decided on the order as it was read. -/
def patchOrder (db : CheckoutDb) (read : Order) (update : OrderStatusUpdate)
    (context : PatchContext) : Except PatchError CheckoutDb := do
  let plan ← planPatch read update context
  commitPatch db read update plan context

end Stallorder.OrderPatch
