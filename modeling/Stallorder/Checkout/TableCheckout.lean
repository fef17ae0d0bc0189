import Stallorder.Checkout.OrderPatch

/-!
# Table checkout, completion by print and refunds

The other writers of the payment status of an order.  A table checkout pays
several orders in one transaction and finds each of them ready and unpaid; the
end of a print completes an order that is paid; a refund moves the order along
with its payment.
-/

namespace Stallorder.TableCheckout

open OrderContract CashDatabase CashShifts OrderDatabase StaffCheckout OrderPatch Checks
open SyncDatabase (OrderStatus OrderItemStatus PaymentStatus)

/-! ## Table checkout -/

inductive TableCheckoutError
  | orderNotFound
  | notPayableTogether
  | itemsNotServed
  | subscriptionNotActive
  | checkout (error : StaffCheckoutError)
  | conflict
  | cash (error : CashError)
  | constraintViolated
  deriving DecidableEq

structure TableCheckoutContext where
  scope : CashScope
  diningTableId : Uuid
  checkout : StaffCheckoutInput
  stall : StallCheckout
  subscriptionActive : Bool
  checkoutGroupId : Uuid
  paymentId : Uuid → Uuid
  movementId : Uuid → Uuid
  now : Timestamp

def payableTogether (context : TableCheckoutContext) (order : Order) : Bool :=
  order.fulfillmentType = .dineIn && order.diningTableId = some context.diningTableId
    && order.status = .ready && order.paymentStatus = .unpaid

/-- The checkout of the orders as they were read. -/
def planTableCheckout (reads : List Order) (context : TableCheckoutContext) :
    Except TableCheckoutError ResolvedStaffCheckout := do
  failWhen (reads.any fun order => order.organizationId ≠ context.scope.organizationId
    || order.stallId ≠ context.scope.stallId) .orderNotFound
  failWhen (!reads.all (payableTogether context)) .notPayableTogether
  failWhen (reads.any fun order => order.items.any fun item => item.status ≠ .served)
    .itemsNotServed
  failWhen (!context.subscriptionActive) .subscriptionNotActive
  (resolveStaffCheckout context.stall reads context.checkout).mapError .checkout

def tableFinds (context : TableCheckoutContext) (order : Order) : Bool :=
  order.stallId = context.scope.stallId && order.status = .ready && order.paymentStatus = .unpaid

/-- The columns that the checkout of one order writes. -/
def checkedOut (checkout : ResolvedStaffCheckout) (amounts : OrderAmounts) (now : Timestamp)
    (order : Order) : Order :=
  { withCheckout (some { checkout with
      discountAmount := amounts.discountAmount
      total := amounts.total }) order with
    status := .completed
    paymentStatus := .paid
    paidAt := some now
    completedAt := some now
    updatedAt := now }

@[simp]
theorem checkedOut_id (checkout : ResolvedStaffCheckout) (amounts : OrderAmounts)
    (now : Timestamp) (order : Order) : (checkedOut checkout amounts now order).id = order.id := by
  simp [checkedOut]

@[simp]
theorem checkedOut_stallId (checkout : ResolvedStaffCheckout) (amounts : OrderAmounts)
    (now : Timestamp) (order : Order) :
    (checkedOut checkout amounts now order).stallId = order.stallId := by
  simp [checkedOut]

theorem checkedOut_total_of_discount {checkout : ResolvedStaffCheckout}
    {discount : DiscountOption} (hdiscount : checkout.discount = some discount)
    (amounts : OrderAmounts) (now : Timestamp) (order : Order) :
    (checkedOut checkout amounts now order).total = amounts.total := by
  simp [checkedOut, withCheckout, hdiscount]

theorem checkedOut_total_of_no_discount {checkout : ResolvedStaffCheckout}
    (hnone : checkout.discount = none) (amounts : OrderAmounts) (now : Timestamp)
    (order : Order) : (checkedOut checkout amounts now order).total = order.total := by
  simp [checkedOut, withCheckout, hnone]

def tableOrderPayment (orderId : Uuid) (amounts : OrderAmounts) (context : TableCheckoutContext) :
    OrderPayment where
  paymentId := context.paymentId orderId
  orderId := orderId
  amount := amounts.total
  cashReceived := none
  changeAmount := none
  movementId := context.movementId orderId

def payTableOrder (checkout : ResolvedStaffCheckout) (cashShiftId : Option Uuid)
    (context : TableCheckoutContext) (db : CheckoutDb) (entry : Order × OrderAmounts) :
    Except TableCheckoutError CheckoutDb := do
  let db ← updateOrder db entry.1.id (tableFinds context)
    (checkedOut checkout entry.2 context.now) .conflict .constraintViolated
  let cash ← (insertPayment db.cash
    (checkoutPayment context.scope checkout (some context.checkoutGroupId) cashShiftId
      (tableOrderPayment entry.1.id entry.2 context)) (context.movementId entry.1.id)).mapError .cash
  return { db with cash }

/-- Pay the orders of a table; the orders were read before the transaction. -/
def payTable (db : CheckoutDb) (reads : List Order) (context : TableCheckoutContext) :
    Except TableCheckoutError CheckoutDb := do
  let checkout ← planTableCheckout reads context
  let cashShiftId ← (checkoutShiftId db.cash context.scope checkout.method).mapError .cash
  (reads.zip checkout.perOrderAmounts).foldlM (payTableOrder checkout cashShiftId context) db

/-! ## Completion by print -/

structure PrintContext where
  orderingSettings : Option OrderingSettings
  primaryPrintStatus : Option PrintJobStatus
  now : Timestamp

def printCompletes (context : PrintContext) (order : Order) : Bool :=
  context.orderingSettings.any (fun settings =>
      !settings.kdsModuleEnabled && settings.printModuleEnabled)
    && order.externalProvider.isNone && order.source ≠ .qrMenu && order.status = .ready
    && order.paymentStatus = .paid && context.primaryPrintStatus = some .succeeded

def completedByPrint (now : Timestamp) (order : Order) : Order :=
  { order with status := .completed, completedAt := some now, updatedAt := now }

/-- The order is read in the same transaction; nothing is done when the update
does not find it. -/
def completeStreamlinedOrderAfterPrint (db : CheckoutDb) (orderId : Uuid)
    (context : PrintContext) : Except TableCheckoutError CheckoutDb :=
  updateOrder db orderId (printCompletes context) (completedByPrint context.now) .conflict
    .constraintViolated

/-! ## Refunds -/

def refundedOrder (stallId orderId : Uuid) (order : Order) : Bool :=
  order.id = orderId && order.stallId = stallId && order.paymentStatus = .paid

def markOrderRefunded (order : Order) : Order :=
  { order with paymentStatus := .refunded }

/-- Move the order of a refunded payment along, when it is paid. -/
def refundOrder (db : CheckoutDb) (scope : CashScope) (paymentId : Uuid) :
    Except CashError CheckoutDb := do
  let payment ← orFail (db.cash.payments.get? paymentId) .paymentNotFound
  let orders ← orFail (db.orders.updateWhere? (refundedOrder scope.stallId payment.orderId)
    markOrderRefunded) .constraintViolated
  return { db with orders }

def executeOrderCommand (db : CheckoutDb) (scope : CashScope) (ids : FreshIds)
    (now : Timestamp) (command : CashShiftCommand) : Except CashError CheckoutDb := do
  let cash ← executeCashShiftCommand db.cash scope ids now command
  match command with
  | .refund _ paymentId => refundOrder { db with cash } scope paymentId
  | .open _ _ | .move _ _ _ | .close _ _ _ | .review _ _ _ | .adjust _ _ => return { db with cash }

end Stallorder.TableCheckout
