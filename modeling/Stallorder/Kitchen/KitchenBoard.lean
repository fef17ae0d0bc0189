import Stallorder.Checkout.OrderEdits
import Stallorder.Stock.StockDatabase

/-!
# The kitchen board

Each item of a confirmed order has a production task at one station of the
kitchen.  Triggers create the tasks when an order is confirmed or an item is
added to it, and move a task with its item; the board moves the item and derives
the status of the order from its tasks.  A task is named by its item, which has
one at most.
-/

namespace Stallorder.KitchenBoard

open OrderContract CashShifts Checks
open SyncDatabase (OrderStatus OrderItemStatus PaymentStatus)
open OrderDatabase (OrderSource FulfillmentType)
open StockDatabase (KitchenTaskStatus)

/-! ## Stations -/

structure Station where
  id : Uuid
  code : Text
  isActive : Bool
  sortOrder : ℕ
  createdAt : Timestamp
  deriving DecidableEq

structure StationAssignment where
  stationId : Uuid
  categoryId : Option Uuid
  productId : Option Uuid
  isActive : Bool
  deriving DecidableEq

def defaultCode : Text := "DEFAULT".toList

def packingCode : Text := "PACKING".toList

/-- The stations of a stall, whose default station is always active. -/
structure Kitchen where
  stations : List Station
  assignments : List StationAssignment
  categoryOf : Uuid → Option Uuid
  defaultActive : ∃ station ∈ stations, station.code = defaultCode ∧ station.isActive = true

/-- The active stations, each beside its active assignments or alone. -/
def candidateStations (kitchen : Kitchen) : List (Station × Option StationAssignment) :=
  (kitchen.stations.filter (·.isActive)).flatMap fun station =>
    match kitchen.assignments.filter fun assignment =>
      assignment.stationId = station.id && assignment.isActive with
    | [] => [(station, none)]
    | assignments => assignments.map fun assignment => (station, some assignment)

def candidateRank (kitchen : Kitchen) (productId : Option Uuid)
    (candidate : Station × Option StationAssignment) : ℕ :=
  let assigned := candidate.2
  if productId.isSome && assigned.any (·.productId = productId) then 0
  else if (productId.bind kitchen.categoryOf).isSome
      && assigned.any (·.categoryId = productId.bind kitchen.categoryOf) then 1
  else if candidate.1.code = defaultCode then 2
  else 3

def comesFirst (kitchen : Kitchen) (productId : Option Uuid)
    (left right : Station × Option StationAssignment) : Bool :=
  let leftRank := candidateRank kitchen productId left
  let rightRank := candidateRank kitchen productId right
  leftRank < rightRank || leftRank = rightRank && (left.1.sortOrder < right.1.sortOrder
    || left.1.sortOrder = right.1.sortOrder && left.1.createdAt ≤ right.1.createdAt)

def chosenStation (kitchen : Kitchen) (productId : Option Uuid) : Option Station :=
  ((candidateStations kitchen).insertionSort fun left right =>
    comesFirst kitchen productId left right).head?.map Prod.fst

/-! ## Orders on the board -/

inductive FulfillmentTimeState
  | notRequested
  | requested
  | confirmed
  | customerActionRequired
  | declined
  | expired
  deriving DecidableEq

structure KitchenItem where
  id : Uuid
  productId : Option Uuid
  sourceLineIndex : ℕ
  unitPrice : ℕ
  quantity : ℕ
  isOrderDiscountEligible : Bool
  note : Text
  /-- The line is a reward of an activity. -/
  isPromotion : Bool
  status : OrderItemStatus
  preparingAt : Option Timestamp
  readyAt : Option Timestamp
  servedAt : Option Timestamp
  deriving DecidableEq

instance : KeyIndexed KitchenItem Uuid := .ofKey (·.id)

structure ProductionTask where
  orderItemId : Uuid
  stationId : Uuid
  status : KitchenTaskStatus
  quantity : ℕ
  startedAt : Option Timestamp
  completedAt : Option Timestamp
  assignedToProfileId : Option Uuid
  deriving DecidableEq

instance : KeyIndexed ProductionTask Uuid := .ofKey (·.orderItemId)

/-- An order with its items and their production tasks. -/
structure Ticket where
  id : Uuid
  organizationId : Uuid
  stallId : Uuid
  source : OrderSource
  fulfillmentType : FulfillmentType
  status : OrderStatus
  paymentStatus : PaymentStatus
  paymentId : Option Uuid
  discountAmount : ℤ
  discountOptionId : Option Uuid
  subtotal : ℤ
  total : ℤ
  note : Text
  scheduledPickupAt : Option Timestamp
  requestedFulfillmentAt : Option Timestamp
  committedFulfillmentAt : Option Timestamp
  fulfillmentTimeState : FulfillmentTimeState
  confirmationExpiresAt : Timestamp
  updatedAt : Timestamp
  items : Table KitchenItem
  tasks : Table ProductionTask

instance : KeyIndexed Ticket Uuid := .ofKey (·.id)

/-! ## Tasks of an order -/

def isOnBoard : OrderStatus → Bool
  | .confirmed | .preparing | .packing | .ready => true
  | .waitingConfirmation | .completed | .cancelled | .expired => false

def itemTaskStatus : OrderItemStatus → KitchenTaskStatus
  | .pending => .pending
  | .preparing => .preparing
  | .ready | .served => .completed

def routedTask (now : Timestamp) (item : KitchenItem) (station : Station) : ProductionTask where
  orderItemId := item.id
  stationId := station.id
  status := itemTaskStatus item.status
  quantity := item.quantity
  startedAt :=
    if item.status = .pending then none
    else some (((item.preparingAt.or item.readyAt).or item.servedAt).getD now)
  completedAt :=
    if item.status = .ready ∨ item.status = .served then
      some ((item.readyAt.or item.servedAt).getD now)
    else none
  assignedToProfileId := none

/-- The insertion of the task of an item, which does nothing when there is one. -/
def routeItem (kitchen : Kitchen) (now : Timestamp) (tasks : Table ProductionTask)
    (item : KitchenItem) : Table ProductionTask :=
  ((chosenStation kitchen item.productId).bind fun station =>
    tasks.insert? (routedTask now item station)).getD tasks

def createKdsTasksForOrder (kitchen : Kitchen) (now : Timestamp) (ticket : Ticket) : Ticket :=
  if isOnBoard ticket.status then
    { ticket with tasks := ticket.items.rows.foldl (routeItem kitchen now) ticket.tasks }
  else ticket

def isOpen (status : KitchenTaskStatus) : Bool := status = .pending || status = .preparing

def cancelTask (now : Timestamp) (task : ProductionTask) : ProductionTask :=
  if isOpen task.status then
    { task with status := .cancelled, completedAt := some (task.completedAt.getD now) }
  else task

theorem cancelTask_orderItemId (now : Timestamp) (task : ProductionTask) :
    (cancelTask now task).orderItemId = task.orderItemId := by
  unfold cancelTask
  split <;> rfl

/-- The write of an order's status, with what its trigger makes of the tasks. -/
def setStatus (kitchen : Kitchen) (now : Timestamp) (status : OrderStatus) (ticket : Ticket) :
    Ticket :=
  let written := { ticket with status, updatedAt := now }
  if status = ticket.status then written
  else
    match status with
    | .confirmed => createKdsTasksForOrder kitchen now written
    | .cancelled =>
        { written with
          tasks := ticket.tasks.rewrite (cancelTask now) (cancelTask_orderItemId now) }
    | _ => written

/-- The insertion of an item, with what its trigger makes of the tasks. -/
def insertItem (kitchen : Kitchen) (now : Timestamp) (item : KitchenItem) (ticket : Ticket) :
    Option Ticket :=
  (ticket.items.insert? item).map fun items =>
    createKdsTasksForOrder kitchen now { ticket with items }

/-- What the trigger of an item's status makes of the task of the item. -/
def syncTask (now : Timestamp) (before after : KitchenItem) (task : ProductionTask) :
    ProductionTask :=
  if before.status ≠ after.status ∧ task.status ≠ .cancelled
      ∧ task.status ≠ itemTaskStatus after.status then
    { task with
      status := itemTaskStatus after.status
      startedAt :=
        if itemTaskStatus after.status = .pending then none
        else some ((task.startedAt.or after.preparingAt).getD now)
      completedAt :=
        if itemTaskStatus after.status = .completed then
          some ((after.readyAt.or after.servedAt).getD now)
        else none }
  else task

@[simp]
theorem syncTask_orderItemId (now : Timestamp) (before after : KitchenItem)
    (task : ProductionTask) : (syncTask now before after task).orderItemId = task.orderItemId := by
  unfold syncTask
  split <;> rfl

/-- The trigger finds the task of a rewritten item by the id of the item. -/
def followItem (now : Timestamp) (items : Table KitchenItem) (change : KitchenItem → KitchenItem)
    (task : ProductionTask) : ProductionTask :=
  match items.get? task.orderItemId with
  | none => task
  | some item => syncTask now item (change item) task

theorem followItem_orderItemId (now : Timestamp) (items : Table KitchenItem)
    (change : KitchenItem → KitchenItem) (task : ProductionTask) :
    (followItem now items change task).orderItemId = task.orderItemId := by
  unfold followItem
  split
  · rfl
  · exact syncTask_orderItemId _ _ _ _

/-- A rewrite of the items, with what its trigger makes of their tasks. -/
def rewriteItems (now : Timestamp) (change : KitchenItem → KitchenItem)
    (hid : ∀ item, (change item).id = item.id) (ticket : Ticket) : Ticket :=
  { ticket with
    items := ticket.items.rewrite change hid
    tasks := ticket.tasks.rewrite (followItem now ticket.items change)
      (followItem_orderItemId now ticket.items change) }

/-- The deletion of items, whose tasks go with them. -/
def deleteItems (removed : KitchenItem → Bool) (ticket : Ticket) : Ticket :=
  { ticket with
    items := ticket.items.filter fun item => !removed item
    tasks := ticket.tasks.filter fun task =>
      !(ticket.items.get? task.orderItemId).any removed }

/-! ## The board -/

structure BoardDb where
  tickets : Table Ticket
  amendments : List OrderDatabase.OrderAmendment

def BoardDb.empty : BoardDb where
  tickets := .empty
  amendments := []

/-- What the other tables and the clock say while a transaction runs. -/
structure BoardContext where
  kitchenOf : Uuid → Kitchen
  /-- The business date of a stall at a moment. -/
  businessDateOf : Uuid → Timestamp → ℤ
  now : Timestamp

inductive BoardError
  | taskNotFound
  | taskTransitionInvalid
  | orderNotActive
  | productionNotDue
  | orderNotFound
  | transitionConflict
  | constraintViolated
  | edit (error : OrderEdits.OrderEditError)
  deriving DecidableEq

def inScope (scope : CashScope) (ticket : Ticket) : Bool :=
  ticket.organizationId = scope.organizationId && ticket.stallId = scope.stallId

/-- The order of a task, with the task and its item. -/
def findTask (db : BoardDb) (scope : CashScope) (taskId : Uuid) :
    Option (Ticket × ProductionTask × KitchenItem) :=
  db.tickets.rows.findSome? fun ticket =>
    if inScope scope ticket then
      (ticket.tasks.get? taskId).bind fun task =>
        (ticket.items.get? taskId).map fun item => (ticket, task, item)
    else none

def findTicket (db : BoardDb) (scope : CashScope) (orderId : Uuid) : Option Ticket :=
  (db.tickets.get? orderId).filter (inScope scope)

/-- The transaction ends with the order as it was written. -/
def writeTicket (db : BoardDb) (ticket : Ticket) : BoardDb :=
  { db with tickets := db.tickets.put ticket }

def effectiveFulfillmentAt (ticket : Ticket) : Option Timestamp :=
  (ticket.committedFulfillmentAt.or ticket.requestedFulfillmentAt).or ticket.scheduledPickupAt

def productionBlocked (context : BoardContext) (ticket : Ticket) : Bool :=
  ticket.fulfillmentTimeState = .requested
    || ticket.fulfillmentTimeState = .customerActionRequired
    || (effectiveFulfillmentAt ticket).any fun moment =>
      context.businessDateOf ticket.stallId context.now
        < context.businessDateOf ticket.stallId moment

/-! ## Moving a task -/

/-- The states that the board may ask for. -/
inductive RequestedState
  | pending
  | preparing
  | completed
  deriving DecidableEq

def RequestedState.taskStatus : RequestedState → KitchenTaskStatus
  | .pending => .pending
  | .preparing => .preparing
  | .completed => .completed

def taskStateToItemState : RequestedState → OrderItemStatus
  | .pending => .pending
  | .preparing => .preparing
  | .completed => .ready

def canTransitionKitchenTask (current next : KitchenTaskStatus) : Bool :=
  if current = .cancelled || next = .cancelled || current = next then false
  else
    match next with
    | .pending => current = .preparing || current = .completed
    | .preparing => current = .pending
    | _ => current = .preparing

def stationCode (kitchen : Kitchen) (stationId : Uuid) : Option Text :=
  (kitchen.stations.find? fun station => station.id = stationId).map (·.code)

def isPackingTask (kitchen : Kitchen) (task : ProductionTask) : Bool :=
  stationCode kitchen task.stationId = some packingCode

def deriveKitchenOrderStatus (kitchen : Kitchen) (ticket : Ticket) : OrderStatus :=
  let tasks := ticket.tasks.rows.filter fun task => task.status ≠ .cancelled
  if !tasks.isEmpty && tasks.all (·.status = .completed) then .ready
  else if (tasks.filter fun task => !isPackingTask kitchen task).all (·.status = .completed)
      && tasks.any fun task => isPackingTask kitchen task && task.status = .preparing then .packing
  else if tasks.any (·.status ≠ .pending) then .preparing
  else .confirmed

def progressRank : OrderStatus → ℕ
  | .preparing => 1
  | .packing => 2
  | .ready => 3
  | _ => 0

def preserveKitchenOrderProgress (current derived : OrderStatus) : OrderStatus :=
  if progressRank derived < progressRank current then current else derived

/-- An item as the board moves it. -/
def movedItem (now : Timestamp) (next : OrderItemStatus) (item : KitchenItem) : KitchenItem :=
  { item with
    status := next
    preparingAt :=
      if next = .pending then none
      else if item.status = .pending then some now
      else item.preparingAt
    readyAt := if next = .ready then some now else none
    servedAt := none }

def assignTask (profile : Option Uuid) (task : ProductionTask) : ProductionTask :=
  { task with assignedToProfileId := profile }

/-- The writes of a moved item and of the profile that took its task. -/
def moveTask (now : Timestamp) (taskId : Uuid) (next : OrderItemStatus) (profile : Option Uuid)
    (ticket : Ticket) : Ticket :=
  let moved := rewriteItems now
    (fun item => if item.id = taskId then movedItem now next item else item)
    (fun item => by split <;> rfl) ticket
  { moved with
    tasks := moved.tasks.rewrite
      (fun task => if task.orderItemId = taskId then assignTask profile task else task)
      fun task => by split <;> rfl }

def applyKitchenTaskUpdate (context : BoardContext) (db : BoardDb) (scope : CashScope)
    (taskId : Uuid) (status : RequestedState) : Except BoardError BoardDb := do
  let (ticket, task, item) ← orFail (findTask db scope taskId) .taskNotFound
  let kitchen := context.kitchenOf ticket.stallId
  failWhen (!isOnBoard ticket.status) .orderNotActive
  failWhen (ticket.status = .ready) .taskTransitionInvalid
  failWhen (!canTransitionKitchenTask task.status status.taskStatus) .taskTransitionInvalid
  failWhen (status = .preparing && ticket.status = .confirmed && productionBlocked context ticket)
    .productionNotDue
  failWhen (item.status = .served) .taskTransitionInvalid
  let next := taskStateToItemState status
  let profile := if status = .pending then none else some scope.actorProfileId
  let moved := moveTask context.now taskId next profile ticket
  let nextStatus := preserveKitchenOrderProgress ticket.status
    (deriveKitchenOrderStatus kitchen moved)
  return writeTicket db
    (if nextStatus = ticket.status then moved
     else setStatus kitchen context.now nextStatus moved)

/-! ## Completing an order -/

/-- An item as the completion of its order leaves it. -/
def completedItem (now : Timestamp) (item : KitchenItem) : KitchenItem :=
  match item.status with
  | .pending => { item with status := .ready, preparingAt := some now, readyAt := some now }
  | .preparing => { item with status := .ready, readyAt := some now }
  | _ => item

theorem completedItem_id (now : Timestamp) (item : KitchenItem) :
    (completedItem now item).id = item.id := by
  unfold completedItem
  split <;> rfl

/-- The writes of the items that are completed and of the profile that took their tasks. -/
def completeItems (now : Timestamp) (profile : Uuid) (ticket : Ticket) : Ticket :=
  let moved := rewriteItems now (completedItem now) (completedItem_id now) ticket
  { moved with
    tasks := moved.tasks.rewrite
      (fun task => if task.status ≠ .cancelled then assignTask (some profile) task else task)
      fun task => by split <;> rfl }

def completeKitchenOrder (context : BoardContext) (db : BoardDb) (scope : CashScope)
    (orderId : Uuid) : Except BoardError BoardDb := do
  let ticket ← orFail (findTicket db scope orderId) .taskNotFound
  failWhen (ticket.status = .confirmed && productionBlocked context ticket) .productionNotDue
  failWhen (!(isOnBoard ticket.status && ticket.status ≠ .ready)) .orderNotActive
  failWhen ((ticket.tasks.rows.filter fun task => task.status ≠ .cancelled).isEmpty
    || ticket.items.rows.any (·.status = .served)) .taskTransitionInvalid
  return writeTicket db (setStatus (context.kitchenOf ticket.stallId) context.now .ready
    (completeItems context.now scope.actorProfileId ticket))

/-! ## Orders that come and go -/

/-- What a new order brings; its items wait to be prepared. -/
structure NewOrder where
  ticket : Ticket
  items : List KitchenItem

/-- A waiting order without items or tasks, of which the contract demands an item at least. -/
def newOrderSchema (order : NewOrder) : Bool :=
  order.ticket.status = .waitingConfirmation && order.ticket.items.rows.isEmpty
    && order.ticket.tasks.rows.isEmpty && !order.items.isEmpty
    && order.items.all fun item => item.status = .pending && item.preparingAt.isNone
      && item.readyAt.isNone && item.servedAt.isNone

def insertItems (kitchen : Kitchen) (now : Timestamp) (ticket : Ticket)
    (items : List KitchenItem) : Option Ticket :=
  items.foldlM (fun ticket item => insertItem kitchen now item ticket) ticket

/-- An order that waits for its confirmation. -/
def placeOrder (context : BoardContext) (db : BoardDb) (order : NewOrder) :
    Except BoardError BoardDb := do
  failWhen (!newOrderSchema order || (db.tickets.get? order.ticket.id).isSome) .constraintViolated
  let kitchen := context.kitchenOf order.ticket.stallId
  let ticket ← orFail (insertItems kitchen context.now order.ticket order.items)
    .constraintViolated
  return writeTicket db ticket

/-- An order of the staff, which is confirmed in the transaction that inserts it. -/
def createStaffOrder (context : BoardContext) (db : BoardDb) (order : NewOrder) :
    Except BoardError BoardDb := do
  failWhen (!newOrderSchema order || (db.tickets.get? order.ticket.id).isSome) .constraintViolated
  let kitchen := context.kitchenOf order.ticket.stallId
  let ticket ← orFail (insertItems kitchen context.now order.ticket order.items)
    .constraintViolated
  return writeTicket db (setStatus kitchen context.now .confirmed ticket)

def confirmOrder (context : BoardContext) (db : BoardDb) (scope : CashScope) (orderId : Uuid) :
    Except BoardError BoardDb := do
  let ticket ← orFail (findTicket db scope orderId) .orderNotFound
  failWhen (ticket.status ≠ .waitingConfirmation) .orderNotActive
  failWhen (!(context.now < ticket.confirmationExpiresAt)) .transitionConflict
  return writeTicket db
    (setStatus (context.kitchenOf ticket.stallId) context.now .confirmed ticket)

def canCancel : OrderStatus → Bool
  | .waitingConfirmation | .confirmed | .preparing | .packing | .ready => true
  | .completed | .cancelled | .expired => false

def cancelOrder (context : BoardContext) (db : BoardDb) (scope : CashScope) (orderId : Uuid) :
    Except BoardError BoardDb := do
  let ticket ← orFail (findTicket db scope orderId) .orderNotFound
  failWhen (!canCancel ticket.status) .orderNotActive
  failWhen (ticket.status = .waitingConfirmation && !(context.now < ticket.confirmationExpiresAt))
    .transitionConflict
  return writeTicket db
    (setStatus (context.kitchenOf ticket.stallId) context.now .cancelled ticket)

end Stallorder.KitchenBoard
