import Stallorder.Checkout.OrderDatabase
import Stallorder.Core.CheckedTotals
import Stallorder.Edits.StaffItems

/-!
# Item edits and their record

A member of staff replaces the items of an order that nobody has started to
prepare or paid.  One transaction writes the lines, the amounts and an event
under the id that the client has given the change; a request that comes again
is answered from that event.
-/

namespace Stallorder.StaffEdits

open OrderContract Catalog Checks StaffItems
open OrderDatabase (FulfillmentType DiscountSource discountedAmount)
open SyncDatabase (OrderStatus OrderItemStatus PaymentStatus)

/-! ## Orders -/

inductive OrderSource
  | qrMenu
  | lineDelivery
  | staffPos
  | other
  deriving DecidableEq

structure OrderLine where
  id : Uuid
  productId : Option Uuid
  sourceLineIndex : Option ℕ
  name : Text
  baseUnitPrice : ℤ
  unitPrice : ℤ
  quantity : ℕ
  isOrderDiscountEligible : Bool
  note : Option Text
  /-- The line is a reward of an activity. -/
  isPromotion : Bool
  status : OrderItemStatus
  /-- The line has a production task that is not pending. -/
  taskStarted : Bool
  noteOptions : List LineOption
  createdAt : Timestamp
  deriving DecidableEq

/-- Besides their id, two lines of an order may not share a line number. -/
instance : Indexed OrderLine Uuid :=
  (KeyIndexed.ofKey (·.id)).toIndexed.addUnique (·.sourceLineIndex)

def orderItemsSourceLineIndexCheck (line : OrderLine) : Bool :=
  line.sourceLineIndex.all fun index => 1 ≤ index && index ≤ 100

/-- The lines of one order. -/
abbrev OrderLines := CheckedTable OrderLine orderItemsSourceLineIndexCheck

structure OrderColumns where
  source : OrderSource
  fulfillmentType : FulfillmentType
  status : OrderStatus
  paymentStatus : PaymentStatus
  /-- The payment that belongs to the order. -/
  payment : Option Uuid
  note : Option Text
  discountSource : DiscountSource
  discountRateBps : Option ℕ
  discountAmount : ℤ
  discountOptionId : Option Uuid
  subtotal : ℤ
  total : ℤ
  updatedAt : Timestamp
  items : OrderLines

structure StoredOrder where
  id : Uuid
  organizationId : Uuid
  stallId : Uuid
  columns : OrderColumns

instance : KeyIndexed StoredOrder Uuid := .ofKey (·.id)

/-! ## Requests and events -/

inductive EditItem
  | existing (itemId : Uuid) (quantity : ℕ)
  | new (item : RequestedItem)
  deriving DecidableEq

inductive AmendmentReason
  | soldOutRemove
  | soldOutReplace
  | quantityAdjustment
  | other
  deriving DecidableEq

structure PublicAmendment where
  reason : AmendmentReason
  customerMessage : Text
  deriving DecidableEq

/-- A time as the client writes it, and the instant that it stands for. -/
structure WrittenTime where
  text : Text
  instant : Timestamp
  deriving DecidableEq

structure UpdateStaffOrderItemsInput where
  changeId : Uuid
  expectedUpdatedAt : WrittenTime
  items : List EditItem
  publicAmendment : Option PublicAmendment
  deriving DecidableEq

structure EditInput where
  organizationId : Uuid
  stallId : Uuid
  orderId : Uuid
  actorProfileId : Uuid
  request : UpdateStaffOrderItemsInput

inductive OrderEventType
  | staffOrderItemsEdited
  | publicOrderItemsAdjusted
  | other
  deriving DecidableEq

structure AuditItem where
  itemId : Uuid
  productId : Option Uuid
  name : Text
  quantity : ℕ
  unitPrice : ℤ
  lineTotal : ℤ
  noteOptions : List Text
  deriving DecidableEq

structure Snapshot where
  subtotal : ℤ
  total : ℤ
  items : List AuditItem
  deriving DecidableEq

/-- What the event of an edit keeps; `Hash` is the type of the request's digest. -/
structure AmendmentMetadata (Hash : Type) where
  before : Snapshot
  after : Snapshot
  requestHash : Hash
  amendmentNumber : ℕ
  notice : Option PublicAmendment

structure OrderEvent (Hash : Type) where
  id : Uuid
  organizationId : Uuid
  stallId : Uuid
  orderId : Uuid
  eventType : OrderEventType
  previousStatus : Option OrderStatus
  newStatus : Option OrderStatus
  createdBy : Option Uuid
  /-- Events of other kinds keep other metadata. -/
  metadata : Option (AmendmentMetadata Hash)

instance {Hash : Type} : KeyIndexed (OrderEvent Hash) Uuid := .ofKey (·.id)

structure EditDb (Hash : Type) where
  orders : Table StoredOrder
  orderEvents : Table (OrderEvent Hash)

inductive StaffOrderEditError
  | notFound
  | notEditableSource
  | customerNoticeRequired
  | paymentAlreadyRecorded
  | orderAlreadyStarted
  | unsupportedExistingConfiguration
  | itemConflict
  | orderConflict
  | create (code : StaffOrderCreateError)
  | constraintViolated
  deriving DecidableEq

structure StaffOrderEditResult where
  order : StoredOrder
  before : Snapshot
  after : Snapshot
  eventType : OrderEventType

/-- What the clock, the other tables and the generator of ids say while an edit runs. -/
structure EditContext where
  preparedAt : Timestamp
  checkedAt : Timestamp
  updatedAt : Timestamp
  settings : Option OrderItemLimits
  catalogue : Table StallProduct
  newItemId : ℕ → Uuid
  itemCreatedAt : ℕ → Timestamp
  /-- The print documents of the order cannot be frozen. -/
  freezeFailure : Option StaffOrderEditError
  /-- The prints of the amendment, the capacity or the stock refuse the change. -/
  commitFailure : Option StaffOrderEditError

/-! ## Who may be edited -/

def isPublicTakeout (order : OrderColumns) : Bool :=
  order.source = .qrMenu && order.fulfillmentType = .takeout

def isStarted (line : OrderLine) : Bool :=
  line.status ≠ .pending || line.taskStarted

def getStaffOrderEditFailure (order : OrderColumns) : Option StaffOrderEditError :=
  let staffOrder := order.source = .staffPos
  if !staffOrder && !isPublicTakeout order then some .notEditableSource
  else if (staffOrder && order.status ≠ .confirmed)
      || (isPublicTakeout order && order.status ≠ .waitingConfirmation
        && order.status ≠ .confirmed) then some .orderAlreadyStarted
  else if order.paymentStatus ≠ .unpaid || order.payment.isSome then some .paymentAlreadyRecorded
  else if order.items.table.rows.any isStarted then some .orderAlreadyStarted
  else if order.discountAmount ≠ 0 || order.discountOptionId.isSome then
    some .paymentAlreadyRecorded
  else none

/-- Fail with the error that was found. -/
def failWith (found : Option StaffOrderEditError) : Except StaffOrderEditError Unit :=
  match found with
  | some error => .error error
  | none => .ok ()

/-! ## What a request asks for -/

def requestedExisting (request : UpdateStaffOrderItemsInput) : List (Uuid × ℕ) :=
  request.items.filterMap fun item =>
    match item with
    | .existing itemId quantity => some (itemId, quantity)
    | .new _ => none

def requestedNew (request : UpdateStaffOrderItemsInput) : List RequestedItem :=
  request.items.filterMap fun item =>
    match item with
    | .existing _ _ => none
    | .new item => some item

/-- The quantity that is asked for a line that stays. -/
def keptQuantity (existing : List (Uuid × ℕ)) (itemId : Uuid) : Option ℕ :=
  existing.lookup itemId

/-- The lines in the order in which they are read. -/
def orderedItems (order : OrderColumns) : List OrderLine :=
  order.items.table.rows.insertionSort fun left right =>
    left.createdAt < right.createdAt ∨ (left.createdAt = right.createdAt ∧ left.id ≤ right.id)

def findItem (order : OrderColumns) (itemId : Uuid) : Option OrderLine :=
  order.items.table.rows.find? fun line => line.id = itemId

def isUnchanged (order : OrderColumns) (request : UpdateStaffOrderItemsInput) : Bool :=
  let existing := requestedExisting request
  (requestedNew request).isEmpty && existing.length = order.items.table.rows.length
    && order.items.table.rows.all fun line => keptQuantity existing line.id = some line.quantity

def auditNotes (line : OrderLine) : List Text :=
  let options := line.noteOptions.insertionSort fun left right => left.sortOrder ≤ right.sortOrder
  options.map (fun option => option.groupName ++ ":".toList ++ option.optionName)
    ++ (line.note.filter (· ≠ [])).toList

def auditItem (line : OrderLine) : AuditItem where
  itemId := line.id
  productId := line.productId
  name := line.name
  quantity := line.quantity
  unitPrice := line.unitPrice
  lineTotal := line.unitPrice * line.quantity
  noteOptions := auditNotes line

def snapshot (items : List OrderLine) (subtotal : ℤ) : Snapshot where
  subtotal := subtotal
  total := subtotal
  items := items.map auditItem

/-- The items that the limits of the stall are checked on. -/
def finalLimitItems (order : OrderColumns) (request : UpdateStaffOrderItemsInput) :
    List LimitedOrderItem :=
  (requestedExisting request).filterMap (fun entry =>
    (findItem order entry.1).map fun original => {
      productId := original.productId.getD original.id
      quantity := entry.2
      note := original.note.getD [] }) ++ (requestedNew request).map limitedItem

/-- The lines of which more is asked for than before. -/
def increasedItems (order : OrderColumns) (request : UpdateStaffOrderItemsInput) :
    List OrderLine :=
  (requestedExisting request).filterMap fun entry =>
    (findItem order entry.1).filter fun original => original.quantity < entry.2

/-- More of a line may be ordered while its product is on sale. -/
def checkIncreased (context : EditContext) (input : EditInput) (increased : List OrderLine) :
    Except StaffOrderEditError Unit := do
  failWhen (increased.any (·.productId.isNone)) .itemConflict
  let productIds := (increased.filterMap (·.productId)).dedup
  let available := (productsOnSale input.organizationId input.stallId context.checkedAt
    context.catalogue productIds).length
  failWhen (!increased.isEmpty && available ≠ productIds.length) (.create .productUnavailable)

/-! ## Writing the lines -/

/-- The lines that the request leaves out are deleted unless one is under way. -/
def removeItems (existing : List (Uuid × ℕ)) (items : OrderLines) :
    Except StaffOrderEditError OrderLines := do
  let removedIds := (items.table.rows.filter fun line =>
    (keptQuantity existing line.id).isNone).map (·.id)
  let deletable (line : OrderLine) : Bool := line.id ∈ removedIds && !isStarted line
  failWhen ((items.table.rows.filter deletable).length ≠ removedIds.length) .orderAlreadyStarted
  return items.filter fun line => !deletable line

/-- A line that stays is given the quantity that is asked for. -/
def requantifyItem (order : OrderColumns) (items : OrderLines) (entry : Uuid × ℕ) :
    Except StaffOrderEditError OrderLines :=
  if (findItem order entry.1).any fun original => original.quantity = entry.2 then return items
  else do
    let wanted (line : OrderLine) : Bool := line.id = entry.1 && !isStarted line
    failWhen ((items.table.rows.filter wanted).length ≠ 1) .orderAlreadyStarted
    orFail (items.updateWhere? wanted fun line => { line with quantity := entry.2 })
      .constraintViolated

/-- The first line number that is not taken. -/
def freeLineIndex (usedLineIndexes : List (Option ℕ)) : Option ℕ :=
  (List.range' 1 100).find? fun index => some index ∉ usedLineIndexes

def newLine (context : EditContext) (position index : ℕ) (item : PreparedItem) : OrderLine where
  id := context.newItemId position
  productId := some item.productId
  sourceLineIndex := some index
  name := item.name
  baseUnitPrice := item.baseUnitPrice
  unitPrice := item.unitPrice
  quantity := item.quantity
  isOrderDiscountEligible := item.isOrderDiscountEligible
  note := item.note
  isPromotion := false
  status := .pending
  taskStarted := false
  noteOptions := item.noteOptions
  createdAt := context.itemCreatedAt position

/-- The prepared items are inserted one by one. -/
def createItems (context : EditContext) :
    ℕ → List (Option ℕ) → OrderLines → List PreparedItem →
      Except StaffOrderEditError OrderLines
  | _, _, items, [] => return items
  | position, usedLineIndexes, items, item :: rest => do
      let index ← orFail (freeLineIndex usedLineIndexes) (.create .orderLimitExceeded)
      let items ← orFail (items.insert? (newLine context position index item)) .constraintViolated
      createItems context (position + 1) (some index :: usedLineIndexes) items rest

def usedLineIndexes (order : OrderColumns) (existing : List (Uuid × ℕ)) : List (Option ℕ) :=
  (order.items.table.rows.filter fun line => (keptQuantity existing line.id).isSome).map
    (·.sourceLineIndex)

/-- The lines of the order after the edit. -/
def writeItems (context : EditContext) (order : OrderColumns)
    (existing : List (Uuid × ℕ)) (prepared : List PreparedItem) :
    Except StaffOrderEditError OrderLines := do
  let kept ← removeItems existing order.items
  let requantified ← existing.foldlM (requantifyItem order) kept
  createItems context 0 (usedLineIndexes order existing) requantified prepared

/-! ## Writing the order -/

def OrderLine.amount (line : OrderLine) : ℤ :=
  line.unitPrice * line.quantity

def itemsSubtotal (items : OrderLines) : ℤ :=
  (items.table.rows.map (·.amount)).sum

def discountEligibleSubtotal (items : OrderLines) : ℤ :=
  (items.table.rows.map fun line => if line.isOrderDiscountEligible then line.amount else 0).sum

/-- The trigger on the amounts of an order with a discount that a lottery has drawn. -/
def enforceLotteryOrderDiscountEligibility (order : OrderColumns) : Option OrderColumns :=
  match order.discountSource, order.discountRateBps with
  | .lottery, some rateBps =>
      let eligible := discountEligibleSubtotal order.items
      if eligible < 0 || order.subtotal < eligible then none
      else
        let discountAmount := eligible - discountedAmount eligible rateBps
        some { order with discountAmount, total := order.subtotal - discountAmount }
  | _, _ => some order

def setColumns (orders : Table StoredOrder) (orderId : Uuid) (columns : OrderColumns) :
    Table StoredOrder :=
  orders.rewrite (fun stored => if stored.id = orderId then { stored with columns } else stored)
    (fun stored => by
      change (if stored.id = orderId then { stored with columns } else stored).id = stored.id
      split <;> rfl)

/-- The row that the update of the amounts finds. -/
def editFinds (order stored : StoredOrder) : Bool :=
  stored.id = order.id && stored.stallId = order.stallId
    && stored.columns.status = order.columns.status
    && stored.columns.paymentStatus = .unpaid

/-- The columns of the order with its new lines. -/
def editedColumns (context : EditContext) (order : OrderColumns) (items : OrderLines) :
    Option OrderColumns :=
  let subtotal := itemsSubtotal items
  enforceLotteryOrderDiscountEligibility
    { order with items, subtotal, total := subtotal, updatedAt := context.updatedAt }

def editEventType (order : OrderColumns) : OrderEventType :=
  if isPublicTakeout order then .publicOrderItemsAdjusted else .staffOrderItemsEdited

section Editing

variable {Hash : Type} [DecidableEq Hash]

def amendmentNumber (db : EditDb Hash) (orderId : Uuid) : ℕ :=
  1 + (db.orderEvents.rows.filter fun event => event.orderId = orderId
    && (event.eventType = .staffOrderItemsEdited
      || event.eventType = .publicOrderItemsAdjusted)).length

/-- The event of an edit, under the id of the change. -/
def editEvent (hash : UpdateStaffOrderItemsInput → Hash) (db : EditDb Hash) (input : EditInput)
    (order : OrderColumns) (before after : Snapshot) : OrderEvent Hash where
  id := input.request.changeId
  organizationId := input.organizationId
  stallId := input.stallId
  orderId := input.orderId
  eventType := editEventType order
  previousStatus := some order.status
  newStatus := some order.status
  createdBy := some input.actorProfileId
  metadata := some {
    before
    after
    requestHash := hash input.request
    amendmentNumber := amendmentNumber db input.orderId
    notice := if isPublicTakeout order then input.request.publicAmendment else none }

/-- The part of an edit that writes. -/
def replaceItems (hash : UpdateStaffOrderItemsInput → Hash) (context : EditContext)
    (db : EditDb Hash) (input : EditInput) (order : StoredOrder) :
    Except StaffOrderEditError (StaffOrderEditResult × EditDb Hash) := do
  let existing := requestedExisting input.request
  let before := snapshot (orderedItems order.columns) order.columns.subtotal
  failWhen (order.columns.items.table.rows.any (·.isPromotion)) .unsupportedExistingConfiguration
  let (limits, prepared) ← (prepareStaffOrderItems input.organizationId input.stallId
    context.preparedAt context.settings context.catalogue (requestedNew input.request)
    (order.columns.note.getD [])).mapError .create
  failWhen (orderItemsExceedLimits (finalLimitItems order.columns input.request)
    (order.columns.note.getD []) limits) (.create .orderLimitExceeded)
  checkIncreased context input (increasedItems order.columns input.request)
  failWith context.freezeFailure
  let items ← writeItems context order.columns existing prepared
  let columns ← orFail (editedColumns context order.columns items) .constraintViolated
  failWhen ((db.orders.rows.filter (editFinds order)).length ≠ 1) .orderConflict
  let orders := setColumns db.orders order.id columns
  let after := snapshot (orderedItems columns) (itemsSubtotal items)
  let orderEvents ← orFail (db.orderEvents.insert?
    (editEvent hash db input order.columns before after)) .constraintViolated
  failWith context.commitFailure
  return ({
    order := { order with columns }
    before
    after
    eventType := editEventType order.columns }, { orders, orderEvents })

/-- The answer to a request whose change has an event already. -/
def replayEdit (hash : UpdateStaffOrderItemsInput → Hash) (input : EditInput)
    (order : StoredOrder) (prior : OrderEvent Hash) :
    Except StaffOrderEditError StaffOrderEditResult := do
  failWhen (prior.orderId ≠ input.orderId || prior.organizationId ≠ input.organizationId
    || prior.stallId ≠ input.stallId || prior.createdBy ≠ some input.actorProfileId)
    .orderConflict
  let metadata ← orFail (prior.metadata.filter fun metadata =>
    metadata.requestHash = hash input.request) .orderConflict
  return { order, before := metadata.before, after := metadata.after, eventType := prior.eventType }

def findOrder (db : EditDb Hash) (input : EditInput) : Option StoredOrder :=
  (db.orders.get? input.orderId).filter fun order =>
    order.organizationId = input.organizationId && order.stallId = input.stallId

/-- An edit that has no event yet. -/
def firstEdit (hash : UpdateStaffOrderItemsInput → Hash) (context : EditContext)
    (db : EditDb Hash) (input : EditInput) (order : StoredOrder) :
    Except StaffOrderEditError (StaffOrderEditResult × EditDb Hash) := do
  failWhen (order.columns.updatedAt ≠ input.request.expectedUpdatedAt.instant) .orderConflict
  failWith (getStaffOrderEditFailure order.columns)
  failWhen (isPublicTakeout order.columns && input.request.publicAmendment.isNone)
    .customerNoticeRequired
  let existing := requestedExisting input.request
  failWhen (existing.any (fun entry => (findItem order.columns entry.1).isNone)
    || !(existing.map (·.1)).Nodup) .itemConflict
  if isUnchanged order.columns input.request then
    let before := snapshot (orderedItems order.columns) order.columns.subtotal
    return ({ order, before, after := before, eventType := editEventType order.columns }, db)
  else replaceItems hash context db input order

def editStaffOrderItems (hash : UpdateStaffOrderItemsInput → Hash) (context : EditContext)
    (db : EditDb Hash) (input : EditInput) :
    Except StaffOrderEditError (StaffOrderEditResult × EditDb Hash) := do
  let order ← orFail (findOrder db input) .notFound
  match db.orderEvents.get? input.request.changeId with
  | some prior => do
      let result ← replayEdit hash input order prior
      return (result, db)
  | none => firstEdit hash context db input order

/-- The transaction: an edit that fails leaves the database as it was. -/
def runEdit (hash : UpdateStaffOrderItemsInput → Hash) (context : EditContext)
    (db : EditDb Hash) (input : EditInput) :
    Except StaffOrderEditError StaffOrderEditResult × EditDb Hash :=
  match editStaffOrderItems hash context db input with
  | .ok (result, db') => (.ok result, db')
  | .error error => (.error error, db)

end Editing

end Stallorder.StaffEdits
