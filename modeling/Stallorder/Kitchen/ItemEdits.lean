import Stallorder.Kitchen.KitchenBoard

/-!
# Item edits on the board

A member of staff replaces items of an order that nobody has started to prepare
or paid: some items leave with their tasks, some get another quantity, and new
ones come in and are routed to the kitchen.
-/

namespace Stallorder.KitchenBoard

open OrderContract Catalog CashShifts Checks
open SyncDatabase (OrderStatus OrderItemStatus PaymentStatus)
open OrderDatabase (EditItem UpdateStaffOrderItems)
open OrderEdits (OrderEditError PreparedItem existingItems newItems)

/-! ## The request -/

def requestedQuantity : EditItem → ℕ
  | .existing _ quantity => quantity
  | .new _ quantity _ _ => quantity

def updateStaffOrderItemsSchema (request : UpdateStaffOrderItems) : Bool :=
  1 ≤ request.items.length && request.items.length ≤ 100
    && request.items.all (fun item =>
      1 ≤ requestedQuantity item && requestedQuantity item ≤ 100)
    && ((existingItems request.items).map (·.1)).Nodup

/-- What the catalogue says of a line besides its quantity. -/
structure CatalogLine where
  unitPrice : ℕ
  isOrderDiscountEligible : Bool
  note : Text

structure EditContext extends BoardContext where
  limits : OrderItemLimits
  /-- The line of a product with its note and the options selected for it. -/
  catalogLine : Uuid → Text → List Uuid → Option CatalogLine
  productAvailable : Uuid → Bool
  /-- The ids of the new rows, by their line numbers. -/
  itemId : ℕ → Uuid

/-! ## Who may be edited -/

def isPublicTakeout (ticket : Ticket) : Bool :=
  ticket.source = .qrMenu && ticket.fulfillmentType = .takeout

/-- The item, or its task, is under way. -/
def isStarted (ticket : Ticket) (item : KitchenItem) : Bool :=
  item.status ≠ .pending || (ticket.tasks.get? item.id).any (·.status ≠ .pending)

def getStaffOrderEditFailure (ticket : Ticket) : Option OrderEditError :=
  if ticket.source ≠ .staffPos && !isPublicTakeout ticket then some .notEditableSource
  else if (ticket.source = .staffPos && ticket.status ≠ .confirmed)
      || (isPublicTakeout ticket && ticket.status ≠ .waitingConfirmation
        && ticket.status ≠ .confirmed) then some .orderAlreadyStarted
  else if ticket.paymentStatus ≠ .unpaid || ticket.paymentId.isSome then
    some .paymentAlreadyRecorded
  else if ticket.items.rows.any (isStarted ticket) then some .orderAlreadyStarted
  else if ticket.discountAmount ≠ 0 || ticket.discountOptionId.isSome then
    some .paymentAlreadyRecorded
  else none

/-! ## The new lines -/

/-- The lines that the request adds, as the catalogue prices them. -/
def prepareStaffOrderItems (context : EditContext) (note : Text) (items : List EditItem) :
    Except OrderEditError (List PreparedItem) := do
  failWhen (orderItemsExceedLimits (newItems items) note context.limits) .orderLimitExceeded
  let requested := items.filterMap fun item =>
    match item with
    | .existing _ _ => none
    | .new productId quantity note noteOptionIds => some (productId, quantity, note, noteOptionIds)
  requested.mapM fun (productId, quantity, note, noteOptionIds) => do
    let line ← orFail (context.catalogLine productId note noteOptionIds) .productUnavailable
    return {
      productId
      unitPrice := line.unitPrice
      quantity
      isOrderDiscountEligible := line.isOrderDiscountEligible
      note := line.note }

def keptQuantity (existing : List (Uuid × ℕ)) (itemId : Uuid) : Option ℕ :=
  (existing.find? fun entry => entry.1 = itemId).map (·.2)

def editUnchanged (ticket : Ticket) (request : UpdateStaffOrderItems) : Bool :=
  let existing := existingItems request.items
  (newItems request.items).isEmpty && existing.length = ticket.items.rows.length
    && ticket.items.rows.all fun item => keptQuantity existing item.id = some item.quantity

/-- The items that the limits of the stall are checked on. -/
def finalLimitItems (ticket : Ticket) (request : UpdateStaffOrderItems) : List LimitedOrderItem :=
  (existingItems request.items).filterMap (fun entry =>
    (ticket.items.get? entry.1).map fun item => {
      productId := item.productId.getD item.id
      quantity := entry.2
      note := item.note }) ++ newItems request.items

def increasedItems (ticket : Ticket) (existing : List (Uuid × ℕ)) : List KitchenItem :=
  ticket.items.rows.filter fun item => (keptQuantity existing item.id).any (item.quantity < ·)

/-! ## Writing -/

/-- The items that the request leaves out are deleted. -/
def isRemoved (existing : List (Uuid × ℕ)) (item : KitchenItem) : Bool :=
  (keptQuantity existing item.id).isNone

def removeItems (existing : List (Uuid × ℕ)) (ticket : Ticket) :
    Except OrderEditError Ticket := do
  failWhen (ticket.items.rows.any fun item => isRemoved existing item && isStarted ticket item)
    .orderAlreadyStarted
  return deleteItems (isRemoved existing) ticket

def withQuantity (existing : List (Uuid × ℕ)) (item : KitchenItem) : KitchenItem :=
  { item with quantity := (keptQuantity existing item.id).getD item.quantity }

/-- The items that stay are given the quantities that are asked for. -/
def requantifyItems (existing : List (Uuid × ℕ)) (now : Timestamp) (ticket : Ticket) :
    Except OrderEditError Ticket := do
  failWhen (ticket.items.rows.any fun item =>
      withQuantity existing item ≠ item && isStarted ticket item) .orderAlreadyStarted
  return rewriteItems now (withQuantity existing) (fun _ => rfl) ticket

def newItem (itemId : Uuid) (sourceLineIndex : ℕ) (item : PreparedItem) : KitchenItem where
  id := itemId
  productId := some item.productId
  sourceLineIndex := sourceLineIndex
  unitPrice := item.unitPrice
  quantity := item.quantity
  isOrderDiscountEligible := item.isOrderDiscountEligible
  note := item.note
  isPromotion := false
  status := .pending
  preparingAt := none
  readyAt := none
  servedAt := none

/-- A new line takes the first line number that is free. -/
def appendItem (context : EditContext) (ticket : Ticket) (item : PreparedItem) :
    Except OrderEditError Ticket := do
  let index ← orFail ((List.range' 1 100).find? fun index =>
    ticket.items.rows.all fun stored => stored.sourceLineIndex ≠ index) .orderLimitExceeded
  orFail (insertItem (context.kitchenOf ticket.stallId) context.now
    (newItem (context.itemId index) index item) ticket) .constraintViolated

def itemsSubtotal (ticket : Ticket) : ℤ :=
  (ticket.items.rows.map fun item => (item.unitPrice * item.quantity : ℤ)).sum

/-- The part of an edit that writes. -/
def replaceItems (context : EditContext) (ticket : Ticket) (request : UpdateStaffOrderItems) :
    Except OrderEditError Ticket := do
  let existing := existingItems request.items
  failWhen (ticket.items.rows.any (·.isPromotion)) .unsupportedExistingConfiguration
  let prepared ← prepareStaffOrderItems context ticket.note request.items
  failWhen (orderItemsExceedLimits (finalLimitItems ticket request) ticket.note context.limits)
    .orderLimitExceeded
  failWhen ((increasedItems ticket existing).any (·.productId.isNone)) .itemConflict
  failWhen ((increasedItems ticket existing).any fun item =>
      !item.productId.all context.productAvailable) .productUnavailable
  let removed ← removeItems existing ticket
  let requantified ← requantifyItems existing context.now removed
  let written ← prepared.foldlM (appendItem context) requantified
  return { written with
    subtotal := itemsSubtotal written
    total := itemsSubtotal written
    updatedAt := context.now }

def replayedAmendment (db : BoardDb) (scope : CashScope) (orderId : Uuid)
    (request : UpdateStaffOrderItems) : Option (Except OrderEditError Unit) :=
  (db.amendments.find? fun amendment => amendment.request.changeId = request.changeId).map
    fun prior => failWhen (prior.orderId ≠ orderId
      || prior.organizationId ≠ scope.organizationId || prior.stallId ≠ scope.stallId
      || prior.createdBy ≠ scope.actorProfileId || prior.request ≠ request) .orderConflict

def editStaffOrderItems (context : EditContext) (db : BoardDb) (scope : CashScope)
    (orderId : Uuid) (request : UpdateStaffOrderItems) : Except OrderEditError BoardDb := do
  let ticket ← orFail (findTicket db scope orderId) .notFound
  match replayedAmendment db scope orderId request with
  | some replay => do
      replay
      return db
  | none => do
      failWhen (ticket.updatedAt ≠ request.expectedUpdatedAt) .orderConflict
      match getStaffOrderEditFailure ticket with
      | some failure => .error failure
      | none => do
          failWhen (isPublicTakeout ticket && !request.publicAmendment) .customerNoticeRequired
          let existing := existingItems request.items
          failWhen (existing.any (fun entry => (ticket.items.get? entry.1).isNone)
            || !(existing.map (·.1)).Nodup) .itemConflict
          if editUnchanged ticket request then return db
          else
            let written ← replaceItems context ticket request
            return { writeTicket db written with
              amendments := {
                orderId := ticket.id
                organizationId := scope.organizationId
                stallId := scope.stallId
                createdBy := scope.actorProfileId
                request } :: db.amendments }

end Stallorder.KitchenBoard
