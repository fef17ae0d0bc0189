import Stallorder.Checkout.OrderDatabase

/-!
# Item edits

A member of staff, or the customer who tracks the order, replaces items of an
order that nobody has started to prepare or paid.  The total is computed anew
from the items.
-/

namespace Stallorder.OrderEdits

open OrderContract Catalog CashDatabase CashShifts OrderDatabase Checks
open SyncDatabase (OrderStatus OrderItemStatus PaymentStatus)

inductive OrderEditError
  | notFound
  | notEditableSource
  | customerNoticeRequired
  | paymentAlreadyRecorded
  | discountAlreadyApplied
  | orderAlreadyConfirmed
  | orderAlreadyStarted
  | printAlreadyStarted
  | unsupportedExistingConfiguration
  | invalidCustomerDetails
  | itemConflict
  | orderConflict
  | orderLimitExceeded
  | productUnavailable
  | constraintViolated
  deriving DecidableEq

def itemStarted (item : OrderItem) : Bool :=
  item.status ≠ .pending || item.taskStarted

/-! ## Items -/

/-- A line as the catalogue prices it. -/
structure PreparedItem where
  productId : Uuid
  unitPrice : ℕ
  quantity : ℕ
  isOrderDiscountEligible : Bool
  note : Text
  deriving DecidableEq

def newItem (itemId : Uuid) (sourceLineIndex : ℕ) (item : PreparedItem) : OrderItem where
  id := itemId
  productId := some item.productId
  sourceLineIndex := sourceLineIndex
  unitPrice := item.unitPrice
  quantity := item.quantity
  isOrderDiscountEligible := item.isOrderDiscountEligible
  note := item.note
  isPromotion := false
  status := .pending
  taskStarted := false

/-- The order with its new items; a lottery discount is computed anew. -/
def editedOrder (order : Order) (items : List OrderItem) : Option Order :=
  enforceLotteryOrderDiscountEligibility
    { order with items, subtotal := itemsSubtotal items, total := itemsSubtotal items }

/-- The columns that an edit of the items writes. -/
def withEdited (edited : Order) (now : Timestamp) (stored : Order) : Order :=
  { stored with
    items := edited.items
    subtotal := edited.subtotal
    discountAmount := edited.discountAmount
    total := edited.total
    updatedAt := now }

/-- The row that the update of an edit finds. -/
def editFinds (order stored : Order) : Bool :=
  stored.status = order.status && stored.paymentStatus = .unpaid

/-! ## Edits by the staff -/

def isPublicTakeout (order : Order) : Bool :=
  order.source = .qrMenu && order.fulfillmentType = .takeout

def getStaffOrderEditFailure (order : Order) (payment : Option Payment) :
    Option OrderEditError :=
  if order.source ≠ .staffPos && !isPublicTakeout order then some .notEditableSource
  else if (order.source = .staffPos && order.status ≠ .confirmed)
      || (isPublicTakeout order && order.status ≠ .waitingConfirmation
        && order.status ≠ .confirmed) then some .orderAlreadyStarted
  else if order.paymentStatus ≠ .unpaid || payment.isSome then some .paymentAlreadyRecorded
  else if order.items.any itemStarted then some .orderAlreadyStarted
  else if order.discountAmount ≠ 0 || order.discountOptionId.isSome then
    some .paymentAlreadyRecorded
  else none

/-- What the other tables say while an edit runs. -/
structure EditContext where
  /-- The new lines, when the catalogue has them all. -/
  prepared : Option (List PreparedItem)
  limits : OrderItemLimits
  productsAvailable : Bool
  itemId : ℕ → Uuid
  now : Timestamp

def existingItems (items : List EditItem) : List (Uuid × ℕ) :=
  items.filterMap fun item =>
    match item with
    | .existing itemId quantity => some (itemId, quantity)
    | .new _ _ _ _ => none

def newItems (items : List EditItem) : List LimitedOrderItem :=
  items.filterMap fun item =>
    match item with
    | .existing _ _ => none
    | .new productId quantity note _ => some { productId, quantity, note }

def keptQuantity (existing : List (Uuid × ℕ)) (item : OrderItem) : Option ℕ :=
  (existing.find? fun entry => entry.1 = item.id).map (·.2)

/-- The items that stay, with the quantities that are asked for. -/
def keptItems (order : Order) (existing : List (Uuid × ℕ)) : List OrderItem :=
  order.items.filterMap fun item =>
    (keptQuantity existing item).map fun quantity => { item with quantity }

def editUnchanged (order : Order) (request : UpdateStaffOrderItems) : Bool :=
  let existing := existingItems request.items
  (newItems request.items).isEmpty && existing.length = order.items.length
    && order.items.all fun item => keptQuantity existing item = some item.quantity

/-- The items that the limits of the stall are checked on. -/
def finalLimitItems (order : Order) (request : UpdateStaffOrderItems) : List LimitedOrderItem :=
  (keptItems order (existingItems request.items)).map (fun item => {
    productId := item.productId.getD item.id
    quantity := item.quantity
    note := item.note }) ++ newItems request.items

def increasedItems (order : Order) (existing : List (Uuid × ℕ)) : List OrderItem :=
  order.items.filter fun item => (keptQuantity existing item).any (item.quantity < ·)

/-- New lines take the first line numbers that are free. -/
def appendItems (context : EditContext) :
    List OrderItem → List PreparedItem → Option (List OrderItem)
  | items, [] => some items
  | items, prepared :: rest => do
      let index ← (List.range' 1 100).find? fun index =>
        items.all fun item => item.sourceLineIndex ≠ index
      appendItems context (items ++ [newItem (context.itemId index) index prepared]) rest

def replayedAmendment (db : CheckoutDb) (scope : CashScope) (orderId : Uuid)
    (request : UpdateStaffOrderItems) : Option (Except OrderEditError Unit) :=
  (db.amendments.find? fun amendment => amendment.request.changeId = request.changeId).map
    fun prior => failWhen (prior.orderId ≠ orderId
      || prior.organizationId ≠ scope.organizationId || prior.stallId ≠ scope.stallId
      || prior.createdBy ≠ scope.actorProfileId || prior.request ≠ request) .orderConflict

/-- The part of an edit that writes. -/
def replaceItems (db : CheckoutDb) (scope : CashScope) (order : Order)
    (request : UpdateStaffOrderItems) (context : EditContext) :
    Except OrderEditError CheckoutDb := do
  let existing := existingItems request.items
  failWhen (order.items.any (·.isPromotion)) .unsupportedExistingConfiguration
  let prepared ← orFail context.prepared .productUnavailable
  failWhen (orderItemsExceedLimits (finalLimitItems order request) order.note context.limits)
    .orderLimitExceeded
  failWhen ((increasedItems order existing).any (·.productId.isNone)) .itemConflict
  failWhen (!(increasedItems order existing).isEmpty && !context.productsAvailable)
    .productUnavailable
  let items ← orFail (appendItems context (keptItems order existing) prepared)
    .orderLimitExceeded
  let edited ← orFail (editedOrder order items) .constraintViolated
  let db ← updateOrder db order.id (editFinds order) (withEdited edited context.now)
    .orderConflict .constraintViolated
  return { db with
    amendments := {
      orderId := order.id
      organizationId := scope.organizationId
      stallId := scope.stallId
      createdBy := scope.actorProfileId
      request } :: db.amendments }

def editStaffOrderItems (db : CheckoutDb) (scope : CashScope) (orderId : Uuid)
    (request : UpdateStaffOrderItems) (context : EditContext) :
    Except OrderEditError CheckoutDb := do
  let order ← orFail ((findOrder db orderId).filter fun order =>
    order.organizationId = scope.organizationId && order.stallId = scope.stallId) .notFound
  match replayedAmendment db scope orderId request with
  | some replay => do
      replay
      return db
  | none => do
      failWhen (order.updatedAt ≠ request.expectedUpdatedAt) .orderConflict
      match getStaffOrderEditFailure order (paymentOf db orderId) with
      | some failure => .error failure
      | none => do
          failWhen (isPublicTakeout order && !request.publicAmendment) .customerNoticeRequired
          let existing := existingItems request.items
          failWhen (existing.any (fun entry => order.items.all (·.id ≠ entry.1))
            || !(existing.map (·.1)).Nodup) .itemConflict
          if editUnchanged order request then return db
          else replaceItems db scope order request context

/-! ## Edits by the customer -/

def getPublicOrderEditFailure (order : Order) (payment : Option Payment) (printStarted : Bool) :
    Option OrderEditError :=
  if order.source ≠ .qrMenu && order.source ≠ .lineDelivery then some .notEditableSource
  else if order.status = .confirmed then some .orderAlreadyConfirmed
  else if order.paymentStatus ≠ .unpaid || payment.isSome then some .paymentAlreadyRecorded
  else if order.discountAmount ≠ 0 || order.discountOptionId.isSome then
    some .discountAlreadyApplied
  else if order.status ≠ .waitingConfirmation then some .orderAlreadyStarted
  else if order.items.any itemStarted then some .orderAlreadyStarted
  else if printStarted then some .printAlreadyStarted
  else none

structure PublicEditContext where
  printStarted : Bool
  customerDetailsValid : Bool
  soldOut : Bool
  prepared : Option (List PreparedItem)
  itemId : ℕ → Uuid
  note : Text
  confirmationExpiresAt : Timestamp
  now : Timestamp

/-- All lines are new and are numbered from one. -/
def replacedItems (itemId : ℕ → Uuid) (prepared : List PreparedItem) : List OrderItem :=
  prepared.mapIdx fun index item => newItem (itemId (index + 1)) (index + 1) item

def withPublicEdit (edited : Order) (context : PublicEditContext) (stored : Order) : Order :=
  { withEdited edited context.now stored with
    status := .waitingConfirmation
    note := context.note
    confirmationExpiresAt := context.confirmationExpiresAt }

def editTrackedPublicOrder (db : CheckoutDb) (orderId : Uuid) (context : PublicEditContext) :
    Except OrderEditError CheckoutDb := do
  let order ← orFail (findOrder db orderId) .notFound
  match getPublicOrderEditFailure order (paymentOf db orderId) context.printStarted with
  | some failure => .error failure
  | none => do
      failWhen (!context.customerDetailsValid) .invalidCustomerDetails
      failWhen context.soldOut .productUnavailable
      let prepared ← orFail context.prepared .productUnavailable
      let edited ← orFail (editedOrder order (replacedItems context.itemId prepared))
        .constraintViolated
      updateOrder db order.id (editFinds order) (withPublicEdit edited context)
        .orderConflict .constraintViolated

/-! ## Orders that can be edited -/

/-- An order that is edited has no payment and is at most confirmed. -/
theorem editable_of_staffFailure {order : Order} {payment : Option Payment}
    (hfailure : getStaffOrderEditFailure order payment = none) :
    payment = none ∧ (order.status = .confirmed ∨ order.status = .waitingConfirmation) := by
  unfold getStaffOrderEditFailure at hfailure
  split at hfailure
  · cases hfailure
  split at hfailure
  · cases hfailure
  split at hfailure
  · cases hfailure
  next hsource hstarted hpaid =>
    simp only [Bool.or_eq_true, not_or, Bool.and_eq_true, decide_eq_true_eq, not_and, not_not,
      Bool.not_eq_true', ne_eq, Bool.not_eq_false] at hsource hstarted hpaid
    constructor
    · simpa using hpaid.2
    · by_cases hstaff : order.source = .staffPos
      · exact Or.inl (hstarted.1 hstaff)
      · by_cases hwaiting : order.status = .waitingConfirmation
        · exact Or.inr hwaiting
        · exact Or.inl (hstarted.2 ⟨hsource hstaff, hwaiting⟩)

theorem editable_of_publicFailure {order : Order} {payment : Option Payment}
    {printStarted : Bool}
    (hfailure : getPublicOrderEditFailure order payment printStarted = none) :
    payment = none ∧ order.status = .waitingConfirmation := by
  unfold getPublicOrderEditFailure at hfailure
  split at hfailure
  · cases hfailure
  split at hfailure
  · cases hfailure
  split at hfailure
  · cases hfailure
  split at hfailure
  · cases hfailure
  split at hfailure
  · cases hfailure
  next hpaid _ hwaiting =>
    simp only [Bool.or_eq_true, not_or] at hpaid
    exact ⟨by simpa using hpaid.2, not_not.mp hwaiting⟩

end Stallorder.OrderEdits
