import Stallorder.Core.Checks
import Stallorder.Core.Totals
import Stallorder.Server.SyncDatabase

/-!
# Counted portions

The stock columns of the products of a stall, the portions that orders hold,
and the triggers that keep the two in step.  Reconciliation is deferred: a
transaction collects one event for each line and each status it writes, and
the events run when it commits or makes its constraints immediate.
-/

namespace Stallorder.StockDatabase

open OrderContract SyncDatabase Checks

/-! ## Tables -/

structure ProductKey where
  organizationId : Uuid
  stallId : Uuid
  productId : Uuid
  deriving DecidableEq

/-- The portions left of a counted product and when its counting began; the
version trigger keeps both columns null together. -/
structure CountedStock where
  stockRemaining : ℤ
  stockStartedAt : Timestamp
  deriving DecidableEq

/-- The stock columns of a product at a stall; a product without a count is
unlimited. -/
structure ProductStock where
  key : ProductKey
  counted : Option CountedStock
  stockVersion : ℕ
  deriving DecidableEq

instance : KeyIndexed ProductStock ProductKey := .ofKey (·.key)

/-- The portions of one product that an order holds, and the counting they were
taken from. -/
structure StockAllocation where
  productId : Uuid
  quantity : ℕ
  epoch : Timestamp
  deriving DecidableEq

instance : KeyIndexed StockAllocation Uuid := .ofKey (·.productId)

/-- The columns of an order that the stock triggers read; orders of the setup
tutorial are told apart by their source. -/
structure StockOrder where
  id : Uuid
  organizationId : Uuid
  stallId : Uuid
  isSetupTest : Bool
  status : OrderStatus
  createdAt : Timestamp
  stockAllocations : Table StockAllocation
  stockConsumed : Bool

instance : KeyIndexed StockOrder Uuid := .ofKey (·.id)

structure OrderLine where
  id : Uuid
  orderId : Uuid
  productId : Option Uuid
  quantity : ℕ
  status : OrderItemStatus
  deriving DecidableEq

instance : KeyIndexed OrderLine Uuid := .ofKey (·.id)

inductive KitchenTaskStatus
  | pending
  | preparing
  | completed
  | cancelled
  deriving DecidableEq

structure StockDb where
  products : Table ProductStock
  orders : Table StockOrder
  lines : Table OrderLine

def StockDb.empty : StockDb where
  products := .empty
  orders := .empty
  lines := .empty

/-! ## Versions of the stock -/

/-- What the version trigger makes of a written number of portions. -/
def versionStallStock (now : Timestamp) (remaining : Option ℤ) (row : ProductStock) :
    ProductStock :=
  if remaining = row.counted.map (·.stockRemaining) then row
  else { row with
    counted := remaining.map fun stockRemaining => {
      stockRemaining := stockRemaining
      stockStartedAt := (row.counted.map (·.stockStartedAt)).getD now }
    stockVersion := row.stockVersion + 1 }

@[simp]
theorem versionStallStock_key (now : Timestamp) (remaining : Option ℤ) (row : ProductStock) :
    (versionStallStock now remaining row).key = row.key := by
  unfold versionStallStock
  split <;> rfl

theorem collides_versionStallStock {now : Timestamp} {remaining : Option ℤ}
    {row other : ProductStock}
    (hcollides : Indexed.collides (versionStallStock now remaining row) other) :
    Indexed.collides row other := by
  have hkey := KeyIndexed.key_eq_of_collides hcollides
  exact Indexed.collides_of_key_eq ((versionStallStock_key now remaining row).symm.trans hkey)

def writeStock (products : Table ProductStock) (key : ProductKey) (now : Timestamp)
    (remaining : Option ℤ) : Table ProductStock :=
  products.update key (versionStallStock now remaining) collides_versionStallStock

/-! ## Consumption -/

def startsProduction : OrderStatus → Bool
  | .preparing | .packing | .ready | .completed => true
  | .waitingConfirmation | .confirmed | .cancelled | .expired => false

def lineStartsProduction : OrderItemStatus → Bool
  | .preparing | .ready | .served => true
  | .pending => false

def taskStartsProduction : KitchenTaskStatus → Bool
  | .preparing | .completed => true
  | .pending | .cancelled => false

/-- Before an order is written with a status, and once one of its lines or
tasks is under way, it is marked as consumed for good. -/
def markStockConsumed (started : Bool) (order : StockOrder) : StockOrder :=
  { order with stockConsumed := order.stockConsumed || started }

def markOrder (orders : Table StockOrder) (orderId : Uuid) (started : Bool) :
    Table StockOrder :=
  orders.update orderId (markStockConsumed started) id

def withStatus (status : OrderStatus) (order : StockOrder) : StockOrder :=
  markStockConsumed (startsProduction status) { order with status := status }

/-! ## Reconciliation -/

inductive StockError
  | stockInsufficient
  | constraintViolated
  deriving DecidableEq

/-- The portions of each product on the lines of an order, as an object with
sorted keys. -/
def lineQuantity (lines : Table OrderLine) (orderId productId : Uuid) : ℕ :=
  ((lines.rows.filter fun line =>
    line.orderId = orderId && line.productId = some productId).map (·.quantity)).sum

def lineProducts (lines : Table OrderLine) (orderId : Uuid) : List Uuid :=
  (((lines.rows.filter fun line => line.orderId = orderId).filterMap (·.productId)).dedup
    ).insertionSort (· ≤ ·)

def orderLines (lines : Table OrderLine) (orderId : Uuid) : List (Uuid × ℕ) :=
  (lineProducts lines orderId).map fun productId =>
    (productId, lineQuantity lines orderId productId)

/-- What a transaction remembers of the order it reconciled last. -/
structure Fingerprint where
  status : OrderStatus
  stockConsumed : Bool
  lines : List (Uuid × ℕ)
  deriving DecidableEq

def quantityOf (lines : List (Uuid × ℕ)) (productId : Uuid) : ℕ :=
  (lines.lookup productId).getD 0

def isClosed : OrderStatus → Bool
  | .cancelled | .expired => true
  | _ => false

/-- The portions an order is to hold, given those it holds and those on its
lines. -/
def desiredQuantity (fingerprint : Fingerprint) (previous quantity : ℕ) : ℕ :=
  if isClosed fingerprint.status then
    if fingerprint.stockConsumed then previous else 0
  else if fingerprint.stockConsumed then max previous quantity
  else quantity

def replaceAllocation (allocation stored : StockAllocation) : StockAllocation :=
  { allocation with productId := stored.productId }

/-- Write one key of the object of allocations. -/
def setAllocation (allocations : Table StockAllocation) (allocation : StockAllocation) :
    Table StockAllocation :=
  match allocations.get? allocation.productId with
  | some _ => allocations.update allocation.productId (replaceAllocation allocation) id
  | none => allocations.put allocation

structure Reconciling where
  products : Table ProductStock
  allocations : Table StockAllocation

def countedStock (products : Table ProductStock) (key : ProductKey) : Option CountedStock :=
  (products.get? key).bind (·.counted)

/-- One turn of the loop over the products of an order. -/
def reconcileProduct (order : StockOrder) (fingerprint : Fingerprint) (state : Reconciling)
    (productId : Uuid) : Except StockError Reconciling :=
  let key := { organizationId := order.organizationId, stallId := order.stallId, productId }
  match countedStock state.products key with
  | none => .ok { state with
      allocations := state.allocations.filter fun stored => stored.productId ≠ productId }
  | some stock =>
      let held := (state.allocations.get? productId).filter fun stored =>
        stored.epoch = stock.stockStartedAt
      -- an order from before the counting does not give portions back or take them
      if held.isNone && order.createdAt < stock.stockStartedAt then .ok state
      else do
        let previous := (held.map (·.quantity)).getD 0
        let desired := desiredQuantity fingerprint previous
          (quantityOf fingerprint.lines productId)
        let delta : ℤ := desired - previous
        failWhen (stock.stockRemaining < delta) .stockInsufficient
        return {
          products := if delta = 0 then state.products
            else writeStock state.products key stock.stockStartedAt
              (some (stock.stockRemaining - delta))
          allocations := setAllocation state.allocations
            { productId, quantity := desired, epoch := stock.stockStartedAt } }

/-- A transaction in progress: its tables, the orders its deferred events are
about, and the fingerprints it has cached. -/
structure Session where
  db : StockDb
  deferred : List Uuid
  cache : Uuid → Option Fingerprint

def fingerprintOf (db : StockDb) (order : StockOrder) : Fingerprint where
  status := order.status
  stockConsumed := order.stockConsumed
  lines := orderLines db.lines order.id

def productsToReconcile (fingerprint : Fingerprint) (allocations : Table StockAllocation) :
    List Uuid :=
  (fingerprint.lines.map (·.1) ++ allocations.rows.map (·.productId)).dedup.insertionSort
    (· ≤ ·)

def withAllocations (allocations : Table StockAllocation) (order : StockOrder) : StockOrder :=
  { order with stockAllocations := allocations }

/-- Writing the allocations queues no event, and the order was marked when its
status was written. -/
def reconcileOrder (session : Session) (order : StockOrder) : Except StockError Session := do
  let fingerprint := fingerprintOf session.db order
  let reconciled ← (productsToReconcile fingerprint order.stockAllocations).foldlM
    (reconcileProduct order fingerprint)
    { products := session.db.products, allocations := order.stockAllocations }
  return { session with
    db := { session.db with
      products := reconciled.products
      orders := session.db.orders.update order.id
        (withAllocations reconciled.allocations) id }
    cache := Function.update session.cache order.id (some fingerprint) }

/-- One deferred event. -/
def reconcileOrderStock (session : Session) (orderId : Uuid) : Except StockError Session :=
  match session.db.orders.get? orderId with
  | none => .ok session
  | some order =>
      if order.isSetupTest then .ok session
      else if session.cache orderId = some (fingerprintOf session.db order) then .ok session
      else reconcileOrder session order

/-! ## Transactions -/

structure NewOrder where
  id : Uuid
  organizationId : Uuid
  stallId : Uuid
  isSetupTest : Bool
  status : OrderStatus
  createdAt : Timestamp
  deriving DecidableEq

def NewOrder.row (order : NewOrder) : StockOrder :=
  markStockConsumed (startsProduction order.status) {
    id := order.id
    organizationId := order.organizationId
    stallId := order.stallId
    isSetupTest := order.isSetupTest
    status := order.status
    createdAt := order.createdAt
    stockAllocations := .empty
    stockConsumed := false }

/-- The statements that the stock triggers fire on; the last one runs the
deferred events before the end of the transaction. -/
inductive Statement
  | insertOrder (order : NewOrder)
  | updateOrderStatus (orderId : Uuid) (status : OrderStatus)
  | insertLine (line : OrderLine)
  | updateLineQuantity (lineId : Uuid) (quantity : ℕ)
  | updateLineStatus (lineId : Uuid) (status : OrderItemStatus)
  | deleteLine (lineId : Uuid)
  | writeTask (orderId : Uuid) (status : KitchenTaskStatus)
  | insertProduct (key : ProductKey) (remaining : Option ℤ) (now : Timestamp)
  | updateStock (key : ProductKey) (remaining : Option ℤ) (now : Timestamp)
  | setConstraintsImmediate
  deriving DecidableEq

def Session.start (db : StockDb) : Session where
  db := db
  deferred := []
  cache := fun _ => none

/-- Write the lines and remember the order for its event. -/
def Session.writeLines (session : Session) (lines : Table OrderLine) (orderId : Uuid)
    (started : Bool) : Session :=
  { session with
    db := { session.db with
      orders := if started then markOrder session.db.orders orderId true else session.db.orders
      lines := lines }
    deferred := session.deferred ++ [orderId] }

def executeStatement (session : Session) : Statement → Except StockError Session
  | .insertOrder order => do
      let orders ← orFail (session.db.orders.insert? order.row) .constraintViolated
      return { session with
        db := { session.db with orders }
        deferred := session.deferred ++ [order.id] }
  | .updateOrderStatus orderId status =>
      match session.db.orders.get? orderId with
      | none => .ok session
      | some _ => .ok { session with
          db := { session.db with
            orders := session.db.orders.update orderId (withStatus status) id }
          deferred := session.deferred ++ [orderId] }
  | .insertLine line => do
      failWhen (session.db.orders.get? line.orderId).isNone .constraintViolated
      failWhen (line.quantity = 0) .constraintViolated
      let lines ← orFail (session.db.lines.insert? line) .constraintViolated
      return session.writeLines lines line.orderId (lineStartsProduction line.status)
  | .updateLineQuantity lineId quantity =>
      match session.db.lines.get? lineId with
      | none => .ok session
      | some line => do
          failWhen (quantity = 0) .constraintViolated
          return session.writeLines (session.db.lines.update lineId
            (fun stored => { stored with quantity }) id) line.orderId false
  | .updateLineStatus lineId status =>
      match session.db.lines.get? lineId with
      | none => .ok session
      | some line => .ok (session.writeLines (session.db.lines.update lineId
          (fun stored => { stored with status }) id) line.orderId (lineStartsProduction status))
  | .deleteLine lineId =>
      match session.db.lines.get? lineId with
      | none => .ok session
      | some line => .ok (session.writeLines
          (session.db.lines.filter fun stored => stored.id ≠ lineId) line.orderId false)
  | .writeTask orderId status =>
      .ok { session with
        db := { session.db with
          orders := if taskStartsProduction status then markOrder session.db.orders orderId true
            else session.db.orders } }
  | .insertProduct key remaining now => do
      failWhen (remaining.any (· < 0)) .constraintViolated
      let products ← orFail (session.db.products.insert? {
        key := key
        counted := remaining.map fun stockRemaining => { stockRemaining, stockStartedAt := now }
        stockVersion := 0 }) .constraintViolated
      return { session with db := { session.db with products } }
  | .updateStock key remaining now => do
      failWhen (remaining.any (· < 0)) .constraintViolated
      return { session with
        db := { session.db with products := writeStock session.db.products key now remaining } }
  | .setConstraintsImmediate => do
      let reconciled ← session.deferred.foldlM reconcileOrderStock session
      return { reconciled with deferred := [] }

/-- A transaction runs its statements, and its commit the events still deferred;
what it raises undoes it. -/
def transact (db : StockDb) (statements : List Statement) : Except StockError StockDb := do
  let session ← (statements ++ [Statement.setConstraintsImmediate]).foldlM executeStatement
    (Session.start db)
  return session.db

/-- A refused transaction changes nothing. -/
def step (db : StockDb) (statements : List Statement) : StockDb :=
  match transact db statements with
  | .ok committed => committed
  | .error _ => db

end Stallorder.StockDatabase
