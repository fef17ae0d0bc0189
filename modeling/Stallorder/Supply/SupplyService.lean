import Stallorder.Core.DrawDown
import Stallorder.Core.WeightedMean
import Stallorder.Supply.SupplyDatabase

/-!
# Supply commands

The commands that move stock: a posted movement, which consumes the lots of an
ingredient whose expiry is tracked by the earliest expiry first, the receipt of
a purchase, which records a movement and a lot for each of its lines, and the
change of an ingredient.
-/

namespace Stallorder.SupplyService

open OrderContract Checks SupplyDatabase

/-- Who sends a command, and which stalls they may use. -/
structure SupplyScope where
  organizationId : Uuid
  actorProfileId : Uuid
  moduleEnabled : Bool
  canUseAllStalls : Bool
  authorizedStallIds : List Uuid

def isAuthorizedStall (scope : SupplyScope) (stallId : Option Uuid) : Bool :=
  stallId.any (· ∈ scope.authorizedStallIds)

def assertLocationAccess (scope : SupplyScope) (location : SupplyLocation) :
    Except SupplyError Unit :=
  failWhen (!scope.canUseAllStalls && !isAuthorizedStall scope location.stallId) .scopeDenied

/-! ## Movements -/

def calculateAverageUnitCost (previousQuantity previousAverageUnitCost incomingQuantity : ℤ)
    (incomingUnitCost : Option ℤ) : ℤ :=
  match incomingUnitCost with
  | none => previousAverageUnitCost
  | some unitCost =>
      if incomingQuantity ≤ 0 then previousAverageUnitCost
      else if max previousQuantity 0 + incomingQuantity = 0 then unitCost
      else WeightedMean.weightedMean (max previousQuantity 0) previousAverageUnitCost
        incomingQuantity unitCost

/-- The balance of a place after a movement. -/
def movedBalance (ledger : SupplyLedger) (movement : SupplyMovement) : SupplyBalance where
  place := movement.place
  quantityMicros := ledger.quantityAt movement.place + movement.quantityDeltaMicros
  averageUnitCostMicros := calculateAverageUnitCost (ledger.quantityAt movement.place)
    (ledger.averageUnitCostAt movement.place) movement.quantityDeltaMicros
    movement.unitCostMicros
  lastMovementId := movement.id

/-- Store a movement, and the balance of its place after it. -/
def recordMovement (ledger : SupplyLedger) (movement : SupplyMovement) :
    Except SupplyError SupplyLedger := do
  let movements ← insertRow ledger.movements movement
  let balances ← orFail (ledger.balances.put? (movedBalance ledger movement)) .constraintViolated
  return { movements, balances }

/-! ## Lots -/

/-- The order in which lots are consumed: by expiry, the undated ones last, and
then by the time of their receipt. -/
def fefoBefore (left right : SupplyLot) : Bool :=
  match left.expiresOn, right.expiresOn with
  | some leftExpiry, some rightExpiry =>
      leftExpiry < rightExpiry
        || (leftExpiry = rightExpiry && left.receivedAt ≤ right.receivedAt)
  | some _, none => true
  | none, some _ => false
  | none, none => left.receivedAt ≤ right.receivedAt

def allocateFefoLotConsumption (lots : List SupplyLot) (requestedQuantityMicros : ℤ) :
    List (SupplyLot × ℤ) × ℤ :=
  DrawDown.drawDown (·.remainingQuantityMicros) (max requestedQuantityMicros 0)
    (lots.insertionSort fun left right => fefoBefore left right)

/-- What is left of a lot after its part of a consumption. -/
def consumed (part : SupplyLot × ℤ) (lot : SupplyLot) : SupplyLot :=
  { lot with
    remainingQuantityMicros := part.1.remainingQuantityMicros - part.2
    status := if part.1.remainingQuantityMicros - part.2 = 0 then .consumed else lot.status }

def updateLot (lots : CheckedTable SupplyLot lotCheck) (lotId : Uuid)
    (change : SupplyLot → SupplyLot) : Except SupplyError (CheckedTable SupplyLot lotCheck) :=
  orFail (lots.updateWhere? (fun lot => Indexed.key lot = lotId) change) .constraintViolated

def lotConsumable (movementType : MovementType) (status : LotStatus) : Bool :=
  status = .available || (movementType = .waste && status = .quarantined)

/-- The lots that a movement consumes from. -/
def consumableLots (lots : CheckedTable SupplyLot lotCheck) (place : SupplyPlace)
    (movementType : MovementType) : List SupplyLot :=
  lots.table.rows.filter fun lot => lot.place = place
    && 0 < lot.remainingQuantityMicros && lotConsumable movementType lot.status

def consumeLots (lots : CheckedTable SupplyLot lotCheck) (place : SupplyPlace)
    (movementType : MovementType) (quantity : ℤ) :
    Except SupplyError (CheckedTable SupplyLot lotCheck) :=
  (allocateFefoLotConsumption (consumableLots lots place movementType) quantity).1.foldlM
    (fun lots part => updateLot lots part.1.id (consumed part)) lots

def lotsAfterMovement (lots : CheckedTable SupplyLot lotCheck) (ingredient : SupplyIngredient)
    (movement : SupplyMovement) : Except SupplyError (CheckedTable SupplyLot lotCheck) :=
  if ingredient.trackExpiry && movement.quantityDeltaMicros < 0 then
    consumeLots lots movement.place movement.movementType (-movement.quantityDeltaMicros)
  else .ok lots

/-! ## Posted movements -/

structure MovementCommand where
  ingredientId : Uuid
  locationId : Uuid
  movementType : MovementType
  quantityDeltaMicros : ℤ
  unitCostMicros : Option ℤ
  sourceType : Text
  sourceId : Text
  idempotencyKey : Text
  reason : Text
  deriving DecidableEq

def movementSchema (command : MovementCommand) : Bool :=
  command.quantityDeltaMicros ≠ 0
    && -maxMicros ≤ command.quantityDeltaMicros && command.quantityDeltaMicros ≤ maxMicros
    && command.unitCostMicros.all (fun cost => 0 ≤ cost && cost ≤ maxMicros)
    && !(command.movementType.increases && command.quantityDeltaMicros < 0)
    && !(command.movementType.decreases && 0 < command.quantityDeltaMicros)

def MovementCommand.place (command : MovementCommand) (organizationId : Uuid) : SupplyPlace where
  organizationId := organizationId
  ingredientId := command.ingredientId
  locationId := command.locationId

def movementPayloadMatches (existing : SupplyMovement) (command : MovementCommand) : Bool :=
  existing.place.ingredientId = command.ingredientId
    && existing.place.locationId = command.locationId
    && existing.movementType = command.movementType
    && existing.quantityDeltaMicros = command.quantityDeltaMicros
    && existing.unitCostMicros = command.unitCostMicros
    && existing.sourceType = command.sourceType
    && existing.sourceId = command.sourceId
    && existing.reason = command.reason

def postedMovement (scope : SupplyScope) (movementId : Uuid) (command : MovementCommand) :
    SupplyMovement where
  id := movementId
  place := command.place scope.organizationId
  movementType := command.movementType
  quantityDeltaMicros := command.quantityDeltaMicros
  unitCostMicros := command.unitCostMicros
  sourceType := command.sourceType
  sourceId := command.sourceId
  idempotencyKey := command.idempotencyKey
  reason := command.reason
  actorProfileId := scope.actorProfileId

def movementWithKey (ledger : SupplyLedger) (organizationId : Uuid) (idempotencyKey : Text) :
    Option SupplyMovement :=
  ledger.movements.findFirst fun movement =>
    movement.place.organizationId = organizationId && movement.idempotencyKey = idempotencyKey

/-- A movement that no earlier submission has recorded. -/
def postNewMovement (db : SupplyDb) (scope : SupplyScope) (movementId : Uuid)
    (command : MovementCommand) : Except SupplyError (SupplyDb × SupplyMovement) := do
  let ingredient ← orFail (activeIngredient db scope.organizationId command.ingredientId)
    .ingredientNotFound
  failWhen (ingredient.trackExpiry && command.movementType = .receipt) .lotRequired
  let movement := postedMovement scope movementId command
  let ledger ← recordMovement db.ledger movement
  let lots ← lotsAfterMovement db.lots ingredient movement
  return ({ db with ledger, lots }, movement)

def postMovement (db : SupplyDb) (scope : SupplyScope) (movementId : Uuid)
    (command : MovementCommand) : Except SupplyError (SupplyDb × SupplyMovement) := do
  let location ← orFail (activeLocation db scope.organizationId command.locationId)
    .locationNotFound
  assertLocationAccess scope location
  match movementWithKey db.ledger scope.organizationId command.idempotencyKey with
  | some existing => do
      failWhen (!movementPayloadMatches existing command) .idempotencyConflict
      return (db, existing)
  | none => postNewMovement db scope movementId command

/-! ## Purchases -/

structure PurchaseLine where
  ingredientId : Uuid
  locationId : Uuid
  quantityMicros : ℤ
  unitCostMicros : ℤ
  lotNumber : Option Text
  manufacturedOn : Option ℤ
  expiresOn : Option ℤ
  deriving DecidableEq

structure PurchaseCommand where
  supplierId : Uuid
  stallId : Option Uuid
  documentNumber : Text
  orderedOn : ℤ
  expectedOn : Option ℤ
  taxAmount : ℤ
  freightAmount : ℤ
  note : Option Text
  lines : List PurchaseLine
  deriving DecidableEq

def purchaseLineSchema (line : PurchaseLine) : Bool :=
  1 ≤ line.quantityMicros && line.quantityMicros ≤ maxMicros
    && 0 ≤ line.unitCostMicros && line.unitCostMicros ≤ maxMicros
    && line.lotNumber.all (fun lotNumber => 1 ≤ lotNumber.length && lotNumber.length ≤ 100)
    && datesInOrder line.manufacturedOn line.expiresOn

def receivePurchaseSchema (command : PurchaseCommand) : Bool :=
  0 ≤ command.taxAmount && command.taxAmount ≤ 1_000_000_000
    && 0 ≤ command.freightAmount && command.freightAmount ≤ 1_000_000_000
    && 1 ≤ command.lines.length && command.lines.length ≤ 100
    && command.lines.all purchaseLineSchema

def PurchaseLine.place (line : PurchaseLine) (organizationId : Uuid) : SupplyPlace where
  organizationId := organizationId
  ingredientId := line.ingredientId
  locationId := line.locationId

/-- The ids that the rows of a purchase get. -/
structure LineIds where
  lineId : Uuid
  movementId : Uuid
  lotId : Uuid

structure PurchaseIds where
  orderId : Uuid
  line : ℕ → LineIds

def purchaseLineAmount (line : PurchaseLine) : Except SupplyError ℤ :=
  let rounded := (line.quantityMicros * line.unitCostMicros + 500_000_000_000).tdiv
    1_000_000_000_000
  if 1_000_000_000 < rounded then .error .purchaseAmountTooLarge else .ok rounded

def uuidText (id : Uuid) : Text := Nat.toDigits 16 id

def purchaseKey (orderId : Uuid) (index : ℕ) : Text :=
  "supply:purchase:".toList ++ uuidText orderId ++ ":".toList ++ Nat.toDigits 10 index

def purchaseOrderRow (scope : SupplyScope) (orderId : Uuid) (now : Timestamp)
    (command : PurchaseCommand) (subtotalAmount : ℤ) : PurchaseOrder where
  id := orderId
  organizationId := scope.organizationId
  supplierId := command.supplierId
  stallId := command.stallId
  documentNumber := command.documentNumber
  orderedOn := command.orderedOn
  expectedOn := command.expectedOn
  subtotalAmount := subtotalAmount
  taxAmount := command.taxAmount
  freightAmount := command.freightAmount
  totalAmount := subtotalAmount + command.taxAmount + command.freightAmount
  note := command.note
  receivedAt := now
  createdByProfileId := scope.actorProfileId

def purchaseLineRow (scope : SupplyScope) (orderId lineId : Uuid) (line : PurchaseLine)
    (lineAmount : ℤ) : PurchaseOrderLine where
  id := lineId
  purchaseOrderId := orderId
  place := line.place scope.organizationId
  quantityMicros := line.quantityMicros
  unitCostMicros := line.unitCostMicros
  lineAmount := lineAmount
  lotNumber := line.lotNumber
  manufacturedOn := line.manufacturedOn
  expiresOn := line.expiresOn

def purchaseMovement (scope : SupplyScope) (orderId movementId : Uuid) (index : ℕ)
    (documentNumber : Text) (line : PurchaseLine) : SupplyMovement where
  id := movementId
  place := line.place scope.organizationId
  movementType := .receipt
  quantityDeltaMicros := line.quantityMicros
  unitCostMicros := some line.unitCostMicros
  sourceType := "PURCHASE_ORDER".toList
  sourceId := uuidText orderId
  idempotencyKey := purchaseKey orderId index
  reason := "進貨單 ".toList ++ documentNumber
  actorProfileId := scope.actorProfileId

def newLot (scope : SupplyScope) (ids : LineIds) (now : Timestamp) (line : PurchaseLine)
    (lotNumber : Text) : SupplyLot where
  id := ids.lotId
  place := line.place scope.organizationId
  purchaseOrderLineId := some ids.lineId
  lotNumber := lotNumber
  receivedQuantityMicros := line.quantityMicros
  remainingQuantityMicros := line.quantityMicros
  unitCostMicros := line.unitCostMicros
  manufacturedOn := line.manufacturedOn
  expiresOn := line.expiresOn
  receivedAt := now
  status := .available

/-- A further delivery of a lot. -/
def replenished (line : PurchaseLine) (lot : SupplyLot) : SupplyLot :=
  { lot with
    receivedQuantityMicros := lot.receivedQuantityMicros + line.quantityMicros
    remainingQuantityMicros := lot.remainingQuantityMicros + line.quantityMicros
    unitCostMicros := WeightedMean.weightedMean lot.receivedQuantityMicros lot.unitCostMicros
      line.quantityMicros line.unitCostMicros
    expiresOn := line.expiresOn.or lot.expiresOn
    status := .available }

def lotOf (lots : CheckedTable SupplyLot lotCheck) (place : SupplyPlace) (lotNumber : Text) :
    Option SupplyLot :=
  lots.findFirst fun lot => lot.place = place && lot.lotNumber = lotNumber

def receiveNumberedLot (lots : CheckedTable SupplyLot lotCheck) (scope : SupplyScope)
    (ids : LineIds) (now : Timestamp) (line : PurchaseLine) (lotNumber : Text) :
    Except SupplyError (CheckedTable SupplyLot lotCheck) :=
  match lotOf lots (line.place scope.organizationId) lotNumber with
  | some lot => updateLot lots lot.id (replenished line)
  | none => insertRow lots (newLot scope ids now line lotNumber)

def receiveLot (lots : CheckedTable SupplyLot lotCheck) (scope : SupplyScope) (ids : LineIds)
    (now : Timestamp) (line : PurchaseLine) :
    Except SupplyError (CheckedTable SupplyLot lotCheck) :=
  match line.lotNumber with
  | some lotNumber => receiveNumberedLot lots scope ids now line lotNumber
  | none => .ok lots

def receiveLine (scope : SupplyScope) (ids : PurchaseIds) (now : Timestamp)
    (documentNumber : Text) (db : SupplyDb) (priced : (PurchaseLine × ℤ) × ℕ) :
    Except SupplyError SupplyDb := do
  let line := priced.1.1
  let rowIds := ids.line priced.2
  let purchaseOrderLines ← insertRow db.purchaseOrderLines
    (purchaseLineRow scope ids.orderId rowIds.lineId line priced.1.2)
  let ledger ← recordMovement db.ledger
    (purchaseMovement scope ids.orderId rowIds.movementId priced.2 documentNumber line)
  let lots ← receiveLot db.lots scope rowIds now line
  return { db with purchaseOrderLines, ledger, lots }

def priceLine (line : PurchaseLine) : Except SupplyError (PurchaseLine × ℤ) := do
  return (line, ← purchaseLineAmount line)

/-- What a purchase is refused for before anything is written. -/
def checkPurchase (db : SupplyDb) (scope : SupplyScope) (command : PurchaseCommand) :
    Except SupplyError Unit := do
  failWhen (!scope.canUseAllStalls && !isAuthorizedStall scope command.stallId) .scopeDenied
  failWhen (activeParty db.suppliers scope.organizationId command.supplierId).isNone
    .supplierNotFound
  failWhen (command.stallId.any fun stallId =>
    (activeParty db.stalls scope.organizationId stallId).isNone) .stallNotFound
  failWhen (command.lines.any fun line =>
    (activeIngredient db scope.organizationId line.ingredientId).isNone) .ingredientNotFound
  failWhen (command.lines.any fun line =>
    (activeLocation db scope.organizationId line.locationId).isNone) .locationNotFound
  failWhen (command.lines.any fun line =>
    (activeLocation db scope.organizationId line.locationId).any fun location =>
      !scope.canUseAllStalls && !isAuthorizedStall scope location.stallId) .scopeDenied
  failWhen (command.lines.any fun line =>
    (activeIngredient db scope.organizationId line.ingredientId).any fun ingredient =>
      ingredient.trackExpiry && line.lotNumber.isNone) .lotRequired

def receivePurchase (db : SupplyDb) (scope : SupplyScope) (ids : PurchaseIds) (now : Timestamp)
    (command : PurchaseCommand) : Except SupplyError SupplyDb := do
  checkPurchase db scope command
  let priced ← command.lines.mapM priceLine
  let purchaseOrders ← insertRow db.purchaseOrders
    (purchaseOrderRow scope ids.orderId now command (priced.map (·.2)).sum)
  priced.zipIdx.foldlM (receiveLine scope ids now command.documentNumber)
    { db with purchaseOrders }

/-! ## Changes of ingredients -/

structure IngredientCommand where
  ingredientId : Uuid
  code : Text
  name : Text
  baseUom : BaseUom
  itemType : ItemType
  trackExpiry : Bool
  defaultShelfLifeDays : Option ℤ
  preferredSupplierId : Option Uuid
  lowStockThresholdMicros : ℤ
  deriving DecidableEq

def changedIngredient (command : IngredientCommand) (ingredient : SupplyIngredient) :
    SupplyIngredient :=
  { ingredient with
    code := command.code
    name := command.name
    baseUom := command.baseUom
    itemType := command.itemType
    trackExpiry := command.trackExpiry
    defaultShelfLifeDays := command.defaultShelfLifeDays
    preferredSupplierId := command.preferredSupplierId
    lowStockThresholdMicros := command.lowStockThresholdMicros }

/-- The ingredient has stock somewhere, or a lot of it is not used up. -/
def trackingLocked (db : SupplyDb) (organizationId ingredientId : Uuid) : Bool :=
  (db.ledger.balances.table.rows.any fun balance =>
    balance.place.organizationId = organizationId && balance.place.ingredientId = ingredientId
      && balance.quantityMicros ≠ 0)
  || db.lots.table.rows.any fun lot =>
    lot.place.organizationId = organizationId && lot.place.ingredientId = ingredientId
      && 0 < lot.remainingQuantityMicros

def unitLocked (db : SupplyDb) (organizationId ingredientId : Uuid) : Bool :=
  db.ledger.movements.table.rows.any fun movement =>
    movement.place.organizationId = organizationId && movement.place.ingredientId = ingredientId

def usedInRecipe (db : SupplyDb) (organizationId ingredientId : Uuid) : Bool :=
  db.recipes.rows.any fun component =>
    component.organizationId = organizationId && component.ingredientId = ingredientId

def updateIngredient (db : SupplyDb) (scope : SupplyScope) (command : IngredientCommand) :
    Except SupplyError SupplyDb := do
  let ingredient ← orFail (activeIngredient db scope.organizationId command.ingredientId)
    .ingredientNotFound
  failWhen (command.preferredSupplierId.any fun supplierId =>
    (activeParty db.suppliers scope.organizationId supplierId).isNone) .supplierNotFound
  failWhen (ingredient.baseUom ≠ command.baseUom
    && unitLocked db scope.organizationId ingredient.id) .ingredientUnitLocked
  failWhen (ingredient.trackExpiry ≠ command.trackExpiry
    && trackingLocked db scope.organizationId ingredient.id) .ingredientTrackingLocked
  failWhen (ingredient.itemType ≠ command.itemType && command.itemType ≠ .ingredient
    && command.itemType ≠ .packaging && usedInRecipe db scope.organizationId ingredient.id)
    .recipeItemTypeInvalid
  let taken := db.ingredients.table.rows.any fun row => row.id ≠ ingredient.id
    && row.organizationId = ingredient.organizationId && row.code = command.code
  let ingredients ← orFail (db.ingredients.updateWhere?
    (fun row => Indexed.key row = ingredient.id) (changedIngredient command))
    (if taken then .duplicateRecord else .constraintViolated)
  return { db with ingredients }

/-! ## Runs -/

inductive SupplyCommand
  | postMovement (movementId : Uuid) (command : MovementCommand)
  | receivePurchase (ids : PurchaseIds) (command : PurchaseCommand)
  | updateIngredient (command : IngredientCommand)

structure SupplyRequest where
  scope : SupplyScope
  now : Timestamp
  command : SupplyCommand

def applySupplyCommand (db : SupplyDb) (request : SupplyRequest) : Except SupplyError SupplyDb := do
  failWhen (!request.scope.moduleEnabled) .moduleDisabled
  match request.command with
  | .postMovement movementId command =>
      (postMovement db request.scope movementId command).map Prod.fst
  | .receivePurchase ids command => receivePurchase db request.scope ids request.now command
  | .updateIngredient command => updateIngredient db request.scope command

def supplyCommandSchema : SupplyCommand → Bool
  | .postMovement _ command => movementSchema command
  | .receivePurchase _ command => receivePurchaseSchema command
  | .updateIngredient _ => true

/-- One request; what raises an error writes nothing. -/
def step (db : SupplyDb) (request : SupplyRequest) : SupplyDb :=
  if supplyCommandSchema request.command then
    match applySupplyCommand db request with
    | .ok db' => db'
    | .error _ => db
  else db

end Stallorder.SupplyService
