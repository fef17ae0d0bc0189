import Stallorder.Core.Checks
import Stallorder.Core.CheckedTotals
import Stallorder.Offline.OrderContract

/-!
# The supply tables

Ingredients and the places that hold them, the immutable movements of stock with
the balance kept from them, the purchases, and the lots that purchases deliver.
Quantities and costs are counted in millionths.
-/

namespace Stallorder.SupplyDatabase

open OrderContract Checks

/-! ## Errors -/

inductive SupplyError
  | moduleDisabled
  | scopeDenied
  | locationNotFound
  | ingredientNotFound
  | supplierNotFound
  | stallNotFound
  | lotRequired
  | idempotencyConflict
  | purchaseAmountTooLarge
  | ingredientUnitLocked
  | ingredientTrackingLocked
  | recipeItemTypeInvalid
  | duplicateRecord
  | constraintViolated
  deriving DecidableEq

/-! ## Ranges -/

/-- The largest quantity and cost of the commands and of the balances. -/
def maxMicros : ℤ := 9_000_000_000_000_000

/-- The largest value of an integer column, and of a bigint column. -/
def maxInteger : ℤ := 2_147_483_647

def maxBigint : ℤ := 9_223_372_036_854_775_807

/-! ## Master data -/

inductive BaseUom
  | g
  | kg
  | ml
  | l
  | ea
  deriving DecidableEq

inductive ItemType
  | ingredient
  | packaging
  | consumable
  | reusableEquipment
  deriving DecidableEq

structure SupplyIngredient where
  id : Uuid
  organizationId : Uuid
  code : Text
  name : Text
  baseUom : BaseUom
  itemType : ItemType
  trackExpiry : Bool
  defaultShelfLifeDays : Option ℤ
  preferredSupplierId : Option Uuid
  lowStockThresholdMicros : ℤ
  isActive : Bool
  deriving DecidableEq

instance : Indexed SupplyIngredient Uuid :=
  (KeyIndexed.ofKey (·.id)).addUnique fun ingredient =>
    some (ingredient.organizationId, ingredient.code)

/-- The item types that the column admits. -/
def ingredientCheck (ingredient : SupplyIngredient) : Bool :=
  ingredient.itemType ≠ .reusableEquipment
    && ingredient.defaultShelfLifeDays.all (fun days => 1 ≤ days && days ≤ 3650)
    && 0 ≤ ingredient.lowStockThresholdMicros && ingredient.lowStockThresholdMicros ≤ maxMicros

structure SupplyLocation where
  id : Uuid
  organizationId : Uuid
  stallId : Option Uuid
  isActive : Bool
  deriving DecidableEq

instance : KeyIndexed SupplyLocation Uuid := .ofKey (·.id)

/-- Suppliers and stalls, as far as supply commands look at them. -/
structure Party where
  id : Uuid
  organizationId : Uuid
  isActive : Bool
  deriving DecidableEq

instance : KeyIndexed Party Uuid := .ofKey (·.id)

structure RecipeComponent where
  id : Uuid
  organizationId : Uuid
  ingredientId : Uuid
  deriving DecidableEq

instance : KeyIndexed RecipeComponent Uuid := .ofKey (·.id)

/-! ## Movements and balances -/

/-- An ingredient at a location of an organization. -/
structure SupplyPlace where
  organizationId : Uuid
  ingredientId : Uuid
  locationId : Uuid
  deriving DecidableEq

inductive MovementType
  | receipt
  | adjustment
  | waste
  | transferIn
  | transferOut
  | saleConsumption
  | reversal
  deriving DecidableEq

def MovementType.increases : MovementType → Bool
  | .receipt | .transferIn => true
  | _ => false

def MovementType.decreases : MovementType → Bool
  | .waste | .transferOut | .saleConsumption => true
  | _ => false

structure SupplyMovement where
  id : Uuid
  place : SupplyPlace
  movementType : MovementType
  quantityDeltaMicros : ℤ
  unitCostMicros : Option ℤ
  sourceType : Text
  sourceId : Text
  idempotencyKey : Text
  reason : Text
  actorProfileId : Uuid
  deriving DecidableEq

instance : Indexed SupplyMovement Uuid :=
  (KeyIndexed.ofKey (·.id)).addUnique fun movement =>
    some (movement.place.organizationId, movement.idempotencyKey)

def movementCheck (movement : SupplyMovement) : Bool :=
  movement.quantityDeltaMicros ≠ 0
    && -maxMicros ≤ movement.quantityDeltaMicros && movement.quantityDeltaMicros ≤ maxMicros
    && (!movement.movementType.increases || 0 < movement.quantityDeltaMicros)
    && (!movement.movementType.decreases || movement.quantityDeltaMicros < 0)
    && movement.unitCostMicros.all (fun cost => 0 ≤ cost && cost ≤ maxMicros)

structure SupplyBalance where
  place : SupplyPlace
  quantityMicros : ℤ
  averageUnitCostMicros : ℤ
  lastMovementId : Uuid
  deriving DecidableEq

instance : KeyIndexed SupplyBalance SupplyPlace := .ofKey (·.place)

def balanceCheck (balance : SupplyBalance) : Bool :=
  -maxMicros ≤ balance.quantityMicros && balance.quantityMicros ≤ maxMicros
    && 0 ≤ balance.averageUnitCostMicros && balance.averageUnitCostMicros ≤ maxMicros

/-- The movements and the balances that are kept from them. -/
structure SupplyLedger where
  movements : CheckedTable SupplyMovement movementCheck
  balances : CheckedTable SupplyBalance balanceCheck

def SupplyLedger.empty : SupplyLedger where
  movements := .empty
  balances := .empty

def SupplyLedger.quantityAt (ledger : SupplyLedger) (place : SupplyPlace) : ℤ :=
  ((ledger.balances.get? place).map (·.quantityMicros)).getD 0

def SupplyLedger.averageUnitCostAt (ledger : SupplyLedger) (place : SupplyPlace) : ℤ :=
  ((ledger.balances.get? place).map (·.averageUnitCostMicros)).getD 0

/-! ## Purchases and lots -/

structure PurchaseOrder where
  id : Uuid
  organizationId : Uuid
  supplierId : Uuid
  stallId : Option Uuid
  documentNumber : Text
  orderedOn : ℤ
  expectedOn : Option ℤ
  subtotalAmount : ℤ
  taxAmount : ℤ
  freightAmount : ℤ
  totalAmount : ℤ
  note : Option Text
  receivedAt : Timestamp
  createdByProfileId : Uuid
  deriving DecidableEq

instance : Indexed PurchaseOrder Uuid :=
  (KeyIndexed.ofKey (·.id)).addUnique fun order =>
    some (order.organizationId, order.documentNumber)

/-- An amount that an integer column holds and that is not negative. -/
def integerAmount (amount : ℤ) : Bool :=
  0 ≤ amount && amount ≤ maxInteger

def purchaseOrderCheck (order : PurchaseOrder) : Bool :=
  integerAmount order.subtotalAmount && integerAmount order.taxAmount
    && integerAmount order.freightAmount && integerAmount order.totalAmount

/-- The best before date is not before the date of manufacture. -/
def datesInOrder (manufacturedOn expiresOn : Option ℤ) : Bool :=
  manufacturedOn.all fun made => expiresOn.all fun expires => made ≤ expires

structure PurchaseOrderLine where
  id : Uuid
  purchaseOrderId : Uuid
  place : SupplyPlace
  quantityMicros : ℤ
  unitCostMicros : ℤ
  lineAmount : ℤ
  lotNumber : Option Text
  manufacturedOn : Option ℤ
  expiresOn : Option ℤ
  deriving DecidableEq

instance : KeyIndexed PurchaseOrderLine Uuid := .ofKey (·.id)

def purchaseOrderLineCheck (line : PurchaseOrderLine) : Bool :=
  0 < line.quantityMicros && 0 ≤ line.unitCostMicros && integerAmount line.lineAmount
    && datesInOrder line.manufacturedOn line.expiresOn

inductive LotStatus
  | available
  | consumed
  | expired
  | quarantined
  deriving DecidableEq

structure SupplyLot where
  id : Uuid
  place : SupplyPlace
  purchaseOrderLineId : Option Uuid
  lotNumber : Text
  receivedQuantityMicros : ℤ
  remainingQuantityMicros : ℤ
  unitCostMicros : ℤ
  manufacturedOn : Option ℤ
  expiresOn : Option ℤ
  receivedAt : Timestamp
  status : LotStatus
  deriving DecidableEq

instance : Indexed SupplyLot Uuid :=
  (KeyIndexed.ofKey (·.id)).addUnique fun lot =>
    some (lot.place, lot.lotNumber)

def lotCheck (lot : SupplyLot) : Bool :=
  0 < lot.receivedQuantityMicros && lot.receivedQuantityMicros ≤ maxBigint
    && 0 ≤ lot.remainingQuantityMicros
    && lot.remainingQuantityMicros ≤ lot.receivedQuantityMicros
    && 0 ≤ lot.unitCostMicros && lot.unitCostMicros ≤ maxBigint
    && datesInOrder lot.manufacturedOn lot.expiresOn

/-! ## The database -/

structure SupplyDb where
  ingredients : CheckedTable SupplyIngredient ingredientCheck
  locations : Table SupplyLocation
  suppliers : Table Party
  stalls : Table Party
  recipes : Table RecipeComponent
  ledger : SupplyLedger
  purchaseOrders : CheckedTable PurchaseOrder purchaseOrderCheck
  purchaseOrderLines : CheckedTable PurchaseOrderLine purchaseOrderLineCheck
  lots : CheckedTable SupplyLot lotCheck

/-- An organization that has recorded its ingredients and locations, and has
moved no stock yet. -/
def SupplyDb.opened (ingredients : CheckedTable SupplyIngredient ingredientCheck)
    (locations : Table SupplyLocation) (suppliers stalls : Table Party)
    (recipes : Table RecipeComponent) : SupplyDb where
  ingredients := ingredients
  locations := locations
  suppliers := suppliers
  stalls := stalls
  recipes := recipes
  ledger := .empty
  purchaseOrders := .empty
  purchaseOrderLines := .empty
  lots := .empty

def activeIngredient (db : SupplyDb) (organizationId ingredientId : Uuid) :
    Option SupplyIngredient :=
  (db.ingredients.table.get? ingredientId).filter fun ingredient =>
    ingredient.organizationId = organizationId && ingredient.isActive

def activeLocation (db : SupplyDb) (organizationId locationId : Uuid) : Option SupplyLocation :=
  (db.locations.get? locationId).filter fun location =>
    location.organizationId = organizationId && location.isActive

def activeParty (parties : Table Party) (organizationId partyId : Uuid) : Option Party :=
  (parties.get? partyId).filter fun party =>
    party.organizationId = organizationId && party.isActive

/-- Insert a row; a row that repeats a unique value is reported as a duplicate. -/
def insertRow {Row Key : Type} [Indexed Row Key] {check : Row → Bool}
    (table : CheckedTable Row check) (row : Row) :
    Except SupplyError (CheckedTable Row check) :=
  orFail (table.insert? row)
    (if table.table.rows.any (Indexed.collides · row) then .duplicateRecord
      else .constraintViolated)

theorem insertRow_eq_ok {Row Key : Type} [Indexed Row Key] {check : Row → Bool}
    {table table' : CheckedTable Row check} {row : Row} :
    insertRow table row = .ok table' ↔ table.insert? row = some table' :=
  orFail_eq_ok

/-- The lots of a place as far as they are left. -/
def remainingAt (lots : CheckedTable SupplyLot lotCheck) (place : SupplyPlace) : ℤ :=
  lots.total fun lot => if lot.place = place then lot.remainingQuantityMicros else 0

theorem remaining_nonneg {lots : CheckedTable SupplyLot lotCheck} {lot : SupplyLot}
    (hlot : lot ∈ lots) : 0 ≤ lot.remainingQuantityMicros := by
  have hcheck := lots.checked lot hlot
  simp only [lotCheck, Bool.and_eq_true, decide_eq_true_eq] at hcheck
  exact hcheck.1.1.1.1.2

end Stallorder.SupplyDatabase
