import Stallorder.Core.Doubles
import Stallorder.Offline.OrderContract

/-!
# Menu catalogs and item pricing

The catalog that a menu snapshot freezes, the limits on the items of an order,
and the pricing of the items a cashier selects while the device is offline.
The selection rules of note groups are read by the device and by the server,
which prices the uploaded items again.
-/

namespace Stallorder.Catalog

open OrderContract Doubles

/-! ## Catalogs -/

inductive SelectionMode
  | single
  | multiple
  deriving DecidableEq

structure NoteOption where
  id : Uuid
  name : Text
  priceDelta : ℤ
  sortOrder : ℤ
  isActive : Bool
  deriving DecidableEq

structure NoteGroup where
  id : Uuid
  name : Text
  selectionMode : SelectionMode
  isRequired : Bool
  minSelections : ℕ
  maxSelections : Option ℕ
  sortOrder : ℤ
  isActive : Bool
  options : List NoteOption
  deriving DecidableEq

structure CatalogProduct where
  id : Uuid
  name : Text
  price : ℤ
  isActive : Bool
  isEnabled : Bool
  availableFrom : Option Timestamp
  availableUntil : Option Timestamp
  noteGroups : List NoteGroup
  deriving DecidableEq

structure CatalogPaymentOption where
  id : Uuid
  name : Text
  kind : PaymentOptionKind
  deriving DecidableEq

structure OrderItemLimits where
  maxItemQuantity : ℤ
  maxUniqueProducts : ℕ
  maxTotalQuantity : ℤ
  maxNoteLength : ℕ
  deriving DecidableEq

structure MenuCatalog where
  schemaVersion : ℕ
  stallId : Uuid
  stallName : Text
  currency : Text
  timezone : Text
  limits : OrderItemLimits
  printEnabled : Bool
  paymentEnabled : Bool
  products : List CatalogProduct
  paymentOptions : List CatalogPaymentOption
  deriving DecidableEq

/-- Texts of a catalog are not trimmed: only their length is checked. -/
def labelText (text : Text) : Bool :=
  1 ≤ text.length16 && text.length16 ≤ 120

def noteOptionSchema (option : NoteOption) : Bool :=
  labelText option.name
    && -100_000_000 ≤ option.priceDelta && option.priceDelta ≤ 100_000_000
    && 0 ≤ option.sortOrder && option.sortOrder ≤ 1_000_000

/-- What the schemas of the device and of the server have in common for a note
group; the server does not read the position of the group. -/
def snapshotGroupSchema (group : NoteGroup) : Bool :=
  labelText group.name
    && group.minSelections ≤ 50 && group.maxSelections.all (· ≤ 50)
    && group.options.length ≤ 100 && group.options.all noteOptionSchema

def noteGroupSchema (group : NoteGroup) : Bool :=
  snapshotGroupSchema group && 0 ≤ group.sortOrder && group.sortOrder ≤ 1_000_000

def limitsSchema (limits : OrderItemLimits) : Bool :=
  1 ≤ limits.maxItemQuantity && limits.maxItemQuantity ≤ 100
    && 1 ≤ limits.maxUniqueProducts && limits.maxUniqueProducts ≤ 100
    && 1 ≤ limits.maxTotalQuantity && limits.maxTotalQuantity ≤ 1_000
    && limits.maxNoteLength ≤ 1_000

def productSchema (groupSchema : NoteGroup → Bool) (product : CatalogProduct) : Bool :=
  labelText product.name && money product.price
    && product.noteGroups.length ≤ 50 && product.noteGroups.all groupSchema

def catalogSchema (groupSchema : NoteGroup → Bool) (catalog : MenuCatalog) : Bool :=
  catalog.schemaVersion = 1
    && currencyAccepted catalog.currency
    && limitsSchema catalog.limits
    && catalog.products.length ≤ 10_000
    && catalog.products.all (productSchema groupSchema)
    && catalog.paymentOptions.length ≤ 100
    && catalog.paymentOptions.all fun option => labelText option.name

/-- The schema of the device. -/
def menuCatalogSchema (catalog : MenuCatalog) : Bool :=
  catalogSchema noteGroupSchema catalog
    && labelText catalog.stallName
    && 1 ≤ catalog.timezone.length16 && catalog.timezone.length16 ≤ 100

/-- The schema of the server. -/
def snapshotCatalogSchema (catalog : MenuCatalog) : Bool :=
  catalogSchema snapshotGroupSchema catalog

/-- A lookup through a map built from the list: the last entry wins. -/
def productById (products : List CatalogProduct) (productId : Uuid) : Option CatalogProduct :=
  products.reverse.find? fun product => product.id = productId

/-! ## Limits on the items of an order -/

structure LimitedOrderItem where
  productId : Uuid
  quantity : ℚ
  note : Text

def quantityOfProduct (items : List LimitedOrderItem) (productId : Uuid) : ℚ :=
  addDoubles ((items.filter fun item => item.productId = productId).map (·.quantity))

def orderItemsExceedLimits (items : List LimitedOrderItem) (orderNote : Text)
    (limits : OrderItemLimits) : Bool :=
  let products := (items.map (·.productId)).dedup
  limits.maxUniqueProducts < products.length
    || limits.maxTotalQuantity < addDoubles (items.map (·.quantity))
    || products.any (fun productId => limits.maxItemQuantity < quantityOfProduct items productId)
    || items.any (fun item => limits.maxNoteLength < item.note.length16)
    || limits.maxNoteLength < orderNote.length16

/-! ## Note selections -/

/-- The options of one group that are selected, when they satisfy the rules of
the group; an inactive group contributes nothing. -/
def selectFromGroup (selected : List Uuid) (groupIndex : ℕ) (group : NoteGroup) :
    Option (List OfflineOrderNoteOption) :=
  if !group.isActive then some []
  else
    let options := group.options.filter fun option => option.isActive && option.id ∈ selected
    if options.length < group.minSelections
        || group.maxSelections.any (· < options.length)
        || (group.selectionMode = .single && 1 < options.length)
        || (group.isRequired && options.length = 0) then none
    else some <| options.map fun option =>
      { noteGroupId := group.id
        noteOptionId := option.id
        groupName := group.name
        optionName := option.name
        priceDelta := option.priceDelta
        sortOrder := groupIndex * 1_000 + option.sortOrder }

/-- Walk the groups with their index; one unsatisfied group refuses them all. -/
def selectFromGroups (selected : List Uuid) :
    ℕ → List NoteGroup → Option (List OfflineOrderNoteOption)
  | _, [] => some []
  | groupIndex, group :: groups =>
      match selectFromGroup selected groupIndex group,
          selectFromGroups selected (groupIndex + 1) groups with
      | some options, some rest => some (options ++ rest)
      | _, _ => none

def getSelectedNoteOptions (groups : List NoteGroup) (selectedIds : List Uuid) :
    Option (List OfflineOrderNoteOption) :=
  let allowed := groups.flatMap fun group =>
    (group.options.filter (·.isActive)).map (·.id)
  if !selectedIds.Nodup || selectedIds.any (fun id => id ∉ allowed) then none
  else selectFromGroups selectedIds 0 groups

/-- The price of one unit: options may lower it, but not below zero. -/
def priceWithOptions (price : ℤ) (options : List OfflineOrderNoteOption) : ℤ :=
  max 0 (price + (options.map (·.priceDelta)).sum)

/-! ## Pricing on the device -/

/-- A selected item.  Its quantity is any number; what is not a number at all is refused
by the schemas before anything is written. -/
structure DraftItem where
  productId : Uuid
  quantity : ℚ
  note : Text
  noteOptionIds : List Uuid
  deriving DecidableEq

/-- A priced line, whose quantity has not passed a schema yet. -/
structure PricedItem where
  localItemId : Uuid
  productId : Uuid
  name : Text
  baseUnitPrice : ℤ
  unitPrice : ℤ
  quantity : ℚ
  note : Text
  noteOptions : List OfflineOrderNoteOption
  deriving DecidableEq

namespace PricedItem

def amount (item : PricedItem) : ℚ :=
  toDouble (item.unitPrice * item.quantity)

/-- The schema of an item reads whole quantities only. -/
def whole? (item : PricedItem) : Option OfflineOrderItem :=
  (toInteger? item.quantity).map fun quantity => {
    localItemId := item.localItemId
    productId := item.productId
    name := item.name
    baseUnitPrice := item.baseUnitPrice
    unitPrice := item.unitPrice
    quantity := quantity
    note := item.note
    noteOptions := item.noteOptions }

def ofWhole (line : OfflineOrderItem) : PricedItem where
  localItemId := line.localItemId
  productId := line.productId
  name := line.name
  baseUnitPrice := line.baseUnitPrice
  unitPrice := line.unitPrice
  quantity := line.quantity
  note := line.note
  noteOptions := line.noteOptions

theorem whole?_eq_some {item : PricedItem} {line : OfflineOrderItem} :
    item.whole? = some line ↔ item = ofWhole line := by
  rw [whole?, Option.map_eq_some_iff]
  constructor
  · rintro ⟨quantity, hquantity, rfl⟩
    rw [ofWhole, ← toInteger?_eq_some.mp hquantity]
  · rintro rfl
    exact ⟨line.quantity, toInteger?_eq_some.mpr rfl, rfl⟩

theorem mapM_whole?_eq_some {items : List PricedItem} {lines : List OfflineOrderItem} :
    items.mapM whole? = some lines ↔ items = lines.map ofWhole := by
  induction items generalizing lines with
  | nil => cases lines <;> simp
  | cons item items ih =>
      rw [List.mapM_cons]
      simp only [Option.bind_eq_bind, Option.bind_eq_some_iff, Option.pure_def, Option.some.injEq,
        whole?_eq_some, ih]
      constructor
      · rintro ⟨line, rfl, rest, rfl, rfl⟩
        rfl
      · intro hitems
        cases lines with
        | nil => cases hitems
        | cons line lines =>
            cases hitems
            exact ⟨line, rfl, lines, rfl, rfl⟩

end PricedItem

inductive PricingError
  | productUnavailable
  | itemLimitExceeded
  | noteSelectionInvalid
  deriving DecidableEq

def productAvailable (product : CatalogProduct) (now : Timestamp) : Bool :=
  product.isActive && product.isEnabled
    && product.availableFrom.all (· ≤ now)
    && product.availableUntil.all (now < ·)

def prepareOfflineOrderItemSnapshot (catalog : MenuCatalog) (now : Timestamp)
    (localItemId : Uuid) (item : DraftItem) : Except PricingError PricedItem :=
  match productById catalog.products item.productId with
  | none => .error .productUnavailable
  | some product =>
      if !productAvailable product now then .error .productUnavailable
      else if item.quantity < 1 || catalog.limits.maxItemQuantity < item.quantity
          || catalog.limits.maxNoteLength < item.note.length16 then
        .error .itemLimitExceeded
      else
        match getSelectedNoteOptions product.noteGroups item.noteOptionIds with
        | none => .error .noteSelectionInvalid
        | some noteOptions => .ok {
            localItemId := localItemId
            productId := product.id
            name := product.name
            baseUnitPrice := product.price
            unitPrice := priceWithOptions product.price noteOptions
            quantity := item.quantity
            note := item.note
            noteOptions := noteOptions }

/-- Price the items in order; `itemIds` are the identifiers the device draws. -/
def prepareOfflineOrderItemSnapshots (catalog : MenuCatalog) (now : Timestamp)
    (itemIds : ℕ → Uuid) : ℕ → List DraftItem → Except PricingError (List PricedItem)
  | _, [] => .ok []
  | index, item :: items => do
      let priced ← prepareOfflineOrderItemSnapshot catalog now (itemIds index) item
      let rest ← prepareOfflineOrderItemSnapshots catalog now itemIds (index + 1) items
      return priced :: rest

end Stallorder.Catalog
