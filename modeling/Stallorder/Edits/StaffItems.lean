import Stallorder.Core.Checks
import Stallorder.Core.Table
import Stallorder.Offline.Catalog

/-!
# Lines that the staff orders

A product of a stall, with the notes and the components of a bundle that are
selected for it, becomes a line of an order.  The catalogue decides the price:
what the request brings is the selection, the quantity and a note.
-/

namespace Stallorder.StaffItems

open OrderContract Catalog Checks

inductive StaffOrderCreateError
  | productUnavailable
  | invalidProductNotes
  | orderLimitExceeded
  | productStockInsufficient
  deriving DecidableEq

/-! ## The catalogue of a stall -/

inductive ProductKind
  | single
  | bundle
  deriving DecidableEq

/-- A component of a bundle as a stall sells it by itself. -/
structure ComponentAssignment where
  organizationId : Uuid
  stallId : Uuid
  isEnabled : Bool
  availableFrom : Option Timestamp
  availableUntil : Option Timestamp

structure ComponentProduct where
  organizationId : Uuid
  name : Text
  kind : ProductKind
  isActive : Bool
  categoryIsActive : Bool
  stallProducts : List ComponentAssignment

structure BundleChoice where
  id : Uuid
  organizationId : Uuid
  choiceGroupId : Uuid
  quantity : ℕ
  priceDelta : ℤ
  isEnabled : Bool
  componentProduct : ComponentProduct

structure BundleChoiceGroup where
  id : Uuid
  organizationId : Uuid
  bundleProductId : Uuid
  name : Text
  minSelections : ℕ
  maxSelections : ℕ
  choices : List BundleChoice

structure ProductNoteGroup where
  id : Uuid
  name : Text
  minSelections : ℕ
  maxSelections : Option ℕ
  isActive : Bool
  options : List NoteOption

structure NoteGroupAssignment where
  isActive : Bool
  noteGroup : ProductNoteGroup

/-- A product with its category; groups, choices and options come in the order
of the query. -/
structure Product where
  organizationId : Uuid
  name : Text
  defaultPrice : ℤ
  kind : ProductKind
  isActive : Bool
  categoryIsActive : Bool
  isOrderDiscountEligible : Bool
  bundleChoiceGroups : List BundleChoiceGroup
  noteGroupAssignments : List NoteGroupAssignment

structure StallProduct where
  organizationId : Uuid
  stallId : Uuid
  productId : Uuid
  isEnabled : Bool
  availableFrom : Option Timestamp
  availableUntil : Option Timestamp
  priceOverride : Option ℤ
  product : Product

instance : KeyIndexed StallProduct (Uuid × Uuid) :=
  .ofKey fun row => (row.stallId, row.productId)

/-! ## One line -/

structure RequestedItem where
  productId : Uuid
  quantity : ℕ
  note : Text
  noteOptionIds : List Uuid
  bundleChoiceIds : List Uuid
  deriving DecidableEq

/-- A selected note, or a selected component of a bundle, as the line keeps it. -/
structure LineOption where
  noteGroupId : Option Uuid
  noteOptionId : Option Uuid
  groupName : Text
  optionName : Text
  priceDelta : ℤ
  sortOrder : ℤ
  deriving DecidableEq

structure PreparedItem where
  productId : Uuid
  name : Text
  baseUnitPrice : ℤ
  unitPrice : ℤ
  quantity : ℕ
  isOrderDiscountEligible : Bool
  note : Option Text
  noteOptions : List LineOption
  deriving DecidableEq

section Pricing

variable (organizationId stallId : Uuid) (now : Timestamp)

def isAvailable (availableFrom availableUntil : Option Timestamp) : Bool :=
  availableFrom.all (· ≤ now) && availableUntil.all (now < ·)

/-- The choice is enabled and its component can be sold. -/
def choiceAvailable (group : BundleChoiceGroup) (choice : BundleChoice) : Bool :=
  let component := choice.componentProduct
  choice.organizationId = organizationId && choice.choiceGroupId = group.id && choice.isEnabled
    && component.organizationId = organizationId && component.kind = .single
    && component.isActive && component.categoryIsActive
    && (component.stallProducts.find? fun candidate =>
        candidate.organizationId = organizationId && candidate.stallId = stallId).any fun found =>
      found.isEnabled && isAvailable now found.availableFrom found.availableUntil

def bundleOption (groupIndex : ℕ) (group : BundleChoiceGroup) (choiceIndex : ℕ)
    (choice : BundleChoice) : LineOption where
  noteGroupId := none
  noteOptionId := none
  groupName := "套餐 · ".toList ++ group.name
  optionName := choice.componentProduct.name ++ " × ".toList ++ (toString choice.quantity).toList
  priceDelta := choice.priceDelta
  sortOrder := groupIndex * 1000 + choiceIndex

/-- The selected choices of one group of a bundle. -/
def selectChoices (requested : RequestedItem) (groupIndex : ℕ) (group : BundleChoiceGroup) :
    Except StaffOrderCreateError (List LineOption) := do
  failWhen (group.organizationId ≠ organizationId || group.bundleProductId ≠ requested.productId)
    .productUnavailable
  let available := group.choices.filter (choiceAvailable organizationId stallId now group)
  failWhen (available.length < group.minSelections) .productUnavailable
  failWhen (group.choices.any fun choice =>
    choice.id ∈ requested.bundleChoiceIds && choice.id ∉ available.map (·.id)) .productUnavailable
  let selected := available.filter fun choice => choice.id ∈ requested.bundleChoiceIds
  failWhen (selected.length < group.minSelections || group.maxSelections < selected.length)
    .invalidProductNotes
  return selected.mapIdx (bundleOption groupIndex group)

def selectBundle (product : Product) (requested : RequestedItem) :
    Except StaffOrderCreateError (List LineOption) :=
  match product.kind with
  | .single => do
      failWhen (!requested.bundleChoiceIds.isEmpty) .invalidProductNotes
      return []
  | .bundle => do
      let groups := product.bundleChoiceGroups
      failWhen groups.isEmpty .productUnavailable
      let allChoiceIds := groups.flatMap fun group => group.choices.map (·.id)
      failWhen (requested.bundleChoiceIds.any fun choiceId => choiceId ∉ allChoiceIds)
        .invalidProductNotes
      let options ← groups.zipIdx.mapM fun (group, groupIndex) =>
        selectChoices organizationId stallId now requested groupIndex group
      return options.flatten

/-- The note groups of a product that the query selects, with their active options. -/
def activeNoteGroups (product : Product) : List ProductNoteGroup :=
  (product.noteGroupAssignments.filter fun assignment =>
    assignment.isActive && assignment.noteGroup.isActive).map fun assignment =>
      { assignment.noteGroup with options := assignment.noteGroup.options.filter (·.isActive) }

def noteOption (kind : ProductKind) (groupIndex : ℕ) (group : ProductNoteGroup)
    (option : NoteOption) : LineOption where
  noteGroupId := some group.id
  noteOptionId := some option.id
  groupName := group.name
  optionName := option.name
  priceDelta := option.priceDelta
  sortOrder := (if kind = .bundle then 100_000 else 0) + groupIndex * 1000 + option.sortOrder

/-- The selected options of one note group. -/
def selectOptions (kind : ProductKind) (requested : RequestedItem) (groupIndex : ℕ)
    (group : ProductNoteGroup) : Except StaffOrderCreateError (List LineOption) := do
  let selected := group.options.filter fun option => option.id ∈ requested.noteOptionIds
  failWhen (selected.length < group.minSelections || group.maxSelections.any (· < selected.length))
    .invalidProductNotes
  return selected.map (noteOption kind groupIndex group)

def selectNotes (product : Product) (requested : RequestedItem) :
    Except StaffOrderCreateError (List LineOption) := do
  let groups := activeNoteGroups product
  failWhen (!requested.noteOptionIds.Nodup) .invalidProductNotes
  let allowedNoteIds := groups.flatMap fun group => group.options.map (·.id)
  failWhen (requested.noteOptionIds.any fun optionId => optionId ∉ allowedNoteIds)
    .invalidProductNotes
  let options ← groups.zipIdx.mapM fun (group, groupIndex) =>
    selectOptions product.kind requested groupIndex group
  return options.flatten

def baseUnitPrice (assignment : StallProduct) : ℤ :=
  assignment.priceOverride.getD assignment.product.defaultPrice

/-- Options may lower a price, but not below zero. -/
def unitPriceOf (basePrice : ℤ) (options : List LineOption) : ℤ :=
  max 0 (basePrice + (options.map (·.priceDelta)).sum)

/-- The line of a requested item with the options that are selected for it. -/
def preparedItem (assignment : StallProduct) (requested : RequestedItem)
    (noteOptions : List LineOption) : PreparedItem where
  productId := requested.productId
  name := assignment.product.name
  baseUnitPrice := baseUnitPrice assignment
  unitPrice := unitPriceOf (baseUnitPrice assignment) noteOptions
  quantity := requested.quantity
  isOrderDiscountEligible := assignment.product.isOrderDiscountEligible
  note := if requested.note = [] then none else some requested.note
  noteOptions := noteOptions

def prepareTrustedStaffOrderItem (assignment : StallProduct) (requested : RequestedItem) :
    Except StaffOrderCreateError PreparedItem := do
  failWhen (assignment.productId ≠ requested.productId
    || assignment.product.organizationId ≠ organizationId) .productUnavailable
  failWhen (!requested.bundleChoiceIds.Nodup) .invalidProductNotes
  let bundleNoteOptions ← selectBundle organizationId stallId now assignment.product requested
  let productNoteOptions ← selectNotes assignment.product requested
  return preparedItem assignment requested (bundleNoteOptions ++ productNoteOptions)

/-! ## All lines of a request -/

/-- The product is on sale at the stall. -/
def onSale (row : StallProduct) : Bool :=
  row.organizationId = organizationId && row.stallId = stallId && row.isEnabled
    && row.product.isActive && row.product.categoryIsActive
    && isAvailable now row.availableFrom row.availableUntil

/-- The products among the wanted ones that are on sale. -/
def productsOnSale (catalogue : Table StallProduct) (productIds : List Uuid) :
    List StallProduct :=
  catalogue.rows.filter fun row =>
    row.productId ∈ productIds && onSale organizationId stallId now row

def limitedItem (requested : RequestedItem) : LimitedOrderItem where
  productId := requested.productId
  quantity := requested.quantity
  note := requested.note

/-- The limits of the stall with the lines of a request. -/
def prepareStaffOrderItems (settings : Option OrderItemLimits) (catalogue : Table StallProduct)
    (items : List RequestedItem) (customerNote : Text) :
    Except StaffOrderCreateError (OrderItemLimits × List PreparedItem) := do
  let requestedProductIds := (items.map (·.productId)).dedup
  let assignments := productsOnSale organizationId stallId now catalogue requestedProductIds
  let limits ← orFail settings .productUnavailable
  failWhen (orderItemsExceedLimits (items.map limitedItem) customerNote limits)
    .orderLimitExceeded
  failWhen (assignments.length ≠ requestedProductIds.length) .productUnavailable
  let prepared ← items.mapM fun requested => do
    let assignment ← orFail (assignments.find? fun row => row.productId = requested.productId)
      .productUnavailable
    prepareTrustedStaffOrderItem organizationId stallId now assignment requested
  return (limits, prepared)

/-- The line carries the price that a product on sale has with the selected options. -/
def Priced (catalogue : Table StallProduct) (requested : RequestedItem) (item : PreparedItem) :
    Prop :=
  ∃ row ∈ catalogue, row.productId = requested.productId
    ∧ onSale organizationId stallId now row = true
    ∧ ∃ bundleNoteOptions productNoteOptions,
      selectBundle organizationId stallId now row.product requested = .ok bundleNoteOptions
        ∧ selectNotes row.product requested = .ok productNoteOptions
        ∧ item = preparedItem row requested (bundleNoteOptions ++ productNoteOptions)

variable {organizationId stallId now}

theorem mem_productsOnSale {catalogue : Table StallProduct} {productIds : List Uuid}
    {row : StallProduct} :
    row ∈ productsOnSale organizationId stallId now catalogue productIds
      ↔ row ∈ catalogue ∧ row.productId ∈ productIds
        ∧ onSale organizationId stallId now row = true := by
  rw [productsOnSale, List.mem_filter, Bool.and_eq_true, decide_eq_true_eq]
  rfl

theorem options_of_prepareTrustedStaffOrderItem {row : StallProduct} {requested : RequestedItem}
    {item : PreparedItem}
    (hprepare : prepareTrustedStaffOrderItem organizationId stallId now row requested
      = .ok item) :
    ∃ bundleNoteOptions productNoteOptions,
      selectBundle organizationId stallId now row.product requested = .ok bundleNoteOptions
        ∧ selectNotes row.product requested = .ok productNoteOptions
        ∧ item = preparedItem row requested (bundleNoteOptions ++ productNoteOptions) := by
  obtain ⟨_, -, hprepare⟩ := bind_eq_ok.mp hprepare
  obtain ⟨_, -, hprepare⟩ := bind_eq_ok.mp hprepare
  obtain ⟨bundleNoteOptions, hbundle, hprepare⟩ := bind_eq_ok.mp hprepare
  obtain ⟨productNoteOptions, hnotes, hprepare⟩ := bind_eq_ok.mp hprepare
  cases hprepare
  exact ⟨bundleNoteOptions, productNoteOptions, hbundle, hnotes, rfl⟩

/-- Every line of a request that goes through is priced by the catalogue. -/
theorem priced_of_prepareStaffOrderItems {settings : Option OrderItemLimits}
    {catalogue : Table StallProduct} {items : List RequestedItem} {customerNote : Text}
    {limits : OrderItemLimits} {prepared : List PreparedItem}
    (hprepare : prepareStaffOrderItems organizationId stallId now settings catalogue items
      customerNote = .ok (limits, prepared)) :
    List.Forall₂ (Priced organizationId stallId now catalogue) items prepared := by
  obtain ⟨_, -, hprepare⟩ := bind_eq_ok.mp hprepare
  obtain ⟨_, -, hprepare⟩ := bind_eq_ok.mp hprepare
  obtain ⟨_, -, hprepare⟩ := bind_eq_ok.mp hprepare
  obtain ⟨lines, hlines, hpure⟩ := bind_eq_ok.mp hprepare
  cases hpure
  refine (forall₂_of_mapM_eq_ok hlines).imp fun requested item hitem => ?_
  obtain ⟨row, hrow, hitem⟩ := bind_eq_ok.mp hitem
  rw [orFail_eq_ok] at hrow
  have hproduct := List.find?_some hrow
  obtain ⟨hmem, -, hsale⟩ := mem_productsOnSale.mp (List.mem_of_find?_eq_some hrow)
  exact ⟨row, hmem, of_decide_eq_true hproduct, hsale,
    options_of_prepareTrustedStaffOrderItem hitem⟩

end Pricing

end Stallorder.StaffItems
