import Stallorder.Offline.LocalRun
import Stallorder.Server.Repricing

/-!
# Client pricing and server pricing agree

What the two pricings of a line say about whole orders: the server prices an
accepted order exactly when the device could have priced it, it prices every
order the device creates, and nothing on a priced line can be changed apart
from what the line asks for.
-/

namespace Stallorder.PricingAgreement

open OrderContract Catalog OrderImport Checks Repricing

variable {catalog : MenuCatalog} {now : Timestamp} {itemIds : ℕ → Uuid}

/-! ## Whole orders -/

theorem prepareOfflineOrderItemSnapshots_cons {index : ℕ} {draft : DraftItem}
    {drafts : List DraftItem} {lines : List PricedItem} :
    prepareOfflineOrderItemSnapshots catalog now itemIds index (draft :: drafts) = .ok lines ↔
      ∃ line rest, prepareOfflineOrderItemSnapshot catalog now (itemIds index) draft = .ok line
        ∧ prepareOfflineOrderItemSnapshots catalog now itemIds (index + 1) drafts = .ok rest
        ∧ lines = line :: rest := by
  rw [prepareOfflineOrderItemSnapshots, bind_eq_ok]
  simp only [bind_eq_ok, pure_eq_ok, eq_comm (a := lines)]
  constructor
  · rintro ⟨line, hline, rest, hrest, hlines⟩
    exact ⟨line, rest, hline, hrest, hlines⟩
  · rintro ⟨line, rest, hline, hrest, hlines⟩
    exact ⟨line, hline, rest, hrest, hlines⟩

/-- Items that the device could have priced one by one come from one draft. -/
theorem exists_drafts {Relation : OfflineOrderItem → PricedItem → Prop}
    {items : List OfflineOrderItem}
    (hitems : ∀ item ∈ items, ∀ localItemId, ∃ draft line,
      prepareOfflineOrderItemSnapshot catalog now localItemId draft = .ok line
        ∧ Relation item line) (index : ℕ) :
    ∃ drafts lines, prepareOfflineOrderItemSnapshots catalog now itemIds index drafts = .ok lines
      ∧ List.Forall₂ Relation items lines := by
  induction items generalizing index with
  | nil => exact ⟨[], [], rfl, List.Forall₂.nil⟩
  | cons item items ih =>
      obtain ⟨draft, line, hline, hrelated⟩ := hitems item List.mem_cons_self (itemIds index)
      obtain ⟨drafts, lines, hlines, hrest⟩ :=
        ih (fun other hother => hitems other (List.mem_cons_of_mem _ hother)) (index + 1)
      refine ⟨draft :: drafts, line :: lines, ?_, List.Forall₂.cons hrelated hrest⟩
      exact prepareOfflineOrderItemSnapshots_cons.mpr ⟨line, lines, hline, hlines, rfl⟩

theorem exists_draft_of_mem {Relation : OfflineOrderItem → PricedItem → Prop}
    {items : List OfflineOrderItem} {lines : List PricedItem} {drafts : List DraftItem} {index : ℕ}
    (hprepare : prepareOfflineOrderItemSnapshots catalog now itemIds index drafts = .ok lines)
    (hrelated : List.Forall₂ Relation items lines) :
    ∀ item ∈ items, ∃ localItemId draft line,
      prepareOfflineOrderItemSnapshot catalog now localItemId draft = .ok line
        ∧ Relation item line := by
  induction drafts generalizing index items lines with
  | nil =>
      cases hprepare
      cases hrelated
      simp
  | cons draft drafts ih =>
      obtain ⟨line, rest, hline, hrest, rfl⟩ :=
        prepareOfflineOrderItemSnapshots_cons.mp hprepare
      cases hrelated with
      | cons hfirst hothers =>
          intro item hitem
          rcases List.mem_cons.mp hitem with rfl | hitem
          · exact ⟨itemIds index, draft, line, hline, hfirst⟩
          · exact ih hrest hothers item hitem

/-- An order whose lines, limits, currency and totals are those of the device. -/
structure PricedByDevice (catalog : MenuCatalog) (now : Timestamp) (itemIds : ℕ → Uuid)
    (order : OfflineOrder) : Prop where
  currency : order.currency = catalog.currency
  limits : orderItemsExceedLimits (order.itemsSnapshot.map limitedItem) order.note catalog.limits
    = false
  lines : ∃ drafts lines,
    prepareOfflineOrderItemSnapshots (withoutWindows catalog) now itemIds 0 drafts = .ok lines
      ∧ List.Forall₂ SameLine order.itemsSnapshot lines
  subtotal : order.subtotal = itemsTotal order.itemsSnapshot
  total : order.total = itemsTotal order.itemsSnapshot

theorem isOk_prepareSnapshotItems {order : OfflineOrder} :
    (prepareSnapshotItems order catalog).isOk = true ↔
      order.currency = catalog.currency
        ∧ orderItemsExceedLimits (order.itemsSnapshot.map limitedItem) order.note catalog.limits
          = false
        ∧ (∀ item ∈ order.itemsSnapshot, (prepareSnapshotItem catalog item).isSome = true)
        ∧ itemsTotal order.itemsSnapshot = order.subtotal
        ∧ order.discountAmount = 0
        ∧ order.total = itemsTotal order.itemsSnapshot := by
  rw [← isSome_mapM_iff]
  constructor
  · intro hok
    obtain ⟨items, hprepare⟩ : ∃ items, prepareSnapshotItems order catalog = .ok items := by
      cases hprepare : prepareSnapshotItems order catalog with
      | ok items => exact ⟨items, rfl⟩
      | error error =>
          rw [hprepare] at hok
          cases hok
    obtain ⟨_, hfirst, hprepare⟩ := bind_eq_ok.mp hprepare
    obtain ⟨prepared, hitems, hprepare⟩ := bind_eq_ok.mp hprepare
    obtain ⟨_, htotals, _⟩ := bind_eq_ok.mp hprepare
    simp only [failWhen_eq_ok, Bool.or_eq_false_iff, decide_eq_false_iff_not, not_not]
      at hfirst htotals
    obtain ⟨⟨hsubtotal, hdiscount⟩, htotal⟩ := htotals
    have hsome : (order.itemsSnapshot.mapM (prepareSnapshotItem catalog)).isSome = true := by
      rw [orFail_eq_ok.mp hitems]
      rfl
    exact ⟨hfirst.1, hfirst.2, hsome, hsubtotal, hdiscount, htotal⟩
  · rintro ⟨hcurrency, hlimits, hsome, hsubtotal, hdiscount, htotal⟩
    obtain ⟨prepared, hitems⟩ := Option.isSome_iff_exists.mp hsome
    have hfirst : (decide (order.currency ≠ catalog.currency)
        || orderItemsExceedLimits (order.itemsSnapshot.map limitedItem) order.note
          catalog.limits) = false := by
      simp [hcurrency, hlimits]
    have htotals : (decide (itemsTotal order.itemsSnapshot ≠ order.subtotal)
        || decide (order.discountAmount ≠ 0)
        || decide (order.total ≠ itemsTotal order.itemsSnapshot)) = false := by
      simp [hsubtotal, hdiscount, htotal]
    unfold prepareSnapshotItems
    rw [hfirst, hitems, htotals]
    rfl

/-- What the schema promises about an order that has passed it. -/
theorem accepted_of_parse {order : OfflineOrder}
    (hparse : offlineOrderSchema.parse order = some order) :
    order.subtotal = itemsTotal order.itemsSnapshot ∧ order.discountAmount = 0
      ∧ order.total = order.subtotal - order.discountAmount
      ∧ ∀ item ∈ order.itemsSnapshot, 1 ≤ item.quantity ∧ item.note.trim = item.note := by
  obtain ⟨haccepts, hnormalize⟩ := offlineOrderSchema.parse_eq_some_iff.mp hparse
  have hitems : order.itemsSnapshot.map offlineOrderItemSchema.normalize
      = order.itemsSnapshot := congrArg (·.itemsSnapshot) hnormalize
  simp only [offlineOrderSchema, Bool.and_eq_true, decide_eq_true_eq, List.all_eq_true]
    at haccepts
  refine ⟨by tauto, by tauto, by tauto, ?_⟩
  intro item hitem
  have hall : ∀ item ∈ order.itemsSnapshot, offlineOrderItemSchema.accepts item = true := by
    tauto
  constructor
  · have hitemAccepts := hall item hitem
    simp only [offlineOrderItemSchema, Bool.and_eq_true, decide_eq_true_eq] at hitemAccepts
    tauto
  · rw [← hitems] at hitem
    obtain ⟨raw, -, rfl⟩ := List.mem_map.mp hitem
    exact Text.trim_trim raw.note

theorem prepareSnapshotItems_iff_pricedByDevice
    (hcatalog : WellLabelled catalog) {order : OfflineOrder}
    (hparse : offlineOrderSchema.parse order = some order) (now : Timestamp)
    (itemIds : ℕ → Uuid) :
    (prepareSnapshotItems order catalog).isOk = true ↔
      PricedByDevice catalog now itemIds order := by
  obtain ⟨hsubtotal, hdiscount, htotal, hitems⟩ := accepted_of_parse hparse
  have hline : ∀ item ∈ order.itemsSnapshot, ∀ localItemId,
      (prepareSnapshotItem catalog item).isSome = true ↔
        ∃ draft line, prepareOfflineOrderItemSnapshot (withoutWindows catalog) now localItemId
            draft = .ok line
          ∧ SameLine item line := by
    intro item hitem localItemId
    obtain ⟨hquantity, hnote⟩ := hitems item hitem
    exact prepareSnapshotItem_isSome_iff hcatalog hquantity hnote now localItemId
  rw [isOk_prepareSnapshotItems]
  constructor
  · rintro ⟨hcurrency, hlimits, hlines, -, -, hsum⟩
    refine ⟨hcurrency, hlimits, ?_, hsubtotal, hsum⟩
    apply exists_drafts
    intro item hitem localItemId
    exact (hline item hitem localItemId).mp (hlines item hitem)
  · intro hpriced
    obtain ⟨drafts, lines, hprepare, hsame⟩ := hpriced.lines
    refine ⟨hpriced.currency, hpriced.limits, ?_, hsubtotal.symm, hdiscount, hpriced.total⟩
    intro item hitem
    obtain ⟨localItemId, hdraft⟩ := exists_draft_of_mem hprepare hsame item hitem
    exact (hline item hitem localItemId).mpr hdraft

/-! ## Orders the device creates -/

/-- The windows of a catalog only ever stop a pricing. -/
theorem priced_withoutWindows {localItemId : Uuid}
    {draft : DraftItem} {line : PricedItem}
    (hprepare : prepareOfflineOrderItemSnapshot catalog now localItemId draft = .ok line) :
    prepareOfflineOrderItemSnapshot (withoutWindows catalog) now localItemId draft
      = .ok line := by
  obtain ⟨product, hpriced⟩ := prepareOfflineOrderItemSnapshot_eq_ok.mp hprepare
  apply prepareOfflineOrderItemSnapshot_eq_ok.mpr
  have havailable := hpriced.available
  simp only [productAvailable, Bool.and_eq_true] at havailable
  obtain ⟨⟨⟨hactive, henabled⟩, -⟩, -⟩ := havailable
  refine ⟨alwaysAvailable product, ?_, ?_, hpriced.quantity, hpriced.note, hpriced.selection,
    hpriced.line⟩
  · rw [productById_withoutWindows, hpriced.found]
    rfl
  · simp [productAvailable, alwaysAvailable, hactive, henabled]

theorem all_priced_withoutWindows
    {itemIds : ℕ → Uuid} {index : ℕ} {drafts : List DraftItem} {lines : List PricedItem}
    (hprepare : prepareOfflineOrderItemSnapshots catalog now itemIds index drafts = .ok lines) :
    prepareOfflineOrderItemSnapshots (withoutWindows catalog) now itemIds index drafts
      = .ok lines := by
  induction drafts generalizing index lines with
  | nil => exact hprepare
  | cons draft drafts ih =>
      obtain ⟨line, rest, hline, hrest, rfl⟩ :=
        prepareOfflineOrderItemSnapshots_cons.mp hprepare
      exact prepareOfflineOrderItemSnapshots_cons.mpr
        ⟨line, rest, priced_withoutWindows hline, ih hrest, rfl⟩

/-- The options a selection yields keep their labels when the schema trims them. -/
theorem normalize_selectFromGroups {selected : List Uuid} {groups : List NoteGroup}
    {groupIndex : ℕ} {options : List OfflineOrderNoteOption}
    (hgroups : ∀ group ∈ groups, group.name.trim = group.name)
    (hoptions : ∀ group ∈ groups, ∀ option ∈ group.options, option.name.trim = option.name)
    (hselect : selectFromGroups selected groupIndex groups = some options) :
    options.map offlineOrderNoteOptionSchema.normalize = options := by
  induction groups generalizing groupIndex options with
  | nil =>
      cases hselect
      rfl
  | cons group groups ih =>
      obtain ⟨first, rest, hfirst, hrest, rfl⟩ := selectFromGroups_cons.mp hselect
      have htail := ih (fun other hother => hgroups other (List.mem_cons_of_mem _ hother))
        (fun other hother => hoptions other (List.mem_cons_of_mem _ hother)) hrest
      have hhead : first.map offlineOrderNoteOptionSchema.normalize = first := by
        unfold selectFromGroup at hfirst
        split at hfirst
        · cases hfirst
          rfl
        · simp only at hfirst
          split at hfirst
          · cases hfirst
          · cases hfirst
            rw [List.map_map]
            apply List.map_congr_left
            intro option hoption
            have hmem := (List.mem_filter.mp hoption).1
            simp [offlineOrderNoteOptionSchema, hgroups group List.mem_cons_self,
              hoptions group List.mem_cons_self option hmem]
      rw [List.map_append, hhead, htail]

/-- Passing the schema of an item leaves the line the device priced. -/
theorem sameLine_normalize (hcatalog : WellLabelled catalog)
    {now : Timestamp} {localItemId : Uuid} {draft : DraftItem} {line : OfflineOrderItem}
    (hprepare : prepareOfflineOrderItemSnapshot catalog now localItemId draft
      = .ok (.ofWhole line)) :
    SameLine (offlineOrderItemSchema.normalize line) (.ofWhole line) := by
  obtain ⟨product, hpriced⟩ := prepareOfflineOrderItemSnapshot_eq_ok.mp hprepare
  have hmem := (mem_of_productById hpriced.found).1
  have hselect := (getSelectedNoteOptions_eq_some.mp hpriced.selection).2.2
  have hname : line.name.trim = line.name := by
    have hlabel : line.name = product.name := congrArg PricedItem.name hpriced.line
    rw [hlabel]
    exact hcatalog.productName product hmem
  have hoptions := normalize_selectFromGroups (hcatalog.groupName product hmem)
    (hcatalog.optionName product hmem) hselect
  exact ⟨rfl, hname, rfl, rfl, rfl, rfl, List.Perm.of_eq hoptions⟩

/-- Shorter notes on the same products and quantities stay within the limits. -/
structure Shortened (item longer : LimitedOrderItem) : Prop where
  productId : item.productId = longer.productId
  quantity : item.quantity = longer.quantity
  note : item.note.length16 ≤ longer.note.length16

section Limits

variable {items longer : List LimitedOrderItem}

theorem map_productId_of_shortened (hshort : List.Forall₂ Shortened items longer) :
    items.map (·.productId) = longer.map (·.productId) := by
  induction hshort with
  | nil => rfl
  | cons hitem _ ih => simp [hitem.productId, ih]

theorem map_quantity_of_shortened (hshort : List.Forall₂ Shortened items longer) :
    items.map (·.quantity) = longer.map (·.quantity) := by
  induction hshort with
  | nil => rfl
  | cons hitem _ ih => simp [hitem.quantity, ih]

theorem quantityOfProduct_of_shortened (hshort : List.Forall₂ Shortened items longer)
    (productId : Uuid) : quantityOfProduct items productId = quantityOfProduct longer productId := by
  have hquantities : ((items.filter fun item => item.productId = productId).map (·.quantity))
      = (longer.filter fun item => item.productId = productId).map (·.quantity) := by
    induction hshort with
    | nil => rfl
    | @cons item other items longer hitem _ ih =>
        by_cases hproduct : other.productId = productId
        · simp [hitem.productId, hitem.quantity, hproduct, ih]
        · simp [hitem.productId, hproduct, ih]
  rw [quantityOfProduct, hquantities, quantityOfProduct]

theorem note_within_of_shortened {limit : ℕ} (hshort : List.Forall₂ Shortened items longer)
    (hlonger : (longer.any fun item => limit < item.note.length16) = false) :
    (items.any fun item => limit < item.note.length16) = false := by
  induction hshort with
  | nil => rfl
  | cons hitem _ ih =>
      simp only [List.any_cons, Bool.or_eq_false_iff, decide_eq_false_iff_not, not_lt]
        at hlonger ⊢
      exact ⟨hitem.note.trans hlonger.1, ih hlonger.2⟩

theorem orderItemsExceedLimits_of_shortened {note longerNote : Text} {limits : OrderItemLimits}
    (hshort : List.Forall₂ Shortened items longer) (hnote : note.length16 ≤ longerNote.length16)
    (hlonger : orderItemsExceedLimits longer longerNote limits = false) :
    orderItemsExceedLimits items note limits = false := by
  have hquantities : quantityOfProduct items = quantityOfProduct longer :=
    funext (quantityOfProduct_of_shortened hshort)
  simp only [orderItemsExceedLimits, Bool.or_eq_false_iff] at hlonger ⊢
  obtain ⟨⟨⟨⟨hunique, htotal⟩, hproducts⟩, hnotes⟩, horder⟩ := hlonger
  rw [map_productId_of_shortened hshort, map_quantity_of_shortened hshort, hquantities]
  refine ⟨⟨⟨⟨hunique, htotal⟩, hproducts⟩, note_within_of_shortened hshort hnotes⟩, ?_⟩
  simp only [decide_eq_false_iff_not, not_lt] at horder ⊢
  exact hnote.trans horder

end Limits

/-- What an admitted draft went through. -/
structure Admitted (db : LocalDatabase.LocalDb) (draft : Operations.CreateOfflineOrderDraft)
    (ids : Operations.CreationIds) (now : Timestamp) (admission : Operations.Admission) :
    Prop where
  bootstrap : Operations.readBootstrap db draft.organizationId draft.stallId now
    = .ok admission.bootstrap
  limits : orderItemsExceedLimits (draft.items.map Operations.limitedItem) draft.note
    admission.bootstrap.menu.catalog.limits = false
  items : prepareOfflineOrderItemSnapshots admission.bootstrap.menu.catalog now ids.itemId 0
    draft.items = .ok admission.items

theorem admitted_of_admitOfflineOrder {db : LocalDatabase.LocalDb}
    {draft : Operations.CreateOfflineOrderDraft} {ids : Operations.CreationIds}
    {now : Timestamp} {admission : Operations.Admission}
    (hadmission : Operations.admitOfflineOrder db draft ids now = .ok admission) :
    Admitted db draft ids now admission := by
  obtain ⟨bootstrap, hbootstrap, hadmission⟩ := bind_eq_ok.mp hadmission
  obtain ⟨_, _, hadmission⟩ := bind_eq_ok.mp hadmission
  obtain ⟨_, hlimits, hadmission⟩ := bind_eq_ok.mp hadmission
  obtain ⟨items, hitems, hadmission⟩ := bind_eq_ok.mp hadmission
  obtain ⟨_, _, hadmission⟩ := bind_eq_ok.mp hadmission
  obtain ⟨_, _, hreturn⟩ := bind_eq_ok.mp hadmission
  cases hreturn
  simp only [failWhen_eq_ok, Bool.or_eq_false_iff] at hlimits
  exact ⟨hbootstrap, hlimits.2, mapError_eq_ok.mp hitems⟩

/-- The first priced line comes from the first draft. -/
theorem exists_draft_of_cons
    {index : ℕ} {drafts : List DraftItem} {line : PricedItem} {lines : List PricedItem}
    (hprepare : prepareOfflineOrderItemSnapshots catalog now itemIds index drafts
      = .ok (line :: lines)) :
    ∃ draft rest, drafts = draft :: rest
      ∧ prepareOfflineOrderItemSnapshot catalog now (itemIds index) draft = .ok line
      ∧ prepareOfflineOrderItemSnapshots catalog now itemIds (index + 1) rest = .ok lines := by
  cases drafts with
  | nil => cases hprepare
  | cons draft rest =>
      obtain ⟨_, _, hline, hrest, hlines⟩ := prepareOfflineOrderItemSnapshots_cons.mp hprepare
      cases hlines
      exact ⟨draft, rest, rfl, hline, hrest⟩

theorem sameLine_normalize_all (hcatalog : WellLabelled catalog)
    {now : Timestamp} {itemIds : ℕ → Uuid} {index : ℕ} {drafts : List DraftItem}
    {lines : List OfflineOrderItem}
    (hprepare : prepareOfflineOrderItemSnapshots catalog now itemIds index drafts
      = .ok (lines.map .ofWhole)) :
    List.Forall₂ SameLine (lines.map offlineOrderItemSchema.normalize) (lines.map .ofWhole) := by
  induction lines generalizing index drafts with
  | nil => exact List.Forall₂.nil
  | cons line lines ih =>
      obtain ⟨draft, rest, rfl, hline, hrest⟩ := exists_draft_of_cons hprepare
      exact List.Forall₂.cons (sameLine_normalize hcatalog hline) (ih hrest)

theorem shortened_of_prepare {index : ℕ} {drafts : List DraftItem} {lines : List OfflineOrderItem}
    (hprepare : prepareOfflineOrderItemSnapshots catalog now itemIds index drafts
      = .ok (lines.map .ofWhole)) :
    List.Forall₂ Shortened
      ((lines.map offlineOrderItemSchema.normalize).map limitedItem)
      (drafts.map Operations.limitedItem) := by
  induction lines generalizing index drafts with
  | nil =>
      cases drafts with
      | nil => exact List.Forall₂.nil
      | cons draft rest =>
          obtain ⟨_, _, -, -, hlines⟩ := prepareOfflineOrderItemSnapshots_cons.mp hprepare
          cases hlines
  | cons line lines ih =>
      obtain ⟨draft, rest, rfl, hline, hrest⟩ := exists_draft_of_cons hprepare
      obtain ⟨product, hpriced⟩ := prepareOfflineOrderItemSnapshot_eq_ok.mp hline
      have hid : product.id = draft.productId := (mem_of_productById hpriced.found).2
      have hproduct : line.productId = product.id := congrArg PricedItem.productId hpriced.line
      have hquantity : (line.quantity : ℚ) = draft.quantity :=
        congrArg PricedItem.quantity hpriced.line
      have hnote : line.note = draft.note := congrArg PricedItem.note hpriced.line
      have hshort : line.note.trim.length16 ≤ draft.note.length16 := by
        rw [hnote]
        exact length16_trim_le draft.note
      exact List.Forall₂.cons ⟨hproduct.trans hid, hquantity, hshort⟩ (ih hrest)

/-- The server prices every order the device creates from its catalog. -/
theorem isOk_of_createOfflineOrder (hcatalog : WellLabelled catalog)
    {localBusinessDate : Timestamp → Text → Option Text} {db db' : LocalDatabase.LocalDb}
    {draft : Operations.CreateOfflineOrderDraft} {ids : Operations.CreationIds}
    {now : Timestamp} {bootstrap : Operations.Bootstrap}
    {created : Operations.CreatedOfflineOrder}
    (hbootstrap : Operations.readBootstrap db draft.organizationId draft.stallId now
      = .ok bootstrap)
    (hmenu : bootstrap.menu.catalog = catalog)
    (hcurrency : bootstrap.menu.currency = catalog.currency)
    (hcreate : Operations.createOfflineOrder localBusinessDate db draft ids now
      = (db', .ok created)) :
    (prepareSnapshotItems created.order catalog).isOk = true := by
  rcases Operations.createOfflineOrder_cases hcreate with
    ⟨error, shift, houtcome, -⟩ | ⟨admission, decision, parts, order, houtcome, hadmission, -, hassembled, -⟩
  · cases houtcome
  · cases houtcome
    have hadmitted := admitted_of_admitOfflineOrder hadmission
    have hsame : admission.bootstrap = bootstrap :=
      Except.ok.inj (hadmitted.bootstrap.symm.trans hbootstrap)
    have hlimits := hadmitted.limits
    have hitems := hadmitted.items
    have horder := hassembled.order_eq
    rw [hsame, hmenu] at hlimits hitems
    rw [hassembled.items_eq] at hitems
    have hparse := offlineOrderSchema.parse_parsed hassembled.order
    obtain ⟨hsubtotal, hdiscount, htotal, -⟩ := accepted_of_parse hparse
    have hsnapshot : created.order.itemsSnapshot
        = parts.items.map offlineOrderItemSchema.normalize := by
      rw [horder]
      rfl
    apply (prepareSnapshotItems_iff_pricedByDevice hcatalog hparse now ids.itemId).mpr
    constructor
    case currency =>
      rw [horder, ← hcurrency, ← hsame]
      rfl
    case limits =>
      rw [hsnapshot]
      apply orderItemsExceedLimits_of_shortened (shortened_of_prepare hitems) _ hlimits
      rw [horder]
      exact (length16_trim_le _).trans (length16_trim_le draft.note)
    case lines =>
      refine ⟨draft.items, _, all_priced_withoutWindows hitems, ?_⟩
      rw [hsnapshot]
      exact sameLine_normalize_all hcatalog hitems
    case subtotal => exact hsubtotal
    case total => rw [htotal, hdiscount, sub_zero, hsubtotal]

/-! ## Tampering -/

/-- Two lines ask for the same options of the same product, however they list
them. -/
structure SameSelection (item other : OfflineOrderItem) : Prop where
  productId : item.productId = other.productId
  quantity : item.quantity = other.quantity
  noteOptions : (noteOptionIds item.noteOptions).Perm (noteOptionIds other.noteOptions)

structure SamePricing (item other : OfflineOrderItem) : Prop where
  name : item.name = other.name
  baseUnitPrice : item.baseUnitPrice = other.baseUnitPrice
  unitPrice : item.unitPrice = other.unitPrice
  noteOptions : item.noteOptions.Perm other.noteOptions

/-- A selection leaves nothing else on the line to choose. -/
theorem samePricing_of_repriced (hcatalog : WellLabelled catalog)
    {item other : OfflineOrderItem} (hsame : SameSelection item other)
    (hitem : (prepareSnapshotItem catalog item).isSome = true)
    (hother : (prepareSnapshotItem catalog other).isSome = true) : SamePricing item other := by
  obtain ⟨_, hprepared⟩ := Option.isSome_iff_exists.mp hitem
  obtain ⟨_, hotherPrepared⟩ := Option.isSome_iff_exists.mp hother
  obtain ⟨product, expected, hline, -⟩ := prepareSnapshotItem_eq_some.mp hprepared
  obtain ⟨product', expected', hline', -⟩ := prepareSnapshotItem_eq_some.mp hotherPrepared
  have hproduct : product = product' := by
    have hfound := hline.found
    rw [hsame.productId, hline'.found] at hfound
    exact (Option.some.inj hfound).symm
  subst hproduct
  have hselect : selectFromGroups (noteOptionIds item.noteOptions) 0 product.noteGroups
      = selectFromGroups (noteOptionIds other.noteOptions) 0 product.noteGroups := by
    apply selectFromGroups_congr
    intro group _ _ option _ _
    exact hsame.noteOptions.mem_iff
  have hexpected : expected = expected' := by
    rw [hline.selection, hline'.selection] at hselect
    exact Option.some.inj hselect
  subst hexpected
  obtain ⟨-, -, -, -, hname, hprice⟩ := itemMatchesProduct_eq_true.mp hline.facts
  obtain ⟨-, -, -, -, hname', hprice'⟩ := itemMatchesProduct_eq_true.mp hline'.facts
  exact ⟨hname.trans hname'.symm, hprice.trans hprice'.symm,
    hline.unitPrice.trans hline'.unitPrice.symm,
    (hline.perm hcatalog).trans (hline'.perm hcatalog).symm⟩

theorem itemsTotal_of_samePricing {items others : List OfflineOrderItem}
    (hselection : List.Forall₂ SameSelection items others)
    (hpricing : List.Forall₂ SamePricing items others) : itemsTotal items = itemsTotal others := by
  induction hselection with
  | nil => rfl
  | cons hsame _ ih =>
      cases hpricing with
      | cons hprices hrest =>
          have htail := ih hrest
          simp only [itemsTotal, List.map_cons, List.sum_cons] at htail ⊢
          rw [hprices.unitPrice, hsame.quantity, htail]

theorem samePricing_all (hcatalog : WellLabelled catalog)
    {items others : List OfflineOrderItem} (hsame : List.Forall₂ SameSelection items others)
    (hitems : ∀ item ∈ items, (prepareSnapshotItem catalog item).isSome = true)
    (hothers : ∀ other ∈ others, (prepareSnapshotItem catalog other).isSome = true) :
    List.Forall₂ SamePricing items others := by
  induction hsame with
  | nil => exact List.Forall₂.nil
  | cons hfirst _ ih =>
      rw [List.forall_mem_cons] at hitems hothers
      exact List.Forall₂.cons (samePricing_of_repriced hcatalog hfirst hitems.1 hothers.1)
        (ih hitems.2 hothers.2)

/-- Two orders that ask for the same and are both priced carry the same prices,
names, option data and totals. -/
structure SameAmounts (order changed : OfflineOrder) : Prop where
  lines : List.Forall₂ SamePricing order.itemsSnapshot changed.itemsSnapshot
  currency : order.currency = changed.currency
  subtotal : order.subtotal = changed.subtotal
  discountAmount : order.discountAmount = changed.discountAmount
  total : order.total = changed.total

theorem sameAmounts_of_repriced (hcatalog : WellLabelled catalog)
    {order changed : OfflineOrder}
    (hsame : List.Forall₂ SameSelection order.itemsSnapshot changed.itemsSnapshot)
    (horder : (prepareSnapshotItems order catalog).isOk = true)
    (hchanged : (prepareSnapshotItems changed catalog).isOk = true) :
    SameAmounts order changed := by
  obtain ⟨hcurrency, -, hitems, hsubtotal, hdiscount, htotal⟩ :=
    isOk_prepareSnapshotItems.mp horder
  obtain ⟨hcurrency', -, hitems', hsubtotal', hdiscount', htotal'⟩ :=
    isOk_prepareSnapshotItems.mp hchanged
  have hlines := samePricing_all hcatalog hsame hitems hitems'
  have hsum := itemsTotal_of_samePricing hsame hlines
  exact ⟨hlines, hcurrency.trans hcurrency'.symm,
    hsubtotal.symm.trans (hsum.trans hsubtotal'),
    hdiscount.trans hdiscount'.symm, htotal.trans (hsum.trans htotal'.symm)⟩

/-- Client pricing and server pricing agree: the server prices an accepted order
exactly when the device could have, it prices every order the device creates,
and what a line asks for fixes its prices, names and option data. -/
theorem repricing_agrees {catalog : MenuCatalog} (hcatalog : WellLabelled catalog) :
    (∀ (order : OfflineOrder) (now : Timestamp) (itemIds : ℕ → Uuid),
      offlineOrderSchema.parse order = some order →
        ((prepareSnapshotItems order catalog).isOk = true ↔
          PricedByDevice catalog now itemIds order))
      ∧ (∀ (localBusinessDate : Timestamp → Text → Option Text)
          (db db' : LocalDatabase.LocalDb) (draft : Operations.CreateOfflineOrderDraft)
          (ids : Operations.CreationIds) (now : Timestamp) (bootstrap : Operations.Bootstrap)
          (created : Operations.CreatedOfflineOrder),
        Operations.readBootstrap db draft.organizationId draft.stallId now = .ok bootstrap →
        bootstrap.menu.catalog = catalog → bootstrap.menu.currency = catalog.currency →
        Operations.createOfflineOrder localBusinessDate db draft ids now = (db', .ok created) →
          (prepareSnapshotItems created.order catalog).isOk = true)
      ∧ (∀ order changed : OfflineOrder,
        List.Forall₂ SameSelection order.itemsSnapshot changed.itemsSnapshot →
        (prepareSnapshotItems order catalog).isOk = true →
        (prepareSnapshotItems changed catalog).isOk = true → SameAmounts order changed) := by
  refine ⟨?_, ?_, ?_⟩
  · intro order now itemIds hparse
    exact prepareSnapshotItems_iff_pricedByDevice hcatalog hparse now itemIds
  · intro localBusinessDate db db' draft ids now bootstrap created hbootstrap hmenu hcurrency
      hcreate
    exact isOk_of_createOfflineOrder hcatalog hbootstrap hmenu hcurrency hcreate
  · intro order changed hsame horder hchanged
    exact sameAmounts_of_repriced hcatalog hsame horder hchanged

/-! ## A menu with three options -/

/-- A drink with two free options and one that costs ten. -/
def sampleMenu : MenuCatalog :=
  { LocalRun.sampleCatalog with
    products := [{
      id := 10
      name := ['T', 'e', 'a']
      price := 60
      isActive := true
      isEnabled := true
      availableFrom := none
      availableUntil := none
      noteGroups := [{
        id := 20
        name := ['S', 'i', 'z', 'e']
        selectionMode := .multiple
        isRequired := false
        minSelections := 0
        maxSelections := none
        sortOrder := 0
        isActive := true
        options := [
          { id := 21, name := ['I', 'c', 'e'], priceDelta := 0, sortOrder := 0, isActive := true },
          { id := 22, name := ['B', 'i', 'g'], priceDelta := 10, sortOrder := 1, isActive := true },
          { id := 23, name := ['H', 'o', 't'], priceDelta := 0, sortOrder := 2,
            isActive := true }] }] }] }

def sampleOption (id : Uuid) (name : Text) (priceDelta sortOrder : ℤ) :
    OfflineOrderNoteOption where
  noteGroupId := 20
  noteOptionId := id
  groupName := ['S', 'i', 'z', 'e']
  optionName := name
  priceDelta := priceDelta
  sortOrder := sortOrder

def iceOption : OfflineOrderNoteOption := sampleOption 21 ['I', 'c', 'e'] 0 0

def bigOption : OfflineOrderNoteOption := sampleOption 22 ['B', 'i', 'g'] 10 1

def hotOption : OfflineOrderNoteOption := sampleOption 23 ['H', 'o', 't'] 0 2

def sampleOrder (options : List OfflineOrderNoteOption) : OfflineOrder :=
  { LocalRun.sampleRecord.order with
    itemsSnapshot := [{
      localItemId := 110
      productId := 10
      name := ['T', 'e', 'a']
      baseUnitPrice := 60
      unitPrice := 70
      quantity := 1
      note := []
      noteOptions := options }]
    subtotal := 70
    total := 70 }

theorem wellLabelled_sampleMenu : WellLabelled sampleMenu := by
  constructor <;> decide +kernel

/-- A device that has stored the menu. -/
def sampleDevice : LocalDatabase.LocalDb :=
  Run.exec (LocalRun.step LocalRun.sampleBusinessDate) .empty
    [.bootstrap 6 { LocalRun.sampleBootstrap 7 0 with catalog := sampleMenu }]

def sampleDraft : Operations.CreateOfflineOrderDraft :=
  { LocalRun.sampleDraft 200 with
    items := [{ productId := 10, quantity := 1, note := [], noteOptionIds := [22, 21] }] }

def sampleCreation : LocalDatabase.LocalDb × Except Operations.LocalError
    Operations.CreatedOfflineOrder :=
  Operations.createOfflineOrder LocalRun.sampleBusinessDate sampleDevice sampleDraft
    (LocalRun.sampleIds 100) LocalRun.minuteMs

/-- The server prices the order of the sample draft, and a line with its options
the other way round carries the same amounts. -/
theorem sample_repricing_agrees :
    PricedByDevice sampleMenu 0 (fun index => index) (sampleOrder [bigOption, iceOption])
      ∧ sampleCreation.2.toOption.any
          (fun created => (prepareSnapshotItems created.order sampleMenu).isOk) = true
      ∧ SameAmounts (sampleOrder [iceOption, bigOption])
        (sampleOrder [bigOption, iceOption]) := by
  obtain ⟨hprices, hcreates, hfixes⟩ := repricing_agrees wellLabelled_sampleMenu
  refine ⟨?_, ?_, ?_⟩
  · exact (hprices _ 0 (fun index => index) (by decide +kernel)).mp (by decide +kernel)
  · have hread : ((Operations.readBootstrap sampleDevice 1 2 LocalRun.minuteMs).toOption.map
        fun bootstrap => (bootstrap.menu.catalog, bootstrap.menu.currency))
          = some (sampleMenu, sampleMenu.currency) := by
      decide +kernel
    have hcreated : sampleCreation.2.isOk = true := by decide +kernel
    obtain ⟨bootstrap, hbootstrap, hmenu⟩ := Option.map_eq_some_iff.mp hread
    cases hoption : Operations.readBootstrap sampleDevice 1 2 LocalRun.minuteMs with
    | error error =>
        rw [hoption] at hbootstrap
        cases hbootstrap
    | ok found =>
        rw [hoption] at hbootstrap
        cases hbootstrap
        cases hcreate : sampleCreation with
        | mk stored outcome =>
            cases outcome with
            | error error =>
                rw [hcreate] at hcreated
                cases hcreated
            | ok created =>
                exact hcreates _ _ _ _ _ _ _ _ hoption (congrArg Prod.fst hmenu)
                  (congrArg Prod.snd hmenu) hcreate
  · apply hfixes
    · refine List.Forall₂.cons ⟨rfl, rfl, ?_⟩ List.Forall₂.nil
      decide +kernel
    · decide +kernel
    · decide +kernel

/-- The server prices a line whose options no device lists in that order, and it
prices the line with another free option in place of the first. -/
theorem swapped_options_repriced :
    WellLabelled sampleMenu
      ∧ offlineOrderSchema.parse (sampleOrder [bigOption, iceOption])
        = some (sampleOrder [bigOption, iceOption])
      ∧ (prepareSnapshotItems (sampleOrder [bigOption, iceOption]) sampleMenu).isOk = true
      ∧ (∀ now localItemId draft line,
          prepareOfflineOrderItemSnapshot sampleMenu now localItemId draft = .ok line →
            ∀ item ∈ (sampleOrder [bigOption, iceOption]).itemsSnapshot,
              item.noteOptions ≠ line.noteOptions)
      ∧ (prepareSnapshotItems (sampleOrder [iceOption, bigOption]) sampleMenu).isOk = true
      ∧ (prepareSnapshotItems (sampleOrder [hotOption, bigOption]) sampleMenu).isOk = true := by
  refine ⟨wellLabelled_sampleMenu, by decide +kernel, by decide +kernel, ?_, by decide +kernel,
    by decide +kernel⟩
  intro now localItemId draft line hprepare item hitem hsame
  obtain ⟨product, hpriced⟩ := prepareOfflineOrderItemSnapshot_eq_ok.mp hprepare
  have hproducts := (mem_of_productById hpriced.found).1
  have hselection := (getSelectedNoteOptions_eq_some.mp hpriced.selection).2.2
  have hids := (noteOptionIds_of_selectFromGroups hselection) ▸
    chosenIds_sublist draft.noteOptionIds product.noteGroups
  rw [← hsame] at hids
  simp only [sampleMenu, List.mem_singleton] at hproducts
  simp only [sampleOrder, List.mem_singleton] at hitem
  subst hproducts hitem
  revert hids
  decide

end Stallorder.PricingAgreement
