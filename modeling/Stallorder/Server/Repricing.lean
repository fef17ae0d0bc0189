import Stallorder.Server.OrderImport

/-!
# Pricing a line twice

The device prices the items a cashier selects and the server prices the
uploaded items again from the same catalog.  The device walks the note groups
with a list of selected identifiers and writes the options down in the order of
the catalog; the server walks them with the set of identifiers on the line and
looks each expected option up there.  The server therefore reads a line without
regard to the order of its options, and it ignores the availability windows
that the device observes.  Up to these two the pricings of a line agree.
-/

namespace Stallorder.Repricing

open OrderContract Catalog OrderImport

/-! ## The identifiers a selection picks -/

def noteOptionIds (options : List OfflineOrderNoteOption) : List Uuid :=
  options.map (·.noteOptionId)

/-- All option identifiers of a product's groups. -/
def groupOptionIds (groups : List NoteGroup) : List Uuid :=
  groups.flatMap fun group => group.options.map (·.id)

def chosenIdsOfGroup (selected : List Uuid) (group : NoteGroup) : List Uuid :=
  if group.isActive then
    (group.options.filter fun option => option.isActive && option.id ∈ selected).map (·.id)
  else []

/-- The active options of active groups that are among the selected ones. -/
def chosenIds (selected : List Uuid) (groups : List NoteGroup) : List Uuid :=
  groups.flatMap (chosenIdsOfGroup selected)

section Selection

variable {selected : List Uuid} {groups : List NoteGroup}

theorem mem_chosenIdsOfGroup {group : NoteGroup} {id : Uuid} :
    id ∈ chosenIdsOfGroup selected group ↔
      group.isActive = true ∧
        ∃ option ∈ group.options, option.isActive = true ∧ option.id ∈ selected
          ∧ option.id = id := by
  unfold chosenIdsOfGroup
  by_cases hactive : group.isActive = true
  · simp [hactive, and_assoc]
  · simp [hactive]

theorem mem_chosenIds {id : Uuid} :
    id ∈ chosenIds selected groups ↔
      ∃ group ∈ groups, group.isActive = true ∧
        ∃ option ∈ group.options, option.isActive = true ∧ option.id ∈ selected
          ∧ option.id = id := by
  simp only [chosenIds, List.mem_flatMap, mem_chosenIdsOfGroup]

theorem chosenIdsOfGroup_sublist (selected : List Uuid) (group : NoteGroup) :
    (chosenIdsOfGroup selected group).Sublist (group.options.map (·.id)) := by
  unfold chosenIdsOfGroup
  by_cases hactive : group.isActive = true
  · rw [if_pos hactive]
    exact List.filter_sublist.map _
  · rw [if_neg hactive]
    exact List.nil_sublist _

theorem chosenIds_sublist (selected : List Uuid) (groups : List NoteGroup) :
    (chosenIds selected groups).Sublist (groupOptionIds groups) := by
  induction groups with
  | nil => exact List.Sublist.refl _
  | cons group groups ih =>
      simp only [chosenIds, groupOptionIds, List.flatMap_cons]
      exact (chosenIdsOfGroup_sublist selected group).append ih

theorem noteOptionIds_of_selectFromGroup {groupIndex : ℕ} {group : NoteGroup}
    {options : List OfflineOrderNoteOption}
    (hselect : selectFromGroup selected groupIndex group = some options) :
    noteOptionIds options = chosenIdsOfGroup selected group := by
  unfold selectFromGroup at hselect
  unfold chosenIdsOfGroup
  by_cases hactive : group.isActive = true
  · simp only [hactive, Bool.not_true, Bool.false_eq_true, if_false] at hselect
    rw [if_pos hactive]
    split at hselect
    · cases hselect
    · cases hselect
      simp [noteOptionIds, Function.comp_def]
  · simp only [hactive, Bool.not_false, if_true] at hselect
    cases hselect
    rw [if_neg hactive]
    rfl

theorem selectFromGroups_cons {groupIndex : ℕ} {group : NoteGroup}
    {result : List OfflineOrderNoteOption} :
    selectFromGroups selected groupIndex (group :: groups) = some result ↔
      ∃ options rest, selectFromGroup selected groupIndex group = some options
        ∧ selectFromGroups selected (groupIndex + 1) groups = some rest
        ∧ result = options ++ rest := by
  rw [selectFromGroups]
  cases selectFromGroup selected groupIndex group with
  | none => simp
  | some options =>
      cases selectFromGroups selected (groupIndex + 1) groups with
      | none => simp
      | some rest => simp [eq_comm]

theorem noteOptionIds_of_selectFromGroups {groupIndex : ℕ}
    {options : List OfflineOrderNoteOption}
    (hselect : selectFromGroups selected groupIndex groups = some options) :
    noteOptionIds options = chosenIds selected groups := by
  induction groups generalizing groupIndex options with
  | nil =>
      cases hselect
      rfl
  | cons group groups ih =>
      obtain ⟨first, rest, hfirst, hrest, rfl⟩ := selectFromGroups_cons.mp hselect
      have hids : noteOptionIds (first ++ rest) = noteOptionIds first ++ noteOptionIds rest :=
        List.map_append
      rw [hids, noteOptionIds_of_selectFromGroup hfirst, ih hrest]
      rfl

/-- A selection matters only through the active options it names. -/
theorem selectFromGroups_congr {left right : List Uuid} (groupIndex : ℕ)
    (hsame : ∀ group ∈ groups, group.isActive = true → ∀ option ∈ group.options,
      option.isActive = true → (option.id ∈ left ↔ option.id ∈ right)) :
    selectFromGroups left groupIndex groups = selectFromGroups right groupIndex groups := by
  induction groups generalizing groupIndex with
  | nil => rfl
  | cons group groups ih =>
      have hgroup : selectFromGroup left groupIndex group
          = selectFromGroup right groupIndex group := by
        unfold selectFromGroup
        by_cases hactive : group.isActive = true
        · have hfilter :
              (group.options.filter fun option => option.isActive && option.id ∈ left)
                = group.options.filter fun option => option.isActive && option.id ∈ right := by
            apply List.filter_congr
            intro option hoption
            by_cases hoffered : option.isActive = true
            · simp only [hoffered, Bool.true_and]
              exact decide_eq_decide.mpr
                (hsame group List.mem_cons_self hactive option hoption hoffered)
            · simp [hoffered]
          rw [hfilter]
        · simp [hactive]
      have hrest := ih (groupIndex + 1) fun other hother =>
        hsame other (List.mem_cons_of_mem _ hother)
      rw [selectFromGroups, selectFromGroups, hgroup, hrest]

/-- Walking the groups with the identifiers a walk has chosen chooses the same. -/
theorem selectFromGroups_of_chosen {chosen : List Uuid} (groupIndex : ℕ)
    (hchosen : ∀ id, id ∈ chosen ↔ id ∈ chosenIds selected groups) :
    selectFromGroups chosen groupIndex groups
      = selectFromGroups selected groupIndex groups := by
  apply selectFromGroups_congr
  intro group hgroup hactive option hoption hoffered
  rw [hchosen, mem_chosenIds]
  constructor
  · rintro ⟨-, -, -, other, -, -, hselected, hid⟩
    rwa [← hid]
  · intro hselected
    exact ⟨group, hgroup, hactive, option, hoption, hoffered, hselected, rfl⟩

end Selection

/-! ## Options looked up by identifier -/

section Lookup

variable {supplied expected : List OfflineOrderNoteOption}

/-- An option that agrees with another one and carries its identifier is that
option. -/
theorem eq_of_optionMatches {left right : OfflineOrderNoteOption}
    (hmatches : optionMatches left right = true)
    (hid : right.noteOptionId = left.noteOptionId) : right = left := by
  simp only [optionMatches, Bool.and_eq_true, decide_eq_true_eq] at hmatches
  obtain ⟨⟨⟨⟨hgroup, hgroupName⟩, hname⟩, hdelta⟩, hsort⟩ := hmatches
  cases left
  cases right
  simp_all

theorem optionMatches_self (option : OfflineOrderNoteOption) :
    optionMatches option option = true := by
  simp [optionMatches]

theorem find?_noteOption (hnodup : (noteOptionIds supplied).Nodup)
    {option : OfflineOrderNoteOption} (hoption : option ∈ supplied) :
    supplied.find? (fun candidate => candidate.noteOptionId = option.noteOptionId)
      = some option := by
  cases hfind : supplied.find? fun candidate =>
      candidate.noteOptionId = option.noteOptionId with
  | none =>
      have hnone := List.find?_eq_none.mp hfind option hoption
      simp at hnone
  | some found =>
      have hid : found.noteOptionId = option.noteOptionId := by
        simpa using List.find?_some hfind
      have hfound := List.mem_of_find?_eq_some hfind
      rw [List.inj_on_of_nodup_map hnodup hfound hoption hid]

/-- With distinct identifiers on both sides the lookups succeed exactly when
the supplied options are the expected ones in some order. -/
theorem optionsMatch_iff_perm (hsupplied : (noteOptionIds supplied).Nodup)
    (hexpected : (noteOptionIds expected).Nodup) :
    optionsMatch supplied expected = true ↔ supplied.Perm expected := by
  have hdedup : (expected.map (·.noteOptionId)).dedup = noteOptionIds expected :=
    hexpected.dedup
  simp only [optionsMatch, hdedup, Bool.and_eq_true, decide_eq_true_eq, List.all_eq_true]
  constructor
  · rintro ⟨⟨hlength, -⟩, hlookups⟩
    have hsubset : expected ⊆ supplied := by
      intro option hoption
      obtain ⟨found, hfind, hmatches⟩ := Option.any_eq_true _ _ |>.mp (hlookups option hoption)
      have hid : found.noteOptionId = option.noteOptionId := by
        simpa using List.find?_some hfind
      rw [← eq_of_optionMatches hmatches hid]
      exact List.mem_of_find?_eq_some hfind
    have hlengths : supplied.length ≤ expected.length := by
      simpa [noteOptionIds] using hlength.ge
    have hsubperm := List.subperm_of_subset (List.Nodup.of_map _ hexpected) hsubset
    exact (hsubperm.perm_of_length_le hlengths).symm
  · intro hperm
    have hids : (noteOptionIds supplied).Perm (noteOptionIds expected) := hperm.map _
    refine ⟨⟨hids.length_eq.symm, ?_⟩, ?_⟩
    · intro id hid
      exact hids.mem_iff.mp hid
    · intro option hoption
      rw [find?_noteOption hsupplied (hperm.mem_iff.mpr hoption)]
      exact optionMatches_self option

end Lookup

/-! ## Catalogs and lines -/

/-- The labels of a catalog carry no white space around them, and no identifier
names two note options of one product. -/
structure WellLabelled (catalog : MenuCatalog) : Prop where
  productName : ∀ product ∈ catalog.products, product.name.trim = product.name
  groupName : ∀ product ∈ catalog.products, ∀ group ∈ product.noteGroups,
    group.name.trim = group.name
  optionName : ∀ product ∈ catalog.products, ∀ group ∈ product.noteGroups,
    ∀ option ∈ group.options, option.name.trim = option.name
  optionIds : ∀ product ∈ catalog.products, (groupOptionIds product.noteGroups).Nodup

def alwaysAvailable (product : CatalogProduct) : CatalogProduct :=
  { product with availableFrom := none, availableUntil := none }

/-- The catalog without its availability windows. -/
def withoutWindows (catalog : MenuCatalog) : MenuCatalog :=
  { catalog with products := catalog.products.map alwaysAvailable }

/-- An uploaded line is a line the device priced, up to the identifier of the
item, the white space around the note and the order of the options. -/
structure SameLine (item : OfflineOrderItem) (line : PricedItem) : Prop where
  productId : item.productId = line.productId
  name : item.name = line.name
  baseUnitPrice : item.baseUnitPrice = line.baseUnitPrice
  unitPrice : item.unitPrice = line.unitPrice
  quantity : (item.quantity : ℚ) = line.quantity
  note : item.note = line.note.trim
  noteOptions : item.noteOptions.Perm line.noteOptions

theorem mem_of_productById {products : List CatalogProduct} {productId : Uuid}
    {product : CatalogProduct} (hfind : productById products productId = some product) :
    product ∈ products ∧ product.id = productId := by
  have hmem := List.mem_of_find?_eq_some hfind
  have hid : product.id = productId := by simpa using List.find?_some hfind
  exact ⟨List.mem_reverse.mp hmem, hid⟩

theorem productById_withoutWindows (catalog : MenuCatalog) (productId : Uuid) :
    productById (withoutWindows catalog).products productId
      = (productById catalog.products productId).map alwaysAvailable := by
  unfold productById withoutWindows
  rw [← List.map_reverse, List.find?_map]
  rfl

theorem length16_le_of_sublist {text other : Text} (hsub : text.Sublist other) :
    text.length16 ≤ other.length16 :=
  (hsub.map _).sum_le_sum fun _ _ => Nat.zero_le _

theorem length16_trim_le (text : Text) : text.trim.length16 ≤ text.length16 := by
  apply length16_le_of_sublist
  have houter := (List.rdropWhile_prefix Text.isWhitespace
    (text.dropWhile Text.isWhitespace)).sublist
  exact houter.trans (List.dropWhile_suffix _).sublist

/-! ## One line -/

/-- What the server finds when it prices a line again. -/
structure RepricedLine (catalog : MenuCatalog) (item : OfflineOrderItem)
    (product : CatalogProduct) (expected : List OfflineOrderNoteOption) : Prop where
  found : productById catalog.products item.productId = some product
  facts : itemMatchesProduct catalog.limits item product = true
  distinct : (noteOptionIds item.noteOptions).Nodup
  selection : selectFromGroups (noteOptionIds item.noteOptions) 0 product.noteGroups
    = some expected
  options : optionsMatch item.noteOptions expected = true
  unitPrice : item.unitPrice = priceWithOptions product.price expected

theorem prepareSnapshotItem_eq_some {catalog : MenuCatalog} {item : OfflineOrderItem}
    {prepared : PreparedItem} :
    prepareSnapshotItem catalog item = some prepared ↔
      ∃ product expected, RepricedLine catalog item product expected
        ∧ prepared = { item, expectedOptions := expected } := by
  constructor
  · intro hprepare
    simp only [prepareSnapshotItem, Option.bind_eq_bind, Option.bind_eq_some_iff,
      Option.guard_eq_some'] at hprepare
    obtain ⟨product, hfound, -, hfacts, -, hdistinct, expected, hselection, -, hoptions, -,
      hprice, hreturn⟩ := hprepare
    cases hreturn
    exact ⟨product, expected, ⟨hfound, hfacts, hdistinct, hselection, hoptions, hprice⟩, rfl⟩
  · rintro ⟨product, expected, hline, rfl⟩
    have hdistinct : (item.noteOptions.map (·.noteOptionId)).Nodup := hline.distinct
    have hselection : selectFromGroups (item.noteOptions.map (·.noteOptionId)) 0
        product.noteGroups = some expected := hline.selection
    simp [prepareSnapshotItem, hline.found, hline.facts, hdistinct, hselection, hline.options,
      hline.unitPrice, guard]

/-- Within a well-labelled catalog the options on a line are the expected ones
in some order. -/
theorem RepricedLine.perm {catalog : MenuCatalog} (hcatalog : WellLabelled catalog)
    {item : OfflineOrderItem} {product : CatalogProduct}
    {expected : List OfflineOrderNoteOption} (hline : RepricedLine catalog item product expected) :
    item.noteOptions.Perm expected := by
  have hmem := (mem_of_productById hline.found).1
  have hexpected : (noteOptionIds expected).Nodup := by
    rw [noteOptionIds_of_selectFromGroups hline.selection]
    exact (chosenIds_sublist _ _).nodup (hcatalog.optionIds product hmem)
  exact (optionsMatch_iff_perm hline.distinct hexpected).mp hline.options

theorem getSelectedNoteOptions_eq_some {groups : List NoteGroup} {selected : List Uuid}
    {options : List OfflineOrderNoteOption} :
    getSelectedNoteOptions groups selected = some options ↔
      selected.Nodup
        ∧ (∀ id ∈ selected, ∃ group ∈ groups, ∃ option ∈ group.options,
          option.isActive = true ∧ option.id = id)
        ∧ selectFromGroups selected 0 groups = some options := by
  simp only [getSelectedNoteOptions]
  split
  · next hrefused =>
    constructor
    · intro hselect
      cases hselect
    · rintro ⟨hdistinct, hallowed, -⟩
      simp [hdistinct] at hrefused
      obtain ⟨id, hid, hmissing⟩ := hrefused
      obtain ⟨group, hgroup, option, hoption, hactive, hsame⟩ := hallowed id hid
      exact absurd hsame (hmissing group hgroup option hoption hactive)
  · next haccepted =>
    simp at haccepted
    constructor
    · intro hselect
      exact ⟨haccepted.1, haccepted.2, hselect⟩
    · rintro ⟨-, -, hselect⟩
      exact hselect

/-- The device accepts the selection that a line carries. -/
theorem getSelectedNoteOptions_of_repriced {catalog : MenuCatalog}
    (hcatalog : WellLabelled catalog) {item : OfflineOrderItem} {product : CatalogProduct}
    {expected : List OfflineOrderNoteOption} (hline : RepricedLine catalog item product expected) :
    getSelectedNoteOptions product.noteGroups (noteOptionIds item.noteOptions)
      = some expected := by
  apply getSelectedNoteOptions_eq_some.mpr
  refine ⟨hline.distinct, ?_, hline.selection⟩
  intro id hid
  have hperm : (noteOptionIds item.noteOptions).Perm (noteOptionIds expected) :=
    (hline.perm hcatalog).map _
  have hchosen := hperm.mem_iff.mp hid
  rw [noteOptionIds_of_selectFromGroups hline.selection] at hchosen
  obtain ⟨group, hgroup, -, option, hoption, hactive, -, hsame⟩ := mem_chosenIds.mp hchosen
  exact ⟨group, hgroup, option, hoption, hactive, hsame⟩

/-- What the device checked when it priced an item. -/
structure PricedLine (catalog : MenuCatalog) (now : Timestamp) (localItemId : Uuid)
    (draft : DraftItem) (line : PricedItem) (product : CatalogProduct) : Prop where
  found : productById catalog.products draft.productId = some product
  available : productAvailable product now = true
  quantity : 1 ≤ draft.quantity ∧ draft.quantity ≤ catalog.limits.maxItemQuantity
  note : draft.note.length16 ≤ catalog.limits.maxNoteLength
  selection : getSelectedNoteOptions product.noteGroups draft.noteOptionIds
    = some line.noteOptions
  line : line = {
    localItemId := localItemId
    productId := product.id
    name := product.name
    baseUnitPrice := product.price
    unitPrice := priceWithOptions product.price line.noteOptions
    quantity := draft.quantity
    note := draft.note
    noteOptions := line.noteOptions }

theorem prepareOfflineOrderItemSnapshot_eq_ok {catalog : MenuCatalog} {now : Timestamp}
    {localItemId : Uuid} {draft : DraftItem} {line : PricedItem} :
    prepareOfflineOrderItemSnapshot catalog now localItemId draft = .ok line ↔
      ∃ product, PricedLine catalog now localItemId draft line product := by
  unfold prepareOfflineOrderItemSnapshot
  constructor
  · intro hprepare
    split at hprepare
    · cases hprepare
    · next product hfound =>
      split at hprepare
      · cases hprepare
      · next havailable =>
        split at hprepare
        · cases hprepare
        · next hlimits =>
          simp only [Bool.or_eq_true, decide_eq_true_eq, not_or, not_lt] at hlimits
          split at hprepare
          · cases hprepare
          · next noteOptions hselect =>
            cases hprepare
            exact ⟨product, hfound, by simpa using havailable,
              ⟨hlimits.1.1, hlimits.1.2⟩, hlimits.2, hselect, rfl⟩
  · rintro ⟨product, hpriced⟩
    have hquantity : ¬ draft.quantity < 1 := not_lt.mpr hpriced.quantity.1
    have hlimit : ¬ catalog.limits.maxItemQuantity < draft.quantity :=
      not_lt.mpr hpriced.quantity.2
    have hnote : ¬ catalog.limits.maxNoteLength < draft.note.length16 :=
      not_lt.mpr hpriced.note
    simp only [hpriced.found, hpriced.available, hpriced.selection, hquantity, hlimit, hnote,
      Bool.not_true, Bool.false_eq_true, if_false, decide_false, Bool.or_self]
    rw [hpriced.line]

theorem itemMatchesProduct_eq_true {limits : OrderItemLimits} {item : OfflineOrderItem}
    {product : CatalogProduct} :
    itemMatchesProduct limits item product = true ↔
      product.isActive = true ∧ product.isEnabled = true
        ∧ item.quantity ≤ limits.maxItemQuantity
        ∧ item.note.length16 ≤ limits.maxNoteLength
        ∧ item.name = product.name ∧ item.baseUnitPrice = product.price := by
  simp [itemMatchesProduct, and_assoc]

/-- The server prices a line again exactly when the device could have priced it,
the availability windows of the catalog aside. -/
theorem prepareSnapshotItem_isSome_iff {catalog : MenuCatalog} (hcatalog : WellLabelled catalog)
    {item : OfflineOrderItem} (hquantity : 1 ≤ item.quantity) (hnote : item.note.trim = item.note)
    (now : Timestamp) (localItemId : Uuid) :
    (prepareSnapshotItem catalog item).isSome = true ↔
      ∃ draft line, prepareOfflineOrderItemSnapshot (withoutWindows catalog) now localItemId draft
          = .ok line
        ∧ SameLine item line := by
  rw [Option.isSome_iff_exists]
  constructor
  · rintro ⟨prepared, hprepare⟩
    obtain ⟨product, expected, hline, -⟩ := prepareSnapshotItem_eq_some.mp hprepare
    obtain ⟨hactive, henabled, hlimit, hlength, hname, hprice⟩ :=
      itemMatchesProduct_eq_true.mp hline.facts
    have hid := (mem_of_productById hline.found).2
    refine ⟨{
        productId := item.productId
        quantity := item.quantity
        note := item.note
        noteOptionIds := noteOptionIds item.noteOptions }, {
        localItemId := localItemId
        productId := product.id
        name := product.name
        baseUnitPrice := product.price
        unitPrice := priceWithOptions product.price expected
        quantity := item.quantity
        note := item.note
        noteOptions := expected }, ?_, ?_⟩
    · apply prepareOfflineOrderItemSnapshot_eq_ok.mpr
      have hbounds : (1 : ℚ) ≤ item.quantity ∧ (item.quantity : ℚ) ≤ catalog.limits.maxItemQuantity :=
        ⟨by exact_mod_cast hquantity, by exact_mod_cast hlimit⟩
      refine ⟨alwaysAvailable product, ?_, ?_, hbounds, hlength, ?_, rfl⟩
      · rw [productById_withoutWindows, hline.found]
        rfl
      · simp [productAvailable, alwaysAvailable, hactive, henabled]
      · have hselect := getSelectedNoteOptions_of_repriced hcatalog hline
        exact hselect
    · exact ⟨hid.symm, hname, hprice, hline.unitPrice, rfl, hnote.symm, hline.perm hcatalog⟩
  · rintro ⟨draft, line, hprepare, hsame⟩
    obtain ⟨windowless, hpriced⟩ := prepareOfflineOrderItemSnapshot_eq_ok.mp hprepare
    have hfound := hpriced.found
    rw [productById_withoutWindows] at hfound
    obtain ⟨product, hproduct, rfl⟩ := Option.map_eq_some_iff.mp hfound
    obtain ⟨hmem, hid⟩ := mem_of_productById hproduct
    have hselection := (getSelectedNoteOptions_eq_some.mp hpriced.selection).2.2
    have hids := noteOptionIds_of_selectFromGroups hselection
    have hexpected : (noteOptionIds line.noteOptions).Nodup := by
      rw [hids]
      exact (chosenIds_sublist _ _).nodup (hcatalog.optionIds product hmem)
    have hperm : (noteOptionIds item.noteOptions).Perm (noteOptionIds line.noteOptions) :=
      hsame.noteOptions.map _
    have hitem : (noteOptionIds item.noteOptions).Nodup := hperm.nodup_iff.mpr hexpected
    have hline := hpriced.line
    refine ⟨{ item, expectedOptions := line.noteOptions },
      prepareSnapshotItem_eq_some.mpr ⟨product, line.noteOptions, ?_, rfl⟩⟩
    have havailable := hpriced.available
    simp only [productAvailable, Bool.and_eq_true] at havailable
    obtain ⟨⟨⟨hactive, henabled⟩, -⟩, -⟩ := havailable
    constructor
    case found =>
      rw [hsame.productId, hline]
      change productById catalog.products product.id = some product
      rw [hid, hproduct]
    case facts =>
      apply itemMatchesProduct_eq_true.mpr
      refine ⟨hactive, henabled, ?_, ?_, ?_, ?_⟩
      · have hquantity : (item.quantity : ℚ) ≤ catalog.limits.maxItemQuantity := by
          rw [hsame.quantity, hline]
          exact hpriced.quantity.2
        exact_mod_cast hquantity
      · rw [hsame.note, hline]
        exact (length16_trim_le draft.note).trans hpriced.note
      · rw [hsame.name, hline]
        rfl
      · rw [hsame.baseUnitPrice, hline]
        rfl
    case distinct => exact hitem
    case selection =>
      rw [← hselection]
      apply selectFromGroups_of_chosen
      intro id
      rw [hperm.mem_iff, hids]
      rfl
    case options => exact (optionsMatch_iff_perm hitem hexpected).mpr hsame.noteOptions
    case unitPrice =>
      rw [hsame.unitPrice, hline]
      rfl

end Stallorder.Repricing
