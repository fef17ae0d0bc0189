import Stallorder.Server.PricingAgreement

/-!
# Creations that fail

A creation that throws should leave every store as it was.  The drawer of a
cash sale is put before the date of the time zone is taken and the new order
passes its schema, and an exception does not abort the transaction, so what
matters is which of these later checks a draft can still fail after it passed
the earlier ones.  Most of them follow from the schemas of the permit, of the
menu and of the payment; the others are named here.
-/

namespace Stallorder.FailedCreation

open OrderContract Permit Catalog LocalDatabase Operations Checks Repricing PricingAgreement
  Doubles

/-! ## Texts -/

theorem one_le_length16_iff {text : Text} : 1 ≤ text.length16 ↔ text ≠ [] := by
  cases text with
  | nil => simp [Text.length16]
  | cons first rest =>
      simp only [Text.length16, List.map_cons, List.sum_cons, ne_eq, reduceCtorEq, not_false_eq_true,
        iff_true]
      split <;> omega

theorem shortText_trim {text : Text} (hlabel : labelText text = true) :
    shortText text.trim = true := by
  simp only [labelText, Bool.and_eq_true, decide_eq_true_eq] at hlabel
  exact decide_eq_true ((length16_trim_le text).trans hlabel.2)

theorem isSome_parse_iff {Value : Type} {schema : Schema Value} {value : Value} :
    (schema.parse value).isSome = true ↔ schema.accepts (schema.normalize value) = true := by
  unfold Schema.parse
  split
  · next haccepts => simp [haccepts]
  · next hrefuses => simp [hrefuses]

/-! ## The lines of an order -/

section Lines

variable {catalog : MenuCatalog} {now : Timestamp}

/-- What the schema of an option checks that the menu does not promise. -/
structure StorableOption (option : OfflineOrderNoteOption) : Prop where
  groupName : option.groupName.trim ≠ []
  optionName : option.optionName.trim ≠ []
  sortOrder : option.sortOrder ≤ 1_000_000

/-- What the schema of an item checks that pricing does not. -/
structure StorableLine (item : PricedItem) : Prop where
  whole : ∃ quantity : ℤ, item.quantity = quantity
  name : item.name.trim ≠ []
  count : item.noteOptions.length ≤ 50
  options : ∀ option ∈ item.noteOptions, StorableOption option

/-- A selected option copies an option of the menu. -/
structure CopiedOption (groups : List NoteGroup) (option : OfflineOrderNoteOption) : Prop where
  source : ∃ group ∈ groups, ∃ offered ∈ group.options, ∃ groupIndex : ℕ,
    option.groupName = group.name ∧ option.optionName = offered.name
      ∧ option.priceDelta = offered.priceDelta
      ∧ option.sortOrder = groupIndex * 1_000 + offered.sortOrder

theorem copied_of_selectFromGroup {selected : List Uuid} {groupIndex : ℕ} {group : NoteGroup}
    {groups : List NoteGroup} {options : List OfflineOrderNoteOption} (hgroup : group ∈ groups)
    (hselect : selectFromGroup selected groupIndex group = some options) :
    ∀ option ∈ options, CopiedOption groups option := by
  intro option hoption
  unfold selectFromGroup at hselect
  split at hselect
  · cases hselect
    cases hoption
  · simp only at hselect
    split at hselect
    · cases hselect
    · cases hselect
      obtain ⟨offered, hoffered, rfl⟩ := List.mem_map.mp hoption
      exact ⟨group, hgroup, offered, (List.mem_filter.mp hoffered).1, groupIndex, rfl, rfl, rfl,
        rfl⟩

theorem copied_of_selectFromGroups {selected : List Uuid} {groups : List NoteGroup}
    {options : List OfflineOrderNoteOption} {groupIndex : ℕ}
    (hselect : selectFromGroups selected groupIndex groups = some options) :
    ∀ option ∈ options, CopiedOption groups option := by
  induction groups generalizing groupIndex options with
  | nil =>
      cases hselect
      exact nofun
  | cons group groups ih =>
      obtain ⟨first, rest, hfirst, hrest, rfl⟩ := selectFromGroups_cons.mp hselect
      intro option hoption
      rcases List.mem_append.mp hoption with hoption | hoption
      · exact copied_of_selectFromGroup List.mem_cons_self hfirst option hoption
      · obtain ⟨other, hother, hsource⟩ := (ih hrest option hoption).source
        exact ⟨other, List.mem_cons_of_mem _ hother, hsource⟩

theorem accepts_option_iff {groups : List NoteGroup} {option : OfflineOrderNoteOption}
    (hgroups : ∀ group ∈ groups, noteGroupSchema group = true)
    (hcopied : CopiedOption groups option) :
    offlineOrderNoteOptionSchema.accepts (offlineOrderNoteOptionSchema.normalize option) = true
      ↔ StorableOption option := by
  obtain ⟨group, hgroup, offered, hoffered, groupIndex, hgroupName, hname, hdelta, hsort⟩ :=
    hcopied.source
  have hschema := hgroups group hgroup
  simp only [noteGroupSchema, snapshotGroupSchema, Bool.and_eq_true, decide_eq_true_eq,
    List.all_eq_true] at hschema
  have hoption := hschema.1.1.2 offered hoffered
  simp only [noteOptionSchema, Bool.and_eq_true, decide_eq_true_eq] at hoption
  have hgroupShort := shortText_trim (hgroupName ▸ hschema.1.1.1.1.1.1)
  have hnameShort := shortText_trim (hname ▸ hoption.1.1.1.1)
  have hlower : -100_000_000 ≤ option.priceDelta := by omega
  have hupper : option.priceDelta ≤ 100_000_000 := by omega
  have hnonneg : 0 ≤ option.sortOrder := by omega
  simp only [offlineOrderNoteOptionSchema, Bool.and_eq_true, decide_eq_true_eq, hgroupShort,
    hnameShort, hlower, hupper, hnonneg, one_le_length16_iff, true_and, and_true]
  constructor
  · rintro ⟨⟨hgroupLabel, hlabel⟩, hlimit⟩
    exact ⟨hgroupLabel, hlabel, hlimit⟩
  · intro hstorable
    exact ⟨⟨hstorable.groupName, hstorable.optionName⟩, hstorable.sortOrder⟩

/-- A priced line passes the schema of items exactly when it is storable; its price is bounded
by the price of the order. -/
theorem accepts_line_iff (hcatalog : menuCatalogSchema catalog = true) {localItemId : Uuid}
    {draft : DraftItem} {line : OfflineOrderItem} {product : CatalogProduct}
    (hpriced : PricedLine catalog now localItemId draft (.ofWhole line) product)
    (hprice : line.unitPrice ≤ 100_000_000) :
    offlineOrderItemSchema.accepts (offlineOrderItemSchema.normalize line) = true
      ↔ StorableLine (.ofWhole line) := by
  simp only [menuCatalogSchema, catalogSchema, Bool.and_eq_true, decide_eq_true_eq,
    List.all_eq_true] at hcatalog
  obtain ⟨⟨⟨⟨⟨⟨⟨⟨-, hlimits⟩, -⟩, hproducts⟩, -⟩, -⟩, -⟩, -⟩, -⟩ := hcatalog
  simp only [limitsSchema, Bool.and_eq_true, decide_eq_true_eq] at hlimits
  have hproduct := hproducts product (mem_of_productById hpriced.found).1
  simp only [productSchema, Bool.and_eq_true, decide_eq_true_eq, List.all_eq_true] at hproduct
  have hselect := (getSelectedNoteOptions_eq_some.mp hpriced.selection).2.2
  have hcopied : ∀ option ∈ line.noteOptions, CopiedOption product.noteGroups option :=
    copied_of_selectFromGroups hselect
  have hname : shortText line.name.trim = true := by
    have hlabel : line.name = product.name := congrArg PricedItem.name hpriced.line
    rw [hlabel]
    exact shortText_trim hproduct.1.1.1
  have hbase : money line.baseUnitPrice = true := by
    have hcopy : line.baseUnitPrice = product.price :=
      congrArg PricedItem.baseUnitPrice hpriced.line
    rw [hcopy]
    exact hproduct.1.1.2
  have hunit : money line.unitPrice = true := by
    have hsum : line.unitPrice = priceWithOptions product.price line.noteOptions :=
      congrArg PricedItem.unitPrice hpriced.line
    have hnonneg : 0 ≤ line.unitPrice := hsum ▸ le_max_left _ _
    simp [money, hnonneg, hprice]
  have hquantity : 1 ≤ line.quantity ∧ line.quantity ≤ 100 := by
    have hcopy : (line.quantity : ℚ) = draft.quantity :=
      congrArg PricedItem.quantity hpriced.line
    have hdraft := hpriced.quantity
    rw [← hcopy] at hdraft
    have hmost : line.quantity ≤ catalog.limits.maxItemQuantity := by exact_mod_cast hdraft.2
    exact ⟨by exact_mod_cast hdraft.1, by omega⟩
  have hnote : noteText line.note.trim = true := by
    have hcopy : line.note = draft.note := congrArg PricedItem.note hpriced.line
    have hshort := length16_trim_le line.note
    have hdraft := hpriced.note
    rw [← hcopy] at hdraft
    simp only [noteText, decide_eq_true_eq]
    omega
  simp only [offlineOrderItemSchema, Bool.and_eq_true, decide_eq_true_eq, List.all_eq_true,
    List.forall_mem_map, List.length_map, hname, hbase, hunit, hquantity, hnote,
    one_le_length16_iff, true_and, and_true]
  constructor
  · rintro ⟨⟨hlabel, hcount⟩, hoptions⟩
    exact ⟨⟨line.quantity, rfl⟩, hlabel, hcount, fun option hoption =>
      (accepts_option_iff hproduct.2 (hcopied option hoption)).mp (hoptions option hoption)⟩
  · intro hstorable
    exact ⟨⟨hstorable.name, hstorable.count⟩, fun option hoption =>
      (accepts_option_iff hproduct.2 (hcopied option hoption)).mpr
        (hstorable.options option hoption)⟩

theorem exists_lines_of_whole {items : List PricedItem}
    (hwhole : ∀ item ∈ items, ∃ quantity : ℤ, item.quantity = quantity) :
    ∃ lines : List OfflineOrderItem, items = lines.map .ofWhole := by
  induction items with
  | nil => exact ⟨[], rfl⟩
  | cons item items ih =>
      rw [List.forall_mem_cons] at hwhole
      obtain ⟨⟨quantity, hquantity⟩, hrest⟩ := hwhole
      obtain ⟨lines, rfl⟩ := ih hrest
      have hitem : item.whole? = (toInteger? item.quantity).map _ := rfl
      rw [toInteger?_eq_some.mpr hquantity] at hitem
      exact ⟨_ :: lines, congrArg (· :: lines.map .ofWhole) (PricedItem.whole?_eq_some.mp hitem)⟩

end Lines

/-! ## The order of an admitted draft -/

section Orders

variable {db : LocalDb} {draft : CreateOfflineOrderDraft} {ids : CreationIds} {now : Timestamp}
  {admission : Admission}

/-- What admission says about the bootstrap, the items and the price of an order. -/
structure WithinPermit (draft : CreateOfflineOrderDraft) (ids : CreationIds) (now : Timestamp)
    (admission : Admission) : Prop where
  permit : activePermitSchema admission.bootstrap.permit = true
  menu : menuSnapshotSchema admission.bootstrap.menu = true
  count : 1 ≤ draft.items.length ∧ draft.items.length ≤ 100
  note : draft.note.length16 ≤ admission.bootstrap.menu.catalog.limits.maxNoteLength
  items : prepareOfflineOrderItemSnapshots admission.bootstrap.menu.catalog now ids.itemId 0
    draft.items = .ok admission.items
  subtotal : admission.subtotal = addDoubles (admission.items.map (·.amount))
  limit : admission.subtotal ≤ admission.bootstrap.permit.riskLimits.maxSingleOrderAmount

theorem schemas_of_readBootstrap {organizationId stallId : Uuid} {bootstrap : Bootstrap}
    (hread : readBootstrap db organizationId stallId now = .ok bootstrap) :
    activePermitSchema bootstrap.permit = true ∧ menuSnapshotSchema bootstrap.menu = true := by
  obtain ⟨device, -, hread⟩ := bind_eq_ok.mp hread
  obtain ⟨-, -, hread⟩ := bind_eq_ok.mp hread
  obtain ⟨permit, hpermit, hread⟩ := bind_eq_ok.mp hread
  obtain ⟨-, -, hread⟩ := bind_eq_ok.mp hread
  obtain ⟨-, -, hread⟩ := bind_eq_ok.mp hread
  obtain ⟨menu, -, hread⟩ := bind_eq_ok.mp hread
  obtain ⟨_, hmenu, hread⟩ := bind_eq_ok.mp hread
  obtain ⟨-, -, hread⟩ := bind_eq_ok.mp hread
  obtain ⟨-, -, hreturn⟩ := bind_eq_ok.mp hread
  cases hreturn
  rw [failWhen_eq_ok, Bool.not_eq_false'] at hmenu
  have hmem := List.mem_of_mem_head? (Option.mem_def.mpr (orFail_eq_ok.mp hpermit))
  rw [List.mem_insertionSort, List.mem_filter, Bool.and_eq_true] at hmem
  exact ⟨hmem.2.1, hmenu⟩

theorem withinPermit_of_admitOfflineOrder
    (hadmission : admitOfflineOrder db draft ids now = .ok admission) :
    WithinPermit draft ids now admission := by
  obtain ⟨bootstrap, hbootstrap, hadmission⟩ := bind_eq_ok.mp hadmission
  obtain ⟨-, -, hadmission⟩ := bind_eq_ok.mp hadmission
  obtain ⟨_, hlimits, hadmission⟩ := bind_eq_ok.mp hadmission
  obtain ⟨items, hitems, hadmission⟩ := bind_eq_ok.mp hadmission
  obtain ⟨_, hsingle, hadmission⟩ := bind_eq_ok.mp hadmission
  obtain ⟨-, -, hreturn⟩ := bind_eq_ok.mp hadmission
  cases hreturn
  obtain ⟨hpermit, hmenu⟩ := schemas_of_readBootstrap hbootstrap
  simp only [failWhen_eq_ok, Bool.or_eq_false_iff, decide_eq_false_iff_not, not_lt,
    orderItemsExceedLimits] at hlimits hsingle
  exact ⟨hpermit, hmenu, hlimits.1, hlimits.2.2, mapError_eq_ok.mp hitems, rfl, hsingle⟩

theorem length_of_prepare {catalog : MenuCatalog} {itemIds : ℕ → Uuid} {index : ℕ}
    {drafts : List DraftItem} {lines : List PricedItem}
    (hprepare : prepareOfflineOrderItemSnapshots catalog now itemIds index drafts = .ok lines) :
    lines.length = drafts.length := by
  induction drafts generalizing index lines with
  | nil =>
      cases hprepare
      rfl
  | cons draft drafts ih =>
      obtain ⟨line, rest, -, hrest, rfl⟩ := prepareOfflineOrderItemSnapshots_cons.mp hprepare
      rw [List.length_cons, List.length_cons, ih hrest]

theorem priced_of_prepare {catalog : MenuCatalog} {itemIds : ℕ → Uuid} {index : ℕ}
    {drafts : List DraftItem} {lines : List PricedItem}
    (hprepare : prepareOfflineOrderItemSnapshots catalog now itemIds index drafts = .ok lines) :
    ∀ line ∈ lines, ∃ localItemId draft product,
      PricedLine catalog now localItemId draft line product := by
  induction drafts generalizing index lines with
  | nil =>
      cases hprepare
      exact nofun
  | cons draft drafts ih =>
      obtain ⟨first, rest, hfirst, hrest, rfl⟩ :=
        prepareOfflineOrderItemSnapshots_cons.mp hprepare
      intro line hline
      rcases List.mem_cons.mp hline with rfl | hline
      · obtain ⟨product, hpriced⟩ := prepareOfflineOrderItemSnapshot_eq_ok.mp hfirst
        exact ⟨_, draft, product, hpriced⟩
      · exact ih hrest line hline

namespace WithinPermit

variable (hwithin : WithinPermit draft ids now admission)
include hwithin

theorem menuCatalog : menuCatalogSchema admission.bootstrap.menu.catalog = true := by
  have hmenu := hwithin.menu
  simp only [menuSnapshotSchema, Bool.and_eq_true] at hmenu
  exact hmenu.2

theorem price_bounds {item : PricedItem} (hitem : item ∈ admission.items) :
    0 ≤ item.unitPrice ∧ 1 ≤ item.quantity := by
  obtain ⟨localItemId, draft, product, hpriced⟩ := priced_of_prepare hwithin.items item hitem
  have hquantity := hpriced.quantity.1
  rw [hpriced.line]
  exact ⟨le_max_left _ _, hquantity⟩

theorem subtotal_nonneg : 0 ≤ admission.subtotal := by
  rw [hwithin.subtotal]
  apply addDoubles_nonneg
  intro amount hamount
  obtain ⟨item, hitem, rfl⟩ := List.mem_map.mp hamount
  obtain ⟨hprice, hquantity⟩ := hwithin.price_bounds hitem
  exact toDouble_nonneg (mul_nonneg (by exact_mod_cast hprice) (by linarith))

theorem subtotal_le : admission.subtotal ≤ 100_000_000 := by
  have hpermit := hwithin.permit
  simp only [activePermitSchema, riskLimitsSchema, Bool.and_eq_true, decide_eq_true_eq] at hpermit
  exact hwithin.limit.trans (by exact_mod_cast hpermit.2.1.1.1.1.2)

variable {lines : List OfflineOrderItem} (hlines : admission.items = lines.map .ofWhole)
include hlines

theorem amount_nonneg {line : OfflineOrderItem} (hline : line ∈ lines) :
    0 ≤ line.unitPrice ∧ 1 ≤ line.quantity := by
  have hitem : PricedItem.ofWhole line ∈ admission.items :=
    hlines ▸ List.mem_map_of_mem hline
  obtain ⟨hprice, hquantity⟩ := hwithin.price_bounds hitem
  have hwhole : (1 : ℚ) ≤ line.quantity := hquantity
  exact ⟨hprice, by exact_mod_cast hwhole⟩

theorem amounts_nonneg :
    ∀ amount ∈ lines.map fun line => line.unitPrice * line.quantity, 0 ≤ amount := by
  intro amount hamount
  obtain ⟨line, hline, rfl⟩ := List.mem_map.mp hamount
  obtain ⟨hprice, hquantity⟩ := hwithin.amount_nonneg hlines hline
  exact mul_nonneg hprice (by omega)

/-- The total of whole lines is exact: it is within the limits of the permit. -/
theorem subtotal_eq : admission.subtotal = itemsTotal lines := by
  have hamounts : admission.items.map (·.amount)
      = (lines.map fun line => line.unitPrice * line.quantity).map
        fun amount : ℤ => toDouble amount := by
    rw [hlines, List.map_map, List.map_map]
    apply List.map_congr_left
    intro line _
    simp [PricedItem.amount, PricedItem.ofWhole]
  have hsum := hwithin.subtotal
  rw [hamounts] at hsum
  have hlimit := hwithin.subtotal_le
  rw [hsum] at hlimit ⊢
  exact addDoubles_intCast (hwithin.amounts_nonneg hlines) (hlimit.trans_lt (by norm_num))

theorem money_itemsTotal : money (itemsTotal lines) = true := by
  have hlimit := hwithin.subtotal_le
  rw [hwithin.subtotal_eq hlines] at hlimit
  have hupper : itemsTotal lines ≤ 100_000_000 := by exact_mod_cast hlimit
  have hnonneg : 0 ≤ itemsTotal lines := List.sum_nonneg (hwithin.amounts_nonneg hlines)
  simp [money, hnonneg, hupper]

theorem unitPrice_le {line : OfflineOrderItem} (hline : line ∈ lines) :
    line.unitPrice ≤ 100_000_000 := by
  have htotal := hwithin.money_itemsTotal hlines
  simp only [money, Bool.and_eq_true, decide_eq_true_eq] at htotal
  obtain ⟨hprice, hquantity⟩ := hwithin.amount_nonneg hlines hline
  calc line.unitPrice
      ≤ line.unitPrice * line.quantity := le_mul_of_one_le_right hprice hquantity
    _ ≤ itemsTotal lines := List.single_le_sum (hwithin.amounts_nonneg hlines) _
        (List.mem_map.mpr ⟨line, hline, rfl⟩)
    _ ≤ 100_000_000 := htotal.2

end WithinPermit

/-- What the schema tells the lines of an order apart by. -/
def storedKey (item : PricedItem) : Uuid × Text × List Uuid :=
  (item.productId, item.note.trim,
    (item.noteOptions.map (·.noteOptionId)).insertionSort (· ≤ ·))

theorem configurationKey_normalize (line : OfflineOrderItem) :
    configurationKey (offlineOrderItemSchema.normalize line) = storedKey (.ofWhole line) := by
  simp only [configurationKey, storedKey, offlineOrderItemSchema, PricedItem.ofWhole, List.map_map]
  rfl

/-- What is checked after the drawer was put and before the order is stored: the date of the
time zone, if there is one, and what the schema of orders checks that admission does not. -/
structure LaterChecks (date : Option Text) (db : LocalDb) (draft : CreateOfflineOrderDraft)
    (items : List PricedItem) : Prop where
  businessDate : ∃ day, date.bind businessDate? = some day
    ∧ nextLocalSequence db draft.stallId day ≤ 999_999_999
  idempotencyKey : ∃ idempotencyKey, draft.idempotencyKey = .uuid idempotencyKey
  storable : ∀ item ∈ items, StorableLine item
  distinct : (items.map storedKey).Nodup
  label : draft.customerLabel.trim.length16 ≤ 50
  contact : draft.customerContact.trim.length16 ≤ 80

theorem accepts_order_iff (hwithin : WithinPermit draft ids now admission)
    {decision : PaymentDecision} (hmethod : decision.method = some .cash)
    (hpayment : (decision.payment.map (·.status)).getD .unpaid = .paidLocal) {parts : OrderParts}
    (hday : parts.day < 10 ^ 8) (hlines : admission.items = parts.items.map .ofWhole)
    (hsubtotal : admission.subtotal = parts.subtotal) :
    (offlineOrderSchema.parse (draftOrder parts db draft ids now admission decision)).isSome = true
      ↔ nextLocalSequence db draft.stallId parts.day ≤ 999_999_999
        ∧ (∀ item ∈ admission.items, StorableLine item)
        ∧ (admission.items.map storedKey).Nodup
        ∧ draft.customerLabel.trim.length16 ≤ 50
        ∧ draft.customerContact.trim.length16 ≤ 80 := by
  have hpermit := hwithin.permit
  have hmenu := hwithin.menu
  have hcatalog := hwithin.menuCatalog
  simp only [activePermitSchema, menuSnapshotSchema, Bool.and_eq_true, decide_eq_true_eq]
    at hpermit hmenu
  obtain ⟨⟨⟨-, hepoch⟩, -⟩, -⟩ := hpermit
  obtain ⟨⟨hversion, hcurrency⟩, -⟩ := hmenu
  have hcount := hwithin.count
  rw [← length_of_prepare hwithin.items, hlines, List.length_map] at hcount
  have htotal : itemsTotal parts.items = parts.subtotal := by
    exact_mod_cast (hwithin.subtotal_eq hlines).symm.trans hsubtotal
  have hmoney : money parts.subtotal = true := htotal ▸ hwithin.money_itemsTotal hlines
  have hnote : noteText draft.note.trim = true := by
    simp only [menuCatalogSchema, catalogSchema, limitsSchema, Bool.and_eq_true, decide_eq_true_eq]
      at hcatalog
    have hshort := (length16_trim_le draft.note).trans hwithin.note
    simp only [noteText, decide_eq_true_eq]
    omega
  have hnormalized : itemsTotal (parts.items.map offlineOrderItemSchema.normalize)
      = parts.subtotal := by
    rw [← htotal, itemsTotal, List.map_map]
    rfl
  have hstorable : (∀ line ∈ parts.items,
      offlineOrderItemSchema.accepts (offlineOrderItemSchema.normalize line) = true)
        ↔ ∀ item ∈ admission.items, StorableLine item := by
    rw [hlines, List.forall_mem_map]
    refine forall₂_congr fun line hline => ?_
    have hitem : PricedItem.ofWhole line ∈ admission.items := hlines ▸ List.mem_map_of_mem hline
    obtain ⟨localItemId, item, product, hpriced⟩ := priced_of_prepare hwithin.items _ hitem
    exact accepts_line_iff hcatalog hpriced (hwithin.unitPrice_le hlines hline)
  have hkeys : parts.items.map (configurationKey ∘ offlineOrderItemSchema.normalize)
      = admission.items.map storedKey := by
    rw [hlines, List.map_map]
    exact List.map_congr_left fun line _ => configurationKey_normalize line
  have hconsistent : orderPaymentConsistent (offlineOrderSchema.normalize
      (draftOrder parts db draft ids now admission decision)) = true := by
    simp [orderPaymentConsistent, offlineOrderSchema, draftOrder, hmethod, hpayment]
  have hfirst : 1 ≤ nextLocalSequence db draft.stallId parts.day := Nat.le_add_left 1 _
  have hcode : deviceCode admission.bootstrap.device.id < 16 ^ 6 := Nat.mod_lt _ (by norm_num)
  rw [isSome_parse_iff]
  simp only [offlineOrderSchema] at hconsistent ⊢
  simp only [Bool.and_eq_true, decide_eq_true_eq, hconsistent]
  simp only [draftOrder, hpayment, localDisplayNumberAccepted, List.length_map, List.all_eq_true,
    List.forall_mem_map, List.map_map, hmoney, hnormalized, hnote, hstorable, hkeys, hcurrency,
    hepoch, hversion, hcount, hfirst, hcode, hday, Text.trim_trim, Bool.and_eq_true,
    decide_eq_true_eq, sub_zero, Nat.zero_le, le_refl, reduceCtorEq, decide_false, Bool.false_and,
    Bool.not_false, true_and, and_true]
  constructor
  · rintro ⟨⟨⟨⟨⟨⟨hsequence, -⟩, hstorable⟩, -⟩, hlabel⟩, hcontact⟩, hdistinct⟩
    exact ⟨hsequence, hstorable, hdistinct, hlabel, hcontact⟩
  · rintro ⟨hsequence, hstorable, hdistinct, hlabel, hcontact⟩
    have hshort : shortText draft.customerLabel.trim = true :=
      decide_eq_true (hlabel.trans (by norm_num))
    exact ⟨⟨⟨⟨⟨⟨hsequence, by omega⟩, hstorable⟩, hshort⟩, hlabel⟩, hcontact⟩, hdistinct⟩

end Orders

/-! ## Creations -/

/-- The stores, and the time at which each drawer was put last: every put stamps its record. -/
structure StampedStores where
  stores : LocalDb
  drawerUpdatedAt : Uuid → Option Timestamp

section Creations

variable {localBusinessDate : Timestamp → Text → Option Text} {before : StampedStores}
  {db : LocalDb} {draft : CreateOfflineOrderDraft} {ids : CreationIds} {now : Timestamp}

/-- The drawer that a creation puts before the order passes its schema. -/
def putDrawer (db : LocalDb) (draft : CreateOfflineOrderDraft) (ids : CreationIds)
    (now : Timestamp) : Option CashShiftSnapshot :=
  match admitOfflineOrder db draft ids now with
  | .error _ => none
  | .ok admission =>
      match decideOfflinePayment db draft ids now admission with
      | .error _ => none
      | .ok decision => decision.cashShift

/-- A creation, with the stamp of the drawer it puts; an aborted transaction leaves none. -/
def createStamped (localBusinessDate : Timestamp → Text → Option Text) (before : StampedStores)
    (draft : CreateOfflineOrderDraft) (ids : CreationIds) (now : Timestamp) :
    StampedStores × Except LocalError CreatedOfflineOrder :=
  let created := createOfflineOrder localBusinessDate before.stores draft ids now
  let stamped :=
    match putDrawer before.stores draft ids now, created.2 with
    | none, _ => before.drawerUpdatedAt
    | some _, .error .transactionFailed => before.drawerUpdatedAt
    | some drawer, _ => Function.update before.drawerUpdatedAt drawer.stallId (some now)
  ({ stores := created.1, drawerUpdatedAt := stamped }, created.2)

/-- All object stores hold the same records. -/
structure SameStores (before after : StampedStores) : Prop where
  others : after.stores
    = { before.stores with cashShiftSnapshot := after.stores.cashShiftSnapshot }
  drawers : ∀ stallId, after.stores.cashShiftSnapshot.get? stallId
    = before.stores.cashShiftSnapshot.get? stallId
  stamps : after.drawerUpdatedAt = before.drawerUpdatedAt

theorem SameStores.refl (stores : StampedStores) : SameStores stores stores :=
  ⟨rfl, fun _ => rfl, rfl⟩

/-- A draft that is paid in cash and passes every check up to the put of its drawer. -/
structure CashSale (db : LocalDb) (draft : CreateOfflineOrderDraft) (ids : CreationIds)
    (now : Timestamp) (admission : Admission) (shift : CashShiftSnapshot) (amount : ℤ) :
    Prop where
  admitted : admitOfflineOrder db draft ids now = .ok admission
  whole : admission.subtotal = amount
  drawer : db.cashShiftSnapshot.get? draft.stallId = some shift
  paid : ∃ decision, decideOfflinePayment db draft ids now admission = .ok decision
    ∧ decision.cashShift = some (addCashSale shift amount)

/-- What a payment in cash decides. -/
structure PaidInCash (db : LocalDb) (stallId : Uuid) (now : Timestamp) (subtotal : ℚ)
    (decision : PaymentDecision) (shift : CashShiftSnapshot) (amount : ℤ) : Prop where
  drawer : db.cashShiftSnapshot.get? stallId = some shift
  schema : cashShiftSnapshotSchema shift = true
  whole : subtotal = amount
  time : isoTimestamp now = true
  put : decision.cashShift = some (addCashSale shift amount)
  method : decision.method = some .cash
  status : (decision.payment.map (·.status)).getD .unpaid = .paidLocal

theorem schema_of_readOpenCashShift {stallId shiftId : Uuid} {shift : CashShiftSnapshot}
    (hread : readOpenCashShift db stallId = .ok (shift, shiftId)) :
    db.cashShiftSnapshot.get? stallId = some shift ∧ cashShiftSnapshotSchema shift = true := by
  obtain ⟨found, hfound, hread⟩ := bind_eq_ok.mp hread
  obtain ⟨_, hschema, hread⟩ := bind_eq_ok.mp hread
  obtain ⟨-, -, hread⟩ := bind_eq_ok.mp hread
  obtain ⟨_, _, hshift⟩ := bind_eq_ok.mp hread
  cases hshift
  simp only [failWhen_eq_ok, Bool.not_eq_false'] at hschema
  exact ⟨orFail_eq_ok.mp hfound, hschema⟩

theorem paidInCash_of_takeCashPayment {subtotal : ℚ} {option : CatalogPaymentOption}
    {decision : PaymentDecision}
    (htake : takeCashPayment db draft ids now subtotal option = .ok decision) :
    ∃ shift amount, PaidInCash db draft.stallId now subtotal decision shift amount := by
  obtain ⟨⟨shift, shiftId⟩, hread, htake⟩ := bind_eq_ok.mp htake
  obtain ⟨amount, hamount, htake⟩ := bind_eq_ok.mp htake
  obtain ⟨received, -, htake⟩ := bind_eq_ok.mp htake
  obtain ⟨_, htime, htake⟩ := bind_eq_ok.mp htake
  obtain ⟨payment, hpayment, hreturn⟩ := bind_eq_ok.mp htake
  cases hreturn
  obtain ⟨hfound, hschema⟩ := schema_of_readOpenCashShift hread
  have hwhole := toInteger?_eq_some.mp (orFail_eq_ok.mp hamount)
  have hparsed := (offlinePaymentSchema.parse_eq_some_iff.mp (orFail_eq_ok.mp hpayment)).2
  rw [failWhen_eq_ok, Bool.not_eq_false'] at htime
  refine ⟨shift, amount, hfound, hschema, hwhole, htime, rfl, rfl, ?_⟩
  rw [← hparsed]
  rfl

/-- A decision that puts a drawer is a payment in cash. -/
theorem paidInCash_of_decideOfflinePayment {admission : Admission} {decision : PaymentDecision}
    {drawer : CashShiftSnapshot}
    (hdecide : decideOfflinePayment db draft ids now admission = .ok decision)
    (hput : decision.cashShift = some drawer) :
    ∃ shift amount,
      PaidInCash db draft.stallId now admission.subtotal decision shift amount := by
  unfold decideOfflinePayment at hdecide
  split at hdecide
  · cases hdecide
    cases hput
  · obtain ⟨-, -, hdecide⟩ := bind_eq_ok.mp hdecide
    obtain ⟨option, -, hdecide⟩ := bind_eq_ok.mp hdecide
    split at hdecide
    · exact paidInCash_of_takeCashPayment hdecide
    · rw [cashShift_of_takeManualPayment hdecide] at hput
      cases hput

/-- The order is read exactly when the later checks pass. -/
theorem isSome_parsedOrder?_iff {admission : Admission} {decision : PaymentDecision}
    {shift : CashShiftSnapshot} {amount : ℤ} (hwithin : WithinPermit draft ids now admission)
    (hpaid : PaidInCash db draft.stallId now admission.subtotal decision shift amount)
    {date : Text} :
    (parsedOrder? date db draft ids now admission decision).isSome = true
      ↔ LaterChecks (some date) db draft admission.items := by
  constructor
  · intro hsome
    obtain ⟨order, horder⟩ := Option.isSome_iff_exists.mp hsome
    obtain ⟨parts, hparts, hparse⟩ := Option.bind_eq_some_iff.mp horder
    obtain ⟨-, hday, hlines, hsubtotal, hkey⟩ := orderParts?_eq_some.mp hparts
    obtain ⟨hsequence, hstorable, hdistinct, hlabel, hcontact⟩ :=
      (accepts_order_iff hwithin hpaid.method hpaid.status (businessDate?_lt hday) hlines
        hsubtotal).mp (Option.isSome_of_eq_some hparse)
    exact ⟨⟨parts.day, hday, hsequence⟩, ⟨_, DraftKey.uuid?_eq_some.mp hkey⟩, hstorable, hdistinct, hlabel,
      hcontact⟩
  · intro hlater
    obtain ⟨day, hday, hsequence⟩ := hlater.businessDate
    obtain ⟨idempotencyKey, hkey⟩ := hlater.idempotencyKey
    have hdigits : businessDate? date = some day := hday
    obtain ⟨lines, hlines⟩ := exists_lines_of_whole fun item hitem =>
      (hlater.storable item hitem).whole
    let parts : OrderParts := ⟨day, lines, itemsTotal lines, idempotencyKey⟩
    have hsubtotal : admission.subtotal = parts.subtotal := hwithin.subtotal_eq hlines
    have hparts : orderParts? date draft now admission = some parts :=
      orderParts?_eq_some.mpr ⟨hpaid.time, hdigits, hlines, hsubtotal, DraftKey.uuid?_eq_some.mpr hkey⟩
    have haccepts : (offlineOrderSchema.parse
        (draftOrder parts db draft ids now admission decision)).isSome = true :=
      (accepts_order_iff hwithin hpaid.method hpaid.status (businessDate?_lt hdigits) hlines
        hsubtotal).mpr
        ⟨hsequence, hlater.storable, hlater.distinct, hlater.label, hlater.contact⟩
    rw [parsedOrder?, hparts]
    exact haccepts

/-- Building the records of a cash sale fails exactly when a later check does. -/
theorem assembleOfflineOrder_cases {admission : Admission} {decision : PaymentDecision}
    {shift : CashShiftSnapshot} {amount : ℤ} (hwithin : WithinPermit draft ids now admission)
    (hpaid : PaidInCash db draft.stallId now admission.subtotal decision shift amount) :
    (LaterChecks (localBusinessDate now admission.bootstrap.menu.catalog.timezone) db draft
          admission.items
        ∧ ∃ created,
          assembleOfflineOrder localBusinessDate db draft ids now admission decision = .ok created)
      ∨ (¬ LaterChecks (localBusinessDate now admission.bootstrap.menu.catalog.timezone) db draft
          admission.items
        ∧ ∃ error, error ≠ .transactionFailed
          ∧ assembleOfflineOrder localBusinessDate db draft ids now admission decision
            = .error error) := by
  have hprint : ∃ job, assemblePrintJob draft ids admission.bootstrap = .ok job := by
    unfold assemblePrintJob
    split
    · exact ⟨_, rfl⟩
    · exact ⟨_, rfl⟩
  obtain ⟨job, hjob⟩ := hprint
  cases hdate : localBusinessDate now admission.bootstrap.menu.catalog.timezone with
  | none =>
      refine Or.inr ⟨fun hlater => ?_, .rangeError, nofun, ?_⟩
      · obtain ⟨day, hday, -⟩ := hlater.businessDate
        cases hday
      · simp only [assembleOfflineOrder, hdate]
        rfl
  | some date =>
      rw [← isSome_parsedOrder?_iff hwithin hpaid]
      cases horder : parsedOrder? date db draft ids now admission decision with
      | none =>
          refine Or.inr ⟨nofun, .operation .itemLimitExceeded, nofun, ?_⟩
          simp only [assembleOfflineOrder, hdate, orFail_some, bind_ok, horder]
          rfl
      | some order =>
          refine Or.inl ⟨rfl, ?_⟩
          simp only [assembleOfflineOrder, hdate, orFail_some, bind_ok, horder, hjob]
          exact ⟨_, rfl⟩

/-- A cash sale that fails a later check ends with its drawer put. -/
theorem createStamped_of_refused {admission : Admission} {shift : CashShiftSnapshot} {amount : ℤ}
    (hsale : CashSale before.stores draft ids now admission shift amount)
    (hrefused : ¬ LaterChecks (localBusinessDate now admission.bootstrap.menu.catalog.timezone)
      before.stores draft admission.items) :
    ∃ error, createStamped localBusinessDate before draft ids now
      = ({ stores := putCashShift before.stores (some (addCashSale shift amount))
           drawerUpdatedAt := Function.update before.drawerUpdatedAt shift.stallId (some now) },
        .error error) := by
  obtain ⟨decision, hdecide, hput⟩ := hsale.paid
  obtain ⟨_, _, hpaid⟩ := paidInCash_of_decideOfflinePayment hdecide hput
  have hwithin := withinPermit_of_admitOfflineOrder hsale.admitted
  obtain ⟨error, herror, hassemble⟩ : ∃ error, error ≠ .transactionFailed
      ∧ assembleOfflineOrder localBusinessDate before.stores draft ids now admission decision
        = .error error := by
    rcases assembleOfflineOrder_cases hwithin hpaid with ⟨hlater, -⟩ | ⟨-, hfails⟩
    · exact absurd hlater hrefused
    · exact hfails
  have hdrawer : putDrawer before.stores draft ids now = some (addCashSale shift amount) := by
    simp only [putDrawer, hsale.admitted, hdecide, hput]
  have hcreate : createOfflineOrder localBusinessDate before.stores draft ids now
      = (putCashShift before.stores (some (addCashSale shift amount)), .error error) := by
    simp only [createOfflineOrder, hsale.admitted, hdecide, hassemble, hput]
  refine ⟨error, ?_⟩
  unfold createStamped
  rw [hcreate, hdrawer]
  cases error with
  | transactionFailed => exact absurd rfl herror
  | operation code => rfl
  | schemaInvalid => rfl
  | rangeError => rfl
  | indexNotFound => rfl

/-- The put of a drawer changes its record. -/
def Rewrites (before : StampedStores) (shift : CashShiftSnapshot) (amount : ℤ)
    (now : Timestamp) : Prop :=
  addCashSale shift amount ≠ shift ∨ before.drawerUpdatedAt shift.stallId ≠ some now

theorem sameStores_put_iff {shift : CashShiftSnapshot} {stallId : Uuid} {amount : ℤ}
    (hdrawer : before.stores.cashShiftSnapshot.get? stallId = some shift) :
    SameStores before
        { stores := putCashShift before.stores (some (addCashSale shift amount))
          drawerUpdatedAt := Function.update before.drawerUpdatedAt shift.stallId (some now) }
      ↔ ¬ Rewrites before shift amount now := by
  have hstall : shift.stallId = stallId := (Table.get?_eq_some_iff.mp hdrawer).2
  unfold Rewrites
  constructor
  · intro hsame hrewrites
    have hput := hsame.drawers stallId
    have hstamp : some now = before.drawerUpdatedAt shift.stallId :=
      (Function.update_self shift.stallId (some now) before.drawerUpdatedAt).symm.trans
        (congrFun hsame.stamps shift.stallId)
    rw [hdrawer, ← hstall] at hput
    have hself := Table.get?_put_self before.stores.cashShiftSnapshot (addCashSale shift amount)
    rcases hrewrites with hrecord | hlater
    · exact hrecord (Option.some.inj (hself.symm.trans hput))
    · exact hlater hstamp.symm
  · intro hsame
    push Not at hsame
    obtain ⟨hrecord, hstamp⟩ := hsame
    rw [hrecord]
    refine ⟨rfl, fun other => ?_, ?_⟩
    · by_cases hother : other = shift.stallId
      · rw [hother]
        exact (Table.get?_put_self _ shift).trans (hstall ▸ hdrawer.symm)
      · exact Table.get?_put_of_ne hother
    · rw [← hstamp]
      exact Function.update_eq_self _ _

/-- A creation keeps the stores, succeeds, or is a cash sale that fails a later check. -/
theorem createStamped_cases :
    (createStamped localBusinessDate before draft ids now).1 = before
      ∨ (∃ created, (createStamped localBusinessDate before draft ids now).2 = .ok created)
      ∨ ∃ admission shift amount, CashSale before.stores draft ids now admission shift amount
        ∧ ¬ LaterChecks (localBusinessDate now admission.bootstrap.menu.catalog.timezone)
          before.stores draft admission.items := by
  cases hadmission : admitOfflineOrder before.stores draft ids now with
  | error error =>
      left
      simp only [createStamped, createOfflineOrder, putDrawer, hadmission]
  | ok admission =>
      cases hdecide : decideOfflinePayment before.stores draft ids now admission with
      | error error =>
          left
          simp only [createStamped, createOfflineOrder, putDrawer, hadmission, hdecide]
      | ok decision =>
          cases hassemble : assembleOfflineOrder localBusinessDate before.stores draft ids now
              admission decision with
          | ok created =>
              cases hstore : storeOfflineOrder (putCashShift before.stores decision.cashShift)
                  created draft.stallId now with
              | none =>
                  left
                  simp only [createStamped, createOfflineOrder, putDrawer, hadmission, hdecide,
                    hassemble, hstore]
                  split <;> rfl
              | some stored =>
                  right
                  left
                  simp only [createStamped, createOfflineOrder, hadmission, hdecide, hassemble,
                    hstore]
                  exact ⟨created, rfl⟩
          | error error =>
              cases hput : decision.cashShift with
              | none =>
                  left
                  simp only [createStamped, createOfflineOrder, putDrawer, hadmission, hdecide,
                    hassemble, hput]
                  rfl
              | some drawer =>
                  right
                  right
                  obtain ⟨shift, amount, hpaid⟩ := paidInCash_of_decideOfflinePayment hdecide hput
                  have hsale : CashSale before.stores draft ids now admission shift amount :=
                    ⟨hadmission, hpaid.whole, hpaid.drawer, decision, hdecide, hpaid.put⟩
                  refine ⟨admission, shift, amount, hsale, ?_⟩
                  rcases assembleOfflineOrder_cases
                    (withinPermit_of_admitOfflineOrder hadmission) hpaid with
                    ⟨-, created, hok⟩ | ⟨hrefused, -⟩
                  · rw [hassemble] at hok
                    cases hok
                  · exact hrefused

/-- A creation that throws leaves every store as it was, unless it is a cash sale whose put
changes the drawer and which fails a later check. -/
theorem sameStores_of_failed_iff :
    (∀ error, (createStamped localBusinessDate before draft ids now).2 = .error error →
        SameStores before (createStamped localBusinessDate before draft ids now).1)
      ↔ ¬ ∃ admission shift amount, CashSale before.stores draft ids now admission shift amount
        ∧ Rewrites before shift amount now
        ∧ ¬ LaterChecks (localBusinessDate now admission.bootstrap.menu.catalog.timezone)
          before.stores draft admission.items := by
  constructor
  · rintro hkept ⟨admission, shift, amount, hsale, hrewrites, hrefused⟩
    obtain ⟨error, hcreate⟩ := createStamped_of_refused hsale hrefused
    have hsame := hkept error (by rw [hcreate])
    rw [hcreate] at hsame
    exact (sameStores_put_iff hsale.drawer).mp hsame hrewrites
  · intro hnone error herror
    rcases (createStamped_cases : (createStamped localBusinessDate before draft ids now).1 = before
      ∨ _) with hkept | ⟨created, hok⟩ | ⟨admission, shift, amount, hsale, hrefused⟩
    · rw [hkept]
      exact SameStores.refl before
    · rw [hok] at herror
      cases herror
    · obtain ⟨_, hcreate⟩ := createStamped_of_refused hsale hrefused
      rw [hcreate]
      apply (sameStores_put_iff hsale.drawer).mpr
      intro hrewrites
      exact hnone ⟨admission, shift, amount, hsale, hrewrites, hrefused⟩

end Creations

/-! ## A label that is too long -/

/-- The device right after its bootstrap. -/
def sampleStores : StampedStores where
  stores := Run.exec (LocalRun.step LocalRun.sampleBusinessDate) .empty
    [.bootstrap 6 (LocalRun.sampleBootstrap 7 0)]
  drawerUpdatedAt := fun _ => some 0

/-- A cash sale to a customer whose name has 51 characters. -/
def longLabelDraft : CreateOfflineOrderDraft :=
  { LocalRun.sampleDraft 200 with customerLabel := List.replicate 51 'A' }

def longLabelCreation : StampedStores × Except LocalError CreatedOfflineOrder :=
  createStamped LocalRun.sampleBusinessDate sampleStores longLabelDraft (LocalRun.sampleIds 100)
    LocalRun.minuteMs

/-- The creation throws, and the drawer keeps the money of an order that does not exist. -/
theorem long_label_fills_drawer :
    longLabelCreation.2 = .error (.operation .itemLimitExceeded)
      ∧ (sampleStores.stores.cashShiftSnapshot.get? 2).map (·.expectedAmount) = some (some 0)
      ∧ (longLabelCreation.1.stores.cashShiftSnapshot.get? 2).map (·.expectedAmount)
        = some (some 60)
      ∧ longLabelCreation.1.stores.offlineOrders.rows = []
      ∧ ¬ SameStores sampleStores longLabelCreation.1 := by
  have hbefore : (sampleStores.stores.cashShiftSnapshot.get? 2).map (·.expectedAmount)
      = some (some 0) := by decide +kernel
  have hafter : (longLabelCreation.1.stores.cashShiftSnapshot.get? 2).map (·.expectedAmount)
      = some (some 60) := by decide +kernel
  refine ⟨by decide +kernel, hbefore, hafter, by decide +kernel, fun hsame => ?_⟩
  rw [hsame.drawers 2, hbefore] at hafter
  cases hafter

end Stallorder.FailedCreation
