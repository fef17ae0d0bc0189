import Stallorder.Core.Rounding
import Stallorder.Delivery.DuplicateJobs
import Stallorder.Delivery.ImportOnce

/-!
# The amounts of an imported order

An import keeps the subtotal of the platform and its discounts, and makes a unit
price of the total of every line.  The total of the order follows from its
subtotal.  The items add up to the lines of the platform only when the rounding
of the unit prices evens out.
-/

namespace Stallorder.ImportedAmounts

open OrderContract DeliveryDatabase ExternalOrders Transaction Transaction.Program
open Rounding

variable {session session' : Session DeliveryDb}

/-! ## Sums of lines -/

def linesAmount (items : List ExternalOrderItem) : ℤ :=
  (items.map fun item => item.totalPrice).sum

def itemsAmount (items : List PreparedOrderItem) : ℤ :=
  (items.map fun item => item.unitPrice * item.quantity).sum

/-- The order of the stall foots, and agrees with the platform's order. -/
structure Foots (platform : NormalizedExternalOrder) (order : ImportedOrder) : Prop where
  lines : itemsAmount order.items = linesAmount platform.items
  subtotal : linesAmount platform.items = platform.pricing.subtotal →
    itemsAmount order.items = order.subtotal
  total : order.total = order.subtotal - order.discountAmount
  nonneg : 0 ≤ order.total

/-- What the unit prices lose of the lines. -/
def lostByRounding (items : List ExternalOrderItem) : ℤ :=
  (items.map fun item => cutOff item.totalPrice item.quantity).sum

/-- What the unit prices put on top of the lines. -/
def gainedByRounding (items : List ExternalOrderItem) : ℤ :=
  (items.map fun item => addedOn item.totalPrice item.quantity).sum

/-! ## Prepared items -/

/-- The amounts of an item are derived from those of a line. -/
def PricedFrom (item : ExternalOrderItem) (prepared : PreparedOrderItem) : Prop :=
  prepared.unitPrice = roundHalfUp item.totalPrice item.quantity
    ∧ prepared.quantity = item.quantity

theorem pricedFrom_of_prepareItem {menu : MenuReads} {item : ExternalOrderItem}
    {prepared : PreparedOrderItem} (hprepare : prepareItem menu item = some prepared) :
    PricedFrom item prepared := by
  obtain ⟨productId, _, hproduct⟩ := Option.bind_eq_some_iff.mp hprepare
  split at hproduct
  · obtain ⟨noteOptions, _, hreturn⟩ := Option.bind_eq_some_iff.mp hproduct
    cases hreturn
    exact ⟨rfl, rfl⟩
  · cases hproduct

theorem pricedFrom_of_prepareMappedItems {menu : MenuReads} {order : NormalizedExternalOrder}
    {items : List PreparedOrderItem} (hprepare : prepareMappedItems menu order = some items) :
    List.Forall₂ PricedFrom order.items items := by
  unfold prepareMappedItems at hprepare
  split at hprepare
  · apply (Checks.forall₂_of_mapM_eq_some hprepare).imp
    intro item prepared hitem
    exact pricedFrom_of_prepareItem hitem
  · cases hprepare

theorem itemsAmount_of_pricedFrom {items : List ExternalOrderItem}
    {prepared : List PreparedOrderItem} (hpriced : List.Forall₂ PricedFrom items prepared) :
    itemsAmount prepared
      = (items.map fun item =>
        roundHalfUp item.totalPrice item.quantity * item.quantity).sum := by
  unfold itemsAmount
  induction hpriced with
  | nil => rfl
  | cons hitem hitems ih =>
      obtain ⟨hprice, hquantity⟩ := hitem
      simp only [List.map_cons, List.sum_cons, ih, hprice, hquantity]

theorem quantity_pos_of_pricedFrom {items : List ExternalOrderItem}
    {prepared : List PreparedOrderItem} (hpriced : List.Forall₂ PricedFrom items prepared)
    (hchecks : ∀ item ∈ prepared, 0 < item.quantity) : ∀ item ∈ items, 0 < item.quantity := by
  induction hpriced with
  | nil =>
      intro item hitem
      cases hitem
  | cons hitem hitems ih =>
      rw [List.forall_mem_cons] at hchecks ⊢
      exact ⟨hitem.2 ▸ hchecks.1, ih hchecks.2⟩

/-! ## The order that an import creates -/

/-- The order of the stall that an import wrote. -/
structure Written (input : ImportInput) (orderId : Uuid) (order : ImportedOrder) : Prop where
  id_eq : order.id = orderId
  priced : List.Forall₂ PricedFrom input.order.items order.items
  subtotal_eq : order.subtotal = input.order.pricing.subtotal

/-- A fresh import wrote its order, and its transaction can be committed. -/
def Writes (input : ImportInput) (outcome : ImportOutcome) (session : Session DeliveryDb) : Prop :=
  ∀ orderId, outcome = .imported orderId false →
    session.aborted = false ∧ ∃ order ∈ session.db.orders, Written input orderId order

theorem orders_of_updateImportEvent {webhookEventId : Option Uuid} {connectionId : Uuid}
    {change : WebhookEvent → WebhookEvent} {done : Unit}
    (hrun : updateImportEvent webhookEventId connectionId change session = (.ok done, session')) :
    session'.aborted = session.aborted ∧ session'.db.orders = session.db.orders := by
  cases webhookEventId with
  | none =>
      obtain ⟨-, rfl⟩ := pure_eq_ok.mp hrun
      exact ⟨rfl, rfl⟩
  | some eventId =>
      obtain ⟨_, db, hupdate, rfl⟩ := statement_eq_ok.mp hrun
      obtain ⟨_, _, hreturn⟩ := Checks.bind_eq_ok.mp hupdate
      cases hreturn
      exact ⟨rfl, rfl⟩

theorem ensures_importMapped (externalOrder : ExternalOrder) {input : ImportInput} (jobId : Uuid)
    {menu : MenuReads} {items : List PreparedOrderItem}
    (hprepare : prepareMappedItems menu input.order = some items) (timeoutSeconds : ℤ)
    (orderId : Uuid) (now : Timestamp) :
    Ensures (Writes input)
      (importMapped externalOrder input jobId items timeoutSeconds orderId now) session := by
  apply ensures_bind
  intro _ middle hcreateRun
  obtain ⟨hlive, created, hcreate, rfl⟩ := statement_eq_ok.mp hcreateRun
  apply ensures_bind
  intro updated last hlinkRun
  obtain ⟨_, linkedDb, hlink, rfl⟩ := statement_eq_ok.mp hlinkRun
  apply ensures_bind
  intro _ final hmark outcome session' hreturn
  obtain ⟨rfl, rfl⟩ := pure_eq_ok.mp hreturn
  obtain ⟨haborted, horders⟩ := orders_of_updateImportEvent hmark
  have hcreated := ((ImportOnce.mem_of_createOrder hcreate).1 _).mpr (Or.inr rfl)
  rw [← (ImportOnce.mem_of_updateExternalOrder hlink).2.1] at hcreated
  intro importedId himported
  cases himported
  refine ⟨haborted.trans hlive, _, horders ▸ hcreated, rfl, ?_, rfl⟩
  exact pricedFrom_of_prepareMappedItems hprepare

/-- An import that has to wait for a mapping imports nothing. -/
theorem ensures_markMappingRequired (externalOrder : ExternalOrder) (input : ImportInput)
    (reason : MappingReason) (now : Timestamp) :
    Ensures (Writes input)
      (markMappingRequired externalOrder input.webhookEventId reason now) session := by
  apply ensures_bind
  intro _ _ _
  apply ensures_bind
  intro _ _ _ outcome session' hreturn
  obtain ⟨rfl, -⟩ := pure_eq_ok.mp hreturn
  intro importedId himported
  cases himported

theorem ensures_importFresh (externalOrder : ExternalOrder) (input : ImportInput) (jobId : Uuid)
    (reads : StallReads) (orderId : Uuid) (now : Timestamp) :
    Ensures (Writes input) (importFresh externalOrder input jobId reads orderId now) session := by
  apply ensures_failWhen_bind
  intro _
  apply ensures_query_bind
  split
  · split
    · exact ensures_markMappingRequired _ _ _ _
    · split
      · exact ensures_markMappingRequired _ _ _ _
      · next items hprepare =>
          apply ensures_failWhen_bind
          intro _
          exact ensures_importMapped _ _ hprepare _ _ _
  · exact ensures_markMappingRequired _ _ _ _

theorem ensures_importOrder (input : ImportInput) (jobId : Uuid) (reads : StallReads)
    (orderId : Uuid) (now : Timestamp) :
    Ensures (Writes input) (importOrder input jobId reads orderId now) session := by
  apply ensures_query_bind
  apply ensures_orFail_bind
  intro externalOrder _
  split
  · intro outcome session' hreturn
    obtain ⟨rfl, -⟩ := pure_eq_ok.mp hreturn
    intro importedId himported
    cases himported
  · exact ensures_importFresh _ _ _ _ _ _

theorem written_of_importExternalOrderFromJob {input : ImportInput} {jobId : Uuid}
    {reads : StallReads} {orderId : Uuid} {now : Timestamp} {id : Uuid} {db db' : DeliveryDb}
    (hrun : importExternalOrderFromJob input jobId reads orderId now db
      = (.ok (.imported id false), db')) :
    ∃ order ∈ db'.orders, Written input id order := by
  unfold importExternalOrderFromJob at hrun
  split at hrun
  · cases hrun
  · rcases hprogram : importOrder input jobId reads orderId now (.begin db) with ⟨outcome, session⟩
    cases outcome with
    | error error =>
        rw [transact_of_error hprogram] at hrun
        cases hrun
    | ok outcome =>
        rw [transact, hprogram] at hrun
        cases hrun
        obtain ⟨hlive, horder⟩ :=
          ensures_importOrder input jobId reads orderId now _ _ hprogram id rfl
        rw [hlive]
        exact horder

/-! ## When the amounts foot -/

theorem amounts_of_ordersChecks {order : ImportedOrder} (hchecks : ordersChecks order = true) :
    order.total = order.subtotal - order.discountAmount ∧ 0 ≤ order.total
      ∧ ∀ item ∈ order.items, 0 < item.quantity := by
  simp only [ordersChecks, Bool.and_eq_true, decide_eq_true_eq, List.all_eq_true] at hchecks
  refine ⟨by omega, by omega, fun item hmem => ?_⟩
  have hitem := hchecks.2 item hmem
  simp only [orderItemsChecks, Bool.and_eq_true, decide_eq_true_eq] at hitem
  omega

theorem foots_iff {input : ImportInput} {orderId : Uuid} {order : ImportedOrder}
    (hwritten : Written input orderId order) (hchecks : ordersChecks order = true) :
    Foots input.order order
      ↔ lostByRounding input.order.items = gainedByRounding input.order.items := by
  obtain ⟨htotal, hnonneg, hitems⟩ := amounts_of_ordersChecks hchecks
  have hpos : ∀ item ∈ input.order.items, 0 < item.quantity :=
    quantity_pos_of_pricedFrom hwritten.priced hitems
  have hlines : itemsAmount order.items = linesAmount input.order.items
      ↔ lostByRounding input.order.items = gainedByRounding input.order.items := by
    rw [itemsAmount_of_pricedFrom hwritten.priced]
    exact sum_roundHalfUp_mul_eq_iff hpos
  constructor
  · intro hfoots
    exact hlines.mp hfoots.lines
  · intro hsame
    have hsum := hlines.mpr hsame
    refine ⟨hsum, fun hsubtotal => ?_, htotal, hnonneg⟩
    rw [hsum, hsubtotal, hwritten.subtotal_eq]

/-- The order of an import foots exactly when the unit prices lose as much of its
lines as they put on top. -/
theorem import_foots_iff {input : ImportInput} {jobId : Uuid} {reads : StallReads}
    {orderId : Uuid} {now : Timestamp} {id : Uuid} {db db' : DeliveryDb}
    (hrun : importExternalOrderFromJob input jobId reads orderId now db
      = (.ok (.imported id false), db')) :
    ∃ order ∈ db'.orders, order.id = id
      ∧ (Foots input.order order
        ↔ lostByRounding input.order.items = gainedByRounding input.order.items) := by
  obtain ⟨order, horder, hwritten⟩ := written_of_importExternalOrderFromJob hrun
  exact ⟨order, horder, hwritten.id_eq, foots_iff hwritten (db'.orders.checked order horder)⟩

/-! ## Teas for one hundred -/

/-- The ledger holds the sample order, ready to be imported. -/
def ledgerDb : DeliveryDb :=
  { DuplicateJobs.sampleDb with
    externalOrders := ⟨⟨[ledgerRow (sampleConnection .uberEats) (sampleOrder .uberEats)
      "orders.notification".toList "hash".toList 100], List.pairwise_singleton _ _⟩, by decide⟩ }

def sampleImport (order : NormalizedExternalOrder) :
    Except DeliveryError ImportOutcome × DeliveryDb :=
  importExternalOrderFromJob ⟨100, none, order⟩ 102 sampleReads 200 1000 ledgerDb

def threeTeas : NormalizedExternalOrder :=
  { sampleOrder .uberEats with
    items := (sampleOrder .uberEats).items.map fun item =>
      { item with quantity := 3, unitPrice := 33 } }

def teaLine (externalItemId : Text) (quantity unitPrice totalPrice : ℤ) : ExternalOrderItem where
  externalItemId := externalItemId
  externalProductId := "product".toList
  name := "Tea".toList
  quantity := quantity
  unitPrice := unitPrice
  totalPrice := totalPrice
  modifiers := []
  notes := none

/-- One unit price loses what another one puts on top. -/
def evenTeas : NormalizedExternalOrder :=
  { sampleOrder .uberEats with
    items := [teaLine "first".toList 3 13 40, teaLine "second".toList 3 17 50,
      teaLine "third".toList 1 10 10] }

theorem import_foots_iff_evenTeas :
    evenTeas.accepts = true
      ∧ lostByRounding evenTeas.items = 1 ∧ gainedByRounding evenTeas.items = 1
      ∧ ∃ order ∈ (sampleImport evenTeas).2.orders, order.id = 200 ∧ Foots evenTeas order := by
  have himported : (sampleImport evenTeas).1 = .ok (.imported 200 false) := by decide +kernel
  have hrun : importExternalOrderFromJob ⟨100, none, evenTeas⟩ 102 sampleReads 200 1000 ledgerDb
      = (.ok (.imported 200 false), (sampleImport evenTeas).2) := Prod.ext himported rfl
  have hlost : lostByRounding evenTeas.items = 1 := by decide +kernel
  have hgained : gainedByRounding evenTeas.items = 1 := by decide +kernel
  obtain ⟨order, horder, hid, hfoots⟩ := import_foots_iff hrun
  exact ⟨by decide +kernel, hlost, hgained, order, horder, hid,
    hfoots.mpr (hlost.trans hgained.symm)⟩

/-- The unit price of 33 accounts for 99 of the 100. -/
theorem three_teas_do_not_foot :
    threeTeas.accepts = true
      ∧ (sampleImport threeTeas).1 = .ok (.imported 200 false)
      ∧ ∃ order ∈ (sampleImport threeTeas).2.orders, order.id = 200
        ∧ ¬ Foots threeTeas order := by
  have hshort : ∃ order ∈ (sampleImport threeTeas).2.orders.table.rows, order.id = 200
      ∧ itemsAmount order.items ≠ linesAmount threeTeas.items := by
    decide +kernel
  obtain ⟨order, horder, hid, hamount⟩ := hshort
  refine ⟨by decide +kernel, by decide +kernel, order, horder, hid, ?_⟩
  intro hfoots
  exact hamount hfoots.lines

end Stallorder.ImportedAmounts
