import Stallorder.Core.Run
import Stallorder.Edits.EditedLines

/-!
# Repeated edits

Orders and their events are never deleted, and no operation takes an order to
another stall.  The event of an edit is therefore found again after any run of
operations, and the request that wrote it is answered from it.
-/

namespace Stallorder.StaffEdits

open OrderContract Checks StaffItems
open SyncDatabase (OrderStatus OrderItemStatus PaymentStatus)
open OrderDatabase (FulfillmentType DiscountSource)

variable {Hash : Type} {hash : UpdateStaffOrderItemsInput → Hash}
  {context : EditContext} {db db' : EditDb Hash} {input : EditInput} {order : StoredOrder}
  {result : StaffOrderEditResult}

/-! ## What an edit writes -/

/-- The lines after an edit of the lines before. -/
structure ItemsEdited (context : EditContext) (input : EditInput) (before after : OrderColumns) :
    Prop where
  requested : ∀ entry ∈ requestedExisting input.request, ∃ line ∈ before.items, line.id = entry.1
  lines : ∃ prepared added,
    after.items.table.rows
        = keptItems (requestedExisting input.request) before.items.table.rows ++ added
      ∧ List.Forall₂ (Priced input.organizationId input.stallId context.preparedAt
          context.catalogue) (requestedNew input.request) prepared
      ∧ List.Forall₂ (Created context) prepared added
  distinct : (after.items.table.rows.filterMap (·.sourceLineIndex)).Nodup
  within : ∀ line ∈ after.items, ∀ index, line.sourceLineIndex = some index →
    1 ≤ index ∧ index ≤ 100

/-- The order carries a discount rate that a lottery has drawn. -/
def hasLotteryRate (order : OrderColumns) : Prop :=
  order.discountSource = .lottery ∧ order.discountRateBps.isSome = true

instance (order : OrderColumns) : Decidable (hasLotteryRate order) :=
  inferInstanceAs (Decidable (_ ∧ _))

/-- The amounts after an edit are those of the lines. -/
structure AmountsEdited (before after : OrderColumns) : Prop where
  subtotal : after.subtotal = itemsSubtotal after.items
  total : ¬ hasLotteryRate before → after.total = itemsSubtotal after.items

theorem edited_of_editedColumns {before after : OrderColumns} {items : OrderLines}
    (hedited : editedColumns context before items = some after) :
    after.items = items ∧ AmountsEdited before after := by
  unfold editedColumns enforceLotteryOrderDiscountEligibility at hedited
  cases hsource : before.discountSource with
  | none =>
      simp only [hsource] at hedited
      cases hedited
      exact ⟨rfl, rfl, fun _ => rfl⟩
  | staff =>
      simp only [hsource] at hedited
      cases hedited
      exact ⟨rfl, rfl, fun _ => rfl⟩
  | lottery =>
      cases hrate : before.discountRateBps with
      | none =>
          simp only [hsource, hrate] at hedited
          cases hedited
          exact ⟨rfl, rfl, fun _ => rfl⟩
      | some rateBps =>
          simp only [hsource, hrate] at hedited
          split at hedited
          · cases hedited
          · cases hedited
            refine ⟨rfl, rfl, fun hnone => absurd ⟨hsource, ?_⟩ hnone⟩
            rw [hrate]
            rfl

/-- An edit that changes the database writes the columns of the order and one event. -/
structure Changes (hash : UpdateStaffOrderItemsInput → Hash) (context : EditContext)
    (input : EditInput) (order : StoredOrder) (result : StaffOrderEditResult)
    (db db' : EditDb Hash) (columns : OrderColumns) : Prop where
  orders : db'.orders = setColumns db.orders order.id columns
  events : db.orderEvents.insert?
    (editEvent hash db input order.columns result.before result.after) = some db'.orderEvents
  eventType : result.eventType = editEventType order.columns
  before : result.before = snapshot (orderedItems order.columns) order.columns.subtotal
  after : result.after = snapshot (orderedItems columns) (itemsSubtotal columns.items)
  items : ItemsEdited context input order.columns columns
  amounts : AmountsEdited order.columns columns

theorem changes_of_replaceItems
    (hpending : ∀ line ∈ order.columns.items.table.rows, isStarted line = false)
    (hrequested : ∀ entry ∈ requestedExisting input.request,
      ∃ line ∈ order.columns.items, line.id = entry.1)
    (hdistinct : ((requestedExisting input.request).map (·.1)).Nodup)
    (hreplace : replaceItems hash context db input order = .ok (result, db')) :
    ∃ columns, Changes hash context input order result db db' columns := by
  obtain ⟨_, -, hreplace⟩ := bind_eq_ok.mp hreplace
  obtain ⟨⟨limits, prepared⟩, hprepared, hreplace⟩ := bind_eq_ok.mp hreplace
  obtain ⟨_, -, hreplace⟩ := bind_eq_ok.mp hreplace
  obtain ⟨_, -, hreplace⟩ := bind_eq_ok.mp hreplace
  obtain ⟨_, -, hreplace⟩ := bind_eq_ok.mp hreplace
  obtain ⟨items, hitems, hreplace⟩ := bind_eq_ok.mp hreplace
  obtain ⟨columns, hcolumns, hreplace⟩ := bind_eq_ok.mp hreplace
  obtain ⟨_, -, hreplace⟩ := bind_eq_ok.mp hreplace
  obtain ⟨orderEvents, hevents, hreplace⟩ := bind_eq_ok.mp hreplace
  obtain ⟨_, -, hreplace⟩ := bind_eq_ok.mp hreplace
  cases hreplace
  have hpriced := priced_of_prepareStaffOrderItems (mapError_eq_ok.mp hprepared)
  obtain ⟨hsame, hamounts⟩ := edited_of_editedColumns (orFail_eq_ok.mp hcolumns)
  obtain ⟨added, hrows, hadded⟩ := rows_of_writeItems hpending hdistinct hitems
  refine ⟨columns, rfl, orFail_eq_ok.mp hevents, rfl, rfl, by rw [hsame], ?_, hamounts⟩
  exact {
    requested := hrequested
    lines := ⟨prepared, added, by rw [hsame, hrows], hpriced, hadded⟩
    distinct := nodup_sourceLineIndexes columns.items
    within := fun line hline index hindex => sourceLineIndex_within hline hindex }

theorem pending_of_getStaffOrderEditFailure {columns : OrderColumns}
    (hnone : getStaffOrderEditFailure columns = none) :
    ∀ line ∈ columns.items.table.rows, isStarted line = false := by
  intro line hline
  unfold getStaffOrderEditFailure at hnone
  by_contra hstarted
  have hany : columns.items.table.rows.any isStarted = true :=
    List.any_eq_true.mpr ⟨line, hline, by simpa using hstarted⟩
  simp only [hany, if_true] at hnone
  split at hnone
  · cases hnone
  · split at hnone
    · cases hnone
    · split at hnone <;> cases hnone

theorem failWith_eq_ok {found : Option StaffOrderEditError} {done : Unit} :
    failWith found = .ok done ↔ found = none := by
  cases found with
  | none => simp [failWith]
  | some error => simp [failWith]

/-- A first edit changes nothing, or it replaces items. -/
theorem changes_of_firstEdit
    (hedit : firstEdit hash context db input order = .ok (result, db')) :
    db' = db ∨ ∃ columns, Changes hash context input order result db db' columns := by
  obtain ⟨_, -, hedit⟩ := bind_eq_ok.mp hedit
  obtain ⟨_, hfailure, hedit⟩ := bind_eq_ok.mp hedit
  obtain ⟨_, -, hedit⟩ := bind_eq_ok.mp hedit
  obtain ⟨_, hexisting, hedit⟩ := bind_eq_ok.mp hedit
  rw [failWhen_eq_ok, Bool.or_eq_false_iff, List.any_eq_false] at hexisting
  split at hedit
  · cases hedit
    exact Or.inl rfl
  · right
    refine changes_of_replaceItems
      (pending_of_getStaffOrderEditFailure (failWith_eq_ok.mp hfailure)) ?_ ?_ hedit
    · intro entry hentry
      have hfound := hexisting.1 entry hentry
      rw [Option.isNone_iff_eq_none, ← ne_eq, Option.ne_none_iff_exists'] at hfound
      obtain ⟨line, hline⟩ := hfound
      have hid := List.find?_some hline
      exact ⟨line, List.mem_of_find?_eq_some hline, of_decide_eq_true hid⟩
    · simpa using hexisting.2

/-! ## What stays -/

/-- The two rows are the same order of the same stall. -/
def SameOrder (order stored : StoredOrder) : Prop :=
  stored.id = order.id ∧ stored.organizationId = order.organizationId
    ∧ stored.stallId = order.stallId

/-- No order and no event has gone. -/
structure Extends (db db' : EditDb Hash) : Prop where
  orders : ∀ order ∈ db.orders, ∃ stored ∈ db'.orders, SameOrder order stored
  events : ∀ event ∈ db.orderEvents, event ∈ db'.orderEvents

theorem Extends.refl (db : EditDb Hash) : Extends db db where
  orders order horder := ⟨order, horder, rfl, rfl, rfl⟩
  events _ hevent := hevent

theorem setColumns_keeps (orders : Table StoredOrder) (orderId : Uuid) (columns : OrderColumns)
    (order : StoredOrder) (horder : order ∈ orders) :
    ∃ stored ∈ setColumns orders orderId columns, SameOrder order stored := by
  refine ⟨_, Table.mem_rewrite_of_mem _ horder, ?_⟩
  by_cases hid : order.id = orderId
  · rw [if_pos hid]
    exact ⟨rfl, rfl, rfl⟩
  · rw [if_neg hid]
    exact ⟨rfl, rfl, rfl⟩

theorem mem_getD_insert? {Row Key : Type*} [Indexed Row Key] {table : Table Row} {row stored : Row}
    (hstored : stored ∈ table) : stored ∈ (table.insert? row).getD table := by
  cases hinsert : table.insert? row with
  | none => exact hstored
  | some table' => exact (Table.mem_of_insert? hinsert).mpr (Or.inl hstored)

theorem Changes.extends {columns : OrderColumns}
    (hchanges : Changes hash context input order result db db' columns) : Extends db db' where
  orders stored hstored := by
    rw [hchanges.orders]
    exact setColumns_keeps db.orders order.id columns stored hstored
  events event hevent := (Table.mem_of_insert? hchanges.events).mpr (Or.inl hevent)

/-- The event of the change and the order that it belongs to are stored. -/
structure Recorded (hash : UpdateStaffOrderItemsInput → Hash) (input : EditInput)
    (result : StaffOrderEditResult) (db : EditDb Hash) : Prop where
  order : ∃ order ∈ db.orders, order.id = input.orderId
    ∧ order.organizationId = input.organizationId ∧ order.stallId = input.stallId
  event : ∃ event ∈ db.orderEvents, ∃ source columns,
    event = editEvent hash source input columns result.before result.after
      ∧ result.eventType = editEventType columns

theorem Recorded.of_extends (hrecorded : Recorded hash input result db)
    (hextends : Extends db db') : Recorded hash input result db' where
  order := by
    obtain ⟨order, horder, hid, horganization, hstall⟩ := hrecorded.order
    obtain ⟨stored, hstored, hsame⟩ := hextends.orders order horder
    exact ⟨stored, hstored, hsame.1.trans hid, hsame.2.1.trans horganization,
      hsame.2.2.trans hstall⟩
  event := by
    obtain ⟨event, hevent, hmade⟩ := hrecorded.event
    exact ⟨event, hextends.events event hevent, hmade⟩

theorem recorded_of_changes {columns : OrderColumns} (hfound : findOrder db input = some order)
    (hchanges : Changes hash context input order result db db' columns) :
    Recorded hash input result db' where
  order := by
    obtain ⟨hget, hscope⟩ := Option.filter_eq_some_iff.mp hfound
    obtain ⟨hmem, hid⟩ := Table.get?_eq_some_iff.mp hget
    obtain ⟨stored, hstored, hsame⟩ := hchanges.extends.orders order hmem
    simp only [Bool.and_eq_true, decide_eq_true_eq] at hscope
    exact ⟨stored, hstored, hsame.1.trans hid, hsame.2.1.trans hscope.1,
      hsame.2.2.trans hscope.2⟩
  event := by
    have hevent := (Table.mem_of_insert? hchanges.events).mpr (Or.inr rfl)
    exact ⟨_, hevent, db, order.columns, rfl, hchanges.eventType⟩

/-! ## Further operations -/

variable [DecidableEq Hash]

theorem changes_of_runEdit (hrun : runEdit hash context db input = (.ok result, db'))
    (hchanged : db' ≠ db) :
    ∃ order columns, findOrder db input = some order
      ∧ Changes hash context input order result db db' columns := by
  unfold runEdit at hrun
  split at hrun
  · next result' changed hedit =>
    cases hrun
    obtain ⟨order, horder, hedit⟩ := bind_eq_ok.mp hedit
    rw [orFail_eq_ok] at horder
    cases hprior : db.orderEvents.get? input.request.changeId with
    | some prior =>
        simp only [hprior] at hedit
        obtain ⟨_, -, hpure⟩ := bind_eq_ok.mp hedit
        cases hpure
        exact absurd rfl hchanged
    | none =>
        simp only [hprior] at hedit
        rcases changes_of_firstEdit hedit with hsame | ⟨columns, hchanges⟩
        · exact absurd hsame hchanged
        · exact ⟨order, columns, horder, hchanges⟩
  · cases hrun

inductive EditCommand (Hash : Type)
  | edit (context : EditContext) (input : EditInput)
  /-- Any other change of an order and its lines. -/
  | writeOrder (orderId : Uuid) (columns : OrderColumns)
  | placeOrder (order : StoredOrder)
  | recordEvent (event : OrderEvent Hash)

def step (hash : UpdateStaffOrderItemsInput → Hash) (db : EditDb Hash) :
    EditCommand Hash → EditDb Hash
  | .edit context input => (runEdit hash context db input).2
  | .writeOrder orderId columns => { db with orders := setColumns db.orders orderId columns }
  | .placeOrder order => { db with orders := (db.orders.insert? order).getD db.orders }
  | .recordEvent event =>
      { db with orderEvents := (db.orderEvents.insert? event).getD db.orderEvents }

theorem extends_runEdit (hash : UpdateStaffOrderItemsInput → Hash) (context : EditContext)
    (db : EditDb Hash) (input : EditInput) :
    Extends db (runEdit hash context db input).2 := by
  by_cases hsame : (runEdit hash context db input).2 = db
  · rw [hsame]
    exact Extends.refl db
  · rcases hrun : runEdit hash context db input with ⟨outcome, db'⟩
    rw [hrun] at hsame
    cases outcome with
    | ok result =>
        obtain ⟨_, _, -, hchanges⟩ := changes_of_runEdit hrun hsame
        exact hchanges.extends
    | error error =>
        unfold runEdit at hrun
        split at hrun
        · cases hrun
        · cases hrun
          exact absurd rfl hsame

theorem extends_step (db : EditDb Hash) (command : EditCommand Hash) :
    Extends db (step hash db command) := by
  cases command with
  | edit context input => exact extends_runEdit hash context db input
  | writeOrder orderId columns =>
      exact ⟨setColumns_keeps db.orders orderId columns, fun _ hevent => hevent⟩
  | placeOrder order =>
      refine ⟨fun stored hstored => ?_, fun _ hevent => hevent⟩
      exact ⟨stored, mem_getD_insert? hstored, rfl, rfl, rfl⟩
  | recordEvent event =>
      refine ⟨fun stored hstored => ⟨stored, hstored, rfl, rfl, rfl⟩, fun _ hevent => ?_⟩
      exact mem_getD_insert? hevent

/-! ## The answer to a repeated request -/

/-- A recorded request is answered from its event, and nothing is written. -/
theorem replay_of_recorded (context : EditContext) (hrecorded : Recorded hash input result db) :
    ∃ order, runEdit hash context db input
      = (.ok { result with order }, db) := by
  obtain ⟨order, horder, hid, horganization, hstall⟩ := hrecorded.order
  obtain ⟨event, hevent, source, columns, hmade, htype⟩ := hrecorded.event
  refine ⟨order, ?_⟩
  have hfound : findOrder db input = some order := by
    rw [findOrder, Option.filter_eq_some_iff]
    exact ⟨Table.get?_eq_some_iff.mpr ⟨horder, hid⟩, by simp [horganization, hstall]⟩
  have hprior : db.orderEvents.get? input.request.changeId = some event :=
    Table.get?_eq_some_iff.mpr ⟨hevent, by rw [hmade]; rfl⟩
  have hreplay : replayEdit hash input order event = .ok { result with order } := by
    simp [replayEdit, hmade, editEvent, htype, Option.filter]
  unfold runEdit editStaffOrderItems
  simp [hfound, hprior, hreplay]

/-- However the database goes on, the request is answered as before and writes nothing. -/
def Replays (hash : UpdateStaffOrderItemsInput → Hash) (input : EditInput)
    (result : StaffOrderEditResult) (db : EditDb Hash) : Prop :=
  ∀ (commands : List (EditCommand Hash)) (context : EditContext),
    ∃ replayed, runEdit hash context (Run.exec (step hash) db commands) input
        = (.ok replayed, Run.exec (step hash) db commands)
      ∧ replayed.before = result.before ∧ replayed.after = result.after
      ∧ replayed.eventType = result.eventType

theorem replays_of_recorded (hrecorded : Recorded hash input result db) :
    Replays hash input result db := by
  intro commands context
  have hlater : Recorded hash input result (Run.exec (step hash) db commands) :=
    Run.invariant_exec (Recorded hash input result)
      (fun state command hstate => hstate.of_extends (extends_step state command))
      hrecorded commands
  obtain ⟨order, hreplay⟩ := replay_of_recorded context hlater
  exact ⟨_, hreplay, rfl, rfl, rfl⟩

/-- An edit that fails leaves the database as it was.  One that changes it is
answered alike ever after, and the order has the kept and the added lines and
their amounts. -/
theorem runEdit_replays_and_conserves (hash : UpdateStaffOrderItemsInput → Hash)
    (context : EditContext) (db : EditDb Hash) (input : EditInput) :
    (∀ error, (runEdit hash context db input).1 = .error error →
      (runEdit hash context db input).2 = db)
    ∧ ∀ result db', runEdit hash context db input = (.ok result, db') → db' ≠ db →
        Replays hash input result db'
          ∧ ∃ order ∈ db.orders, order.id = input.orderId
            ∧ ∃ columns, { order with columns } ∈ db'.orders
              ∧ result.before = snapshot (orderedItems order.columns) order.columns.subtotal
              ∧ result.after = snapshot (orderedItems columns) (itemsSubtotal columns.items)
              ∧ ItemsEdited context input order.columns columns
              ∧ AmountsEdited order.columns columns := by
  constructor
  · intro error herror
    unfold runEdit at herror ⊢
    cases hedit : editStaffOrderItems hash context db input with
    | ok written =>
        rw [hedit] at herror
        cases herror
    | error found => rfl
  · intro result db' hrun hchanged
    obtain ⟨order, columns, hfound, hchanges⟩ := changes_of_runEdit hrun hchanged
    refine ⟨replays_of_recorded (recorded_of_changes hfound hchanges), ?_⟩
    obtain ⟨hget, -⟩ := Option.filter_eq_some_iff.mp hfound
    obtain ⟨hmem, hid⟩ := Table.get?_eq_some_iff.mp hget
    refine ⟨order, hmem, hid, columns, ?_, hchanges.before, hchanges.after, hchanges.items,
      hchanges.amounts⟩
    rw [hchanges.orders]
    refine (Table.mem_rewrite _).mpr ⟨order, hmem, ?_⟩
    rw [if_pos rfl]

/-! ## Orders that are edited -/

def exampleLine (id : Uuid) (sourceLineIndex : Option ℕ) (quantity : ℕ) : OrderLine where
  id := id
  productId := some 7
  sourceLineIndex := sourceLineIndex
  name := []
  baseUnitPrice := 100
  unitPrice := 100
  quantity := quantity
  isOrderDiscountEligible := false
  note := none
  isPromotion := false
  status := .pending
  taskStarted := false
  noteOptions := []
  createdAt := 0

/-- An order that nobody has paid. -/
def exampleColumns (source : OrderSource) (discountSource : DiscountSource)
    (discountRateBps : Option ℕ) (items : OrderLines) : OrderColumns where
  source := source
  fulfillmentType := .takeout
  status := .confirmed
  paymentStatus := .unpaid
  payment := none
  note := none
  discountSource := discountSource
  discountRateBps := discountRateBps
  discountAmount := 0
  discountOptionId := none
  subtotal := itemsSubtotal items
  total := itemsSubtotal items
  updatedAt := 0
  items := items

def exampleDb (columns : OrderColumns) : EditDb UpdateStaffOrderItemsInput where
  orders := ⟨[{ id := 1, organizationId := 2, stallId := 3, columns }],
    List.pairwise_singleton _ _⟩
  orderEvents := .empty

def exampleProduct : StallProduct where
  organizationId := 2
  stallId := 3
  productId := 7
  isEnabled := true
  availableFrom := none
  availableUntil := none
  priceOverride := none
  product := {
    organizationId := 2
    name := []
    defaultPrice := 100
    kind := .single
    isActive := true
    categoryIsActive := true
    isOrderDiscountEligible := true
    bundleChoiceGroups := []
    noteGroupAssignments := [] }

def exampleContext : EditContext where
  preparedAt := 5
  checkedAt := 5
  updatedAt := 5
  settings := some {
    maxItemQuantity := 20
    maxUniqueProducts := 20
    maxTotalQuantity := 50
    maxNoteLength := 200 }
  catalogue := ⟨[exampleProduct], List.pairwise_singleton _ _⟩
  newItemId position := 20 + position
  itemCreatedAt _ := 5
  freezeFailure := none
  commitFailure := none

def exampleInput (items : List EditItem) : EditInput where
  organizationId := 2
  stallId := 3
  orderId := 1
  actorProfileId := 4
  request := {
    changeId := 9
    expectedUpdatedAt := { text := "1970-01-01T00:00:00.000Z".toList, instant := 0 }
    items
    publicAmendment := some { reason := .other, customerMessage := [] } }

/-- Two lines without numbers, as staff orders have them. -/
def staffLines : OrderLines where
  table := ⟨[exampleLine 11 none 2, exampleLine 12 none 1], by decide⟩
  checked := by simp [Table.mem_iff, exampleLine, orderItemsSourceLineIndexCheck]

def staffOrderDb : EditDb UpdateStaffOrderItemsInput :=
  exampleDb (exampleColumns .staffPos .none none staffLines)

/-- A public order whose lottery discount came to nothing. -/
def lotteryOrderDb : EditDb UpdateStaffOrderItemsInput :=
  exampleDb (exampleColumns .qrMenu .lottery (some 9000) {
    table := ⟨[exampleLine 11 (some 1) 1], List.pairwise_singleton _ _⟩
    checked := by simp [Table.mem_iff, exampleLine, orderItemsSourceLineIndexCheck] })

/-- Keep the first line and add another one; a second line is removed. -/
def keepAndAdd : EditInput :=
  exampleInput [.existing 11 1, .new {
    productId := 7
    quantity := 3
    note := []
    noteOptionIds := []
    bundleChoiceIds := [] }]

/-- After the edit the order is paid and edited no more, and another order is placed. -/
def laterCommands : List (EditCommand UpdateStaffOrderItemsInput) :=
  [.writeOrder 1 { exampleColumns .staffPos .none none staffLines with
      status := .completed
      paymentStatus := .paid
      updatedAt := 9 },
    .placeOrder {
      id := 2
      organizationId := 2
      stallId := 3
      columns := exampleColumns .staffPos .none none staffLines }]

/-- The lines of the stored orders, with their quantities and numbers. -/
def storedLines (db : EditDb UpdateStaffOrderItemsInput) : List (List (Uuid × ℕ × Option ℕ)) :=
  db.orders.rows.map fun order => order.columns.items.table.rows.map fun line =>
    (line.id, line.quantity, line.sourceLineIndex)

/-- The edit keeps a line, removes one and adds one; it is answered alike when the order has
become another one since. -/
theorem runEdit_replays_and_conserves_keepAndAdd :
    ∃ result db', runEdit id exampleContext staffOrderDb keepAndAdd = (.ok result, db')
      ∧ storedLines db' = [[(11, 1, none), (20, 3, some 1)]]
      ∧ storedLines (Run.exec (step id) db' laterCommands)
        = [[(11, 2, none), (12, 1, none)], [(11, 2, none), (12, 1, none)]]
      ∧ ∃ replayed, runEdit id exampleContext (Run.exec (step id) db' laterCommands) keepAndAdd
          = (.ok replayed, Run.exec (step id) db' laterCommands)
        ∧ replayed.before = result.before ∧ replayed.after = result.after := by
  have hok : (runEdit id exampleContext staffOrderDb keepAndAdd).1.isOk = true := by
    decide +kernel
  have hlines : storedLines (runEdit id exampleContext staffOrderDb keepAndAdd).2
      = [[(11, 1, none), (20, 3, some 1)]] := by decide +kernel
  have hlater : storedLines (Run.exec (step id)
      (runEdit id exampleContext staffOrderDb keepAndAdd).2 laterCommands)
        = [[(11, 2, none), (12, 1, none)], [(11, 2, none), (12, 1, none)]] := by decide +kernel
  have hbefore : storedLines staffOrderDb = [[(11, 2, none), (12, 1, none)]] := by decide +kernel
  rcases hrun : runEdit id exampleContext staffOrderDb keepAndAdd with ⟨outcome, db'⟩
  rw [hrun] at hok hlines hlater
  cases outcome with
  | error error => cases hok
  | ok result =>
      have hchanged : db' ≠ staffOrderDb := by
        rintro rfl
        rw [hbefore] at hlines
        cases hlines
      obtain ⟨hreplays, -⟩ := (runEdit_replays_and_conserves id exampleContext staffOrderDb
        keepAndAdd).2 result db' hrun hchanged
      obtain ⟨replayed, hreplay, hsame, hafter, -⟩ := hreplays laterCommands exampleContext
      exact ⟨result, db', rfl, hlines, hlater, replayed, hreplay, hsame, hafter⟩

/-- A line that stays can be without a number, and a lottery lowers the total again. -/
theorem edit_leaves_unnumbered_line_and_lower_total :
    ((runEdit id exampleContext staffOrderDb keepAndAdd).1.isOk = true
      ∧ storedLines (runEdit id exampleContext staffOrderDb keepAndAdd).2
        = [[(11, 1, none), (20, 3, some 1)]])
    ∧ ((runEdit id exampleContext lotteryOrderDb keepAndAdd).1.isOk = true
      ∧ (runEdit id exampleContext lotteryOrderDb keepAndAdd).2.orders.rows.map
        (fun order => (itemsSubtotal order.columns.items, order.columns.subtotal,
          order.columns.total)) = [(400, 400, 370)]) := by
  decide +kernel

end Stallorder.StaffEdits
