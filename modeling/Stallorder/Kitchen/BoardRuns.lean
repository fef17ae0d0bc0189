import Stallorder.Core.Run
import Stallorder.Kitchen.EditedOrders

/-!
# The board shows what was ordered

Whatever is confirmed, edited, moved, completed or cancelled, each item of an
order on the board has one task in the state of the item, and the order is ready
when its tasks are done.  The task of an item that an edit gives another
quantity keeps the old one.
-/

namespace Stallorder.KitchenBoard

open OrderContract CashShifts
open SyncDatabase (OrderStatus OrderItemStatus)
open OrderDatabase (UpdateStaffOrderItems)
open OrderEdits (existingItems)
open StockDatabase (KitchenTaskStatus)

/-! ## Runs -/

inductive BoardCommand
  | place (order : NewOrder)
  | createStaff (order : NewOrder)
  | confirm (scope : CashScope) (orderId : Uuid)
  | edit (scope : CashScope) (orderId : Uuid) (request : UpdateStaffOrderItems)
  | updateTask (scope : CashScope) (taskId : Uuid) (status : RequestedState)
  | complete (scope : CashScope) (orderId : Uuid)
  | cancel (scope : CashScope) (orderId : Uuid)

/-- A transaction with what it reads of the other tables. -/
structure BoardRequest where
  context : EditContext
  command : BoardCommand

/-- A transaction that fails is rolled back. -/
def commit {Error : Type} (db : BoardDb) (outcome : Except Error BoardDb) : BoardDb :=
  match outcome with
  | .ok written => written
  | .error _ => db

def step (db : BoardDb) (request : BoardRequest) : BoardDb :=
  let context := request.context.toBoardContext
  match request.command with
  | .place order => commit db (placeOrder context db order)
  | .createStaff order => commit db (createStaffOrder context db order)
  | .confirm scope orderId => commit db (confirmOrder context db scope orderId)
  | .edit scope orderId edit =>
      if updateStaffOrderItemsSchema edit then
        commit db (editStaffOrderItems request.context db scope orderId edit)
      else db
  | .updateTask scope taskId status =>
      commit db (applyKitchenTaskUpdate context db scope taskId status)
  | .complete scope orderId => commit db (completeKitchenOrder context db scope orderId)
  | .cancel scope orderId => commit db (cancelOrder context db scope orderId)

def run (requests : List BoardRequest) : BoardDb :=
  Run.exec step .empty requests

/-- The edit goes through and is recorded. -/
def amends (db : BoardDb) (context : EditContext) (scope : CashScope) (orderId : Uuid)
    (edit : UpdateStaffOrderItems) : Bool :=
  (editStaffOrderItems context db scope orderId edit).toOption.any fun written =>
    db.amendments.length < written.amendments.length

/-- An edit that goes through asks a confirmed order for the items that it keeps in the
quantities they have. -/
def keepsQuantities (db : BoardDb) (request : BoardRequest) : Bool :=
  match request.command with
  | .edit scope orderId edit =>
      !amends db request.context scope orderId edit || db.tickets.rows.all fun ticket =>
        ticket.id ≠ orderId || ticket.status ≠ .confirmed || ticket.items.rows.all fun item =>
          (keptQuantity (existingItems edit.items) item.id).all (· = item.quantity)
  | _ => true

/-! ## What the board shows -/

/-- The board next to the order; the quantities count where `exact` holds. -/
structure ShowsOrder (exact : Prop) (ticket : Ticket) : Prop where
  /-- Every item of an order on the board has one task, which is like it. -/
  oneTask : isOnBoard ticket.status = true → ∀ item ∈ ticket.items,
    ∃ task ∈ ticket.tasks, task.orderItemId = item.id
      ∧ task.status = itemTaskStatus item.status ∧ (exact → task.quantity = item.quantity)
      ∧ ∀ other ∈ ticket.tasks, other.orderItemId = item.id → other = task
  /-- Every task belongs to an item of its order. -/
  belongs : ∀ task ∈ ticket.tasks, ∃ item ∈ ticket.items, item.id = task.orderItemId
  ready : isOnBoard ticket.status = true →
    (ticket.status = .ready ↔ ∀ task ∈ ticket.tasks, task.status = .completed)

variable {exact : Prop} {db db' : BoardDb} {ticket : Ticket} {requests : List BoardRequest}
  {request : BoardRequest}

theorem showsOrder_of_shown (hshown : Shown exact ticket) : ShowsOrder exact ticket where
  oneTask hboard item hitem := by
    obtain ⟨task, htask, hid⟩ := hshown.shown hboard item hitem
    have hfollows := hshown.follows_of_id htask hitem hid
    exact ⟨task, htask, hid, hfollows.status hboard, hfollows.quantity,
      fun other hother hotherId => Table.eq_of_key_eq hother htask (hotherId.trans hid.symm)⟩
  belongs task htask := by
    obtain ⟨item, hitem, hfollows⟩ := hshown.follows task htask
    exact ⟨item, hitem, hfollows.orderItemId.symm⟩
  ready := hshown.ready

theorem allShown_commit {Error : Type} {outcome : Except Error BoardDb} (hall : AllShown exact db)
    (hkeeps : ∀ written, outcome = .ok written → AllShown exact written) :
    AllShown exact (commit db outcome) := by
  cases outcome with
  | ok written => exact hkeeps written rfl
  | error error => exact hall

theorem keepsQuantities_edit {context : EditContext} {scope : CashScope} {orderId : Uuid}
    {edit : UpdateStaffOrderItems}
    (hkeeps : keepsQuantities db ⟨context, .edit scope orderId edit⟩ = true)
    (hedit : editStaffOrderItems context db scope orderId edit = .ok db')
    (hamended : db.amendments.length < db'.amendments.length)
    (hticket : ticket ∈ db.tickets) (hid : ticket.id = orderId) :
    KeepsQuantities (existingItems edit.items) ticket := by
  intro hconfirmed item hitem
  have hamends : amends db context scope orderId edit = true := by
    rw [amends, hedit]
    exact decide_eq_true hamended
  simp only [keepsQuantities, hamends, Bool.not_true, Bool.false_or] at hkeeps
  have hthis := List.all_eq_true.mp hkeeps ticket hticket
  simp only [hid, hconfirmed, ne_eq, not_true_eq_false, decide_false, Bool.false_or] at hthis
  exact List.all_eq_true.mp hthis item hitem

/-- What the board shows is kept by every transaction; the quantities by those that keep them. -/
theorem allShown_step (hall : AllShown exact db)
    (hkeeps : exact → keepsQuantities db request = true) : AllShown exact (step db request) := by
  obtain ⟨context, command⟩ := request
  cases command with
  | place order => exact allShown_commit hall fun _ => allShown_placeOrder hall
  | createStaff order => exact allShown_commit hall fun _ => allShown_createStaffOrder hall
  | confirm scope orderId => exact allShown_commit hall fun _ => allShown_confirmOrder hall
  | edit scope orderId edit =>
      simp only [step]
      split
      · next hschema =>
          have hitems : edit.items ≠ [] := by
            intro hnil
            rw [updateStaffOrderItemsSchema, hnil] at hschema
            cases hschema
          apply allShown_commit hall
          intro written hedit
          exact allShown_editStaffOrderItems hall hitems (fun hexact hamended _ hticket hid =>
            keepsQuantities_edit (hkeeps hexact) hedit hamended hticket hid) hedit
      · exact hall
  | updateTask scope taskId status =>
      exact allShown_commit hall fun _ => allShown_applyKitchenTaskUpdate hall
  | complete scope orderId =>
      exact allShown_commit hall fun _ => allShown_completeKitchenOrder hall
  | cancel scope orderId => exact allShown_commit hall fun _ => allShown_cancelOrder hall

/-- In every state the tasks are those of the items and in their states, and an order is ready
when they are done. -/
theorem allShown_run (requests : List BoardRequest) : AllShown False (run requests) :=
  Run.invariant_exec (AllShown False) (fun _ _ hall => allShown_step hall nofun)
    allShown_empty requests

/-- The board shows what was ordered as long as no edit that goes through gives an item that it
keeps another quantity while the order is on the board. -/
theorem board_shows_orders
    (hkeeps : Run.Safely step (fun db request => keepsQuantities db request = true) .empty
      requests) :
    ∀ ticket ∈ (run requests).tickets, ShowsOrder True ticket := by
  have hall : AllShown True (run requests) :=
    Run.invariant_of_safely (AllShown True)
      (fun _ _ hshown hsafe => allShown_step hshown fun _ => hsafe) allShown_empty hkeeps
  exact fun ticket hticket => showsOrder_of_shown (hall ticket hticket)

/-! ## An order whose quantity changes -/

def sampleKitchen : Kitchen where
  stations := [{ id := 5, code := defaultCode, isActive := true, sortOrder := 0, createdAt := 0 }]
  assignments := []
  categoryOf := fun _ => none
  defaultActive := ⟨_, List.mem_singleton_self _, rfl, rfl⟩

def sampleContext (now : Timestamp) : EditContext where
  kitchenOf := fun _ => sampleKitchen
  businessDateOf := fun _ moment => moment
  now := now
  limits := { maxItemQuantity := 20, maxUniqueProducts := 20, maxTotalQuantity := 40,
              maxNoteLength := 200 }
  catalogLine := fun _ note _ =>
    some { unitPrice := 100, isOrderDiscountEligible := true, note := note }
  productAvailable := fun _ => true
  itemId := fun index => 100 + index

def sampleTicket : Ticket where
  id := 20
  organizationId := 1
  stallId := 1
  source := .staffPos
  fulfillmentType := .takeout
  status := .waitingConfirmation
  paymentStatus := .unpaid
  paymentId := none
  discountAmount := 0
  discountOptionId := none
  subtotal := 200
  total := 200
  note := []
  scheduledPickupAt := none
  requestedFulfillmentAt := none
  committedFulfillmentAt := none
  fulfillmentTimeState := .notRequested
  confirmationExpiresAt := 50
  updatedAt := 1
  items := .empty
  tasks := .empty

def sampleOrder : NewOrder where
  ticket := sampleTicket
  items := [{
    id := 30
    productId := some 7
    sourceLineIndex := 1
    unitPrice := 100
    quantity := 2
    isOrderDiscountEligible := true
    note := []
    isPromotion := false
    status := .pending
    preparingAt := none
    readyAt := none
    servedAt := none }]

def sampleEdit (items : List OrderDatabase.EditItem) : UpdateStaffOrderItems where
  changeId := 40
  expectedUpdatedAt := 2
  items := items
  publicAmendment := false

def boardScope : CashScope where
  organizationId := 1
  stallId := 1
  actorProfileId := 9
  reconciliationEnabled := true

/-- An order of the staff for two portions is edited to the given items. -/
def editedRun (items : List OrderDatabase.EditItem) : List BoardRequest :=
  [⟨sampleContext 2, .createStaff sampleOrder⟩,
   ⟨sampleContext 3, .edit boardScope 20 (sampleEdit items)⟩]

/-- The item is kept and another one is added: the board shows both. -/
theorem board_shows_added_item :
    ∃ ticket ∈ (run (editedRun [.existing 30 2, .new 7 3 [] []])).tickets,
      ticket.items.rows.length = 2 ∧ ShowsOrder True ticket := by
  have hadded : ∃ ticket ∈ (run (editedRun [.existing 30 2, .new 7 3 [] []])).tickets,
      ticket.items.rows.length = 2 := by decide +kernel
  obtain ⟨ticket, hticket, htwo⟩ := hadded
  exact ⟨ticket, hticket, htwo, board_shows_orders (by decide +kernel) ticket hticket⟩

/-- The order is edited to three portions, and the board goes on to show two. -/
theorem board_keeps_old_quantity :
    ∃ ticket ∈ (run (editedRun [.existing 30 3])).tickets, isOnBoard ticket.status = true
      ∧ (∃ item ∈ ticket.items, item.id = 30 ∧ item.quantity = 3)
      ∧ ∃ task ∈ ticket.tasks, task.orderItemId = 30 ∧ task.quantity = 2 := by
  decide +kernel

end Stallorder.KitchenBoard
