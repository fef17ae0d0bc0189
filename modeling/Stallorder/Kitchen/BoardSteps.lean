import Stallorder.Kitchen.TaskAgreement

/-!
# Orders through the kitchen

What the board shows of an order after each operation: the items with their
tasks, and an order that is ready when all its tasks are done.
-/

namespace Stallorder.KitchenBoard

open OrderContract CashShifts Checks
open SyncDatabase (OrderStatus OrderItemStatus)
open StockDatabase (KitchenTaskStatus)

variable {exact : Prop} {kitchen : Kitchen} {now : Timestamp} {ticket written : Ticket}
  {item : KitchenItem} {task : ProductionTask} {items : List KitchenItem}
  {status current derived : OrderStatus} {db db' : BoardDb} {scope : CashScope} {orderId : Uuid}
  {context : BoardContext}

/-- An order whose tasks agree with its items, of which it has one at least, and that is
ready when all its tasks are done. -/
structure Shown (exact : Prop) (ticket : Ticket) : Prop extends Agrees exact ticket where
  nonempty : ∃ item, item ∈ ticket.items
  ready : isOnBoard ticket.status = true →
    (ticket.status = .ready ↔ ∀ task ∈ ticket.tasks, task.status = .completed)

def AllShown (exact : Prop) (db : BoardDb) : Prop :=
  ∀ ticket ∈ db.tickets, Shown exact ticket

theorem allShown_empty : AllShown exact .empty :=
  fun ticket hticket => absurd hticket (Table.notMem_empty ticket)

theorem allShown_write (hall : AllShown exact db) (hshown : Shown exact ticket) :
    AllShown exact (writeTicket db ticket) := by
  intro stored hstored
  rcases Table.mem_put.mp hstored with ⟨hold, -⟩ | rfl
  · exact hall stored hold
  · exact hshown

/-! ## Orders off the board and orders not begun -/

theorem shown_of_offBoard (hagrees : Agrees exact ticket) (hnonempty : ∃ item, item ∈ ticket.items)
    (hoff : isOnBoard ticket.status = false) : Shown exact ticket where
  toAgrees := hagrees
  nonempty := hnonempty
  ready hboard := absurd (hboard.symm.trans hoff) nofun

/-- While all its items are pending a confirmed order is not done. -/
theorem shown_of_pending (hagrees : Agrees exact ticket) (hstatus : ticket.status = .confirmed)
    (hpending : ∀ item ∈ ticket.items, item.status = .pending)
    (hnonempty : ∃ item, item ∈ ticket.items) : Shown exact ticket where
  toAgrees := hagrees
  nonempty := hnonempty
  ready hboard := by
    refine ⟨fun hready => absurd (hstatus.symm.trans hready) nofun, fun hdone => ?_⟩
    obtain ⟨item, hitem⟩ := hnonempty
    obtain ⟨task, htask, hid⟩ := hagrees.shown hboard item hitem
    have hopen := (hagrees.follows_of_id htask hitem hid).status hboard
    rw [hpending item hitem, hdone task htask] at hopen
    cases hopen

@[simp]
theorem createKdsTasksForOrder_items :
    (createKdsTasksForOrder kitchen now ticket).items = ticket.items := by
  unfold createKdsTasksForOrder
  split <;> rfl

@[simp]
theorem createKdsTasksForOrder_status :
    (createKdsTasksForOrder kitchen now ticket).status = ticket.status := by
  unfold createKdsTasksForOrder
  split <;> rfl

theorem setStatus_items : (setStatus kitchen now status ticket).items = ticket.items := by
  unfold setStatus
  split
  · rfl
  · cases status <;> simp

theorem setStatus_status : (setStatus kitchen now status ticket).status = status := by
  unfold setStatus
  split
  · rfl
  · cases status <;> simp

theorem shown_confirmed (hagrees : Agrees exact ticket)
    (hwaits : ticket.status = .waitingConfirmation) (hnonempty : ∃ item, item ∈ ticket.items) :
    Shown exact (setStatus kitchen now .confirmed ticket) := by
  refine shown_of_pending (agrees_confirmed hagrees hwaits) setStatus_status ?_ ?_
  · rw [setStatus_items]
    exact (hagrees.waiting hwaits).2
  · rw [setStatus_items]
    exact hnonempty

/-! ## Inserting items -/

theorem mem_insertItem {stored : KitchenItem}
    (hinsert : insertItem kitchen now item ticket = some written) :
    stored ∈ written.items ↔ stored ∈ ticket.items ∨ stored = item := by
  obtain ⟨items, hitems, rfl⟩ := Option.map_eq_some_iff.mp hinsert
  rw [createKdsTasksForOrder_items]
  exact Table.mem_of_insert? hitems

theorem status_insertItem (hinsert : insertItem kitchen now item ticket = some written) :
    written.status = ticket.status := by
  obtain ⟨items, hitems, rfl⟩ := Option.map_eq_some_iff.mp hinsert
  exact createKdsTasksForOrder_status

theorem agrees_insertItems (hagrees : Agrees exact ticket)
    (hpending : ∀ item ∈ items, item.status = .pending)
    (hinsert : insertItems kitchen now ticket items = some written) :
    Agrees exact written ∧ written.status = ticket.status
      ∧ ∀ item, item ∈ ticket.items ∨ item ∈ items → item ∈ written.items := by
  induction items generalizing ticket with
  | nil =>
      cases hinsert
      exact ⟨hagrees, rfl, fun item hitem => hitem.resolve_right List.not_mem_nil⟩
  | cons first items ih =>
      rw [insertItems, List.foldlM_cons] at hinsert
      obtain ⟨next, hnext, hrest⟩ := Option.bind_eq_some_iff.mp hinsert
      have hfirst := agrees_insertItem hagrees
        (fun _ => hpending first List.mem_cons_self) hnext
      obtain ⟨hwritten, hstatus, hitems⟩ :=
        ih hfirst (fun item hitem => hpending item (List.mem_cons_of_mem _ hitem)) hrest
      refine ⟨hwritten, hstatus.trans (status_insertItem hnext), fun item hitem => hitems item ?_⟩
      rcases hitem with hold | hnew
      · exact .inl ((mem_insertItem hnext).mpr (.inl hold))
      · rcases List.mem_cons.mp hnew with rfl | hlater
        · exact .inl ((mem_insertItem hnext).mpr (.inr rfl))
        · exact .inr hlater

/-- A new order waits with its items. -/
theorem shown_placed {order : NewOrder} (hschema : newOrderSchema order = true)
    (hinsert : insertItems kitchen now order.ticket order.items = some written) :
    Agrees exact written ∧ written.status = .waitingConfirmation
      ∧ ∃ item, item ∈ written.items := by
  simp only [newOrderSchema, Bool.and_eq_true, decide_eq_true_eq, List.isEmpty_iff,
    Bool.not_eq_true', List.all_eq_true, List.isEmpty_eq_false_iff] at hschema
  obtain ⟨⟨⟨⟨hwaits, hitems⟩, htasks⟩, hsome⟩, hpending⟩ := hschema
  have hstart : Agrees exact order.ticket := by
    refine ⟨fun task htask => ?_, fun hboard => ?_, fun _ => ⟨fun task htask => ?_,
      fun item hitem => ?_⟩⟩
    · rw [Table.mem_iff, htasks] at htask
      cases htask
    · rw [hwaits] at hboard
      cases hboard
    · rw [Table.mem_iff, htasks] at htask
      cases htask
    · rw [Table.mem_iff, hitems] at hitem
      cases hitem
  obtain ⟨hagrees, hstatus, hmem⟩ :=
    agrees_insertItems hstart (fun item hitem => (hpending item hitem).1.1.1) hinsert
  obtain ⟨item, hitem⟩ := List.exists_mem_of_ne_nil _ hsome
  exact ⟨hagrees, hstatus.trans hwaits, item, hmem item (.inr hitem)⟩

theorem allShown_placeOrder {order : NewOrder} (hall : AllShown exact db)
    (hplace : placeOrder context db order = .ok db') : AllShown exact db' := by
  obtain ⟨_, hchecked, hplace⟩ := bind_eq_ok.mp hplace
  obtain ⟨written, hinsert, hplace⟩ := bind_eq_ok.mp hplace
  cases hplace
  rw [failWhen_eq_ok, Bool.or_eq_false_iff, Bool.not_eq_false'] at hchecked
  obtain ⟨hagrees, hstatus, hnonempty⟩ := shown_placed hchecked.1 (orFail_eq_ok.mp hinsert)
  exact allShown_write hall (shown_of_offBoard hagrees hnonempty (by rw [hstatus]; rfl))

theorem allShown_createStaffOrder {order : NewOrder} (hall : AllShown exact db)
    (hcreate : createStaffOrder context db order = .ok db') : AllShown exact db' := by
  obtain ⟨_, hchecked, hcreate⟩ := bind_eq_ok.mp hcreate
  obtain ⟨written, hinsert, hcreate⟩ := bind_eq_ok.mp hcreate
  cases hcreate
  rw [failWhen_eq_ok, Bool.or_eq_false_iff, Bool.not_eq_false'] at hchecked
  obtain ⟨hagrees, hstatus, hnonempty⟩ := shown_placed hchecked.1 (orFail_eq_ok.mp hinsert)
  exact allShown_write hall (shown_confirmed hagrees hstatus hnonempty)

/-! ## Confirming and cancelling -/

theorem mem_of_findTicket (hfind : findTicket db scope orderId = some ticket) :
    ticket ∈ db.tickets ∧ ticket.id = orderId := by
  obtain ⟨hget, -⟩ := Option.filter_eq_some_iff.mp hfind
  exact Table.get?_eq_some_iff.mp hget

theorem allShown_confirmOrder (hall : AllShown exact db)
    (hconfirm : confirmOrder context db scope orderId = .ok db') : AllShown exact db' := by
  obtain ⟨ticket, hfind, hconfirm⟩ := bind_eq_ok.mp hconfirm
  obtain ⟨_, hwaits, hconfirm⟩ := bind_eq_ok.mp hconfirm
  obtain ⟨-, -, hconfirm⟩ := bind_eq_ok.mp hconfirm
  cases hconfirm
  have hshown := hall ticket (mem_of_findTicket (orFail_eq_ok.mp hfind)).1
  rw [failWhen_eq_ok, decide_eq_false_iff_not, not_not] at hwaits
  exact allShown_write hall (shown_confirmed hshown.toAgrees hwaits hshown.nonempty)

theorem allShown_cancelOrder (hall : AllShown exact db)
    (hcancel : cancelOrder context db scope orderId = .ok db') : AllShown exact db' := by
  obtain ⟨ticket, hfind, hcancel⟩ := bind_eq_ok.mp hcancel
  obtain ⟨_, hcan, hcancel⟩ := bind_eq_ok.mp hcancel
  obtain ⟨-, -, hcancel⟩ := bind_eq_ok.mp hcancel
  cases hcancel
  have hshown := hall ticket (mem_of_findTicket (orFail_eq_ok.mp hfind)).1
  have hne : ticket.status ≠ .cancelled := by
    intro hcancelled
    rw [hcancelled] at hcan
    cases hcan
  refine allShown_write hall (shown_of_offBoard (agrees_cancelled hshown.toAgrees hne) ?_ ?_)
  · rw [setStatus_items]
    exact hshown.nonempty
  · rw [setStatus_status]
    rfl

/-! ## The status that tasks give an order -/

theorem isOnBoard_derived (kitchen : Kitchen) (ticket : Ticket) :
    isOnBoard (deriveKitchenOrderStatus kitchen ticket) = true := by
  simp only [deriveKitchenOrderStatus]
  split
  · rfl
  split
  · rfl
  split <;> rfl

theorem derived_ready_iff (hopen : ∀ task ∈ ticket.tasks, task.status ≠ .cancelled)
    (hsome : ∃ task, task ∈ ticket.tasks) :
    deriveKitchenOrderStatus kitchen ticket = .ready
      ↔ ∀ task ∈ ticket.tasks, task.status = .completed := by
  have hall : ticket.tasks.rows.filter (fun task => task.status ≠ .cancelled)
      = ticket.tasks.rows :=
    List.filter_eq_self.mpr fun task htask => decide_eq_true (hopen task htask)
  have hfull : ticket.tasks.rows.isEmpty = false := by
    obtain ⟨task, htask⟩ := hsome
    exact List.isEmpty_eq_false_iff.mpr (List.ne_nil_of_mem htask)
  simp only [deriveKitchenOrderStatus]
  rw [hall, hfull, Bool.not_false, Bool.true_and]
  constructor
  · intro hready task htask
    split at hready
    · next hdone => exact of_decide_eq_true (List.all_eq_true.mp hdone task htask)
    · split at hready
      · cases hready
      · split at hready <;> cases hready
  · intro hdone
    rw [if_pos (List.all_eq_true.mpr fun task htask => decide_eq_true (hdone task htask))]

/-- Progress is kept, and an order that is not ready becomes so with its tasks alone. -/
theorem preserved_cases (hcurrent : isOnBoard current = true) (hready : current ≠ .ready)
    (hderived : isOnBoard derived = true) :
    (preserveKitchenOrderProgress current derived = .ready ↔ derived = .ready)
      ∧ isOnBoard (preserveKitchenOrderProgress current derived) = true
      ∧ (preserveKitchenOrderProgress current derived = .confirmed → current = .confirmed) := by
  cases current with
  | ready => exact absurd rfl hready
  | confirmed => cases derived <;> first | decide | cases hderived
  | preparing => cases derived <;> decide
  | packing => cases derived <;> decide
  | _ => cases hcurrent

/-! ## Moving tasks -/

theorem mem_of_findTask {taskId : Uuid}
    (hfind : findTask db scope taskId = some (ticket, task, item)) :
    ticket ∈ db.tickets ∧ task ∈ ticket.tasks ∧ item ∈ ticket.items := by
  obtain ⟨stored, hstored, hfound⟩ := List.exists_of_findSome?_eq_some hfind
  split at hfound
  · obtain ⟨foundTask, htask, hfound⟩ := Option.bind_eq_some_iff.mp hfound
    obtain ⟨foundItem, hitem, hsame⟩ := Option.map_eq_some_iff.mp hfound
    cases hsame
    exact ⟨hstored, Table.mem_of_get? htask, Table.mem_of_get? hitem⟩
  · cases hfound

/-- The tasks of an order on the board are there and none is cancelled. -/
theorem Agrees.tasks_open (hagrees : Agrees exact ticket) (hboard : isOnBoard ticket.status = true)
    (hnonempty : ∃ item, item ∈ ticket.items) :
    (∀ task ∈ ticket.tasks, task.status ≠ .cancelled) ∧ ∃ task, task ∈ ticket.tasks := by
  constructor
  · intro task htask
    obtain ⟨item, -, hfollows⟩ := hagrees.follows task htask
    rw [hfollows.status hboard]
    exact itemTaskStatus_ne_cancelled _
  · obtain ⟨item, hitem⟩ := hnonempty
    obtain ⟨task, htask, -⟩ := hagrees.shown hboard item hitem
    exact ⟨task, htask⟩

/-- An order on the board that is given the status its tasks derive. -/
theorem shown_derived (hagrees : Agrees exact ticket) (hboard : isOnBoard ticket.status = true)
    (hready : ticket.status ≠ .ready) (hnonempty : ∃ item, item ∈ ticket.items)
    (hstatus : status = preserveKitchenOrderProgress ticket.status
      (deriveKitchenOrderStatus kitchen ticket)) :
    Shown exact (if status = ticket.status then ticket else setStatus kitchen now status ticket) := by
  obtain ⟨hopen, hsome⟩ := hagrees.tasks_open hboard hnonempty
  have hdone : deriveKitchenOrderStatus kitchen ticket = .ready
      ↔ ∀ task ∈ ticket.tasks, task.status = .completed := derived_ready_iff hopen hsome
  obtain ⟨hpreserved, hon, hconfirmed⟩ :=
    preserved_cases hboard hready (isOnBoard_derived kitchen ticket)
  rw [← hstatus] at hpreserved hon hconfirmed
  by_cases hsame : status = ticket.status
  · rw [if_pos hsame]
    refine ⟨hagrees, hnonempty, fun _ => ?_⟩
    rw [← hsame, hpreserved, hdone]
  · rw [if_neg hsame]
    have hne : status ≠ .confirmed := fun heq => hsame (heq.trans (hconfirmed heq).symm)
    obtain ⟨hwritten, hstatusWritten, htasks, hitems⟩ :=
      (agrees_advanced hagrees hboard hon hne :
        Agrees exact (setStatus kitchen now status ticket) ∧ _)
    refine ⟨hwritten, hitems ▸ hnonempty, fun _ => ?_⟩
    rw [hstatusWritten, htasks, hpreserved, hdone]

theorem agrees_moveTask {taskId : Uuid} {next : OrderItemStatus} {profile : Option Uuid}
    (hshown : Shown exact ticket) (hboard : isOnBoard ticket.status = true) :
    Agrees exact (moveTask now taskId next profile ticket)
      ∧ ∃ item, item ∈ (moveTask now taskId next profile ticket).items := by
  constructor
  · refine agrees_rewrite_tasks (agrees_rewriteItems hshown.toAgrees _ ?_ ?_) _ ?_ ?_
    · intro _ _ _ stored _ _
      split <;> rfl
    · intro hwaits
      rw [hwaits] at hboard
      cases hboard
    · intro stored
      split <;> rfl
    · intro stored
      split <;> rfl
  · obtain ⟨stored, hstored⟩ := hshown.nonempty
    exact ⟨_, Table.mem_rewrite_of_mem (fun item => by split <;> rfl) hstored⟩

theorem allShown_applyKitchenTaskUpdate {taskId : Uuid} {requested : RequestedState}
    (hall : AllShown exact db)
    (hupdate : applyKitchenTaskUpdate context db scope taskId requested = .ok db') :
    AllShown exact db' := by
  obtain ⟨⟨ticket, task, item⟩, hfind, hupdate⟩ := bind_eq_ok.mp hupdate
  obtain ⟨_, hboard, hupdate⟩ := bind_eq_ok.mp hupdate
  obtain ⟨_, hready, hupdate⟩ := bind_eq_ok.mp hupdate
  obtain ⟨-, -, hupdate⟩ := bind_eq_ok.mp hupdate
  obtain ⟨-, -, hupdate⟩ := bind_eq_ok.mp hupdate
  obtain ⟨-, -, hupdate⟩ := bind_eq_ok.mp hupdate
  cases hupdate
  rw [failWhen_eq_ok, Bool.not_eq_false'] at hboard
  rw [failWhen_eq_ok, decide_eq_false_iff_not] at hready
  have hshown := hall ticket (mem_of_findTask (orFail_eq_ok.mp hfind)).1
  obtain ⟨hmoved, hnonempty⟩ := agrees_moveTask hshown hboard
  exact allShown_write hall (shown_derived hmoved hboard hready hnonempty rfl)

/-! ## Completing an order -/

/-- An order whose items are all ready is ready with its tasks. -/
theorem shown_ready (hagrees : Agrees exact ticket) (hboard : isOnBoard ticket.status = true)
    (hnonempty : ∃ item, item ∈ ticket.items)
    (hready : ∀ item ∈ ticket.items, item.status = .ready) :
    Shown exact (setStatus kitchen now .ready ticket) := by
  obtain ⟨hwritten, hstatus, htasks, hitems⟩ :=
    (agrees_advanced hagrees hboard (rfl : isOnBoard .ready = true) nofun :
      Agrees exact (setStatus kitchen now .ready ticket) ∧ _)
  refine ⟨hwritten, hitems ▸ hnonempty, fun _ => ⟨fun _ task htask => ?_, fun _ => hstatus⟩⟩
  rw [htasks] at htask
  obtain ⟨item, hitem, hfollows⟩ := hagrees.follows task htask
  rw [hfollows.status hboard, hready item hitem]
  rfl

theorem completedItem_quantity (now : Timestamp) (item : KitchenItem) :
    (completedItem now item).quantity = item.quantity := by
  unfold completedItem
  split <;> rfl

theorem completedItem_status (hserved : item.status ≠ .served) :
    (completedItem now item).status = .ready := by
  unfold completedItem
  split
  · rfl
  · rfl
  · cases hstatus : item.status <;> simp_all

theorem agrees_completeItems {profile : Uuid} (hshown : Shown exact ticket)
    (hboard : isOnBoard ticket.status = true) :
    Agrees exact (completeItems now profile ticket)
      ∧ ∃ item, item ∈ (completeItems now profile ticket).items := by
  constructor
  · refine agrees_rewrite_tasks (agrees_rewriteItems hshown.toAgrees _ ?_ ?_) _ ?_ ?_
    · intro _ _ _ stored _ _
      exact completedItem_quantity _ _
    · intro hwaits
      rw [hwaits] at hboard
      cases hboard
    · intro stored
      split <;> rfl
    · intro stored
      split <;> rfl
  · obtain ⟨stored, hstored⟩ := hshown.nonempty
    exact ⟨_, Table.mem_rewrite_of_mem (completedItem_id now) hstored⟩

theorem allShown_completeKitchenOrder (hall : AllShown exact db)
    (hcomplete : completeKitchenOrder context db scope orderId = .ok db') :
    AllShown exact db' := by
  obtain ⟨ticket, hfind, hcomplete⟩ := bind_eq_ok.mp hcomplete
  obtain ⟨-, -, hcomplete⟩ := bind_eq_ok.mp hcomplete
  obtain ⟨_, hactive, hcomplete⟩ := bind_eq_ok.mp hcomplete
  obtain ⟨_, hserved, hcomplete⟩ := bind_eq_ok.mp hcomplete
  cases hcomplete
  have hshown := hall ticket (mem_of_findTicket (orFail_eq_ok.mp hfind)).1
  rw [failWhen_eq_ok, Bool.not_eq_false', Bool.and_eq_true, decide_eq_true_eq] at hactive
  rw [failWhen_eq_ok, Bool.or_eq_false_iff, List.any_eq_false] at hserved
  obtain ⟨hboard, -⟩ := hactive
  obtain ⟨hcompleted, hnonempty⟩ := agrees_completeItems hshown hboard
  refine allShown_write hall (shown_ready hcompleted hboard hnonempty fun item hitem => ?_)
  obtain ⟨stored, hstored, rfl⟩ :=
    (Table.mem_rewrite (completedItem_id context.now)).mp hitem
  exact completedItem_status (by simpa using hserved.2 stored hstored)

end Stallorder.KitchenBoard
