import Stallorder.Kitchen.ItemEdits

/-!
# Tasks follow their items

The tasks of an order on the board are those of its items: every task follows
an item, and every item is shown.  Each statement on the items and each trigger
keeps this; only a new quantity is not passed on, which the statements here
keep apart from the rest.
-/

namespace Stallorder.KitchenBoard

open OrderContract
open SyncDatabase (OrderStatus OrderItemStatus)
open StockDatabase (KitchenTaskStatus)

variable {exact : Prop} {kitchen : Kitchen} {now : Timestamp} {ticket written : Ticket}
  {item : KitchenItem} {task : ProductionTask} {tasks : Table ProductionTask}
  {items : List KitchenItem} {status : OrderStatus}

/-! ## Stations -/

/-- The default station is always there to be chosen. -/
theorem exists_chosenStation (kitchen : Kitchen) (productId : Option Uuid) :
    ∃ station, chosenStation kitchen productId = some station := by
  obtain ⟨station, hstation, -, hactive⟩ := kitchen.defaultActive
  have hcandidate : ∃ candidate, candidate ∈ candidateStations kitchen := by
    have hkept : station ∈ kitchen.stations.filter (·.isActive) :=
      List.mem_filter.mpr ⟨hstation, hactive⟩
    cases hassigned : kitchen.assignments.filter fun assignment =>
        assignment.stationId = station.id && assignment.isActive with
    | nil =>
        refine ⟨(station, none), List.mem_flatMap.mpr ⟨station, hkept, ?_⟩⟩
        simp [hassigned]
    | cons assignment rest =>
        refine ⟨(station, some assignment), List.mem_flatMap.mpr ⟨station, hkept, ?_⟩⟩
        simp [hassigned]
  obtain ⟨candidate, hmem⟩ := hcandidate
  cases hsorted : (candidateStations kitchen).insertionSort fun left right =>
      comesFirst kitchen productId left right with
  | nil =>
      have hsortedMem := (List.mem_insertionSort
        (fun left right => comesFirst kitchen productId left right = true)).mpr hmem
      rw [hsorted] at hsortedMem
      cases hsortedMem
  | cons first rest =>
      refine ⟨first.1, ?_⟩
      rw [chosenStation, hsorted]
      rfl

/-! ## Routing -/

theorem routeItem_of_chosen {station : Station}
    (hchosen : chosenStation kitchen item.productId = some station) :
    routeItem kitchen now tasks item
      = (tasks.insert? (routedTask now item station)).getD tasks := by
  rw [routeItem, hchosen, Option.bind_some]

/-- A task after the routing of an item was there before or is the item's. -/
theorem mem_routeItem (hmem : task ∈ routeItem kitchen now tasks item) :
    task ∈ tasks ∨ ∃ station, task = routedTask now item station := by
  obtain ⟨station, hchosen⟩ := exists_chosenStation kitchen item.productId
  rw [routeItem_of_chosen hchosen] at hmem
  cases hinsert : tasks.insert? (routedTask now item station) with
  | none =>
      rw [hinsert] at hmem
      exact .inl hmem
  | some inserted =>
      rw [hinsert] at hmem
      rcases (Table.mem_of_insert? hinsert).mp hmem with hold | hnew
      · exact .inl hold
      · exact .inr ⟨station, hnew⟩

theorem mem_routeItem_of_mem (hmem : task ∈ tasks) : task ∈ routeItem kitchen now tasks item := by
  obtain ⟨station, hchosen⟩ := exists_chosenStation kitchen item.productId
  rw [routeItem_of_chosen hchosen]
  cases hinsert : tasks.insert? (routedTask now item station) with
  | none => exact hmem
  | some inserted => exact (Table.mem_of_insert? hinsert).mpr (.inl hmem)

theorem exists_task_routeItem :
    ∃ task ∈ routeItem kitchen now tasks item, task.orderItemId = item.id := by
  obtain ⟨station, hchosen⟩ := exists_chosenStation kitchen item.productId
  rw [routeItem_of_chosen hchosen]
  cases hinsert : tasks.insert? (routedTask now item station) with
  | some inserted =>
      exact ⟨routedTask now item station, (Table.mem_of_insert? hinsert).mpr (.inr rfl), rfl⟩
  | none =>
      by_contra hnone
      have hfree : ∀ stored ∈ tasks, ¬ Indexed.collides stored (routedTask now item station) :=
        fun stored hstored hcollides =>
          hnone ⟨stored, hstored, KeyIndexed.key_eq_of_collides hcollides⟩
      obtain ⟨inserted, hinserted⟩ := Table.exists_insert? hfree
      exact absurd (hinsert.symm.trans hinserted) nofun

theorem mem_routeItems (hmem : task ∈ items.foldl (routeItem kitchen now) tasks) :
    task ∈ tasks ∨ ∃ item ∈ items, ∃ station, task = routedTask now item station := by
  induction items generalizing tasks with
  | nil => exact .inl hmem
  | cons item items ih =>
      rcases ih hmem with hrouted | ⟨other, hother, hstation⟩
      · rcases mem_routeItem hrouted with hold | hstation
        · exact .inl hold
        · exact .inr ⟨item, List.mem_cons_self, hstation⟩
      · exact .inr ⟨other, List.mem_cons_of_mem _ hother, hstation⟩

theorem mem_routeItems_of_mem (hmem : task ∈ tasks) :
    task ∈ items.foldl (routeItem kitchen now) tasks := by
  induction items generalizing tasks with
  | nil => exact hmem
  | cons item items ih => exact ih (mem_routeItem_of_mem hmem)

theorem exists_task_routeItems (hitem : item ∈ items) :
    ∃ task ∈ items.foldl (routeItem kitchen now) tasks, task.orderItemId = item.id := by
  induction items generalizing tasks with
  | nil => cases hitem
  | cons first items ih =>
      rcases List.mem_cons.mp hitem with rfl | hrest
      · obtain ⟨task, htask, hid⟩ := exists_task_routeItem
        refine ⟨task, ?_, hid⟩
        rw [List.foldl_cons]
        exact mem_routeItems_of_mem htask
      · exact ih hrest

/-! ## The invariant -/

/-- A task of an order follows an item; its quantity matters where `exact` holds. -/
structure Follows (exact : Prop) (status : OrderStatus) (item : KitchenItem)
    (task : ProductionTask) : Prop where
  orderItemId : task.orderItemId = item.id
  status : isOnBoard status = true → task.status = itemTaskStatus item.status
  quantity : exact → task.quantity = item.quantity

/-- Tasks and items go together; an order that waits has no task, and all is still to do. -/
structure Agrees (exact : Prop) (ticket : Ticket) : Prop where
  follows : ∀ task ∈ ticket.tasks, ∃ item ∈ ticket.items, Follows exact ticket.status item task
  shown : isOnBoard ticket.status = true →
    ∀ item ∈ ticket.items, ∃ task ∈ ticket.tasks, task.orderItemId = item.id
  waiting : ticket.status = .waitingConfirmation →
    (∀ task, task ∉ ticket.tasks) ∧ ∀ item ∈ ticket.items, item.status = .pending

theorem follows_routedTask (station : Station) :
    Follows exact status item (routedTask now item station) where
  orderItemId := rfl
  status _ := rfl
  quantity _ := rfl

theorem Agrees.follows_of_id (hagrees : Agrees exact ticket) (htask : task ∈ ticket.tasks)
    (hitem : item ∈ ticket.items) (hid : task.orderItemId = item.id) :
    Follows exact ticket.status item task := by
  obtain ⟨other, hother, hfollows⟩ := hagrees.follows task htask
  have hsame : other = item :=
    Table.eq_of_key_eq hother hitem (hfollows.orderItemId.symm.trans hid)
  exact hsame ▸ hfollows

/-- Routing shows all items of an order on the board. -/
theorem agrees_create (hboard : isOnBoard ticket.status = true)
    (hfollows : ∀ task ∈ ticket.tasks,
      ∃ item ∈ ticket.items, Follows exact ticket.status item task) :
    Agrees exact (createKdsTasksForOrder kitchen now ticket) := by
  rw [createKdsTasksForOrder, if_pos hboard]
  refine ⟨fun task htask => ?_, fun _ item hitem => exists_task_routeItems hitem, fun hwaiting => ?_⟩
  · rcases mem_routeItems htask with hold | ⟨item, hitem, station, rfl⟩
    · exact hfollows task hold
    · exact ⟨item, hitem, follows_routedTask station⟩
  · rw [hwaiting] at hboard
    cases hboard

/-- A write of the tasks that leaves their items, states and quantities. -/
theorem agrees_rewrite_tasks (hagrees : Agrees exact ticket)
    {change : ProductionTask → ProductionTask}
    (hid : ∀ task, (change task).orderItemId = task.orderItemId)
    (hstatus : ∀ task, (change task).status = task.status)
    (hquantity : ∀ task, (change task).quantity = task.quantity) :
    Agrees exact { ticket with tasks := ticket.tasks.rewrite change hid } where
  follows task htask := by
    obtain ⟨stored, hstored, rfl⟩ := (Table.mem_rewrite hid).mp htask
    obtain ⟨item, hitem, hfollows⟩ := hagrees.follows stored hstored
    refine ⟨item, hitem, (hid stored).trans hfollows.orderItemId, fun hboard => ?_,
      fun hexact => ?_⟩
    · exact (hstatus stored).trans (hfollows.status hboard)
    · exact (hquantity stored).trans (hfollows.quantity hexact)
  shown hboard item hitem := by
    obtain ⟨task, htask, htaskId⟩ := hagrees.shown hboard item hitem
    exact ⟨change task, Table.mem_rewrite_of_mem hid htask, (hid task).trans htaskId⟩
  waiting hwaiting := by
    refine ⟨fun task htask => ?_, (hagrees.waiting hwaiting).2⟩
    obtain ⟨stored, hstored, -⟩ := (Table.mem_rewrite hid).mp htask
    exact (hagrees.waiting hwaiting).1 stored hstored

/-! ## Statements on the items -/

theorem itemTaskStatus_ne_cancelled (status : OrderItemStatus) :
    itemTaskStatus status ≠ .cancelled := by
  cases status <;> nofun

theorem syncTask_quantity (now : Timestamp) (before after : KitchenItem) (task : ProductionTask) :
    (syncTask now before after task).quantity = task.quantity := by
  unfold syncTask
  split <;> rfl

/-- The trigger brings a task that agreed with its item to the item's new state. -/
theorem syncTask_status {before after : KitchenItem}
    (htask : task.status = itemTaskStatus before.status) :
    (syncTask now before after task).status = itemTaskStatus after.status := by
  unfold syncTask
  split
  · rfl
  · next hkept =>
      by_cases hsame : before.status = after.status
      · rw [htask, hsame]
      · by_contra hne
        have hopen : task.status ≠ .cancelled := htask ▸ itemTaskStatus_ne_cancelled _
        exact hkept ⟨hsame, hopen, hne⟩

theorem agrees_rewriteItems (hagrees : Agrees exact ticket) {change : KitchenItem → KitchenItem}
    (hid : ∀ item, (change item).id = item.id)
    (hquantity : exact → ∀ task ∈ ticket.tasks, ∀ item ∈ ticket.items,
      task.orderItemId = item.id → (change item).quantity = item.quantity)
    (hwaiting : ticket.status = .waitingConfirmation →
      ∀ item ∈ ticket.items, (change item).status = item.status) :
    Agrees exact (rewriteItems now change hid ticket) where
  follows task htask := by
    obtain ⟨stored, hstored, rfl⟩ := (Table.mem_rewrite
      (followItem_orderItemId now ticket.items change)).mp htask
    obtain ⟨item, hitem, hfollows⟩ := hagrees.follows stored hstored
    have hget : ticket.items.get? stored.orderItemId = some item :=
      Table.get?_eq_some_iff.mpr ⟨hitem, hfollows.orderItemId.symm⟩
    refine ⟨change item, Table.mem_rewrite_of_mem hid hitem, ?_⟩
    rw [followItem, hget]
    refine ⟨?_, fun hboard => syncTask_status (hfollows.status hboard), fun hexact => ?_⟩
    · rw [syncTask_orderItemId, hid]
      exact hfollows.orderItemId
    · rw [syncTask_quantity, hfollows.quantity hexact,
        hquantity hexact stored hstored item hitem hfollows.orderItemId]
  shown hboard item hitem := by
    obtain ⟨stored, hstored, rfl⟩ := (Table.mem_rewrite hid).mp hitem
    obtain ⟨task, htask, htaskId⟩ := hagrees.shown hboard stored hstored
    refine ⟨_, Table.mem_rewrite_of_mem (followItem_orderItemId now ticket.items change) htask, ?_⟩
    rw [followItem_orderItemId, hid]
    exact htaskId
  waiting hwaits := by
    obtain ⟨hnone, hpending⟩ := hagrees.waiting hwaits
    constructor
    · intro task htask
      obtain ⟨stored, hstored, -⟩ := (Table.mem_rewrite
      (followItem_orderItemId now ticket.items change)).mp htask
      exact hnone stored hstored
    · intro item hitem
      obtain ⟨stored, hstored, rfl⟩ := (Table.mem_rewrite hid).mp hitem
      exact (hwaiting hwaits stored hstored).trans (hpending stored hstored)

theorem agrees_deleteItems (hagrees : Agrees exact ticket) (removed : KitchenItem → Bool) :
    Agrees exact (deleteItems removed ticket) where
  follows task htask := by
    obtain ⟨hstored, hkept⟩ := Table.mem_filter.mp htask
    obtain ⟨item, hitem, hfollows⟩ := hagrees.follows task hstored
    have hget : ticket.items.get? task.orderItemId = some item :=
      Table.get?_eq_some_iff.mpr ⟨hitem, hfollows.orderItemId.symm⟩
    rw [hget, Option.any_some] at hkept
    exact ⟨item, Table.mem_filter.mpr ⟨hitem, hkept⟩, hfollows⟩
  shown hboard item hitem := by
    obtain ⟨hstored, hkept⟩ := Table.mem_filter.mp hitem
    obtain ⟨task, htask, htaskId⟩ := hagrees.shown hboard item hstored
    have hget : ticket.items.get? task.orderItemId = some item :=
      Table.get?_eq_some_iff.mpr ⟨hstored, htaskId.symm⟩
    refine ⟨task, Table.mem_filter.mpr ⟨htask, ?_⟩, htaskId⟩
    rw [hget, Option.any_some]
    exact hkept
  waiting hwaits := by
    obtain ⟨hnone, hpending⟩ := hagrees.waiting hwaits
    exact ⟨fun task htask => hnone task (Table.mem_filter.mp htask).1,
      fun item hitem => hpending item (Table.mem_filter.mp hitem).1⟩

theorem agrees_insertItem (hagrees : Agrees exact ticket)
    (hpending : ticket.status = .waitingConfirmation → item.status = .pending)
    (hinsert : insertItem kitchen now item ticket = some written) : Agrees exact written := by
  obtain ⟨items, hitems, rfl⟩ := Option.map_eq_some_iff.mp hinsert
  have hfollows : ∀ task ∈ ticket.tasks, ∃ stored ∈ items,
      Follows exact ticket.status stored task := by
    intro task htask
    obtain ⟨stored, hstored, hfollows⟩ := hagrees.follows task htask
    exact ⟨stored, (Table.mem_of_insert? hitems).mpr (.inl hstored), hfollows⟩
  by_cases hboard : isOnBoard ticket.status = true
  · exact agrees_create hboard hfollows
  · rw [createKdsTasksForOrder, if_neg hboard]
    refine ⟨hfollows, fun hon => absurd hon hboard, fun hwaits => ?_⟩
    refine ⟨(hagrees.waiting hwaits).1, fun stored hstored => ?_⟩
    rcases (Table.mem_of_insert? hitems).mp hstored with hold | rfl
    · exact (hagrees.waiting hwaits).2 stored hold
    · exact hpending hwaits

/-! ## Statuses -/

/-- A confirmation routes the items of a waiting order. -/
theorem agrees_confirmed (hagrees : Agrees exact ticket)
    (hwaits : ticket.status = .waitingConfirmation) :
    Agrees exact (setStatus kitchen now .confirmed ticket) := by
  have hne : OrderStatus.confirmed ≠ ticket.status := by rw [hwaits]; nofun
  rw [setStatus, if_neg hne]
  exact agrees_create rfl fun task htask => absurd htask ((hagrees.waiting hwaits).1 task)

theorem agrees_cancelled (hagrees : Agrees exact ticket)
    (hcancels : ticket.status ≠ .cancelled) :
    Agrees exact (setStatus kitchen now .cancelled ticket) := by
  rw [setStatus, if_neg hcancels.symm]
  refine ⟨fun task htask => ?_, fun hboard => absurd hboard Bool.false_ne_true,
    fun hwaits => by cases hwaits⟩
  obtain ⟨stored, hstored, rfl⟩ := (Table.mem_rewrite (cancelTask_orderItemId now)).mp htask
  obtain ⟨item, hitem, hfollows⟩ := hagrees.follows stored hstored
  refine ⟨item, hitem, ?_, fun hboard => absurd hboard Bool.false_ne_true, fun hexact => ?_⟩
  · exact (cancelTask_orderItemId now stored).trans hfollows.orderItemId
  · unfold cancelTask
    split <;> exact hfollows.quantity hexact

/-- Between the statuses of the board nothing else is written. -/
theorem agrees_advanced (hagrees : Agrees exact ticket) (hboard : isOnBoard ticket.status = true)
    (hnext : isOnBoard status = true) (hconfirmed : status ≠ .confirmed) :
    Agrees exact (setStatus kitchen now status ticket)
      ∧ (setStatus kitchen now status ticket).status = status
      ∧ (setStatus kitchen now status ticket).tasks = ticket.tasks
      ∧ (setStatus kitchen now status ticket).items = ticket.items := by
  have hwritten : setStatus kitchen now status ticket
      = { ticket with status, updatedAt := now } := by
    unfold setStatus
    split
    · rfl
    · cases status with
      | confirmed => exact absurd rfl hconfirmed
      | cancelled => cases hnext
      | _ => rfl
  rw [hwritten]
  refine ⟨⟨fun task htask => ?_, fun _ => hagrees.shown hboard, fun hwaits => ?_⟩, rfl, rfl, rfl⟩
  · obtain ⟨item, hitem, hfollows⟩ := hagrees.follows task htask
    exact ⟨item, hitem, hfollows.orderItemId, fun _ => hfollows.status hboard, hfollows.quantity⟩
  · have hstatus : status = .waitingConfirmation := hwaits
    rw [hstatus] at hnext
    cases hnext

end Stallorder.KitchenBoard
