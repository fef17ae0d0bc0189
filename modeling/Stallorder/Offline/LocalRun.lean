import Stallorder.Offline.SyncQueue

/-!
# Runs of the device

A run of the device is a list of local operations, each with what it draws and
reads from the clock.  Whatever the operations are, an order keeps its identity
and what was sold, and every order keeps its entry in the upload queue.
-/

namespace Stallorder.LocalRun

open OrderContract Permit Catalog LocalDatabase Operations SyncQueue Run

inductive LocalCommand
  | bootstrap (installationId : Uuid) (response : OfflineBootstrapResponse)
  | createOrder (draft : CreateOfflineOrderDraft) (ids : CreationIds) (now : Timestamp)
  | transition (offlineOrderId : Uuid) (nextState : OfflineOrderState)
      (reason : Option Text) (eventId : Uuid) (now : Timestamp)
  | cashEvent (input : CashEventInput) (ids : CashEventIds) (now : Timestamp)
  | markAttempt (queueIds : List Uuid) (result : AttemptResult) (retryAt now : Timestamp)
  | applyResponse (response : OfflineSyncResponse) (now : Timestamp)

variable (localBusinessDate : Timestamp → Text → Option Text)

/-- Execute one operation; what it throws is dropped, what it wrote stays. -/
def step (db : LocalDb) : LocalCommand → LocalDb
  | .bootstrap installationId response =>
      saveOfflineBootstrap db (bootstrapBundle installationId response)
  | .createOrder draft ids now => (createOfflineOrder localBusinessDate db draft ids now).1
  | .transition offlineOrderId nextState reason eventId now =>
      (transitionOfflineOrder db offlineOrderId nextState reason eventId now).1
  | .cashEvent input ids now => (createOfflineCashEvent db input ids now).1
  | .markAttempt queueIds result retryAt now =>
      (markOfflineSyncAttempt queueIds result retryAt now db).1
  | .applyResponse response now => (applyOfflineSyncResponse response now db).1

/-! ## What an order keeps -/

/-- The right order is the left one up to its state and the bookkeeping of the
synchronization. -/
def SameSale (left right : OfflineOrder) : Prop :=
  right = { left with
    orderStatus := right.orderStatus
    updatedAtDevice := right.updatedAtDevice
    syncStatus := right.syncStatus
    retryCount := right.retryCount
    lastRetryAt := right.lastRetryAt }

theorem SameSale.refl (order : OfflineOrder) : SameSale order order := rfl

theorem SameSale.trans {first second third : OfflineOrder} (hfirst : SameSale first second)
    (hsecond : SameSale second third) : SameSale first third := by
  unfold SameSale at hfirst hsecond ⊢
  rw [hfirst] at hsecond
  exact hsecond

def Normalized (order : OfflineOrder) : Prop :=
  offlineOrderSchema.normalize order = order

theorem normalized_of_parse {order parsed : OfflineOrder}
    (hparse : offlineOrderSchema.parse order = some parsed) : Normalized parsed := by
  have hagain := offlineOrderSchema.parse_parsed hparse
  exact (offlineOrderSchema.parse_eq_some_iff.mp hagain).2

theorem eq_of_parse {order parsed : OfflineOrder} (hnormalized : Normalized order)
    (hparse : offlineOrderSchema.parse order = some parsed) : parsed = order :=
  (offlineOrderSchema.parse_eq_some_iff.mp hparse).2.symm.trans hnormalized

theorem Normalized.sameSale {left right : OfflineOrder} (hnormalized : Normalized left)
    (hsame : SameSale left right) : Normalized right := by
  unfold SameSale at hsame
  unfold Normalized at hnormalized ⊢
  have hitems := congrArg OfflineOrder.itemsSnapshot hnormalized
  have hlabel := congrArg OfflineOrder.customerLabel hnormalized
  have hcontact := congrArg OfflineOrder.customerContact hnormalized
  have hnote := congrArg OfflineOrder.note hnormalized
  simp only [offlineOrderSchema] at hitems hlabel hcontact hnote ⊢
  rw [hsame]
  simp only [hitems, hlabel, hcontact, hnote]

structure Follows (before after : StoredOrder) : Prop where
  localOrderId : after.localOrderId = before.localOrderId
  stallId : after.stallId = before.stallId
  sale : SameSale before.payload after.payload

theorem Follows.refl (row : StoredOrder) : Follows row row :=
  ⟨rfl, rfl, SameSale.refl _⟩

theorem Follows.trans {first second third : StoredOrder} (hfirst : Follows first second)
    (hsecond : Follows second third) : Follows first third :=
  ⟨hsecond.localOrderId.trans hfirst.localOrderId, hsecond.stallId.trans hfirst.stallId,
    hfirst.sale.trans hsecond.sale⟩

structure SameEntry (before after : StoredQueueRecord) : Prop where
  queueId : after.queueId = before.queueId
  idempotencyKey : after.idempotencyKey = before.idempotencyKey
  entityType : after.entityType = before.entityType
  entityId : after.entityId = before.entityId
  stallId : after.stallId = before.stallId

theorem SameEntry.refl (queue : StoredQueueRecord) : SameEntry queue queue :=
  ⟨rfl, rfl, rfl, rfl, rfl⟩

theorem SameEntry.trans {first second third : StoredQueueRecord}
    (hfirst : SameEntry first second) (hsecond : SameEntry second third) :
    SameEntry first third :=
  ⟨hsecond.queueId.trans hfirst.queueId, hsecond.idempotencyKey.trans hfirst.idempotencyKey,
    hsecond.entityType.trans hfirst.entityType, hsecond.entityId.trans hfirst.entityId,
    hsecond.stallId.trans hfirst.stallId⟩

/-- No order and no queue entry came or went, and each kept what it keeps. -/
structure Evolves (before after : LocalDb) : Prop where
  orders_back : ∀ row ∈ after.offlineOrders, ∃ old ∈ before.offlineOrders, Follows old row
  orders_forth : ∀ row ∈ before.offlineOrders, ∃ new ∈ after.offlineOrders, Follows row new
  queue_back : ∀ queue ∈ after.syncQueue, ∃ old ∈ before.syncQueue, SameEntry old queue
  queue_forth : ∀ queue ∈ before.syncQueue, ∃ new ∈ after.syncQueue, SameEntry queue new
  events : after.offlineOrderEvents = before.offlineOrderEvents
  payments : after.offlinePayments = before.offlinePayments
  printJobs : after.offlinePrintJobs = before.offlinePrintJobs

theorem Evolves.refl (db : LocalDb) : Evolves db db where
  orders_back row hrow := ⟨row, hrow, Follows.refl row⟩
  orders_forth row hrow := ⟨row, hrow, Follows.refl row⟩
  queue_back queue hqueue := ⟨queue, hqueue, SameEntry.refl queue⟩
  queue_forth queue hqueue := ⟨queue, hqueue, SameEntry.refl queue⟩
  events := rfl
  payments := rfl
  printJobs := rfl

theorem Evolves.trans {first second third : LocalDb} (hfirst : Evolves first second)
    (hsecond : Evolves second third) : Evolves first third where
  orders_back row hrow := by
    obtain ⟨middle, hmiddle, hlater⟩ := hsecond.orders_back row hrow
    obtain ⟨old, hold, hearlier⟩ := hfirst.orders_back middle hmiddle
    exact ⟨old, hold, hearlier.trans hlater⟩
  orders_forth row hrow := by
    obtain ⟨middle, hmiddle, hearlier⟩ := hfirst.orders_forth row hrow
    obtain ⟨new, hnew, hlater⟩ := hsecond.orders_forth middle hmiddle
    exact ⟨new, hnew, hearlier.trans hlater⟩
  queue_back queue hqueue := by
    obtain ⟨middle, hmiddle, hlater⟩ := hsecond.queue_back queue hqueue
    obtain ⟨old, hold, hearlier⟩ := hfirst.queue_back middle hmiddle
    exact ⟨old, hold, hearlier.trans hlater⟩
  queue_forth queue hqueue := by
    obtain ⟨middle, hmiddle, hearlier⟩ := hfirst.queue_forth queue hqueue
    obtain ⟨new, hnew, hlater⟩ := hsecond.queue_forth middle hmiddle
    exact ⟨new, hnew, hearlier.trans hlater⟩
  events := hsecond.events.trans hfirst.events
  payments := hsecond.payments.trans hfirst.payments
  printJobs := hsecond.printJobs.trans hfirst.printJobs

/-! ## The records of a database -/

/-- The queue entry of an order. -/
structure EntryOf (row : StoredOrder) (queue : StoredQueueRecord) : Prop where
  type : queue.entityType = .order
  entity : queue.entityId = row.localOrderId
  idempotencyKey : queue.idempotencyKey = row.payload.idempotencyKey
  stall : queue.stallId = row.stallId

/-- Orders and queue entries belong together one to one, and everything that
was stored had passed its schema. -/
structure Linked (db : LocalDb) : Prop where
  normalized : ∀ row ∈ db.offlineOrders, Normalized row.payload
  orderId : ∀ row ∈ db.offlineOrders, row.payload.offlineOrderId = row.localOrderId
  orderStall : ∀ row ∈ db.offlineOrders, row.payload.stallId = row.stallId
  entry : ∀ row ∈ db.offlineOrders, ∃ queue ∈ db.syncQueue, EntryOf row queue
  order : ∀ queue ∈ db.syncQueue, queue.entityType = .order →
    ∃ row ∈ db.offlineOrders, EntryOf row queue
  entry_unique : ∀ left ∈ db.syncQueue, ∀ right ∈ db.syncQueue, left.entityType = .order →
    right.entityType = .order → left.entityId = right.entityId → left = right
  events : ∀ row ∈ db.offlineOrderEvents,
    offlineOrderEventSchema.parse row.payload = some row.payload
  payments : ∀ row ∈ db.offlinePayments,
    offlinePaymentSchema.parse row.payload = some row.payload
  printJobs : ∀ row ∈ db.offlinePrintJobs,
    offlinePrintJobSchema.parse row.payload = some row.payload

theorem linked_empty : Linked LocalDb.empty where
  normalized row hrow := absurd hrow (Table.notMem_empty row)
  orderId row hrow := absurd hrow (Table.notMem_empty row)
  orderStall row hrow := absurd hrow (Table.notMem_empty row)
  entry row hrow := absurd hrow (Table.notMem_empty row)
  order queue hqueue := absurd hqueue (Table.notMem_empty queue)
  entry_unique left hleft := absurd hleft (Table.notMem_empty left)
  events row hrow := absurd hrow (Table.notMem_empty row)
  payments row hrow := absurd hrow (Table.notMem_empty row)
  printJobs row hrow := absurd hrow (Table.notMem_empty row)

theorem EntryOf.follow {row row' : StoredOrder} {queue queue' : StoredQueueRecord}
    (hentry : EntryOf row queue) (hrow : Follows row row') (hqueue : SameEntry queue queue') :
    EntryOf row' queue' where
  type := hqueue.entityType.trans hentry.type
  entity := by rw [hqueue.entityId, hentry.entity, hrow.localOrderId]
  idempotencyKey := by
    rw [hqueue.idempotencyKey, hentry.idempotencyKey, hrow.sale]
  stall := by rw [hqueue.stallId, hentry.stall, hrow.stallId]

/-- The order of a queue entry is the one stored under its entity. -/
theorem Linked.entryOf_of_entity {db : LocalDb} (hlinked : Linked db) {row : StoredOrder}
    {queue : StoredQueueRecord} (hrow : row ∈ db.offlineOrders) (hqueue : queue ∈ db.syncQueue)
    (htype : queue.entityType = .order) (hentity : queue.entityId = row.localOrderId) :
    EntryOf row queue := by
  obtain ⟨other, hother, hentry⟩ := hlinked.order queue hqueue htype
  have hsame : other = row := Table.eq_of_key_eq hother hrow
    (hentry.entity.symm.trans hentity)
  exact hsame ▸ hentry

theorem Linked.evolves {before after : LocalDb} (hlinked : Linked before)
    (hevolves : Evolves before after) : Linked after where
  normalized row hrow := by
    obtain ⟨old, hold, hfollows⟩ := hevolves.orders_back row hrow
    exact (hlinked.normalized old hold).sameSale hfollows.sale
  orderId row hrow := by
    obtain ⟨old, hold, hfollows⟩ := hevolves.orders_back row hrow
    rw [hfollows.sale, hfollows.localOrderId]
    exact hlinked.orderId old hold
  orderStall row hrow := by
    obtain ⟨old, hold, hfollows⟩ := hevolves.orders_back row hrow
    rw [hfollows.sale, hfollows.stallId]
    exact hlinked.orderStall old hold
  entry row hrow := by
    obtain ⟨old, hold, hfollows⟩ := hevolves.orders_back row hrow
    obtain ⟨queue, hqueue, hentry⟩ := hlinked.entry old hold
    obtain ⟨queue', hqueue', hsame⟩ := hevolves.queue_forth queue hqueue
    exact ⟨queue', hqueue', hentry.follow hfollows hsame⟩
  order queue hqueue htype := by
    obtain ⟨old, hold, hsame⟩ := hevolves.queue_back queue hqueue
    obtain ⟨row, hrow, hentry⟩ := hlinked.order old hold (hsame.entityType.symm.trans htype)
    obtain ⟨row', hrow', hfollows⟩ := hevolves.orders_forth row hrow
    exact ⟨row', hrow', hentry.follow hfollows hsame⟩
  entry_unique left hleft right hright hleftType hrightType hentity := by
    obtain ⟨oldLeft, holdLeft, hsameLeft⟩ := hevolves.queue_back left hleft
    obtain ⟨oldRight, holdRight, hsameRight⟩ := hevolves.queue_back right hright
    have hold : oldLeft = oldRight := hlinked.entry_unique oldLeft holdLeft oldRight holdRight
      (hsameLeft.entityType.symm.trans hleftType)
      (hsameRight.entityType.symm.trans hrightType)
      (by rw [← hsameLeft.entityId, ← hsameRight.entityId, hentity])
    exact Table.eq_of_key_eq hleft hright
      (hsameLeft.queueId.trans (hold ▸ hsameRight.queueId.symm))
  events := hevolves.events ▸ hlinked.events
  payments := hevolves.payments ▸ hlinked.payments
  printJobs := hevolves.printJobs ▸ hlinked.printJobs

/-! ## Steps -/

section Steps

variable {localBusinessDate} {db db' : LocalDb}

theorem sameSale_attempted (result : AttemptResult) (retryCount : ℕ) (now : Timestamp)
    (order : OfflineOrder) (row : StoredOrder) :
    SameSale order (attemptedOrder result retryCount now order row).payload := rfl

theorem sameSale_received (receipt : OfflineSyncReceipt) (now : Timestamp)
    (order : OfflineOrder) (row : StoredOrder) :
    SameSale order (receivedOrder receipt now order row).payload := rfl

/-- Only queue entries and orders are rewritten, each keeping what it keeps. -/
theorem evolves_of_updates
    (queueId : Uuid) (changeQueue : StoredQueueRecord → StoredQueueRecord)
    (hchangeQueue : ∀ {row other}, Indexed.collides (changeQueue row) other →
      Indexed.collides row other)
    (hqueueTable : db'.syncQueue = db.syncQueue.update queueId changeQueue hchangeQueue)
    (hqueue : ∀ queue, SameEntry queue (changeQueue queue))
    (horders : db'.offlineOrders = db.offlineOrders
      ∨ ∃ row ∈ db.offlineOrders, ∃ (change : StoredOrder → StoredOrder)
        (hchange : ∀ {row other}, Indexed.collides (change row) other →
          Indexed.collides row other),
        db'.offlineOrders = db.offlineOrders.update row.localOrderId change hchange
          ∧ Follows row (change row))
    (hevents : db'.offlineOrderEvents = db.offlineOrderEvents)
    (hpayments : db'.offlinePayments = db.offlinePayments)
    (hprintJobs : db'.offlinePrintJobs = db.offlinePrintJobs) :
    Evolves db db' := by
  have hordersBoth : (∀ row ∈ db'.offlineOrders, ∃ old ∈ db.offlineOrders, Follows old row)
      ∧ ∀ row ∈ db.offlineOrders, ∃ new ∈ db'.offlineOrders, Follows row new := by
    rcases horders with hsame | ⟨stored, hstored, change, hchange, htable, hfollows⟩
    · rw [hsame]
      exact ⟨fun row hrow => ⟨row, hrow, Follows.refl row⟩,
        fun row hrow => ⟨row, hrow, Follows.refl row⟩⟩
    · have hrelated : ∀ row ∈ db.offlineOrders, Indexed.key row = stored.localOrderId →
          Follows row (change row) := by
        intro row hrow hkey
        rw [Table.eq_of_key_eq hrow hstored hkey]
        exact hfollows
      rw [htable]
      exact ⟨fun row => Table.update_back Follows.refl hrelated,
        fun row => Table.update_forth change hchange Follows.refl hrelated⟩
  have hrelated : ∀ queue ∈ db.syncQueue, Indexed.key queue = queueId →
      SameEntry queue (changeQueue queue) := fun queue _ _ => hqueue queue
  refine ⟨hordersBoth.1, hordersBoth.2, ?_, ?_, hevents, hpayments, hprintJobs⟩
  · rw [hqueueTable]
    exact fun queue => Table.update_back SameEntry.refl hrelated
  · rw [hqueueTable]
    exact fun queue => Table.update_forth changeQueue hchangeQueue SameEntry.refl hrelated

theorem evolves_markQueueRecord (hlinked : Linked db) (result : AttemptResult)
    (retryAt now : Timestamp) (queueId : Uuid) :
    Evolves db (markQueueRecord result retryAt now queueId db).1 := by
  rcases markQueueRecord_cases (Prod.mk.eta (p := markQueueRecord result retryAt now queueId db)).symm
    with ⟨-, hdb, -⟩ | ⟨queue, -, ⟨-, hdb⟩ | ⟨row, order, hentity, -, hdb⟩⟩
  · rw [hdb]
    exact Evolves.refl db
  · rw [hdb]
    exact evolves_of_updates queueId (attemptedQueueRecord result retryAt now) id rfl
      (fun _ => ⟨rfl, rfl, rfl, rfl, rfl⟩) (Or.inl rfl) rfl rfl rfl
  · rw [hdb]
    have hrow := Table.mem_of_get? hentity.found
    have hkey : row.localOrderId = queue.entityId := Table.key_of_get? hentity.found
    refine evolves_of_updates queueId (attemptedQueueRecord result retryAt now) id rfl
      (fun _ => ⟨rfl, rfl, rfl, rfl, rfl⟩)
      (Or.inr ⟨row, hrow, attemptedOrder result (countRetry result queue.retryCount) now order,
        id, ?_, rfl, rfl, ?_⟩) rfl rfl rfl
    · simp only [hkey]
    · rw [← eq_of_parse (hlinked.normalized row hrow) hentity.parsed]
      exact sameSale_attempted result _ now order row

theorem evolves_markOfflineSyncAttempt (hlinked : Linked db) (queueIds : List Uuid)
    (result : AttemptResult) (retryAt now : Timestamp) :
    Evolves db (markOfflineSyncAttempt queueIds result retryAt now db).1 :=
  forEach_invariant (Evolves db)
    (fun queueId _ _ hevolves => hevolves.trans
      (evolves_markQueueRecord (hlinked.evolves hevolves) result retryAt now queueId))
    (Evolves.refl db)

theorem evolves_applyReceipt (hlinked : Linked db) (promotionEpoch : ℕ) (now : Timestamp)
    (receipt : OfflineSyncReceipt) :
    Evolves db (applyReceipt promotionEpoch now receipt db).1 := by
  rcases applyReceipt_cases (Prod.mk.eta (p := applyReceipt promotionEpoch now receipt db)).symm
    with ⟨-, hdb, -⟩ | ⟨queue, -, hframe, ⟨-, horders⟩ | ⟨row, order, hentity, -, horders⟩⟩
  · rw [hdb]
    exact Evolves.refl db
  · exact evolves_of_updates receipt.queueId (receivedQueueRecord receipt now) id
      hframe.queueRow (fun _ => ⟨rfl, rfl, rfl, rfl, rfl⟩)
      (Or.inl horders) hframe.events hframe.payments hframe.printJobs
  · have hrow := Table.mem_of_get? hentity.found
    have hkey : row.localOrderId = queue.entityId := Table.key_of_get? hentity.found
    refine evolves_of_updates receipt.queueId (receivedQueueRecord receipt now) id
      hframe.queueRow (fun _ => ⟨rfl, rfl, rfl, rfl, rfl⟩)
      (Or.inr ⟨row, hrow, receivedOrder receipt now order, id, ?_, rfl, rfl, ?_⟩)
      hframe.events hframe.payments hframe.printJobs
    · rw [horders, hkey]
    · rw [← eq_of_parse (hlinked.normalized row hrow) hentity.parsed]
      exact sameSale_received receipt now order row

theorem evolves_applyOfflineSyncResponse (hlinked : Linked db) (response : OfflineSyncResponse)
    (now : Timestamp) : Evolves db (applyOfflineSyncResponse response now db).1 :=
  forEach_invariant (Evolves db)
    (fun receipt _ _ hevolves => hevolves.trans
      (evolves_applyReceipt (hlinked.evolves hevolves) response.promotionEpoch now receipt))
    (Evolves.refl db)

/-- The version of an order that a transition stores. -/
theorem sameSale_of_transition {offlineOrderId : Uuid} {nextState : OfflineOrderState}
    {reason : Option Text} {eventId : Uuid} {now : Timestamp} {row : StoredOrder}
    {updated : OfflineOrder} {event : OfflineOrderEvent} (hnormalized : Normalized row.payload)
    (htransition : Transition db offlineOrderId nextState reason eventId now row updated event) :
    updated = movedOrder row.payload nextState now := by
  obtain ⟨order, hparsed, hmoved, -⟩ := htransition.parsed
  rw [eq_of_parse hnormalized hparsed] at hmoved
  exact eq_of_parse (hnormalized.sameSale rfl) hmoved

/-- A new version of an order and another event keep the records linked. -/
theorem Linked.transition (hlinked : Linked db) {offlineOrderId : Uuid}
    {nextState : OfflineOrderState} {reason : Option Text} {eventId : Uuid} {now : Timestamp} :
    Linked (transitionOfflineOrder db offlineOrderId nextState reason eventId now).1 := by
  rcases transitionOfflineOrder_cases (Prod.mk.eta
      (p := transitionOfflineOrder db offlineOrderId nextState reason eventId now)).symm
    with ⟨-, -, hdb⟩ | ⟨row, updated, event, events, -, htransition, hinsert, hdb⟩
  · rw [hdb]
    exact hlinked
  · have hrow := Table.mem_of_get? htransition.found
    have hkey : row.localOrderId = offlineOrderId := Table.key_of_get? htransition.found
    have hupdated := sameSale_of_transition (hlinked.normalized row hrow) htransition
    have hrelated : ∀ stored ∈ db.offlineOrders, Indexed.key stored = offlineOrderId →
        Follows stored (transitionedOrder updated stored) := by
      intro stored hstored hstoredKey
      have hsame : stored = row :=
        Table.eq_of_key_eq hstored hrow (hstoredKey.trans hkey.symm)
      rw [hsame, hupdated]
      exact ⟨rfl, rfl, rfl⟩
    have hback : ∀ stored ∈ db.offlineOrders.update offlineOrderId (transitionedOrder updated) id,
        ∃ old ∈ db.offlineOrders, Follows old stored :=
      fun stored hstored => Table.update_back Follows.refl hrelated hstored
    have hevolves : Evolves db { db with
        offlineOrders :=
          db.offlineOrders.update offlineOrderId (transitionedOrder updated) id } :=
      ⟨hback,
        fun stored => Table.update_forth (transitionedOrder updated) id Follows.refl hrelated,
        fun queue hqueue => ⟨queue, hqueue, SameEntry.refl queue⟩,
        fun queue hqueue => ⟨queue, hqueue, SameEntry.refl queue⟩, rfl, rfl, rfl⟩
    have hmoved := hlinked.evolves hevolves
    obtain ⟨order, -, -, hevent⟩ := htransition.parsed
    rw [hdb]
    refine ⟨hmoved.normalized, hmoved.orderId, hmoved.orderStall, hmoved.entry, hmoved.order,
      hmoved.entry_unique, ?_, hmoved.payments, hmoved.printJobs⟩
    intro stored hstored
    rcases (Table.mem_of_insert? hinsert).mp hstored with hold | rfl
    · exact hlinked.events stored hold
    · exact offlineOrderEventSchema.parse_parsed hevent

theorem Linked.cashShift (hlinked : Linked db) (cashShiftSnapshot : Table CashShiftSnapshot) :
    Linked { db with cashShiftSnapshot } :=
  ⟨hlinked.normalized, hlinked.orderId, hlinked.orderStall, hlinked.entry, hlinked.order,
    hlinked.entry_unique, hlinked.events, hlinked.payments, hlinked.printJobs⟩

/-- A created order has a new identifier, which no queue entry names. -/
theorem Linked.fresh (hlinked : Linked db) {created : CreatedOfflineOrder} {stallId : Uuid}
    {now : Timestamp} (hstored : StoredOrderRecords db db' created stallId now) :
    (∀ row ∈ db.offlineOrders, row.localOrderId ≠ created.order.offlineOrderId)
      ∧ ∀ queue ∈ db.syncQueue, queue.entityType = .order →
        queue.entityId ≠ created.order.offlineOrderId := by
  have hfresh : ∀ row ∈ db.offlineOrders, row.localOrderId ≠ created.order.offlineOrderId :=
    fun row hrow hsame => Table.not_collides_of_insert? hstored.orders hrow
      (Indexed.collides_of_key_eq hsame)
  refine ⟨hfresh, fun queue hmem htype hsame => ?_⟩
  obtain ⟨row, hrow, hentry⟩ := hlinked.order queue hmem htype
  exact hfresh row hrow (hentry.entity.symm.trans hsame)

/-- A created order enters the stores together with its queue entry. -/
theorem Linked.createOrder (hlinked : Linked db) {draft : CreateOfflineOrderDraft}
    {ids : CreationIds} {now : Timestamp} :
    Linked (createOfflineOrder localBusinessDate db draft ids now).1 := by
  rcases createOfflineOrder_cases (Prod.mk.eta
      (p := createOfflineOrder localBusinessDate db draft ids now)).symm
    with ⟨error, shift, -, hdb⟩ |
      ⟨admission, decision, parts, created, -, -, hdecide, hassembled, hstored⟩
  · obtain ⟨cashShiftSnapshot, hput⟩ := putCashShift_frame db shift
    rw [hdb, hput]
    exact hlinked.cashShift cashShiftSnapshot
  · generalize (createOfflineOrder localBusinessDate db draft ids now).1 = db' at hstored
    obtain ⟨cashShiftSnapshot, hput⟩ := putCashShift_frame db decision.cashShift
    rw [hput] at hstored
    have horderEq := hassembled.order_eq
    have horders : ∀ row, row ∈ db'.offlineOrders ↔
        row ∈ db.offlineOrders ∨ row = storedOrder created.order draft.stallId := fun row =>
      Table.mem_of_insert? hstored.orders
    have hqueue : ∀ queue, queue ∈ db'.syncQueue ↔
        queue ∈ db.syncQueue ∨ queue = queueRecordForOrder created draft.stallId now :=
      fun queue => Table.mem_of_insert? hstored.queue
    obtain ⟨hfresh, hnoEntry⟩ := (hlinked.cashShift cashShiftSnapshot).fresh hstored
    have hnewEntry : EntryOf (storedOrder created.order draft.stallId)
        (queueRecordForOrder created draft.stallId now) := ⟨rfl, rfl, rfl, rfl⟩
    constructor
    · intro row hrow
      rcases (horders row).mp hrow with hold | rfl
      · exact hlinked.normalized row hold
      · exact normalized_of_parse hassembled.order
    · intro row hrow
      rcases (horders row).mp hrow with hold | rfl
      · exact hlinked.orderId row hold
      · rfl
    · intro row hrow
      rcases (horders row).mp hrow with hold | rfl
      · exact hlinked.orderStall row hold
      · change created.order.stallId = draft.stallId
        rw [horderEq]
        rfl
    · intro row hrow
      rcases (horders row).mp hrow with hold | rfl
      · obtain ⟨queue, hmem, hentry⟩ := hlinked.entry row hold
        exact ⟨queue, (hqueue queue).mpr (Or.inl hmem), hentry⟩
      · exact ⟨_, (hqueue _).mpr (Or.inr rfl), hnewEntry⟩
    · intro queue hmem htype
      rcases (hqueue queue).mp hmem with hold | rfl
      · obtain ⟨row, hrow, hentry⟩ := hlinked.order queue hold htype
        exact ⟨row, (horders row).mpr (Or.inl hrow), hentry⟩
      · exact ⟨_, (horders _).mpr (Or.inr rfl), hnewEntry⟩
    · intro left hleft right hright hleftType hrightType hentity
      rcases (hqueue left).mp hleft with holdLeft | rfl
      · rcases (hqueue right).mp hright with holdRight | rfl
        · exact hlinked.entry_unique left holdLeft right holdRight hleftType hrightType hentity
        · exact absurd hentity (hnoEntry left holdLeft hleftType)
      · rcases (hqueue right).mp hright with holdRight | rfl
        · exact absurd hentity.symm (hnoEntry right holdRight hrightType)
        · rfl
    · intro row hrow
      rcases (Table.mem_of_insert? hstored.events).mp hrow with hold | rfl
      · exact hlinked.events row hold
      · exact offlineOrderEventSchema.parse_parsed hassembled.event
    · intro row hrow
      rcases (mem_of_insertOptional? hstored.payments).mp hrow with hold | hnew
      · exact hlinked.payments row hold
      · obtain ⟨payment, hpayment, rfl⟩ := Option.map_eq_some_iff.mp hnew
        rw [hassembled.payment] at hpayment
        exact (payment_of_decideOfflinePayment hdecide hpayment).1
    · intro row hrow
      rcases (mem_of_insertOptional? hstored.printJobs).mp hrow with hold | hnew
      · exact hlinked.printJobs row hold
      · obtain ⟨job, hjob, rfl⟩ := Option.map_eq_some_iff.mp hnew
        exact offlinePrintJobSchema.parse_parsed (hassembled.printJob job hjob)

/-- A cash event brings a queue entry that is not about an order. -/
theorem Linked.cashEvent (hlinked : Linked db) {input : CashEventInput} {ids : CashEventIds}
    {now : Timestamp} : Linked (createOfflineCashEvent db input ids now).1 := by
  rcases createOfflineCashEvent_cases (Prod.mk.eta
      (p := createOfflineCashEvent db input ids now)).symm
    with ⟨-, -, hdb⟩ | ⟨shift, event, queue, -, -, hinsert, hdb⟩
  · rw [hdb]
    exact hlinked
  · rw [hdb]
    have hold : ∀ entry ∈ queue, entry.entityType = .order → entry ∈ db.syncQueue := by
      intro entry hentry htype
      rcases (Table.mem_of_insert? hinsert).mp hentry with hold | rfl
      · exact hold
      · cases htype
    refine ⟨hlinked.normalized, hlinked.orderId, hlinked.orderStall, ?_, ?_, ?_,
      hlinked.events, hlinked.payments, hlinked.printJobs⟩
    · intro row hrow
      obtain ⟨entry, hmem, hentry⟩ := hlinked.entry row hrow
      exact ⟨entry, (Table.mem_of_insert? hinsert).mpr (Or.inl hmem), hentry⟩
    · intro entry hentry htype
      exact hlinked.order entry (hold entry hentry htype) htype
    · intro left hleft right hright hleftType hrightType hentity
      exact hlinked.entry_unique left (hold left hleft hleftType) right
        (hold right hright hrightType) hleftType hrightType hentity

theorem linked_step (hlinked : Linked db) (command : LocalCommand) :
    Linked (step localBusinessDate db command) := by
  cases command with
  | bootstrap installationId response =>
      exact ⟨hlinked.normalized, hlinked.orderId, hlinked.orderStall, hlinked.entry,
        hlinked.order, hlinked.entry_unique, hlinked.events, hlinked.payments,
        hlinked.printJobs⟩
  | createOrder draft ids now => exact hlinked.createOrder
  | transition offlineOrderId nextState reason eventId now => exact hlinked.transition
  | cashEvent input ids now => exact hlinked.cashEvent
  | markAttempt queueIds result retryAt now =>
      exact hlinked.evolves (evolves_markOfflineSyncAttempt hlinked queueIds result retryAt now)
  | applyResponse response now =>
      exact hlinked.evolves (evolves_applyOfflineSyncResponse hlinked response now)

theorem linked_exec (commands : List LocalCommand) :
    Linked (exec (step localBusinessDate) LocalDb.empty commands) :=
  invariant_exec Linked (fun _ command hlinked => linked_step hlinked command) linked_empty
    commands

end Steps

/-! ## A device at one stall

The values from which the runs of the following modules are built: a stall
that sells one product for cash, and permits that its menu outlives.
-/

def minuteMs : ℤ := 60_000

def sampleLimits : OfflineRuntimeLimits where
  maxOfflineDurationMinutes := 60
  maxPendingOrders := 1
  maxTotalAmount := 100
  maxSingleOrderAmount := 100
  maxManualPaymentAmount := 50
  maxTotalManualPaymentAmount := 50
  requireCustomerContactAboveAmount := 0
  managerApprovalThreshold := 0

def sampleCatalog : MenuCatalog where
  schemaVersion := 1
  stallId := 2
  stallName := ['S']
  currency := ['T', 'W', 'D']
  timezone := ['U', 'T', 'C']
  limits := {
    maxItemQuantity := 10
    maxUniqueProducts := 10
    maxTotalQuantity := 10
    maxNoteLength := 100 }
  printEnabled := true
  paymentEnabled := true
  products := [{
    id := 10
    name := ['T', 'e', 'a']
    price := 60
    isActive := true
    isEnabled := true
    availableFrom := none
    availableUntil := none
    noteGroups := [] }]
  paymentOptions := [{ id := 11, name := ['C'], kind := .cash }]

def samplePermit (permitId : Uuid) (issuedAt : Timestamp) : OfflinePermitPayload where
  permitId := permitId
  deviceId := 3
  profileId := 4
  organizationId := 1
  stallId := 2
  roles := [.staff]
  allowedOfflineActions := [.createOfflineOrder, .recordCashPayment, .queuePrintJob]
  issuedAt := issuedAt
  expiresAt := issuedAt + 60 * minuteMs
  menuSnapshotVersion := 1
  promotionEpoch := 1
  appProtocolVersion := offlineAppProtocolVersion
  storageClass := .persistent
  riskLimits := sampleLimits

def sampleBootstrap (permitId : Uuid) (issuedAt : Timestamp) : OfflineBootstrapResponse where
  permitToken := { payload := samplePermit permitId issuedAt, signature := 0 }
  permit := samplePermit permitId issuedAt
  deviceId := 3
  deviceRole := .offlineLeader
  deviceStatus := .active
  menuVersion := 1
  menuCurrency := ['T', 'W', 'D']
  menuExpiresAt := issuedAt + 70 * minuteMs
  catalog := sampleCatalog
  cashShift := some {
    id := 5
    openingAmount := 0
    cashSales := 0
    cashIn := 0
    cashOut := 0
    cashRefund := 0
    correction := 0
    expectedAmount := 0 }

def sampleDraft (idempotencyKey : Uuid) : CreateOfflineOrderDraft where
  organizationId := 1
  stallId := 2
  idempotencyKey := .uuid idempotencyKey
  customerLabel := []
  customerContact := []
  note := []
  paymentTiming := .payNow
  paymentOptionId := some 11
  cashReceived := none
  queuePrint := true
  items := [{ productId := 10, quantity := 1, note := [], noteOptionIds := [] }]

/-- Identifiers counted up from a first one. -/
def sampleIds (first : Uuid) : CreationIds where
  offlineOrderId := first
  itemId := fun index => first + 10 + index
  localPaymentId := first + 1
  eventId := first + 2
  printJobId := first + 3
  queueId := first + 4

/-- Every day is the same business day. -/
def sampleBusinessDate : Timestamp → Text → Option Text :=
  fun _ _ => some "20260101".toList

/-- Bootstrap, then create one order. -/
def oneOrder : List LocalCommand :=
  [.bootstrap 6 (sampleBootstrap 7 0),
    .createOrder (sampleDraft 200) (sampleIds 100) minuteMs]

/-- The record that is uploaded for it. -/
def sampleRecord : OfflineOrderSyncRecord where
  queueId := 104
  order := {
    offlineOrderId := 100
    deviceId := 3
    organizationId := 1
    stallId := 2
    localSequence := 1
    localDisplayNumber := { deviceCode := 0, businessDate := 20260101, sequence := 1 }
    menuSnapshotVersion := 1
    itemsSnapshot := [{
      localItemId := 110
      productId := 10
      name := ['T', 'e', 'a']
      baseUnitPrice := 60
      unitPrice := 60
      quantity := 1
      note := []
      noteOptions := [] }]
    subtotal := 60
    discountAmount := 0
    total := 60
    currency := ['T', 'W', 'D']
    paymentMethod := some .cash
    paymentStatus := .paidLocal
    orderStatus := .localConfirmed
    customerLabel := []
    customerContact := []
    note := []
    createdAtDevice := minuteMs
    updatedAtDevice := minuteMs
    idempotencyKey := 200
    syncStatus := .pending
    retryCount := 0
    lastRetryAt := none
    promotionEpoch := 1
    protocolVersion := offlineAppProtocolVersion }
  events := [{
    eventId := 102
    offlineOrderId := 100
    previousState := none
    nextState := .localConfirmed
    reason := none
    occurredAtDevice := minuteMs }]
  payment := some {
    localPaymentId := 101
    offlineOrderId := 100
    paymentOptionId := some 11
    method := .cash
    status := .paidLocal
    amount := 60
    cashReceived := some 60
    changeAmount := some 0
    methodLabel := ['C']
    cashShiftId := some 5
    recordedAtDevice := minuteMs }
  printJobs := [{
    printJobId := 103
    offlineOrderId := 100
    printerId := none
    templateVersion := "offline-v1".toList
    status := .pending
    attemptCount := 0
    printedAt := none
    deduplicationKey := .receipt 100 }]

example : (loadOfflineSyncBatch (exec (step sampleBusinessDate) .empty oneOrder) 2 50
    minuteMs).toOption = some [.order sampleRecord] := by decide +kernel

def acceptedResponse (queueId offlineOrderId : Uuid) (now : Timestamp) : OfflineSyncResponse where
  receipts := [{
    queueId := queueId
    localEntityId := offlineOrderId
    recordType := .order
    outcome := .accepted
    canonicalOrderId := some 300
    canonicalOrderNumber := some { businessDate := 20260101, value := 1 }
    serverReceivedAt := now
    conflicts := []
    errorCode := none }]
  serverTime := now
  promotionEpoch := 1

/-- The order is accepted one minute later. -/
def acceptedOrder : List LocalCommand :=
  oneOrder ++ [.applyResponse (acceptedResponse 104 100 (2 * minuteMs)) (2 * minuteMs)]

end Stallorder.LocalRun
