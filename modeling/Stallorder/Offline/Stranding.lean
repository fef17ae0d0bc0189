import Stallorder.Offline.LocalRun

/-!
# Records that stay reachable for the upload

An order that still has to be uploaded needs a queue row that asks for it, and
a queue row that asks for an upload needs its payload.  The link holds along
the runs that record no cash event, move no refused order and stay within the
number of retries that the order schema allows.
-/

namespace Stallorder.Stranding

open OrderContract LocalDatabase Operations SyncQueue LocalRun Run Checks

/-- The record that a queue row stands for is still stored. -/
def HasPayload (db : LocalDb) (queue : StoredQueueRecord) : Prop :=
  match queue.entityType with
  | .order => ∃ row ∈ db.offlineOrders, row.localOrderId = queue.entityId
  | .cashEvent => ∃ shift ∈ db.cashShiftSnapshot, shift.stallId = queue.stallId
      ∧ ∃ stored ∈ shift.pendingEvents, stored.event.cashEventId = queue.entityId

/-- No record that awaits its upload is out of reach of the upload. -/
structure NotStranded (db : LocalDb) : Prop where
  queued : ∀ row ∈ db.offlineOrders, awaitsUpload row.syncStatus = true →
    ∃ queue ∈ db.syncQueue, queue.entityType = .order ∧ queue.entityId = row.localOrderId
      ∧ awaitsUpload queue.status = true
  payload : ∀ queue ∈ db.syncQueue, awaitsUpload queue.status = true → HasPayload db queue
  emitted : ∀ queue ∈ db.syncQueue, awaitsUpload queue.status = true →
    ∀ (batchSize : ℤ) (now : Timestamp), queue.nextAttemptAt ≤ now →
      (dueQueueRecords db queue.stallId now).length ≤ safeBatchSize batchSize →
      ∃ records, loadOfflineSyncBatch db queue.stallId batchSize now = .ok records
        ∧ queue.queueId ∈ records.map (·.queueId)

/-- The steps that keep the link: a cash event is refused, the order that a
transition moves has not been refused by the server, and no row is marked as
failed more often than the order schema can count. -/
def Safe (db : LocalDb) : LocalCommand → Prop
  | .bootstrap _ _ => True
  | .createOrder _ _ _ => True
  | .transition offlineOrderId nextState reason eventId now => ∀ updated,
      (transitionOfflineOrder db offlineOrderId nextState reason eventId now).2 = .ok updated →
        ∀ row ∈ db.offlineOrders, row.localOrderId = offlineOrderId →
          row.syncStatus ≠ .rejected ∧ row.syncStatus ≠ .conflict
  | .cashEvent input ids now => ∀ event, (createOfflineCashEvent db input ids now).2 ≠ .ok event
  | .markAttempt queueIds result _ _ => result = .failed →
      ∀ queue ∈ db.syncQueue.rows, queue.retryCount + queueIds.count queue.queueId ≤ 100
  | .applyResponse _ _ => True

/-- The invariant of safe runs. -/
structure Live (db : LocalDb) : Prop where
  linked : Linked db
  accepts : ∀ row ∈ db.offlineOrders, offlineOrderSchema.accepts row.payload = true
  retries : ∀ queue ∈ db.syncQueue, queue.retryCount ≤ 100
  agree : ∀ row ∈ db.offlineOrders, ∀ queue ∈ db.syncQueue, EntryOf row queue →
    awaitsUpload row.syncStatus = awaitsUpload queue.status
  onlyOrders : ∀ queue ∈ db.syncQueue, queue.entityType = .order

variable {localBusinessDate : Timestamp → Text → Option Text} {db db' : LocalDb}

/-! ## What a live database offers -/

theorem Live.parse (hlive : Live db) {row : StoredOrder} (hrow : row ∈ db.offlineOrders) :
    offlineOrderSchema.parse row.payload = some row.payload :=
  offlineOrderSchema.parse_eq_some_iff.mpr
    ⟨hlive.accepts row hrow, hlive.linked.normalized row hrow⟩

theorem Live.exists_order (hlive : Live db) {queue : StoredQueueRecord}
    (hqueue : queue ∈ db.syncQueue) : ∃ row ∈ db.offlineOrders, EntryOf row queue :=
  hlive.linked.order queue hqueue (hlive.onlyOrders queue hqueue)

/-- Every queue row has a record. -/
theorem Live.recordOfQueue_ok (hlive : Live db) (stallId : Uuid) {queue : StoredQueueRecord}
    (hqueue : queue ∈ db.syncQueue) :
    ∃ record, recordOfQueue db stallId queue = .ok (some record) := by
  obtain ⟨row, hrow, hentry⟩ := hlive.exists_order hqueue
  have hfound : db.offlineOrders.get? queue.entityId = some row :=
    Table.get?_eq_some_iff.mpr ⟨hrow, hentry.entity.symm⟩
  have hevents : parseAll offlineOrderEventSchema
      ((eventsOfOrder db queue.entityId).map (·.payload))
      = .ok ((eventsOfOrder db queue.entityId).map (·.payload)) := by
    refine parseAll_eq_self fun event hevent => ?_
    obtain ⟨stored, hstored, rfl⟩ := List.mem_map.mp hevent
    exact hlive.linked.events stored (mem_getAll.mp (List.mem_filter.mp hstored).1)
  have hpayments : parseAll offlinePaymentSchema
      (((paymentsOfOrder db queue.entityId).map (·.payload)).take 1)
      = .ok (((paymentsOfOrder db queue.entityId).map (·.payload)).take 1) := by
    refine parseAll_eq_self fun payment hpayment => ?_
    obtain ⟨stored, hstored, rfl⟩ := List.mem_map.mp (List.mem_of_mem_take hpayment)
    exact hlive.linked.payments stored (mem_getAll.mp (List.mem_filter.mp hstored).1)
  have hprintJobs : parseAll offlinePrintJobSchema
      ((printJobsOfOrder db queue.entityId).map (·.payload))
      = .ok ((printJobsOfOrder db queue.entityId).map (·.payload)) := by
    refine parseAll_eq_self fun job hjob => ?_
    obtain ⟨stored, hstored, rfl⟩ := List.mem_map.mp hjob
    exact hlive.linked.printJobs stored (mem_getAll.mp (List.mem_filter.mp hstored).1)
  simp only [recordOfQueue, hentry.type, hfound, orderRecord, hlive.parse hrow, orFail_some,
    hevents, hpayments, hprintJobs, bind_ok]
  exact ⟨_, rfl⟩

theorem Live.notStranded (hlive : Live db) : NotStranded db where
  queued row hrow hawaits := by
    obtain ⟨queue, hqueue, hentry⟩ := hlive.linked.entry row hrow
    refine ⟨queue, hqueue, hentry.type, hentry.entity, ?_⟩
    rw [← hlive.agree row hrow queue hqueue hentry]
    exact hawaits
  payload queue hqueue _ := by
    obtain ⟨row, hrow, hentry⟩ := hlive.exists_order hqueue
    rw [HasPayload, hentry.type]
    exact ⟨row, hrow, hentry.entity.symm⟩
  emitted queue hqueue hawaits batchSize now hdue hroom := by
    have hselected : queue ∈ selectedQueueRecords db queue.stallId batchSize now :=
      mem_selected_of_due hroom (mem_dueQueueRecords.mpr ⟨hqueue, rfl, hawaits, hdue⟩)
    have hall : ∀ other ∈ selectedQueueRecords db queue.stallId batchSize now,
        ∃ record, recordOfQueue db queue.stallId other = .ok record := by
      intro other hother
      have hstored := (mem_dueQueueRecords.mp (mem_due_of_selected hother)).1
      obtain ⟨record, hrecord⟩ := hlive.recordOfQueue_ok queue.stallId hstored
      exact ⟨some record, hrecord⟩
    obtain ⟨records, hrecords⟩ := exists_recordsOfQueue hall
    refine ⟨records, hrecords, ?_⟩
    obtain ⟨record, hrecord⟩ := hlive.recordOfQueue_ok queue.stallId hqueue
    rw [← queueId_of_recordOfQueue hrecord]
    exact List.mem_map_of_mem ((mem_of_recordsOfQueue hrecords).mpr ⟨queue, hselected, hrecord⟩)

/-! ## Safe steps -/

/-- The bookkeeping of an order may change as long as the count fits. -/
theorem accepts_bookkeeping {order : OfflineOrder}
    (haccepts : offlineOrderSchema.accepts order = true) (syncStatus : OfflineSyncStatus)
    {retryCount : ℕ} (hretries : retryCount ≤ 100) (lastRetryAt : Option Timestamp) :
    offlineOrderSchema.accepts { order with syncStatus, retryCount, lastRetryAt } = true := by
  simp only [offlineOrderSchema, orderPaymentConsistent, Bool.and_eq_true, decide_eq_true_eq]
    at haccepts ⊢
  tauto

theorem Live.retryCount_le (hlive : Live db) {row : StoredOrder} (hrow : row ∈ db.offlineOrders) :
    row.payload.retryCount ≤ 100 := by
  have haccepts := hlive.accepts row hrow
  simp only [offlineOrderSchema, Bool.and_eq_true, decide_eq_true_eq] at haccepts
  tauto

theorem live_empty : Live .empty where
  linked := linked_empty
  accepts row hrow := absurd hrow (Table.notMem_empty row)
  retries queue hqueue := absurd hqueue (Table.notMem_empty queue)
  agree row hrow := absurd hrow (Table.notMem_empty row)
  onlyOrders queue hqueue := absurd hqueue (Table.notMem_empty queue)

/-- A step that moves a queue row and its order to the same status, and counts
no retry beyond the bound, keeps the database live. -/
theorem Live.update (hlive : Live db) {queue : StoredQueueRecord} {row : StoredOrder}
    (hqueue : queue ∈ db.syncQueue) (hrow : row ∈ db.offlineOrders) (hentry : EntryOf row queue)
    {changeQueue : StoredQueueRecord → StoredQueueRecord} {changeOrder : StoredOrder → StoredOrder}
    {hchangeQueue : ∀ {row other}, Indexed.collides (changeQueue row) other →
      Indexed.collides row other}
    {hchangeOrder : ∀ {row other}, Indexed.collides (changeOrder row) other →
      Indexed.collides row other}
    (hlinked : Linked db')
    (hqueueTable : db'.syncQueue = db.syncQueue.update queue.queueId changeQueue hchangeQueue)
    (horders : db'.offlineOrders
      = db.offlineOrders.update row.localOrderId changeOrder hchangeOrder)
    (hsameEntry : SameEntry queue (changeQueue queue))
    (hsameId : (changeOrder row).localOrderId = row.localOrderId)
    (hretries : (changeQueue queue).retryCount ≤ 100)
    (haccepts : offlineOrderSchema.accepts (changeOrder row).payload = true)
    (hagree : awaitsUpload (changeOrder row).syncStatus
      = awaitsUpload (changeQueue queue).status) : Live db' := by
  have hrows : ∀ stored, stored ∈ db'.offlineOrders →
      stored = changeOrder row
        ∨ (stored ∈ db.offlineOrders ∧ stored.localOrderId ≠ row.localOrderId) := by
    intro stored hstored
    rw [horders] at hstored
    exact (Table.mem_update_of_mem hrow).mp hstored
  have hentries : ∀ stored, stored ∈ db'.syncQueue →
      stored = changeQueue queue
        ∨ (stored ∈ db.syncQueue ∧ stored.queueId ≠ queue.queueId) := by
    intro stored hstored
    rw [hqueueTable] at hstored
    exact (Table.mem_update_of_mem hqueue).mp hstored
  refine ⟨hlinked, ?_, ?_, ?_, ?_⟩
  · intro stored hstored
    rcases hrows stored hstored with rfl | ⟨hold, -⟩
    · exact haccepts
    · exact hlive.accepts stored hold
  · intro stored hstored
    rcases hentries stored hstored with rfl | ⟨hold, -⟩
    · exact hretries
    · exact hlive.retries stored hold
  · intro stored hstored entry hmem hof
    rcases hrows stored hstored with rfl | ⟨hold, hrowNe⟩
    · rcases hentries entry hmem with rfl | ⟨holdEntry, hne⟩
      · exact hagree
      · have hsame := hlive.linked.entry_unique entry holdEntry queue hqueue hof.type hentry.type
          (by rw [hof.entity, hsameId, hentry.entity])
        exact absurd (congrArg StoredQueueRecord.queueId hsame) hne
    · rcases hentries entry hmem with rfl | ⟨holdEntry, -⟩
      · have hid : stored.localOrderId = row.localOrderId := by
          rw [← hof.entity, hsameEntry.entityId, hentry.entity]
        exact absurd hid hrowNe
      · exact hlive.agree stored hold entry holdEntry hof
  · intro stored hstored
    rcases hentries stored hstored with rfl | ⟨hold, -⟩
    · rw [hsameEntry.entityType]
      exact hlive.onlyOrders queue hqueue
    · exact hlive.onlyOrders stored hold

/-- The order of a live queue row is found and passes its schema. -/
theorem Live.entityOrder (hlive : Live db) {queue : StoredQueueRecord}
    (hqueue : queue ∈ db.syncQueue) :
    ∃ row ∈ db.offlineOrders, EntryOf row queue ∧ EntityOrder db queue row row.payload := by
  obtain ⟨row, hrow, hentry⟩ := hlive.exists_order hqueue
  exact ⟨row, hrow, hentry, hentry.type,
    Table.get?_eq_some_iff.mpr ⟨hrow, hentry.entity.symm⟩, hlive.parse hrow⟩

theorem Live.markQueueRecord (hlive : Live db) {result : AttemptResult} (retryAt now : Timestamp)
    (queueId : Uuid)
    (hretries : ∀ queue ∈ db.syncQueue, queue.queueId = queueId →
      countRetry result queue.retryCount ≤ 100) :
    Live (SyncQueue.markQueueRecord result retryAt now queueId db).1 := by
  have hlinked := hlive.linked.evolves
    (evolves_markQueueRecord hlive.linked result retryAt now queueId)
  rcases markQueueRecord_cases
      (Prod.mk.eta (p := SyncQueue.markQueueRecord result retryAt now queueId db)).symm
    with ⟨-, hdb, -⟩ | ⟨queue, hfound, ⟨hnone, -⟩ | ⟨row, order, hentity, -, hdb⟩⟩
  · rw [hdb]
    exact hlive
  · obtain ⟨row, -, -, hentity⟩ := hlive.entityOrder (Table.mem_of_get? hfound)
    exact absurd hentity (hnone row row.payload)
  · have hqueue := Table.mem_of_get? hfound
    have hid : queue.queueId = queueId := Table.key_of_get? hfound
    have hrow := Table.mem_of_get? hentity.found
    have hkey : row.localOrderId = queue.entityId := Table.key_of_get? hentity.found
    have hentry := hlive.linked.entryOf_of_entity hrow hqueue hentity.type hkey.symm
    have horder := eq_of_parse (hlive.linked.normalized row hrow) hentity.parsed
    have hcount := hretries queue hqueue hid
    have hqueueTable : (SyncQueue.markQueueRecord result retryAt now queueId db).1.syncQueue
        = db.syncQueue.update queue.queueId (attemptedQueueRecord result retryAt now) id := by
      rw [hdb, hid]
    have horders : (SyncQueue.markQueueRecord result retryAt now queueId db).1.offlineOrders
        = db.offlineOrders.update row.localOrderId
          (attemptedOrder result (countRetry result queue.retryCount) now order) id := by
      rw [hdb, hkey]
    refine hlive.update hqueue hrow hentry hlinked hqueueTable horders
      ⟨rfl, rfl, rfl, rfl, rfl⟩ rfl hcount ?_ rfl
    rw [horder]
    exact accepts_bookkeeping (hlive.accepts row hrow) _ hcount _

theorem Live.applyReceipt (hlive : Live db) (promotionEpoch : ℕ) (now : Timestamp)
    (receipt : OfflineSyncReceipt) :
    Live (SyncQueue.applyReceipt promotionEpoch now receipt db).1 := by
  have hlinked := hlive.linked.evolves
    (evolves_applyReceipt hlive.linked promotionEpoch now receipt)
  rcases applyReceipt_cases
      (Prod.mk.eta (p := SyncQueue.applyReceipt promotionEpoch now receipt db)).symm
    with ⟨-, hdb, -⟩ | ⟨queue, hfound, hframe, ⟨hnone, -⟩ | ⟨row, order, hentity, -, horders⟩⟩
  · rw [hdb]
    exact hlive
  · obtain ⟨row, -, -, hentity⟩ := hlive.entityOrder (Table.mem_of_get? hfound)
    exact absurd hentity (hnone row row.payload)
  · have hqueue := Table.mem_of_get? hfound
    have hid : queue.queueId = receipt.queueId := Table.key_of_get? hfound
    have hrow := Table.mem_of_get? hentity.found
    have hkey : row.localOrderId = queue.entityId := Table.key_of_get? hentity.found
    have hentry := hlive.linked.entryOf_of_entity hrow hqueue hentity.type hkey.symm
    have horder := eq_of_parse (hlive.linked.normalized row hrow) hentity.parsed
    have hqueueTable : (SyncQueue.applyReceipt promotionEpoch now receipt db).1.syncQueue
        = db.syncQueue.update queue.queueId (receivedQueueRecord receipt now) id := by
      rw [hframe.queueRow, hid]
    rw [← hkey] at horders
    refine hlive.update hqueue hrow hentry hlinked hqueueTable horders
      ⟨rfl, rfl, rfl, rfl, rfl⟩ rfl (hlive.retries queue hqueue) ?_ rfl
    rw [horder]
    exact accepts_bookkeeping (hlive.accepts row hrow) _ (hlive.retryCount_le hrow) _

/-- How often the loop over `queueIds` counts a retry of one row. -/
def countedRetries (result : AttemptResult) (queueIds : List Uuid) (queueId : Uuid) : ℕ :=
  if result = .failed then queueIds.count queueId else 0

theorem Live.markOfflineSyncAttempt (hlive : Live db) {result : AttemptResult}
    (retryAt now : Timestamp) (queueIds : List Uuid)
    (hretries : ∀ queue ∈ db.syncQueue,
      queue.retryCount + countedRetries result queueIds queue.queueId ≤ 100) :
    Live (SyncQueue.markOfflineSyncAttempt queueIds result retryAt now db).1 := by
  unfold SyncQueue.markOfflineSyncAttempt
  induction queueIds generalizing db with
  | nil => exact hlive
  | cons queueId queueIds ih =>
      have hcons : ∀ id, countedRetries result (queueId :: queueIds) id
          = countedRetries result queueIds id + if queueId = id then countRetry result 0 else 0 := by
        intro id
        simp only [countedRetries, countRetry, List.count_cons, beq_iff_eq]
        split <;> simp
      have hhead : Live (SyncQueue.markQueueRecord result retryAt now queueId db).1 := by
        refine hlive.markQueueRecord retryAt now queueId fun queue hqueue hid => ?_
        have hbound := hretries queue hqueue
        rw [hcons, if_pos hid.symm] at hbound
        simp only [countRetry] at hbound ⊢
        omega
      have hrest : ∀ queue ∈ (SyncQueue.markQueueRecord result retryAt now queueId db).1.syncQueue,
          queue.retryCount + countedRetries result queueIds queue.queueId ≤ 100 := by
        have hupdate : ∀ queue ∈ db.syncQueue.update queueId
            (attemptedQueueRecord result retryAt now) id,
            queue.retryCount + countedRetries result queueIds queue.queueId ≤ 100 := by
          intro queue hqueue
          rcases Table.mem_update.mp hqueue with ⟨old, hold, hid, rfl⟩ | ⟨hold, hne⟩
          · have hbound := hretries old hold
            rw [hcons, if_pos (show queueId = old.queueId from hid.symm)] at hbound
            simp only [attemptedQueueRecord, countRetry] at hbound ⊢
            omega
          · have hbound := hretries queue hold
            rw [hcons, if_neg (show queueId ≠ queue.queueId from fun h => hne h.symm)] at hbound
            exact hbound
        rcases markQueueRecord_cases
            (Prod.mk.eta (p := SyncQueue.markQueueRecord result retryAt now queueId db)).symm
          with ⟨hmissing, hdb, -⟩ | ⟨queue, -, ⟨-, hdb⟩ | ⟨row, order, -, -, hdb⟩⟩
        · rw [hdb]
          intro queue hqueue
          have hbound := hretries queue hqueue
          rw [hcons] at hbound
          omega
        · rw [hdb]
          exact hupdate
        · rw [hdb]
          exact hupdate
      rcases hresult : SyncQueue.markQueueRecord result retryAt now queueId db with ⟨middle, _ | _⟩
      · rw [forEach_cons_error hresult]
        rw [hresult] at hhead
        exact hhead
      · rw [forEach_cons_ok hresult]
        rw [hresult] at hhead hrest
        exact ih hhead hrest

/-- A created order and its queue row both await the upload. -/
theorem Live.createOfflineOrder (hlive : Live db) (draft : CreateOfflineOrderDraft)
    (ids : CreationIds) (now : Timestamp) :
    Live (Operations.createOfflineOrder localBusinessDate db draft ids now).1 := by
  have hlinked : Linked (Operations.createOfflineOrder localBusinessDate db draft ids now).1 :=
    hlive.linked.createOrder
  rcases createOfflineOrder_cases (Prod.mk.eta
      (p := Operations.createOfflineOrder localBusinessDate db draft ids now)).symm
    with ⟨error, shift, -, hdb⟩ | ⟨admission, decision, parts, created, -, -, -, hassembled, hstored⟩
  · obtain ⟨cashShiftSnapshot, hput⟩ := putCashShift_frame db shift
    rw [hdb, hput] at hlinked ⊢
    exact ⟨hlinked, hlive.accepts, hlive.retries, hlive.agree, hlive.onlyOrders⟩
  · generalize (Operations.createOfflineOrder localBusinessDate db draft ids now).1 = db'
      at hstored hlinked
    obtain ⟨cashShiftSnapshot, hput⟩ := putCashShift_frame db decision.cashShift
    rw [hput] at hstored
    obtain ⟨hfresh, hnoEntry⟩ := (hlive.linked.cashShift cashShiftSnapshot).fresh hstored
    have horders : ∀ row ∈ db'.offlineOrders,
        row ∈ db.offlineOrders ∨ row = storedOrder created.order draft.stallId :=
      fun row => (Table.mem_of_insert? hstored.orders).mp
    have hqueue : ∀ queue ∈ db'.syncQueue,
        queue ∈ db.syncQueue ∨ queue = queueRecordForOrder created draft.stallId now :=
      fun queue => (Table.mem_of_insert? hstored.queue).mp
    refine ⟨hlinked, ?_, ?_, ?_, ?_⟩
    · intro row hrow
      rcases horders row hrow with hold | rfl
      · exact hlive.accepts row hold
      · exact offlineOrderSchema.accepts_of_parse hassembled.order
    · intro queue hmem
      rcases hqueue queue hmem with hold | rfl
      · exact hlive.retries queue hold
      · exact Nat.zero_le 100
    · intro row hrow queue hmem hentry
      rcases horders row hrow with holdRow | rfl
      · rcases hqueue queue hmem with hold | rfl
        · exact hlive.agree row holdRow queue hold hentry
        · exact absurd hentry.entity.symm (hfresh row holdRow)
      · rcases hqueue queue hmem with hold | rfl
        · exact absurd hentry.entity (hnoEntry queue hold hentry.type)
        · rfl
    · intro queue hmem
      rcases hqueue queue hmem with hold | rfl
      · exact hlive.onlyOrders queue hold
      · rfl

/-- An order that awaits its upload still does so after it was moved. -/
theorem Live.transitionOfflineOrder (hlive : Live db) {offlineOrderId : Uuid}
    {nextState : OfflineOrderState} {reason : Option Text} {eventId : Uuid} {now : Timestamp}
    (hsafe : Safe db (.transition offlineOrderId nextState reason eventId now)) :
    Live (Operations.transitionOfflineOrder db offlineOrderId nextState reason eventId now).1 := by
  have hlinked : Linked
      (Operations.transitionOfflineOrder db offlineOrderId nextState reason eventId now).1 :=
    hlive.linked.transition
  rcases transitionOfflineOrder_cases (Prod.mk.eta
      (p := Operations.transitionOfflineOrder db offlineOrderId nextState reason eventId now)).symm
    with ⟨-, -, hdb⟩ | ⟨row, updated, event, events, hok, htransition, -, hdb⟩
  · rw [hdb]
    exact hlive
  · have hrow := Table.mem_of_get? htransition.found
    have hkey : row.localOrderId = offlineOrderId := Table.key_of_get? htransition.found
    obtain ⟨hnotRejected, hnotConflict⟩ := hsafe updated hok row hrow hkey
    have hawaits : awaitsUpload row.syncStatus = true := by
      have hpending := htransition.pending
      cases hstatus : row.syncStatus <;> simp_all [unsynchronized, awaitsUpload]
    obtain ⟨order, -, hmoved, -⟩ := htransition.parsed
    rw [hdb] at hlinked ⊢
    have horders : ∀ stored,
        stored ∈ db.offlineOrders.update offlineOrderId (transitionedOrder updated) id →
          stored = transitionedOrder updated row ∨ stored ∈ db.offlineOrders := by
      intro stored hstored
      rw [← hkey] at hstored
      exact ((Table.mem_update_of_mem hrow).mp hstored).imp_right And.left
    refine ⟨hlinked, ?_, hlive.retries, ?_, hlive.onlyOrders⟩
    · intro stored hstored
      rcases horders stored hstored with rfl | hold
      · exact offlineOrderSchema.accepts_of_parse hmoved
      · exact hlive.accepts stored hold
    · intro stored hstored queue hqueue hentry
      rcases horders stored hstored with rfl | hold
      · have hof := hlive.linked.entryOf_of_entity hrow hqueue hentry.type hentry.entity
        rw [← hlive.agree row hrow queue hqueue hof, hawaits]
        rfl
      · exact hlive.agree stored hold queue hqueue hentry

theorem Live.step (hlive : Live db) (command : LocalCommand) (hsafe : Safe db command) :
    Live (LocalRun.step localBusinessDate db command) := by
  have hlinked : Linked (LocalRun.step localBusinessDate db command) :=
    linked_step hlive.linked command
  cases command with
  | bootstrap installationId response =>
      exact ⟨hlinked, hlive.accepts, hlive.retries, hlive.agree, hlive.onlyOrders⟩
  | createOrder draft ids now => exact hlive.createOfflineOrder draft ids now
  | transition offlineOrderId nextState reason eventId now =>
      exact hlive.transitionOfflineOrder hsafe
  | cashEvent input ids now =>
      rcases createOfflineCashEvent_cases (Prod.mk.eta
          (p := createOfflineCashEvent db input ids now)).symm
        with ⟨-, -, hdb⟩ | ⟨shift, event, queue, hok, -, -, -⟩
      · change Live (createOfflineCashEvent db input ids now).1
        rw [hdb]
        exact hlive
      · exact absurd hok (hsafe event)
  | markAttempt queueIds result retryAt now =>
      refine hlive.markOfflineSyncAttempt retryAt now queueIds fun queue hqueue => ?_
      by_cases hfailed : result = .failed
      · rw [countedRetries, if_pos hfailed]
        exact hsafe hfailed queue hqueue
      · rw [countedRetries, if_neg hfailed]
        exact hlive.retries queue hqueue
  | applyResponse response now =>
      exact forEach_invariant Live
        (fun receipt _ _ hinner => hinner.applyReceipt response.promotionEpoch now receipt) hlive

/-! ## Safe runs -/

variable (localBusinessDate)

/-- A run of safe steps strands no record. -/
theorem notStranded_of_safely (commands : List LocalCommand)
    (hsafe : Safely (step localBusinessDate) Safe .empty commands) :
    NotStranded (exec (step localBusinessDate) .empty commands) :=
  (invariant_of_safely Live (fun _ command hlive hsafe => hlive.step command hsafe) live_empty
    hsafe).notStranded

/-- An order that was uploaded in vain once and then accepted. -/
theorem notStranded_retried :
    NotStranded (exec (step sampleBusinessDate) .empty
      (oneOrder ++ [.markAttempt [104] .failed (2 * minuteMs) minuteMs,
        .applyResponse (acceptedResponse 104 100 (2 * minuteMs)) (2 * minuteMs)])) :=
  notStranded_of_safely sampleBusinessDate _
    ⟨trivial, trivial, fun _ => by decide +kernel, trivial, trivial⟩

/-- A cash event, and the bootstrap that is fetched while it is pending. -/
def strandedCashEvent : List LocalCommand :=
  [.bootstrap 6 (sampleBootstrap 7 0),
    .cashEvent { organizationId := 1, stallId := 2, eventType := .cashIn, amount := 5,
                 countedAmount := none, reason := ['c'] }
      { cashEventId := 400, queueId := 401, idempotencyKey := 402 } minuteMs,
    .bootstrap 6 (sampleBootstrap 8 (2 * minuteMs))]

/-- The new drawer has forgotten the event, whose queue row remains. -/
theorem stranded_cash_event :
    ∃ commands, ¬ NotStranded (exec (step sampleBusinessDate) .empty commands) := by
  refine ⟨strandedCashEvent, fun hsafe => ?_⟩
  have hqueued : ∃ queue ∈ (exec (step sampleBusinessDate) .empty strandedCashEvent).syncQueue.rows,
      awaitsUpload queue.status = true ∧ queue.entityType = .cashEvent := by decide +kernel
  have hdrawer : ∀ shift ∈
      (exec (step sampleBusinessDate) .empty strandedCashEvent).cashShiftSnapshot.rows,
      shift.pendingEvents = [] := by decide +kernel
  obtain ⟨queue, hqueue, hawaits, htype⟩ := hqueued
  have hpayload := hsafe.payload queue hqueue hawaits
  rw [HasPayload, htype] at hpayload
  obtain ⟨shift, hshift, -, stored, hstored, -⟩ := hpayload
  rw [hdrawer shift hshift] at hstored
  cases hstored

end Stallorder.Stranding
