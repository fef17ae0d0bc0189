import Stallorder.Offline.LocalRun

/-!
# Purging what was kept long enough

The runs of the previous module with purges in between.  The history of a run
remembers which orders the server has accepted, so that what is deleted can be
compared with it.
-/

namespace Stallorder.Purge

open OrderContract LocalDatabase Operations SyncQueue LocalRun Run

inductive StoreCommand
  | operation (command : LocalCommand)
  | purge (now : Timestamp)

/-- The database together with the orders whose acceptance it was told about. -/
structure History where
  db : LocalDb
  acceptedOrders : List Uuid

def History.start : History where
  db := .empty
  acceptedOrders := []

/-- The entity that an accepted receipt is about. -/
def acceptedEntity (db : LocalDb) (receipt : OfflineSyncReceipt) : Option Uuid :=
  if ReceiptOutcome.accepted receipt.outcome then
    (db.syncQueue.get? receipt.queueId).map (·.entityId)
  else none

def acceptedBy (db : LocalDb) : LocalCommand → List Uuid
  | .applyResponse response _ => response.receipts.filterMap (acceptedEntity db)
  | _ => []

variable (localBusinessDate : Timestamp → Text → Option Text)

def storeStep (history : History) : StoreCommand → History
  | .operation command => {
      db := step localBusinessDate history.db command
      acceptedOrders := history.acceptedOrders ++ acceptedBy history.db command }
  | .purge now => { history with db := (purgeExpiredOfflinePayloads now history.db).1 }

/-- What a purge at `now` is meant to do. -/
structure PurgeExact (history : History) (now : Timestamp) : Prop where
  completes : (purgeExpiredOfflinePayloads now history.db).2 = .ok ()
  orders : ∀ row, row ∈ (purgeExpiredOfflinePayloads now history.db).1.offlineOrders ↔
    row ∈ history.db.offlineOrders ∧ purgeDue now row = false
  events : ∀ event, event ∈ (purgeExpiredOfflinePayloads now history.db).1.offlineOrderEvents ↔
    event ∈ history.db.offlineOrderEvents
      ∧ ∀ row ∈ history.db.offlineOrders, event.localOrderId = row.localOrderId →
        purgeDue now row = false
  payments : ∀ payment,
    payment ∈ (purgeExpiredOfflinePayloads now history.db).1.offlinePayments ↔
      payment ∈ history.db.offlinePayments
        ∧ ∀ row ∈ history.db.offlineOrders, payment.localOrderId = row.localOrderId →
          purgeDue now row = false
  printJobs : ∀ job, job ∈ (purgeExpiredOfflinePayloads now history.db).1.offlinePrintJobs ↔
    job ∈ history.db.offlinePrintJobs
      ∧ ∀ row ∈ history.db.offlineOrders, job.localOrderId = row.localOrderId →
        purgeDue now row = false
  receipts : ∀ receipt, receipt ∈ (purgeExpiredOfflinePayloads now history.db).1.syncReceipts ↔
    receipt ∈ history.db.syncReceipts ∧ receiptDue now receipt = false
  accepted : ∀ row ∈ history.db.offlineOrders,
    row ∉ (purgeExpiredOfflinePayloads now history.db).1.offlineOrders →
      row.localOrderId ∈ history.acceptedOrders

/-! ## Only accepted orders are ever due -/

/-- An order with a purge time is one the server has accepted. -/
def KeptForAccepted (accepted : List Uuid) (db : LocalDb) : Prop :=
  ∀ row ∈ db.offlineOrders, row.purgeAfter ≠ none → row.localOrderId ∈ accepted

section Steps

variable {localBusinessDate} {accepted : List Uuid} {db db' : LocalDb}

theorem KeptForAccepted.of_orders (hkept : KeptForAccepted accepted db)
    (horders : ∀ row ∈ db'.offlineOrders, row.purgeAfter = none
      ∨ ∃ old ∈ db.offlineOrders, old.localOrderId = row.localOrderId
        ∧ old.purgeAfter = row.purgeAfter) :
    KeptForAccepted accepted db' := by
  intro row hrow hpurge
  rcases horders row hrow with hnone | ⟨old, hold, hid, hsame⟩
  · exact absurd hnone hpurge
  · rw [← hid]
    exact hkept old hold (hsame ▸ hpurge)

theorem KeptForAccepted.append (hkept : KeptForAccepted accepted db) (more : List Uuid) :
    KeptForAccepted (accepted ++ more) db :=
  fun row hrow hpurge => List.mem_append_left more (hkept row hrow hpurge)

/-- An update that leaves the purge time of every order alone. -/
theorem KeptForAccepted.update (hkept : KeptForAccepted accepted db) {orderId : Uuid}
    (change : StoredOrder → StoredOrder)
    (hchange : ∀ {row other}, Indexed.collides (change row) other →
      Indexed.collides row other)
    (hsame : ∀ row, (change row).localOrderId = row.localOrderId
      ∧ (change row).purgeAfter = row.purgeAfter)
    (horders : db'.offlineOrders = db.offlineOrders.update orderId change hchange) :
    KeptForAccepted accepted db' := by
  refine hkept.of_orders fun row hrow => Or.inr ?_
  rw [horders] at hrow
  rcases Table.mem_update.mp hrow with ⟨old, hold, -, rfl⟩ | ⟨hold, -⟩
  · exact ⟨old, hold, (hsame old).1.symm, (hsame old).2.symm⟩
  · exact ⟨row, hold, rfl, rfl⟩

theorem KeptForAccepted.same (hkept : KeptForAccepted accepted db)
    (horders : db'.offlineOrders = db.offlineOrders) : KeptForAccepted accepted db' :=
  fun row hrow => hkept row (horders ▸ hrow)

theorem keptForAccepted_createOfflineOrder (hkept : KeptForAccepted accepted db)
    (draft : CreateOfflineOrderDraft) (ids : CreationIds) (now : Timestamp) :
    KeptForAccepted accepted (createOfflineOrder localBusinessDate db draft ids now).1 := by
  rcases createOfflineOrder_cases (Prod.mk.eta
      (p := createOfflineOrder localBusinessDate db draft ids now)).symm
    with ⟨error, shift, -, hdb⟩ | ⟨admission, decision, parts, created, -, -, -, -, hstored⟩
  · obtain ⟨cashShiftSnapshot, hput⟩ := putCashShift_frame db shift
    rw [hdb, hput]
    exact hkept
  · obtain ⟨cashShiftSnapshot, hput⟩ := putCashShift_frame db decision.cashShift
    rw [hput] at hstored
    refine hkept.of_orders fun row hrow => ?_
    rcases (Table.mem_of_insert? hstored.orders).mp hrow with hold | rfl
    · exact Or.inr ⟨row, hold, rfl, rfl⟩
    · exact Or.inl rfl

theorem keptForAccepted_transitionOfflineOrder (hkept : KeptForAccepted accepted db)
    (offlineOrderId : Uuid) (nextState : OfflineOrderState) (reason : Option Text)
    (eventId : Uuid) (now : Timestamp) :
    KeptForAccepted accepted
      (transitionOfflineOrder db offlineOrderId nextState reason eventId now).1 := by
  rcases transitionOfflineOrder_cases (Prod.mk.eta
      (p := transitionOfflineOrder db offlineOrderId nextState reason eventId now)).symm
    with ⟨-, -, hdb⟩ | ⟨row, updated, event, events, -, -, -, hdb⟩
  · exact hkept.same (by rw [hdb])
  · rw [hdb]
    exact hkept.update (transitionedOrder updated) id (fun row => ⟨rfl, rfl⟩) rfl

theorem keptForAccepted_createOfflineCashEvent (hkept : KeptForAccepted accepted db)
    (input : CashEventInput) (ids : CashEventIds) (now : Timestamp) :
    KeptForAccepted accepted (createOfflineCashEvent db input ids now).1 := by
  rcases createOfflineCashEvent_cases (Prod.mk.eta
      (p := createOfflineCashEvent db input ids now)).symm
    with ⟨-, -, hdb⟩ | ⟨shift, event, queue, -, -, -, hdb⟩
  · exact hkept.same (by rw [hdb])
  · exact hkept.same (by rw [hdb])

theorem keptForAccepted_markQueueRecord (hkept : KeptForAccepted accepted db)
    (result : AttemptResult) (retryAt now : Timestamp) (queueId : Uuid) :
    KeptForAccepted accepted (markQueueRecord result retryAt now queueId db).1 := by
  rcases markQueueRecord_cases
      (Prod.mk.eta (p := markQueueRecord result retryAt now queueId db)).symm
    with ⟨-, hdb, -⟩ | ⟨queue, -, ⟨-, hdb⟩ | ⟨row, order, -, -, hdb⟩⟩
  · exact hkept.same (by rw [hdb])
  · exact hkept.same (by rw [hdb])
  · rw [hdb]
    exact hkept.update (attemptedOrder result (countRetry result queue.retryCount) now order) id
      (fun row => ⟨rfl, rfl⟩) rfl

/-- Only a receipt gives an order a purge time, and only one that accepts it. -/
theorem keptForAccepted_applyReceipt {start : LocalDb} {receipts : List OfflineSyncReceipt}
    (hkept : KeptForAccepted (accepted ++ receipts.filterMap (acceptedEntity start)) db)
    (hqueue : ∀ queue ∈ db.syncQueue, ∃ old ∈ start.syncQueue, SameEntry old queue)
    (promotionEpoch : ℕ) (now : Timestamp) {receipt : OfflineSyncReceipt}
    (hreceipt : receipt ∈ receipts) :
    KeptForAccepted (accepted ++ receipts.filterMap (acceptedEntity start))
      (applyReceipt promotionEpoch now receipt db).1 := by
  rcases applyReceipt_cases (Prod.mk.eta (p := applyReceipt promotionEpoch now receipt db)).symm
    with ⟨-, hdb, -⟩ | ⟨queue, hfound, -, ⟨-, horders⟩ | ⟨row, order, hentity, -, horders⟩⟩
  · exact hkept.same (by rw [hdb])
  · exact hkept.same horders
  · intro stored hstored hpurge
    rw [horders] at hstored
    rcases Table.mem_update.mp hstored with ⟨old, hold, hkey, rfl⟩ | ⟨hold, -⟩
    · have haccepted : ReceiptOutcome.accepted receipt.outcome = true := by
        by_contra hrefused
        simp [receivedOrder, hrefused] at hpurge
      obtain ⟨entry, hentry, hsame⟩ := hqueue queue (Table.mem_of_get? hfound)
      have hqueueId : Indexed.key entry = receipt.queueId :=
        hsame.queueId.symm.trans (Table.key_of_get? hfound)
      refine List.mem_append_right _ (List.mem_filterMap.mpr ⟨receipt, hreceipt, ?_⟩)
      rw [acceptedEntity, if_pos haccepted, ← hqueueId, Table.get?_of_mem hentry, Option.map_some,
        ← hsame.entityId]
      exact congrArg some hkey.symm
    · exact hkept stored hold hpurge

theorem sameEntries_applyReceipt {start : LocalDb}
    (hqueue : ∀ queue ∈ db.syncQueue, ∃ old ∈ start.syncQueue, SameEntry old queue)
    (promotionEpoch : ℕ) (now : Timestamp) (receipt : OfflineSyncReceipt) :
    ∀ queue ∈ (applyReceipt promotionEpoch now receipt db).1.syncQueue,
      ∃ old ∈ start.syncQueue, SameEntry old queue := by
  rcases applyReceipt_cases (Prod.mk.eta (p := applyReceipt promotionEpoch now receipt db)).symm
    with ⟨-, hdb, -⟩ | ⟨entry, -, hframe, -⟩
  · rw [hdb]
    exact hqueue
  · intro queue hmem
    rw [hframe.queueRow] at hmem
    have hrelated : ∀ row ∈ db.syncQueue, Indexed.key row = receipt.queueId →
        SameEntry row (receivedQueueRecord receipt now row) :=
      fun _ _ _ => ⟨rfl, rfl, rfl, rfl, rfl⟩
    obtain ⟨middle, hmiddle, hlater⟩ := Table.update_back SameEntry.refl hrelated hmem
    obtain ⟨old, hold, hearlier⟩ := hqueue middle hmiddle
    exact ⟨old, hold, hearlier.trans hlater⟩

theorem keptForAccepted_step (hkept : KeptForAccepted accepted db) (command : LocalCommand) :
    KeptForAccepted (accepted ++ acceptedBy db command) (step localBusinessDate db command) := by
  cases command with
  | bootstrap installationId response => exact hkept.append _
  | createOrder draft ids now =>
      exact (keptForAccepted_createOfflineOrder hkept draft ids now).append _
  | transition offlineOrderId nextState reason eventId now =>
      exact (keptForAccepted_transitionOfflineOrder hkept offlineOrderId nextState reason eventId
        now).append _
  | cashEvent input ids now =>
      exact (keptForAccepted_createOfflineCashEvent hkept input ids now).append _
  | markAttempt queueIds result retryAt now =>
      exact KeptForAccepted.append (forEach_invariant (KeptForAccepted accepted)
        (fun queueId _ _ hinner =>
          keptForAccepted_markQueueRecord hinner result retryAt now queueId) hkept) _
  | applyResponse response now =>
      have hstart : KeptForAccepted
            (accepted ++ response.receipts.filterMap (acceptedEntity db)) db
          ∧ ∀ queue ∈ db.syncQueue, ∃ old ∈ db.syncQueue, SameEntry old queue :=
        ⟨hkept.append _, fun queue hqueue => ⟨queue, hqueue, SameEntry.refl queue⟩⟩
      exact (forEach_invariant
        (fun inner : LocalDb => KeptForAccepted
            (accepted ++ response.receipts.filterMap (acceptedEntity db)) inner
          ∧ ∀ queue ∈ inner.syncQueue, ∃ old ∈ db.syncQueue, SameEntry old queue)
        (fun receipt hreceipt inner hinner =>
          ⟨keptForAccepted_applyReceipt hinner.1 hinner.2 response.promotionEpoch now hreceipt,
            sameEntries_applyReceipt hinner.2 response.promotionEpoch now receipt⟩) hstart).1

/-- A purge only removes orders. -/
theorem orders_of_purge (now : Timestamp) {row : StoredOrder}
    (hrow : row ∈ (purgeExpiredOfflinePayloads now db).1.offlineOrders) :
    row ∈ db.offlineOrders := by
  rw [purgeExpiredOfflinePayloads_eq] at hrow
  split at hrow
  · exact hrow
  · exact (Table.mem_filter.mp hrow).1

theorem keptForAccepted_storeStep {history : History}
    (hkept : KeptForAccepted history.acceptedOrders history.db) (command : StoreCommand) :
    KeptForAccepted (storeStep localBusinessDate history command).acceptedOrders
      (storeStep localBusinessDate history command).db := by
  cases command with
  | operation command => exact keptForAccepted_step hkept command
  | purge now => exact fun row hrow => hkept row (orders_of_purge now hrow)

/-- Along every run, an order with a purge time has been accepted. -/
theorem keptForAccepted_exec (commands : List StoreCommand) :
    KeptForAccepted (exec (storeStep localBusinessDate) .start commands).acceptedOrders
      (exec (storeStep localBusinessDate) .start commands).db :=
  invariant_exec (fun history : History => KeptForAccepted history.acceptedOrders history.db)
    (fun _ command hkept => keptForAccepted_storeStep hkept command)
    (fun row hrow => absurd hrow (Table.notMem_empty row)) commands

/-- Whatever else a purge does, it never deletes an order that was not accepted. -/
theorem accepted_of_purged (commands : List StoreCommand) (now : Timestamp)
    {row : StoredOrder}
    (hrow : row ∈ (exec (storeStep localBusinessDate) .start commands).db.offlineOrders)
    (hgone : row ∉ (purgeExpiredOfflinePayloads now
      (exec (storeStep localBusinessDate) .start commands).db).1.offlineOrders) :
    row.localOrderId ∈ (exec (storeStep localBusinessDate) .start commands).acceptedOrders := by
  refine keptForAccepted_exec commands row hrow fun hnone => hgone ?_
  rw [purgeExpiredOfflinePayloads_eq]
  split
  · exact hrow
  · next first hfirst =>
    refine Table.mem_filter.mpr ⟨hrow, decide_eq_true fun hsame => ?_⟩
    have hdue := List.find?_some hfirst
    have heq : row = first :=
      Table.eq_of_key_eq hrow (List.mem_of_find?_eq_some hfirst) hsame
    rw [← heq, purgeDue, hnone] at hdue
    cases hdue

end Steps

/-! ## When a purge is exact -/

/-- After any run a purge is exact if and only if it has no order to delete. -/
theorem purge_exact_iff (commands : List StoreCommand) (now : Timestamp) :
    PurgeExact (exec (storeStep localBusinessDate) .start commands) now ↔
      ∀ row ∈ (exec (storeStep localBusinessDate) .start commands).db.offlineOrders,
        purgeDue now row = false := by
  constructor
  · intro hexact row hrow
    by_contra hdue
    obtain ⟨first, -, -, hpurge⟩ := purge_of_due hrow (eq_true_of_ne_false hdue)
    have hcompletes := hexact.completes
    rw [hpurge] at hcompletes
    cases hcompletes
  · intro hkept
    have hpurge := purge_of_none_due hkept
    have hchild : ∀ orderId, ∀ row ∈
        (exec (storeStep localBusinessDate) .start commands).db.offlineOrders,
        orderId = row.localOrderId → purgeDue now row = false :=
      fun _ row hrow _ => hkept row hrow
    constructor
    · rw [hpurge]
    · intro row
      rw [hpurge]
      exact ⟨fun hrow => ⟨hrow, hkept row hrow⟩, And.left⟩
    · intro event
      rw [hpurge]
      exact ⟨fun hevent => ⟨hevent, hchild _⟩, And.left⟩
    · intro payment
      rw [hpurge]
      exact ⟨fun hpayment => ⟨hpayment, hchild _⟩, And.left⟩
    · intro job
      rw [hpurge]
      exact ⟨fun hjob => ⟨hjob, hchild _⟩, And.left⟩
    · intro receipt
      rw [hpurge]
      exact Table.mem_filter.trans (and_congr_right fun _ => by rw [Bool.not_eq_true'])
    · exact fun row hrow hgone => accepted_of_purged commands now hrow hgone

/-- Seven days after an order was accepted, the purge throws. -/
theorem purge_not_exact_after_week :
    ∃ commands now, ¬ PurgeExact (exec (storeStep sampleBusinessDate) .start commands) now := by
  refine ⟨acceptedOrder.map .operation, 2 * minuteMs + 7 * dayMs, fun hexact => ?_⟩
  have hfails : (purgeExpiredOfflinePayloads (2 * minuteMs + 7 * dayMs)
      (exec (storeStep sampleBusinessDate) .start (acceptedOrder.map .operation)).db).2
      = .error .indexNotFound := by decide +kernel
  have hcompletes := hexact.completes
  rw [hfails] at hcompletes
  cases hcompletes

end Stallorder.Purge
