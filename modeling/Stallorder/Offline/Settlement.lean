import Stallorder.Offline.LocalRun
import Stallorder.Offline.SyncEngine

/-!
# What the receipts of a run settle

After the receipts of an upload are applied, the same run purges; when the
purge throws, the handler of the run marks every row of the batch as failed.
Which rows are named by which receipt is read off the queue, whose entries no
step of the run changes.
-/

namespace Stallorder.Settlement

open OrderContract LocalDatabase Operations SyncQueue SyncEngine LocalRun Run Checks

/-! ## Naming -/

/-- The receipt is about this order. -/
def namesOrder (db : LocalDb) (orderId : Uuid) (receipt : OfflineSyncReceipt) : Bool :=
  (db.syncQueue.get? receipt.queueId).any fun queue =>
    queue.entityType = .order && queue.entityId = orderId

/-- The last receipt of a response that is about the order. -/
def lastReceiptOf (db : LocalDb) (receipts : List OfflineSyncReceipt) (orderId : Uuid) :
    Option OfflineSyncReceipt :=
  receipts.reverse.find? (namesOrder db orderId)

def SameOrderId (left right : StoredOrder) : Prop :=
  right.localOrderId = left.localOrderId

theorem SameOrderId.refl (row : StoredOrder) : SameOrderId row row := rfl

/-- The queue has the same entries and the orders have the same identifiers. -/
structure SameRows (before after : LocalDb) : Prop where
  queue_back : ∀ queue ∈ after.syncQueue, ∃ old ∈ before.syncQueue, SameEntry old queue
  queue_forth : ∀ queue ∈ before.syncQueue, ∃ new ∈ after.syncQueue, SameEntry queue new
  orders_back : ∀ row ∈ after.offlineOrders, ∃ old ∈ before.offlineOrders, SameOrderId old row

section Naming

variable {before middle after : LocalDb}

theorem SameRows.refl (db : LocalDb) : SameRows db db where
  queue_back queue hqueue := ⟨queue, hqueue, SameEntry.refl queue⟩
  queue_forth queue hqueue := ⟨queue, hqueue, SameEntry.refl queue⟩
  orders_back row hrow := ⟨row, hrow, rfl⟩

theorem SameRows.trans (hfirst : SameRows before middle) (hsecond : SameRows middle after) :
    SameRows before after where
  queue_back queue hqueue := by
    obtain ⟨between, hbetween, hlater⟩ := hsecond.queue_back queue hqueue
    obtain ⟨old, hold, hearlier⟩ := hfirst.queue_back between hbetween
    exact ⟨old, hold, hearlier.trans hlater⟩
  queue_forth queue hqueue := by
    obtain ⟨between, hbetween, hearlier⟩ := hfirst.queue_forth queue hqueue
    obtain ⟨new, hnew, hlater⟩ := hsecond.queue_forth between hbetween
    exact ⟨new, hnew, hearlier.trans hlater⟩
  orders_back row hrow := by
    obtain ⟨between, hbetween, hlater⟩ := hsecond.orders_back row hrow
    obtain ⟨old, hold, hearlier⟩ := hfirst.orders_back between hbetween
    exact ⟨old, hold, hlater.trans hearlier⟩

theorem SameRows.namesOrder_eq (hsame : SameRows before after) (orderId : Uuid)
    (receipt : OfflineSyncReceipt) :
    namesOrder after orderId receipt = namesOrder before orderId receipt := by
  unfold namesOrder
  cases hfound : before.syncQueue.get? receipt.queueId with
  | none =>
      have hmissing : after.syncQueue.get? receipt.queueId = none := by
        refine Table.get?_eq_none_iff.mpr fun queue hqueue hkey => ?_
        obtain ⟨old, hold, hentry⟩ := hsame.queue_back queue hqueue
        exact Table.get?_eq_none_iff.mp hfound old hold (hentry.queueId.symm.trans hkey)
      rw [hmissing]
  | some queue =>
      obtain ⟨new, hnew, hentry⟩ := hsame.queue_forth queue (Table.mem_of_get? hfound)
      have hkept : after.syncQueue.get? receipt.queueId = some new :=
        Table.get?_eq_some_iff.mpr
          ⟨hnew, hentry.queueId.trans (Table.key_of_get? hfound)⟩
      rw [hkept]
      simp only [Option.any_some, hentry.entityType, hentry.entityId]

theorem SameRows.lastReceiptOf_eq (hsame : SameRows before after)
    (receipts : List OfflineSyncReceipt) (orderId : Uuid) :
    lastReceiptOf after receipts orderId = lastReceiptOf before receipts orderId := by
  unfold lastReceiptOf
  congr 1
  exact funext (hsame.namesOrder_eq orderId)

theorem lastReceiptOf_cons (db : LocalDb) (receipt : OfflineSyncReceipt)
    (receipts : List OfflineSyncReceipt) (orderId : Uuid) :
    lastReceiptOf db (receipt :: receipts) orderId
      = (lastReceiptOf db receipts orderId).or
          (if namesOrder db orderId receipt then some receipt else none) := by
  unfold lastReceiptOf
  rw [List.reverse_cons, List.find?_append]
  cases hnames : namesOrder db orderId receipt <;> simp [hnames]

end Naming

section Steps

variable {db db' : LocalDb} {outcome : Except LocalError Unit}

/-- A step that rewrites one queue row, keeping its entry, and at most one
order, keeping its identifier. -/
theorem sameRows_of_updates (queueId : Uuid)
    (changeQueue : StoredQueueRecord → StoredQueueRecord)
    (hchangeQueue : ∀ {row other}, Indexed.collides (changeQueue row) other →
      Indexed.collides row other)
    (hqueueTable : db'.syncQueue = db.syncQueue.update queueId changeQueue hchangeQueue)
    (hqueue : ∀ queue, SameEntry queue (changeQueue queue))
    (horders : db'.offlineOrders = db.offlineOrders
      ∨ ∃ (orderId : Uuid) (change : StoredOrder → StoredOrder)
        (hchange : ∀ {row other}, Indexed.collides (change row) other →
          Indexed.collides row other),
        db'.offlineOrders = db.offlineOrders.update orderId change hchange
          ∧ ∀ row, SameOrderId row (change row)) :
    SameRows db db' := by
  have hrelated : ∀ queue ∈ db.syncQueue, Indexed.key queue = queueId →
      SameEntry queue (changeQueue queue) := fun queue _ _ => hqueue queue
  refine ⟨?_, ?_, ?_⟩
  · rw [hqueueTable]
    exact fun queue hmem => Table.update_back SameEntry.refl hrelated hmem
  · rw [hqueueTable]
    exact fun queue hmem =>
      Table.update_forth changeQueue hchangeQueue SameEntry.refl hrelated hmem
  · rcases horders with hsame | ⟨orderId, change, hchange, htable, hkeeps⟩
    · rw [hsame]
      exact fun row hrow => ⟨row, hrow, SameOrderId.refl row⟩
    · rw [htable]
      exact fun row hrow => Table.update_back SameOrderId.refl (fun old _ _ => hkeeps old) hrow

theorem sameRows_markQueueRecord {result : AttemptResult} {retryAt now : Timestamp}
    {queueId : Uuid} (hmark : markQueueRecord result retryAt now queueId db = (db', outcome)) :
    SameRows db db' := by
  have hentry : ∀ queue, SameEntry queue (attemptedQueueRecord result retryAt now queue) :=
    fun _ => ⟨rfl, rfl, rfl, rfl, rfl⟩
  rcases markQueueRecord_cases hmark with
    ⟨-, hdb, -⟩ | ⟨queue, -, ⟨-, hdb⟩ | ⟨row, order, -, -, hdb⟩⟩
  · rw [hdb]
    exact SameRows.refl db
  · rw [hdb]
    exact sameRows_of_updates queueId (attemptedQueueRecord result retryAt now) id rfl hentry
      (Or.inl rfl)
  · rw [hdb]
    exact sameRows_of_updates queueId (attemptedQueueRecord result retryAt now) id rfl hentry
      (Or.inr ⟨queue.entityId,
        attemptedOrder result (countRetry result queue.retryCount) now order, id, rfl,
        fun _ => rfl⟩)

/-- Marking leaves the purge time of every order alone. -/
theorem purgeAfter_markQueueRecord {result : AttemptResult} {retryAt now : Timestamp}
    {queueId : Uuid} (hmark : markQueueRecord result retryAt now queueId db = (db', outcome))
    {row : StoredOrder} (hrow : row ∈ db.offlineOrders) :
    ∃ new ∈ db'.offlineOrders, SameOrderId row new ∧ new.purgeAfter = row.purgeAfter := by
  rcases markQueueRecord_cases hmark with
    ⟨-, hdb, -⟩ | ⟨queue, -, ⟨-, hdb⟩ | ⟨stored, order, -, -, hdb⟩⟩
  · exact ⟨row, hdb ▸ hrow, rfl, rfl⟩
  · have horders : db'.offlineOrders = db.offlineOrders := by rw [hdb]
    exact ⟨row, horders ▸ hrow, rfl, rfl⟩
  · have horders : db'.offlineOrders = db.offlineOrders.update queue.entityId
        (attemptedOrder result (countRetry result queue.retryCount) now order) id := by
      rw [hdb]
    rw [horders]
    by_cases hkey : Indexed.key row = queue.entityId
    · exact ⟨_, Table.mem_update_of_key hrow hkey, rfl, rfl⟩
    · exact ⟨row, Table.mem_update_of_ne hrow hkey, rfl, rfl⟩

theorem sameRows_applyReceipt {promotionEpoch : ℕ} {now : Timestamp}
    {receipt : OfflineSyncReceipt}
    (happly : applyReceipt promotionEpoch now receipt db = (db', outcome)) :
    SameRows db db' := by
  have hentry : ∀ queue, SameEntry queue (receivedQueueRecord receipt now queue) :=
    fun _ => ⟨rfl, rfl, rfl, rfl, rfl⟩
  rcases applyReceipt_cases happly with
    ⟨-, rfl, -⟩ | ⟨queue, -, hframe, ⟨-, horders⟩ | ⟨row, order, -, -, horders⟩⟩
  · exact SameRows.refl db'
  · exact sameRows_of_updates receipt.queueId (receivedQueueRecord receipt now) id
      hframe.queueRow hentry (Or.inl horders)
  · exact sameRows_of_updates receipt.queueId (receivedQueueRecord receipt now) id
      hframe.queueRow hentry
      (Or.inr ⟨queue.entityId, receivedOrder receipt now order, id, horders, fun _ => rfl⟩)

/-- The purge time that a receipt gives to the order it names. -/
def receiptPurgeAfter (receipt : OfflineSyncReceipt) (now : Timestamp) : Option Timestamp :=
  if ReceiptOutcome.accepted receipt.outcome then some (now + 7 * dayMs) else none

/-- What becomes of an order under the receipt that names it last, if any. -/
def Received (now : Timestamp) (row new : StoredOrder) : Option OfflineSyncReceipt → Prop
  | none => new = row
  | some receipt => new.localOrderId = row.localOrderId
      ∧ new.syncStatus = localStatus receipt.outcome
      ∧ new.purgeAfter = receiptPurgeAfter receipt now

theorem Received.sameOrderId {now : Timestamp} {row new : StoredOrder}
    {receipt : Option OfflineSyncReceipt} (hreceived : Received now row new receipt) :
    SameOrderId row new := by
  cases receipt with
  | none => rw [hreceived]; rfl
  | some receipt => exact hreceived.1

/-- The receipt of an order that is stored finds it, unless it throws. -/
theorem entityOrder_of_applyReceipt_ok {promotionEpoch : ℕ} {now : Timestamp}
    {receipt : OfflineSyncReceipt} {queue : StoredQueueRecord} {row : StoredOrder}
    (happly : applyReceipt promotionEpoch now receipt db = (db', .ok ()))
    (hqueue : db.syncQueue.get? receipt.queueId = some queue) (htype : queue.entityType = .order)
    (hrow : db.offlineOrders.get? queue.entityId = some row) :
    ∃ order, EntityOrder db queue row order := by
  cases hparse : offlineOrderSchema.parse row.payload with
  | some order => exact ⟨order, htype, hrow, hparse⟩
  | none =>
      simp only [applyReceipt, hqueue, applyReceiptToEntity, htype, hrow, hparse] at happly
      cases happly

theorem received_of_applyReceipt {promotionEpoch : ℕ} {now : Timestamp}
    {receipt : OfflineSyncReceipt}
    (happly : applyReceipt promotionEpoch now receipt db = (db', .ok ())) {row : StoredOrder}
    (hrow : row ∈ db.offlineOrders) :
    ∃ new ∈ db'.offlineOrders, Received now row new
      (if namesOrder db row.localOrderId receipt then some receipt else none) := by
  rcases applyReceipt_cases happly with
    ⟨hmissing, rfl, -⟩ | ⟨queue, hqueue, -, ⟨hnoOrder, horders⟩ | ⟨stored, order, hentity, -,
      horders⟩⟩
  · refine ⟨row, hrow, ?_⟩
    rw [if_neg (by simp [namesOrder, hmissing])]
    rfl
  · refine ⟨row, horders ▸ hrow, ?_⟩
    rw [if_neg]
    · rfl
    · intro hnames
      simp only [namesOrder, hqueue, Option.any_some, Bool.and_eq_true, decide_eq_true_eq]
        at hnames
      have hfound : db.offlineOrders.get? queue.entityId = some row :=
        Table.get?_eq_some_iff.mpr ⟨hrow, hnames.2.symm⟩
      obtain ⟨order, horder⟩ := entityOrder_of_applyReceipt_ok happly hqueue hnames.1 hfound
      exact hnoOrder row order horder
  · rw [horders]
    by_cases hkey : Indexed.key row = queue.entityId
    · refine ⟨_, Table.mem_update_of_key hrow hkey, ?_⟩
      have hnames : namesOrder db row.localOrderId receipt = true := by
        simp only [namesOrder, hqueue, Option.any_some, Bool.and_eq_true, decide_eq_true_eq]
        exact ⟨hentity.type, hkey.symm⟩
      rw [if_pos hnames]
      exact ⟨rfl, rfl, rfl⟩
    · refine ⟨row, Table.mem_update_of_ne hrow hkey, ?_⟩
      rw [if_neg]
      · rfl
      · intro hnames
        simp only [namesOrder, hqueue, Option.any_some, Bool.and_eq_true, decide_eq_true_eq]
          at hnames
        exact hkey hnames.2.symm

/-! ## Whole responses -/

theorem Received.then {now : Timestamp} {row between new : StoredOrder}
    {first last : Option OfflineSyncReceipt} (hfirst : Received now row between first)
    (hlast : Received now between new last) : Received now row new (last.or first) := by
  cases last with
  | none => rw [hlast]; exact hfirst
  | some receipt =>
      exact ⟨hlast.1.trans hfirst.sameOrderId, hlast.2.1, hlast.2.2⟩

theorem received_of_applyReceipts {promotionEpoch : ℕ} {now : Timestamp}
    {receipts : List OfflineSyncReceipt}
    (happly : forEach (applyReceipt promotionEpoch now) receipts db = (db', .ok ()))
    {row : StoredOrder} (hrow : row ∈ db.offlineOrders) :
    ∃ new ∈ db'.offlineOrders,
      Received now row new (lastReceiptOf db receipts row.localOrderId) := by
  induction receipts generalizing db row with
  | nil =>
      cases happly
      exact ⟨row, hrow, rfl⟩
  | cons receipt receipts ih =>
      rcases hhead : applyReceipt promotionEpoch now receipt db with ⟨middle, _ | _⟩
      · rw [forEach_cons_error hhead] at happly
        cases happly
      · rw [forEach_cons_ok hhead] at happly
        obtain ⟨between, hbetween, hfirst⟩ := received_of_applyReceipt hhead hrow
        obtain ⟨new, hnew, hlast⟩ := ih happly hbetween
        refine ⟨new, hnew, ?_⟩
        rw [lastReceiptOf_cons]
        rw [(sameRows_applyReceipt hhead).lastReceiptOf_eq, hfirst.sameOrderId] at hlast
        exact hfirst.then hlast

theorem sameRows_applyOfflineSyncResponse {response : OfflineSyncResponse} {now : Timestamp}
    (happly : applyOfflineSyncResponse response now db = (db', outcome)) : SameRows db db' := by
  have hsame : SameRows db (applyOfflineSyncResponse response now db).1 :=
    forEach_invariant (SameRows db)
      (fun _ _ _ hsame => hsame.trans (sameRows_applyReceipt Prod.mk.eta.symm))
      (SameRows.refl db)
  rwa [happly] at hsame

theorem sameRows_markOfflineSyncAttempt {queueIds : List Uuid} {result : AttemptResult}
    {retryAt now : Timestamp}
    (hmark : markOfflineSyncAttempt queueIds result retryAt now db = (db', outcome)) :
    SameRows db db' := by
  have hsame : SameRows db (markOfflineSyncAttempt queueIds result retryAt now db).1 :=
    forEach_invariant (SameRows db)
      (fun _ _ _ hsame => hsame.trans (sameRows_markQueueRecord Prod.mk.eta.symm))
      (SameRows.refl db)
  rwa [hmark] at hsame

theorem purgeAfter_markOfflineSyncAttempt {queueIds : List Uuid} {result : AttemptResult}
    {retryAt now : Timestamp}
    (hmark : markOfflineSyncAttempt queueIds result retryAt now db = (db', outcome))
    {row : StoredOrder} (hrow : row ∈ db.offlineOrders) :
    ∃ new ∈ db'.offlineOrders, SameOrderId row new ∧ new.purgeAfter = row.purgeAfter := by
  have hkept : ∃ new ∈ (markOfflineSyncAttempt queueIds result retryAt now db).1.offlineOrders,
      SameOrderId row new ∧ new.purgeAfter = row.purgeAfter := by
    refine forEach_invariant (fun inner : LocalDb => ∃ new ∈ inner.offlineOrders,
      SameOrderId row new ∧ new.purgeAfter = row.purgeAfter) ?_ ⟨row, hrow, rfl, rfl⟩
    rintro queueId - inner ⟨middle, hmiddle, hid, hpurge⟩
    obtain ⟨new, hnew, hlater, hkept⟩ := purgeAfter_markQueueRecord Prod.mk.eta.symm hmiddle
    exact ⟨new, hnew, hlater.trans hid, hkept.trans hpurge⟩
  rwa [hmark] at hkept

theorem mem_of_applyReceipts (promotionEpoch : ℕ) (now : Timestamp)
    {receipts : List OfflineSyncReceipt} {queue : StoredQueueRecord}
    (hqueue : queue ∈ db.syncQueue) (hunnamed : queue.queueId ∉ receipts.map (·.queueId)) :
    queue ∈ (forEach (applyReceipt promotionEpoch now) receipts db).1.syncQueue := by
  refine forEach_invariant (fun inner : LocalDb => queue ∈ inner.syncQueue) ?_ hqueue
  intro receipt hreceipt inner hinner
  rcases applyReceipt_cases
      (Prod.mk.eta (p := applyReceipt promotionEpoch now receipt inner)).symm
    with ⟨-, hdb, -⟩ | ⟨entry, -, hframe, -⟩
  · rw [hdb]
    exact hinner
  · rw [hframe.queueRow]
    refine Table.mem_update_of_ne hinner fun hsame => hunnamed ?_
    exact List.mem_map.mpr ⟨receipt, hreceipt, hsame.symm⟩

/-- Receipts for different rows each leave their status behind. -/
theorem status_of_applyReceipts {promotionEpoch : ℕ} {now : Timestamp}
    {receipts : List OfflineSyncReceipt}
    (happly : forEach (applyReceipt promotionEpoch now) receipts db = (db', .ok ()))
    (hnodup : (receipts.map (·.queueId)).Nodup) {receipt : OfflineSyncReceipt}
    (hreceipt : receipt ∈ receipts) {queue : StoredQueueRecord} (hqueue : queue ∈ db.syncQueue)
    (hnamed : queue.queueId = receipt.queueId) :
    ∃ new ∈ db'.syncQueue, new.queueId = receipt.queueId
      ∧ new.status = localStatus receipt.outcome := by
  induction receipts generalizing db queue with
  | nil => cases hreceipt
  | cons head receipts ih =>
      rw [List.map_cons, List.nodup_cons] at hnodup
      rcases hhead : applyReceipt promotionEpoch now head db with ⟨middle, _ | _⟩
      · rw [forEach_cons_error hhead] at happly
        cases happly
      · rw [forEach_cons_ok hhead] at happly
        rcases List.mem_cons.mp hreceipt with rfl | htail
        · rcases applyReceipt_cases hhead with ⟨hmissing, -, -⟩ | ⟨entry, -, hframe, -⟩
          · exact absurd hnamed (Table.get?_eq_none_iff.mp hmissing queue hqueue)
          · have hreceived : receivedQueueRecord receipt now queue ∈ middle.syncQueue := by
              rw [hframe.queueRow]
              exact Table.mem_update_of_key hqueue hnamed
            have hkept := mem_of_applyReceipts promotionEpoch now hreceived
              (hnamed ▸ hnodup.1)
            rw [happly] at hkept
            exact ⟨_, hkept, hnamed, rfl⟩
        · obtain ⟨between, hbetween, hentry⟩ :=
            (sameRows_applyReceipt hhead).queue_forth queue hqueue
          exact ih happly hnodup.2 htail hbetween (hentry.queueId.trans hnamed)

/-- Marking one row as failed fails it and lets no failed row recover. -/
theorem failed_of_markQueueRecord (retryAt now : Timestamp) {queueId marked : Uuid}
    (hfailed : marked = queueId ∨ ∀ queue ∈ db.syncQueue, queue.queueId = queueId →
      queue.status = .failed) :
    ∀ queue ∈ (markQueueRecord .failed retryAt now marked db).1.syncQueue,
      queue.queueId = queueId → queue.status = .failed := by
  have hupdate : ∀ queue ∈ db.syncQueue.update marked
      (attemptedQueueRecord .failed retryAt now) id,
      queue.queueId = queueId → queue.status = .failed := by
    intro queue hqueue hid
    rcases Table.mem_update.mp hqueue with ⟨old, -, -, rfl⟩ | ⟨hold, hne⟩
    · rfl
    · rcases hfailed with rfl | hfailed
      · exact absurd hid hne
      · exact hfailed queue hold hid
  rcases markQueueRecord_cases
      (Prod.mk.eta (p := markQueueRecord .failed retryAt now marked db)).symm
    with ⟨hmissing, hdb, -⟩ | ⟨entry, -, ⟨-, hdb⟩ | ⟨row, order, -, -, hdb⟩⟩
  · rw [hdb]
    intro queue hqueue hid
    rcases hfailed with rfl | hfailed
    · exact absurd hid (Table.get?_eq_none_iff.mp hmissing queue hqueue)
    · exact hfailed queue hqueue hid
  · rw [hdb]
    exact hupdate
  · rw [hdb]
    exact hupdate

/-- Marking rows as failed fails the first of them whatever becomes of the rest. -/
theorem failed_of_markOfflineSyncAttempt {retryAt now : Timestamp} (queueId : Uuid)
    (queueIds : List Uuid) :
    ∀ queue ∈ (markOfflineSyncAttempt (queueId :: queueIds) .failed retryAt now db).1.syncQueue,
      queue.queueId = queueId → queue.status = .failed := by
  have hhead : ∀ queue ∈ (markQueueRecord .failed retryAt now queueId db).1.syncQueue,
      queue.queueId = queueId → queue.status = .failed :=
    failed_of_markQueueRecord retryAt now (Or.inl rfl)
  rcases hresult : markQueueRecord .failed retryAt now queueId db with ⟨middle, _ | _⟩
  · rw [hresult] at hhead
    rw [markOfflineSyncAttempt, forEach_cons_error hresult]
    exact hhead
  · rw [hresult] at hhead
    rw [markOfflineSyncAttempt, forEach_cons_ok hresult]
    exact forEach_invariant (fun inner : LocalDb => ∀ queue ∈ inner.syncQueue,
      queue.queueId = queueId → queue.status = .failed)
      (fun _ _ _ hinner => failed_of_markQueueRecord retryAt now (Or.inr hinner)) hhead

end Steps

/-! ## Receipts until the end of the run -/

/-- The order is due for purging once the receipts are applied: the last
receipt that names it decides, and without one the order itself. -/
def settledPurgeDue (db : LocalDb) (response : OfflineSyncResponse) (clock : SyncClock)
    (row : StoredOrder) : Bool :=
  match lastReceiptOf db response.receipts row.localOrderId with
  | none => purgeDue clock.purgedAt row
  | some receipt => (receiptPurgeAfter receipt clock.appliedAt).any (· ≤ clock.purgedAt)

/-- The queue rows and the orders that the receipts name have the status that
the receipts gave them. -/
structure ReceiptsKept (db : LocalDb) (response : OfflineSyncResponse) (final : LocalDb) :
    Prop where
  queue : ∀ receipt ∈ response.receipts, ∃ queue ∈ final.syncQueue,
    queue.queueId = receipt.queueId ∧ queue.status = localStatus receipt.outcome
  orders : ∀ row ∈ db.offlineOrders, ∀ receipt,
    lastReceiptOf db response.receipts row.localOrderId = some receipt →
      ∃ kept ∈ final.offlineOrders,
        kept.localOrderId = row.localOrderId ∧ kept.syncStatus = localStatus receipt.outcome

/-- A run that loads and marks a batch, is answered record by record and
applies the receipts. -/
structure AnsweredRun (db : LocalDb) (stallId : Uuid) (batchSize : ℤ) (clock : SyncClock)
    (upload : OfflineSyncRequest → Option OfflineSyncResponse) (response : OfflineSyncResponse)
    (context : OfflineSyncContext) (records : List OfflineSyncRecord)
    (marked applied : LocalDb) : Prop where
  configured : getOfflineSyncContext db stallId = some context
  loaded : loadOfflineSyncBatch db stallId batchSize clock.loadedAt = .ok records
  nonempty : records ≠ []
  marking : markProcessing records clock db = (marked, .ok ())
  uploaded : upload (syncRequest context records clock) = some response
  answered : response.receipts.map (·.queueId) = records.map (·.queueId)
  applying : applyOfflineSyncResponse response clock.appliedAt marked = (applied, .ok ())

section Run

variable {db : LocalDb} {stallId : Uuid} {batchSize : ℤ} {clock : SyncClock}
  {upload : OfflineSyncRequest → Option OfflineSyncResponse} {response : OfflineSyncResponse}
  {context : OfflineSyncContext} {records : List OfflineSyncRecord} {marked applied : LocalDb}

theorem AnsweredRun.sameRows_marked
    (hrun : AnsweredRun db stallId batchSize clock upload response context records marked
      applied) : SameRows db marked :=
  sameRows_markOfflineSyncAttempt hrun.marking

theorem AnsweredRun.sameRows_applied
    (hrun : AnsweredRun db stallId batchSize clock upload response context records marked
      applied) : SameRows db applied :=
  hrun.sameRows_marked.trans (sameRows_applyOfflineSyncResponse hrun.applying)

/-- Every order reaches the purge with the status and the purge time that the
receipts decide. -/
theorem AnsweredRun.settled
    (hrun : AnsweredRun db stallId batchSize clock upload response context records marked
      applied) {row : StoredOrder} (hrow : row ∈ db.offlineOrders) :
    ∃ new ∈ applied.offlineOrders, SameOrderId row new
      ∧ purgeDue clock.purgedAt new = settledPurgeDue db response clock row
      ∧ ∀ receipt, lastReceiptOf db response.receipts row.localOrderId = some receipt →
        new.syncStatus = localStatus receipt.outcome := by
  obtain ⟨middle, hmiddle, hid, hpurge⟩ := purgeAfter_markOfflineSyncAttempt hrun.marking hrow
  obtain ⟨new, hnew, hreceived⟩ := received_of_applyReceipts hrun.applying hmiddle
  have hnewId : SameOrderId row new := hreceived.sameOrderId.trans hid
  rw [hrun.sameRows_marked.lastReceiptOf_eq, hid] at hreceived
  refine ⟨new, hnew, hnewId, ?_, ?_⟩
  · unfold settledPurgeDue
    cases hlast : lastReceiptOf db response.receipts row.localOrderId with
    | none =>
        rw [hlast] at hreceived
        rw [hreceived]
        simp only [purgeDue, hpurge]
    | some receipt =>
        rw [hlast] at hreceived
        simp only [purgeDue, hreceived.2.2]
  · intro receipt hlast
    rw [hlast] at hreceived
    exact hreceived.2.1

/-- The receipts' statuses are in place when the purge begins. -/
theorem AnsweredRun.kept_applied
    (hrun : AnsweredRun db stallId batchSize clock upload response context records marked
      applied) : ReceiptsKept db response applied := by
  constructor
  · intro receipt hreceipt
    have hnodup : (response.receipts.map (·.queueId)).Nodup :=
      hrun.answered ▸ nodup_of_loadOfflineSyncBatch hrun.loaded
    have hnamed : receipt.queueId ∈ records.map (·.queueId) :=
      hrun.answered ▸ List.mem_map_of_mem hreceipt
    obtain ⟨queue, hqueue, hid⟩ := exists_queue_of_loadOfflineSyncBatch hrun.loaded hnamed
    obtain ⟨new, hnew, hentry⟩ := hrun.sameRows_marked.queue_forth queue hqueue
    exact status_of_applyReceipts hrun.applying hnodup hreceipt hnew
      (hentry.queueId.trans hid)
  · intro row hrow receipt hlast
    obtain ⟨new, hnew, hid, -, hstatus⟩ := hrun.settled hrow
    exact ⟨new, hnew, hid, hstatus receipt hlast⟩

theorem AnsweredRun.none_due_iff
    (hrun : AnsweredRun db stallId batchSize clock upload response context records marked
      applied) :
    (∀ row ∈ applied.offlineOrders, purgeDue clock.purgedAt row = false)
      ↔ ∀ row ∈ db.offlineOrders, settledPurgeDue db response clock row = false := by
  constructor
  · intro hnone row hrow
    obtain ⟨new, hnew, -, hdue, -⟩ := hrun.settled hrow
    rw [← hdue]
    exact hnone new hnew
  · intro hnone row hrow
    obtain ⟨old, hold, hid⟩ := hrun.sameRows_applied.orders_back row hrow
    obtain ⟨new, hnew, hnewId, hdue, -⟩ := hrun.settled hold
    have hsame : new = row := Table.eq_of_key_eq hnew hrow (hnewId.trans hid.symm)
    rw [← hsame, hdue]
    exact hnone old hold

/-- The rest of the run, from the answered upload on. -/
theorem AnsweredRun.synchronize_eq
    (hrun : AnsweredRun db stallId batchSize clock upload response context records marked
      applied) :
    synchronizeOfflineQueue db stallId batchSize clock true true upload
      = settleUpload records clock (some response) marked := by
  have hrecords := hrun.nonempty
  simp only [synchronizeOfflineQueue, hrun.configured, Bool.not_true, Bool.false_eq_true, if_false,
    synchronizeLocked, hrun.loaded]
  cases records with
  | nil => exact absurd rfl hrecords
  | cons record records => simp only [hrun.marking, hrun.uploaded]

theorem settleUpload_purged {purged : LocalDb}
    (happly : applyOfflineSyncResponse response clock.appliedAt marked = (applied, .ok ()))
    (hpurge : purgeExpiredOfflinePayloads clock.purgedAt applied = (purged, .ok ())) :
    settleUpload records clock (some response) marked
      = (purged, .ok (syncedResult response)) := by
  simp only [settleUpload, happly, hpurge]

theorem settleUpload_not_purged {purged : LocalDb} {error : LocalError}
    (happly : applyOfflineSyncResponse response clock.appliedAt marked = (applied, .ok ()))
    (hpurge : purgeExpiredOfflinePayloads clock.purgedAt applied = (purged, .error error)) :
    settleUpload records clock (some response) marked = failUpload records clock purged := by
  simp only [settleUpload, happly, hpurge]

theorem failUpload_fst (records : List OfflineSyncRecord) (clock : SyncClock) (db : LocalDb) :
    (failUpload records clock db).1
      = (markOfflineSyncAttempt (records.map (·.queueId)) .failed
          (clock.failedAt + calculateOfflineRetryDelay (batchAttempt records) clock.randomValue)
          clock.failedAt db).1 := by
  unfold failUpload
  simp only
  split <;> next hmark => rw [hmark]

theorem localStatus_ne_failed (outcome : ReceiptOutcome) : localStatus outcome ≠ .failed := by
  cases outcome <;> simp [localStatus]

/-- The receipts of an answered upload keep their statuses to the end of the
run if and only if no order is due for purging once they are applied. -/
theorem receipts_final_iff
    (hrun : AnsweredRun db stallId batchSize clock upload response context records marked
      applied) :
    ReceiptsKept db response
        (synchronizeOfflineQueue db stallId batchSize clock true true upload).1
      ↔ ∀ row ∈ db.offlineOrders, settledPurgeDue db response clock row = false := by
  rw [← hrun.none_due_iff, hrun.synchronize_eq]
  constructor
  · intro hkept row hrow
    by_contra hdue
    obtain ⟨first, -, -, hpurge⟩ := purge_of_due hrow (eq_true_of_ne_false hdue)
    rw [settleUpload_not_purged hrun.applying hpurge] at hkept
    cases hrecords : records with
    | nil => exact hrun.nonempty hrecords
    | cons record others =>
        have hanswered := hrun.answered
        rw [hrecords, List.map_cons] at hanswered
        obtain ⟨receipt, hreceipt, hid⟩ : ∃ receipt ∈ response.receipts,
            receipt.queueId = record.queueId :=
          List.mem_map.mp (hanswered ▸ List.mem_cons_self)
        obtain ⟨queue, hqueue, hqueueId, hstatus⟩ := hkept.queue receipt hreceipt
        rw [failUpload_fst, hrecords, List.map_cons] at hqueue
        have hfailed := failed_of_markOfflineSyncAttempt record.queueId
          (others.map (·.queueId)) queue hqueue (hqueueId.trans hid)
        exact localStatus_ne_failed receipt.outcome (hstatus.symm.trans hfailed)
  · intro hnone
    rw [settleUpload_purged hrun.applying (purge_of_none_due hnone)]
    exact ⟨hrun.kept_applied.queue, hrun.kept_applied.orders⟩

end Run

/-! ## A second order a week after the first -/

/-- The second order is created after the first was accepted. -/
def secondOrder : List LocalCommand :=
  acceptedOrder ++ [.createOrder (sampleDraft 201) (sampleIds 120) (3 * minuteMs)]

def secondOrderDb : LocalDb :=
  exec (step sampleBusinessDate) .empty secondOrder

/-- The batch that is loaded at a time, and the databases after it is marked and
after its receipt is applied. -/
def loadedAt (now : Timestamp) : List OfflineSyncRecord :=
  (loadOfflineSyncBatch secondOrderDb 2 50 now).toOption.getD []

def markedAt (now : Timestamp) : LocalDb :=
  (markProcessing (loadedAt now) (.at now) secondOrderDb).1

def appliedAt (now : Timestamp) : LocalDb :=
  (applyOfflineSyncResponse (acceptedResponse 124 120 now) now (markedAt now)).1

def sampleContext : OfflineSyncContext where
  installationId := 6
  permitToken := (sampleBootstrap 7 0).permitToken
  deviceId := 3
  expiresAt := 60 * minuteMs

theorem answeredRun_sample (now : Timestamp)
    (hload : (loadOfflineSyncBatch secondOrderDb 2 50 now).isOk = true)
    (hnamed : (loadedAt now).map (·.queueId) = [124])
    (hmark : (markProcessing (loadedAt now) (.at now) secondOrderDb).2 = .ok ())
    (happly : (applyOfflineSyncResponse (acceptedResponse 124 120 now) now (markedAt now)).2
      = .ok ()) :
    AnsweredRun secondOrderDb 2 50 (.at now) (fun _ => some (acceptedResponse 124 120 now))
      (acceptedResponse 124 120 now) sampleContext (loadedAt now) (markedAt now)
      (appliedAt now) where
  configured := by decide +kernel
  loaded := eq_ok_of_isOk hload []
  nonempty hnil := by
    rw [hnil] at hnamed
    cases hnamed
  marking := Prod.ext rfl hmark
  uploaded := rfl
  answered := hnamed.symm
  applying := Prod.ext rfl happly

/-- When the first order is a week old, the receipt of the second is undone. -/
theorem receipt_undone_by_purge :
    ∃ records marked applied,
      AnsweredRun secondOrderDb 2 50 (.at (8 * dayMs))
        (fun _ => some (acceptedResponse 124 120 (8 * dayMs)))
        (acceptedResponse 124 120 (8 * dayMs)) sampleContext records marked applied
      ∧ ¬ ReceiptsKept secondOrderDb (acceptedResponse 124 120 (8 * dayMs))
        (synchronizeOfflineQueue secondOrderDb 2 50 (.at (8 * dayMs)) true true
          fun _ => some (acceptedResponse 124 120 (8 * dayMs))).1 := by
  refine ⟨_, _, _, answeredRun_sample (8 * dayMs) (by decide +kernel) (by decide +kernel)
    (by decide +kernel) (by decide +kernel), fun hkept => ?_⟩
  have hfailed : ∀ queue ∈ (synchronizeOfflineQueue secondOrderDb 2 50 (.at (8 * dayMs)) true
      true fun _ => some (acceptedResponse 124 120 (8 * dayMs))).1.syncQueue.rows,
      queue.queueId = 124 → queue.status ≠ .synced := by decide +kernel
  obtain ⟨queue, hqueue, hid, hstatus⟩ := hkept.queue _ List.mem_cons_self
  exact hfailed queue hqueue hid hstatus

/-- On the same day its receipt is kept. -/
theorem receipt_kept_same_day :
    ReceiptsKept secondOrderDb (acceptedResponse 124 120 (4 * minuteMs))
      (synchronizeOfflineQueue secondOrderDb 2 50 (.at (4 * minuteMs)) true true
        fun _ => some (acceptedResponse 124 120 (4 * minuteMs))).1 :=
  (receipts_final_iff (answeredRun_sample (4 * minuteMs) (by decide +kernel)
    (by decide +kernel) (by decide +kernel) (by decide +kernel))).mpr
    (show ∀ row ∈ secondOrderDb.offlineOrders.rows, _ by decide +kernel)

end Stallorder.Settlement
