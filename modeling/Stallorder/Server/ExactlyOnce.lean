import Stallorder.Server.ImportOutcome

/-!
# Importing at most once

Runs of the server: uploads of any records in any context, orders that other
parts of the platform take, and changes of the tables that an import only
reads.  Every offline order has its receipt, so the unique indexes of the
receipts and the lookups of a replay together allow one order per sale.
-/

namespace Stallorder.ExactlyOnce

open OrderContract DeviceDatabase SyncDatabase SyncReplay OrderImport SyncService ImportOutcome
  LocalRun Run

variable {Hash : Type}

inductive ServerCommand (Hash : Type)
  | upload (context : SharedSyncContext) (answers : ImportAnswers) (record : OfflineSyncRecord)
  | otherOrder (order : CanonicalOrder)
  | administrate (devices : DeviceDb) (stallProducts : List StallProduct)
      (paymentOptions printers : List StallResource) (cashShifts : Table CashShift)

section Step

variable (platform : Platform Hash) [DecidableEq Hash]

/-- An order that is not taken offline, when no index refuses it. -/
def takeOrder (db : ServerDb Hash) (order : CanonicalOrder) : ServerDb Hash :=
  if order.origin = .offlinePos then db
  else
    match db.orders.insert? order with
    | some orders => { db with orders }
    | none => db

def serverStep (db : ServerDb Hash) : ServerCommand Hash → ServerDb Hash
  | .upload context answers record =>
      match receiveRecord platform db context answers record with
      | some (received, _) => received
      | none => db
  | .otherOrder order => takeOrder db order
  | .administrate devices stallProducts paymentOptions printers cashShifts =>
      { db with devices, stallProducts, paymentOptions, printers, cashShifts }

end Step

/-! ## What holds of a state -/

/-- The order was sold offline under the key: it was uploaded, or an upload was
recognized as this order. -/
def SoldUnder (db : ServerDb Hash) (idempotencyKey : Uuid) (order : CanonicalOrder) : Prop :=
  order ∈ db.orders ∧ order.idempotencyKey = idempotencyKey
    ∧ (order.origin = .offlinePos ∨ ∃ receipt ∈ db.receipts, receipt.orderId = order.id)

structure AtMostOnce (db : ServerDb Hash) : Prop where
  key : ∀ idempotencyKey left right, SoldUnder db idempotencyKey left →
    SoldUnder db idempotencyKey right → left = right
  offline : ∀ (deviceId offlineOrderId : Uuid), ∀ left ∈ db.orders, ∀ right ∈ db.orders,
    left.sourceDeviceId = some deviceId → left.offlineOrderId = some offlineOrderId →
    right.sourceDeviceId = some deviceId → right.offlineOrderId = some offlineOrderId →
    left = right

/-- Receipts and offline orders belong together. -/
structure Receipted (db : ServerDb Hash) : Prop where
  receipt : ∀ order ∈ db.orders, order.origin = .offlinePos →
    ∃ receipt ∈ db.receipts, receipt.orderId = order.id
  order : ∀ receipt ∈ db.receipts, ∃ order ∈ db.orders, order.id = receipt.orderId
    ∧ order.idempotencyKey = receipt.idempotencyKey

variable {platform : Platform Hash} {db db' : ServerDb Hash} {context : SharedSyncContext}
  {answers : ImportAnswers}

theorem Receipted.soldReceipt (hreceipted : Receipted db) {idempotencyKey : Uuid}
    {order : CanonicalOrder} (hsold : SoldUnder db idempotencyKey order) :
    ∃ receipt ∈ db.receipts, receipt.orderId = order.id
      ∧ receipt.idempotencyKey = idempotencyKey := by
  obtain ⟨horder, hkey, hsold⟩ := hsold
  have hlinked : ∃ receipt ∈ db.receipts, receipt.orderId = order.id := by
    rcases hsold with horigin | hlinked
    · exact hreceipted.receipt order horder horigin
    · exact hlinked
  obtain ⟨receipt, hreceipt, hid⟩ := hlinked
  obtain ⟨stored, hstored, hstoredId, hstoredKey⟩ := hreceipted.order receipt hreceipt
  have hsame : stored = order := Table.eq_of_key_eq hstored horder (hstoredId.trans hid)
  exact ⟨receipt, hreceipt, hid, by rw [← hstoredKey, hsame, hkey]⟩

theorem Receipted.atMostOnce (hreceipted : Receipted db) : AtMostOnce db where
  key idempotencyKey left right hleft hright := by
    obtain ⟨leftReceipt, hleftReceipt, hleftId, hleftKey⟩ := hreceipted.soldReceipt hleft
    obtain ⟨rightReceipt, hrightReceipt, hrightId, hrightKey⟩ := hreceipted.soldReceipt hright
    have hsame : leftReceipt = rightReceipt :=
      Table.eq_of_collides hleftReceipt hrightReceipt
        (by simp [Indexed.collides, hleftKey, hrightKey])
    exact Table.eq_of_key_eq hleft.1 hright.1
      (hleftId.symm.trans ((congrArg OrderSyncReceipt.orderId hsame).trans hrightId))
  offline deviceId offlineOrderId left hleft right hright hleftDevice hleftOrder hrightDevice
      hrightOrder :=
    Table.eq_of_collides hleft hright
      (by simp [Indexed.collides, sameOfflineOrder, hleftDevice, hleftOrder, hrightDevice,
        hrightOrder])

theorem receipted_initial (devices : DeviceDb) (stallProducts : List StallProduct)
    (paymentOptions printers : List StallResource) (cashShifts : Table CashShift) :
    Receipted (ServerDb.initial Hash devices stallProducts paymentOptions printers cashShifts)
    where
  receipt order horder := absurd horder (Table.notMem_empty order)
  order receipt hreceipt := absurd hreceipt (Table.notMem_empty receipt)

/-! ## Steps -/

theorem findOrphanedOrder_mem {deviceId offlineOrderId stallId idempotencyKey : Uuid}
    {order : CanonicalOrder}
    (hfound : findOrphanedOrder db deviceId offlineOrderId stallId idempotencyKey
      = some order) : order ∈ db.orders :=
  List.mem_of_find?_eq_some hfound

theorem Receipted.transactionEnd (hreceipted : Receipted db) {record : OfflineOrderSyncRecord}
    {order : OfflineOrder} {scope : RecordScope} {receipt : OfflineSyncReceipt}
    (hend : TransactionEnd platform db context answers record order scope db' receipt) :
    Receipted db' := by
  cases hend with
  | rejected message hmessage hstatus hsame houtcome => exact hsame ▸ hreceipted
  | duplicate stored hstored hsame houtcome horder => exact hsame ▸ hreceipted
  | reconciled existing hnoReceipt hexisting hmatches hreceipts hinbox hothers houtcome =>
      have horders : db'.orders = db.orders := by rw [hothers]
      constructor
      · intro stored hstored horigin
        rw [horders] at hstored
        obtain ⟨row, hrow, hid⟩ := hreceipted.receipt stored hstored horigin
        exact ⟨row, (Table.mem_of_insert? hreceipts).mpr (Or.inl hrow), hid⟩
      · intro row hrow
        rw [horders]
        rcases (Table.mem_of_insert? hreceipts).mp hrow with hold | rfl
        · exact hreceipted.order row hold
        · simp only [matchesExistingOrderReplay, Bool.and_eq_true, decide_eq_true_eq]
            at hmatches
          exact ⟨existing, findOrphanedOrder_mem hexisting, rfl, hmatches.1⟩
  | stored plan day hnoReceipt hstored =>
      constructor
      · intro row hrow horigin
        rcases (Table.mem_of_insert? hstored.orders).mp hrow with hold | rfl
        · obtain ⟨oldReceipt, hold, hid⟩ := hreceipted.receipt row hold horigin
          exact ⟨oldReceipt, (Table.mem_of_insert? hstored.receipts).mpr (Or.inl hold), hid⟩
        · exact ⟨_, (Table.mem_of_insert? hstored.receipts).mpr (Or.inr rfl), rfl⟩
      · intro row hrow
        rcases (Table.mem_of_insert? hstored.receipts).mp hrow with hold | rfl
        · obtain ⟨oldOrder, horder, hid, hkey⟩ := hreceipted.order row hold
          exact ⟨oldOrder, (Table.mem_of_insert? hstored.orders).mpr (Or.inl horder), hid, hkey⟩
        · exact ⟨_, (Table.mem_of_insert? hstored.orders).mpr (Or.inr rfl), rfl, rfl⟩

/-- Only orders and receipts matter. -/
theorem Receipted.same (hreceipted : Receipted db) (horders : db'.orders = db.orders)
    (hreceipts : db'.receipts = db.receipts) : Receipted db' := by
  constructor
  · rw [horders, hreceipts]
    exact hreceipted.receipt
  · rw [horders, hreceipts]
    exact hreceipted.order

theorem Receipted.takeOrder (hreceipted : Receipted db) (order : CanonicalOrder) :
    Receipted (takeOrder db order) := by
  unfold ExactlyOnce.takeOrder
  split
  · exact hreceipted
  · next horigin =>
    split
    · next orders hinsert =>
      constructor
      · intro stored hstored hstoredOrigin
        rcases (Table.mem_of_insert? hinsert).mp hstored with hold | rfl
        · exact hreceipted.receipt stored hold hstoredOrigin
        · exact absurd hstoredOrigin horigin
      · intro receipt hreceipt
        obtain ⟨stored, hstored, hid, hkey⟩ := hreceipted.order receipt hreceipt
        exact ⟨stored, (Table.mem_of_insert? hinsert).mpr (Or.inl hstored), hid, hkey⟩
    · exact hreceipted

section Runs

variable [DecidableEq Hash]

theorem Receipted.receiveRecord (hreceipted : Receipted db) {record : OfflineSyncRecord}
    {receipt : OfflineSyncReceipt}
    (hreceive : SyncService.receiveRecord platform db context answers record
      = some (db', receipt)) : Receipted db' := by
  rcases receiveRecord_cases hreceive with himport | ⟨error, code, -, hrefused⟩
  · cases record with
    | order record =>
        obtain ⟨order, scope, -, -, hend⟩ := importOfflineOrder_cases himport
        exact hreceipted.transactionEnd hend
    | cashEvent record =>
        obtain ⟨horders, -, hreceipts, -⟩ := importOfflineCashEvent_frame himport
        exact hreceipted.same horders hreceipts
  · exact hreceipted.same (by rw [hrefused.others]) (by rw [hrefused.others])

theorem Receipted.step (hreceipted : Receipted db) (command : ServerCommand Hash) :
    Receipted (serverStep platform db command) := by
  cases command with
  | upload context answers record =>
      simp only [serverStep]
      split
      · next hreceive => exact hreceipted.receiveRecord hreceive
      · exact hreceipted
  | otherOrder order => exact hreceipted.takeOrder order
  | administrate devices stallProducts paymentOptions printers cashShifts =>
      exact hreceipted.same rfl rfl

omit [DecidableEq Hash] in
theorem grows_takeOrder (order : CanonicalOrder) : Grows db (takeOrder db order) := by
  unfold takeOrder
  split
  · exact Grows.refl db
  · split
    · next hinsert =>
      exact ⟨fun stored hstored => (Table.mem_of_insert? hinsert).mpr (Or.inl hstored),
        fun _ hreceipt => hreceipt, fun _ hmessage => hmessage⟩
    · exact Grows.refl db

theorem grows_step (command : ServerCommand Hash) :
    Grows db (serverStep platform db command) := by
  cases command with
  | upload context answers record =>
      simp only [serverStep]
      split
      · next hreceive => exact grows_receiveRecord hreceive
      · exact Grows.refl db
  | otherOrder order => exact grows_takeOrder order
  | administrate devices stallProducts paymentOptions printers cashShifts =>
      exact ⟨fun _ horder => horder, fun _ hreceipt => hreceipt, fun _ hmessage => hmessage⟩

theorem grows_exec (commands : List (ServerCommand Hash)) :
    Grows db (exec (serverStep platform) db commands) :=
  invariant_exec (Grows db) (fun _ command hgrows => hgrows.trans (grows_step command))
    (Grows.refl db) commands

/-! ## Requests -/

theorem exec_of_receiveRecords (context : SharedSyncContext) (answers : ℕ → ImportAnswers)
    (index : ℕ) (records : List OfflineSyncRecord) (db : ServerDb Hash) :
    ∃ uploads, (receiveRecords platform context answers index records db).1
        = exec (serverStep platform) db uploads
      ∧ ∀ command ∈ uploads, ∃ answers, ∃ record ∈ records,
        command = .upload context answers record := by
  induction records generalizing index db with
  | nil => exact ⟨[], rfl, List.forall_mem_nil _⟩
  | cons record records ih =>
      rw [receiveRecords]
      cases hreceive : receiveRecord platform db context (answers index) record with
      | none => exact ⟨[], rfl, List.forall_mem_nil _⟩
      | some received =>
          obtain ⟨uploads, hexec, huploads⟩ := ih (index + 1) received.1
          refine ⟨.upload context (answers index) record :: uploads, ?_,
            List.forall_mem_cons.mpr ⟨⟨_, record, List.mem_cons_self, rfl⟩, ?_⟩⟩
          · rw [exec_cons, serverStep, hreceive]
            exact hexec
          · intro command hcommand
            obtain ⟨later, found, hfound, hsame⟩ := huploads command hcommand
            exact ⟨later, found, List.mem_cons_of_mem _ hfound, hsame⟩

/-- A request does what uploads of its records do, one after another. -/
theorem exec_of_importOfflineSyncBatch (db : ServerDb Hash) (request : SyncRequest)
    (now : Timestamp) (answers : ℕ → ImportAnswers) (respondedAt : Timestamp) :
    ∃ uploads, (importOfflineSyncBatch platform db request now answers respondedAt).1
        = exec (serverStep platform) db uploads
      ∧ ∀ command ∈ uploads, ∃ context answers, ∃ record ∈ request.records,
        command = .upload context answers record := by
  rw [importOfflineSyncBatch]
  cases resolveSharedSyncContext platform.codec db.devices request now with
  | error code => exact ⟨[], rfl, List.forall_mem_nil _⟩
  | ok context =>
      obtain ⟨uploads, hexec, huploads⟩ :=
        exec_of_receiveRecords context answers 0 request.records db
      exact ⟨uploads, hexec, fun command hcommand => ⟨context, huploads command hcommand⟩⟩

/-! ## Replays -/

/-- The upload sells nothing: orders, with their payments and print jobs, and
the counters of the stall stay as they are. -/
def SellsNothing (before after : ServerDb Hash) : Prop :=
  after.orders = before.orders ∧ after.counters = before.counters

omit [DecidableEq Hash] in
theorem Refused.sellsNothing {record : OfflineSyncRecord} {code : SyncErrorCode}
    {receipt : OfflineSyncReceipt}
    (hrefused : Refused platform db context record code db' receipt) : SellsNothing db db' := by
  rw [hrefused.others]
  exact ⟨rfl, rfl⟩

/-- The upload is about the sale of the receipt: it comes from the same device
under the same identifier, or under the same key. -/
def AboutSale (receipt : OrderSyncReceipt) (context : SharedSyncContext)
    (record : OfflineOrderSyncRecord) : Prop :=
  (receipt.deviceId = context.device.id
      ∧ receipt.offlineOrderId = record.order.offlineOrderId)
    ∨ receipt.idempotencyKey = record.order.idempotencyKey

omit [DecidableEq Hash] in
theorem findReceipt_of_aboutSale {receipt : OrderSyncReceipt} (hreceipt : receipt ∈ db.receipts)
    {record : OfflineOrderSyncRecord} (habout : AboutSale receipt context record)
    {order : OfflineOrder} (hhead : SameOrderHead record.order order) :
    findReceipt db context.device.id order.offlineOrderId order.idempotencyKey ≠ none := by
  intro hnone
  have hmissed := List.find?_eq_none.mp hnone receipt hreceipt
  simp only [Bool.or_eq_true, Bool.and_eq_true, decide_eq_true_eq, hhead.offlineOrderId,
    hhead.idempotencyKey] at hmissed
  exact hmissed habout

/-- A sale that has a receipt is not sold again. -/
theorem sellsNothing_of_receipt {receipt : OrderSyncReceipt} (hreceipt : receipt ∈ db.receipts)
    {record : OfflineOrderSyncRecord} (habout : AboutSale receipt context record) :
    SellsNothing db (serverStep platform db (.upload context answers (.order record))) := by
  simp only [serverStep]
  split
  · next hreceive =>
    rcases receiveRecord_cases hreceive with himport | ⟨error, code, -, hrefused⟩
    · obtain ⟨order, scope, hadmitted, -, hend⟩ := importOfflineOrder_cases himport
      have hfound := findReceipt_of_aboutSale hreceipt habout
        (sameOrderHead_of_parse hadmitted.parsed)
      cases hend with
      | rejected message hmessage hstatus hsame houtcome => exact hsame ▸ ⟨rfl, rfl⟩
      | duplicate stored hstored hsame houtcome horder => exact hsame ▸ ⟨rfl, rfl⟩
      | reconciled existing hnoReceipt => exact absurd hnoReceipt hfound
      | stored plan day hnoReceipt => exact absurd hnoReceipt hfound
    · exact Refused.sellsNothing hrefused
  · exact ⟨rfl, rfl⟩

/-- A key that was taken in or refused once sells nothing later. -/
theorem sellsNothing_of_message {message : InboxMessage Hash} (hmessage : message ∈ db.inbox)
    (hsource : message.source = .order)
    {record : OfflineOrderSyncRecord} (hkey : message.messageKey = record.order.idempotencyKey) :
    SellsNothing db (serverStep platform db (.upload context answers (.order record))) := by
  simp only [serverStep]
  split
  · next hreceive =>
    rcases receiveRecord_cases hreceive with himport | ⟨error, code, -, hrefused⟩
    · obtain ⟨order, scope, hadmitted, -, hend⟩ := importOfflineOrder_cases himport
      have hhead := sameOrderHead_of_parse hadmitted.parsed
      have hmessageKey : Indexed.key message = (SyncEntityType.order, order.idempotencyKey) :=
        Prod.ext hsource (hkey.trans hhead.idempotencyKey.symm)
      have hoccupied : ∀ {inbox : Table (InboxMessage Hash)},
          db.inbox.insert? (inboxRow platform context (.order record) order.idempotencyKey
            .order .processed none) ≠ some inbox := fun hinsert =>
        Table.not_collides_of_insert? hinsert hmessage (Indexed.collides_of_key_eq hmessageKey)
      cases hend with
      | rejected other hother hstatus hsame houtcome => exact hsame ▸ ⟨rfl, rfl⟩
      | duplicate stored hstored hsame houtcome horder => exact hsame ▸ ⟨rfl, rfl⟩
      | reconciled existing hnoReceipt hexisting hmatches hreceipts hinbox =>
          exact absurd hinbox hoccupied
      | stored plan day hnoReceipt hstored => exact absurd hstored.inbox hoccupied
    · exact Refused.sellsNothing hrefused
  · exact ⟨rfl, rfl⟩

/-! ## Whole runs -/

variable (platform)

/-- After every run each sale is stored at most once; a receipt, however much
later, keeps every upload about its sale from selling anything; and so does a
key that was refused. -/
theorem imported_at_most_once (devices : DeviceDb) (stallProducts : List StallProduct)
    (paymentOptions printers : List StallResource) (cashShifts : Table CashShift)
    (before middle : List (ServerCommand Hash)) (context : SharedSyncContext)
    (answers : ImportAnswers) (record : OfflineOrderSyncRecord) :
    let start := exec (serverStep platform)
      (.initial Hash devices stallProducts paymentOptions printers cashShifts) before
    let later := exec (serverStep platform) start middle
    let uploaded := serverStep platform later (.upload context answers (.order record))
    AtMostOnce start
      ∧ (∀ receipt ∈ start.receipts, AboutSale receipt context record →
        SellsNothing later uploaded)
      ∧ ∀ message ∈ start.inbox, message.source = .order → message.status = .rejected →
        message.messageKey = record.order.idempotencyKey → SellsNothing later uploaded := by
  intro start later uploaded
  have hreceipted : Receipted start :=
    invariant_exec Receipted (fun _ command hreceipted => hreceipted.step command)
      (receipted_initial devices stallProducts paymentOptions printers cashShifts) before
  have hgrows : Grows start later := grows_exec middle
  exact ⟨hreceipted.atMostOnce,
    fun receipt hreceipt habout =>
      sellsNothing_of_receipt (hgrows.receipts receipt hreceipt) habout,
    fun message hmessage hsource _ hkey =>
      sellsNothing_of_message (hgrows.inbox message hmessage) hsource hkey⟩

end Runs

/-! ## Two devices with one order identifier -/

/-- The sample device uploads its order. -/
def firstUpload : ServerCommand OfflineSyncRecord :=
  .upload (sampleSyncContext 3 (2 * minuteMs)) (sampleAnswers 300 (2 * minuteMs))
    (.order sampleRecord)

/-- The record uploaded again sells nothing. -/
theorem repeated_upload_sells_nothing :
    let start := exec (serverStep samplePlatform) sampleServer [firstUpload]
    SellsNothing start (serverStep samplePlatform start firstUpload) := by
  have honce := imported_at_most_once samplePlatform sampleDevices [sampleProduct]
    [{ id := 11, organizationId := 1, stallId := 2, isEnabled := true }] []
    ⟨[sampleCashShift], List.pairwise_singleton _ _⟩ [firstUpload] []
    (sampleSyncContext 3 (2 * minuteMs)) (sampleAnswers 300 (2 * minuteMs)) sampleRecord
  have hreceipt : ∃ receipt ∈ (exec (serverStep samplePlatform) sampleServer
      [firstUpload]).receipts.rows, receipt.deviceId = 3 ∧ receipt.offlineOrderId = 100 := by
    decide +kernel
  obtain ⟨receipt, hmem, hdevice, horder⟩ := hreceipt
  exact honce.2.1 receipt hmem (Or.inl ⟨hdevice, horder⟩)

/-- Another device of the stall that drew the same order identifier. -/
def otherDeviceRecord : OfflineOrderSyncRecord :=
  { sampleRecord with
    order := { sampleRecord.order with deviceId := 30, idempotencyKey := 201 }
    printJobs := [] }

/-- It sells, although a receipt exists for the identifier. -/
theorem other_device_sells_same_identifier :
    ∃ start : ServerDb OfflineSyncRecord,
      start = exec (serverStep samplePlatform) sampleServer [firstUpload]
      ∧ (∃ receipt ∈ start.receipts,
        receipt.offlineOrderId = otherDeviceRecord.order.offlineOrderId)
      ∧ ¬ SellsNothing start (serverStep samplePlatform start
        (.upload (sampleSyncContext 30 (2 * minuteMs)) (sampleAnswers 310 (2 * minuteMs))
          (.order otherDeviceRecord))) := by
  refine ⟨_, rfl, ?_, fun hnothing => ?_⟩
  · show ∃ receipt ∈ (exec (serverStep samplePlatform) sampleServer [firstUpload]).receipts.rows,
      receipt.offlineOrderId = otherDeviceRecord.order.offlineOrderId
    decide +kernel
  · have hcount : (serverStep samplePlatform
        (exec (serverStep samplePlatform) sampleServer [firstUpload])
        (.upload (sampleSyncContext 30 (2 * minuteMs)) (sampleAnswers 310 (2 * minuteMs))
          (.order otherDeviceRecord))).orders.rows.length
        ≠ (exec (serverStep samplePlatform) sampleServer [firstUpload]).orders.rows.length := by
      decide +kernel
    exact hcount (congrArg (fun orders => orders.rows.length) hnothing.1)

end Stallorder.ExactlyOnce
