import Stallorder.Offline.LocalRun
import Stallorder.Server.SyncService

/-!
# What an import did

The ends of an import, with what each of them read and wrote, and what no
upload ever undoes: orders, receipts and inbox messages stay as they are once
they are stored.
-/

namespace Stallorder.ImportOutcome

open OrderContract DeviceDatabase SyncDatabase SyncReplay OrderImport SyncService Checks

variable {Hash : Type} {platform : Platform Hash} {db db' : ServerDb Hash}
  {context : SharedSyncContext} {answers : ImportAnswers}
  {record : OfflineOrderSyncRecord} {order : OfflineOrder} {scope : RecordScope}
  {receipt : OfflineSyncReceipt}

/-! ## Admission -/

/-- What a record has passed when its transaction begins. -/
structure Admitted (context : SharedSyncContext) (record : OfflineOrderSyncRecord)
    (now : Timestamp) (order : OfflineOrder) (scope : RecordScope) : Prop where
  parsed : offlineOrderSchema.parse record.order = some order
  inScope : assertRecordScope context now (orderScopeInput order) = .ok scope
  menuAndChain : checkMenuAndChain context order record = .ok ()
  eventWindow : checkEventWindow context scope record.events = .ok ()
  notRevoked : checkRevocation context scope = .ok ()

theorem admitted_iff {now : Timestamp} :
    admitRecord context record now = .ok (order, scope) ↔
      Admitted context record now order scope := by
  constructor
  · intro hadmit
    obtain ⟨parsed, hparsed, hadmit⟩ := bind_eq_ok.mp hadmit
    obtain ⟨inScope, hscope, hadmit⟩ := bind_eq_ok.mp hadmit
    obtain ⟨_, hmenu, hadmit⟩ := bind_eq_ok.mp hadmit
    obtain ⟨_, hevents, hadmit⟩ := bind_eq_ok.mp hadmit
    obtain ⟨_, hrevoked, hreturn⟩ := bind_eq_ok.mp hadmit
    cases hreturn
    exact ⟨orFail_eq_ok.mp hparsed, hscope, hmenu, hevents, hrevoked⟩
  · intro hadmitted
    simp only [admitRecord, hadmitted.parsed, orFail_some, bind_ok, hadmitted.inScope,
      hadmitted.menuAndChain, hadmitted.eventWindow, hadmitted.notRevoked]
    rfl

/-- Parsing an order trims texts; its identity and its bookkeeping stay. -/
structure SameOrderHead (order parsed : OfflineOrder) : Prop where
  offlineOrderId : parsed.offlineOrderId = order.offlineOrderId
  idempotencyKey : parsed.idempotencyKey = order.idempotencyKey
  orderStatus : parsed.orderStatus = order.orderStatus
  total : parsed.total = order.total

theorem sameOrderHead_of_parse {order parsed : OfflineOrder}
    (hparse : offlineOrderSchema.parse order = some parsed) : SameOrderHead order parsed := by
  rw [← (offlineOrderSchema.parse_eq_some_iff.mp hparse).2]
  exact ⟨rfl, rfl, rfl, rfl⟩

/-! ## The ends of an import -/

/-- An order is stored with its number, its receipt and its inbox message. -/
structure StoredImport (platform : Platform Hash) (db : ServerDb Hash)
    (context : SharedSyncContext) (answers : ImportAnswers) (record : OfflineOrderSyncRecord)
    (order : OfflineOrder) (scope : RecordScope) (plan : ImportPlan) (day : BusinessDate)
    (db' : ServerDb Hash) (receipt : OfflineSyncReceipt) : Prop where
  planned : planImport db context answers record order scope = .ok plan
  dated : platform.stallBusinessDate context.stallId scope.occurredAt = some day
  orders : db.orders.insert? (canonicalOrder platform context answers record order scope plan
    (drawOrderNumber db context.stallId day).2) = some db'.orders
  receipts : db.receipts.insert? (receiptRow context answers order answers.orderId
    (drawOrderNumber db context.stallId day).2 (acceptedOutcome plan.conflicts))
      = some db'.receipts
  inbox : db.inbox.insert? (inboxRow platform context (.order record) order.idempotencyKey
    .order .processed none) = some db'.inbox
  others : db' = { db with
    counters := (drawOrderNumber db context.stallId day).1
    orders := db'.orders
    receipts := db'.receipts
    conflicts := db'.conflicts
    inbox := db'.inbox }
  outcome : receipt.outcome = acceptedOutcome plan.conflicts
  canonicalOrderId : receipt.canonicalOrderId = some answers.orderId

/-- How the transaction of an admitted record ends. -/
inductive TransactionEnd (platform : Platform Hash) (db : ServerDb Hash)
    (context : SharedSyncContext) (answers : ImportAnswers) (record : OfflineOrderSyncRecord)
    (order : OfflineOrder) (scope : RecordScope) (db' : ServerDb Hash)
    (receipt : OfflineSyncReceipt) : Prop
  | rejected (message : InboxMessage Hash)
      (hmessage : db.inbox.get? (.order, order.idempotencyKey) = some message)
      (hstatus : message.status = .rejected) (hsame : db' = db)
      (houtcome : receipt.outcome = .rejected)
  | duplicate (stored : OrderSyncReceipt)
      (hstored : findReceipt db context.device.id order.offlineOrderId order.idempotencyKey
        = some stored)
      (hsame : db' = db) (houtcome : receipt.outcome = .duplicate)
      (horder : receipt.canonicalOrderId = some stored.orderId)
  | reconciled (existing : CanonicalOrder)
      (hnoReceipt : findReceipt db context.device.id order.offlineOrderId order.idempotencyKey
        = none)
      (hexisting : findOrphanedOrder db context.device.id order.offlineOrderId context.stallId
        order.idempotencyKey = some existing)
      (hmatches : matchesExistingOrderReplay platform context order existing = true)
      (hreceipts : db.receipts.insert? (receiptRow context answers order existing.id
        existing.orderNo .duplicate) = some db'.receipts)
      (hinbox : db.inbox.insert? (inboxRow platform context (.order record)
        order.idempotencyKey .order .processed none) = some db'.inbox)
      (hothers : db' = { db with receipts := db'.receipts, inbox := db'.inbox })
      (houtcome : receipt.outcome = .duplicate)
  | stored (plan : ImportPlan) (day : BusinessDate)
      (hnoReceipt : findReceipt db context.device.id order.offlineOrderId order.idempotencyKey
        = none)
      (hstored : StoredImport platform db context answers record order scope plan day db'
        receipt)

theorem rejected_of_rejectedInboxReplayErrorCode {message : Option (InboxMessage Hash)}
    {code : SyncErrorCode} (hcode : message.bind rejectedInboxReplayErrorCode = some code) :
    ∃ stored, message = some stored ∧ stored.status = .rejected := by
  obtain ⟨stored, hstored, hcode⟩ := Option.bind_eq_some_iff.mp hcode
  unfold rejectedInboxReplayErrorCode at hcode
  split at hcode
  · next hstatus => exact ⟨stored, hstored, hstatus⟩
  · cases hcode

theorem storedImport_of_importFresh
    (himport : importFresh platform db context answers record order scope = .ok (db', receipt)) :
    ∃ plan day, StoredImport platform db context answers record order scope plan day db'
      receipt := by
  obtain ⟨plan, hplan, himport⟩ := bind_eq_ok.mp himport
  obtain ⟨day, hday, hstore⟩ := bind_eq_ok.mp himport
  have hstore := orFail_eq_ok.mp hstore
  refine ⟨plan, day, ?_⟩
  simp only [storeImport, Option.bind_eq_bind, Option.bind_eq_some_iff] at hstore
  obtain ⟨orders, horders, receipts, hreceipts, ⟨conflicts, created⟩, -, inbox, hinbox,
    hreturn⟩ := hstore
  cases hreturn
  simp only [insertOrder?, Option.bind_eq_bind, Option.bind_eq_some_iff] at horders
  obtain ⟨_, -, horders⟩ := horders
  exact ⟨hplan, orFail_eq_ok.mp hday, horders, hreceipts, hinbox, rfl, rfl, rfl⟩

/-! ## Refusals -/

/-- A refused record touches the conflicts and the inbox only. -/
structure Refused (platform : Platform Hash) (db : ServerDb Hash) (context : SharedSyncContext)
    (record : OfflineSyncRecord) (code : SyncErrorCode) (db' : ServerDb Hash)
    (receipt : OfflineSyncReceipt) : Prop where
  inbox : rememberRejection platform context record code db.inbox = some db'.inbox
  others : db' = { db with conflicts := db'.conflicts, inbox := db'.inbox }
  outcome : receipt.outcome = .rejected
  queueId : receipt.queueId = record.queueId

theorem refused_of_rejectRecordWithConflict {record : OfflineSyncRecord}
    {type : OfflineSyncConflictType} {code : SyncErrorCode}
    (hreject : rejectRecordWithConflict platform db context answers record type code
      = some (db', receipt)) :
    Refused platform db context record code db' receipt := by
  simp only [rejectRecordWithConflict, Option.bind_eq_bind, Option.bind_eq_some_iff] at hreject
  obtain ⟨⟨conflicts, conflict⟩, -, inbox, hinbox, hreturn⟩ := hreject
  cases hreturn
  exact ⟨hinbox, rfl, rfl, rfl⟩

/-! ## What stays -/

/-- Orders, receipts and inbox messages are only ever added. -/
structure Grows (before after : ServerDb Hash) : Prop where
  orders : ∀ order ∈ before.orders, order ∈ after.orders
  receipts : ∀ receipt ∈ before.receipts, receipt ∈ after.receipts
  inbox : ∀ message ∈ before.inbox, message ∈ after.inbox

theorem Grows.refl (db : ServerDb Hash) : Grows db db where
  orders _ horder := horder
  receipts _ hreceipt := hreceipt
  inbox _ hmessage := hmessage

theorem Grows.trans {first second third : ServerDb Hash} (hfirst : Grows first second)
    (hsecond : Grows second third) : Grows first third where
  orders order horder := hsecond.orders order (hfirst.orders order horder)
  receipts receipt hreceipt := hsecond.receipts receipt (hfirst.receipts receipt hreceipt)
  inbox message hmessage := hsecond.inbox message (hfirst.inbox message hmessage)

theorem TransactionEnd.grows
    (hend : TransactionEnd platform db context answers record order scope db' receipt) :
    Grows db db' := by
  cases hend with
  | rejected message hmessage hstatus hsame houtcome => exact hsame ▸ Grows.refl db
  | duplicate stored hstored hsame houtcome horder => exact hsame ▸ Grows.refl db
  | reconciled existing hnoReceipt hexisting hmatches hreceipts hinbox hothers houtcome =>
      refine ⟨fun stored hstored => ?_,
        fun stored hstored => (Table.mem_of_insert? hreceipts).mpr (Or.inl hstored),
        fun stored hstored => (Table.mem_of_insert? hinbox).mpr (Or.inl hstored)⟩
      rw [hothers]
      exact hstored
  | stored plan day hnoReceipt hstored =>
      exact ⟨fun order horder => (Table.mem_of_insert? hstored.orders).mpr (Or.inl horder),
        fun row hrow => (Table.mem_of_insert? hstored.receipts).mpr (Or.inl hrow),
        fun message hmessage => (Table.mem_of_insert? hstored.inbox).mpr (Or.inl hmessage)⟩

theorem mem_of_rememberRejection {record : OfflineSyncRecord} {code : SyncErrorCode}
    {inbox inbox' : Table (InboxMessage Hash)}
    (hremember : rememberRejection platform context record code inbox = some inbox')
    {message : InboxMessage Hash} (hmessage : message ∈ inbox) : message ∈ inbox' := by
  unfold rememberRejection at hremember
  split at hremember
  · cases hremember
    exact hmessage
  · exact (Table.mem_of_insert? hremember).mpr (Or.inl hmessage)

theorem Refused.grows {record : OfflineSyncRecord} {code : SyncErrorCode}
    (hrefused : Refused platform db context record code db' receipt) : Grows db db' where
  orders order horder := by
    rw [hrefused.others]
    exact horder
  receipts row hrow := by
    rw [hrefused.others]
    exact hrow
  inbox message hmessage := mem_of_rememberRejection hrefused.inbox hmessage

theorem recordMovement_frame {event : OfflineCashEvent}
    {shift : CashShift} {type : CashMovementType} {conflicts : List OfflineSyncConflictType}
    (hrecord : recordMovement db context answers event scope shift type
      = some (db', conflicts)) :
    ∃ cashMovements, db' = { db with cashMovements } := by
  unfold recordMovement at hrecord
  split at hrecord
  · cases hrecord
    exact ⟨db.cashMovements, rfl⟩
  · obtain ⟨cashMovements, -, hreturn⟩ := Option.bind_eq_some_iff.mp hrecord
    cases hreturn
    exact ⟨cashMovements, rfl⟩

/-- A cash event touches the drawer and its movements only. -/
theorem applyCashEvent_frame {event : OfflineCashEvent}
    {shift : CashShift} {conflicts : List OfflineSyncConflictType}
    (happly : applyCashEvent db context answers event scope shift = some (db', conflicts)) :
    ∃ cashShifts cashMovements, db' = { db with cashShifts, cashMovements } := by
  unfold applyCashEvent at happly
  split at happly
  · obtain ⟨cashMovements, hdb⟩ := recordMovement_frame happly
    exact ⟨db.cashShifts, cashMovements, hdb⟩
  · obtain ⟨cashMovements, hdb⟩ := recordMovement_frame happly
    exact ⟨db.cashShifts, cashMovements, hdb⟩
  · cases happly
    exact ⟨_, db.cashMovements, rfl⟩

/-! ## Reading the ends off an import -/

variable [DecidableEq Hash]

/-- The message under the key of a record, once the digests agree. -/
theorem inbox_of_readInbox {message : Option (InboxMessage Hash)}
    (hread : readInbox platform db record order = .ok message) :
    message = db.inbox.get? (.order, order.idempotencyKey)
      ∧ ∀ stored, message = some stored →
        stored.payloadHash = platform.payloadHash (.order record) := by
  obtain ⟨_, hhash, hreturn⟩ := bind_eq_ok.mp hread
  cases hreturn
  refine ⟨rfl, fun stored hstored => ?_⟩
  have hany := failWhen_eq_ok.mp hhash
  rw [hstored] at hany
  simpa using hany

theorem transactionEnd_of_importTransaction
    (himport : importTransaction platform db context answers record order scope
      = .ok (db', receipt)) :
    (∀ stored, db.inbox.get? (.order, order.idempotencyKey) = some stored →
        stored.payloadHash = platform.payloadHash (.order record))
      ∧ TransactionEnd platform db context answers record order scope db' receipt := by
  obtain ⟨replay, hreplay, himport⟩ := bind_eq_ok.mp himport
  obtain ⟨message, hread, hreplay⟩ := bind_eq_ok.mp hreplay
  obtain ⟨hmessage, hhash⟩ := inbox_of_readInbox hread
  refine ⟨fun stored hstored => hhash stored (hmessage.trans hstored), ?_⟩
  split at hreplay
  · next code hcode =>
    cases hreplay
    cases himport
    obtain ⟨stored, hstored, hstatus⟩ := rejected_of_rejectedInboxReplayErrorCode hcode
    exact .rejected stored (hmessage.symm.trans hstored) hstatus rfl rfl
  · split at hreplay
    · next stored hstored =>
      obtain ⟨_, -, hreplay⟩ := bind_eq_ok.mp hreplay
      obtain ⟨_, -, hreturn⟩ := bind_eq_ok.mp hreplay
      cases hreturn
      cases himport
      exact .duplicate stored hstored rfl rfl rfl
    · next hnoReceipt =>
      split at hreplay
      · next existing hexisting =>
        obtain ⟨_, hmatches, hreturn⟩ := bind_eq_ok.mp hreplay
        cases hreturn
        have hmatches := failWhen_eq_ok.mp hmatches
        rw [Bool.not_eq_false'] at hmatches
        have hreconcile := orFail_eq_ok.mp himport
        simp only [reconcileOrphaned, Option.bind_eq_bind, Option.bind_eq_some_iff]
          at hreconcile
        obtain ⟨receipts, hreceipts, inbox, hinbox, hreturn⟩ := hreconcile
        cases hreturn
        exact .reconciled existing hnoReceipt hexisting hmatches hreceipts hinbox rfl rfl
      · cases hreplay
        obtain ⟨plan, day, hstored⟩ := storedImport_of_importFresh himport
        exact .stored plan day hnoReceipt hstored

/-- An import that returns a receipt has admitted the record, found no other
payload under its key, and ended in one of four ways. -/
theorem importOfflineOrder_cases
    (himport : importOfflineOrder platform db context answers record = .ok (db', receipt)) :
    ∃ order scope, Admitted context record answers.scopeAt order scope
      ∧ (∀ stored, db.inbox.get? (.order, order.idempotencyKey) = some stored →
        stored.payloadHash = platform.payloadHash (.order record))
      ∧ TransactionEnd platform db context answers record order scope db' receipt := by
  obtain ⟨⟨order, scope⟩, hadmit, himport⟩ := bind_eq_ok.mp himport
  exact ⟨order, scope, admitted_iff.mp hadmit, transactionEnd_of_importTransaction himport⟩

/-- A received record was imported, or refused after an error of the import. -/
theorem receiveRecord_cases {record : OfflineSyncRecord}
    (hreceive : receiveRecord platform db context answers record = some (db', receipt)) :
    importRecord platform db context answers record = .ok (db', receipt)
      ∨ ∃ error code, importRecord platform db context answers record = .error error
        ∧ Refused platform db context record code db' receipt := by
  unfold receiveRecord at hreceive
  split at hreceive
  · next imported himport =>
    cases hreceive
    exact Or.inl himport
  · next type code himport =>
    exact Or.inr ⟨_, code, himport, refused_of_rejectRecordWithConflict hreceive⟩
  · next code himport =>
    exact Or.inr ⟨_, code, himport, refused_of_rejectRecordWithConflict hreceive⟩
  · cases hreceive

/-- An imported cash event leaves orders, counters and receipts alone and adds
to the inbox at most its own message. -/
theorem importOfflineCashEvent_frame {record : OfflineCashSyncRecord}
    (himport : importOfflineCashEvent platform db context answers record = .ok (db', receipt)) :
    db'.orders = db.orders ∧ db'.counters = db.counters ∧ db'.receipts = db.receipts
      ∧ (∀ message ∈ db.inbox, message ∈ db'.inbox)
      ∧ (∀ message ∈ db'.inbox, message ∈ db.inbox ∨ message.source = .cashEvent)
      ∧ receipt.queueId = record.queueId := by
  obtain ⟨⟨event, scope⟩, -, himport⟩ := bind_eq_ok.mp himport
  simp only at himport
  split at himport
  · obtain ⟨_, -, hreturn⟩ := bind_eq_ok.mp himport
    cases hreturn
    exact ⟨rfl, rfl, rfl, fun _ hmessage => hmessage, fun _ => Or.inl, rfl⟩
  · obtain ⟨shift, -, himport⟩ := bind_eq_ok.mp himport
    obtain ⟨_, -, himport⟩ := bind_eq_ok.mp himport
    have hstore := orFail_eq_ok.mp himport
    simp only [storeCashEvent, Option.bind_eq_bind, Option.bind_eq_some_iff] at hstore
    obtain ⟨⟨applied, types⟩, happly, ⟨conflicts, created⟩, -, inbox, hinbox, hreturn⟩ := hstore
    obtain ⟨cashShifts, cashMovements, happlied⟩ := applyCashEvent_frame happly
    subst happlied
    cases hreturn
    refine ⟨rfl, rfl, rfl, fun message hmessage =>
      (Table.mem_of_insert? hinbox).mpr (Or.inl hmessage), fun message hmessage => ?_, rfl⟩
    rcases (Table.mem_of_insert? hinbox).mp hmessage with hold | rfl
    · exact Or.inl hold
    · exact Or.inr rfl

/-- Whatever is uploaded, nothing that is stored is lost. -/
theorem grows_receiveRecord {record : OfflineSyncRecord}
    (hreceive : receiveRecord platform db context answers record = some (db', receipt)) :
    Grows db db' := by
  rcases receiveRecord_cases hreceive with himport | ⟨error, code, -, hrefused⟩
  · cases record with
    | order record =>
        obtain ⟨order, scope, -, -, hend⟩ := importOfflineOrder_cases himport
        exact hend.grows
    | cashEvent record =>
        obtain ⟨horders, -, hreceipts, hinbox, -, -⟩ := importOfflineCashEvent_frame himport
        exact ⟨fun order horder => horders ▸ horder, fun row hrow => hreceipts ▸ hrow, hinbox⟩
  · exact hrefused.grows

/-! ## A server with one stall

The stall of the sample device, with its one product on the menu and an open
drawer.  Payloads are their own digests.
-/

open DeviceService LocalRun

def sampleCodec : TokenCodec where
  signatureFor := fun _ => 0
  hashToken := fun token => token.payload.permitId

def samplePlatform : Platform OfflineSyncRecord where
  codec := sampleCodec
  payloadHash := id
  hashText := fun _ => 0
  stallBusinessDate := fun _ _ => some 20260101

def sampleSnapshot : MenuSnapshot where
  id := 500
  organizationId := 1
  stallId := 2
  version := 1
  contentHash := 0
  catalog := sampleCatalog
  currency := ['T', 'W', 'D']
  generatedAt := 0
  expiresAt := 12 * 60 * minuteMs

def sampleDevices : DeviceDb :=
  { DeviceDb.empty [{ isCurrent := true, backendRole := .activeWriter, writesEnabled := true,
                      promotionEpoch := 1 }] with
    menuSnapshots := ⟨[sampleSnapshot], List.pairwise_singleton _ _⟩ }

def sampleProduct : StallProduct where
  organizationId := 1
  stallId := 2
  productId := 10
  priceOverride := none
  isEnabled := true
  availableFrom := none
  availableUntil := none
  productIsActive := true
  defaultPrice := 60
  categoryIsActive := true
  activeOptions := []

def sampleCashShift : CashShift where
  id := 5
  organizationId := 1
  stallId := 2
  status := .open
  openingAmount := 0
  systemExpectedAmount := none
  countedAmount := none
  varianceAmount := none
  note := none
  closedById := none
  closedAt := none

/-- The server before anything was uploaded. -/
def sampleServer : ServerDb OfflineSyncRecord :=
  .initial OfflineSyncRecord sampleDevices [sampleProduct]
    [{ id := 11, organizationId := 1, stallId := 2, isEnabled := true }] []
    ⟨[sampleCashShift], List.pairwise_singleton _ _⟩

/-- The context of a device of the stall that uploads at `now`. -/
def sampleSyncContext (deviceId : Uuid) (now : Timestamp) : SharedSyncContext where
  organizationId := 1
  stallId := 2
  actor := { profileId := 4, roles := [.staff] }
  clientSentAt := now
  permit := { samplePermit 7 0 with deviceId := deviceId }
  permitRecord := { status := .active, issuedAt := 0, expiresAt := 60 * minuteMs,
                    revokedAt := none }
  device := { id := deviceId, status := .active, revokedAt := none }
  promotionEpoch := 1

/-- Identifiers counted up from a first one, and a clock that stands still. -/
def sampleAnswers (first : Uuid) (now : Timestamp) : ImportAnswers where
  serverReceivedAt := now
  scopeAt := now
  ordersAvailable := true
  printerEntitled := true
  orderId := first
  receiptId := first + 1
  conflictIds := fun _ => first + 2

example : ((importOfflineOrder samplePlatform sampleServer (sampleSyncContext 3 (2 * minuteMs))
    (sampleAnswers 300 (2 * minuteMs)) sampleRecord).map fun result => result.2.outcome).toOption
      = some .accepted := by decide +kernel

end Stallorder.ImportOutcome
