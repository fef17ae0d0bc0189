import Stallorder.Core.EventLog
import Stallorder.Offline.LocalRun
import Stallorder.Server.SyncReplay

/-!
# Histories that are uploaded

The device records the creation of an order and every transition as events.
The upload reads them in the order of their identifiers and sorts them by
their device time, and the server asks for an unbroken chain of events.  The
states of an order never repeat, so only the order in which the events were
recorded is such a chain.
-/

namespace Stallorder.EventChains

open OrderContract LocalDatabase Operations SyncQueue Checks EventLog SyncReplay

/-! ## The schema of an uploaded order -/

def offlineOrderSyncRecordSchema : Schema OfflineOrderSyncRecord where
  normalize record := { record with
    order := offlineOrderSchema.normalize record.order
    events := record.events.map offlineOrderEventSchema.normalize
    payment := record.payment.map offlinePaymentSchema.normalize
    printJobs := record.printJobs.map offlinePrintJobSchema.normalize }
  accepts record :=
    offlineOrderSchema.accepts record.order
      && 1 ≤ record.events.length && record.events.length ≤ 20
      && record.events.all offlineOrderEventSchema.accepts
      && record.payment.all offlinePaymentSchema.accepts
      && record.printJobs.length ≤ 10
      && record.printJobs.all offlinePrintJobSchema.accepts
      && record.events.all (·.offlineOrderId = record.order.offlineOrderId)
      && record.payment.all (·.offlineOrderId = record.order.offlineOrderId)
      && record.printJobs.all (·.offlineOrderId = record.order.offlineOrderId)
      && record.payment.isNone = (record.order.paymentStatus = .unpaid)
  normalize_normalize record := by
    simp [offlineOrderSchema.normalize_normalize, offlineOrderEventSchema.normalize_normalize,
      offlinePaymentSchema.normalize_normalize, offlinePrintJobSchema.normalize_normalize,
      Option.map_map, Function.comp_def]

/-- The record passes the schema, and its events are an unbroken chain. -/
def Accepted (record : OfflineOrderSyncRecord) : Prop :=
  ∃ parsed, offlineOrderSyncRecordSchema.parse record = some parsed
    ∧ validateOfflineEventChain parsed = true

/-! ## Legal histories -/

/-- How far an order has come; a transition always moves it on. -/
def progress : OfflineOrderState → ℕ
  | .localNew => 0
  | .localConfirmed => 1
  | .localPreparing => 2
  | .localReady => 3
  | .localCompleted | .localCancelled => 4

theorem progress_le (state : OfflineOrderState) : progress state ≤ 4 := by
  cases state <;> decide

theorem progress_lt_of_transition {current next : OfflineOrderState}
    (htransition : canTransitionOfflineOrder current next = true) :
    progress current < progress next := by
  revert htransition
  cases current <;> cases next <;> decide

/-- An event that creates an order or moves it by one transition. -/
def Legal (event : OfflineOrderEvent) : Prop :=
  match event.previousState with
  | none => initialOfflineState event.nextState = true
  | some state => canTransitionOfflineOrder state event.nextState = true

section Histories

variable {current : Option OfflineOrderState} {state : OfflineOrderState}
  {history : List OfflineOrderEvent}

abbrev IsHistory : Option OfflineOrderState → List OfflineOrderEvent → Prop :=
  IsChain (·.previousState) (·.nextState)

abbrev lastState : Option OfflineOrderState → List OfflineOrderEvent → Option OfflineOrderState :=
  chainTarget (·.nextState)

/-- What the rest of a history says about its states. -/
structure Advances (state : OfflineOrderState) (history : List OfflineOrderEvent) : Prop where
  from_later : ∀ event ∈ history, ∃ other, event.previousState = some other
    ∧ progress state ≤ progress other
  nodup : (history.map (·.previousState)).Nodup
  length : history.length + progress state ≤ 4

theorem advances_of_isHistory (hchain : IsHistory (some state) history)
    (hlegal : ∀ event ∈ history, Legal event) : Advances state history := by
  induction history generalizing state with
  | nil => exact ⟨nofun, List.nodup_nil, by simpa using progress_le state⟩
  | cons event rest ih =>
      obtain ⟨hsource, hrest⟩ := hchain
      have hmove := hlegal event List.mem_cons_self
      simp only [Legal, hsource] at hmove
      have hprogress := progress_lt_of_transition hmove
      have hadvances := ih hrest fun other hother => hlegal other (List.mem_cons_of_mem _ hother)
      refine ⟨fun other hother => ?_, ?_, ?_⟩
      · rcases List.mem_cons.mp hother with rfl | hother
        · exact ⟨state, hsource, le_rfl⟩
        · obtain ⟨later, hlater, hle⟩ := hadvances.from_later other hother
          exact ⟨later, hlater, hprogress.le.trans hle⟩
      · refine List.nodup_cons.mpr ⟨fun hmem => ?_, hadvances.nodup⟩
        obtain ⟨other, hother, hsame⟩ := List.mem_map.mp hmem
        obtain ⟨later, hlater, hle⟩ := hadvances.from_later other hother
        have heq : later = state :=
          Option.some.inj (hlater.symm.trans (hsame.trans hsource))
        rw [heq] at hle
        exact absurd hprogress (not_lt.mpr hle)
      · have hlength : rest.length + progress event.nextState ≤ 4 := hadvances.length
        rw [List.length_cons]
        omega

/-- The states of a whole history are left at most once, and there are at most five. -/
theorem nodup_and_length_of_isHistory (hchain : IsHistory none history)
    (hlegal : ∀ event ∈ history, Legal event) :
    (history.map (·.previousState)).Nodup ∧ history.length ≤ 5 := by
  cases history with
  | nil => exact ⟨List.nodup_nil, Nat.zero_le _⟩
  | cons event rest =>
      obtain ⟨hsource, hrest⟩ := hchain
      have hadvances := advances_of_isHistory hrest fun other hother =>
        hlegal other (List.mem_cons_of_mem _ hother)
      refine ⟨List.nodup_cons.mpr ⟨fun hmem => ?_, hadvances.nodup⟩, ?_⟩
      · obtain ⟨other, hother, hsame⟩ := List.mem_map.mp hmem
        obtain ⟨later, hlater, -⟩ := hadvances.from_later other hother
        rw [hlater, hsource] at hsame
        cases hsame
      · have hlength := hadvances.length
        rw [List.length_cons]
        omega

/-- Events in the order of their times that form a history pass the check of the server. -/
theorem chainEnd_of_isHistory {previousTime : Option Timestamp} (hchain : IsHistory current history)
    (hlegal : ∀ event ∈ history, Legal event)
    (htimes : history.Pairwise fun left right => left.occurredAtDevice ≤ right.occurredAtDevice)
    (hstart : ∀ time ∈ previousTime, ∀ event ∈ history, time ≤ event.occurredAtDevice) :
    chainEnd current previousTime history = some (lastState current history) := by
  induction history generalizing current previousTime with
  | nil => rfl
  | cons event rest ih =>
      obtain ⟨hsource, hrest⟩ := hchain
      obtain ⟨hfirst, htimes⟩ := List.pairwise_cons.mp htimes
      have hmove := hlegal event List.mem_cons_self
      have htime : previousTime.all (· ≤ event.occurredAtDevice) = true := by
        cases previousTime with
        | none => rfl
        | some time => exact decide_eq_true (hstart time rfl event List.mem_cons_self)
      have hcontinues : continuesChain current previousTime event = true := by
        simp only [Legal, hsource] at hmove
        simp only [continuesChain, hsource, htime, decide_true, Bool.true_and]
        cases current with
        | none => exact hmove
        | some state => simp [hmove]
      rw [chainEnd, if_pos hcontinues, lastState, chainTarget_cons]
      refine ih hrest (fun other hother => hlegal other (List.mem_cons_of_mem _ hother)) htimes ?_
      rintro time ⟨⟩ other hother
      exact hfirst other hother

theorem isHistory_of_chainEnd {previousTime : Option Timestamp} {last : Option OfflineOrderState}
    (hend : chainEnd current previousTime history = some last) : IsHistory current history := by
  induction history generalizing current previousTime with
  | nil => trivial
  | cons event rest ih =>
      rw [chainEnd] at hend
      split at hend
      · next hcontinues =>
        simp only [continuesChain, Bool.and_eq_true, decide_eq_true_eq] at hcontinues
        exact ⟨hcontinues.1.1, ih hend⟩
      · cases hend

end Histories

/-! ## What the stores know about an order -/

/-- The records of one order, with the events in the order in which they were added. -/
structure Recorded (db : LocalDb) (orderId queueId : Uuid) (order : OfflineOrder)
    (history : List OfflineOrderEvent) (payment : Option OfflinePayment)
    (printJob : Option OfflinePrintJob) : Prop where
  queue : ∃ queue, db.syncQueue.get? queueId = some queue ∧ queue.entityType = .order
    ∧ queue.entityId = orderId
  stored : ∃ row, db.offlineOrders.get? orderId = some row ∧ row.payload = order
  parsed : offlineOrderSchema.parse order = some order
  named : order.offlineOrderId = orderId
  events : db.offlineOrderEvents.rows.filter (fun row => row.localOrderId = orderId)
    = history.map fun event => storedEvent event orderId
  eventsParsed : ∀ event ∈ history, offlineOrderEventSchema.parse event = some event
  eventsOrder : ∀ event ∈ history, event.offlineOrderId = orderId
  nonempty : history ≠ []
  chain : IsHistory none history
  legal : ∀ event ∈ history, Legal event
  state : lastState none history = some order.orderStatus
  payments : (db.offlinePayments.rows.filter fun row => row.localOrderId = orderId)
    = (payment.map fun taken => storedPayment taken orderId).toList
  paymentParsed : ∀ taken ∈ payment, offlinePaymentSchema.parse taken = some taken
    ∧ taken.offlineOrderId = orderId
  paid : payment = none ↔ order.paymentStatus = .unpaid
  printJobs : (db.offlinePrintJobs.rows.filter fun row => row.localOrderId = orderId)
    = (printJob.map fun job => storedPrintJob job orderId).toList
  printJobParsed : ∀ job ∈ printJob, offlinePrintJobSchema.parse job = some job
    ∧ job.offlineOrderId = orderId

section Loading

variable {db : LocalDb} {orderId queueId : Uuid} {order : OfflineOrder}
  {history : List OfflineOrderEvent} {payment : Option OfflinePayment}
  {printJob : Option OfflinePrintJob}

/-- The events of an order as the store returns them. -/
def readEvents (db : LocalDb) (orderId : Uuid) : List OfflineOrderEvent :=
  (eventsOfOrder db orderId).map (·.payload)

/-- The record of the order as it is uploaded. -/
def uploadedRecord (db : LocalDb) (queueId : Uuid) (order : OfflineOrder)
    (payment : Option OfflinePayment) (printJob : Option OfflinePrintJob) :
    OfflineOrderSyncRecord where
  queueId := queueId
  order := order
  events := (readEvents db order.offlineOrderId).insertionSort
    fun left right => left.occurredAtDevice ≤ right.occurredAtDevice
  payment := payment
  printJobs := printJob.toList

theorem filter_getAll_perm {Row : Type} [Indexed Row Uuid] (table : Table Row)
    (keep : Row → Bool) : ((getAll table).filter keep).Perm (table.rows.filter keep) :=
  (List.perm_insertionSort _ _).filter keep

/-- A store is read with its keys increasing. -/
theorem pairwise_getAll {Row : Type} [Indexed Row Uuid] (table : Table Row) :
    (getAll table).Pairwise fun left right => Indexed.key left < Indexed.key right := by
  have hkeys : (getAll table).Pairwise fun left right => Indexed.key left ≠ Indexed.key right :=
    (List.perm_insertionSort _ _).symm.pairwise
      (table.unique.imp fun hfree hsame => hfree (Indexed.collides_of_key_eq hsame)) Ne.symm
  have hsorted : (getAll table).Pairwise fun left right =>
      Indexed.key left ≤ Indexed.key right := by
    have : Std.Total fun left right : Row => Indexed.key left ≤ Indexed.key right :=
      ⟨fun left right => le_total _ _⟩
    have : IsTrans Row fun left right : Row => Indexed.key left ≤ Indexed.key right :=
      ⟨fun _ _ _ => le_trans⟩
    exact List.pairwise_insertionSort _ _
  exact hsorted.imp₂ (fun _ _ hle hne => lt_of_le_of_ne hle hne) hkeys

theorem eq_toList_of_perm {Row : Type} {rows : List Row} {row : Option Row}
    (hperm : rows.Perm row.toList) : rows = row.toList := by
  cases row with
  | none => exact hperm.eq_nil
  | some row => exact List.perm_singleton.mp hperm

namespace Recorded

variable (hrecorded : Recorded db orderId queueId order history payment printJob)
include hrecorded

theorem readEvents_perm : (readEvents db orderId).Perm history := by
  have hperm := (filter_getAll_perm db.offlineOrderEvents
    fun row => row.localOrderId = orderId).map (·.payload)
  rw [hrecorded.events, List.map_map] at hperm
  exact hperm.trans (List.Perm.of_eq (List.map_id history))

theorem readEvents_increasing :
    (readEvents db orderId).Pairwise fun left right => left.eventId < right.eventId := by
  have hids : ∀ row ∈ eventsOfOrder db orderId, row.payload.eventId = row.eventId := by
    intro row hrow
    have hmem := (filter_getAll_perm _ _).mem_iff.mp hrow
    rw [hrecorded.events] at hmem
    obtain ⟨event, -, rfl⟩ := List.mem_map.mp hmem
    rfl
  refine List.pairwise_map.mpr ?_
  have hrows : (eventsOfOrder db orderId).Pairwise fun left right =>
      left.eventId < right.eventId := (pairwise_getAll db.offlineOrderEvents).filter _
  refine hrows.imp_of_mem fun {left right} hleft hright hless => ?_
  rw [hids left hleft, hids right hright]
  exact hless

/-- The upload finds the order, its payment and its print job. -/
theorem recordOfQueue_eq (stallId : Uuid) {queue : StoredQueueRecord}
    (hqueue : db.syncQueue.get? queueId = some queue) :
    recordOfQueue db stallId queue
      = .ok (some (.order (uploadedRecord db queueId order payment printJob))) := by
  obtain ⟨_, hfound, htype, hentity⟩ := hrecorded.queue
  cases hqueue.symm.trans hfound
  obtain ⟨row, hrow, hpayload⟩ := hrecorded.stored
  have hid : queue.queueId = queueId := Table.key_of_get? hqueue
  have hevents : parseAll offlineOrderEventSchema ((eventsOfOrder db orderId).map (·.payload))
      = .ok (readEvents db orderId) := parseAll_eq_self fun event hevent =>
    hrecorded.eventsParsed event (hrecorded.readEvents_perm.mem_iff.mp hevent)
  have hpayments : (paymentsOfOrder db orderId).map (·.payload) = payment.toList := by
    have hrows := eq_toList_of_perm ((filter_getAll_perm _ _).trans
      (List.Perm.of_eq hrecorded.payments))
    rw [paymentsOfOrder, hrows]
    cases payment <;> rfl
  have hjobs : (printJobsOfOrder db orderId).map (·.payload) = printJob.toList := by
    have hrows := eq_toList_of_perm ((filter_getAll_perm _ _).trans
      (List.Perm.of_eq hrecorded.printJobs))
    rw [printJobsOfOrder, hrows]
    cases printJob <;> rfl
  have hpaymentParsed : parseAll offlinePaymentSchema (payment.toList.take 1)
      = .ok payment.toList := by
    cases hpayment : payment with
    | none => rfl
    | some taken =>
        exact parseAll_eq_self fun other hother => by
          cases List.mem_singleton.mp hother
          exact (hrecorded.paymentParsed taken hpayment).1
  have hjobParsed : parseAll offlinePrintJobSchema printJob.toList = .ok printJob.toList :=
    parseAll_eq_self fun job hjob => (hrecorded.printJobParsed job (Option.mem_toList.mp hjob)).1
  have hhead : payment.toList.head? = payment := by cases payment <;> rfl
  simp only [recordOfQueue, htype, hentity, hrow, orderRecord, hpayload, hrecorded.parsed,
    orFail_some, bind_ok, hevents, hpayments, hpaymentParsed, hjobs, hjobParsed, hhead, hid]
  rw [uploadedRecord, hrecorded.named]
  rfl

theorem mem_events_iff {event : OfflineOrderEvent} :
    event ∈ (uploadedRecord db queueId order payment printJob).events ↔ event ∈ history := by
  rw [uploadedRecord, List.mem_insertionSort, hrecorded.named]
  exact hrecorded.readEvents_perm.mem_iff

theorem normalize_record :
    offlineOrderSyncRecordSchema.normalize (uploadedRecord db queueId order payment printJob)
      = uploadedRecord db queueId order payment printJob := by
  have horder := (offlineOrderSchema.parse_eq_some_iff.mp hrecorded.parsed).2
  have hevents : (uploadedRecord db queueId order payment printJob).events.map
      offlineOrderEventSchema.normalize
        = (uploadedRecord db queueId order payment printJob).events :=
    (List.map_congr_left fun event hevent => (offlineOrderEventSchema.parse_eq_some_iff.mp
      (hrecorded.eventsParsed event (hrecorded.mem_events_iff.mp hevent))).2).trans (List.map_id _)
  have hpayment : payment.map offlinePaymentSchema.normalize = payment := by
    cases htaken : payment with
    | none => rfl
    | some taken =>
        rw [Option.map_some, (offlinePaymentSchema.parse_eq_some_iff.mp
          (hrecorded.paymentParsed taken htaken).1).2]
  have hjobs : printJob.toList.map offlinePrintJobSchema.normalize = printJob.toList :=
    (List.map_congr_left fun job hjob => (offlinePrintJobSchema.parse_eq_some_iff.mp
      (hrecorded.printJobParsed job (Option.mem_toList.mp hjob)).1).2).trans (List.map_id _)
  simp only [offlineOrderSyncRecordSchema, hevents]
  simp only [uploadedRecord, horder, hpayment, hjobs]

theorem accepts_record :
    offlineOrderSyncRecordSchema.accepts (uploadedRecord db queueId order payment printJob)
      = true := by
  have hlength : (uploadedRecord db queueId order payment printJob).events.length
      = history.length := by
    rw [uploadedRecord, List.length_insertionSort, hrecorded.named]
    exact hrecorded.readEvents_perm.length_eq
  have hfirst : 1 ≤ history.length := List.length_pos_iff.mpr hrecorded.nonempty
  have hlast := (nodup_and_length_of_isHistory hrecorded.chain hrecorded.legal).2
  have hjobs : printJob.toList.length ≤ 10 := by cases printJob <;> simp
  have hpaid : payment.isNone = true ↔ order.paymentStatus = .unpaid :=
    Option.isNone_iff_eq_none.trans hrecorded.paid
  simp only [offlineOrderSyncRecordSchema, Bool.and_eq_true, decide_eq_true_eq, List.all_eq_true,
    hlength]
  refine ⟨⟨⟨⟨⟨⟨⟨⟨⟨⟨offlineOrderSchema.accepts_of_parse hrecorded.parsed, hfirst⟩, by omega⟩, ?_⟩,
    ?_⟩, hjobs⟩, ?_⟩, ?_⟩, ?_⟩, ?_⟩, ?_⟩
  · intro event hevent
    exact offlineOrderEventSchema.accepts_of_parse
      (hrecorded.eventsParsed event (hrecorded.mem_events_iff.mp hevent))
  · exact (Option.all_eq_true _ _).mpr fun taken htaken =>
      offlinePaymentSchema.accepts_of_parse (hrecorded.paymentParsed taken htaken).1
  · intro job hjob
    exact offlinePrintJobSchema.accepts_of_parse
      (hrecorded.printJobParsed job (Option.mem_toList.mp hjob)).1
  · intro event hevent
    exact (hrecorded.eventsOrder event (hrecorded.mem_events_iff.mp hevent)).trans
      hrecorded.named.symm
  · exact (Option.all_eq_true _ _).mpr fun taken htaken =>
      decide_eq_true ((hrecorded.paymentParsed taken htaken).2.trans hrecorded.named.symm)
  · intro job hjob
    exact (hrecorded.printJobParsed job (Option.mem_toList.mp hjob)).2.trans hrecorded.named.symm
  · exact propext hpaid

/-- The uploaded record is accepted exactly when the events were recorded in the order in which
they are uploaded. -/
theorem accepted_iff :
    Accepted (uploadedRecord db queueId order payment printJob)
      ↔ history.Pairwise (Before (·.occurredAtDevice) (·.eventId)) := by
  have hsorted := insertionSort_eq_iff (·.occurredAtDevice) hrecorded.readEvents_perm
    hrecorded.readEvents_increasing
  rw [← hsorted]
  have hevents : (uploadedRecord db queueId order payment printJob).events
      = (readEvents db orderId).insertionSort
        fun left right => left.occurredAtDevice ≤ right.occurredAtDevice := by
    rw [uploadedRecord, hrecorded.named]
  constructor
  · rintro ⟨parsed, hparse, hchain⟩
    have hsame := (offlineOrderSyncRecordSchema.parse_eq_some_iff.mp hparse).2
    rw [hrecorded.normalize_record] at hsame
    have hend := of_decide_eq_true (hsame ▸ hchain : validateOfflineEventChain
      (uploadedRecord db queueId order payment printJob) = true)
    rw [hevents] at hend
    have hperm := hrecorded.readEvents_perm.symm.trans (List.perm_insertionSort
      (fun left right => left.occurredAtDevice ≤ right.occurredAtDevice) _).symm
    exact (hrecorded.chain.eq_of_perm (isHistory_of_chainEnd hend) hperm
      (nodup_and_length_of_isHistory hrecorded.chain hrecorded.legal).1).symm
  · intro hhistory
    rw [hhistory] at hevents
    refine ⟨_, offlineOrderSyncRecordSchema.parse_eq_some_iff.mpr
      ⟨hrecorded.accepts_record, hrecorded.normalize_record⟩, ?_⟩
    have htimes : history.Pairwise fun left right =>
        left.occurredAtDevice ≤ right.occurredAtDevice :=
      (hsorted.mp hhistory).imp fun hbefore => hbefore.elim le_of_lt fun hsame => hsame.1.le
    have hend := chainEnd_of_isHistory hrecorded.chain hrecorded.legal htimes
      (fun time htime => nomatch htime : ∀ time ∈ (none : Option Timestamp), _)
    unfold validateOfflineEventChain
    rw [hevents, hend, hrecorded.state]
    exact decide_eq_true rfl

end Recorded

end Loading

/-! ## Recording an order -/

/-- A transition that the cashier asks for. -/
structure TransitionCall where
  nextState : OfflineOrderState
  reason : Option Text
  eventId : Uuid
  now : Timestamp

/-- Transitions of one order, one after another; all of them succeed. -/
def transitionAll (orderId : Uuid) : LocalDb → List TransitionCall → Option LocalDb
  | db, [] => some db
  | db, call :: calls =>
      match transitionOfflineOrder db orderId call.nextState call.reason call.eventId call.now with
      | (moved, .ok _) => transitionAll orderId moved calls
      | (_, .error _) => none

/-- No record of the stores names the identifier. -/
structure Unused (db : LocalDb) (orderId : Uuid) : Prop where
  events : ∀ row ∈ db.offlineOrderEvents, row.localOrderId ≠ orderId
  payments : ∀ row ∈ db.offlinePayments, row.localOrderId ≠ orderId
  printJobs : ∀ row ∈ db.offlinePrintJobs, row.localOrderId ≠ orderId

section Runs

variable {localBusinessDate : Timestamp → Text → Option Text} {db db' : LocalDb}
  {draft : CreateOfflineOrderDraft} {ids : CreationIds} {now : Timestamp}
  {orderId queueId : Uuid} {order : OfflineOrder} {history : List OfflineOrderEvent}
  {payment : Option OfflinePayment} {printJob : Option OfflinePrintJob}

theorem filter_of_insert? {Row Key : Type} [Indexed Row Key] {table table' : Table Row} {row : Row}
    (hinsert : table.insert? row = some table') (keep : Row → Bool) :
    table'.rows.filter keep = table.rows.filter keep ++ [row].filter keep := by
  rw [Table.rows_of_insert? hinsert, List.filter_append]

/-- What is found in a store that had no such row before is the row that was added. -/
theorem filter_of_insertOptional? {Row Key : Type} [Indexed Row Key] {table table' : Table Row}
    {row : Option Row} (hinsert : insertOptional? table row = some table') {keep : Row → Bool}
    (hnone : ∀ stored ∈ table, keep stored = false) (hkeep : ∀ new ∈ row, keep new = true) :
    table'.rows.filter keep = row.toList := by
  have hempty : table.rows.filter keep = [] :=
    List.filter_eq_nil_iff.mpr fun stored hstored => by simp [hnone stored hstored]
  cases row with
  | none =>
      cases hinsert
      exact hempty
  | some new =>
      rw [filter_of_insert? hinsert, hempty, List.nil_append]
      exact List.filter_eq_self.mpr fun other hother => by
        rw [List.mem_singleton.mp hother]
        exact hkeep new rfl

/-- A created order is recorded with the event of its creation. -/
theorem recorded_of_createOfflineOrder {created : CreatedOfflineOrder}
    (hcreate : createOfflineOrder localBusinessDate db draft ids now = (db', .ok created))
    (hunused : Unused db ids.offlineOrderId) :
    Recorded db' ids.offlineOrderId ids.queueId created.order [creationEvent ids now]
      created.payment created.printJob := by
  rcases createOfflineOrder_cases hcreate with ⟨error, shift, houtcome, -⟩ |
    ⟨admission, decision, parts, order, houtcome, -, hdecide, hassembled, hstored⟩
  · cases houtcome
  cases houtcome
  obtain ⟨cashShiftSnapshot, hput⟩ := putCashShift_frame db decision.cashShift
  rw [hput] at hstored
  have horder := hassembled.order_eq
  have hid : created.order.offlineOrderId = ids.offlineOrderId := by rw [horder]; rfl
  have hevent : created.event = creationEvent ids now :=
    (offlineOrderEventSchema.parse_eq_some_iff.mp hassembled.event).2.symm
  have hqueueRow := (Table.mem_of_insert? hstored.queue).mpr (Or.inr rfl)
  have horderRow := (Table.mem_of_insert? hstored.orders).mpr (Or.inr rfl)
  constructor
  case queue =>
    exact ⟨_, Table.get?_eq_some_iff.mpr ⟨hqueueRow, hassembled.queueId⟩, rfl, hid⟩
  case stored =>
    exact ⟨_, Table.get?_eq_some_iff.mpr ⟨horderRow, hid⟩, rfl⟩
  case parsed => exact offlineOrderSchema.parse_parsed hassembled.order
  case named => exact hid
  case events =>
    have hinsert : insertOptional? db.offlineOrderEvents
        (some (storedEvent created.event created.order.offlineOrderId))
          = some db'.offlineOrderEvents := hstored.events
    rw [filter_of_insertOptional? hinsert
      (fun stored hstored => decide_eq_false (hunused.events stored hstored)), hevent, hid]
    · rfl
    · rintro new ⟨⟩
      exact decide_eq_true hid
  case eventsParsed =>
    intro event hmem
    cases List.mem_singleton.mp hmem
    rw [← hevent]
    exact offlineOrderEventSchema.parse_parsed hassembled.event
  case eventsOrder =>
    intro event hmem
    cases List.mem_singleton.mp hmem
    rfl
  case nonempty => exact List.cons_ne_nil _ _
  case chain => exact ⟨rfl, trivial⟩
  case legal =>
    intro event hmem
    cases List.mem_singleton.mp hmem
    rfl
  case state =>
    rw [horder]
    rfl
  case payments =>
    rw [filter_of_insertOptional? hstored.payments
      (fun stored hstored => decide_eq_false (hunused.payments stored hstored)), hid]
    intro stored hmem
    obtain ⟨taken, -, rfl⟩ := Option.map_eq_some_iff.mp hmem
    exact decide_eq_true hid
  case paymentParsed =>
    intro taken htaken
    rw [hassembled.payment] at htaken
    exact payment_of_decideOfflinePayment hdecide htaken
  case paid =>
    rw [hassembled.payment, horder]
    cases htaken : decision.payment with
    | none => simp [offlineOrderSchema, draftOrder, htaken]
    | some taken =>
        have haccepts := offlinePaymentSchema.accepts_of_parse
          (payment_of_decideOfflinePayment hdecide htaken).1
        simp only [offlinePaymentSchema, Bool.and_eq_true, decide_eq_true_eq] at haccepts
        simp [offlineOrderSchema, draftOrder, htaken, haccepts.1.1.1.1.1.1]
  case printJobs =>
    rw [filter_of_insertOptional? hstored.printJobs
      (fun stored hstored => decide_eq_false (hunused.printJobs stored hstored)), hid]
    intro stored hmem
    obtain ⟨job, -, rfl⟩ := Option.map_eq_some_iff.mp hmem
    exact decide_eq_true hid
  case printJobParsed =>
    intro job hjob
    have hparsed := hassembled.printJob job hjob
    refine ⟨offlinePrintJobSchema.parse_parsed hparsed, ?_⟩
    rw [← (offlinePrintJobSchema.parse_eq_some_iff.mp hparsed).2]
    rfl

/-- What a successful transition did. -/
structure MovedOrder (db db' : LocalDb) (orderId : Uuid) (call : TransitionCall)
    (row : StoredOrder) (order updated : OfflineOrder) (event : OfflineOrderEvent) : Prop where
  found : db.offlineOrders.get? orderId = some row
  parsed : offlineOrderSchema.parse row.payload = some order
  allowed : canTransitionOfflineOrder order.orderStatus call.nextState = true
  moved : offlineOrderSchema.parse (movedOrder order call.nextState call.now) = some updated
  recorded : offlineOrderEventSchema.parse (transitionEvent order orderId call.nextState call.reason
    call.eventId call.now) = some event
  inserted : db.offlineOrderEvents.insert? (storedEvent event orderId)
    = some db'.offlineOrderEvents
  others : db' = { db with
    offlineOrders := db.offlineOrders.update orderId (transitionedOrder updated) id
    offlineOrderEvents := db'.offlineOrderEvents }

theorem moved_of_transitionOfflineOrder {call : TransitionCall} {updated : OfflineOrder}
    (htransition : transitionOfflineOrder db orderId call.nextState call.reason call.eventId
      call.now = (db', .ok updated)) :
    ∃ row order event, MovedOrder db db' orderId call row order updated event := by
  unfold transitionOfflineOrder at htransition
  split at htransition
  · cases htransition
  · next hprepare =>
    split at htransition
    · cases htransition
    · next hinsert =>
      cases htransition
      obtain ⟨row, hrow, hprepare⟩ := bind_eq_ok.mp hprepare
      obtain ⟨order, horder, hprepare⟩ := bind_eq_ok.mp hprepare
      obtain ⟨_, hallowed, hprepare⟩ := bind_eq_ok.mp hprepare
      obtain ⟨moved, hmoved, hprepare⟩ := bind_eq_ok.mp hprepare
      obtain ⟨event, hevent, hreturn⟩ := bind_eq_ok.mp hprepare
      cases hreturn
      simp only [failWhen_eq_ok, Bool.or_eq_false_iff, Bool.not_eq_false'] at hallowed
      exact ⟨row, order, _, orFail_eq_ok.mp hrow, orFail_eq_ok.mp horder, hallowed.1.2,
        orFail_eq_ok.mp hmoved, orFail_eq_ok.mp hevent, hinsert, rfl⟩

/-- A transition adds its event to the history. -/
theorem Recorded.transition {call : TransitionCall} {updated : OfflineOrder}
    (hrecorded : Recorded db orderId queueId order history payment printJob)
    (htransition : transitionOfflineOrder db orderId call.nextState call.reason call.eventId
      call.now = (db', .ok updated)) :
    ∃ event, event.occurredAtDevice = call.now ∧ event.eventId = call.eventId
      ∧ Recorded db' orderId queueId updated (history ++ [event]) payment printJob := by
  obtain ⟨row, parsed, event, hmoved⟩ := moved_of_transitionOfflineOrder htransition
  obtain ⟨stored, hstored, hpayload⟩ := hrecorded.stored
  cases hstored.symm.trans hmoved.found
  have horder := hmoved.parsed
  rw [hpayload, hrecorded.parsed] at horder
  cases horder
  have hupdated := (offlineOrderSchema.parse_eq_some_iff.mp hmoved.moved).2
  have hevent := (offlineOrderEventSchema.parse_eq_some_iff.mp hmoved.recorded).2
  have hrow := Table.mem_of_get? hmoved.found
  have hkey : row.localOrderId = orderId := Table.key_of_get? hmoved.found
  refine ⟨event, by rw [← hevent]; rfl, by rw [← hevent]; rfl, ?_⟩
  constructor
  case queue =>
    rw [hmoved.others]
    exact hrecorded.queue
  case stored =>
    have hmem : transitionedOrder updated row
        ∈ db.offlineOrders.update orderId (transitionedOrder updated) id :=
      Table.mem_update_of_key hrow hkey
    rw [hmoved.others]
    exact ⟨transitionedOrder updated row, Table.get?_eq_some_iff.mpr ⟨hmem, hkey⟩, rfl⟩
  case parsed => exact offlineOrderSchema.parse_parsed hmoved.moved
  case named =>
    rw [← hupdated]
    exact hrecorded.named
  case events =>
    rw [filter_of_insert? hmoved.inserted, hrecorded.events, List.map_append]
    congr 1
    exact List.filter_eq_self.mpr fun other hother => by
      rw [List.mem_singleton.mp hother]
      exact decide_eq_true rfl
  case eventsParsed =>
    intro other hother
    rcases List.mem_append.mp hother with hold | hnew
    · exact hrecorded.eventsParsed other hold
    · rw [List.mem_singleton.mp hnew]
      exact offlineOrderEventSchema.parse_parsed hmoved.recorded
  case eventsOrder =>
    intro other hother
    rcases List.mem_append.mp hother with hold | hnew
    · exact hrecorded.eventsOrder other hold
    · rw [List.mem_singleton.mp hnew, ← hevent]
      rfl
  case nonempty => exact List.append_ne_nil_of_right_ne_nil _ (List.cons_ne_nil _ _)
  case chain =>
    refine isChain_concat.mpr ⟨hrecorded.chain, ?_⟩
    rw [← hevent]
    exact hrecorded.state.symm
  case legal =>
    intro other hother
    rcases List.mem_append.mp hother with hold | hnew
    · exact hrecorded.legal other hold
    · rw [List.mem_singleton.mp hnew, ← hevent]
      exact hmoved.allowed
  case state =>
    rw [← hupdated, ← hevent]
    simp [chainTarget]
    rfl
  case payments =>
    rw [hmoved.others]
    exact hrecorded.payments
  case paymentParsed => exact hrecorded.paymentParsed
  case paid =>
    rw [← hupdated]
    exact hrecorded.paid
  case printJobs =>
    rw [hmoved.others]
    exact hrecorded.printJobs
  case printJobParsed => exact hrecorded.printJobParsed

/-- The clock readings and event identifiers of the calls, in the order of the calls. -/
def readings (ids : CreationIds) (now : Timestamp) (calls : List TransitionCall) :
    List (Timestamp × Uuid) :=
  (now, ids.eventId) :: calls.map fun call => (call.now, call.eventId)

theorem recorded_transitionAll {calls : List TransitionCall}
    (hrecorded : Recorded db orderId queueId order history payment printJob)
    (htransitions : transitionAll orderId db calls = some db') :
    ∃ moved events, Recorded db' orderId queueId moved (history ++ events) payment printJob
      ∧ (events.map fun event => (event.occurredAtDevice, event.eventId))
        = calls.map fun call => (call.now, call.eventId) := by
  induction calls generalizing db order history with
  | nil =>
      cases htransitions
      exact ⟨order, [], by rwa [List.append_nil], rfl⟩
  | cons call calls ih =>
      unfold transitionAll at htransitions
      split at htransitions
      · next htransition =>
        obtain ⟨event, htime, hid, hnext⟩ := hrecorded.transition htransition
        obtain ⟨moved, events, hfinal, hreadings⟩ := ih hnext htransitions
        refine ⟨moved, event :: events, by simpa using hfinal, ?_⟩
        rw [List.map_cons, List.map_cons, hreadings, htime, hid]
      · cases htransitions

/-- A batch holds what the queue row of the record stands for. -/
theorem eq_of_loaded {stallId : Uuid} {queue : StoredQueueRecord} {record other : OfflineSyncRecord}
    {batchSize : ℤ} {loadedAt : Timestamp} {records : List OfflineSyncRecord}
    (hqueue : db.syncQueue.get? queueId = some queue)
    (hrecord : recordOfQueue db stallId queue = .ok (some record))
    (hload : loadOfflineSyncBatch db stallId batchSize loadedAt = .ok records)
    (hother : other ∈ records) (hid : other.queueId = queueId) : other = record := by
  obtain ⟨source, hsource, hbuilt⟩ := (mem_of_recordsOfQueue hload).mp hother
  have hmem := (mem_dueQueueRecords.mp (mem_due_of_selected hsource)).1
  have hkey : source.queueId = queueId := (queueId_of_recordOfQueue hbuilt).symm.trans hid
  cases (Table.get?_eq_some_iff.mpr ⟨hmem, hkey⟩).symm.trans hqueue
  cases hbuilt.symm.trans hrecord
  rfl

/-- The queue row of an order is uploaded as one record, which is accepted exactly when the calls
read increasing times, and increasing event identifiers where they read the same time. -/
def JudgedByReadings (db : LocalDb) (stallId queueId : Uuid) (readings : List (Timestamp × Uuid)) :
    Prop :=
  ∃ queue record, db.syncQueue.get? queueId = some queue
    ∧ recordOfQueue db stallId queue = .ok (some (.order record))
    ∧ (∀ batchSize loadedAt records,
      loadOfflineSyncBatch db stallId batchSize loadedAt = .ok records →
        ∀ other ∈ records, other.queueId = queueId → other = .order record)
    ∧ (Accepted record ↔ readings.Pairwise (Before Prod.fst Prod.snd))

/-- An order that carries its creation and is moved further is judged by its readings. -/
theorem Recorded.judged_of_transitionAll {stallId : Uuid} {final : LocalDb}
    {calls : List TransitionCall}
    (hcreated : Recorded db orderId queueId order [creationEvent ids now] payment printJob)
    (htransitions : transitionAll orderId db calls = some final) :
    JudgedByReadings final stallId queueId (readings ids now calls) := by
  obtain ⟨moved, events, hrecorded, hreadings⟩ := recorded_transitionAll hcreated htransitions
  obtain ⟨queue, hqueue, -⟩ := hrecorded.queue
  have hrecord := hrecorded.recordOfQueue_eq stallId hqueue
  refine ⟨queue, _, hqueue, hrecord, fun batchSize loadedAt records hload other hother hid => ?_,
    ?_⟩
  · exact eq_of_loaded hqueue hrecord hload hother hid
  have hall : readings ids now calls = (creationEvent ids now :: events).map
      fun event => (event.occurredAtDevice, event.eventId) := by
    rw [readings, ← hreadings]
    rfl
  rw [hrecorded.accepted_iff, hall, List.pairwise_map]
  rfl

/-- An order that is created under a free identifier and moved is accepted exactly when the calls
read increasing times, and increasing event identifiers where they read the same time. -/
theorem accepted_iff_increasing {created : CreatedOfflineOrder} {final : LocalDb}
    {calls : List TransitionCall} (hunused : Unused db ids.offlineOrderId)
    (hcreate : createOfflineOrder localBusinessDate db draft ids now = (db', .ok created))
    (htransitions : transitionAll ids.offlineOrderId db' calls = some final) :
    ∃ queue record, final.syncQueue.get? ids.queueId = some queue
      ∧ recordOfQueue final draft.stallId queue = .ok (some (.order record))
      ∧ (∀ batchSize loadedAt records,
        loadOfflineSyncBatch final draft.stallId batchSize loadedAt = .ok records →
          ∀ other ∈ records, other.queueId = ids.queueId → other = .order record)
      ∧ (Accepted record ↔ (readings ids now calls).Pairwise (Before Prod.fst Prod.snd)) := by
  have hcreated := recorded_of_createOfflineOrder hcreate hunused
  exact hcreated.judged_of_transitionAll htransitions

end Runs

/-! ## Identifiers that are still free -/

section Ownership

open LocalRun Run

variable {localBusinessDate : Timestamp → Text → Option Text} {db db' : LocalDb}

def HasOrder (db : LocalDb) (orderId : Uuid) : Prop :=
  ∃ row ∈ db.offlineOrders, row.localOrderId = orderId

/-- Every record belongs to an order that is stored. -/
structure Owned (db : LocalDb) : Prop where
  events : ∀ row ∈ db.offlineOrderEvents, HasOrder db row.localOrderId
  payments : ∀ row ∈ db.offlinePayments, HasOrder db row.localOrderId
  printJobs : ∀ row ∈ db.offlinePrintJobs, HasOrder db row.localOrderId

theorem Owned.evolves (howned : Owned db) (hevolves : Evolves db db') : Owned db' := by
  have hforth : ∀ orderId, HasOrder db orderId → HasOrder db' orderId := by
    rintro orderId ⟨row, hrow, hid⟩
    obtain ⟨new, hnew, hfollows⟩ := hevolves.orders_forth row hrow
    exact ⟨new, hnew, hfollows.localOrderId.trans hid⟩
  refine ⟨?_, ?_, ?_⟩
  · rw [hevolves.events]
    exact fun row hrow => hforth _ (howned.events row hrow)
  · rw [hevolves.payments]
    exact fun row hrow => hforth _ (howned.payments row hrow)
  · rw [hevolves.printJobs]
    exact fun row hrow => hforth _ (howned.printJobs row hrow)

theorem Owned.createOrder (howned : Owned db) {draft : CreateOfflineOrderDraft} {ids : CreationIds}
    {now : Timestamp} : Owned (createOfflineOrder localBusinessDate db draft ids now).1 := by
  rcases createOfflineOrder_cases (Prod.mk.eta
      (p := createOfflineOrder localBusinessDate db draft ids now)).symm
    with ⟨error, shift, -, hdb⟩ | ⟨admission, decision, parts, created, -, -, -, -, hstored⟩
  · obtain ⟨cashShiftSnapshot, hput⟩ := putCashShift_frame db shift
    rw [hdb, hput]
    exact ⟨howned.events, howned.payments, howned.printJobs⟩
  · generalize (createOfflineOrder localBusinessDate db draft ids now).1 = db' at hstored
    obtain ⟨cashShiftSnapshot, hput⟩ := putCashShift_frame db decision.cashShift
    rw [hput] at hstored
    have hforth : ∀ orderId, HasOrder db orderId → HasOrder db' orderId := by
      rintro orderId ⟨row, hrow, hid⟩
      exact ⟨row, (Table.mem_of_insert? hstored.orders).mpr (Or.inl hrow), hid⟩
    have hnew : HasOrder db' created.order.offlineOrderId :=
      ⟨_, (Table.mem_of_insert? hstored.orders).mpr (Or.inr rfl), rfl⟩
    refine ⟨fun row hrow => ?_, fun row hrow => ?_, fun row hrow => ?_⟩
    · rcases (Table.mem_of_insert? hstored.events).mp hrow with hold | rfl
      · exact hforth _ (howned.events row hold)
      · exact hnew
    · rcases (mem_of_insertOptional? hstored.payments).mp hrow with hold | hadded
      · exact hforth _ (howned.payments row hold)
      · obtain ⟨payment, -, rfl⟩ := Option.map_eq_some_iff.mp hadded
        exact hnew
    · rcases (mem_of_insertOptional? hstored.printJobs).mp hrow with hold | hadded
      · exact hforth _ (howned.printJobs row hold)
      · obtain ⟨job, -, rfl⟩ := Option.map_eq_some_iff.mp hadded
        exact hnew

theorem Owned.transition (howned : Owned db) {orderId : Uuid} {nextState : OfflineOrderState}
    {reason : Option Text} {eventId : Uuid} {now : Timestamp} :
    Owned (transitionOfflineOrder db orderId nextState reason eventId now).1 := by
  rcases transitionOfflineOrder_cases (Prod.mk.eta
      (p := transitionOfflineOrder db orderId nextState reason eventId now)).symm
    with ⟨-, -, hdb⟩ | ⟨row, updated, event, events, -, hmoved, hinsert, hdb⟩
  · rw [hdb]
    exact howned
  · have hkept : ∀ other, HasOrder db other → HasOrder { db with
        offlineOrders := db.offlineOrders.update orderId (transitionedOrder updated) id
        offlineOrderEvents := events } other := by
      rintro other ⟨stored, hstored, hid⟩
      by_cases hmovedRow : stored.localOrderId = orderId
      · have hnew : transitionedOrder updated stored
            ∈ db.offlineOrders.update orderId (transitionedOrder updated) id :=
          Table.mem_update_of_key hstored hmovedRow
        exact ⟨_, hnew, hid⟩
      · have hkept : stored ∈ db.offlineOrders.update orderId (transitionedOrder updated) id :=
          Table.mem_update_of_ne hstored hmovedRow
        exact ⟨_, hkept, hid⟩
    rw [hdb]
    refine ⟨fun stored hstored => ?_,
      fun stored hstored => hkept _ (howned.payments stored hstored),
      fun stored hstored => hkept _ (howned.printJobs stored hstored)⟩
    rcases (Table.mem_of_insert? hinsert).mp hstored with hold | rfl
    · exact hkept _ (howned.events stored hold)
    · exact hkept _ ⟨row, Table.mem_of_get? hmoved.found, Table.key_of_get? hmoved.found⟩

theorem Owned.cashEvent (howned : Owned db) {input : CashEventInput} {ids : CashEventIds}
    {now : Timestamp} : Owned (createOfflineCashEvent db input ids now).1 := by
  rcases createOfflineCashEvent_cases (Prod.mk.eta
      (p := createOfflineCashEvent db input ids now)).symm
    with ⟨-, -, hdb⟩ | ⟨shift, event, queue, -, -, -, hdb⟩
  · rw [hdb]
    exact howned
  · rw [hdb]
    exact ⟨howned.events, howned.payments, howned.printJobs⟩

theorem owned_step (hlinked : Linked db) (howned : Owned db) (command : LocalCommand) :
    Owned (step localBusinessDate db command) := by
  cases command with
  | bootstrap installationId response =>
      exact ⟨howned.events, howned.payments, howned.printJobs⟩
  | createOrder draft ids now => exact howned.createOrder
  | transition orderId nextState reason eventId now => exact howned.transition
  | cashEvent input ids now => exact howned.cashEvent
  | markAttempt queueIds result retryAt now =>
      exact howned.evolves (evolves_markOfflineSyncAttempt hlinked queueIds result retryAt now)
  | applyResponse response now =>
      exact howned.evolves (evolves_applyOfflineSyncResponse hlinked response now)

theorem owned_empty : Owned LocalDb.empty where
  events row hrow := absurd hrow (Table.notMem_empty row)
  payments row hrow := absurd hrow (Table.notMem_empty row)
  printJobs row hrow := absurd hrow (Table.notMem_empty row)

theorem owned_exec (commands : List LocalCommand) :
    Owned (exec (step localBusinessDate) LocalDb.empty commands) :=
  (invariant_exec (fun db => Linked db ∧ Owned db) (fun _ command hboth =>
    ⟨linked_step hboth.1 command, owned_step hboth.1 hboth.2 command⟩)
    ⟨linked_empty, owned_empty⟩ commands).2

/-- Wherever the operations of the device lead, an order is created under a free identifier. -/
theorem unused_of_created (commands : List LocalCommand) {draft : CreateOfflineOrderDraft}
    {ids : CreationIds} {now : Timestamp} {created : CreatedOfflineOrder}
    (hcreate : createOfflineOrder localBusinessDate
      (exec (step localBusinessDate) LocalDb.empty commands) draft ids now = (db', .ok created)) :
    Unused (exec (step localBusinessDate) LocalDb.empty commands) ids.offlineOrderId := by
  have howned : Owned (exec (step localBusinessDate) LocalDb.empty commands) :=
    owned_exec commands
  generalize exec (step localBusinessDate) LocalDb.empty commands = db at hcreate howned ⊢
  rcases createOfflineOrder_cases hcreate with ⟨error, shift, houtcome, -⟩ |
    ⟨admission, decision, parts, order, houtcome, -, -, hassembled, hstored⟩
  · cases houtcome
  cases houtcome
  obtain ⟨cashShiftSnapshot, hput⟩ := putCashShift_frame db decision.cashShift
  rw [hput] at hstored
  have hid : created.order.offlineOrderId = ids.offlineOrderId := by
    rw [hassembled.order_eq]
    rfl
  have hfree : ∀ orderId, HasOrder db orderId → orderId ≠ ids.offlineOrderId := by
    rintro orderId ⟨row, hrow, hrowId⟩ hsame
    exact Table.not_collides_of_insert? hstored.orders hrow
      (Indexed.collides_of_key_eq (hrowId.trans (hsame.trans hid.symm)))
  exact ⟨fun row hrow => hfree _ (howned.events row hrow),
    fun row hrow => hfree _ (howned.payments row hrow),
    fun row hrow => hfree _ (howned.printJobs row hrow)⟩

/-- On a device that any operations have led to, every order is judged by its readings. -/
theorem judged_of_reached (commands : List LocalCommand) {draft : CreateOfflineOrderDraft}
    {ids : CreationIds} {now : Timestamp} {created : CreatedOfflineOrder} {final : LocalDb}
    {calls : List TransitionCall}
    (hcreate : createOfflineOrder localBusinessDate
      (exec (step localBusinessDate) LocalDb.empty commands) draft ids now = (db', .ok created))
    (htransitions : transitionAll ids.offlineOrderId db' calls = some final) :
    JudgedByReadings final draft.stallId ids.queueId (readings ids now calls) := by
  have hcreated := recorded_of_createOfflineOrder hcreate (unused_of_created commands hcreate)
  exact hcreated.judged_of_transitionAll htransitions

end Ownership

/-! ## Equal clock readings -/

section Samples

open LocalRun Run

/-- The device right after its bootstrap. -/
def sampleDb : LocalDb :=
  exec (step sampleBusinessDate) .empty [.bootstrap 6 (sampleBootstrap 7 0)]

def sampleCreation : LocalDb × Except LocalError CreatedOfflineOrder :=
  createOfflineOrder sampleBusinessDate sampleDb (sampleDraft 200) (sampleIds 100) minuteMs

def sampleCreated : CreatedOfflineOrder where
  order := sampleRecord.order
  event := creationEvent (sampleIds 100) minuteMs
  payment := sampleRecord.payment
  printJob := sampleRecord.printJobs.head?
  queueId := sampleRecord.queueId

/-- The order is ready one minute later. -/
def readyCall : TransitionCall where
  nextState := .localReady
  reason := none
  eventId := 150
  now := 2 * minuteMs

theorem ready_order_accepted :
    ∃ final queue record, transitionAll 100 sampleCreation.1 [readyCall] = some final
      ∧ recordOfQueue final 2 queue = .ok (some (.order record)) ∧ Accepted record := by
  have hcreated : sampleCreation.2 = .ok sampleCreated := by decide +kernel
  obtain ⟨final, hfinal⟩ := Option.isSome_iff_exists.mp
    (by decide +kernel : (transitionAll 100 sampleCreation.1 [readyCall]).isSome = true)
  have hunused : Unused sampleDb 100 :=
    ⟨fun row hrow => absurd hrow (Table.notMem_empty row),
      fun row hrow => absurd hrow (Table.notMem_empty row),
      fun row hrow => absurd hrow (Table.notMem_empty row)⟩
  obtain ⟨queue, record, -, hrecord, -, haccepted⟩ :=
    accepted_iff_increasing hunused (Prod.ext rfl hcreated :
      createOfflineOrder sampleBusinessDate sampleDb (sampleDraft 200) (sampleIds 100) minuteMs
        = (sampleCreation.1, .ok _)) hfinal
  exact ⟨final, queue, record, hfinal, hrecord, haccepted.mpr (by decide)⟩

/-- The order is ready within the millisecond of its creation. -/
def hastyCall : TransitionCall where
  nextState := .localReady
  reason := none
  eventId := 50
  now := minuteMs

def hastyRecords : Option (List OfflineSyncRecord) :=
  (transitionAll 100 sampleCreation.1 [hastyCall]).bind fun final =>
    (loadOfflineSyncBatch final 2 50 minuteMs).toOption

/-- Its transition has the smaller identifier and goes first. -/
def hastyRecord : OfflineOrderSyncRecord :=
  { sampleRecord with
    order := { sampleRecord.order with orderStatus := .localReady }
    events := {
      eventId := 50
      offlineOrderId := 100
      previousState := some .localConfirmed
      nextState := .localReady
      reason := none
      occurredAtDevice := minuteMs } :: sampleRecord.events }

/-- The server refuses the record of an order that was moved in the millisecond of its creation. -/
theorem hasty_order_refused :
    sampleCreation.2.isOk = true ∧ hastyRecords = some [.order hastyRecord]
      ∧ ¬ Accepted hastyRecord := by
  have hcreated : sampleCreation.2.isOk = true := by decide +kernel
  have hloaded : hastyRecords = some [.order hastyRecord] := by decide +kernel
  refine ⟨hcreated, hloaded, ?_⟩
  rintro ⟨parsed, hparse, hchain⟩
  rw [← (offlineOrderSyncRecordSchema.parse_eq_some_iff.mp hparse).2] at hchain
  revert hchain
  decide +kernel

end Samples

end Stallorder.EventChains
