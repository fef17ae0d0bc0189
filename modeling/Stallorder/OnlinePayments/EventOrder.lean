import Stallorder.OnlinePayments.PaymentIntents

/-!
# Deliveries of payment events

The events of a provider may be delivered in any order and any number of times.
Each event counts when it first comes in time; what a run of deliveries does to
an intent is what the events do to it that were taken, in the order in which
they were.
-/

namespace Stallorder.EventOrder

open OrderContract PaymentIntents Checks Run

/-! ## Deliveries -/

structure Delivery where
  event : ProviderEvent
  signatureTimestamp : Timestamp
  now : Timestamp

def deliver (db : OnlineDb) (delivery : Delivery) : OnlineDb :=
  match recordOnlineOrderPaymentEvent db delivery.event delivery.signatureTimestamp
    delivery.now with
  | .ok (db', _) => db'
  | .error _ => db

def Delivery.fresh (delivery : Delivery) : Bool :=
  signatureFresh delivery.signatureTimestamp delivery.now

/-- Every event is delivered in time, possibly more than once, and nothing else
is delivered. -/
structure Delivers (events : List ProviderEvent) (deliveries : List Delivery) : Prop where
  known : ∀ delivery ∈ deliveries, delivery.event ∈ events
  complete : ∀ event ∈ events, ∃ delivery ∈ deliveries,
    delivery.event = event ∧ delivery.fresh = true

/-- What the deliveries leave of an intent. -/
def outcome (db : OnlineDb) (intentId : Uuid) :
    Option (IntentStatus × ReconciliationStatus) :=
  (db.intents.findFirst fun intent => intent.id = intentId).map fun intent =>
    (intent.status, intent.reconciliationStatus)

def recorded (db : OnlineDb) (event : ProviderEvent) : Bool :=
  (db.events.get? event.providerEventId).isSome

/-- The type of an event that passes the checks of its format. -/
def acceptedType (event : ProviderEvent) : Option PaymentEventType :=
  event.eventType.filter fun _ => eventFormatValid event

/-- An event that passed its checks, with its type. -/
abbrev AcceptedEvent := ProviderEvent × PaymentEventType

/-- The events that are new to the database and pass their checks. -/
def newEvents (db : OnlineDb) (events : List ProviderEvent) : List AcceptedEvent :=
  events.filterMap fun event =>
    if recorded db event then none else (acceptedType event).map fun type => (event, type)

theorem mem_newEvents {db : OnlineDb} {events : List ProviderEvent} {accepted : AcceptedEvent} :
    accepted ∈ newEvents db events ↔ accepted.1 ∈ events
      ∧ acceptedType accepted.1 = some accepted.2 ∧ recorded db accepted.1 = false := by
  obtain ⟨event, type⟩ := accepted
  simp only [newEvents, List.mem_filterMap]
  constructor
  · rintro ⟨other, hmem, hsome⟩
    by_cases hrecorded : recorded db other = true
    · rw [if_pos hrecorded] at hsome
      cases hsome
    · rw [if_neg hrecorded, Option.map_eq_some_iff] at hsome
      obtain ⟨found, htype, heq⟩ := hsome
      cases heq
      exact ⟨hmem, htype, by simpa using hrecorded⟩
  · rintro ⟨hmem, htype, hrecorded⟩
    exact ⟨event, hmem, by simp [hrecorded, htype]⟩

theorem checkEvent_eq_ok {event : ProviderEvent} {signatureTimestamp now : Timestamp}
    {type : PaymentEventType} :
    checkEvent event signatureTimestamp now = .ok type ↔
      acceptedType event = some type ∧ signatureFresh signatureTimestamp now = true := by
  unfold checkEvent acceptedType
  cases htype : event.eventType with
  | none => simp [orFail]
  | some found =>
      cases hformat : eventFormatValid event with
      | false => simp
      | true =>
          cases hfresh : signatureFresh signatureTimestamp now with
          | false => simp
          | true => simp

/-! ## What one event does to an intent -/

section Receiving

variable {event : ProviderEvent} {type : PaymentEventType} {intent : PaymentIntent}

/-- The columns that no event changes. -/
structure SameTerms (intent intent' : PaymentIntent) : Prop where
  id : intent'.id = intent.id
  organizationId : intent'.organizationId = intent.organizationId
  stallId : intent'.stallId = intent.stallId
  orderId : intent'.orderId = intent.orderId
  providerIntentId : intent'.providerIntentId = intent.providerIntentId
  idempotencyKey : intent'.idempotencyKey = intent.idempotencyKey
  requestFingerprint : intent'.requestFingerprint = intent.requestFingerprint
  amount : intent'.amount = intent.amount
  currency : intent'.currency = intent.currency

theorem SameTerms.collides {intent intent' other : PaymentIntent}
    (hterms : SameTerms intent intent') (hcollides : Indexed.collides intent' other) :
    Indexed.collides intent other := by
  simp only [Indexed.collides, hterms.id, hterms.organizationId, hterms.stallId, hterms.orderId,
    hterms.providerIntentId, hterms.idempotencyKey] at hcollides ⊢
  exact hcollides

theorem sameTerms_received : SameTerms intent (received event type intent) := by
  unfold received
  split
  · split <;> exact ⟨rfl, rfl, rfl, rfl, rfl, rfl, rfl, rfl, rfl⟩
  · split <;> exact ⟨rfl, rfl, rfl, rfl, rfl, rfl, rfl, rfl, rfl⟩

theorem matchCode_of_sameTerms {intent' : PaymentIntent} (hterms : SameTerms intent intent')
    (event : ProviderEvent) : matchCode intent' event = matchCode intent event := by
  unfold matchCode
  rw [hterms.orderId, hterms.amount, hterms.currency]

theorem received_of_matched (hmatched : intent.reconciliationStatus = .matched) :
    received event type intent = intent := by
  unfold received
  split
  · rw [if_pos hmatched]
  · rw [if_neg (by simp [applies, hmatched])]

theorem received_of_contradiction {code : SafeErrorCode}
    (hcode : matchCode intent event = some code)
    (hunmatched : intent.reconciliationStatus ≠ .matched) :
    received event type intent
      = { intent with reconciliationStatus := .mismatch, reconciliationCode := some code } := by
  unfold received
  rw [hcode]
  exact if_neg hunmatched

theorem received_of_applies (hcode : matchCode intent event = none)
    (happlies : applies intent event type = true) :
    received event type intent = { intent with
      status := statusAfter type
      reconciliationStatus := reconciliationAfter type
      reconciliationCode := none
      lastProviderEventId := some event.providerEventId
      lastProviderEventAt := some event.providerCreatedAt } := by
  unfold received
  rw [hcode]
  exact if_pos happlies

theorem received_of_not_applies (hcode : matchCode intent event = none)
    (happlies : applies intent event type = false) : received event type intent = intent := by
  unfold received
  rw [hcode]
  exact if_neg (by simp [happlies])

theorem reconciliationAfter_ne_matched (type : PaymentEventType) :
    reconciliationAfter type ≠ .matched := by
  cases type <;> decide

theorem reconciliationAfter_ne_mismatch (type : PaymentEventType) :
    reconciliationAfter type ≠ .mismatch := by
  cases type <;> decide

theorem unmatched_received (event : ProviderEvent) (type : PaymentEventType)
    (hunmatched : intent.reconciliationStatus ≠ .matched) :
    (received event type intent).reconciliationStatus ≠ .matched := by
  cases hcode : matchCode intent event with
  | some code =>
      rw [received_of_contradiction hcode hunmatched]
      exact ReconciliationStatus.noConfusion
  | none =>
      cases happlies : applies intent event type with
      | true =>
          rw [received_of_applies hcode happlies]
          exact reconciliationAfter_ne_matched type
      | false =>
          rw [received_of_not_applies hcode happlies]
          exact hunmatched

theorem checks_received (hchecks : paymentIntentsChecks intent = true) :
    paymentIntentsChecks (received event type intent) = true := by
  by_cases hmatched : intent.reconciliationStatus = .matched
  · rw [received_of_matched hmatched]
    exact hchecks
  · have hnone : intent.reconciledPaymentId.isSome = false := by
      simp only [paymentIntentsChecks, Bool.and_eq_true, beq_iff_eq] at hchecks
      rw [← hchecks.2]
      exact decide_eq_false hmatched
    have hkept : (received event type intent).reconciledPaymentId
        = intent.reconciledPaymentId := by
      unfold received
      split <;> split <;> rfl
    have hterms : SameTerms intent (received event type intent) := sameTerms_received
    have hunmatched := unmatched_received event type hmatched
    simp only [paymentIntentsChecks, Bool.and_eq_true, beq_iff_eq] at hchecks ⊢
    rw [hterms.providerIntentId, hterms.idempotencyKey, hterms.requestFingerprint, hterms.amount,
      hterms.currency, hkept, hnone]
    exact ⟨hchecks.1, decide_eq_false hunmatched⟩

end Receiving

/-! ## What one delivery does -/

section Delivering

variable {db : OnlineDb} {intent : PaymentIntent} {delivery : Delivery}

theorem intent_unique {left right : PaymentIntent} (hleft : left ∈ db.intents)
    (hright : right ∈ db.intents) (hid : left.id = right.id) : left = right :=
  CheckedTable.eq_of_key_eq hleft hright hid

theorem findFirst_of_providerIntentId (hintent : intent ∈ db.intents) :
    (db.intents.findFirst fun stored => stored.providerIntentId = intent.providerIntentId)
      = some intent := by
  cases hfind : db.intents.findFirst fun stored =>
      stored.providerIntentId = intent.providerIntentId with
  | none =>
      have hnone := List.find?_eq_none.mp hfind intent hintent
      simp at hnone
  | some found =>
      obtain ⟨hfound, hsame⟩ := CheckedTable.mem_of_findFirst hfind
      have hcollides : Indexed.collides found intent := by
        simp [Indexed.collides, of_decide_eq_true hsame]
      rw [CheckedTable.eq_of_collides hfound hintent hcollides]

theorem outcome_of_mem (hintent : intent ∈ db.intents) :
    outcome db intent.id = some (intent.status, intent.reconciliationStatus) := by
  unfold outcome
  cases hfind : db.intents.findFirst fun stored => stored.id = intent.id with
  | none =>
      have hnone := List.find?_eq_none.mp hfind intent hintent
      simp at hnone
  | some found =>
      obtain ⟨hfound, hsame⟩ := CheckedTable.mem_of_findFirst hfind
      rw [intent_unique hfound hintent (of_decide_eq_true hsame)]
      rfl

theorem get?_of_not_recorded {event : ProviderEvent} (hnew : recorded db event = false) :
    db.events.get? event.providerEventId = none := by
  simpa [recorded] using hnew

/-- The intents and the events after an event was recorded. -/
structure RecordedFor (db db' : OnlineDb) (intent : PaymentIntent) (event : ProviderEvent)
    (type : PaymentEventType) (now : Timestamp) : Prop where
  checkout : db'.checkout = db.checkout
  stalls : db'.stalls = db.stalls
  intents : ∀ stored, stored ∈ db'.intents ↔ ∃ row ∈ db.intents,
    (if row.id = intent.id then received event type row else row) = stored
  events : ∀ stored, stored ∈ db'.events ↔
    stored ∈ db.events ∨ stored = eventRow intent event type now

theorem exists_recordForIntent (intent : PaymentIntent) {event : ProviderEvent}
    (type : PaymentEventType) (now : Timestamp) (hnew : recorded db event = false) :
    ∃ db' reply, recordForIntent db intent event type now = .ok (db', reply)
      ∧ RecordedFor db db' intent event type now := by
  have hfree : ∀ stored ∈ db.events,
      ¬ Indexed.collides stored (eventRow intent event type now) := by
    intro stored hstored hcollides
    have hkey : stored.providerEventId = event.providerEventId :=
      KeyIndexed.key_eq_of_collides hcollides
    exact Table.get?_eq_none_iff.mp (get?_of_not_recorded hnew) stored hstored hkey
  obtain ⟨events, hevents⟩ := Table.exists_insert? hfree
  obtain ⟨intents, hintents⟩ := CheckedTable.exists_updateWhere? db.intents
    (fun stored => stored.id = intent.id) (received event type)
    (fun {row other} => sameTerms_received.collides)
    fun row hrow _ => checks_received (db.intents.checked row hrow)
  refine ⟨{ db with events, intents }, .recorded (eventRow intent event type now)
    (received event type intent).status, ?_, ⟨rfl, rfl, fun stored => ?_, fun stored => ?_⟩⟩
  · unfold recordForIntent updateIntent
    simp only [hevents, hintents, orFail_some, bind_ok]
    rfl
  · simpa using CheckedTable.mem_of_updateWhere? hintents
  · exact Table.mem_of_insert? hevents

/-- A delivery that has no effect. -/
theorem deliver_of_ignored
    (hignored : recorded db delivery.event = true ∨ delivery.fresh = false
      ∨ acceptedType delivery.event = none) : deliver db delivery = db := by
  unfold deliver recordOnlineOrderPaymentEvent
  cases hcheck : checkEvent delivery.event delivery.signatureTimestamp delivery.now with
  | error code => rfl
  | ok type =>
      obtain ⟨htype, hfresh⟩ := checkEvent_eq_ok.mp hcheck
      rcases hignored with hrecorded | hstale | hrefused
      · obtain ⟨existing, hexisting⟩ := Option.isSome_iff_exists.mp hrecorded
        simp only [hexisting]
        split
        · next hresult =>
          split at hresult <;> cases hresult <;> rfl
        · rfl
      · rw [Delivery.fresh, hfresh] at hstale
        cases hstale
      · rw [htype] at hrefused
        cases hrefused

theorem deliver_of_new {type : PaymentEventType} (hintent : intent ∈ db.intents)
    (hfor : delivery.event.providerIntentId = intent.providerIntentId)
    (hnew : recorded db delivery.event = false) (hfresh : delivery.fresh = true)
    (htype : acceptedType delivery.event = some type) :
    RecordedFor db (deliver db delivery) intent delivery.event type delivery.now := by
  obtain ⟨db', reply, hrecord, hrecorded⟩ :=
    exists_recordForIntent intent type delivery.now hnew
  have hcheck := checkEvent_eq_ok.mpr ⟨htype, hfresh⟩
  unfold deliver recordOnlineOrderPaymentEvent
  rw [hfor]
  simp only [hcheck, get?_of_not_recorded hnew, findFirst_of_providerIntentId hintent, hrecord]
  exact hrecorded

theorem RecordedFor.mem {db' : OnlineDb} {event : ProviderEvent} {type : PaymentEventType}
    {now : Timestamp} (hrecorded : RecordedFor db db' intent event type now)
    (hintent : intent ∈ db.intents) : received event type intent ∈ db'.intents :=
  (hrecorded.intents _).mpr ⟨intent, hintent, if_pos rfl⟩

theorem RecordedFor.recorded_iff {db' : OnlineDb} {event : ProviderEvent}
    {type : PaymentEventType} {now : Timestamp}
    (hrecorded : RecordedFor db db' intent event type now) (other : ProviderEvent) :
    recorded db' other = false ↔
      recorded db other = false ∧ other.providerEventId ≠ event.providerEventId := by
  simp only [recorded, Option.isSome_eq_false_iff, Option.isNone_iff_eq_none,
    Table.get?_eq_none_iff]
  constructor
  · intro hnone
    exact ⟨fun row hrow => hnone row ((hrecorded.events row).mpr (Or.inl hrow)),
      fun hsame => hnone _ ((hrecorded.events _).mpr (Or.inr rfl)) hsame.symm⟩
  · rintro ⟨hnone, hother⟩ row hrow
    rcases (hrecorded.events row).mp hrow with hold | rfl
    · exact hnone row hold
    · exact Ne.symm hother

end Delivering

/-! ## What a run of deliveries does -/

/-- The intent after a sequence of events was recorded for it. -/
def receivedAll (intent : PaymentIntent) (accepted : List AcceptedEvent) : PaymentIntent :=
  accepted.foldl (fun intent event => received event.1 event.2 intent) intent

theorem receivedAll_cons (intent : PaymentIntent) (event : AcceptedEvent)
    (accepted : List AcceptedEvent) : receivedAll intent (event :: accepted)
      = receivedAll (received event.1 event.2 intent) accepted := rfl

theorem receivedAll_append (intent : PaymentIntent) (before after : List AcceptedEvent) :
    receivedAll intent (before ++ after) = receivedAll (receivedAll intent before) after :=
  List.foldl_append

theorem sameTerms_receivedAll (intent : PaymentIntent) (accepted : List AcceptedEvent) :
    SameTerms intent (receivedAll intent accepted) := by
  induction accepted generalizing intent with
  | nil => exact ⟨rfl, rfl, rfl, rfl, rfl, rfl, rfl, rfl, rfl⟩
  | cons event accepted ih =>
      have hfirst : SameTerms intent (received event.1 event.2 intent) := sameTerms_received
      have hrest := ih (received event.1 event.2 intent)
      exact ⟨hrest.id.trans hfirst.id, hrest.organizationId.trans hfirst.organizationId,
        hrest.stallId.trans hfirst.stallId, hrest.orderId.trans hfirst.orderId,
        hrest.providerIntentId.trans hfirst.providerIntentId,
        hrest.idempotencyKey.trans hfirst.idempotencyKey,
        hrest.requestFingerprint.trans hfirst.requestFingerprint,
        hrest.amount.trans hfirst.amount, hrest.currency.trans hfirst.currency⟩

/-- What a run of deliveries for one intent amounts to: the events that were
taken, in the order in which they first came in time. -/
structure Taken (db db' : OnlineDb) (intent : PaymentIntent) (deliveries : List Delivery)
    (accepted : List AcceptedEvent) : Prop where
  mem : receivedAll intent accepted ∈ db'.intents
  taken : ∀ event, event ∈ accepted ↔
    (∃ delivery ∈ deliveries, delivery.event = event.1 ∧ delivery.fresh = true)
      ∧ acceptedType event.1 = some event.2 ∧ recorded db event.1 = false
  recorded : ∀ event, recorded db' event = false ↔ recorded db event = false
    ∧ ∀ other ∈ accepted, event.providerEventId ≠ other.1.providerEventId

theorem exists_taken {events : List ProviderEvent} {db : OnlineDb} (intent : PaymentIntent)
    {deliveries : List Delivery}
    (hdistinct : ∀ left ∈ events, ∀ right ∈ events,
      left.providerEventId = right.providerEventId → left = right)
    (hfor : ∀ event ∈ events, event.providerIntentId = intent.providerIntentId)
    (hknown : ∀ delivery ∈ deliveries, delivery.event ∈ events)
    (hintent : intent ∈ db.intents) :
    ∃ accepted, Taken db (exec deliver db deliveries) intent deliveries accepted := by
  induction deliveries generalizing db intent with
  | nil => exact ⟨[], hintent, by simp, by simp⟩
  | cons delivery deliveries ih =>
      have hevent := hknown delivery List.mem_cons_self
      have hknown' := fun other hother => hknown other (List.mem_cons_of_mem _ hother)
      rw [exec_cons]
      by_cases hignored : recorded db delivery.event = true ∨ delivery.fresh = false
          ∨ acceptedType delivery.event = none
      · rw [deliver_of_ignored hignored]
        obtain ⟨accepted, htaken⟩ := ih intent hfor hknown' hintent
        refine ⟨accepted, htaken.mem, fun event => (htaken.taken event).trans ?_,
          htaken.recorded⟩
        refine and_congr_left fun ⟨haccepted, hnew⟩ => ?_
        constructor
        · rintro ⟨other, hother, hrest⟩
          exact ⟨other, List.mem_cons_of_mem _ hother, hrest⟩
        · rintro ⟨other, hother, hsame, hfresh⟩
          cases hother with
          | tail _ hother => exact ⟨other, hother, hsame, hfresh⟩
          | head =>
              rw [hsame, hnew, hfresh, haccepted] at hignored
              simp at hignored
      · push Not at hignored
        obtain ⟨hnotRecorded, hfresh, haccepted⟩ := hignored
        have hnew : recorded db delivery.event = false := by simpa using hnotRecorded
        obtain ⟨type, htype⟩ := Option.ne_none_iff_exists'.mp haccepted
        have hrecorded := deliver_of_new hintent (hfor _ hevent) hnew (by simpa using hfresh) htype
        have hterms : SameTerms intent (received delivery.event type intent) :=
          sameTerms_received
        obtain ⟨accepted, htaken⟩ := ih (received delivery.event type intent)
          (fun event hmem => (hfor event hmem).trans hterms.providerIntentId.symm) hknown'
          (hrecorded.mem hintent)
        refine ⟨(delivery.event, type) :: accepted, htaken.mem, fun event => ?_, fun event => ?_⟩
        case refine_2 =>
          rw [htaken.recorded, hrecorded.recorded_iff, List.forall_mem_cons, and_assoc]
        rw [List.mem_cons, htaken.taken, hrecorded.recorded_iff]
        constructor
        · rintro (rfl | ⟨⟨other, hother, hrest⟩, haccepted, hnew, -⟩)
          · exact ⟨⟨delivery, List.mem_cons_self, rfl, by simpa using hfresh⟩, htype, hnew⟩
          · exact ⟨⟨other, List.mem_cons_of_mem _ hother, hrest⟩, haccepted, hnew⟩
        · rintro ⟨⟨other, hother, hsame, hotherFresh⟩, haccepted, hnotRecorded⟩
          by_cases hid : event.1.providerEventId = delivery.event.providerEventId
          · have hotherEvent := hknown other hother
            have heq : event.1 = delivery.event :=
              hdistinct _ (hsame ▸ hotherEvent) _ hevent hid
            rw [heq, htype] at haccepted
            exact Or.inl (Prod.ext heq (Option.some.inj haccepted).symm)
          · refine Or.inr ⟨⟨other, ?_, hsame, hotherFresh⟩, haccepted, hnotRecorded, hid⟩
            cases hother with
            | head => exact absurd (congrArg ProviderEvent.providerEventId hsame.symm) hid
            | tail _ hother => exact hother

end Stallorder.EventOrder
