import Stallorder.Checkout.OrderScope
import Stallorder.OnlinePayments.EventOrder

/-!
# Runs with online payments

Intents are created, events arrive and intents are reconciled while the staff
takes payments, edits items and cancels orders.  Whatever the order of these
requests, every intent belongs to an order of its scope, a contradicted intent
names what contradicts it, and a captured one that waits for its reconciliation
has a recorded capture that agrees with it.
-/

namespace Stallorder.OnlineRun

open OrderContract OrderDatabase OrderRun OrderScope PaymentIntents EventOrder
open SyncDatabase (OrderStatus PaymentStatus)

/-! ## Requests -/

structure ReconcileCall where
  organizationId : Uuid
  stallId : Uuid
  intentId : Uuid
  /-- The id that is generated for the payment. -/
  paymentId : Uuid
  now : Timestamp

/-- The tables, and the orders that requests under way have read. -/
structure OnlineSystem where
  db : OnlineDb
  reads : List Order

inductive OnlineRequest
  | checkout (request : CheckoutRequest)
  | putStall (stall : Stall)
  | createIntent (request : IntentRequest) (enabled : Bool) (intentId : Uuid)
  | receiveEvent (delivery : Delivery)
  | reconcile (call : ReconcileCall)

def OnlineSystem.initial : OnlineSystem where
  db := .empty
  reads := []

/-- What a call leaves; one that raises leaves everything as it was. -/
def committed {Reply : Type} (db : OnlineDb) :
    Except DatabaseError (OnlineDb × Reply) → OnlineDb
  | .ok (db', _) => db'
  | .error _ => db

def created (db : OnlineDb) (request : IntentRequest) (enabled : Bool) (intentId : Uuid) :
    OnlineDb :=
  committed db (createOnlineOrderPaymentIntent db request enabled intentId)

def reconciled (db : OnlineDb) (call : ReconcileCall) : OnlineDb :=
  committed db (reconcileOnlineOrderPayment db call.organizationId call.stallId call.intentId
    call.paymentId call.now)

def step (system : OnlineSystem) : OnlineRequest → OnlineSystem
  | .checkout request =>
      let next := OrderRun.step ⟨system.db.checkout, system.reads⟩ request
      { db := { system.db with checkout := next.db }, reads := next.reads }
  | .putStall stall => { system with db := { system.db with stalls := system.db.stalls.put stall } }
  | .createIntent request enabled intentId =>
      { system with db := created system.db request enabled intentId }
  | .receiveEvent delivery => { system with db := deliver system.db delivery }
  | .reconcile call => { system with db := reconciled system.db call }

/-! ## What holds in every reachable state -/

/-- The terms of a recorded event are those of its intent. -/
structure AgreesWith (intent : PaymentIntent) (event : PaymentEvent) : Prop where
  organizationId : event.organizationId = intent.organizationId
  stallId : event.stallId = intent.stallId
  orderReference : event.orderReference = uuidText intent.orderId
  amount : event.amount = intent.amount
  currency : event.currency = intent.currency

structure Sound (db : OnlineDb) : Prop where
  ordered : ∀ intent ∈ db.intents, ∃ order ∈ db.checkout.orders, order.id = intent.orderId
    ∧ order.organizationId = intent.organizationId ∧ order.stallId = intent.stallId
  coded : ∀ intent ∈ db.intents, intent.reconciliationStatus = .mismatch →
    intent.reconciliationCode.isSome = true
  applicable : ∀ intent ∈ db.intents, intent.status = .captured →
    intent.reconciliationStatus ≠ .notApplicable
  captured : ∀ intent ∈ db.intents, intent.status = .captured →
    intent.reconciliationStatus = .pending → ∃ event ∈ db.events, isCaptureOf intent.id event = true
  referring : ∀ event ∈ db.events, ∃ intent ∈ db.intents, intent.id = event.intentId
  agreeing : ∀ intent ∈ db.intents, ∀ event ∈ db.events, isCaptureOf intent.id event = true →
    AgreesWith intent event

variable {db db' : OnlineDb}

theorem sound_empty : Sound OnlineDb.empty where
  ordered intent hintent := absurd hintent (CheckedTable.notMem_empty intent)
  coded intent hintent := absurd hintent (CheckedTable.notMem_empty intent)
  applicable intent hintent := absurd hintent (CheckedTable.notMem_empty intent)
  captured intent hintent := absurd hintent (CheckedTable.notMem_empty intent)
  referring event hevent := absurd hevent (Table.notMem_empty event)
  agreeing intent hintent := absurd hintent (CheckedTable.notMem_empty intent)

theorem Sound.of_keepsScope (hsound : Sound db) (hintents : db'.intents = db.intents)
    (hevents : db'.events = db.events) (hscope : KeepsScope db.checkout db'.checkout) :
    Sound db' := by
  constructor
  · intro intent hintent
    rw [hintents] at hintent
    obtain ⟨order, horder, hid, horganization, hstall⟩ := hsound.ordered intent hintent
    obtain ⟨order', horder', hsame⟩ := hscope order horder
    exact ⟨order', horder', hsame.id.trans hid, hsame.organizationId.trans horganization,
      hsame.stallId.trans hstall⟩
  · rw [hintents]
    exact hsound.coded
  · rw [hintents]
    exact hsound.applicable
  · rw [hintents, hevents]
    exact hsound.captured
  · rw [hintents, hevents]
    exact hsound.referring
  · rw [hintents, hevents]
    exact hsound.agreeing

/-! ## Creating an intent -/

theorem mem_of_findScopedOrder {organizationId stallId orderId : Uuid} {order : Order}
    (hfind : findScopedOrder db organizationId stallId orderId = some order) :
    order ∈ db.checkout.orders ∧ order.id = orderId ∧ order.organizationId = organizationId
      ∧ order.stallId = stallId := by
  obtain ⟨hfound, hscope⟩ := Option.filter_eq_some_iff.mp hfind
  obtain ⟨horder, hid⟩ := mem_of_findOrder hfound
  simp only [Bool.and_eq_true, decide_eq_true_eq] at hscope
  exact ⟨horder, hid, hscope.1, hscope.2⟩

theorem findScopedOrder_of_mem {order : Order} (horder : order ∈ db.checkout.orders) :
    findScopedOrder db order.organizationId order.stallId order.id = some order :=
  Option.filter_eq_some_iff.mpr ⟨findOrder_of_mem horder, by simp⟩

/-- A call that creates an intent does so for an eligible order; any other
leaves the tables as they are. -/
theorem created_cases (db : OnlineDb) (request : IntentRequest) (enabled : Bool)
    (intentId : Uuid) : created db request enabled intentId = db
      ∨ ∃ order currency intents, order ∈ db.checkout.orders ∧ order.id = request.orderId
        ∧ order.organizationId = request.organizationId ∧ order.stallId = request.stallId
        ∧ orderEligible db order = true
        ∧ db.intents.insert? (newIntent request intentId order currency) = some intents
        ∧ created db request enabled intentId = { db with intents } := by
  unfold created createOnlineOrderPaymentIntent
  split
  · exact Or.inl rfl
  · split
    · split <;> exact Or.inl rfl
    · split
      · exact Or.inl rfl
      · split
        · exact Or.inl rfl
        · split
          · exact Or.inl rfl
          · next order stall hfound =>
            split
            · exact Or.inl rfl
            · next heligible =>
              obtain ⟨order', hfind, hrest⟩ := Option.bind_eq_some_iff.mp hfound
              obtain ⟨stall', -, hpair⟩ := Option.bind_eq_some_iff.mp hrest
              cases hpair
              obtain ⟨horder, hid, horganization, hstall⟩ := mem_of_findScopedOrder hfind
              cases hinsert : db.intents.insert?
                  (newIntent request intentId order stall.currency) with
              | none =>
                  simp only [hinsert]
                  exact Or.inl rfl
              | some intents =>
                  refine Or.inr ⟨order, stall.currency, intents, horder, hid, horganization,
                    hstall, by simpa using heligible, hinsert, ?_⟩
                  simp only [hinsert]
                  rfl

theorem sound_created (hsound : Sound db) (request : IntentRequest) (enabled : Bool)
    (intentId : Uuid) : Sound (created db request enabled intentId) := by
  rcases created_cases db request enabled intentId with
    hsame | ⟨order, currency, intents, horder, hid, horganization, hstall, -, hinsert, hdb⟩
  · rw [hsame]
    exact hsound
  rw [hdb]
  have hmem : ∀ {stored : PaymentIntent}, stored ∈ intents ↔ stored ∈ db.intents
      ∨ stored = newIntent request intentId order currency := CheckedTable.mem_of_insert? hinsert
  constructor
  · intro intent hintent
    rcases hmem.mp hintent with hold | rfl
    · exact hsound.ordered intent hold
    · exact ⟨order, horder, hid, horganization, hstall⟩
  · intro intent hintent hmismatch
    rcases hmem.mp hintent with hold | rfl
    · exact hsound.coded intent hold hmismatch
    · cases hmismatch
  · intro intent hintent hcaptured
    rcases hmem.mp hintent with hold | rfl
    · exact hsound.applicable intent hold hcaptured
    · cases hcaptured
  · intro intent hintent hcaptured hpending
    rcases hmem.mp hintent with hold | rfl
    · exact hsound.captured intent hold hcaptured hpending
    · cases hcaptured
  · intro event hevent
    obtain ⟨intent, hintent, hrefers⟩ := hsound.referring event hevent
    exact ⟨intent, hmem.mpr (Or.inl hintent), hrefers⟩
  · intro intent hintent event hevent hcapture
    rcases hmem.mp hintent with hold | rfl
    · exact hsound.agreeing intent hold event hevent hcapture
    · obtain ⟨other, hother, hrefers⟩ := hsound.referring event hevent
      simp only [isCaptureOf, Bool.and_eq_true, decide_eq_true_eq] at hcapture
      have hsame : other = newIntent request intentId order currency :=
        CheckedTable.eq_of_key_eq (hmem.mpr (Or.inl hother)) hintent
          (hrefers.trans hcapture.1.1)
      obtain ⟨table, htable, -⟩ := Option.bind_eq_some_iff.mp hinsert
      exact absurd (Indexed.collides_of_key_eq (congrArg Indexed.key hsame))
        (Table.not_collides_of_insert? htable hother)

/-! ## Receiving an event -/

theorem deliver_cases (db : OnlineDb) (delivery : Delivery) : deliver db delivery = db
    ∨ ∃ intent ∈ db.intents, ∃ type,
      RecordedFor db (deliver db delivery) intent delivery.event type delivery.now := by
  by_cases hignored : recorded db delivery.event = true ∨ delivery.fresh = false
      ∨ acceptedType delivery.event = none
  · exact Or.inl (deliver_of_ignored hignored)
  · push Not at hignored
    obtain ⟨hrecorded, hfresh, haccepted⟩ := hignored
    have hnew : recorded db delivery.event = false := by simpa using hrecorded
    obtain ⟨type, htype⟩ := Option.ne_none_iff_exists'.mp haccepted
    cases hfind : db.intents.findFirst fun intent =>
        intent.providerIntentId = delivery.event.providerIntentId with
    | some intent =>
        obtain ⟨hintent, hfor⟩ := CheckedTable.mem_of_findFirst hfind
        exact Or.inr ⟨intent, hintent, type, deliver_of_new hintent
          (of_decide_eq_true hfor).symm hnew (by simpa using hfresh) htype⟩
    | none =>
        have hcheck := checkEvent_eq_ok.mpr ⟨htype, (by simpa using hfresh : delivery.fresh = true)⟩
        left
        unfold deliver recordOnlineOrderPaymentEvent
        simp only [hcheck, get?_of_not_recorded hnew, hfind]
        rfl

theorem agreesWith_of_sameTerms {intent intent' : PaymentIntent} {event : PaymentEvent}
    (hterms : SameTerms intent intent') (hagrees : AgreesWith intent event) :
    AgreesWith intent' event where
  organizationId := hagrees.organizationId.trans hterms.organizationId.symm
  stallId := hagrees.stallId.trans hterms.stallId.symm
  orderReference := by rw [hterms.orderId]; exact hagrees.orderReference
  amount := hagrees.amount.trans hterms.amount.symm
  currency := hagrees.currency.trans hterms.currency.symm

section Receiving

variable {intent : PaymentIntent} {event : ProviderEvent} {type : PaymentEventType}
  {now : Timestamp}

theorem code_of_received (hcoded : intent.reconciliationStatus = .mismatch →
      intent.reconciliationCode.isSome = true)
    (hmismatch : (received event type intent).reconciliationStatus = .mismatch) :
    (received event type intent).reconciliationCode.isSome = true := by
  cases hcode : matchCode intent event with
  | some code =>
      by_cases hmatched : intent.reconciliationStatus = .matched
      · rw [received_of_matched hmatched] at hmismatch ⊢
        exact hcoded hmismatch
      · rw [received_of_contradiction hcode hmatched]
        rfl
  | none =>
      cases happlies : applies intent event type with
      | true =>
          rw [received_of_applies hcode happlies] at hmismatch
          exact absurd hmismatch (reconciliationAfter_ne_mismatch type)
      | false =>
          rw [received_of_not_applies hcode happlies] at hmismatch ⊢
          exact hcoded hmismatch

/-- An event that makes an intent captured, or takes it as such, is recorded as
its capture. -/
theorem isCaptureOf_eventRow (hcode : matchCode intent event = none)
    (happlies : applies intent event type = true) (htype : statusAfter type = .captured) :
    isCaptureOf intent.id (eventRow intent event type now) = true := by
  have hcaptured : type = .captured := by
    cases type <;> first | rfl | cases htype
  subst hcaptured
  simp [isCaptureOf, eventRow, eventStatus, hcode, happlies]

theorem agreesWith_eventRow
    (hcapture : isCaptureOf intent.id (eventRow intent event type now) = true) :
    AgreesWith intent (eventRow intent event type now) := by
  have hcode : matchCode intent event = none := by
    cases hfound : matchCode intent event with
    | none => rfl
    | some code => simp [isCaptureOf, eventRow, eventStatus, hfound] at hcapture
  unfold matchCode at hcode
  split at hcode
  · cases hcode
  · next horder =>
    split at hcode
    · cases hcode
    · next hamount =>
      split at hcode
      · cases hcode
      · next hcurrency =>
        exact ⟨rfl, rfl, not_not.mp horder, not_not.mp hamount, not_not.mp hcurrency⟩

theorem status_of_received (intent : PaymentIntent) (event : ProviderEvent)
    (type : PaymentEventType) : (matchCode intent event = none ∧ applies intent event type = true
      ∧ (received event type intent).status = statusAfter type
      ∧ (received event type intent).reconciliationStatus = reconciliationAfter type)
    ∨ ((received event type intent).status = intent.status
      ∧ ((received event type intent).reconciliationStatus = .mismatch
        ∨ (received event type intent).reconciliationStatus = intent.reconciliationStatus)) := by
  cases hcode : matchCode intent event with
  | some code =>
      right
      by_cases hmatched : intent.reconciliationStatus = .matched
      · rw [received_of_matched hmatched]
        exact ⟨rfl, Or.inr rfl⟩
      · rw [received_of_contradiction hcode hmatched]
        exact ⟨rfl, Or.inl rfl⟩
  | none =>
      cases happlies : applies intent event type with
      | true =>
          rw [received_of_applies hcode happlies]
          exact Or.inl ⟨rfl, rfl, rfl, rfl⟩
      | false =>
          rw [received_of_not_applies hcode happlies]
          exact Or.inr ⟨rfl, Or.inr rfl⟩

theorem Sound.recordedFor (hsound : Sound db) (hintent : intent ∈ db.intents)
    (hrecorded : RecordedFor db db' intent event type now) : Sound db' := by
  have hrow : ∀ stored ∈ db'.intents, ∃ row ∈ db.intents, SameTerms row stored
      ∧ (stored = row ∨ (row = intent ∧ stored = received event type intent)) := by
    intro stored hstored
    obtain ⟨row, hrow, hchanged⟩ := (hrecorded.intents stored).mp hstored
    by_cases hid : row.id = intent.id
    · have hsame : row = intent := intent_unique hrow hintent hid
      rw [if_pos hid, hsame] at hchanged
      exact ⟨row, hrow, hsame ▸ hchanged ▸ sameTerms_received, Or.inr ⟨hsame, hchanged.symm⟩⟩
    · rw [if_neg hid] at hchanged
      exact ⟨row, hrow, hchanged ▸ ⟨rfl, rfl, rfl, rfl, rfl, rfl, rfl, rfl, rfl⟩,
        Or.inl hchanged.symm⟩
  have hgrows : ∀ stored ∈ db.events, stored ∈ db'.events :=
    fun stored hstored => (hrecorded.events stored).mpr (Or.inl hstored)
  constructor
  · intro stored hstored
    obtain ⟨row, hmem, hterms, -⟩ := hrow stored hstored
    rw [hrecorded.checkout, hterms.orderId, hterms.organizationId, hterms.stallId]
    exact hsound.ordered row hmem
  · intro stored hstored hmismatch
    obtain ⟨row, hmem, -, rfl | ⟨rfl, rfl⟩⟩ := hrow stored hstored
    · exact hsound.coded stored hmem hmismatch
    · exact code_of_received (hsound.coded row hmem) hmismatch
  · intro stored hstored hcaptured
    obtain ⟨row, hmem, -, rfl | ⟨rfl, rfl⟩⟩ := hrow stored hstored
    · exact hsound.applicable stored hmem hcaptured
    · rcases status_of_received row event type with
        ⟨-, -, hstatus, hreconciliation⟩ | ⟨hstatus, hreconciliation | hreconciliation⟩
      · rw [hreconciliation]
        rw [hstatus] at hcaptured
        cases type <;> first | exact ReconciliationStatus.noConfusion | cases hcaptured
      · rw [hreconciliation]
        exact ReconciliationStatus.noConfusion
      · rw [hreconciliation]
        exact hsound.applicable row hmem (hstatus ▸ hcaptured)
  · intro stored hstored hcaptured hpending
    obtain ⟨row, hmem, -, rfl | ⟨rfl, rfl⟩⟩ := hrow stored hstored
    · obtain ⟨capture, hcapture, his⟩ := hsound.captured stored hmem hcaptured hpending
      exact ⟨capture, hgrows capture hcapture, his⟩
    · rw [(sameTerms_received : SameTerms row (received event type row)).id]
      rcases status_of_received row event type with
        ⟨hcode, happlies, hstatus, -⟩ | ⟨hstatus, hreconciliation | hreconciliation⟩
      · exact ⟨_, (hrecorded.events _).mpr (Or.inr rfl),
          isCaptureOf_eventRow hcode happlies (hstatus ▸ hcaptured)⟩
      · rw [hreconciliation] at hpending
        cases hpending
      · obtain ⟨capture, hcapture, his⟩ :=
          hsound.captured row hmem (hstatus ▸ hcaptured) (hreconciliation ▸ hpending)
        exact ⟨capture, hgrows capture hcapture, his⟩
  · intro stored hstored
    rcases (hrecorded.events stored).mp hstored with hold | rfl
    · obtain ⟨row, hmem, hrefers⟩ := hsound.referring stored hold
      refine ⟨_, (hrecorded.intents _).mpr ⟨row, hmem, rfl⟩, ?_⟩
      rw [← hrefers]
      split
      · exact sameTerms_received.id
      · rfl
    · exact ⟨_, hrecorded.mem hintent, sameTerms_received.id⟩
  · intro stored hstored capture hcapture his
    obtain ⟨row, hmem, hterms, -⟩ := hrow stored hstored
    rw [hterms.id] at his
    apply agreesWith_of_sameTerms hterms
    rcases (hrecorded.events capture).mp hcapture with hold | rfl
    · exact hsound.agreeing row hmem capture hold his
    · have hrefers := his
      simp only [isCaptureOf, Bool.and_eq_true, decide_eq_true_eq] at hrefers
      have hsame : row = intent := intent_unique hmem hintent hrefers.1.1.symm
      rw [hsame] at his ⊢
      exact agreesWith_eventRow his

end Receiving

theorem sound_deliver (hsound : Sound db) (delivery : Delivery) :
    Sound (deliver db delivery) := by
  rcases deliver_cases db delivery with hsame | ⟨intent, hintent, type, hrecorded⟩
  · rw [hsame]
    exact hsound
  · exact hsound.recordedFor hintent hrecorded

end Stallorder.OnlineRun
