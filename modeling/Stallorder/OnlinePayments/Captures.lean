import Stallorder.OnlinePayments.OnlineRun

/-!
# Captured payments

A reconciliation run either settles a captured intent, with a payment or with
the code of what contradicts it, or leaves it waiting.  It leaves it waiting
when the order has been paid otherwise, and it collects a payment from an order
that has been cancelled meanwhile; it does neither exactly as long as the order
is still one that an intent could be created for.
-/

namespace Stallorder.Captures

open OrderContract CashDatabase OrderDatabase OrderScope PaymentIntents EventOrder OnlineRun
open LatestWins Checks Run
open OrderRun hiding step
open SyncDatabase (OrderStatus PaymentStatus)

variable {db db' : OnlineDb} {call : ReconcileCall} {intent : PaymentIntent} {order : Order}
  {event : PaymentEvent}

/-! ## What a run may find -/

def inScope (call : ReconcileCall) (intent : PaymentIntent) : Bool :=
  intent.id = call.intentId && intent.organizationId = call.organizationId
    && intent.stallId = call.stallId

/-- The amount and the currency of the intent are still those of its order. -/
def termsAgree (db : OnlineDb) (intent : PaymentIntent) (order : Order) : Bool :=
  intent.amount = order.total
    && (findStall db intent.organizationId intent.stallId).all fun stall =>
      intent.currency = stall.currency

def awaitsReconciliation (intent : PaymentIntent) : Bool :=
  intent.status = .captured && intent.reconciliationStatus = .pending

/-- A captured intent that agrees with its order, and waits for its
reconciliation, has an order that an intent could still be created for. -/
def findsEligibleOrder (db : OnlineDb) (call : ReconcileCall) : Bool :=
  (db.intents.findFirst (inScope call)).all fun intent =>
    !awaitsReconciliation intent
      || (findOrder db.checkout intent.orderId).all fun order =>
        !termsAgree db intent order || orderEligible db order

/-- A captured intent that waits for its reconciliation, with its order and its
latest capture. -/
structure Waiting (db : OnlineDb) (call : ReconcileCall) (intent : PaymentIntent)
    (order : Order) (event : PaymentEvent) : Prop where
  intent_mem : intent ∈ db.intents
  called : inScope call intent = true
  order_mem : order ∈ db.checkout.orders
  orderId : order.id = intent.orderId
  organizationId : order.organizationId = intent.organizationId
  stallId : order.stallId = intent.stallId
  awaits : awaitsReconciliation intent = true
  event_mem : event ∈ db.events
  capture : isCaptureOf intent.id event = true

theorem called_unique {other : PaymentIntent} (hintent : intent ∈ db.intents)
    (hcalled : inScope call intent = true) (hother : other ∈ db.intents)
    (hotherCalled : inScope call other = true) : other = intent := by
  simp only [inScope, Bool.and_eq_true, decide_eq_true_eq] at hcalled hotherCalled
  exact intent_unique hother hintent (hotherCalled.1.1.trans hcalled.1.1.symm)

theorem findFirst_of_called (hintent : intent ∈ db.intents)
    (hcalled : inScope call intent = true) :
    db.intents.findFirst (inScope call) = some intent := by
  cases hfind : db.intents.findFirst (inScope call) with
  | none => exact absurd hcalled (List.find?_eq_none.mp hfind intent hintent)
  | some found =>
      obtain ⟨hfound, hfoundCalled⟩ := CheckedTable.mem_of_findFirst hfind
      rw [called_unique hintent hcalled hfound hfoundCalled]

theorem Waiting.findsEligibleOrder_iff (hwaiting : Waiting db call intent order event) :
    findsEligibleOrder db call = true ↔
      (termsAgree db intent order = true → orderEligible db order = true) := by
  have hfindOrder : findOrder db.checkout intent.orderId = some order :=
    hwaiting.orderId ▸ findOrder_of_mem hwaiting.order_mem
  rw [findsEligibleOrder, findFirst_of_called hwaiting.intent_mem hwaiting.called, Option.all_some,
    hwaiting.awaits, hfindOrder, Option.all_some]
  cases termsAgree db intent order <;> simp

theorem captureEvent_cases (db : OnlineDb) (intentId : Uuid) :
    (captureEvent db intentId = none ∧ ∀ event ∈ db.events, isCaptureOf intentId event = false)
      ∨ ∃ event ∈ db.events, isCaptureOf intentId event = true
        ∧ captureEvent db intentId = some event := by
  unfold captureEvent
  cases hcaptures : db.events.rows.filter (isCaptureOf intentId) with
  | nil =>
      left
      refine ⟨rfl, fun event hevent => ?_⟩
      have hnone := List.filter_eq_nil_iff.mp hcaptures event hevent
      simpa using hnone
  | cons first others =>
      right
      have hmem : latest eventOrder first others ∈ first :: others := by
        rcases latest_eq_start_or_mem eventOrder first others with hsame | ⟨hmem, -⟩
        · rw [hsame]
          exact List.mem_cons_self
        · exact List.mem_cons_of_mem _ hmem
      rw [← hcaptures] at hmem
      obtain ⟨hevent, hcapture⟩ := List.mem_filter.mp hmem
      exact ⟨_, hevent, hcapture, rfl⟩

theorem reconciliationMatchCode_eq_none_iff (hsound : Sound db)
    (hwaiting : Waiting db call intent order event) :
    reconciliationMatchCode intent order event
        ((findStall db intent.organizationId intent.stallId).map (·.currency)) = none
      ↔ termsAgree db intent order = true := by
  have hagrees := hsound.agreeing intent hwaiting.intent_mem event hwaiting.event_mem
    hwaiting.capture
  unfold reconciliationMatchCode termsAgree
  rw [hwaiting.organizationId, hwaiting.stallId, hwaiting.orderId, hagrees.organizationId,
    hagrees.stallId, hagrees.orderReference, hagrees.amount, hagrees.currency]
  cases findStall db intent.organizationId intent.stallId with
  | none => by_cases hamount : intent.amount = order.total <;> simp [hamount]
  | some stall =>
      by_cases hamount : intent.amount = order.total <;>
        by_cases hcurrency : intent.currency = stall.currency <;> simp [hamount, hcurrency]

/-! ## What a run writes -/

theorem exists_updateIntent (db : OnlineDb) (intentId : Uuid)
    {change : PaymentIntent → PaymentIntent}
    (hterms : ∀ row, SameTerms row (change row))
    (hcheck : ∀ row ∈ db.intents, row.id = intentId → paymentIntentsChecks (change row) = true) :
    ∃ intents, updateIntent db intentId change = .ok { db with intents }
      ∧ ∀ stored, stored ∈ intents ↔ ∃ row ∈ db.intents,
        (if row.id = intentId then change row else row) = stored := by
  obtain ⟨intents, hintents⟩ := CheckedTable.exists_updateWhere? db.intents
    (fun intent => intent.id = intentId) change
    (fun {row other} => (hterms row).collides)
    fun row hrow hid => hcheck row hrow (of_decide_eq_true hid)
  refine ⟨intents, ?_, fun stored => ?_⟩
  · unfold updateIntent
    rw [hintents]
    rfl
  · simpa using CheckedTable.mem_of_updateWhere? hintents

theorem mem_updateEvent {providerEventId : Text} {status : ProcessingStatus}
    {code : Option SafeErrorCode} {stored : PaymentEvent} :
    stored ∈ (updateEvent db providerEventId status code).events ↔
      (∃ row ∈ db.events, row.providerEventId = providerEventId
        ∧ processed status code row = stored)
      ∨ (stored ∈ db.events ∧ stored.providerEventId ≠ providerEventId) :=
  @Table.mem_update _ _ _ _ (processed status code) (collides_of_same_event_id fun _ => rfl) _ _ _

/-- A run that settles an intent: the intent and its capture are rewritten. -/
structure Settles (db db' : OnlineDb) (intent : PaymentIntent) (event : PaymentEvent)
    (change : PaymentIntent → PaymentIntent) (status : ProcessingStatus)
    (code : Option SafeErrorCode) : Prop where
  scope : KeepsScope db.checkout db'.checkout
  terms : ∀ row, SameTerms row (change row)
  intents : ∀ stored, stored ∈ db'.intents ↔ ∃ row ∈ db.intents,
    (if row.id = intent.id then change row else row) = stored
  events : ∀ stored, stored ∈ db'.events ↔
    (∃ row ∈ db.events, row.providerEventId = event.providerEventId
      ∧ processed status code row = stored)
    ∨ (stored ∈ db.events ∧ stored.providerEventId ≠ event.providerEventId)

theorem sameTerms_mismatched (code : SafeErrorCode) (intent : PaymentIntent) :
    SameTerms intent (mismatched code intent) :=
  ⟨rfl, rfl, rfl, rfl, rfl, rfl, rfl, rfl, rfl⟩

theorem sameTerms_matchedWith (paymentId : Uuid) (intent : PaymentIntent) :
    SameTerms intent (matchedWith paymentId intent) :=
  ⟨rfl, rfl, rfl, rfl, rfl, rfl, rfl, rfl, rfl⟩

theorem Waiting.status (hwaiting : Waiting db call intent order event) :
    intent.status = .captured ∧ intent.reconciliationStatus = .pending := by
  have hawaits := hwaiting.awaits
  simp only [awaitsReconciliation, Bool.and_eq_true, decide_eq_true_eq] at hawaits
  exact hawaits

theorem checks_of_waiting (hwaiting : Waiting db call intent order event)
    {row : PaymentIntent} (hrow : row ∈ db.intents) (hid : row.id = intent.id)
    (change : PaymentIntent → PaymentIntent) (hterms : SameTerms row (change row))
    (hnamed : decide ((change row).reconciliationStatus = .matched)
      = (change row).reconciledPaymentId.isSome) :
    paymentIntentsChecks (change row) = true := by
  have hsame : row = intent := intent_unique hrow hwaiting.intent_mem hid
  subst hsame
  have hchecks := db.intents.checked row hrow
  simp only [paymentIntentsChecks, Bool.and_eq_true, beq_iff_eq] at hchecks ⊢
  rw [hterms.providerIntentId, hterms.idempotencyKey, hterms.requestFingerprint, hterms.amount,
    hterms.currency]
  exact ⟨hchecks.1, hnamed⟩

theorem reconciledPaymentId_of_waiting (hwaiting : Waiting db call intent order event) :
    intent.reconciledPaymentId = none := by
  have hchecks := db.intents.checked intent hwaiting.intent_mem
  simp only [paymentIntentsChecks, Bool.and_eq_true, beq_iff_eq] at hchecks
  rw [hwaiting.status.2] at hchecks
  simpa using hchecks.2.symm

theorem exists_marked (hwaiting : Waiting db call intent order event) (code : SafeErrorCode) :
    ∃ db', updateIntent db intent.id (mismatched code) = .ok db' ∧ db'.checkout = db.checkout
      ∧ Settles db (updateEvent db' event.providerEventId .mismatch (some code)) intent event
        (mismatched code) .mismatch (some code) := by
  obtain ⟨intents, hupdate, hmem⟩ := exists_updateIntent db intent.id
    (sameTerms_mismatched code) fun row hrow hid => by
      refine checks_of_waiting hwaiting hrow hid _ (sameTerms_mismatched code row) ?_
      have hsame : row = intent := intent_unique hrow hwaiting.intent_mem hid
      rw [hsame]
      simp [mismatched, reconciledPaymentId_of_waiting hwaiting]
  refine ⟨{ db with intents }, hupdate, rfl, KeepsScope.refl _, sameTerms_mismatched code, hmem, ?_⟩
  intro stored
  exact mem_updateEvent

/-- The payment of a capture is never refused. -/
theorem exists_insertPayment (paymentId : Uuid)
    (horder : order ∈ db.checkout.orders) (hfree : paymentOf db.checkout order.id = none)
    (hfresh : ∀ payment ∈ db.checkout.cash.payments, payment.id ≠ paymentId) :
    ∃ payments, insertPayment db.checkout.cash (onlinePayment order paymentId) 0
        = .ok { db.checkout.cash with payments }
      ∧ db.checkout.cash.payments.insert? (onlinePayment order paymentId) = some payments := by
  have hcheck := db.checkout.orders.checked order horder
  simp only [ordersCheckoutAmountsCheck, Bool.and_eq_true, decide_eq_true_eq] at hcheck
  have hfree' : ∀ stored ∈ db.checkout.cash.payments,
      ¬ Indexed.collides stored (onlinePayment order paymentId) := by
    intro stored hstored hcollides
    have hkeys : stored.id = (onlinePayment order paymentId).id
        ∨ stored.orderId = (onlinePayment order paymentId).orderId := by
      simpa [Indexed.collides] using hcollides
    rcases hkeys with hid | horderId
    · exact hfresh stored hstored hid
    · have hnone := List.find?_eq_none.mp hfree stored hstored
      exact hnone (decide_eq_true horderId)
  obtain ⟨payments, hpayments⟩ := Table.exists_insert? hfree'
  refine ⟨payments, ?_, hpayments⟩
  have hguard : enforcePaymentCashShift db.checkout.cash none (onlinePayment order paymentId) false
      = .ok () := by
    simp [enforcePaymentCashShift, onlinePayment]
  have hamount : decide ((onlinePayment order paymentId).amount < 0) = false :=
    decide_eq_false (not_lt.mpr hcheck.1.1.2)
  unfold insertPayment
  rw [hguard, bind_ok, hamount, failWhen_false, bind_ok, hpayments, orFail_some, bind_ok]
  rfl

theorem sameScope_paidOnline (event : PaymentEvent) (now : Timestamp) (order : Order) :
    SameScope order (paidOnline event now order) :=
  ⟨rfl, rfl, rfl⟩

theorem exists_paidOnline {checkout : CheckoutDb} (horder : order ∈ checkout.orders)
    (event : PaymentEvent) (now : Timestamp) :
    ∃ checkout', updateOrder checkout order.id (fun _ => true) (paidOnline event now)
        DatabaseError.constraintViolated .constraintViolated = .ok checkout' := by
  obtain ⟨orders, horders⟩ := CheckedTable.exists_updateWhere? checkout.orders
    (fun row => row.id = order.id && true) (paidOnline event now)
    (fun {row other} hcollides => hcollides) fun row hrow _ => checkout.orders.checked row hrow
  refine ⟨{ checkout with orders }, ?_⟩
  unfold updateOrder
  rw [findOrder_of_mem horder, horders]
  rfl

/-- A run that collects a capture. -/
structure Collects (db db' : OnlineDb) (intent : PaymentIntent) (order : Order)
    (event : PaymentEvent) (paymentId : Uuid) : Prop where
  settles : Settles db db' intent event (matchedWith paymentId) .applied none
  payments : ∀ payment, payment ∈ db'.checkout.cash.payments ↔
    payment ∈ db.checkout.cash.payments ∨ payment = onlinePayment order paymentId

theorem exists_collectCapture (hwaiting : Waiting db call intent order event) (paymentId : Uuid)
    (now : Timestamp) (hfree : paymentOf db.checkout order.id = none)
    (hfresh : ∀ payment ∈ db.checkout.cash.payments, payment.id ≠ paymentId) :
    ∃ db', collectCapture db intent order event paymentId now = .ok db'
      ∧ Collects db db' intent order event paymentId := by
  obtain ⟨payments, hinsert, hpayments⟩ :=
    exists_insertPayment paymentId hwaiting.order_mem hfree hfresh
  let paid : CheckoutDb := { db.checkout with cash := { db.checkout.cash with payments } }
  have horder : order ∈ paid.orders := hwaiting.order_mem
  obtain ⟨checkout, hupdate⟩ := exists_paidOnline horder event now
  have hrewrote := rewrote_of_updateOrder hupdate
  have hscope : KeepsScope db.checkout paid := keepsScope_of_same rfl
  obtain ⟨intents, hintents, hmem⟩ := exists_updateIntent
    (updateEvent { db with checkout } event.providerEventId .applied none) intent.id
    (sameTerms_matchedWith paymentId)
    fun row hrow hid => checks_of_waiting hwaiting hrow hid _ (sameTerms_matchedWith paymentId row)
      rfl
  refine ⟨{ updateEvent { db with checkout } event.providerEventId .applied none with intents }, ?_,
    ⟨?_, sameTerms_matchedWith paymentId, hmem, fun stored => ?_⟩, fun payment => ?_⟩
  · unfold collectCapture
    rw [hinsert]
    change (updateOrder paid order.id (fun _ => true) (paidOnline event now)
      DatabaseError.constraintViolated .constraintViolated >>= _) = _
    rw [hupdate, bind_ok]
    exact hintents
  · exact hscope.trans (keepsScope_of_rewrote hrewrote (sameScope_paidOnline event now))
  · exact mem_updateEvent
  · change payment ∈ checkout.cash.payments ↔ _
    rw [hrewrote.cash]
    exact Table.mem_of_insert? hpayments

/-! ## The outcomes of a run -/

/-- How a reconciliation run may end. -/
inductive Outcome (db : OnlineDb) (call : ReconcileCall) : OnlineDb → Prop
  | settled (hsettled : ∀ intent ∈ db.intents, inScope call intent = true →
      awaitsReconciliation intent = false) : Outcome db call db
  | contradicted {db' : OnlineDb} {intent : PaymentIntent} {order : Order} {event : PaymentEvent}
      {code : SafeErrorCode} (hwaiting : Waiting db call intent order event)
      (hdisagree : termsAgree db intent order = false)
      (hcheckout : db'.checkout = db.checkout)
      (hsettles : Settles db db' intent event (mismatched code) .mismatch (some code)) :
      Outcome db call db'
  | paidOtherwise {intent : PaymentIntent} {order : Order} {event : PaymentEvent}
      (hwaiting : Waiting db call intent order event)
      (hagree : termsAgree db intent order = true)
      (hpaid : (paymentOf db.checkout order.id).isSome = true ∨ order.paymentStatus ≠ .unpaid) :
      Outcome db call db
  | collected {db' : OnlineDb} {intent : PaymentIntent} {order : Order} {event : PaymentEvent}
      (hwaiting : Waiting db call intent order event)
      (hagree : termsAgree db intent order = true)
      (hfree : paymentOf db.checkout order.id = none) (hunpaid : order.paymentStatus = .unpaid)
      (hcollects : Collects db db' intent order event call.paymentId) : Outcome db call db'

/-- Nothing waits when the called intent does not. -/
theorem settled_of_called (hintent : intent ∈ db.intents) (hcalled : inScope call intent = true)
    (hawaits : awaitsReconciliation intent = false) : Outcome db call db := by
  refine .settled fun other hother hotherCalled => ?_
  rw [called_unique hintent hcalled hother hotherCalled]
  exact hawaits

theorem exists_order_of_intent (hsound : Sound db) (hintent : intent ∈ db.intents) :
    ∃ order ∈ db.checkout.orders, order.id = intent.orderId
      ∧ order.organizationId = intent.organizationId ∧ order.stallId = intent.stallId
      ∧ findScopedOrder db intent.organizationId intent.stallId intent.orderId = some order := by
  obtain ⟨order, horder, hid, horganization, hstall⟩ := hsound.ordered intent hintent
  refine ⟨order, horder, hid, horganization, hstall, ?_⟩
  rw [← hid, ← horganization, ← hstall]
  exact findScopedOrder_of_mem horder

theorem outcome_of_waiting (hsound : Sound db) (hwaiting : Waiting db call intent order event)
    (hcapture : captureEvent db intent.id = some event)
    (hfind : findScopedOrder db intent.organizationId intent.stallId intent.orderId = some order)
    (hfresh : ∀ payment ∈ db.checkout.cash.payments, payment.id ≠ call.paymentId) :
    Outcome db call (reconciled db call) := by
  obtain ⟨hstatus, hpending⟩ := hwaiting.status
  have hcode := reconciliationMatchCode_eq_none_iff hsound hwaiting
  have hfindIntent := findFirst_of_called hwaiting.intent_mem hwaiting.called
  unfold inScope at hfindIntent
  unfold reconciled reconcileOnlineOrderPayment
  simp only [hfindIntent, hfind, hpending, hstatus, hcapture]
  rw [if_neg (by simp)]
  cases hmatch : reconciliationMatchCode intent order event
      ((findStall db intent.organizationId intent.stallId).map (·.currency)) with
  | some code =>
      obtain ⟨db', hupdate, hcheckout, hsettles⟩ := exists_marked hwaiting code
      have hdisagree : termsAgree db intent order = false := by
        rw [Bool.eq_false_iff, Ne, ← hcode, hmatch]
        exact Option.some_ne_none code
      simp only [hupdate]
      exact .contradicted hwaiting hdisagree hcheckout hsettles
  | none =>
      have hagree := hcode.mp hmatch
      by_cases hpaid : ((paymentOf db.checkout order.id).isSome
          || decide (order.paymentStatus ≠ .unpaid)) = true
      · simp only [if_pos hpaid]
        refine .paidOtherwise hwaiting hagree ?_
        simpa using hpaid
      · simp only [if_neg hpaid]
        simp only [Bool.or_eq_true, decide_eq_true_eq, not_or, not_not] at hpaid
        have hfree : paymentOf db.checkout order.id = none := by simpa using hpaid.1
        obtain ⟨db', hcollect, hcollects⟩ :=
          exists_collectCapture hwaiting call.paymentId call.now hfree hfresh
        simp only [hcollect]
        exact .collected hwaiting hagree hfree hpaid.2 hcollects

theorem outcome_of_reconciled (hsound : Sound db)
    (hfresh : ∀ payment ∈ db.checkout.cash.payments, payment.id ≠ call.paymentId) :
    Outcome db call (reconciled db call) := by
  cases hfindIntent : db.intents.findFirst (inScope call) with
  | none =>
      have hnone : reconciled db call = db := by
        unfold inScope at hfindIntent
        unfold reconciled reconcileOnlineOrderPayment
        simp only [hfindIntent]
        rfl
      rw [hnone]
      refine .settled fun intent hintent hcalled => ?_
      exact absurd hcalled (List.find?_eq_none.mp hfindIntent intent hintent)
  | some intent =>
      obtain ⟨hintent, hcalled⟩ := CheckedTable.mem_of_findFirst hfindIntent
      obtain ⟨order, horder, hid, horganization, hstall, hfind⟩ :=
        exists_order_of_intent hsound hintent
      by_cases hawaits : awaitsReconciliation intent = true
      · have hstatus := hawaits
        simp only [awaitsReconciliation, Bool.and_eq_true, decide_eq_true_eq] at hstatus
        rcases captureEvent_cases db intent.id with ⟨-, hnone⟩ | ⟨event, hevent, his, hcapture⟩
        · obtain ⟨event, hevent, his⟩ := hsound.captured intent hintent hstatus.1 hstatus.2
          rw [hnone event hevent] at his
          cases his
        · have hwaiting : Waiting db call intent order event :=
            ⟨hintent, hcalled, horder, hid, horganization, hstall, hawaits, hevent, his⟩
          exact outcome_of_waiting hsound hwaiting hcapture hfind hfresh
      · have hsame : reconciled db call = db := by
          unfold inScope at hfindIntent
          unfold reconciled reconcileOnlineOrderPayment
          simp only [hfindIntent, hfind]
          cases hreconciliation : intent.reconciliationStatus with
          | matched =>
              have hchecks := db.intents.checked intent hintent
              simp only [paymentIntentsChecks, Bool.and_eq_true, beq_iff_eq] at hchecks
              rw [hreconciliation] at hchecks
              obtain ⟨paid, hpaid⟩ := Option.isSome_iff_exists.mp
                ((hchecks.2.symm.trans (decide_eq_true rfl)))
              simp only [hpaid]
              rfl
          | mismatch => rfl
          | pending =>
              have hstatus : intent.status ≠ .captured := by
                intro hcaptured
                exact hawaits (by simp [awaitsReconciliation, hcaptured, hreconciliation])
              simp only [if_pos hstatus]
              rfl
          | notApplicable =>
              have hstatus : intent.status ≠ .captured :=
                fun hcaptured => hsound.applicable intent hintent hcaptured hreconciliation
              simp only [if_pos hstatus]
              rfl
        rw [hsame]
        exact settled_of_called hintent hcalled (by simpa using hawaits)

/-! ## The invariant -/

theorem sound_of_settles {change : PaymentIntent → PaymentIntent} {status : ProcessingStatus}
    {code : Option SafeErrorCode} (hsound : Sound db)
    (hwaiting : Waiting db call intent order event)
    (hsettles : Settles db db' intent event change status code)
    (hsettled : (change intent).reconciliationStatus = .matched
      ∨ ((change intent).reconciliationStatus = .mismatch
        ∧ (change intent).reconciliationCode.isSome = true)) : Sound db' := by
  have hrefersTo : event.intentId = intent.id := by
    have hcapture := hwaiting.capture
    simp only [isCaptureOf, Bool.and_eq_true, decide_eq_true_eq] at hcapture
    exact hcapture.1.1
  have hrow : ∀ stored ∈ db'.intents, ∃ row ∈ db.intents, SameTerms row stored
      ∧ ((stored = row ∧ row.id ≠ intent.id) ∨ stored = change intent) := by
    intro stored hstored
    obtain ⟨row, hmem, hchanged⟩ := (hsettles.intents stored).mp hstored
    by_cases hid : row.id = intent.id
    · rw [if_pos hid] at hchanged
      have hsame : row = intent := intent_unique hmem hwaiting.intent_mem hid
      exact ⟨row, hmem, hchanged ▸ hsettles.terms row, Or.inr (hsame ▸ hchanged.symm)⟩
    · rw [if_neg hid] at hchanged
      exact ⟨row, hmem, hchanged ▸ ⟨rfl, rfl, rfl, rfl, rfl, rfl, rfl, rfl, rfl⟩,
        Or.inl ⟨hchanged.symm, hid⟩⟩
  have hback : ∀ stored ∈ db'.events, ∃ row ∈ db.events,
      (stored = row ∨ (row = event ∧ stored = processed status code event)) := by
    intro stored hstored
    rcases (hsettles.events stored).mp hstored with ⟨row, hmem, hid, hprocessed⟩ | ⟨hmem, -⟩
    · have hsame : row = event := Table.eq_of_key_eq hmem hwaiting.event_mem hid
      exact ⟨row, hmem, Or.inr ⟨hsame, hsame ▸ hprocessed.symm⟩⟩
    · exact ⟨stored, hmem, Or.inl rfl⟩
  constructor
  · intro stored hstored
    obtain ⟨row, hmem, hterms, -⟩ := hrow stored hstored
    obtain ⟨order, horder, hid, horganization, hstall⟩ := hsound.ordered row hmem
    obtain ⟨order', horder', hscope⟩ := hsettles.scope order horder
    rw [hterms.orderId, hterms.organizationId, hterms.stallId]
    exact ⟨order', horder', hscope.id.trans hid, hscope.organizationId.trans horganization,
      hscope.stallId.trans hstall⟩
  · intro stored hstored hmismatch
    obtain ⟨row, hmem, -, ⟨rfl, -⟩ | rfl⟩ := hrow stored hstored
    · exact hsound.coded stored hmem hmismatch
    · rcases hsettled with hmatched | ⟨-, hcode⟩
      · rw [hmatched] at hmismatch
        cases hmismatch
      · exact hcode
  · intro stored hstored hcaptured
    obtain ⟨row, hmem, -, ⟨rfl, -⟩ | rfl⟩ := hrow stored hstored
    · exact hsound.applicable stored hmem hcaptured
    · rcases hsettled with hmatched | ⟨hmismatch, -⟩
      · rw [hmatched]
        exact ReconciliationStatus.noConfusion
      · rw [hmismatch]
        exact ReconciliationStatus.noConfusion
  · intro stored hstored hcaptured hpending
    obtain ⟨row, hmem, -, ⟨rfl, hother⟩ | rfl⟩ := hrow stored hstored
    · obtain ⟨capture, hcapture, his⟩ := hsound.captured stored hmem hcaptured hpending
      refine ⟨capture, (hsettles.events capture).mpr (Or.inr ⟨hcapture, fun hid => ?_⟩), his⟩
      have hsame : capture = event := Table.eq_of_key_eq hcapture hwaiting.event_mem hid
      simp only [isCaptureOf, Bool.and_eq_true, decide_eq_true_eq] at his
      exact hother (his.1.1.symm.trans (hsame ▸ hrefersTo))
    · rcases hsettled with hmatched | ⟨hmismatch, -⟩
      · rw [hmatched] at hpending
        cases hpending
      · rw [hmismatch] at hpending
        cases hpending
  · intro stored hstored
    obtain ⟨old, hold, hsame⟩ := hback stored hstored
    have hreference : stored.intentId = old.intentId := by
      rcases hsame with rfl | ⟨rfl, rfl⟩ <;> rfl
    obtain ⟨row, hmem, hrefers⟩ := hsound.referring old hold
    refine ⟨_, (hsettles.intents _).mpr ⟨row, hmem, rfl⟩, ?_⟩
    rw [hreference, ← hrefers]
    split
    · exact (hsettles.terms row).id
    · rfl
  · intro stored hstored capture hcapture his
    obtain ⟨row, hmem, hterms, -⟩ := hrow stored hstored
    rw [hterms.id] at his
    apply agreesWith_of_sameTerms hterms
    obtain ⟨old, hold, rfl | ⟨rfl, rfl⟩⟩ := hback capture hcapture
    · exact hsound.agreeing row hmem capture hold his
    · simp only [isCaptureOf, Bool.and_eq_true, decide_eq_true_eq] at his
      have hsame : row = intent :=
        intent_unique hmem hwaiting.intent_mem (his.1.1.symm.trans hrefersTo)
      rw [hsame]
      have hagrees := hsound.agreeing intent hwaiting.intent_mem old hold hwaiting.capture
      exact ⟨hagrees.organizationId, hagrees.stallId, hagrees.orderReference, hagrees.amount,
        hagrees.currency⟩

theorem sound_of_outcome (hsound : Sound db) (houtcome : Outcome db call db') : Sound db' := by
  cases houtcome with
  | settled hsettled => exact hsound
  | contradicted hwaiting hdisagree hcheckout hsettles =>
      exact sound_of_settles hsound hwaiting hsettles (Or.inr ⟨rfl, rfl⟩)
  | paidOtherwise hwaiting hagree hpaid => exact hsound
  | collected hwaiting hagree hfree hunpaid hcollects =>
      exact sound_of_settles hsound hwaiting hcollects.settles (Or.inl rfl)

/-! ## What a run has to do -/

/-- A payment is collected over the amounts of the intent and of its order, and
from an order that is open; a captured intent ends matched, or with the code of
what contradicts it. -/
structure SettlesProperly (db db' : OnlineDb) (call : ReconcileCall) : Prop where
  collected : ∀ payment ∈ db'.checkout.cash.payments, payment ∉ db.checkout.cash.payments →
    ∃ intent ∈ db.intents, inScope call intent = true ∧ ∃ order ∈ db.checkout.orders,
      order.id = intent.orderId ∧ payment.orderId = order.id ∧ payment.amount = intent.amount
        ∧ payment.amount = order.total ∧ order.status ≠ .cancelled ∧ order.status ≠ .expired
  settled : ∀ intent ∈ db.intents, inScope call intent = true → intent.status = .captured →
    ∃ intent' ∈ db'.intents, intent'.id = intent.id
      ∧ (intent'.reconciliationStatus = .matched
        ∨ (intent'.reconciliationStatus = .mismatch
          ∧ intent'.reconciliationCode.isSome = true))

theorem orderEligible_iff (hwaiting : Waiting db call intent order event)
    (hagree : termsAgree db intent order = true) : orderEligible db order = true ↔
      (order.status ≠ .cancelled ∧ order.status ≠ .expired) ∧ order.paymentStatus = .unpaid
        ∧ paymentOf db.checkout order.id = none := by
  have hchecks := db.intents.checked intent hwaiting.intent_mem
  simp only [paymentIntentsChecks, Bool.and_eq_true, decide_eq_true_eq] at hchecks
  simp only [termsAgree, Bool.and_eq_true, decide_eq_true_eq] at hagree
  have hpositive : 0 < order.total := hagree.1 ▸ hchecks.1.1.2
  simp [orderEligible, hpositive, and_assoc]

/-- A settled intent is in the table with its change. -/
theorem Settles.mem {change : PaymentIntent → PaymentIntent} {status : ProcessingStatus}
    {code : Option SafeErrorCode} (hsettles : Settles db db' intent event change status code)
    (hintent : intent ∈ db.intents) : change intent ∈ db'.intents :=
  (hsettles.intents _).mpr ⟨intent, hintent, if_pos rfl⟩

theorem not_settlesProperly_of_paidOtherwise (hwaiting : Waiting db call intent order event) :
    ¬ SettlesProperly db db call := by
  intro hproperly
  obtain ⟨intent', hintent', hid, hstatus⟩ :=
    hproperly.settled intent hwaiting.intent_mem hwaiting.called hwaiting.status.1
  rw [intent_unique hintent' hwaiting.intent_mem hid, hwaiting.status.2] at hstatus
  rcases hstatus with hmatched | ⟨hmismatch, -⟩
  · cases hmatched
  · cases hmismatch

/-- A run settles a captured intent properly exactly when it finds its order
eligible. -/
theorem settlesProperly_iff (hsound : Sound db) (houtcome : Outcome db call db') :
    SettlesProperly db db' call ↔ findsEligibleOrder db call = true := by
  cases houtcome with
  | settled hsettled =>
      have hfinds : findsEligibleOrder db call = true := by
        unfold findsEligibleOrder
        cases hfind : db.intents.findFirst (inScope call) with
        | none => rfl
        | some intent =>
            obtain ⟨hintent, hcalled⟩ := CheckedTable.mem_of_findFirst hfind
            rw [Option.all_some, hsettled intent hintent hcalled]
            rfl
      refine iff_of_true ⟨fun payment hpayment hnew => absurd hpayment hnew, ?_⟩ hfinds
      intro intent hintent hcalled hcaptured
      refine ⟨intent, hintent, rfl, ?_⟩
      have hawaits := hsettled intent hintent hcalled
      have happlicable := hsound.applicable intent hintent hcaptured
      have hcoded := hsound.coded intent hintent
      cases hstatus : intent.reconciliationStatus with
      | pending => simp [awaitsReconciliation, hcaptured, hstatus] at hawaits
      | matched => exact Or.inl rfl
      | mismatch => exact Or.inr ⟨rfl, hcoded hstatus⟩
      | notApplicable => exact absurd hstatus happlicable
  | @contradicted _ intent order event code hwaiting hdisagree hcheckout hsettles =>
      refine iff_of_true ⟨fun payment hpayment hnew => ?_, fun other hother hcalled _ => ?_⟩ ?_
      · rw [hcheckout] at hpayment
        exact absurd hpayment hnew
      · rw [called_unique hwaiting.intent_mem hwaiting.called hother hcalled]
        exact ⟨_, hsettles.mem hwaiting.intent_mem, rfl, Or.inr ⟨rfl, rfl⟩⟩
      · rw [hwaiting.findsEligibleOrder_iff, hdisagree]
        intro hagree
        cases hagree
  | @paidOtherwise intent order event hwaiting hagree hpaid =>
      refine iff_of_false (not_settlesProperly_of_paidOtherwise hwaiting) ?_
      rw [hwaiting.findsEligibleOrder_iff, orderEligible_iff hwaiting hagree]
      intro heligible
      obtain ⟨-, hunpaid, hfree⟩ := heligible hagree
      rcases hpaid with hsome | hstatus
      · rw [hfree] at hsome
        cases hsome
      · exact hstatus hunpaid
  | @collected _ intent order event hwaiting hagree hfree hunpaid hcollects =>
      rw [hwaiting.findsEligibleOrder_iff, orderEligible_iff hwaiting hagree]
      have hamount : intent.amount = order.total := by
        simp only [termsAgree, Bool.and_eq_true, decide_eq_true_eq] at hagree
        exact hagree.1
      constructor
      · intro hproperly _
        have hpayment := (hcollects.payments _).mpr (Or.inr rfl)
        have hnew : onlinePayment order call.paymentId ∉ db.checkout.cash.payments := by
          intro hold
          exact List.find?_eq_none.mp hfree _ hold (decide_eq_true rfl)
        obtain ⟨_, _, _, found, hfound, -, hpays, -, -, hopen⟩ :=
          hproperly.collected _ hpayment hnew
        have hsame : found = order := order_unique hfound hwaiting.order_mem hpays.symm
        exact ⟨hsame ▸ hopen, hunpaid, hfree⟩
      · intro heligible
        obtain ⟨hopen, -, -⟩ := heligible hagree
        refine ⟨fun payment hpayment hnew => ?_, fun other hother hcalled _ => ?_⟩
        · rcases (hcollects.payments payment).mp hpayment with hold | rfl
          · exact absurd hold hnew
          · exact ⟨intent, hwaiting.intent_mem, hwaiting.called, order, hwaiting.order_mem,
              hwaiting.orderId, rfl, hamount.symm, rfl, hopen⟩
        · rw [called_unique hwaiting.intent_mem hwaiting.called hother hcalled]
          exact ⟨_, hcollects.settles.mem hwaiting.intent_mem, rfl, Or.inl rfl⟩

/-! ## Runs -/

/-- A generated id is not in use. -/
def generatesUnusedId (system : OnlineSystem) : OnlineRequest → Bool
  | .reconcile call =>
      system.db.checkout.cash.payments.rows.all fun payment => payment.id ≠ call.paymentId
  | _ => true

def findsEligible (system : OnlineSystem) : OnlineRequest → Bool
  | .reconcile call => findsEligibleOrder system.db call
  | _ => true

def settles (system : OnlineSystem) : OnlineRequest → Prop
  | .reconcile call => SettlesProperly system.db (reconciled system.db call) call
  | _ => True

theorem outcome_of_generates {system : OnlineSystem} (hsound : Sound system.db)
    (hid : generatesUnusedId system (.reconcile call) = true) :
    Outcome system.db call (reconciled system.db call) := by
  apply outcome_of_reconciled hsound
  intro payment hpayment
  exact of_decide_eq_true (List.all_eq_true.mp hid payment hpayment)

theorem sound_step (system : OnlineSystem) (request : OnlineRequest) (hsound : Sound system.db)
    (hid : generatesUnusedId system request = true) : Sound (step system request).db := by
  cases request with
  | checkout request =>
      exact hsound.of_keepsScope rfl rfl (keepsScope_step ⟨system.db.checkout, system.reads⟩ request)
  | putStall stall => exact hsound.of_keepsScope rfl rfl (KeepsScope.refl _)
  | createIntent request enabled intentId => exact sound_created hsound request enabled intentId
  | receiveEvent delivery => exact sound_deliver hsound delivery
  | reconcile call => exact sound_of_outcome hsound (outcome_of_generates hsound hid)

theorem settles_iff {system : OnlineSystem} {request : OnlineRequest} (hsound : Sound system.db)
    (hid : generatesUnusedId system request = true) :
    settles system request ↔ findsEligible system request = true := by
  cases request with
  | reconcile call => exact settlesProperly_iff hsound (outcome_of_generates hsound hid)
  | checkout request => exact iff_of_true trivial rfl
  | putStall stall => exact iff_of_true trivial rfl
  | createIntent request enabled intentId => exact iff_of_true trivial rfl
  | receiveEvent delivery => exact iff_of_true trivial rfl

/-- An order has one payment and one intent at most. -/
structure AtMostOnce (db : OnlineDb) : Prop where
  payments : ∀ left ∈ db.checkout.cash.payments, ∀ right ∈ db.checkout.cash.payments,
    left.orderId = right.orderId → left = right
  intents : ∀ left ∈ db.intents, ∀ right ∈ db.intents, left.orderId = right.orderId → left = right

theorem atMostOnce (db : OnlineDb) : AtMostOnce db where
  payments left hleft right hright horder :=
    Table.eq_of_collides hleft hright (by simp [Indexed.collides, horder])
  intents left hleft right hright horder :=
    CheckedTable.eq_of_collides hleft hright (by simp [Indexed.collides, horder])

theorem sound_initial : Sound OnlineSystem.initial.db := sound_empty

theorem safely_settles_iff {system : OnlineSystem} {requests : List OnlineRequest}
    (hsound : Sound system.db)
    (hids : Safely step (fun system request => generatesUnusedId system request = true) system
      requests) :
    Safely step settles system requests
      ↔ Safely step (fun system request => findsEligible system request = true) system
        requests := by
  induction requests generalizing system with
  | nil => exact Iff.rfl
  | cons request requests ih =>
      exact and_congr (settles_iff hsound hids.1)
        (ih (sound_step system request hsound hids.1) hids.2)

/-- However the requests are ordered, an order has one payment and one intent at
most, and the reconciliation runs settle every captured intent properly exactly
when each of them finds an eligible order. -/
theorem captures_settled_iff (requests : List OnlineRequest)
    (hids : Safely step (fun system request => generatesUnusedId system request = true)
      OnlineSystem.initial requests) :
    AtMostOnce (exec step OnlineSystem.initial requests).db
      ∧ (Safely step settles OnlineSystem.initial requests
        ↔ Safely step (fun system request => findsEligible system request = true)
          OnlineSystem.initial requests) :=
  ⟨atMostOnce _, safely_settles_iff sound_initial hids⟩

/-! ## Sample runs -/

def sampleStall : Stall where
  id := 1
  organizationId := 1
  currency := ['T', 'W', 'D']

def sampleIntentRequest : IntentRequest where
  organizationId := 1
  stallId := 1
  orderId := 20
  idempotencyKey := uuidText 2
  requestFingerprint := hexText 64 3

/-- The capture of the intent that the request creates. -/
def sampleCapture : Delivery where
  event := {
    provider := .localMock
    providerEventId := eventIdPrefix ++ hexText 32 7
    providerIntentId := localMockIntentId 1
    eventType := some .captured
    providerCreatedAt := 10
    bodySha256 := hexText 64 7
    orderReference := uuidText 20
    amount := 100
    currency := ['T', 'W', 'D'] }
  signatureTimestamp := 0
  now := 0

def sampleCall : ReconcileCall where
  organizationId := 1
  stallId := 1
  intentId := 1
  paymentId := 90
  now := 20

/-- An order whose intent has been captured. -/
def sampleCaptured : List OnlineRequest :=
  [.putStall sampleStall,
    .checkout (.cashCommand CashDrawer.sampleScope (CashDrawer.sampleIds 1) 0 (.open 500 none)),
    .checkout (.placeOrder sampleOrder),
    .createIntent sampleIntentRequest true 1,
    .receiveEvent sampleCapture,
    .checkout (.readOrder 20)]

/-- The capture is reconciled, twice. -/
def sampleReconciled : List OnlineRequest :=
  sampleCaptured ++ [.reconcile sampleCall, .reconcile { sampleCall with paymentId := 91 }]

theorem sample_captures_settled :
    AtMostOnce (exec step OnlineSystem.initial sampleReconciled).db
      ∧ Safely step settles OnlineSystem.initial sampleReconciled := by
  have hids : Safely step (fun system request => generatesUnusedId system request = true)
      OnlineSystem.initial sampleReconciled := by
    decide +kernel
  have hfinds : Safely step (fun system request => findsEligible system request = true)
      OnlineSystem.initial sampleReconciled := by
    decide +kernel
  obtain ⟨honce, hsettles⟩ := captures_settled_iff sampleReconciled hids
  exact ⟨honce, hsettles.mpr hfinds⟩

/-- The order is cancelled before the capture is reconciled. -/
def cancelledThenReconciled : List OnlineRequest :=
  sampleCaptured ++ [.checkout (.patch sampleOrder (.cancel []) sampleContext),
    .reconcile sampleCall]

/-- The staff completes the order with a payment before the capture is
reconciled. -/
def paidThenReconciled : List OnlineRequest :=
  sampleCaptured ++ [.checkout (.patch sampleOrder (.complete none sampleCheckout) sampleContext),
    .reconcile sampleCall]

/-- A payment is collected from the cancelled order, and the intent of the paid
order keeps waiting. -/
theorem captures_not_settled :
    (∃ order ∈ (exec step OnlineSystem.initial cancelledThenReconciled).db.checkout.orders,
        order.id = 20 ∧ order.status = .cancelled
          ∧ ∃ payment ∈
              (exec step OnlineSystem.initial cancelledThenReconciled).db.checkout.cash.payments,
            payment.orderId = 20)
      ∧ (∃ intent ∈ (exec step OnlineSystem.initial paidThenReconciled).db.intents,
        intent.id = 1 ∧ intent.status = .captured ∧ intent.reconciliationStatus = .pending)
      ∧ ¬ Safely step settles OnlineSystem.initial cancelledThenReconciled
      ∧ ¬ Safely step settles OnlineSystem.initial paidThenReconciled := by
  have hcancelled : ∃ order ∈
      (exec step OnlineSystem.initial cancelledThenReconciled).db.checkout.orders.table.rows,
        order.id = 20 ∧ order.status = .cancelled
          ∧ ∃ payment ∈
              (exec step OnlineSystem.initial cancelledThenReconciled).db.checkout.cash.payments.rows,
            payment.orderId = 20 := by
    decide +kernel
  have hwaiting : ∃ intent ∈
      (exec step OnlineSystem.initial paidThenReconciled).db.intents.table.rows,
        intent.id = 1 ∧ intent.status = .captured ∧ intent.reconciliationStatus = .pending := by
    decide +kernel
  refine ⟨hcancelled, hwaiting, ?_, ?_⟩
  · rw [safely_settles_iff sound_initial (by decide +kernel)]
    decide +kernel
  · rw [safely_settles_iff sound_initial (by decide +kernel)]
    decide +kernel

end Stallorder.Captures
