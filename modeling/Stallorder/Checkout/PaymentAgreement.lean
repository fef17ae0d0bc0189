import Stallorder.Checkout.OrderRun

/-!
# The payment status of an order

The payment status of an order agrees with its payment as long as the order came
in unpaid and every status change that collects no payment writes the payment
status that the order still has.  A change that was decided on an older row writes
over a payment that was collected in the meantime, and the completion of a refunded
order marks it as paid again.
-/

namespace Stallorder.PaymentAgreement

open OrderContract CashDatabase CashDrawer OrderDatabase StaffCheckout OrderPatch OrderEdits
open TableCheckout OrderRun Checks Run
open CashShifts hiding step
open SyncDatabase (OrderStatus OrderItemStatus PaymentStatus)

/-- The payment status of the order is the one of its payment. -/
structure Agrees (order : Order) (payment : Payment) : Prop where
  final : payment.status = .paid ∨ payment.status = .refunded
  status : order.paymentStatus = payment.status

def IsUnpaid (order : Order) : Prop :=
  order.paymentStatus = .unpaid

/-- A status change that collects no payment writes the payment status that the
order has when it is written. -/
def keepsPaymentStatus (db : CheckoutDb) (read : Order) (update : OrderStatusUpdate) : Bool :=
  collects read update || (findOrder db read.id).all fun order =>
    writtenPaymentStatus read update = order.paymentStatus

/-- What comes in is unpaid, and what a status change writes is what it finds. -/
def writesStoredStatus (system : CheckoutSystem) : CheckoutRequest → Bool
  | .placeOrder order => order.paymentStatus = .unpaid
  | .patch read update context =>
      !patches system read update context || keepsPaymentStatus system.db read update
  | _ => true

section Steps

variable {db db' : CheckoutDb}

theorem agrees_of_same_status {order order' : Order} {payment : Payment}
    (hstatus : order'.paymentStatus = order.paymentStatus) (hagrees : Agrees order payment) :
    Agrees order' payment :=
  ⟨hagrees.final, hstatus.trans hagrees.status⟩

/-- A statement that leaves the payment status alone. -/
theorem matches_of_rewrote {orderId : Uuid} {wanted : Order → Bool} {change : Order → Order}
    (hmatches : Matches Agrees IsUnpaid db) (hrewrote : Rewrote db db' orderId wanted change)
    (hsame : ∀ order, (change order).id = order.id ∧ (change order).stallId = order.stallId)
    (hstatus : ∀ order ∈ db.orders, order.id = orderId → wanted order = true →
      (change order).paymentStatus = order.paymentStatus) : Matches Agrees IsUnpaid db' := by
  apply hmatches.rewrite hrewrote hsame
  · intro order horder hid hwanted payment _ _ hagrees
    exact agrees_of_same_status (hstatus order horder hid hwanted) hagrees
  · intro order horder hid hwanted hunpaid
    exact (hstatus order horder hid hwanted).trans hunpaid

theorem matches_of_patchOrder {read : Order} {update : OrderStatusUpdate}
    {context : PatchContext} (hmatches : Matches Agrees IsUnpaid db)
    (hstored : keepsPaymentStatus db read update = true)
    (hpatch : patchOrder db read update context = .ok db') : Matches Agrees IsUnpaid db' := by
  obtain ⟨plan, middle, hplan, hrewrote, hcreated⟩ := written_of_patchOrder hpatch
  have hsame : ∀ order, (patched read update plan context order).id = order.id
      ∧ (patched read update plan context order).stallId = order.stallId := by
    intro order
    simp
  rcases checkout_of_resolveCheckout (planned_of_planPatch hplan).checkout with
    ⟨hcollects, hnone⟩ | ⟨hcollects, completionIntent, input, checkout, rfl, hsome, -⟩
  · rcases hcreated with ⟨-, rfl⟩ | ⟨checkout, _, _, hsome, -⟩
    · apply matches_of_rewrote hmatches hrewrote hsame
      intro order horder hid hfinds
      have hfound := findOrder_of_mem horder
      rw [hid] at hfound
      simpa [keepsPaymentStatus, hcollects, hfound, patched] using hstored
    · rw [hnone] at hsome
      cases hsome
  · rcases hcreated with ⟨hnone, -⟩ | ⟨resolved, cashShiftId, cash, hresolved, hinsert, rfl⟩
    · rw [hsome] at hnone
      cases hnone
    · apply hmatches.collect hrewrote hsame rfl _ _ hinsert
      · intro order hfinds
        simp only [patchFinds, Bool.and_eq_true, decide_eq_true_eq] at hfinds
        exact hfinds.1.1.1
      · intro order _ _ _
        exact ⟨Or.inl rfl, rfl⟩

theorem matches_of_payTableOrder {checkout : ResolvedStaffCheckout} {cashShiftId : Option Uuid}
    {context : TableCheckoutContext} {entry : Order × OrderAmounts}
    (hmatches : Matches Agrees IsUnpaid db)
    (hpay : payTableOrder checkout cashShiftId context db entry = .ok db') :
    Matches Agrees IsUnpaid db' := by
  obtain ⟨middle, cash, hrewrote, hinsert, rfl⟩ := written_of_payTableOrder hpay
  apply hmatches.collect hrewrote (fun order => by simp) rfl _ _ hinsert
  · intro order hfinds
    simp only [tableFinds, Bool.and_eq_true, decide_eq_true_eq] at hfinds
    exact hfinds.1.1
  · intro order _ _ _
    exact ⟨Or.inl rfl, rfl⟩

theorem matches_of_payTable {reads : List Order} {context : TableCheckoutContext}
    (hmatches : Matches Agrees IsUnpaid db) (hpay : payTable db reads context = .ok db') :
    Matches Agrees IsUnpaid db' := by
  unfold payTable at hpay
  obtain ⟨checkout, -, hrest⟩ := bind_eq_ok.mp hpay
  obtain ⟨cashShiftId, -, hloop⟩ := bind_eq_ok.mp hrest
  exact foldlM_invariant (Matches Agrees IsUnpaid)
    (fun _ _ _ _ hstate hentry => matches_of_payTableOrder hstate hentry) hmatches hloop

theorem matches_of_executeOrderCommand {scope : CashScope} {ids : FreshIds} {now : Timestamp}
    {command : CashShiftCommand} (hmatches : Matches Agrees IsUnpaid db)
    (hexecute : executeOrderCommand db scope ids now command = .ok db') :
    Matches Agrees IsUnpaid db' := by
  rcases written_of_executeOrderCommand hexecute with ⟨horders, hpayments⟩ | ⟨payment, hrefunded⟩
  · exact hmatches.same horders hpayments
  · apply hmatches.refund hrefunded
    intro order hagrees
    have hpaid : order.paymentStatus = .paid := hagrees.status.trans hrefunded.paid
    rw [if_pos hpaid]
    exact ⟨Or.inr rfl, rfl⟩

theorem matches_of_editStaffOrderItems {scope : CashScope} {orderId : Uuid}
    {request : UpdateStaffOrderItems} {context : EditContext}
    (hmatches : Matches Agrees IsUnpaid db)
    (hedit : editStaffOrderItems db scope orderId request context = .ok db') :
    Matches Agrees IsUnpaid db' := by
  rcases written_of_editStaffOrderItems hedit with
    rfl | ⟨order, -, middle, edited, -, hrewrote, horders, hcash⟩
  · exact hmatches
  · have hmiddle : Matches Agrees IsUnpaid middle :=
      matches_of_rewrote hmatches hrewrote (fun _ => ⟨rfl, rfl⟩) fun _ _ _ _ => rfl
    exact hmiddle.same horders (by rw [hcash])

theorem matches_of_editTrackedPublicOrder {orderId : Uuid} {context : PublicEditContext}
    (hmatches : Matches Agrees IsUnpaid db)
    (hedit : editTrackedPublicOrder db orderId context = .ok db') :
    Matches Agrees IsUnpaid db' := by
  obtain ⟨order, -, edited, -, hrewrote⟩ := written_of_editTrackedPublicOrder hedit
  exact matches_of_rewrote hmatches hrewrote (fun _ => ⟨rfl, rfl⟩) fun _ _ _ _ => rfl

end Steps

/-! ## Runs -/

theorem matches_of_commit {Error : Type} {system : CheckoutSystem}
    {outcome : Except Error CheckoutDb} (hmatches : Matches Agrees IsUnpaid system.db)
    (hok : ∀ db, outcome = .ok db → Matches Agrees IsUnpaid db) :
    Matches Agrees IsUnpaid (system.commit outcome).db := by
  cases outcome with
  | ok db => exact hok db rfl
  | error error => exact hmatches

theorem matches_step (system : CheckoutSystem) (request : CheckoutRequest)
    (hmatches : Matches Agrees IsUnpaid system.db)
    (hstored : writesStoredStatus system request = true) :
    Matches Agrees IsUnpaid (step system request).db := by
  cases request with
  | placeOrder order =>
      have hunpaid : order.paymentStatus = .unpaid := of_decide_eq_true hstored
      exact matches_of_commit hmatches fun _ hinsert => hmatches.insertOrder hunpaid hinsert
  | readOrder orderId => exact hmatches
  | patch read update context =>
      unfold step
      dsimp only
      split
      · next hread =>
        apply matches_of_commit hmatches
        intro db hpatch
        have hkeeps : keepsPaymentStatus system.db read update = true := by
          simpa [writesStoredStatus, patches_of_patchOrder hread hpatch] using hstored
        exact matches_of_patchOrder hmatches hkeeps hpatch
      · exact hmatches
  | tableCheckout reads context =>
      unfold step
      dsimp only
      split
      · exact matches_of_commit hmatches fun _ => matches_of_payTable hmatches
      · exact hmatches
  | cashCommand scope ids now command =>
      exact matches_of_commit hmatches fun _ => matches_of_executeOrderCommand hmatches
  | printCompleted orderId context =>
      exact matches_of_commit hmatches fun _ hprint =>
        matches_of_rewrote hmatches (rewrote_of_updateOrder hprint) (fun _ => ⟨rfl, rfl⟩)
          fun _ _ _ _ => rfl
  | editByStaff scope orderId request context =>
      exact matches_of_commit hmatches fun _ => matches_of_editStaffOrderItems hmatches
  | editByCustomer orderId context =>
      exact matches_of_commit hmatches fun _ => matches_of_editTrackedPublicOrder hmatches
  | serveItems orderId itemIds status =>
      exact matches_of_commit hmatches fun _ hserve =>
        matches_of_rewrote hmatches (rewrote_of_updateOrder hserve) (fun _ => ⟨rfl, rfl⟩)
          fun _ _ _ _ => rfl

/-- The payment status of an order is the one of its payment row. -/
structure StatusAgrees (db : CheckoutDb) (order : Order) : Prop where
  paid : ∀ payment ∈ db.cash.payments, payment.orderId = order.id → payment.status = .paid →
    order.paymentStatus = .paid
  refunded : ∀ payment ∈ db.cash.payments, payment.orderId = order.id →
    payment.status = .refunded → order.paymentStatus = .refunded
  unpaid : (∀ payment ∈ db.cash.payments, payment.orderId ≠ order.id) →
    order.paymentStatus = .unpaid

/-- In every run whose orders come in unpaid and whose status changes write the payment
status that is stored, the payment status of every order agrees with its payment. -/
theorem payment_status_agrees (requests : List CheckoutRequest)
    (hstored : Safely step (fun system request => writesStoredStatus system request = true)
      CheckoutSystem.initial requests) (order : Order)
    (horder : order ∈ (exec step CheckoutSystem.initial requests).db.orders) :
    StatusAgrees (exec step CheckoutSystem.initial requests).db order := by
  have hmatches : Matches Agrees IsUnpaid (exec step CheckoutSystem.initial requests).db :=
    invariant_of_safely (fun system => Matches Agrees IsUnpaid system.db)
      (fun system request => matches_step system request) matches_empty hstored
  refine ⟨?_, ?_, hmatches.unpaired order horder⟩
  · intro payment hpayment hpays hpaid
    exact (hmatches.paired_of_mem horder hpayment hpays).2.status.trans hpaid
  · intro payment hpayment hpays hrefunded
    exact (hmatches.paired_of_mem horder hpayment hpays).2.status.trans hrefunded

/-! ## Sample runs -/

def collectPayment : OrderStatusUpdate := .complete (some .collectPayment) sampleCheckout

/-- The order after its payment was collected. -/
def samplePaid : Order :=
  { sampleOrder with paymentStatus := .paid, paidAt := some 10, updatedAt := 10 }

/-- The order is paid from the menu. -/
def sampleCollected : List CheckoutRequest :=
  [.cashCommand sampleScope (sampleIds 1) 0 (.open 500 none),
    .placeOrder sampleOrder,
    .readOrder 20,
    .patch sampleOrder collectPayment sampleContext]

/-- The paid order is read again and completed. -/
def sampleCompleted : List CheckoutRequest :=
  sampleCollected ++ [.readOrder 20,
    .patch samplePaid (.complete none sampleCheckout) sampleContext]

/-- The order as the runs leave it. -/
def writtenOver (status : OrderStatus) (paymentStatus : PaymentStatus)
    (paidAt completedAt : Option Timestamp) : Order :=
  { sampleOrder with status, paymentStatus, paidAt, completedAt, updatedAt := 10 }

theorem sample_payment_status_agrees :
    StatusAgrees (exec step CheckoutSystem.initial sampleCompleted).db
      (writtenOver .completed .paid (some 10) (some 10)) := by
  have horder : writtenOver .completed .paid (some 10) (some 10)
      ∈ (exec step CheckoutSystem.initial sampleCompleted).db.orders.table.rows := by
    decide +kernel
  exact payment_status_agrees sampleCompleted (by decide +kernel) _ horder

/-- The order is moved on by a request that had read it before it was paid. -/
def staleProgress : List CheckoutRequest :=
  sampleCollected ++ [.patch sampleOrder (.progress .preparing) sampleContext]

/-- The paid order is refunded and then completed. -/
def completedAfterRefund : List CheckoutRequest :=
  sampleCollected ++ [.cashCommand sampleScope (sampleIds 2) 11 (.refund 101 30), .readOrder 20,
    .patch { samplePaid with paymentStatus := .refunded } (.complete none sampleCheckout)
      sampleContext]

/-- A payment that was collected is written over, and a refunded order is paid
again. -/
theorem payment_status_disagrees :
    (∃ order ∈ (exec step CheckoutSystem.initial staleProgress).db.orders,
      ¬ StatusAgrees (exec step CheckoutSystem.initial staleProgress).db order)
    ∧ ∃ order ∈ (exec step CheckoutSystem.initial completedAfterRefund).db.orders,
      ¬ StatusAgrees (exec step CheckoutSystem.initial completedAfterRefund).db order := by
  constructor
  · have horder : writtenOver .preparing .unpaid none none
        ∈ (exec step CheckoutSystem.initial staleProgress).db.orders.table.rows := by
      decide +kernel
    have hpaid : ∃ payment ∈ (exec step CheckoutSystem.initial staleProgress).db.cash.payments.rows,
        payment.orderId = 20 ∧ payment.status = .paid := by decide +kernel
    obtain ⟨payment, hpayment, hpays, hstatus⟩ := hpaid
    refine ⟨_, horder, fun hagrees => ?_⟩
    cases hagrees.paid payment hpayment hpays hstatus
  · have horder : writtenOver .completed .paid (some 10) (some 10)
        ∈ (exec step CheckoutSystem.initial completedAfterRefund).db.orders.table.rows := by
      decide +kernel
    have hrefunded : ∃ payment
        ∈ (exec step CheckoutSystem.initial completedAfterRefund).db.cash.payments.rows,
        payment.orderId = 20 ∧ payment.status = .refunded := by decide +kernel
    obtain ⟨payment, hpayment, hpays, hstatus⟩ := hrefunded
    refine ⟨_, horder, fun hagrees => ?_⟩
    cases hagrees.refunded payment hpayment hpays hstatus

end Stallorder.PaymentAgreement
