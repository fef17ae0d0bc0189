import Stallorder.Cash.Drawer
import Stallorder.Checkout.OrderEdits
import Stallorder.Checkout.TableCheckout

/-!
# Runs of order requests

Orders are placed, read, edited, served, moved on, paid and refunded in any
order.  A request that decides on an order that was read before its transaction
names the row as it was read.

What holds between an order and its payment is carried over each kind of
statement by one rule.
-/

namespace Stallorder.OrderRun

open OrderContract CashDatabase CashShifts CashLedger CashDrawer OrderDatabase StaffCheckout
open OrderPatch OrderEdits TableCheckout Checks
open SyncDatabase (CashShift OrderStatus OrderItemStatus PaymentStatus)

/-! ## Runs -/

/-- The tables, and the orders that requests under way have read. -/
structure CheckoutSystem where
  db : CheckoutDb
  reads : List Order

inductive CheckoutRequest
  | placeOrder (order : Order)
  | readOrder (orderId : Uuid)
  | patch (read : Order) (update : OrderStatusUpdate) (context : PatchContext)
  | tableCheckout (reads : List Order) (context : TableCheckoutContext)
  | cashCommand (scope : CashScope) (ids : FreshIds) (now : Timestamp)
    (command : CashShiftCommand)
  | printCompleted (orderId : Uuid) (context : PrintContext)
  | editByStaff (scope : CashScope) (orderId : Uuid) (request : UpdateStaffOrderItems)
    (context : EditContext)
  | editByCustomer (orderId : Uuid) (context : PublicEditContext)
  | serveItems (orderId : Uuid) (itemIds : List Uuid) (status : OrderItemStatus)

def CheckoutSystem.initial : CheckoutSystem where
  db := .empty
  reads := []

def CheckoutSystem.commit {Error : Type} (system : CheckoutSystem) :
    Except Error CheckoutDb → CheckoutSystem
  | .ok db => { system with db }
  | .error _ => system

/-- The kitchen moves items on. -/
def serveItems (db : CheckoutDb) (orderId : Uuid) (itemIds : List Uuid)
    (status : OrderItemStatus) : Except TableCheckoutError CheckoutDb :=
  updateOrder db orderId (fun _ => true) (withItemStatus status fun item => item.id ∈ itemIds)
    .orderNotFound .constraintViolated

/-- One transaction; what it raises undoes it. -/
def step (system : CheckoutSystem) : CheckoutRequest → CheckoutSystem
  | .placeOrder order =>
      system.commit (insertOrder system.db order TableCheckoutError.constraintViolated)
  | .readOrder orderId =>
      { system with reads := (findOrder system.db orderId).toList ++ system.reads }
  | .patch read update context =>
      if read ∈ system.reads then system.commit (patchOrder system.db read update context)
      else system
  | .tableCheckout reads context =>
      if ∀ read ∈ reads, read ∈ system.reads then
        system.commit (payTable system.db reads context)
      else system
  | .cashCommand scope ids now command =>
      system.commit (executeOrderCommand system.db scope ids now command)
  | .printCompleted orderId context =>
      system.commit (completeStreamlinedOrderAfterPrint system.db orderId context)
  | .editByStaff scope orderId request context =>
      system.commit (editStaffOrderItems system.db scope orderId request context)
  | .editByCustomer orderId context =>
      system.commit (editTrackedPublicOrder system.db orderId context)
  | .serveItems orderId itemIds status =>
      system.commit (OrderRun.serveItems system.db orderId itemIds status)

/-- The order was read, and neither the plan nor the transaction refuses the change. -/
def patches (system : CheckoutSystem) (read : Order) (update : OrderStatusUpdate)
    (context : PatchContext) : Bool :=
  read ∈ system.reads && (patchOrder system.db read update context).isOk

theorem patches_of_patchOrder {system : CheckoutSystem} {read : Order}
    {update : OrderStatusUpdate} {context : PatchContext} {db : CheckoutDb}
    (hread : read ∈ system.reads) (hpatch : patchOrder system.db read update context = .ok db) :
    patches system read update context = true := by
  simp [patches, hread, hpatch, Except.isOk, Except.toBool]

/-! ## Payments of the ledger -/

section Payments

variable {db db' : CashDb} {payment : Payment} {movementId : Uuid}

theorem payments_of_recordCashSaleMovement
    (hrecord : recordCashSaleMovement db payment movementId = .ok db') :
    db'.payments = db.payments := by
  unfold recordCashSaleMovement at hrecord
  split at hrecord
  · split at hrecord
    · rcases inserted_of_insertMovementOnce hrecord with ⟨hsame, -⟩ | ⟨hinserted, -⟩
      · rw [hsame]
      · exact hinserted.payments
    · cases hrecord
      rfl
  · cases hrecord
    rfl

theorem payments_of_insertPayment (hinsert : insertPayment db payment movementId = .ok db') :
    db.payments.insert? payment = some db'.payments := by
  unfold insertPayment at hinsert
  obtain ⟨_, -, hrest⟩ := bind_eq_ok.mp hinsert
  obtain ⟨_, -, hrest⟩ := bind_eq_ok.mp hrest
  obtain ⟨payments, hpayments, hrecord⟩ := bind_eq_ok.mp hrest
  rw [payments_of_recordCashSaleMovement hrecord]
  exact orFail_eq_ok.mp hpayments

theorem payments_of_insertShift {shift : CashShift} (hinsert : insertShift db shift = .ok db') :
    db'.payments = db.payments := by
  unfold insertShift at hinsert
  obtain ⟨_, -, hrest⟩ := bind_eq_ok.mp hinsert
  obtain ⟨_, -, hrest⟩ := bind_eq_ok.mp hrest
  obtain ⟨shifts, -, hdb⟩ := bind_eq_ok.mp hrest
  cases hdb
  rfl

theorem payments_of_updateShift {shift : CashShift} {change : CashShift → CashShift}
    {hid : ∀ row, (change row).id = row.id}
    (hupdate : updateShift db shift change hid = .ok db') : db'.payments = db.payments := by
  unfold updateShift at hupdate
  obtain ⟨_, -, hrest⟩ := bind_eq_ok.mp hupdate
  obtain ⟨_, -, hdb⟩ := bind_eq_ok.mp hrest
  cases hdb
  rfl

theorem payments_of_insertMovement {movement : LedgerMovement}
    (hinsert : insertMovement db movement = .ok db') : db'.payments = db.payments :=
  (inserted_of_insertMovement hinsert).1.payments

/-- Only a refund touches the payments. -/
theorem payments_of_executeCashShiftCommand {scope : CashScope} {ids : FreshIds}
    {now : Timestamp} {command : CashShiftCommand}
    (hcommand : ∀ shiftId paymentId, command ≠ .refund shiftId paymentId)
    (hexecute : executeCashShiftCommand db scope ids now command = .ok db') :
    db'.payments = db.payments := by
  unfold executeCashShiftCommand at hexecute
  cases command with
  | «open» openingAmount note =>
      unfold openShift at hexecute
      obtain ⟨opened, hinsert, hrest⟩ := bind_eq_ok.mp hexecute
      have hopened := payments_of_insertShift hinsert
      split at hrest
      · rw [payments_of_insertMovement hrest, hopened]
      · cases hrest
        exact hopened
  | move shiftId type amount =>
      obtain ⟨shift, -, hmove⟩ := bind_eq_ok.mp hexecute
      obtain ⟨_, -, hinsert⟩ := bind_eq_ok.mp hmove
      exact payments_of_insertMovement hinsert
  | close shiftId countedAmount note =>
      obtain ⟨shift, -, hclose⟩ := bind_eq_ok.mp hexecute
      obtain ⟨_, -, hupdate⟩ := bind_eq_ok.mp hclose
      exact payments_of_updateShift hupdate
  | refund shiftId paymentId => exact absurd rfl (hcommand shiftId paymentId)
  | review shiftId decision comment =>
      obtain ⟨shift, -, hreview⟩ := bind_eq_ok.mp hexecute
      obtain ⟨_, -, hupdate⟩ := bind_eq_ok.mp hreview
      exact payments_of_updateShift hupdate
  | adjust shiftId amount =>
      obtain ⟨shift, -, hadjust⟩ := bind_eq_ok.mp hexecute
      obtain ⟨_, -, hadjust⟩ := bind_eq_ok.mp hadjust
      obtain ⟨corrected, hinsert, hupdate⟩ := bind_eq_ok.mp hadjust
      rw [payments_of_updateShift hupdate, payments_of_insertMovement hinsert]

end Payments

/-! ## Orders and their payments -/

section Matching

variable {Paired : Order → Payment → Prop} {Unpaired : Order → Prop}
  {db middle db' : CheckoutDb} {orderId : Uuid} {wanted : Order → Bool} {change : Order → Order}

/-- Every payment belongs to an order of its stall and fits it, and an order
without a payment is as it has to be. -/
structure Matches (Paired : Order → Payment → Prop) (Unpaired : Order → Prop)
    (db : CheckoutDb) : Prop where
  paired : ∀ payment ∈ db.cash.payments, ∃ order ∈ db.orders, order.id = payment.orderId
    ∧ order.stallId = payment.stallId ∧ Paired order payment
  unpaired : ∀ order ∈ db.orders,
    (∀ payment ∈ db.cash.payments, payment.orderId ≠ order.id) → Unpaired order

theorem matches_empty : Matches Paired Unpaired CheckoutDb.empty where
  paired payment hpayment := absurd hpayment (Table.notMem_empty payment)
  unpaired order horder := absurd horder (CheckedTable.notMem_empty order)

/-- The order of a payment is the one that it fits. -/
theorem Matches.paired_of_mem (hmatches : Matches Paired Unpaired db) {order : Order}
    {payment : Payment} (horder : order ∈ db.orders) (hpayment : payment ∈ db.cash.payments)
    (hpays : payment.orderId = order.id) :
    order.stallId = payment.stallId ∧ Paired order payment := by
  obtain ⟨found, hfound, hid, hstall, hpaired⟩ := hmatches.paired payment hpayment
  have hsame : found = order := order_unique hfound horder (hid.trans hpays)
  exact hsame ▸ ⟨hstall, hpaired⟩

theorem Matches.same (hmatches : Matches Paired Unpaired db) (horders : db'.orders = db.orders)
    (hpayments : db'.cash.payments = db.cash.payments) : Matches Paired Unpaired db' := by
  constructor
  · rw [horders, hpayments]
    exact hmatches.paired
  · rw [horders, hpayments]
    exact hmatches.unpaired

theorem Matches.insertOrder {Error : Type} {order : Order} {violated : Error}
    (hmatches : Matches Paired Unpaired db)
    (hnew : Unpaired order)
    (hinsert : insertOrder db order violated = .ok db') : Matches Paired Unpaired db' := by
  unfold OrderDatabase.insertOrder at hinsert
  obtain ⟨orders, hinserted, hdb⟩ := bind_eq_ok.mp hinsert
  cases hdb
  have hmem : ∀ {stored : Order}, stored ∈ orders ↔ stored ∈ db.orders ∨ stored = order :=
    CheckedTable.mem_of_insert? (orFail_eq_ok.mp hinserted)
  constructor
  · intro payment hpayment
    obtain ⟨found, hfound, hrest⟩ := hmatches.paired payment hpayment
    exact ⟨found, hmem.mpr (Or.inl hfound), hrest⟩
  · intro stored hstored hunpaired
    rcases hmem.mp hstored with hold | hsame
    · exact hmatches.unpaired stored hold hunpaired
    · exact hsame ▸ hnew

/-- A statement on one order. -/
theorem Matches.rewrite (hmatches : Matches Paired Unpaired db)
    (hrewrote : Rewrote db db' orderId wanted change)
    (hsame : ∀ order, (change order).id = order.id ∧ (change order).stallId = order.stallId)
    (hpaired : ∀ order ∈ db.orders, order.id = orderId → wanted order = true →
      ∀ payment ∈ db.cash.payments, payment.orderId = orderId → Paired order payment →
        Paired (change order) payment)
    (hunpaired : ∀ order ∈ db.orders, order.id = orderId → wanted order = true →
      Unpaired order → Unpaired (change order)) :
    Matches Paired Unpaired db' := by
  have hpayments : db'.cash.payments = db.cash.payments := by rw [hrewrote.cash]
  obtain ⟨target, htarget, htargetId, hwanted, hchanged⟩ := hrewrote.found
  constructor
  · intro payment hpayment
    rw [hpayments] at hpayment
    obtain ⟨order, horder, hid, hstall, hfits⟩ := hmatches.paired payment hpayment
    by_cases hsameId : order.id = orderId
    · have horderEq : order = target := order_unique horder htarget (hsameId.trans htargetId.symm)
      subst horderEq
      exact ⟨change order, hchanged, (hsame order).1.trans hid, (hsame order).2.trans hstall,
        hpaired order horder hsameId hwanted payment hpayment (hid.symm.trans hsameId) hfits⟩
    · exact ⟨order, hrewrote.others order horder hsameId, hid, hstall, hfits⟩
  · intro stored hstored hnone
    rw [hpayments] at hnone
    rcases hrewrote.orders stored hstored with ⟨hold, -⟩ | ⟨order, horder, hid, hfound, rfl⟩
    · exact hmatches.unpaired stored hold hnone
    · refine hunpaired order horder hid hfound (hmatches.unpaired order horder ?_)
      intro payment hpayment hpays
      exact hnone payment hpayment (hpays.trans (hsame order).1.symm)

/-- The payment of an order is collected in the transaction that rewrites it. -/
theorem Matches.collect {payment : Payment} {movementId : Uuid} {cash : CashDb}
    (hmatches : Matches Paired Unpaired db) (hrewrote : Rewrote db middle orderId wanted change)
    (hsame : ∀ order, (change order).id = order.id ∧ (change order).stallId = order.stallId)
    (hpays : payment.orderId = orderId)
    (hstall : ∀ order, wanted order = true → order.stallId = payment.stallId)
    (hnew : ∀ order ∈ db.orders, order.id = orderId → wanted order = true →
      Paired (change order) payment)
    (hinsert : insertPayment middle.cash payment movementId = .ok cash) :
    Matches Paired Unpaired { middle with cash } := by
  have hinserted := payments_of_insertPayment hinsert
  rw [hrewrote.cash] at hinserted
  have hmem : ∀ {stored : Payment}, stored ∈ cash.payments
      ↔ stored ∈ db.cash.payments ∨ stored = payment := Table.mem_of_insert? hinserted
  obtain ⟨target, htarget, htargetId, hwanted, hchanged⟩ := hrewrote.found
  constructor
  · intro stored hstored
    rcases hmem.mp hstored with hold | rfl
    · obtain ⟨order, horder, hid, hstall, hfits⟩ := hmatches.paired stored hold
      have hfree := Table.not_collides_of_insert? hinserted hold
      have hother : order.id ≠ orderId := by
        intro hsameId
        have hcollides : stored.orderId = payment.orderId :=
          hid.symm.trans (hsameId.trans hpays.symm)
        exact hfree (by simp [Indexed.collides, hcollides])
      exact ⟨order, hrewrote.others order horder hother, hid, hstall, hfits⟩
    · exact ⟨change target, hchanged, ((hsame target).1.trans htargetId).trans hpays.symm,
        (hsame target).2.trans (hstall target hwanted),
        hnew target htarget htargetId hwanted⟩
  · intro stored hstored hnone
    rcases hrewrote.orders stored hstored with ⟨hold, -⟩ | ⟨order, -, hid, -, rfl⟩
    · refine hmatches.unpaired stored hold fun other hother => ?_
      exact hnone other (hmem.mpr (Or.inl hother))
    · refine absurd ?_ (hnone payment (hmem.mpr (Or.inr rfl)))
      exact hpays.trans (hid.symm.trans (hsame order).1.symm)

/-- A refund marks one payment, and moves the order of it along when it is
paid. -/
structure Refunded (db db' : CheckoutDb) (payment : Payment) : Prop where
  mem : payment ∈ db.cash.payments
  paid : payment.status = .paid
  payments : ∀ stored, stored ∈ db'.cash.payments ↔
    stored = markRefunded payment ∨ (stored ∈ db.cash.payments ∧ stored.id ≠ payment.id)
  orders : ∀ stored, stored ∈ db'.orders ↔ ∃ order ∈ db.orders,
    (if refundedOrder payment.stallId payment.orderId order then markOrderRefunded order
      else order) = stored

theorem exists_refunded {scope : CashScope} {ids : FreshIds} {now : Timestamp}
    {shiftId paymentId : Uuid}
    (hexecute : executeOrderCommand db scope ids now (.refund shiftId paymentId) = .ok db') :
    ∃ payment, Refunded db db' payment := by
  obtain ⟨cash, hcash, hrefund⟩ := bind_eq_ok.mp hexecute
  obtain ⟨shift, -, hcash⟩ := bind_eq_ok.mp hcash
  obtain ⟨payment, hmem, hid, hstall, -, hpaid, updated, hrewritten, hinserted⟩ :=
    exists_of_refundPayment hcash
  have hpayments : ∀ stored, stored ∈ cash.payments ↔
      stored = markRefunded payment ∨ (stored ∈ db.cash.payments ∧ stored.id ≠ payment.id) := by
    rw [hinserted.payments]
    exact hrewritten.payments
  obtain ⟨found, hfound, hrefund⟩ := bind_eq_ok.mp hrefund
  obtain ⟨orders, horders, hdb⟩ := bind_eq_ok.mp hrefund
  cases hdb
  have hfoundEq : found = markRefunded payment := by
    have hget := orFail_eq_ok.mp hfound
    have hmarked := (hpayments (markRefunded payment)).mpr (Or.inl rfl)
    exact Table.eq_of_key_eq (Table.mem_of_get? hget) hmarked ((Table.key_of_get? hget).trans
      hid.symm)
  have hmemOrders : ∀ {stored : Order}, stored ∈ orders ↔ ∃ order ∈ db.orders,
      (if refundedOrder scope.stallId found.orderId order then markOrderRefunded order
        else order) = stored := CheckedTable.mem_of_updateWhere? (orFail_eq_ok.mp horders)
  refine ⟨payment, hmem, hpaid, hpayments, fun stored => ?_⟩
  rw [hstall]
  rw [hfoundEq] at hmemOrders
  exact hmemOrders

theorem Matches.refund {payment : Payment} (hmatches : Matches Paired Unpaired db)
    (hrefunded : Refunded db db' payment)
    (hpaired : ∀ order, Paired order payment →
      Paired (if order.paymentStatus = .paid then markOrderRefunded order else order)
        (markRefunded payment)) :
    Matches Paired Unpaired db' := by
  have hother : ∀ order : Order, order.id ≠ payment.orderId →
      refundedOrder payment.stallId payment.orderId order = false := by
    intro order hne
    simp [refundedOrder, hne]
  constructor
  · intro stored hstored
    rcases (hrefunded.payments stored).mp hstored with rfl | ⟨hold, hne⟩
    · obtain ⟨order, horder, hid, hstall, hfits⟩ := hmatches.paired payment hrefunded.mem
      have hmoved : refundedOrder payment.stallId payment.orderId order
          = decide (order.paymentStatus = .paid) := by
        simp [refundedOrder, hid, hstall]
      have hstored' := (hrefunded.orders _).mpr ⟨order, horder, rfl⟩
      have hfits' := hpaired order hfits
      rw [hmoved] at hstored'
      simp only [decide_eq_true_eq] at hstored'
      refine ⟨_, hstored', ?_, ?_, hfits'⟩
      · split <;> exact hid
      · split <;> exact hstall
    · obtain ⟨order, horder, hid, hstall, hfits⟩ := hmatches.paired stored hold
      have horderNe : order.id ≠ payment.orderId := by
        intro hsameId
        have hcollides : stored.orderId = payment.orderId := hid.symm.trans hsameId
        have hsame : stored = payment :=
          Table.eq_of_collides hold hrefunded.mem (by simp [Indexed.collides, hcollides])
        exact hne (hsame ▸ rfl)
      have hkept := (hrefunded.orders order).mpr ⟨order, horder, by simp [hother order horderNe]⟩
      exact ⟨order, hkept, hid, hstall, hfits⟩
  · intro stored hstored hnone
    obtain ⟨order, horder, hchanged⟩ := (hrefunded.orders stored).mp hstored
    have hid : stored.id = order.id := by
      rw [← hchanged]
      split <;> rfl
    have hfree : ∀ other ∈ db.cash.payments, other.orderId ≠ order.id := by
      intro other hotherMem hpays
      by_cases hsameId : other.id = payment.id
      · have hsame : other = payment := Table.eq_of_key_eq hotherMem hrefunded.mem hsameId
        refine hnone (markRefunded payment) ((hrefunded.payments _).mpr (Or.inl rfl)) ?_
        exact (hsame ▸ hpays : payment.orderId = order.id).trans hid.symm
      · exact hnone other ((hrefunded.payments _).mpr (Or.inr ⟨hotherMem, hsameId⟩))
          (hpays.trans hid.symm)
    have horderNe : order.id ≠ payment.orderId := Ne.symm (hfree payment hrefunded.mem)
    rw [hother order horderNe] at hchanged
    have hsame : order = stored := by simpa using hchanged
    exact hsame ▸ hmatches.unpaired order horder hfree

end Matching

/-! ## What the transactions write -/

section Transactions

variable {db db' : CheckoutDb} {read : Order} {update : OrderStatusUpdate}
  {context : PatchContext}

/-- The checkout of a plan is resolved from the order as it was read, exactly
when the request collects its payment. -/
theorem checkout_of_resolveCheckout {stall : StallCheckout}
    {resolved : Option ResolvedStaffCheckout}
    (hresolve : resolveCheckout read update stall = .ok resolved) :
    (collects read update = false ∧ resolved = none)
      ∨ (collects read update = true ∧ ∃ completionIntent input checkout,
        update = .complete completionIntent input ∧ resolved = some checkout
          ∧ resolveStaffCheckout stall [read] input = .ok checkout) := by
  cases update with
  | progress status =>
      cases hresolve
      exact Or.inl ⟨by cases status <;> rfl, rfl⟩
  | cancel confirmationOrderNo =>
      cases hresolve
      exact Or.inl ⟨rfl, rfl⟩
  | complete completionIntent input =>
      unfold resolveCheckout at hresolve
      by_cases hunpaid : read.paymentStatus = .unpaid
      · simp only [if_pos hunpaid] at hresolve
        obtain ⟨checkout, hcheckout, hsome⟩ := bind_eq_ok.mp hresolve
        cases hsome
        refine Or.inr ⟨?_, completionIntent, input, checkout, rfl, rfl, mapError_eq_ok.mp hcheckout⟩
        simp [collects, OrderStatusUpdate.nextStatus, hunpaid]
      · simp only [if_neg hunpaid] at hresolve
        cases hresolve
        exact Or.inl ⟨by simp [collects, hunpaid], rfl⟩

/-- What a plan was decided on. -/
structure Planned (read : Order) (update : OrderStatusUpdate) (context : PatchContext)
    (plan : PatchPlan) : Prop where
  transition : assertTransition read update.nextStatus plan.qrPaymentOnly plan.streamlined
    context = .ok ()
  qrPaymentOnly : plan.qrPaymentOnly = shouldKeepQrOrderOpenAfterPayment read update
  streamlined : ∀ streamlined, plan.streamlined = some streamlined →
    getStreamlinedCheckoutPlan read update.nextStatus context.orderingSettings
      (printStatusFor read update.nextStatus plan.qrPaymentOnly context) = some streamlined
  checkout : resolveCheckout read update context.stall = .ok plan.checkout
  persisted : plan.persistedStatus = if plan.qrPaymentOnly then
      (if streamlinedSource read.status then read.status else update.nextStatus)
    else (plan.streamlined.map (·.targetStatus)).getD update.nextStatus

theorem planned_of_planPatch {plan : PatchPlan}
    (hplan : planPatch read update context = .ok plan) : Planned read update context plan := by
  unfold planPatch at hplan
  obtain ⟨_, -, hrest⟩ := bind_eq_ok.mp hplan
  obtain ⟨_, -, hrest⟩ := bind_eq_ok.mp hrest
  obtain ⟨_, -, hrest⟩ := bind_eq_ok.mp hrest
  obtain ⟨_, -, hrest⟩ := bind_eq_ok.mp hrest
  obtain ⟨_, -, hrest⟩ := bind_eq_ok.mp hrest
  obtain ⟨_, htransition, hrest⟩ := bind_eq_ok.mp hrest
  obtain ⟨checkout, hcheckout, hrest⟩ := bind_eq_ok.mp hrest
  obtain ⟨_, -, hresult⟩ := bind_eq_ok.mp hrest
  cases hresult
  refine ⟨htransition, rfl, fun streamlined hstreamlined => ?_, hcheckout, rfl⟩
  dsimp only at hstreamlined
  split at hstreamlined
  · cases hstreamlined
  · exact hstreamlined

/-- A request that moves an order rewrites it, and collects its payment when it
completes it unpaid. -/
theorem written_of_patchOrder (hpatch : patchOrder db read update context = .ok db') :
    ∃ plan middle, planPatch read update context = .ok plan
      ∧ Rewrote db middle read.id (patchFinds read update context)
        (patched read update plan context)
      ∧ ((plan.checkout = none ∧ db' = middle)
        ∨ ∃ checkout cashShiftId cash, plan.checkout = some checkout
          ∧ insertPayment middle.cash (checkoutPayment context.scope checkout none cashShiftId
            (orderPayment read.id checkout context)) context.movementId = .ok cash
          ∧ db' = { middle with cash }) := by
  obtain ⟨plan, hplan, hcommit⟩ := bind_eq_ok.mp hpatch
  unfold commitPatch at hcommit
  obtain ⟨cashShiftId, -, hrest⟩ := bind_eq_ok.mp hcommit
  obtain ⟨middle, hupdate, hcreate⟩ := bind_eq_ok.mp hrest
  refine ⟨plan, middle, hplan, rewrote_of_updateOrder hupdate, ?_⟩
  unfold createPayment at hcreate
  cases hcheckout : plan.checkout with
  | none =>
      rw [hcheckout] at hcreate
      cases hcreate
      exact Or.inl ⟨rfl, rfl⟩
  | some checkout =>
      rw [hcheckout] at hcreate
      obtain ⟨cash, hinsert, hdb⟩ := bind_eq_ok.mp hcreate
      cases hdb
      exact Or.inr ⟨checkout, cashShiftId, cash, rfl, mapError_eq_ok.mp hinsert, rfl⟩

theorem written_of_payTableOrder {checkout : ResolvedStaffCheckout} {cashShiftId : Option Uuid}
    {context : TableCheckoutContext} {entry : Order × OrderAmounts}
    (hpay : payTableOrder checkout cashShiftId context db entry = .ok db') :
    ∃ middle cash, Rewrote db middle entry.1.id (tableFinds context)
        (checkedOut checkout entry.2 context.now)
      ∧ insertPayment middle.cash (checkoutPayment context.scope checkout
        (some context.checkoutGroupId) cashShiftId (tableOrderPayment entry.1.id entry.2 context))
        (context.movementId entry.1.id) = .ok cash
      ∧ db' = { middle with cash } := by
  unfold payTableOrder at hpay
  obtain ⟨middle, hupdate, hrest⟩ := bind_eq_ok.mp hpay
  obtain ⟨cash, hinsert, hdb⟩ := bind_eq_ok.mp hrest
  cases hdb
  exact ⟨middle, cash, rewrote_of_updateOrder hupdate, mapError_eq_ok.mp hinsert, rfl⟩

/-- An order command leaves the orders and the payments alone, or refunds one
payment. -/
theorem written_of_executeOrderCommand {scope : CashScope} {ids : FreshIds} {now : Timestamp}
    {command : CashShiftCommand}
    (hexecute : executeOrderCommand db scope ids now command = .ok db') :
    (db'.orders = db.orders ∧ db'.cash.payments = db.cash.payments)
      ∨ ∃ payment, Refunded db db' payment := by
  by_cases hrefund : ∃ shiftId paymentId, command = .refund shiftId paymentId
  · obtain ⟨shiftId, paymentId, rfl⟩ := hrefund
    exact Or.inr (exists_refunded hexecute)
  · left
    obtain ⟨cash, hcash, hrest⟩ := bind_eq_ok.mp hexecute
    have hpayments : cash.payments = db.cash.payments :=
      payments_of_executeCashShiftCommand
        (fun shiftId paymentId hcommand => hrefund ⟨shiftId, paymentId, hcommand⟩) hcash
    cases command with
    | refund shiftId paymentId => exact absurd ⟨shiftId, paymentId, rfl⟩ hrefund
    | «open» openingAmount note =>
        cases hrest
        exact ⟨rfl, hpayments⟩
    | move shiftId type amount =>
        cases hrest
        exact ⟨rfl, hpayments⟩
    | close shiftId countedAmount note =>
        cases hrest
        exact ⟨rfl, hpayments⟩
    | review shiftId decision comment =>
        cases hrest
        exact ⟨rfl, hpayments⟩
    | adjust shiftId amount =>
        cases hrest
        exact ⟨rfl, hpayments⟩

/-- An edit by the staff changes nothing, or the items of an order that has no
payment and is not being prepared. -/
theorem written_of_editStaffOrderItems {scope : CashScope} {orderId : Uuid}
    {request : UpdateStaffOrderItems} {context : EditContext}
    (hedit : editStaffOrderItems db scope orderId request context = .ok db') :
    db' = db ∨ ∃ order ∈ db.orders, ∃ middle edited,
      getStaffOrderEditFailure order (paymentOf db order.id) = none
        ∧ Rewrote db middle order.id (editFinds order) (withEdited edited context.now)
        ∧ db'.orders = middle.orders ∧ db'.cash = middle.cash := by
  unfold editStaffOrderItems at hedit
  obtain ⟨order, hfind, hrest⟩ := bind_eq_ok.mp hedit
  obtain ⟨hfound, -⟩ := Option.filter_eq_some_iff.mp (orFail_eq_ok.mp hfind)
  obtain ⟨horder, hid⟩ := mem_of_findOrder hfound
  split at hrest
  · obtain ⟨_, -, hdb⟩ := bind_eq_ok.mp hrest
    cases hdb
    exact Or.inl rfl
  · obtain ⟨_, -, hrest⟩ := bind_eq_ok.mp hrest
    split at hrest
    · cases hrest
    · next hfailure =>
      obtain ⟨_, -, hrest⟩ := bind_eq_ok.mp hrest
      obtain ⟨_, -, hrest⟩ := bind_eq_ok.mp hrest
      split at hrest
      · cases hrest
        exact Or.inl rfl
      · right
        unfold replaceItems at hrest
        obtain ⟨_, -, hrest⟩ := bind_eq_ok.mp hrest
        obtain ⟨prepared, -, hrest⟩ := bind_eq_ok.mp hrest
        obtain ⟨_, -, hrest⟩ := bind_eq_ok.mp hrest
        obtain ⟨_, -, hrest⟩ := bind_eq_ok.mp hrest
        obtain ⟨_, -, hrest⟩ := bind_eq_ok.mp hrest
        obtain ⟨items, -, hrest⟩ := bind_eq_ok.mp hrest
        obtain ⟨edited, -, hrest⟩ := bind_eq_ok.mp hrest
        obtain ⟨middle, hupdate, hdb⟩ := bind_eq_ok.mp hrest
        cases hdb
        exact ⟨order, horder, middle, edited, hid.symm ▸ hfailure, rewrote_of_updateOrder hupdate,
          rfl, rfl⟩

theorem written_of_editTrackedPublicOrder {orderId : Uuid} {context : PublicEditContext}
    (hedit : editTrackedPublicOrder db orderId context = .ok db') :
    ∃ order ∈ db.orders, ∃ edited,
      getPublicOrderEditFailure order (paymentOf db order.id) context.printStarted = none
        ∧ Rewrote db db' order.id (editFinds order) (withPublicEdit edited context) := by
  unfold editTrackedPublicOrder at hedit
  obtain ⟨order, hfind, hrest⟩ := bind_eq_ok.mp hedit
  obtain ⟨horder, hid⟩ := mem_of_findOrder (orFail_eq_ok.mp hfind)
  split at hrest
  · cases hrest
  · next hfailure =>
    obtain ⟨_, -, hrest⟩ := bind_eq_ok.mp hrest
    obtain ⟨_, -, hrest⟩ := bind_eq_ok.mp hrest
    obtain ⟨prepared, -, hrest⟩ := bind_eq_ok.mp hrest
    obtain ⟨edited, -, hupdate⟩ := bind_eq_ok.mp hrest
    exact ⟨order, horder, edited, hid.symm ▸ hfailure, rewrote_of_updateOrder hupdate⟩

end Transactions

/-! ## Sample requests -/

/-- A confirmed order from the menu, whose pickup has been verified. -/
def sampleOrder : Order where
  id := 20
  organizationId := 1
  stallId := 1
  orderNo := []
  source := .qrMenu
  externalProvider := none
  fulfillmentType := .takeout
  diningTableId := none
  status := .confirmed
  paymentStatus := .unpaid
  subtotal := 100
  discountAmount := 0
  total := 100
  discountSource := .none
  discountOptionId := none
  discountRateBps := none
  note := []
  items := []
  pickupVerifiedAt := some 1
  confirmationExpiresAt := 0
  paidAt := none
  completedAt := none
  updatedAt := 0

def sampleContext : PatchContext where
  scope := sampleScope
  canUpdateOrders := true
  canCheckoutOrders := true
  managerAuthorized := true
  subscription := some .active
  orderingSettings := some { kdsModuleEnabled := false, printModuleEnabled := false }
  printerIntegration := false
  printerConnected := false
  primaryPrintStatus := none
  productionBlocked := false
  incompleteItems := false
  stall := { settings := none, paymentOptions := [], discountOptions := [],
             discountApproved := true }
  externalAcknowledged := true
  now := 10
  paymentId := 30
  movementId := 210

def sampleCheckout : StaffCheckoutInput where
  paymentOptionId := none
  discountOptionId := none
  cashReceived := none

end Stallorder.OrderRun
