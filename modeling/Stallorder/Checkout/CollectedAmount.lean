import Stallorder.Checkout.OrderRun

/-!
# The collected amount

A payment is collected over the total of its order as long as every request
that completes an order without a discount finds the total that it had read.
An edit between the read and the transaction changes the total of an order that
is only confirmed, which the request does not notice; a ready order keeps its
total until it is paid, so a table checkout always finds what it has read.
-/

namespace Stallorder.CollectedAmount

open OrderContract CashDatabase CashDrawer OrderDatabase StaffCheckout OrderPatch OrderEdits
open TableCheckout OrderRun Checks Run
open CashShifts hiding step
open SyncDatabase (OrderStatus OrderItemStatus PaymentStatus)

variable {db middle db' : CheckoutDb}

/-! ## Progress of an order -/

/-- How far an order has come; its status never moves back. -/
def progress : OrderStatus → ℕ
  | .waitingConfirmation => 0
  | .confirmed => 1
  | .preparing => 2
  | .packing => 3
  | .ready => 4
  | .completed | .cancelled | .expired => 5

theorem eq_ready_of_progress {status : OrderStatus} (hprogress : progress status = 4) :
    status = .ready := by
  cases status <;> simp_all [progress]

theorem progress_of_transition {current next : OrderStatus} {canUpdateOrders : Bool}
    (htransition : canTransitionOrder current next canUpdateOrders = true) :
    progress current ≤ progress next := by
  simp only [canTransitionOrder, Bool.and_eq_true, decide_eq_true_eq] at htransition
  have hallowed := htransition.2
  cases current <;> simp only [allowedOrderTransitions, List.mem_cons, List.not_mem_nil,
    or_false] at hallowed <;> rcases hallowed with rfl | rfl | rfl | rfl <;> decide

theorem progress_of_streamlinedSource {status : OrderStatus}
    (hsource : streamlinedSource status = true) : progress status ≤ 4 := by
  cases status <;> simp_all [streamlinedSource, progress]

theorem progress_of_streamlined {order : Order} {next : OrderStatus}
    {settings : Option OrderingSettings} {primaryPrintStatus : Option PrintJobStatus}
    {plan : StreamlinedCheckoutPlan}
    (hplan : getStreamlinedCheckoutPlan order next settings primaryPrintStatus = some plan) :
    progress order.status ≤ progress plan.targetStatus := by
  unfold getStreamlinedCheckoutPlan at hplan
  split at hplan
  · cases hplan
  · next hopen =>
    simp only [Bool.or_eq_true, not_or, Bool.not_eq_true', Bool.not_eq_false] at hopen
    have hsource := progress_of_streamlinedSource hopen.2
    cases hplan
    dsimp only
    split
    · exact hsource
    · exact hsource.trans (by decide)

theorem progress_of_planned {read : Order} {update : OrderStatusUpdate} {context : PatchContext}
    {plan : PatchPlan} (hplanned : Planned read update context plan) :
    progress read.status ≤ progress plan.persistedStatus := by
  rw [hplanned.persisted]
  by_cases hqr : plan.qrPaymentOnly = true
  · have hsource : streamlinedSource read.status = true := by
      have hopen := hplanned.qrPaymentOnly.symm.trans hqr
      simp only [shouldKeepQrOrderOpenAfterPayment, Bool.and_eq_true] at hopen
      exact hopen.2
    rw [if_pos hqr, if_pos hsource]
  · rw [if_neg hqr]
    cases hstreamlined : plan.streamlined with
    | some streamlined =>
        exact progress_of_streamlined (hplanned.streamlined streamlined hstreamlined)
    | none =>
        have htransition := hplanned.transition
        unfold assertTransition at htransition
        obtain ⟨_, hallowed, -⟩ := bind_eq_ok.mp htransition
        have hcan : canTransitionOrder read.status update.nextStatus context.canUpdateOrders
            = true := by
          simpa [hstreamlined, hqr] using failWhen_eq_ok.mp hallowed
        exact progress_of_transition hcan

/-! ## What a request has read -/

def HasNoPayment (db : CheckoutDb) (orderId : Uuid) : Prop :=
  ∀ payment ∈ db.cash.payments, payment.orderId ≠ orderId

/-- No order moves back, and a ready order keeps its total until it is paid. -/
def Advances (db db' : CheckoutDb) : Prop :=
  ∀ order ∈ db.orders, ∃ order' ∈ db'.orders, order'.id = order.id
    ∧ progress order.status ≤ progress order'.status
    ∧ (order.status = .ready → order'.status = .ready → HasNoPayment db' order.id →
      HasNoPayment db order.id ∧ order'.total = order.total)

theorem Advances.refl (db : CheckoutDb) : Advances db db :=
  fun order horder => ⟨order, horder, rfl, le_refl _, fun _ _ hnone => ⟨hnone, rfl⟩⟩

theorem Advances.trans (hfirst : Advances db middle) (hsecond : Advances middle db') :
    Advances db db' := by
  intro order horder
  obtain ⟨order', horder', hid, hprogress, hkept⟩ := hfirst order horder
  obtain ⟨order'', horder'', hid', hprogress', hkept'⟩ := hsecond order' horder'
  refine ⟨order'', horder'', hid'.trans hid, hprogress.trans hprogress', ?_⟩
  intro hready hready' hnone
  have hmiddle : order'.status = .ready := by
    apply eq_ready_of_progress
    rw [hready] at hprogress
    rw [hready'] at hprogress'
    exact le_antisymm hprogress' hprogress
  rw [← hid] at hnone
  obtain ⟨hnone', htotal'⟩ := hkept' hmiddle hready' hnone
  rw [hid] at hnone'
  obtain ⟨hnone'', htotal⟩ := hkept hready hmiddle hnone'
  exact ⟨hnone'', htotal'.trans htotal⟩

/-- The order that was read is still there; when it was ready and is not paid,
it has the total that was read. -/
def Follows (db : CheckoutDb) (read : Order) : Prop :=
  ∃ order ∈ db.orders, order.id = read.id ∧ progress read.status ≤ progress order.status
    ∧ (read.status = .ready → order.status = .ready → HasNoPayment db order.id →
      order.total = read.total)

theorem follows_of_mem {read : Order} (hmem : read ∈ db.orders) : Follows db read :=
  ⟨read, hmem, rfl, le_refl _, fun _ _ _ => rfl⟩

theorem Follows.advance {read : Order} (hfollows : Follows db read) (hadvances : Advances db db') :
    Follows db' read := by
  obtain ⟨order, horder, hid, hprogress, htotal⟩ := hfollows
  obtain ⟨order', horder', hid', hprogress', hkept⟩ := hadvances order horder
  refine ⟨order', horder', hid'.trans hid, hprogress.trans hprogress', ?_⟩
  intro hready hready' hnone
  have horderReady : order.status = .ready := by
    apply eq_ready_of_progress
    rw [hready] at hprogress
    rw [hready'] at hprogress'
    exact le_antisymm hprogress' hprogress
  rw [hid'] at hnone
  obtain ⟨hnone', htotal'⟩ := hkept horderReady hready' hnone
  exact htotal'.trans (htotal hready horderReady hnone')

/-! ## Statements -/

section Statements

variable {orderId : Uuid} {wanted : Order → Bool} {change : Order → Order}

theorem advances_of_same (horders : db'.orders = db.orders)
    (hpayments : db'.cash.payments = db.cash.payments) : Advances db db' := by
  intro order horder
  refine ⟨order, horders ▸ horder, rfl, le_refl _, fun _ _ hnone => ⟨?_, rfl⟩⟩
  unfold HasNoPayment at hnone ⊢
  rwa [hpayments] at hnone

theorem advances_of_rewrote (hrewrote : Rewrote db db' orderId wanted change)
    (hid : ∀ order, (change order).id = order.id)
    (hprogress : ∀ order, wanted order = true →
      progress order.status ≤ progress (change order).status)
    (htotal : ∀ order ∈ db.orders, order.id = orderId → wanted order = true →
      order.status = .ready → (change order).total = order.total) : Advances db db' := by
  intro order horder
  have hnone : HasNoPayment db' order.id → HasNoPayment db order.id := by
    unfold HasNoPayment
    rw [hrewrote.cash]
    exact id
  obtain ⟨target, htarget, htargetId, hwanted, hchanged⟩ := hrewrote.found
  by_cases hsame : order.id = orderId
  · have horderEq : order = target := order_unique horder htarget (hsame.trans htargetId.symm)
    subst horderEq
    exact ⟨change order, hchanged, hid order, hprogress order hwanted,
      fun hready _ hfree => ⟨hnone hfree, htotal order horder hsame hwanted hready⟩⟩
  · exact ⟨order, hrewrote.others order horder hsame, rfl, le_refl _,
      fun _ _ hfree => ⟨hnone hfree, rfl⟩⟩

/-- Collecting the payment of an order may change its total. -/
theorem advances_of_collect {payment : Payment} {movementId : Uuid} {cash : CashDb}
    (hrewrote : Rewrote db middle orderId wanted change)
    (hid : ∀ order, (change order).id = order.id)
    (hprogress : ∀ order, wanted order = true →
      progress order.status ≤ progress (change order).status)
    (hpays : payment.orderId = orderId)
    (hinsert : insertPayment middle.cash payment movementId = .ok cash) :
    Advances db { middle with cash } := by
  have hinserted := payments_of_insertPayment hinsert
  rw [hrewrote.cash] at hinserted
  have hmem : ∀ {stored : Payment}, stored ∈ cash.payments
      ↔ stored ∈ db.cash.payments ∨ stored = payment := Table.mem_of_insert? hinserted
  intro order horder
  obtain ⟨target, htarget, htargetId, hwanted, hchanged⟩ := hrewrote.found
  by_cases hsame : order.id = orderId
  · have horderEq : order = target := order_unique horder htarget (hsame.trans htargetId.symm)
    subst horderEq
    refine ⟨change order, hchanged, hid order, hprogress order hwanted, fun _ _ hfree => ?_⟩
    exact absurd (hpays.trans hsame.symm) (hfree payment (hmem.mpr (Or.inr rfl)))
  · refine ⟨order, hrewrote.others order horder hsame, rfl, le_refl _, fun _ _ hfree => ⟨?_, rfl⟩⟩
    intro stored hstored
    exact hfree stored (hmem.mpr (Or.inl hstored))

theorem advances_of_refunded {payment : Payment} (hrefunded : Refunded db db' payment) :
    Advances db db' := by
  intro order horder
  refine ⟨_, (hrefunded.orders _).mpr ⟨order, horder, rfl⟩, ?_, ?_, fun _ _ hfree => ⟨?_, ?_⟩⟩
  · split <;> rfl
  · split <;> exact le_refl _
  · intro stored hstored
    by_cases hid : stored.id = payment.id
    · have hsame : stored = payment := Table.eq_of_key_eq hstored hrefunded.mem hid
      subst hsame
      exact hfree (markRefunded stored) ((hrefunded.payments _).mpr (Or.inl rfl))
    · exact hfree stored ((hrefunded.payments stored).mpr (Or.inr ⟨hstored, hid⟩))
  · split <;> rfl

theorem advances_of_insertOrder {Error : Type} {order : Order} {violated : Error}
    (hinsert : insertOrder db order violated = .ok db') : Advances db db' := by
  unfold insertOrder at hinsert
  obtain ⟨orders, hinserted, hdb⟩ := bind_eq_ok.mp hinsert
  cases hdb
  intro stored hstored
  refine ⟨stored, ?_, rfl, le_refl _, fun _ _ hfree => ⟨hfree, rfl⟩⟩
  exact (CheckedTable.mem_of_insert? (orFail_eq_ok.mp hinserted)).mpr (Or.inl hstored)

end Statements

/-! ## Payments over the total -/

/-- A paid payment is over the total of its order. -/
def Collected (order : Order) (payment : Payment) : Prop :=
  payment.status = .paid → payment.amount = order.total

def Consistent (db : CheckoutDb) : Prop :=
  Matches Collected (fun _ => True) db

/-- What a transaction has to keep. -/
structure Keeps (db db' : CheckoutDb) : Prop where
  consistent : Consistent db'
  advances : Advances db db'

/-- A change that completes an unpaid order without a discount finds the total that was
read. -/
def keepsTotal (db : CheckoutDb) (read : Order) : OrderStatusUpdate → Bool
  | .complete _ input =>
      read.paymentStatus ≠ .unpaid || input.discountOptionId.isSome
        || (findOrder db read.id).all fun order => order.total = read.total
  | _ => true

def findsReadTotal (system : CheckoutSystem) : CheckoutRequest → Bool
  | .patch read update context =>
      !patches system read update context || keepsTotal system.db read update
  | _ => true

/-- A statement that leaves the total of the order alone, or that is on an
order which is not ready and has no payment. -/
theorem keeps_of_rewrote {orderId : Uuid} {wanted : Order → Bool} {change : Order → Order}
    (hconsistent : Consistent db) (hrewrote : Rewrote db db' orderId wanted change)
    (hsame : ∀ order, (change order).id = order.id ∧ (change order).stallId = order.stallId)
    (hprogress : ∀ order, wanted order = true →
      progress order.status ≤ progress (change order).status)
    (htotal : ∀ order, wanted order = true → (change order).total = order.total
      ∨ (HasNoPayment db orderId ∧ order.status ≠ .ready)) : Keeps db db' := by
  constructor
  · apply hconsistent.rewrite hrewrote hsame
    · intro order _ _ hwanted payment hpayment hpays hcollected hpaid
      rcases htotal order hwanted with htotal | ⟨hnone, -⟩
      · rw [htotal]
        exact hcollected hpaid
      · exact absurd hpays (hnone payment hpayment)
    · intros
      trivial
  · apply advances_of_rewrote hrewrote (fun order => (hsame order).1) hprogress
    intro order _ _ hwanted hready
    rcases htotal order hwanted with htotal | ⟨-, hnotReady⟩
    · exact htotal
    · exact absurd hready hnotReady

/-- A statement that collects the payment of the order over its new total. -/
theorem keeps_of_collect {orderId : Uuid} {wanted : Order → Bool} {change : Order → Order}
    {payment : Payment} {movementId : Uuid} {cash : CashDb} (hconsistent : Consistent db)
    (hrewrote : Rewrote db middle orderId wanted change)
    (hsame : ∀ order, (change order).id = order.id ∧ (change order).stallId = order.stallId)
    (hprogress : ∀ order, wanted order = true →
      progress order.status ≤ progress (change order).status)
    (hpays : payment.orderId = orderId)
    (hstall : ∀ order, wanted order = true → order.stallId = payment.stallId)
    (hamount : ∀ order ∈ db.orders, order.id = orderId → wanted order = true →
      payment.amount = (change order).total)
    (hinsert : insertPayment middle.cash payment movementId = .ok cash) :
    Keeps db { middle with cash } := by
  constructor
  · apply hconsistent.collect hrewrote hsame hpays hstall _ hinsert
    intro order horder hid hwanted _
    exact hamount order horder hid hwanted
  · exact advances_of_collect hrewrote (fun order => (hsame order).1) hprogress hpays hinsert

theorem keeps_of_patchOrder {read : Order} {update : OrderStatusUpdate} {context : PatchContext}
    (hconsistent : Consistent db)
    (hfinds : keepsTotal db read update = true)
    (hpatch : patchOrder db read update context = .ok db') : Keeps db db' := by
  obtain ⟨plan, middle, hplan, hrewrote, hcreated⟩ := written_of_patchOrder hpatch
  have hplanned := planned_of_planPatch hplan
  have hsame : ∀ order, (patched read update plan context order).id = order.id
      ∧ (patched read update plan context order).stallId = order.stallId := by
    intro order
    simp
  have hstatus : ∀ order, patchFinds read update context order = true →
      order.stallId = context.scope.stallId ∧ order.status = read.status := by
    intro order hfound
    simp only [patchFinds, Bool.and_eq_true, decide_eq_true_eq] at hfound
    exact hfound.1.1
  have hprogress : ∀ order, patchFinds read update context order = true →
      progress order.status ≤ progress (patched read update plan context order).status := by
    intro order hfound
    rw [(hstatus order hfound).2]
    exact progress_of_planned hplanned
  rcases checkout_of_resolveCheckout hplanned.checkout with
    ⟨-, hnone⟩ | ⟨hcollects, completionIntent, input, checkout, rfl, hsome, hresolve⟩
  · rcases hcreated with ⟨-, rfl⟩ | ⟨checkout, _, _, hsome, -⟩
    · apply keeps_of_rewrote hconsistent hrewrote hsame hprogress
      intro order _
      left
      rw [patched_total, withCheckout_of_no_discount _ _ (by rw [hnone]; rfl)]
    · rw [hnone] at hsome
      cases hsome
  · rcases hcreated with ⟨hnone, -⟩ | ⟨resolved, cashShiftId, cash, hresolved, hinsert, rfl⟩
    · rw [hsome] at hnone
      cases hnone
    · have hsameCheckout : resolved = checkout :=
        Option.some.inj (hresolved.symm.trans hsome)
      subst hsameCheckout
      apply keeps_of_collect hconsistent hrewrote hsame hprogress rfl
        (fun order hfound => (hstatus order hfound).1) _ hinsert
      intro order horder hid hfound
      change resolved.total = _
      rw [patched_total, hsome]
      cases hdiscount : resolved.discount with
      | some discount => rw [withCheckout_total _ hdiscount]
      | none =>
          rw [withCheckout_of_no_discount _ _ (by simpa using hdiscount)]
          have hresolves := resolves_of_resolveStaffCheckout hresolve
          have hinput : input.discountOptionId.isSome = false := by
            rw [← hresolves.discount, hdiscount]
            rfl
          have hunpaid : read.paymentStatus = .unpaid := by
            simp only [collects, Bool.and_eq_true, decide_eq_true_eq] at hcollects
            exact hcollects.2
          have hstored := findOrder_of_mem horder
          rw [hid] at hstored
          have htotal : order.total = read.total := by
            simpa [keepsTotal, hunpaid, hinput, hstored] using hfinds
          rw [hresolves.single.2 hdiscount, htotal]

theorem hasNoPayment_of_insertPayment {cash cash' : CashDb} {payment : Payment}
    {movementId : Uuid} (hsame : cash = db.cash)
    (hinsert : insertPayment cash payment movementId = .ok cash') :
    HasNoPayment db payment.orderId := by
  intro stored hstored hpays
  rw [hsame] at hinsert
  have hfree := Table.not_collides_of_insert? (payments_of_insertPayment hinsert) hstored
  exact hfree (by simp [Indexed.collides, hpays])

/-- A table checkout finds every order with the total that it has read. -/
theorem keeps_of_payTableOrder {checkout : ResolvedStaffCheckout} {cashShiftId : Option Uuid}
    {context : TableCheckoutContext} {entry : Order × OrderAmounts}
    (hconsistent : Consistent db) (hfollows : Follows db entry.1)
    (hready : entry.1.status = .ready)
    (hamounts : orderAmounts checkout.discount entry.1 = some entry.2)
    (hpay : payTableOrder checkout cashShiftId context db entry = .ok db') : Keeps db db' := by
  obtain ⟨middle, cash, hrewrote, hinsert, rfl⟩ := written_of_payTableOrder hpay
  have hstatus : ∀ order, tableFinds context order = true →
      order.stallId = context.scope.stallId ∧ order.status = .ready := by
    intro order hfound
    simp only [tableFinds, Bool.and_eq_true, decide_eq_true_eq] at hfound
    exact hfound.1
  apply keeps_of_collect hconsistent hrewrote (fun order => by simp) _ rfl
    (fun order hfound => (hstatus order hfound).1) _ hinsert
  · intro order hfound
    rw [(hstatus order hfound).2]
    change _ ≤ 5
    decide
  · intro order horder hid hfound
    change entry.2.total = _
    cases hdiscount : checkout.discount with
    | some discount => rw [checkedOut_total_of_discount hdiscount]
    | none =>
        rw [checkedOut_total_of_no_discount hdiscount]
        rw [hdiscount] at hamounts
        obtain ⟨found, hfoundMem, hfoundId, -, htotal⟩ := hfollows
        have hsame : found = order := order_unique hfoundMem horder (hfoundId.trans hid.symm)
        subst hsame
        have hnone : HasNoPayment db found.id :=
          hid ▸ hasNoPayment_of_insertPayment hrewrote.cash hinsert
        rw [total_of_orderAmounts hamounts, htotal hready (hstatus found hfound).2 hnone]

theorem keeps_of_payTable {reads : List Order} {context : TableCheckoutContext}
    (hconsistent : Consistent db) (hfollows : ∀ read ∈ reads, Follows db read)
    (hpay : payTable db reads context = .ok db') : Keeps db db' := by
  unfold payTable at hpay
  obtain ⟨checkout, hplan, hrest⟩ := bind_eq_ok.mp hpay
  obtain ⟨cashShiftId, -, hloop⟩ := bind_eq_ok.mp hrest
  unfold planTableCheckout at hplan
  obtain ⟨_, -, hrest⟩ := bind_eq_ok.mp hplan
  obtain ⟨_, hpayable, hrest⟩ := bind_eq_ok.mp hrest
  obtain ⟨_, -, hrest⟩ := bind_eq_ok.mp hrest
  obtain ⟨_, -, hresolve⟩ := bind_eq_ok.mp hrest
  have hready : ∀ read ∈ reads, read.status = .ready := by
    have hpayable := failWhen_eq_ok.mp hpayable
    rw [Bool.not_eq_false', List.all_eq_true] at hpayable
    intro read hread
    have hread := hpayable read hread
    simp only [payableTogether, Bool.and_eq_true, decide_eq_true_eq] at hread
    exact hread.1.2
  have hamounts := (resolves_of_resolveStaffCheckout (mapError_eq_ok.mp hresolve)).amounts
  have hinvariant := foldlM_invariant (fun state => Keeps db state) ?_
    ⟨hconsistent, Advances.refl db⟩ hloop
  · exact hinvariant
  · intro entry hentry state next hkeeps hnext
    have hread : entry.1 ∈ reads := (List.of_mem_zip hentry).1
    have hkept := keeps_of_payTableOrder hkeeps.consistent
      ((hfollows entry.1 hread).advance hkeeps.advances) (hready entry.1 hread)
      (amounts_of_mem_zip hamounts hentry) hnext
    exact ⟨hkept.consistent, hkeeps.advances.trans hkept.advances⟩

theorem keeps_of_executeOrderCommand {scope : CashScope} {ids : FreshIds} {now : Timestamp}
    {command : CashShiftCommand} (hconsistent : Consistent db)
    (hexecute : executeOrderCommand db scope ids now command = .ok db') : Keeps db db' := by
  rcases written_of_executeOrderCommand hexecute with ⟨horders, hpayments⟩ | ⟨payment, hrefunded⟩
  · exact ⟨hconsistent.same horders hpayments, advances_of_same horders hpayments⟩
  · refine ⟨hconsistent.refund hrefunded ?_, advances_of_refunded hrefunded⟩
    intro order _ hpaid
    cases hpaid

theorem hasNoPayment_of_paymentOf {orderId : Uuid} (hnone : paymentOf db orderId = none) :
    HasNoPayment db orderId := by
  intro payment hpayment hpays
  have hother := List.find?_eq_none.mp hnone payment hpayment
  simp [hpays] at hother

theorem keeps_of_editStaffOrderItems {scope : CashScope} {orderId : Uuid}
    {request : UpdateStaffOrderItems} {context : EditContext} (hconsistent : Consistent db)
    (hedit : editStaffOrderItems db scope orderId request context = .ok db') : Keeps db db' := by
  rcases written_of_editStaffOrderItems hedit with
    rfl | ⟨order, -, middle, edited, hfailure, hrewrote, horders, hcash⟩
  · exact ⟨hconsistent, Advances.refl _⟩
  · obtain ⟨hnone, hstatus⟩ := editable_of_staffFailure hfailure
    have hkeeps : Keeps db middle := by
      apply keeps_of_rewrote hconsistent hrewrote (fun _ => ⟨rfl, rfl⟩) (fun _ _ => le_refl _)
      intro stored hfound
      simp only [editFinds, Bool.and_eq_true, decide_eq_true_eq] at hfound
      refine Or.inr ⟨hasNoPayment_of_paymentOf hnone, ?_⟩
      rw [hfound.1]
      rcases hstatus with hstatus | hstatus <;> simp [hstatus]
    have hpayments : db'.cash.payments = middle.cash.payments := by rw [hcash]
    exact ⟨hkeeps.consistent.same horders hpayments,
      hkeeps.advances.trans (advances_of_same horders hpayments)⟩

theorem keeps_of_editTrackedPublicOrder {orderId : Uuid} {context : PublicEditContext}
    (hconsistent : Consistent db)
    (hedit : editTrackedPublicOrder db orderId context = .ok db') : Keeps db db' := by
  obtain ⟨order, -, edited, hfailure, hrewrote⟩ := written_of_editTrackedPublicOrder hedit
  obtain ⟨hnone, hstatus⟩ := editable_of_publicFailure hfailure
  have hwaiting : ∀ stored, editFinds order stored = true →
      stored.status = .waitingConfirmation := by
    intro stored hfound
    simp only [editFinds, Bool.and_eq_true, decide_eq_true_eq] at hfound
    exact hfound.1.trans hstatus
  apply keeps_of_rewrote hconsistent hrewrote (fun _ => ⟨rfl, rfl⟩)
  · intro stored hfound
    rw [hwaiting stored hfound]
    exact Nat.zero_le _
  · intro stored hfound
    refine Or.inr ⟨hasNoPayment_of_paymentOf hnone, ?_⟩
    rw [hwaiting stored hfound]
    decide

/-! ## Runs -/

/-- What every reachable state satisfies. -/
structure Sound (system : CheckoutSystem) : Prop where
  consistent : Consistent system.db
  reads : ∀ read ∈ system.reads, Follows system.db read

theorem sound_of_commit {Error : Type} {system : CheckoutSystem}
    {outcome : Except Error CheckoutDb} (hsound : Sound system)
    (hok : ∀ db, outcome = .ok db → Keeps system.db db) : Sound (system.commit outcome) := by
  cases outcome with
  | ok db =>
      have hkeeps := hok db rfl
      exact ⟨hkeeps.consistent, fun read hread => (hsound.reads read hread).advance hkeeps.advances⟩
  | error error => exact hsound

theorem sound_step (system : CheckoutSystem) (request : CheckoutRequest) (hsound : Sound system)
    (hfinds : findsReadTotal system request = true) : Sound (step system request) := by
  have hconsistent := hsound.consistent
  cases request with
  | placeOrder order =>
      exact sound_of_commit hsound fun _ hinsert =>
        ⟨hconsistent.insertOrder trivial hinsert, advances_of_insertOrder hinsert⟩
  | readOrder orderId =>
      refine ⟨hconsistent, fun read hread => ?_⟩
      rcases List.mem_append.mp hread with hnew | hold
      · exact follows_of_mem (mem_of_findOrder (Option.mem_toList.mp hnew)).1
      · exact hsound.reads read hold
  | patch read update context =>
      unfold step
      dsimp only
      split
      · next hread =>
        apply sound_of_commit hsound
        intro db hpatch
        have hkeeps : keepsTotal system.db read update = true := by
          simpa [findsReadTotal, patches_of_patchOrder hread hpatch] using hfinds
        exact keeps_of_patchOrder hconsistent hkeeps hpatch
      · exact hsound
  | tableCheckout reads context =>
      unfold step
      dsimp only
      split
      · next hreads =>
        exact sound_of_commit hsound fun _ =>
          keeps_of_payTable hconsistent fun read hread => hsound.reads read (hreads read hread)
      · exact hsound
  | cashCommand scope ids now command =>
      exact sound_of_commit hsound fun _ => keeps_of_executeOrderCommand hconsistent
  | printCompleted orderId context =>
      refine sound_of_commit hsound fun _ hprint =>
        keeps_of_rewrote hconsistent (rewrote_of_updateOrder hprint) (fun _ => ⟨rfl, rfl⟩) ?_
          fun _ _ => Or.inl rfl
      intro order hcompletes
      simp only [printCompletes, Bool.and_eq_true, decide_eq_true_eq] at hcompletes
      rw [hcompletes.1.1.2]
      change _ ≤ 5
      decide
  | editByStaff scope orderId request context =>
      exact sound_of_commit hsound fun _ => keeps_of_editStaffOrderItems hconsistent
  | editByCustomer orderId context =>
      exact sound_of_commit hsound fun _ => keeps_of_editTrackedPublicOrder hconsistent
  | serveItems orderId itemIds status =>
      exact sound_of_commit hsound fun _ hserve =>
        keeps_of_rewrote hconsistent (rewrote_of_updateOrder hserve) (fun _ => ⟨rfl, rfl⟩)
          (fun _ _ => le_refl _) fun _ _ => Or.inl rfl

/-- The amounts of an order and of its paid payment. -/
structure AmountsAgree (db : CheckoutDb) (order : Order) : Prop where
  collected : ∀ payment ∈ db.cash.payments, payment.orderId = order.id →
    payment.status = .paid → payment.amount = order.total
  total : order.total = order.subtotal - order.discountAmount
  nonneg : 0 ≤ order.total

theorem amounts_of_check {order : Order} (hcheck : ordersCheckoutAmountsCheck order = true) :
    order.total = order.subtotal - order.discountAmount ∧ 0 ≤ order.total := by
  simp only [ordersCheckoutAmountsCheck, Bool.and_eq_true, decide_eq_true_eq] at hcheck
  exact ⟨hcheck.1.2.symm, hcheck.1.1.2⟩

/-- In every run whose requests find the total that they have read, a paid
payment is over the total of its order. -/
theorem collected_amount_agrees (requests : List CheckoutRequest)
    (hfinds : Safely step (fun system request => findsReadTotal system request = true)
      CheckoutSystem.initial requests) (order : Order)
    (horder : order ∈ (exec step CheckoutSystem.initial requests).db.orders) :
    AmountsAgree (exec step CheckoutSystem.initial requests).db order := by
  have hsound : Sound (exec step CheckoutSystem.initial requests) :=
    invariant_of_safely Sound sound_step ⟨matches_empty, fun read hread => by cases hread⟩ hfinds
  obtain ⟨htotal, hnonneg⟩ := amounts_of_check
    ((exec step CheckoutSystem.initial requests).db.orders.checked order horder)
  refine ⟨fun payment hpayment hpays hpaid => ?_, htotal, hnonneg⟩
  exact (hsound.consistent.paired_of_mem horder hpayment hpays).2 hpaid

/-! ## Sample runs -/

/-- An order taken at the counter. -/
def sampleStaffOrder : Order :=
  { sampleOrder with source := .staffPos }

def sampleEdit : UpdateStaffOrderItems where
  changeId := 40
  expectedUpdatedAt := 0
  items := [.new 50 1 [] []]
  publicAmendment := false

def sampleEditContext : EditContext where
  prepared := some [{
    productId := 50
    unitPrice := 200
    quantity := 1
    isOrderDiscountEligible := true
    note := [] }]
  limits := {
    maxItemQuantity := 10
    maxUniqueProducts := 10
    maxTotalQuantity := 10
    maxNoteLength := 100 }
  productsAvailable := true
  itemId := id
  now := 5

def sampleItem : OrderItem where
  id := 1
  productId := some 50
  sourceLineIndex := 1
  unitPrice := 200
  quantity := 1
  isOrderDiscountEligible := true
  note := []
  isPromotion := false
  status := .pending
  taskStarted := false

/-- The order with its new item. -/
def sampleEdited : Order :=
  { sampleStaffOrder with subtotal := 200, total := 200, items := [sampleItem], updatedAt := 5 }

def completeOrder : OrderStatusUpdate := .complete none sampleCheckout

/-- The order is read, and its items are edited. -/
def sampleReadAndEdited : List CheckoutRequest :=
  [.cashCommand sampleScope (sampleIds 1) 0 (.open 500 none),
    .placeOrder sampleStaffOrder,
    .readOrder 20,
    .editByStaff sampleScope 20 sampleEdit sampleEditContext]

/-- The edited order is read again and paid. -/
def sampleCollected : List CheckoutRequest :=
  sampleReadAndEdited ++ [.readOrder 20, .patch sampleEdited completeOrder sampleContext]

/-- The order as the requests leave it. -/
def sampleFinal : Order :=
  { sampleEdited with
    status := .completed
    paymentStatus := .paid
    items := [{ sampleItem with status := .ready }]
    paidAt := some 10
    completedAt := some 10
    updatedAt := 10 }

theorem sample_collected_amount_agrees :
    AmountsAgree (exec step CheckoutSystem.initial sampleCollected).db sampleFinal := by
  have horder : sampleFinal
      ∈ (exec step CheckoutSystem.initial sampleCollected).db.orders.table.rows := by
    decide +kernel
  exact collected_amount_agrees sampleCollected (by decide +kernel) _ horder

/-- The order is paid by the request that had read it before the edit. -/
def staleCheckout : List CheckoutRequest :=
  sampleReadAndEdited ++ [.patch sampleStaffOrder completeOrder sampleContext]

/-- The amount that was read is collected, not the total of the order. -/
theorem stale_amount_collected :
    ∃ order ∈ (exec step CheckoutSystem.initial staleCheckout).db.orders,
      ¬ AmountsAgree (exec step CheckoutSystem.initial staleCheckout).db order := by
  have horder : sampleFinal
      ∈ (exec step CheckoutSystem.initial staleCheckout).db.orders.table.rows := by
    decide +kernel
  have hpaid : ∃ payment ∈ (exec step CheckoutSystem.initial staleCheckout).db.cash.payments.rows,
      payment.orderId = 20 ∧ payment.status = .paid ∧ payment.amount = 100 := by decide +kernel
  obtain ⟨payment, hpayment, hpays, hstatus, hamount⟩ := hpaid
  refine ⟨_, horder, fun hagrees => ?_⟩
  have htotal : (100 : ℤ) = 200 :=
    hamount.symm.trans (hagrees.collected payment hpayment hpays hstatus)
  cases htotal

end Stallorder.CollectedAmount
