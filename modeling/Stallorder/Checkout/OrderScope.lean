import Stallorder.Checkout.OrderRun

/-!
# The scope of an order

No request removes an order or moves it to another organization or stall, so
what refers to an order with its scope keeps referring to a stored row.
-/

namespace Stallorder.OrderScope

open OrderContract CashDatabase OrderDatabase StaffCheckout OrderPatch OrderEdits TableCheckout
open OrderRun Checks
open CashShifts hiding step
open SyncDatabase (OrderStatus OrderItemStatus PaymentStatus)

variable {db middle db' : CheckoutDb}

/-- The columns by which other tables refer to an order. -/
structure SameScope (order order' : Order) : Prop where
  id : order'.id = order.id
  organizationId : order'.organizationId = order.organizationId
  stallId : order'.stallId = order.stallId

theorem SameScope.refl (order : Order) : SameScope order order :=
  ⟨rfl, rfl, rfl⟩

/-- Every order is still there, in its scope. -/
def KeepsScope (db db' : CheckoutDb) : Prop :=
  ∀ order ∈ db.orders, ∃ order' ∈ db'.orders, SameScope order order'

theorem KeepsScope.refl (db : CheckoutDb) : KeepsScope db db :=
  fun order horder => ⟨order, horder, SameScope.refl order⟩

theorem KeepsScope.trans (hfirst : KeepsScope db middle) (hsecond : KeepsScope middle db') :
    KeepsScope db db' := by
  intro order horder
  obtain ⟨order', horder', hscope⟩ := hfirst order horder
  obtain ⟨order'', horder'', hscope'⟩ := hsecond order' horder'
  exact ⟨order'', horder'', hscope'.id.trans hscope.id,
    hscope'.organizationId.trans hscope.organizationId, hscope'.stallId.trans hscope.stallId⟩

/-! ## Statements -/

theorem keepsScope_of_same (horders : db'.orders = db.orders) : KeepsScope db db' := by
  intro order horder
  exact ⟨order, horders ▸ horder, SameScope.refl order⟩

theorem keepsScope_of_rewrote {orderId : Uuid} {wanted : Order → Bool} {change : Order → Order}
    (hrewrote : Rewrote db db' orderId wanted change)
    (hscope : ∀ order, SameScope order (change order)) : KeepsScope db db' := by
  intro order horder
  obtain ⟨target, htarget, htargetId, -, hchanged⟩ := hrewrote.found
  by_cases hid : order.id = orderId
  · have hsame : order = target := order_unique horder htarget (hid.trans htargetId.symm)
    subst hsame
    exact ⟨change order, hchanged, hscope order⟩
  · exact ⟨order, hrewrote.others order horder hid, SameScope.refl order⟩

theorem keepsScope_of_refunded {payment : Payment} (hrefunded : Refunded db db' payment) :
    KeepsScope db db' := by
  intro order horder
  refine ⟨_, (hrefunded.orders _).mpr ⟨order, horder, rfl⟩, ?_⟩
  split <;> exact ⟨rfl, rfl, rfl⟩

theorem keepsScope_of_insertOrder {Error : Type} {order : Order} {violated : Error}
    (hinsert : insertOrder db order violated = .ok db') : KeepsScope db db' := by
  unfold insertOrder at hinsert
  obtain ⟨orders, hinserted, hdb⟩ := bind_eq_ok.mp hinsert
  cases hdb
  intro stored hstored
  have hmem : stored ∈ orders :=
    (CheckedTable.mem_of_insert? (orFail_eq_ok.mp hinserted)).mpr (Or.inl hstored)
  exact ⟨stored, hmem, SameScope.refl stored⟩

/-! ## Requests -/

theorem sameScope_withCheckout (checkout : Option ResolvedStaffCheckout) (order : Order) :
    SameScope order (withCheckout checkout order) := by
  unfold withCheckout
  split <;> exact ⟨rfl, rfl, rfl⟩

theorem sameScope_patched (read : Order) (update : OrderStatusUpdate) (plan : PatchPlan)
    (context : PatchContext) (order : Order) :
    SameScope order (patched read update plan context order) := by
  obtain ⟨items, hitems⟩ := withItems_eq read plan context (withCheckout plan.checkout order)
  have hscope := sameScope_withCheckout plan.checkout order
  unfold patched
  rw [hitems]
  exact ⟨hscope.id, hscope.organizationId, hscope.stallId⟩

theorem sameScope_checkedOut (checkout : ResolvedStaffCheckout) (amounts : OrderAmounts)
    (now : Timestamp) (order : Order) : SameScope order (checkedOut checkout amounts now order) := by
  have hscope := sameScope_withCheckout (some { checkout with
    discountAmount := amounts.discountAmount
    total := amounts.total }) order
  exact ⟨hscope.id, hscope.organizationId, hscope.stallId⟩

theorem keepsScope_of_patchOrder {read : Order} {update : OrderStatusUpdate}
    {context : PatchContext} (hpatch : patchOrder db read update context = .ok db') :
    KeepsScope db db' := by
  obtain ⟨plan, middle, -, hrewrote, hcreated⟩ := written_of_patchOrder hpatch
  have hkeeps : KeepsScope db middle :=
    keepsScope_of_rewrote hrewrote (sameScope_patched read update plan context)
  rcases hcreated with ⟨-, rfl⟩ | ⟨_, _, cash, -, -, rfl⟩
  · exact hkeeps
  · exact hkeeps.trans (keepsScope_of_same rfl)

theorem keepsScope_of_payTable {reads : List Order} {context : TableCheckoutContext}
    (hpay : payTable db reads context = .ok db') : KeepsScope db db' := by
  unfold payTable at hpay
  obtain ⟨checkout, -, hrest⟩ := bind_eq_ok.mp hpay
  obtain ⟨cashShiftId, -, hloop⟩ := bind_eq_ok.mp hrest
  refine foldlM_invariant (KeepsScope db) ?_ (KeepsScope.refl db) hloop
  intro entry _ state next hkeeps hentry
  obtain ⟨middle, cash, hrewrote, -, rfl⟩ := written_of_payTableOrder hentry
  exact (hkeeps.trans (keepsScope_of_rewrote hrewrote
    (sameScope_checkedOut checkout entry.2 context.now))).trans (keepsScope_of_same rfl)

theorem keepsScope_of_executeOrderCommand {scope : CashScope} {ids : FreshIds} {now : Timestamp}
    {command : CashShiftCommand}
    (hexecute : executeOrderCommand db scope ids now command = .ok db') : KeepsScope db db' := by
  rcases written_of_executeOrderCommand hexecute with ⟨horders, -⟩ | ⟨payment, hrefunded⟩
  · exact keepsScope_of_same horders
  · exact keepsScope_of_refunded hrefunded

theorem keepsScope_of_editStaffOrderItems {scope : CashScope} {orderId : Uuid}
    {request : UpdateStaffOrderItems} {context : EditContext}
    (hedit : editStaffOrderItems db scope orderId request context = .ok db') :
    KeepsScope db db' := by
  rcases written_of_editStaffOrderItems hedit with
    rfl | ⟨order, -, middle, edited, -, hrewrote, horders, -⟩
  · exact KeepsScope.refl _
  · exact (keepsScope_of_rewrote hrewrote fun _ => ⟨rfl, rfl, rfl⟩).trans
      (keepsScope_of_same horders)

theorem keepsScope_of_editTrackedPublicOrder {orderId : Uuid} {context : PublicEditContext}
    (hedit : editTrackedPublicOrder db orderId context = .ok db') : KeepsScope db db' := by
  obtain ⟨order, -, edited, -, hrewrote⟩ := written_of_editTrackedPublicOrder hedit
  exact keepsScope_of_rewrote hrewrote fun _ => ⟨rfl, rfl, rfl⟩

theorem keepsScope_of_updateOrder {Error : Type} {orderId : Uuid} {wanted : Order → Bool}
    {change : Order → Order} {conflict violated : Error}
    (hscope : ∀ order, SameScope order (change order))
    (hupdate : updateOrder db orderId wanted change conflict violated = .ok db') :
    KeepsScope db db' :=
  keepsScope_of_rewrote (rewrote_of_updateOrder hupdate) hscope

theorem keepsScope_of_commit {Error : Type} {system : CheckoutSystem}
    {outcome : Except Error CheckoutDb} (hok : ∀ db, outcome = .ok db → KeepsScope system.db db) :
    KeepsScope system.db (system.commit outcome).db := by
  cases outcome with
  | ok db => exact hok db rfl
  | error error => exact KeepsScope.refl _

/-- Every request keeps the orders in their scope. -/
theorem keepsScope_step (system : CheckoutSystem) (request : CheckoutRequest) :
    KeepsScope system.db (step system request).db := by
  cases request with
  | placeOrder order => exact keepsScope_of_commit fun _ => keepsScope_of_insertOrder
  | readOrder orderId => exact KeepsScope.refl _
  | patch read update context =>
      unfold step
      dsimp only
      split
      · exact keepsScope_of_commit fun _ => keepsScope_of_patchOrder
      · exact KeepsScope.refl _
  | tableCheckout reads context =>
      unfold step
      dsimp only
      split
      · exact keepsScope_of_commit fun _ => keepsScope_of_payTable
      · exact KeepsScope.refl _
  | cashCommand scope ids now command =>
      exact keepsScope_of_commit fun _ => keepsScope_of_executeOrderCommand
  | printCompleted orderId context =>
      exact keepsScope_of_commit fun _ => keepsScope_of_updateOrder fun _ => ⟨rfl, rfl, rfl⟩
  | editByStaff scope orderId request context =>
      exact keepsScope_of_commit fun _ => keepsScope_of_editStaffOrderItems
  | editByCustomer orderId context =>
      exact keepsScope_of_commit fun _ => keepsScope_of_editTrackedPublicOrder
  | serveItems orderId itemIds status =>
      exact keepsScope_of_commit fun _ => keepsScope_of_updateOrder fun _ => ⟨rfl, rfl, rfl⟩

end Stallorder.OrderScope
