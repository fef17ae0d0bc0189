import Stallorder.Checkout.OrderRun

/-!
# Paying an order in cash

A checkout in cash writes a paid payment, and the trigger of the payments
records it in the ledger, which takes no movement of nothing and none above its
bound.  A checkout whose amounts were accepted is therefore refused by the
database exactly when nothing is left to pay, or too much.
-/

namespace Stallorder.CashPayable

open OrderContract OrderDatabase CashDatabase CashShifts StaffCheckout OrderPatch TableCheckout
  Checks
open SyncDatabase (CashShift CashMovementType)

/-- The check of the columns of the cash on a payment. -/
def paymentsCashChangeCheck (payment : Payment) : Bool :=
  payment.cashReceived.all (payment.amount ≤ ·) && payment.changeAmount.all (0 ≤ ·)
    && ((payment.cashReceived.isNone && payment.changeAmount.isNone)
      || payment.changeAmount = payment.cashReceived.map (· - payment.amount))

/-- The payment is inserted with the movement of its sale. -/
def Accepts (cash : CashDb) (payment : Payment) (movementId : Uuid) : Prop :=
  paymentsCashChangeCheck payment = true
    ∧ ∃ cash', insertPayment cash payment movementId = .ok cash'

/-- The order has no payment, and the ids of its payment and of the movement are new. -/
structure Payable (cash : CashDb) (orderId paymentId movementId : Uuid) : Prop where
  payments : ∀ stored ∈ cash.payments, stored.id ≠ paymentId ∧ stored.orderId ≠ orderId
  movements : ∀ stored ∈ cash.movements,
    stored.id ≠ movementId ∧ stored.reference ≠ some (.payment paymentId)

/-! ## The triggers -/

section Triggers

variable {cash : CashDb} {payment : Payment} {movementId : Uuid} {shift : CashShift}

/-- A paid payment in cash that names an open shift of its stall. -/
structure PaidInto (cash : CashDb) (payment : Payment) (shift : CashShift) : Prop where
  method : payment.method = .cash
  status : payment.status = .paid
  shiftId : payment.cashShiftId = some shift.id
  stored : cash.shifts.get? shift.id = some shift
  isOpen : shift.status = .open
  organization : shift.organizationId = payment.organizationId
  stall : shift.stallId = payment.stallId

theorem enforcePaymentCashShift_of_paidInto (hpaid : PaidInto cash payment shift) :
    enforcePaymentCashShift cash none payment false = .ok () := by
  have hfound : ((payment.cashShiftId.bind cash.shifts.get?).any fun found =>
      found.organizationId = payment.organizationId && found.stallId = payment.stallId
        && found.status = .open) = true := by
    rw [hpaid.shiftId, Option.bind_some, hpaid.stored, Option.any_some]
    simp [hpaid.organization, hpaid.stall, hpaid.isOpen]
  unfold enforcePaymentCashShift
  rw [hfound]
  simp [hpaid.method]

theorem checkMovement_sale_iff (hpaid : PaidInto cash payment shift) :
    checkMovement cash (saleMovement payment shift.id movementId) = .ok () ↔
      0 < payment.amount ∧ payment.amount ≤ 100_000_000 := by
  have hledger : enforceCashMovementLedger cash (saleMovement payment shift.id movementId)
      = .ok () := by
    unfold enforceCashMovementLedger
    rw [show (saleMovement payment shift.id movementId).cashShiftId = shift.id from rfl,
      hpaid.stored, orFail_some, bind_ok]
    simp [saleMovement, hpaid.organization, hpaid.stall, hpaid.isOpen]
  rw [checkMovement, hledger, bind_ok, failWhen_eq_ok, Bool.or_eq_false_iff]
  have hreference : cashMovementsReferenceCheck (saleMovement payment shift.id movementId)
      = true := rfl
  have hamount : cashMovementsAmountCheck (saleMovement payment shift.id movementId) = true ↔
      0 < payment.amount ∧ payment.amount ≤ 100_000_000 := by
    unfold cashMovementsAmountCheck saleMovement maxAmount
    simp only [Bool.and_eq_true, Bool.or_eq_true, decide_eq_true_eq]
    constructor
    · rintro ⟨⟨⟨-, hle⟩, -⟩, hcorrection | hpos⟩
      · cases hcorrection
      · exact ⟨hpos, hle⟩
    · rintro ⟨hpos, hle⟩
      exact ⟨⟨⟨by omega, hle⟩, hpos.ne'⟩, Or.inr hpos⟩
  rw [Bool.not_eq_false', Bool.not_eq_false', hamount]
  exact and_iff_left hreference

/-- A new payment into an open shift is taken exactly when the ledger takes its amount. -/
theorem exists_insertPayment_iff (hpaid : PaidInto cash payment shift)
    (hpayable : Payable cash payment.orderId payment.id movementId) :
    (∃ cash', insertPayment cash payment movementId = .ok cash') ↔
      0 < payment.amount ∧ payment.amount ≤ 100_000_000 := by
  obtain ⟨payments, hpayments⟩ : ∃ payments, cash.payments.insert? payment = some payments := by
    refine Table.exists_insert? fun stored hstored hcollides => ?_
    obtain ⟨hid, horder⟩ := hpayable.payments stored hstored
    simp only [Indexed.collides, Bool.or_eq_true, decide_eq_true_eq] at hcollides
    exact hcollides.elim hid horder
  have hpaid' : PaidInto { cash with payments } payment shift := { hpaid with }
  have hnone : ({ cash with payments } : CashDb).movements.rows.any (fun stored =>
      stored.reference.isSome
        && stored.reference = (saleMovement payment shift.id movementId).reference
        && stored.type = (saleMovement payment shift.id movementId).type) = false := by
    rw [List.any_eq_false]
    intro stored hstored hsame
    simp only [Bool.and_eq_true, decide_eq_true_eq] at hsame
    exact (hpayable.movements stored hstored).2 hsame.1.2
  obtain ⟨movements, hmovements⟩ : ∃ movements,
      cash.movements.insert? (saleMovement payment shift.id movementId) = some movements := by
    refine Table.exists_insert? fun stored hstored hcollides => ?_
    obtain ⟨hid, hreference⟩ := hpayable.movements stored hstored
    simp only [Indexed.collides, Bool.or_eq_true, Bool.and_eq_true, decide_eq_true_eq]
      at hcollides
    rcases hcollides with hsame | ⟨⟨-, hsame⟩, -⟩
    · exact hid hsame
    · exact hreference hsame
  have hrecord : recordCashSaleMovement { cash with payments } payment movementId
      = insertMovementOnce { cash with payments } (saleMovement payment shift.id movementId) := by
    unfold recordCashSaleMovement
    rw [hpaid.shiftId]
    simp [hpaid.method, hpaid.status]
  unfold insertPayment
  rw [enforcePaymentCashShift_of_paidInto hpaid, bind_ok, hpayments, orFail_some]
  constructor
  · rintro ⟨cash', hinsert⟩
    obtain ⟨_, -, hrest⟩ := bind_eq_ok.mp hinsert
    rw [bind_ok, hrecord] at hrest
    obtain ⟨⟨⟩, hcheck, -⟩ := bind_eq_ok.mp hrest
    exact (checkMovement_sale_iff hpaid').mp hcheck
  · intro hamount
    have hnonneg : failWhen (payment.amount < 0) CashError.constraintViolated = .ok () := by
      rw [failWhen_eq_ok]
      simp only [decide_eq_false_iff_not, not_lt]
      omega
    refine ⟨{ cash with payments, movements }, ?_⟩
    rw [hnonneg, bind_ok, bind_ok, hrecord, insertMovementOnce,
      (checkMovement_sale_iff hpaid').mpr hamount, bind_ok, hnone]
    rw [if_neg Bool.false_ne_true, hmovements, orFail_some, bind_ok]
    rfl

end Triggers

/-! ## Amounts -/

/-- What an order leaves to pay is not nothing and within the bound of the ledger: without a
discount its total, and with one what the discount leaves of its subtotal. -/
def LeavesCashToPay (discount : Option DiscountOption) (order : Order) : Prop :=
  match discount with
  | none => 0 < order.total ∧ order.total ≤ 100_000_000
  | some discount =>
      (discountEligibleSubtotal order.items < order.subtotal
        ∨ 10_000 ≤ 2 * discountEligibleSubtotal order.items * discount.rateBps)
      ∧ order.subtotal - discountEligibleSubtotal order.items
        + (2 * discountEligibleSubtotal order.items * discount.rateBps + 10_000) / 20_000
          ≤ 100_000_000

instance (discount : Option DiscountOption) (order : Order) :
    Decidable (LeavesCashToPay discount order) := by
  unfold LeavesCashToPay
  cases discount <;> infer_instance

theorem calculateOrderDiscount_eq_some {subtotal eligible : ℤ} {rateBps : ℕ}
    {amounts : OrderAmounts}
    (hamounts : calculateOrderDiscount subtotal eligible rateBps = some amounts) :
    0 ≤ eligible ∧ eligible ≤ subtotal
      ∧ amounts.total = subtotal - (eligible - discountedAmount eligible rateBps) := by
  unfold calculateOrderDiscount at hamounts
  split at hamounts
  · cases hamounts
  · next hvalid =>
      cases hamounts
      simp only [Bool.or_eq_true, decide_eq_true_eq, not_or, not_lt] at hvalid
      exact ⟨hvalid.1.1.1.2, hvalid.1.1.2, rfl⟩

theorem total_in_range_iff {discount : Option DiscountOption} {order : Order}
    {amounts : OrderAmounts} (hamounts : orderAmounts discount order = some amounts) :
    0 < amounts.total ∧ amounts.total ≤ 100_000_000 ↔ LeavesCashToPay discount order := by
  cases discount with
  | none =>
      rw [total_of_orderAmounts hamounts]
      exact Iff.rfl
  | some discount =>
      obtain ⟨discounted, hdiscounted, hrest⟩ := Option.bind_eq_some_iff.mp hamounts
      cases hrest
      obtain ⟨hnonneg, hle, htotal⟩ := calculateOrderDiscount_eq_some hdiscounted
      have hrate : ((some discount).map (·.rateBps)).getD 10_000 = discount.rateBps := rfl
      rw [hrate, discountedAmount] at htotal
      have hproduct : 0 ≤ 2 * discountEligibleSubtotal order.items * discount.rateBps := by
        positivity
      change _ ↔ (_ ∨ _) ∧ _
      rw [htotal]
      omega

/-! ## Checkouts -/

section Checkouts

variable {stall : StallCheckout} {orders : List Order} {input : StaffCheckoutInput}
  {checkout : ResolvedStaffCheckout}

/-- What is received covers the total, and what is above it is given back. -/
theorem received_of_resolveStaffCheckout
    (hresolve : resolveStaffCheckout stall orders input = .ok checkout) :
    findDiscountOption stall input = .ok checkout.discount
      ∧ checkout.cashReceived.any (· < checkout.total) = false
      ∧ checkout.changeAmount = checkout.cashReceived.map (· - checkout.total) := by
  unfold resolveStaffCheckout at hresolve
  obtain ⟨_, -, hrest⟩ := bind_eq_ok.mp hresolve
  obtain ⟨paymentOption, -, hrest⟩ := bind_eq_ok.mp hrest
  obtain ⟨_, -, hrest⟩ := bind_eq_ok.mp hrest
  obtain ⟨discount, hdiscount, hrest⟩ := bind_eq_ok.mp hrest
  obtain ⟨_, -, hrest⟩ := bind_eq_ok.mp hrest
  obtain ⟨perOrderAmounts, -, hrest⟩ := bind_eq_ok.mp hrest
  obtain ⟨_, hreceived, hrest⟩ := bind_eq_ok.mp hrest
  obtain ⟨_, -, hcheckout⟩ := bind_eq_ok.mp hrest
  cases hcheckout
  exact ⟨hdiscount, failWhen_eq_ok.mp hreceived, rfl⟩

/-- The payment of an order of a checkout: of the only order, with the cash that was received
for it, or of one of the orders of a table. -/
def IsPaymentOf (checkout : ResolvedStaffCheckout) (orders : List Order)
    (entry : Order × OrderAmounts) (scope : CashScope) (shiftId : Uuid) (payment : Payment) :
    Prop :=
  (∃ context : PatchContext, context.scope = scope ∧ orders = [entry.1]
      ∧ payment = checkoutPayment scope checkout none (some shiftId)
        (orderPayment entry.1.id checkout context))
    ∨ ∃ context : TableCheckoutContext, context.scope = scope
      ∧ payment = checkoutPayment scope checkout (some context.checkoutGroupId) (some shiftId)
        (tableOrderPayment entry.1.id entry.2 context)

/-- The columns of the payment of an order. -/
structure PaysFor (checkout : ResolvedStaffCheckout) (entry : Order × OrderAmounts)
    (scope : CashScope) (shiftId : Uuid) (payment : Payment) : Prop where
  orderId : payment.orderId = entry.1.id
  organization : payment.organizationId = scope.organizationId
  stall : payment.stallId = scope.stallId
  shift : payment.cashShiftId = some shiftId
  method : payment.method = checkout.method
  status : payment.status = .paid
  amount : payment.amount = entry.2.total
  change : paymentsCashChangeCheck payment = true

theorem paysFor_of_isPaymentOf (hresolve : resolveStaffCheckout stall orders input = .ok checkout)
    {entry : Order × OrderAmounts} (hentry : entry ∈ orders.zip checkout.perOrderAmounts)
    {scope : CashScope} {shiftId : Uuid} {payment : Payment}
    (hpayment : IsPaymentOf checkout orders entry scope shiftId payment) :
    PaysFor checkout entry scope shiftId payment := by
  rcases hpayment with ⟨context, -, hsingle, rfl⟩ | ⟨context, -, rfl⟩
  · have htotal : checkout.total = entry.2.total := by
      have hresolves := resolves_of_resolveStaffCheckout hresolve
      have hmapM := hresolves.amounts
      rw [hsingle] at hmapM
      simp only [List.mapM_cons, List.mapM_nil] at hmapM
      obtain ⟨amounts, -, hlist⟩ := Option.bind_eq_some_iff.mp hmapM
      have hlist : [amounts] = checkout.perOrderAmounts := Option.some.inj hlist
      rw [hsingle, ← hlist] at hentry
      have hsame : entry = (entry.1, amounts) := List.mem_singleton.mp hentry
      rw [hresolves.total, ← hlist, hsame]
      simp
    have hchange : paymentsCashChangeCheck (checkoutPayment scope checkout none (some shiftId)
        (orderPayment entry.1.id checkout context)) = true := by
      obtain ⟨-, hcovers, hback⟩ := received_of_resolveStaffCheckout hresolve
      change (checkout.cashReceived.all (checkout.total ≤ ·) && checkout.changeAmount.all (0 ≤ ·)
        && ((checkout.cashReceived.isNone && checkout.changeAmount.isNone)
          || checkout.changeAmount = checkout.cashReceived.map (· - checkout.total))) = true
      rw [hback]
      cases hreceived : checkout.cashReceived with
      | none => rfl
      | some received =>
          rw [hreceived, Option.any_some, decide_eq_false_iff_not, not_lt] at hcovers
          simp [hcovers]
    exact ⟨rfl, rfl, rfl, rfl, rfl, rfl, htotal, hchange⟩
  · exact ⟨rfl, rfl, rfl, rfl, rfl, rfl, rfl, rfl⟩

end Checkouts

/-! ## Sample checkouts -/

def sampleShift : CashShift where
  id := 1
  organizationId := 1
  stallId := 1
  status := .open
  openingAmount := 500
  systemExpectedAmount := none
  countedAmount := none
  varianceAmount := none
  note := none
  closedById := none
  closedAt := none

def openCash : CashDb :=
  { CashDb.empty with shifts := ((Table.empty : Table CashShift).insert? sampleShift).getD .empty }

/-- An order of one free item. -/
def freeOrder : Order :=
  { OrderRun.sampleOrder with
    subtotal := 0
    total := 0
    items := [{
      id := 60
      productId := some 7
      sourceLineIndex := 1
      unitPrice := 0
      quantity := 1
      isOrderDiscountEligible := true
      note := []
      isPromotion := false
      status := .ready
      taskStarted := false }] }

def checkoutOf (order : Order) : ResolvedStaffCheckout where
  paymentOptionId := none
  method := .cash
  discount := none
  subtotal := order.subtotal
  discountAmount := 0
  total := order.total
  cashReceived := some order.total
  changeAmount := some 0
  perOrderAmounts := [{ discountAmount := 0, total := order.total }]

def samplePayment (order : Order) : Payment :=
  checkoutPayment OrderRun.sampleContext.scope (checkoutOf order) none (some 1)
    (orderPayment order.id (checkoutOf order) OrderRun.sampleContext)

theorem payable_openCash (order : Order) : Payable openCash order.id 30 210 where
  payments stored hstored := absurd hstored (Table.notMem_empty stored)
  movements stored hstored := absurd hstored (Table.notMem_empty stored)

def freeDb : CheckoutDb where
  orders := (CheckedTable.insert? .empty freeOrder).getD .empty
  amendments := []
  cash := openCash

end Stallorder.CashPayable
