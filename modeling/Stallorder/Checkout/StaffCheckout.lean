import Stallorder.Checkout.OrderDatabase

/-!
# Staff checkout

The amounts that a checkout collects, resolved from the subtotals and the
totals of the orders as they were read: with a discount option the total is
computed anew, without one the current total is taken over.
-/

namespace Stallorder.StaffCheckout

open OrderContract OrderDatabase Checks
open SyncDatabase (PaymentMethod)

/-! ## The configuration of a stall -/

structure CheckoutSettings where
  paymentModuleEnabled : Bool
  discountModuleEnabled : Bool
  deriving DecidableEq

structure StallPaymentOption where
  id : Uuid
  kind : PaymentOptionKind
  isEnabled : Bool
  deriving DecidableEq

structure DiscountOption where
  id : Uuid
  rateBps : ℕ
  isEnabled : Bool
  deriving DecidableEq

/-- What a checkout looks up: the settings, and the options of the stall in
their order. -/
structure StallCheckout where
  settings : Option CheckoutSettings
  paymentOptions : List StallPaymentOption
  discountOptions : List DiscountOption
  /-- The discount needs no approval, or has got it. -/
  discountApproved : Bool

structure StaffCheckoutInput where
  paymentOptionId : Option Uuid
  discountOptionId : Option Uuid
  cashReceived : Option ℤ
  deriving DecidableEq

inductive StaffCheckoutError
  | paymentRequired
  | paymentInvalid
  | discountDisabled
  | discountInvalid
  | discountNotApplicable
  | insufficientCash
  | discountNotApproved
  deriving DecidableEq

/-! ## Amounts -/

structure OrderAmounts where
  discountAmount : ℤ
  total : ℤ
  deriving DecidableEq

def calculateOrderDiscount (subtotal eligibleSubtotal : ℤ) (rateBps : ℕ) : Option OrderAmounts :=
  if subtotal < 0 || eligibleSubtotal < 0 || subtotal < eligibleSubtotal
      || rateBps < 1 || 10_000 < rateBps then none
  else
    let discountAmount := eligibleSubtotal - discountedAmount eligibleSubtotal rateBps
    some { discountAmount, total := subtotal - discountAmount }

def paymentMethodForKind (kind : PaymentOptionKind) : PaymentMethod :=
  if kind = .cash then .cash else .other

/-- The amounts of one order of a checkout. -/
def orderAmounts (discount : Option DiscountOption) (order : Order) : Option OrderAmounts := do
  let discounted ← calculateOrderDiscount order.subtotal (discountEligibleSubtotal order.items)
    ((discount.map (·.rateBps)).getD 10_000)
  if discount.isSome then return discounted
  else if order.total < 0 || order.subtotal < order.total then none
  else return { discountAmount := order.subtotal - order.total, total := order.total }

structure ResolvedStaffCheckout where
  paymentOptionId : Option Uuid
  method : PaymentMethod
  discount : Option DiscountOption
  subtotal : ℤ
  discountAmount : ℤ
  total : ℤ
  cashReceived : Option ℤ
  changeAmount : Option ℤ
  perOrderAmounts : List OrderAmounts
  deriving DecidableEq

/-! ## Resolution -/

def findPaymentOption (stall : StallCheckout) (input : StaffCheckoutInput) :
    Except StaffCheckoutError (Option StallPaymentOption) :=
  match input.paymentOptionId with
  | some paymentOptionId => do
      let option ← orFail (stall.paymentOptions.find? fun option =>
        option.id = paymentOptionId && option.isEnabled) .paymentInvalid
      return some option
  | none => return stall.paymentOptions.find? fun option => option.kind = .cash && option.isEnabled

def findDiscountOption (stall : StallCheckout) (input : StaffCheckoutInput) :
    Except StaffCheckoutError (Option DiscountOption) :=
  match input.discountOptionId with
  | some discountOptionId => do
      let option ← orFail (stall.discountOptions.find? fun option =>
        option.id = discountOptionId && option.isEnabled) .discountInvalid
      return some option
  | none => return none

/-- Resolve a checkout of orders as they were read. -/
def resolveStaffCheckout (stall : StallCheckout) (orders : List Order)
    (input : StaffCheckoutInput) : Except StaffCheckoutError ResolvedStaffCheckout := do
  failWhen (stall.settings.any (·.paymentModuleEnabled) && input.paymentOptionId.isNone)
    .paymentRequired
  let paymentOption ← findPaymentOption stall input
  failWhen (!stall.settings.any (·.discountModuleEnabled) && input.discountOptionId.isSome)
    .discountDisabled
  let discount ← findDiscountOption stall input
  failWhen (discount.isSome
    && (orders.map fun order => discountEligibleSubtotal order.items).sum = 0)
    .discountNotApplicable
  let perOrderAmounts ← orFail (orders.mapM (orderAmounts discount)) .discountInvalid
  let subtotal := (orders.map (·.subtotal)).sum
  let total := (perOrderAmounts.map (·.total)).sum
  let kind : PaymentOptionKind := (paymentOption.map (·.kind)).getD .cash
  let cashReceived := if kind = .cash then some (input.cashReceived.getD total) else none
  failWhen (cashReceived.any (· < total)) .insufficientCash
  failWhen (discount.isSome && !stall.discountApproved) .discountNotApproved
  return {
    paymentOptionId := paymentOption.map (·.id)
    method := paymentMethodForKind kind
    discount
    subtotal
    discountAmount := subtotal - total
    total
    cashReceived
    changeAmount := cashReceived.map (· - total)
    perOrderAmounts }

/-! ## What is collected -/

/-- Without a discount option the total is the one that was read. -/
theorem total_of_orderAmounts {order : Order} {amounts : OrderAmounts}
    (hamounts : orderAmounts none order = some amounts) : amounts.total = order.total := by
  unfold orderAmounts at hamounts
  obtain ⟨discounted, -, hrest⟩ := Option.bind_eq_some_iff.mp hamounts
  simp only [Option.isSome_none, Bool.false_eq_true, if_false] at hrest
  split at hrest
  · cases hrest
  · cases hrest
    rfl

/-- What a resolved checkout is about. -/
structure Resolves (orders : List Order) (input : StaffCheckoutInput)
    (checkout : ResolvedStaffCheckout) : Prop where
  discount : checkout.discount.isSome = input.discountOptionId.isSome
  amounts : orders.mapM (orderAmounts checkout.discount) = some checkout.perOrderAmounts
  total : checkout.total = (checkout.perOrderAmounts.map (·.total)).sum
  discountAmount : checkout.discountAmount = (orders.map (·.subtotal)).sum - checkout.total

theorem isSome_of_findDiscountOption {stall : StallCheckout} {input : StaffCheckoutInput}
    {discount : Option DiscountOption} (hfind : findDiscountOption stall input = .ok discount) :
    discount.isSome = input.discountOptionId.isSome := by
  unfold findDiscountOption at hfind
  split at hfind
  · next hrequested =>
    obtain ⟨option, -, hsome⟩ := bind_eq_ok.mp hfind
    cases hsome
    rw [hrequested]
    rfl
  · next hrequested =>
    cases hfind
    rw [hrequested]
    rfl

theorem resolves_of_resolveStaffCheckout {stall : StallCheckout} {orders : List Order}
    {input : StaffCheckoutInput} {checkout : ResolvedStaffCheckout}
    (hresolve : resolveStaffCheckout stall orders input = .ok checkout) :
    Resolves orders input checkout := by
  unfold resolveStaffCheckout at hresolve
  obtain ⟨_, -, hrest⟩ := bind_eq_ok.mp hresolve
  obtain ⟨paymentOption, -, hrest⟩ := bind_eq_ok.mp hrest
  obtain ⟨_, -, hrest⟩ := bind_eq_ok.mp hrest
  obtain ⟨discount, hdiscount, hrest⟩ := bind_eq_ok.mp hrest
  obtain ⟨_, -, hrest⟩ := bind_eq_ok.mp hrest
  obtain ⟨perOrderAmounts, hamounts, hrest⟩ := bind_eq_ok.mp hrest
  obtain ⟨_, -, hrest⟩ := bind_eq_ok.mp hrest
  obtain ⟨_, -, hcheckout⟩ := bind_eq_ok.mp hrest
  cases hcheckout
  exact ⟨isSome_of_findDiscountOption hdiscount, orFail_eq_ok.mp hamounts, rfl, rfl⟩

/-- A checkout of one order without a discount option collects the total that
was read. -/
theorem Resolves.single {order : Order} {input : StaffCheckoutInput}
    {checkout : ResolvedStaffCheckout} (hresolves : Resolves [order] input checkout) :
    checkout.discountAmount = order.subtotal - checkout.total
      ∧ (checkout.discount = none → checkout.total = order.total) := by
  have hmapM := hresolves.amounts
  simp only [List.mapM_cons, List.mapM_nil] at hmapM
  obtain ⟨amounts, hamounts, hlist⟩ := Option.bind_eq_some_iff.mp hmapM
  have hlist : [amounts] = checkout.perOrderAmounts := Option.some.inj hlist
  have htotal : checkout.total = amounts.total := by
    simp [hresolves.total, ← hlist]
  constructor
  · simpa using hresolves.discountAmount
  · intro hnone
    rw [hnone] at hamounts
    rw [htotal, total_of_orderAmounts hamounts]

theorem amounts_of_mem_zip {discount : Option DiscountOption} {orders : List Order}
    {perOrderAmounts : List OrderAmounts}
    (hmapM : orders.mapM (orderAmounts discount) = some perOrderAmounts)
    {entry : Order × OrderAmounts} (hentry : entry ∈ orders.zip perOrderAmounts) :
    orderAmounts discount entry.1 = some entry.2 := by
  induction orders generalizing perOrderAmounts with
  | nil => simp at hentry
  | cons order orders ih =>
      rw [List.mapM_cons] at hmapM
      obtain ⟨amounts, hamounts, hrest⟩ := Option.bind_eq_some_iff.mp hmapM
      obtain ⟨others, hothers, hlist⟩ := Option.bind_eq_some_iff.mp hrest
      cases hlist
      rw [List.zip_cons_cons, List.mem_cons] at hentry
      rcases hentry with rfl | hentry
      · exact hamounts
      · exact ih hothers hentry

end Stallorder.StaffCheckout
