import Stallorder.Cash.CashShifts

/-!
# Orders and their payments

The orders of a stall next to its cash ledger.  The check constraint of the
amounts is carried by the table: whatever a statement writes, the total of an
order is its subtotal less its discount.
-/

namespace Stallorder.OrderDatabase

open OrderContract CashDatabase Checks
open SyncDatabase (OrderStatus OrderItemStatus PaymentStatus PaymentMethod)

/-! ## Tables -/

inductive OrderSource
  | qrMenu
  | lineDelivery
  | staffPos
  | other
  deriving DecidableEq

inductive FulfillmentType
  | takeout
  | dineIn
  | delivery
  deriving DecidableEq

inductive DiscountSource
  | none
  | staff
  | lottery
  deriving DecidableEq

structure OrderItem where
  id : Uuid
  productId : Option Uuid
  sourceLineIndex : ℕ
  unitPrice : ℕ
  quantity : ℕ
  isOrderDiscountEligible : Bool
  note : Text
  /-- The line is a reward of an activity. -/
  isPromotion : Bool
  status : OrderItemStatus
  /-- The line has a production task that is not pending. -/
  taskStarted : Bool
  deriving DecidableEq

structure Order where
  id : Uuid
  organizationId : Uuid
  stallId : Uuid
  orderNo : Text
  source : OrderSource
  externalProvider : Option Text
  fulfillmentType : FulfillmentType
  diningTableId : Option Uuid
  status : OrderStatus
  paymentStatus : PaymentStatus
  subtotal : ℤ
  discountAmount : ℤ
  total : ℤ
  discountSource : DiscountSource
  discountOptionId : Option Uuid
  discountRateBps : Option ℕ
  note : Text
  items : List OrderItem
  pickupVerifiedAt : Option Timestamp
  confirmationExpiresAt : Timestamp
  paidAt : Option Timestamp
  completedAt : Option Timestamp
  updatedAt : Timestamp
  deriving DecidableEq

instance : KeyIndexed Order Uuid := .ofKey (·.id)

def OrderItem.amount (item : OrderItem) : ℤ := item.unitPrice * item.quantity

def itemsSubtotal (items : List OrderItem) : ℤ :=
  (items.map (·.amount)).sum

/-- The part of the subtotal that an order discount applies to. -/
def discountEligibleSubtotal (items : List OrderItem) : ℤ :=
  (items.map fun item => if item.isOrderDiscountEligible then item.amount else 0).sum

def ordersCheckoutAmountsCheck (order : Order) : Bool :=
  0 ≤ order.subtotal && 0 ≤ order.discountAmount && 0 ≤ order.total
    && order.subtotal - order.discountAmount = order.total
    && order.discountRateBps.all fun rateBps => 1 ≤ rateBps && rateBps ≤ 10_000

inductive EditItem
  | existing (itemId : Uuid) (quantity : ℕ)
  | new (productId : Uuid) (quantity : ℕ) (note : Text) (noteOptionIds : List Uuid)
  deriving DecidableEq

structure UpdateStaffOrderItems where
  changeId : Uuid
  expectedUpdatedAt : Timestamp
  items : List EditItem
  /-- The customer of a public order is told about the change. -/
  publicAmendment : Bool
  deriving DecidableEq

/-- The event of an edit, under the id that the client has given it. -/
structure OrderAmendment where
  orderId : Uuid
  organizationId : Uuid
  stallId : Uuid
  createdBy : Uuid
  request : UpdateStaffOrderItems
  deriving DecidableEq

structure CheckoutDb where
  orders : CheckedTable Order ordersCheckoutAmountsCheck
  amendments : List OrderAmendment
  cash : CashDb

def CheckoutDb.empty : CheckoutDb where
  orders := .empty
  amendments := []
  cash := .empty

def findOrder (db : CheckoutDb) (orderId : Uuid) : Option Order :=
  db.orders.findFirst fun order => order.id = orderId

/-- The payment of an order, of which there is one at most. -/
def paymentOf (db : CheckoutDb) (orderId : Uuid) : Option Payment :=
  db.cash.payments.rows.find? fun payment => payment.orderId = orderId

/-! ## Discounts -/

/-- Half a unit is rounded up. -/
def discountedAmount (amount : ℤ) (rateBps : ℕ) : ℤ :=
  (2 * amount * rateBps + 10_000) / 20_000

/-- The trigger of the discount that a lottery has drawn. -/
def enforceLotteryOrderDiscountEligibility (order : Order) : Option Order :=
  match order.discountSource, order.discountRateBps with
  | .lottery, some rateBps =>
      let eligible := discountEligibleSubtotal order.items
      if eligible < 0 || order.subtotal < eligible then none
      else
        let discountAmount := eligible - discountedAmount eligible rateBps
        some { order with discountAmount, total := order.subtotal - discountAmount }
  | _, _ => some order

/-! ## Statements -/

section Statements

variable {Error : Type}

/-- Write the order if it is still as `wanted`; `conflict` when it is not. -/
def updateOrder (db : CheckoutDb) (orderId : Uuid) (wanted : Order → Bool)
    (change : Order → Order) (conflict violated : Error) : Except Error CheckoutDb := do
  failWhen (!(findOrder db orderId).any wanted) conflict
  let orders ← orFail
    (db.orders.updateWhere? (fun order => order.id = orderId && wanted order) change) violated
  return { db with orders }

/-- A new order has no payment.  Orders of the stall come in unpaid, those of a delivery
platform with a payment that awaits reconciliation. -/
def insertOrder (db : CheckoutDb) (order : Order) (violated : Error) :
    Except Error CheckoutDb := do
  let orders ← orFail (db.orders.insert? order) violated
  return { db with orders }

variable {db db' : CheckoutDb} {orderId : Uuid} {wanted : Order → Bool}
  {change : Order → Order} {conflict violated : Error}

/-- One order was rewritten, the ledger and the other orders are as before. -/
structure Rewrote (db db' : CheckoutDb) (orderId : Uuid) (wanted : Order → Bool)
    (change : Order → Order) : Prop where
  cash : db'.cash = db.cash
  found : ∃ order ∈ db.orders, order.id = orderId ∧ wanted order = true
    ∧ change order ∈ db'.orders
  others : ∀ order ∈ db.orders, order.id ≠ orderId → order ∈ db'.orders
  orders : ∀ stored ∈ db'.orders, (stored ∈ db.orders ∧ stored.id ≠ orderId)
    ∨ ∃ order ∈ db.orders, order.id = orderId ∧ wanted order = true ∧ stored = change order

theorem mem_of_findOrder {order : Order} (hfind : findOrder db orderId = some order) :
    order ∈ db.orders ∧ order.id = orderId := by
  obtain ⟨hmem, hid⟩ := CheckedTable.mem_of_findFirst hfind
  exact ⟨hmem, of_decide_eq_true hid⟩

theorem order_unique {left right : Order} (hleft : left ∈ db.orders) (hright : right ∈ db.orders)
    (hid : left.id = right.id) : left = right :=
  CheckedTable.eq_of_key_eq hleft hright hid

theorem findOrder_of_mem {order : Order} (hmem : order ∈ db.orders) :
    findOrder db order.id = some order := by
  cases hfind : findOrder db order.id with
  | none =>
      have hnone := List.find?_eq_none.mp hfind order hmem
      simp at hnone
  | some found =>
      obtain ⟨hfound, hid⟩ := mem_of_findOrder hfind
      rw [order_unique hfound hmem hid]

theorem rewrote_of_updateOrder
    (hupdate : updateOrder db orderId wanted change conflict violated = .ok db') :
    Rewrote db db' orderId wanted change := by
  unfold updateOrder at hupdate
  obtain ⟨_, hcount, hrest⟩ := bind_eq_ok.mp hupdate
  obtain ⟨orders, hupdated, hdb⟩ := bind_eq_ok.mp hrest
  cases hdb
  have hmem : ∀ {stored : Order}, stored ∈ orders ↔ ∃ row ∈ db.orders,
      (if (decide (row.id = orderId) && wanted row) = true then change row else row) = stored :=
    CheckedTable.mem_of_updateWhere? (orFail_eq_ok.mp hupdated)
  have hcount := failWhen_eq_ok.mp hcount
  rw [Bool.not_eq_false', Option.any_eq_true] at hcount
  obtain ⟨order, hfind, hwanted⟩ := hcount
  obtain ⟨horder, hid⟩ := mem_of_findOrder hfind
  refine ⟨rfl, ⟨order, horder, hid, hwanted, hmem.mpr ⟨order, horder, ?_⟩⟩,
    fun other hother hne => hmem.mpr ⟨other, hother, ?_⟩, fun stored hstored => ?_⟩
  · rw [if_pos (by simp [hid, hwanted])]
  · rw [if_neg (by simp [hne])]
  · obtain ⟨row, hrow, hchanged⟩ := hmem.mp hstored
    by_cases hrowId : row.id = orderId
    · have hsame : row = order := order_unique hrow horder (hrowId.trans hid.symm)
      rw [if_pos (by simp [hsame, hid, hwanted])] at hchanged
      exact Or.inr ⟨row, hrow, hrowId, hsame ▸ hwanted, hchanged.symm⟩
    · rw [if_neg (by simp [hrowId])] at hchanged
      exact Or.inl ⟨hchanged ▸ hrow, hchanged ▸ hrowId⟩

end Statements

end Stallorder.OrderDatabase
