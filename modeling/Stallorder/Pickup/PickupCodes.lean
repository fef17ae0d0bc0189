import Stallorder.Checkout.OrderDatabase
import Stallorder.Core.Run

/-!
# Daily pickup codes

Takeaway orders are called up by a code of three digits.  A code is taken by the
active orders of the same stall and service date; an order that has not been
given a service date counts for its business date.  An assignment locks its
order and then its service date, so that assignments for one date come one after
another while all else goes on beside them.
-/

namespace Stallorder.PickupCodes

open Checks
open SyncDatabase (OrderStatus)
open OrderDatabase (FulfillmentType)

abbrev Timestamp := ℤ

structure PickupOrder (Date : Type) where
  id : ℕ
  stallId : ℕ
  fulfillmentType : FulfillmentType
  status : OrderStatus
  pickupVerifiedAt : Option Timestamp
  pickupCodeDisplay : Option Text
  pickupCodeServiceDate : Option Date
  scheduledPickupAt : Option Timestamp
  requestedFulfillmentAt : Option Timestamp
  createdAt : Timestamp
  deriving DecidableEq

inductive PickupError
  | orderNotFound
  | capacityExceeded
  | uniqueViolation
  deriving DecidableEq

section Orders

variable {Date : Type} [DecidableEq Date]

def isFinal (status : OrderStatus) : Bool :=
  status = .completed || status = .cancelled || status = .expired

/-- The orders whose codes are called up. -/
def isActive (order : PickupOrder Date) : Bool :=
  order.fulfillmentType = .takeout && order.pickupVerifiedAt.isNone && !isFinal order.status

/-- The columns of the unique index over active orders that have a service date and a code. -/
def activeCode (order : PickupOrder Date) : Option (ℕ × Date × Text) :=
  if isActive order then
    order.pickupCodeServiceDate.bind fun date =>
      order.pickupCodeDisplay.map fun code => (order.stallId, date, code)
  else none

instance : Indexed (PickupOrder Date) ℕ :=
  (KeyIndexed.ofKey PickupOrder.id).toIndexed.addUnique activeCode

abbrev Orders (Date : Type) [DecidableEq Date] := Table (PickupOrder Date)

/-- Three decimal digits. -/
def isThreeDigits (code : Text) : Bool := code.length = 3 && code.all Char.isDigit

def isPickupCode (code : Text) : Bool := isThreeDigits code && code ≠ "000".toList

def digit (value : ℕ) : Char := Char.ofNat ('0'.toNat + value)

/-- A number below 1000, filled up with zeros. -/
def candidateCode (candidate : ℕ) : Text :=
  [digit (candidate / 100), digit (candidate / 10 % 10), digit (candidate % 10)]

/-- The codes from 001 to 999. -/
def candidateCodes : List Text := (List.range 999).map fun index => candidateCode (index + 1)

variable (businessDate : ℕ → Timestamp → Date)

def fulfillmentTime (order : PickupOrder Date) : Timestamp :=
  (order.scheduledPickupAt.or order.requestedFulfillmentAt).getD order.createdAt

def businessDateOf (order : PickupOrder Date) : Date :=
  businessDate order.stallId (fulfillmentTime order)

/-- The date for which an order takes its code. -/
def serviceDateOf (order : PickupOrder Date) : Date :=
  order.pickupCodeServiceDate.getD (businessDateOf businessDate order)

/-- The other active orders of the stall and the business date of an order. -/
def rivals (orders : Orders Date) (order : PickupOrder Date) : List (PickupOrder Date) :=
  orders.rows.filter fun other =>
    other.id ≠ order.id && other.stallId = order.stallId && isActive other
      && serviceDateOf businessDate other = businessDateOf businessDate order

def isTaken (orders : Orders Date) (order : PickupOrder Date) (code : Text) : Bool :=
  (rivals businessDate orders order).any fun other => other.pickupCodeDisplay = some code

/-! ## Assigning a code -/

/-- The order carries a code for its business date already. -/
def carriesCode (order : PickupOrder Date) : Bool :=
  order.pickupCodeServiceDate = some (businessDateOf businessDate order)
    && order.pickupCodeDisplay.any isPickupCode

/-- The order's own code, if it is one that nobody else has. -/
def ownCode (orders : Orders Date) (order : PickupOrder Date) : Option Text :=
  order.pickupCodeDisplay.filter fun code =>
    isPickupCode code && !isTaken businessDate orders order code

/-- The first code that is not taken. -/
def freeCode (orders : Orders Date) (order : PickupOrder Date) : Option Text :=
  candidateCodes.find? fun code => !isTaken businessDate orders order code

def withCode (serviceDate : Date) (code : Text) (order : PickupOrder Date) : PickupOrder Date :=
  { order with
    pickupCodeDisplay := some code
    pickupCodeServiceDate := some serviceDate }

/-- The update of an order, which the unique index may refuse. -/
def writeCode (orders : Orders Date) (order : PickupOrder Date) (code : Text) :
    Option (Orders Date) :=
  orders.updateAll? fun stored =>
    if stored.id = order.id then withCode (businessDateOf businessDate order) code stored
    else stored

def assignDailyPickupCode (orderId : ℕ) (reassign : Bool) (orders : Orders Date) :
    Except PickupError (Option Text × Orders Date) := do
  let order ← orFail (orders.get? orderId) .orderNotFound
  if order.fulfillmentType ≠ .takeout then
    return (none, orders)
  else if !reassign && carriesCode businessDate order then
    return (order.pickupCodeDisplay, orders)
  else
    let code ← orFail
      ((ownCode businessDate orders order).or (freeCode businessDate orders order))
      .capacityExceeded
    let orders ← orFail (writeCode businessDate orders order code) .uniqueViolation
    return (some code, orders)

/-- The active orders of a stall and business date, by the time of their creation. -/
def activeOrdersOf (orders : Orders Date) (stallId : ℕ) (serviceDate : Date) :
    List (PickupOrder Date) :=
  (orders.rows.filter fun order =>
    order.stallId = stallId && isActive order
      && businessDateOf businessDate order = serviceDate).insertionSort fun left right =>
    left.createdAt < right.createdAt || left.createdAt = right.createdAt && left.id ≤ right.id

def reassignAll (orderIds : List ℕ) (orders : Orders Date) : Except PickupError (Orders Date) :=
  orderIds.foldlM (fun orders orderId => do
    let assigned ← assignDailyPickupCode businessDate orderId true orders
    return assigned.2) orders

/-- The orders after all active ones of a date were given codes anew, and how many they are. -/
def reconcileActivePickupCodes (stallId : ℕ) (serviceDate : Option Date) (now : Timestamp)
    (orders : Orders Date) : Except PickupError (Orders Date × ℕ) := do
  let serviceDate := serviceDate.getD (businessDate stallId now)
  let orderIds := (activeOrdersOf businessDate orders stallId serviceDate).map PickupOrder.id
  let orders ← reassignAll businessDate orderIds orders
  return (orders, orderIds.length)

/-! ## Calls side by side -/

/-- How far a call has come: it waits for the lock on its date, looks at the order's own code,
searches for another, or is about to write. -/
inductive Phase
  | locking
  | checking
  | searching
  | writing (code : Text)
  deriving DecidableEq

/-- A call and its order as it was read; its row is locked until the call ends. -/
structure Call (Date : Type) where
  order : PickupOrder Date
  reassign : Bool
  phase : Phase

structure PickupSystem (Date : Type) [DecidableEq Date] where
  orders : Orders Date
  /-- A call that returned, threw or was rolled back is none. -/
  calls : List (Option (Call Date))

inductive FinalStatus
  | completed
  | cancelled
  | expired

def FinalStatus.orderStatus : FinalStatus → OrderStatus
  | .completed => .completed
  | .cancelled => .cancelled
  | .expired => .expired

inductive PickupCommand
  | begin (orderId : ℕ) (reassign : Bool)
  | advance (call : ℕ)
  | rollBack (call : ℕ)
  | finish (orderId : ℕ) (status : FinalStatus)
  | pickUp (orderId : ℕ) (now : Timestamp)

/-- What the callers learn from a step. -/
inductive Reply
  | silent
  | nothing (orderId : ℕ)
  | repeated (orderId : ℕ) (code : Text)
  | assigned (orderId : ℕ) (code : Text)
  | refused (orderId : ℕ) (error : PickupError)
  deriving DecidableEq

def isRowLocked (system : PickupSystem Date) (orderId : ℕ) : Bool :=
  system.calls.any fun call => call.any fun call => call.order.id = orderId

def lockKey (call : Call Date) : ℕ × Date :=
  (call.order.stallId, businessDateOf businessDate call.order)

def holdsDate (call : Call Date) : Bool := call.phase ≠ .locking

def isDateLocked (system : PickupSystem Date) (key : ℕ × Date) : Bool :=
  system.calls.any fun call =>
    call.any fun call => holdsDate call && lockKey businessDate call = key

def moveCall (system : PickupSystem Date) (position : ℕ) (call : Option (Call Date)) :
    PickupSystem Date :=
  { system with calls := system.calls.set position call }

def advanceCall (system : PickupSystem Date) (position : ℕ) (call : Call Date) :
    PickupSystem Date × Reply :=
  match call.phase with
  | .locking =>
      if isDateLocked businessDate system (lockKey businessDate call) then (system, .silent)
      else (moveCall system position (some { call with phase := .checking }), .silent)
  | .checking =>
      if !call.reassign && carriesCode businessDate call.order then
        (moveCall system position none,
          .repeated call.order.id (call.order.pickupCodeDisplay.getD []))
      else
        match ownCode businessDate system.orders call.order with
        | some code => (moveCall system position (some { call with phase := .writing code }), .silent)
        | none => (moveCall system position (some { call with phase := .searching }), .silent)
  | .searching =>
      match freeCode businessDate system.orders call.order with
      | some code => (moveCall system position (some { call with phase := .writing code }), .silent)
      | none => (moveCall system position none, .refused call.order.id .capacityExceeded)
  | .writing code =>
      match writeCode businessDate system.orders call.order code with
      | some orders =>
          (moveCall { system with orders } position none, .assigned call.order.id code)
      | none => (moveCall system position none, .refused call.order.id .uniqueViolation)

/-- The row of an order after a change that takes it off the board. -/
def finished (status : FinalStatus) (order : PickupOrder Date) : PickupOrder Date :=
  { order with status := status.orderStatus }

def pickedUp (now : Timestamp) (order : PickupOrder Date) : PickupOrder Date :=
  { order with pickupVerifiedAt := some now }

omit [DecidableEq Date] in
theorem isActive_finished (status : FinalStatus) (order : PickupOrder Date) :
    isActive (finished status order) = false := by
  cases status <;> simp [isActive, finished, FinalStatus.orderStatus, isFinal]

omit [DecidableEq Date] in
theorem isActive_pickedUp (now : Timestamp) (order : PickupOrder Date) :
    isActive (pickedUp now order) = false := by
  simp [isActive, pickedUp]

/-- An order that is no longer active stands in the way of no code. -/
theorem collides_inactive {before after other : PickupOrder Date} (hid : after.id = before.id)
    (hinactive : isActive after = false) (hcollides : Indexed.collides after other) :
    Indexed.collides before other := by
  rcases Indexed.collides_addUnique_iff.mp hcollides with hbase | ⟨key, hkey, -⟩
  · refine Indexed.collides_addUnique_iff.mpr (.inl ?_)
    have hsame : after.id = other.id := of_decide_eq_true hbase
    exact decide_eq_true (hid.symm.trans hsame)
  · rw [activeCode, hinactive] at hkey
    cases hkey

/-- A change to a row that is locked waits. -/
def retire (system : PickupSystem Date) (orderId : ℕ)
    (change : PickupOrder Date → PickupOrder Date)
    (hchange : ∀ {row other}, Indexed.collides (change row) other → Indexed.collides row other) :
    PickupSystem Date :=
  if isRowLocked system orderId then system
  else { system with orders := system.orders.update orderId change hchange }

def step (system : PickupSystem Date) : PickupCommand → PickupSystem Date × Reply
  | .begin orderId reassign =>
      if isRowLocked system orderId then (system, .silent)
      else
        match system.orders.get? orderId with
        | none => (system, .refused orderId .orderNotFound)
        | some order =>
            if order.fulfillmentType ≠ .takeout then (system, .nothing orderId)
            else ({ system with calls := system.calls ++ [some ⟨order, reassign, .locking⟩] },
              .silent)
  | .advance position =>
      match system.calls[position]?.join with
      | none => (system, .silent)
      | some call => advanceCall businessDate system position call
  | .rollBack position => (moveCall system position none, .silent)
  | .finish orderId status =>
      (retire system orderId (finished status) (collides_inactive rfl (isActive_finished _ _)),
        .silent)
  | .pickUp orderId now =>
      (retire system orderId (pickedUp now) (collides_inactive rfl (isActive_pickedUp _ _)),
        .silent)

def run (system : PickupSystem Date) (commands : List PickupCommand) : PickupSystem Date :=
  Run.exec (fun system command => (step businessDate system command).1) system commands

def opened (orders : Orders Date) : PickupSystem Date where
  orders := orders
  calls := []

end Orders

end Stallorder.PickupCodes
