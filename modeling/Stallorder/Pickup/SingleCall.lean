import Stallorder.Pickup.PickupCodes

/-!
# A call with nothing beside it

The steps of a call, taken one after another with nothing between them, write
what the function writes in one piece.
-/

namespace Stallorder.PickupCodes

open Checks

variable {Date : Type} [DecidableEq Date] {businessDate : ℕ → Timestamp → Date}
  {orders : Orders Date} {order : PickupOrder Date} {code : Text}

variable {reassign : Bool} (count : ℕ)

/-- The only call of a system is advanced. -/
def advances : List PickupCommand := List.replicate count (.advance 0)

/-- A call with nothing beside it. -/
def alone (orderId : ℕ) (reassign : Bool) : List PickupCommand :=
  .begin orderId reassign :: advances 4

/-- The system whose only call is of the order, and as far as the phase says. -/
def only (orders : Orders Date) (order : PickupOrder Date) (reassign : Bool) (phase : Phase) :
    PickupSystem Date :=
  ⟨orders, [some ⟨order, reassign, phase⟩]⟩

theorem run_answered : run businessDate ⟨orders, [none]⟩ (advances count) = ⟨orders, [none]⟩ := by
  induction count with
  | zero => rfl
  | succ count ih => exact ih

theorem run_writing :
    (run businessDate (only orders order reassign (.writing code)) (advances (count + 1))).orders
      = (writeCode businessDate orders order code).getD orders := by
  rw [advances, List.replicate_succ, run, Run.exec_cons]
  cases hwrite : writeCode businessDate orders order code with
  | none =>
      have hstep : (step businessDate (only orders order reassign (.writing code))
          (.advance 0)).1 = ⟨orders, [none]⟩ := by
        simp [step, only, advanceCall, moveCall, hwrite]
      rw [hstep]
      exact congrArg PickupSystem.orders (run_answered count)
  | some written =>
      have hstep : (step businessDate (only orders order reassign (.writing code))
          (.advance 0)).1 = ⟨written, [none]⟩ := by
        simp [step, only, advanceCall, moveCall, hwrite]
      rw [hstep]
      exact congrArg PickupSystem.orders (run_answered count)

theorem run_searching :
    (run businessDate (only orders order reassign .searching) (advances (count + 2))).orders
      = ((freeCode businessDate orders order).bind (writeCode businessDate orders order)).getD
        orders := by
  rw [advances, List.replicate_succ, run, Run.exec_cons]
  cases hsearched : freeCode businessDate orders order with
  | none =>
      have hstep : (step businessDate (only orders order reassign .searching) (.advance 0)).1
          = ⟨orders, [none]⟩ := by
        simp [step, only, advanceCall, moveCall, hsearched]
      rw [hstep]
      exact congrArg PickupSystem.orders (run_answered (count + 1))
  | some code =>
      have hstep : (step businessDate (only orders order reassign .searching) (.advance 0)).1
          = only orders order reassign (.writing code) := by
        simp [step, only, advanceCall, moveCall, hsearched]
      rw [hstep]
      exact run_writing count

theorem run_checking (hneeds : (!reassign && carriesCode businessDate order) = false) :
    (run businessDate (only orders order reassign .checking) (advances (count + 3))).orders
      = (((ownCode businessDate orders order).or (freeCode businessDate orders order)).bind
        (writeCode businessDate orders order)).getD orders := by
  rw [advances, List.replicate_succ, run, Run.exec_cons]
  cases hown : ownCode businessDate orders order with
  | none =>
      have hstep : (step businessDate (only orders order reassign .checking) (.advance 0)).1
          = only orders order reassign .searching := by
        simp only [step, only, advanceCall, moveCall, hown, hneeds, List.getElem?_cons_zero,
          Option.join_some]
        rfl
      rw [hstep, Option.none_or]
      exact run_searching count
  | some code =>
      have hstep : (step businessDate (only orders order reassign .checking) (.advance 0)).1
          = only orders order reassign (.writing code) := by
        simp only [step, only, advanceCall, moveCall, hown, hneeds, List.getElem?_cons_zero,
          Option.join_some]
        rfl
      rw [hstep, Option.some_or]
      exact run_writing (count + 1)

theorem run_repeated (hkeeps : (!reassign && carriesCode businessDate order) = true) :
    (run businessDate (only orders order reassign .checking) (advances (count + 1))).orders
      = orders := by
  have hstep : (step businessDate (only orders order reassign .checking) (.advance 0)).1
      = ⟨orders, [none]⟩ := by
    simp only [step, only, advanceCall, moveCall, hkeeps, List.getElem?_cons_zero,
      Option.join_some]
    rfl
  rw [advances, List.replicate_succ, run, Run.exec_cons, hstep]
  exact congrArg PickupSystem.orders (run_answered count)

/-- The orders after the function in one piece. -/
def ordersAfter (orders : Orders Date)
    (outcome : Except PickupError (Option Text × Orders Date)) : Orders Date :=
  match outcome with
  | .ok (_, written) => written
  | .error _ => orders

/-- Made alone, a call does what the function does in one piece. -/
theorem orders_run_alone (orders : Orders Date) (orderId : ℕ) (reassign : Bool) :
    (run businessDate (opened orders) (alone orderId reassign)).orders
      = ordersAfter orders (assignDailyPickupCode businessDate orderId reassign orders) := by
  cases hget : orders.get? orderId with
  | none => simp [run, alone, advances, step, opened, isRowLocked, hget, assignDailyPickupCode,
      orFail, ordersAfter]
  | some order =>
      by_cases htakeout : order.fulfillmentType = .takeout
      · have hbegin : run businessDate (opened orders) (alone orderId reassign)
            = run businessDate (only orders order reassign .checking) (advances 3) := by
          simp [run, alone, advances, step, opened, only, isRowLocked, hget, htakeout,
            List.replicate_succ, advanceCall, isDateLocked, holdsDate, moveCall]
        rw [hbegin]
        simp only [assignDailyPickupCode, hget, htakeout, orFail_some, bind_ok]
        by_cases hkeeps : (!reassign && carriesCode businessDate order) = true
        · rw [run_repeated 2 hkeeps]
          simp [hkeeps]
          rfl
        · rw [run_checking 0 (Bool.eq_false_of_not_eq_true hkeeps)]
          simp only [ne_eq, not_true_eq_false, if_false, if_neg hkeeps]
          cases hchoice : (ownCode businessDate orders order).or
              (freeCode businessDate orders order) with
          | none => rfl
          | some code =>
              cases hwrite : writeCode businessDate orders order code with
              | none => simp [hwrite, orFail, ordersAfter]
              | some written =>
                  simp only [Option.bind_some, hwrite, orFail_some, bind_ok]
                  rfl
      · simp only [assignDailyPickupCode, hget, orFail_some, bind_ok, if_pos htakeout]
        simp only [run, alone, advances, step, opened, isRowLocked, hget, Run.exec_cons,
          List.any_nil, if_pos htakeout]
        rfl

end Stallorder.PickupCodes
