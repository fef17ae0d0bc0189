import Stallorder.Pickup.CodeAllocation

/-!
# Reconciling a date

A reconciliation gives the active orders of its date their codes anew, one by
one.  An order that is done stays settled while the later ones still hold their
old codes, and with at most 999 active orders in the stall none is left without.
-/

namespace Stallorder.PickupCodes

open Checks

variable {Date : Type} [DecidableEq Date] {businessDate : ℕ → Timestamp → Date}
  {orders orders' : Orders Date} {order row : PickupOrder Date} {code : Text}
  {orderId stallId : ℕ} {serviceDate : Date} {result : Option Text}

theorem free_of_choice (hchoice : (ownCode businessDate orders order).or
    (freeCode businessDate orders order) = some code) :
    isPickupCode code = true ∧ Free businessDate orders order code := by
  rcases Option.or_eq_some_iff.mp hchoice with hown | ⟨-, hsearched⟩
  · exact (free_of_ownCode hown).2
  · exact free_of_freeCode hsearched

/-- What an assignment anew does to an order. -/
theorem assigned_anew
    (hassign : assignDailyPickupCode businessDate orderId true orders = .ok (result, orders')) :
    ∃ order ∈ orders, order.id = orderId
      ∧ (order.fulfillmentType ≠ .takeout ∧ orders' = orders
        ∨ ∃ code, isPickupCode code = true ∧ Free businessDate orders order code
          ∧ writeCode businessDate orders order code = some orders') := by
  obtain ⟨order, horder, hassign⟩ := bind_eq_ok.mp hassign
  have hstored := orFail_eq_ok.mp horder
  refine ⟨order, Table.mem_of_get? hstored, Table.key_of_get? hstored, ?_⟩
  split at hassign
  · next htakeout =>
      cases hassign
      exact .inl ⟨htakeout, rfl⟩
  · obtain ⟨code, hcode, hassign⟩ := bind_eq_ok.mp hassign
    obtain ⟨written, hwrite, hassign⟩ := bind_eq_ok.mp hassign
    cases hassign
    have hfree := free_of_choice (orFail_eq_ok.mp hcode)
    exact .inr ⟨code, hfree.1, hfree.2, orFail_eq_ok.mp hwrite⟩

/-- The order is an active one of the stall and date. -/
def Belongs (businessDate : ℕ → Timestamp → Date) (stallId : ℕ) (serviceDate : Date)
    (order : PickupOrder Date) : Prop :=
  order.stallId = stallId ∧ isActive order = true
    ∧ businessDateOf businessDate order = serviceDate

/-- The orders that belong to the date are still the same, and those done are settled. -/
structure Reconciled (businessDate : ℕ → Timestamp → Date) (stallId : ℕ) (serviceDate : Date)
    (before : Orders Date) (done : List ℕ) (after : Orders Date) : Prop where
  belongs : ∀ row ∈ after, ∃ earlier ∈ before, earlier.id = row.id
    ∧ (Belongs businessDate stallId serviceDate earlier
      ↔ Belongs businessDate stallId serviceDate row)
  done : ∀ orderId ∈ done, ∃ row code, row.id = orderId ∧ Settled businessDate after row code

variable {before : Orders Date} {done : List ℕ}

omit [DecidableEq Date] in
theorem takeout_of_isActive (hactive : isActive order = true) :
    order.fulfillmentType = .takeout := by
  simp only [isActive, Bool.and_eq_true, decide_eq_true_eq] at hactive
  exact hactive.1.1

theorem reconciled_assign
    (hreconciled : Reconciled businessDate stallId serviceDate before done orders)
    (hbelongs : ∃ earlier ∈ before, earlier.id = orderId
      ∧ Belongs businessDate stallId serviceDate earlier)
    (hassign : assignDailyPickupCode businessDate orderId true orders = .ok (result, orders')) :
    Reconciled businessDate stallId serviceDate before (done ++ [orderId]) orders' := by
  obtain ⟨order, horder, rfl, hchange⟩ := assigned_anew hassign
  obtain ⟨earlier, hearlier, hid, hsame⟩ := hreconciled.belongs order horder
  obtain ⟨named, hnamed, hnamedId, hnamedBelongs⟩ := hbelongs
  have hnamedSame : named = earlier :=
    Table.eq_of_key_eq hnamed hearlier (hnamedId.trans hid.symm)
  subst hnamedSame
  have horderBelongs := hsame.mp hnamedBelongs
  rcases hchange with ⟨hother, -⟩ | ⟨code, hcode, hfree, hwrite⟩
  · exact absurd (takeout_of_isActive horderBelongs.2.1) hother
  · constructor
    · intro row hrow
      rcases (mem_writeCode_iff horder hwrite).mp hrow with rfl | ⟨hold, -⟩
      · exact ⟨named, hnamed, hid, hsame⟩
      · exact hreconciled.belongs row hold
    · intro otherId hdone
      by_cases hthis : otherId = order.id
      · exact ⟨withCode (businessDateOf businessDate order) code order, code, hthis.symm,
          settled_of_writeCode horder hcode hfree hwrite⟩
      · have hearlierDone : otherId ∈ done := by
          rcases List.mem_append.mp hdone with hbefore | hlast
          · exact hbefore
          · exact absurd (List.mem_singleton.mp hlast) hthis
        obtain ⟨row, kept, rfl, hsettled⟩ := hreconciled.done otherId hearlierDone
        exact ⟨row, kept, rfl, settled_writeCode_of_ne hsettled hthis horder hfree hwrite⟩

theorem reconciled_reassignAll {orderIds : List ℕ}
    (hbelongs : ∀ orderId ∈ orderIds, ∃ earlier ∈ before, earlier.id = orderId
      ∧ Belongs businessDate stallId serviceDate earlier)
    (hreconciled : Reconciled businessDate stallId serviceDate before done orders)
    (hall : reassignAll businessDate orderIds orders = .ok orders') :
    Reconciled businessDate stallId serviceDate before (done ++ orderIds) orders' := by
  induction orderIds generalizing done orders with
  | nil =>
      cases hall
      rwa [List.append_nil]
  | cons orderId orderIds ih =>
      rw [reassignAll, List.foldlM_cons] at hall
      obtain ⟨next, hnext, hall⟩ := bind_eq_ok.mp hall
      obtain ⟨⟨result, assigned⟩, hassign, hreturn⟩ := bind_eq_ok.mp hnext
      cases hreturn
      have hfirst := reconciled_assign hreconciled
        (hbelongs orderId List.mem_cons_self) hassign
      rw [List.append_cons]
      exact ih (fun other hother => hbelongs other (List.mem_cons_of_mem _ hother)) hfirst hall

/-- After a reconciliation all active orders of the date carry it, with different codes. -/
theorem settled_of_reconcile {count : ℕ} {date : Option Date} {now : Timestamp}
    (hreconcile : reconcileActivePickupCodes businessDate stallId date now orders
      = .ok (orders', count)) (hrow : row ∈ orders')
    (hbelongs : Belongs businessDate stallId (date.getD (businessDate stallId now)) row) :
    ∃ code, Settled businessDate orders' row code := by
  obtain ⟨written, hall, hreturn⟩ := bind_eq_ok.mp hreconcile
  cases hreturn
  have hmem : ∀ orderId, orderId ∈ (activeOrdersOf businessDate orders stallId
      (date.getD (businessDate stallId now))).map PickupOrder.id ↔
      ∃ earlier ∈ orders, earlier.id = orderId
        ∧ Belongs businessDate stallId (date.getD (businessDate stallId now)) earlier := by
    intro orderId
    simp only [activeOrdersOf, List.mem_map, List.mem_insertionSort, List.mem_filter,
      Table.mem_iff, Belongs, Bool.and_eq_true, decide_eq_true_eq]
    constructor
    · rintro ⟨earlier, ⟨hmem, hbelongs⟩, rfl⟩
      exact ⟨earlier, hmem, rfl, hbelongs.1.1, hbelongs.1.2, hbelongs.2⟩
    · rintro ⟨earlier, hmem, rfl, hstall, hactive, hdate⟩
      exact ⟨earlier, ⟨hmem, ⟨hstall, hactive⟩, hdate⟩, rfl⟩
  have hstart : Reconciled businessDate stallId (date.getD (businessDate stallId now)) orders []
      orders :=
    ⟨fun row hrow => ⟨row, hrow, rfl, Iff.rfl⟩, fun orderId hdone => absurd hdone List.not_mem_nil⟩
  have hend := reconciled_reassignAll (fun orderId hid => (hmem orderId).mp hid) hstart hall
  obtain ⟨earlier, hearlier, hid, hsame⟩ := hend.belongs row hrow
  obtain ⟨stored, code, hstored, hsettled⟩ := hend.done row.id
    ((hmem row.id).mpr ⟨earlier, hearlier, hid, hsame.mpr hbelongs⟩)
  have hrowSame : stored = row := Table.eq_of_key_eq hsettled.stored hrow hstored
  exact ⟨code, hrowSame ▸ hsettled⟩

/-! ## The reconciliation comes to its end -/

/-- What an assignment leaves of every row: who it is, where, and that it is active. -/
def board (orders : Orders Date) : List (ℕ × ℕ × Bool) :=
  orders.rows.map fun row => (row.id, row.stallId, isActive row)

theorem board_writeCode (hwrite : writeCode businessDate orders order code = some orders') :
    board orders' = board orders := by
  rw [board, Table.rows_of_updateAll? hwrite, List.map_map]
  refine List.map_congr_left fun row _ => ?_
  by_cases hid : row.id = order.id
  · rw [Function.comp_apply, if_pos hid]
    rfl
  · rw [Function.comp_apply, if_neg hid]

def activeOrdersAt (board : List (ℕ × ℕ × Bool)) (stallId : ℕ) : ℕ :=
  board.countP fun entry => entry.2.1 = stallId && entry.2.2

/-- An active order does not stand in its own way. -/
theorem length_rivals_lt (horder : order ∈ orders) (hactive : isActive order = true) :
    (rivals businessDate orders order).length < activeOrdersAt (board orders) order.stallId := by
  have hrivals : rivals businessDate orders order
      = (orders.rows.filter fun other =>
          other.stallId = order.stallId && isActive other).filter fun other =>
        other.id ≠ order.id && serviceDateOf businessDate other
          = businessDateOf businessDate order := by
    rw [List.filter_filter, rivals]
    refine List.filter_congr fun other _ => ?_
    grind
  have hcount : activeOrdersAt (board orders) order.stallId = (orders.rows.filter fun other =>
      other.stallId = order.stallId && isActive other).length := by
    rw [activeOrdersAt, board, List.countP_map, List.countP_eq_length_filter]
    rfl
  rw [hcount, hrivals, List.length_filter_lt_length_iff_exists]
  refine ⟨order, List.mem_filter.mpr ⟨Table.mem_iff.mp horder, by simp [hactive]⟩, by simp⟩

/-- An assignment fails for want of its order or of a code, and never on the index. -/
theorem assign_error {reassign : Bool} {error : PickupError}
    (hassign : assignDailyPickupCode businessDate orderId reassign orders = .error error) :
    error = .orderNotFound ∧ orders.get? orderId = none
      ∨ error = .capacityExceeded ∧ ∃ order ∈ orders, order.id = orderId
        ∧ 999 ≤ (rivals businessDate orders order).length := by
  rcases bind_eq_error.mp hassign with hmissing | ⟨order, hget, hassign⟩
  · obtain ⟨hget, rfl⟩ := orFail_eq_error.mp hmissing
    exact .inl ⟨rfl, hget⟩
  · have hstored := Table.mem_of_get? (orFail_eq_ok.mp hget)
    split at hassign
    · cases hassign
    · split at hassign
      · cases hassign
      · rcases bind_eq_error.mp hassign with hfull | ⟨code, hcode, hassign⟩
        · obtain ⟨hnone, rfl⟩ := orFail_eq_error.mp hfull
          exact .inr ⟨rfl, order, hstored, Table.key_of_get? (orFail_eq_ok.mp hget),
            length_rivals_of_freeCode (Option.or_eq_none_iff.mp hnone).2⟩
        · have hfree := free_of_choice (orFail_eq_ok.mp hcode)
          obtain ⟨written, hwritten⟩ := exists_writeCode hstored hfree.2
          rw [hwritten] at hassign
          cases hassign

theorem board_assign
    (hassign : assignDailyPickupCode businessDate orderId true orders = .ok (result, orders')) :
    board orders' = board orders := by
  obtain ⟨order, -, -, ⟨-, rfl⟩ | ⟨code, -, -, hwrite⟩⟩ := assigned_anew hassign
  · rfl
  · exact board_writeCode hwrite

/-- The orders of a list get their codes when 999 are enough for the stall. -/
theorem exists_reassignAll {orderIds : List ℕ}
    (hactive : ∀ orderId ∈ orderIds, (orderId, stallId, true) ∈ board orders)
    (hroom : activeOrdersAt (board orders) stallId ≤ 999) :
    ∃ written, reassignAll businessDate orderIds orders = .ok written := by
  induction orderIds generalizing orders with
  | nil => exact ⟨orders, rfl⟩
  | cons orderId orderIds ih =>
      obtain ⟨order, horder, hentry⟩ :=
        List.mem_map.mp (hactive orderId List.mem_cons_self)
      obtain ⟨rfl, rfl, horderActive⟩ :
          order.id = orderId ∧ order.stallId = stallId ∧ isActive order = true := by
        simpa using hentry
      cases hassign : assignDailyPickupCode businessDate order.id true orders with
      | error error =>
          exfalso
          rcases assign_error hassign with ⟨-, hmissing⟩ | ⟨-, stored, hstored, hid, hfull⟩
          · exact Table.get?_eq_none_iff.mp hmissing order horder rfl
          · obtain rfl : stored = order := Table.eq_of_key_eq hstored horder hid
            have hfewer : (rivals businessDate orders stored).length
                < activeOrdersAt (board orders) stored.stallId :=
              length_rivals_lt horder horderActive
            omega
      | ok assigned =>
          have hboard : board assigned.2 = board orders := board_assign hassign
          obtain ⟨written, hwritten⟩ :
              ∃ written, reassignAll businessDate orderIds assigned.2 = .ok written :=
            ih (fun other hother => hboard ▸ hactive other (List.mem_cons_of_mem _ hother))
              (hboard ▸ hroom)
          refine ⟨written, ?_⟩
          rw [reassignAll, List.foldlM_cons, hassign]
          exact hwritten

/-- A reconciliation succeeds when at most 999 orders of the stall are active. -/
theorem exists_reconcile (date : Option Date) (now : Timestamp)
    (hroom : activeOrdersAt (board orders) stallId ≤ 999) :
    ∃ reconciled, reconcileActivePickupCodes businessDate stallId date now orders
      = .ok reconciled := by
  have hactive : ∀ orderId ∈ (activeOrdersOf businessDate orders stallId
      (date.getD (businessDate stallId now))).map PickupOrder.id,
      (orderId, stallId, true) ∈ board orders := by
    intro orderId hid
    obtain ⟨order, horder, rfl⟩ := List.mem_map.mp hid
    simp only [activeOrdersOf, List.mem_insertionSort, List.mem_filter, Bool.and_eq_true,
      decide_eq_true_eq] at horder
    refine List.mem_map.mpr ⟨order, horder.1, ?_⟩
    rw [horder.2.1.1, horder.2.1.2]
  obtain ⟨written, hwritten⟩ := exists_reassignAll hactive hroom
  exact ⟨(written, _), bind_eq_ok.mpr ⟨written, hwritten, rfl⟩⟩

end Stallorder.PickupCodes
