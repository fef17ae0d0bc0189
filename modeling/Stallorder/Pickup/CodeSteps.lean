import Stallorder.Pickup.CodeCalls

/-!
# What a step can do

Every step of the calls and of the other changes is one of a few outcomes, each
with what the caller learns from it.  All that is said of runs comes from them.
-/

namespace Stallorder.PickupCodes

open Parties

variable {Date : Type} [DecidableEq Date] {businessDate : ℕ → Timestamp → Date}
  {system after : PickupSystem Date} {orders : Orders Date} {order row : PickupOrder Date}
  {call : Call Date} {command : PickupCommand} {reply : Reply} {position orderId : ℕ} {code : Text}

/-- A change that takes an order off the board and leaves what its code is made of. -/
structure Retires (change : PickupOrder Date → PickupOrder Date) : Prop where
  inactive : ∀ row, isActive (change row) = false
  id : ∀ row, (change row).id = row.id
  fulfillmentType : ∀ row, (change row).fulfillmentType = row.fulfillmentType
  display : ∀ row, (change row).pickupCodeDisplay = row.pickupCodeDisplay
  serviceDate : ∀ row, (change row).pickupCodeServiceDate = row.pickupCodeServiceDate
  businessDate : ∀ (businessDate : ℕ → Timestamp → Date) row,
    businessDateOf businessDate (change row) = businessDateOf businessDate row

omit [DecidableEq Date] in
theorem retires_finished (status : FinalStatus) :
    Retires (finished status : PickupOrder Date → PickupOrder Date) where
  inactive := isActive_finished status
  id _ := rfl
  fulfillmentType _ := rfl
  display _ := rfl
  serviceDate _ := rfl
  businessDate _ _ := rfl

omit [DecidableEq Date] in
theorem retires_pickedUp (now : Timestamp) :
    Retires (pickedUp now : PickupOrder Date → PickupOrder Date) where
  inactive := isActive_pickedUp now
  id _ := rfl
  fulfillmentType _ := rfl
  display _ := rfl
  serviceDate _ := rfl
  businessDate _ _ := rfl

/-- What a command does to the system and what the caller learns. -/
inductive Outcome (businessDate : ℕ → Timestamp → Date) (system : PickupSystem Date) :
    PickupCommand → PickupSystem Date → Reply → Prop
  | waits {command : PickupCommand} : Outcome businessDate system command system .silent
  | misses {orderId : ℕ} {reassign : Bool} (hmissing : system.orders.get? orderId = none) :
      Outcome businessDate system (.begin orderId reassign) system
        (.refused orderId .orderNotFound)
  | declines {order : PickupOrder Date} {reassign : Bool} (hstored : order ∈ system.orders)
      (hother : order.fulfillmentType ≠ .takeout) :
      Outcome businessDate system (.begin order.id reassign) system (.nothing order.id)
  | begins {order : PickupOrder Date} {reassign : Bool} (hstored : order ∈ system.orders)
      (htakeout : order.fulfillmentType = .takeout)
      (hunlocked : isRowLocked system order.id = false) :
      Outcome businessDate system (.begin order.id reassign)
        { system with calls := system.calls ++ [some ⟨order, reassign, .locking⟩] } .silent
  | locks {position : ℕ} {call : Call Date}
      (hcall : system.calls[position]? = some (some call))
      (hphase : call.phase = .locking)
      (hfree : isDateLocked businessDate system (lockKey businessDate call) = false) :
      Outcome businessDate system (.advance position)
        (moveCall system position (some { call with phase := .checking })) .silent
  | repeats {position : ℕ} {call : Call Date} {code : Text}
      (hcall : system.calls[position]? = some (some call))
      (hphase : call.phase = .checking)
      (hcarries : carriesCode businessDate call.order = true)
      (hcode : call.order.pickupCodeDisplay = some code) :
      Outcome businessDate system (.advance position) (moveCall system position none)
        (.repeated call.order.id code)
  | searches {position : ℕ} {call : Call Date}
      (hcall : system.calls[position]? = some (some call))
      (hphase : call.phase = .checking)
      (hneeds : call.reassign = true ∨ carriesCode businessDate call.order = false) :
      Outcome businessDate system (.advance position)
        (moveCall system position (some { call with phase := .searching })) .silent
  | chooses {position : ℕ} {call : Call Date} {code : Text}
      (hcall : system.calls[position]? = some (some call))
      (hphase : call.phase = .searching ∨ call.phase = .checking
        ∧ (call.reassign = true ∨ carriesCode businessDate call.order = false))
      (hcode : isPickupCode code = true) (hfree : Free businessDate system.orders call.order code) :
      Outcome businessDate system (.advance position)
        (moveCall system position (some { call with phase := .writing code })) .silent
  | runsOut {position : ℕ} {call : Call Date}
      (hcall : system.calls[position]? = some (some call))
      (hphase : call.phase = .searching)
      (hfull : 999 ≤ (rivals businessDate system.orders call.order).length) :
      Outcome businessDate system (.advance position) (moveCall system position none)
        (.refused call.order.id .capacityExceeded)
  | writes {position : ℕ} {call : Call Date} {code : Text} {orders : Orders Date}
      (hcall : system.calls[position]? = some (some call))
      (hphase : call.phase = .writing code)
      (hwrite : writeCode businessDate system.orders call.order code = some orders) :
      Outcome businessDate system (.advance position)
        (moveCall { system with orders } position none) (.assigned call.order.id code)
  | violates {position : ℕ} {call : Call Date} {code : Text}
      (hcall : system.calls[position]? = some (some call))
      (hphase : call.phase = .writing code)
      (hwrite : writeCode businessDate system.orders call.order code = none) :
      Outcome businessDate system (.advance position) (moveCall system position none)
        (.refused call.order.id .uniqueViolation)
  | rollsBack {position : ℕ} :
      Outcome businessDate system (.rollBack position) (moveCall system position none) .silent
  | retires {command : PickupCommand} {orderId : ℕ} {change : PickupOrder Date → PickupOrder Date}
      (hretires : Retires change)
      (hchange : ∀ {row other}, Indexed.collides (change row) other → Indexed.collides row other)
      (hunlocked : isRowLocked system orderId = false) :
      Outcome businessDate system command
        { system with orders := system.orders.update orderId change hchange } .silent

theorem outcome_advanceCall (hcall : system.calls[position]? = some (some call)) :
    Outcome businessDate system (.advance position)
      (advanceCall businessDate system position call).1
      (advanceCall businessDate system position call).2 := by
  cases hphase : call.phase with
  | locking =>
      simp only [advanceCall, hphase]
      cases hlocked : isDateLocked businessDate system (lockKey businessDate call) with
      | true => exact .waits
      | false => exact .locks hcall hphase hlocked
  | checking =>
      simp only [advanceCall, hphase]
      by_cases hkeeps : (!call.reassign && carriesCode businessDate call.order) = true
      · rw [if_pos hkeeps]
        have hcarries := (Bool.and_eq_true _ _ ▸ hkeeps).2
        cases hcode : call.order.pickupCodeDisplay with
        | none => simp [carriesCode, hcode] at hcarries
        | some code => exact .repeats hcall hphase hcarries hcode
      · rw [if_neg hkeeps]
        have hneeds : call.reassign = true ∨ carriesCode businessDate call.order = false := by
          cases hreassign : call.reassign
          · rw [hreassign, Bool.not_false, Bool.true_and, Bool.not_eq_true] at hkeeps
            exact .inr hkeeps
          · exact .inl rfl
        cases hown : ownCode businessDate system.orders call.order with
        | none => exact .searches hcall hphase hneeds
        | some code =>
            obtain ⟨-, hcode, hfree⟩ := free_of_ownCode hown
            exact .chooses hcall (.inr ⟨hphase, hneeds⟩) hcode hfree
  | searching =>
      simp only [advanceCall, hphase]
      cases hsearched : freeCode businessDate system.orders call.order with
      | none => exact .runsOut hcall hphase (length_rivals_of_freeCode hsearched)
      | some code =>
          obtain ⟨hcode, hfree⟩ := free_of_freeCode hsearched
          exact .chooses hcall (.inl hphase) hcode hfree
  | writing code =>
      simp only [advanceCall, hphase]
      cases hwrite : writeCode businessDate system.orders call.order code with
      | none => exact .violates hcall hphase hwrite
      | some orders => exact .writes hcall hphase hwrite

theorem outcome_retire {change : PickupOrder Date → PickupOrder Date} (hretires : Retires change)
    (hchange : ∀ {row other}, Indexed.collides (change row) other → Indexed.collides row other) :
    Outcome businessDate system command (retire system orderId change hchange) .silent := by
  unfold retire
  by_cases hlocked : isRowLocked system orderId = true
  · rw [if_pos hlocked]
    exact .waits
  · rw [if_neg hlocked]
    exact .retires hretires hchange (Bool.eq_false_of_not_eq_true hlocked)

theorem outcome_step (businessDate : ℕ → Timestamp → Date) (system : PickupSystem Date)
    (command : PickupCommand) :
    Outcome businessDate system command (step businessDate system command).1
      (step businessDate system command).2 := by
  cases command with
  | begin orderId reassign =>
      by_cases hlocked : isRowLocked system orderId = true
      · simp only [step, hlocked, if_true]
        exact .waits
      · cases hget : system.orders.get? orderId with
        | none =>
            simp only [step, hlocked, hget]
            exact .misses hget
        | some order =>
            have hstored := Table.mem_of_get? hget
            have hid : order.id = orderId := Table.key_of_get? hget
            subst hid
            by_cases htakeout : order.fulfillmentType = .takeout
            · simp only [step, hlocked, hget, htakeout]
              exact .begins hstored htakeout (Bool.eq_false_of_not_eq_true hlocked)
            · simp only [step, hlocked, hget, ne_eq, htakeout]
              exact .declines hstored htakeout
  | advance position =>
      cases hcall : system.calls[position]?.join with
      | none =>
          simp only [step, hcall]
          exact .waits
      | some call =>
          simp only [step, hcall]
          exact outcome_advanceCall (Option.join_eq_some_iff.mp hcall)
  | rollBack position => exact .rollsBack
  | finish orderId status =>
      exact outcome_retire (retires_finished status)
        (collides_inactive rfl (isActive_finished _ _))
  | pickUp orderId now =>
      exact outcome_retire (retires_pickedUp now) (collides_inactive rfl (isActive_pickedUp _ _))

/-! ## The invariant -/

theorem sound_begins {reassign : Bool} (hsound : Sound businessDate system)
    (hstored : order ∈ system.orders) (htakeout : order.fulfillmentType = .takeout)
    (hunlocked : isRowLocked system order.id = false) :
    Sound businessDate
      { system with calls := system.calls ++ [some ⟨order, reassign, .locking⟩] } where
  apart := by
    refine eachApart_append callsApart_symm hsound.apart fun party hparty => ?_
    obtain ⟨other, hother⟩ := List.mem_iff_getElem?.mp hparty
    rintro first hfirst _ ⟨⟩
    exact ⟨not_isRowLocked hunlocked hother first hfirst,
      fun _ hholds => absurd hholds (by simp [holdsDate])⟩
  sound := by
    intro other party hparty found hfound
    rcases List.mem_append.mp (List.mem_of_getElem? hparty) with hold | hlast
    · obtain ⟨index, hindex⟩ := List.mem_iff_getElem?.mp hold
      exact hsound.sound index party hindex found hfound
    · obtain rfl := List.mem_singleton.mp hlast
      obtain rfl := Option.some.inj hfound
      exact ⟨hstored, htakeout, fun code hphase => by cases hphase⟩

theorem sound_outcome (hsound : Sound businessDate system)
    (houtcome : Outcome businessDate system command after reply) : Sound businessDate after := by
  cases houtcome with
  | waits => exact hsound
  | misses => exact hsound
  | declines => exact hsound
  | begins hstored htakeout hunlocked => exact sound_begins hsound hstored htakeout hunlocked
  | locks hcall _ hfree =>
      exact sound_moveCall hsound hcall rfl (.inr hfree) fun code hphase => by cases hphase
  | repeats => exact sound_moveCall_none hsound
  | searches hcall hphase =>
      refine sound_moveCall hsound hcall rfl (.inl ?_) fun code hwriting => by cases hwriting
      simp [holdsDate, hphase]
  | chooses hcall hphase hcode hfree =>
      refine sound_moveCall hsound hcall rfl (.inl ?_) fun chosen hwriting => ?_
      · rcases hphase with hphase | ⟨hphase, -⟩ <;> simp [holdsDate, hphase]
      · cases hwriting
        exact ⟨hcode, hfree⟩
  | runsOut => exact sound_moveCall_none hsound
  | writes hcall hphase hwrite => exact sound_write hsound hcall hphase hwrite
  | violates => exact sound_moveCall_none hsound
  | rollsBack => exact sound_moveCall_none hsound
  | retires hretires hchange hunlocked =>
      exact sound_update hchange hsound hretires.inactive hunlocked

theorem sound_run (orders : Orders Date) (commands : List PickupCommand) :
    Sound businessDate (run businessDate (opened orders) commands) :=
  Run.invariant_exec (Sound businessDate)
    (fun system command hsound => sound_outcome hsound (outcome_step businessDate system command))
    (sound_opened orders) commands

end Stallorder.PickupCodes
