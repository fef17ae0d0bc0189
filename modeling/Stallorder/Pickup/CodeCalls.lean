import Stallorder.Core.Parties
import Stallorder.Pickup.CodeAllocation

/-!
# Assignments side by side

An assignment looks for its code while it holds the lock on its date, and
writes it before it lets go.  What else happens meanwhile takes no code of that
date: other changes retire orders, and assignments for other dates write other
dates.
-/

namespace Stallorder.PickupCodes

open Parties

variable {Date : Type} [DecidableEq Date] {businessDate : ℕ → Timestamp → Date}
  {system : PickupSystem Date} {orders orders' : Orders Date} {call next : Call Date}
  {position orderId : ℕ} {code : Text}

/-! ## The invariant -/

/-- Two calls lock different rows, and different dates. -/
def CallsApart (businessDate : ℕ → Timestamp → Date) (left right : Option (Call Date)) : Prop :=
  ∀ first ∈ left, ∀ second ∈ right, first.order.id ≠ second.order.id
    ∧ (holdsDate first = true → holdsDate second = true →
      lockKey businessDate first ≠ lockKey businessDate second)

/-- The row of a call is as it was read, and a code about to be written is free. -/
structure SoundCall (businessDate : ℕ → Timestamp → Date) (orders : Orders Date)
    (call : Call Date) : Prop where
  stored : call.order ∈ orders
  takeout : call.order.fulfillmentType = .takeout
  writing : ∀ code, call.phase = .writing code →
    isPickupCode code = true ∧ Free businessDate orders call.order code

structure Sound (businessDate : ℕ → Timestamp → Date) (system : PickupSystem Date) : Prop where
  apart : EachApart (CallsApart businessDate) system.calls
  sound : ∀ (position : ℕ) (party : Option (Call Date)), system.calls[position]? = some party →
    ∀ call ∈ party, SoundCall businessDate system.orders call

omit [DecidableEq Date] in
theorem callsApart_symm (left right : Option (Call Date))
    (hapart : CallsApart businessDate left right) : CallsApart businessDate right left :=
  fun first hfirst second hsecond =>
    ⟨(hapart second hsecond first hfirst).1.symm,
      fun hholds hother => ((hapart second hsecond first hfirst).2 hother hholds).symm⟩

theorem sound_opened (orders : Orders Date) : Sound businessDate (opened orders) where
  apart := eachApart_nil
  sound position party hparty := by
    simp [opened] at hparty

/-! ## Moving a call -/

omit [DecidableEq Date] in
theorem apartFromOthers_none {calls : List (Option (Call Date))} :
    ApartFromOthers (CallsApart businessDate) calls position none := by
  intro _ _ _ _ _ _ second hsecond
  cases hsecond

theorem sound_moveCall_none (hsound : Sound businessDate system) :
    Sound businessDate (moveCall system position none) where
  apart := eachApart_set callsApart_symm hsound.apart apartFromOthers_none
  sound := forall_getElem?_set (fun other found _ hfound => hsound.sound other found hfound)
    fun call hcall => by cases hcall

theorem not_isDateLocked {key : ℕ × Date} (hfree : isDateLocked businessDate system key = false)
    {other : ℕ} {party : Option (Call Date)} (hparty : system.calls[other]? = some party) :
    ∀ call ∈ party, holdsDate call = true → lockKey businessDate call ≠ key := by
  intro call hcall hholds hkey
  rw [isDateLocked, List.any_eq_false] at hfree
  refine hfree party (List.mem_of_getElem? hparty) ?_
  cases hcall
  simp [hholds, hkey]

/-- A call goes on with its row, and takes its date only when nobody holds it. -/
theorem sound_moveCall (hsound : Sound businessDate system)
    (hcall : system.calls[position]? = some (some call)) (horder : next.order = call.order)
    (hdate : holdsDate call = true
      ∨ isDateLocked businessDate system (lockKey businessDate call) = false)
    (hwriting : ∀ code, next.phase = .writing code →
      isPickupCode code = true ∧ Free businessDate system.orders call.order code) :
    Sound businessDate (moveCall system position (some next)) where
  apart := by
    refine eachApart_set callsApart_symm hsound.apart fun other party hne hparty => ?_
    have hothers := hsound.apart.apartFromOthers hcall other party hne hparty
    rintro first hfirst _ ⟨⟩
    obtain ⟨hid, hlocks⟩ := hothers first hfirst call rfl
    have hkey : lockKey businessDate next = lockKey businessDate call := by
      rw [lockKey, lockKey, horder]
    rw [horder, hkey]
    refine ⟨hid, fun hfirstHolds _ => ?_⟩
    rcases hdate with hholds | hfree
    · exact hlocks hfirstHolds hholds
    · exact not_isDateLocked hfree hparty first hfirst hfirstHolds
  sound := by
    refine forall_getElem?_set (fun other found _ hfound => hsound.sound other found hfound) ?_
    rintro found ⟨⟩
    have hcallSound := hsound.sound position _ hcall call rfl
    refine ⟨?_, ?_, ?_⟩
    · rw [horder]
      exact hcallSound.stored
    · rw [horder]
      exact hcallSound.takeout
    · rw [horder]
      exact hwriting

/-! ## Changes of the orders -/

theorem not_isRowLocked (hunlocked : isRowLocked system orderId = false) {other : ℕ}
    {party : Option (Call Date)} (hparty : system.calls[other]? = some party) :
    ∀ call ∈ party, call.order.id ≠ orderId := by
  intro call hcall hid
  rw [isRowLocked, List.any_eq_false] at hunlocked
  refine hunlocked party (List.mem_of_getElem? hparty) ?_
  cases hcall
  simp [hid]

section Retire

variable {change : PickupOrder Date → PickupOrder Date}
  (hchange : ∀ {row other}, Indexed.collides (change row) other → Indexed.collides row other)

/-- An active order was not the one retired. -/
theorem mem_of_mem_update (hinactive : ∀ row, isActive (change row) = false)
    {other : PickupOrder Date} (hother : other ∈ orders.update orderId change hchange)
    (hactive : isActive other = true) : other ∈ orders := by
  rcases Table.mem_update.mp hother with ⟨row, -, -, rfl⟩ | ⟨hold, -⟩
  · rw [hinactive row] at hactive
    cases hactive
  · exact hold

theorem sound_update (hsound : Sound businessDate system)
    (hinactive : ∀ row, isActive (change row) = false)
    (hunlocked : isRowLocked system orderId = false) :
    Sound businessDate { system with orders := system.orders.update orderId change hchange } where
  apart := hsound.apart
  sound := by
    intro position party hparty call hcall
    obtain ⟨hstored, htakeout, hwriting⟩ := hsound.sound position party hparty call hcall
    have hkept : call.order ∈ system.orders.update orderId change hchange :=
      Table.mem_update_of_ne hstored (not_isRowLocked hunlocked hparty call hcall)
    refine ⟨hkept, htakeout, fun code hphase => ⟨(hwriting code hphase).1, ?_⟩⟩
    exact free_of_subset (hwriting code hphase).2 fun other hother _ _ hactive _ =>
      mem_of_mem_update hchange hinactive hother hactive

theorem settled_update_of_ne {row : PickupOrder Date}
    (hinactive : ∀ row, isActive (change row) = false)
    (hsettled : Settled businessDate orders row code) (hne : row.id ≠ orderId) :
    Settled businessDate (orders.update orderId change hchange) row code where
  stored := Table.mem_update_of_ne hsettled.stored hne
  serviceDate := hsettled.serviceDate
  display := hsettled.display
  pickupCode := hsettled.pickupCode
  free hactive := free_of_subset (hsettled.free hactive) fun _ hother _ _ hotherActive _ =>
    mem_of_mem_update hchange hinactive hother hotherActive

end Retire

/-- The other calls do not notice what a call writes for its date. -/
theorem sound_write (hsound : Sound businessDate system)
    (hcall : system.calls[position]? = some (some call)) (hphase : call.phase = .writing code)
    (hwrite : writeCode businessDate system.orders call.order code = some orders) :
    Sound businessDate (moveCall { system with orders } position none) where
  apart := eachApart_set callsApart_symm hsound.apart apartFromOthers_none
  sound := by
    refine forall_getElem?_set (fun other party hne hparty found hfound => ?_)
      fun call hcall => by cases hcall
    have hthis := hsound.sound position _ hcall call rfl
    obtain ⟨hid, hlocks⟩ :=
      hsound.apart.apartFromOthers hcall other party hne hparty found hfound call rfl
    obtain ⟨hstored, htakeout, hwriting⟩ := hsound.sound other party hparty found hfound
    refine ⟨(mem_writeCode_iff hthis.stored hwrite).mpr (.inr ⟨hstored, hid⟩), htakeout,
      fun chosen hchosen => ⟨(hwriting chosen hchosen).1, ?_⟩⟩
    refine free_of_subset (hwriting chosen hchosen).2 fun row hrow _ hstall _ hdate => ?_
    rcases (mem_writeCode_iff hthis.stored hwrite).mp hrow with rfl | ⟨hold, -⟩
    · -- Both calls would hold the lock on one date.
      refine absurd ?_ (hlocks (by simp [holdsDate, hchosen]) (by simp [holdsDate, hphase]))
      exact Prod.ext hstall.symm hdate.symm
    · exact hold

end Stallorder.PickupCodes
