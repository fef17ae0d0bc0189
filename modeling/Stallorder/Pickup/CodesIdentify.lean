import Stallorder.Pickup.CodeSteps
import Stallorder.Pickup.Reconciliation
import Stallorder.Pickup.SingleCall

/-!
# Pickup codes identify orders

An order that was assigned a code keeps it to itself until it is off the board,
whatever goes on beside it, and a call that repeats the code says the same; a
code that is only repeated stays with its order as well.  A
reconciliation of a date gives every active order of it a code of its own, and
runs out of codes only when more than 999 orders of the stall are active.
-/

namespace Stallorder.PickupCodes

open Parties

variable {Date : Type} [DecidableEq Date] {businessDate : ℕ → Timestamp → Date}
  {system after : PickupSystem Date} {orders orders' : Orders Date}
  {order row : PickupOrder Date} {call : Call Date} {command : PickupCommand} {reply : Reply}
  {position orderId stallId : ℕ} {code : Text}

/-! ## An order and its code -/

/-- The order that a reply is about. -/
def Reply.order? : Reply → Option ℕ
  | .silent => none
  | .nothing orderId => some orderId
  | .repeated orderId _ => some orderId
  | .assigned orderId _ => some orderId
  | .refused orderId _ => some orderId

/-- The row of an order carries a code for its business date. -/
structure Carries (businessDate : ℕ → Timestamp → Date) (code : Text) (orders : Orders Date)
    (order : PickupOrder Date) : Prop where
  stored : order ∈ orders
  carries : carriesCode businessDate order = true
  display : order.pickupCodeDisplay = some code

/-- What holds of a row that carries a code as long as no call of its order looks for another. -/
structure Lasting (businessDate : ℕ → Timestamp → Date) (code : Text)
    (Holds : Orders Date → PickupOrder Date → Prop) : Prop where
  carries : ∀ {orders row}, Holds orders row → Carries businessDate code orders row
  retires : ∀ {orders row change}, Retires change →
    ∀ hchange, Holds orders row → Holds (orders.update row.id change hchange) (change row)
  others : ∀ {orders row change retired}, Retires change → ∀ hchange, Holds orders row →
    row.id ≠ retired → Holds (orders.update retired change hchange) row
  writes : ∀ {orders orders' row order written}, Holds orders row → row.id ≠ order.id →
    order ∈ orders → Free businessDate orders order written →
    writeCode businessDate orders order written = some orders' → Holds orders' row

theorem mem_update_self {change : PickupOrder Date → PickupOrder Date}
    (hchange : ∀ {row other}, Indexed.collides (change row) other → Indexed.collides row other)
    (hstored : row ∈ orders) : change row ∈ orders.update row.id change hchange :=
  Table.mem_update_of_key hstored rfl

theorem Carries.of_retires {change : PickupOrder Date → PickupOrder Date}
    (hretires : Retires change) (hcarries : Carries businessDate code orders row)
    (hstored : change row ∈ orders') : Carries businessDate code orders' (change row) where
  stored := hstored
  carries := by
    rw [carriesCode, hretires.serviceDate, hretires.businessDate, hretires.display]
    exact hcarries.carries
  display := (hretires.display row).trans hcarries.display

theorem lasting_carries (businessDate : ℕ → Timestamp → Date) (code : Text) :
    Lasting businessDate code (Carries businessDate code) where
  carries hcarries := hcarries
  retires hretires hchange hcarries :=
    hcarries.of_retires hretires (mem_update_self hchange hcarries.stored)
  others _ hchange hcarries hne :=
    { hcarries with stored := @Table.mem_update_of_ne _ _ _ _ _ hchange _ _ _ hcarries.stored hne }
  writes hcarries hne horder _ hwrite :=
    { hcarries with stored := (mem_writeCode_iff horder hwrite).mpr (.inr ⟨hcarries.stored, hne⟩) }

theorem lasting_settled (businessDate : ℕ → Timestamp → Date) (code : Text) :
    Lasting businessDate code fun orders row => Settled businessDate orders row code where
  carries hsettled := ⟨hsettled.stored, hsettled.carriesCode, hsettled.display⟩
  retires hretires hchange hsettled := {
    stored := mem_update_self hchange hsettled.stored
    serviceDate := by rw [hretires.serviceDate, hretires.businessDate, hsettled.serviceDate]
    display := by rw [hretires.display, hsettled.display]
    pickupCode := hsettled.pickupCode
    free := fun hactive => by
      rw [hretires.inactive] at hactive
      cases hactive }
  others hretires hchange hsettled hne :=
    settled_update_of_ne hchange hretires.inactive hsettled hne
  writes := settled_writeCode_of_ne

/-- Something holds of the row of an order, and no call under way looks for a code for it. -/
structure Kept (businessDate : ℕ → Timestamp → Date) (orderId : ℕ)
    (Holds : Orders Date → PickupOrder Date → Prop) (system : PickupSystem Date) : Prop where
  sound : Sound businessDate system
  holds : ∃ row, row.id = orderId ∧ row.fulfillmentType = .takeout ∧ Holds system.orders row
  calls : ∀ (position : ℕ) (party : Option (Call Date)), system.calls[position]? = some party →
    ∀ call ∈ party, call.order.id = orderId →
      call.reassign = false ∧ (call.phase = .locking ∨ call.phase = .checking)

section Keeping

variable {Holds : Orders Date → PickupOrder Date → Prop}

/-- The row that a call of the order has read carries the code. -/
theorem Kept.carries_call (hlasting : Lasting businessDate code Holds)
    (hkept : Kept businessDate orderId Holds system)
    (hcall : system.calls[position]? = some (some call)) (hid : call.order.id = orderId) :
    Carries businessDate code system.orders call.order := by
  obtain ⟨row, hrow, -, hholds⟩ := hkept.holds
  have hcarries := hlasting.carries hholds
  have hstored := (hkept.sound.sound position _ hcall call rfl).stored
  have hsame : row = call.order :=
    Table.eq_of_key_eq hcarries.stored hstored (hrow.trans hid.symm)
  exact hsame ▸ hcarries

/-- No call of the order gets as far as to look for a code. -/
theorem Kept.ne_of_needs (hlasting : Lasting businessDate code Holds)
    (hkept : Kept businessDate orderId Holds system)
    (hcall : system.calls[position]? = some (some call))
    (hneeds : call.reassign = true ∨ carriesCode businessDate call.order = false) :
    call.order.id ≠ orderId := by
  intro hid
  have hcalls := hkept.calls position _ hcall call rfl hid
  have hcarries := (hkept.carries_call hlasting hcall hid).carries
  rcases hneeds with hreassign | hneeds
  · exact absurd (hcalls.1.symm.trans hreassign) Bool.false_ne_true
  · exact absurd (hneeds.symm.trans hcarries) Bool.false_ne_true

theorem Kept.ne_of_phase (hkept : Kept businessDate orderId Holds system)
    (hcall : system.calls[position]? = some (some call)) (hlocking : call.phase ≠ .locking)
    (hchecking : call.phase ≠ .checking) : call.order.id ≠ orderId := by
  intro hid
  rcases (hkept.calls position _ hcall call rfl hid).2 with hphase | hphase
  · exact hlocking hphase
  · exact hchecking hphase

theorem Kept.calls_set (hkept : Kept businessDate orderId Holds system)
    {next : Option (Call Date)}
    (hnext : ∀ call ∈ next, call.order.id = orderId →
      call.reassign = false ∧ (call.phase = .locking ∨ call.phase = .checking)) :
    ∀ (index : ℕ) (party : Option (Call Date)),
      (system.calls.set position next)[index]? = some party →
      ∀ call ∈ party, call.order.id = orderId →
        call.reassign = false ∧ (call.phase = .locking ∨ call.phase = .checking) :=
  forall_getElem?_set (fun other party _ hparty => hkept.calls other party hparty) hnext

theorem kept_retires {change : PickupOrder Date → PickupOrder Date} {retired : ℕ}
    (hlasting : Lasting businessDate code Holds) (hkept : Kept businessDate orderId Holds system)
    (hretires : Retires change)
    (hchange : ∀ {row other}, Indexed.collides (change row) other → Indexed.collides row other)
    (hunlocked : isRowLocked system retired = false) :
    Kept businessDate orderId Holds
      { system with orders := system.orders.update retired change hchange } where
  sound := sound_update hchange hkept.sound hretires.inactive hunlocked
  holds := by
    obtain ⟨row, hrow, htakeout, hholds⟩ := hkept.holds
    by_cases hthis : row.id = retired
    · subst hthis
      refine ⟨change row, (hretires.id row).trans hrow, ?_,
        hlasting.retires hretires hchange hholds⟩
      exact (hretires.fulfillmentType row).trans htakeout
    · exact ⟨row, hrow, htakeout, hlasting.others hretires hchange hholds hthis⟩
  calls := hkept.calls

/-- Whatever happens but a reassignment, the order keeps its code and callers hear no other. -/
theorem kept_outcome (hlasting : Lasting businessDate code Holds)
    (hkept : Kept businessDate orderId Holds system)
    (houtcome : Outcome businessDate system command after reply)
    (hcommand : command ≠ .begin orderId true) :
    Kept businessDate orderId Holds after
      ∧ (reply.order? = some orderId → reply = .repeated orderId code) := by
  have hsound := sound_outcome hkept.sound houtcome
  obtain ⟨row, hrow, htakeout, hholds⟩ := hkept.holds
  have hstoredRow := (hlasting.carries hholds).stored
  cases houtcome with
  | waits => exact ⟨hkept, fun hreply => by cases hreply⟩
  | misses hmissing =>
      refine ⟨hkept, fun hreply => ?_⟩
      obtain rfl := Option.some.inj hreply
      exact absurd hrow (Table.get?_eq_none_iff.mp hmissing row hstoredRow)
  | declines hstored hother =>
      refine ⟨hkept, fun hreply => ?_⟩
      have hsame := Table.eq_of_key_eq hstored hstoredRow
        ((Option.some.inj hreply).trans hrow.symm)
      exact absurd (hsame ▸ htakeout) hother
  | begins hstored _ _ =>
      refine ⟨⟨hsound, hkept.holds, fun index party hparty call hcall hid => ?_⟩,
        fun hreply => by cases hreply⟩
      rcases List.mem_append.mp (List.mem_of_getElem? hparty) with hold | hlast
      · obtain ⟨other, hother⟩ := List.mem_iff_getElem?.mp hold
        exact hkept.calls other party hother call hcall hid
      · obtain rfl := List.mem_singleton.mp hlast
        obtain rfl := Option.some.inj hcall
        refine ⟨?_, .inl rfl⟩
        rw [← hid, ne_eq, PickupCommand.begin.injEq, not_and, Bool.not_eq_true] at hcommand
        exact hcommand rfl
  | locks hcall hphase _ =>
      refine ⟨⟨hsound, hkept.holds, hkept.calls_set ?_⟩, fun hreply => by cases hreply⟩
      rintro _ ⟨⟩ hid
      exact ⟨(hkept.calls _ _ hcall _ rfl hid).1, .inr rfl⟩
  | repeats hcall _ _ hcode =>
      refine ⟨⟨hsound, hkept.holds, hkept.calls_set fun _ hnone => by cases hnone⟩,
        fun hreply => ?_⟩
      have hid := Option.some.inj hreply
      have hsame := (hkept.carries_call hlasting hcall hid).display
      rw [hid, Option.some.inj (hcode.symm.trans hsame)]
  | searches hcall _ hneeds =>
      have hne := hkept.ne_of_needs hlasting hcall hneeds
      refine ⟨⟨hsound, hkept.holds, hkept.calls_set ?_⟩, fun hreply => by cases hreply⟩
      rintro _ ⟨⟩ hid
      exact absurd hid hne
  | @chooses _ call _ hcall hphase _ _ =>
      have hne : call.order.id ≠ orderId := by
        rcases hphase with hphase | ⟨-, hneeds⟩
        · exact hkept.ne_of_phase hcall (by simp [hphase]) (by simp [hphase])
        · exact hkept.ne_of_needs hlasting hcall hneeds
      refine ⟨⟨hsound, hkept.holds, hkept.calls_set ?_⟩, fun hreply => by cases hreply⟩
      rintro _ ⟨⟩ hid
      exact absurd hid hne
  | runsOut hcall hphase _ =>
      have hne := hkept.ne_of_phase hcall (by simp [hphase]) (by simp [hphase])
      exact ⟨⟨hsound, hkept.holds, hkept.calls_set fun _ hnone => by cases hnone⟩,
        fun hreply => absurd (Option.some.inj hreply) hne⟩
  | writes hcall hphase hwrite =>
      have hne := hkept.ne_of_phase hcall (by simp [hphase]) (by simp [hphase])
      have hthis := hkept.sound.sound _ _ hcall _ rfl
      have hfree := (hthis.writing _ hphase).2
      refine ⟨⟨hsound, ⟨row, hrow, htakeout, ?_⟩, hkept.calls_set fun _ hnone => by cases hnone⟩,
        fun hreply => absurd (Option.some.inj hreply) hne⟩
      have hother : row.id ≠ _ := fun hsame => hne (hsame.symm.trans hrow)
      exact hlasting.writes hholds hother hthis.stored hfree hwrite
  | violates hcall hphase _ =>
      have hne := hkept.ne_of_phase hcall (by simp [hphase]) (by simp [hphase])
      exact ⟨⟨hsound, hkept.holds, hkept.calls_set fun _ hnone => by cases hnone⟩,
        fun hreply => absurd (Option.some.inj hreply) hne⟩
  | rollsBack =>
      exact ⟨⟨hsound, hkept.holds, hkept.calls_set fun _ hnone => by cases hnone⟩,
        fun hreply => by cases hreply⟩
  | retires hretires hchange hunlocked =>
      exact ⟨kept_retires hlasting hkept hretires hchange hunlocked, fun hreply => by cases hreply⟩

theorem kept_run (hlasting : Lasting businessDate code Holds)
    (hkept : Kept businessDate orderId Holds system) {more : List PickupCommand}
    (hmore : .begin orderId true ∉ more) :
    Kept businessDate orderId Holds (run businessDate system more) := by
  induction more generalizing system with
  | nil => exact hkept
  | cons command more ih =>
      have hcommand : command ≠ .begin orderId true :=
        fun hsame => hmore (hsame ▸ List.mem_cons_self)
      have hnext := kept_outcome hlasting hkept (outcome_step businessDate system command) hcommand
      exact ih hnext.1 fun hmem => hmore (List.mem_cons_of_mem _ hmem)

end Keeping

/-! ## Assigned codes -/

/-- What an assignment leaves behind. -/
theorem assigned_outcome (hsound : Sound businessDate system)
    (houtcome : Outcome businessDate system command after (.assigned orderId code)) :
    Kept businessDate orderId (fun orders row => Settled businessDate orders row code) after
      ∧ ∃ order ∈ after.orders, order.id = orderId
      ∧ order.pickupCodeServiceDate = some (businessDateOf businessDate order)
      ∧ order.pickupCodeDisplay = some code ∧ isPickupCode code = true
      ∧ Free businessDate after.orders order code := by
  have hafter := sound_outcome hsound houtcome
  cases houtcome with
  | @writes position call code orders hcall hphase hwrite =>
      obtain ⟨hstored, htakeout, hwriting⟩ := hsound.sound position _ hcall call rfl
      obtain ⟨hcode, hfree⟩ := hwriting code hphase
      have hsettled := settled_of_writeCode hstored hcode hfree hwrite
      refine ⟨⟨hafter, ⟨withCode (businessDateOf businessDate call.order) code call.order, rfl,
        htakeout, hsettled⟩, ?_⟩, withCode (businessDateOf businessDate call.order) code call.order,
        hsettled.stored, rfl, hsettled.serviceDate, hsettled.display, hcode,
        free_writeCode hstored hfree hwrite⟩
      refine forall_getElem?_set (fun other party hne hparty found hfound hid => ?_)
        fun _ hnone => by cases hnone
      have hapart := hsound.apart.apartFromOthers hcall other party hne hparty found hfound call rfl
      exact absurd hid hapart.1

theorem accepted_outcome (hsound : Sound businessDate system)
    (houtcome : Outcome businessDate system command after reply) :
    reply ≠ .refused orderId .uniqueViolation := by
  rintro rfl
  cases houtcome with
  | @violates position call code hcall hphase hwrite =>
      obtain ⟨hstored, -, hwriting⟩ := hsound.sound position _ hcall call rfl
      obtain ⟨written, hwritten⟩ := exists_writeCode hstored (hwriting code hphase).2
      exact absurd (hwrite.symm.trans hwritten) nofun

theorem full_outcome (hsound : Sound businessDate system)
    (houtcome : Outcome businessDate system command after
      (.refused orderId .capacityExceeded)) :
    ∃ order ∈ system.orders, order.id = orderId
      ∧ 999 ≤ (rivals businessDate system.orders order).length := by
  cases houtcome with
  | @runsOut position call hcall hphase hfull =>
      exact ⟨call.order, (hsound.sound position _ hcall call rfl).stored, rfl, hfull⟩

/-- What the repetition of a code leaves behind. -/
theorem repeated_outcome (hsound : Sound businessDate system)
    (houtcome : Outcome businessDate system command after (.repeated orderId code)) :
    Kept businessDate orderId (Carries businessDate code) after
      ∧ ∃ order ∈ system.orders, order.id = orderId ∧ carriesCode businessDate order = true
        ∧ order.pickupCodeDisplay = some code := by
  have hafter := sound_outcome hsound houtcome
  cases houtcome with
  | @repeats position call code hcall hphase hcarries hcode =>
      obtain ⟨hstored, htakeout, -⟩ := hsound.sound position _ hcall call rfl
      refine ⟨⟨hafter, ⟨call.order, rfl, htakeout, ⟨hstored, hcarries, hcode⟩⟩, ?_⟩,
        call.order, hstored, rfl, hcarries, hcode⟩
      refine forall_getElem?_set (fun other party hne hparty found hfound hid => ?_)
        fun _ hnone => by cases hnone
      have hapart := hsound.apart.apartFromOthers hcall other party hne hparty found hfound call rfl
      exact absurd hid hapart.1

/-! ## Calls come to their end -/

def Phase.rank : Phase → ℕ
  | .locking => 0
  | .checking => 1
  | .searching => 2
  | .writing _ => 3

/-- A call that need not wait for its date goes on with every step, or answers. -/
theorem answers_advance (hcall : system.calls[position]? = some (some call))
    (hready : holdsDate call = true
      ∨ isDateLocked businessDate system (lockKey businessDate call) = false) :
    (step businessDate system (.advance position)).2.order? = some call.order.id
      ∨ ∃ next, (step businessDate system (.advance position)).1.calls[position]?
          = some (some next)
        ∧ next.order = call.order ∧ call.phase.rank < next.phase.rank := by
  have hlength : position < system.calls.length := (List.getElem?_eq_some_iff.mp hcall).1
  have hmoved : ∀ party : Option (Call Date),
      (system.calls.set position party)[position]? = some party := fun party =>
    List.getElem?_set_self hlength
  have hjoin : system.calls[position]?.join = some call := by rw [hcall, Option.join_some]
  cases hphase : call.phase with
  | locking =>
      have hfree : isDateLocked businessDate system (lockKey businessDate call) = false :=
        hready.resolve_left (by simp [holdsDate, hphase])
      simp only [step, hjoin, advanceCall, hphase, hfree]
      exact .inr ⟨_, hmoved _, rfl, Nat.zero_lt_one⟩
  | checking =>
      simp only [step, hjoin, advanceCall, hphase]
      split
      · exact .inl rfl
      · split
        · exact .inr ⟨_, hmoved _, rfl, by simp [Phase.rank]⟩
        · exact .inr ⟨_, hmoved _, rfl, by simp [Phase.rank]⟩
  | searching =>
      simp only [step, hjoin, advanceCall, hphase]
      split
      · exact .inr ⟨_, hmoved _, rfl, by simp [Phase.rank]⟩
      · exact .inl rfl
  | writing code =>
      simp only [step, hjoin, advanceCall, hphase]
      split
      · exact .inl rfl
      · exact .inl rfl

/-! ## The board over time -/

/-- What callers are told, and what the orders carry, whatever goes on side by side. -/
structure CodesIdentify (businessDate : ℕ → Timestamp → Date) (orders : Orders Date) : Prop where
  /-- The unique index refuses no assignment. -/
  accepted : ∀ (commands : List PickupCommand) (command : PickupCommand) (orderId : ℕ),
    (step businessDate (run businessDate (opened orders) commands) command).2
      ≠ .refused orderId .uniqueViolation
  /-- An assigned code is on the order with its business date, and on no other active order of it. -/
  distinct : ∀ (commands : List PickupCommand) (command : PickupCommand) (orderId : ℕ)
    (code : Text) (after : PickupSystem Date),
    step businessDate (run businessDate (opened orders) commands) command
      = (after, .assigned orderId code) →
    ∃ order ∈ after.orders, order.id = orderId
      ∧ order.pickupCodeServiceDate = some (businessDateOf businessDate order)
      ∧ order.pickupCodeDisplay = some code ∧ isPickupCode code = true
      ∧ Free businessDate after.orders order code
  /-- A call ends without a code only where 999 others are active for the date. -/
  full : ∀ (commands : List PickupCommand) (command : PickupCommand) (orderId : ℕ)
    (after : PickupSystem Date),
    step businessDate (run businessDate (opened orders) commands) command
      = (after, .refused orderId .capacityExceeded) →
    ∃ order ∈ (run businessDate (opened orders) commands).orders, order.id = orderId
      ∧ 999 ≤ (rivals businessDate (run businessDate (opened orders) commands).orders order).length
  /-- A call that need not wait for its date goes on with every step, or answers. -/
  answers : ∀ (commands : List PickupCommand) (position : ℕ) (call : Call Date)
    (system : PickupSystem Date), run businessDate (opened orders) commands = system →
    system.calls[position]? = some (some call) →
    holdsDate call = true ∨ isDateLocked businessDate system (lockKey businessDate call) = false →
    (step businessDate system (.advance position)).2.order? = some call.order.id
      ∨ ∃ next, (step businessDate system (.advance position)).1.calls[position]?
          = some (some next)
        ∧ next.order = call.order ∧ call.phase.rank < next.phase.rank
  /-- Without reassignment, an order that carries a code for its business date has it repeated. -/
  repeats : ∀ (commands : List PickupCommand) (command : PickupCommand) (orderId : ℕ)
    (code : Text) (after : PickupSystem Date),
    step businessDate (run businessDate (opened orders) commands) command
      = (after, .repeated orderId code) →
    ∃ order ∈ (run businessDate (opened orders) commands).orders, order.id = orderId
      ∧ carriesCode businessDate order = true ∧ order.pickupCodeDisplay = some code
  /-- Until it is reassigned, an order keeps an assigned code, nobody else has it while the order
  is active, and every later answer about the order repeats it. -/
  kept : ∀ (commands : List PickupCommand) (command : PickupCommand) (orderId : ℕ)
    (code : Text) (after : PickupSystem Date),
    step businessDate (run businessDate (opened orders) commands) command
      = (after, .assigned orderId code) →
    ∀ more : List PickupCommand, .begin orderId true ∉ more →
      (∃ order, order.id = orderId
        ∧ Settled businessDate (run businessDate after more).orders order code)
      ∧ ∀ next : PickupCommand, next ≠ .begin orderId true →
        (step businessDate (run businessDate after more) next).2.order? = some orderId →
        (step businessDate (run businessDate after more) next).2 = .repeated orderId code
  /-- An order whose code was only repeated keeps that code as well until it is reassigned. -/
  keptRepeated : ∀ (commands : List PickupCommand) (command : PickupCommand) (orderId : ℕ)
    (code : Text) (after : PickupSystem Date),
    step businessDate (run businessDate (opened orders) commands) command
      = (after, .repeated orderId code) →
    ∀ more : List PickupCommand, .begin orderId true ∉ more →
      (∃ order ∈ (run businessDate after more).orders, order.id = orderId
        ∧ carriesCode businessDate order = true ∧ order.pickupCodeDisplay = some code)
      ∧ ∀ next : PickupCommand, next ≠ .begin orderId true →
        (step businessDate (run businessDate after more) next).2.order? = some orderId →
        (step businessDate (run businessDate after more) next).2 = .repeated orderId code
  /-- After a reconciliation the active orders of the date carry it, with different codes. -/
  reconciled : ∀ (stallId : ℕ) (date : Option Date) (now : Timestamp) (written : Orders Date)
    (count : ℕ),
    reconcileActivePickupCodes businessDate stallId date now orders = .ok (written, count) →
    (∀ order ∈ written,
      Belongs businessDate stallId (date.getD (businessDate stallId now)) order →
      order.pickupCodeServiceDate = some (date.getD (businessDate stallId now))
        ∧ ∃ code, order.pickupCodeDisplay = some code ∧ isPickupCode code = true)
    ∧ ∀ left ∈ written, ∀ right ∈ written,
      Belongs businessDate stallId (date.getD (businessDate stallId now)) left →
      Belongs businessDate stallId (date.getD (businessDate stallId now)) right →
      left.id ≠ right.id → left.pickupCodeDisplay ≠ right.pickupCodeDisplay
  /-- A reconciliation succeeds where at most 999 orders of the stall are active. -/
  reconciles : ∀ (stallId : ℕ) (date : Option Date) (now : Timestamp),
    activeOrdersAt (board orders) stallId ≤ 999 →
    ∃ reconciled, reconcileActivePickupCodes businessDate stallId date now orders
      = .ok reconciled

theorem outcome_of_step {outcome : PickupSystem Date × Reply}
    (hstep : step businessDate system command = outcome) :
    Outcome businessDate system command outcome.1 outcome.2 :=
  hstep ▸ outcome_step businessDate system command

theorem ne_display_of_settled {left right : PickupOrder Date} {first second : Text}
    (hleft : Settled businessDate orders left first)
    (hright : Settled businessDate orders right second) (hstall : left.stallId = right.stallId)
    (hdate : businessDateOf businessDate left = businessDateOf businessDate right)
    (hleftActive : isActive left = true) (hrightActive : isActive right = true)
    (hne : left.id ≠ right.id) : left.pickupCodeDisplay ≠ right.pickupCodeDisplay := by
  intro hsame
  refine hleft.free hleftActive right hright.stored hne.symm hstall.symm hrightActive
    (hright.serviceDateOf_eq.trans hdate.symm) ?_
  exact hsame.symm.trans hleft.display

/-- Pickup codes tell active orders apart, whatever the orders carried at first. -/
theorem codesIdentify (businessDate : ℕ → Timestamp → Date) (orders : Orders Date) :
    CodesIdentify businessDate orders where
  accepted commands command _ :=
    accepted_outcome (sound_run orders commands) (outcome_step businessDate _ command)
  distinct commands _ _ _ _ hstep :=
    (assigned_outcome (sound_run orders commands) (outcome_of_step hstep)).2
  full commands _ _ _ hstep := full_outcome (sound_run orders commands) (outcome_of_step hstep)
  answers _ _ _ _ _ hcall hready := answers_advance hcall hready
  repeats commands _ _ _ _ hstep :=
    (repeated_outcome (sound_run orders commands) (outcome_of_step hstep)).2
  kept commands command orderId code after hstep more hmore := by
    have hassigned := (assigned_outcome (sound_run orders commands) (outcome_of_step hstep)).1
    have hlasting := lasting_settled businessDate code
    have hkept := kept_run hlasting hassigned hmore
    obtain ⟨row, hrow, -, hsettled⟩ := hkept.holds
    refine ⟨⟨row, hrow, hsettled⟩, fun next hnext => ?_⟩
    exact (kept_outcome hlasting hkept (outcome_step businessDate _ next) hnext).2
  keptRepeated commands command orderId code after hstep more hmore := by
    have hrepeated := (repeated_outcome (sound_run orders commands) (outcome_of_step hstep)).1
    have hlasting := lasting_carries businessDate code
    have hkept := kept_run hlasting hrepeated hmore
    obtain ⟨row, hrow, -, hcarries⟩ := hkept.holds
    refine ⟨⟨row, hcarries.stored, hrow, hcarries.carries, hcarries.display⟩,
      fun next hnext => ?_⟩
    exact (kept_outcome hlasting hkept (outcome_step businessDate _ next) hnext).2
  reconciled stallId date now written count hreconcile := by
    constructor
    · intro order horder hbelongs
      obtain ⟨code, hsettled⟩ := settled_of_reconcile hreconcile horder hbelongs
      refine ⟨?_, code, hsettled.display, hsettled.pickupCode⟩
      rw [hsettled.serviceDate, hbelongs.2.2]
    · intro left hleft right hright hleftBelongs hrightBelongs hne
      obtain ⟨first, hfirst⟩ := settled_of_reconcile hreconcile hleft hleftBelongs
      obtain ⟨second, hsecond⟩ := settled_of_reconcile hreconcile hright hrightBelongs
      exact ne_display_of_settled hfirst hsecond (hleftBelongs.1.trans hrightBelongs.1.symm)
        (hleftBelongs.2.2.trans hrightBelongs.2.2.symm) hleftBelongs.2.1 hrightBelongs.2.1 hne
  reconciles _ date now hroom := exists_reconcile date now hroom

/-! ## A code that was given on -/

def takeawayOrder (id : ℕ) : PickupOrder ℤ where
  id := id
  stallId := 7
  fulfillmentType := .takeout
  status := .confirmed
  pickupVerifiedAt := none
  pickupCodeDisplay := none
  pickupCodeServiceDate := none
  scheduledPickupAt := none
  requestedFulfillmentAt := none
  createdAt := 100

def twoOrders : Orders ℤ where
  rows := [takeawayOrder 1, takeawayOrder 2]
  unique := by decide

/-- The first order is picked up with code 001, which the second order is given next. -/
def codeGivenOn : List PickupCommand :=
  alone 1 false ++ [.pickUp 1 150, .begin 2 false, .advance 1, .advance 1, .advance 1, .advance 1,
    .begin 1 false, .advance 2]

/-- An order that was picked up is told its old code again, which an active order carries. -/
theorem repeated_code_given_on :
    let system := run (fun _ => id) (opened twoOrders) codeGivenOn
    (step (fun _ => id) system (.advance 2)).2 = .repeated 1 "001".toList
      ∧ ∃ other ∈ system.orders, other.id = 2 ∧ isActive other = true ∧ other.stallId = 7
        ∧ other.pickupCodeServiceDate = some 100
        ∧ other.pickupCodeDisplay = some "001".toList := by
  decide +kernel

end Stallorder.PickupCodes
