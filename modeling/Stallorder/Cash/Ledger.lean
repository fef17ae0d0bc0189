import Stallorder.Core.Run
import Stallorder.Cash.CashShifts

/-!
# Reconciliation of closed shifts

Every write of the cash ledger goes through a few statements.  Each of them
keeps the stored totals of the shifts that are not open equal to the sums over
their movements, and leaves the closed shifts as they are; the correction of a
shift under review does so together with the totals it recomputes.
-/

namespace Stallorder.CashLedger

open OrderContract SyncDatabase CashDatabase CashShifts Checks Run

variable {db middle db' : CashDb} {shift : CashShift} {movement : LedgerMovement}
  {scope : CashScope} {ids : FreshIds} {movementId : Uuid}

/-! ## The invariant -/

/-- The stored totals of a shift that is not open are those of its movements. -/
def Reconciled (db : CashDb) : Prop :=
  ∀ shift ∈ db.shifts, shift.status ≠ .open → ∃ counted,
    shift.systemExpectedAmount = some (expectedAmount db shift)
      ∧ shift.countedAmount = some counted
      ∧ shift.varianceAmount = some (counted - expectedAmount db shift)

def movementsOf (db : CashDb) (shiftId : Uuid) : List LedgerMovement :=
  db.movements.rows.filter fun movement => movement.cashShiftId = shiftId

/-- Closed shifts keep their columns and their movements. -/
def Frozen (db db' : CashDb) : Prop :=
  ∀ shift ∈ db.shifts, shift.status = .closed →
    shift ∈ db'.shifts ∧ movementsOf db' shift.id = movementsOf db shift.id

/-- What every write of the ledger does. -/
structure Keeps (db db' : CashDb) : Prop where
  reconciled : Reconciled db → Reconciled db'
  frozen : Frozen db db'

theorem Keeps.refl (db : CashDb) : Keeps db db :=
  ⟨id, fun _ hshift _ => ⟨hshift, rfl⟩⟩

theorem Keeps.trans (hfirst : Keeps db middle) (hsecond : Keeps middle db') : Keeps db db' := by
  refine ⟨fun hreconciled => hsecond.reconciled (hfirst.reconciled hreconciled), ?_⟩
  intro shift hshift hclosed
  obtain ⟨hmiddle, hmovements⟩ := hfirst.frozen shift hshift hclosed
  obtain ⟨hlast, hmovements'⟩ := hsecond.frozen shift hmiddle hclosed
  exact ⟨hlast, hmovements'.trans hmovements⟩

/-! ## Movements -/

/-- The states in which a shift takes a movement. -/
def Takes (shift : CashShift) (movement : LedgerMovement) : Prop :=
  (shift.status = .open ∧ movement.type ≠ .correction)
    ∨ (shift.status = .reviewRequired ∧ movement.type = .correction)

theorem takes_of_checkMovement {done : Unit} (hcheck : checkMovement db movement = .ok done) :
    ∃ shift ∈ db.shifts, shift.id = movement.cashShiftId ∧ Takes shift movement := by
  unfold checkMovement at hcheck
  obtain ⟨_, henforce, -⟩ := bind_eq_ok.mp hcheck
  unfold enforceCashMovementLedger at henforce
  obtain ⟨shift, hshift, hrest⟩ := bind_eq_ok.mp henforce
  obtain ⟨_, -, hstatus⟩ := bind_eq_ok.mp hrest
  have hfound := orFail_eq_ok.mp hshift
  refine ⟨shift, Table.mem_of_get? hfound, Table.key_of_get? hfound, ?_⟩
  cases hopen : shift.status with
  | «open» =>
      rw [hopen] at hstatus
      exact Or.inl ⟨hopen, of_decide_eq_false (failWhen_eq_ok.mp hstatus)⟩
  | reviewRequired =>
      rw [hopen] at hstatus
      have htype := of_decide_eq_false (failWhen_eq_ok.mp hstatus)
      exact Or.inr ⟨hopen, not_not.mp htype⟩
  | closing =>
      rw [hopen] at hstatus
      cases hstatus
  | closed =>
      rw [hopen] at hstatus
      cases hstatus

/-- A movement is added to the ledger, and nothing else changes. -/
structure Inserted (db db' : CashDb) (movement : LedgerMovement) : Prop where
  shifts : db'.shifts = db.shifts
  payments : db'.payments = db.payments
  corrections : db'.corrections = db.corrections
  movements : db.movements.insert? movement = some db'.movements

theorem inserted_of_insertMovement (hinsert : insertMovement db movement = .ok db') :
    Inserted db db' movement
      ∧ ∃ shift ∈ db.shifts, shift.id = movement.cashShiftId ∧ Takes shift movement := by
  unfold insertMovement at hinsert
  obtain ⟨_, hcheck, hrest⟩ := bind_eq_ok.mp hinsert
  obtain ⟨movements, hmovements, hdb⟩ := bind_eq_ok.mp hrest
  cases hdb
  exact ⟨⟨rfl, rfl, rfl, orFail_eq_ok.mp hmovements⟩, takes_of_checkMovement hcheck⟩

theorem inserted_of_insertMovementOnce (hinsert : insertMovementOnce db movement = .ok db') :
    (db' = db ∧ ∃ stored ∈ db.movements, stored.reference.isSome = true
        ∧ stored.reference = movement.reference ∧ stored.type = movement.type)
      ∨ (Inserted db db' movement
        ∧ ∃ shift ∈ db.shifts, shift.id = movement.cashShiftId ∧ Takes shift movement) := by
  unfold insertMovementOnce at hinsert
  obtain ⟨_, hcheck, hrest⟩ := bind_eq_ok.mp hinsert
  split at hrest
  · next hstored =>
    cases hrest
    obtain ⟨stored, hmem, hsame⟩ := List.any_eq_true.mp hstored
    simp only [Bool.and_eq_true, decide_eq_true_eq] at hsame
    exact Or.inl ⟨rfl, stored, hmem, hsame.1.1, hsame.1.2, hsame.2⟩
  · obtain ⟨movements, hmovements, hdb⟩ := bind_eq_ok.mp hrest
    cases hdb
    exact Or.inr ⟨⟨rfl, rfl, rfl, orFail_eq_ok.mp hmovements⟩, takes_of_checkMovement hcheck⟩

theorem amountFor_of_inserted (hinserted : Inserted db db' movement) (shiftId : Uuid)
    (type : CashMovementType) :
    amountFor db' shiftId type = amountFor db shiftId type
      + if movement.cashShiftId = shiftId ∧ movement.type = type then movement.amount else 0 :=
  Table.total_insert? _ hinserted.movements

theorem expectedAmount_of_inserted_of_ne (hinserted : Inserted db db' movement)
    (hne : movement.cashShiftId ≠ shift.id) :
    expectedAmount db' shift = expectedAmount db shift := by
  have hsame : ∀ type, amountFor db' shift.id type = amountFor db shift.id type := fun type => by
    rw [amountFor_of_inserted hinserted, if_neg fun hboth => hne hboth.1, add_zero]
  unfold expectedAmount
  rw [hsame, hsame, hsame, hsame, hsame]

theorem frozen_of_inserted (hinserted : Inserted db db' movement)
    (hshift : ∃ shift ∈ db.shifts, shift.id = movement.cashShiftId ∧ Takes shift movement) :
    Frozen db db' := by
  intro closed hclosed hstatus
  obtain ⟨shift, hmem, hid, htakes⟩ := hshift
  have hne : movement.cashShiftId ≠ closed.id := by
    intro hsame
    have heq : shift = closed := Table.eq_of_key_eq hmem hclosed (hid.trans hsame)
    rw [heq] at htakes
    rcases htakes with ⟨hopen, -⟩ | ⟨hreview, -⟩
    · cases hopen.symm.trans hstatus
    · cases hreview.symm.trans hstatus
  refine ⟨hinserted.shifts.symm ▸ hclosed, ?_⟩
  unfold movementsOf
  rw [Table.rows_of_insert? hinserted.movements, List.filter_append]
  simp [hne]

/-- A movement other than a correction goes to an open shift. -/
theorem keeps_of_inserted (hinserted : Inserted db db' movement)
    (hshift : ∃ shift ∈ db.shifts, shift.id = movement.cashShiftId ∧ Takes shift movement)
    (htype : movement.type ≠ .correction) : Keeps db db' := by
  refine ⟨fun hreconciled other hother hstatus => ?_, frozen_of_inserted hinserted hshift⟩
  rw [hinserted.shifts] at hother
  obtain ⟨shift, hmem, hid, htakes⟩ := hshift
  have hopen : shift.status = .open := by
    rcases htakes with ⟨hopen, -⟩ | ⟨-, hcorrection⟩
    · exact hopen
    · exact absurd hcorrection htype
  have hne : movement.cashShiftId ≠ other.id := by
    intro hsame
    have heq : shift = other := Table.eq_of_key_eq hmem hother (hid.trans hsame)
    exact hstatus (heq ▸ hopen)
  rw [expectedAmount_of_inserted_of_ne hinserted hne]
  exact hreconciled other hother hstatus

theorem keeps_of_insertMovement (hinsert : insertMovement db movement = .ok db')
    (htype : movement.type ≠ .correction) : Keeps db db' := by
  obtain ⟨hinserted, hshift⟩ := inserted_of_insertMovement hinsert
  exact keeps_of_inserted hinserted hshift htype

theorem keeps_of_insertMovementOnce (hinsert : insertMovementOnce db movement = .ok db')
    (htype : movement.type ≠ .correction) : Keeps db db' := by
  rcases inserted_of_insertMovementOnce hinsert with ⟨rfl, -⟩ | ⟨hinserted, hshift⟩
  · exact Keeps.refl _
  · exact keeps_of_inserted hinserted hshift htype

/-- A statement that writes neither shifts nor movements. -/
theorem keeps_of_same (hshifts : db'.shifts = db.shifts)
    (hmovements : db'.movements = db.movements) : Keeps db db' := by
  have hexpected : ∀ shift, expectedAmount db' shift = expectedAmount db shift := fun shift => by
    unfold expectedAmount amountFor
    rw [hmovements]
  refine ⟨fun hreconciled shift hshift hstatus => ?_, fun shift hshift _ => ?_⟩
  · rw [hexpected]
    exact hreconciled shift (hshifts ▸ hshift) hstatus
  · refine ⟨hshifts.symm ▸ hshift, ?_⟩
    unfold movementsOf
    rw [hmovements]

/-! ## Shifts -/

theorem keeps_of_insertShift (hinsert : insertShift db shift = .ok db')
    (hopen : shift.status = .open) : Keeps db db' := by
  unfold insertShift at hinsert
  obtain ⟨_, -, hrest⟩ := bind_eq_ok.mp hinsert
  obtain ⟨_, -, hrest⟩ := bind_eq_ok.mp hrest
  obtain ⟨shifts, hshifts, hdb⟩ := bind_eq_ok.mp hrest
  cases hdb
  have hmem : ∀ {other : CashShift}, other ∈ shifts ↔ other ∈ db.shifts ∨ other = shift :=
    Table.mem_of_insert? (orFail_eq_ok.mp hshifts)
  refine ⟨fun hreconciled other hother hstatus => ?_, fun other hother _ => ?_⟩
  · rcases hmem.mp hother with hold | rfl
    · exact hreconciled other hold hstatus
    · exact absurd hopen hstatus
  · exact ⟨hmem.mpr (Or.inl hother), rfl⟩

/-- A written shift is not closed, and the others stay as they are. -/
structure Updated (db db' : CashDb) (shift : CashShift) (change : CashShift → CashShift) :
    Prop where
  notClosed : shift.status ≠ .closed
  shifts : ∀ stored, stored ∈ db'.shifts ↔
    stored = change shift ∨ (stored ∈ db.shifts ∧ stored.id ≠ shift.id)
  movements : db'.movements = db.movements
  payments : db'.payments = db.payments
  corrections : db'.corrections = db.corrections

theorem updated_of_updateShift {change : CashShift → CashShift}
    {hid : ∀ row, (change row).id = row.id} (hmem : shift ∈ db.shifts)
    (hupdate : updateShift db shift change hid = .ok db') : Updated db db' shift change := by
  unfold updateShift at hupdate
  obtain ⟨_, hprevent, hrest⟩ := bind_eq_ok.mp hupdate
  obtain ⟨_, -, hdb⟩ := bind_eq_ok.mp hrest
  cases hdb
  refine ⟨of_decide_eq_false (failWhen_eq_ok.mp hprevent), fun stored => ?_, rfl, rfl, rfl⟩
  change stored ∈ db.shifts.update shift.id change (collides_of_same_id hid) ↔ _
  exact Table.mem_update_of_mem hmem

theorem expectedAmount_congr (hmovements : db'.movements = db.movements)
    {other : CashShift} (hid : other.id = shift.id)
    (hopening : other.openingAmount = shift.openingAmount) :
    expectedAmount db' other = expectedAmount db shift := by
  unfold expectedAmount amountFor
  rw [hmovements, hid, hopening]

theorem frozen_of_updated {change : CashShift → CashShift} (hmem : shift ∈ db.shifts)
    (hupdated : Updated db db' shift change) : Frozen db db' := by
  intro closed hclosed hstatus
  have hne : closed.id ≠ shift.id := by
    intro hsame
    have heq : closed = shift := Table.eq_of_key_eq hclosed hmem hsame
    exact hupdated.notClosed (heq ▸ hstatus)
  refine ⟨(hupdated.shifts closed).mpr (Or.inr ⟨hclosed, hne⟩), ?_⟩
  unfold movementsOf
  rw [hupdated.movements]

/-- The other shifts stay reconciled, whatever is written to one of them. -/
theorem reconciled_of_updated {change : CashShift → CashShift}
    (hupdated : Updated db db' shift change)
    (hothers : ∀ other ∈ db.shifts, other.id ≠ shift.id → other.status ≠ .open → ∃ counted,
      other.systemExpectedAmount = some (expectedAmount db other)
        ∧ other.countedAmount = some counted
        ∧ other.varianceAmount = some (counted - expectedAmount db other))
    (hid : (change shift).id = shift.id)
    (hopening : (change shift).openingAmount = shift.openingAmount)
    (hwritten : ∃ counted,
      (change shift).systemExpectedAmount = some (expectedAmount db shift)
        ∧ (change shift).countedAmount = some counted
        ∧ (change shift).varianceAmount = some (counted - expectedAmount db shift)) :
    Reconciled db' := by
  intro other hother hstatus
  rcases (hupdated.shifts other).mp hother with rfl | ⟨hold, hne⟩
  · rw [expectedAmount_congr hupdated.movements hid hopening]
    exact hwritten
  · rw [expectedAmount_congr hupdated.movements rfl rfl]
    exact hothers other hold hne hstatus

/-- A write of one shift that keeps the others. -/
theorem keeps_of_updated {change : CashShift → CashShift} (hmem : shift ∈ db.shifts)
    (hupdated : Updated db db' shift change) (hid : (change shift).id = shift.id)
    (hopening : (change shift).openingAmount = shift.openingAmount)
    (hwritten : Reconciled db → ∃ counted,
      (change shift).systemExpectedAmount = some (expectedAmount db shift)
        ∧ (change shift).countedAmount = some counted
        ∧ (change shift).varianceAmount = some (counted - expectedAmount db shift)) :
    Keeps db db' := by
  refine ⟨fun hreconciled => ?_, frozen_of_updated hmem hupdated⟩
  exact reconciled_of_updated hupdated (fun other hother _ => hreconciled other hother) hid hopening
    (hwritten hreconciled)

/-! ## Payments -/

theorem keeps_of_recordCashSaleMovement {payment : Payment}
    (hrecord : recordCashSaleMovement db payment movementId = .ok db') : Keeps db db' := by
  unfold recordCashSaleMovement at hrecord
  split at hrecord
  · split at hrecord
    · exact keeps_of_insertMovementOnce hrecord (by simp [saleMovement])
    · cases hrecord
      exact Keeps.refl _
  · cases hrecord
    exact Keeps.refl _

theorem keeps_of_insertPayment {payment : Payment}
    (hinsert : insertPayment db payment movementId = .ok db') : Keeps db db' := by
  unfold insertPayment at hinsert
  obtain ⟨_, -, hrest⟩ := bind_eq_ok.mp hinsert
  obtain ⟨_, -, hrest⟩ := bind_eq_ok.mp hrest
  obtain ⟨payments, -, hrecord⟩ := bind_eq_ok.mp hrest
  have hwritten : Keeps db { db with payments } := keeps_of_same rfl rfl
  exact hwritten.trans (keeps_of_recordCashSaleMovement hrecord)

theorem keeps_of_updatePayment {payment : Payment} {change : Payment → Payment}
    {hkeys : ∀ row, (change row).id = row.id ∧ (change row).orderId = row.orderId}
    {methodCorrection setsStatus : Bool}
    (hupdate : updatePayment db payment change hkeys methodCorrection setsStatus movementId
      = .ok db') : Keeps db db' := by
  unfold updatePayment at hupdate
  obtain ⟨_, -, hrest⟩ := bind_eq_ok.mp hupdate
  have hwritten : ∀ payments, Keeps db { db with payments } := fun _ => keeps_of_same rfl rfl
  simp only at hrest
  split at hrest
  · exact (hwritten _).trans (keeps_of_recordCashSaleMovement hrest)
  · cases hrest
    exact hwritten _

/-! ## Commands -/

theorem mem_of_lockCashShift {shiftId : Uuid} (hlock : lockCashShift db scope shiftId = .ok shift) :
    shift ∈ db.shifts :=
  Table.mem_of_get? (Option.filter_eq_some_iff.mp (orFail_eq_ok.mp hlock)).1

theorem keeps_of_openShift {openingAmount : ℤ} {note : Option Text}
    (hopen : openShift db scope ids openingAmount note = .ok db') : Keeps db db' := by
  unfold openShift at hopen
  obtain ⟨opened, hinsert, hrest⟩ := bind_eq_ok.mp hopen
  have hopened := keeps_of_insertShift hinsert rfl
  split at hrest
  · exact hopened.trans (keeps_of_insertMovement hrest (by simp [newMovement]))
  · cases hrest
    exact hopened

theorem keeps_of_moveCash {type : MoveType} {amount : ℤ}
    (hmove : moveCash db scope ids shift type amount = .ok db') : Keeps db db' := by
  unfold moveCash at hmove
  obtain ⟨_, -, hinsert⟩ := bind_eq_ok.mp hmove
  apply keeps_of_insertMovement hinsert
  cases type <;> simp [newMovement, MoveType.movementType]

theorem keeps_of_refundPayment {paymentId : Uuid}
    (hrefund : refundPayment db scope ids shift paymentId = .ok db') : Keeps db db' := by
  unfold refundPayment at hrefund
  obtain ⟨_, -, hrest⟩ := bind_eq_ok.mp hrefund
  obtain ⟨payment, -, hrest⟩ := bind_eq_ok.mp hrest
  obtain ⟨updated, hupdate, hinsert⟩ := bind_eq_ok.mp hrest
  exact (keeps_of_updatePayment hupdate).trans
    (keeps_of_insertMovement hinsert (by simp [newMovement]))

/-- Closing a shift stores what its movements add up to. -/
theorem keeps_of_close {status : CashShiftStatus} {counted : ℤ} {note : Option Text}
    {closedById : Uuid} {closedAt : Timestamp}
    {hid : ∀ row, (closed status (expectedAmount db shift) counted note closedById closedAt row).id
      = row.id}
    (hmem : shift ∈ db.shifts)
    (hclose : updateShift db shift
      (closed status (expectedAmount db shift) counted note closedById closedAt) hid = .ok db') :
    Keeps db db' :=
  keeps_of_updated hmem (updated_of_updateShift hmem hclose) rfl rfl
    fun _ => ⟨counted, rfl, rfl, rfl⟩

theorem keeps_of_closeShift {countedAmount : ℤ} {note : Option Text} {now : Timestamp}
    (hmem : shift ∈ db.shifts)
    (hclose : closeShift db scope shift countedAmount note now = .ok db') : Keeps db db' := by
  unfold closeShift at hclose
  obtain ⟨_, -, hupdate⟩ := bind_eq_ok.mp hclose
  exact keeps_of_close hmem hupdate

/-- The correction of a shift under review leaves its totals behind for a
moment; they are written anew in the same transaction. -/
theorem keeps_of_adjustShift {amount : ℤ} (hmem : shift ∈ db.shifts)
    (hadjust : adjustShift db scope ids shift amount = .ok db') : Keeps db db' := by
  unfold adjustShift at hadjust
  obtain ⟨_, hstatus, hrest⟩ := bind_eq_ok.mp hadjust
  obtain ⟨corrected, hinsert, hupdate⟩ := bind_eq_ok.mp hrest
  obtain ⟨hinserted, hshift⟩ := inserted_of_insertMovement hinsert
  have hreview : shift.status = .reviewRequired :=
    not_not.mp (of_decide_eq_false (failWhen_eq_ok.mp hstatus))
  have hmem' : shift ∈ corrected.shifts := hinserted.shifts.symm ▸ hmem
  have hupdated := updated_of_updateShift hmem' hupdate
  refine ⟨fun hreconciled => ?_, fun other hother hclosed => ?_⟩
  · refine reconciled_of_updated hupdated (fun other hother hne hopen => ?_) rfl rfl ?_
    · rw [hinserted.shifts] at hother
      rw [expectedAmount_of_inserted_of_ne hinserted fun hsame => hne hsame.symm]
      exact hreconciled other hother hopen
    · obtain ⟨counted, -, hcounted, -⟩ := hreconciled shift hmem (by rw [hreview]; decide)
      refine ⟨counted, rfl, hcounted, ?_⟩
      unfold recalculated
      rw [hcounted]
      rfl
  · obtain ⟨hkept, hmovements⟩ := frozen_of_inserted hinserted hshift other hother hclosed
    obtain ⟨hkept', hmovements'⟩ := frozen_of_updated hmem' hupdated other hkept hclosed
    exact ⟨hkept', hmovements'.trans hmovements⟩

theorem keeps_of_reviewShift {decision : ReviewDecision} (hmem : shift ∈ db.shifts)
    (hreview : reviewShift db scope shift decision = .ok db') : Keeps db db' := by
  unfold reviewShift at hreview
  obtain ⟨_, hstatus, hupdate⟩ := bind_eq_ok.mp hreview
  refine keeps_of_updated hmem (updated_of_updateShift hmem hupdate) rfl rfl fun hreconciled => ?_
  refine hreconciled shift hmem fun hopen => ?_
  rw [failWhen_eq_ok, hopen] at hstatus
  simp at hstatus

theorem keeps_of_executeCashShiftCommand {command : CashShiftCommand} {now : Timestamp}
    (hexecute : executeCashShiftCommand db scope ids now command = .ok db') : Keeps db db' := by
  unfold executeCashShiftCommand at hexecute
  cases command with
  | «open» openingAmount note => exact keeps_of_openShift hexecute
  | move shiftId type amount =>
      obtain ⟨shift, -, hmove⟩ := bind_eq_ok.mp hexecute
      exact keeps_of_moveCash hmove
  | close shiftId countedAmount note =>
      obtain ⟨shift, hlock, hclose⟩ := bind_eq_ok.mp hexecute
      exact keeps_of_closeShift (mem_of_lockCashShift hlock) hclose
  | refund shiftId paymentId =>
      obtain ⟨shift, -, hrefund⟩ := bind_eq_ok.mp hexecute
      exact keeps_of_refundPayment hrefund
  | review shiftId decision comment =>
      obtain ⟨shift, hlock, hreview⟩ := bind_eq_ok.mp hexecute
      exact keeps_of_reviewShift (mem_of_lockCashShift hlock) hreview
  | adjust shiftId amount =>
      obtain ⟨shift, hlock, hadjust⟩ := bind_eq_ok.mp hexecute
      exact keeps_of_adjustShift (mem_of_lockCashShift hlock) hadjust

theorem keeps_of_collectPayments {checkout : ResolvedCheckout}
    (hcollect : collectPayments db scope checkout = .ok db') : Keeps db db' := by
  unfold collectPayments at hcollect
  obtain ⟨cashShiftId, -, hpayments⟩ := bind_eq_ok.mp hcollect
  exact foldlM_invariant (Keeps db) (fun _ _ _ _ hstate hinsert =>
    hstate.trans (keeps_of_insertPayment hinsert)) (Keeps.refl db) hpayments

theorem keeps_of_offlineMovement {event : OfflineCashEvent} {type : CashMovementType}
    (htype : type ≠ .correction)
    (hmovement : offlineMovement db scope ids shift event type = .ok db') : Keeps db db' := by
  unfold offlineMovement at hmovement
  split at hmovement
  · cases hmovement
    exact Keeps.refl _
  · exact keeps_of_insertMovement hmovement htype

theorem keeps_of_importOfflineCashEvent {event : OfflineCashEvent} {occurredAt : Timestamp}
    (himport : importOfflineCashEvent db scope ids event occurredAt = .ok db') : Keeps db db' := by
  unfold importOfflineCashEvent at himport
  obtain ⟨shift, hlock, hrest⟩ := bind_eq_ok.mp himport
  obtain ⟨_, -, hevent⟩ := bind_eq_ok.mp hrest
  split at hevent
  · exact keeps_of_offlineMovement (by decide) hevent
  · exact keeps_of_offlineMovement (by decide) hevent
  · exact keeps_of_close (mem_of_lockCashShift hlock) hevent

theorem eq_ok_of_refuse {Value : Type} {outcome : Except CashError Value} {value : Value}
    (hrefuse : refuse outcome = .ok value) : outcome = .ok value := by
  cases outcome with
  | ok found =>
      cases hrefuse
      rfl
  | error error => cases hrefuse

theorem keeps_of_correctPayment {read : Payment} {option : PaymentOption}
    (hcorrect : correctPayment db scope ids read option = .ok db') : Keeps db db' := by
  unfold correctPayment at hcorrect
  obtain ⟨_, -, hrest⟩ := bind_eq_ok.mp hcorrect
  obtain ⟨_, -, hrest⟩ := bind_eq_ok.mp hrest
  obtain ⟨_, -, hrest⟩ := bind_eq_ok.mp hrest
  obtain ⟨_, -, hrest⟩ := bind_eq_ok.mp hrest
  obtain ⟨_, -, hrest⟩ := bind_eq_ok.mp hrest
  obtain ⟨payment, -, hrest⟩ := bind_eq_ok.mp hrest
  obtain ⟨updated, hupdate, hrest⟩ := bind_eq_ok.mp hrest
  obtain ⟨corrections, -, hmovement⟩ := bind_eq_ok.mp hrest
  have hupdated := keeps_of_updatePayment (eq_ok_of_refuse hupdate)
  have hrecorded : Keeps updated { updated with corrections } := keeps_of_same rfl rfl
  split at hmovement
  · refine (hupdated.trans hrecorded).trans
      (keeps_of_insertMovement (eq_ok_of_refuse hmovement) ?_)
    change (if option.isCash then CashMovementType.cashIn else .cashOut) ≠ .correction
    split <;> decide
  · cases hmovement
    exact hupdated.trans hrecorded

/-! ## Runs -/

theorem keeps_of_commit {Error : Type} {system : CashSystem} {outcome : Except Error CashDb}
    (hok : ∀ committed, outcome = .ok committed → Keeps system.db committed) :
    Keeps system.db (system.commit outcome).db := by
  cases outcome with
  | ok committed => exact hok committed rfl
  | error error => exact Keeps.refl _

theorem keeps_step (system : CashSystem) (request : CashRequest) :
    Keeps system.db (step system request).db := by
  unfold step
  cases request with
  | command scope ids now command =>
      simp only
      split
      · exact keeps_of_commit fun _ => keeps_of_executeCashShiftCommand
      · exact Keeps.refl _
  | checkout scope checkout => exact keeps_of_commit fun _ => keeps_of_collectPayments
  | offlineCashEvent scope ids event occurredAt =>
      exact keeps_of_commit fun _ => keeps_of_importOfflineCashEvent
  | readCompletedPayment paymentId => exact Keeps.refl _
  | correctPayment scope ids read option =>
      simp only
      split
      · exact keeps_of_commit fun _ => keeps_of_correctPayment
      · exact Keeps.refl _

theorem keeps_exec (system : CashSystem) (requests : List CashRequest) :
    Keeps system.db (exec step system requests).db :=
  invariant_exec (fun state : CashSystem => Keeps system.db state.db)
    (fun state request hstate => hstate.trans (keeps_step state request)) (Keeps.refl _) requests

/-- In every reachable state the totals of the shifts that are not open are
those of their movements, and from there on the closed shifts neither change
nor gain a movement. -/
theorem ledger_reconciled (before after : List CashRequest) :
    Reconciled (exec step CashSystem.initial before).db
      ∧ Frozen (exec step CashSystem.initial before).db
        (exec step CashSystem.initial (before ++ after)).db := by
  constructor
  · refine (keeps_exec CashSystem.initial before).reconciled fun shift hshift => ?_
    exact absurd hshift (Table.notMem_empty shift)
  · rw [exec_append]
    exact (keeps_exec _ after).frozen

end Stallorder.CashLedger
