import Stallorder.Cash.Ledger

/-!
# Cash in the drawer

The movements that a payment causes add up to its amount while it is paid in
cash, and to nothing once it is refunded or not a cash payment.  References tie
a movement to its payment: directly, or through the event of a correction.
-/

namespace Stallorder.CashDrawer

open OrderContract SyncDatabase CashDatabase CashShifts CashLedger Checks Run

variable {db middle db' : CashDb} {shift : CashShift} {movement : LedgerMovement}
  {payment : Payment} {scope : CashScope} {ids : FreshIds} {movementId : Uuid}

/-! ## Net cash -/

/-- The sale or the refund of a payment, or a correction of its order. -/
def causedBy (corrections : Table CorrectionEvent) (payment : Payment)
    (movement : LedgerMovement) : Bool :=
  match movement.reference with
  | some (.payment paymentId) => paymentId = payment.id
  | some (.paymentMethodCorrection eventId) =>
      (corrections.get? eventId).any fun event => event.orderId = payment.orderId
  | _ => false

def signedAmount (movement : LedgerMovement) : ℤ :=
  match movement.type with
  | .cashSale | .cashIn => movement.amount
  | .cashOut | .cashRefund => -movement.amount
  | .openingFloat | .correction => 0

def netCash (db : CashDb) (payment : Payment) : ℤ :=
  db.movements.total fun movement =>
    if causedBy db.corrections payment movement then signedAmount movement else 0

/-- The cash of a payment that belongs into the drawer. -/
def dueCash (payment : Payment) : ℤ :=
  if payment.method = .cash ∧ payment.status = .paid then payment.amount else 0

/-- A movement that refers to a payment or to a correction of one. -/
def concernsPayment : MovementReference → Bool
  | .payment _ | .paymentMethodCorrection _ => true
  | .cashShift _ | .offlineCashEvent _ => false

/-- What the references of the ledger point to is there, and the cash of every
payment is in the drawer. -/
structure Drawer (db : CashDb) : Prop where
  paid : ∀ movement ∈ db.movements, ∀ paymentId, movement.reference = some (.payment paymentId) →
    ∃ payment ∈ db.payments, payment.id = paymentId
  corrected : ∀ movement ∈ db.movements, ∀ eventId,
    movement.reference = some (.paymentMethodCorrection eventId) →
      ∃ event ∈ db.corrections, event.id = eventId
  events : ∀ event ∈ db.corrections, ∃ payment ∈ db.payments, payment.orderId = event.orderId
  net : ∀ payment ∈ db.payments, netCash db payment = dueCash payment

theorem netCash_of_inserted (hinserted : Inserted db db' movement) (payment : Payment) :
    netCash db' payment = netCash db payment
      + if causedBy db.corrections payment movement then signedAmount movement else 0 := by
  unfold netCash
  rw [hinserted.corrections]
  exact Table.total_insert? _ hinserted.movements

theorem causedBy_congr {corrections : Table CorrectionEvent} {left right : Payment}
    (hid : left.id = right.id) (horder : left.orderId = right.orderId)
    (movement : LedgerMovement) :
    causedBy corrections left movement = causedBy corrections right movement := by
  unfold causedBy
  rw [hid, horder]

theorem netCash_congr {left right : Payment} (hmovements : db'.movements = db.movements)
    (hcorrections : db'.corrections = db.corrections) (hid : left.id = right.id)
    (horder : left.orderId = right.orderId) : netCash db' left = netCash db right := by
  unfold netCash
  rw [hmovements, hcorrections]
  refine Table.total_congr fun movement _ => ?_
  rw [causedBy_congr hid horder]

/-! ## Movements -/

theorem mem_of_inserted (hinserted : Inserted db db' movement) {stored : LedgerMovement} :
    stored ∈ db'.movements ↔ stored ∈ db.movements ∨ stored = movement :=
  Table.mem_of_insert? hinserted.movements

/-- A movement that concerns no payment. -/
theorem drawer_of_inserted_of_not (hdrawer : Drawer db) (hinserted : Inserted db db' movement)
    (hother : movement.reference.any concernsPayment = false) : Drawer db' := by
  have hpayment : ∀ paymentId, movement.reference ≠ some (.payment paymentId) := by
    intro paymentId hreference
    rw [hreference] at hother
    cases hother
  have hcorrection : ∀ eventId, movement.reference ≠ some (.paymentMethodCorrection eventId) := by
    intro eventId hreference
    rw [hreference] at hother
    cases hother
  refine ⟨fun stored hstored paymentId hreference => ?_,
    fun stored hstored eventId hreference => ?_, ?_, fun payment hpaymentMem => ?_⟩
  · rw [hinserted.payments]
    rcases (mem_of_inserted hinserted).mp hstored with hold | rfl
    · exact hdrawer.paid stored hold paymentId hreference
    · exact absurd hreference (hpayment paymentId)
  · rw [hinserted.corrections]
    rcases (mem_of_inserted hinserted).mp hstored with hold | rfl
    · exact hdrawer.corrected stored hold eventId hreference
    · exact absurd hreference (hcorrection eventId)
  · rw [hinserted.corrections, hinserted.payments]
    exact hdrawer.events
  · rw [hinserted.payments] at hpaymentMem
    have hnot : causedBy db.corrections payment movement = false := by
      unfold causedBy
      cases hreference : movement.reference with
      | none => rfl
      | some reference =>
          cases reference with
          | payment paymentId => exact absurd hreference (hpayment paymentId)
          | paymentMethodCorrection eventId => exact absurd hreference (hcorrection eventId)
          | cashShift shiftId => rfl
          | offlineCashEvent cashEventId => rfl
    rw [netCash_of_inserted hinserted, hnot, if_neg Bool.false_ne_true, add_zero]
    exact hdrawer.net payment hpaymentMem

/-- The ledger while a transaction still owes the movement of one payment. -/
structure Owing (db : CashDb) (payment : Payment) (before : ℤ) : Prop where
  mem : payment ∈ db.payments
  paid : ∀ movement ∈ db.movements, ∀ paymentId, movement.reference = some (.payment paymentId) →
    ∃ payment ∈ db.payments, payment.id = paymentId
  corrected : ∀ movement ∈ db.movements, ∀ eventId,
    movement.reference = some (.paymentMethodCorrection eventId) →
      ∃ event ∈ db.corrections, event.id = eventId
  events : ∀ event ∈ db.corrections, ∃ payment ∈ db.payments, payment.orderId = event.orderId
  others : ∀ other ∈ db.payments, other.id ≠ payment.id → netCash db other = dueCash other
  net : netCash db payment = before

theorem Owing.drawer {before : ℤ} (howing : Owing db payment before)
    (hpaid : before = dueCash payment) : Drawer db := by
  refine ⟨howing.paid, howing.corrected, howing.events, fun other hother => ?_⟩
  by_cases hid : other.id = payment.id
  · have hsame : other = payment := Table.eq_of_key_eq hother howing.mem hid
    rw [hsame, howing.net, hpaid]
  · exact howing.others other hother hid

/-- The movement that a payment owes. -/
theorem drawer_of_owing {before : ℤ} (howing : Owing db payment before)
    (hinserted : Inserted db db' movement)
    (hreference : movement.reference = some (.payment payment.id)
      ∨ ∃ event ∈ db.corrections, movement.reference = some (.paymentMethodCorrection event.id)
        ∧ event.orderId = payment.orderId)
    (hpaid : before + signedAmount movement = dueCash payment) : Drawer db' := by
  have hcaused : ∀ other ∈ db.payments,
      causedBy db.corrections other movement = decide (other.id = payment.id) := by
    intro other hother
    unfold causedBy
    rcases hreference with hpayment | ⟨event, hevent, hcorrection, horder⟩
    · simp only [hpayment]
      exact decide_eq_decide.mpr eq_comm
    · have hfound : db.corrections.get? event.id = some event := Table.get?_of_mem hevent
      simp only [hcorrection, hfound, Option.any_some]
      refine decide_eq_decide.mpr ⟨fun hsame => ?_, fun hsame => ?_⟩
      · have hcollides : Indexed.collides other payment = true := by
          simp [Indexed.collides, hsame.symm.trans horder]
        rw [Table.eq_of_collides hother howing.mem hcollides]
      · have heq : other = payment := Table.eq_of_key_eq hother howing.mem hsame
        rw [heq, horder]
  refine ⟨fun stored hstored paymentId hstoredReference => ?_,
    fun stored hstored eventId hstoredReference => ?_, ?_, fun other hother => ?_⟩
  · rw [hinserted.payments]
    rcases (mem_of_inserted hinserted).mp hstored with hold | rfl
    · exact howing.paid stored hold paymentId hstoredReference
    · rcases hreference with hpayment | ⟨event, hevent, hcorrection, -⟩
      · cases hpayment.symm.trans hstoredReference
        exact ⟨payment, howing.mem, rfl⟩
      · cases hcorrection.symm.trans hstoredReference
  · rw [hinserted.corrections]
    rcases (mem_of_inserted hinserted).mp hstored with hold | rfl
    · exact howing.corrected stored hold eventId hstoredReference
    · rcases hreference with hpayment | ⟨event, hevent, hcorrection, -⟩
      · cases hpayment.symm.trans hstoredReference
      · cases hcorrection.symm.trans hstoredReference
        exact ⟨event, hevent, rfl⟩
  · rw [hinserted.corrections, hinserted.payments]
    exact howing.events
  · rw [hinserted.payments] at hother
    rw [netCash_of_inserted hinserted, hcaused other hother]
    by_cases hid : other.id = payment.id
    · have heq : other = payment := Table.eq_of_key_eq hother howing.mem hid
      rw [heq, howing.net]
      simp only [decide_true, if_true]
      exact hpaid
    · simp only [hid, decide_false, Bool.false_eq_true, if_false, add_zero]
      exact howing.others other hother hid

/-! ## Payments -/

/-- Payments stay, with their order and their amount. -/
def Persists (db db' : CashDb) : Prop :=
  ∀ payment ∈ db.payments, ∃ payment' ∈ db'.payments, payment'.id = payment.id
    ∧ payment'.orderId = payment.orderId ∧ payment'.amount = payment.amount

theorem Persists.refl (db : CashDb) : Persists db db :=
  fun payment hpayment => ⟨payment, hpayment, rfl, rfl, rfl⟩

theorem Persists.trans (hfirst : Persists db middle) (hsecond : Persists middle db') :
    Persists db db' := by
  intro payment hpayment
  obtain ⟨payment', hpayment', hid, horder, hamount⟩ := hfirst payment hpayment
  obtain ⟨payment'', hpayment'', hid', horder', hamount'⟩ := hsecond payment' hpayment'
  exact ⟨payment'', hpayment'', hid'.trans hid, horder'.trans horder, hamount'.trans hamount⟩

theorem persists_of_same (hpayments : db'.payments = db.payments) : Persists db db' :=
  fun payment hpayment => ⟨payment, hpayments.symm ▸ hpayment, rfl, rfl, rfl⟩

/-- A cash payment is only paid into a shift. -/
theorem cashShiftId_of_enforce {done : Unit}
    (henforce : enforcePaymentCashShift db none payment false = .ok done)
    (hcash : payment.method = .cash) (hpaid : payment.status = .paid) :
    payment.cashShiftId.isSome = true := by
  unfold enforcePaymentCashShift at henforce
  obtain ⟨_, -, hrest⟩ := bind_eq_ok.mp henforce
  obtain ⟨_, -, hrest⟩ := bind_eq_ok.mp hrest
  rw [if_neg (not_not.mpr hcash), failWhen_eq_ok] at hrest
  cases hshift : payment.cashShiftId with
  | none => simp [hshift, hpaid] at hrest
  | some shiftId => rfl

theorem owing_of_insert {payments : Table Payment} (hdrawer : Drawer db)
    (hinsert : db.payments.insert? payment = some payments) :
    Owing { db with payments } payment 0 := by
  have hmem : ∀ {stored : Payment}, stored ∈ payments ↔ stored ∈ db.payments ∨ stored = payment :=
    Table.mem_of_insert? hinsert
  have hnew : ∀ stored ∈ db.payments, stored.id ≠ payment.id ∧ stored.orderId ≠ payment.orderId := by
    intro stored hstored
    have hfree := Table.not_collides_of_insert? hinsert hstored
    simpa [Indexed.collides] using hfree
  refine ⟨hmem.mpr (Or.inr rfl), fun movement hmovement paymentId hreference => ?_,
    hdrawer.corrected, fun event hevent => ?_, fun other hother hne => ?_, ?_⟩
  · obtain ⟨stored, hstored, hid⟩ := hdrawer.paid movement hmovement paymentId hreference
    exact ⟨stored, hmem.mpr (Or.inl hstored), hid⟩
  · obtain ⟨stored, hstored, horder⟩ := hdrawer.events event hevent
    exact ⟨stored, hmem.mpr (Or.inl hstored), horder⟩
  · rcases hmem.mp hother with hold | rfl
    · exact hdrawer.net other hold
    · exact absurd rfl hne
  · refine Table.total_eq_zero fun movement hmovement => if_neg ?_
    intro hcaused
    unfold causedBy at hcaused
    split at hcaused
    · next paymentId hreference =>
      obtain ⟨stored, hstored, hid⟩ := hdrawer.paid movement hmovement paymentId hreference
      exact (hnew stored hstored).1 (hid.trans (of_decide_eq_true hcaused))
    · next eventId hreference =>
      obtain ⟨event, hfound, horder⟩ := (Option.any_eq_true _ _).mp hcaused
      obtain ⟨stored, hstored, hsame⟩ := hdrawer.events event (Table.mem_of_get? hfound)
      exact (hnew stored hstored).2 (hsame.trans (of_decide_eq_true horder))
    · cases hcaused

/-- A new payment comes with its sale when it is paid in cash. -/
theorem drawer_of_insertPayment (hdrawer : Drawer db)
    (hinsert : insertPayment db payment movementId = .ok db') :
    Drawer db' ∧ Persists db db' := by
  unfold insertPayment at hinsert
  obtain ⟨_, henforce, hrest⟩ := bind_eq_ok.mp hinsert
  obtain ⟨_, -, hrest⟩ := bind_eq_ok.mp hrest
  obtain ⟨payments, hpayments, hrecord⟩ := bind_eq_ok.mp hrest
  have hstored := orFail_eq_ok.mp hpayments
  have howing := owing_of_insert hdrawer hstored
  have hpersists : Persists db { db with payments } := fun stored hmem =>
    ⟨stored, (Table.mem_of_insert? hstored).mpr (Or.inl hmem), rfl, rfl, rfl⟩
  have hidle : ∀ {final : CashDb}, dueCash payment = 0 → .ok { db with payments } = (.ok final
      : Except CashError CashDb) → Drawer final ∧ Persists db final := by
    intro final hzero hfinal
    cases hfinal
    exact ⟨howing.drawer hzero.symm, hpersists⟩
  unfold recordCashSaleMovement at hrecord
  by_cases hdue : payment.method = .cash ∧ payment.status = .paid
  · obtain ⟨cashShiftId, hshift⟩ :=
      Option.isSome_iff_exists.mp (cashShiftId_of_enforce henforce hdue.1 hdue.2)
    rw [hshift] at hrecord
    simp only [hdue.1, hdue.2, decide_true, Bool.and_self, if_true] at hrecord
    rcases inserted_of_insertMovementOnce hrecord with ⟨-, stored, hmem, -, hreference, -⟩
      | ⟨hinserted, -⟩
    · -- no movement can refer to a payment before it is there
      obtain ⟨earlier, hearlier, hid⟩ := hdrawer.paid stored hmem payment.id hreference
      have hfree := Table.not_collides_of_insert? hstored hearlier
      exact absurd (Indexed.collides_of_key_eq hid) hfree
    · refine ⟨drawer_of_owing howing hinserted (Or.inl rfl) ?_, hpersists.trans
        (persists_of_same hinserted.payments)⟩
      unfold dueCash
      rw [if_pos hdue, zero_add]
      rfl
  · have hzero : dueCash payment = 0 := if_neg hdue
    split at hrecord
    · next cashShiftId hshift =>
      have hnot : (decide (payment.method = .cash) && decide (payment.status = .paid)) = false := by
        rw [Bool.eq_false_iff]
        intro hboth
        rw [Bool.and_eq_true, decide_eq_true_eq, decide_eq_true_eq] at hboth
        exact hdue hboth
      rw [hnot] at hrecord
      exact hidle hzero hrecord
    · exact hidle hzero hrecord

/-- A payment is written in its place. -/
structure Rewritten (db db' : CashDb) (payment payment' : Payment) : Prop where
  payments : ∀ stored, stored ∈ db'.payments ↔
    stored = payment' ∨ (stored ∈ db.payments ∧ stored.id ≠ payment.id)
  movements : db'.movements = db.movements
  corrections : db'.corrections = db.corrections
  id_eq : payment'.id = payment.id
  orderId_eq : payment'.orderId = payment.orderId

theorem rewritten_of_updatePayment {change : Payment → Payment}
    {hkeys : ∀ row, (change row).id = row.id ∧ (change row).orderId = row.orderId}
    {methodCorrection setsStatus : Bool} (hmem : payment ∈ db.payments)
    (hunpaid : setsStatus = true → (change payment).status ≠ .paid)
    (hupdate : updatePayment db payment change hkeys methodCorrection setsStatus movementId
      = .ok db') : Rewritten db db' payment (change payment) := by
  unfold updatePayment at hupdate
  obtain ⟨_, -, hrest⟩ := bind_eq_ok.mp hupdate
  have hwritten : db' = { db with
      payments := db.payments.update payment.id change (collides_of_same_keys hkeys) } := by
    simp only at hrest
    split at hrest
    · next hsets =>
      have hstatus := hunpaid (Bool.and_eq_true_iff.mp hsets).1
      unfold recordCashSaleMovement at hrest
      split at hrest
      · simp only [hstatus, decide_false, Bool.and_false, Bool.false_eq_true, if_false] at hrest
        exact (Except.ok.inj hrest).symm
      · exact (Except.ok.inj hrest).symm
    · exact (Except.ok.inj hrest).symm
  subst hwritten
  refine ⟨fun stored => ?_, rfl, rfl, (hkeys payment).1, (hkeys payment).2⟩
  change stored ∈ db.payments.update payment.id change (collides_of_same_keys hkeys) ↔ _
  exact Table.mem_update_of_mem hmem

theorem owing_of_rewritten {payment' : Payment} (hdrawer : Drawer db)
    (hmem : payment ∈ db.payments) (hrewritten : Rewritten db db' payment payment') :
    Owing db' payment' (dueCash payment) := by
  have hkept : ∀ stored ∈ db.payments, ∃ stored' ∈ db'.payments, stored'.id = stored.id
      ∧ stored'.orderId = stored.orderId := by
    intro stored hstored
    by_cases hid : stored.id = payment.id
    · have hsame : stored = payment := Table.eq_of_key_eq hstored hmem hid
      rw [hsame]
      exact ⟨payment', (hrewritten.payments _).mpr (Or.inl rfl), hrewritten.id_eq,
        hrewritten.orderId_eq⟩
    · exact ⟨stored, (hrewritten.payments _).mpr (Or.inr ⟨hstored, hid⟩), rfl, rfl⟩
  refine ⟨(hrewritten.payments _).mpr (Or.inl rfl), ?_, ?_, ?_, fun other hother hne => ?_, ?_⟩
  · intro movement hmovement paymentId hreference
    rw [hrewritten.movements] at hmovement
    obtain ⟨stored, hstored, hid⟩ := hdrawer.paid movement hmovement paymentId hreference
    obtain ⟨stored', hstored', hid', -⟩ := hkept stored hstored
    exact ⟨stored', hstored', hid'.trans hid⟩
  · rw [hrewritten.movements, hrewritten.corrections]
    exact hdrawer.corrected
  · intro event hevent
    rw [hrewritten.corrections] at hevent
    obtain ⟨stored, hstored, horder⟩ := hdrawer.events event hevent
    obtain ⟨stored', hstored', -, horder'⟩ := hkept stored hstored
    exact ⟨stored', hstored', horder'.trans horder⟩
  · rcases (hrewritten.payments other).mp hother with rfl | ⟨hold, -⟩
    · exact absurd rfl hne
    · rw [netCash_congr hrewritten.movements hrewritten.corrections rfl rfl]
      exact hdrawer.net other hold
  · rw [netCash_congr hrewritten.movements hrewritten.corrections hrewritten.id_eq
      hrewritten.orderId_eq]
    exact hdrawer.net payment hmem

theorem persists_of_rewritten {payment' : Payment} (hmem : payment ∈ db.payments)
    (hrewritten : Rewritten db db' payment payment') (hamount : payment'.amount = payment.amount) :
    Persists db db' := by
  intro stored hstored
  by_cases hid : stored.id = payment.id
  · have hsame : stored = payment := Table.eq_of_key_eq hstored hmem hid
    rw [hsame]
    exact ⟨payment', (hrewritten.payments _).mpr (Or.inl rfl), hrewritten.id_eq,
      hrewritten.orderId_eq, hamount⟩
  · exact ⟨stored, (hrewritten.payments _).mpr (Or.inr ⟨hstored, hid⟩), rfl, rfl, rfl⟩

/-- The event of a correction gives no movement another cause. -/
theorem owing_of_event {event : CorrectionEvent} {corrections : Table CorrectionEvent}
    {before : ℤ} (howing : Owing db payment before) (horder : event.orderId = payment.orderId)
    (hinsert : db.corrections.insert? event = some corrections) :
    Owing { db with corrections } payment before := by
  have hmem : ∀ {stored : CorrectionEvent},
      stored ∈ corrections ↔ stored ∈ db.corrections ∨ stored = event :=
    Table.mem_of_insert? hinsert
  have hnet : ∀ other, netCash { db with corrections } other = netCash db other := by
    intro other
    refine Table.total_congr fun movement hmovement => ?_
    have hcaused : causedBy corrections other movement = causedBy db.corrections other movement := by
      unfold causedBy
      cases hreference : movement.reference with
      | none => rfl
      | some reference =>
          cases reference with
          | paymentMethodCorrection eventId =>
              obtain ⟨stored, hstored, hid⟩ := howing.corrected movement hmovement eventId hreference
              have hbefore := Table.get?_of_mem hstored
              have hafter := Table.get?_of_mem (hmem.mpr (Or.inl hstored))
              have hkey : Indexed.key stored = eventId := hid
              rw [hkey] at hbefore hafter
              simp only [hbefore, hafter]
          | payment paymentId => rfl
          | cashShift shiftId => rfl
          | offlineCashEvent cashEventId => rfl
    rw [hcaused]
  refine ⟨howing.mem, howing.paid, fun movement hmovement eventId hreference => ?_,
    fun stored hstored => ?_, fun other hother hne => ?_, ?_⟩
  · obtain ⟨stored, hstored, hid⟩ := howing.corrected movement hmovement eventId hreference
    exact ⟨stored, hmem.mpr (Or.inl hstored), hid⟩
  · rcases hmem.mp hstored with hold | rfl
    · exact howing.events stored hold
    · exact ⟨payment, howing.mem, horder.symm⟩
  · rw [hnet]
    exact howing.others other hother hne
  · rw [hnet]
    exact howing.net

/-! ## Commands -/

/-- What a transaction does to the payments and their cash. -/
def Settles (db db' : CashDb) : Prop :=
  Drawer db → Drawer db' ∧ Persists db db'

theorem Settles.refl (db : CashDb) : Settles db db :=
  fun hdrawer => ⟨hdrawer, Persists.refl db⟩

theorem Settles.trans (hfirst : Settles db middle) (hsecond : Settles middle db') :
    Settles db db' := by
  intro hdrawer
  obtain ⟨hmiddle, hpersists⟩ := hfirst hdrawer
  obtain ⟨hlast, hpersists'⟩ := hsecond hmiddle
  exact ⟨hlast, hpersists.trans hpersists'⟩

/-- A statement on the shifts. -/
theorem settles_of_same (hpayments : db'.payments = db.payments)
    (hmovements : db'.movements = db.movements) (hcorrections : db'.corrections = db.corrections) :
    Settles db db' := by
  intro hdrawer
  refine ⟨⟨?_, ?_, ?_, fun payment hpayment => ?_⟩, persists_of_same hpayments⟩
  · rw [hmovements, hpayments]
    exact hdrawer.paid
  · rw [hmovements, hcorrections]
    exact hdrawer.corrected
  · rw [hcorrections, hpayments]
    exact hdrawer.events
  · rw [netCash_congr hmovements hcorrections rfl rfl]
    exact hdrawer.net payment (hpayments ▸ hpayment)

theorem settles_of_updateShift {change : CashShift → CashShift}
    {hid : ∀ row, (change row).id = row.id}
    (hupdate : updateShift db shift change hid = .ok db') : Settles db db' := by
  unfold updateShift at hupdate
  obtain ⟨_, -, hrest⟩ := bind_eq_ok.mp hupdate
  obtain ⟨_, -, hdb⟩ := bind_eq_ok.mp hrest
  cases hdb
  exact settles_of_same rfl rfl rfl

/-- A movement that concerns no payment. -/
theorem settles_of_insertMovement (hinsert : insertMovement db movement = .ok db')
    (hother : movement.reference.any concernsPayment = false) : Settles db db' := by
  intro hdrawer
  obtain ⟨hinserted, -⟩ := inserted_of_insertMovement hinsert
  exact ⟨drawer_of_inserted_of_not hdrawer hinserted hother, persists_of_same hinserted.payments⟩

theorem settles_of_openShift {openingAmount : ℤ} {note : Option Text}
    (hopen : openShift db scope ids openingAmount note = .ok db') : Settles db db' := by
  unfold openShift at hopen
  obtain ⟨opened, hinsert, hrest⟩ := bind_eq_ok.mp hopen
  have hopened : Settles db opened := by
    unfold insertShift at hinsert
    obtain ⟨_, -, hinsert⟩ := bind_eq_ok.mp hinsert
    obtain ⟨_, -, hinsert⟩ := bind_eq_ok.mp hinsert
    obtain ⟨shifts, -, hdb⟩ := bind_eq_ok.mp hinsert
    cases hdb
    exact settles_of_same rfl rfl rfl
  split at hrest
  · exact hopened.trans (settles_of_insertMovement hrest rfl)
  · cases hrest
    exact hopened

/-- A refund marks a paid cash payment of the stall and records the cash that
was given back. -/
theorem exists_of_refundPayment {paymentId : Uuid}
    (hrefund : refundPayment db scope ids shift paymentId = .ok db') :
    ∃ payment ∈ db.payments, payment.id = paymentId ∧ payment.stallId = scope.stallId
      ∧ payment.method = .cash ∧ payment.status = .paid
      ∧ ∃ updated, Rewritten db updated payment (markRefunded payment)
        ∧ Inserted updated db' (newMovement scope ids.movementId shift.id .cashRefund
          payment.amount (some (.payment payment.id))) := by
  unfold refundPayment at hrefund
  obtain ⟨_, -, hrest⟩ := bind_eq_ok.mp hrefund
  obtain ⟨payment, hfind, hrest⟩ := bind_eq_ok.mp hrest
  obtain ⟨updated, hupdate, hinsert⟩ := bind_eq_ok.mp hrest
  unfold findRefundable at hfind
  obtain ⟨found, hfound, hfind⟩ := bind_eq_ok.mp hfind
  obtain ⟨_, hrefundable, hsame⟩ := bind_eq_ok.mp hfind
  cases hsame
  obtain ⟨hget, hchecks⟩ := Option.filter_eq_some_iff.mp (orFail_eq_ok.mp hfound)
  simp only [Bool.and_eq_true, decide_eq_true_eq] at hchecks
  rw [failWhen_eq_ok, Bool.or_eq_false_iff, decide_eq_false_iff_not, not_not] at hrefundable
  have hmem := Table.mem_of_get? hget
  have hrewritten := rewritten_of_updatePayment hmem (fun _ => by simp [markRefunded]) hupdate
  obtain ⟨hinserted, -⟩ := inserted_of_insertMovement hinsert
  exact ⟨payment, hmem, Table.key_of_get? hget, hchecks.1.2, hchecks.2, hrefundable.1, updated,
    hrewritten, hinserted⟩

/-- A refund takes the amount of the payment out again. -/
theorem settles_of_refundPayment {paymentId : Uuid}
    (hrefund : refundPayment db scope ids shift paymentId = .ok db') : Settles db db' := by
  intro hdrawer
  obtain ⟨payment, hmem, -, -, hcash, hpaid, updated, hrewritten, hinserted⟩ :=
    exists_of_refundPayment hrefund
  have howing := owing_of_rewritten hdrawer hmem hrewritten
  refine ⟨drawer_of_owing howing hinserted (Or.inl rfl) ?_,
    (persists_of_rewritten hmem hrewritten rfl).trans (persists_of_same hinserted.payments)⟩
  have hdue : dueCash payment = payment.amount := if_pos ⟨hcash, hpaid⟩
  have hrefunded : dueCash (markRefunded payment) = 0 := by
    apply if_neg
    simp [markRefunded]
  rw [hdue, hrefunded]
  exact add_neg_cancel payment.amount

theorem settles_of_executeCashShiftCommand {command : CashShiftCommand} {now : Timestamp}
    (hexecute : executeCashShiftCommand db scope ids now command = .ok db') :
    Settles db db' := by
  unfold executeCashShiftCommand at hexecute
  cases command with
  | «open» openingAmount note => exact settles_of_openShift hexecute
  | move shiftId type amount =>
      obtain ⟨shift, -, hmove⟩ := bind_eq_ok.mp hexecute
      obtain ⟨_, -, hinsert⟩ := bind_eq_ok.mp hmove
      exact settles_of_insertMovement hinsert rfl
  | close shiftId countedAmount note =>
      obtain ⟨shift, -, hclose⟩ := bind_eq_ok.mp hexecute
      obtain ⟨_, -, hupdate⟩ := bind_eq_ok.mp hclose
      exact settles_of_updateShift hupdate
  | refund shiftId paymentId =>
      obtain ⟨shift, -, hrefund⟩ := bind_eq_ok.mp hexecute
      exact settles_of_refundPayment hrefund
  | review shiftId decision comment =>
      obtain ⟨shift, -, hreview⟩ := bind_eq_ok.mp hexecute
      obtain ⟨_, -, hupdate⟩ := bind_eq_ok.mp hreview
      exact settles_of_updateShift hupdate
  | adjust shiftId amount =>
      obtain ⟨shift, -, hadjust⟩ := bind_eq_ok.mp hexecute
      obtain ⟨_, -, hadjust⟩ := bind_eq_ok.mp hadjust
      obtain ⟨corrected, hinsert, hupdate⟩ := bind_eq_ok.mp hadjust
      exact (settles_of_insertMovement hinsert rfl).trans (settles_of_updateShift hupdate)

theorem settles_of_collectPayments {checkout : ResolvedCheckout}
    (hcollect : collectPayments db scope checkout = .ok db') : Settles db db' := by
  unfold collectPayments at hcollect
  obtain ⟨cashShiftId, -, hpayments⟩ := bind_eq_ok.mp hcollect
  exact foldlM_invariant (Settles db) (fun _ _ _ _ hstate hinsert =>
    hstate.trans fun hdrawer => drawer_of_insertPayment hdrawer hinsert) (Settles.refl db) hpayments

theorem settles_of_importOfflineCashEvent {event : OfflineCashEvent} {occurredAt : Timestamp}
    (himport : importOfflineCashEvent db scope ids event occurredAt = .ok db') :
    Settles db db' := by
  have hmovement : ∀ {shift : CashShift} {type : CashMovementType},
      offlineMovement db scope ids shift event type = .ok db' → Settles db db' := by
    intro shift type hoffline
    unfold offlineMovement at hoffline
    split at hoffline
    · cases hoffline
      exact Settles.refl _
    · exact settles_of_insertMovement hoffline rfl
  unfold importOfflineCashEvent at himport
  obtain ⟨shift, -, hrest⟩ := bind_eq_ok.mp himport
  obtain ⟨_, -, hevent⟩ := bind_eq_ok.mp hrest
  split at hevent
  · exact hmovement hevent
  · exact hmovement hevent
  · exact settles_of_updateShift hevent

/-! ## Corrections -/

/-- A correction across cash moves the amount, the others move nothing. -/
theorem dueCash_correctedPayment {read : Payment} {option : PaymentOption}
    {cashShiftId : Option Uuid} (hmethod : payment.method = read.method)
    (hpaid : payment.status = .paid) :
    dueCash (correctedPayment option cashShiftId read payment)
      = dueCash payment + if classificationChanged read option then
          (if option.isCash then payment.amount else -payment.amount) else 0 := by
  unfold dueCash classificationChanged correctedPayment nextMethod
  rw [hmethod, hpaid]
  cases hcash : option.isCash with
  | true =>
      by_cases hread : read.method = .cash
      · simp [hread]
      · simp [hread]
  | false =>
      by_cases hread : read.method = .cash
      · simp [hread]
      · simp [hread]

theorem settles_of_correctPayment {read : Payment} {option : PaymentOption}
    (hread : ∃ payment ∈ db.payments, payment.id = read.id ∧ payment.orderId = read.orderId
      ∧ payment.amount = read.amount)
    (hcorrect : correctPayment db scope ids read option = .ok db') : Settles db db' := by
  intro hdrawer
  unfold correctPayment at hcorrect
  obtain ⟨_, -, hrest⟩ := bind_eq_ok.mp hcorrect
  obtain ⟨_, -, hrest⟩ := bind_eq_ok.mp hrest
  obtain ⟨_, -, hrest⟩ := bind_eq_ok.mp hrest
  obtain ⟨_, -, hrest⟩ := bind_eq_ok.mp hrest
  obtain ⟨_, hshift, hrest⟩ := bind_eq_ok.mp hrest
  obtain ⟨payment, hunchanged, hrest⟩ := bind_eq_ok.mp hrest
  obtain ⟨updated, hupdate, hrest⟩ := bind_eq_ok.mp hrest
  obtain ⟨corrections, hevent, hmovement⟩ := bind_eq_ok.mp hrest
  obtain ⟨hget, hchecks⟩ := Option.filter_eq_some_iff.mp (orFail_eq_ok.mp hunchanged)
  simp only [Bool.and_eq_true, decide_eq_true_eq] at hchecks
  obtain ⟨⟨⟨⟨horder, hpaid⟩, -⟩, hmethod⟩, -⟩ := hchecks
  have hmem := Table.mem_of_get? hget
  have hid : payment.id = read.id := Table.key_of_get? hget
  have hamount : payment.amount = read.amount := by
    obtain ⟨stored, hstored, hstoredId, -, hstoredAmount⟩ := hread
    rw [Table.eq_of_key_eq hmem hstored (hid.trans hstoredId.symm)]
    exact hstoredAmount
  have hrewritten := rewritten_of_updatePayment hmem (fun hsets => by cases hsets)
    (eq_ok_of_refuse hupdate)
  have hpersists : Persists db { updated with corrections } :=
    (persists_of_rewritten hmem hrewritten rfl).trans (persists_of_same rfl)
  have howing := owing_of_event (owing_of_rewritten hdrawer hmem hrewritten) horder.symm
    (orFail_eq_ok.mp hevent)
  have hdue : ∀ cashShiftId, dueCash (correctedPayment option cashShiftId read payment)
      = dueCash payment + if classificationChanged read option then
        (if option.isCash then payment.amount else -payment.amount) else 0 :=
    fun _ => dueCash_correctedPayment hmethod hpaid
  split at hmovement
  · next adjustment hadjustment =>
    have hchanged : classificationChanged read option = true := by
      by_contra hnot
      rw [if_neg hnot] at hadjustment
      cases hadjustment
    obtain ⟨hinserted, -⟩ := inserted_of_insertMovement (eq_ok_of_refuse hmovement)
    have hstored : ({ id := ids.eventId, orderId := read.orderId } : CorrectionEvent)
        ∈ corrections := (Table.mem_of_insert? (orFail_eq_ok.mp hevent)).mpr (Or.inr rfl)
    refine ⟨drawer_of_owing howing hinserted (Or.inr ⟨_, hstored, rfl, horder.symm⟩) ?_,
      hpersists.trans (persists_of_same hinserted.payments)⟩
    rw [hdue, if_pos hchanged, hamount]
    cases option.isCash <;> rfl
  · next hadjustment =>
    have hunchangedClass : classificationChanged read option = false := by
      rw [failWhen_eq_ok, hadjustment] at hshift
      simpa using hshift
    cases hmovement
    refine ⟨howing.drawer ?_, hpersists⟩
    rw [hdue, hunchangedClass, if_neg Bool.false_ne_true, add_zero]

/-! ## Runs -/

/-- Between requests: the payments that were read are still there, with their
amounts. -/
structure Sound (system : CashSystem) : Prop where
  drawer : Drawer system.db
  reads : ∀ read ∈ system.reads, ∃ payment ∈ system.db.payments, payment.id = read.id
    ∧ payment.orderId = read.orderId ∧ payment.amount = read.amount

theorem sound_of_settles {system : CashSystem} (hsound : Sound system)
    (hsettles : Settles system.db db') : Sound { system with db := db' } := by
  obtain ⟨hdrawer, hpersists⟩ := hsettles hsound.drawer
  refine ⟨hdrawer, fun read hread => ?_⟩
  obtain ⟨payment, hpayment, hid, horder, hamount⟩ := hsound.reads read hread
  obtain ⟨payment', hpayment', hid', horder', hamount'⟩ := hpersists payment hpayment
  exact ⟨payment', hpayment', hid'.trans hid, horder'.trans horder, hamount'.trans hamount⟩

theorem sound_of_commit {Error : Type} {system : CashSystem} {outcome : Except Error CashDb}
    (hsound : Sound system)
    (hok : ∀ committed, outcome = .ok committed → Settles system.db committed) :
    Sound (system.commit outcome) := by
  cases outcome with
  | ok committed => exact sound_of_settles hsound (hok committed rfl)
  | error error => exact hsound

theorem sound_step (system : CashSystem) (request : CashRequest) (hsound : Sound system) :
    Sound (step system request) := by
  unfold step
  cases request with
  | command scope ids now command =>
      simp only
      split
      · exact sound_of_commit hsound fun _ => settles_of_executeCashShiftCommand
      · exact hsound
  | checkout scope checkout => exact sound_of_commit hsound fun _ => settles_of_collectPayments
  | offlineCashEvent scope ids event occurredAt =>
      exact sound_of_commit hsound fun _ => settles_of_importOfflineCashEvent
  | readCompletedPayment paymentId =>
      refine ⟨hsound.drawer, fun read hread => ?_⟩
      rcases List.mem_append.mp hread with hfound | hold
      · exact ⟨read, Table.mem_of_get? (Option.mem_toList.mp hfound), rfl, rfl, rfl⟩
      · exact hsound.reads read hold
  | correctPayment scope ids read option =>
      simp only
      split
      · next hread =>
        exact sound_of_commit hsound fun _ => settles_of_correctPayment (hsound.reads read hread)
      · exact hsound

theorem drawer_empty : Drawer CashDb.empty where
  paid movement hmovement := absurd hmovement (Table.notMem_empty movement)
  corrected movement hmovement := absurd hmovement (Table.notMem_empty movement)
  events event hevent := absurd hevent (Table.notMem_empty event)
  net payment hpayment := absurd hpayment (Table.notMem_empty payment)

/-- In every reachable state the movements of a payment add up to its amount
when it is paid in cash, and to nothing when it is refunded or not a cash
payment. -/
theorem drawer_settled (requests : List CashRequest) (payment : Payment)
    (hpayment : payment ∈ (exec step CashSystem.initial requests).db.payments) :
    (payment.method = .cash → payment.status = .paid →
      netCash (exec step CashSystem.initial requests).db payment = payment.amount)
      ∧ (payment.method ≠ .cash ∨ payment.status = .refunded →
        netCash (exec step CashSystem.initial requests).db payment = 0) := by
  have hsound : Sound (exec step CashSystem.initial requests) :=
    invariant_exec Sound sound_step
      ⟨drawer_empty, fun read hread => absurd hread List.not_mem_nil⟩ requests
  have hnet := hsound.drawer.net payment hpayment
  constructor
  · intro hcash hpaid
    rw [hnet]
    exact if_pos ⟨hcash, hpaid⟩
  · intro hgone
    rw [hnet]
    apply if_neg
    rintro ⟨hcash, hpaid⟩
    rcases hgone with hother | hrefunded
    · exact hother hcash
    · cases hrefunded.symm.trans hpaid

/-! ### A corrected payment -/

def sampleScope : CashScope where
  organizationId := 1
  stallId := 1
  actorProfileId := 5
  reconciliationEnabled := true

def sampleIds (number : ℕ) : FreshIds where
  shiftId := 100 + number
  movementId := 200 + number
  eventId := 300 + number

/-- The payment of an order, in cash and after its correction. -/
def samplePayment (paymentOptionId : Uuid) (cash : Bool) : Payment where
  id := 10
  organizationId := 1
  stallId := 1
  orderId := 20
  checkoutGroupId := none
  paymentOptionId := some paymentOptionId
  cashShiftId := if cash then some 101 else none
  amount := 300
  method := if cash then .cash else .other
  status := .paid
  cashReceived := if cash then some 300 else none
  changeAmount := if cash then some 0 else none
  recordedById := some 5

/-- Collected in cash, corrected to another method and back. -/
def sampleRequests : List CashRequest :=
  [.command sampleScope (sampleIds 1) 0 (.open 500 none),
    .checkout sampleScope {
      checkoutGroupId := none
      paymentOptionId := some 1
      method := .cash
      payments := [{
        paymentId := 10
        orderId := 20
        amount := 300
        cashReceived := some 300
        changeAmount := some 0
        movementId := 210 }] },
    .readCompletedPayment 10,
    .correctPayment sampleScope (sampleIds 2) (samplePayment 1 true) { id := 2, isCash := false },
    .readCompletedPayment 10,
    .correctPayment sampleScope (sampleIds 3) (samplePayment 2 false) { id := 3, isCash := true }]

theorem sample_drawer_settled :
    netCash (exec step CashSystem.initial sampleRequests).db (samplePayment 3 true) = 300 := by
  have hpayment : samplePayment 3 true
      ∈ (exec step CashSystem.initial sampleRequests).db.payments.rows := by decide +kernel
  exact (drawer_settled sampleRequests (samplePayment 3 true) hpayment).1 rfl rfl

example : (exec step CashSystem.initial sampleRequests).db.movements.rows.length = 4 := by
  decide +kernel

end Stallorder.CashDrawer
