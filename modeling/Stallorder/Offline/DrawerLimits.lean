import Stallorder.Offline.FailedCreation

/-!
# The drawer of one shift

Cash sales and cash events rewrite the drawer of their stall without passing
it through its schema.  A run of accepted operations keeps the drawer readable
exactly as long as every operation stays within the limits of the schema; what
the drawer expects is always its first amount with the sales and the movements
of the run.
-/

namespace Stallorder.DrawerLimits

open OrderContract Catalog LocalDatabase Operations FailedCreation Checks Doubles Run

inductive DrawerCommand
  | createOrder (draft : CreateOfflineOrderDraft) (ids : CreationIds) (now : Timestamp)
  | cashEvent (input : CashEventInput) (ids : CashEventIds) (now : Timestamp)

section Steps

variable (localBusinessDate : Timestamp → Text → Option Text)

/-- The database after an operation that is accepted. -/
def accept (db : LocalDb) : DrawerCommand → Option LocalDb
  | .createOrder draft ids now =>
      match createOfflineOrder localBusinessDate db draft ids now with
      | (after, .ok _) => some after
      | (_, .error _) => none
  | .cashEvent input ids now =>
      match createOfflineCashEvent db input ids now with
      | (after, .ok _) => some after
      | (_, .error _) => none

/-- A run consists of the operations that are accepted; the others are no part of it. -/
def drawerStep (db : LocalDb) (command : DrawerCommand) : LocalDb :=
  (accept localBusinessDate db command).getD db

/-- What an operation brings into the drawer of a stall and takes out of it. -/
structure Movement where
  sales : ℤ
  cashIn : ℤ
  cashOut : ℤ
  events : ℕ

def Movement.none : Movement where
  sales := 0
  cashIn := 0
  cashOut := 0
  events := 0

/-- The draft is paid at once, with an option of the menu that stands for cash. -/
def paysInCash (draft : CreateOfflineOrderDraft) (catalog : MenuCatalog) : Bool :=
  draft.paymentTiming ≠ .payLater
    && (catalog.paymentOptions.find? fun candidate =>
      draft.paymentOptionId = some candidate.id).any fun option =>
        paymentMethodForKind option.kind = .cash

/-- A draft that is paid in cash moves its total, which is whole when it is accepted. -/
def saleMovement (db : LocalDb) (draft : CreateOfflineOrderDraft) (ids : CreationIds)
    (now : Timestamp) : Movement :=
  match admitOfflineOrder db draft ids now with
  | .error _ => .none
  | .ok admission =>
      if paysInCash draft admission.bootstrap.menu.catalog then
        { Movement.none with sales := (toInteger? admission.subtotal).getD 0 }
      else .none

def eventMovement (input : CashEventInput) : Movement where
  sales := 0
  cashIn := if input.eventType = .cashIn then input.amount else 0
  cashOut := if input.eventType = .cashOut then input.amount else 0
  events := 1

/-- What a command moves at a stall. -/
def movement (db : LocalDb) (stallId : Uuid) : DrawerCommand → Movement
  | .createOrder draft ids now =>
      if draft.stallId = stallId then saleMovement db draft ids now else .none
  | .cashEvent input _ _ => if input.stallId = stallId then eventMovement input else .none

end Steps

/-- The drawer is there and can be read. -/
def Readable (db : LocalDb) (stallId : Uuid) : Prop :=
  ∃ shift, db.cashShiftSnapshot.get? stallId = some shift ∧ cashShiftSnapshotSchema shift = true

/-- A movement stays within the limits of the schema. -/
structure Fits (shift : CashShiftSnapshot) (moved : Movement) : Prop where
  sales : shift.cashSales.getD 0 + moved.sales ≤ 100_000_000
  cashIn : shift.cashIn.getD 0 + moved.cashIn ≤ 100_000_000
  cashOut : shift.cashOut.getD 0 + moved.cashOut ≤ 100_000_000
  covered : moved.cashOut ≤ shift.expectedAmount.getD 0 + moved.sales + moved.cashIn
  expected : shift.expectedAmount.getD 0 + moved.sales + moved.cashIn - moved.cashOut
    ≤ 100_000_000
  events : shift.pendingEvents.length + moved.events ≤ 1_000

/-! ## What a movement does to a drawer -/

section Drawers

variable {shift moved : CashShiftSnapshot} {movement : Movement}

structure Movement.Nonneg (movement : Movement) : Prop where
  sales : 0 ≤ movement.sales
  cashIn : 0 ≤ movement.cashIn
  cashOut : 0 ≤ movement.cashOut

/-- The amounts of the second drawer are those of the first with the movement. -/
structure Moves (shift moved : CashShiftSnapshot) (movement : Movement) : Prop where
  openingAmount : moved.openingAmount = shift.openingAmount
  cashRefund : moved.cashRefund = shift.cashRefund
  correction : moved.correction = shift.correction
  cashSales : moved.cashSales.getD 0 = shift.cashSales.getD 0 + movement.sales
  cashIn : moved.cashIn.getD 0 = shift.cashIn.getD 0 + movement.cashIn
  cashOut : moved.cashOut.getD 0 = shift.cashOut.getD 0 + movement.cashOut
  expectedAmount : moved.expectedAmount = some
    (shift.expectedAmount.getD 0 + movement.sales + movement.cashIn - movement.cashOut)
  pendingEvents : moved.pendingEvents.length = shift.pendingEvents.length + movement.events

theorem moves_addCashSale (shift : CashShiftSnapshot) (amount : ℤ) :
    Moves shift (addCashSale shift amount) { Movement.none with sales := amount } where
  openingAmount := rfl
  cashRefund := rfl
  correction := rfl
  cashSales := rfl
  cashIn := (add_zero _).symm
  cashOut := (add_zero _).symm
  expectedAmount := by simp [addCashSale, Movement.none]
  pendingEvents := rfl

theorem moves_recordCashEvent (shift : CashShiftSnapshot) (event : StoredCashEvent)
    (input : CashEventInput) :
    Moves shift (recordCashEvent shift event input) (eventMovement input) where
  openingAmount := rfl
  cashRefund := rfl
  correction := rfl
  cashSales := (add_zero _).symm
  cashIn := rfl
  cashOut := rfl
  expectedAmount := by
    simp only [recordCashEvent, eventMovement, Option.some.injEq]
    ring
  pendingEvents := by simp [recordCashEvent, eventMovement]

theorem nonneg_eventMovement {input : CashEventInput} (hamount : 0 ≤ input.amount) :
    (eventMovement input).Nonneg where
  sales := le_rfl
  cashIn := ite_nonneg hamount le_rfl
  cashOut := ite_nonneg hamount le_rfl

/-- An amount that is not recorded yet counts as nothing. -/
theorem all_money_eq (amount : Option ℤ) : amount.all money = money (amount.getD 0) := by
  cases amount with
  | none => rfl
  | some amount => rfl

/-- The moved drawer passes its schema exactly when the movement fits. -/
theorem Moves.schema_iff (hmoves : Moves shift moved movement) (hnonneg : movement.Nonneg)
    (hschema : cashShiftSnapshotSchema shift = true) :
    cashShiftSnapshotSchema moved = true ↔ Fits shift movement := by
  simp only [cashShiftSnapshotSchema, all_money_eq, money, Bool.and_eq_true, decide_eq_true_eq]
    at hschema ⊢
  rw [hmoves.openingAmount, hmoves.cashRefund, hmoves.correction, hmoves.cashSales, hmoves.cashIn,
    hmoves.cashOut, hmoves.expectedAmount, hmoves.pendingEvents, Option.getD_some]
  obtain ⟨hsales, hcashIn, hcashOut⟩ := hnonneg
  obtain ⟨⟨⟨⟨⟨⟨⟨hopening, hsalesOld⟩, hinOld⟩, houtOld⟩, hrefund⟩, hcorrection⟩, hexpectedOld⟩,
    heventsOld⟩ := hschema
  constructor
  · rintro ⟨⟨⟨⟨⟨⟨⟨-, hsalesNew⟩, hinNew⟩, houtNew⟩, -⟩, -⟩, hexpectedNew⟩, hevents⟩
    exact ⟨hsalesNew.2, hinNew.2, houtNew.2, by omega, hexpectedNew.2, hevents⟩
  · intro hfits
    have hcovered := hfits.covered
    exact ⟨⟨⟨⟨⟨⟨⟨hopening, by omega, hfits.sales⟩, by omega, hfits.cashIn⟩, by omega,
      hfits.cashOut⟩, hrefund⟩, hcorrection⟩, by omega, hfits.expected⟩, hfits.events⟩

theorem fits_none (hschema : cashShiftSnapshotSchema shift = true) : Fits shift .none := by
  simp only [cashShiftSnapshotSchema, all_money_eq, money, Bool.and_eq_true, decide_eq_true_eq]
    at hschema
  obtain ⟨⟨⟨⟨⟨⟨⟨-, hsales⟩, hcashIn⟩, hcashOut⟩, -⟩, -⟩, hexpected⟩, hevents⟩ := hschema
  constructor <;> simp only [Movement.none] <;> omega

end Drawers

/-! ## Steps -/

section Steps

variable {localBusinessDate : Timestamp → Text → Option Text} {db after : LocalDb}
  {stallId : Uuid} {command : DrawerCommand}

/-- The drawer of a stall after an accepted operation: as before, or moved. -/
structure DrawerMoved (db after : LocalDb) (stallId : Uuid) (moved : Movement)
    (shift shift' : CashShiftSnapshot) : Prop where
  before : db.cashShiftSnapshot.get? stallId = some shift
  schema : cashShiftSnapshotSchema shift = true
  after : after.cashShiftSnapshot.get? stallId = some shift'
  moves : Moves shift shift' moved
  nonneg : moved.Nonneg

theorem get?_put {table : Table CashShiftSnapshot} {shift : CashShiftSnapshot} (stallId : Uuid) :
    (table.put shift).get? stallId
      = if stallId = shift.stallId then some shift else table.get? stallId := by
  by_cases hstall : stallId = shift.stallId
  · rw [if_pos hstall, hstall]
    exact Table.get?_put_self table shift
  · rw [if_neg hstall]
    exact Table.get?_put_of_ne hstall

/-- Only a payment in cash puts a drawer. -/
theorem cashShift_of_decideOfflinePayment {draft : CreateOfflineOrderDraft} {ids : CreationIds}
    {now : Timestamp} {admission : Admission} {decision : PaymentDecision}
    (hdecide : decideOfflinePayment db draft ids now admission = .ok decision) :
    (paysInCash draft admission.bootstrap.menu.catalog = true
        ∧ ∃ shift amount,
          PaidInCash db draft.stallId now admission.subtotal decision shift amount)
      ∨ paysInCash draft admission.bootstrap.menu.catalog = false
        ∧ decision.cashShift = none := by
  unfold decideOfflinePayment at hdecide
  split at hdecide
  case isTrue hlater =>
    cases hdecide
    exact .inr ⟨by simp [paysInCash, hlater], rfl⟩
  case isFalse hnow =>
    obtain ⟨-, -, hdecide⟩ := bind_eq_ok.mp hdecide
    obtain ⟨option, hoption, hdecide⟩ := bind_eq_ok.mp hdecide
    have hfound := orFail_eq_ok.mp hoption
    split at hdecide
    case isTrue hcash =>
      exact .inl ⟨by simp [paysInCash, hnow, hfound, hcash], paidInCash_of_takeCashPayment hdecide⟩
    case isFalse hmanual =>
      exact .inr ⟨by simp [paysInCash, hfound, hmanual], cashShift_of_takeManualPayment hdecide⟩

theorem drawer_createOrder {draft : CreateOfflineOrderDraft} {ids : CreationIds} {now : Timestamp}
    (haccept : accept localBusinessDate db (.createOrder draft ids now) = some after) :
    (movement db stallId (.createOrder draft ids now) = .none
        ∧ after.cashShiftSnapshot.get? stallId = db.cashShiftSnapshot.get? stallId)
      ∨ ∃ shift shift', DrawerMoved db after stallId
        (movement db stallId (.createOrder draft ids now)) shift shift' := by
  simp only [accept] at haccept
  split at haccept
  case h_2 => cases haccept
  case h_1 hcreate =>
    cases haccept
    rcases createOfflineOrder_cases hcreate with ⟨error, shift, houtcome, -⟩ |
      ⟨admission, decision, parts, created, houtcome, hadmission, hdecide, -, hstored⟩
    · cases houtcome
    have hdrawers : after.cashShiftSnapshot
        = (putCashShift db decision.cashShift).cashShiftSnapshot := by
      rw [hstored.others]
    rcases cashShift_of_decideOfflinePayment hdecide with
      ⟨hcash, shift, amount, hpaid⟩ | ⟨hcash, hput⟩
    · have hstall : shift.stallId = draft.stallId := Table.key_of_get? hpaid.drawer
      have hget : after.cashShiftSnapshot.get? stallId
          = if stallId = shift.stallId then some (addCashSale shift amount)
            else db.cashShiftSnapshot.get? stallId := by
        rw [hdrawers, hpaid.put]
        exact get?_put stallId
      by_cases hsame : draft.stallId = stallId
      · right
        have hmovement : movement db stallId (.createOrder draft ids now)
            = { Movement.none with sales := amount } := by
          have hwhole := toInteger?_eq_some.mpr hpaid.whole
          simp [movement, saleMovement, hsame, hadmission, hcash, hwhole]
        have hnonneg : 0 ≤ amount := by
          have hsubtotal := (withinPermit_of_admitOfflineOrder hadmission).subtotal_nonneg
          rw [hpaid.whole] at hsubtotal
          exact_mod_cast hsubtotal
        rw [hmovement]
        refine ⟨shift, addCashSale shift amount, hsame ▸ hpaid.drawer, hpaid.schema, ?_,
          moves_addCashSale shift amount, hnonneg, le_rfl, le_rfl⟩
        rw [hget, if_pos (hsame.symm.trans hstall.symm)]
      · left
        refine ⟨if_neg hsame, ?_⟩
        rw [hget, if_neg fun heq => hsame (heq.trans hstall).symm]
    · left
      rw [hdrawers, hput]
      exact ⟨by simp [movement, saleMovement, hadmission, hcash], rfl⟩

theorem read_of_prepareCashEvent {input : CashEventInput} {ids : CashEventIds} {now : Timestamp}
    {shift : CashShiftSnapshot} {event : OfflineCashEvent}
    (hprepare : prepareCashEvent db input ids now = .ok (shift, event)) :
    db.cashShiftSnapshot.get? input.stallId = some shift
      ∧ cashShiftSnapshotSchema shift = true ∧ 0 ≤ input.amount := by
  obtain ⟨bootstrap, -, hprepare⟩ := bind_eq_ok.mp hprepare
  obtain ⟨-, -, hprepare⟩ := bind_eq_ok.mp hprepare
  obtain ⟨⟨found, shiftId⟩, hread, hprepare⟩ := bind_eq_ok.mp hprepare
  obtain ⟨parsed, hparsed, hreturn⟩ := bind_eq_ok.mp hprepare
  cases hreturn
  obtain ⟨hfound, hschema⟩ := schema_of_readOpenCashShift hread
  obtain ⟨haccepts, hnormalize⟩ :=
    offlineCashEventSchema.parse_eq_some_iff.mp (orFail_eq_ok.mp hparsed)
  simp only [offlineCashEventSchema, ← hnormalize, money, Bool.and_eq_true, decide_eq_true_eq]
    at haccepts
  exact ⟨hfound, hschema, haccepts.1.1.1.1.1.1.1.1⟩

theorem drawer_cashEvent {input : CashEventInput} {ids : CashEventIds} {now : Timestamp}
    (haccept : accept localBusinessDate db (.cashEvent input ids now) = some after) :
    (movement db stallId (.cashEvent input ids now) = .none
        ∧ after.cashShiftSnapshot.get? stallId = db.cashShiftSnapshot.get? stallId)
      ∨ ∃ shift shift', DrawerMoved db after stallId
        (movement db stallId (.cashEvent input ids now)) shift shift' := by
  simp only [accept] at haccept
  split at haccept
  case h_2 => cases haccept
  case h_1 hcreate =>
    cases haccept
    rcases createOfflineCashEvent_cases hcreate with ⟨error, houtcome, -⟩ |
      ⟨shift, event, queue, houtcome, hprepare, -, hdb⟩
    · cases houtcome
    obtain ⟨hfound, hschema, hamount⟩ := read_of_prepareCashEvent hprepare
    have hstall : shift.stallId = input.stallId := Table.key_of_get? hfound
    let recorded := recordCashEvent shift ⟨event, .pending, ids.queueId⟩ input
    have hget : after.cashShiftSnapshot.get? stallId
        = if stallId = shift.stallId then some recorded
          else db.cashShiftSnapshot.get? stallId := by
      rw [hdb]
      exact get?_put stallId
    by_cases hsame : input.stallId = stallId
    · right
      have hmovement : movement db stallId (.cashEvent input ids now) = eventMovement input :=
        if_pos hsame
      rw [hmovement]
      refine ⟨shift, recorded, hsame ▸ hfound, hschema, ?_, moves_recordCashEvent shift _ input,
        nonneg_eventMovement hamount⟩
      rw [hget, if_pos (hsame.symm.trans hstall.symm)]
    · left
      refine ⟨if_neg hsame, ?_⟩
      rw [hget, if_neg fun heq => hsame (heq.trans hstall).symm]

/-- An accepted operation leaves the drawer of a stall, or moves it. -/
theorem drawer_of_accept (haccept : accept localBusinessDate db command = some after) :
    (movement db stallId command = .none
        ∧ after.cashShiftSnapshot.get? stallId = db.cashShiftSnapshot.get? stallId)
      ∨ ∃ shift shift', DrawerMoved db after stallId (movement db stallId command) shift shift' := by
  cases command with
  | createOrder draft ids now => exact drawer_createOrder haccept
  | cashEvent input ids now => exact drawer_cashEvent haccept

/-- An operation that is accepted moves no more than fits. -/
def Within (localBusinessDate : Timestamp → Text → Option Text) (stallId : Uuid) (db : LocalDb)
    (command : DrawerCommand) : Prop :=
  (accept localBusinessDate db command).isSome = true →
    ∀ shift, db.cashShiftSnapshot.get? stallId = some shift →
      Fits shift (movement db stallId command)

theorem readable_step_iff (hreadable : Readable db stallId) :
    Readable (drawerStep localBusinessDate db command) stallId
      ↔ Within localBusinessDate stallId db command := by
  unfold drawerStep Within
  cases haccept : accept localBusinessDate db command with
  | none => exact iff_of_true hreadable nofun
  | some after =>
      obtain ⟨shift, hdrawer, hschema⟩ := hreadable
      rw [Option.getD_some]
      rcases drawer_of_accept haccept with ⟨hnone, hsame⟩ | ⟨found, moved, hmoved⟩
      · refine iff_of_true ⟨shift, hsame.trans hdrawer, hschema⟩ fun _ other hother => ?_
        cases hother.symm.trans hdrawer
        rw [hnone]
        exact fits_none hschema
      · cases hmoved.before.symm.trans hdrawer
        have hfits := hmoved.moves.schema_iff hmoved.nonneg hschema
        constructor
        · rintro ⟨drawer, hafter, hpasses⟩ - other hother
          cases hother.symm.trans hdrawer
          cases hafter.symm.trans hmoved.after
          exact hfits.mp hpasses
        · intro hwithin
          exact ⟨moved, hmoved.after, hfits.mpr (hwithin rfl shift hdrawer)⟩

/-! ## What the drawer expects -/

/-- The amount a movement adds to what the drawer expects. -/
def Movement.net (movement : Movement) : ℤ :=
  movement.sales + movement.cashIn - movement.cashOut

def Movement.add (first second : Movement) : Movement where
  sales := first.sales + second.sales
  cashIn := first.cashIn + second.cashIn
  cashOut := first.cashOut + second.cashOut
  events := first.events + second.events

theorem Movement.net_add (first second : Movement) :
    (first.add second).net = first.net + second.net := by
  simp only [Movement.net, Movement.add]
  ring

/-- What the accepted operations of a run bring into a drawer and take out of it. -/
def movements (localBusinessDate : Timestamp → Text → Option Text) (stallId : Uuid) :
    LocalDb → List DrawerCommand → Movement
  | _, [] => .none
  | db, command :: commands =>
      (if (accept localBusinessDate db command).isSome then movement db stallId command
        else .none).add
      (movements localBusinessDate stallId (drawerStep localBusinessDate db command) commands)

/-- What the drawer of a stall expects, when there is one. -/
def expected (db : LocalDb) (stallId : Uuid) : Option ℤ :=
  (db.cashShiftSnapshot.get? stallId).map fun shift => shift.expectedAmount.getD 0

theorem expected_accept (haccept : accept localBusinessDate db command = some after) :
    expected after stallId
      = (expected db stallId).map (· + (movement db stallId command).net) := by
  unfold expected
  rcases drawer_of_accept haccept with ⟨hnone, hsame⟩ | ⟨shift, moved, hmoved⟩
  · rw [hsame, hnone]
    simp [Movement.net, Movement.none, Function.comp_def]
  · rw [hmoved.before, hmoved.after]
    simp only [Option.map_some, hmoved.moves.expectedAmount, Option.getD_some, Movement.net]
    congr 1
    ring

theorem expected_exec (localBusinessDate : Timestamp → Text → Option Text) (stallId : Uuid)
    (start : LocalDb) (commands : List DrawerCommand) :
    expected (exec (drawerStep localBusinessDate) start commands) stallId
      = (expected start stallId).map
        (· + (movements localBusinessDate stallId start commands).net) := by
  induction commands generalizing start with
  | nil => simp [movements, Movement.net, Movement.none]
  | cons command commands ih =>
      rw [exec_cons, ih, movements, Movement.net_add]
      unfold drawerStep
      cases haccept : accept localBusinessDate start command with
      | none => simp [Movement.net, Movement.none]
      | some after =>
          rw [Option.getD_some, expected_accept haccept, Option.map_map]
          simp [Function.comp_def, add_assoc]

/-! ## Runs -/

/-- In every state of the run the drawer can be read, and it expects its first amount with
the movements up to there. -/
def StaysUsable (localBusinessDate : Timestamp → Text → Option Text) (stallId : Uuid)
    (start : LocalDb) (commands : List DrawerCommand) : Prop :=
  ∀ before, before <+: commands →
    Readable (exec (drawerStep localBusinessDate) start before) stallId
      ∧ expected (exec (drawerStep localBusinessDate) start before) stallId
        = (expected start stallId).map
          (· + (movements localBusinessDate stallId start before).net)

theorem readable_exec_iff {start : LocalDb} {commands : List DrawerCommand}
    (hstart : Readable start stallId) :
    Safely (drawerStep localBusinessDate)
        (fun db command => Readable (drawerStep localBusinessDate db command) stallId)
        start commands
      ↔ Safely (drawerStep localBusinessDate) (Within localBusinessDate stallId)
        start commands :=
  Run.safely_congr (fun db => Readable db stallId)
    (fun _ _ hreadable => readable_step_iff hreadable)
    (fun _ _ hreadable hwithin => (readable_step_iff hreadable).mpr hwithin) hstart commands

/-- The drawer of a shift stays usable exactly when it can be read at the start and every
accepted operation of the run fits into it. -/
theorem staysUsable_iff {start : LocalDb} {commands : List DrawerCommand} :
    StaysUsable localBusinessDate stallId start commands
      ↔ Readable start stallId
        ∧ Safely (drawerStep localBusinessDate) (Within localBusinessDate stallId)
          start commands := by
  constructor
  · intro husable
    obtain ⟨hstart, hreadable⟩ := (forall_prefix_iff (Readable · stallId)).mp
      fun before hbefore => (husable before hbefore).1
    exact ⟨hstart, (readable_exec_iff hstart).mp hreadable⟩
  · rintro ⟨hstart, hwithin⟩ before hbefore
    have hreadable : Readable (exec (drawerStep localBusinessDate) start before) stallId := by
      revert before
      exact (forall_prefix_iff (Readable · stallId)).mpr
        ⟨hstart, (readable_exec_iff hstart).mpr hwithin⟩
    exact ⟨hreadable, expected_exec localBusinessDate stallId start before⟩

end Steps

/-! ## An empty drawer -/

/-- The device right after its bootstrap, with an empty drawer. -/
def emptyDrawer : LocalDb :=
  sampleStores.stores

def smallChange : CashEventInput where
  organizationId := 1
  stallId := 2
  eventType := .cashOut
  amount := 1
  countedAmount := none
  reason := ['C', 'h', 'a', 'n', 'g', 'e']

def smallChangeIds : CashEventIds where
  cashEventId := 300
  queueId := 301
  idempotencyKey := 302

/-- The drawer after one dollar is taken out of it. -/
def overdrawn : LocalDb :=
  exec (drawerStep LocalRun.sampleBusinessDate) emptyDrawer
    [.cashEvent smallChange smallChangeIds LocalRun.minuteMs]

/-- Taking out more than the drawer expects is accepted, and no cash sale is from then on. -/
theorem overdrawn_drawer_unusable :
    Readable emptyDrawer 2
      ∧ (createOfflineCashEvent emptyDrawer smallChange smallChangeIds
          LocalRun.minuteMs).2.isOk = true
      ∧ ¬ StaysUsable LocalRun.sampleBusinessDate 2 emptyDrawer
          [.cashEvent smallChange smallChangeIds LocalRun.minuteMs]
      ∧ (createOfflineOrder LocalRun.sampleBusinessDate overdrawn (LocalRun.sampleDraft 200)
          (LocalRun.sampleIds 100) (2 * LocalRun.minuteMs)).2
        = .error (.operation .cashShiftRequired) := by
  refine ⟨?_, by decide +kernel, ?_, by decide +kernel⟩
  · have hread : (emptyDrawer.cashShiftSnapshot.get? 2).any cashShiftSnapshotSchema = true := by
      decide +kernel
    simpa [Readable, Option.any_eq_true] using hread
  · intro husable
    obtain ⟨⟨drawer, hdrawer, hschema⟩, -⟩ := husable _ List.prefix_rfl
    have hunreadable : (overdrawn.cashShiftSnapshot.get? 2).any cashShiftSnapshotSchema
        = false := by
      decide +kernel
    have hfound : overdrawn.cashShiftSnapshot.get? 2 = some drawer := hdrawer
    rw [hfound, Option.any_some, hschema] at hunreadable
    cases hunreadable

end Stallorder.DrawerLimits
