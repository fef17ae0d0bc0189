import Stallorder.Reports.ReportDelivery

/-!
# Claimed runs that are lost

Nothing but the invocation that made a delivery ever changes it.  So a delivery
is settled in the end unless its invocation stops before it has recorded the
outcome; then it is processing for good, and the schedule has moved on.
-/

namespace Stallorder.Reports

open Checks Run ZonedClock

/-- An invocation is between the transaction of a delivery and its outcome. -/
def Holds (system : ReportSystem) (deliveryId : ℕ) : Prop :=
  ∃ invocation remaining, positionOf system invocation = some (.processing deliveryId remaining)

def Idle (system : ReportSystem) : Prop :=
  ∀ invocation, positionOf system invocation = none

/-- Some later invocation settles the delivery. -/
def Settles (system : ReportSystem) (deliveryId : ℕ) : Prop :=
  ∃ commands, ∃ delivery ∈ (exec step system commands).database.deliveries,
    delivery.id = deliveryId ∧ delivery.status ≠ .processing

/-- Without invocations in progress, whatever was claimed is settled or will be. -/
def NoneLost (system : ReportSystem) : Prop :=
  Idle system → ∀ delivery ∈ system.database.deliveries, delivery.status = .processing →
    Settles system delivery.id

/-- A run of a schedule has at most one delivery. -/
def OneDelivery (system : ReportSystem) : Prop :=
  ∀ first ∈ system.database.deliveries, ∀ second ∈ system.database.deliveries,
    first.reportScheduleId = second.reportScheduleId →
      first.scheduledFor = second.scheduledFor → first = second

/-- No invocation stops between the transaction of a delivery and its outcome. -/
def KeepsHeld (system : ReportSystem) : ReportCommand → Prop
  | .crash invocation =>
      ∀ deliveryId remaining,
        positionOf system invocation ≠ some (.processing deliveryId remaining)
  | _ => True

variable {system : ReportSystem} {database : ReportDatabase} {invocation other : ℕ}
  {position : Option Position} {delivery stored : ReportDelivery}
  {deliveries : Table ReportDelivery} {outcome : SendOutcome} {now : ℤ} {deliveryId : ℕ}
  {schedule : ReportSchedule} {remaining : List ReportSchedule}

/-! ## Positions -/

theorem positionOf_lt {found : Position} (hposition : positionOf system invocation = some found) :
    invocation < system.invocations.length := by
  by_contra hbeyond
  rw [positionOf, List.getElem?_eq_none (not_lt.mp hbeyond)] at hposition
  cases hposition

@[simp]
theorem positionOf_database (system : ReportSystem) (database : ReportDatabase)
    (invocation : ℕ) : positionOf { system with database } invocation
      = positionOf system invocation := rfl

theorem positionOf_moveTo_self (hlt : invocation < system.invocations.length) :
    positionOf (moveTo system invocation position) invocation = position := by
  simp [positionOf, moveTo, hlt]

theorem positionOf_moveTo_of_ne (hne : other ≠ invocation) :
    positionOf (moveTo system invocation position) other = positionOf system other := by
  simp [positionOf, moveTo, List.getElem?_set_ne (Ne.symm hne)]

@[simp]
theorem database_moveTo : (moveTo system invocation position).database = system.database := rfl

theorem positionOf_start (now limit : ℤ) (deliveryId : ℕ) (remaining : List ReportSchedule) :
    positionOf (step system (.start now limit)) invocation
        = some (.processing deliveryId remaining)
      ↔ positionOf system invocation = some (.processing deliveryId remaining) := by
  simp only [positionOf, step]
  rcases lt_trichotomy invocation system.invocations.length with hlt | heq | hgt
  · rw [List.getElem?_append_left hlt]
  · subst heq
    simp
  · rw [List.getElem?_eq_none (by simp; omega), List.getElem?_eq_none (by omega)]

/-! ## What a step does -/

/-- A step leaves the deliveries alone, adds one for its invocation, records the outcome of one
that its invocation holds, or lets go of one. -/
inductive Effect (system : ReportSystem) (command : ReportCommand) (after : ReportSystem) : Prop
  | quiet (hdeliveries : after.database.deliveries = system.database.deliveries)
      (hheld : ∀ id, Holds after id ↔ Holds system id)
  | claimed (new : ReportDelivery) (hprocessing : new.status = .processing)
      (hinsert : system.database.deliveries.insert? new = some after.database.deliveries)
      (hheld : ∀ id, Holds after id ↔ Holds system id ∨ id = new.id)
  | settled (deliveryId : ℕ) (outcome : SendOutcome) (now : ℤ) (hholds : Holds system deliveryId)
      (hupdate : after.database.deliveries = system.database.deliveries.update deliveryId
        (recordOutcome outcome now) collides_recordOutcome)
      (hfewer : ∀ id, Holds after id → Holds system id)
      (hothers : ∀ id, id ≠ deliveryId → Holds system id → Holds after id)
  | dropped (deliveryId : ℕ)
      (hdeliveries : after.database.deliveries = system.database.deliveries)
      (hfewer : ∀ id, Holds after id → Holds system id)
      (hothers : ∀ id, id ≠ deliveryId → Holds system id → Holds after id)
      (hcause : KeepsHeld system command → ∀ delivery ∈ system.database.deliveries,
        delivery.id = deliveryId → delivery.status ≠ .processing)

/-- What is held after an invocation moves to a position that holds nothing. -/
theorem holds_moveTo_of_claiming
    (hposition : ∀ id remaining, position ≠ some (.processing id remaining)) (id : ℕ) :
    Holds (moveTo system invocation position) id
      ↔ ∃ other remaining, other ≠ invocation
        ∧ positionOf system other = some (.processing id remaining) := by
  constructor
  · rintro ⟨other, remaining, hother⟩
    by_cases hsame : other = invocation
    · subst hsame
      have hlt := positionOf_lt hother
      rw [positionOf_moveTo_self (by simpa [moveTo] using hlt)] at hother
      exact absurd hother (hposition id remaining)
    · rw [positionOf_moveTo_of_ne hsame] at hother
      exact ⟨other, remaining, hsame, hother⟩
  · rintro ⟨other, remaining, hne, hother⟩
    exact ⟨other, remaining, by rwa [positionOf_moveTo_of_ne hne]⟩

/-- An invocation that held nothing still does not. -/
theorem holds_moveTo_iff (hbefore : ∀ id remaining,
      positionOf system invocation ≠ some (.processing id remaining))
    (hposition : ∀ id remaining, position ≠ some (.processing id remaining)) (id : ℕ) :
    Holds (moveTo system invocation position) id ↔ Holds system id := by
  rw [holds_moveTo_of_claiming hposition]
  constructor
  · rintro ⟨other, remaining, -, hother⟩
    exact ⟨other, remaining, hother⟩
  · rintro ⟨other, remaining, hother⟩
    refine ⟨other, remaining, ?_, hother⟩
    rintro rfl
    exact hbefore id remaining hother

theorem holds_moveTo_processing (hbefore : ∀ id remaining,
      positionOf system invocation ≠ some (.processing id remaining))
    (hlt : invocation < system.invocations.length) (id : ℕ) :
    Holds (moveTo system invocation (some (.processing deliveryId remaining))) id
      ↔ Holds system id ∨ id = deliveryId := by
  constructor
  · rintro ⟨other, left, hother⟩
    by_cases hsame : other = invocation
    · subst hsame
      rw [positionOf_moveTo_self hlt] at hother
      cases hother
      exact .inr rfl
    · rw [positionOf_moveTo_of_ne hsame] at hother
      exact .inl ⟨other, left, hother⟩
  · rintro (⟨other, left, hother⟩ | rfl)
    · refine ⟨other, left, ?_⟩
      rw [positionOf_moveTo_of_ne]
      · exact hother
      · rintro rfl
        exact hbefore id left hother
    · exact ⟨invocation, remaining, positionOf_moveTo_self hlt⟩

theorem inserted_of_claimRun {schedule : ReportSchedule}
    (hclaim : claimRun schedule deliveryId system.database = .ok (some database)) :
    system.database.deliveries.insert? (newDelivery schedule deliveryId)
      = some database.deliveries := by
  obtain ⟨nextRunAt, -, hclaim⟩ := bind_eq_ok.mp hclaim
  cases hstored : system.database.schedules.get? schedule.id with
  | none =>
      rw [hstored] at hclaim
      cases hclaim
  | some stored =>
      simp only [hstored] at hclaim
      split at hclaim
      · obtain ⟨deliveries, hinsert, hclaim⟩ := bind_eq_ok.mp hclaim
        cases hclaim
        exact orFail_eq_ok.mp hinsert
      · cases hclaim

theorem updated_of_process
    (hprocess : processReportDelivery deliveryId outcome now system.database.deliveries
      = .ok deliveries) :
    deliveries = system.database.deliveries.update deliveryId (recordOutcome outcome now)
      collides_recordOutcome := by
  obtain ⟨delivery, -, hprocess⟩ := bind_eq_ok.mp hprocess
  obtain ⟨-, -, hprocess⟩ := bind_eq_ok.mp hprocess
  cases hprocess
  rfl

/-- Only a delivery that is processing is worked on. -/
theorem not_processing_of_error {error : ReportError}
    (hprocess : processReportDelivery deliveryId outcome now system.database.deliveries
      = .error error) (hdelivery : delivery ∈ system.database.deliveries)
    (hid : delivery.id = deliveryId) : delivery.status ≠ .processing := by
  intro hprocessing
  have hfound : system.database.deliveries.get? deliveryId = some delivery := by
    rw [← hid]
    exact Table.get?_of_mem hdelivery
  unfold processReportDelivery at hprocess
  rw [hfound] at hprocess
  simp [orFail, failWhen, hprocessing, bind, Except.bind, pure, Except.pure] at hprocess

theorem effect_moveTo (command : ReportCommand) (hbefore : ∀ id remaining,
      positionOf system invocation ≠ some (.processing id remaining))
    (hposition : ∀ id remaining, position ≠ some (.processing id remaining)) :
    Effect system command (moveTo system invocation position) :=
  .quiet rfl (holds_moveTo_iff hbefore hposition)

/-- What an invocation held it holds no more. -/
theorem fewer_of_moveTo
    (hposition : ∀ id remaining, position ≠ some (.processing id remaining)) (id : ℕ)
    (hholds : Holds (moveTo system invocation position) id) : Holds system id := by
  obtain ⟨other, remaining, -, hother⟩ := (holds_moveTo_of_claiming hposition id).mp hholds
  exact ⟨other, remaining, hother⟩

theorem others_of_moveTo
    (hbefore : positionOf system invocation = some (.processing deliveryId remaining))
    (hposition : ∀ id remaining, position ≠ some (.processing id remaining)) (id : ℕ)
    (hne : id ≠ deliveryId) (hholds : Holds system id) :
    Holds (moveTo system invocation position) id := by
  obtain ⟨other, left, hother⟩ := hholds
  refine (holds_moveTo_of_claiming hposition id).mpr ⟨other, left, ?_, hother⟩
  rintro rfl
  rw [hbefore] at hother
  cases hother
  exact hne rfl

theorem effect_claim (system : ReportSystem) (invocation deliveryId : ℕ) :
    Effect system (.claim invocation deliveryId)
      (step system (.claim invocation deliveryId)) := by
  cases hposition : positionOf system invocation with
  | none =>
      simp only [step, hposition]
      exact .quiet rfl fun id => Iff.rfl
  | some found =>
      cases found with
      | processing held remaining =>
          simp only [step, hposition]
          exact .quiet rfl fun id => Iff.rfl
      | claiming waiting =>
          have hbefore : ∀ id remaining,
              positionOf system invocation ≠ some (.processing id remaining) := by
            intro id remaining
            rw [hposition]
            simp
          cases waiting with
          | nil =>
              simp only [step, hposition]
              exact effect_moveTo _ hbefore (by simp)
          | cons schedule remaining =>
              cases hclaim : claimRun schedule deliveryId system.database with
              | error error =>
                  simp only [step, hposition, hclaim]
                  exact effect_moveTo _ hbefore (by simp)
              | ok result =>
                  cases result with
                  | none =>
                      simp only [step, hposition, hclaim]
                      exact effect_moveTo _ hbefore (by simp)
                  | some database =>
                      simp only [step, hposition, hclaim]
                      refine .claimed (newDelivery schedule deliveryId) rfl
                        (inserted_of_claimRun hclaim) fun id => ?_
                      exact @holds_moveTo_processing { system with database := database } _ _ _
                        hbefore (positionOf_lt hposition) id

theorem effect_process (system : ReportSystem) (invocation : ℕ) (outcome : SendOutcome)
    (now : ℤ) :
    Effect system (.process invocation outcome now)
      (step system (.process invocation outcome now)) := by
  cases hposition : positionOf system invocation with
  | none =>
      simp only [step, hposition]
      exact .quiet rfl fun id => Iff.rfl
  | some found =>
      cases found with
      | claiming waiting =>
          simp only [step, hposition]
          exact .quiet rfl fun id => Iff.rfl
      | processing deliveryId remaining =>
          cases hprocess : processReportDelivery deliveryId outcome now
              system.database.deliveries with
          | error error =>
              simp only [step, hposition, hprocess]
              exact .dropped deliveryId rfl (fewer_of_moveTo (by simp))
                (others_of_moveTo hposition (by simp))
                fun _ delivery hdelivery hid => not_processing_of_error hprocess hdelivery hid
          | ok deliveries =>
              simp only [step, hposition, hprocess]
              let recorded : ReportSystem :=
                { system with database := { system.database with deliveries := deliveries } }
              exact .settled deliveryId outcome now ⟨invocation, remaining, hposition⟩
                (updated_of_process hprocess)
                (@fewer_of_moveTo recorded _ _ (by simp))
                (@others_of_moveTo recorded _ _ _ _ hposition (by simp))

theorem effect_step (system : ReportSystem) (command : ReportCommand) :
    Effect system command (step system command) := by
  cases command with
  | start now limit =>
      refine .quiet rfl fun id => ?_
      exact exists_congr fun invocation => exists_congr fun remaining =>
        positionOf_start now limit id remaining
  | claim invocation deliveryId => exact effect_claim system invocation deliveryId
  | process invocation outcome now => exact effect_process system invocation outcome now
  | crash invocation =>
      by_cases hheld : ∃ id remaining,
          positionOf system invocation = some (.processing id remaining)
      · obtain ⟨deliveryId, remaining, hposition⟩ := hheld
        exact .dropped deliveryId rfl (fewer_of_moveTo (by simp))
          (others_of_moveTo hposition (by simp))
          fun hkeeps => absurd hposition (hkeeps deliveryId remaining)
      · exact effect_moveTo _ (fun id remaining hposition => hheld ⟨id, remaining, hposition⟩)
          (by simp)

/-! ## Runs without such a stop -/

/-- Every delivery that is processing is held by an invocation. -/
def AllHeld (system : ReportSystem) : Prop :=
  ∀ delivery ∈ system.database.deliveries, delivery.status = .processing →
    Holds system delivery.id

theorem recordOutcome_status_ne (outcome : SendOutcome) (now : ℤ) (delivery : ReportDelivery) :
    (recordOutcome outcome now delivery).status ≠ .processing := by
  cases outcome with
  | error message => simp [recordOutcome]
  | ok result =>
      simp only [recordOutcome]
      split_ifs <;> simp

theorem allHeld_step {command : ReportCommand} (hall : AllHeld system)
    (hkeeps : KeepsHeld system command) : AllHeld (step system command) := by
  intro delivery hdelivery hprocessing
  cases effect_step system command with
  | quiet hdeliveries hheld =>
      rw [hdeliveries] at hdelivery
      exact (hheld _).mpr (hall delivery hdelivery hprocessing)
  | claimed new hnew hinsert hheld =>
      rcases (Table.mem_of_insert? hinsert).mp hdelivery with hold | rfl
      · exact (hheld _).mpr (.inl (hall delivery hold hprocessing))
      · exact (hheld _).mpr (.inr rfl)
  | settled deliveryId outcome now hholds hupdate hfewer hothers =>
      rw [hupdate] at hdelivery
      rcases Table.mem_update.mp hdelivery with ⟨before, -, -, rfl⟩ | ⟨hold, hne⟩
      · exact absurd hprocessing (recordOutcome_status_ne outcome now before)
      · exact hothers _ hne (hall delivery hold hprocessing)
  | dropped deliveryId hdeliveries hfewer hothers hcause =>
      rw [hdeliveries] at hdelivery
      refine hothers _ (fun hid => ?_) (hall delivery hdelivery hprocessing)
      exact hcause hkeeps delivery hdelivery hid hprocessing

theorem noneLost_of_allHeld (hall : AllHeld system) : NoneLost system := by
  intro hidle delivery hdelivery hprocessing
  obtain ⟨invocation, remaining, hposition⟩ := hall delivery hdelivery hprocessing
  rw [hidle invocation] at hposition
  cases hposition

theorem oneDelivery (system : ReportSystem) : OneDelivery system := by
  intro first hfirst second hsecond hschedule hrun
  refine Table.eq_of_collides hfirst hsecond (Indexed.collides_addUnique_iff.mpr (.inr ?_))
  exact ⟨(first.reportScheduleId, first.scheduledFor), rfl, by rw [hschedule, hrun]⟩

/-- Whatever invocations overlap and stop, as long as none stops while it holds a delivery. -/
theorem noneLost_of_keepsHeld (schedules : Table ReportSchedule) (commands : List ReportCommand)
    (hkeeps : Safely step KeepsHeld (opened schedules) commands) :
    OneDelivery (exec step (opened schedules) commands)
      ∧ NoneLost (exec step (opened schedules) commands) := by
  have hopened : AllHeld (opened schedules) := fun delivery hdelivery =>
    absurd hdelivery (Table.notMem_empty delivery)
  have hall : AllHeld (exec step (opened schedules) commands) :=
    invariant_of_safely AllHeld (fun _ _ hall hkeeps => allHeld_step hall hkeeps) hopened hkeeps
  exact ⟨oneDelivery _, noneLost_of_allHeld hall⟩

/-! ## A delivery that is let go -/

/-- A delivery that is processing while nobody holds it. -/
def Lost (delivery : ReportDelivery) (system : ReportSystem) : Prop :=
  delivery ∈ system.database.deliveries ∧ delivery.status = .processing
    ∧ ¬Holds system delivery.id

theorem lost_step (command : ReportCommand) (hlost : Lost delivery system) :
    Lost delivery (step system command) := by
  obtain ⟨hdelivery, hprocessing, hfree⟩ := hlost
  cases effect_step system command with
  | quiet hdeliveries hheld =>
      exact ⟨hdeliveries ▸ hdelivery, hprocessing, fun hholds => hfree ((hheld _).mp hholds)⟩
  | claimed new hnew hinsert hheld =>
      refine ⟨(Table.mem_of_insert? hinsert).mpr (.inl hdelivery), hprocessing, fun hholds => ?_⟩
      rcases (hheld _).mp hholds with hbefore | hid
      · exact hfree hbefore
      · exact Table.not_collides_of_insert? hinsert hdelivery
          (Indexed.collides_of_key_eq hid)
  | settled deliveryId outcome now hholds hupdate hfewer hothers =>
      have hne : delivery.id ≠ deliveryId := by
        rintro rfl
        exact hfree hholds
      exact ⟨hupdate ▸ Table.mem_update_of_ne hdelivery hne, hprocessing,
        fun hheld => hfree (hfewer _ hheld)⟩
  | dropped deliveryId hdeliveries hfewer hothers hcause =>
      exact ⟨hdeliveries ▸ hdelivery, hprocessing, fun hheld => hfree (hfewer _ hheld)⟩

/-- No later invocation takes up what was let go. -/
theorem not_settles_of_lost (hlost : Lost delivery system) : ¬Settles system delivery.id := by
  rintro ⟨commands, settled, hsettled, hid, hstatus⟩
  obtain ⟨hdelivery, hprocessing, -⟩ :=
    invariant_exec (Lost delivery) (fun _ command hlost => lost_step command hlost) hlost commands
  rw [Table.eq_of_key_eq hsettled hdelivery hid] at hstatus
  exact hstatus hprocessing

/-! ## One schedule, one invocation -/

def utc : GradualZone where
  toTimeZone := TimeZone.switching 0 0 0 (by decide) (by decide) (by decide) (by decide)
  step_le instant := by simp [TimeZone.switching]

/-- Every day at eight, next on the first of January 2026. -/
def morningReport : ReportSchedule where
  id := 1
  time := .daily utc 8 0 (by decide) (by decide)
  isEnabled := true
  nextRunAt := 1_767_254_400_000
  lastRunAt := none
  archivedAt := none

def oneSchedule : Table ReportSchedule where
  rows := [morningReport]
  unique := List.pairwise_singleton _ _

/-- The invocation stops as soon as the transaction of the delivery has committed. -/
def crashedRun : List ReportCommand :=
  [.start 1_767_254_400_000 20, .claim 0 7, .crash 0]

theorem crashedRun_not_noneLost : ¬NoneLost (exec step (opened oneSchedule) crashedRun) := by
  have hinvocations : (exec step (opened oneSchedule) crashedRun).invocations = [none] := by rfl
  have hrows : (exec step (opened oneSchedule) crashedRun).database.deliveries.rows
      = [newDelivery morningReport 7] := by rfl
  have hidle : Idle (exec step (opened oneSchedule) crashedRun) := by
    intro invocation
    rw [positionOf, hinvocations]
    cases invocation <;> rfl
  have hmem : newDelivery morningReport 7
      ∈ (exec step (opened oneSchedule) crashedRun).database.deliveries := by
    rw [Table.mem_iff, hrows]
    exact List.mem_singleton_self _
  intro hnone
  refine not_settles_of_lost ⟨hmem, rfl, ?_⟩ (hnone hidle _ hmem rfl)
  rintro ⟨invocation, remaining, hposition⟩
  rw [hidle invocation] at hposition
  cases hposition

/-- The invocation stops after it has recorded the outcome. -/
def settledRun : List ReportCommand :=
  [.start 1_767_254_400_000 20, .claim 0 7,
    .process 0 (.ok ⟨true, "simulated:7".toList⟩) 1_767_254_401_000, .crash 0]

theorem settledRun_noneLost :
    OneDelivery (exec step (opened oneSchedule) settledRun)
      ∧ NoneLost (exec step (opened oneSchedule) settledRun) := by
  refine noneLost_of_keepsHeld oneSchedule settledRun ⟨trivial, trivial, trivial, ?_, trivial⟩
  intro deliveryId remaining hposition
  have hclaiming : positionOf (exec step (opened oneSchedule) (settledRun.take 3)) 0
      = some (.claiming []) := by rfl
  exact absurd (hclaiming.symm.trans hposition) (by simp)

end Stallorder.Reports
