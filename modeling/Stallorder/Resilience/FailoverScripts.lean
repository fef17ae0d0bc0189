import Stallorder.Core.Run
import Stallorder.Resilience.BackendRuntime

/-!
# The failover scripts

Operators move the writer between the primary and the standby database with
scripts.  Each script reads the runtime states of both databases, one after the
other, and then changes them in transactions of one database.  Any number of
scripts may be under way, and each of them may stop after any of its steps.
-/

namespace Stallorder.FailoverScripts

open BackendRuntime

/-- The two databases. -/
structure Backends where
  primary : RuntimeTable
  dr : RuntimeTable
  deriving DecidableEq

def Backends.database (backends : Backends) : BackendCode → RuntimeTable
  | .primary => backends.primary
  | .dr => backends.dr

def Backends.setDatabase (backends : Backends) (code : BackendCode) (table : RuntimeTable) :
    Backends :=
  match code with
  | .primary => { backends with primary := table }
  | .dr => { backends with dr := table }

/-! ## Scripts under way -/

inductive Script
  | prepareDrFailover
  | rollbackPrimaryFreeze
  | promoteDr
  | preparePrimaryFailback
  | rollbackDrFreeze
  | promotePrimary
  deriving DecidableEq

/-- What a script has read of the two databases. -/
structure Readings where
  primary : Option CurrentState
  dr : Option CurrentState
  deriving DecidableEq

def Readings.none : Readings := ⟨Option.none, Option.none⟩

def Readings.add (readings : Readings) (code : BackendCode) (state : CurrentState) : Readings :=
  match code with
  | .primary => { readings with primary := some state }
  | .dr => { readings with dr := some state }

inductive Answer
  | done
  | blocked
  | failed
  | stopped
  deriving DecidableEq

inductive Stage
  | preflight
  | reading (readings : Readings)
  | standbyConfigured (primaryBefore : CurrentState)
  | inspecting (readings : Readings)
  | demoting (drRuntime : CurrentState) (epoch : ℕ)
  | ended (answer : Answer)
  deriving DecidableEq

structure RunningScript where
  script : Script
  reason : Text
  stage : Stage
  deriving DecidableEq

/-- Only the preparation of a failover is preceded by a check of its own. -/
def begun (script : Script) (reason : Text) : RunningScript where
  script := script
  reason := reason
  stage := if script = .prepareDrFailover then .preflight else .reading .none

/-! ## What a script does next -/

/-- A script goes on, or it changes a database and goes on when that succeeds. -/
inductive Plan
  | goOn (stage : Stage)
  | transition (database : BackendCode) (input : TransitionInput) (next : Stage)
  deriving DecidableEq

def maxSafeInteger : ℕ := 9_007_199_254_740_991

def nextPromotionEpoch (first second : ℕ) : Option ℕ :=
  if 1 ≤ first ∧ first ≤ maxSafeInteger ∧ 1 ≤ second ∧ second ≤ maxSafeInteger then
    some (max first second + 1)
  else Option.none

/-- The runtime states that the readiness of the standby demands. -/
def drReadiness (requirePrimaryFrozen : Bool) (primary dr : CurrentState) : Bool :=
  primary.backendCode = .primary && primary.enforcementEnabled
    && (if requirePrimaryFrozen then primary.backendRole = .sealed && !primary.writesEnabled
      else primary.backendRole = .activeWriter && primary.writesEnabled)
    && dr.backendCode = .dr && dr.backendRole = .readOnlyStandby && !dr.writesEnabled
    && dr.enforcementEnabled

/-- The runtime states that the readiness of a failback demands. -/
def failbackReadiness (requireDrFrozen : Bool) (primary dr : CurrentState) : Bool :=
  primary.backendCode = .primary && primary.enforcementEnabled
    && (primary.backendRole = .sealed || primary.backendRole = .readOnlyStandby)
    && !primary.writesEnabled && dr.backendCode = .dr && dr.enforcementEnabled
    && (if requireDrFrozen then dr.backendRole = .sealed && !dr.writesEnabled
      else dr.backendRole = .activeWriter && dr.writesEnabled)

/-- Change the role of a database that is known by its code and epoch. -/
def changeRole (code : BackendCode) (expectedEpoch : ℕ) (role : BackendRole) (epoch : ℕ)
    (reason : Text) : TransitionInput where
  expectedBackendCode := code
  expectedPromotionEpoch := expectedEpoch
  targetBackendCode := code
  targetBackendRole := role
  targetPromotionEpoch := epoch
  transitionReason := reason

section Plans

variable (reason : Text) (checksReady : Bool) (primary dr : CurrentState)

def planPrepareDrFailover : Plan :=
  if primary.backendCode ≠ .primary ∨ primary.backendRole ≠ .activeWriter then
    .goOn (.ended .failed)
  else if dr.backendCode = .dr ∧ dr.promotionEpoch ≠ primary.promotionEpoch then
    .goOn (.ended .failed)
  else
    .transition .dr
      { changeRole .dr dr.promotionEpoch .readOnlyStandby primary.promotionEpoch reason with
        expectedBackendCode := dr.backendCode }
      (.standbyConfigured primary)

def planRollbackPrimaryFreeze : Plan :=
  if primary.backendCode ≠ .primary ∨ primary.backendRole ≠ .sealed ∨ dr.backendCode ≠ .dr
      ∨ dr.backendRole = .activeWriter then
    .goOn (.ended .failed)
  else
    .transition .primary (changeRole .primary primary.promotionEpoch .activeWriter
      primary.promotionEpoch reason) (.ended .done)

def planPromoteDr : Plan :=
  if !(checksReady && drReadiness true primary dr) then .goOn (.ended .blocked)
  else
    match nextPromotionEpoch primary.promotionEpoch dr.promotionEpoch with
    | Option.none => .goOn (.ended .failed)
    | some epoch =>
        .transition .dr (changeRole .dr dr.promotionEpoch .activeWriter epoch reason)
          (.ended .done)

def planFailbackPreflight : Plan :=
  if !(checksReady && failbackReadiness false primary dr) then .goOn (.ended .blocked)
  else .goOn (.inspecting .none)

def planRollbackDrFreeze : Plan :=
  if dr.backendCode ≠ .dr ∨ dr.backendRole ≠ .sealed ∨ primary.backendRole = .activeWriter then
    .goOn (.ended .failed)
  else
    .transition .dr (changeRole .dr dr.promotionEpoch .activeWriter dr.promotionEpoch reason)
      (.ended .done)

def planPromotePrimary : Plan :=
  if !(checksReady && failbackReadiness true primary dr) then .goOn (.ended .blocked)
  else
    match nextPromotionEpoch primary.promotionEpoch dr.promotionEpoch with
    | Option.none => .goOn (.ended .failed)
    | some epoch =>
        .transition .primary (changeRole .primary primary.promotionEpoch .activeWriter epoch
          reason) (.demoting dr epoch)

/-- The freeze of the primary at the end of the preparation of a failover. -/
def planPrimaryFreeze : Plan :=
  if !(checksReady && drReadiness false primary dr) then .goOn (.ended .blocked)
  else
    .transition .primary (changeRole .primary primary.promotionEpoch .sealed
      primary.promotionEpoch reason) (.ended .done)

/-- The freeze of the standby at the end of the preparation of a failback. -/
def planDrFreeze : Plan :=
  if !(checksReady && failbackReadiness false primary dr) then .goOn (.ended .blocked)
  else
    .transition .dr (changeRole .dr dr.promotionEpoch .sealed dr.promotionEpoch reason)
      (.ended .done)

end Plans

/-- What a script does next, where `checksReady` says whether all its other checks are green:
nothing while it has not read both databases. -/
def plan (running : RunningScript) (checksReady : Bool) : Option Plan :=
  match running.stage with
  | .preflight => some (.goOn (if checksReady then .reading .none else .ended .blocked))
  | .reading ⟨some primary, some dr⟩ =>
      some (match running.script with
        | .prepareDrFailover => planPrepareDrFailover running.reason primary dr
        | .rollbackPrimaryFreeze => planRollbackPrimaryFreeze running.reason primary dr
        | .promoteDr => planPromoteDr running.reason checksReady primary dr
        | .preparePrimaryFailback => planFailbackPreflight checksReady primary dr
        | .rollbackDrFreeze => planRollbackDrFreeze running.reason primary dr
        | .promotePrimary => planPromotePrimary running.reason checksReady primary dr)
  | .standbyConfigured primaryBefore =>
      some (.transition .primary (changeRole .primary primaryBefore.promotionEpoch .activeWriter
        primaryBefore.promotionEpoch running.reason) (.inspecting .none))
  | .inspecting ⟨some primary, some dr⟩ =>
      some (if running.script = .prepareDrFailover then
        planPrimaryFreeze running.reason checksReady primary dr
      else planDrFreeze running.reason checksReady primary dr)
  | .demoting drRuntime epoch =>
      some (.transition .dr (changeRole .dr drRuntime.promotionEpoch .readOnlyStandby epoch
        running.reason) (.ended .done))
  | _ => Option.none

/-! ## Runs -/

structure FailoverSystem where
  backends : Backends
  scripts : List RunningScript
  deriving DecidableEq

inductive FailoverCommand
  | start (script : Script) (reason : Text)
  | read (position : ℕ) (database : BackendCode)
  | proceed (position : ℕ) (checksReady : Bool)
  | stop (position : ℕ)
  deriving DecidableEq

/-- A script reads a database, unless it has nothing to read. -/
def readState (backends : Backends) (database : BackendCode) (running : RunningScript) : Stage :=
  match running.stage, (backends.database database).currentState with
  | .reading readings, some state => .reading (readings.add database state)
  | .inspecting readings, some state => .inspecting (readings.add database state)
  | .reading _, Option.none | .inspecting _, Option.none => .ended .failed
  | stage, _ => stage

/-- A transition that fails ends its script. -/
def execute (backends : Backends) : Plan → Backends × Stage
  | .goOn stage => (backends, stage)
  | .transition database input next =>
      match transitionBackendRuntime (backends.database database) input with
      | .ok table => (backends.setDatabase database table, next)
      | .error _ => (backends, .ended .failed)

def RunningScript.isEnded (running : RunningScript) : Bool :=
  match running.stage with
  | .ended _ => true
  | _ => false

def FailoverSystem.setStage (system : FailoverSystem) (position : ℕ) (running : RunningScript)
    (stage : Stage) : FailoverSystem :=
  { system with scripts := system.scripts.set position { running with stage } }

def step (system : FailoverSystem) : FailoverCommand → FailoverSystem
  | .start script reason => { system with scripts := system.scripts ++ [begun script reason] }
  | .read position database =>
      match system.scripts[position]? with
      | some running =>
          system.setStage position running (readState system.backends database running)
      | Option.none => system
  | .proceed position checksReady =>
      match system.scripts[position]? with
      | some running =>
          match plan running checksReady with
          | some next =>
              let (backends, stage) := execute system.backends next
              { system with backends }.setStage position running stage
          | Option.none => system
      | Option.none => system
  | .stop position =>
      match system.scripts[position]? with
      | some running =>
          if running.isEnded then system else system.setStage position running (.ended .stopped)
      | Option.none => system

/-- A script reads both databases and goes on, with all its other checks green. -/
def lookAndProceed (position : ℕ) : List FailoverCommand :=
  [.read position .primary, .read position .dr, .proceed position true]

/-! ## The start -/

/-- The table as the migrations leave it. -/
def migratedTable : RuntimeTable where
  primary := some ⟨.activeWriter, 1, true, false⟩
  dr := some ⟨.readOnlyStandby, 1, false, false⟩
  current := some .primary

/-- Both databases as `initialize-production-dr` leaves them: they know who they are and enforce
it. -/
def initialized : Backends where
  primary := { migratedTable with primary := some ⟨.activeWriter, 1, true, true⟩ }
  dr := {
    primary := some ⟨.disabled, 1, false, false⟩
    dr := some ⟨.readOnlyStandby, 1, false, true⟩
    current := some .dr }

/-- The databases are initialized by two transitions. -/
theorem initialized_by_transitions (reason : Text)
    (hlength : SqlText.trimmedLength reason 10 500 = true) :
    transitionBackendRuntime migratedTable
        (changeRole .primary 1 .activeWriter 1 reason) = .ok initialized.primary
      ∧ transitionBackendRuntime migratedTable
        { changeRole .dr 1 .readOnlyStandby 1 reason with expectedBackendCode := .primary }
          = .ok initialized.dr := by
  simp only [SqlText.trimmedLength, Bool.and_eq_true, decide_eq_true_eq] at hlength
  have hcheck : reasonCheck reason = true := by
    simp only [reasonCheck, SqlText.trimmedLength, Bool.and_eq_true, decide_eq_true_eq]
    omega
  have hreason : SqlText.trimmedLength reason 10 1000 = true := by
    simp only [SqlText.trimmedLength, Bool.and_eq_true, decide_eq_true_eq]
    omega
  constructor
  · simp [transitionBackendRuntime, migratedTable, RuntimeTable.currentState, RuntimeTable.row,
      changeRole, checkTarget, hcheck, hreason, transitionedRow, RuntimeTable.setRow, initialized]
  · simp [transitionBackendRuntime, migratedTable, RuntimeTable.currentState, RuntimeTable.row,
      changeRole, checkTarget, hcheck, hreason, transitionedRow, retiredRow, RuntimeTable.setRow,
      initialized]

def sampleReason : Text := "The region is lost.".toList

/-- The state that runs start from: `initialize-production-dr` has ended and no script is under
way. -/
def FailoverSystem.opened : FailoverSystem := ⟨initialized, []⟩

end Stallorder.FailoverScripts
