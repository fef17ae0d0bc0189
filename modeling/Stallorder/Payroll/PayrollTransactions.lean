import Stallorder.Core.Parties
import Stallorder.Core.Run
import Stallorder.Payroll.WorkforceCalculator

/-!
# The transactions of a payroll period

A payroll period is generated in a serializable transaction, which reads one
snapshot, deletes the lines that it sees and inserts the new ones.  It is
finalized by one update of its row.  A statement waits for the transactions in
progress that have written what it writes, and its transaction aborts when a row
that it writes has changed since the snapshot, or when the row of the period has
changed before lines are inserted for it.
-/

namespace Stallorder.PayrollTransactions

open Payroll

/-! ## Periods and lines -/

inductive PeriodStatus
  | draft
  | finalized
  | void
  deriving DecidableEq

structure PayrollPeriod where
  status : PeriodStatus
  /-- How often the row has been changed. -/
  version : ℕ
  deriving DecidableEq

structure PayrollLineRow (Date : Type) where
  id : ℕ
  line : PayrollLine Date

/-- What a transaction sees. -/
structure Snapshot (Date : Type) where
  period : Option PayrollPeriod
  lines : List (PayrollLineRow Date)

/-! ## Transactions in progress -/

inductive GenerateAnswer
  | done
  | payrollFinalized
  /-- A statement has failed, and the transaction is rolled back. -/
  | aborted
  deriving DecidableEq

inductive GenerateStage (Date : Type)
  | begun
  | read (snapshot : Snapshot Date)
  | created (snapshot : Snapshot Date)
  | deleted (snapshot : Snapshot Date)
  | inserted (snapshot : Snapshot Date) (rows : List (PayrollLineRow Date))
  | ended (answer : GenerateAnswer)

/-- A transaction that replaces the lines of the period by those of a preview. -/
structure Generation (Date : Type) where
  payrollPreview : List (PayrollLine Date)
  stage : GenerateStage Date

inductive FinalizeAnswer
  | done
  | payrollEmpty
  | payrollNotFinalizable
  deriving DecidableEq

inductive FinalizeStage
  | begun
  | counted
  | ended (answer : FinalizeAnswer)
  deriving DecidableEq

structure PayrollState (Date : Type) where
  period : Option PayrollPeriod
  lines : List (PayrollLineRow Date)
  nextId : ℕ
  generations : List (Generation Date)
  finalizations : List FinalizeStage

def PayrollState.opened (Date : Type) : PayrollState Date where
  period := none
  lines := []
  nextId := 0
  generations := []
  finalizations := []

variable {Date : Type}

/-! ## What a transaction has written -/

/-- The lines that a transaction in progress has deleted. -/
def deletedLines (generation : Generation Date) : List (PayrollLineRow Date) :=
  match generation.stage with
  | .deleted snapshot | .inserted snapshot _ => snapshot.lines
  | _ => []

/-- The lines that a transaction in progress has inserted. -/
def insertedLines (generation : Generation Date) : List (PayrollLineRow Date) :=
  match generation.stage with
  | .inserted _ rows => rows
  | _ => []

/-- The transaction in progress has inserted the row of the period. -/
def createsPeriod (generation : Generation Date) : Bool :=
  match generation.stage with
  | .created _ => true
  | .deleted snapshot | .inserted snapshot _ => snapshot.period.isNone
  | _ => false

/-- The transactions in progress but the one at a position. -/
def otherGenerations (state : PayrollState Date) (position : ℕ) : List (Generation Date) :=
  state.generations.eraseIdx position

def hasId (rows : List (PayrollLineRow Date)) (row : PayrollLineRow Date) : Bool :=
  rows.any (·.id = row.id)

def hasProfile (rows : List (PayrollLineRow Date)) (line : PayrollLine Date) : Bool :=
  rows.any (·.line.profileId = line.profileId)

/-! ## The statements -/

def findPeriod (state : PayrollState Date) : PayrollState Date × GenerateStage Date :=
  if state.period.any (·.status = .finalized) then (state, .ended .payrollFinalized)
  else (state, .read ⟨state.period, state.lines⟩)

/-- The period is unique, so its row can only be inserted once.  A statement that waits
leaves its transaction where it is. -/
def createPeriod (state : PayrollState Date) (position : ℕ) (snapshot : Snapshot Date) :
    PayrollState Date × GenerateStage Date :=
  if (otherGenerations state position).any createsPeriod then (state, .read snapshot)
  else if state.period.isSome then (state, .ended .aborted)
  else (state, .created snapshot)

def deleteLines (state : PayrollState Date) (position : ℕ) (waiting : GenerateStage Date)
    (snapshot : Snapshot Date) : PayrollState Date × GenerateStage Date :=
  if snapshot.lines.any fun row =>
      (otherGenerations state position).any fun other => hasId (deletedLines other) row then
    (state, waiting)
  else if snapshot.lines.any (!hasId state.lines ·) then (state, .ended .aborted)
  else (state, .deleted snapshot)

/-- The lines of the preview with new identifiers. -/
def newRows (nextId : ℕ) (preview : List (PayrollLine Date)) : List (PayrollLineRow Date) :=
  preview.mapIdx fun index line => ⟨nextId + index, line⟩

/-- There is one line for each staff member. -/
def insertLines (state : PayrollState Date) (position : ℕ) (preview : List (PayrollLine Date))
    (snapshot : Snapshot Date) : PayrollState Date × GenerateStage Date :=
  let others := otherGenerations state position
  let remaining := state.lines.filter (!hasId snapshot.lines ·)
  if preview.any fun line => others.any fun other =>
      hasProfile (deletedLines other) line || hasProfile (insertedLines other) line then
    (state, .deleted snapshot)
  else if snapshot.period.isSome && state.period ≠ snapshot.period then (state, .ended .aborted)
  else if preview.any (hasProfile remaining) then (state, .ended .aborted)
  else ({ state with nextId := state.nextId + preview.length },
    .inserted snapshot (newRows state.nextId preview))

def commit (state : PayrollState Date) (snapshot : Snapshot Date)
    (rows : List (PayrollLineRow Date)) : PayrollState Date × GenerateStage Date :=
  ({ state with
    period := if snapshot.period.isNone then some ⟨.draft, 0⟩ else state.period
    lines := state.lines.filter (!hasId snapshot.lines ·) ++ rows }, .ended .done)

def generateStep (state : PayrollState Date) (position : ℕ) (generation : Generation Date) :
    PayrollState Date × GenerateStage Date :=
  match generation.stage with
  | .begun => findPeriod state
  | .read snapshot =>
      if snapshot.period.isNone then createPeriod state position snapshot
      else deleteLines state position (.read snapshot) snapshot
  | .created snapshot => deleteLines state position (.created snapshot) snapshot
  | .deleted snapshot =>
      if generation.payrollPreview.isEmpty then commit state snapshot []
      else insertLines state position generation.payrollPreview snapshot
  | .inserted snapshot rows => commit state snapshot rows
  | .ended answer => (state, .ended answer)

/-- The statement may also fail for a reason of its own. -/
def generateOutcome (state : PayrollState Date) (position : ℕ) (generation : Generation Date)
    (fails : Bool) : PayrollState Date × GenerateStage Date :=
  match generation.stage, fails with
  | .ended answer, _ => (state, .ended answer)
  | _, true => (state, .ended .aborted)
  | _, false => generateStep state position generation

def finalizeStep (state : PayrollState Date) :
    FinalizeStage → PayrollState Date × FinalizeStage
  | .begun => (state, if state.lines.isEmpty then .ended .payrollEmpty else .counted)
  | .counted =>
      match state.period with
      | some ⟨.draft, version⟩ =>
          ({ state with period := some ⟨.finalized, version + 1⟩ }, .ended .done)
      | _ => (state, .ended .payrollNotFinalizable)
  | .ended answer => (state, .ended answer)

/-! ## Runs -/

inductive PayrollCommand (Date : Type)
  | generate (payrollPreview : List (PayrollLine Date))
  | finalize
  /-- The next statement of a generation, or its commit. -/
  | advanceGeneration (position : ℕ) (fails : Bool)
  | advanceFinalization (position : ℕ)

def payrollStep (state : PayrollState Date) : PayrollCommand Date → PayrollState Date
  | .generate payrollPreview =>
      { state with generations := state.generations ++ [⟨payrollPreview, .begun⟩] }
  | .finalize => { state with finalizations := state.finalizations ++ [.begun] }
  | .advanceGeneration position fails =>
      match state.generations[position]? with
      | some generation =>
          let (state', stage) := generateOutcome state position generation fails
          { state' with generations := state.generations.set position { generation with stage } }
      | none => state
  | .advanceFinalization position =>
      match state.finalizations[position]? with
      | some stage =>
          let (state', stage) := finalizeStep state stage
          { state' with finalizations := state.finalizations.set position stage }
      | none => state

end Stallorder.PayrollTransactions
