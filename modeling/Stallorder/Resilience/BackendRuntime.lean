import Stallorder.Core.Checks
import Stallorder.Core.SqlText

/-!
# The runtime state of a backend

The primary and the standby database each have a table of runtime states, which
is not replicated.  Its current row says who the database is and which role it
has.  Writes are guarded by the current row once it is enforced, and the role
changes by one administrative function.
-/

namespace Stallorder.BackendRuntime

open Checks SqlText

inductive BackendCode
  | primary
  | dr
  deriving DecidableEq

inductive BackendRole
  | activeWriter
  | readOnlyStandby
  | sealed
  | disabled
  deriving DecidableEq

structure RuntimeRow where
  backendRole : BackendRole
  promotionEpoch : ℕ
  writesEnabled : Bool
  enforcementEnabled : Bool
  deriving DecidableEq

/-- The rows by their codes; an index allows one of them to be current. -/
structure RuntimeTable where
  primary : Option RuntimeRow
  dr : Option RuntimeRow
  current : Option BackendCode
  deriving DecidableEq

inductive RuntimeError
  | fencingNotConfigured
  | notWritable
  | promotionEpochMismatch
  | stateMissing
  | stateChanged
  | epochRegression
  | reasonInvalid
  | localIdentityAlreadyFenced
  | initialTargetMustBeStandby
  | transitionInvalid
  | epochNotAdvanced
  | targetStateMissing
  | constraintViolated
  deriving DecidableEq

/-- A current row with its code. -/
structure CurrentState extends RuntimeRow where
  backendCode : BackendCode
  deriving DecidableEq

namespace RuntimeTable

def row (table : RuntimeTable) : BackendCode → Option RuntimeRow
  | .primary => table.primary
  | .dr => table.dr

def setRow (table : RuntimeTable) (code : BackendCode) (row : RuntimeRow) : RuntimeTable :=
  match code with
  | .primary => { table with primary := some row }
  | .dr => { table with dr := some row }

def currentState (table : RuntimeTable) : Option CurrentState :=
  table.current.bind fun code => (table.row code).map fun row => ⟨row, code⟩

end RuntimeTable

/-! ## The guard of writes -/

def assertBackendWritable (table : RuntimeTable) (expectedPromotionEpoch : Option ℕ) :
    Except RuntimeError ℕ := do
  let state ← orFail table.currentState .fencingNotConfigured
  if !state.enforcementEnabled then return expectedPromotionEpoch.getD 0
  failWhen (state.backendRole ≠ .activeWriter || !state.writesEnabled) .notWritable
  failWhen (expectedPromotionEpoch.any (· ≠ state.promotionEpoch)) .promotionEpochMismatch
  return state.promotionEpoch

/-! ## Transitions -/

structure TransitionInput where
  expectedBackendCode : BackendCode
  expectedPromotionEpoch : ℕ
  targetBackendCode : BackendCode
  targetBackendRole : BackendRole
  targetPromotionEpoch : ℕ
  transitionReason : Text
  deriving DecidableEq

/-- The roles that an enforced row may take on. -/
def mayFollow : BackendRole → BackendRole → Bool
  | .activeWriter, .activeWriter | .activeWriter, .sealed => true
  | .sealed, .sealed | .sealed, .activeWriter | .sealed, .readOnlyStandby => true
  | .readOnlyStandby, .readOnlyStandby | .readOnlyStandby, .activeWriter
  | .readOnlyStandby, .disabled => true
  | .disabled, .disabled | .disabled, .readOnlyStandby => true
  | _, _ => false

/-- The column takes shorter reasons than the function. -/
def reasonCheck (reason : Text) : Bool := trimmedLength reason 5 500

/-- Whether the current row may give way to the row of the target. -/
def checkTarget (state : CurrentState) (input : TransitionInput) : Except RuntimeError Unit :=
  if input.targetBackendCode ≠ state.backendCode then do
    failWhen state.enforcementEnabled .localIdentityAlreadyFenced
    failWhen (input.targetBackendRole ≠ .readOnlyStandby) .initialTargetMustBeStandby
    failWhen (!reasonCheck input.transitionReason) .constraintViolated
  else
    failWhen (state.enforcementEnabled && !mayFollow state.backendRole input.targetBackendRole)
      .transitionInvalid

def transitionedRow (input : TransitionInput) : RuntimeRow where
  backendRole := input.targetBackendRole
  promotionEpoch := input.targetPromotionEpoch
  writesEnabled := input.targetBackendRole = .activeWriter
  enforcementEnabled := true

def retiredRow (state : CurrentState) : RuntimeRow :=
  { state.toRuntimeRow with
    backendRole := .disabled
    writesEnabled := false
    enforcementEnabled := false }

def transitionBackendRuntime (table : RuntimeTable) (input : TransitionInput) :
    Except RuntimeError RuntimeTable := do
  let state ← orFail table.currentState .stateMissing
  failWhen (state.backendCode ≠ input.expectedBackendCode
    || state.promotionEpoch ≠ input.expectedPromotionEpoch) .stateChanged
  failWhen (input.targetPromotionEpoch < state.promotionEpoch) .epochRegression
  failWhen (!trimmedLength input.transitionReason 10 1000) .reasonInvalid
  checkTarget state input
  failWhen (state.backendRole = .readOnlyStandby && input.targetBackendRole = .activeWriter
    && input.targetPromotionEpoch ≤ state.promotionEpoch) .epochNotAdvanced
  failWhen (table.row input.targetBackendCode).isNone .targetStateMissing
  failWhen (!reasonCheck input.transitionReason) .constraintViolated
  let retired := if input.targetBackendCode ≠ state.backendCode then
    table.setRow state.backendCode (retiredRow state) else table
  return { retired.setRow input.targetBackendCode (transitionedRow input) with
    current := some input.targetBackendCode }

/-! ## Fenced databases -/

/-- The row of a database whose role is enforced. -/
def fencedState (code : BackendCode) (role : BackendRole) (epoch : ℕ) : CurrentState where
  backendRole := role
  promotionEpoch := epoch
  writesEnabled := role = .activeWriter
  enforcementEnabled := true
  backendCode := code

/-- The database is who it is said to be, in a role that is enforced. -/
def IsFenced (table : RuntimeTable) (code : BackendCode) (role : BackendRole) (epoch : ℕ) : Prop :=
  table.currentState = some (fencedState code role epoch)

section Fenced

variable {table table' : RuntimeTable} {code : BackendCode} {role : BackendRole} {epoch : ℕ}
  {input : TransitionInput}

theorem currentState_setRow (row : RuntimeRow) :
    ({ table.setRow code row with current := some code } : RuntimeTable).currentState
      = some ⟨row, code⟩ := by
  cases code <;> rfl

/-- A fenced database takes writes in one role only. -/
theorem assert_of_fenced (hfenced : IsFenced table code role epoch) :
    assertBackendWritable table none =
      if role = .activeWriter then .ok epoch else .error .notWritable := by
  rw [assertBackendWritable, hfenced]
  by_cases hrole : role = .activeWriter
  · rw [if_pos hrole]
    simp [fencedState, hrole, pure, Except.pure]
  · rw [if_neg hrole]
    simp [fencedState, hrole]

/-- A fenced database stays who it is, its epochs do not fall, and a standby is promoted to
a new epoch. -/
theorem transition_of_fenced (hfenced : IsFenced table code role epoch) :
    transitionBackendRuntime table input = .ok table' →
      input.expectedPromotionEpoch = epoch ∧ input.targetBackendCode = code
        ∧ epoch ≤ input.targetPromotionEpoch
        ∧ mayFollow role input.targetBackendRole = true
        ∧ (role = .readOnlyStandby → input.targetBackendRole = .activeWriter →
            epoch < input.targetPromotionEpoch)
        ∧ IsFenced table' code input.targetBackendRole input.targetPromotionEpoch := by
  intro hok
  rw [IsFenced] at hfenced
  simp only [transitionBackendRuntime, hfenced, bind_eq_ok, orFail_eq_ok, failWhen_eq_ok,
    pure_eq_ok] at hok
  obtain ⟨_, hstate, _, hexpected, _, hepoch, _, -, _, htarget, _, hadvanced, _, -, _, -, rfl⟩
    := hok
  cases hstate
  simp only [Bool.or_eq_false_iff, decide_eq_false_iff_not, ne_eq, not_not, not_lt,
    Bool.and_eq_false_iff, not_le] at hexpected hepoch hadvanced
  have hsame : input.targetBackendCode = code := by
    by_contra hne
    have hother : input.targetBackendCode ≠ (fencedState code role epoch).backendCode := hne
    rw [checkTarget, if_pos hother] at htarget
    simp [fencedState] at htarget
  subst hsame
  simp only [checkTarget, fencedState, ne_eq, not_true_eq_false, if_false, failWhen_eq_ok,
    Bool.true_and, Bool.not_eq_false'] at htarget
  refine ⟨hexpected.2.symm, rfl, hepoch, htarget, ?_, ?_⟩
  · intro hstandby hwriter
    rcases hadvanced with (hnot | hnot) | hlt
    · exact absurd hstandby hnot
    · exact absurd hwriter hnot
    · exact hlt
  · unfold IsFenced
    rw [if_neg (by simp [fencedState])]
    exact currentState_setRow _

/-- The transitions that go through. -/
theorem transition_ok (hfenced : IsFenced table code role epoch)
    (hexpected : input.expectedBackendCode = code ∧ input.expectedPromotionEpoch = epoch)
    (htarget : input.targetBackendCode = code)
    (hmay : mayFollow role input.targetBackendRole = true)
    (hle : epoch ≤ input.targetPromotionEpoch)
    (hadvances : role = .readOnlyStandby → input.targetBackendRole = .activeWriter →
      epoch < input.targetPromotionEpoch)
    (hreason : trimmedLength input.transitionReason 10 500 = true) :
    ∃ table', transitionBackendRuntime table input = .ok table' := by
  have hrow : (table.row code).isNone = false := by
    obtain ⟨current, -, hmap⟩ := Option.bind_eq_some_iff.mp hfenced
    obtain ⟨row, hrow, hstate⟩ := Option.map_eq_some_iff.mp hmap
    have hcode : current = code := congrArg CurrentState.backendCode hstate
    rw [← hcode, hrow]
    rfl
  simp only [trimmedLength, Bool.and_eq_true, decide_eq_true_eq] at hreason
  have hlong : trimmedLength input.transitionReason 10 1000 = true := by
    simp only [trimmedLength, Bool.and_eq_true, decide_eq_true_eq]
    omega
  have hshort : reasonCheck input.transitionReason = true := by
    simp only [reasonCheck, trimmedLength, Bool.and_eq_true, decide_eq_true_eq]
    omega
  obtain ⟨state, hstate⟩ : ∃ state, state = fencedState code role epoch := ⟨_, rfl⟩
  have hcurrent : table.currentState = some state := hfenced.trans (congrArg some hstate.symm)
  have hknown : (state.backendCode ≠ input.expectedBackendCode
      || state.promotionEpoch ≠ input.expectedPromotionEpoch) = false := by
    simp [hstate, fencedState, hexpected]
  have hnotBelow : decide (input.targetPromotionEpoch < state.promotionEpoch) = false := by
    rw [hstate]
    exact decide_eq_false hle.not_gt
  have hallowed : checkTarget state input = .ok () := by
    simp [checkTarget, hstate, fencedState, htarget, hmay]
  have hadvanced : (state.backendRole = .readOnlyStandby
      && input.targetBackendRole = .activeWriter
      && input.targetPromotionEpoch ≤ state.promotionEpoch) = false := by
    rw [← Bool.not_eq_true]
    simp only [Bool.and_eq_true, decide_eq_true_eq]
    rw [hstate]
    rintro ⟨⟨hstandby, hwriter⟩, hstays⟩
    exact (hadvances hstandby hwriter).not_ge hstays
  rw [← htarget] at hrow
  simp only [transitionBackendRuntime, hcurrent, orFail_some, bind_ok, hknown,
    hnotBelow, hallowed, hadvanced, hrow, hlong, hshort, Bool.not_true, failWhen_false]
  exact ⟨_, rfl⟩

end Fenced

end Stallorder.BackendRuntime
