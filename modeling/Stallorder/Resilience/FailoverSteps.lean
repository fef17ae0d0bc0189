import Stallorder.Resilience.FailoverProtocol
import Stallorder.Resilience.FailoverScripts

/-!
# Changes of the databases by the scripts

Once both databases know who they are, their guards agree with their roles, and
a script changes them only through transitions that go through.
-/

namespace Stallorder.FailoverSteps

open BackendRuntime FailoverProtocol FailoverScripts

/-! ## Roles of databases -/

def role (roles : Roles) : BackendCode → BackendRole
  | .primary => roles.primaryRole
  | .dr => roles.drRole

def epoch (roles : Roles) : BackendCode → ℕ
  | .primary => roles.primaryEpoch
  | .dr => roles.drEpoch

def change (roles : Roles) (code : BackendCode) (role : BackendRole) (epoch : ℕ) : Roles :=
  match code with
  | .primary => { roles with primaryRole := role, primaryEpoch := epoch }
  | .dr => { roles with drRole := role, drEpoch := epoch }

/-- Both databases know who they are and enforce their roles. -/
def Stands (backends : Backends) (roles : Roles) : Prop :=
  ∀ code, IsFenced (backends.database code) code (role roles code) (epoch roles code)

def openedRoles : Roles := ⟨.activeWriter, 1, .readOnlyStandby, 1⟩

theorem stands_opened : Stands FailoverSystem.opened.backends openedRoles := by
  intro code
  cases code <;> rfl

/-- The databases whose guards let writes through. -/
def writersOf (backends : Backends) : List Writer :=
  [BackendCode.primary, .dr].filterMap fun code =>
    (assertBackendWritable (backends.database code) none).toOption.map (Writer.mk code)

section Stands

variable {backends : Backends} {roles : Roles} {code : BackendCode} {table : RuntimeTable}
  {input : TransitionInput}

theorem writersOf_of_stands (hstands : Stands backends roles) :
    writersOf backends = roles.writers := by
  have hprimary := assert_of_fenced (hstands .primary)
  have hdr := assert_of_fenced (hstands .dr)
  simp only [writersOf, List.filterMap_cons, List.filterMap_nil, hprimary, hdr, role, epoch,
    Roles.writers]
  by_cases hprimaryRole : roles.primaryRole = .activeWriter <;>
    by_cases hdrRole : roles.drRole = .activeWriter <;>
    simp [hprimaryRole, hdrRole, Except.toOption]

theorem Stands.transition (hstands : Stands backends roles)
    (hok : transitionBackendRuntime (backends.database code) input = .ok table) :
    Stands (backends.setDatabase code table)
      (change roles code input.targetBackendRole input.targetPromotionEpoch) := by
  obtain ⟨-, -, -, -, -, hfenced⟩ := transition_of_fenced (hstands code) hok
  intro other
  have hother := hstands other
  cases code <;> cases other <;> assumption

end Stands

/-! ## Readings -/

/-- What a script has read is what there is. -/
structure Current (roles : Roles) (readings : Readings) : Prop where
  primary : ∀ state, readings.primary = some state →
    state = fencedState .primary roles.primaryRole roles.primaryEpoch
  dr : ∀ state, readings.dr = some state → state = fencedState .dr roles.drRole roles.drEpoch

section Readings

variable {roles : Roles} {readings : Readings} {primary dr : CurrentState}

theorem current_none (roles : Roles) : Current roles .none where
  primary := fun _ hstate => by cases hstate
  dr := fun _ hstate => by cases hstate

theorem Current.add (hcurrent : Current roles readings) (database : BackendCode) :
    Current roles (readings.add database
      (fencedState database (role roles database) (epoch roles database))) := by
  cases database with
  | primary => exact ⟨fun state hstate => (Option.some.inj hstate).symm, hcurrent.dr⟩
  | dr => exact ⟨hcurrent.primary, fun state hstate => (Option.some.inj hstate).symm⟩

/-- A script that has read both databases knows their states. -/
theorem Current.eq (hcurrent : Current roles ⟨some primary, some dr⟩) :
    primary = fencedState .primary roles.primaryRole roles.primaryEpoch
      ∧ dr = fencedState .dr roles.drRole roles.drEpoch :=
  ⟨hcurrent.primary primary rfl, hcurrent.dr dr rfl⟩

end Readings

/-! ## Plans -/

/-- The transitions that scripts plan, by what they have read. -/
inductive Planned (running : RunningScript) : BackendCode → BackendRole → ℕ → Stage → Prop
  | configureStandby {primary dr : CurrentState}
      (hscript : running.script = .prepareDrFailover)
      (hstage : running.stage = .reading ⟨some primary, some dr⟩)
      (hprimary : primary.backendRole = .activeWriter)
      (hepoch : dr.backendCode = .dr → dr.promotionEpoch = primary.promotionEpoch) :
      Planned running .dr .readOnlyStandby primary.promotionEpoch (.standbyConfigured primary)
  | enforcePrimary {primaryBefore : CurrentState}
      (hstage : running.stage = .standbyConfigured primaryBefore) :
      Planned running .primary .activeWriter primaryBefore.promotionEpoch (.inspecting .none)
  | freezePrimary {primary dr : CurrentState}
      (hstage : running.stage = .inspecting ⟨some primary, some dr⟩)
      (hprimary : primary.backendRole = .activeWriter) (hdr : dr.backendRole = .readOnlyStandby) :
      Planned running .primary .sealed primary.promotionEpoch (.ended .done)
  | unfreezePrimary {primary dr : CurrentState}
      (hscript : running.script = .rollbackPrimaryFreeze)
      (hstage : running.stage = .reading ⟨some primary, some dr⟩)
      (hprimary : primary.backendRole = .sealed) (hdr : dr.backendRole ≠ .activeWriter) :
      Planned running .primary .activeWriter primary.promotionEpoch (.ended .done)
  | promoteDr {primary dr : CurrentState}
      (hscript : running.script = .promoteDr)
      (hstage : running.stage = .reading ⟨some primary, some dr⟩)
      (hprimary : primary.backendRole = .sealed) (hdr : dr.backendRole = .readOnlyStandby) :
      Planned running .dr .activeWriter (max primary.promotionEpoch dr.promotionEpoch + 1)
        (.ended .done)
  | freezeDr {primary dr : CurrentState}
      (hstage : running.stage = .inspecting ⟨some primary, some dr⟩)
      (hprimary : primary.backendRole ≠ .activeWriter) (hdr : dr.backendRole = .activeWriter) :
      Planned running .dr .sealed dr.promotionEpoch (.ended .done)
  | unfreezeDr {primary dr : CurrentState}
      (hscript : running.script = .rollbackDrFreeze)
      (hstage : running.stage = .reading ⟨some primary, some dr⟩)
      (hprimary : primary.backendRole ≠ .activeWriter) (hdr : dr.backendRole = .sealed) :
      Planned running .dr .activeWriter dr.promotionEpoch (.ended .done)
  | promotePrimary {primary dr : CurrentState}
      (hscript : running.script = .promotePrimary)
      (hstage : running.stage = .reading ⟨some primary, some dr⟩)
      (hprimary : primary.backendRole ≠ .activeWriter) (hdr : dr.backendRole = .sealed) :
      Planned running .primary .activeWriter (max primary.promotionEpoch dr.promotionEpoch + 1)
        (.demoting dr (max primary.promotionEpoch dr.promotionEpoch + 1))
  | demoteDr {drRuntime : CurrentState} {epoch : ℕ}
      (hstage : running.stage = .demoting drRuntime epoch) :
      Planned running .dr .readOnlyStandby epoch (.ended .done)

section Plans

variable {running : RunningScript} {checksReady : Bool} {database : BackendCode}
  {input : TransitionInput} {stage : Stage} {primary dr : CurrentState} {first second epoch : ℕ}

theorem nextPromotionEpoch_eq_some (hnext : nextPromotionEpoch first second = some epoch) :
    epoch = max first second + 1 := by
  unfold nextPromotionEpoch at hnext
  split_ifs at hnext with hsafe
  exact (Option.some.inj hnext).symm

theorem drReadiness_roles {frozen : Bool} (hready : drReadiness frozen primary dr = true) :
    primary.backendRole = (if frozen then .sealed else .activeWriter)
      ∧ dr.backendRole = .readOnlyStandby := by
  cases frozen <;> simp [drReadiness] at hready ⊢ <;> tauto

theorem failbackReadiness_roles {frozen : Bool}
    (hready : failbackReadiness frozen primary dr = true) :
    primary.backendRole ≠ .activeWriter
      ∧ dr.backendRole = (if frozen then .sealed else .activeWriter) := by
  have hprimary : primary.backendRole = .sealed ∨ primary.backendRole = .readOnlyStandby := by
    simp [failbackReadiness] at hready
    tauto
  refine ⟨?_, by cases frozen <;> simp [failbackReadiness] at hready ⊢ <;> tauto⟩
  rcases hprimary with hrole | hrole <;> rw [hrole] <;> decide

/-- A script that has read both databases plans one of these. -/
theorem planned_of_reading (hstage : running.stage = .reading ⟨some primary, some dr⟩)
    (hplan : plan running checksReady = some (.transition database input stage)) :
    Planned running database input.targetBackendRole input.targetPromotionEpoch stage := by
  simp only [plan, hstage, Option.some.injEq] at hplan
  cases hscript : running.script with
  | prepareDrFailover =>
      simp only [hscript, planPrepareDrFailover] at hplan
      split_ifs at hplan with hactive hepoch
      cases hplan
      push Not at hactive hepoch
      exact .configureStandby hscript hstage hactive.2 hepoch
  | rollbackPrimaryFreeze =>
      simp only [hscript, planRollbackPrimaryFreeze] at hplan
      split_ifs at hplan with hunsafe
      cases hplan
      push Not at hunsafe
      exact .unfreezePrimary hscript hstage hunsafe.2.1 hunsafe.2.2.2
  | promoteDr =>
      simp only [hscript, planPromoteDr] at hplan
      split_ifs at hplan with hblocked
      simp only [Bool.not_eq_true, Bool.not_eq_false', Bool.and_eq_true] at hblocked
      obtain ⟨hprimary, hdr⟩ := drReadiness_roles hblocked.2
      cases hnext : nextPromotionEpoch primary.promotionEpoch dr.promotionEpoch with
      | none => simp only [hnext, reduceCtorEq] at hplan
      | some epoch =>
          rw [hnext] at hplan
          cases hplan
          rw [nextPromotionEpoch_eq_some hnext]
          exact .promoteDr hscript hstage hprimary hdr
  | preparePrimaryFailback =>
      simp only [hscript, planFailbackPreflight] at hplan
      split_ifs at hplan
  | rollbackDrFreeze =>
      simp only [hscript, planRollbackDrFreeze] at hplan
      split_ifs at hplan with hunsafe
      cases hplan
      push Not at hunsafe
      exact .unfreezeDr hscript hstage hunsafe.2.2 hunsafe.2.1
  | promotePrimary =>
      simp only [hscript, planPromotePrimary] at hplan
      split_ifs at hplan with hblocked
      simp only [Bool.not_eq_true, Bool.not_eq_false', Bool.and_eq_true] at hblocked
      obtain ⟨hprimary, hdr⟩ := failbackReadiness_roles hblocked.2
      cases hnext : nextPromotionEpoch primary.promotionEpoch dr.promotionEpoch with
      | none => simp only [hnext, reduceCtorEq] at hplan
      | some epoch =>
          rw [hnext] at hplan
          cases hplan
          rw [nextPromotionEpoch_eq_some hnext]
          exact .promotePrimary hscript hstage hprimary hdr

/-- A script that inspects the databases once more freezes one of them. -/
theorem planned_of_inspecting (hstage : running.stage = .inspecting ⟨some primary, some dr⟩)
    (hplan : plan running checksReady = some (.transition database input stage)) :
    Planned running database input.targetBackendRole input.targetPromotionEpoch stage := by
  simp only [plan, hstage, Option.some.injEq] at hplan
  by_cases hscript : running.script = .prepareDrFailover
  · rw [if_pos hscript, planPrimaryFreeze] at hplan
    split_ifs at hplan with hblocked
    cases hplan
    simp only [Bool.not_eq_true, Bool.not_eq_false', Bool.and_eq_true] at hblocked
    obtain ⟨hprimary, hdr⟩ := drReadiness_roles hblocked.2
    exact .freezePrimary hstage hprimary hdr
  · rw [if_neg hscript, planDrFreeze] at hplan
    split_ifs at hplan with hblocked
    cases hplan
    simp only [Bool.not_eq_true, Bool.not_eq_false', Bool.and_eq_true] at hblocked
    obtain ⟨hprimary, hdr⟩ := failbackReadiness_roles hblocked.2
    exact .freezeDr hstage hprimary hdr

theorem planned (hplan : plan running checksReady = some (.transition database input stage)) :
    Planned running database input.targetBackendRole input.targetPromotionEpoch stage := by
  cases hstage : running.stage with
  | preflight =>
      simp only [plan, hstage, Option.some.injEq, reduceCtorEq] at hplan
  | reading readings =>
      rcases readings with ⟨_ | primary, _ | dr⟩
      · simp only [plan, hstage, reduceCtorEq] at hplan
      · simp only [plan, hstage, reduceCtorEq] at hplan
      · simp only [plan, hstage, reduceCtorEq] at hplan
      · exact planned_of_reading hstage hplan
  | standbyConfigured primaryBefore =>
      simp only [plan, hstage] at hplan
      cases hplan
      exact .enforcePrimary hstage
  | inspecting readings =>
      rcases readings with ⟨_ | primary, _ | dr⟩
      · simp only [plan, hstage, reduceCtorEq] at hplan
      · simp only [plan, hstage, reduceCtorEq] at hplan
      · simp only [plan, hstage, reduceCtorEq] at hplan
      · exact planned_of_inspecting hstage hplan
  | demoting drRuntime epoch =>
      simp only [plan, hstage] at hplan
      cases hplan
      exact .demoteDr hstage
  | ended answer => simp only [plan, hstage, reduceCtorEq] at hplan

theorem ended_of_isEnded (hended : running.isEnded = true) :
    ∃ answer, running.stage = .ended answer := by
  cases hstage : running.stage with
  | ended answer => exact ⟨answer, rfl⟩
  | _ => simp [RunningScript.isEnded, hstage] at hended

theorem plan_of_ended (hended : running.isEnded = true) : plan running checksReady = none := by
  obtain ⟨answer, hstage⟩ := ended_of_isEnded hended
  simp only [plan, hstage]

/-- A script that goes on without a change has read nothing yet, or it has ended. -/
theorem goOn_cases (hplan : plan running checksReady = some (.goOn stage)) :
    stage = .reading .none ∨ stage = .inspecting .none ∨ ∃ answer, stage = .ended answer := by
  cases hstage : running.stage with
  | preflight =>
      simp only [plan, hstage, Option.some.injEq, Plan.goOn.injEq] at hplan
      subst hplan
      cases checksReady
      · exact .inr (.inr ⟨_, rfl⟩)
      · exact .inl rfl
  | reading readings =>
      rcases readings with ⟨_ | primary, _ | dr⟩
      · simp only [plan, hstage, reduceCtorEq] at hplan
      · simp only [plan, hstage, reduceCtorEq] at hplan
      · simp only [plan, hstage, reduceCtorEq] at hplan
      · simp only [plan, hstage, Option.some.injEq] at hplan
        cases hscript : running.script with
        | prepareDrFailover =>
            simp only [hscript, planPrepareDrFailover] at hplan
            split_ifs at hplan <;> cases hplan <;> exact .inr (.inr ⟨_, rfl⟩)
        | rollbackPrimaryFreeze =>
            simp only [hscript, planRollbackPrimaryFreeze] at hplan
            split_ifs at hplan
            cases hplan
            exact .inr (.inr ⟨_, rfl⟩)
        | promoteDr =>
            simp only [hscript, planPromoteDr] at hplan
            cases hnext : nextPromotionEpoch primary.promotionEpoch dr.promotionEpoch <;>
              rw [hnext] at hplan <;> split_ifs at hplan <;> cases hplan <;>
              exact .inr (.inr ⟨_, rfl⟩)
        | preparePrimaryFailback =>
            simp only [hscript, planFailbackPreflight] at hplan
            split_ifs at hplan
            · cases hplan
              exact .inr (.inr ⟨_, rfl⟩)
            · cases hplan
              exact .inr (.inl rfl)
        | rollbackDrFreeze =>
            simp only [hscript, planRollbackDrFreeze] at hplan
            split_ifs at hplan
            cases hplan
            exact .inr (.inr ⟨_, rfl⟩)
        | promotePrimary =>
            simp only [hscript, planPromotePrimary] at hplan
            cases hnext : nextPromotionEpoch primary.promotionEpoch dr.promotionEpoch <;>
              rw [hnext] at hplan <;> split_ifs at hplan <;> cases hplan <;>
              exact .inr (.inr ⟨_, rfl⟩)
  | standbyConfigured primaryBefore => simp [plan, hstage] at hplan
  | inspecting readings =>
      rcases readings with ⟨_ | primary, _ | dr⟩
      · simp only [plan, hstage, reduceCtorEq] at hplan
      · simp only [plan, hstage, reduceCtorEq] at hplan
      · simp only [plan, hstage, reduceCtorEq] at hplan
      · simp only [plan, hstage, Option.some.injEq, planPrimaryFreeze, planDrFreeze] at hplan
        split_ifs at hplan <;> cases hplan <;> exact .inr (.inr ⟨_, rfl⟩)
  | demoting drRuntime epoch => simp [plan, hstage] at hplan
  | ended answer => simp only [plan, hstage, reduceCtorEq] at hplan

end Plans

/-! ## Changes -/

/-- A change that goes through. -/
structure Change where
  running : RunningScript
  database : BackendCode
  input : TransitionInput
  deriving DecidableEq

def Change.activates (change : Change) (code : BackendCode) : Bool :=
  change.database = code && change.input.targetBackendRole = .activeWriter

/-- The change that a plan makes, if it makes one. -/
def changeOf (backends : Backends) (running : RunningScript) : Plan → Option Change
  | .goOn _ => none
  | .transition database input _ =>
      if (transitionBackendRuntime (backends.database database) input).isOk then
        some ⟨running, database, input⟩
      else none

/-- The change that a command makes, if it makes one. -/
def madeChange (system : FailoverSystem) : FailoverCommand → Option Change
  | .proceed position checksReady =>
      system.scripts[position]?.bind fun running =>
        (plan running checksReady).bind (changeOf system.backends running)
  | _ => none

section Changes

variable {system : FailoverSystem} {command : FailoverCommand} {position : ℕ}
  {checksReady : Bool} {running : RunningScript} {next : Plan} {change : Change}

theorem step_proceed (hrunning : system.scripts[position]? = some running)
    (hplan : plan running checksReady = some next) :
    step system (.proceed position checksReady) =
      { system with backends := (execute system.backends next).1 }.setStage position running
        (execute system.backends next).2 := by
  simp only [step, hrunning, hplan]

theorem execute_of_no_change (hnone : changeOf system.backends running next = none) :
    (execute system.backends next).1 = system.backends := by
  cases next with
  | goOn stage => rfl
  | transition database input stage =>
      cases hok : transitionBackendRuntime (system.backends.database database) input with
      | error error => simp only [execute, hok]
      | ok table => simp [changeOf, hok, Except.isOk, Except.toBool] at hnone

/-- Only changes change the databases. -/
theorem backends_of_no_change (hnone : madeChange system command = none) :
    (step system command).backends = system.backends := by
  cases command with
  | start script reason => rfl
  | read position database =>
      cases hrunning : system.scripts[position]? with
      | none => simp only [step, hrunning]
      | some running => simp only [step, hrunning, FailoverSystem.setStage]
  | stop position =>
      cases hrunning : system.scripts[position]? with
      | none => simp only [step, hrunning]
      | some running =>
          simp only [step, hrunning]
          exact (apply_ite FailoverSystem.backends _ _ _).trans (ite_self _)
  | proceed position checksReady =>
      cases hrunning : system.scripts[position]? with
      | none => simp only [step, hrunning]
      | some running =>
          cases hplan : plan running checksReady with
          | none => simp only [step, hrunning, hplan]
          | some next =>
              rw [step_proceed hrunning hplan]
              have hof : changeOf system.backends running next = none := by
                simpa only [madeChange, hrunning, hplan, Option.bind_some] using hnone
              exact execute_of_no_change hof

/-- A change is a transition that a script had planned. -/
theorem madeChange_eq_some (hchange : madeChange system command = some change) :
    ∃ position checksReady stage table, command = .proceed position checksReady
      ∧ system.scripts[position]? = some change.running
      ∧ plan change.running checksReady = some (.transition change.database change.input stage)
      ∧ transitionBackendRuntime (system.backends.database change.database) change.input
          = .ok table
      ∧ step system command =
          { system with backends := system.backends.setDatabase change.database table }.setStage
            position change.running stage := by
  cases command with
  | start script reason => cases hchange
  | read position database => cases hchange
  | stop position => cases hchange
  | proceed position checksReady =>
      obtain ⟨running, hrunning, hbind⟩ := Option.bind_eq_some_iff.mp hchange
      obtain ⟨next, hplan, hof⟩ := Option.bind_eq_some_iff.mp hbind
      cases next with
      | goOn stage => cases hof
      | transition database input stage =>
          cases hok : transitionBackendRuntime (system.backends.database database) input with
          | error error => simp [changeOf, hok, Except.isOk, Except.toBool] at hof
          | ok table =>
              have hsame : change = ⟨running, database, input⟩ := by
                simpa [changeOf, hok, Except.isOk, Except.toBool, eq_comm] using hof
              subst hsame
              refine ⟨position, checksReady, stage, table, rfl, hrunning, hplan, hok, ?_⟩
              simp only [step_proceed hrunning hplan, execute, hok]

end Changes

end Stallorder.FailoverSteps
