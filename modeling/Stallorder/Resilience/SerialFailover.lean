import Stallorder.Resilience.DeadEnd

/-!
# One script at a time

When a script is started only after the ones before it have ended, whatever a
script has read is true while it runs, and the databases follow the round of
the writers.  A script may still be stopped halfway.
-/

namespace Stallorder.SerialFailover

open BackendRuntime FailoverProtocol FailoverScripts FailoverSteps Run

/-- A script is started when no other one is under way. -/
def oneAtATime (system : FailoverSystem) : FailoverCommand → Bool
  | .start _ _ => system.scripts.all (·.isEnded)
  | _ => true

/-- The freeze of the primary is rolled back when the standby is already ahead. -/
def RunningScript.rollsBackLate (running : RunningScript) : Bool :=
  running.script = .rollbackPrimaryFreeze &&
    match running.stage with
    | .reading ⟨some primary, some dr⟩ => primary.promotionEpoch < dr.promotionEpoch
    | _ => false

def rollsBackLate (system : FailoverSystem) (command : FailoverCommand) : Bool :=
  (madeChange system command).any fun change => RunningScript.rollsBackLate change.running

/-! ## What scripts know -/

/-- What a script relies on at its stage. -/
def Aware (roles : Roles) : Stage → Prop
  | .preflight => True
  | .reading readings => Current roles readings
  | .standbyConfigured primaryBefore =>
      roles = ⟨.activeWriter, primaryBefore.promotionEpoch, .readOnlyStandby,
        primaryBefore.promotionEpoch⟩
  | .inspecting readings => Current roles readings
  | .demoting drRuntime epoch =>
      roles = ⟨.activeWriter, epoch, .sealed, drRuntime.promotionEpoch⟩
        ∧ drRuntime.promotionEpoch < epoch
  | .ended _ => True

/-- All scripts but the last one have ended, and the last one knows what it relies on. -/
def Serial (roles : Roles) (scripts : List RunningScript) : Prop :=
  ∀ position running, scripts[position]? = some running →
    running.isEnded = true ∨ (position + 1 = scripts.length ∧ Aware roles running.stage)

section Knowledge

variable {roles : Roles} {backends : Backends} {database : BackendCode} {running : RunningScript}
  {checksReady : Bool} {stage : Stage} {newRole : BackendRole} {newEpoch : ℕ}
  {readings : Readings} {primary dr : CurrentState}

theorem aware_read (hstands : Stands backends roles) (haware : Aware roles running.stage) :
    Aware roles (readState backends database running) := by
  have hstate : (backends.database database).currentState
      = some (fencedState database (role roles database) (epoch roles database)) :=
    hstands database
  cases hstage : running.stage with
  | reading readings =>
      rw [hstage] at haware
      simp only [readState, hstage, hstate]
      exact Current.add haware database
  | inspecting readings =>
      rw [hstage] at haware
      simp only [readState, hstage, hstate]
      exact Current.add haware database
  | _ =>
      rw [hstage] at haware
      simpa only [readState, hstage] using haware

theorem aware_goOn (hplan : plan running checksReady = some (.goOn stage)) :
    Aware roles stage := by
  rcases goOn_cases hplan with rfl | rfl | ⟨answer, rfl⟩
  · exact current_none roles
  · exact current_none roles
  · exact trivial

/-- In the round, a planned change is a move, or it is a regression by a late rollback. -/
theorem move_of_planned (hround : InRound roles) (haware : Aware roles running.stage)
    (hplanned : Planned running database newRole newEpoch stage) :
    Aware (change roles database newRole newEpoch) stage
      ∧ ((Move roles (change roles database newRole newEpoch)
          ∧ RunningScript.rollsBackLate running = false)
        ∨ (Regression roles (change roles database newRole newEpoch)
          ∧ RunningScript.rollsBackLate running = true)) := by
  cases hplanned with
  | configureStandby hscript hstage hprimary hepoch =>
      rw [hstage] at haware
      obtain ⟨rfl, rfl⟩ := Current.eq haware
      have hnot : RunningScript.rollsBackLate running = false := by
        simp [RunningScript.rollsBackLate, hscript]
      cases hround with
      | normal hrole =>
          cases hprimary
          exact ⟨rfl, .inl ⟨.stay _, hnot⟩⟩
      | promoted hrole hlt => cases hprimary
      | restored hlt => exact absurd (hepoch rfl) hlt.ne
  | enforcePrimary hstage =>
      rw [hstage] at haware
      cases haware
      exact ⟨current_none _, .inl ⟨.stay _, by simp [RunningScript.rollsBackLate, hstage]⟩⟩
  | freezePrimary hstage hprimary hdr =>
      rw [hstage] at haware
      obtain ⟨rfl, rfl⟩ := Current.eq haware
      have hnot : RunningScript.rollsBackLate running = false := by
        simp [RunningScript.rollsBackLate, hstage]
      cases hround with
      | normal hrole =>
          cases hprimary
          exact ⟨trivial, .inl ⟨.freeze _, hnot⟩⟩
      | promoted hrole hlt => cases hprimary
      | restored hlt => cases hdr
  | unfreezePrimary hscript hstage hprimary hdr =>
      rw [hstage] at haware
      obtain ⟨rfl, rfl⟩ := Current.eq haware
      have hlate : RunningScript.rollsBackLate running = true ↔
          roles.primaryEpoch < roles.drEpoch := by
        simp [RunningScript.rollsBackLate, hstage, hscript, fencedState]
      cases hround with
      | normal hrole =>
          cases hprimary
          refine ⟨trivial, .inl ⟨.unfreeze _, ?_⟩⟩
          rw [← Bool.not_eq_true, hlate]
          exact lt_irrefl _
      | promoted hrole hlt =>
          rcases hrole with rfl | rfl
          · exact absurd rfl hdr
          · exact ⟨trivial, .inr ⟨.mk hlt, hlate.mpr hlt⟩⟩
      | restored hlt => cases hprimary
  | promoteDr hscript hstage hprimary hdr =>
      rw [hstage] at haware
      obtain ⟨rfl, rfl⟩ := Current.eq haware
      have hnot : RunningScript.rollsBackLate running = false := by
        simp [RunningScript.rollsBackLate, hscript]
      cases hround with
      | @normal primaryRole epoch hrole =>
          cases hprimary
          have hnext : max epoch epoch + 1 = epoch + 1 := by rw [max_self]
          refine ⟨trivial, .inl ⟨?_, hnot⟩⟩
          change Move _ ⟨_, _, _, max epoch epoch + 1⟩
          rw [hnext]
          exact .promoteDr epoch
      | promoted hrole hlt => rcases hrole with rfl | rfl <;> cases hdr
      | restored hlt => cases hprimary
  | freezeDr hstage hprimary hdr =>
      rw [hstage] at haware
      obtain ⟨rfl, rfl⟩ := Current.eq haware
      have hnot : RunningScript.rollsBackLate running = false := by
        simp [RunningScript.rollsBackLate, hstage]
      cases hround with
      | normal hrole => cases hdr
      | promoted hrole hlt =>
          cases hdr
          exact ⟨trivial, .inl ⟨.freezeDr hlt, hnot⟩⟩
      | restored hlt => cases hdr
  | unfreezeDr hscript hstage hprimary hdr =>
      rw [hstage] at haware
      obtain ⟨rfl, rfl⟩ := Current.eq haware
      have hnot : RunningScript.rollsBackLate running = false := by
        simp [RunningScript.rollsBackLate, hscript]
      cases hround with
      | normal hrole => cases hdr
      | promoted hrole hlt =>
          cases hdr
          exact ⟨trivial, .inl ⟨.unfreezeDr hlt, hnot⟩⟩
      | restored hlt => exact absurd rfl hprimary
  | promotePrimary hscript hstage hprimary hdr =>
      rw [hstage] at haware
      obtain ⟨rfl, rfl⟩ := Current.eq haware
      have hnot : RunningScript.rollsBackLate running = false := by
        simp [RunningScript.rollsBackLate, hscript]
      cases hround with
      | normal hrole => cases hdr
      | @promoted drRole epoch drEpoch hrole hlt =>
          cases hdr
          have hnext : max epoch drEpoch + 1 = drEpoch + 1 := by rw [max_eq_right hlt.le]
          change Aware ⟨_, max epoch drEpoch + 1, _, _⟩ (.demoting _ (max epoch drEpoch + 1))
            ∧ (Move _ ⟨_, max epoch drEpoch + 1, _, _⟩ ∧ _ ∨ _)
          rw [hnext]
          exact ⟨⟨rfl, Nat.lt_succ_self _⟩, .inl ⟨.promotePrimary hlt, hnot⟩⟩
      | restored hlt => exact absurd rfl hprimary
  | demoteDr hstage =>
      rw [hstage] at haware
      obtain ⟨rfl, hlt⟩ := haware
      exact ⟨trivial, .inl ⟨.demoteDr hlt, by simp [RunningScript.rollsBackLate, hstage]⟩⟩

theorem stuck_of_regressed (hregressed : Regressed roles) : DeadEnd.Stuck roles := by
  obtain ⟨hlt⟩ := hregressed
  exact ⟨rfl, rfl, hlt.ne'⟩

/-- After a regression the scripts only check the databases. -/
theorem checks_of_regressed (hregressed : Regressed roles) (haware : Aware roles stage) :
    DeadEnd.Checks roles stage := by
  obtain ⟨hlt⟩ := hregressed
  cases stage with
  | standbyConfigured primaryBefore => cases haware
  | demoting drRuntime epoch =>
      obtain ⟨hroles, hbehind⟩ := haware
      cases hroles
      exact hlt.not_gt hbehind
  | _ => exact haware

end Knowledge

/-! ## Steps -/

section Steps

variable {roles roles' : Roles} {system : FailoverSystem} {command : FailoverCommand}
  {scripts : List RunningScript} {position : ℕ} {running : RunningScript} {stage : Stage}
  {checksReady : Bool} {change : Change}

theorem Serial.setStage (hserial : Serial roles scripts)
    (hlast : position + 1 = scripts.length) (haware : Aware roles' stage) :
    Serial roles' (scripts.set position { running with stage }) := by
  intro other script hscript
  rw [List.length_set]
  by_cases hother : position = other
  · subst hother
    rw [List.getElem?_set_self (by omega)] at hscript
    cases hscript
    exact .inr ⟨hlast, haware⟩
  · rw [List.getElem?_set_ne hother] at hscript
    rcases hserial other script hscript with hended | ⟨hlength, -⟩
    · exact .inl hended
    · omega

theorem aware_executed {backends : Backends} {next : Plan}
    (hplan : plan running checksReady = some next)
    (hnone : changeOf backends running next = none) :
    Aware roles (execute backends next).2 := by
  cases next with
  | goOn stage => exact aware_goOn hplan
  | transition database input stage =>
      cases hok : transitionBackendRuntime (backends.database database) input with
      | error error =>
          simp only [execute, hok]
          exact trivial
      | ok table => simp [changeOf, hok, Except.isOk, Except.toBool] at hnone

theorem serial_start (hended : scripts.all (·.isEnded) = true) (script : Script)
    (reason : Text) : Serial roles (scripts ++ [begun script reason]) := by
  intro position running hrunning
  by_cases hold : position < scripts.length
  · rw [List.getElem?_append_left hold] at hrunning
    exact .inl (List.all_eq_true.mp hended running (List.mem_of_getElem? hrunning))
  · rw [List.getElem?_append_right (not_lt.mp hold)] at hrunning
    obtain ⟨hposition, hbegun⟩ := List.getElem?_eq_some_iff.mp hrunning
    have hlast : position = scripts.length := by
      simp only [List.length_singleton] at hposition
      omega
    refine .inr ⟨by rw [hlast, List.length_append, List.length_singleton], ?_⟩
    rw [← hbegun, List.getElem_singleton]
    cases script <;> first | exact trivial | exact current_none roles

/-- Nothing is done to a script that has ended. -/
theorem step_of_ended (hrunning : system.scripts[position]? = some running)
    (hended : running.isEnded = true) :
    (∀ database, step system (.read position database) = system)
      ∧ (∀ checksReady, step system (.proceed position checksReady) = system)
      ∧ step system (.stop position) = system := by
  obtain ⟨answer, hstage⟩ := ended_of_isEnded hended
  have hset : system.setStage position running (.ended answer) = system := by
    obtain ⟨hposition, rfl⟩ := List.getElem?_eq_some_iff.mp hrunning
    rw [FailoverSystem.setStage, ← hstage]
    exact congrArg (FailoverSystem.mk system.backends) (List.set_getElem_self hposition)
  refine ⟨fun database => ?_, fun checksReady => ?_, ?_⟩
  · simp only [step, hrunning, readState, hstage, hset]
  · simp only [step, hrunning, plan, hstage]
  · simp only [step, hrunning, hended, if_true]

/-- Steps without a change leave the databases and what the scripts know. -/
theorem serial_of_no_change (hstands : Stands system.backends roles)
    (hserial : Serial roles system.scripts) (hone : oneAtATime system command = true)
    (hnone : madeChange system command = none) : Serial roles (step system command).scripts := by
  cases command with
  | start script reason => exact serial_start hone script reason
  | read position database =>
      cases hrunning : system.scripts[position]? with
      | none => simpa only [step, hrunning] using hserial
      | some running =>
          rcases hserial position running hrunning with hended | ⟨hlast, haware⟩
          · rwa [(step_of_ended hrunning hended).1]
          · simp only [step, hrunning]
            exact hserial.setStage hlast (aware_read hstands haware)
  | proceed position checksReady =>
      cases hrunning : system.scripts[position]? with
      | none => simpa only [step, hrunning] using hserial
      | some running =>
          rcases hserial position running hrunning with hended | ⟨hlast, haware⟩
          · rwa [(step_of_ended hrunning hended).2.1]
          · cases hplan : plan running checksReady with
            | none => simpa only [step, hrunning, hplan] using hserial
            | some next =>
                have hof : changeOf system.backends running next = none := by
                  simpa only [madeChange, hrunning, hplan, Option.bind_some] using hnone
                rw [step_proceed hrunning hplan]
                exact hserial.setStage hlast (aware_executed hplan hof)
  | stop position =>
      cases hrunning : system.scripts[position]? with
      | none => simpa only [step, hrunning] using hserial
      | some running =>
          rcases hserial position running hrunning with hended | ⟨hlast, haware⟩
          · rwa [(step_of_ended hrunning hended).2.2]
          · by_cases hended : running.isEnded = true
            · rwa [(step_of_ended hrunning hended).2.2]
            · simp only [step, hrunning, if_neg hended]
              have haware' : Aware roles (.ended .stopped) := trivial
              exact hserial.setStage hlast haware'

/-- The databases stand in the round, or they have left it for good. -/
def Regular (roles : Roles) : Prop := InRound roles ∨ Regressed roles

/-- A step of serial scripts is a move, or a late rollback that leaves the round. -/
theorem serial_step (hstands : Stands system.backends roles)
    (hserial : Serial roles system.scripts) (hregular : Regular roles)
    (hone : oneAtATime system command = true) :
    ∃ roles', Stands (step system command).backends roles'
      ∧ Serial roles' (step system command).scripts
      ∧ ((Move roles roles' ∧ rollsBackLate system command = false)
        ∨ (Regression roles roles' ∧ rollsBackLate system command = true)) := by
  cases hchange : madeChange system command with
  | none =>
      refine ⟨roles, ?_, serial_of_no_change hstands hserial hone hchange, .inl ⟨.stay _, ?_⟩⟩
      · rwa [backends_of_no_change hchange]
      · rw [rollsBackLate, hchange]
        rfl
  | some change =>
      obtain ⟨position, checksReady, stage, table, rfl, hrunning, hplan, hok, hstep⟩ :=
        madeChange_eq_some hchange
      rcases hserial position _ hrunning with hended | ⟨hlast, haware⟩
      · rw [plan_of_ended hended] at hplan
        cases hplan
      · rcases hregular with hround | hregressed
        · obtain ⟨hnext, hmove⟩ := move_of_planned hround haware (planned hplan)
          rw [hstep, rollsBackLate, hchange]
          exact ⟨_, hstands.transition hok, hserial.setStage hlast hnext, hmove⟩
        · have hchecks := checks_of_regressed hregressed haware
          exact absurd (planned hplan) ((stuck_of_regressed hregressed).not_planned hchecks)

end Steps

/-! ## Runs -/

/-- All the writers that a run leads to, one for each state in which a guard lets writes
through. -/
def writersAlong (commands : List FailoverCommand) : List Writer :=
  writersOf FailoverSystem.opened.backends
    ++ observed step (fun system => writersOf system.backends) .opened commands

/-- What holds of the scripts and the databases while scripts are serial. -/
structure Standing (system : FailoverSystem) (roles : Roles) : Prop where
  stands : Stands system.backends roles
  serial : Serial roles system.scripts
  regular : Regular roles
  positive : 1 ≤ roles.primaryEpoch

section Runs

variable {system : FailoverSystem} {command : FailoverCommand} {roles roles' : Roles}
  {commands : List FailoverCommand}

theorem standing_opened : Standing .opened openedRoles where
  stands := stands_opened
  serial := fun _ _ hrunning => by cases hrunning
  regular := .inl (.normal (.inl rfl))
  positive := le_rfl

theorem history_opened :
    History openedRoles (writersOf FailoverSystem.opened.backends) := by
  have hnone : Remembers openedRoles [] :=
    ⟨List.forall_mem_nil _, List.forall_mem_nil _, fun _ => List.forall_mem_nil _⟩
  rw [writersOf_of_stands stands_opened]
  exact ⟨List.pairwise_singleton _ _, hnone.extend, fun hlt => absurd hlt (lt_irrefl 1)⟩

/-- A writer beside a sealed database has another epoch. -/
theorem Regular.epochs_ne (hregular : Regular roles) (hprimary : roles.primaryRole = .activeWriter)
    (hdr : roles.drRole = .sealed) : roles.drEpoch ≠ roles.primaryEpoch := by
  rcases hregular with hround | hregressed
  · cases hround with
    | normal hrole => cases hdr
    | promoted hrole hlt => cases hprimary
    | restored hlt => exact hlt.ne
  · exact (stuck_of_regressed hregressed).epochs

theorem Regular.one_writer (hregular : Regular roles) : roles.writers.length ≤ 1 :=
  hregular.elim InRound.one_writer Regressed.one_writer

theorem Standing.step (hstanding : Standing system roles)
    (hone : oneAtATime system command = true) :
    ∃ roles', Standing (step system command) roles'
      ∧ ((Move roles roles' ∧ rollsBackLate system command = false)
        ∨ (Regression roles roles' ∧ rollsBackLate system command = true)) := by
  obtain ⟨hstands, hserial, hregular, hpositive⟩ := hstanding
  obtain ⟨roles', hstands', hserial', hmove⟩ := serial_step hstands hserial hregular hone
  refine ⟨roles', ⟨hstands', hserial', ?_, ?_⟩, hmove⟩
  · rcases hmove with ⟨hmove, -⟩ | ⟨hregression, -⟩
    · rcases hregular with hround | hregressed
      · exact .inl (hround.move hmove)
      · exact .inr (hregressed.move hmove)
    · exact .inr hregression.regressed
  · rcases hmove with ⟨hmove, -⟩ | ⟨hregression, -⟩
    · exact hpositive.trans hmove.primaryEpoch_le
    · exact hpositive.trans hregression.primaryEpoch_le

theorem standing_exec
    (hserial : Safely step (fun system command => oneAtATime system command = true) .opened
      commands) : ∃ roles, Standing (exec step .opened commands) roles := by
  apply invariant_of_safely (fun system => ∃ roles, Standing system roles) ?_
    ⟨openedRoles, standing_opened⟩ hserial
  rintro system command ⟨roles, hstanding⟩ hone
  obtain ⟨roles', hnext, -⟩ := hstanding.step hone
  exact ⟨roles', hnext⟩

/-- While scripts run one at a time there are never two writers, however the scripts are
interrupted; and the epochs put the writers in order exactly as long as no freeze of the primary
is rolled back after the standby has been promoted. -/
theorem serial_writers
    (hserial : Safely step (fun system command => oneAtATime system command = true) .opened
      commands) :
    (∀ before, before <+: commands →
        (writersOf (exec step .opened before).backends).length ≤ 1)
      ∧ ((writersAlong commands).Pairwise InOrder ↔
        Safely step (fun system command => ¬ rollsBackLate system command = true) .opened
          commands) := by
  constructor
  · rintro before ⟨after, rfl⟩
    obtain ⟨roles, hstanding⟩ := standing_exec (safely_append.mp hserial).1
    rw [writersOf_of_stands hstanding.stands]
    exact hstanding.regular.one_writer
  · apply observed_iff (fun past later hall => (List.pairwise_append.mp hall).1)
      (fun system past => ∃ roles, Standing system roles ∧ InRound roles ∧ History roles past)
      ?_ ?_ ?_ hserial
    · rintro system past ⟨roles, -, -, hhistory⟩
      exact hhistory.inOrder
    · rintro system past command ⟨roles, hstanding, hround, hhistory⟩ hone
      obtain ⟨roles', hnext, hmove⟩ := hstanding.step hone
      rw [writersOf_of_stands hnext.stands, Bool.not_eq_true]
      rcases hmove with ⟨hmove, hkeeps⟩ | ⟨hregression, hlate⟩
      · exact .inl ⟨hkeeps, roles', hnext, hround.move hmove, hhistory.move hround hmove⟩
      · exact .inr ⟨hlate, hregression.not_inOrder hhistory⟩
    · exact ⟨openedRoles, standing_opened, .normal (.inl rfl), history_opened⟩

end Runs

/-- The standby is promoted and frozen again, and then the freeze of the primary is rolled
back. -/
def lateRun : List FailoverCommand :=
  [.start .prepareDrFailover sampleReason, .proceed 0 true] ++ lookAndProceed 0
    ++ [.proceed 0 true] ++ lookAndProceed 0
    ++ [.start .promoteDr sampleReason] ++ lookAndProceed 1
    ++ [.start .preparePrimaryFailback sampleReason] ++ lookAndProceed 2 ++ lookAndProceed 2
    ++ [.start .rollbackPrimaryFreeze sampleReason] ++ lookAndProceed 3

theorem serial_writers_lateRun : ¬ (writersAlong lateRun).Pairwise InOrder :=
  fun hinOrder => absurd ((serial_writers (by decide)).2.mp hinOrder) (by decide)

end Stallorder.SerialFailover
