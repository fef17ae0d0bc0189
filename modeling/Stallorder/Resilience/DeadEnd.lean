import Stallorder.Resilience.FailoverSteps

/-!
# A writer without a standby

A failback changes the two databases one after the other.  When it is stopped in
between, or when the primary is unfrozen behind a standby that is ahead of it, the
primary is the writer and the standby stays sealed.  The scripts do not lead
out of this, whatever is started afterwards.
-/

namespace Stallorder.DeadEnd

open BackendRuntime FailoverProtocol FailoverScripts FailoverSteps Run

/-- The primary is the writer beside a sealed database of another epoch. -/
structure Stuck (roles : Roles) : Prop where
  primary : roles.primaryRole = .activeWriter
  dr : roles.drRole = .sealed
  epochs : roles.drEpoch ≠ roles.primaryEpoch

/-- A script is at a stage at which it still has to check the databases. -/
def Checks (roles : Roles) : Stage → Prop
  | .preflight => True
  | .reading readings => Current roles readings
  | .inspecting readings => Current roles readings
  | .standbyConfigured _ => False
  | .demoting _ _ => False
  | .ended _ => True

section Checks

variable {roles : Roles} {running : RunningScript} {database : BackendCode} {newRole : BackendRole}
  {newEpoch : ℕ} {stage : Stage} {backends : Backends} {checksReady : Bool} {next : Plan}

/-- Nothing is planned there. -/
theorem Stuck.not_planned (hstuck : Stuck roles) (hchecks : Checks roles running.stage) :
    ¬ Planned running database newRole newEpoch stage := by
  obtain ⟨hactive, hsealed, hepochs⟩ := hstuck
  intro hplanned
  cases hplanned with
  | configureStandby hscript hstage hprimary hepoch =>
      rw [hstage] at hchecks
      obtain ⟨rfl, rfl⟩ := Current.eq hchecks
      exact hepochs (hepoch rfl)
  | enforcePrimary hstage =>
      rw [hstage] at hchecks
      exact hchecks
  | freezePrimary hstage hprimary hdr =>
      rw [hstage] at hchecks
      obtain ⟨rfl, rfl⟩ := Current.eq hchecks
      cases hdr.symm.trans hsealed
  | unfreezePrimary hscript hstage hprimary hdr =>
      rw [hstage] at hchecks
      obtain ⟨rfl, rfl⟩ := Current.eq hchecks
      cases hprimary.symm.trans hactive
  | promoteDr hscript hstage hprimary hdr =>
      rw [hstage] at hchecks
      obtain ⟨rfl, rfl⟩ := Current.eq hchecks
      cases hprimary.symm.trans hactive
  | freezeDr hstage hprimary hdr =>
      rw [hstage] at hchecks
      obtain ⟨rfl, rfl⟩ := Current.eq hchecks
      exact hprimary hactive
  | unfreezeDr hscript hstage hprimary hdr =>
      rw [hstage] at hchecks
      obtain ⟨rfl, rfl⟩ := Current.eq hchecks
      exact hprimary hactive
  | promotePrimary hscript hstage hprimary hdr =>
      rw [hstage] at hchecks
      obtain ⟨rfl, rfl⟩ := Current.eq hchecks
      exact hprimary hactive
  | demoteDr hstage =>
      rw [hstage] at hchecks
      exact hchecks

theorem checks_begun (roles : Roles) (script : Script) (reason : Text) :
    Checks roles (begun script reason).stage := by
  cases script with
  | prepareDrFailover => exact trivial
  | _ => exact current_none roles

theorem checks_read (hstands : Stands backends roles) (hchecks : Checks roles running.stage) :
    Checks roles (readState backends database running) := by
  have hstate : (backends.database database).currentState
      = some (fencedState database (role roles database) (epoch roles database)) :=
    hstands database
  cases hstage : running.stage with
  | reading readings =>
      rw [hstage] at hchecks
      simp only [readState, hstage, hstate]
      exact Current.add hchecks database
  | inspecting readings =>
      rw [hstage] at hchecks
      simp only [readState, hstage, hstate]
      exact Current.add hchecks database
  | _ =>
      rw [hstage] at hchecks
      simpa only [readState, hstage] using hchecks

/-- A plan only goes on to further checks. -/
theorem checks_executed (backends : Backends) (hstuck : Stuck roles)
    (hchecks : Checks roles running.stage) (hplan : plan running checksReady = some next) :
    (execute backends next).1 = backends ∧ Checks roles (execute backends next).2 := by
  cases next with
  | goOn stage =>
      refine ⟨rfl, ?_⟩
      rcases goOn_cases hplan with rfl | rfl | ⟨answer, rfl⟩
      · exact current_none roles
      · exact current_none roles
      · exact trivial
  | transition database input stage => exact absurd (planned hplan) (hstuck.not_planned hchecks)

end Checks

/-! ## Runs -/

/-- The databases are stuck, and all scripts still have to check them. -/
structure AtDeadEnd (backends : Backends) (roles : Roles) (system : FailoverSystem) : Prop where
  unchanged : system.backends = backends
  checks : ∀ running ∈ system.scripts, Checks roles running.stage

section Runs

variable {backends : Backends} {roles : Roles} {system : FailoverSystem}

theorem AtDeadEnd.setStage {position : ℕ} {running : RunningScript} {stage : Stage}
    (hend : AtDeadEnd backends roles system) (hstage : Checks roles stage) :
    AtDeadEnd backends roles (system.setStage position running stage) := by
  refine ⟨hend.unchanged, fun script hscript => ?_⟩
  rcases List.mem_or_eq_of_mem_set hscript with hold | rfl
  · exact hend.checks script hold
  · exact hstage

theorem AtDeadEnd.step (hstands : Stands backends roles) (hstuck : Stuck roles)
    (hend : AtDeadEnd backends roles system) (command : FailoverCommand) :
    AtDeadEnd backends roles (step system command) := by
  obtain ⟨rfl, hchecks⟩ := hend
  cases command with
  | start script reason =>
      refine ⟨rfl, fun running hrunning => ?_⟩
      rcases List.mem_append.mp hrunning with hold | hnew
      · exact hchecks running hold
      · rw [List.mem_singleton.mp hnew]
        exact checks_begun roles script reason
  | read position database =>
      cases hrunning : system.scripts[position]? with
      | none => simpa only [FailoverScripts.step, hrunning] using ⟨rfl, hchecks⟩
      | some running =>
          simp only [FailoverScripts.step, hrunning]
          apply AtDeadEnd.setStage ⟨rfl, hchecks⟩
          exact checks_read hstands (hchecks running (List.mem_of_getElem? hrunning))
  | proceed position checksReady =>
      cases hrunning : system.scripts[position]? with
      | none => simpa only [FailoverScripts.step, hrunning] using ⟨rfl, hchecks⟩
      | some running =>
          cases hplan : plan running checksReady with
          | none => simpa only [FailoverScripts.step, hrunning, hplan] using ⟨rfl, hchecks⟩
          | some next =>
              have hknown := hchecks running (List.mem_of_getElem? hrunning)
              obtain ⟨hsame, hstage⟩ := checks_executed system.backends hstuck hknown hplan
              rw [step_proceed hrunning hplan, hsame]
              exact AtDeadEnd.setStage ⟨rfl, hchecks⟩ hstage
  | stop position =>
      cases hrunning : system.scripts[position]? with
      | none => simpa only [FailoverScripts.step, hrunning] using ⟨rfl, hchecks⟩
      | some running =>
          by_cases hended : running.isEnded = true
          · simpa only [FailoverScripts.step, hrunning, if_pos hended] using ⟨rfl, hchecks⟩
          · simp only [FailoverScripts.step, hrunning, if_neg hended]
            exact AtDeadEnd.setStage ⟨rfl, hchecks⟩ trivial

/-- Once the scripts have ended there, no run of scripts changes a database again. -/
theorem stuck_forever (hstands : Stands system.backends roles) (hstuck : Stuck roles)
    (hended : ∀ running ∈ system.scripts, running.isEnded = true)
    (commands : List FailoverCommand) :
    (exec step system commands).backends = system.backends := by
  have hstart : AtDeadEnd system.backends roles system := by
    refine ⟨rfl, fun running hrunning => ?_⟩
    obtain ⟨answer, hstage⟩ := ended_of_isEnded (hended running hrunning)
    rw [hstage]
    exact trivial
  exact (invariant_exec (AtDeadEnd system.backends roles)
    (fun _ command hend => hend.step hstands hstuck command) hstart commands).unchanged

end Runs

end Stallorder.DeadEnd
