import Stallorder.Resilience.FailoverSteps

/-!
# Two writers at once

The scripts look at both databases and change one of them, so what a script has
seen of the other database may be out of date when it changes its own.  In any
interleaving this is the only way to two writers.
-/

namespace Stallorder.SplitBrain

open BackendRuntime FailoverProtocol FailoverScripts FailoverSteps Run

def otherDatabase : BackendCode → BackendCode
  | .primary => .dr
  | .dr => .primary

/-- The role in which a script has last seen a database.  A script that has configured the
standby has seen it there. -/
def seenRole (running : RunningScript) (code : BackendCode) : Option BackendRole :=
  match running.stage, code with
  | .reading readings, .primary => readings.primary.map (·.backendRole)
  | .reading readings, .dr => readings.dr.map (·.backendRole)
  | .standbyConfigured _, .dr => some .readOnlyStandby
  | _, _ => none

/-- A script activates a database while the other one is a writer, which was not one when the
script saw it. -/
def overtaken (system : FailoverSystem) (command : FailoverCommand) : Bool :=
  (madeChange system command).any fun change =>
    change.activates change.database
      && (seenRole change.running (otherDatabase change.database)).any (· ≠ .activeWriter)
      && (writersOf system.backends).any (·.code = otherDatabase change.database)

def splitBrain (system : FailoverSystem) : Bool := 2 ≤ (writersOf system.backends).length

/-! ## Plans -/

section Plans

variable {running : RunningScript} {database : BackendCode} {epoch : ℕ} {stage : Stage}

/-- A script plans to activate a database only when it has seen that the other one is not a
writer. -/
theorem seenRole_of_activation (hplanned : Planned running database .activeWriter epoch stage) :
    (seenRole running (otherDatabase database)).any (· ≠ .activeWriter) = true := by
  cases hplanned with
  | enforcePrimary hstage => simp [seenRole, hstage, otherDatabase]
  | unfreezePrimary hscript hstage hprimary hdr => simp [seenRole, hstage, otherDatabase, hdr]
  | promoteDr hscript hstage hprimary hdr => simp [seenRole, hstage, otherDatabase, hprimary]
  | unfreezeDr hscript hstage hprimary hdr => simp [seenRole, hstage, otherDatabase, hprimary]
  | promotePrimary hscript hstage hprimary hdr => simp [seenRole, hstage, otherDatabase, hdr]

end Plans

/-! ## Runs -/

section Runs

variable {system : FailoverSystem} {command : FailoverCommand} {roles : Roles}

theorem splitBrain_iff (hstands : Stands system.backends roles) :
    splitBrain system = true ↔
      roles.primaryRole = .activeWriter ∧ roles.drRole = .activeWriter := by
  rw [splitBrain, writersOf_of_stands hstands]
  by_cases hprimary : roles.primaryRole = .activeWriter <;>
    by_cases hdr : roles.drRole = .activeWriter <;> simp [Roles.writers, hprimary, hdr]

theorem writes_other_iff {code : BackendCode} (hstands : Stands system.backends roles) :
    (writersOf system.backends).any (·.code = code) = true ↔ role roles code = .activeWriter := by
  rw [writersOf_of_stands hstands, List.any_eq_true]
  constructor
  · rintro ⟨writer, hwriter, hcode⟩
    rcases mem_writers_iff.mp hwriter with ⟨rfl, hrole⟩ | ⟨rfl, hrole⟩
    · rw [← of_decide_eq_true hcode]
      exact hrole
    · rw [← of_decide_eq_true hcode]
      exact hrole
  · intro hrole
    refine ⟨⟨code, epoch roles code⟩, mem_writers_iff.mpr ?_, decide_eq_true rfl⟩
    cases code with
    | primary => exact .inl ⟨rfl, hrole⟩
    | dr => exact .inr ⟨rfl, hrole⟩

/-- A change leads to two writers when it activates a database beside another writer. -/
theorem splitBrain_transition {backends : Backends} {scripts : List RunningScript}
    {code : BackendCode} {input : TransitionInput} {table : RuntimeTable}
    (hstands : Stands backends roles)
    (hok : transitionBackendRuntime (backends.database code) input = .ok table) :
    splitBrain ⟨backends.setDatabase code table, scripts⟩ = true ↔
      input.targetBackendRole = .activeWriter
        ∧ role roles (otherDatabase code) = .activeWriter := by
  rw [splitBrain_iff (hstands.transition hok)]
  cases code with
  | primary => exact Iff.rfl
  | dr => exact and_comm

/-- One step leads to two writers exactly when its script is overtaken. -/
theorem splitBrain_step_iff (hstands : Stands system.backends roles)
    (hone : splitBrain system = false) :
    splitBrain (step system command) = true ↔ overtaken system command = true := by
  cases hchange : madeChange system command with
  | none =>
      rw [overtaken, hchange, splitBrain, backends_of_no_change hchange, ← splitBrain, hone]
      rfl
  | some change =>
      obtain ⟨position, checksReady, stage, table, -, -, hplan, hok, hstep⟩ :=
        madeChange_eq_some hchange
      have hseen : change.input.targetBackendRole = .activeWriter →
          (seenRole change.running (otherDatabase change.database)).any (· ≠ .activeWriter)
            = true := by
        intro hactivates
        have hplanned := planned hplan
        rw [hactivates] at hplanned
        exact seenRole_of_activation hplanned
      rw [hstep, FailoverSystem.setStage, splitBrain_transition hstands hok,
        ← writes_other_iff hstands, overtaken, hchange, Option.any_some, Change.activates]
      simp only [Bool.and_eq_true, decide_eq_true_eq, true_and]
      constructor
      · rintro ⟨hactivates, hother⟩
        exact ⟨⟨hactivates, hseen hactivates⟩, hother⟩
      · rintro ⟨⟨hactivates, -⟩, hother⟩
        exact ⟨hactivates, hother⟩

theorem stands_step (hstands : Stands system.backends roles) (command : FailoverCommand) :
    ∃ roles', Stands (step system command).backends roles' := by
  cases hchange : madeChange system command with
  | none => exact ⟨roles, (backends_of_no_change hchange).symm ▸ hstands⟩
  | some change =>
      obtain ⟨position, checksReady, stage, table, -, -, -, hok, hstep⟩ :=
        madeChange_eq_some hchange
      rw [hstep]
      exact ⟨_, hstands.transition hok⟩

/-- Both databases know their roles, and not both are writers. -/
def HasOneWriter (system : FailoverSystem) : Prop :=
  (∃ roles, Stands system.backends roles) ∧ splitBrain system = false

/-- From the databases as `initialize-production-dr` leaves them, in any interleaving of the scripts,
there are never two writers if and only if no script is overtaken. -/
theorem never_splitBrain_iff (commands : List FailoverCommand) :
    (∀ before, before <+: commands → splitBrain (exec step .opened before) = false) ↔
      Safely step (fun system command => overtaken system command = false) .opened commands := by
  have hopened : HasOneWriter .opened := ⟨⟨openedRoles, stands_opened⟩, rfl⟩
  have hagree : ∀ system command, HasOneWriter system →
      (splitBrain (step system command) = false ↔ overtaken system command = false) := by
    rintro system command ⟨⟨roles, hstands⟩, hone⟩
    rw [← Bool.not_eq_true, ← Bool.not_eq_true]
    exact not_congr (splitBrain_step_iff hstands hone)
  calc (∀ before, before <+: commands → splitBrain (exec step .opened before) = false)
    _ ↔ splitBrain .opened = false
          ∧ Safely step (fun system command => splitBrain (step system command) = false)
              .opened commands :=
        forall_prefix_iff (fun system => splitBrain system = false)
    _ ↔ Safely step (fun system command => splitBrain (step system command) = false)
          .opened commands := and_iff_right hopened.2
    _ ↔ Safely step (fun system command => overtaken system command = false)
          .opened commands := by
        apply safely_congr HasOneWriter hagree ?_ hopened commands
        intro system command hsystem hsafe
        obtain ⟨roles, hstands⟩ := hsystem.1
        exact ⟨stands_step hstands command, (hagree system command hsystem).mpr hsafe⟩

end Runs

/-! ## An interleaving -/

/-- The primary is unfrozen while the standby is promoted. -/
def crossing : List FailoverCommand :=
  [.start .prepareDrFailover sampleReason, .proceed 0 true] ++ lookAndProceed 0
    ++ [.proceed 0 true] ++ lookAndProceed 0
    ++ [.start .promoteDr sampleReason, .start .rollbackPrimaryFreeze sampleReason,
      .read 1 .primary, .read 1 .dr] ++ lookAndProceed 2 ++ [.proceed 1 true]

example : splitBrain (exec step .opened crossing) = true := by decide

end Stallorder.SplitBrain
