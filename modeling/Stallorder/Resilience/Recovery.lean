import Stallorder.Resilience.SerialFailover

/-!
# The way back to normal operation

From everywhere in the round the scripts lead back to a primary that is the
writer and a standby that stands by.  They do so unless a failback was stopped
between its two changes, or the freeze of the primary was rolled back late.
-/

namespace Stallorder.Recovery

open BackendRuntime FailoverProtocol FailoverScripts FailoverSteps SerialFailover Run

def roleOf (table : RuntimeTable) : Option BackendRole :=
  table.currentState.map (·.backendRole)

def operating (backends : Backends) : Bool :=
  roleOf backends.primary = some .activeWriter && roleOf backends.dr = some .readOnlyStandby

/-- The primary is the writer, and the other database is still sealed. -/
def withoutStandby (backends : Backends) : Bool :=
  roleOf backends.primary = some .activeWriter && roleOf backends.dr = some .sealed

/-- The epochs that the scripts can still count on from. -/
def epochsLeft (backends : Backends) : Bool :=
  [backends.primary, backends.dr].all fun table =>
    table.currentState.any (·.promotionEpoch ≤ maxSafeInteger)

section States

variable {backends : Backends} {roles : Roles}

theorem roleOf_of_stands (hstands : Stands backends roles) :
    roleOf backends.primary = some roles.primaryRole ∧ roleOf backends.dr = some roles.drRole := by
  have hprimary : backends.primary.currentState = some _ := hstands .primary
  have hdr : backends.dr.currentState = some _ := hstands .dr
  rw [roleOf, roleOf, hprimary, hdr]
  exact ⟨rfl, rfl⟩

theorem operating_iff (hstands : Stands backends roles) :
    operating backends = true ↔
      roles.primaryRole = .activeWriter ∧ roles.drRole = .readOnlyStandby := by
  obtain ⟨hprimary, hdr⟩ := roleOf_of_stands hstands
  simp [operating, hprimary, hdr]

theorem withoutStandby_iff (hstands : Stands backends roles) :
    withoutStandby backends = true ↔
      roles.primaryRole = .activeWriter ∧ roles.drRole = .sealed := by
  obtain ⟨hprimary, hdr⟩ := roleOf_of_stands hstands
  simp [withoutStandby, hprimary, hdr]

theorem epochsLeft_iff (hstands : Stands backends roles) :
    epochsLeft backends = true ↔
      roles.primaryEpoch ≤ maxSafeInteger ∧ roles.drEpoch ≤ maxSafeInteger := by
  have hprimary : backends.primary.currentState = some _ := hstands .primary
  have hdr : backends.dr.currentState = some _ := hstands .dr
  simp [epochsLeft, hprimary, hdr, fencedState, role, epoch]

end States

/-! ## Running a script -/

section Running

variable {backends : Backends} {roles : Roles} {scripts : List RunningScript} {script : Script}
  {database : BackendCode} {newRole : BackendRole} {newEpoch : ℕ} {next : Stage}
  {running : RunningScript} {planned : Plan}

def bothRead (roles : Roles) : Readings :=
  ⟨some (fencedState .primary roles.primaryRole roles.primaryEpoch),
    some (fencedState .dr roles.drRole roles.drEpoch)⟩

theorem setStage_last (stage : Stage) :
    FailoverSystem.setStage ⟨backends, scripts ++ [running]⟩ scripts.length running stage =
      ⟨backends, scripts ++ [{ running with stage }]⟩ := by
  rw [FailoverSystem.setStage, List.set_append_right _ _ le_rfl, Nat.sub_self, List.set_cons_zero]

theorem step_read_last (database : BackendCode) :
    step ⟨backends, scripts ++ [running]⟩ (.read scripts.length database) =
      ⟨backends, scripts ++ [{ running with stage := readState backends database running }]⟩ := by
  simp only [step, List.getElem?_concat_length, setStage_last]

theorem step_proceed_last (hplan : plan running true = some planned) :
    step ⟨backends, scripts ++ [running]⟩ (.proceed scripts.length true) =
      ⟨(execute backends planned).1,
        scripts ++ [{ running with stage := (execute backends planned).2 }]⟩ := by
  rw [step_proceed List.getElem?_concat_length hplan, setStage_last]

/-- A script that reads both databases goes on with its plan. -/
theorem exec_look {look : Readings → Stage} (hlook : look = .reading ∨ look = .inspecting)
    (hstands : Stands backends roles)
    (hplan : plan ⟨script, sampleReason, look (bothRead roles)⟩ true = some planned) :
    exec step ⟨backends, scripts ++ [⟨script, sampleReason, look .none⟩]⟩
        (lookAndProceed scripts.length) =
      ⟨(execute backends planned).1,
        scripts ++ [⟨script, sampleReason, (execute backends planned).2⟩]⟩ := by
  have hprimary : (backends.database .primary).currentState = some _ := hstands .primary
  have hdr : (backends.database .dr).currentState = some _ := hstands .dr
  have hread : step (step ⟨backends, scripts ++ [⟨script, sampleReason, look .none⟩]⟩
      (.read scripts.length .primary)) (.read scripts.length .dr)
        = ⟨backends, scripts ++ [⟨script, sampleReason, look (bothRead roles)⟩]⟩ := by
    rw [step_read_last, step_read_last]
    rcases hlook with rfl | rfl <;> simp only [readState, hprimary, hdr] <;> rfl
  rw [lookAndProceed, exec_cons, exec_cons, hread, exec_cons, step_proceed_last hplan, exec_nil]

/-- A script other than the preparation of a failover starts by reading both databases. -/
theorem exec_script (hscript : script ≠ .prepareDrFailover) (hstands : Stands backends roles)
    (hplan : plan ⟨script, sampleReason, .reading (bothRead roles)⟩ true = some planned) :
    exec step ⟨backends, scripts⟩
        (.start script sampleReason :: lookAndProceed scripts.length) =
      ⟨(execute backends planned).1,
        scripts ++ [⟨script, sampleReason, (execute backends planned).2⟩]⟩ := by
  have hbegun : begun script sampleReason = ⟨script, sampleReason, .reading .none⟩ := by
    rw [begun, if_neg hscript]
  rw [exec_cons, step, hbegun]
  exact exec_look (.inl rfl) hstands hplan

theorem execute_goOn (stage : Stage) : execute backends (.goOn stage) = (backends, stage) := rfl

/-- A change that the databases let through. -/
theorem execute_change (hstands : Stands backends roles) (database : BackendCode)
    (newRole : BackendRole) (newEpoch : ℕ) (next : Stage)
    (hmay : mayFollow (role roles database) newRole = true)
    (hle : epoch roles database ≤ newEpoch)
    (hadvances : role roles database = .readOnlyStandby → newRole = .activeWriter →
      epoch roles database < newEpoch) :
    ∃ backends', execute backends (.transition database
        (changeRole database (epoch roles database) newRole newEpoch sampleReason) next)
          = (backends', next)
      ∧ Stands backends' (change roles database newRole newEpoch) := by
  have hreason : SqlText.trimmedLength sampleReason 10 500 = true := by decide
  obtain ⟨table, hok⟩ : ∃ table, transitionBackendRuntime (backends.database database)
      (changeRole database (epoch roles database) newRole newEpoch sampleReason) = .ok table :=
    transition_ok (hstands database) ⟨rfl, rfl⟩ rfl hmay hle hadvances hreason
  refine ⟨backends.setDatabase database table, ?_, hstands.transition hok⟩
  simp only [execute, hok]

end Running

/-! ## The ways back -/

/-- Some run leads to these roles. -/
def Leads (system : FailoverSystem) (roles : Roles) : Prop :=
  ∃ after, Stands (exec step system after).backends roles

section Ways

variable {backends : Backends} {scripts : List RunningScript} {epoch drEpoch : ℕ}

/-- The freeze of the primary is rolled back. -/
theorem leads_of_frozen (hstands : Stands backends ⟨.sealed, epoch, .readOnlyStandby, epoch⟩) :
    Leads ⟨backends, scripts⟩ ⟨.activeWriter, epoch, .readOnlyStandby, epoch⟩ := by
  obtain ⟨backends', hexecute, hstands'⟩ :=
    execute_change hstands .primary .activeWriter epoch (.ended .done) rfl le_rfl
      (fun hstandby => by cases hstandby)
  refine ⟨.start .rollbackPrimaryFreeze sampleReason :: lookAndProceed scripts.length, ?_⟩
  have hplan : plan ⟨.rollbackPrimaryFreeze, sampleReason,
      .reading (bothRead ⟨.sealed, epoch, .readOnlyStandby, epoch⟩)⟩ true = some (.transition
        .primary (changeRole .primary epoch .activeWriter epoch sampleReason) (.ended .done)) := rfl
  rw [exec_script (by decide) hstands hplan]
  exact hexecute ▸ hstands'

theorem planPromotePrimary_eq {reason : Text} {primary dr : CurrentState} {newEpoch : ℕ}
    (hready : failbackReadiness true primary dr = true)
    (hnext : nextPromotionEpoch primary.promotionEpoch dr.promotionEpoch = some newEpoch) :
    planPromotePrimary reason true primary dr = .transition .primary
      (changeRole .primary primary.promotionEpoch .activeWriter newEpoch reason)
      (.demoting dr newEpoch) := by
  simp only [planPromotePrimary, hready, hnext, Bool.and_self, Bool.not_true, Bool.false_eq_true,
    if_false]

/-- The frozen standby hands the writer back, and becomes a standby again. -/
theorem leads_of_frozenDr (scripts : List RunningScript) (hlt : epoch < drEpoch)
    (hsafe : 1 ≤ epoch ∧ drEpoch ≤ maxSafeInteger)
    (hstands : Stands backends ⟨.sealed, epoch, .sealed, drEpoch⟩) :
    Leads ⟨backends, scripts⟩ ⟨.activeWriter, drEpoch + 1, .readOnlyStandby, drEpoch + 1⟩ := by
  have hnext : nextPromotionEpoch epoch drEpoch = some (drEpoch + 1) := by
    rw [nextPromotionEpoch, if_pos (by omega), max_eq_right hlt.le]
  have hplan : plan ⟨.promotePrimary, sampleReason,
      .reading (bothRead ⟨.sealed, epoch, .sealed, drEpoch⟩)⟩ true = some (.transition
        .primary (changeRole .primary epoch .activeWriter (drEpoch + 1) sampleReason)
        (.demoting (fencedState .dr .sealed drEpoch) (drEpoch + 1))) := by
    exact congrArg some (planPromotePrimary_eq rfl hnext)
  obtain ⟨promoted, hpromote, hstands'⟩ :=
    execute_change hstands .primary .activeWriter (drEpoch + 1)
      (.demoting (fencedState .dr .sealed drEpoch) (drEpoch + 1)) rfl
      (hlt.le.trans (Nat.le_succ _)) (fun hstandby => by cases hstandby)
  obtain ⟨demoted, hdemote, hstands''⟩ :=
    execute_change hstands' .dr .readOnlyStandby (drEpoch + 1) (.ended .done) rfl
      (Nat.le_succ drEpoch) (fun _ hactive => by cases hactive)
  have hplan' : plan ⟨.promotePrimary, sampleReason,
      .demoting (fencedState .dr .sealed drEpoch) (drEpoch + 1)⟩ true = some (.transition
        .dr (changeRole .dr drEpoch .readOnlyStandby (drEpoch + 1) sampleReason)
        (.ended .done)) := rfl
  have hfirst : execute backends (.transition .primary
      (changeRole .primary epoch .activeWriter (drEpoch + 1) sampleReason)
      (.demoting (fencedState .dr .sealed drEpoch) (drEpoch + 1))) = (promoted, _) := hpromote
  have hsecond : execute promoted (.transition .dr
      (changeRole .dr drEpoch .readOnlyStandby (drEpoch + 1) sampleReason) (.ended .done))
        = (demoted, _) := hdemote
  refine ⟨(.start .promotePrimary sampleReason :: lookAndProceed scripts.length)
    ++ [.proceed scripts.length true], ?_⟩
  rw [exec_append, exec_script (by decide) hstands hplan, hfirst, exec_cons,
    step_proceed_last hplan', hsecond, exec_nil]
  exact hstands''

/-- The standby is frozen first. -/
theorem leads_of_promoted (hlt : epoch < drEpoch)
    (hsafe : 1 ≤ epoch ∧ drEpoch ≤ maxSafeInteger)
    (hstands : Stands backends ⟨.sealed, epoch, .activeWriter, drEpoch⟩) :
    Leads ⟨backends, scripts⟩ ⟨.activeWriter, drEpoch + 1, .readOnlyStandby, drEpoch + 1⟩ := by
  obtain ⟨frozen, hfreeze, hstands'⟩ :=
    execute_change hstands .dr .sealed drEpoch (.ended .done) rfl le_rfl
      (fun hstandby => by cases hstandby)
  have hpreflight : plan ⟨.preparePrimaryFailback, sampleReason,
      .reading (bothRead ⟨.sealed, epoch, .activeWriter, drEpoch⟩)⟩ true
        = some (.goOn (.inspecting .none)) := rfl
  have hplan : plan ⟨.preparePrimaryFailback, sampleReason,
      .inspecting (bothRead ⟨.sealed, epoch, .activeWriter, drEpoch⟩)⟩ true = some (.transition
        .dr (changeRole .dr drEpoch .sealed drEpoch sampleReason) (.ended .done)) := rfl
  have hexecute : execute backends (.transition .dr
      (changeRole .dr drEpoch .sealed drEpoch sampleReason) (.ended .done)) = (frozen, _) :=
    hfreeze
  obtain ⟨after, hafter⟩ := leads_of_frozenDr
    (scripts ++ [⟨.preparePrimaryFailback, sampleReason, .ended .done⟩]) hlt hsafe hstands'
  refine ⟨(.start .preparePrimaryFailback sampleReason :: lookAndProceed scripts.length)
    ++ (lookAndProceed scripts.length ++ after), ?_⟩
  rw [exec_append, exec_script (by decide) hstands hpreflight, execute_goOn, exec_append,
    exec_look (.inr rfl) hstands hplan, hexecute]
  exact hafter

end Ways

/-! ## When there is a way back -/

/-- After any run of serial scripts, interrupted or not, the scripts lead back to normal operation
if and only if they have not left the primary without a standby. -/
theorem recoverable_iff {before : List FailoverCommand}
    (hserial : Safely step (fun system command => oneAtATime system command = true) .opened before)
    (hended : ∀ running ∈ (exec step .opened before).scripts, running.isEnded = true)
    (hepochs : epochsLeft (exec step .opened before).backends = true) :
    (∃ after, operating (exec step .opened (before ++ after)).backends = true) ↔
      withoutStandby (exec step .opened before).backends = false := by
  obtain ⟨roles, hstands, hserialScripts, hregular, hpositive⟩ := standing_exec hserial
  rw [← Bool.not_eq_true, withoutStandby_iff hstands]
  constructor
  · rintro ⟨after, hoperating⟩ ⟨hprimary, hdr⟩
    have hstuck : DeadEnd.Stuck roles := ⟨hprimary, hdr, hregular.epochs_ne hprimary hdr⟩
    rw [exec_append, DeadEnd.stuck_forever hstands hstuck hended, operating_iff hstands, hdr]
      at hoperating
    cases hoperating.2
  · intro hstandby
    obtain ⟨hprimarySafe, hdrSafe⟩ := (epochsLeft_iff hstands).mp hepochs
    obtain ⟨epoch, hleads⟩ : ∃ epoch, Leads (exec step .opened before)
        ⟨.activeWriter, epoch, .readOnlyStandby, epoch⟩ := by
      rcases hregular with hround | hregressed
      · cases hround with
        | @normal role epoch hrole =>
            rcases hrole with rfl | rfl
            · exact ⟨epoch, [], hstands⟩
            · exact ⟨epoch, leads_of_frozen hstands⟩
        | @promoted role epoch drEpoch hrole hlt =>
            rcases hrole with rfl | rfl
            · exact ⟨drEpoch + 1, leads_of_promoted hlt ⟨hpositive, hdrSafe⟩ hstands⟩
            · exact ⟨drEpoch + 1, leads_of_frozenDr _ hlt ⟨hpositive, hdrSafe⟩ hstands⟩
        | restored hlt => exact absurd ⟨rfl, rfl⟩ hstandby
      · obtain ⟨hlt⟩ := hregressed
        exact absurd ⟨rfl, rfl⟩ hstandby
    obtain ⟨after, hafter⟩ := hleads
    refine ⟨after, ?_⟩
    rw [exec_append]
    exact (operating_iff hafter).mpr ⟨rfl, rfl⟩

/-- A failback that is stopped between its two changes. -/
def interruptedRun : List FailoverCommand :=
  [.start .prepareDrFailover sampleReason, .proceed 0 true] ++ lookAndProceed 0
    ++ [.proceed 0 true] ++ lookAndProceed 0
    ++ [.start .promoteDr sampleReason] ++ lookAndProceed 1
    ++ [.start .preparePrimaryFailback sampleReason] ++ lookAndProceed 2 ++ lookAndProceed 2
    ++ [.start .promotePrimary sampleReason] ++ lookAndProceed 3 ++ [.stop 3]

theorem recoverable_iff_interruptedRun :
    ¬ ∃ after, operating (exec step .opened (interruptedRun ++ after)).backends = true :=
  fun hleads => absurd ((recoverable_iff (by decide) (by decide) (by decide)).mp hleads)
    (by decide)

end Stallorder.Recovery
