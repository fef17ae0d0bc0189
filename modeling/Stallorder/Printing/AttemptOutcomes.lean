import Stallorder.Printing.PrintJobs

/-!
# Outcomes of print attempts

Each request changes the job in one of a few ways, and from these follows what
holds of the attempts of a job in every run.  A report carries no attempt, so
its update also matches a later attempt that is being printed: a late report
leaves the job alone exactly when no attempt is being printed as it arrives.
-/

namespace Stallorder.PrintJobs

open Checks Run

/-- What one step can do to the job. -/
inductive Change (before : PrintJob) : PrintJob → Prop
  | same : Change before before
  | noted (error : Option Text) : Change before { before with lastError := error }
  | started (printerId : ℕ) (now : Timestamp) (hwaiting : isWaiting before = true)
      (hattempts : before.attemptCount < before.maxAttempts) :
      Change before (startPrinting printerId now before)
  | succeeded (now : Timestamp) (hprinting : before.status = .printing) :
      Change before (markSucceeded now before)
  | failed (error : Text) (nextRetryAt : Option Timestamp) (hprinting : before.status = .printing) :
      Change before (markFailed error nextRetryAt before)
  | retried (hfailed : before.status = .failed) :
      Change before { before with
        status := .pending
        lastError := none
        nextRetryAt := none
        printingAt := none }
  | cancelled (hwaiting : isWaiting before = true) :
      Change before { before with status := .cancelled, nextRetryAt := none }

section Changes

variable {job after : PrintJob} {printer : Option Printer} {ruleActive : Bool} {now : Timestamp}
  {condition : PrintJob → Bool} {data : PrintJob → PrintJob} {error : Text}

theorem updateMany_eq_some_iff :
    updateMany condition data job = some after ↔ condition job = true ∧ data job = after := by
  unfold updateMany
  by_cases hcondition : condition job = true
  · rw [if_pos hcondition, Option.some.injEq]
    exact ⟨fun heq => ⟨hcondition, heq⟩, fun hboth => hboth.2⟩
  · rw [if_neg hcondition]
    constructor
    · intro hnone
      cases hnone
    · exact fun hboth => absurd hboth.1 hcondition

/-- An update that may find nothing to change. -/
theorem change_updateMany (hchange : condition job = true → Change job (data job)) :
    Change job ((updateMany condition data job).getD job) := by
  unfold updateMany
  by_cases hcondition : condition job = true
  · rw [if_pos hcondition]
    exact hchange hcondition
  · rw [if_neg hcondition]
    exact .same

theorem isPrinting_iff : isPrinting job = true ↔ job.status = .printing := decide_eq_true_iff

theorem change_claim (hclaim : claim printer ruleActive now job = .ok after) :
    Change job after := by
  obtain ⟨printer, -, hclaim⟩ := bind_eq_ok.mp hclaim
  obtain ⟨-, -, hclaim⟩ := bind_eq_ok.mp hclaim
  obtain ⟨-, -, hclaim⟩ := bind_eq_ok.mp hclaim
  obtain ⟨-, -, hclaim⟩ := bind_eq_ok.mp hclaim
  obtain ⟨hcondition, rfl⟩ := updateMany_eq_some_iff.mp (orFail_eq_ok.mp hclaim)
  rw [Bool.and_eq_true, decide_eq_true_eq] at hcondition
  exact .started printer.id now hcondition.1 hcondition.2

theorem change_success (hsuccess : success now job = .ok after) : Change job after := by
  obtain ⟨hprinting, rfl⟩ := updateMany_eq_some_iff.mp (orFail_eq_ok.mp hsuccess)
  exact .succeeded now (isPrinting_iff.mp hprinting)

theorem change_fail (hfail : fail error now job = .ok after) : Change job after := by
  obtain ⟨hprinting, rfl⟩ := updateMany_eq_some_iff.mp (orFail_eq_ok.mp hfail)
  exact .failed error _ (isPrinting_iff.mp hprinting)

theorem change_retry (hretry : retry job = .ok after) : Change job after := by
  obtain ⟨hcondition, rfl⟩ := updateMany_eq_some_iff.mp (orFail_eq_ok.mp hretry)
  rw [Bool.and_eq_true, decide_eq_true_eq] at hcondition
  exact .retried hcondition.1

theorem change_cancel (hcancel : cancel job = .ok after) : Change job after := by
  obtain ⟨hwaiting, rfl⟩ := updateMany_eq_some_iff.mp (orFail_eq_ok.mp hcancel)
  exact .cancelled hwaiting

theorem change_reconcile (now : Timestamp) (job : PrintJob) :
    Change job (reconcileStalePrintJobs now job) := by
  apply change_updateMany
  intro hcondition
  rw [Bool.and_eq_true] at hcondition
  exact .failed _ _ (isPrinting_iff.mp hcondition.1)

theorem change_notePollStatus (printerId : ℕ) (status : Text) (job : PrintJob) :
    Change job (notePollStatus printerId status job) := by
  unfold notePollStatus
  by_cases hsucceeded : cloudPrntStatusSucceeded status = true
  · rw [if_pos hsucceeded]
    exact .same
  · rw [if_neg hsucceeded]
    exact change_updateMany fun _ => .noted _

theorem change_claimPendingCloudJob (printerId : ℕ) (printerEnabled ruleEligible : Bool)
    (now : Timestamp) (job : PrintJob) :
    Change job (claimPendingCloudJob printerId printerEnabled ruleEligible now job) := by
  unfold claimPendingCloudJob
  split
  · apply change_updateMany
    intro hcondition
    simp only [Bool.and_eq_true, decide_eq_true_eq] at hcondition
    obtain ⟨⟨-, hpending⟩, hattempts⟩ := hcondition
    exact .started printerId now (by simp [isWaiting, hpending]) hattempts
  · exact .same

theorem change_finishDelete (report : DeviceReport) (now : Timestamp) (job : PrintJob) :
    Change job (finishDelete report now job) := by
  unfold finishDelete
  split
  · exact .same
  · apply change_updateMany
    intro hcondition
    rw [Bool.and_eq_true] at hcondition
    have hprinting := isPrinting_iff.mp hcondition.2
    split
    · exact .succeeded now hprinting
    · exact .failed _ _ hprinting

end Changes

/-! ## One step -/

section Steps

variable {state : PrintState} {command : PrintCommand}

theorem attemptsAfter_self (status : PrintJobStatus) (attempts : List AttemptState) :
    attemptsAfter status status attempts = attempts := by
  cases status <;> simp [attemptsAfter]

/-- A step changes the job in one of the known ways, and the attempts with it. -/
structure Moves (state next : PrintState) : Prop where
  change : Change state.job next.job
  attempts : next.attempts = attemptsAfter state.job.status next.job.status state.attempts

theorem moves_rest {next : PrintState} (hjob : next.job = state.job)
    (hattempts : next.attempts = state.attempts) : Moves state next := by
  constructor
  · rw [hjob]
    exact .same
  · rw [hattempts, hjob, attemptsAfter_self]

theorem moves_withJob {job : PrintJob} (hchange : Change state.job job) :
    Moves state (state.withJob job) := ⟨hchange, rfl⟩

theorem moves_commit {outcome : Except PrintQueueError PrintJob}
    (hchange : ∀ job, outcome = .ok job → Change state.job job) :
    Moves state (commit state outcome) := by
  cases outcome with
  | ok job => exact moves_withJob (hchange job rfl)
  | error _ => exact moves_rest rfl rfl

theorem printStep_moves (state : PrintState) (command : PrintCommand) :
    Moves state (printStep state command) := by
  cases command with
  | claim printer ruleActive now =>
      simp only [printStep]
      split
      · next job hclaim => exact ⟨change_claim hclaim, rfl⟩
      · exact moves_rest rfl rfl
  | readBack position =>
      simp only [printStep]
      split
      · split <;> exact moves_rest rfl rfl
      · exact moves_rest rfl rfl
  | buildTicket position fails now =>
      simp only [printStep]
      split
      · split
        · refine ⟨change_updateMany fun hprinting => ?_, rfl⟩
          exact .failed _ _ (isPrinting_iff.mp hprinting)
        · exact moves_rest rfl rfl
      · exact moves_rest rfl rfl
  | success attempt now => exact moves_commit fun _ hsuccess => change_success hsuccess
  | fail attempt error now => exact moves_commit fun _ hfail => change_fail hfail
  | retry => exact moves_commit fun _ hretry => change_retry hretry
  | cancel => exact moves_commit fun _ hcancel => change_cancel hcancel
  | refresh now => exact moves_withJob (change_reconcile now state.job)
  | poll printerId status => exact moves_withJob (change_notePollStatus printerId status state.job)
  | fetch printerId printerEnabled ruleEligible now =>
      exact moves_withJob (change_claimPendingCloudJob _ _ _ _ _)
  | beginDelete attempt printerId deviceStatus =>
      simp only [printStep]
      split <;> exact moves_rest rfl rfl
  | finishDelete position now =>
      simp only [printStep]
      split
      · exact ⟨change_finishDelete _ _ _, rfl⟩
      · exact moves_rest rfl rfl

/-! ## The attempts of a job -/

/-- The attempts a job has started are counted, and only the last one can be in progress:
it is while the job is being printed. -/
structure AttemptsTracked (state : PrintState) : Prop where
  counted : state.attempts.length = state.job.attemptCount
  bounded : state.job.attemptCount ≤ state.job.maxAttempts
  printing : state.job.status = .printing →
    ∃ earlier, state.attempts = earlier ++ [.inProgress] ∧ .inProgress ∉ earlier
  idle : state.job.status ≠ .printing → .inProgress ∉ state.attempts

theorem attemptsTracked_queued (printerId printRuleId : Option ℕ) (maxAttempts : ℕ) :
    AttemptsTracked (queuedState printerId printRuleId maxAttempts) where
  counted := rfl
  bounded := Nat.zero_le maxAttempts
  printing hprinting := by cases hprinting
  idle _ := List.not_mem_nil

theorem not_printing_of_isWaiting {job : PrintJob} (hwaiting : isWaiting job = true) :
    job.status ≠ .printing := by
  intro hprinting
  simp [isWaiting, hprinting] at hwaiting

/-- An attempt that is settled leaves no attempt in progress. -/
theorem settled_of_printing {earlier : List AttemptState} {outcome : AttemptState}
    (houtcome : outcome ≠ .inProgress) (hearlier : .inProgress ∉ earlier) :
    .inProgress ∉ settleLast outcome (earlier ++ [.inProgress]) := by
  rw [settleLast, List.dropLast_concat]
  intro hmem
  rcases List.mem_append.mp hmem with hold | hlast
  · exact hearlier hold
  · exact houtcome (List.mem_singleton.mp hlast).symm

theorem AttemptsTracked.next {next : PrintState} (htracked : AttemptsTracked state)
    (hmoves : Moves state next) : AttemptsTracked next := by
  obtain ⟨job, handlers, attempts⟩ := next
  obtain ⟨hchange, hattempts⟩ := hmoves
  simp only at hchange hattempts
  subst hattempts
  cases hchange with
  | same =>
      rw [attemptsAfter_self]
      exact ⟨htracked.counted, htracked.bounded, htracked.printing, htracked.idle⟩
  | noted error =>
      rw [attemptsAfter_self]
      exact ⟨htracked.counted, htracked.bounded, htracked.printing, htracked.idle⟩
  | started printerId now hwaiting hroom =>
      have hidle := not_printing_of_isWaiting hwaiting
      have hstarted : attemptsAfter state.job.status .printing state.attempts
          = state.attempts ++ [.inProgress] := by
        rw [attemptsAfter, if_pos ⟨hidle, rfl⟩]
      constructor
      · simp only [startPrinting, hstarted, List.length_append, List.length_singleton,
          htracked.counted]
      · exact hroom
      · intro _
        exact ⟨state.attempts, hstarted, htracked.idle hidle⟩
      · exact fun hnot => absurd rfl hnot
  | succeeded now hprinting =>
      obtain ⟨earlier, hsplit, hearlier⟩ := htracked.printing hprinting
      have hsettled : attemptsAfter state.job.status .succeeded state.attempts
          = settleLast .succeeded (earlier ++ [.inProgress]) := by
        rw [attemptsAfter, if_neg (by simp), if_pos ⟨hprinting, rfl⟩, hsplit]
      have hcounted := htracked.counted
      rw [hsplit] at hcounted
      constructor
      · simp only [markSucceeded, hsettled, settleLast, List.dropLast_concat]
        simpa using hcounted
      · exact htracked.bounded
      · intro hnow
        cases hnow
      · intro _
        simp only [markSucceeded, hsettled]
        exact settled_of_printing (by decide) hearlier
  | failed error nextRetryAt hprinting =>
      obtain ⟨earlier, hsplit, hearlier⟩ := htracked.printing hprinting
      have hsettled : attemptsAfter state.job.status .failed state.attempts
          = settleLast .writtenOff (earlier ++ [.inProgress]) := by
        rw [attemptsAfter, if_neg (by simp), if_neg (by simp), if_pos ⟨hprinting, rfl⟩, hsplit]
      have hcounted := htracked.counted
      rw [hsplit] at hcounted
      constructor
      · simp only [markFailed, hsettled, settleLast, List.dropLast_concat]
        simpa using hcounted
      · exact htracked.bounded
      · intro hnow
        cases hnow
      · intro _
        simp only [markFailed, hsettled]
        exact settled_of_printing (by decide) hearlier
  | retried hfailed =>
      have hsame : attemptsAfter state.job.status .pending state.attempts = state.attempts := by
        simp [attemptsAfter, hfailed]
      constructor
      · simp only [hsame, htracked.counted]
      · exact htracked.bounded
      · intro hnow
        cases hnow
      · intro _
        simp only [hsame]
        exact htracked.idle (by simp [hfailed])
  | cancelled hwaiting =>
      have hidle := not_printing_of_isWaiting hwaiting
      have hsame : attemptsAfter state.job.status .cancelled state.attempts = state.attempts := by
        simp [attemptsAfter]
      constructor
      · simp only [hsame, htracked.counted]
      · exact htracked.bounded
      · intro hnow
        cases hnow
      · intro _
        simp only [hsame]
        exact htracked.idle hidle

/-- A job that succeeded or was cancelled keeps its status. -/
theorem Change.final {before after : PrintJob} (hchange : Change before after)
    (hfinal : before.status = .succeeded ∨ before.status = .cancelled) :
    after.status = before.status := by
  cases hchange with
  | same => rfl
  | noted error => rfl
  | started printerId now hwaiting hroom =>
      rcases hfinal with hstatus | hstatus <;> simp [isWaiting, hstatus] at hwaiting
  | succeeded now hprinting =>
      rcases hfinal with hstatus | hstatus <;> simp [hstatus] at hprinting
  | failed error nextRetryAt hprinting =>
      rcases hfinal with hstatus | hstatus <;> simp [hstatus] at hprinting
  | retried hfailed =>
      rcases hfinal with hstatus | hstatus <;> simp [hstatus] at hfailed
  | cancelled hwaiting =>
      rcases hfinal with hstatus | hstatus <;> simp [isWaiting, hstatus] at hwaiting

/-! ## Reports -/

/-- The attempt whose success or failure a step reports. -/
def reportedAttempt (state : PrintState) : PrintCommand → Option ℕ
  | .success attempt _ | .fail attempt _ _ => some attempt
  | .buildTicket position true _ =>
      match state.handlers[position]? with
      | some (.building attempt _ _) => some attempt
      | _ => none
  | .finishDelete position _ =>
      match state.handlers[position]? with
      | some (.deleting attempt _) => some attempt
      | _ => none
  | _ => none

/-- The update of a report matches the job. -/
def reportMatches (state : PrintState) : PrintCommand → Prop
  | .finishDelete position _ =>
      match state.handlers[position]? with
      | some (.deleting _ report) =>
          reportedStatus report ≠ none ∧ state.job.printerId = some report.printerId
            ∧ state.job.status = .printing
      | _ => False
  | _ => state.job.status = .printing

/-- The attempt was written off, and a later one has started. -/
def Superseded (state : PrintState) (attempt : ℕ) : Prop :=
  state.attempts[attempt]? = some .writtenOff ∧ attempt + 1 < state.attempts.length

/-- What a step keeps of the attempts of a job. -/
structure StepKept (state : PrintState) (command : PrintCommand) : Prop where
  bounded : (printStep state command).job.attemptCount
    ≤ (printStep state command).job.maxAttempts
  oneInProgress : (printStep state command).attempts.count .inProgress ≤ 1
  final : state.job.status = .succeeded ∨ state.job.status = .cancelled →
    (printStep state command).job.status = state.job.status
  lateReport : ∀ attempt, reportedAttempt state command = some attempt →
    Superseded state attempt → (printStep state command).job = state.job

/-- A report of a superseded attempt does not match the job. -/
def ReportsCurrent (state : PrintState) (command : PrintCommand) : Prop :=
  ∀ attempt, reportedAttempt state command = some attempt → Superseded state attempt →
    ¬reportMatches state command

/-- An update that gives a printed job another status changes it when it matches. -/
theorem updateMany_changes_iff {condition : PrintJob → Bool} {data : PrintJob → PrintJob}
    {job : PrintJob} (hprinting : condition job = true → job.status = .printing)
    (hdata : (data job).status ≠ .printing) :
    (updateMany condition data job).getD job ≠ job ↔ condition job = true := by
  unfold updateMany
  by_cases hcondition : condition job = true
  · rw [if_pos hcondition, Option.getD_some]
    refine iff_of_true (fun hsame => hdata ?_) hcondition
    rw [hsame]
    exact hprinting hcondition
  · rw [if_neg hcondition, Option.getD_none]
    exact iff_of_false (fun hne => hne rfl) hcondition

theorem commit_updateMany {condition : PrintJob → Bool} {data : PrintJob → PrintJob}
    {error : PrintQueueError} :
    (commit state (orFail (updateMany condition data state.job) error)).job
      = (updateMany condition data state.job).getD state.job := by
  cases updateMany condition data state.job <;> rfl

/-- A report of a browser changes the job while the job is being printed. -/
theorem isPrinting_changes_iff {data : PrintJob → PrintJob}
    (hdata : (data state.job).status ≠ .printing) :
    (updateMany isPrinting data state.job).getD state.job ≠ state.job
      ↔ state.job.status = .printing :=
  (updateMany_changes_iff isPrinting_iff.mp hdata).trans isPrinting_iff

theorem finishDelete_changes_iff {report : DeviceReport} {now : Timestamp} {job : PrintJob} :
    finishDelete report now job ≠ job ↔
      reportedStatus report ≠ none ∧ job.printerId = some report.printerId
        ∧ job.status = .printing := by
  unfold finishDelete
  by_cases hnone : reportedStatus report = none
  · rw [if_pos hnone]
    exact iff_of_false (fun hne => hne rfl) fun hall => hall.1 hnone
  · rw [if_neg hnone, updateMany_changes_iff]
    · simp only [Bool.and_eq_true, decide_eq_true_eq, isPrinting_iff, ne_eq, hnone,
        not_false_eq_true, true_and]
    · intro hcondition
      rw [Bool.and_eq_true] at hcondition
      exact isPrinting_iff.mp hcondition.2
    · split <;> simp [markSucceeded, markFailed]

/-- A report changes the job exactly when its update matches the job. -/
theorem report_changes_iff {attempt : ℕ}
    (hreport : reportedAttempt state command = some attempt) :
    (printStep state command).job ≠ state.job ↔ reportMatches state command := by
  cases command with
  | success reported now =>
      simp only [printStep, success, commit_updateMany]
      exact isPrinting_changes_iff (by simp [markSucceeded])
  | fail reported error now =>
      simp only [printStep, fail, commit_updateMany]
      exact isPrinting_changes_iff (by simp [markFailed])
  | buildTicket position fails now =>
      cases fails with
      | false => cases hreport
      | true =>
          cases hhandler : state.handlers[position]? with
          | none => simp [reportedAttempt, hhandler] at hreport
          | some handler =>
              cases handler with
              | building _ attemptCount maxAttempts =>
                  simp only [printStep, if_true, hhandler]
                  exact isPrinting_changes_iff (by simp [markFailed])
              | _ => simp [reportedAttempt, hhandler] at hreport
  | finishDelete position now =>
      cases hhandler : state.handlers[position]? with
      | none => simp [reportedAttempt, hhandler] at hreport
      | some handler =>
          cases handler with
          | deleting _ report =>
              simp only [printStep, reportMatches, hhandler]
              exact finishDelete_changes_iff
          | _ => simp [reportedAttempt, hhandler] at hreport
  | claim | readBack | retry | cancel | refresh | poll | fetch | beginDelete => cases hreport

theorem count_inProgress_le_one (htracked : AttemptsTracked state) :
    state.attempts.count .inProgress ≤ 1 := by
  by_cases hprinting : state.job.status = .printing
  · obtain ⟨earlier, hsplit, hearlier⟩ := htracked.printing hprinting
    rw [hsplit, List.count_append, List.count_eq_zero.mpr hearlier]
    decide
  · rw [List.count_eq_zero.mpr (htracked.idle hprinting)]
    exact Nat.zero_le 1

/-- A step keeps what holds of the attempts exactly when it is no late report that matches
a later attempt. -/
theorem stepKept_iff (htracked : AttemptsTracked state) :
    StepKept state command ↔ ReportsCurrent state command := by
  have hmoves := printStep_moves state command
  have hnext := htracked.next hmoves
  constructor
  · intro hkept attempt hreport hsuperseded hmatches
    exact (report_changes_iff hreport).mpr hmatches (hkept.lateReport attempt hreport hsuperseded)
  · intro hcurrent
    refine ⟨hnext.bounded, count_inProgress_le_one hnext, hmoves.change.final, ?_⟩
    intro attempt hreport hsuperseded
    by_contra hchanged
    exact hcurrent attempt hreport hsuperseded ((report_changes_iff hreport).mp hchanged)

end Steps

/-! ## Every run -/

/-- In every run of a queued job the attempts are kept apart exactly when no report of a
superseded attempt matches the job. -/
theorem attempts_kept_iff (printerId printRuleId : Option ℕ) (maxAttempts : ℕ)
    (commands : List PrintCommand) :
    Safely printStep StepKept (queuedState printerId printRuleId maxAttempts) commands
      ↔ Safely printStep ReportsCurrent (queuedState printerId printRuleId maxAttempts)
        commands :=
  safely_congr AttemptsTracked (fun _ _ htracked => stepKept_iff htracked)
    (fun state command htracked _ => htracked.next (printStep_moves state command))
    (attemptsTracked_queued printerId printRuleId maxAttempts) commands

/-- The first attempt is written off, the job is claimed again, and then the success of the
first attempt is reported. -/
def lateSuccess : List PrintCommand := [
  .claim (some ⟨1, true, .systemPrint⟩) true 0,
  .refresh 300_001,
  .claim (some ⟨1, true, .systemPrint⟩) true 300_002,
  .success 0 300_003]

/-- A late success ends the attempt that was started after it. -/
theorem late_success_not_kept :
    ¬∀ commands, Safely printStep StepKept (queuedState none none 3) commands := by
  intro hall
  obtain ⟨-, -, -, hlate, -⟩ := hall lateSuccess
  have hsame := hlate.lateReport 0 rfl ⟨by decide +kernel, by decide +kernel⟩
  have hstatus := congrArg PrintJob.status hsame
  revert hstatus
  decide +kernel

end Stallorder.PrintJobs
