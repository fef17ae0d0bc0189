import Stallorder.Billing.CloseSteps

/-!
# Claimed periods

Invocations that overlap look at the same periods.  A job is claimed by one
conditional update, so one of them gets it: it has the job alone until the
outcome is recorded, and it closes the period once.  Seen from one period, a
step of any invocation is one of a few moves.
-/

namespace Stallorder.CloseJobs

open OrderContract AutomaticClose CloseSteps Run

/-! ## Moves -/

/-- What an invocation does with a period. -/
inductive Hold
  | free
  | closing
  | recording
  deriving DecidableEq

def holdIn : WorkStage → Hold
  | .closing => .closing
  | .recording _ => .recording
  | _ => .free

def isAt (period : Uuid × ℤ) (invocation : Invocation) : Bool :=
  invocation.remaining.head?.any (·.period = period)

def hold (period : Uuid × ℤ) (invocation : Invocation) : Hold :=
  if isAt period invocation then holdIn invocation.stage else .free

inductive Move
  | quiet
  | claims
  | closes
  deriving DecidableEq

def workMove (period : Uuid × ℤ) (tables : CloseTables) (invocation : Invocation) : Move :=
  if isAt period invocation then
    if invocation.stage = .closing then .closes
    else if invocation.stage = .upserted && (tables.jobs.get? period).any (·.claimable) then .claims
    else .quiet
  else .quiet

/-- Which move of a period a command is. -/
def move (period : Uuid × ℤ) (db : CloseDb) : CloseCommand → Move
  | .work position _ => (db.invocations[position]?).elim .quiet (workMove period db.tables)
  | _ => .quiet

inductive Moves : Option PaygCloseJob → Hold → Move → Option PaygCloseJob → Hold → Prop
  | stay (job : Option PaygCloseJob) (hold : Hold) : Moves job hold .quiet job hold
  | leave (job : Option PaygCloseJob) (hold : Hold) : Moves job hold .quiet job .free
  | create (subscription : BilledSubscription) :
      Moves none .free .quiet (some (newJob subscription)) .free
  | claim {job : PaygCloseJob} (requestId : Text) (now : Timestamp)
      (hclaimable : job.claimable = true) :
      Moves (some job) .free .claims (some (claimed job requestId now)) .closing
  | close (job : Option PaygCloseJob) : Moves job .closing .closes job .recording
  | record (job : PaygCloseJob) (errorCode : Option Text) (now : Timestamp) :
      Moves (some job) .recording .quiet (some (recorded job errorCode now)) .free

section Projection

variable {tables tables' : CloseTables} {invocation invocation' : Invocation}
  {subscription : BilledSubscription} {period : Uuid × ℤ}

/-- What is written to the job of one period is not seen from another one. -/
theorem get?_put (jobs : Table PaygCloseJob) (job : PaygCloseJob) (period : Uuid × ℤ) :
    (jobs.put job).get? period = if job.period = period then some job else jobs.get? period := by
  by_cases hperiod : job.period = period
  · rw [if_pos hperiod, ← hperiod]
    exact Table.get?_put_self jobs job
  · rw [if_neg hperiod]
    exact Table.get?_put_of_ne fun hsame => hperiod hsame.symm

theorem period_of_get? {jobs : Table PaygCloseJob} {job : PaygCloseJob}
    (hjob : jobs.get? period = some job) : job.period = period :=
  Table.key_of_get? hjob

theorem isAt_of_head (hhead : invocation.remaining.head? = some subscription) :
    isAt period invocation = decide (subscription.period = period) := by
  rw [isAt, hhead, Option.any_some]

theorem hold_eq_free (hstage : holdIn invocation.stage = .free) :
    hold period invocation = .free := by
  rw [hold, hstage, ite_self]

theorem hold_of_past (hpast : Past invocation invocation') : hold period invocation' = .free :=
  hold_eq_free (by rw [hpast.stage]; rfl)

theorem hold_of_at {stage : WorkStage} (hat : At stage invocation invocation') :
    hold period invocation' = if isAt period invocation then holdIn stage else .free := by
  rw [hold, isAt, hat.remaining, hat.stage, ← isAt]

theorem workMove_of_not_isAt (hat : isAt period invocation = false) :
    workMove period tables invocation = .quiet := by
  rw [workMove, hat]
  rfl

theorem workMove_of_isIdle (hidle : isIdle invocation.stage = true) :
    workMove period tables invocation = .quiet := by
  have hclosing : invocation.stage ≠ .closing := by
    intro hstage
    rw [hstage] at hidle
    cases hidle
  have hupserted : invocation.stage ≠ .upserted := by
    intro hstage
    rw [hstage] at hidle
    cases hidle
  rw [workMove, if_neg hclosing, decide_eq_false hupserted, Bool.false_and,
    if_neg Bool.false_ne_true, ite_self]

theorem workMove_of_refused (hhead : invocation.remaining.head? = some subscription)
    (hstage : invocation.stage = .upserted)
    (hrefused : (tables.jobs.get? subscription.period).any (·.claimable) = false) :
    workMove period tables invocation = .quiet := by
  rw [workMove, isAt_of_head hhead, hstage]
  by_cases hperiod : subscription.period = period
  · rw [← hperiod, hrefused]
    simp
  · simp [hperiod]

theorem head_of_workMove (hmove : workMove period tables invocation ≠ .quiet) :
    (∃ subscription, invocation.remaining.head? = some subscription
      ∧ subscription.period = period) ∧ isIdle invocation.stage = false := by
  constructor
  · by_contra hnone
    apply hmove
    apply workMove_of_not_isAt
    rw [isAt]
    cases hhead : invocation.remaining.head? with
    | none => rfl
    | some subscription =>
        exact decide_eq_false fun hperiod => hnone ⟨subscription, hhead, hperiod⟩
  · by_contra hidle
    exact hmove (workMove_of_isIdle (Bool.eq_true_of_not_eq_false hidle))

theorem workMove_of_closing (hhead : invocation.remaining.head? = some subscription)
    (hstage : invocation.stage = .closing) :
    workMove subscription.period tables invocation = .closes := by
  rw [workMove, isAt_of_head hhead, if_pos (decide_eq_true rfl), if_pos hstage]

theorem moves_of_leaving {job : Option PaygCloseJob} {before : Hold}
    (hfree : hold period invocation' = .free) :
    Moves job before .quiet job (hold period invocation') := by
  rw [hfree]
  exact .leave job before

/-- Seen from one period, a step of an invocation is a move. -/
theorem moves_of_step (hstep : WorkStep tables invocation tables' invocation') :
    Moves (tables.jobs.get? period) (hold period invocation) (workMove period tables invocation)
      (tables'.jobs.get? period) (hold period invocation') := by
  cases hstep with
  | finish hidle hended =>
      have hquiet : workMove period tables invocation = .quiet := by
        cases hidle with
        | inl hnone => exact workMove_of_not_isAt (by rw [isAt, hnone]; rfl)
        | inr hidle => exact workMove_of_isIdle hidle
      rw [hquiet]
      exact moves_of_leaving (hold_eq_free (by rw [hended]; rfl))
  | skip hhead hstage hpast =>
      have hquiet : workMove period tables invocation = .quiet := by
        cases hstage with
        | inl hnext => exact workMove_of_isIdle (by rw [hnext.1]; rfl)
        | inr hupserted => exact workMove_of_refused hhead hupserted.1 hupserted.2
      rw [hquiet]
      exact moves_of_leaving (hold_of_past hpast)
  | find hhead hstage hpassable hat =>
      rw [workMove_of_isIdle (by rw [hstage]; rfl)]
      exact moves_of_leaving (hold_eq_free (by rw [hat.stage]; rfl))
  | @create _ subscription hhead hstage hpassable hnone hat =>
      rw [workMove_of_isIdle (by rw [hstage]; rfl), get?_put]
      by_cases hperiod : (newJob subscription).period = period
      · have hnone : tables.jobs.get? period = none := by
          rw [← hperiod]
          exact hnone
        rw [if_pos hperiod, hnone, hold_eq_free (by rw [hstage]; rfl),
          hold_eq_free (by rw [hat.stage]; rfl)]
        exact .create subscription
      · rw [if_neg hperiod]
        exact moves_of_leaving (hold_eq_free (by rw [hat.stage]; rfl))
  | @claim _ subscription job requestId now hhead hstage hjob hclaimable hat =>
      have hjobPeriod : (claimed job requestId now).period = subscription.period :=
        (period_of_get? hjob : job.period = subscription.period)
      rw [get?_put, hjobPeriod, hold_of_at hat, isAt_of_head hhead]
      by_cases hperiod : subscription.period = period
      · subst hperiod
        have hclaims : workMove subscription.period tables invocation = .claims := by
          rw [workMove, isAt_of_head hhead, hstage, hjob]
          simp [hclaimable]
        rw [hclaims, hjob, hold_eq_free (by rw [hstage]; rfl), if_pos rfl,
          if_pos (decide_eq_true rfl)]
        exact .claim requestId now hclaimable
      · have hat : isAt period invocation = false := by
          rw [isAt_of_head hhead]
          exact decide_eq_false hperiod
        rw [workMove_of_not_isAt hat, if_neg hperiod, if_neg (by simpa using hperiod)]
        exact .leave _ _
  | @close _ subscription closes errorCode hhead hstage hat =>
      have hjobs : (if closes = true then
          { tables with subscriptions := closedIn tables.subscriptions subscription.period }
          else tables).jobs = tables.jobs := by
        rw [apply_ite CloseTables.jobs, ite_self]
      rw [hjobs, hold_of_at hat]
      cases hatPeriod : isAt period invocation with
      | true =>
          have hcloses : workMove period tables invocation = .closes := by
            rw [workMove, hatPeriod, hstage]
            rfl
          rw [hcloses, hold, hatPeriod, hstage]
          exact .close _
      | false =>
          rw [workMove_of_not_isAt hatPeriod]
          exact .leave _ _
  | retry hstage hat =>
      rw [workMove_of_isIdle (by rw [hstage]; rfl), hold_of_at hat, hold, hstage]
      exact .stay _ _
  | @record _ subscription job errorCode clock hhead hstage hjob hpast =>
      have hjobPeriod : (recorded job errorCode clock).period = subscription.period :=
        (period_of_get? hjob : job.period = subscription.period)
      rw [get?_put, hjobPeriod, hold_of_past hpast, workMove_of_isIdle (by rw [hstage]; rfl)]
      by_cases hperiod : subscription.period = period
      · subst hperiod
        have hholds : hold subscription.period invocation = .recording := by
          rw [hold, isAt_of_head hhead, hstage, if_pos (decide_eq_true rfl)]
          rfl
        rw [if_pos rfl, hjob, hholds]
        exact .record job errorCode clock
      · rw [if_neg hperiod]
        exact .leave _ _

end Projection

/-! ## Views of a period -/

/-- What there is of a period: its job, and what each invocation does with it. -/
structure View where
  job : Option PaygCloseJob
  holds : List Hold

def view (period : Uuid × ℤ) (db : CloseDb) : View where
  job := db.tables.jobs.get? period
  holds := db.invocations.map (hold period)

inductive ViewStep : View → Move → View → Prop
  | stay (seen : View) : ViewStep seen .quiet seen
  | enter (job : Option PaygCloseJob) (holds : List Hold) :
      ViewStep ⟨job, holds⟩ .quiet ⟨job, holds ++ [.free]⟩
  | move {job job' : Option PaygCloseJob} {holds : List Hold} {position : ℕ} {before after : Hold}
      {move : Move} (hbefore : holds[position]? = some before)
      (hmoves : Moves job before move job' after) :
      ViewStep ⟨job, holds⟩ move ⟨job', holds.set position after⟩

theorem holds_of_invocation {db : CloseDb} {position : ℕ} {invocation : Invocation}
    (hinvocation : db.invocations[position]? = some invocation) (period : Uuid × ℤ) :
    (db.invocations.map (hold period))[position]? = some (hold period invocation) := by
  rw [List.getElem?_map, hinvocation, Option.map_some]

/-- Seen from one period, a command is a move of one invocation. -/
theorem view_of_step {db db' : CloseDb} {command : CloseCommand} (period : Uuid × ℤ)
    (hstep : DbStep db command db') :
    ViewStep (view period db) (move period db command) (view period db') := by
  cases hstep with
  | @stay command habsent =>
      have hquiet : move period db command = .quiet := by
        cases command with
        | invoke => rfl
        | crash => rfl
        | work position input => rw [move, habsent position input rfl, Option.elim_none]
      rw [hquiet]
      exact .stay _
  | enter state now =>
      rw [view, view, List.map_append, List.map_singleton, hold_eq_free rfl]
      exact .enter _ _
  | work input hinvocation hstep =>
      rw [move, hinvocation, Option.elim_some, view, view, List.map_set]
      exact .move (holds_of_invocation hinvocation period) (moves_of_step hstep)
  | crash hinvocation =>
      rw [view, view, List.map_set, hold_eq_free rfl]
      exact .move (holds_of_invocation hinvocation period) (.leave _ _)

theorem view_step (period : Uuid × ℤ) (db : CloseDb) (command : CloseCommand) :
    ViewStep (view period db) (move period db command) (view period (step db command)) :=
  view_of_step period (db_step db command)

/-! ## Holders -/

section Holders

variable {seen seen' : View} {move : Move} {holds : List Hold} {position : ℕ} {before : Hold}

def attempts (seen : View) : ℕ := seen.job.elim 0 (·.attemptCount)

def holders (holds : List Hold) : ℕ := holds.countP (· ≠ .free)

def closers (holds : List Hold) : ℕ := holds.countP (· = .closing)

/-- Replacing an item counts the new one instead of the old one. -/
theorem countP_set_add (hbefore : holds[position]? = some before) (after : Hold)
    (counted : Hold → Bool) :
    (holds.set position after).countP counted + (if counted before then 1 else 0)
      = holds.countP counted + (if counted after then 1 else 0) := by
  obtain ⟨hlength, helement⟩ := List.getElem?_eq_some_iff.mp hbefore
  rw [List.countP_set hlength, helement]
  by_cases hcounted : counted before = true
  · have hpos : 0 < holds.countP counted :=
      List.countP_pos_iff.mpr ⟨before, List.mem_of_getElem? hbefore, hcounted⟩
    rw [if_pos hcounted]
    omega
  · rw [if_neg hcounted]
    omega

theorem holders_set (hbefore : holds[position]? = some before) (after : Hold) :
    holders (holds.set position after) + (if before = .free then 0 else 1)
      = holders holds + if after = .free then 0 else 1 := by
  have hcount := countP_set_add hbefore after (· ≠ .free)
  simpa only [holders, decide_not, Bool.not_eq_eq_eq_not, Bool.not_true, decide_eq_false_iff_not,
    ite_not] using hcount

theorem closers_set (hbefore : holds[position]? = some before) (after : Hold) :
    closers (holds.set position after) + (if before = .closing then 1 else 0)
      = closers holds + if after = .closing then 1 else 0 := by
  have hcount := countP_set_add hbefore after (· = .closing)
  simpa only [closers, decide_eq_true_eq] using hcount

theorem attempts_step (hstep : ViewStep seen move seen') :
    attempts seen' = attempts seen + if move = .claims then 1 else 0 := by
  cases hstep with
  | stay => rfl
  | enter job holds => rfl
  | move hbefore hmoves => cases hmoves <;> rfl

/-- An invocation closes a period after it has claimed the job, and once. -/
theorem closers_step (hstep : ViewStep seen move seen') :
    closers seen'.holds + (if move = .closes then 1 else 0)
      ≤ closers seen.holds + if move = .claims then 1 else 0 := by
  cases hstep with
  | stay => exact le_rfl
  | enter job holds =>
      rw [closers, closers, List.countP_append]
      exact le_rfl
  | @move _ _ holds position before after _ hbefore hmoves =>
      have hcount := closers_set hbefore after
      cases hmoves <;> simp at hcount ⊢ <;> omega

/-- Whoever holds a period has it alone, and its job is running. -/
structure HeldAlone (seen : View) : Prop where
  alone : holders seen.holds ≤ 1
  running : 0 < holders seen.holds → ∃ job, seen.job = some job ∧ job.status = .running
  bounded : attempts seen ≤ maxAttempts

theorem HeldAlone.holders_eq_zero (halone : HeldAlone seen)
    (hidle : ∀ job, seen.job = some job → job.status ≠ .running) : holders seen.holds = 0 := by
  by_contra hheld
  obtain ⟨job, hjob, hrunning⟩ := halone.running (Nat.pos_of_ne_zero hheld)
  exact hidle job hjob hrunning

theorem heldAlone_of_nobody (hnobody : holders seen.holds = 0)
    (hbounded : attempts seen ≤ maxAttempts) : HeldAlone seen :=
  ⟨by omega, fun hpos => by omega, hbounded⟩

theorem status_of_claimable {job : PaygCloseJob} (hclaimable : job.claimable = true) :
    job.status ≠ .running ∧ job.attemptCount < maxAttempts := by
  rw [PaygCloseJob.claimable, Bool.and_eq_true, Bool.or_eq_true, decide_eq_true_eq,
    decide_eq_true_eq, decide_eq_true_eq] at hclaimable
  constructor
  · cases hclaimable.1 with
    | inl hpending => simp [hpending]
    | inr hfailed => simp [hfailed]
  · exact hclaimable.2

theorem HeldAlone.moves {job job' : Option PaygCloseJob} {after : Hold}
    (halone : HeldAlone ⟨job, holds⟩) (hbefore : holds[position]? = some before)
    (hmoves : Moves job before move job' after) :
    HeldAlone ⟨job', holds.set position after⟩ := by
  have hholders := holders_set hbefore after
  have hone : holders holds ≤ 1 := halone.alone
  have hbounded := halone.bounded
  cases hmoves with
  | stay =>
      have hsame : holders (holds.set position before) = holders holds := by omega
      exact ⟨hsame.trans_le hone, fun hpos => halone.running (hpos.trans_eq hsame), hbounded⟩
  | leave =>
      have hfewer : holders (holds.set position .free) ≤ holders holds := by
        simp at hholders
        omega
      exact ⟨hfewer.trans hone, fun hpos => halone.running (hpos.trans_le hfewer), hbounded⟩
  | create subscription =>
      have hnobody : holders holds = 0 := halone.holders_eq_zero fun job hjob => by cases hjob
      have hstill : holders (holds.set position .free) = 0 := by omega
      exact heldAlone_of_nobody hstill (Nat.zero_le _)
  | @claim job requestId now hclaimable =>
      obtain ⟨hidle, hleft⟩ := status_of_claimable hclaimable
      have hnobody : holders holds = 0 := halone.holders_eq_zero fun other hother => by
        cases hother
        exact hidle
      have hfirst : holders (holds.set position .closing) = 1 := by
        simp at hholders
        omega
      exact ⟨hfirst.le, fun _ => ⟨_, rfl, rfl⟩, hleft⟩
  | close =>
      have hsame : holders (holds.set position .recording) = holders holds := by
        simp at hholders
        omega
      exact ⟨hsame.trans_le hone, fun hpos => halone.running (hpos.trans_eq hsame), hbounded⟩
  | record job errorCode now =>
      have hnobody : holders (holds.set position .free) = 0 := by
        simp at hholders
        omega
      exact heldAlone_of_nobody hnobody hbounded

theorem HeldAlone.step (halone : HeldAlone seen) (hstep : ViewStep seen move seen') :
    HeldAlone seen' := by
  cases hstep with
  | stay => exact halone
  | enter job holds =>
      have hsame : holders (holds ++ [.free]) = holders holds := by
        rw [holders, holders, List.countP_append]
        rfl
      exact ⟨hsame.trans_le halone.alone, fun hpos => halone.running (hpos.trans_eq hsame),
        halone.bounded⟩
  | move hbefore hmoves => exact halone.moves hbefore hmoves

end Holders

/-! ## Runs -/

section Runs

variable (period : Uuid × ℤ)

def claims (db : CloseDb) (command : CloseCommand) : Bool := move period db command = .claims

def closings (db : CloseDb) (command : CloseCommand) : Bool := move period db command = .closes

theorem heldAlone_exec (subscriptions : Table BilledSubscription) (commands : List CloseCommand) :
    HeldAlone (view period (exec step (.opened subscriptions) commands)) := by
  apply invariant_exec fun db => HeldAlone (view period db)
  · intro db command halone
    exact halone.step (view_step period db command)
  · exact heldAlone_of_nobody rfl (Nat.zero_le _)

theorem attempts_exec (db : CloseDb) (commands : List CloseCommand) :
    attempts (view period (exec step db commands))
      = attempts (view period db) + countAlong step (claims period) db commands := by
  induction commands generalizing db with
  | nil => rfl
  | cons command commands ih =>
      have hstep := attempts_step (view_step period db command)
      rw [exec_cons, ih, hstep, countAlong, claims, Nat.add_assoc]
      simp only [decide_eq_true_eq]

theorem closers_exec (db : CloseDb) (commands : List CloseCommand) :
    closers (view period (exec step db commands)).holds
        + countAlong step (closings period) db commands
      ≤ closers (view period db).holds + countAlong step (claims period) db commands := by
  induction commands generalizing db with
  | nil => exact le_rfl
  | cons command commands ih =>
      have hstep := closers_step (view_step period db command)
      have hrest := ih (step db command)
      simp only [exec_cons, countAlong, claims, closings, decide_eq_true_eq] at hrest ⊢
      omega

/-- However the invocations overlap and wherever they end: one of them at most has a period, its
job is running meanwhile, the period is claimed as often as the job says, at most five times, and
is not closed more often than that. -/
theorem claimed_alone (subscriptions : Table BilledSubscription) (commands : List CloseCommand) :
    HeldAlone (view period (exec step (.opened subscriptions) commands))
      ∧ attempts (view period (exec step (.opened subscriptions) commands))
        = countAlong step (claims period) (.opened subscriptions) commands
      ∧ countAlong step (closings period) (.opened subscriptions) commands
        ≤ countAlong step (claims period) (.opened subscriptions) commands
      ∧ countAlong step (claims period) (.opened subscriptions) commands ≤ maxAttempts := by
  have halone := heldAlone_exec period subscriptions commands
  have hattempts : attempts (view period (exec step (.opened subscriptions) commands))
      = countAlong step (claims period) (.opened subscriptions) commands := by
    rw [attempts_exec]
    exact Nat.zero_add _
  have hclosers := closers_exec period (.opened subscriptions) commands
  have hnobody : closers (view period (.opened subscriptions)).holds = 0 := rfl
  exact ⟨halone, hattempts, by omega, hattempts ▸ halone.bounded⟩

end Runs

end Stallorder.CloseJobs
