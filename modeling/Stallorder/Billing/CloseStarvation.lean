import Stallorder.Billing.BlockedPeriods
import Stallorder.Billing.PeriodOrder

/-!
# Periods that are never closed

Nobody takes up a job that has been left running, a job that has been tried five
times or one that has succeeded without ending the period.  So its subscription
stays where it is in the queue of the invocations, and enough of them keep the
later ones from being closed.
-/

namespace Stallorder.CloseStarvation

open OrderContract AutomaticClose CloseSteps CloseJobs BlockedPeriods PeriodOrder FirstOf Run

variable {tables : CloseTables} {invocations : List Invocation} {invocation : Invocation}
  {subscription target : BilledSubscription}

/-- The current period of the subscription has a job that cannot be claimed. -/
def isStuck (tables : CloseTables) (subscription : BilledSubscription) : Bool :=
  (tables.jobs.get? subscription.period).any (!·.claimable)

/-- What is before a subscription in the queue of the invocations. -/
def ahead (tables : CloseTables) (subscription : BilledSubscription) : List BilledSubscription :=
  before (·.queueKey) tables.queue subscription

def atRest (db : CloseDb) : Bool := db.invocations.all (·.stage = .ended)

/-- Some run from here has an invocation that claims the period. -/
def Claimable (db : CloseDb) (period : Uuid × ℤ) : Prop :=
  ∃ commands command, claims period (exec step db commands) command = true

/-! ## Getting through the queue -/

/-- The tables with one more invocation. -/
def during (tables : CloseTables) (invocations : List Invocation) (invocation : Invocation) :
    CloseDb :=
  ⟨tables, invocations ++ [invocation]⟩

def quickInput : WorkInput where
  requestId := []
  outcome := ⟨true, none⟩
  writeFails := false
  clock := 0

/-- A step of the last invocation. -/
def workLast (invocations : List Invocation) : CloseCommand := .work invocations.length quickInput

/-- Some run leads from the one state to the other. -/
def Leads (db db' : CloseDb) : Prop := ∃ commands, exec step db commands = db'

theorem Leads.trans {first second third : CloseDb} (hfirst : Leads first second)
    (hsecond : Leads second third) : Leads first third := by
  obtain ⟨before, hbefore⟩ := hfirst
  obtain ⟨after, hafter⟩ := hsecond
  exact ⟨before ++ after, by rw [exec_append, hbefore, hafter]⟩

theorem leads_step (db : CloseDb) (command : CloseCommand) : Leads db (step db command) :=
  ⟨[command], rfl⟩

theorem getElem?_last (invocations : List Invocation) (invocation : Invocation) :
    (invocations ++ [invocation])[invocations.length]? = some invocation := by
  rw [List.getElem?_append_right (le_refl _), Nat.sub_self]
  rfl

theorem set_last (invocations : List Invocation) (invocation invocation' : Invocation) :
    (invocations ++ [invocation]).set invocations.length invocation'
      = invocations ++ [invocation'] := by
  rw [List.set_append_right _ _ (le_refl _), Nat.sub_self]
  rfl

theorem leads_work {tables' : CloseTables} {invocation' : Invocation}
    (hwork : work tables invocation quickInput = (tables', invocation')) :
    Leads (during tables invocations invocation) (during tables' invocations invocation') := by
  have hstep : step (during tables invocations invocation) (workLast invocations)
      = during tables' invocations invocation' := by
    rw [workLast, step, during]
    dsimp only
    rw [getElem?_last]
    dsimp only
    rw [hwork, set_last]
    rfl
  exact hstep ▸ leads_step _ _

theorem leads_crash : Leads (during tables invocations invocation)
    (during tables invocations invocation.finish) := by
  have hstep : step (during tables invocations invocation) (.crash invocations.length)
      = during tables invocations invocation.finish := by
    rw [step, during]
    dsimp only
    rw [getElem?_last]
    dsimp only
    rw [set_last]
    rfl
  exact hstep ▸ leads_step _ _

theorem Claimable.of_leads {db db' : CloseDb} {period : Uuid × ℤ} (hleads : Leads db db')
    (hclaimable : Claimable db' period) : Claimable db period := by
  obtain ⟨before, hbefore⟩ := hleads
  obtain ⟨after, command, hclaims⟩ := hclaimable
  exact ⟨before ++ after, command, by rw [exec_append, hbefore, hclaims]⟩

/-- The invocation has the time `now`, and these subscriptions before it. -/
structure Facing (now : Timestamp) (remaining : List BilledSubscription)
    (invocation : Invocation) : Prop where
  now : invocation.now = now
  remaining : invocation.remaining = remaining
  stage : invocation.stage = .next

variable {now : Timestamp} {rest : List BilledSubscription}

theorem Facing.work_eq (hfacing : Facing now (subscription :: rest) invocation)
    (tables : CloseTables) :
    work tables invocation quickInput = lookAt tables invocation subscription :=
  work_next hfacing.remaining hfacing.stage

theorem exists_closeAfter_of_selected (hselected : subscription.selected = true)
    (hsupported : supported subscription = true) :
    ∃ delayHours closeAfter, subscription.invoiceCloseDelayHours = some delayHours
      ∧ subscription.closeAfter delayHours = .ok closeAfter := by
  have hdelay : subscription.invoiceCloseDelayHours.isSome = true := by
    simp only [BilledSubscription.selected, Bool.and_eq_true] at hselected
    exact hselected.1.1.1.1.1.2
  obtain ⟨delayHours, hdelayHours⟩ := Option.isSome_iff_exists.mp hdelay
  obtain ⟨closeAfter, hclose⟩ := exists_closeAfter hsupported delayHours
  exact ⟨delayHours, closeAfter, hdelayHours, hclose⟩

theorem lookAt_early {delayHours closeAfter : ℤ}
    (hdelay : subscription.invoiceCloseDelayHours = some delayHours)
    (hclose : subscription.closeAfter delayHours = .ok closeAfter)
    (hearly : invocation.now < closeAfter) :
    lookAt tables invocation subscription = (tables, invocation.skip) := by
  rw [lookAt, hdelay]
  dsimp only
  rw [hclose]
  dsimp only
  rw [if_pos hearly]

def dueInvocation (invocation : Invocation) : Invocation :=
  { invocation with
    result := { invocation.result with eligible := invocation.result.eligible + 1 } }

def upserted (invocation : Invocation) : Invocation :=
  { dueInvocation invocation with stage := .upserted }

theorem lookAt_due {delayHours closeAfter : ℤ}
    (hdelay : subscription.invoiceCloseDelayHours = some delayHours)
    (hclose : subscription.closeAfter delayHours = .ok closeAfter)
    (hdue : closeAfter ≤ invocation.now) :
    lookAt tables invocation subscription
      = match tables.jobs.get? subscription.period with
        | some job => (tables, if job.passedBy then (dueInvocation invocation).skip
            else upserted invocation)
        | none => ({ tables with jobs := tables.jobs.put (newJob subscription) },
            upserted invocation) := by
  rw [lookAt, hdelay]
  dsimp only
  rw [hclose]
  dsimp only
  rw [if_neg (not_lt.mpr hdue)]
  rfl

/-- An invocation passes a subscription whose job cannot be claimed. -/
theorem leads_past (invocations : List Invocation) (hselected : subscription.selected = true)
    (hsupported : supported subscription = true) (hstuck : isStuck tables subscription = true)
    (hfacing : Facing now (subscription :: rest) invocation) :
    ∃ passed, Facing now rest passed ∧ Leads (during tables invocations invocation)
      (during tables invocations passed) := by
  obtain ⟨delayHours, closeAfter, hdelay, hclose⟩ :=
    exists_closeAfter_of_selected hselected hsupported
  have hskipped : ∀ result, Facing now rest (Invocation.skip { invocation with
      result := result }) := fun result =>
    ⟨hfacing.now, congrArg List.tail hfacing.remaining, rfl⟩
  by_cases hearly : invocation.now < closeAfter
  · have hwork := (hfacing.work_eq tables).trans (lookAt_early hdelay hclose hearly)
    exact ⟨_, hskipped _, leads_work hwork⟩
  · have hwork := (hfacing.work_eq tables).trans
      (lookAt_due hdelay hclose (not_lt.mp hearly))
    rw [isStuck] at hstuck
    cases hjob : tables.jobs.get? subscription.period with
    | none =>
        rw [hjob] at hstuck
        cases hstuck
    | some job =>
        rw [hjob, Option.any_some] at hstuck
        rw [hjob] at hwork
        dsimp only at hwork
        by_cases hpassed : job.passedBy = true
        · rw [if_pos hpassed] at hwork
          exact ⟨_, hskipped _, leads_work hwork⟩
        · rw [if_neg hpassed] at hwork
          have hremaining : (upserted invocation).remaining = subscription :: rest :=
            hfacing.remaining
          have hrefused : work tables (upserted invocation) quickInput
              = (tables, (upserted invocation).skip) := by
            rw [work_upserted hremaining rfl, claim, hjob]
            exact if_neg (by simpa using hstuck)
          exact ⟨_, hskipped _, (leads_work hwork).trans (leads_work hrefused)⟩

theorem leads_through {passed : List BilledSubscription}
    (hpassed : ∀ subscription ∈ passed, subscription.selected = true
      ∧ supported subscription = true ∧ isStuck tables subscription = true)
    (hfacing : Facing now (passed ++ rest) invocation) :
    ∃ arrived, Facing now rest arrived ∧ Leads (during tables invocations invocation)
      (during tables invocations arrived) := by
  induction passed generalizing invocation with
  | nil => exact ⟨invocation, hfacing, [], rfl⟩
  | cons subscription passed ih =>
      obtain ⟨hselected, hsupported, hstuck⟩ := hpassed subscription List.mem_cons_self
      obtain ⟨next, hnext, hfirst⟩ := leads_past invocations hselected
        hsupported hstuck hfacing
      obtain ⟨arrived, harrived, hrest⟩ := ih
        (fun other hother => hpassed other (List.mem_cons_of_mem _ hother)) hnext
      exact ⟨arrived, harrived, hfirst.trans hrest⟩

/-- The invocation is about to claim the job of the subscription. -/
structure Claiming (tables : CloseTables) (subscription : BilledSubscription)
    (tables' : CloseTables) (invocation : Invocation) : Prop where
  subscriptions : tables'.subscriptions = tables.subscriptions
  jobs : ∀ period ≠ subscription.period, tables'.jobs.get? period = tables.jobs.get? period
  claimable : ∃ job, tables'.jobs.get? subscription.period = some job ∧ job.claimable = true
  head : ∃ rest, invocation.remaining = subscription :: rest
  stage : invocation.stage = .upserted

theorem passedBy_of_claimable {job : PaygCloseJob} (hclaimable : job.claimable = true) :
    job.passedBy = false := by
  obtain ⟨-, hleft⟩ := status_of_claimable hclaimable
  simp only [PaygCloseJob.claimable, Bool.and_eq_true, Bool.or_eq_true,
    decide_eq_true_eq] at hclaimable
  rw [PaygCloseJob.passedBy, decide_eq_false (not_le.mpr hleft), Bool.or_false]
  cases hclaimable.1 with
  | inl hpending => rw [hpending]; rfl
  | inr hfailed => rw [hfailed]; rfl

theorem leads_claiming (hfacing : Facing now (subscription :: rest) invocation)
    {delayHours : ℤ} (hdelay : subscription.invoiceCloseDelayHours = some delayHours)
    (hclose : subscription.closeAfter delayHours = .ok now)
    (hfree : isStuck tables subscription = false) :
    ∃ tables' invocation', Claiming tables subscription tables' invocation'
      ∧ Leads (during tables invocations invocation) (during tables' invocations invocation') := by
  have hwork := (hfacing.work_eq tables).trans
    (lookAt_due hdelay hclose hfacing.now.ge)
  cases hjob : tables.jobs.get? subscription.period with
  | none =>
      rw [hjob] at hwork
      refine ⟨{ tables with jobs := tables.jobs.put (newJob subscription) }, upserted invocation,
        ⟨rfl, ?_, ⟨newJob subscription, ?_, rfl⟩, ⟨rest, hfacing.remaining⟩, rfl⟩,
        leads_work hwork⟩
      · intro period hperiod
        exact (get?_put _ _ _).trans (if_neg fun hsame => hperiod hsame.symm)
      · exact (get?_put _ _ _).trans (if_pos rfl)
  | some job =>
      have hclaimable : job.claimable = true := by
        rw [isStuck, hjob, Option.any_some] at hfree
        simpa using hfree
      rw [hjob] at hwork
      dsimp only at hwork
      rw [passedBy_of_claimable hclaimable, if_neg Bool.false_ne_true] at hwork
      exact ⟨tables, upserted invocation,
        ⟨rfl, fun _ _ => rfl, ⟨job, hjob, hclaimable⟩, ⟨rest, hfacing.remaining⟩, rfl⟩,
        leads_work hwork⟩

theorem Claiming.claims {tables' : CloseTables}
    (hclaiming : Claiming tables subscription tables' invocation) :
    claims subscription.period (during tables' invocations invocation) (workLast invocations)
      = true := by
  obtain ⟨job, hjob, hclaimable⟩ := hclaiming.claimable
  obtain ⟨rest, hremaining⟩ := hclaiming.head
  have hmove : move subscription.period (during tables' invocations invocation)
      (workLast invocations) = .claims := by
    rw [workLast, move, during]
    dsimp only
    rw [getElem?_last, Option.elim_some, workMove, isAt_of_head (by rw [hremaining]; rfl),
      hclaiming.stage, hjob]
    simp [hclaimable]
  rw [CloseJobs.claims, hmove]
  rfl

/-- The period is closed, and the invocation ends before it has recorded that. -/
theorem Claiming.leads_closed {tables' : CloseTables}
    (hclaiming : Claiming tables subscription tables' invocation) :
    ∃ jobs finished, finished.stage = .ended
      ∧ (∀ period ≠ subscription.period, jobs.get? period = tables.jobs.get? period)
      ∧ Leads (during tables' invocations invocation)
        (during ⟨closedIn tables.subscriptions subscription.period, jobs⟩ invocations
          finished) := by
  obtain ⟨job, hjob, hclaimable⟩ := hclaiming.claimable
  obtain ⟨rest, hremaining⟩ := hclaiming.head
  have hclaim : work tables' invocation quickInput
      = ({ tables' with
          jobs := tables'.jobs.put (claimed job quickInput.requestId invocation.now) },
        { invocation with stage := .closing }) := by
    rw [work_upserted hremaining hclaiming.stage, claim, hjob]
    exact if_pos hclaimable
  have hstill : { invocation with stage := WorkStage.closing }.remaining = subscription :: rest :=
    hremaining
  have hclose : work { tables' with
        jobs := tables'.jobs.put (claimed job quickInput.requestId invocation.now) }
        { invocation with stage := .closing } quickInput
      = (⟨closedIn tables.subscriptions subscription.period,
          tables'.jobs.put (claimed job quickInput.requestId invocation.now)⟩,
        { invocation with stage := .recording none }) := by
    rw [work_closing hstill rfl, close, ← hclaiming.subscriptions]
    rfl
  have hjobPeriod : job.period = subscription.period := period_of_get? hjob
  refine ⟨_, Invocation.finish { invocation with stage := .recording none }, rfl, ?_,
    ((leads_work hclaim).trans (leads_work hclose)).trans leads_crash⟩
  intro period hperiod
  rw [get?_put, if_neg, hclaiming.jobs period hperiod]
  intro hsame
  exact hperiod (hsame.symm.trans hjobPeriod)

/-! ## Coming closer -/

/-- What a period needs to be claimed some day. -/
structure Reachable (target : BilledSubscription) (tables : CloseTables) : Prop where
  stored : target ∈ tables.subscriptions
  selected : target.selected = true
  free : isStuck tables target = false
  cycle : supported target = true
  cyclesAhead : ∀ other ∈ ahead tables target, supported other = true
  few : (ahead tables target).countP (isStuck tables) < maxBatchSize

theorem mem_queue : subscription ∈ tables.queue ↔
    subscription ∈ tables.subscriptions ∧ subscription.selected = true :=
  List.mem_filter

theorem mem_ahead {other : BilledSubscription} : other ∈ ahead tables target ↔
    (other ∈ tables.subscriptions ∧ other.selected = true)
      ∧ other.queueKey < target.queueKey := by
  rw [ahead, before, List.mem_filter, mem_queue, decide_eq_true_eq]

theorem eq_of_queueKey {other : BilledSubscription} (hother : other ∈ tables.subscriptions)
    (htarget : target ∈ tables.subscriptions) (hkey : other.queueKey = target.queueKey) :
    other = target :=
  Table.eq_of_key_eq hother htarget (congrArg (fun key => (ofLex key).2) hkey)

/-- The first subscription that is not stuck is the target, or before it. -/
theorem Reachable.exists_first (hreachable : Reachable target tables) :
    ∃ first ∈ tables.queue, isStuck tables first = false
      ∧ (first = target ∨ first.queueKey < target.queueKey)
      ∧ ∀ other ∈ tables.queue, other.queueKey < first.queueKey →
        isStuck tables other = true := by
  have htarget : target ∈ tables.queue.filter (!isStuck tables ·) :=
    List.mem_filter.mpr ⟨mem_queue.mpr ⟨hreachable.stored, hreachable.selected⟩,
      by rw [hreachable.free]; rfl⟩
  obtain ⟨first, hhead⟩ := exists_head_firstOf (·.queueKey) 0 htarget
  obtain ⟨hmem, hleast⟩ := head_firstOf_eq_some hhead
  obtain ⟨hqueued, hfree⟩ := List.mem_filter.mp hmem
  refine ⟨first, hqueued, by simpa using hfree, ?_, fun other hother hbefore => ?_⟩
  · cases (hleast target htarget).lt_or_eq with
    | inl hbefore => exact .inr hbefore
    | inr hsame =>
        exact .inl (eq_of_queueKey (mem_queue.mp hqueued).1 hreachable.stored hsame)
  · by_contra hother'
    have hlater := hleast other (List.mem_filter.mpr ⟨hother, by simpa using hother'⟩)
    exact absurd hbefore (not_lt.mpr hlater)

theorem Reachable.mem_batch (hreachable : Reachable target tables)
    {first : BilledSubscription} (hqueued : first ∈ tables.queue)
    (hplace : first = target ∨ first.queueKey < target.queueKey)
    (hstuck : ∀ other ∈ tables.queue, other.queueKey < first.queueKey →
      isStuck tables other = true) : first ∈ tables.batch := by
  apply (mem_firstOf_iff (nodup_queueKeys tables) hqueued).mpr
  have hle : first.queueKey ≤ target.queueKey := by
    cases hplace with
    | inl hsame => rw [hsame]
    | inr hbefore => exact hbefore.le
  calc
    (before (·.queueKey) tables.queue first).length
        = tables.queue.countP fun other => other.queueKey < first.queueKey :=
      List.countP_eq_length_filter.symm
    _ ≤ tables.queue.countP fun other =>
        isStuck tables other && decide (other.queueKey < target.queueKey) := by
      apply List.countP_mono_left
      intro other hother hbefore
      rw [decide_eq_true_eq] at hbefore
      rw [hstuck other hother hbefore, decide_eq_true (hbefore.trans_le hle)]
      rfl
    _ = (ahead tables target).countP (isStuck tables) := by
      rw [ahead, before, List.countP_filter]
    _ < maxBatchSize := hreachable.few

def enabledState : ExperienceState where
  paygAutomaticInvoiceCloseEnabled := true
  openBetaFreeAccess := false
  paygBillingEnabled := true
  paygRefundCreditsEnabled := true

/-- Some run has an invocation that is about to claim the first period that is not stuck. -/
theorem Reachable.leads_first (hreachable : Reachable target tables)
    (invocations : List Invocation) {first : BilledSubscription} (hqueued : first ∈ tables.queue)
    (hfree : isStuck tables first = false)
    (hplace : first = target ∨ first.queueKey < target.queueKey)
    (hstuck : ∀ other ∈ tables.queue, other.queueKey < first.queueKey →
      isStuck tables other = true) :
    ∃ tables' invocation', Claiming tables first tables' invocation'
      ∧ Leads ⟨tables, invocations⟩ (during tables' invocations invocation') := by
  have hmem := hreachable.mem_batch hqueued hplace hstuck
  obtain ⟨passed, rest, hbatch⟩ := List.append_of_mem hmem
  have hgrowing := growing_firstOf maxBatchSize (nodup_queueKeys tables)
  have hpassed : ∀ other ∈ passed, other.selected = true
      ∧ supported other = true ∧ isStuck tables other = true := by
    intro other hother
    have hotherBatch : other ∈ tables.batch := by
      rw [hbatch]
      exact List.mem_append_left _ hother
    have hotherQueued := mem_of_mem_firstOf hotherBatch
    have hbefore : other.queueKey < first.queueKey := by
      change tables.batch.Pairwise _ at hgrowing
      rw [hbatch] at hgrowing
      exact (List.pairwise_append.mp hgrowing).2.2 other hother first List.mem_cons_self
    have hahead : other.queueKey < target.queueKey := by
      cases hplace with
      | inl hsame => exact hsame ▸ hbefore
      | inr hlater => exact hbefore.trans hlater
    obtain ⟨hstored, hselected⟩ := mem_queue.mp hotherQueued
    exact ⟨hselected, hreachable.cyclesAhead other (mem_ahead.mpr ⟨⟨hstored, hselected⟩, hahead⟩),
      hstuck other hotherQueued hbefore⟩
  have hsupported : supported first = true := by
    cases hplace with
    | inl hsame => exact hsame ▸ hreachable.cycle
    | inr hbefore =>
        exact hreachable.cyclesAhead first (mem_ahead.mpr ⟨mem_queue.mp hqueued, hbefore⟩)
  obtain ⟨delayHours, closeAfter, hdelay, hclose⟩ :=
    exists_closeAfter_of_selected (mem_queue.mp hqueued).2 hsupported
  have hinvoked : Leads ⟨tables, invocations⟩
      (during tables invocations ⟨closeAfter, tables.batch, .next, .empty⟩) :=
    leads_step _ (.invoke enabledState closeAfter)
  have hfacing : Facing closeAfter (passed ++ first :: rest)
      ⟨closeAfter, tables.batch, .next, .empty⟩ := ⟨rfl, hbatch, rfl⟩
  obtain ⟨arrived, harrived, hthrough⟩ := leads_through hpassed hfacing
  obtain ⟨tables', invocation', hclaiming, hclaim⟩ :=
    leads_claiming harrived hdelay hclose hfree
  exact ⟨tables', invocation', hclaiming, (hinvoked.trans hthrough).trans hclaim⟩

/-! ### The first subscription goes on to its next period -/

section Closing

variable {first : BilledSubscription} {jobs : Table PaygCloseJob}

def advanced (first subscription : BilledSubscription) : BilledSubscription :=
  if subscription.id = first.id then subscription.closed first.billingPeriodStart
  else subscription

/-- The tables after the period has been closed. -/
def afterClosing (tables : CloseTables) (first : BilledSubscription)
    (jobs : Table PaygCloseJob) : CloseTables :=
  ⟨closedIn tables.subscriptions first.period, jobs⟩

theorem rows_afterClosing : (afterClosing tables first jobs).subscriptions.rows
    = tables.subscriptions.rows.map (advanced first) := rfl

theorem advanced_self : advanced first first = first.closed first.billingPeriodStart :=
  if_pos rfl

theorem advanced_of_ne (hfirst : first ∈ tables.subscriptions)
    (hstored : subscription ∈ tables.subscriptions) (hne : subscription ≠ first) :
    advanced first subscription = subscription :=
  if_neg fun hid => hne (Table.eq_of_key_eq hstored hfirst hid)

/-- How far the first period of the subscription is from the end of the target's. -/
def distance (tables : CloseTables) (target subscription : BilledSubscription) : ℕ :=
  if (subscription.selected && !isStuck tables subscription)
      && decide (subscription.queueKey < target.queueKey) then
    (target.billingPeriodEnd - subscription.billingPeriodStart).toNat + 1
  else 0

def distances (tables : CloseTables) (target : BilledSubscription) : ℕ :=
  (tables.subscriptions.rows.map (distance tables target)).sum

theorem start_lt_closed (first : BilledSubscription) :
    first.billingPeriodStart < (first.closed first.billingPeriodStart).billingPeriodStart
      ∧ (first.closed first.billingPeriodStart).billingPeriodStart
        < (first.closed first.billingPeriodStart).billingPeriodEnd := by
  rw [BilledSubscription.closed, if_pos rfl]
  exact ⟨lt_nextMonth _, lt_addUtcMonths _⟩

theorem closed_supported (subscription : BilledSubscription) (period : ℤ) :
    supported (subscription.closed period) = supported subscription := by
  rw [BilledSubscription.closed]
  split_ifs <;> rfl

theorem closed_id (subscription : BilledSubscription) (period : ℤ) :
    (subscription.closed period).id = subscription.id := by
  rw [BilledSubscription.closed]
  split_ifs <;> rfl

theorem end_le_of_lt {left right : BilledSubscription} (hlt : left.queueKey < right.queueKey) :
    left.billingPeriodEnd ≤ right.billingPeriodEnd := by
  cases (Prod.Lex.toLex_lt_toLex).mp hlt with
  | inl hlt => exact hlt.le
  | inr hsame => exact hsame.1.le

theorem distance_lt (hselected : first.selected = true) (hfree : isStuck tables first = false)
    (hbefore : first.queueKey < target.queueKey) :
    distance (afterClosing tables first jobs) target (advanced first first)
      < distance tables target first := by
  obtain ⟨hlater, hend⟩ := start_lt_closed first
  have hdistance : distance tables target first
      = (target.billingPeriodEnd - first.billingPeriodStart).toNat + 1 := by
    rw [distance, hselected, hfree, decide_eq_true hbefore]
    rfl
  rw [hdistance, advanced_self, distance]
  split_ifs with hstill
  · have hle := end_le_of_lt (of_decide_eq_true (Bool.and_eq_true_iff.mp hstill).2)
    omega
  · exact Nat.succ_pos _

variable (hfirst : first ∈ tables.subscriptions)
  (hjobs : ∀ period ≠ first.period, jobs.get? period = tables.jobs.get? period)

include hfirst hjobs

theorem isStuck_afterClosing (hstored : subscription ∈ tables.subscriptions)
    (hne : subscription ≠ first) :
    isStuck (afterClosing tables first jobs) subscription = isStuck tables subscription := by
  have hperiod : subscription.period ≠ first.period := fun hsame =>
    hne (Table.eq_of_key_eq hstored hfirst (congrArg Prod.fst hsame))
  rw [isStuck, isStuck, afterClosing, hjobs _ hperiod]

/-- A period that has just begun has no job. -/
theorem isStuck_closed (hdated : ∀ job ∈ tables.jobs, Had tables.subscriptions job.period) :
    isStuck (afterClosing tables first jobs) (first.closed first.billingPeriodStart) = false := by
  have hlater := (start_lt_closed first).1
  have hperiod : (first.closed first.billingPeriodStart).period ≠ first.period := fun hsame =>
    hlater.ne' (congrArg Prod.snd hsame)
  have hnone : tables.jobs.get? (first.closed first.billingPeriodStart).period = none := by
    apply Table.get?_eq_none_iff.mpr
    intro job hjob hsame
    have hhad := hdated job hjob first hfirst
      ((closed_id _ _).symm.trans (congrArg Prod.fst hsame).symm)
    have hstart : job.period.2 = (first.closed first.billingPeriodStart).billingPeriodStart :=
      congrArg Prod.snd hsame
    rw [hstart] at hhad
    cases hhad with
    | inl hsameStart => exact hlater.ne' hsameStart
    | inr hearlier =>
        cases follows_closed first first.billingPeriodStart with
        | inl hstill => exact hlater.ne hstill
        | inr hmonth => exact absurd hearlier hmonth.asymm
  rw [isStuck, afterClosing, hjobs _ hperiod, hnone]
  rfl

theorem distance_le (hstored : subscription ∈ tables.subscriptions) (hne : subscription ≠ first) :
    distance (afterClosing tables first jobs) target (advanced first subscription)
      = distance tables target subscription := by
  rw [advanced_of_ne hfirst hstored hne, distance, distance,
    isStuck_afterClosing hfirst hjobs hstored hne]

theorem distances_lt (hselected : first.selected = true) (hfree : isStuck tables first = false)
    (hbefore : first.queueKey < target.queueKey) :
    distances (afterClosing tables first jobs) target < distances tables target := by
  rw [distances, rows_afterClosing, List.map_map, distances]
  apply List.sum_lt_sum
  · intro row hrow
    by_cases hsame : row = first
    · rw [hsame]
      exact (distance_lt hselected hfree hbefore).le
    · exact (distance_le hfirst hjobs hrow hsame).le
  · exact ⟨first, hfirst, distance_lt hselected hfree hbefore⟩

theorem reachable_afterClosing (hreachable : Reachable target tables)
    (hselected : first.selected = true) (hbefore : first.queueKey < target.queueKey)
    (hdated : ∀ job ∈ tables.jobs, Had tables.subscriptions job.period) :
    Reachable target (afterClosing tables first jobs) := by
  have hne : target ≠ first := fun hsame => lt_irrefl _ (hsame ▸ hbefore)
  have hfirstCycle : supported first = true :=
    hreachable.cyclesAhead first (mem_ahead.mpr ⟨⟨hfirst, hselected⟩, hbefore⟩)
  constructor
  · apply Table.mem_iff.mpr
    rw [rows_afterClosing]
    exact List.mem_map.mpr ⟨target, hreachable.stored, advanced_of_ne hfirst hreachable.stored hne⟩
  · exact hreachable.selected
  · rw [isStuck_afterClosing hfirst hjobs hreachable.stored hne]
    exact hreachable.free
  · exact hreachable.cycle
  · intro other hother
    obtain ⟨⟨hstored, hotherSelected⟩, hotherBefore⟩ := mem_ahead.mp hother
    rw [Table.mem_iff, rows_afterClosing] at hstored
    obtain ⟨row, hrow, hadvanced⟩ := List.mem_map.mp hstored
    by_cases hsame : row = first
    · rw [hsame, advanced_self] at hadvanced
      rw [← hadvanced, closed_supported]
      exact hfirstCycle
    · rw [advanced_of_ne hfirst hrow hsame] at hadvanced
      subst hadvanced
      exact hreachable.cyclesAhead row (mem_ahead.mpr ⟨⟨hrow, hotherSelected⟩, hotherBefore⟩)
  · have hcount : ∀ tables : CloseTables, (ahead tables target).countP (isStuck tables)
        = tables.subscriptions.rows.countP fun row =>
          (isStuck tables row && decide (row.queueKey < target.queueKey)) && row.selected := by
      intro tables
      rw [ahead, before, List.countP_filter, CloseTables.queue, List.countP_filter]
    apply lt_of_le_of_lt _ hreachable.few
    rw [hcount, hcount, rows_afterClosing, List.countP_map]
    apply List.countP_mono_left
    intro row hrow hstuck
    rw [Function.comp_apply] at hstuck
    by_cases hsame : row = first
    · rw [hsame, advanced_self, isStuck_closed hfirst hjobs hdated] at hstuck
      cases hstuck
    · rw [advanced_of_ne hfirst hrow hsame, isStuck_afterClosing hfirst hjobs hrow hsame] at hstuck
      exact hstuck

end Closing

variable {db : CloseDb}

/-- Either the target is claimed, or a subscription before it goes on to its next period. -/
theorem Reachable.closer (hreachable : Reachable target db.tables) (hdated : Dated db) :
    Claimable db target.period ∨ ∃ db', Leads db db' ∧ Reachable target db'.tables
      ∧ distances db'.tables target < distances db.tables target := by
  obtain ⟨first, hqueued, hfree, hplace, hstuck⟩ := hreachable.exists_first
  obtain ⟨tables', invocation', hclaiming, hleads⟩ :=
    hreachable.leads_first db.invocations hqueued hfree hplace hstuck
  cases hplace with
  | inl hsame =>
      subst hsame
      exact .inl (Claimable.of_leads hleads ⟨[], workLast db.invocations, hclaiming.claims⟩)
  | inr hbefore =>
      obtain ⟨hstored, hselected⟩ := mem_queue.mp hqueued
      obtain ⟨jobs, finished, hended, hjobs, hclosed⟩ := hclaiming.leads_closed
      exact .inr ⟨_, hleads.trans hclosed,
        reachable_afterClosing hstored hjobs hreachable hselected hbefore hdated.jobs,
        distances_lt hstored hjobs hselected hfree hbefore⟩

theorem Reachable.claimable (hreachable : Reachable target db.tables) (hdated : Dated db) :
    Claimable db target.period := by
  induction hdistances : distances db.tables target using Nat.strong_induction_on
    generalizing db with
  | h distance ih =>
      cases hreachable.closer hdated with
      | inl hclaimable => exact hclaimable
      | inr hcloser =>
          obtain ⟨db', hleads, hreachable', hless⟩ := hcloser
          have hdated' : Dated db' := by
            obtain ⟨commands, hcommands⟩ := hleads
            exact hcommands ▸ dated_exec hdated commands
          exact (ih _ (hdistances ▸ hless) hreachable' hdated' rfl).of_leads hleads

/-! ## Starvation -/

theorem not_claimable {period : Uuid × ℤ} (Blocked : CloseDb → Prop)
    (hquiet : ∀ db command, Blocked db → move period db command = .quiet)
    (hkept : ∀ db command, Blocked db → Blocked (step db command)) (hstart : Blocked db) :
    ¬ Claimable db period := by
  rintro ⟨commands, command, hclaims⟩
  have hblocked := invariant_exec Blocked hkept hstart commands
  rw [claims, hquiet _ command hblocked] at hclaims
  cases hclaims

theorem underway_of_atRest (hrest : atRest db = true) (property : Invocation → Prop) :
    Underway property db := by
  intro invocation hinvocation hlive
  exact absurd (of_decide_eq_true (List.all_eq_true.mp hrest invocation hinvocation)) hlive

theorem fresh_of_atRest (hrest : atRest db = true)
    (hstored : subscription ∈ db.tables.subscriptions) : Fresh subscription db :=
  ⟨hstored, underway_of_atRest hrest _⟩

theorem blocking_of_atRest (hrest : atRest db = true)
    (hstored : subscription ∈ db.tables.subscriptions) : Blocking subscription db :=
  ⟨fresh_of_atRest hrest hstored, underway_of_atRest hrest _⟩

theorem stuck_of_atRest (hrest : atRest db = true)
    (hstuck : isStuck db.tables subscription = true) : Stuck (view subscription.period db) := by
  constructor
  · exact hstuck
  · intro held hheld
    obtain ⟨invocation, hinvocation, hsame⟩ := List.mem_map.mp hheld
    have hended : invocation.stage = .ended :=
      of_decide_eq_true (List.all_eq_true.mp hrest invocation hinvocation)
    rw [← hsame]
    exact hold_eq_free (by rw [hended]; rfl)

theorem passable_of_selected (hselected : subscription.selected = true) :
    passable subscription = supported subscription := by
  have hdelay : subscription.invoiceCloseDelayHours.isSome = true := by
    simp only [BilledSubscription.selected, Bool.and_eq_true] at hselected
    exact hselected.1.1.1.1.1.2
  rw [passable, Option.isNone_eq_false_iff.mpr hdelay, Bool.false_or]

theorem not_claimable_of_stuck (hrest : atRest db = true)
    (hstuck : isStuck db.tables target = true) : ¬ Claimable db target.period := by
  apply not_claimable fun db => Stuck (view target.period db)
  · intro db command hstuck
    exact (hstuck.step (view_step target.period db command)).1
  · intro db command hstuck
    exact (hstuck.step (view_step target.period db command)).2
  · exact stuck_of_atRest hrest hstuck

theorem not_claimable_of_cycle (hrest : atRest db = true)
    (hstored : target ∈ db.tables.subscriptions) (hpassable : passable target = false) :
    ¬ Claimable db target.period := by
  apply not_claimable (Blocking target)
  · intro db command hblocking
    exact hblocking.quiet command
  · intro db command hblocking
    exact hblocking.step hpassable (db_step db command)
  · exact blocking_of_atRest hrest hstored

theorem not_claimable_of_behind (hrest : atRest db = true)
    (hstored : target ∈ db.tables.subscriptions) (hahead : subscription ∈ ahead db.tables target)
    (hpassable : passable subscription = false) : ¬ Claimable db target.period := by
  obtain ⟨⟨hblocker, hselected⟩, hbefore⟩ := mem_ahead.mp hahead
  apply not_claimable (Behind subscription target)
  · intro db command hbehind
    exact hbehind.quiet hbefore command
  · intro db command hbehind
    exact hbehind.step hselected hpassable hbefore (db_step db command)
  · exact ⟨blocking_of_atRest hrest hblocker, fresh_of_atRest hrest hstored,
      underway_of_atRest hrest _, underway_of_atRest hrest _⟩

theorem not_claimable_of_crowd (hrest : atRest db = true)
    (hstored : target ∈ db.tables.subscriptions)
    (hmany : maxBatchSize ≤ (ahead db.tables target).countP (isStuck db.tables)) :
    ¬ Claimable db target.period := by
  have hcrowd : ((ahead db.tables target).filter (isStuck db.tables)).Nodup :=
    ((List.Nodup.of_map _ (nodup_queueKeys db.tables)).filter _).filter _
  have hahead : ∀ other ∈ (ahead db.tables target).filter (isStuck db.tables),
      other.selected = true ∧ other.queueKey < target.queueKey := by
    intro other hother
    obtain ⟨hselected, hbefore⟩ := mem_ahead.mp (List.mem_filter.mp hother).1
    exact ⟨hselected.2, hbefore⟩
  rw [List.countP_eq_length_filter] at hmany
  apply not_claimable (Crowded ((ahead db.tables target).filter (isStuck db.tables)) target)
  · intro db command hcrowded
    exact hcrowded.quiet command
  · intro db command hcrowded
    exact hcrowded.step hcrowd hmany hahead (db_step db command)
  · constructor
    · intro other hother
      exact stuck_of_atRest hrest (List.mem_filter.mp hother).2
    · intro other hother
      exact fresh_of_atRest hrest (mem_ahead.mp (List.mem_filter.mp hother).1).1.1
    · exact fresh_of_atRest hrest hstored
    · exact underway_of_atRest hrest _

theorem reachable_of_claimable (hrest : atRest db = true)
    (hstored : target ∈ db.tables.subscriptions) (hselected : target.selected = true)
    (hclaimable : Claimable db target.period) : Reachable target db.tables := by
  constructor
  · exact hstored
  · exact hselected
  · apply Bool.eq_false_of_not_eq_true
    intro hstuck
    exact not_claimable_of_stuck hrest hstuck hclaimable
  · by_contra hcycle
    have hpassable : passable target = false := by
      rw [passable_of_selected hselected]
      exact Bool.eq_false_of_not_eq_true hcycle
    exact not_claimable_of_cycle hrest hstored hpassable hclaimable
  · intro other hother
    by_contra hcycle
    have hpassable : passable other = false := by
      rw [passable_of_selected (mem_ahead.mp hother).1.2]
      exact Bool.eq_false_of_not_eq_true hcycle
    exact not_claimable_of_behind hrest hstored hother hpassable hclaimable
  · by_contra hmany
    exact not_claimable_of_crowd hrest hstored (not_lt.mp hmany) hclaimable

def tokyo : ZonedClock.TimeZone :=
  .switching 0 32_400_000 32_400_000 (by decide) (by decide) (by decide) (by decide)

/-- A subscription in January 2026. -/
def january : BilledSubscription where
  id := 1
  status := "ACTIVE".toList
  planCode := "PAYG".toList
  planIsActive := true
  pricingEffectiveAt := some 0
  invoiceCloseDelayHours := some 24
  sealedAt := some 0
  contractHash := some []
  taxTreatment := .inclusive
  contract := Billing.monthlyContract tokyo
  billingPeriodStart := 20_454
  billingPeriodEnd := 20_485

def januaryOnly : Table BilledSubscription := ⟨[january], List.pairwise_singleton _ _⟩

/-- An invocation claims the job and ends. -/
def crashedRun : List CloseCommand :=
  [.invoke enabledState 1_780_000_000_000, .work 0 quickInput, .work 0 quickInput, .crash 0]

end Stallorder.CloseStarvation
