import Mathlib.Data.List.Find
import Stallorder.Printing.PrintCompletion

/-!
# Checkouts that wait in time

The routing of a paid order prints nothing.  So a checkout that has read an
order as not printed finds it so when it commits, unless a print of the order
commits in between.
-/

namespace Stallorder.PrintCompletion

open OrderContract OrderDatabase OrderPatch OrderRun PrimaryPrintStatus Run
open PrintJobs (PrintJob PrintQueueError)

/-! ## Jobs that match -/

/-- A job is a ticket, or it belongs to another job: as a copy of it, or as a reprint, which is
the same document until a rule takes the other job. -/
def Belongs (jobs : Table OrderPrintJob) (row : OrderPrintJob) : Prop :=
  (row.reprintOfId = none ∧ row.isRoutingCopy = false)
    ∨ ∃ parent ∈ jobs, row.reprintOfId = some parent.id
      ∧ (row.isRoutingCopy = true ∨ parent.job.printRuleId ≠ none
        ∨ row.documentType = parent.documentType)

def JobsMatch (jobs : Table OrderPrintJob) : Prop :=
  ∀ row ∈ jobs, Belongs jobs row

/-- The order is not printed unless it was. -/
def PrintsNothing (orderId : Uuid) (jobs jobs' : Table OrderPrintJob) : Prop :=
  primaryPrintStatus jobs' orderId = some .succeeded →
    primaryPrintStatus jobs orderId = some .succeeded

section Matching

variable {table after : Table OrderPrintJob} {added root : OrderPrintJob} {rule : PrintRule}
  {orderId wanted : Uuid}

theorem JobsMatch.unused (hmatch : JobsMatch table) (hinsert : table.insert? added = some after) :
    ∀ row ∈ table, row.id ≠ added.id ∧ row.reprintOfId ≠ some added.id := by
  have hid : ∀ row ∈ table, row.id ≠ added.id := fun row hrow hid =>
    Table.not_collides_of_insert? hinsert hrow (Indexed.collides_of_key_eq hid)
  refine fun row hrow => ⟨hid row hrow, fun hrefers => ?_⟩
  rcases hmatch row hrow with ⟨hnone, -⟩ | ⟨parent, hparent, hsome, -⟩
  · rw [hnone] at hrefers
    cases hrefers
  · exact hid parent hparent (Option.some.inj (hsome.symm.trans hrefers))

theorem jobsMatch_insert? (hmatch : JobsMatch table) (hinsert : table.insert? added = some after)
    (hadded : Belongs table added) : JobsMatch after := by
  have hmore : ∀ row, Belongs table row → Belongs after row := by
    rintro row (hticket | ⟨parent, hparent, hbelongs⟩)
    · exact .inl hticket
    · exact .inr ⟨parent, (Table.mem_of_insert? hinsert).mpr (.inl hparent), hbelongs⟩
  intro row hrow
  rcases (Table.mem_of_insert? hinsert).mp hrow with hold | rfl
  · exact hmore row (hmatch row hold)
  · exact hmore row hadded

theorem jobsMatch_rewrite (hmatch : JobsMatch table) {change : OrderPrintJob → OrderPrintJob}
    {hkey : ∀ row, Indexed.key (change row) = Indexed.key row}
    (hrefers : ∀ row, (change row).reprintOfId = row.reprintOfId)
    (hcopy : ∀ row ∈ table, (change row).isRoutingCopy = row.isRoutingCopy)
    (htype : ∀ row ∈ table, (change row).job.printRuleId = none ∨ row.reprintOfId ≠ none →
      (change row).documentType = row.documentType)
    (hfree : ∀ row ∈ table, (change row).job.printRuleId = none → row.job.printRuleId = none) :
    JobsMatch (table.rewrite change hkey) := by
  intro row hrow
  obtain ⟨before, hbefore, rfl⟩ := (Table.mem_rewrite hkey).mp hrow
  rcases hmatch before hbefore with ⟨hnone, hticket⟩ | ⟨parent, hparent, hsome, hkind⟩
  · exact .inl ⟨(hrefers before).trans hnone, (hcopy before hbefore).trans hticket⟩
  · refine .inr ⟨change parent, Table.mem_rewrite_of_mem hkey hparent, ?_, ?_⟩
    · rw [hrefers, hsome]
      exact congrArg some (hkey parent).symm
    · rw [hcopy before hbefore, htype before hbefore (.inr (by simp [hsome]))]
      by_cases hrule : (change parent).job.printRuleId = none
      · rw [htype parent hparent (.inl hrule)]
        have hnoRule := not_not.mpr (hfree parent hparent hrule)
        exact hkind.imp_right fun hkind => .inr (hkind.resolve_left hnoRule)
      · exact .inr (.inl hrule)

theorem ticket_of_rootJob (hmatch : JobsMatch table) (hroot : rootJob table orderId = some root) :
    root ∈ table ∧ root.reprintOfId = none ∧ root.isRoutingCopy = false := by
  have hfound := List.find?_some hroot
  simp only [Bool.and_eq_true, Option.isNone_iff_eq_none] at hfound
  have hmem := (mem_of_rootJob hroot).1
  refine ⟨hmem, hfound.1.2, ?_⟩
  rcases hmatch root hmem with ⟨-, hticket⟩ | ⟨parent, -, hsome, -⟩
  · exact hticket
  · rw [hfound.1.2] at hsome
    cases hsome

theorem jobsMatch_of_write (hmatch : JobsMatch table) (hwrite : JobWrite orderId table after) :
    JobsMatch after := by
  have hinserted : ∀ added, Belongs table added → JobsMatch (insertOrSkip table added) := by
    intro added hadded
    rcases insertOrSkip_cases table added with hskip | hinsert
    · exact hskip.symm ▸ hmatch
    · exact jobsMatch_insert? hmatch hinsert hadded
  cases hwrite with
  | ticket => exact hinserted _ (.inl ⟨rfl, rfl⟩)
  | @copy root _ _ hroot => exact hinserted _ (.inr ⟨root, hroot, rfl, .inl rfl⟩)
  | @assign root rule _ hroot hpending hfree hassign =>
      obtain ⟨hmem, hticket, hnoCopy⟩ := ticket_of_rootJob hmatch hroot
      rw [eq_of_assignRule hassign]
      refine jobsMatch_rewrite hmatch (fun _ => rfl) (fun row hrow => ?_)
        (fun row hrow hchild => ?_) fun row hrow hrule => ?_
      · rcases assignedRow_cases rule hmem hrow with rfl | hsame
        · simp [assignedRow, hnoCopy]
        · rw [hsame]
      · rcases assignedRow_cases rule hmem hrow with rfl | hsame
        · simp [assignedRow, hticket] at hchild
        · rw [hsame]
      · rcases assignedRow_cases rule hmem hrow with rfl | hsame
        · exact hfree
        · rw [← hsame]
          exact hrule
  | cancel =>
      refine jobsMatch_rewrite hmatch (fun _ => rfl) (fun _ _ => rfl) (fun _ _ _ => rfl)
        fun row _ hrule => ?_
      dsimp only at hrule
      split_ifs at hrule
      · exact hrule
      · exact hrule

/-- A ticket that becomes another document has no reprint, and is not printed itself. -/
theorem printed_of_assignRule (hmatch : JobsMatch table) (hroot : rootJob table orderId = some root)
    (hpending : root.job.status = .pending) (hfree : root.job.printRuleId = none)
    (hassign : assignRule table root rule = some after) : PrintsNothing orderId table after := by
  intro hprinted
  obtain ⟨hmem, hticket, hnoCopy⟩ := ticket_of_rootJob hmatch hroot
  have hcases : ∀ row ∈ table, row = root ∨ assignedRow root rule row = row :=
    fun row hrow => assignedRow_cases rule hmem hrow
  rw [eq_of_assignRule hassign, primaryPrintStatus, jobsOfOrder_map
    fun row => (rfl : (assignedRow root rule row).orderId = row.orderId)] at hprinted
  by_cases htype : rule.documentType = root.documentType
  · have hmap : (jobsOfOrder table orderId).map (assignedRow root rule)
        = withJobs (fun row => (assignedRow root rule row).job) (jobsOfOrder table orderId) := by
      apply List.map_congr_left
      intro row hrow
      rcases hcases row (List.mem_of_mem_filter hrow) with rfl | hsame
      · simp [assignedRow, htype, hnoCopy]
      · simp only [hsame]
    rw [hmap] at hprinted
    refine printed_of_withJobs (fun row hrow hsucceeded => ?_) hprinted
    rcases hcases row (List.mem_of_mem_filter hrow) with rfl | hsame
    · simp [assignedRow, hpending] at hsucceeded
    · rw [hsame] at hsucceeded
      exact hsucceeded
  · obtain ⟨⟨primary, hprimary, hdocument⟩, -⟩ :=
      resolvePrimaryPrintStatus_eq_succeeded_iff.mp hprinted
    have hfirst : (jobsOfOrder table orderId).find? (isPrimary ∘ assignedRow root rule)
        = some root := by
      rw [jobsOfOrder, List.find?_filter, ← hroot, rootJob]
      apply List.find?_congr
      intro row hrow
      rw [Bool.eq_iff_iff, Function.comp_apply]
      rcases hcases row hrow with rfl | hsame
      · simp [isPrimary, assignedRow, hticket]
      · rw [hsame, isPrimary]
        rcases hmatch row hrow with ⟨hnone, hcopy⟩ | ⟨parent, -, hsome, -⟩
        · simp [hnone, hcopy]
        · simp [hsome]
    rw [List.find?_map, hfirst] at hprimary
    cases hprimary
    have hchildless : ∀ row ∈ (jobsOfOrder table orderId).map (assignedRow root rule),
        row.reprintOfId = some root.id → isReprint (assignedRow root rule root) row = false := by
      intro row hrow hrefers
      obtain ⟨before, hbefore, rfl⟩ := List.mem_map.mp hrow
      have hbefore := List.mem_of_mem_filter hbefore
      have hrefers : before.reprintOfId = some root.id := hrefers
      have hne : before ≠ root := by
        rintro rfl
        rw [hticket] at hrefers
        cases hrefers
      rw [(hcases before hbefore).resolve_left hne]
      by_contra hreprint
      simp only [isReprint, assignedRow, if_pos, Bool.not_eq_false, Bool.and_eq_true,
        Bool.not_eq_true', decide_eq_true_eq] at hreprint
      rcases hmatch before hbefore with ⟨hnone, -⟩ | ⟨parent, hparent, hsome, hkind⟩
      · rw [hnone] at hrefers
        cases hrefers
      · have hparent : parent = root :=
          Table.eq_of_key_eq hparent hmem (Option.some.inj (hsome.symm.trans hrefers))
        rw [hparent, hreprint.1.1, hfree] at hkind
        exact htype (hreprint.1.2.symm.trans (by simpa using hkind))
    obtain ⟨row, hrow, hid, hsucceeded⟩ := succeeded_of_childless hchildless hdocument
    obtain ⟨before, -, rfl⟩ := List.mem_map.mp hrow
    have hid : before.id = root.id := hid
    simp [assignedRow, hid, hpending] at hsucceeded

/-- Nothing of the order is printed by the writes of a checkout. -/
theorem printed_of_write (hmatch : JobsMatch table) (hwrite : JobWrite orderId table after) :
    PrintsNothing wanted table after := by
  have hinserted : ∀ added : OrderPrintJob, added.job.status ≠ .succeeded →
      PrintsNothing wanted table (insertOrSkip table added) := by
    intro added hadded hprinted
    rcases insertOrSkip_cases table added with hskip | hinsert
    · exact hskip ▸ hprinted
    · exact printed_of_insert? (hmatch.unused hinsert) hadded hinsert hprinted
  intro hprinted
  by_cases hne : orderId ≠ wanted
  · rw [primaryPrintStatus, jobsOfOrder_of_write hne hwrite] at hprinted
    exact hprinted
  · cases not_not.mp hne
    cases hwrite with
    | ticket => exact hinserted _ (by simp [initialJob, PrintJobs.queuedJob]) hprinted
    | copy => exact hinserted _ (by simp [routingCopy, PrintJobs.queuedJob]) hprinted
    | assign hroot hpending hfree hassign =>
        exact printed_of_assignRule hmatch hroot hpending hfree hassign hprinted
    | cancel =>
        rw [primaryPrintStatus, cancelCompatibilityJobs, jobsOfOrder_withJobs] at hprinted
        refine printed_of_withJobs (fun row _ hsucceeded => ?_) hprinted
        split_ifs at hsucceeded
        exact hsucceeded

theorem matching_of_writes (hmatch : JobsMatch table)
    (hwrites : Relation.ReflTransGen (JobWrite orderId) table after) :
    JobsMatch after ∧ PrintsNothing wanted table after := by
  induction hwrites with
  | refl => exact ⟨hmatch, id⟩
  | tail _ hwrite ih =>
      exact ⟨jobsMatch_of_write ih.1 hwrite,
        fun hprinted => ih.2 (printed_of_write ih.1 hwrite hprinted)⟩

theorem jobsMatch_writeJob {jobId : Uuid} {row : OrderPrintJob} {job : PrintJob}
    (hmatch : JobsMatch table) (hrow : table.get? jobId = some row)
    (hrule : job.printRuleId = row.job.printRuleId) : JobsMatch (writeJob table jobId job) := by
  refine jobsMatch_rewrite hmatch (fun _ => rfl) (fun _ _ => rfl) (fun _ _ _ => rfl)
    fun other hother hfree => ?_
  dsimp only at hfree
  split_ifs at hfree with hid
  · have hkey := hid.trans (Table.key_of_get? hrow).symm
    rw [Table.eq_of_key_eq hother (Table.mem_of_get? hrow) hkey]
    exact hrule.symm.trans hfree
  · exact hfree

end Matching

/-! ## Runs without a print -/

section Quiet

variable {settings : Uuid → Option OrderingSettings} {system : PrintSystem} {orderId : Uuid}
  {command : PrintCommand}

/-- The command commits no print of the order. -/
def Quiet (orderId : Uuid) (system : PrintSystem) : PrintCommand → Prop
  | .commitPrint position _ => ∀ print, system.prints[position]? = some print →
      ∀ row, system.jobs.get? print.jobId = some row → row.orderId ≠ orderId
  | _ => True

/-- The command leaves jobs that match, and only a print makes an order printed. -/
def Matching (orderId : Uuid) (system after : PrintSystem) (command : PrintCommand) : Prop :=
  JobsMatch after.jobs
    ∧ (Quiet orderId system command → PrintsNothing orderId system.jobs after.jobs)

theorem matching_changeJob {change : PrintJob → Except PrintQueueError PrintJob}
    (hchange : Unprinting change) (hmatch : JobsMatch system.jobs) (jobId : Uuid) :
    Matching orderId system (changeJob system jobId change) command := by
  unfold changeJob
  split_ifs
  · exact ⟨hmatch, fun _ => id⟩
  · split
    · next job hjob =>
      obtain ⟨row, hrow, hjob⟩ := Option.map_eq_some_iff.mp hjob
      obtain ⟨hstatus, hrule⟩ := hchange row.job job hjob
      exact ⟨jobsMatch_writeJob hmatch hrow hrule, fun _ => printed_of_writeJob hstatus⟩
    · exact ⟨hmatch, fun _ => id⟩
    · exact ⟨hmatch, fun _ => id⟩

theorem jobsMatch_markPrinted {jobs marked : Table OrderPrintJob} {jobId : Uuid}
    {repeated : Bool} {now : Timestamp} (hmatch : JobsMatch jobs)
    (hmark : markPrinted jobs jobId repeated now = some marked) : JobsMatch marked := by
  obtain ⟨row, hrow, hmark⟩ := Option.bind_eq_some_iff.mp hmark
  split_ifs at hmark
  · cases hmark
    exact hmatch
  · split at hmark
    · next job hsuccess =>
      cases hmark
      refine jobsMatch_writeJob hmatch hrow ?_
      rw [eq_of_updateMany hsuccess]
      rfl
    · cases hmark

theorem matching_commitPrint (hmatch : JobsMatch system.jobs) (position : ℕ) (now : Timestamp) :
    Matching orderId system (commitPrint system position now) (.commitPrint position now) := by
  unfold commitPrint
  split
  · exact ⟨hmatch, fun _ => id⟩
  · next print hprint =>
    dsimp only
    split
    · exact ⟨hmatch, fun _ => id⟩
    · next marked hmark =>
      obtain ⟨row, hrow, -⟩ := Option.bind_eq_some_iff.mp hmark
      have hmarked := jobsMatch_markPrinted hmatch hmark
      have hothers : Quiet orderId system (.commitPrint position now) →
          PrintsNothing orderId system.jobs marked := by
        intro hquiet hprinted
        rw [primaryPrintStatus, jobsOfOrder_markPrinted hrow (hquiet print hprint row hrow) hmark]
          at hprinted
        exact hprinted
      split
      · exact ⟨hmarked, hothers⟩
      · exact ⟨hmarked, hothers⟩

theorem matching_step (settings : Uuid → Option OrderingSettings) (orderId : Uuid)
    (hmatch : JobsMatch system.jobs) (command : PrintCommand) :
    Matching orderId system (step settings system command) command := by
  cases command with
  | readOrder =>
      simp only [step, readOrder]
      split <;> exact ⟨hmatch, fun _ => id⟩
  | readJobs =>
      simp only [step, readJobs]
      split <;> exact ⟨hmatch, fun _ => id⟩
  | testPrint =>
      simp only [step, testPrint]
      split_ifs
      · exact ⟨hmatch, fun _ => id⟩
      · split <;> exact ⟨hmatch, fun _ => id⟩
  | commitPatch position commit =>
      simp only [step, commitPatch]
      split
      · exact ⟨hmatch, fun _ => id⟩
      · split_ifs
        · exact ⟨hmatch, fun _ => id⟩
        · split
          · next hcommit =>
            exact (matching_of_writes hmatch (writes_of_commitCheckout hcommit)).imp_right
              fun hkept _ => hkept
          · exact ⟨hmatch, fun _ => id⟩
  | commitPrint position now => exact matching_commitPrint hmatch position now
  | claim jobId => exact matching_changeJob (unprinting_claim _ _ _) hmatch jobId
  | fail jobId => exact matching_changeJob (unprinting_fail _ _) hmatch jobId
  | retry jobId => exact matching_changeJob unprinting_retry hmatch jobId
  | cancel jobId => exact matching_changeJob unprinting_cancel hmatch jobId
  | reprint jobId newId printerId =>
      simp only [step]
      split
      · exact ⟨hmatch, fun _ => id⟩
      · next row hrow =>
        refine ⟨?_, fun _ => printed_of_reprint⟩
        rcases reprint_cases system.jobs row newId printerId with hskip | ⟨-, hinsert⟩
        · exact hskip.symm ▸ hmatch
        · exact jobsMatch_insert? hmatch hinsert
            (.inr ⟨row, Table.mem_of_get? hrow, rfl, .inr (.inr rfl)⟩)

/-- A checkout waits only when the jobs that it has read are not printed. -/
theorem unprinted_of_waits {patch : PatchUnderWay} {commit : PatchCommit}
    {jobs : List OrderPrintJob} (hread : patch.printJobs = some jobs)
    (hwaits : waits settings patch commit = true) :
    resolvePrimaryPrintStatus jobs ≠ some .succeeded := by
  unfold waits at hwaits
  split at hwaits
  · next plan hplan =>
    have hplanned := planned_of_planPatch hplan
    obtain ⟨streamlined, hstreamlined, hpending⟩ := (Option.any_eq_true _ _).mp hwaits
    obtain ⟨⟨modules, hmodules, hkds, hprints⟩, hexternal, hsource, hnext, hstatus⟩ :=
      (waits_of_getStreamlinedCheckoutPlan (hplanned.streamlined streamlined hstreamlined)).2
        hpending
    have hmodules : settings patch.read.stallId = some modules := hmodules
    intro hprinted
    apply hstatus
    simp [printStatusFor, qrPaymentOnly_of_source hplanned hsource, hnext, hmodules, hkds, hprints,
      hexternal, patchContext, hread, hprinted, columnStatus]
  · cases hwaits

/-- A checkout is up to date when its order is not printed by the committed jobs. -/
theorem waitUpToDate_of_unprinted {patch : PatchUnderWay} (hmatch : JobsMatch system.jobs)
    (hunprinted : primaryPrintStatus system.jobs patch.read.id ≠ some .succeeded)
    (commit : PatchCommit) : WaitUpToDate settings system patch commit := by
  intro _ _ after jobs hcommit hprinted
  exact hunprinted ((matching_of_writes hmatch (writes_of_commitCheckout hcommit)).2 hprinted)

/-- A checkout that waits is up to date when no print of its order commits between the reading of
its print jobs and its commit. -/
theorem waitUpToDate_of_quiet {start : PrintSystem} {patch : PatchUnderWay}
    (hmatch : JobsMatch start.jobs) (before : List PrintCommand)
    (hsystem : exec (step settings) start before = system)
    (hread : patch.printJobs = some (jobsOfOrder system.jobs patch.read.id))
    {between : List PrintCommand}
    (hquiet : Safely (step settings) (Quiet patch.read.id) system between) (commit : PatchCommit) :
    WaitUpToDate settings (exec (step settings) system between) patch commit := by
  have hmatch : JobsMatch system.jobs := hsystem ▸
    invariant_exec (fun state : PrintSystem => JobsMatch state.jobs)
      (fun _ command hmatch => (matching_step settings 0 hmatch command).1) hmatch before
  intro hsome hwaits
  have hkept := invariant_of_safely (fun state : PrintSystem => JobsMatch state.jobs
      ∧ primaryPrintStatus state.jobs patch.read.id ≠ some .succeeded)
    (fun state command hstate hquiet =>
      (matching_step settings patch.read.id hstate.1 command).imp_right
        fun hkept hprinted => hstate.2 (hkept hquiet hprinted))
    ⟨hmatch, unprinted_of_waits hread hwaits⟩ hquiet
  exact waitUpToDate_of_unprinted hkept.1 hkept.2 commit hsome hwaits

end Quiet

end Stallorder.PrintCompletion
