import Stallorder.Checkout.OrderRun
import Stallorder.Printing.PrimaryPrintStatus

/-!
# Completion after the print

A checkout that finds the ticket of an order unprinted leaves the order ready,
and the print that succeeds later completes the ready and paid order.  The
checkout reads the print jobs before its transaction; the print tests the order
in its own, where it does not see what is not committed yet.

A run lets requests read, test and commit in any order.
-/

namespace Stallorder.PrintCompletion

open OrderContract OrderDatabase StaffCheckout OrderPatch TableCheckout OrderRun
open PrimaryPrintStatus Checks Run
open PrintJobs (PrintJob Printer PrintQueueError claim retry cancel success queuedJob)
open SyncDatabase (OrderStatus PaymentStatus)

def columnStatus : PrintJobs.PrintJobStatus → PrintJobStatus
  | .pending => .pending
  | .printing => .printing
  | .succeeded => .succeeded
  | .failed => .failed
  | .cancelled => .cancelled

/-! ## Jobs of a checkout -/

/-- The unique indexes of the first jobs and of the jobs of the rules. -/
def conflicts (row added : OrderPrintJob) : Bool :=
  row.orderId = added.orderId && row.amendmentId.isNone && added.amendmentId.isNone
    && ((row.reprintOfId.isNone && added.reprintOfId.isNone)
      || (row.job.printRuleId.isSome && row.job.printRuleId = added.job.printRuleId
        && (row.reprintOfId.isNone || row.isRoutingCopy)
        && (added.reprintOfId.isNone || added.isRoutingCopy)))

/-- Insert a job unless there is one already. -/
def insertOrSkip (table : Table OrderPrintJob) (added : OrderPrintJob) : Table OrderPrintJob :=
  if table.rows.any (conflicts · added) then table else (table.insert? added).getD table

def initialJob (orderId jobId : Uuid) (printerId printRuleId : Option ℕ)
    (documentType : PrintDocumentType) : OrderPrintJob where
  id := jobId
  orderId := orderId
  reprintOfId := none
  amendmentId := none
  isRoutingCopy := false
  documentType := documentType
  job := queuedJob printerId printRuleId 3

structure PrintRule where
  id : ℕ
  printerId : ℕ
  documentType : PrintDocumentType

/-- What the trigger on a paid order finds besides its jobs. -/
structure PrintRouting where
  offlineOrigin : Bool
  hasRules : Bool
  /-- The enabled rules that match the payment of the order, in their sort order. -/
  matching : List PrintRule

def rootJob (table : Table OrderPrintJob) (orderId : Uuid) : Option OrderPrintJob :=
  table.rows.find? fun row =>
    row.orderId = orderId && row.reprintOfId.isNone && row.amendmentId.isNone

/-- The offline device owns its local print job. -/
def cancelCompatibilityJobs (table : Table OrderPrintJob) (orderId : Uuid) :
    Table OrderPrintJob :=
  table.rewrite (fun row => { row with
    job := if row.orderId = orderId && row.reprintOfId.isNone && row.job.printRuleId.isNone
        && row.job.status = .pending then { row.job with status := .cancelled } else row.job })
    fun _ => rfl

/-- The root becomes the job of the first rule; a unique index may stand against it. -/
def assignRule (table : Table OrderPrintJob) (root : OrderPrintJob) (rule : PrintRule) :
    Option (Table OrderPrintJob) :=
  let assigned : OrderPrintJob := { root with
    isRoutingCopy := false
    documentType := rule.documentType
    job := { root.job with printerId := some rule.printerId, printRuleId := some rule.id } }
  if table.rows.any fun row => row.id ≠ root.id && conflicts row assigned then none
  else some (table.rewrite (fun row => { row with
    isRoutingCopy := if row.id = root.id then false else row.isRoutingCopy
    documentType := if row.id = root.id then rule.documentType else row.documentType
    job := if row.id = root.id then assigned.job else row.job }) fun _ => rfl)

def routeRoot (table : Table OrderPrintJob) (orderId : Uuid) (rules : List PrintRule)
    (jobId : Uuid) : Option (Table OrderPrintJob) :=
  match rootJob table orderId, rules.head? with
  | none, some rule => some (insertOrSkip table
      (initialJob orderId jobId (some rule.printerId) (some rule.id) rule.documentType))
  | some root, some rule =>
      if root.job.printRuleId.isNone && root.job.status = .pending then
        assignRule table root rule
      else some table
  | _, none => some table

def routingCopy (root : OrderPrintJob) (rule : PrintRule) (jobId : Uuid) : OrderPrintJob where
  id := jobId
  orderId := root.orderId
  reprintOfId := some root.id
  amendmentId := none
  isRoutingCopy := true
  documentType := rule.documentType
  job := queuedJob (some rule.printerId) (some rule.id) 3

/-- Route the jobs of an order that has been paid. -/
def routeIntegratedOrderPrintJobs (table : Table OrderPrintJob) (orderId : Uuid)
    (printModuleEnabled : Bool) (routing : PrintRouting) (newId : ℕ → Uuid) :
    Option (Table OrderPrintJob) := do
  if routing.offlineOrigin then return cancelCompatibilityJobs table orderId
  else if !printModuleEnabled || !routing.hasRules then return table
  else
    let table ← routeRoot table orderId routing.matching (newId 0)
    match rootJob table orderId with
    | none => return table
    | some root =>
        let others := (routing.matching.filter fun rule =>
          root.job.printRuleId ≠ some rule.id).take 49
        return others.zipIdx.foldl (fun table entry =>
          insertOrSkip table (routingCopy root entry.1 (newId (entry.2 + 1)))) table

/-! ## Requests under way -/

section Requests

/-- A checkout that has read its order, and its print jobs a little later. -/
structure PatchUnderWay where
  read : Order
  completionIntent : Option CompletionIntent
  checkout : StaffCheckoutInput
  printJobs : Option (List OrderPrintJob)

def PatchUnderWay.update (patch : PatchUnderWay) : OrderStatusUpdate :=
  .complete patch.completionIntent patch.checkout

/-- A print whose transaction has marked its job and tested its order. -/
structure PrintUnderWay where
  jobId : Uuid
  /-- The printer reports a success that was reported before. -/
  repeated : Bool
  /-- The order as it was read, when it is to be completed. -/
  completes : Option Order

variable (settings : Uuid → Option OrderingSettings)

def patchContext (patch : PatchUnderWay) (context : PatchContext) : PatchContext :=
  { context with
    orderingSettings := settings patch.read.stallId
    primaryPrintStatus := (patch.printJobs.bind resolvePrimaryPrintStatus).map columnStatus }

/-- The update makes the order paid. -/
def becomesPaid (db : CheckoutDb) (orderId : Uuid) : Bool :=
  (findOrder db orderId).any fun order => order.paymentStatus ≠ .paid

/-- The jobs after the trigger on the order. -/
def routePaidOrder (db : CheckoutDb) (jobs : Table OrderPrintJob) (orderId : Uuid)
    (settings : Option OrderingSettings) (routing : PrintRouting) (newId : ℕ → Uuid) :
    Except PatchError (Table OrderPrintJob) :=
  if becomesPaid db orderId then
    orFail (routeIntegratedOrderPrintJobs jobs orderId (settings.any (·.printModuleEnabled))
      routing newId) .constraintViolated
  else .ok jobs

/-- The job that a checkout queues when there is none. -/
def queueJob (jobs : Table OrderPrintJob) (orderId : Uuid) (plan : PatchPlan)
    (printerId : Option ℕ) (jobId : Uuid) : Table OrderPrintJob :=
  if plan.streamlined.any (·.queuePrint) then
    insertOrSkip jobs (initialJob orderId jobId printerId none .kitchenTicket)
  else jobs

structure PatchCommit where
  context : PatchContext
  routing : PrintRouting
  printerId : Option ℕ
  newId : ℕ → Uuid

/-- The transaction of a checkout. -/
def commitCheckout (db : CheckoutDb) (jobs : Table OrderPrintJob) (patch : PatchUnderWay)
    (commit : PatchCommit) : Except PatchError (CheckoutDb × Table OrderPrintJob) := do
  let context := patchContext settings patch commit.context
  let plan ← planPatch patch.read patch.update context
  let after ← patchOrder db patch.read patch.update context
  let routed ← routePaidOrder db jobs patch.read.id (settings patch.read.stallId) commit.routing
    commit.newId
  return (after, queueJob routed patch.read.id plan commit.printerId (commit.newId 50))

/-- The job is marked; a report that is repeated finds it marked. -/
def markPrinted (jobs : Table OrderPrintJob) (jobId : Uuid) (repeated : Bool) (now : Timestamp) :
    Option (Table OrderPrintJob) := do
  let row ← jobs.get? jobId
  if repeated then
    if row.job.status = .succeeded then return jobs else none
  else
    match success now row.job with
    | .ok job => return writeJob jobs jobId job
    | .error _ => none

/-- The test that completes an order after its print. -/
def completesOrder (jobs : Table OrderPrintJob) (order : Order) : Bool :=
  printCompletes {
    orderingSettings := settings order.stallId
    primaryPrintStatus := (primaryPrintStatus jobs order.id).map columnStatus
    now := 0 } order

/-- The order of a job, when the test completes it. -/
def orderToComplete (db : CheckoutDb) (jobs : Table OrderPrintJob) (jobId : Uuid) :
    Option Order := do
  let row ← jobs.get? jobId
  let order ← findOrder db row.orderId
  if completesOrder settings jobs order then return order else none

/-- The update of a completion; nothing is done when it does not find the order. -/
def completeOrder (db : CheckoutDb) (read : Order) (now : Timestamp) : CheckoutDb :=
  match updateOrder db read.id (fun order => order.stallId = read.stallId
      && order.status = .ready && order.paymentStatus = .paid) (completedByPrint now) () () with
  | .ok after => after
  | .error _ => db

end Requests

/-! ## Runs -/

/-- The committed tables, and the requests under way. -/
structure PrintSystem where
  db : CheckoutDb
  jobs : Table OrderPrintJob
  patches : List PatchUnderWay
  prints : List PrintUnderWay

/-- Nothing is under way. -/
def PrintSystem.idle (db : CheckoutDb) (jobs : Table OrderPrintJob) : PrintSystem where
  db := db
  jobs := jobs
  patches := []
  prints := []

inductive PrintCommand
  | readOrder (orderId : Uuid) (completionIntent : Option CompletionIntent)
    (checkout : StaffCheckoutInput)
  | readJobs (position : ℕ)
  | commitPatch (position : ℕ) (commit : PatchCommit)
  | testPrint (jobId : Uuid) (repeated : Bool) (now : Timestamp)
  | commitPrint (position : ℕ) (now : Timestamp)
  | claim (jobId : Uuid) (printer : Option Printer) (ruleActive : Bool) (now : Timestamp)
  | fail (jobId : Uuid) (error : Text) (now : Timestamp)
  | retry (jobId : Uuid)
  | cancel (jobId : Uuid)
  | reprint (jobId newId : Uuid) (printerId : Option ℕ)

/-- A print that has marked its job holds it until it commits. -/
def locked (system : PrintSystem) (jobId : Uuid) : Bool :=
  system.prints.any fun print => print.jobId = jobId && !print.repeated

def changeJob (system : PrintSystem) (jobId : Uuid)
    (change : PrintJob → Except PrintQueueError PrintJob) : PrintSystem :=
  if locked system jobId then system
  else
    match (system.jobs.get? jobId).map fun row => change row.job with
    | some (.ok job) => { system with jobs := writeJob system.jobs jobId job }
    | some (.error _) | none => system

section Steps

variable (settings : Uuid → Option OrderingSettings)

def readOrder (system : PrintSystem) (orderId : Uuid) (completionIntent : Option CompletionIntent)
    (checkout : StaffCheckoutInput) : PrintSystem :=
  match findOrder system.db orderId with
  | none => system
  | some read => { system with
      patches := system.patches ++ [{ read, completionIntent, checkout, printJobs := none }] }

def readJobs (system : PrintSystem) (position : ℕ) : PrintSystem :=
  match system.patches[position]? with
  | none => system
  | some patch =>
      let read := { patch with printJobs := some (jobsOfOrder system.jobs patch.read.id) }
      { system with patches := system.patches.set position read }

def commitPatch (system : PrintSystem) (position : ℕ) (commit : PatchCommit) : PrintSystem :=
  match system.patches[position]? with
  | none => system
  | some patch =>
      if patch.printJobs.isNone then system
      else
        match commitCheckout settings system.db system.jobs patch commit with
        | .ok (db, jobs) => { system with db, jobs, patches := system.patches.eraseIdx position }
        | .error _ => { system with patches := system.patches.eraseIdx position }

def testPrint (system : PrintSystem) (jobId : Uuid) (repeated : Bool) (now : Timestamp) :
    PrintSystem :=
  if !repeated && locked system jobId then system
  else
    match markPrinted system.jobs jobId repeated now with
    | none => system
    | some marked => { system with
        prints := system.prints ++ [{
          jobId
          repeated
          completes := orderToComplete settings system.db marked jobId }] }

def commitPrint (system : PrintSystem) (position : ℕ) (now : Timestamp) : PrintSystem :=
  match system.prints[position]? with
  | none => system
  | some print =>
      let prints := system.prints.eraseIdx position
      match markPrinted system.jobs print.jobId print.repeated now with
      | none => { system with prints }
      | some marked =>
          match print.completes with
          | some read => { system with
              db := completeOrder system.db read now
              jobs := marked
              prints }
          | none => { system with jobs := marked, prints }

def step (system : PrintSystem) : PrintCommand → PrintSystem
  | .readOrder orderId completionIntent checkout =>
      readOrder system orderId completionIntent checkout
  | .readJobs position => readJobs system position
  | .commitPatch position commit => commitPatch settings system position commit
  | .testPrint jobId repeated now => testPrint settings system jobId repeated now
  | .commitPrint position now => commitPrint system position now
  | .claim jobId printer ruleActive now =>
      changeJob system jobId (PrintJobs.claim printer ruleActive now)
  | .fail jobId error now => changeJob system jobId (PrintJobs.fail error now)
  | .retry jobId => changeJob system jobId PrintJobs.retry
  | .cancel jobId => changeJob system jobId PrintJobs.cancel
  | .reprint jobId newId printerId =>
      match system.jobs.get? jobId with
      | none => system
      | some row => { system with jobs := PrimaryPrintStatus.reprint system.jobs row newId printerId }

end Steps

/-! ## Orders at rest -/

/-- A ready, paid and printed order that nothing will complete any more. -/
structure Resting (settings : Uuid → Option OrderingSettings) (jobs : Table OrderPrintJob)
    (order : Order) : Prop where
  modules : ∃ modules, settings order.stallId = some modules
    ∧ modules.kdsModuleEnabled = false ∧ modules.printModuleEnabled = true
  external : order.externalProvider = none
  source : order.source ≠ .qrMenu
  status : order.status = .ready
  paid : order.paymentStatus = .paid
  printed : primaryPrintStatus jobs order.id = some .succeeded

def Rests (settings : Uuid → Option OrderingSettings) (db : CheckoutDb)
    (jobs : Table OrderPrintJob) (orderId : Uuid) : Prop :=
  ∃ order, findOrder db orderId = some order ∧ Resting settings jobs order

/-! ## Jobs of the other orders -/

section Jobs

variable {table after : Table OrderPrintJob} {added : OrderPrintJob} {orderId other : Uuid}

theorem insertOrSkip_cases (table : Table OrderPrintJob) (added : OrderPrintJob) :
    insertOrSkip table added = table ∨ table.insert? added = some (insertOrSkip table added) := by
  unfold insertOrSkip
  split_ifs
  · exact .inl rfl
  · exact getD_insert?_cases table added

theorem jobsOfOrder_insertOrSkip (hne : added.orderId ≠ other) :
    jobsOfOrder (insertOrSkip table added) other = jobsOfOrder table other := by
  rcases insertOrSkip_cases table added with hskip | hinsert
  · rw [hskip]
  · rw [jobsOfOrder, Table.rows_of_insert? hinsert, List.filter_append, List.filter_singleton,
      decide_eq_false hne]
    exact List.append_nil _

theorem jobsOfOrder_map {change : OrderPrintJob → OrderPrintJob}
    {hkey : ∀ row, Indexed.key (change row) = Indexed.key row}
    (horder : ∀ row, (change row).orderId = row.orderId) :
    jobsOfOrder (table.rewrite change hkey) other = (jobsOfOrder table other).map change := by
  simp [jobsOfOrder, Table.rewrite, List.filter_map, Function.comp_def, horder]

theorem jobsOfOrder_rewrite {change : OrderPrintJob → OrderPrintJob}
    {hkey : ∀ row, Indexed.key (change row) = Indexed.key row}
    (horder : ∀ row, (change row).orderId = row.orderId)
    (hsame : ∀ row ∈ table, row.orderId = other → change row = row) :
    jobsOfOrder (table.rewrite change hkey) other = jobsOfOrder table other := by
  rw [jobsOfOrder_map horder]
  conv_rhs => rw [← List.map_id (jobsOfOrder table other)]
  apply List.map_congr_left
  intro row hrow
  obtain ⟨hmem, hother⟩ := List.mem_filter.mp hrow
  exact hsame row hmem (of_decide_eq_true hother)

theorem mem_of_rootJob {root : OrderPrintJob} (hroot : rootJob table orderId = some root) :
    root ∈ table ∧ root.orderId = orderId := by
  have hfound := List.find?_some hroot
  simp only [Bool.and_eq_true, decide_eq_true_eq] at hfound
  exact ⟨List.mem_of_find?_eq_some hroot, hfound.1.1⟩

/-- A write of the checkout of an order, or of the trigger on the paid order. -/
inductive JobWrite (orderId : Uuid) (table : Table OrderPrintJob) : Table OrderPrintJob → Prop
  | ticket (jobId : Uuid) (printerId printRuleId : Option ℕ)
      (documentType : PrintDocumentType) :
      JobWrite orderId table
        (insertOrSkip table (initialJob orderId jobId printerId printRuleId documentType))
  | copy {root : OrderPrintJob} (rule : PrintRule) (jobId : Uuid) (hroot : root ∈ table)
      (horder : root.orderId = orderId) :
      JobWrite orderId table (insertOrSkip table (routingCopy root rule jobId))
  | assign {root : OrderPrintJob} {rule : PrintRule} {after : Table OrderPrintJob}
      (hroot : rootJob table orderId = some root) (hpending : root.job.status = .pending)
      (hfree : root.job.printRuleId = none) (hassign : assignRule table root rule = some after) :
      JobWrite orderId table after
  | cancel : JobWrite orderId table (cancelCompatibilityJobs table orderId)

theorem mem_insertOrSkip {row : OrderPrintJob} (hrow : row ∈ table) :
    row ∈ insertOrSkip table added := by
  rcases insertOrSkip_cases table added with hskip | hinsert
  · rw [hskip]
    exact hrow
  · exact (Table.mem_of_insert? hinsert).mpr (.inl hrow)

theorem writes_of_routeRoot {rules : List PrintRule} {jobId : Uuid}
    (hroute : routeRoot table orderId rules jobId = some after) :
    Relation.ReflTransGen (JobWrite orderId) table after := by
  unfold routeRoot at hroute
  split at hroute
  · cases hroute
    exact .single (.ticket _ _ _ _)
  · next root rule hroot _ =>
    split_ifs at hroute with hfree
    · simp only [Bool.and_eq_true, Option.isNone_iff_eq_none, decide_eq_true_eq] at hfree
      exact .single (.assign hroot hfree.2 hfree.1 hroute)
    · cases hroute
      exact .refl
  · cases hroute
    exact .refl

theorem writes_of_routingCopies {root : OrderPrintJob} (horder : root.orderId = orderId)
    (newId : ℕ → Uuid) (entries : List (PrintRule × ℕ)) (hroot : root ∈ table) :
    Relation.ReflTransGen (JobWrite orderId) table (entries.foldl (fun table entry =>
      insertOrSkip table (routingCopy root entry.1 (newId (entry.2 + 1)))) table) := by
  induction entries generalizing table with
  | nil => exact .refl
  | cons entry entries ih =>
      exact .head (.copy entry.1 (newId (entry.2 + 1)) hroot horder) (ih (mem_insertOrSkip hroot))

theorem writes_of_route {printModuleEnabled : Bool} {routing : PrintRouting} {newId : ℕ → Uuid}
    (hroute : routeIntegratedOrderPrintJobs table orderId printModuleEnabled routing newId
      = some after) :
    Relation.ReflTransGen (JobWrite orderId) table after := by
  unfold routeIntegratedOrderPrintJobs at hroute
  split_ifs at hroute
  · cases hroute
    exact .single .cancel
  · cases hroute
    exact .refl
  · obtain ⟨routed, hrouted, hrest⟩ := Option.bind_eq_some_iff.mp hroute
    have hwrites := writes_of_routeRoot hrouted
    cases hroot : rootJob routed orderId with
    | none =>
        rw [hroot] at hrest
        cases hrest
        exact hwrites
    | some root =>
        rw [hroot] at hrest
        cases hrest
        obtain ⟨hmem, horder⟩ := mem_of_rootJob hroot
        exact hwrites.trans (writes_of_routingCopies horder newId _ hmem)

theorem writes_of_commitCheckout {settings : Uuid → Option OrderingSettings}
    {db written : CheckoutDb} {patch : PatchUnderWay} {commit : PatchCommit}
    (hcommit : commitCheckout settings db table patch commit = .ok (written, after)) :
    Relation.ReflTransGen (JobWrite patch.read.id) table after := by
  unfold commitCheckout at hcommit
  obtain ⟨plan, -, hcommit⟩ := bind_eq_ok.mp hcommit
  obtain ⟨_, -, hcommit⟩ := bind_eq_ok.mp hcommit
  obtain ⟨routed, hrouted, hreturn⟩ := bind_eq_ok.mp hcommit
  cases hreturn
  have hroute : Relation.ReflTransGen (JobWrite patch.read.id) table routed := by
    unfold routePaidOrder at hrouted
    split_ifs at hrouted
    · exact writes_of_route (orFail_eq_ok.mp hrouted)
    · cases hrouted
      exact .refl
  unfold queueJob
  split_ifs
  · exact hroute.tail (.ticket _ _ _ _)
  · exact hroute

/-- A row as the assignment of a rule to the root leaves it. -/
def assignedRow (root : OrderPrintJob) (rule : PrintRule) (row : OrderPrintJob) :
    OrderPrintJob := { row with
  isRoutingCopy := if row.id = root.id then false else row.isRoutingCopy
  documentType := if row.id = root.id then rule.documentType else row.documentType
  job := if row.id = root.id then
      { root.job with printerId := some rule.printerId, printRuleId := some rule.id }
    else row.job }

theorem assignedRow_cases {root row : OrderPrintJob} (rule : PrintRule) (hroot : root ∈ table)
    (hrow : row ∈ table) : row = root ∨ assignedRow root rule row = row := by
  by_cases hid : row.id = root.id
  · exact .inl (Table.eq_of_key_eq hrow hroot hid)
  · exact .inr (by simp [assignedRow, hid])

theorem key_assignedRow (root : OrderPrintJob) (rule : PrintRule) (row : OrderPrintJob) :
    Indexed.key (assignedRow root rule row) = Indexed.key row := rfl

theorem eq_of_assignRule {root : OrderPrintJob} {rule : PrintRule}
    (hassign : assignRule table root rule = some after) :
    after = table.rewrite (assignedRow root rule) (key_assignedRow root rule) := by
  unfold assignRule at hassign
  dsimp only at hassign
  split_ifs at hassign
  exact (Option.some.inj hassign).symm

/-- A checkout writes jobs of its own order only. -/
theorem jobsOfOrder_of_write (hne : orderId ≠ other) (hwrite : JobWrite orderId table after) :
    jobsOfOrder after other = jobsOfOrder table other := by
  cases hwrite with
  | ticket => exact jobsOfOrder_insertOrSkip hne
  | copy rule jobId hroot horder => exact jobsOfOrder_insertOrSkip (horder.trans_ne hne)
  | @assign root rule _ hroot hpending hfree hassign =>
      obtain ⟨hmem, horder⟩ := mem_of_rootJob hroot
      rw [eq_of_assignRule hassign]
      refine jobsOfOrder_rewrite (fun _ => rfl) fun row hrow hother => ?_
      refine (assignedRow_cases rule hmem hrow).resolve_left ?_
      rintro rfl
      exact hne (horder.symm.trans hother)
  | cancel =>
      refine jobsOfOrder_rewrite (fun _ => rfl) fun row _ hother => ?_
      have horder : row.orderId ≠ orderId := fun horder => hne (horder.symm.trans hother)
      simp [horder]

theorem jobsOfOrder_of_writes (hne : orderId ≠ other)
    (hwrites : Relation.ReflTransGen (JobWrite orderId) table after) :
    jobsOfOrder after other = jobsOfOrder table other := by
  induction hwrites with
  | refl => rfl
  | tail _ hwrite ih => exact (jobsOfOrder_of_write hne hwrite).trans ih

theorem jobsOfOrder_markPrinted {jobId : Uuid} {repeated : Bool} {now : Timestamp}
    {row : OrderPrintJob} (hrow : table.get? jobId = some row) (hne : row.orderId ≠ other)
    (hmark : markPrinted table jobId repeated now = some after) :
    jobsOfOrder after other = jobsOfOrder table other := by
  simp only [markPrinted, hrow, Option.bind_eq_bind, Option.bind_some] at hmark
  split_ifs at hmark
  · cases hmark
    rfl
  · split at hmark
    · cases hmark
      exact jobsOfOrder_writeJob_of_ne hrow hne
    · cases hmark

end Jobs

/-! ## Orders that are written -/

/-- What never changes of an order. -/
structure SameOrigin (read order : Order) : Prop where
  stallId : order.stallId = read.stallId
  source : order.source = read.source
  externalProvider : order.externalProvider = read.externalProvider

theorem SameOrigin.refl (order : Order) : SameOrigin order order := ⟨rfl, rfl, rfl⟩

theorem SameOrigin.trans {first second third : Order} (hfirst : SameOrigin first second)
    (hsecond : SameOrigin second third) : SameOrigin first third :=
  ⟨hsecond.stallId.trans hfirst.stallId, hsecond.source.trans hfirst.source,
    hsecond.externalProvider.trans hfirst.externalProvider⟩

theorem sameOrigin_withCheckout (checkout : Option ResolvedStaffCheckout) (order : Order) :
    SameOrigin order (withCheckout checkout order) := by
  unfold withCheckout
  split
  · exact ⟨rfl, rfl, rfl⟩
  · exact ⟨rfl, rfl, rfl⟩

theorem sameOrigin_patched (read : Order) (update : OrderStatusUpdate) (plan : PatchPlan)
    (context : PatchContext) (order : Order) :
    SameOrigin order (patched read update plan context order) := by
  obtain ⟨items, hitems⟩ := withItems_eq read plan context (withCheckout plan.checkout order)
  have hcheckout := sameOrigin_withCheckout plan.checkout order
  unfold patched
  rw [hitems]
  exact ⟨hcheckout.stallId, hcheckout.source, hcheckout.externalProvider⟩

section Orders

variable {db after : CheckoutDb} {orderId other : Uuid} {wanted : Order → Bool}
  {change : Order → Order} {order : Order}

theorem findOrder_of_rewrote (hrewrote : Rewrote db after orderId wanted change)
    (hfind : findOrder after orderId = some order) :
    ∃ before, findOrder db orderId = some before ∧ wanted before = true
      ∧ order = change before := by
  obtain ⟨hmem, hid⟩ := mem_of_findOrder hfind
  rcases hrewrote.orders order hmem with ⟨-, hne⟩ | ⟨before, hbefore, hbeforeId, hwanted, heq⟩
  · exact absurd hid hne
  · exact ⟨before, hbeforeId ▸ findOrder_of_mem hbefore, hwanted, heq⟩

theorem findOrder_changed (hrewrote : Rewrote db after orderId wanted change)
    (hid : ∀ order, (change order).id = order.id) :
    ∃ before, findOrder db orderId = some before ∧ wanted before = true
      ∧ findOrder after orderId = some (change before) := by
  obtain ⟨before, hbefore, hbeforeId, hwanted, hafter⟩ := hrewrote.found
  have hfind := findOrder_of_mem hafter
  rw [hid, hbeforeId] at hfind
  exact ⟨before, hbeforeId ▸ findOrder_of_mem hbefore, hwanted, hfind⟩

theorem findOrder_of_ne (hrewrote : Rewrote db after orderId wanted change)
    (hid : ∀ order, (change order).id = order.id) (hne : other ≠ orderId) :
    findOrder after other = findOrder db other := by
  ext order
  constructor
  · intro hfind
    obtain ⟨hmem, horder⟩ := mem_of_findOrder hfind
    rcases hrewrote.orders order hmem with ⟨hbefore, -⟩ | ⟨before, -, hbeforeId, -, heq⟩
    · exact horder ▸ findOrder_of_mem hbefore
    · rw [heq, hid, hbeforeId] at horder
      exact absurd horder.symm hne
  · intro hfind
    obtain ⟨hmem, horder⟩ := mem_of_findOrder hfind
    have hafter := hrewrote.others order hmem (horder.trans_ne hne)
    exact horder ▸ findOrder_of_mem hafter

end Orders

/-! ## Checkouts -/

section Checkouts

variable {settings : Uuid → Option OrderingSettings} {db after : CheckoutDb}
  {jobs jobs' : Table OrderPrintJob} {patch : PatchUnderWay} {commit : PatchCommit}
  {plan : PatchPlan} {order : Order}

/-- What a checkout that commits has written. -/
structure Committed (settings : Uuid → Option OrderingSettings) (db after : CheckoutDb)
    (jobs jobs' : Table OrderPrintJob) (patch : PatchUnderWay) (commit : PatchCommit)
    (plan : PatchPlan) : Prop where
  planned : planPatch patch.read patch.update (patchContext settings patch commit.context)
    = .ok plan
  rewrote : ∃ middle, Rewrote db middle patch.read.id
      (patchFinds patch.read patch.update (patchContext settings patch commit.context))
      (patched patch.read patch.update plan (patchContext settings patch commit.context))
    ∧ after.orders = middle.orders
  others : ∀ other, patch.read.id ≠ other → jobsOfOrder jobs' other = jobsOfOrder jobs other

theorem committed_of_commitCheckout
    (hcommit : commitCheckout settings db jobs patch commit = .ok (after, jobs')) :
    ∃ plan, Committed settings db after jobs jobs' patch commit plan := by
  have hwrites := writes_of_commitCheckout hcommit
  unfold commitCheckout at hcommit
  obtain ⟨plan, hplan, hcommit⟩ := bind_eq_ok.mp hcommit
  obtain ⟨written, hwritten, hcommit⟩ := bind_eq_ok.mp hcommit
  obtain ⟨routed, -, hreturn⟩ := bind_eq_ok.mp hcommit
  cases hreturn
  obtain ⟨plan', middle, hplan', hrewrote, hpayment⟩ := written_of_patchOrder hwritten
  cases hplan.symm.trans hplan'
  refine ⟨plan, hplan, ⟨middle, hrewrote, ?_⟩, fun other hne => jobsOfOrder_of_writes hne hwrites⟩
  rcases hpayment with ⟨-, hsame⟩ | ⟨_, _, cash, -, -, hsame⟩
  · rw [hsame]
  · rw [hsame]

/-- A checkout waits for the print exactly when it leaves the order ready. -/
theorem waits_of_getStreamlinedCheckoutPlan {read : Order} {next : OrderStatus}
    {modules : Option OrderingSettings} {printStatus : Option PrintJobStatus}
    {streamlined : StreamlinedCheckoutPlan}
    (hplan : getStreamlinedCheckoutPlan read next modules printStatus = some streamlined) :
    streamlined.completionPendingPrint = decide (streamlined.targetStatus = .ready)
      ∧ (streamlined.completionPendingPrint = true →
        (∃ found, modules = some found ∧ found.kdsModuleEnabled = false
          ∧ found.printModuleEnabled = true)
        ∧ read.externalProvider = none ∧ read.source ≠ .qrMenu
        ∧ next = .completed ∧ printStatus ≠ some .succeeded) := by
  unfold getStreamlinedCheckoutPlan at hplan
  split at hplan
  case isTrue => cases hplan
  case isFalse hallowed =>
    simp only [Bool.or_eq_true, not_or, Bool.not_eq_true] at hallowed
    obtain ⟨⟨⟨hnext, hkds⟩, hexternal⟩, -⟩ := hallowed
    cases hplan
    constructor
    · dsimp only
      split_ifs with hwait
      · simpa using hwait
      · simpa using hwait
    · intro hwait
      simp only [Bool.and_eq_true, decide_eq_true_eq] at hwait
      cases modules with
      | none => cases hkds
      | some found =>
          exact ⟨⟨found, rfl, hkds, hwait.1.2⟩, by simpa using hexternal, hwait.1.1,
            by simpa using hnext, hwait.2⟩

theorem qrPaymentOnly_of_source {read : Order} {update : OrderStatusUpdate}
    {context : PatchContext} (hplanned : Planned read update context plan)
    (hsource : read.source ≠ .qrMenu) : plan.qrPaymentOnly = false := by
  rw [hplanned.qrPaymentOnly, shouldKeepQrOrderOpenAfterPayment]
  simp [hsource]

/-- The checked out order rests exactly when the checkout waits for a print that is done. -/
theorem resting_patched_iff
    (hplan : planPatch patch.read patch.update (patchContext settings patch commit.context)
      = .ok plan) (horigin : SameOrigin patch.read order) (hid : order.id = patch.read.id) :
    Resting settings jobs (patched patch.read patch.update plan
        (patchContext settings patch commit.context) order)
      ↔ plan.streamlined.any (·.completionPendingPrint) = true
        ∧ primaryPrintStatus jobs patch.read.id = some .succeeded := by
  have hplanned := planned_of_planPatch hplan
  have hpatched := horigin.trans (sameOrigin_patched patch.read patch.update plan
    (patchContext settings patch commit.context) order)
  have hid' := (patched_id patch.read patch.update plan
    (patchContext settings patch commit.context) order).trans hid
  have hpersisted := hplanned.persisted
  constructor
  · intro hrests
    have hsource := hrests.source
    have hprinted := hrests.printed
    rw [hid'] at hprinted
    refine ⟨?_, hprinted⟩
    have hready : plan.persistedStatus = .ready := hrests.status
    rw [hpatched.source] at hsource
    rw [qrPaymentOnly_of_source hplanned hsource, hready] at hpersisted
    cases hstreamlined : plan.streamlined with
    | none =>
        rw [hstreamlined] at hpersisted
        cases hpersisted
    | some streamlined =>
        have hget := hplanned.streamlined streamlined hstreamlined
        rw [hstreamlined] at hpersisted
        have htarget : streamlined.targetStatus = .ready := hpersisted.symm
        rw [Option.any_some, (waits_of_getStreamlinedCheckoutPlan hget).1]
        exact decide_eq_true htarget
  · rintro ⟨hwaits, hprinted⟩
    rw [Option.any_eq_true] at hwaits
    obtain ⟨streamlined, hstreamlined, hwait⟩ := hwaits
    have hget := hplanned.streamlined streamlined hstreamlined
    obtain ⟨htarget, hscope⟩ := waits_of_getStreamlinedCheckoutPlan hget
    obtain ⟨hmodules, hexternal, hsource, -⟩ := hscope hwait
    rw [hwait] at htarget
    rw [qrPaymentOnly_of_source hplanned hsource, hstreamlined] at hpersisted
    constructor
    · rw [hpatched.stallId]
      exact hmodules
    · exact hpatched.externalProvider.trans hexternal
    · rw [hpatched.source]
      exact hsource
    · exact hpersisted.trans (of_decide_eq_true htarget.symm)
    · rfl
    · rw [hid']
      exact hprinted

end Checkouts

/-! ## Rows that stay -/

/-- Jobs are never removed, and stay with their order. -/
def JobsKept (jobs jobs' : Table OrderPrintJob) : Prop :=
  ∀ jobId row, jobs.get? jobId = some row →
    ∃ row', jobs'.get? jobId = some row' ∧ row'.orderId = row.orderId

/-- An order that is there afterwards was there before, with the same origin. -/
def OriginsKept (db after : CheckoutDb) : Prop :=
  ∀ orderId order, findOrder after orderId = some order →
    ∃ before, findOrder db orderId = some before ∧ SameOrigin before order

section Kept

variable {jobs jobs' jobs'' : Table OrderPrintJob} {db after : CheckoutDb}

theorem JobsKept.refl (jobs : Table OrderPrintJob) : JobsKept jobs jobs :=
  fun _ row hrow => ⟨row, hrow, rfl⟩

theorem JobsKept.trans (hfirst : JobsKept jobs jobs') (hsecond : JobsKept jobs' jobs'') :
    JobsKept jobs jobs'' := by
  intro jobId row hrow
  obtain ⟨row', hrow', horder⟩ := hfirst jobId row hrow
  obtain ⟨row'', hrow'', horder'⟩ := hsecond jobId row' hrow'
  exact ⟨row'', hrow'', horder'.trans horder⟩

theorem jobsKept_rewrite {change : OrderPrintJob → OrderPrintJob}
    {hkey : ∀ row, Indexed.key (change row) = Indexed.key row}
    (horder : ∀ row, (change row).orderId = row.orderId) :
    JobsKept jobs (jobs.rewrite change hkey) := by
  intro jobId row hrow
  refine ⟨change row, ?_, horder row⟩
  rw [Table.get?_rewrite, hrow]
  rfl

theorem jobsKept_writeJob (jobId : Uuid) (job : PrintJob) :
    JobsKept jobs (writeJob jobs jobId job) :=
  jobsKept_rewrite fun _ => rfl

theorem jobsKept_insert? {added : OrderPrintJob} (hinsert : jobs.insert? added = some jobs') :
    JobsKept jobs jobs' := by
  intro jobId row hrow
  refine ⟨row, ?_, rfl⟩
  obtain ⟨hmem, hkey⟩ := Table.get?_eq_some_iff.mp hrow
  exact Table.get?_eq_some_iff.mpr ⟨(Table.mem_of_insert? hinsert).mpr (.inl hmem), hkey⟩

theorem jobsKept_insertOrSkip {added : OrderPrintJob} :
    JobsKept jobs (insertOrSkip jobs added) := by
  rcases insertOrSkip_cases jobs added with hskip | hinsert
  · exact hskip.symm ▸ JobsKept.refl jobs
  · exact jobsKept_insert? hinsert

theorem jobsKept_of_writes {orderId : Uuid}
    (hwrites : Relation.ReflTransGen (JobWrite orderId) jobs jobs') : JobsKept jobs jobs' := by
  induction hwrites with
  | refl => exact JobsKept.refl jobs
  | tail _ hwrite ih =>
      refine ih.trans ?_
      cases hwrite with
      | ticket => exact jobsKept_insertOrSkip
      | copy => exact jobsKept_insertOrSkip
      | assign _ _ _ hassign =>
          rw [eq_of_assignRule hassign]
          exact jobsKept_rewrite fun _ => rfl
      | cancel => exact jobsKept_rewrite fun _ => rfl

theorem jobsKept_markPrinted {jobId : Uuid} {repeated : Bool} {now : Timestamp}
    (hmark : markPrinted jobs jobId repeated now = some jobs') : JobsKept jobs jobs' := by
  obtain ⟨row, -, hmark⟩ := Option.bind_eq_some_iff.mp hmark
  split_ifs at hmark
  · cases hmark
    exact JobsKept.refl jobs
  · split at hmark
    · cases hmark
      exact jobsKept_writeJob jobId _
    · cases hmark

theorem OriginsKept.refl (db : CheckoutDb) : OriginsKept db db :=
  fun _ order horder => ⟨order, horder, SameOrigin.refl order⟩

theorem originsKept_of_rewrote {orderId : Uuid} {wanted : Order → Bool} {change : Order → Order}
    (hrewrote : Rewrote db after orderId wanted change)
    (hid : ∀ order, (change order).id = order.id)
    (horigin : ∀ order, SameOrigin order (change order)) : OriginsKept db after := by
  intro other order hfind
  by_cases hsame : other = orderId
  · subst hsame
    obtain ⟨before, hbefore, -, rfl⟩ := findOrder_of_rewrote hrewrote hfind
    exact ⟨before, hbefore, horigin before⟩
  · rw [findOrder_of_ne hrewrote hid hsame] at hfind
    exact ⟨order, hfind, SameOrigin.refl order⟩

theorem findOrder_congr (horders : after.orders = db.orders) (orderId : Uuid) :
    findOrder after orderId = findOrder db orderId := by
  rw [findOrder, horders, findOrder]

theorem originsKept_commitCheckout {settings : Uuid → Option OrderingSettings}
    {patch : PatchUnderWay} {commit : PatchCommit}
    (hcommit : commitCheckout settings db jobs patch commit = .ok (after, jobs')) :
    OriginsKept db after := by
  obtain ⟨plan, hcommitted⟩ := committed_of_commitCheckout hcommit
  obtain ⟨middle, hrewrote, horders⟩ := hcommitted.rewrote
  intro orderId order hfind
  rw [findOrder_congr horders] at hfind
  exact originsKept_of_rewrote hrewrote (fun order => patched_id _ _ _ _ order)
    (fun order => sameOrigin_patched _ _ _ _ order) orderId order hfind

/-- The update of a completion writes the order, or does not find it ready and paid. -/
theorem completeOrder_cases (db : CheckoutDb) (read : Order) (now : Timestamp) :
    (Rewrote db (completeOrder db read now) read.id (fun order => order.stallId = read.stallId
        && order.status = .ready && order.paymentStatus = .paid) (completedByPrint now))
      ∨ completeOrder db read now = db
        ∧ ∀ order, findOrder db read.id = some order → order.stallId = read.stallId →
          order.status = .ready → order.paymentStatus ≠ .paid := by
  unfold completeOrder
  split
  · next after hupdate => exact .inl (rewrote_of_updateOrder hupdate)
  · next error hupdate =>
    refine .inr ⟨rfl, fun order hfind hstall hready hpaid => ?_⟩
    obtain ⟨orders, horders⟩ := db.orders.exists_updateWhere?
      (fun order => order.id = read.id && (order.stallId = read.stallId
        && order.status = .ready && order.paymentStatus = .paid)) (completedByPrint now) id
      (fun row hrow _ => db.orders.checked row hrow)
    have hfound : (findOrder db read.id).any (fun order => order.stallId = read.stallId
        && order.status = .ready && order.paymentStatus = .paid) = true := by
      simp [hfind, hstall, hready, hpaid]
    rw [updateOrder, hfound, Bool.not_true, failWhen_false, bind_ok, horders, orFail_some,
      bind_ok] at hupdate
    cases hupdate

end Kept

/-! ## What was read -/

/-- The orders that are read stay the orders of the stall, and those to be completed are the
orders of their jobs. -/
structure KnownReads (system : PrintSystem) : Prop where
  patches : ∀ patch ∈ system.patches, ∀ order,
    findOrder system.db patch.read.id = some order → SameOrigin patch.read order
  prints : ∀ print ∈ system.prints, ∀ read, print.completes = some read →
    (∀ order, findOrder system.db read.id = some order → SameOrigin read order)
      ∧ ∃ row, system.jobs.get? print.jobId = some row ∧ row.orderId = read.id

section Reads

variable {settings : Uuid → Option OrderingSettings} {system after : PrintSystem}

theorem KnownReads.mono (hknown : KnownReads system) (hdb : OriginsKept system.db after.db)
    (hjobs : JobsKept system.jobs after.jobs)
    (hpatches : ∀ patch ∈ after.patches, ∃ known ∈ system.patches, known.read = patch.read)
    (hprints : ∀ print ∈ after.prints, print ∈ system.prints) : KnownReads after where
  patches patch hpatch order hfind := by
    obtain ⟨known, hmem, hread⟩ := hpatches patch hpatch
    obtain ⟨before, hbefore, horigin⟩ := hdb _ order hfind
    rw [← hread] at hbefore ⊢
    exact (hknown.patches known hmem before hbefore).trans horigin
  prints print hprint read hcompletes := by
    obtain ⟨horigin, row, hrow, horder⟩ :=
      hknown.prints print (hprints print hprint) read hcompletes
    obtain ⟨row', hrow', hkept⟩ := hjobs _ row hrow
    refine ⟨fun order hfind => ?_, row', hrow', hkept.trans horder⟩
    obtain ⟨before, hbefore, hsame⟩ := hdb _ order hfind
    exact (horigin before hbefore).trans hsame

theorem knownReads_changeJob (hknown : KnownReads system) (jobId : Uuid)
    (change : PrintJob → Except PrintQueueError PrintJob) :
    KnownReads (changeJob system jobId change) := by
  unfold changeJob
  split_ifs
  · exact hknown
  · split
    · exact hknown.mono (OriginsKept.refl _) (jobsKept_writeJob jobId _)
        (fun patch hpatch => ⟨patch, hpatch, rfl⟩) (fun print hprint => hprint)
    · exact hknown
    · exact hknown

theorem read_of_orderToComplete {db : CheckoutDb} {jobs : Table OrderPrintJob} {jobId : Uuid}
    {read : Order} (hcompletes : orderToComplete settings db jobs jobId = some read) :
    ∃ row, jobs.get? jobId = some row ∧ row.orderId = read.id
      ∧ findOrder db read.id = some read ∧ completesOrder settings jobs read = true := by
  obtain ⟨row, hrow, hcompletes⟩ := Option.bind_eq_some_iff.mp hcompletes
  obtain ⟨order, horder, hcompletes⟩ := Option.bind_eq_some_iff.mp hcompletes
  split_ifs at hcompletes with htest
  cases hcompletes
  have hid := (mem_of_findOrder horder).2
  exact ⟨row, hrow, hid.symm, hid ▸ horder, htest⟩

theorem knownReads_testPrint (hknown : KnownReads system) (jobId : Uuid) (repeated : Bool)
    (now : Timestamp) : KnownReads (testPrint settings system jobId repeated now) := by
  unfold testPrint
  split_ifs
  · exact hknown
  · split
    · exact hknown
    · next marked hmark =>
      refine ⟨hknown.patches, fun print hprint read hcompletes => ?_⟩
      rcases List.mem_append.mp hprint with hold | hnew
      · exact hknown.prints print hold read hcompletes
      · cases List.mem_singleton.mp hnew
        obtain ⟨row, hrow, horder, hfind, -⟩ := read_of_orderToComplete hcompletes
        refine ⟨fun order hother => ?_, ?_⟩
        · cases hfind.symm.trans hother
          exact SameOrigin.refl _
        · obtain ⟨before, hbefore, -⟩ := Option.bind_eq_some_iff.mp hmark
          obtain ⟨row', hrow', hkept⟩ := jobsKept_markPrinted hmark jobId before hbefore
          cases hrow.symm.trans hrow'
          exact ⟨before, hbefore, hkept.symm.trans horder⟩

theorem originsKept_completeOrder (db : CheckoutDb) (read : Order) (now : Timestamp) :
    OriginsKept db (completeOrder db read now) := by
  rcases completeOrder_cases db read now with hrewrote | ⟨hsame, -⟩
  · exact originsKept_of_rewrote hrewrote (fun _ => rfl) fun _ => ⟨rfl, rfl, rfl⟩
  · rw [hsame]
    exact OriginsKept.refl db

theorem knownReads_commitPrint (hknown : KnownReads system) (position : ℕ) (now : Timestamp) :
    KnownReads (commitPrint system position now) := by
  have hleft : ∀ print ∈ system.prints.eraseIdx position, print ∈ system.prints :=
    fun print hprint => List.mem_of_mem_eraseIdx hprint
  unfold commitPrint
  split
  · exact hknown
  · dsimp only
    split
    · exact hknown.mono (OriginsKept.refl _) (JobsKept.refl _)
        (fun patch hpatch => ⟨patch, hpatch, rfl⟩) hleft
    · next hmark =>
      split
      · exact hknown.mono (originsKept_completeOrder _ _ _) (jobsKept_markPrinted hmark)
          (fun patch hpatch => ⟨patch, hpatch, rfl⟩) hleft
      · exact hknown.mono (OriginsKept.refl _) (jobsKept_markPrinted hmark)
          (fun patch hpatch => ⟨patch, hpatch, rfl⟩) hleft

theorem jobsKept_reprint {jobs : Table OrderPrintJob} (row : OrderPrintJob) (jobId : Uuid)
    (printerId : Option ℕ) : JobsKept jobs (reprint jobs row jobId printerId) := by
  rcases reprint_cases jobs row jobId printerId with hskip | ⟨-, hinsert⟩
  · exact hskip.symm ▸ JobsKept.refl jobs
  · exact jobsKept_insert? hinsert

theorem knownReads_step (hknown : KnownReads system) (command : PrintCommand) :
    KnownReads (step settings system command) := by
  cases command with
  | readOrder orderId completionIntent checkout =>
      simp only [step, readOrder]
      split
      · exact hknown
      · next read hread =>
        refine ⟨fun patch hpatch order hfind => ?_, hknown.prints⟩
        rcases List.mem_append.mp hpatch with hold | hnew
        · exact hknown.patches patch hold order hfind
        · cases List.mem_singleton.mp hnew
          have hid := (mem_of_findOrder hread).2
          rw [← hid] at hread
          cases hread.symm.trans hfind
          exact SameOrigin.refl _
  | readJobs position =>
      simp only [step, readJobs]
      split
      · exact hknown
      · next found hfound =>
        refine hknown.mono (OriginsKept.refl _) (JobsKept.refl _) (fun patch hpatch => ?_)
          fun print hprint => hprint
        rcases List.mem_or_eq_of_mem_set hpatch with hold | rfl
        · exact ⟨patch, hold, rfl⟩
        · exact ⟨found, List.mem_of_getElem? hfound, rfl⟩
  | commitPatch position commit =>
      simp only [step, commitPatch]
      split
      · exact hknown
      · split_ifs
        · exact hknown
        · split
          · next hcommit =>
            exact hknown.mono (originsKept_commitCheckout hcommit)
              (jobsKept_of_writes (writes_of_commitCheckout hcommit))
              (fun patch hpatch => ⟨patch, List.mem_of_mem_eraseIdx hpatch, rfl⟩)
              (fun print hprint => hprint)
          · exact hknown.mono (OriginsKept.refl _) (JobsKept.refl _)
              (fun patch hpatch => ⟨patch, List.mem_of_mem_eraseIdx hpatch, rfl⟩)
              (fun print hprint => hprint)
  | testPrint jobId repeated now => exact knownReads_testPrint hknown jobId repeated now
  | commitPrint position now => exact knownReads_commitPrint hknown position now
  | claim jobId printer ruleActive now => exact knownReads_changeJob hknown jobId _
  | fail jobId error now => exact knownReads_changeJob hknown jobId _
  | retry jobId => exact knownReads_changeJob hknown jobId _
  | cancel jobId => exact knownReads_changeJob hknown jobId _
  | reprint jobId newId printerId =>
      simp only [step]
      split
      · exact hknown
      · exact hknown.mono (OriginsKept.refl _) (jobsKept_reprint _ _ _)
          (fun patch hpatch => ⟨patch, hpatch, rfl⟩) (fun print hprint => hprint)

end Reads

/-! ## Decisions that are up to date -/

/-- A checkout is decided to wait for the print. -/
def waits (settings : Uuid → Option OrderingSettings) (patch : PatchUnderWay)
    (commit : PatchCommit) : Bool :=
  match planPatch patch.read patch.update (patchContext settings patch commit.context) with
  | .ok plan => plan.streamlined.any (·.completionPendingPrint)
  | .error _ => false

/-- A checkout that waits for the print finds the order still not printed when it commits and
the trigger on the paid order has routed its jobs. -/
def WaitUpToDate (settings : Uuid → Option OrderingSettings) (system : PrintSystem)
    (patch : PatchUnderWay) (commit : PatchCommit) : Prop :=
  patch.printJobs.isSome = true → waits settings patch commit = true →
    ∀ after jobs, commitCheckout settings system.db system.jobs patch commit = .ok (after, jobs) →
      primaryPrintStatus jobs patch.read.id ≠ some .succeeded

/-- A print that left its order alone would leave it alone when it commits. -/
def LeaveUpToDate (settings : Uuid → Option OrderingSettings) (system : PrintSystem)
    (print : PrintUnderWay) (now : Timestamp) : Prop :=
  print.completes = none →
    ∀ marked, markPrinted system.jobs print.jobId print.repeated now = some marked →
      orderToComplete settings system.db marked print.jobId = none

/-- What a request has decided on what it had read, it would decide when it commits. -/
def UpToDate (settings : Uuid → Option OrderingSettings) (system : PrintSystem) :
    PrintCommand → Prop
  | .commitPatch position commit =>
      match system.patches[position]? with
      | some patch => WaitUpToDate settings system patch commit
      | none => True
  | .commitPrint position now =>
      match system.prints[position]? with
      | some print => LeaveUpToDate settings system print now
      | none => True
  | .readOrder _ _ _ | .readJobs _ | .testPrint _ _ _ | .claim _ _ _ _ | .fail _ _ _ | .retry _
  | .cancel _ | .reprint _ _ _ => True

/-- No order rests. -/
def NoneRests (settings : Uuid → Option OrderingSettings) (system : PrintSystem) : Prop :=
  ∀ orderId, ¬ Rests settings system.db system.jobs orderId

section Decisions

variable {settings : Uuid → Option OrderingSettings} {system : PrintSystem}
  {db after : CheckoutDb} {jobs jobs' : Table OrderPrintJob} {orderId : Uuid}

theorem completesOrder_iff {order : Order} :
    completesOrder settings jobs order = true ↔ Resting settings jobs order := by
  have hcolumn : (primaryPrintStatus jobs order.id).map columnStatus = some .succeeded
      ↔ primaryPrintStatus jobs order.id = some .succeeded := by
    cases primaryPrintStatus jobs order.id with
    | none => simp
    | some status => cases status <;> simp [columnStatus]
  simp only [completesOrder, printCompletes, Bool.and_eq_true, decide_eq_true_eq,
    Option.any_eq_true, Option.isNone_iff_eq_none, Bool.not_eq_true', hcolumn]
  constructor
  · rintro ⟨⟨⟨⟨⟨hmodules, hexternal⟩, hsource⟩, hstatus⟩, hpaid⟩, hprinted⟩
    exact ⟨hmodules, hexternal, hsource, hstatus, hpaid, hprinted⟩
  · rintro ⟨hmodules, hexternal, hsource, hstatus, hpaid, hprinted⟩
    exact ⟨⟨⟨⟨⟨hmodules, hexternal⟩, hsource⟩, hstatus⟩, hpaid⟩, hprinted⟩

/-- Where no order becomes printed, none comes to rest. -/
theorem rests_of_printed (hprinted : primaryPrintStatus jobs' orderId = some .succeeded →
      primaryPrintStatus jobs orderId = some .succeeded)
    (hrests : Rests settings db jobs' orderId) : Rests settings db jobs orderId := by
  obtain ⟨order, hfind, hrests⟩ := hrests
  have hid := (mem_of_findOrder hfind).2
  have hafter := hrests.printed
  rw [hid] at hafter
  exact ⟨order, hfind, { hrests with printed := hid ▸ hprinted hafter }⟩

theorem rests_of_same (hfind : findOrder after orderId = findOrder db orderId)
    (hjobs : jobsOfOrder jobs' orderId = jobsOfOrder jobs orderId)
    (hrests : Rests settings after jobs' orderId) : Rests settings db jobs orderId := by
  obtain ⟨order, horder, hrests⟩ := hrests
  rw [hfind] at horder
  refine rests_of_printed (fun hprinted => ?_) ⟨order, horder, hrests⟩
  rw [primaryPrintStatus, hjobs] at hprinted
  exact hprinted

/-- A change of a job that prints nothing, and leaves the rule of the job. -/
def Unprinting (change : PrintJob → Except PrintQueueError PrintJob) : Prop :=
  ∀ before job, change before = .ok job →
    job.status ≠ .succeeded ∧ job.printRuleId = before.printRuleId

theorem noneRests_changeJob {change : PrintJob → Except PrintQueueError PrintJob}
    (hchange : Unprinting change) (hnone : NoneRests settings system) (jobId : Uuid) :
    NoneRests settings (changeJob system jobId change) := by
  unfold changeJob
  split_ifs
  · exact hnone
  · split
    · next job hjob =>
      obtain ⟨row, -, hrow⟩ := Option.map_eq_some_iff.mp hjob
      intro orderId hrests
      exact hnone orderId (rests_of_printed
        (printed_of_writeJob (hchange row.job job hrow).1) hrests)
    · exact hnone
    · exact hnone

theorem eq_of_updateMany {condition : PrintJob → Bool} {data : PrintJob → PrintJob}
    {before job : PrintJob} {error : PrintQueueError}
    (hupdate : orFail (PrintJobs.updateMany condition data before) error = .ok job) :
    job = data before := by
  have hupdate := orFail_eq_ok.mp hupdate
  unfold PrintJobs.updateMany at hupdate
  split_ifs at hupdate
  exact (Option.some.inj hupdate).symm

theorem unprinting_claim (printer : Option Printer) (ruleActive : Bool) (now : Timestamp) :
    Unprinting (claim printer ruleActive now) := by
  intro before job hclaim
  unfold claim at hclaim
  obtain ⟨_, -, hclaim⟩ := bind_eq_ok.mp hclaim
  obtain ⟨_, -, hclaim⟩ := bind_eq_ok.mp hclaim
  obtain ⟨_, -, hclaim⟩ := bind_eq_ok.mp hclaim
  obtain ⟨_, -, hclaim⟩ := bind_eq_ok.mp hclaim
  rw [eq_of_updateMany hclaim]
  exact ⟨by simp [PrintJobs.startPrinting], rfl⟩

theorem unprinting_fail (error : Text) (now : Timestamp) :
    Unprinting (PrintJobs.fail error now) := by
  intro before job hfail
  rw [eq_of_updateMany hfail]
  exact ⟨by simp [PrintJobs.markFailed], rfl⟩

theorem unprinting_retry : Unprinting PrintJobs.retry := by
  intro before job hretry
  rw [eq_of_updateMany hretry]
  exact ⟨by simp, rfl⟩

theorem unprinting_cancel : Unprinting PrintJobs.cancel := by
  intro before job hcancel
  rw [eq_of_updateMany hcancel]
  exact ⟨by simp, rfl⟩

/-- A checkout brings no order to rest, unless it waits for a print that is done. -/
theorem noneRests_commitCheckout_iff {patch : PatchUnderWay} {commit : PatchCommit}
    (horigin : ∀ order, findOrder system.db patch.read.id = some order →
      SameOrigin patch.read order)
    (hnone : NoneRests settings system)
    (hcommit : commitCheckout settings system.db system.jobs patch commit = .ok (after, jobs)) :
    (∀ orderId, ¬ Rests settings after jobs orderId)
      ↔ (waits settings patch commit = true →
        primaryPrintStatus jobs patch.read.id ≠ some .succeeded) := by
  obtain ⟨plan, hcommitted⟩ := committed_of_commitCheckout hcommit
  obtain ⟨middle, hrewrote, horders⟩ := hcommitted.rewrote
  have hwaits : waits settings patch commit
      = plan.streamlined.any (·.completionPendingPrint) := by
    rw [waits, hcommitted.planned]
  have hid := fun order => patched_id patch.read patch.update plan
    (patchContext settings patch commit.context) order
  rw [hwaits]
  constructor
  · intro hafter hwait hprinted
    obtain ⟨before, hbefore, -, hchanged⟩ := findOrder_changed hrewrote hid
    apply hafter patch.read.id
    refine ⟨_, (findOrder_congr horders _).trans hchanged, ?_⟩
    exact (resting_patched_iff hcommitted.planned (horigin before hbefore)
      (mem_of_findOrder hbefore).2).mpr ⟨hwait, hprinted⟩
  · intro huptodate orderId hrests
    by_cases hsame : orderId = patch.read.id
    · subst hsame
      obtain ⟨order, hfind, hresting⟩ := hrests
      rw [findOrder_congr horders] at hfind
      obtain ⟨before, hbefore, -, rfl⟩ := findOrder_of_rewrote hrewrote hfind
      obtain ⟨hwait, hprinted⟩ := (resting_patched_iff hcommitted.planned
        (horigin before hbefore) (mem_of_findOrder hbefore).2).mp hresting
      exact huptodate hwait hprinted
    · refine hnone orderId (rests_of_same ?_ (hcommitted.others _ (Ne.symm hsame)) hrests)
      rw [findOrder_congr horders, findOrder_of_ne hrewrote hid hsame]

theorem noneRests_commitPatch_iff (hknown : KnownReads system)
    (hnone : NoneRests settings system) (position : ℕ) (commit : PatchCommit) :
    NoneRests settings (commitPatch settings system position commit)
      ↔ UpToDate settings system (.commitPatch position commit) := by
  simp only [commitPatch, UpToDate]
  cases hpatch : system.patches[position]? with
  | none => exact iff_of_true hnone trivial
  | some patch =>
      have horigin := hknown.patches patch (List.mem_of_getElem? hpatch)
      dsimp only
      cases hread : patch.printJobs with
      | none =>
          refine iff_of_true hnone fun hsome => ?_
          rw [hread] at hsome
          cases hsome
      | some printJobs =>
          rw [Option.isNone_some, if_neg Bool.false_ne_true]
          cases hcommit : commitCheckout settings system.db system.jobs patch commit with
          | error error =>
              refine iff_of_true hnone fun _ _ after jobs hok => ?_
              rw [hcommit] at hok
              cases hok
          | ok written =>
              refine (noneRests_commitCheckout_iff horigin hnone hcommit).trans ?_
              constructor
              · intro hstill _ hwait after jobs hok
                rw [hcommit] at hok
                cases hok
                exact hstill hwait
              · intro huptodate hwait
                exact huptodate (by rw [hread]; rfl) hwait _ _ hcommit

/-- The order that a print completes rests no more. -/
theorem noneRests_completeOrder {read : Order} {now : Timestamp}
    (horigin : ∀ order, findOrder system.db read.id = some order → SameOrigin read order)
    (hnone : NoneRests settings system)
    (hothers : ∀ orderId, read.id ≠ orderId →
      jobsOfOrder jobs orderId = jobsOfOrder system.jobs orderId) (orderId : Uuid) :
    ¬ Rests settings (completeOrder system.db read now) jobs orderId := by
  intro hrests
  rcases completeOrder_cases system.db read now with hrewrote | ⟨hsame, hleft⟩
  · by_cases hid : orderId = read.id
    · subst hid
      obtain ⟨order, hfind, hresting⟩ := hrests
      obtain ⟨before, -, -, rfl⟩ := findOrder_of_rewrote hrewrote hfind
      cases hresting.status
    · exact hnone orderId (rests_of_same (findOrder_of_ne hrewrote (fun _ => rfl) hid)
        (hothers orderId (Ne.symm hid)) hrests)
  · rw [hsame] at hrests
    by_cases hid : orderId = read.id
    · subst hid
      obtain ⟨order, hfind, hresting⟩ := hrests
      exact hleft order hfind (horigin order hfind).stallId hresting.status hresting.paid
    · exact hnone orderId (rests_of_same rfl (hothers orderId (Ne.symm hid)) hrests)

/-- A print that leaves its order alone brings it to rest exactly when it is to be completed. -/
theorem noneRests_marked_iff {row : OrderPrintJob} {jobId : Uuid}
    (hnone : NoneRests settings system) (hrow : jobs.get? jobId = some row)
    (hothers : ∀ orderId, row.orderId ≠ orderId →
      jobsOfOrder jobs orderId = jobsOfOrder system.jobs orderId) :
    (∀ orderId, ¬ Rests settings system.db jobs orderId)
      ↔ orderToComplete settings system.db jobs jobId = none := by
  constructor
  · intro hafter
    cases htest : orderToComplete settings system.db jobs jobId with
    | none => rfl
    | some read =>
        obtain ⟨-, -, -, hfind, hcompleted⟩ := read_of_orderToComplete htest
        exact absurd ⟨read, hfind, completesOrder_iff.mp hcompleted⟩ (hafter read.id)
  · intro htest orderId hrests
    by_cases hid : row.orderId = orderId
    · obtain ⟨order, hfind, hresting⟩ := hrests
      rw [← hid] at hfind
      simp [orderToComplete, hrow, hfind, completesOrder_iff.mpr hresting] at htest
    · exact hnone orderId (rests_of_same rfl (hothers orderId hid) hrests)

theorem noneRests_commitPrint_iff (hknown : KnownReads system)
    (hnone : NoneRests settings system) (position : ℕ) (now : Timestamp) :
    NoneRests settings (commitPrint system position now)
      ↔ UpToDate settings system (.commitPrint position now) := by
  simp only [commitPrint, UpToDate]
  cases hprint : system.prints[position]? with
  | none => exact iff_of_true hnone trivial
  | some print =>
      dsimp only
      cases hmark : markPrinted system.jobs print.jobId print.repeated now with
      | none =>
          refine iff_of_true hnone fun _ marked hok => ?_
          rw [hmark] at hok
          cases hok
      | some marked =>
          obtain ⟨row, hrow, -⟩ := Option.bind_eq_some_iff.mp hmark
          obtain ⟨row', hrow', horder⟩ := jobsKept_markPrinted hmark _ row hrow
          have hothers : ∀ orderId, row.orderId ≠ orderId →
              jobsOfOrder marked orderId = jobsOfOrder system.jobs orderId :=
            fun orderId hne => jobsOfOrder_markPrinted hrow hne hmark
          cases hcompletes : print.completes with
          | some read =>
              obtain ⟨horigin, found, hfound, hfoundOrder⟩ :=
                hknown.prints print (List.mem_of_getElem? hprint) read hcompletes
              cases hfound.symm.trans hrow
              rw [hfoundOrder] at hothers
              refine iff_of_true (noneRests_completeOrder horigin hnone hothers) fun hleft => ?_
              rw [hcompletes] at hleft
              cases hleft
          | none =>
              rw [← horder] at hothers
              refine (noneRests_marked_iff hnone hrow' hothers).trans ?_
              constructor
              · intro htest _ again hagain
                rw [hmark] at hagain
                cases hagain
                exact htest
              · intro huptodate
                exact huptodate hcompletes marked hmark

theorem noneRests_step_iff (hknown : KnownReads system) (hnone : NoneRests settings system)
    (command : PrintCommand) :
    NoneRests settings (step settings system command) ↔ UpToDate settings system command := by
  cases command with
  | readOrder orderId completionIntent checkout =>
      refine iff_of_true ?_ trivial
      simp only [step, readOrder]
      split
      · exact hnone
      · exact hnone
  | readJobs position =>
      refine iff_of_true ?_ trivial
      simp only [step, readJobs]
      split
      · exact hnone
      · exact hnone
  | commitPatch position commit => exact noneRests_commitPatch_iff hknown hnone position commit
  | testPrint jobId repeated now =>
      refine iff_of_true ?_ trivial
      simp only [step, testPrint]
      split_ifs
      · exact hnone
      · split
        · exact hnone
        · exact hnone
  | commitPrint position now => exact noneRests_commitPrint_iff hknown hnone position now
  | claim jobId =>
      exact iff_of_true (noneRests_changeJob (unprinting_claim _ _ _) hnone jobId) trivial
  | fail jobId => exact iff_of_true (noneRests_changeJob (unprinting_fail _ _) hnone jobId) trivial
  | retry jobId => exact iff_of_true (noneRests_changeJob unprinting_retry hnone jobId) trivial
  | cancel jobId => exact iff_of_true (noneRests_changeJob unprinting_cancel hnone jobId) trivial
  | reprint jobId newId printerId =>
      refine iff_of_true ?_ trivial
      simp only [step]
      split
      · exact hnone
      · exact fun orderId hrests => hnone orderId (rests_of_printed printed_of_reprint hrests)

end Decisions

/-- No state of a run leaves a ready, paid and printed order at rest exactly when there is none
at the start and every decision of the run is up to date when it commits. -/
theorem noneRests_iff (settings : Uuid → Option OrderingSettings) (db : CheckoutDb)
    (jobs : Table OrderPrintJob) (commands : List PrintCommand) :
    (∀ before, before <+: commands →
        NoneRests settings (exec (step settings) (.idle db jobs) before))
      ↔ NoneRests settings (.idle db jobs)
        ∧ Safely (step settings) (UpToDate settings) (.idle db jobs) commands := by
  rw [forall_prefix_iff (NoneRests settings)]
  refine and_congr_right fun hnone => ?_
  have hknown : KnownReads (.idle db jobs) :=
    ⟨fun _ hpatch => absurd hpatch List.not_mem_nil,
      fun _ hprint => absurd hprint List.not_mem_nil⟩
  refine safely_congr (fun system => KnownReads system ∧ NoneRests settings system)
    (fun system command hsystem => noneRests_step_iff hsystem.1 hsystem.2 command)
    (fun system command hsystem huptodate => ?_) ⟨hknown, hnone⟩ commands
  exact ⟨knownReads_step hsystem.1 command,
    (noneRests_step_iff hsystem.1 hsystem.2 command).mpr huptodate⟩

/-! ## A print between the reading and the checkout -/

/-- The stall prints and has no kitchen display. -/
def sampleSettings : Uuid → Option OrderingSettings :=
  fun _ => some { kdsModuleEnabled := false, printModuleEnabled := true }

/-- A confirmed order of the staff at a stall whose drawer is open. -/
def sampleDb : CheckoutDb :=
  (exec OrderRun.step .initial [
    .cashCommand CashDrawer.sampleScope (CashDrawer.sampleIds 1) 0 (.open 500 none),
    .placeOrder { sampleOrder with source := .staffPos }]).db

/-- The ticket of the order, which is being printed. -/
def sampleTicket : OrderPrintJob :=
  { initialJob 20 60 (some 70) none .kitchenTicket with
    job := { queuedJob (some 70) none 3 with status := .printing, attemptCount := 1 } }

def sampleJobs : Table OrderPrintJob :=
  ((Table.empty : Table OrderPrintJob).insert? sampleTicket).getD .empty

def sampleCommit : PatchCommit where
  context := sampleContext
  routing := { offlineOrigin := false, hasRules := false, matching := [] }
  printerId := some 70
  newId := fun index => 80 + index

/-- The ticket is printed after the checkout has read that it is not. -/
def missedPrint : List PrintCommand :=
  [.readOrder 20 none sampleCheckout, .readJobs 0, .testPrint 60 false 5, .commitPrint 0 5,
    .commitPatch 0 sampleCommit]

def sampleFinal : PrintSystem :=
  exec (step sampleSettings) (.idle sampleDb sampleJobs) missedPrint

/-- Both requests are done, and the order rests. -/
theorem missed_print_leaves_order_at_rest :
    NoneRests sampleSettings (.idle sampleDb sampleJobs)
      ∧ sampleFinal.patches.length = 0 ∧ sampleFinal.prints.length = 0
      ∧ Rests sampleSettings sampleFinal.db sampleFinal.jobs 20 := by
  refine ⟨?_, by decide +kernel, by decide +kernel, ?_⟩
  · rintro orderId ⟨order, hfind, hresting⟩
    have hconfirmed : sampleDb.orders.table.rows.all (·.status = .confirmed) = true := by
      decide +kernel
    have hstatus := List.all_eq_true.mp hconfirmed order (mem_of_findOrder hfind).1
    rw [hresting.status] at hstatus
    cases hstatus
  · have htest : (findOrder sampleFinal.db 20).any
        (completesOrder sampleSettings sampleFinal.jobs) = true := by
      decide +kernel
    obtain ⟨order, hfind, hcompletes⟩ := (Option.any_eq_true _ _).mp htest
    exact ⟨order, hfind, completesOrder_iff.mp hcompletes⟩

end Stallorder.PrintCompletion
