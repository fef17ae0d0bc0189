import Stallorder.Core.Table
import Stallorder.Core.Worklist
import Stallorder.Offline.OrderContract
import Stallorder.Printing.PrintJobs

/-!
# The print status of an order

The jobs of an order are documents: the first ticket, a document for every
amendment, their reprints, and copies for further printers.  A document is
printed as soon as one of its reprints is, and the order is printed when the
ticket and every amendment are.

No request to print again takes a print back, and none but a success prints.
-/

namespace Stallorder.PrimaryPrintStatus

open OrderContract PrintJobs Worklist

inductive PrintDocumentType
  | kitchenTicket
  | customerReceipt
  deriving DecidableEq

structure OrderPrintJob where
  id : Uuid
  orderId : Uuid
  reprintOfId : Option Uuid
  amendmentId : Option Uuid
  isRoutingCopy : Bool
  documentType : PrintDocumentType
  job : PrintJob
  deriving DecidableEq

instance : KeyIndexed OrderPrintJob Uuid := .ofKey (·.id)

/-- The job prints the document of another one again. -/
def isReprint (document job : OrderPrintJob) : Bool :=
  !job.isRoutingCopy && job.documentType = document.documentType
    && job.amendmentId = document.amendmentId

def childrenOf (jobs : List OrderPrintJob) (document : OrderPrintJob) (parentId : Uuid) :
    List Uuid :=
  (jobs.filter fun job => job.reprintOfId = some parentId && isReprint document job).map (·.id)

/-- The document and its reprints.  A reprint can itself be reprinted. -/
def family (jobs : List OrderPrintJob) (document : OrderPrintJob) : List Uuid :=
  reachableFrom (childrenOf jobs document) (jobs.map (·.id)) document.id

def isSucceeded (job : OrderPrintJob) : Bool := job.job.status = .succeeded

/-- Later spare copies cannot revoke an already confirmed physical output. -/
def resolveDocumentStatus (jobs : List OrderPrintJob) (document : OrderPrintJob) :
    PrintJobStatus :=
  let members := jobs.filter fun job => job.id ∈ family jobs document
  if members.any isSucceeded then .succeeded
  else (members.getLast?.map (·.job.status)).getD document.job.status

def isPrimary (job : OrderPrintJob) : Bool :=
  job.reprintOfId.isNone && !job.isRoutingCopy && job.amendmentId.isNone

def isAmendment (job : OrderPrintJob) : Bool :=
  job.reprintOfId.isNone && job.amendmentId.isSome

/-- The jobs are given in the order of their creation. -/
def resolvePrimaryPrintStatus (jobs : List OrderPrintJob) : Option PrintJobStatus :=
  match jobs.find? isPrimary with
  | none => none
  | some primary =>
      let initialStatus := resolveDocumentStatus jobs primary
      if initialStatus ≠ .succeeded then some initialStatus
      else
        let amendmentStatuses := (jobs.filter isAmendment).map (resolveDocumentStatus jobs)
        some ((amendmentStatuses.find? fun status => status = .failed || status = .cancelled).getD
          ((amendmentStatuses.find? (· ≠ .succeeded)).getD .succeeded))

/-! ## When an order is printed -/

section Printed

variable {jobs : List OrderPrintJob} {document : OrderPrintJob}

/-- A document has come out of a printer. -/
def DocumentPrinted (jobs : List OrderPrintJob) (document : OrderPrintJob) : Prop :=
  ∃ job ∈ jobs, job.id ∈ family jobs document ∧ job.job.status = .succeeded

theorem resolveDocumentStatus_eq_succeeded_iff (hdocument : document ∈ jobs) :
    resolveDocumentStatus jobs document = .succeeded ↔ DocumentPrinted jobs document := by
  have hprinted : DocumentPrinted jobs document
      ↔ (jobs.filter fun job => job.id ∈ family jobs document).any isSucceeded = true := by
    simp [DocumentPrinted, List.any_eq_true, isSucceeded]
  rw [hprinted, resolveDocumentStatus]
  constructor
  · intro hstatus
    by_contra hnone
    rw [if_neg hnone] at hstatus
    apply hnone
    cases hlast : (jobs.filter fun job => job.id ∈ family jobs document).getLast? with
    | none =>
        have hempty := List.getLast?_eq_none_iff.mp hlast
        have hself : document ∈ jobs.filter fun job => job.id ∈ family jobs document := by
          simp only [List.mem_filter, decide_eq_true_eq]
          exact ⟨hdocument, mem_explore_of_mem List.mem_cons_self⟩
        rw [hempty] at hself
        cases hself
    | some last =>
        rw [hlast] at hstatus
        exact List.any_eq_true.mpr
          ⟨last, List.mem_of_getLast? hlast, decide_eq_true hstatus⟩
  · intro hany
    exact if_pos hany

/-- The status of the amendments is the first that is not a success. -/
theorem worst_eq_succeeded_iff (statuses : List PrintJobStatus) :
    ((statuses.find? fun status => status = .failed || status = .cancelled).getD
        ((statuses.find? (· ≠ .succeeded)).getD .succeeded)) = .succeeded
      ↔ ∀ status ∈ statuses, status = .succeeded := by
  constructor
  · intro hworst
    by_contra hsome
    push Not at hsome
    obtain ⟨status, hmem, hstatus⟩ := hsome
    cases hfailed : statuses.find? fun status => status = .failed || status = .cancelled with
    | some found =>
        have hfound := List.find?_some hfailed
        rw [hfailed, Option.getD_some] at hworst
        simp [hworst] at hfound
    | none =>
        cases hrest : statuses.find? (· ≠ .succeeded) with
        | none =>
            have hall := List.find?_eq_none.mp hrest status hmem
            simp [hstatus] at hall
        | some found =>
            have hfound := List.find?_some hrest
            rw [hfailed, hrest, Option.getD_none, Option.getD_some] at hworst
            simp [hworst] at hfound
  · intro hall
    have hfailed : statuses.find? (fun status => status = .failed || status = .cancelled)
        = none := by
      apply List.find?_eq_none.mpr
      intro status hmem
      simp [hall status hmem]
    have hrest : statuses.find? (· ≠ .succeeded) = none := by
      apply List.find?_eq_none.mpr
      intro status hmem
      simp [hall status hmem]
    rw [hfailed, hrest]
    rfl

/-- The order is printed when its ticket and every amendment of it are. -/
theorem resolvePrimaryPrintStatus_eq_succeeded_iff :
    resolvePrimaryPrintStatus jobs = some .succeeded
      ↔ (∃ primary, jobs.find? isPrimary = some primary ∧ DocumentPrinted jobs primary)
        ∧ ∀ job ∈ jobs, isAmendment job = true → DocumentPrinted jobs job := by
  have hamendments : (∀ status ∈ (jobs.filter isAmendment).map (resolveDocumentStatus jobs),
        status = .succeeded)
      ↔ ∀ job ∈ jobs, isAmendment job = true → DocumentPrinted jobs job := by
    simp only [List.forall_mem_map, List.mem_filter, and_imp]
    refine forall_congr' fun job => forall_congr' fun hjob => ?_
    exact imp_congr_right fun _ => resolveDocumentStatus_eq_succeeded_iff hjob
  rw [← hamendments]
  unfold resolvePrimaryPrintStatus
  cases hprimary : jobs.find? isPrimary with
  | none => simp
  | some primary =>
      have hmem := List.mem_of_find?_eq_some hprimary
      simp only [Option.some.injEq, exists_eq_left',
        ← resolveDocumentStatus_eq_succeeded_iff hmem]
      generalize (jobs.filter isAmendment).map (resolveDocumentStatus jobs) = statuses
      split_ifs with hstatus
      · simp [hstatus]
      · rw [not_not] at hstatus
        simp only [hstatus, true_and, Option.some.injEq]
        exact worst_eq_succeeded_iff statuses

end Printed

/-! ## Writing a job -/

/-- The jobs of an order. -/
def jobsOfOrder (table : Table OrderPrintJob) (orderId : Uuid) : List OrderPrintJob :=
  table.rows.filter fun row => row.orderId = orderId

def primaryPrintStatus (table : Table OrderPrintJob) (orderId : Uuid) : Option PrintJobStatus :=
  resolvePrimaryPrintStatus (jobsOfOrder table orderId)

def writeJob (table : Table OrderPrintJob) (jobId : Uuid) (job : PrintJob) :
    Table OrderPrintJob :=
  table.rewrite (fun row => { row with job := if row.id = jobId then job else row.job })
    fun _ => rfl

/-- Every row gets a job, and stays the document that it is. -/
def withJobs (job : OrderPrintJob → PrintJob) (jobs : List OrderPrintJob) : List OrderPrintJob :=
  jobs.map fun row => { row with job := job row }

section Writes

variable {jobs : List OrderPrintJob} {table : Table OrderPrintJob} {jobId orderId : Uuid}
  {job : PrintJob} {written : OrderPrintJob → PrintJob} {row : OrderPrintJob}

theorem family_withJobs (document : OrderPrintJob) :
    family (withJobs written jobs) { document with job } = family jobs document := by
  have hchildren : childrenOf (withJobs written jobs) { document with job }
      = childrenOf jobs document := by
    funext parentId
    simp [childrenOf, withJobs, List.filter_map, Function.comp_def, isReprint]
  have hids : (withJobs written jobs).map (·.id) = jobs.map (·.id) := by
    simp [withJobs, Function.comp_def]
  rw [family, hchildren, hids, family]

theorem documentPrinted_of_withJobs {document : OrderPrintJob}
    (hkept : ∀ row ∈ jobs, (written row).status = .succeeded → row.job.status = .succeeded)
    (hprinted : DocumentPrinted (withJobs written jobs) { document with job }) :
    DocumentPrinted jobs document := by
  obtain ⟨row, hrow, hfamily, hsucceeded⟩ := hprinted
  obtain ⟨before, hbefore, rfl⟩ := List.mem_map.mp hrow
  rw [family_withJobs] at hfamily
  exact ⟨before, hbefore, hfamily, hkept before hbefore hsucceeded⟩

/-- Where no job becomes a success, no order becomes printed. -/
theorem printed_of_withJobs
    (hkept : ∀ row ∈ jobs, (written row).status = .succeeded → row.job.status = .succeeded)
    (hprinted : resolvePrimaryPrintStatus (withJobs written jobs) = some .succeeded) :
    resolvePrimaryPrintStatus jobs = some .succeeded := by
  rw [resolvePrimaryPrintStatus_eq_succeeded_iff] at hprinted ⊢
  obtain ⟨⟨primary, hprimary, hticket⟩, hamendments⟩ := hprinted
  rw [withJobs, List.find?_map] at hprimary
  obtain ⟨found, hfound, rfl⟩ := Option.map_eq_some_iff.mp hprimary
  refine ⟨⟨found, hfound, documentPrinted_of_withJobs hkept hticket⟩, fun row hrow hrole => ?_⟩
  exact documentPrinted_of_withJobs hkept
    (hamendments { row with job := written row } (List.mem_map_of_mem hrow) hrole)

theorem jobsOfOrder_withJobs :
    jobsOfOrder (table.rewrite (fun row => { row with job := written row }) fun _ => rfl) orderId
      = withJobs written (jobsOfOrder table orderId) := by
  rw [jobsOfOrder, Table.rewrite, List.filter_map]
  rfl

theorem jobsOfOrder_writeJob :
    jobsOfOrder (writeJob table jobId job) orderId
      = withJobs (fun row => if row.id = jobId then job else row.job)
        (jobsOfOrder table orderId) :=
  jobsOfOrder_withJobs

theorem printed_of_writeJob (hjob : job.status ≠ .succeeded)
    (hprinted : primaryPrintStatus (writeJob table jobId job) orderId = some .succeeded) :
    primaryPrintStatus table orderId = some .succeeded := by
  rw [primaryPrintStatus, jobsOfOrder_writeJob] at hprinted
  refine printed_of_withJobs (fun row _ hsucceeded => ?_) hprinted
  split_ifs at hsucceeded with hid
  · exact absurd hsucceeded hjob
  · exact hsucceeded

/-- The jobs of the other orders stay as they are. -/
theorem jobsOfOrder_writeJob_of_ne (hrow : table.get? jobId = some row)
    (hne : row.orderId ≠ orderId) :
    jobsOfOrder (writeJob table jobId job) orderId = jobsOfOrder table orderId := by
  rw [jobsOfOrder_writeJob]
  conv_rhs => rw [← List.map_id (jobsOfOrder table orderId)]
  apply List.map_congr_left
  intro other hother
  obtain ⟨hmem, horder⟩ := List.mem_filter.mp hother
  have hid : other.id ≠ jobId := by
    intro hid
    have hsame : other = row :=
      Table.eq_of_key_eq hmem (Table.mem_of_get? hrow) (hid.trans (Table.key_of_get? hrow).symm)
    rw [hsame] at horder
    exact hne (of_decide_eq_true horder)
  simp [hid]

end Writes

/-! ## Printing again -/

/-- An identifier that no job has and no job refers to. -/
def unusedId (table : Table OrderPrintJob) (jobId : Uuid) : Bool :=
  table.rows.all fun row => row.id ≠ jobId && row.reprintOfId ≠ some jobId

def reprintOf (row : OrderPrintJob) (jobId : Uuid) (printerId : Option ℕ) : OrderPrintJob where
  id := jobId
  orderId := row.orderId
  reprintOfId := some row.id
  amendmentId := row.amendmentId
  isRoutingCopy := false
  documentType := row.documentType
  job := queuedJob printerId row.job.printRuleId 3

/-- The reprint of a job, under an identifier that has just been drawn. -/
def reprint (table : Table OrderPrintJob) (row : OrderPrintJob) (jobId : Uuid)
    (printerId : Option ℕ) : Table OrderPrintJob :=
  if unusedId table jobId then (table.insert? (reprintOf row jobId printerId)).getD table
  else table

section Reprints

variable {jobs : List OrderPrintJob} {table : Table OrderPrintJob} {jobId orderId : Uuid}
  {row added document : OrderPrintJob} {printerId : Option ℕ}

theorem childrenOf_append (parentId : Uuid) :
    childrenOf (jobs ++ [added]) document parentId
      = childrenOf jobs document parentId
        ++ if added.reprintOfId = some parentId && isReprint document added then [added.id]
          else [] := by
  simp only [childrenOf, List.filter_append, List.map_append, List.filter_singleton,
    Bool.cond_eq_ite]
  split_ifs
  · rfl
  · rfl

theorem childrenOf_subset (document : OrderPrintJob) (parentId : Uuid) :
    ∀ found ∈ childrenOf jobs document parentId, found ∈ jobs.map (·.id) := by
  intro found hfound
  obtain ⟨child, hchild, rfl⟩ := List.mem_map.mp hfound
  exact List.mem_map_of_mem (List.mem_of_mem_filter hchild)

theorem exists_of_mem_childrenOf {parentId childId : Uuid}
    (hchild : childId ∈ childrenOf jobs document parentId) :
    ∃ child ∈ jobs, child.reprintOfId = some parentId ∧ isReprint document child = true := by
  obtain ⟨child, hfound, -⟩ := List.mem_map.mp hchild
  obtain ⟨hmem, hrefers⟩ := List.mem_filter.mp hfound
  simp only [Bool.and_eq_true, decide_eq_true_eq] at hrefers
  exact ⟨child, hmem, hrefers⟩

theorem mem_family_iff {member : Uuid} :
    member ∈ family jobs document
      ↔ Relation.ReflTransGen (fun parent child => child ∈ childrenOf jobs document parent)
        document.id member :=
  mem_reachableFrom_iff (childrenOf_subset document)

/-- A job that nothing refers to joins a family as its only new member. -/
theorem mem_family_of_append (hunused : ∀ row ∈ jobs, row.reprintOfId ≠ some added.id)
    {member : Uuid} (hmember : member ∈ family (jobs ++ [added]) document) :
    member ∈ family jobs document ∨ member = added.id := by
  rw [mem_family_iff] at hmember
  induction hmember with
  | refl => exact .inl (mem_family_iff.mpr .refl)
  | tail _ hchild ih =>
      rw [childrenOf_append, List.mem_append] at hchild
      rcases hchild with hchild | hnew
      · rcases ih with hparent | rfl
        · exact .inl (mem_family_iff.mpr ((mem_family_iff.mp hparent).tail hchild))
        · obtain ⟨child, hmem, hrefers, -⟩ := exists_of_mem_childrenOf hchild
          exact absurd hrefers (hunused child hmem)
      · right
        split_ifs at hnew with hadded
        · exact List.mem_singleton.mp hnew
        · cases hnew

theorem documentPrinted_of_append (hunused : ∀ row ∈ jobs, row.id ≠ added.id
      ∧ row.reprintOfId ≠ some added.id) (hadded : added.job.status ≠ .succeeded)
    (hprinted : DocumentPrinted (jobs ++ [added]) document) : DocumentPrinted jobs document := by
  obtain ⟨member, hmember, hfamily, hsucceeded⟩ := hprinted
  rcases List.mem_append.mp hmember with hmember | hnew
  · rcases mem_family_of_append (fun row hrow => (hunused row hrow).2) hfamily with hold | hnew
    · exact ⟨member, hmember, hold, hsucceeded⟩
    · exact absurd hnew (hunused member hmember).1
  · rw [List.mem_singleton.mp hnew] at hsucceeded
    exact absurd hsucceeded hadded

/-- A document without reprints is printed only by itself. -/
theorem succeeded_of_childless (hnone : ∀ row ∈ jobs, row.reprintOfId = some document.id →
      isReprint document row = false) (hprinted : DocumentPrinted jobs document) :
    ∃ row ∈ jobs, row.id = document.id ∧ row.job.status = .succeeded := by
  obtain ⟨row, hrow, hfamily, hsucceeded⟩ := hprinted
  refine ⟨row, hrow, ?_, hsucceeded⟩
  rcases (mem_family_iff.mp hfamily).cases_head with hself | ⟨childId, hchild, -⟩
  · exact hself.symm
  · obtain ⟨child, hmem, hrefers, hreprint⟩ := exists_of_mem_childrenOf hchild
    rw [hnone child hmem hrefers] at hreprint
    cases hreprint

theorem printed_of_append (hunused : ∀ row ∈ jobs, row.id ≠ added.id
      ∧ row.reprintOfId ≠ some added.id) (hadded : added.job.status ≠ .succeeded)
    (hprinted : resolvePrimaryPrintStatus (jobs ++ [added]) = some .succeeded) :
    resolvePrimaryPrintStatus jobs = some .succeeded := by
  rw [resolvePrimaryPrintStatus_eq_succeeded_iff] at hprinted ⊢
  obtain ⟨⟨primary, hprimary, hticket⟩, hamendments⟩ := hprinted
  have hticket := documentPrinted_of_append hunused hadded hticket
  have hfound : jobs.find? isPrimary = some primary := by
    rw [List.find?_append, Option.or_eq_some_iff] at hprimary
    rcases hprimary with hfound | ⟨-, hnew⟩
    · exact hfound
    · cases List.mem_singleton.mp (List.mem_of_find?_eq_some hnew)
      obtain ⟨row, hrow, hid, -⟩ := succeeded_of_childless
        (fun row hrow hrefers => absurd hrefers (hunused row hrow).2) hticket
      exact absurd hid (hunused row hrow).1
  refine ⟨⟨primary, hfound, hticket⟩, fun row hrow hamendment => ?_⟩
  exact documentPrinted_of_append hunused hadded
    (hamendments row (List.mem_append_left _ hrow) hamendment)

theorem printed_of_insert? {after : Table OrderPrintJob}
    (hunused : ∀ row ∈ table, row.id ≠ added.id ∧ row.reprintOfId ≠ some added.id)
    (hadded : added.job.status ≠ .succeeded) (hinsert : table.insert? added = some after)
    (hprinted : primaryPrintStatus after orderId = some .succeeded) :
    primaryPrintStatus table orderId = some .succeeded := by
  rw [primaryPrintStatus, jobsOfOrder, Table.rows_of_insert? hinsert, List.filter_append,
    List.filter_singleton, Bool.cond_eq_ite] at hprinted
  split_ifs at hprinted
  · exact printed_of_append (fun row hrow => hunused row (List.mem_of_mem_filter hrow)) hadded
      hprinted
  · rw [List.append_nil] at hprinted
    exact hprinted

theorem getD_insert?_cases (table : Table OrderPrintJob) (added : OrderPrintJob) :
    (table.insert? added).getD table = table
      ∨ table.insert? added = some ((table.insert? added).getD table) := by
  cases table.insert? added with
  | none => exact .inl rfl
  | some after => exact .inr rfl

theorem reprint_cases (table : Table OrderPrintJob) (row : OrderPrintJob) (jobId : Uuid)
    (printerId : Option ℕ) : reprint table row jobId printerId = table
      ∨ unusedId table jobId = true ∧ table.insert? (reprintOf row jobId printerId)
        = some (reprint table row jobId printerId) := by
  unfold reprint
  split_ifs with hunused
  · exact (getD_insert?_cases table _).imp_right fun hinsert => ⟨hunused, hinsert⟩
  · exact .inl rfl

/-- Asking for a reprint prints nothing. -/
theorem printed_of_reprint
    (hprinted : primaryPrintStatus (reprint table row jobId printerId) orderId = some .succeeded) :
    primaryPrintStatus table orderId = some .succeeded := by
  rcases reprint_cases table row jobId printerId with hskip | ⟨hunused, hinsert⟩
  · exact hskip ▸ hprinted
  · refine printed_of_insert? (fun other hother => ?_) (by simp [reprintOf, queuedJob]) hinsert
      hprinted
    simpa [reprintOf] using List.all_eq_true.mp hunused other hother

end Reprints

end Stallorder.PrimaryPrintStatus
