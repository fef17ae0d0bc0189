import Stallorder.Billing.PaygSteps

/-!
# Conserved credits

A credit is there for a later invoice, or an invoice that still stands has used
it.  Closing a period moves credits between these two, also when it is closed
again.  Voiding an invoice knows nothing of the credits that the invoice has
used, and no later closing ever finds them.
-/

namespace Stallorder.ConservedCredits

open OrderContract InvoiceWorkflow PaygClosing Checks Run

variable {premises : Premises} {account account' : PaygAccount} {credit : CreditAdjustment}

/-! ## Credits -/

def isAvailable (credit : CreditAdjustment) : Bool := credit.status = .unapplied

/-- The invoice that has taken the credit still stands. -/
def isUsed (invoices : List BilledInvoice) (credit : CreditAdjustment) : Bool :=
  credit.status = .applied
    && (credit.targetInvoiceId.bind (invoices[·]?)).any (·.status ≠ .void)

def total (credits : List CreditAdjustment) : ℤ := (credits.map (·.amount)).sum

def Kept (account : PaygAccount) : Prop :=
  ∀ credit ∈ account.credits, isAvailable credit = true ∨ isUsed account.invoices credit = true

structure Conserved (account : PaygAccount) : Prop where
  kept : Kept account
  balanced : total (account.credits.filter isAvailable)
    + total (account.credits.filter (isUsed account.invoices)) = total account.credits

/-- An invoice that is voided has used no credit. -/
def SparesCredits (account : PaygAccount) : PaygCommand → Prop
  | .workflow (.voidInvoice invoiceId) => ∀ invoice,
      account.invoices[invoiceId]? = some invoice → isEditable invoice.status = true →
      invoice.amountPaid ≤ 0 → account.payments.any (isPendingOn invoiceId) = false →
        ∀ credit ∈ account.credits,
          ¬(credit.status = .applied ∧ credit.targetInvoiceId = some invoiceId)
  | _ => True

theorem isUsed_iff {invoices : List BilledInvoice} : isUsed invoices credit = true ↔
    credit.status = .applied ∧ ∃ position invoice, credit.targetInvoiceId = some position
      ∧ invoices[position]? = some invoice ∧ invoice.status ≠ .void := by
  simp only [isUsed, Bool.and_eq_true, decide_eq_true_eq, Option.any_eq_true,
    Option.bind_eq_some_iff]
  constructor
  · rintro ⟨happlied, invoice, ⟨position, htarget, hinvoice⟩, hstands⟩
    exact ⟨happlied, position, invoice, htarget, hinvoice, hstands⟩
  · rintro ⟨happlied, position, invoice, htarget, hinvoice, hstands⟩
    exact ⟨happlied, invoice, ⟨position, htarget, hinvoice⟩, hstands⟩

theorem not_isUsed_of_isAvailable {invoices : List BilledInvoice}
    (havailable : isAvailable credit = true) : isUsed invoices credit = false := by
  rw [isAvailable, decide_eq_true_eq] at havailable
  rw [isUsed, havailable]
  rfl

/-- The amounts balance when every credit is kept. -/
theorem balanced_of_kept {invoices : List BilledInvoice} {credits : List CreditAdjustment}
    (hkept : ∀ credit ∈ credits, isAvailable credit = true ∨ isUsed invoices credit = true) :
    total (credits.filter isAvailable) + total (credits.filter (isUsed invoices))
      = total credits := by
  induction credits with
  | nil => rfl
  | cons credit credits ih =>
      have hrest := ih fun other hmem => hkept other (List.mem_cons_of_mem _ hmem)
      unfold total at hrest ⊢
      rcases hkept credit List.mem_cons_self with havailable | hused
      · rw [List.filter_cons_of_pos havailable, List.filter_cons_of_neg
          (Bool.not_eq_true _ ▸ not_isUsed_of_isAvailable havailable), List.map_cons,
          List.map_cons, List.sum_cons, List.sum_cons, ← hrest]
        ring
      · have hnot : ¬ isAvailable credit = true := by
          intro havailable
          rw [not_isUsed_of_isAvailable havailable] at hused
          cases hused
        rw [List.filter_cons_of_neg hnot, List.filter_cons_of_pos hused, List.map_cons,
          List.map_cons, List.sum_cons, List.sum_cons, ← hrest]
        ring

theorem conserved_iff : Conserved account ↔ Kept account :=
  ⟨fun hconserved => hconserved.kept, fun hkept => ⟨hkept, balanced_of_kept hkept⟩⟩

/-! ## Steps -/

/-- A credit is kept when its invoice stands as before. -/
theorem kept_of_stands {invoices invoices' : List BilledInvoice}
    (hstands : ∀ (position : ℕ) (invoice : BilledInvoice), invoices[position]? = some invoice →
      invoice.status ≠ .void →
        ∃ later : BilledInvoice, invoices'[position]? = some later ∧ later.status ≠ .void)
    (hkept : isAvailable credit = true ∨ isUsed invoices credit = true) :
    isAvailable credit = true ∨ isUsed invoices' credit = true := by
  rcases hkept with havailable | hused
  · exact Or.inl havailable
  · obtain ⟨happlied, position, invoice, htarget, hinvoice, hstanding⟩ := isUsed_iff.mp hused
    obtain ⟨later, hlater, hstanding⟩ := hstands position invoice hinvoice hstanding
    exact Or.inr (isUsed_iff.mpr ⟨happlied, position, later, htarget, hlater, hstanding⟩)

theorem closedInvoice_status {version : PaygPlanVersion} {invoice closed : BilledInvoice}
    {summaries : List StallUsageSummary} {tax : TaxPolicy.BillingTax} {lineTaxes : List ℤ}
    {selected : List CreditAdjustment} {now : Timestamp}
    (hok : closedInvoice version invoice summaries tax lineTaxes selected now = .ok closed) :
    closed.status = .opened := by
  simp only [closedInvoice, bind_eq_ok, pure_eq_ok] at hok
  obtain ⟨_, -, _, -, _, -, -, -, -, -, rfl⟩ := hok
  rfl

/-- Retargeting keeps a credit at the closed invoice, or frees it, or leaves it alone. -/
theorem kept_retarget {invoices : List BilledInvoice} {invoiceId : ℕ}
    {invoice closed : BilledInvoice} {selected : List CreditAdjustment}
    (hinvoice : invoices[invoiceId]? = some invoice) (hclosed : closed.status = .opened)
    (hkept : isAvailable credit = true ∨ isUsed invoices credit = true) :
    isAvailable (retarget invoiceId selected credit) = true
      ∨ isUsed (invoices.set invoiceId closed) (retarget invoiceId selected credit) = true := by
  obtain ⟨hlt, -⟩ := List.getElem?_eq_some_iff.mp hinvoice
  have hset : (invoices.set invoiceId closed)[invoiceId]? = some closed :=
    List.getElem?_set_self hlt
  have hopen : closed.status ≠ .void := by
    rw [hclosed]
    decide
  unfold retarget
  split
  · exact Or.inr (isUsed_iff.mpr ⟨rfl, invoiceId, closed, rfl, hset, hopen⟩)
  · split
    · exact Or.inl rfl
    · apply kept_of_stands _ hkept
      intro position found hfound hstands
      by_cases hsame : position = invoiceId
      · subst hsame
        exact ⟨closed, hset, hopen⟩
      · exact ⟨found, (List.getElem?_set_ne (Ne.symm hsame)).trans hfound, hstands⟩

theorem kept_closeBillingPeriod {input : CloseInput} (hkept : Kept account)
    (hok : closeBillingPeriod premises account input = .ok account') : Kept account' := by
  rcases closeBillingPeriod_cases hok with ⟨-, rfl⟩
    | ⟨base, invoiceId, invoice, version, tax, lineTaxes, closed, -, hopens, hcloses⟩
  · exact hkept
  · intro credit hcredit
    rw [hcloses.credits, hopens.credits] at hcredit
    obtain ⟨before, hbefore, rfl⟩ := List.mem_map.mp hcredit
    rw [hcloses.invoices]
    apply kept_retarget hopens.getElem? (closedInvoice_status hcloses.written)
    apply kept_of_stands _ (hkept before hbefore)
    intro position found hfound hstands
    cases hopens with
    | found => exact ⟨found, hfound, hstands⟩
    | created =>
        obtain ⟨hlt, -⟩ := List.getElem?_eq_some_iff.mp hfound
        exact ⟨found, (List.getElem?_append_left hlt).trans hfound, hstands⟩

theorem kept_recordBillableOrderFullRefund {billingPeriod : ℤ} (hkept : Kept account)
    (hok : recordBillableOrderFullRefund account billingPeriod = .ok account') : Kept account' := by
  unfold recordBillableOrderFullRefund at hok
  split at hok
  · cases hok
    exact hkept
  · simp only [bind_eq_ok, pure_eq_ok] at hok
    obtain ⟨invoice, -, -, -, rfl⟩ := hok
    intro credit hcredit
    rcases List.mem_append.mp hcredit with hcredit | hcredit
    · exact hkept credit hcredit
    · rw [List.mem_singleton.mp hcredit]
      exact Or.inl rfl

theorem kept_issueTaxDocument (hkept : Kept account) (invoiceId : ℕ) :
    Kept (issueTaxDocument account invoiceId) := by
  intro credit hcredit
  apply kept_of_stands _ (hkept credit hcredit)
  intro position invoice hinvoice hstands
  simp only [issueTaxDocument, List.getElem?_modify, hinvoice]
  split
  · exact ⟨_, rfl, hstands⟩
  · exact ⟨_, rfl, hstands⟩

/-- Only voiding takes away an invoice that stands. -/
theorem stands_of_worked {payments : List ManualPaymentRecord} {command : WorkflowCommand}
    {position : ℕ} {invoice later : Invoice}
    (hworked : Worked payments command position invoice later)
    (hnot : command ≠ .voidInvoice position) (hstands : invoice.status ≠ .void) :
    later.status ≠ .void := by
  cases hworked with
  | same => exact hstands
  | lined => exact InvoiceStatus.noConfusion
  | credited =>
      unfold creditedInvoice
      dsimp only
      split
      · exact InvoiceStatus.noConfusion
      · exact hstands
  | voided hcommand => exact absurd hcommand hnot
  | overdue => exact InvoiceStatus.noConfusion

/-- An invoice after a command of the workflow, given the one before. -/
theorem exists_later {command : WorkflowCommand} {after : BillingAccount}
    (hok : billingOutcome account.plain command.command = .ok after) {position : ℕ}
    {invoice : BilledInvoice} (hinvoice : account.invoices[position]? = some invoice) :
    ∃ later changed, (account.adopt after).invoices[position]? = some later
      ∧ later = invoice.adopt changed
      ∧ Worked account.payments command position invoice.plain changed := by
  obtain ⟨hlt, -⟩ := List.getElem?_eq_some_iff.mp hinvoice
  rw [← length_adopt hok] at hlt
  obtain ⟨found, changed, hfound, hlater, hworked⟩ :=
    exists_worked hok (List.getElem?_eq_getElem hlt)
  cases hinvoice.symm.trans hfound
  exact ⟨_, changed, List.getElem?_eq_getElem hlt, hlater, hworked⟩

/-- A command that voids no invoice keeps the credits. -/
theorem kept_workflow {command : WorkflowCommand} {after : BillingAccount} (hkept : Kept account)
    (hok : billingOutcome account.plain command.command = .ok after)
    (hspares : ∀ credit ∈ account.credits, ∀ position, credit.status = .applied →
      credit.targetInvoiceId = some position → command ≠ .voidInvoice position) :
    Kept (account.adopt after) := by
  intro credit hcredit
  rcases hkept credit hcredit with havailable | hused
  · exact Or.inl havailable
  · obtain ⟨happlied, position, invoice, htarget, hinvoice, hstands⟩ := isUsed_iff.mp hused
    obtain ⟨later, changed, hlater, rfl, hworked⟩ := exists_later hok hinvoice
    have hnot := hspares credit hcredit position happlied htarget
    exact Or.inr (isUsed_iff.mpr ⟨happlied, position, _, htarget, hlater,
      stands_of_worked hworked hnot hstands⟩)

/-! ## Voided invoices -/

theorem paygStep_of_ok {command : PaygCommand}
    (hok : paygOutcome premises account command = .ok account') :
    paygStep premises account command = account' := by
  rw [paygStep, hok]

theorem paygStep_of_error {command : PaygCommand} {error : PaygBillingError}
    (herror : paygOutcome premises account command = .error error) :
    paygStep premises account command = account := by
  rw [paygStep, herror]

theorem workflow_eq_ok {command : WorkflowCommand} :
    paygOutcome premises account (.workflow command) = .ok account' ↔
      ∃ after, billingOutcome account.plain command.command = .ok after
        ∧ account.adopt after = account' := by
  change Except.mapError _ (Except.map _ _) = _ ↔ _
  rw [mapError_eq_ok]
  constructor
  · intro hok
    obtain ⟨after, hafter, hadopt⟩ := exists_of_map_eq_ok hok
    exact ⟨after, hafter, hadopt⟩
  · rintro ⟨after, hafter, rfl⟩
    rw [hafter]
    rfl

/-- A voided invoice loses the credits that it has used. -/
theorem kept_voidInvoice_iff (hkept : Kept account) {invoiceId : ℕ} :
    Kept (paygStep premises account (.workflow (.voidInvoice invoiceId)))
      ↔ SparesCredits account (.workflow (.voidInvoice invoiceId)) := by
  cases hresult : paygOutcome premises account (.workflow (.voidInvoice invoiceId)) with
  | error error =>
      rw [paygStep_of_error hresult]
      refine iff_of_true hkept fun invoice hinvoice heditable hunpaid hsettled => ?_
      have hplain : account.plain.invoices[invoiceId]? = some invoice.plain := by
        change (account.invoices.map _)[invoiceId]? = _
        rw [List.getElem?_map, hinvoice]
        rfl
      have hok : paygOutcome premises account (.workflow (.voidInvoice invoiceId)) = .ok _ :=
        workflow_eq_ok.mpr ⟨_, voidInvoice_eq_ok.mpr
          ⟨invoice.plain, hplain, heditable, hunpaid, hsettled, rfl⟩, rfl⟩
      rw [hresult] at hok
      cases hok
  | ok account' =>
      rw [paygStep_of_ok hresult]
      obtain ⟨after, hok, rfl⟩ := workflow_eq_ok.mp hresult
      constructor
      · intro hlater invoice hinvoice _ _ _ credit hcredit
        rintro ⟨happlied, htarget⟩
        obtain ⟨changed, hchanged, -, -, -, hafter⟩ := voidInvoice_eq_ok.mp hok
        have hvoided : ∀ later, (account.adopt after).invoices[invoiceId]? = some later →
            later.status = .void := by
          intro later hlater
          obtain ⟨found, work, hfound, hwork, hadopt⟩ := List.getElem?_zipWith_eq_some.mp hlater
          obtain ⟨hlt, -⟩ := List.getElem?_eq_some_iff.mp hchanged
          rw [← hafter] at hwork
          change (account.plain.invoices.set invoiceId _)[invoiceId]? = _ at hwork
          rw [List.getElem?_set_self hlt] at hwork
          cases hwork
          rw [← hadopt]
          rfl
        rcases hlater credit hcredit with havailable | hused
        · rw [isAvailable, decide_eq_true_eq, happlied] at havailable
          cases havailable
        · obtain ⟨-, position, later, hposition, hlater, hstands⟩ := isUsed_iff.mp hused
          cases htarget.symm.trans hposition
          exact hstands (hvoided later hlater)
      · intro hspares
        apply kept_workflow hkept hok
        rintro credit hcredit position happlied htarget hcommand
        cases hcommand
        obtain ⟨plain, hplain, heditable, hunpaid, hsettled, -⟩ := voidInvoice_eq_ok.mp hok
        change (account.invoices.map _)[invoiceId]? = _ at hplain
        rw [List.getElem?_map] at hplain
        obtain ⟨invoice, hinvoice, rfl⟩ := Option.map_eq_some_iff.mp hplain
        exact hspares invoice hinvoice heditable hunpaid hsettled credit hcredit
          ⟨happlied, htarget⟩

/-- A step keeps the credits exactly when it spares them. -/
theorem kept_step_iff (hkept : Kept account) (command : PaygCommand) :
    Kept (paygStep premises account command) ↔ SparesCredits account command := by
  have hstep : (∀ account', paygOutcome premises account command = .ok account' →
      Kept account') → Kept (paygStep premises account command) := by
    intro hall
    cases hresult : paygOutcome premises account command with
    | error error =>
        rw [paygStep_of_error hresult]
        exact hkept
    | ok account' =>
        rw [paygStep_of_ok hresult]
        exact hall account' hresult
  have hworkflow : ∀ command : WorkflowCommand, (∀ position, command ≠ .voidInvoice position) →
      ∀ account', paygOutcome premises account (.workflow command) = .ok account' →
        Kept account' := by
    intro command hnot account' hok
    obtain ⟨after, hafter, rfl⟩ := workflow_eq_ok.mp hok
    exact kept_workflow hkept hafter fun _ _ position _ _ => hnot position
  cases command with
  | close input =>
      exact iff_of_true (hstep fun _ hok => kept_closeBillingPeriod hkept hok) trivial
  | fullRefund billingPeriod =>
      exact iff_of_true (hstep fun _ hok => kept_recordBillableOrderFullRefund hkept hok) trivial
  | issueTaxDocument invoiceId =>
      apply iff_of_true (hstep _) trivial
      intro account' hok
      cases hok
      exact kept_issueTaxDocument hkept invoiceId
  | workflow command =>
      cases command with
      | voidInvoice invoiceId => exact kept_voidInvoice_iff hkept
      | addInvoiceLine => exact iff_of_true (hstep (hworkflow _ (fun _ => nofun))) trivial
      | submitManualPayment => exact iff_of_true (hstep (hworkflow _ (fun _ => nofun))) trivial
      | verifyManualPayment => exact iff_of_true (hstep (hworkflow _ (fun _ => nofun))) trivial
      | rejectManualPayment => exact iff_of_true (hstep (hworkflow _ (fun _ => nofun))) trivial
      | markOverdue => exact iff_of_true (hstep (hworkflow _ (fun _ => nofun))) trivial

/-- No credit is ever lost, exactly when no invoice is voided that has used one. -/
theorem credits_conserved_iff (planInvoices : List Invoice) (effectiveDate : ℤ)
    (commands : List PaygCommand) :
    (∀ before, before <+: commands →
        Conserved (exec (paygStep premises) (.opened planInvoices effectiveDate) before))
      ↔ Safely (paygStep premises) SparesCredits (.opened planInvoices effectiveDate)
          commands := by
  have hstart : Kept (.opened planInvoices effectiveDate) :=
    fun _ hmem => absurd hmem List.not_mem_nil
  rw [forall_prefix_iff, and_iff_right (conserved_iff.mpr hstart)]
  exact safely_congr Kept
    (fun _ command hkept => conserved_iff.trans (kept_step_iff hkept command))
    (fun _ command hkept hspares => (kept_step_iff hkept command).mpr hspares) hstart commands

/-! ## A voided invoice with a credit -/

def sampleCycle : BillingCycle where
  billingTimezone := "Asia/Taipei".toList
  billingCycleAnchorDay := 1
  billingPeriodType := .calendarMonth
  invoiceCloseDelayHours := some 24

def sampleVersion : PaygPlanVersion where
  id := 1
  planCode := "PAYG".toList
  pricingMode := .usagePerStallCapped
  currency := "TWD".toList
  basePrice := 0
  usageUnitPrice := 1
  usageMetric := some "NET_BILLABLE_COMPLETED_ORDER".toList
  usageScope := some "STALL".toList
  monthlyCapAmount := some 1499
  minimumCharge := 0
  cycle := sampleCycle
  taxPolicy := {
    treatment := .exempt
    rateBps := none
    jurisdiction := some "TW".toList
    roundingMode := .halfUp
    roundingScope := .invoice
    capTaxBasis := none
    taxDocumentRequired := false }
  isSealed := true
  contractHash := some "0f".toList

def samplePremises : Premises where
  timeZone _ := some (.switching 0 28_800_000 28_800_000 (by decide) (by decide) (by decide)
    (by decide))
  calculatePaygContractHash _ := "0f".toList

/-- A closing of a month of 2026 on the second day of the next month. -/
def sampleClose (month finalCharge : ℕ) : CloseInput where
  experience := ⟨true, false, true⟩
  subscription := some ⟨sampleVersion, sampleCycle,
    some (UtcDate.dateUTC 2026 8 1 - 28_800_000)⟩
  billingPeriod := UtcDate.utcDay 2026 (month - 1) 1
  summaries := [⟨1, "A".toList, finalCharge, Int.natCast_nonneg finalCharge⟩]
  now := UtcDate.dateUTC 2026 month 2

def refundThenVoid : List PaygCommand :=
  [.close (sampleClose 9 10),
    .workflow (.submitManualPayment ⟨0, .bankTransfer, 10, "payment".toList⟩),
    .workflow (.verifyManualPayment 0),
    .fullRefund (UtcDate.utcDay 2026 8 1),
    .close (sampleClose 10 5),
    .workflow (.voidInvoice 1)]

example : ((exec (paygStep samplePremises) (.opened [] (UtcDate.utcDay 2026 8 1))
    refundThenVoid).credits.all fun credit => isAvailable credit || isUsed
      (exec (paygStep samplePremises) (.opened [] (UtcDate.utcDay 2026 8 1))
        refundThenVoid).invoices credit) = false := by
  decide +kernel

end Stallorder.ConservedCredits
