import Stallorder.Billing.PaygClosing
import Stallorder.Billing.SettledInvoices

/-!
# What the commands of a usage account can do

A command of the workflow changes at most the status, the totals and the last
line of an invoice.  A closing writes one invoice, which it finds editable or
creates, and retargets the credits.
-/

namespace Stallorder.PaygClosing

open OrderContract InvoiceWorkflow TaxPolicy Checks

/-! ## The workflow -/

section Workflow

/-- What the workflow can make of the invoice at a position. -/
inductive Worked (payments : List ManualPaymentRecord) (command : WorkflowCommand)
    (position : ℕ) (invoice : Invoice) : Invoice → Prop
  | same : Worked payments command position invoice invoice
  | lined {catalog : List AddOn} {input : LineInput} {line : InvoiceLineItem}
      {linedInvoice : Invoice} {now : Timestamp}
      (hcommand : command = .addInvoiceLine position catalog input now)
      (heditable : isEditable invoice.status = true) (hline : inputLine catalog input = .ok line)
      (hlined : insertLine invoice line = .ok linedInvoice) :
      Worked payments command position invoice (issue linedInvoice now)
  | credited {amount : ℤ} (hcheck : invoiceCheck (creditedInvoice invoice amount) = true) :
      Worked payments command position invoice (creditedInvoice invoice amount)
  | voided (hcommand : command = .voidInvoice position)
      (heditable : isEditable invoice.status = true) (hunpaid : invoice.amountPaid ≤ 0)
      (hsettled : payments.any (isPendingOn position) = false) :
      Worked payments command position invoice { invoice with status := .void }
  | overdue (hopened : invoice.status = .opened) :
      Worked payments command position invoice { invoice with status := .overdue }

variable {account after : BillingAccount} {command : WorkflowCommand}

theorem voidInvoice_eq_ok {invoiceId : ℕ} : voidInvoice account invoiceId = .ok after ↔
    ∃ invoice, account.invoices[invoiceId]? = some invoice ∧ isEditable invoice.status = true
      ∧ invoice.amountPaid ≤ 0 ∧ account.payments.any (isPendingOn invoiceId) = false
      ∧ { account with
        invoices := account.invoices.set invoiceId { invoice with status := .void } } = after := by
  simp only [voidInvoice, bind_eq_ok, orFail_eq_ok, failWhen_eq_ok, pure_eq_ok,
    Bool.or_eq_false_iff, Bool.not_eq_false', decide_eq_false_iff_not, not_lt, exists_const,
    and_assoc]

/-- A changed invoice is the one that has been replaced. -/
theorem worked_set {payments : List ManualPaymentRecord} {invoices : List Invoice}
    {position other : ℕ} {invoice changed found later : Invoice}
    (hinvoice : invoices[position]? = some invoice)
    (hchanged : Worked payments command position invoice changed)
    (hfound : invoices[other]? = some found)
    (hlater : (invoices.set position changed)[other]? = some later) :
    Worked payments command other found later := by
  by_cases hsame : position = other
  · subst hsame
    obtain ⟨hlt, -⟩ := List.getElem?_eq_some_iff.mp hinvoice
    rw [List.getElem?_set_self hlt] at hlater
    cases hlater
    cases hinvoice.symm.trans hfound
    exact hchanged
  · rw [List.getElem?_set_ne hsame] at hlater
    cases hfound.symm.trans hlater
    exact .same

/-- A command of the workflow keeps the invoices at their positions. -/
theorem worked_of_workflow (hok : billingOutcome account command.command = .ok after) :
    after.invoices.length = account.invoices.length
      ∧ ∀ position invoice later, account.invoices[position]? = some invoice →
        after.invoices[position]? = some later →
          Worked account.payments command position invoice later := by
  have hunchanged : after.invoices = account.invoices →
      after.invoices.length = account.invoices.length
        ∧ ∀ position invoice later, account.invoices[position]? = some invoice →
          after.invoices[position]? = some later →
            Worked account.payments command position invoice later := by
    intro hsame
    rw [hsame]
    refine ⟨rfl, fun position invoice later hinvoice hlater => ?_⟩
    cases hinvoice.symm.trans hlater
    exact .same
  cases command with
  | addInvoiceLine invoiceId catalog input now =>
      obtain ⟨invoice, hinvoice, heditable, line, hline, lined, hlined, rfl⟩ :=
        SettledInvoices.addInvoiceLine_eq_ok.mp hok
      exact ⟨List.length_set, fun _ _ _ => worked_set hinvoice
        (.lined rfl heditable hline hlined)⟩
  | submitManualPayment input =>
      apply hunchanged
      rcases SettledInvoices.submitManualPayment_eq_ok hok with rfl | ⟨_, _, -, -, -, rfl⟩
      · rfl
      · rfl
  | verifyManualPayment paymentId =>
      rcases SettledInvoices.verifyManualPayment_eq_ok hok with rfl
        | ⟨payment, invoice, -, -, hinvoice, hcheck, rfl⟩
      · exact hunchanged rfl
      · exact ⟨List.length_set, fun _ _ _ => worked_set hinvoice (.credited hcheck)⟩
  | rejectManualPayment paymentId =>
      apply hunchanged
      simp only [WorkflowCommand.command, billingOutcome, rejectManualPayment, bind_eq_ok,
        pure_eq_ok] at hok
      obtain ⟨_, -, -, -, rfl⟩ := hok
      rfl
  | voidInvoice invoiceId =>
      obtain ⟨invoice, hinvoice, heditable, hunpaid, hsettled, rfl⟩ := voidInvoice_eq_ok.mp hok
      exact ⟨List.length_set, fun _ _ _ => worked_set hinvoice
        (.voided rfl heditable hunpaid hsettled)⟩
  | markOverdue now =>
      cases hok
      refine ⟨List.length_map _, fun position invoice later hinvoice hlater => ?_⟩
      rw [markOverdue, List.getElem?_map, hinvoice] at hlater
      cases hlater
      unfold overdueInvoice
      split
      · next hdue =>
          rw [Bool.and_eq_true, decide_eq_true_eq] at hdue
          exact .overdue hdue.1
      · exact .same

/-- An invoice after a command of the workflow is one from before, and worked on. -/
theorem exists_worked {account : PaygAccount}
    (hok : billingOutcome account.plain command.command = .ok after) {position : ℕ}
    {later : BilledInvoice} (hlater : (account.adopt after).invoices[position]? = some later) :
    ∃ invoice changed, account.invoices[position]? = some invoice ∧ later = invoice.adopt changed
      ∧ Worked account.payments command position invoice.plain changed := by
  obtain ⟨hlength, hworked⟩ := worked_of_workflow hok
  obtain ⟨invoice, changed, hinvoice, hchanged, hadopt⟩ :=
    List.getElem?_zipWith_eq_some.mp hlater
  refine ⟨invoice, changed, hinvoice, hadopt.symm, hworked position _ changed ?_ hchanged⟩
  change (account.invoices.map _)[position]? = _
  rw [List.getElem?_map, hinvoice]
  rfl

theorem length_adopt {account : PaygAccount}
    (hok : billingOutcome account.plain command.command = .ok after) :
    (account.adopt after).invoices.length = account.invoices.length := by
  obtain ⟨hlength, -⟩ := worked_of_workflow hok
  change (List.zipWith _ _ _).length = _
  rw [List.length_zipWith, hlength]
  change min _ (account.invoices.map _).length = _
  rw [List.length_map, min_self]

end Workflow

/-! ## Closings -/

section Closings

variable {premises : Premises} {account account' base : PaygAccount}
variable {version : PaygPlanVersion} {invoiceId : ℕ} {invoice closed : BilledInvoice}
variable {summaries : List StallUsageSummary} {now : Timestamp} {input : CloseInput}

/-- The invoice that a closing writes: one that it has found, or a new one. -/
inductive Opens (account : PaygAccount) : PaygAccount → ℕ → BilledInvoice → Prop
  | found {invoiceId : ℕ} {invoice : BilledInvoice}
      (hinvoice : account.invoices[invoiceId]? = some invoice)
      (heditable : isEditable invoice.status = true) : Opens account account invoiceId invoice
  | created {invoice : BilledInvoice} (hlines : invoice.lineItems = []) :
      Opens account { account with invoices := account.invoices ++ [invoice] }
        account.invoices.length invoice

theorem Opens.getElem? (hopens : Opens account base invoiceId invoice) :
    base.invoices[invoiceId]? = some invoice := by
  cases hopens with
  | found hinvoice => exact hinvoice
  | created => exact List.getElem?_concat_length

theorem Opens.credits (hopens : Opens account base invoiceId invoice) :
    base.credits = account.credits := by
  cases hopens with
  | found => rfl
  | created => rfl

/-- The other invoices stay. -/
theorem Opens.getElem?_of_ne (hopens : Opens account base invoiceId invoice) {position : ℕ}
    (hne : position ≠ invoiceId) : base.invoices[position]? = account.invoices[position]? := by
  cases hopens with
  | found => rfl
  | created =>
      rcases lt_or_gt_of_ne hne with hlt | hgt
      · exact List.getElem?_append_left hlt
      · rw [List.getElem?_eq_none hgt.le, List.getElem?_eq_none]
        rw [List.length_append, List.length_singleton]
        omega

theorem advancePeriod_fields (account : PaygAccount) (periodStart periodEnd : ℤ) :
    (advancePeriod account periodStart periodEnd).invoices = account.invoices
      ∧ (advancePeriod account periodStart periodEnd).credits = account.credits
      ∧ (advancePeriod account periodStart periodEnd).payments = account.payments := by
  unfold advancePeriod
  split
  · exact ⟨rfl, rfl, rfl⟩
  · exact ⟨rfl, rfl, rfl⟩

/-- What a closing writes. -/
structure Closes (base : PaygAccount) (invoiceId : ℕ) (invoice : BilledInvoice)
    (version : PaygPlanVersion) (summaries : List StallUsageSummary) (now : Timestamp)
    (tax : BillingTax) (lineTaxes : List ℤ) (closed : BilledInvoice) (account' : PaygAccount) :
    Prop where
  taxed : usageTax version.taxPolicy (summaries.map (·.finalCharge)) = .ok tax
  extracted : extractedTaxes version.taxPolicy (summaries.map (·.finalCharge)) tax.taxAmount
    = .ok lineTaxes
  written : closedInvoice version invoice summaries tax lineTaxes
    (selectedCredits base invoiceId invoice.billingPeriodStart tax.totalAmount) now = .ok closed
  invoices : account'.invoices = base.invoices.set invoiceId closed
  credits : account'.credits = base.credits.map (retarget invoiceId
    (selectedCredits base invoiceId invoice.billingPeriodStart tax.totalAmount))

theorem closes_of_closeInvoice
    (hok : closeInvoice base version invoiceId invoice summaries now = .ok account') :
    ∃ tax lineTaxes closed,
      Closes base invoiceId invoice version summaries now tax lineTaxes closed account' := by
  simp only [closeInvoice, bind_eq_ok, pure_eq_ok, mapError_eq_ok] at hok
  obtain ⟨tax, htax, lineTaxes, hextracted, closed, hclosed, rfl⟩ := hok
  exact ⟨tax, lineTaxes, closed, htax, hextracted, hclosed, (advancePeriod_fields _ _ _).1,
    (advancePeriod_fields _ _ _).2.1⟩

/-- The invoice that a closing writes if it goes through: none if that is settled. -/
def targetInvoice (account : PaygAccount) (input : CloseInput) : Option ℕ :=
  let periodStart := firstOfMonth input.billingPeriod
  match findInvoice account periodStart (addUtcMonths periodStart 1) with
  | some invoiceId =>
      if account.invoices[invoiceId]?.all isSettled then none else some invoiceId
  | none => some account.invoices.length

theorem targetInvoice_of_found {invoiceId : ℕ} (hfind : findInvoice account
    (firstOfMonth input.billingPeriod) (addUtcMonths (firstOfMonth input.billingPeriod) 1)
      = some invoiceId) :
    targetInvoice account input
      = if account.invoices[invoiceId]?.all isSettled then none else some invoiceId := by
  simp only [targetInvoice, hfind]

theorem targetInvoice_of_new (hfind : findInvoice account (firstOfMonth input.billingPeriod)
    (addUtcMonths (firstOfMonth input.billingPeriod) 1) = none) :
    targetInvoice account input = some account.invoices.length := by
  simp only [targetInvoice, hfind]

/-- A closing changes nothing, or it writes one invoice. -/
theorem closeBillingPeriod_cases (hok : closeBillingPeriod premises account input = .ok account') :
    (targetInvoice account input = none ∧ account' = account)
      ∨ ∃ base invoiceId invoice version tax lineTaxes closed,
        targetInvoice account input = some invoiceId ∧ Opens account base invoiceId invoice ∧
          Closes base invoiceId invoice version input.summaries input.now tax lineTaxes closed
            account' := by
  simp only [closeBillingPeriod, bind_eq_ok] at hok
  obtain ⟨-, -, subscription, -, -, -, hok⟩ := hok
  split at hok
  · next invoiceId hfind =>
      rw [targetInvoice_of_found hfind]
      simp only [bind_eq_ok, orFail_eq_ok, failWhen_eq_ok] at hok
      obtain ⟨invoice, hinvoice, -, -, hok⟩ := hok
      rw [hinvoice, Option.all_some]
      split at hok
      · next hsettled =>
          simp only [bind_eq_ok, pure_eq_ok] at hok
          obtain ⟨-, -, rfl⟩ := hok
          exact Or.inl ⟨if_pos hsettled, rfl⟩
      · next hsettled =>
          simp only [bind_eq_ok] at hok
          obtain ⟨-, -, hok⟩ := hok
          obtain ⟨tax, lineTaxes, closed, hcloses⟩ := closes_of_closeInvoice hok
          have heditable : isEditable invoice.status = true := by
            rw [isSettled, Bool.or_eq_true, not_or, Bool.not_eq_true', Bool.not_eq_false]
              at hsettled
            exact hsettled.1
          exact Or.inr ⟨account, invoiceId, invoice, _, tax, lineTaxes, closed, if_neg hsettled,
            .found hinvoice heditable, hcloses⟩
  · next hfind =>
      rw [targetInvoice_of_new hfind]
      simp only [bind_eq_ok] at hok
      obtain ⟨start, -, hok⟩ := hok
      obtain ⟨tax, lineTaxes, closed, hcloses⟩ := closes_of_closeInvoice hok
      exact Or.inr ⟨_, _, _, _, tax, lineTaxes, closed, rfl, .created rfl, hcloses⟩

end Closings

end Stallorder.PaygClosing
