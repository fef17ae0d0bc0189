import Stallorder.Billing.ConservedCredits
import Stallorder.Billing.InclusiveTax

/-!
# Invoices that foot

The lines that a closing writes add up to the totals that it writes, and every
credit that is applied has one line.  Closing again leaves the lines that were
added by hand but writes its totals without them, so an invoice with a credit
that was added by hand no longer foots.
-/

namespace Stallorder.FootedInvoices

open OrderContract InvoiceWorkflow PaygClosing TaxPolicy Allocation Checks Run

variable {premises : Premises} {account account' base : PaygAccount}
variable {invoice closed : BilledInvoice} {lines : List BilledLine}

/-! ## Totals of lines -/

def typeTotal (itemType : LineItemType) (lines : List BilledLine) : ℤ :=
  ((lines.filter (·.itemType = itemType)).map (·.subtotal)).sum

/-- What is left on the invoice when a closing deletes its lines. -/
def handLines (lines : List BilledLine) : List BilledLine := lines.filter (!isClosingLine ·)

def linesAt (account : PaygAccount) (invoiceId : ℕ) : List BilledLine :=
  (account.invoices[invoiceId]?.map (·.lineItems)).getD []

structure Foots (invoice : BilledInvoice) : Prop where
  subtotal : invoice.subtotal = typeTotal .paygUsage invoice.lineItems
  total : invoice.totalAmount
    = invoice.subtotal + invoice.taxAmount - typeTotal .credit invoice.lineItems
  due : invoice.amountDue = invoice.totalAmount - invoice.amountPaid
  due_nonneg : 0 ≤ invoice.amountDue
  total_nonneg : 0 ≤ invoice.totalAmount

/-- How many credit lines of the invoice are for an adjustment. -/
def references (invoice : BilledInvoice) (creditId : ℕ) : ℕ :=
  invoice.lineItems.countP fun line => line.itemType = .credit && line.referenceId = some creditId

/-- Every credit is free, or applied to one invoice, and has its line there only. -/
structure AppliedOnce (account : PaygAccount) : Prop where
  named : account.credits.map (·.id) = List.range account.credits.length
  kept : ∀ credit ∈ account.credits, credit.status = .unapplied
    ∨ ∃ position invoice, credit.status = .applied ∧ credit.targetInvoiceId = some position
      ∧ account.invoices[position]? = some invoice
  lined : ∀ credit ∈ account.credits, ∀ (position : ℕ) (invoice : BilledInvoice),
    account.invoices[position]? = some invoice → references invoice credit.id
      = if credit.status = .applied ∧ credit.targetInvoiceId = some position then 1 else 0

/-! ## Sequences of closings -/

def closeAll (premises : Premises) (account : PaygAccount) (inputs : List CloseInput) :
    PaygAccount :=
  exec (paygStep premises) account (inputs.map .close)

/-- The invoice that a closing writes when it goes through. -/
def writtenInvoice (premises : Premises) (account : PaygAccount) (input : CloseInput) :
    Option ℕ :=
  if (closeBillingPeriod premises account input).isOk then targetInvoice account input else none

def written (premises : Premises) : PaygAccount → List CloseInput → List ℕ
  | _, [] => []
  | account, input :: inputs =>
      (writtenInvoice premises account input).toList
        ++ written premises (paygStep premises account (.close input)) inputs

/-- The invoices that have been closed foot, and credits are applied once. -/
structure ClosedSoundly (premises : Premises) (account : PaygAccount)
    (inputs : List CloseInput) : Prop where
  foots : ∀ invoiceId ∈ written premises account inputs, ∀ invoice,
    (closeAll premises account inputs).invoices[invoiceId]? = some invoice → Foots invoice
  applied : AppliedOnce (closeAll premises account inputs)

/-! ## The tax of the lines -/

section Tax

variable {policy : BillingTaxPolicy} {charges taxes : List ℤ} {tax : BillingTax}

theorem sum_zipWith_sub_zero (charges : List ℤ) :
    (List.zipWith (fun charge tax => charge - tax) charges (charges.map fun _ => 0)).sum
      = charges.sum := by
  rw [sum_zipWith_sub (List.length_map _)]
  simp

/-- The usage lines add up to the subtotal. -/
theorem usage_adds_up (hnonneg : ∀ charge ∈ charges, 0 ≤ charge)
    (htax : usageTax policy charges = .ok tax)
    (hextracted : extractedTaxes policy charges tax.taxAmount = .ok taxes) :
    taxes.length = charges.length
      ∧ (List.zipWith (fun charge tax => charge - tax) charges taxes).sum = tax.subtotal
      ∧ tax.subtotal + tax.taxAmount = tax.totalAmount := by
  have hplain := htax
  simp only [usageTax, calculateBillingTax, bind_eq_ok] at hplain
  obtain ⟨-, -, ⟨⟩, haccepted, amounts, -, hplain⟩ := hplain
  cases htreatment : policy.treatment with
  | unconfigured =>
      rw [htreatment] at hplain
      cases hplain
  | exempt =>
      rw [htreatment] at hplain
      rw [extractedTaxes, htreatment] at hextracted
      cases hplain
      cases hextracted
      exact ⟨List.length_map _, sum_zipWith_sub_zero charges, add_zero _⟩
  | outOfScope =>
      rw [htreatment] at hplain
      rw [extractedTaxes, htreatment] at hextracted
      cases hplain
      cases hextracted
      exact ⟨List.length_map _, sum_zipWith_sub_zero charges, add_zero _⟩
  | exclusive =>
      rw [htreatment] at hplain
      rw [extractedTaxes, htreatment] at hextracted
      obtain ⟨added, -, hpure⟩ := bind_eq_ok.mp hplain
      cases pure_eq_ok.mp hpure
      cases hextracted
      exact ⟨List.length_map _, sum_zipWith_sub_zero charges, rfl⟩
  | inclusive =>
      have hinclusive : AcceptedInclusive policy := ⟨htreatment, haccepted⟩
      rw [extractedTaxes, htreatment] at hextracted
      cases hscope : policy.roundingScope with
      | invoice =>
          obtain ⟨-, hproduct, rfl⟩ := (hinclusive.usageTax_invoice_iff hscope hnonneg).mp htax
          rw [calculateInclusiveLineTaxes, hscope] at hextracted
          cases hextracted
          have hamount : (includedBillingTax policy charges.sum [charges.sum]).taxAmount
              = taxWithin policy charges.sum := add_zero _
          refine ⟨length_allocate _ _ _, ?_, sub_add_cancel _ _⟩
          rw [sum_zipWith_sub (length_allocate _ _ _), hamount,
            hinclusive.sum_allocate_taxWithin hnonneg hproduct, ← hamount]
          rfl
      | stallLine =>
          obtain ⟨-, -, rfl⟩ := hinclusive.usageTax_stallLine hscope hnonneg htax
          obtain ⟨-, rfl⟩ := (hinclusive.stallLineTaxes_eq_ok_iff hscope hnonneg).mp hextracted
          exact ⟨List.length_map _, sum_zipWith_sub (List.length_map _), sub_add_cancel _ _⟩

end Tax

/-! ## The lines that a closing writes -/

section Lines

variable {version : PaygPlanVersion} {summaries : List StallUsageSummary} {tax : BillingTax}
variable {lineTaxes : List ℤ} {selected : List CreditAdjustment} {now : Timestamp}

theorem recalculate_lineItems {recalculated : BilledInvoice}
    (hok : recalculate invoice = .ok recalculated) :
    recalculated.lineItems = invoice.lineItems := by
  simp only [recalculate, bind_eq_ok, pure_eq_ok] at hok
  obtain ⟨_, -, rfl⟩ := hok
  rfl

theorem insertLines_lineItems {later : BilledInvoice} {added : List BilledLine}
    (hok : insertLines invoice added = .ok later) :
    later.lineItems = invoice.lineItems ++ added := by
  unfold insertLines at hok
  split at hok
  · next hempty =>
      cases hok
      rw [List.isEmpty_iff.mp hempty, List.append_nil]
  · obtain ⟨-, -, hrecalculated⟩ := bind_eq_ok.mp hok
    rw [recalculate_lineItems hrecalculated]

theorem deleteLines_lineItems {later : BilledInvoice} {deleted : BilledLine → Bool}
    (hok : deleteLines invoice deleted = .ok later) :
    later.lineItems = invoice.lineItems.filter (!deleted ·) := by
  unfold deleteLines at hok
  split at hok
  · rw [recalculate_lineItems hok]
  · next hnone =>
      cases hok
      rw [eq_comm, List.filter_eq_self]
      intro line hmem
      rw [Bool.not_eq_true']
      by_contra hdeleted
      rw [Bool.not_eq_false] at hdeleted
      exact hnone (List.any_eq_true.mpr ⟨line, hmem, hdeleted⟩)

/-- What a closing writes on the invoice. -/
structure Billed (invoice : BilledInvoice) (summaries : List StallUsageSummary)
    (tax : BillingTax) (lineTaxes : List ℤ) (selected : List CreditAdjustment)
    (closed : BilledInvoice) : Prop where
  lineItems : closed.lineItems = handLines invoice.lineItems
    ++ List.zipWith usageLine summaries lineTaxes ++ selected.map creditLine
  subtotal : closed.subtotal = tax.subtotal
  taxAmount : closed.taxAmount = tax.taxAmount
  totalAmount : closed.totalAmount = tax.totalAmount - (selected.map (·.amount)).sum
  checked : invoiceCheck closed.plain = true

theorem billed_of_closedInvoice
    (hok : closedInvoice version invoice summaries tax lineTaxes selected now = .ok closed) :
    Billed invoice summaries tax lineTaxes selected closed := by
  simp only [closedInvoice, bind_eq_ok, failWhen_eq_ok, pure_eq_ok, Bool.not_eq_false'] at hok
  obtain ⟨cleared, hcleared, charged, hcharged, credited, hcredited, -, -, -, hcheck, rfl⟩ := hok
  have hlines : credited.lineItems = handLines invoice.lineItems
      ++ List.zipWith usageLine summaries lineTaxes ++ selected.map creditLine := by
    rw [insertLines_lineItems hcredited, insertLines_lineItems hcharged,
      deleteLines_lineItems hcleared]
    rfl
  exact ⟨hlines, rfl, rfl, rfl, hcheck⟩

/-! ### Their totals -/

theorem typeTotal_append (itemType : LineItemType) (first second : List BilledLine) :
    typeTotal itemType (first ++ second) = typeTotal itemType first + typeTotal itemType second := by
  unfold typeTotal
  rw [List.filter_append, List.map_append, List.sum_append]

theorem typeTotal_of_all {itemType : LineItemType} (hall : ∀ line ∈ lines,
    line.itemType = itemType) : typeTotal itemType lines = (lines.map (·.subtotal)).sum := by
  have hself : lines.filter (·.itemType = itemType) = lines :=
    List.filter_eq_self.mpr fun line hmem => decide_eq_true (hall line hmem)
  rw [typeTotal, hself]

theorem typeTotal_of_none {itemType : LineItemType} (hnone : ∀ line ∈ lines,
    line.itemType ≠ itemType) : typeTotal itemType lines = 0 := by
  have hnil : lines.filter (·.itemType = itemType) = [] :=
    List.filter_eq_nil_iff.mpr fun line hmem htype => hnone line hmem (of_decide_eq_true htype)
  rw [typeTotal, hnil]
  rfl

theorem usageLine_of_mem {line : BilledLine}
    (hmem : line ∈ List.zipWith usageLine summaries lineTaxes) :
    line.itemType = .paygUsage := by
  obtain ⟨index, hlt, rfl⟩ := List.mem_iff_getElem.mp hmem
  rw [List.getElem_zipWith]
  rfl

theorem creditLine_of_mem {line : BilledLine} (hmem : line ∈ selected.map creditLine) :
    line.itemType = .credit := by
  obtain ⟨credit, -, rfl⟩ := List.mem_map.mp hmem
  rfl

theorem not_usage_of_mem_handLines {line : BilledLine} (hmem : line ∈ handLines lines) :
    line.itemType ≠ .paygUsage := by
  obtain ⟨-, hhand⟩ := List.mem_filter.mp hmem
  intro husage
  rw [isClosingLine, husage] at hhand
  cases hhand

theorem usageLines_subtotals (summaries : List StallUsageSummary) (lineTaxes : List ℤ) :
    (List.zipWith usageLine summaries lineTaxes).map (·.subtotal)
      = List.zipWith (fun charge tax => charge - tax) (summaries.map (·.finalCharge))
          lineTaxes := by
  rw [List.map_zipWith, List.zipWith_map_left]
  rfl

theorem Billed.usageTotal (hbilled : Billed invoice summaries tax lineTaxes selected closed) :
    typeTotal .paygUsage closed.lineItems = (List.zipWith (fun charge tax => charge - tax)
      (summaries.map (·.finalCharge)) lineTaxes).sum := by
  rw [hbilled.lineItems, typeTotal_append, typeTotal_append,
    typeTotal_of_none fun line hmem => not_usage_of_mem_handLines hmem,
    typeTotal_of_all fun line hmem => usageLine_of_mem hmem, usageLines_subtotals,
    typeTotal_of_none, zero_add, add_zero]
  intro line hmem
  rw [creditLine_of_mem hmem]
  decide

theorem Billed.creditTotal (hbilled : Billed invoice summaries tax lineTaxes selected closed) :
    typeTotal .credit closed.lineItems
      = typeTotal .credit (handLines invoice.lineItems) + (selected.map (·.amount)).sum := by
  have hcredits : (selected.map creditLine).map (·.subtotal) = selected.map (·.amount) := by
    rw [List.map_map]
    rfl
  have husage : typeTotal .credit (List.zipWith usageLine summaries lineTaxes) = 0 := by
    apply typeTotal_of_none
    intro line hmem
    rw [usageLine_of_mem hmem]
    decide
  rw [hbilled.lineItems, typeTotal_append, typeTotal_append, husage, add_zero,
    typeTotal_of_all fun line hmem => creditLine_of_mem hmem, hcredits]

/-- A closing leaves the lines that were added by hand. -/
theorem Billed.handLines (hbilled : Billed invoice summaries tax lineTaxes selected closed) :
    handLines closed.lineItems = handLines invoice.lineItems := by
  have husage : (List.zipWith usageLine summaries lineTaxes).filter (!isClosingLine ·) = [] := by
    rw [List.filter_eq_nil_iff]
    intro line hmem
    rw [isClosingLine, usageLine_of_mem hmem]
    exact Bool.false_ne_true
  have hcredits : (selected.map creditLine).filter (!isClosingLine ·) = [] := by
    rw [List.filter_eq_nil_iff]
    intro line hmem
    obtain ⟨credit, -, rfl⟩ := List.mem_map.mp hmem
    exact Bool.false_ne_true
  rw [hbilled.lineItems]
  unfold FootedInvoices.handLines
  rw [List.filter_append, List.filter_append, husage, hcredits, List.filter_filter,
    List.append_nil, List.append_nil]
  simp only [Bool.and_self]

/-- A closed invoice foots exactly when no credit on it was added by hand. -/
theorem foots_iff (hbilled : Billed invoice summaries tax lineTaxes selected closed)
    (htax : usageTax version.taxPolicy (summaries.map (·.finalCharge)) = .ok tax)
    (hextracted : extractedTaxes version.taxPolicy (summaries.map (·.finalCharge)) tax.taxAmount
      = .ok lineTaxes) :
    Foots closed ↔ typeTotal .credit (handLines invoice.lineItems) = 0 := by
  have hnonneg : ∀ charge ∈ summaries.map (·.finalCharge), 0 ≤ charge := by
    intro charge hmem
    obtain ⟨summary, -, rfl⟩ := List.mem_map.mp hmem
    exact summary.finalCharge_nonneg
  obtain ⟨-, husage, htotal⟩ := usage_adds_up hnonneg htax hextracted
  have hcredit := hbilled.creditTotal
  have htotalAmount := hbilled.totalAmount
  have hsubtotal := hbilled.subtotal
  have htaxAmount := hbilled.taxAmount
  constructor
  · intro hfoots
    have hfooted := hfoots.total
    omega
  · intro hnone
    obtain ⟨-, -, -, hamount, -, hdue, -, hformula, -, -⟩ :=
      SettledInvoices.invoiceCheck_iff.mp hbilled.checked
    rw [isAmount_iff] at hamount hdue
    exact {
      subtotal := by rw [hbilled.usageTotal, husage, hsubtotal]
      total := by omega
      due := hformula.symm
      due_nonneg := hdue.1
      total_nonneg := hamount.1 }

end Lines

/-! ## Applied credits -/

/-- What every command keeps: the lines of credits are those of closings. -/
structure Sound (account : PaygAccount) : Prop extends AppliedOnce account where
  closing : ∀ (position : ℕ) (invoice : BilledInvoice), account.invoices[position]? = some invoice →
    ∀ line ∈ invoice.lineItems, line.itemType = .credit → ∀ creditId,
      line.referenceId = some creditId →
        isClosingLine line = true ∧ creditId < account.credits.length

section Credits

variable {credits selected : List CreditAdjustment} {credit : CreditAdjustment}

theorem selectCreditsWithinTotal_sublist (totalAmount applied : ℤ)
    (credits : List CreditAdjustment) :
    List.Sublist (selectCreditsWithinTotal totalAmount applied credits) credits := by
  induction credits generalizing applied with
  | nil => exact List.Sublist.slnil
  | cons credit credits ih =>
      unfold selectCreditsWithinTotal
      split
      · exact (ih applied).cons credit
      · exact (ih _).cons_cons credit

theorem selectedCredits_sublist (account : PaygAccount) (invoiceId : ℕ)
    (periodStart totalAmount : ℤ) :
    List.Sublist (selectedCredits account invoiceId periodStart totalAmount)
      (account.credits.filter (isCandidate invoiceId)) :=
  (selectCreditsWithinTotal_sublist _ _ _).trans List.filter_sublist

theorem retarget_id (invoiceId : ℕ) (selected : List CreditAdjustment)
    (credit : CreditAdjustment) : (retarget invoiceId selected credit).id = credit.id := by
  unfold retarget
  split
  · rfl
  · split
    · rfl
    · rfl

theorem map_retarget_id (invoiceId : ℕ) (selected credits : List CreditAdjustment) :
    (credits.map (retarget invoiceId selected)).map (·.id) = credits.map (·.id) := by
  rw [List.map_map]
  exact List.map_congr_left fun credit _ => retarget_id invoiceId selected credit

/-- The credit has been applied to the invoice. -/
def TakenBy (position : ℕ) (credit : CreditAdjustment) : Prop :=
  credit.status = .applied ∧ credit.targetInvoiceId = some position

/-- The closed invoice takes the selected credits. -/
theorem takenBy_retarget_iff {invoiceId : ℕ} :
    TakenBy invoiceId (retarget invoiceId selected credit)
      ↔ selected.any (·.id = credit.id) = true := by
  unfold retarget
  split
  · next hany => exact iff_of_true ⟨rfl, rfl⟩ hany
  · next hnone =>
      split
      · exact iff_of_false (fun htaken => nomatch htaken.1) hnone
      · next hfree =>
          apply iff_of_false _ hnone
          rintro ⟨happlied, htarget⟩
          apply hfree
          simp only [isCandidate, happlied, htarget, decide_true, Bool.and_self, Bool.or_true]

/-- Other invoices keep the credits that they have taken. -/
theorem takenBy_retarget_of_ne {invoiceId position : ℕ} (hne : position ≠ invoiceId)
    (hcandidate : selected.any (·.id = credit.id) = true → isCandidate invoiceId credit = true) :
    TakenBy position (retarget invoiceId selected credit) ↔ TakenBy position credit := by
  unfold retarget
  split
  · next hany =>
      apply iff_of_false
      · rintro ⟨-, htarget⟩
        exact hne (Option.some.inj htarget).symm
      · rintro ⟨happlied, htarget⟩
        have hfound := hcandidate hany
        simp only [isCandidate, happlied, htarget, decide_true, Bool.true_and, Bool.or_eq_true,
          decide_eq_true_eq, Option.some.injEq] at hfound
        rcases hfound with hunapplied | hsame
        · cases hunapplied
        · exact hne hsame
  · split
    · next hfree =>
        rw [Bool.and_eq_true, decide_eq_true_eq] at hfree
        apply iff_of_false (fun htaken => nomatch htaken.1)
        rintro ⟨-, htarget⟩
        exact hne (Option.some.inj (htarget.symm.trans hfree.2))
    · exact Iff.rfl

/-- Credits are told apart by their names. -/
theorem eq_of_id_eq (hnodup : (credits.map (·.id)).Nodup) {other : CreditAdjustment}
    (hcredit : credit ∈ credits) (hother : other ∈ credits) (hid : other.id = credit.id) :
    other = credit :=
  List.inj_on_of_nodup_map hnodup hother hcredit hid

/-- A selected credit has one line among those of the selected credits. -/
theorem countP_creditLine (hnodup : (selected.map (·.id)).Nodup) (creditId : ℕ) :
    (selected.map creditLine).countP
        (fun line => line.itemType = .credit && line.referenceId = some creditId)
      = if selected.any (·.id = creditId) then 1 else 0 := by
  have hcount : (selected.map creditLine).countP
      (fun line => line.itemType = .credit && line.referenceId = some creditId)
        = (selected.map (·.id)).count creditId := by
    rw [List.countP_map, List.count, List.countP_map]
    congr 1
    funext credit
    simp [creditLine, beq_eq_decide]
  have hmem : creditId ∈ selected.map (·.id) ↔ selected.any (·.id = creditId) = true := by
    simp only [List.mem_map, List.any_eq_true, decide_eq_true_eq]
  rw [hcount, hnodup.count]
  exact if_congr hmem rfl rfl

end Credits

/-- The lines of a closed invoice that are for a credit. -/
theorem references_closed {summaries : List StallUsageSummary} {tax : BillingTax}
    {lineTaxes : List ℤ} {selected : List CreditAdjustment}
    (hbilled : Billed invoice summaries tax lineTaxes selected closed)
    (hclosing : ∀ line ∈ invoice.lineItems, line.itemType = .credit → ∀ creditId,
      line.referenceId = some creditId → isClosingLine line = true)
    (hnodup : (selected.map (·.id)).Nodup) (creditId : ℕ) :
    references closed creditId = if selected.any (·.id = creditId) then 1 else 0 := by
  have hhand : (handLines invoice.lineItems).countP
      (fun line => line.itemType = .credit && line.referenceId = some creditId) = 0 := by
    rw [List.countP_eq_zero]
    intro line hmem hline
    rw [Bool.and_eq_true, decide_eq_true_eq, decide_eq_true_eq] at hline
    obtain ⟨hmem, hhand⟩ := List.mem_filter.mp hmem
    rw [hclosing line hmem hline.1 creditId hline.2] at hhand
    cases hhand
  have husage : (List.zipWith usageLine summaries lineTaxes).countP
      (fun line => line.itemType = .credit && line.referenceId = some creditId) = 0 := by
    rw [List.countP_eq_zero]
    intro line hmem hline
    rw [usageLine_of_mem hmem] at hline
    cases hline
  rw [references, hbilled.lineItems, List.countP_append, List.countP_append, hhand, husage,
    countP_creditLine hnodup]
  exact zero_add _

section Closings

variable {version : PaygPlanVersion} {summaries : List StallUsageSummary} {now : Timestamp}
variable {tax : BillingTax} {lineTaxes : List ℤ} {invoiceId : ℕ}

theorem nodup_ids (hsound : Sound account) : (account.credits.map (·.id)).Nodup := by
  rw [hsound.named]
  exact List.nodup_range

theorem id_lt_length (hsound : Sound account) {credit : CreditAdjustment}
    (hcredit : credit ∈ account.credits) : credit.id < account.credits.length := by
  have hmem : credit.id ∈ account.credits.map (·.id) := List.mem_map_of_mem hcredit
  rw [hsound.named] at hmem
  exact List.mem_range.mp hmem

/-- The lines of the invoice that is closed are as sound as before. -/
theorem closing_of_opens (hsound : Sound account) (hopens : Opens account base invoiceId invoice) :
    ∀ line ∈ invoice.lineItems, line.itemType = .credit → ∀ creditId,
      line.referenceId = some creditId →
        isClosingLine line = true ∧ creditId < account.credits.length := by
  cases hopens with
  | found hinvoice => exact hsound.closing invoiceId invoice hinvoice
  | created hlines =>
      intro line hmem
      rw [hlines] at hmem
      exact absurd hmem List.not_mem_nil

/-- A closing keeps the credits and their lines together. -/
theorem sound_of_closes (hsound : Sound account) (hopens : Opens account base invoiceId invoice)
    (hcloses : Closes base invoiceId invoice version summaries now tax lineTaxes closed account') :
    Sound account' := by
  have hbilled := billed_of_closedInvoice hcloses.written
  have hclosing := closing_of_opens hsound hopens
  obtain ⟨hlt, -⟩ := List.getElem?_eq_some_iff.mp hopens.getElem?
  have hself : account'.invoices[invoiceId]? = some closed := by
    rw [hcloses.invoices]
    exact List.getElem?_set_self hlt
  have hother : ∀ position, position ≠ invoiceId →
      account'.invoices[position]? = account.invoices[position]? := by
    intro position hne
    rw [hcloses.invoices, List.getElem?_set_ne (Ne.symm hne)]
    exact hopens.getElem?_of_ne hne
  have hcredits := hcloses.credits
  rw [hopens.credits] at hcredits
  generalize hselected : selectedCredits base invoiceId invoice.billingPeriodStart
    tax.totalAmount = selected at hbilled hcredits
  have hsublist : List.Sublist selected (account.credits.filter (isCandidate invoiceId)) := by
    rw [← hselected, ← hopens.credits]
    exact selectedCredits_sublist base invoiceId _ _
  have hnodup : (selected.map (·.id)).Nodup :=
    ((hsublist.trans List.filter_sublist).map _).nodup (nodup_ids hsound)
  have hcandidate : ∀ credit ∈ account.credits, selected.any (·.id = credit.id) = true →
      isCandidate invoiceId credit = true := by
    intro credit hcredit hany
    obtain ⟨other, hmem, hid⟩ := List.any_eq_true.mp hany
    obtain ⟨hmem, hcandidate⟩ := List.mem_filter.mp (hsublist.subset hmem)
    rw [← eq_of_id_eq (nodup_ids hsound) hcredit hmem (of_decide_eq_true hid)]
    exact hcandidate
  have hlength : account'.credits.length = account.credits.length := by
    rw [hcredits, List.length_map]
  refine ⟨⟨?_, ?_, ?_⟩, ?_⟩
  · rw [hlength, hcredits, map_retarget_id, hsound.named]
  · intro credit hcredit
    rw [hcredits] at hcredit
    obtain ⟨before, hbefore, rfl⟩ := List.mem_map.mp hcredit
    rcases hsound.kept before hbefore with hfree | ⟨position, found, happlied, htarget, hfound⟩
    · unfold retarget
      split
      · exact Or.inr ⟨invoiceId, closed, rfl, rfl, hself⟩
      · split
        · exact Or.inl rfl
        · exact Or.inl hfree
    · by_cases hsame : position = invoiceId
      · subst hsame
        unfold retarget
        split
        · exact Or.inr ⟨position, closed, rfl, rfl, hself⟩
        · split
          · exact Or.inl rfl
          · exact Or.inr ⟨position, closed, happlied, htarget, hself⟩
      · have htaken : TakenBy position (retarget invoiceId selected before) :=
          (takenBy_retarget_of_ne hsame (hcandidate before hbefore)).mpr ⟨happlied, htarget⟩
        exact Or.inr ⟨position, found, htaken.1, htaken.2, (hother position hsame).trans hfound⟩
  · intro credit hcredit position found hfound
    rw [hcredits] at hcredit
    obtain ⟨before, hbefore, rfl⟩ := List.mem_map.mp hcredit
    rw [retarget_id]
    by_cases hsame : position = invoiceId
    · subst hsame
      cases hself.symm.trans hfound
      rw [references_closed hbilled (fun line hmem hcredit creditId hid =>
        (hclosing line hmem hcredit creditId hid).1) hnodup]
      exact if_congr takenBy_retarget_iff.symm rfl rfl
    · rw [hother position hsame] at hfound
      rw [hsound.lined before hbefore position found hfound]
      exact if_congr (takenBy_retarget_of_ne hsame (hcandidate before hbefore)).symm rfl rfl
  · intro position found hfound line hmem hcredit creditId hid
    rw [hlength]
    by_cases hsame : position = invoiceId
    · subst hsame
      cases hself.symm.trans hfound
      rw [hbilled.lineItems, List.append_assoc, List.mem_append, List.mem_append] at hmem
      rcases hmem with hmem | hmem | hmem
      · exact hclosing line (List.mem_of_mem_filter hmem) hcredit creditId hid
      · rw [usageLine_of_mem hmem] at hcredit
        cases hcredit
      · obtain ⟨credit, hselected, rfl⟩ := List.mem_map.mp hmem
        cases hid
        exact ⟨rfl, id_lt_length hsound
          (List.mem_of_mem_filter (hsublist.subset hselected))⟩
    · rw [hother position hsame] at hfound
      exact hsound.closing position found hfound line hmem hcredit creditId hid

theorem sound_closeBillingPeriod {input : CloseInput} (hsound : Sound account)
    (hok : closeBillingPeriod premises account input = .ok account') : Sound account' := by
  rcases closeBillingPeriod_cases hok with ⟨-, rfl⟩
    | ⟨base, invoiceId, invoice, version, tax, lineTaxes, closed, -, hopens, hcloses⟩
  · exact hsound
  · exact sound_of_closes hsound hopens hcloses

end Closings

/-! ## The other commands -/

/-- Commands that keep the lines for credits at their invoices keep them sound. -/
theorem sound_of_references (hsound : Sound account) (hcredits : account'.credits = account.credits)
    (hlength : account'.invoices.length = account.invoices.length)
    (hinvoices : ∀ (position : ℕ) (later : BilledInvoice), account'.invoices[position]? = some later →
      ∃ invoice : BilledInvoice, account.invoices[position]? = some invoice
        ∧ ∃ added : List InvoiceLineItem,
          later.lineItems = invoice.lineItems ++ added.map fun line => ⟨line, none⟩) :
    Sound account' := by
  have hunreferenced : ∀ {added : List InvoiceLineItem} {line : BilledLine} {creditId : ℕ},
      line ∈ added.map (fun line => (⟨line, none⟩ : BilledLine)) →
        line.referenceId ≠ some creditId := by
    intro added line creditId hmem hid
    obtain ⟨_, -, rfl⟩ := List.mem_map.mp hmem
    cases hid
  refine ⟨⟨?_, ?_, ?_⟩, ?_⟩
  · rw [hcredits]
    exact hsound.named
  · intro credit hcredit
    rw [hcredits] at hcredit
    rcases hsound.kept credit hcredit with hfree | ⟨position, invoice, happlied, htarget, hinvoice⟩
    · exact Or.inl hfree
    · obtain ⟨hlt, -⟩ := List.getElem?_eq_some_iff.mp hinvoice
      rw [← hlength] at hlt
      exact Or.inr ⟨position, _, happlied, htarget, List.getElem?_eq_getElem hlt⟩
  · intro credit hcredit position later hlater
    rw [hcredits] at hcredit
    obtain ⟨invoice, hinvoice, added, hadded⟩ := hinvoices position later hlater
    have hnone : (added.map fun line => (⟨line, none⟩ : BilledLine)).countP
        (fun line => line.itemType = .credit && line.referenceId = some credit.id) = 0 := by
      rw [List.countP_eq_zero]
      intro line hmem hline
      rw [Bool.and_eq_true, decide_eq_true_eq, decide_eq_true_eq] at hline
      exact hunreferenced hmem hline.2
    rw [references, hadded, List.countP_append, hnone]
    exact hsound.lined credit hcredit position invoice hinvoice
  · intro position later hlater line hmem hcredit creditId hid
    rw [hcredits]
    obtain ⟨invoice, hinvoice, added, hadded⟩ := hinvoices position later hlater
    rw [hadded] at hmem
    rcases List.mem_append.mp hmem with hmem | hmem
    · exact hsound.closing position invoice hinvoice line hmem hcredit creditId hid
    · exact absurd hid (hunreferenced hmem)

theorem sound_workflow {command : WorkflowCommand} {after : BillingAccount}
    (hsound : Sound account) (hok : billingOutcome account.plain command.command = .ok after) :
    Sound (account.adopt after) := by
  have hcredits : (account.adopt after).credits = account.credits := rfl
  apply sound_of_references hsound hcredits (length_adopt hok)
  intro position later hlater
  obtain ⟨invoice, changed, hinvoice, rfl, -⟩ := exists_worked hok hlater
  exact ⟨invoice, hinvoice, _, rfl⟩

theorem sound_issueTaxDocument (hsound : Sound account) (invoiceId : ℕ) :
    Sound (issueTaxDocument account invoiceId) := by
  have hcredits : (issueTaxDocument account invoiceId).credits = account.credits := rfl
  apply sound_of_references hsound hcredits (List.length_modify _ _ _)
  intro position later hlater
  simp only [issueTaxDocument, List.getElem?_modify, Option.map_eq_map, Option.map_eq_some_iff]
    at hlater
  obtain ⟨invoice, hinvoice, rfl⟩ := hlater
  refine ⟨invoice, hinvoice, [], ?_⟩
  rw [List.map_nil, List.append_nil]
  split
  · rfl
  · rfl

/-- A new credit has no line yet. -/
theorem sound_recordBillableOrderFullRefund {billingPeriod : ℤ} (hsound : Sound account)
    (hok : recordBillableOrderFullRefund account billingPeriod = .ok account') :
    Sound account' := by
  unfold recordBillableOrderFullRefund at hok
  split at hok
  · cases hok
    exact hsound
  · simp only [bind_eq_ok, pure_eq_ok] at hok
    obtain ⟨invoice, -, -, -, rfl⟩ := hok
    refine ⟨⟨?_, ?_, ?_⟩, ?_⟩
    · rw [List.map_append, hsound.named, List.length_append, List.length_singleton,
        List.range_succ]
      rfl
    · intro credit hcredit
      rcases List.mem_append.mp hcredit with hcredit | hcredit
      · exact hsound.kept credit hcredit
      · rw [List.mem_singleton.mp hcredit]
        exact Or.inl rfl
    · intro credit hcredit position found hfound
      rcases List.mem_append.mp hcredit with hcredit | hcredit
      · exact hsound.lined credit hcredit position found hfound
      · rw [List.mem_singleton.mp hcredit, if_neg (fun htaken => nomatch htaken.1)]
        rw [references, List.countP_eq_zero]
        intro line hmem hline
        rw [Bool.and_eq_true, decide_eq_true_eq, decide_eq_true_eq] at hline
        obtain ⟨-, hlt⟩ := hsound.closing position found hfound line hmem hline.1 _ hline.2
        exact lt_irrefl _ hlt
    · intro position found hfound line hmem hcredit creditId hid
      obtain ⟨hclosing, hlt⟩ := hsound.closing position found hfound line hmem hcredit creditId hid
      rw [List.length_append]
      exact ⟨hclosing, hlt.trans_le (Nat.le_add_right _ _)⟩

theorem sound_step (hsound : Sound account) (command : PaygCommand) :
    Sound (paygStep premises account command) := by
  cases hresult : paygOutcome premises account command with
  | error error =>
      rw [ConservedCredits.paygStep_of_error hresult]
      exact hsound
  | ok account' =>
      rw [ConservedCredits.paygStep_of_ok hresult]
      cases command with
      | close input => exact sound_closeBillingPeriod hsound hresult
      | fullRefund billingPeriod => exact sound_recordBillableOrderFullRefund hsound hresult
      | issueTaxDocument invoiceId =>
          cases hresult
          exact sound_issueTaxDocument hsound invoiceId
      | workflow command =>
          obtain ⟨after, hok, rfl⟩ := ConservedCredits.workflow_eq_ok.mp hresult
          exact sound_workflow hsound hok

theorem sound_opened (planInvoices : List Invoice) (effectiveDate : ℤ) :
    Sound (.opened planInvoices effectiveDate) where
  named := rfl
  kept _ hmem := absurd hmem List.not_mem_nil
  lined _ hmem := absurd hmem List.not_mem_nil
  closing := by
    intro position invoice hinvoice line hmem _ creditId hid
    change (planInvoices.map ofPlan)[position]? = _ at hinvoice
    rw [List.getElem?_map] at hinvoice
    obtain ⟨plan, -, rfl⟩ := Option.map_eq_some_iff.mp hinvoice
    obtain ⟨_, -, rfl⟩ := List.mem_map.mp hmem
    cases hid

/-! ## Closing again -/

section Sequences

variable {input : CloseInput} {invoiceId position : ℕ}

/-- What one closing does to the invoices. -/
inductive Footed (premises : Premises) (account : PaygAccount) (input : CloseInput) :
    PaygAccount → Prop
  | unchanged (hwritten : writtenInvoice premises account input = none) :
      Footed premises account input account
  | wrote {account' : PaygAccount} {invoiceId : ℕ} {closed : BilledInvoice}
      (hwritten : writtenInvoice premises account input = some invoiceId)
      (hclosed : account'.invoices[invoiceId]? = some closed)
      (hfoots : Foots closed
        ↔ typeTotal .credit (handLines (linesAt account invoiceId)) = 0)
      (hhand : handLines closed.lineItems = handLines (linesAt account invoiceId))
      (hothers : ∀ position, position ≠ invoiceId →
        account'.invoices[position]? = account.invoices[position]?) :
      Footed premises account input account'

theorem footed_step (premises : Premises) (account : PaygAccount) (input : CloseInput) :
    Footed premises account input (paygStep premises account (.close input)) := by
  cases hresult : closeBillingPeriod premises account input with
  | error error =>
      have herror : paygOutcome premises account (.close input) = .error error := hresult
      rw [ConservedCredits.paygStep_of_error herror]
      apply Footed.unchanged
      rw [writtenInvoice, hresult]
      rfl
  | ok account' =>
      have hok : paygOutcome premises account (.close input) = .ok account' := hresult
      rw [ConservedCredits.paygStep_of_ok hok]
      have hwrites : writtenInvoice premises account input = targetInvoice account input := by
        rw [writtenInvoice, hresult]
        rfl
      rcases closeBillingPeriod_cases hresult with ⟨htarget, rfl⟩
        | ⟨base, invoiceId, invoice, version, tax, lineTaxes, closed, htarget, hopens, hcloses⟩
      · exact .unchanged (hwrites.trans htarget)
      · have hbilled := billed_of_closedInvoice hcloses.written
        obtain ⟨hlt, -⟩ := List.getElem?_eq_some_iff.mp hopens.getElem?
        have hlines : linesAt account invoiceId = invoice.lineItems := by
          unfold linesAt
          cases hopens with
          | found hinvoice =>
              rw [hinvoice]
              rfl
          | created hnone =>
              rw [List.getElem?_eq_none le_rfl, hnone]
              rfl
        have hclosed : account'.invoices[invoiceId]? = some closed := by
          rw [hcloses.invoices]
          exact List.getElem?_set_self hlt
        refine .wrote (hwrites.trans htarget) hclosed ?_ ?_ ?_
        · rw [hlines]
          exact foots_iff hbilled hcloses.taxed hcloses.extracted
        · rw [hlines]
          exact hbilled.handLines
        · intro position hne
          rw [hcloses.invoices, List.getElem?_set_ne (Ne.symm hne)]
          exact hopens.getElem?_of_ne hne

/-- A closing leaves the lines that were added by hand, on every invoice. -/
theorem handLines_step (position : ℕ) :
    handLines (linesAt (paygStep premises account (.close input)) position)
      = handLines (linesAt account position) := by
  have hfooted := footed_step premises account input
  generalize paygStep premises account (.close input) = account' at hfooted
  cases hfooted with
  | unchanged => rfl
  | wrote hwritten hclosed hfoots hhand hothers =>
      rename_i invoiceId closed
      by_cases hsame : position = invoiceId
      · subst hsame
        rw [← hhand, linesAt, hclosed]
        rfl
      · rw [linesAt, hothers position hsame]
        rfl

/-- An invoice after some closings: it has been closed, or it is as before. -/
theorem foots_closeAll_iff (inputs : List CloseInput) (position : ℕ) :
    (position ∈ written premises account inputs → ∃ invoice,
      (closeAll premises account inputs).invoices[position]? = some invoice
        ∧ (Foots invoice ↔ typeTotal .credit (handLines (linesAt account position)) = 0))
      ∧ (position ∉ written premises account inputs →
        (closeAll premises account inputs).invoices[position]? = account.invoices[position]?) := by
  induction inputs generalizing account with
  | nil => exact ⟨fun hmem => absurd hmem List.not_mem_nil, fun _ => rfl⟩
  | cons input inputs ih =>
      obtain ⟨hlater, hunwritten⟩ := @ih (paygStep premises account (.close input))
      rw [handLines_step] at hlater
      change (_ ∈ _ ++ _ → ∃ invoice, (closeAll premises (paygStep premises account (.close input))
        inputs).invoices[position]? = _ ∧ _) ∧ (_ ∉ _ ++ _ → (closeAll premises
          (paygStep premises account (.close input)) inputs).invoices[position]? = _)
      rw [List.mem_append, not_or]
      by_cases hmem : position ∈ written premises (paygStep premises account (.close input)) inputs
      · exact ⟨fun _ => hlater hmem, fun hnone => absurd hmem hnone.2⟩
      · rw [hunwritten hmem]
        have hfooted := footed_step premises account input
        generalize paygStep premises account (.close input) = account' at hfooted hmem
        cases hfooted with
        | unchanged hwritten =>
            rw [hwritten]
            exact ⟨fun hor => hor.elim (fun h => absurd h List.not_mem_nil) fun h => absurd h hmem,
              fun _ => rfl⟩
        | wrote hwritten hclosed hfoots hhand hothers =>
            rename_i invoiceId closed
            rw [hwritten, Option.toList_some, List.mem_singleton]
            by_cases hsame : position = invoiceId
            · subst hsame
              exact ⟨fun _ => ⟨closed, hclosed, hfoots⟩, fun hnone => absurd rfl hnone.1⟩
            · exact ⟨fun hor => hor.elim (fun h => absurd h hsame) fun h => absurd h hmem,
                fun _ => hothers position hsame⟩

end Sequences

/-- After any run, the invoices that a sequence of closings has closed foot and credits are
applied once, exactly when no closed invoice has credits that were added by hand. -/
theorem closed_soundly_iff (planInvoices : List Invoice) (effectiveDate : ℤ)
    (commands : List PaygCommand) (inputs : List CloseInput) :
    ClosedSoundly premises
        (exec (paygStep premises) (.opened planInvoices effectiveDate) commands) inputs
      ↔ ∀ invoiceId ∈ written premises
          (exec (paygStep premises) (.opened planInvoices effectiveDate) commands) inputs,
        typeTotal .credit (handLines (linesAt
          (exec (paygStep premises) (.opened planInvoices effectiveDate) commands) invoiceId))
          = 0 := by
  have hsound : Sound (exec (paygStep premises) (.opened planInvoices effectiveDate) commands) :=
    invariant_exec Sound (fun _ command hsound => sound_step hsound command)
      (sound_opened planInvoices effectiveDate) commands
  generalize exec (paygStep premises) (.opened planInvoices effectiveDate) commands = account
    at hsound ⊢
  constructor
  · intro hclosed invoiceId hmem
    obtain ⟨invoice, hinvoice, hfoots⟩ := (foots_closeAll_iff inputs invoiceId).1 hmem
    exact hfoots.mp (hclosed.foots invoiceId hmem invoice hinvoice)
  · intro hnone
    refine ⟨fun invoiceId hmem invoice hinvoice => ?_, ?_⟩
    · obtain ⟨found, hfound, hfoots⟩ := (foots_closeAll_iff inputs invoiceId).1 hmem
      cases hinvoice.symm.trans hfound
      exact hfoots.mpr (hnone invoiceId hmem)
    · have hafter : Sound (closeAll premises account inputs) :=
        invariant_exec Sound (fun _ command hsound => sound_step hsound command) hsound
          (inputs.map .close)
      exact hafter.toAppliedOnce

end Stallorder.FootedInvoices
