import Stallorder.Billing.InvoiceWorkflow

/-!
# Invoices that settle

An invoice that can be paid has something left to pay: the payment that settles
it marks it as paid.  The totals are recalculated without looking at the
payments, so a credit for all that is left after a partial payment settles the
invoice without marking it.
-/

namespace Stallorder.SettledInvoices

open OrderContract InvoiceWorkflow Checks Run

variable {account account' : BillingAccount} {invoice : Invoice} {position : ℕ}

/-! ## Settled invoices -/

/-- What a payment adds to what has been paid on an invoice. -/
def verifiedPart (invoiceId : ℕ) (payment : ManualPaymentRecord) : ℤ :=
  if payment.invoiceId = invoiceId ∧ payment.verificationStatus = .verified then payment.amount
  else 0

def verifiedAmount (payments : List ManualPaymentRecord) (invoiceId : ℕ) : ℤ :=
  (payments.map (verifiedPart invoiceId)).sum

/-- An issued invoice of some amount is paid when nothing is left to pay, and only then. -/
structure Settles (verified : ℤ) (invoice : Invoice) : Prop where
  paid : invoice.amountPaid = verified
  due : invoice.amountDue = invoice.totalAmount - invoice.amountPaid
  nonneg : 0 ≤ invoice.amountDue
  unpaid : isPayable invoice.status = true → 0 < invoice.totalAmount → 0 < invoice.amountDue
  closed : invoice.issuedAt.isSome = true → invoice.status ≠ .void → 0 < invoice.totalAmount →
    invoice.amountDue = 0 → invoice.status = .paid

def AllSettle (account : BillingAccount) : Prop :=
  ∀ position invoice, account.invoices[position]? = some invoice →
    Settles (verifiedAmount account.payments position) invoice

def planTotal (lines : List InvoiceLineItem) : ℤ :=
  ((lines.filter isBasePlan).map (·.subtotal)).sum

/-- Neither a credit or a discount nor a plan that costs nothing brings an invoice
down to what has been paid on it. -/
def LeavesDue (account : BillingAccount) : BillingCommand → Prop
  | .addInvoiceLine invoiceId catalog input _ => ∀ invoice line,
      account.invoices[invoiceId]? = some invoice → isEditable invoice.status = true →
      inputLine catalog input = .ok line → lineItemCheck line = true → isDeduction line = true →
        invoice.totalAmount - line.subtotal = invoice.amountPaid → invoice.amountPaid = 0
  | .createPlanInvoice subscription version interval _ now =>
      requestedPrice subscription version interval now = .ok 0 →
      lineItemCheck (basePlanLine version interval 0) = true → ∀ position invoice,
        account.invoices.findIdx? (isOfPeriod (billingPeriod interval now)) = some position →
        account.invoices[position]? = some invoice → isEditable invoice.status = true →
        invoice.currency = version.currency →
          invoice.totalAmount - planTotal invoice.lineItems = invoice.amountPaid →
            invoice.amountPaid = 0
  | _ => True

/-! ## What every run keeps -/

/-- The totals are those of the lines and of the payments. -/
structure Foots (verified : ℤ) (invoice : Invoice) : Prop where
  checked : invoiceCheck invoice = true
  charges : invoice.subtotal = chargeTotal invoice.lineItems
  discounts : invoice.discountAmount = discountTotal invoice.lineItems
  untaxed : invoice.taxAmount = 0
  paid : invoice.amountPaid = verified

structure SoundInvoice (verified : ℤ) (invoice : Invoice) : Prop
    extends Foots verified invoice where
  started : invoice.status ∈ [InvoiceStatus.opened, .paid, .void, .overdue]

structure Sound (account : BillingAccount) : Prop where
  invoices : ∀ position invoice, account.invoices[position]? = some invoice →
    SoundInvoice (verifiedAmount account.payments position) invoice
  payments : ∀ payment ∈ account.payments, payment.invoiceId < account.invoices.length

/-- Something is left to pay on an invoice that can be paid. -/
def LeftToPay (invoice : Invoice) : Prop :=
  isPayable invoice.status = true → 0 < invoice.totalAmount → 0 < invoice.amountDue

theorem invoiceCheck_iff : invoiceCheck invoice = true ↔
    isAmount invoice.subtotal = true ∧ isAmount invoice.discountAmount = true
      ∧ isAmount invoice.taxAmount = true ∧ isAmount invoice.totalAmount = true
      ∧ isAmount invoice.amountPaid = true ∧ isAmount invoice.amountDue = true
      ∧ invoice.subtotal + invoice.taxAmount - invoice.discountAmount = invoice.totalAmount
      ∧ invoice.totalAmount - invoice.amountPaid = invoice.amountDue
      ∧ invoice.amountPaid ≤ invoice.totalAmount
      ∧ invoice.discountAmount ≤ invoice.subtotal + invoice.taxAmount := by
  simp only [invoiceCheck, Bool.and_eq_true, decide_eq_true_eq, and_assoc]

theorem settles_iff {verified : ℤ} (hsound : SoundInvoice verified invoice) :
    Settles verified invoice ↔ LeftToPay invoice := by
  constructor
  · exact fun hsettles => hsettles.unpaid
  · intro hleft
    obtain ⟨-, -, -, -, -, hdue, -, hformula, -, -⟩ := invoiceCheck_iff.mp hsound.checked
    rw [isAmount_iff] at hdue
    refine ⟨hsound.paid, hformula.symm, hdue.1, hleft, fun _ hvoid htotal hzero => ?_⟩
    by_contra hunpaid
    have hpayable : isPayable invoice.status = true := by
      have hstarted := hsound.started
      revert hstarted hvoid hunpaid
      cases invoice.status <;> decide
    have hpositive := hleft hpayable htotal
    omega

theorem allSettle_iff (hsound : Sound account) :
    AllSettle account ↔ ∀ invoice ∈ account.invoices, LeftToPay invoice := by
  constructor
  · intro hall invoice hmem
    obtain ⟨position, hposition⟩ := List.mem_iff_getElem?.mp hmem
    exact (hall position invoice hposition).unpaid
  · intro hall position invoice hposition
    rw [settles_iff (hsound.invoices position invoice hposition)]
    exact hall invoice (List.mem_of_getElem? hposition)

/-! ## Lines -/

section Lines

variable {lines : List InvoiceLineItem} {line : InvoiceLineItem}

theorem chargeTotal_append : chargeTotal (lines ++ [line])
    = chargeTotal lines + if isDeduction line then 0 else line.subtotal := by
  unfold chargeTotal
  rw [List.filter_append, List.map_append, List.sum_append]
  cases hdeduction : isDeduction line <;> simp [hdeduction]

theorem discountTotal_append : discountTotal (lines ++ [line])
    = discountTotal lines + if isDeduction line then line.subtotal else 0 := by
  unfold discountTotal
  rw [List.filter_append, List.map_append, List.sum_append]
  cases hdeduction : isDeduction line <;> simp [hdeduction]

theorem not_isDeduction_of_isBasePlan (hplan : isBasePlan line = true) :
    isDeduction line = false := by
  rw [isBasePlan, decide_eq_true_eq] at hplan
  rw [isDeduction, hplan]
  rfl

/-- The lines without those of the plan. -/
theorem totals_filter_basePlan (lines : List InvoiceLineItem) :
    chargeTotal (lines.filter (!isBasePlan ·)) = chargeTotal lines - planTotal lines
      ∧ discountTotal (lines.filter (!isBasePlan ·)) = discountTotal lines := by
  induction lines with
  | nil => exact ⟨rfl, rfl⟩
  | cons line lines ih =>
      unfold chargeTotal discountTotal planTotal at ih ⊢
      cases hplan : isBasePlan line with
      | true =>
          have hcharge := not_isDeduction_of_isBasePlan hplan
          simp only [List.filter_cons, hplan, hcharge, Bool.not_true, Bool.not_false,
            Bool.false_eq_true, if_false, if_true, List.map_cons, List.sum_cons]
          omega
      | false =>
          cases hdeduction : isDeduction line <;>
            simp only [List.filter_cons, hplan, hdeduction, Bool.not_true, Bool.not_false,
              Bool.false_eq_true, if_false, if_true, List.map_cons, List.sum_cons] <;>
            omega

end Lines

/-! ## Recalculated totals -/

section Totals

variable {after : Invoice} {verified : ℤ}

theorem recalculateInvoiceTotals_eq_ok : recalculateInvoiceTotals invoice = .ok after ↔
    isEditable invoice.status = true
      ∧ discountTotal invoice.lineItems ≤ chargeTotal invoice.lineItems + invoice.taxAmount
      ∧ invoiceCheck (withTotals invoice) = true ∧ withTotals invoice = after := by
  simp only [recalculateInvoiceTotals, bind_eq_ok, failWhen_eq_ok, pure_eq_ok, Bool.not_eq_false',
    decide_eq_false_iff_not, not_lt, exists_const]

theorem insertLine_eq_ok {line : InvoiceLineItem} : insertLine invoice line = .ok after ↔
    lineItemCheck line = true ∧ recalculateInvoiceTotals
      { invoice with lineItems := invoice.lineItems ++ [line] } = .ok after := by
  simp only [insertLine, bind_eq_ok, failWhen_eq_ok, Bool.not_eq_false', exists_const]

theorem foots_withTotals (hfoots : Foots verified invoice) (lines : List InvoiceLineItem)
    (hcheck : invoiceCheck (withTotals { invoice with lineItems := lines }) = true) :
    Foots verified (withTotals { invoice with lineItems := lines }) where
  checked := hcheck
  charges := rfl
  discounts := rfl
  untaxed := hfoots.untaxed
  paid := hfoots.paid

theorem soundInvoice_issue (hfoots : Foots verified invoice) (now : Timestamp) :
    SoundInvoice verified (issue invoice now) where
  checked := hfoots.checked
  charges := hfoots.charges
  discounts := hfoots.discounts
  untaxed := hfoots.untaxed
  paid := hfoots.paid
  started := List.mem_cons_self

end Totals

/-- An invoice with sound totals that can still be edited can be paid. -/
theorem isPayable_of_isEditable (hsound : SoundInvoice verified invoice)
    (heditable : isEditable invoice.status = true) : isPayable invoice.status = true := by
  have hstarted := hsound.started
  revert hstarted heditable
  cases invoice.status <;> decide

theorem leftToPay_issue_iff {now : Timestamp} :
    LeftToPay (issue invoice now) ↔ (0 < invoice.totalAmount → 0 < invoice.amountDue) := by
  constructor
  · exact fun hleft => hleft rfl
  · exact fun hleft _ => hleft

theorem Foots.amounts (hfoots : Foots verified invoice) :
    invoice.totalAmount = chargeTotal invoice.lineItems - discountTotal invoice.lineItems
      ∧ invoice.amountDue = invoice.totalAmount - invoice.amountPaid
      ∧ 0 ≤ invoice.amountPaid ∧ 0 ≤ invoice.amountDue ∧ 0 ≤ discountTotal invoice.lineItems
      ∧ chargeTotal invoice.lineItems ≤ 2_147_483_647 := by
  obtain ⟨hsubtotal, hdiscount, -, -, hpaid, hdue, htotal, hformula, -, -⟩ :=
    invoiceCheck_iff.mp hfoots.checked
  rw [isAmount_iff] at hsubtotal hdiscount hpaid hdue
  rw [hfoots.untaxed] at htotal
  rw [← hfoots.charges, ← hfoots.discounts]
  omega

theorem lineItemCheck_subtotal {line : InvoiceLineItem} (hcheck : lineItemCheck line = true) :
    0 ≤ line.subtotal := by
  simp only [lineItemCheck, Bool.and_eq_true, isAmount_iff] at hcheck
  omega

/-- The invoice with one more line. -/
theorem withTotals_append (hfoots : Foots verified invoice) (line : InvoiceLineItem) :
    (withTotals { invoice with lineItems := invoice.lineItems ++ [line] }).totalAmount
      = invoice.totalAmount + if isDeduction line then -line.subtotal else line.subtotal := by
  have htotal := hfoots.amounts.1
  change chargeTotal (invoice.lineItems ++ [line]) + invoice.taxAmount
    - discountTotal (invoice.lineItems ++ [line]) = _
  rw [chargeTotal_append, discountTotal_append, hfoots.untaxed]
  cases isDeduction line <;> simp only [if_true, Bool.false_eq_true, if_false] <;> omega

/-- Only a deduction can settle an invoice that is left to pay. -/
theorem leftToPay_inserted_iff (hsound : SoundInvoice verified invoice)
    (hleft : LeftToPay invoice) (heditable : isEditable invoice.status = true)
    {line : InvoiceLineItem} (hline : lineItemCheck line = true)
    (hcheck : invoiceCheck (withTotals
      { invoice with lineItems := invoice.lineItems ++ [line] }) = true)
    (now : Timestamp) :
    LeftToPay (issue (withTotals { invoice with lineItems := invoice.lineItems ++ [line] }) now) ↔
      (isDeduction line = true → invoice.totalAmount - line.subtotal = invoice.amountPaid →
        invoice.amountPaid = 0) := by
  have hafter := (foots_withTotals hsound.toFoots _ hcheck).amounts
  have htotal := withTotals_append hsound.toFoots line
  have hpaid : (withTotals { invoice with lineItems := invoice.lineItems ++ [line] }).amountPaid
      = invoice.amountPaid := rfl
  have hbefore := hsound.amounts
  have hdue := hleft (isPayable_of_isEditable hsound heditable)
  have hsubtotal := lineItemCheck_subtotal hline
  rw [leftToPay_issue_iff]
  cases hdeduction : isDeduction line with
  | true =>
      rw [hdeduction, if_pos rfl] at htotal
      constructor
      · intro hnext _ hsettled
        by_contra hne
        omega
      · intro hsettles hpositive
        by_contra hnone
        have hzero := hsettles rfl (by omega)
        omega
  | false =>
      rw [hdeduction, if_neg Bool.false_ne_true] at htotal
      refine iff_of_true (fun hpositive => ?_) (fun hcharge => by cases hcharge)
      by_cases hzero : 0 < invoice.totalAmount
      · have hbefore := hdue hzero
        omega
      · omega

/-- A deduction of all that is left is not refused. -/
theorem insertLine_of_settling (hfoots : Foots verified invoice)
    (heditable : isEditable invoice.status = true) {line : InvoiceLineItem}
    (hline : lineItemCheck line = true) (hdeduction : isDeduction line = true)
    (hsettles : invoice.totalAmount - line.subtotal = invoice.amountPaid) :
    insertLine invoice line
      = .ok (withTotals { invoice with lineItems := invoice.lineItems ++ [line] }) := by
  have hbefore := hfoots.amounts
  have hsubtotal := lineItemCheck_subtotal hline
  have hcharges : chargeTotal (invoice.lineItems ++ [line]) = chargeTotal invoice.lineItems := by
    rw [chargeTotal_append, hdeduction, if_pos rfl, add_zero]
  have hdiscounts : discountTotal (invoice.lineItems ++ [line])
      = discountTotal invoice.lineItems + line.subtotal := by
    rw [discountTotal_append, hdeduction, if_pos rfl]
  rw [insertLine_eq_ok, recalculateInvoiceTotals_eq_ok]
  refine ⟨hline, heditable, ?_, ?_, rfl⟩
  · change discountTotal (invoice.lineItems ++ [line])
      ≤ chargeTotal (invoice.lineItems ++ [line]) + invoice.taxAmount
    rw [hcharges, hdiscounts, hfoots.untaxed]
    omega
  · rw [invoiceCheck_iff]
    simp only [withTotals, hcharges, hdiscounts, hfoots.untaxed, isAmount_iff, true_and]
    have hpaid := (invoiceCheck_iff.mp hfoots.checked).2.2.2.2.1
    rw [isAmount_iff] at hpaid
    omega

/-! ## Accounts -/

theorem sound_set {after : Invoice} (hsound : Sound account)
    (hafter : SoundInvoice (verifiedAmount account.payments position) after) :
    Sound { account with invoices := account.invoices.set position after } where
  invoices := by
    intro other found hfound
    by_cases hsame : other = position
    · subst hsame
      rw [List.getElem?_set_self'] at hfound
      obtain ⟨_, -, rfl⟩ := Option.map_eq_some_iff.mp hfound
      exact hafter
    · rw [List.getElem?_set_ne (Ne.symm hsame)] at hfound
      exact hsound.invoices other found hfound
  payments := by
    intro payment hmem
    rw [List.length_set]
    exact hsound.payments payment hmem

theorem leftToPay_set_iff {after : Invoice}
    (hleft : ∀ invoice ∈ account.invoices, LeftToPay invoice)
    (hinvoice : account.invoices[position]? = some invoice) :
    (∀ invoice ∈ account.invoices.set position after, LeftToPay invoice) ↔ LeftToPay after := by
  obtain ⟨hlt, -⟩ := List.getElem?_eq_some_iff.mp hinvoice
  constructor
  · exact fun hall => hall after (List.mem_set hlt after)
  · intro hafter other hmem
    rcases List.mem_or_eq_of_mem_set hmem with hmem | rfl
    · exact hleft other hmem
    · exact hafter

/-- No payment names an invoice that does not exist yet. -/
theorem verifiedAmount_length (hsound : Sound account) :
    verifiedAmount account.payments account.invoices.length = 0 := by
  apply List.sum_eq_zero
  intro part hpart
  obtain ⟨payment, hpayment, rfl⟩ := List.mem_map.mp hpart
  have hlt := hsound.payments payment hpayment
  exact if_neg fun hboth => absurd hboth.1 hlt.ne

theorem sound_append {after : Invoice} (hsound : Sound account) (hafter : SoundInvoice 0 after) :
    Sound { account with invoices := account.invoices ++ [after] } where
  invoices := by
    intro other found hfound
    rcases lt_trichotomy other account.invoices.length with hlt | rfl | hgt
    · rw [List.getElem?_append_left hlt] at hfound
      exact hsound.invoices other found hfound
    · rw [List.getElem?_concat_length] at hfound
      cases hfound
      rw [verifiedAmount_length hsound]
      exact hafter
    · rw [List.getElem?_eq_none (by rw [List.length_append, List.length_singleton]; omega)]
        at hfound
      cases hfound
  payments := by
    intro payment hmem
    have hlt := hsound.payments payment hmem
    rw [List.length_append, List.length_singleton]
    omega

theorem billingStep_of_ok {command : BillingCommand}
    (hok : billingOutcome account command = .ok account') :
    billingStep account command = account' := by
  rw [billingStep, hok]

theorem billingStep_of_error {command : BillingCommand} {error : BillingWorkflowError}
    (herror : billingOutcome account command = .error error) :
    billingStep account command = account := by
  rw [billingStep, herror]

/-! ## Further lines -/

section AddLine

variable {invoiceId : ℕ} {catalog : List AddOn} {input : LineInput} {now : Timestamp}

theorem addInvoiceLine_eq_ok : addInvoiceLine account invoiceId catalog input now = .ok account' ↔
    ∃ invoice, account.invoices[invoiceId]? = some invoice ∧ isEditable invoice.status = true ∧
      ∃ line, inputLine catalog input = .ok line ∧ ∃ lined, insertLine invoice line = .ok lined ∧
        { account with invoices := account.invoices.set invoiceId (issue lined now) }
          = account' := by
  simp only [addInvoiceLine, bind_eq_ok, orFail_eq_ok, failWhen_eq_ok, pure_eq_ok,
    Bool.not_eq_false', exists_const]

theorem sound_addInvoiceLine (hsound : Sound account)
    (hok : addInvoiceLine account invoiceId catalog input now = .ok account') :
    Sound account' := by
  obtain ⟨invoice, hinvoice, -, line, -, lined, hlined, rfl⟩ := addInvoiceLine_eq_ok.mp hok
  obtain ⟨-, hrecalculated⟩ := insertLine_eq_ok.mp hlined
  obtain ⟨-, -, hcheck, rfl⟩ := recalculateInvoiceTotals_eq_ok.mp hrecalculated
  apply sound_set hsound
  apply soundInvoice_issue
  exact foots_withTotals (hsound.invoices invoiceId invoice hinvoice).toFoots _ hcheck

theorem leavesDue_addInvoiceLine_iff (hsound : Sound account)
    (hleft : ∀ invoice ∈ account.invoices, LeftToPay invoice) :
    (∀ invoice ∈ (billingStep account (.addInvoiceLine invoiceId catalog input now)).invoices,
        LeftToPay invoice)
      ↔ LeavesDue account (.addInvoiceLine invoiceId catalog input now) := by
  cases hresult : billingOutcome account (.addInvoiceLine invoiceId catalog input now) with
  | ok account' =>
      rw [billingStep_of_ok hresult]
      obtain ⟨invoice, hinvoice, heditable, line, hline, lined, hlined, rfl⟩ :=
        addInvoiceLine_eq_ok.mp hresult
      obtain ⟨hchecked, hrecalculated⟩ := insertLine_eq_ok.mp hlined
      obtain ⟨-, -, hcheck, rfl⟩ := recalculateInvoiceTotals_eq_ok.mp hrecalculated
      rw [leftToPay_set_iff hleft hinvoice,
        leftToPay_inserted_iff (hsound.invoices invoiceId invoice hinvoice)
          (hleft invoice (List.mem_of_getElem? hinvoice)) heditable hchecked hcheck]
      constructor
      · intro hsettles found other hfound _ hother _
        cases hinvoice.symm.trans hfound
        cases hline.symm.trans hother
        exact hsettles
      · intro hleaves
        exact hleaves invoice line hinvoice heditable hline hchecked
  | error error =>
      rw [billingStep_of_error hresult]
      refine iff_of_true hleft ?_
      intro invoice line hinvoice heditable hline hchecked hdeduction hsettles
      have hlined := insertLine_of_settling (hsound.invoices invoiceId invoice hinvoice).toFoots
        heditable hchecked hdeduction hsettles
      have hok : billingOutcome account (.addInvoiceLine invoiceId catalog input now) = .ok _ :=
        addInvoiceLine_eq_ok.mpr ⟨invoice, hinvoice, heditable, line, hline, _, hlined, rfl⟩
      rw [hresult] at hok
      cases hok

end AddLine

/-! ## Plan invoices -/

section Plan

variable {after cleared : Invoice} {verified unitPrice : ℤ} {version : PlanVersion}
variable {interval : BillingInterval} {subscription : Subscription}
variable {dueAt now : Timestamp}

theorem planTotal_eq_zero {lines : List InvoiceLineItem} (hnone : ¬ lines.any isBasePlan = true) :
    planTotal lines = 0 := by
  have hfilter : lines.filter isBasePlan = [] := by
    rw [List.filter_eq_nil_iff]
    exact fun line hmem hplan => hnone (List.any_eq_true.mpr ⟨line, hmem, hplan⟩)
  rw [planTotal, hfilter]
  rfl

/-- The invoice without the lines of its plan. -/
theorem deleteBasePlan_eq_ok (hfoots : Foots verified invoice)
    (hok : deleteBasePlan invoice = .ok cleared) :
    Foots verified cleared ∧ cleared.status = invoice.status
      ∧ cleared.amountPaid = invoice.amountPaid
      ∧ cleared.totalAmount = invoice.totalAmount - planTotal invoice.lineItems := by
  unfold deleteBasePlan at hok
  split at hok
  · obtain ⟨-, -, hcheck, rfl⟩ := recalculateInvoiceTotals_eq_ok.mp hok
    refine ⟨foots_withTotals hfoots _ hcheck, rfl, rfl, ?_⟩
    obtain ⟨hcharges, hdiscounts⟩ := totals_filter_basePlan invoice.lineItems
    have hbefore := hfoots.amounts
    change chargeTotal (invoice.lineItems.filter (!isBasePlan ·)) + invoice.taxAmount
      - discountTotal (invoice.lineItems.filter (!isBasePlan ·)) = _
    rw [hcharges, hdiscounts, hfoots.untaxed]
    omega
  · next hnone =>
      cases hok
      rw [planTotal_eq_zero hnone, sub_zero]
      exact ⟨hfoots, rfl, rfl, rfl⟩

theorem pricedInvoice_eq_ok :
    pricedInvoice invoice version interval unitPrice dueAt now = .ok after ↔
      isEditable invoice.status = true ∧ invoice.currency = version.currency ∧
        ∃ cleared, deleteBasePlan invoice = .ok cleared ∧
          ∃ priced, insertLine cleared (basePlanLine version interval unitPrice) = .ok priced ∧
            { issue priced now with dueAt } = after := by
  simp only [pricedInvoice, bind_eq_ok, failWhen_eq_ok, pure_eq_ok, Bool.not_eq_false',
    decide_eq_false_iff_not, ne_eq, not_not, exists_const]

theorem soundInvoice_priced (hfoots : Foots verified invoice)
    (hok : pricedInvoice invoice version interval unitPrice dueAt now = .ok after) :
    SoundInvoice verified after := by
  obtain ⟨-, -, cleared, hcleared, priced, hpriced, rfl⟩ := pricedInvoice_eq_ok.mp hok
  obtain ⟨hcleared, -⟩ := deleteBasePlan_eq_ok hfoots hcleared
  obtain ⟨-, hrecalculated⟩ := insertLine_eq_ok.mp hpriced
  obtain ⟨-, -, hcheck, rfl⟩ := recalculateInvoiceTotals_eq_ok.mp hrecalculated
  have hissued := soundInvoice_issue (foots_withTotals hcleared _ hcheck) now
  exact ⟨⟨hissued.checked, hissued.charges, hissued.discounts, hissued.untaxed, hissued.paid⟩,
    hissued.started⟩

/-- Only a plan that costs nothing can settle an invoice. -/
theorem leftToPay_priced_iff (hfoots : Foots verified invoice)
    (hok : pricedInvoice invoice version interval unitPrice dueAt now = .ok after) :
    LeftToPay after ↔ (unitPrice = 0 →
      invoice.totalAmount - planTotal invoice.lineItems = invoice.amountPaid →
        invoice.amountPaid = 0) := by
  have hsound := soundInvoice_priced hfoots hok
  obtain ⟨-, -, cleared, hcleared, priced, hpriced, rfl⟩ := pricedInvoice_eq_ok.mp hok
  obtain ⟨hclearedFoots, -, hpaid, htotal⟩ := deleteBasePlan_eq_ok hfoots hcleared
  obtain ⟨hline, hrecalculated⟩ := insertLine_eq_ok.mp hpriced
  obtain ⟨-, -, hcheck, rfl⟩ := recalculateInvoiceTotals_eq_ok.mp hrecalculated
  have hprice : 0 ≤ unitPrice := lineItemCheck_subtotal hline
  have hclearedAmounts := hclearedFoots.amounts
  have hafter := (foots_withTotals hclearedFoots _ hcheck).amounts
  have hlined := withTotals_append hclearedFoots (basePlanLine version interval unitPrice)
  have hcharge : (if isDeduction (basePlanLine version interval unitPrice) then
      -(basePlanLine version interval unitPrice).subtotal
      else (basePlanLine version interval unitPrice).subtotal) = unitPrice := rfl
  have hkept : (withTotals { cleared with
      lineItems := cleared.lineItems ++ [basePlanLine version interval unitPrice] }).amountPaid
      = cleared.amountPaid := rfl
  rw [hcharge] at hlined
  have hdate : ∀ priced : Invoice,
      LeftToPay { issue priced now with dueAt } ↔ LeftToPay (issue priced now) := fun _ => Iff.rfl
  rw [hdate, leftToPay_issue_iff]
  constructor
  · intro hnext hfree hsettled
    by_contra hne
    omega
  · intro hsettles hpositive
    by_contra hnone
    have hzero := hsettles (by omega) (by omega)
    omega

/-- A plan that costs nothing is not refused when the rest of the invoice is paid. -/
theorem pricedInvoice_of_settling (hfoots : Foots verified invoice)
    (heditable : isEditable invoice.status = true) (hcurrency : invoice.currency = version.currency)
    (hline : lineItemCheck (basePlanLine version interval 0) = true)
    (hsettles : invoice.totalAmount - planTotal invoice.lineItems = invoice.amountPaid) :
    ∃ after, pricedInvoice invoice version interval 0 dueAt now = .ok after := by
  have hbefore := hfoots.amounts
  have hpaid := (invoiceCheck_iff.mp hfoots.checked).2.2.2.2.1
  rw [isAmount_iff] at hpaid
  obtain ⟨cleared, hdeleted⟩ : ∃ cleared, deleteBasePlan invoice = .ok cleared := by
    unfold deleteBasePlan
    split
    · refine ⟨_, recalculateInvoiceTotals_eq_ok.mpr ⟨heditable, ?_, ?_, rfl⟩⟩
      · change discountTotal (invoice.lineItems.filter (!isBasePlan ·))
          ≤ chargeTotal (invoice.lineItems.filter (!isBasePlan ·)) + invoice.taxAmount
        rw [(totals_filter_basePlan _).1, (totals_filter_basePlan _).2, hfoots.untaxed]
        omega
      · rw [invoiceCheck_iff]
        simp only [withTotals, totals_filter_basePlan, hfoots.untaxed, isAmount_iff, true_and]
        omega
    · exact ⟨invoice, rfl⟩
  obtain ⟨hcleared, hstatus, hkept, htotal⟩ := deleteBasePlan_eq_ok hfoots hdeleted
  have hamounts := hcleared.amounts
  have hcharges : chargeTotal (cleared.lineItems ++ [basePlanLine version interval 0])
      = chargeTotal cleared.lineItems := by
    rw [chargeTotal_append]
    exact add_zero _
  have hdiscounts : discountTotal (cleared.lineItems ++ [basePlanLine version interval 0])
      = discountTotal cleared.lineItems := by
    rw [discountTotal_append]
    exact add_zero _
  refine ⟨_, pricedInvoice_eq_ok.mpr ⟨heditable, hcurrency, cleared, hdeleted, _,
    insertLine_eq_ok.mpr ⟨hline, recalculateInvoiceTotals_eq_ok.mpr ⟨?_, ?_, ?_, rfl⟩⟩, rfl⟩⟩
  · rw [hstatus]
    exact heditable
  · change discountTotal (cleared.lineItems ++ [basePlanLine version interval 0])
      ≤ chargeTotal (cleared.lineItems ++ [basePlanLine version interval 0]) + cleared.taxAmount
    rw [hcharges, hdiscounts, hcleared.untaxed]
    omega
  · rw [invoiceCheck_iff]
    simp only [withTotals, hcharges, hdiscounts, hcleared.untaxed, isAmount_iff, true_and]
    omega

theorem foots_draftInvoice (version : PlanVersion) (period : ℤ × ℤ)
    (dueAt : Timestamp) : Foots 0 (draftInvoice version period dueAt) where
  checked := rfl
  charges := rfl
  discounts := rfl
  untaxed := rfl
  paid := rfl

theorem createPlanInvoice_eq_ok :
    createPlanInvoice account subscription version interval dueAt now = .ok account' ↔
      ∃ unitPrice, requestedPrice subscription version interval now = .ok unitPrice ∧
        ((∃ position invoice after,
            account.invoices.findIdx? (isOfPeriod (billingPeriod interval now)) = some position
            ∧ account.invoices[position]? = some invoice
            ∧ pricedInvoice invoice version interval unitPrice dueAt now = .ok after
            ∧ { account with invoices := account.invoices.set position after } = account')
          ∨ account.invoices.findIdx? (isOfPeriod (billingPeriod interval now)) = none
            ∧ ∃ after, pricedInvoice (draftInvoice version (billingPeriod interval now) dueAt)
                version interval unitPrice dueAt now = .ok after
              ∧ { account with invoices := account.invoices ++ [after] } = account') := by
  unfold createPlanInvoice
  rw [bind_eq_ok]
  apply exists_congr
  intro unitPrice
  apply and_congr_right
  intro _
  dsimp only
  cases account.invoices.findIdx? (isOfPeriod (billingPeriod interval now)) with
  | none =>
      simp only [bind_eq_ok, pure_eq_ok, reduceCtorEq, false_and, exists_false, true_and, false_or]
  | some position =>
      simp only [bind_eq_ok, orFail_eq_ok, pure_eq_ok, Option.some.injEq, reduceCtorEq, false_and,
        or_false]
      constructor
      · rintro ⟨invoice, hinvoice, after, hafter, rfl⟩
        exact ⟨position, invoice, after, rfl, hinvoice, hafter, rfl⟩
      · rintro ⟨_, invoice, after, rfl, hinvoice, hafter, rfl⟩
        exact ⟨invoice, hinvoice, after, hafter, rfl⟩

theorem sound_createPlanInvoice (hsound : Sound account)
    (hok : createPlanInvoice account subscription version interval dueAt now = .ok account') :
    Sound account' := by
  obtain ⟨unitPrice, -, ⟨position, invoice, after, -, hinvoice, hpriced, rfl⟩
    | ⟨-, after, hpriced, rfl⟩⟩ := createPlanInvoice_eq_ok.mp hok
  · exact sound_set hsound
      (soundInvoice_priced (hsound.invoices position invoice hinvoice).toFoots hpriced)
  · exact sound_append hsound (soundInvoice_priced (foots_draftInvoice _ _ _) hpriced)

theorem leavesDue_createPlanInvoice_iff (hsound : Sound account)
    (hleft : ∀ invoice ∈ account.invoices, LeftToPay invoice) :
    (∀ invoice ∈ (billingStep account
        (.createPlanInvoice subscription version interval dueAt now)).invoices, LeftToPay invoice)
      ↔ LeavesDue account (.createPlanInvoice subscription version interval dueAt now) := by
  cases hresult : billingOutcome account
      (.createPlanInvoice subscription version interval dueAt now) with
  | ok account' =>
      rw [billingStep_of_ok hresult]
      obtain ⟨unitPrice, hprice, ⟨position, invoice, after, hfind, hinvoice, hpriced, rfl⟩
        | ⟨hfind, after, hpriced, rfl⟩⟩ := createPlanInvoice_eq_ok.mp hresult
      · rw [leftToPay_set_iff hleft hinvoice,
          leftToPay_priced_iff (hsound.invoices position invoice hinvoice).toFoots hpriced]
        obtain ⟨heditable, hcurrency, cleared, -, priced, hlined, -⟩ :=
          pricedInvoice_eq_ok.mp hpriced
        obtain ⟨hline, -⟩ := insertLine_eq_ok.mp hlined
        constructor
        · intro hsettles hfree _ other found hother hfound _ _
          cases hfind.symm.trans hother
          cases hinvoice.symm.trans hfound
          cases hprice.symm.trans hfree
          exact hsettles rfl
        · rintro hleaves rfl
          exact hleaves hprice hline position invoice hfind hinvoice heditable hcurrency
      · refine iff_of_true (fun invoice hmem => ?_) ?_
        · rcases List.mem_append.mp hmem with hmem | hmem
          · exact hleft invoice hmem
          · rw [List.mem_singleton.mp hmem, leftToPay_priced_iff (foots_draftInvoice _ _ _) hpriced]
            intro _ _
            rfl
        · intro _ _ position _ hposition
          rw [hfind] at hposition
          cases hposition
  | error error =>
      rw [billingStep_of_error hresult]
      refine iff_of_true hleft ?_
      intro hprice hline position invoice hfind hinvoice heditable hcurrency hsettles
      obtain ⟨after, hpriced⟩ := pricedInvoice_of_settling
        (hsound.invoices position invoice hinvoice).toFoots heditable hcurrency hline hsettles
      have hok : billingOutcome account
          (.createPlanInvoice subscription version interval dueAt now) = .ok _ :=
        createPlanInvoice_eq_ok.mpr ⟨0, hprice,
          Or.inl ⟨position, invoice, after, hfind, hinvoice, hpriced, rfl⟩⟩
      rw [hresult] at hok
      cases hok

end Plan

/-! ## Payments -/

section Payments

variable {payments : List ManualPaymentRecord} {payment changed : ManualPaymentRecord}
variable {paymentId : ℕ}

theorem verifiedAmount_append (hpending : payment.verificationStatus = .pendingVerification)
    (invoiceId : ℕ) :
    verifiedAmount (payments ++ [payment]) invoiceId = verifiedAmount payments invoiceId := by
  have hpart : verifiedPart invoiceId payment = 0 := by
    rw [verifiedPart, hpending]
    exact if_neg nofun
  rw [verifiedAmount, List.map_append, List.sum_append, List.map_singleton, List.sum_singleton,
    hpart, add_zero]
  rfl

/-- A pending payment counts for nothing until it is verified. -/
theorem verifiedAmount_set (hpayment : payments[paymentId]? = some payment)
    (hpending : payment.verificationStatus = .pendingVerification) (invoiceId : ℕ) :
    verifiedAmount (payments.set paymentId changed) invoiceId
      = verifiedAmount payments invoiceId + verifiedPart invoiceId changed := by
  obtain ⟨hlt, hget⟩ := List.getElem?_eq_some_iff.mp hpayment
  have hpart : verifiedPart invoiceId payment = 0 := by
    rw [verifiedPart, hpending]
    exact if_neg nofun
  have hlength : paymentId < (payments.map (verifiedPart invoiceId)).length := by
    rw [List.length_map]
    exact hlt
  rw [verifiedAmount, List.map_set, List.sum_set', dif_pos hlength, List.getElem_map, hget, hpart]
  rw [neg_zero, zero_add]
  rfl

theorem submitManualPayment_eq_ok {input : ManualPaymentInput}
    (hok : submitManualPayment account input = .ok account') :
    account' = account ∨ ∃ payment invoice, account.invoices[input.invoiceId]? = some invoice
      ∧ payment.invoiceId = input.invoiceId
      ∧ payment.verificationStatus = .pendingVerification
      ∧ account' = { account with payments := account.payments ++ [payment] } := by
  unfold submitManualPayment at hok
  split at hok
  · simp only [bind_eq_ok, pure_eq_ok] at hok
    obtain ⟨-, -, rfl⟩ := hok
    exact Or.inl rfl
  · simp only [bind_eq_ok, orFail_eq_ok, pure_eq_ok] at hok
    obtain ⟨invoice, hinvoice, -, -, -, -, -, -, rfl⟩ := hok
    exact Or.inr ⟨_, invoice, hinvoice, rfl, rfl, rfl⟩

theorem sound_submitManualPayment {input : ManualPaymentInput} (hsound : Sound account)
    (hok : submitManualPayment account input = .ok account') :
    Sound account' ∧ account'.invoices = account.invoices := by
  rcases submitManualPayment_eq_ok hok with rfl
    | ⟨payment, invoice, hinvoice, hnamed, hpending, rfl⟩
  · exact ⟨hsound, rfl⟩
  · refine ⟨⟨?_, ?_⟩, rfl⟩
    · intro position found hfound
      rw [verifiedAmount_append hpending]
      exact hsound.invoices position found hfound
    · intro other hmem
      rcases List.mem_append.mp hmem with hmem | hmem
      · exact hsound.payments other hmem
      · rw [List.mem_singleton.mp hmem, hnamed]
        obtain ⟨hlt, -⟩ := List.getElem?_eq_some_iff.mp hinvoice
        exact hlt

theorem payments_set (hsound : Sound account)
    (hpayment : account.payments[paymentId]? = some payment)
    (hnamed : changed.invoiceId = payment.invoiceId) :
    ∀ other ∈ account.payments.set paymentId changed,
      other.invoiceId < account.invoices.length := by
  intro other hmem
  rcases List.mem_or_eq_of_mem_set hmem with hmem | rfl
  · exact hsound.payments other hmem
  · rw [hnamed]
    exact hsound.payments payment (List.mem_of_getElem? hpayment)

theorem sound_rejectManualPayment (hsound : Sound account)
    (hok : rejectManualPayment account paymentId = .ok account') :
    Sound account' ∧ account'.invoices = account.invoices := by
  simp only [rejectManualPayment, bind_eq_ok, orFail_eq_ok, failWhen_eq_ok, pure_eq_ok,
    decide_eq_false_iff_not, ne_eq, not_not] at hok
  obtain ⟨payment, hpayment, -, hpending, rfl⟩ := hok
  refine ⟨⟨?_, payments_set hsound hpayment rfl⟩, rfl⟩
  intro position found hfound
  rw [verifiedAmount_set hpayment hpending]
  have hpart : verifiedPart position { payment with verificationStatus := .rejected } = 0 := by
    apply if_neg
    rintro ⟨-, hverified⟩
    cases hverified
  rw [hpart, add_zero]
  exact hsound.invoices position found hfound

/-- Verifying a payment changes nothing, or it counts a pending payment. -/
theorem verifyManualPayment_eq_ok (hok : verifyManualPayment account paymentId = .ok account') :
    account' = account ∨ ∃ payment invoice, account.payments[paymentId]? = some payment
      ∧ payment.verificationStatus = .pendingVerification
      ∧ account.invoices[payment.invoiceId]? = some invoice
      ∧ invoiceCheck (creditedInvoice invoice payment.amount) = true
      ∧ account' = {
        payments := account.payments.set paymentId { payment with verificationStatus := .verified }
        invoices := account.invoices.set payment.invoiceId
          (creditedInvoice invoice payment.amount) } := by
  rw [verifyManualPayment, bind_eq_ok] at hok
  obtain ⟨payment, hpayment, hok⟩ := hok
  rw [orFail_eq_ok] at hpayment
  split at hok
  · cases hok
    exact Or.inl rfl
  · simp only [bind_eq_ok, orFail_eq_ok, failWhen_eq_ok, pure_eq_ok, Bool.not_eq_false',
      decide_eq_false_iff_not, ne_eq, not_not] at hok
    obtain ⟨-, hpending, invoice, hinvoice, -, -, -, -, -, hcheck, rfl⟩ := hok
    exact Or.inr ⟨payment, invoice, hpayment, hpending, hinvoice, hcheck, rfl⟩

theorem soundInvoice_credited {verified amount : ℤ} (hsound : SoundInvoice verified invoice)
    (hcheck : invoiceCheck (creditedInvoice invoice amount) = true) :
    SoundInvoice (verified + amount) (creditedInvoice invoice amount) where
  checked := hcheck
  charges := hsound.charges
  discounts := hsound.discounts
  untaxed := hsound.untaxed
  paid := by rw [← hsound.paid]; rfl
  started := by
    simp only [creditedInvoice]
    split
    · exact List.mem_cons_of_mem _ List.mem_cons_self
    · exact hsound.started

/-- The payment of all that is left marks the invoice as paid. -/
theorem leftToPay_credited {amount : ℤ}
    (hcheck : invoiceCheck (creditedInvoice invoice amount) = true) :
    LeftToPay (creditedInvoice invoice amount) := by
  obtain ⟨-, -, -, -, -, hdue, -, -, -, -⟩ := invoiceCheck_iff.mp hcheck
  rw [isAmount_iff] at hdue
  simp only [LeftToPay, creditedInvoice] at hdue ⊢
  split
  · exact fun hpayable => by cases hpayable
  · intro _ _
    omega

theorem sound_verifyManualPayment (hsound : Sound account)
    (hleft : ∀ invoice ∈ account.invoices, LeftToPay invoice)
    (hok : verifyManualPayment account paymentId = .ok account') :
    Sound account' ∧ ∀ invoice ∈ account'.invoices, LeftToPay invoice := by
  rcases verifyManualPayment_eq_ok hok with rfl
    | ⟨payment, invoice, hpayment, hpending, hinvoice, hcheck, rfl⟩
  · exact ⟨hsound, hleft⟩
  · refine ⟨⟨?_, ?_⟩, (leftToPay_set_iff hleft hinvoice).mpr (leftToPay_credited hcheck)⟩
    · intro position found hfound
      rw [verifiedAmount_set hpayment hpending]
      by_cases hsame : position = payment.invoiceId
      · subst hsame
        rw [List.getElem?_set_self'] at hfound
        obtain ⟨_, -, rfl⟩ := Option.map_eq_some_iff.mp hfound
        have hpart : verifiedPart payment.invoiceId
            { payment with verificationStatus := .verified } = payment.amount := if_pos ⟨rfl, rfl⟩
        rw [hpart]
        exact soundInvoice_credited (hsound.invoices _ invoice hinvoice) hcheck
      · rw [List.getElem?_set_ne (Ne.symm hsame)] at hfound
        have hpart : verifiedPart position { payment with verificationStatus := .verified } = 0 :=
          if_neg fun hboth => hsame hboth.1.symm
        rw [hpart, add_zero]
        exact hsound.invoices position found hfound
    · rw [List.length_set]
      exact payments_set hsound hpayment rfl

end Payments

/-! ## Voided and overdue invoices -/

theorem soundInvoice_withStatus {verified : ℤ} {status : InvoiceStatus}
    (hsound : SoundInvoice verified invoice)
    (hstatus : status ∈ [InvoiceStatus.opened, .paid, .void, .overdue]) :
    SoundInvoice verified { invoice with status } where
  checked := hsound.checked
  charges := hsound.charges
  discounts := hsound.discounts
  untaxed := hsound.untaxed
  paid := hsound.paid
  started := hstatus

theorem sound_voidInvoice (hsound : Sound account)
    (hleft : ∀ invoice ∈ account.invoices, LeftToPay invoice)
    (hok : voidInvoice account position = .ok account') :
    Sound account' ∧ ∀ invoice ∈ account'.invoices, LeftToPay invoice := by
  simp only [voidInvoice, bind_eq_ok, orFail_eq_ok, failWhen_eq_ok, pure_eq_ok] at hok
  obtain ⟨invoice, hinvoice, -, -, -, -, rfl⟩ := hok
  constructor
  · apply sound_set hsound
    exact soundInvoice_withStatus (hsound.invoices position invoice hinvoice) (by decide)
  · rw [leftToPay_set_iff hleft hinvoice]
    exact fun hpayable => by cases hpayable

theorem overdueInvoice_cases (now : Timestamp) (invoice : Invoice) :
    overdueInvoice now invoice = invoice
      ∨ invoice.status = .opened
        ∧ overdueInvoice now invoice = { invoice with status := .overdue } := by
  unfold overdueInvoice
  split
  · next hboth =>
      rw [Bool.and_eq_true, decide_eq_true_eq] at hboth
      exact Or.inr ⟨hboth.1, rfl⟩
  · exact Or.inl rfl

theorem sound_markOverdue (hsound : Sound account)
    (hleft : ∀ invoice ∈ account.invoices, LeftToPay invoice) (now : Timestamp) :
    Sound (markOverdue account now) ∧ ∀ invoice ∈ (markOverdue account now).invoices,
      LeftToPay invoice := by
  refine ⟨⟨?_, ?_⟩, ?_⟩
  · intro position found hfound
    rw [markOverdue, List.getElem?_map] at hfound
    obtain ⟨invoice, hinvoice, rfl⟩ := Option.map_eq_some_iff.mp hfound
    have hinvoiceSound := hsound.invoices position invoice hinvoice
    rcases overdueInvoice_cases now invoice with hsame | ⟨-, hoverdue⟩
    · rw [hsame]
      exact hinvoiceSound
    · rw [hoverdue]
      exact soundInvoice_withStatus hinvoiceSound (by decide)
  · intro payment hmem
    rw [markOverdue, List.length_map]
    exact hsound.payments payment hmem
  · intro found hfound
    obtain ⟨invoice, hmem, rfl⟩ := List.mem_map.mp hfound
    rcases overdueInvoice_cases now invoice with hsame | ⟨hopened, hoverdue⟩
    · rw [hsame]
      exact hleft invoice hmem
    · rw [hoverdue]
      have hpayable : isPayable invoice.status = true := by rw [hopened]; rfl
      exact fun _ => hleft invoice hmem hpayable

/-! ## Runs -/

/-- What every command keeps. -/
theorem sound_step (hsound : Sound account)
    (hleft : ∀ invoice ∈ account.invoices, LeftToPay invoice) (command : BillingCommand) :
    Sound (billingStep account command) := by
  cases hresult : billingOutcome account command with
  | error error =>
      rw [billingStep_of_error hresult]
      exact hsound
  | ok account' =>
      rw [billingStep_of_ok hresult]
      cases command with
      | createPlanInvoice subscription version interval dueAt now =>
          exact sound_createPlanInvoice hsound hresult
      | addInvoiceLine invoiceId catalog input now => exact sound_addInvoiceLine hsound hresult
      | submitManualPayment input => exact (sound_submitManualPayment hsound hresult).1
      | verifyManualPayment paymentId => exact (sound_verifyManualPayment hsound hleft hresult).1
      | rejectManualPayment paymentId => exact (sound_rejectManualPayment hsound hresult).1
      | voidInvoice invoiceId => exact (sound_voidInvoice hsound hleft hresult).1
      | markOverdue now =>
          cases hresult
          exact (sound_markOverdue hsound hleft now).1

theorem leavesDue_iff (hsound : Sound account)
    (hleft : ∀ invoice ∈ account.invoices, LeftToPay invoice) (command : BillingCommand) :
    (∀ invoice ∈ (billingStep account command).invoices, LeftToPay invoice)
      ↔ LeavesDue account command := by
  have hkept : (∀ account', billingOutcome account command = .ok account' →
      ∀ invoice ∈ account'.invoices, LeftToPay invoice) →
      ∀ invoice ∈ (billingStep account command).invoices, LeftToPay invoice := by
    intro hok
    cases hresult : billingOutcome account command with
    | error error =>
        rw [billingStep_of_error hresult]
        exact hleft
    | ok account' =>
        rw [billingStep_of_ok hresult]
        exact hok account' hresult
  cases command with
  | createPlanInvoice subscription version interval dueAt now =>
      exact leavesDue_createPlanInvoice_iff hsound hleft
  | addInvoiceLine invoiceId catalog input now => exact leavesDue_addInvoiceLine_iff hsound hleft
  | submitManualPayment input =>
      refine iff_of_true (hkept fun account' hok => ?_) trivial
      rw [(sound_submitManualPayment hsound hok).2]
      exact hleft
  | verifyManualPayment paymentId =>
      refine iff_of_true (hkept fun account' hok => ?_) trivial
      exact (sound_verifyManualPayment hsound hleft hok).2
  | rejectManualPayment paymentId =>
      refine iff_of_true (hkept fun account' hok => ?_) trivial
      rw [(sound_rejectManualPayment hsound hok).2]
      exact hleft
  | voidInvoice invoiceId =>
      refine iff_of_true (hkept fun account' hok => ?_) trivial
      exact (sound_voidInvoice hsound hleft hok).2
  | markOverdue now =>
      refine iff_of_true (hkept fun account' hok => ?_) trivial
      cases hok
      exact (sound_markOverdue hsound hleft now).2

theorem sound_opened : Sound .opened where
  invoices _ _ hfound := by cases hfound
  payments _ hmem := absurd hmem List.not_mem_nil

/-- In every state of a run all invoices settle, exactly when nothing but a payment
settles an invoice in it. -/
theorem invoices_settle_iff (commands : List BillingCommand) :
    (∀ before, before <+: commands → AllSettle (exec billingStep .opened before))
      ↔ Safely billingStep LeavesDue .opened commands := by
  have hopened : AllSettle .opened := fun _ _ hfound => by cases hfound
  rw [forall_prefix_iff AllSettle, and_iff_right hopened]
  have hstep : ∀ account command, Sound account ∧ AllSettle account →
      (AllSettle (billingStep account command) ↔ LeavesDue account command) := by
    rintro account command ⟨hsound, hsettle⟩
    have hleft := (allSettle_iff hsound).mp hsettle
    rw [allSettle_iff (sound_step hsound hleft command)]
    exact leavesDue_iff hsound hleft command
  apply safely_congr (fun account => Sound account ∧ AllSettle account) hstep
  · rintro account command ⟨hsound, hsettle⟩ hleaves
    have hleft := (allSettle_iff hsound).mp hsettle
    exact ⟨sound_step hsound hleft command, (hstep account command ⟨hsound, hsettle⟩).mpr hleaves⟩
  · exact ⟨sound_opened, hopened⟩

/-! ## A credit for the rest -/

def samplePlan : PlanVersion where
  id := 1
  planCode := "LITE".toList
  displayName := "Lite".toList
  billingInterval := .monthly
  pricingMode := .fixed
  basePrice := 100
  annualPrice := none
  currency := "TWD".toList

/-- A plan for 100 of which 60 are paid and 40 are credited. -/
def creditOfRest : List BillingCommand := [
  .createPlanInvoice ⟨false, 0, 0⟩ samplePlan .monthly 0 0,
  .submitManualPayment ⟨0, .cash, 60, "payment-1".toList⟩,
  .verifyManualPayment 0,
  .addInvoiceLine 0 [] (.manual .credit "GOODWILL".toList "goodwill".toList 1 40) 0]

/-- The invoice is open and has nothing left to pay. -/
theorem credit_of_rest_stays_open :
    let final := exec billingStep .opened creditOfRest
    final.invoices.map (fun invoice => (invoice.status, invoice.totalAmount, invoice.amountDue))
        = [(.opened, 60, 0)]
      ∧ ¬ AllSettle final := by
  have hfinal : (exec billingStep .opened creditOfRest).invoices.map
      (fun invoice => (invoice.status, invoice.totalAmount, invoice.amountDue))
      = [(.opened, 60, 0)] := by decide
  refine ⟨hfinal, fun hsettle => ?_⟩
  obtain ⟨invoice, hinvoice, hamounts⟩ := List.map_eq_singleton_iff.mp hfinal
  have hfirst := hsettle 0 invoice (by rw [hinvoice]; rfl)
  have hstatus : invoice.status = .opened := congrArg (·.1) hamounts
  have htotal : invoice.totalAmount = 60 := congrArg (·.2.1) hamounts
  have hdue : invoice.amountDue = 0 := congrArg (·.2.2) hamounts
  have hpositive := hfirst.unpaid (by rw [hstatus]; rfl) (by rw [htotal]; decide)
  rw [hdue] at hpositive
  exact lt_irrefl 0 hpositive

end Stallorder.SettledInvoices
