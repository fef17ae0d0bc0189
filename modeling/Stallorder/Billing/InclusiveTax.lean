import Stallorder.Billing.TaxPolicy

/-!
# Usage lines of prices that include tax

When prices include tax, closing a period takes the tax of the invoice out of
the usage lines again.  Line by line rounding is always fair to the lines.  A
tax rounded once for the invoice is shared out in proportion to the charges, by
quotients of doubles, and the units that rounding left over go to the first lines
even when a line has no charge.
-/

namespace Stallorder.TaxPolicy

open Allocation Checks Doubles
open InvoiceWorkflow (isAmount isAmount_iff)

variable {policy : BillingTaxPolicy} {charges : List ℤ} {amount : ℤ}

/-! ## Rounding -/

section Rounding

variable {numerator denominator : ℤ}

theorem floor_le_roundQuotient (mode : BillingTaxRoundingMode) :
    numerator / denominator ≤ roundQuotient numerator denominator mode := by
  cases mode <;> simp only [roundQuotient]
  · split <;> omega
  · split
    · exact le_rfl
    · split
      · omega
      · split <;> omega
  · exact le_rfl
  · split <;> omega

/-- Rounding goes up by less than one. -/
theorem roundQuotient_mul_lt (hpos : 0 < denominator) (mode : BillingTaxRoundingMode) :
    roundQuotient numerator denominator mode * denominator < numerator + denominator := by
  have hsplit := Int.mul_ediv_add_emod numerator denominator
  have hnonneg := Int.emod_nonneg numerator hpos.ne'
  have hfloor : numerator / denominator * denominator < numerator + denominator := by
    rw [mul_comm]
    omega
  have hup : 0 < numerator % denominator →
      (numerator / denominator + 1) * denominator < numerator + denominator := by
    intro hremainder
    rw [add_mul, mul_comm, one_mul]
    omega
  cases mode <;> simp only [roundQuotient]
  · split
    · exact hfloor
    · exact hup (by omega)
  · split
    · exact hfloor
    · split
      · exact hup (by omega)
      · split
        · exact hfloor
        · exact hup (by omega)
  · exact hfloor
  · split
    · next hremainder => exact hup hremainder
    · rw [add_zero]
      exact hfloor

end Rounding

/-! ## The tax within an amount -/

def taxRate (policy : BillingTaxPolicy) : ℤ := policy.rateBps.getD 0

/-- The tax within an amount that includes it. -/
def taxWithin (policy : BillingTaxPolicy) (amount : ℤ) : ℤ :=
  roundQuotient (amount * taxRate policy) (10_000 + taxRate policy) policy.roundingMode

/-- An accepted policy under which prices include tax. -/
structure AcceptedInclusive (policy : BillingTaxPolicy) : Prop where
  inclusive : policy.treatment = .inclusive
  accepted : assertTaxPolicy policy = .ok ()

theorem AcceptedInclusive.rate (haccepted : AcceptedInclusive policy) :
    0 ≤ taxRate policy ∧ taxRate policy ≤ 10_000 := by
  have hassert := haccepted.accepted
  rw [assertTaxPolicy, haccepted.inclusive] at hassert
  simp only [failWhen_eq_ok, Bool.or_eq_false_iff, Bool.not_eq_false'] at hassert
  obtain ⟨⟨-, hrate⟩, -⟩ := hassert
  unfold rateAccepted at hrate
  unfold taxRate
  cases hbps : policy.rateBps with
  | none =>
      rw [hbps] at hrate
      cases hrate
  | some rate =>
      rw [hbps, Option.any_some, Bool.and_eq_true, decide_eq_true_eq, decide_eq_true_eq] at hrate
      exact hrate

theorem AcceptedInclusive.taxWithin_mul_lt (haccepted : AcceptedInclusive policy) (amount : ℤ) :
    taxWithin policy amount * (10_000 + taxRate policy)
      < amount * taxRate policy + (10_000 + taxRate policy) := by
  obtain ⟨hrate, -⟩ := haccepted.rate
  exact roundQuotient_mul_lt (by omega) policy.roundingMode

/-- The tax within an amount is part of the amount. -/
theorem AcceptedInclusive.taxWithin_bounds (haccepted : AcceptedInclusive policy)
    (hamount : 0 ≤ amount) : 0 ≤ taxWithin policy amount ∧ taxWithin policy amount ≤ amount := by
  obtain ⟨hrate, -⟩ := haccepted.rate
  have hpos : 0 < 10_000 + taxRate policy := by omega
  constructor
  · exact (Int.ediv_nonneg (mul_nonneg hamount hrate) hpos.le).trans
      (floor_le_roundQuotient policy.roundingMode)
  · have hlt := haccepted.taxWithin_mul_lt amount
    by_contra hmore
    have hmul := mul_le_mul_of_nonneg_right (Int.add_one_le_of_lt (not_le.mp hmore)) hpos.le
    nlinarith

/-- A tax that is all of a positive amount is that of a single unit. -/
theorem AcceptedInclusive.eq_one_of_taxWithin_eq (haccepted : AcceptedInclusive policy)
    (hamount : 0 < amount) (hall : taxWithin policy amount = amount) : amount = 1 := by
  have hlt := haccepted.taxWithin_mul_lt amount
  obtain ⟨-, hrate⟩ := haccepted.rate
  rw [hall, mul_add] at hlt
  omega

/-! ## What closing computes -/

theorem isSafeInteger_of_nonneg (hamount : 0 ≤ amount) :
    isSafeInteger amount = decide (amount ≤ maxSafeInteger) := by
  have hlower : -maxSafeInteger ≤ amount := by
    unfold maxSafeInteger
    omega
  rw [isSafeInteger, decide_eq_true hlower, Bool.true_and]

theorem assertMoney_eq_ok_iff (hamount : 0 ≤ amount) :
    assertMoney amount = .ok () ↔ amount ≤ maxSafeInteger := by
  rw [assertMoney, failWhen_eq_ok, isSafeInteger_of_nonneg hamount]
  simp [not_lt.mpr hamount]

theorem AcceptedInclusive.includedTax_eq_ok_iff (haccepted : AcceptedInclusive policy)
    (hamount : 0 ≤ amount) :
    includedTax policy amount = .ok (taxWithin policy amount) ↔
      amount * taxRate policy ≤ maxSafeInteger := by
  obtain ⟨hrate, -⟩ := haccepted.rate
  have hpos : ¬10_000 + policy.rateBps.getD 0 ≤ 0 := by
    change ¬10_000 + taxRate policy ≤ 0
    omega
  unfold includedTax roundRatio
  rw [bind_eq_ok]
  simp only [failWhen_eq_ok, decide_eq_false hpos, Bool.or_false, Bool.not_eq_false']
  change (∃ _, isSafeInteger (amount * taxRate policy) = true ∧ _) ↔ _
  rw [isSafeInteger_of_nonneg (mul_nonneg hamount hrate), decide_eq_true_eq]
  constructor
  · rintro ⟨_, hsafe, -⟩
    exact hsafe
  · intro hsafe
    exact ⟨(), hsafe, rfl⟩

theorem eq_taxWithin_of_includedTax {tax : ℤ} (htax : includedTax policy amount = .ok tax) :
    tax = taxWithin policy amount := by
  obtain ⟨_, -, hpure⟩ := bind_eq_ok.mp htax
  exact (pure_eq_ok.mp hpure).symm

/-- The tax of amounts that include it. -/
def includedBillingTax (policy : BillingTaxPolicy) (taxableAmount : ℤ) (amounts : List ℤ) :
    BillingTax where
  subtotal := taxableAmount - (amounts.map (taxWithin policy)).sum
  taxAmount := (amounts.map (taxWithin policy)).sum
  totalAmount := taxableAmount

theorem AcceptedInclusive.calculateBillingTax_eq_ok_iff (haccepted : AcceptedInclusive policy)
    {taxableAmount : ℤ} (hamount : 0 ≤ taxableAmount) {lineAmounts : Option (List ℤ)}
    {tax : BillingTax} :
    calculateBillingTax policy taxableAmount lineAmounts = .ok tax ↔
      taxableAmount ≤ maxSafeInteger ∧
        ∃ amounts, roundedAmounts policy taxableAmount lineAmounts = .ok amounts
          ∧ (∀ amount ∈ amounts, includedTax policy amount = .ok (taxWithin policy amount))
          ∧ tax = includedBillingTax policy taxableAmount amounts := by
  have hmapM : ∀ {amounts taxes : List ℤ}, amounts.mapM (includedTax policy) = .ok taxes ↔
      (∀ amount ∈ amounts, includedTax policy amount = .ok (taxWithin policy amount))
        ∧ taxes = amounts.map (taxWithin policy) :=
    mapM_eq_ok_iff fun _ _ _ htax => eq_taxWithin_of_includedTax htax
  unfold calculateBillingTax
  rw [bind_eq_ok, haccepted.accepted]
  simp only [haccepted.inclusive, bind_ok]
  constructor
  · rintro ⟨⟨⟩, hmoney, hrest⟩
    obtain ⟨amounts, hrounded, hrest⟩ := bind_eq_ok.mp hrest
    obtain ⟨taxes, htaxes, hpure⟩ := bind_eq_ok.mp hrest
    obtain ⟨hall, rfl⟩ := hmapM.mp htaxes
    exact ⟨(assertMoney_eq_ok_iff hamount).mp hmoney, amounts, hrounded, hall,
      (pure_eq_ok.mp hpure).symm⟩
  · rintro ⟨hsafe, amounts, hrounded, hall, rfl⟩
    refine ⟨(), (assertMoney_eq_ok_iff hamount).mpr hsafe, bind_eq_ok.mpr ⟨amounts, hrounded, ?_⟩⟩
    exact bind_eq_ok.mpr ⟨_, hmapM.mpr ⟨hall, rfl⟩, rfl⟩

/-! ## The shares of the lines -/

/-- What rounding the shares of the tax of the invoice takes from the lines, in fractions of
the total. -/
def taxLoss (policy : BillingTaxPolicy) (charges : List ℤ) : ℤ :=
  roundingLoss (flooredShare (taxWithin policy charges.sum) charges.sum)
    (taxWithin policy charges.sum) charges

/-- The quotients of doubles are exact up to less than a unit over the whole tax. -/
theorem roundsDown_flooredShare {total : ℤ} (htotal : 0 ≤ total) (hsmall : total < 2 ^ 51)
    (hnonneg : ∀ charge ∈ charges, 0 ≤ charge) (hpos : 0 < charges.sum) :
    RoundsDown (flooredShare total charges.sum) total charges (1 / 2 ^ 51) := by
  have hsum : (0 : ℚ) < charges.sum := Int.cast_pos.mpr hpos
  have hproduct : ∀ charge ∈ charges, (0 : ℚ) ≤ total * charge := by
    intro charge hcharge
    exact_mod_cast mul_nonneg htotal (hnonneg charge hcharge)
  constructor
  · intro charge hcharge
    apply Int.floor_nonneg.mpr
    exact toDouble_nonneg (div_nonneg (toDouble_nonneg (hproduct charge hcharge)) hsum.le)
  · intro charge hcharge
    exact (Int.floor_le _).trans (toDouble_div_bounds (hproduct charge hcharge) hsum).2
  · intro charge hcharge
    exact (toDouble_div_bounds (hproduct charge hcharge) hsum).1.trans_lt (Int.lt_floor_add_one _)
  · have hbound : (total : ℚ) < 2 ^ 51 := by exact_mod_cast hsmall
    rw [mul_one_div]
    exact (div_lt_one (by positivity)).mpr hbound

theorem AcceptedInclusive.roundsDown (haccepted : AcceptedInclusive policy)
    (hnonneg : ∀ charge ∈ charges, 0 ≤ charge) (hpos : 0 < charges.sum)
    (hproduct : charges.sum * taxRate policy ≤ maxSafeInteger) :
    RoundsDown (flooredShare (taxWithin policy charges.sum) charges.sum)
      (taxWithin policy charges.sum) charges (1 / 2 ^ 51) := by
  obtain ⟨htax, -⟩ := haccepted.taxWithin_bounds hpos.le
  have hlt := haccepted.taxWithin_mul_lt charges.sum
  obtain ⟨hrate, hrateLe⟩ := haccepted.rate
  have hpart : taxWithin policy charges.sum * 10_000
      ≤ taxWithin policy charges.sum * (10_000 + taxRate policy) :=
    mul_le_mul_of_nonneg_left (by omega) htax
  unfold maxSafeInteger at hproduct
  exact roundsDown_flooredShare htax (by omega) hnonneg hpos

/-- The shares of the lines add up to the tax of the invoice. -/
theorem AcceptedInclusive.sum_allocate_taxWithin (haccepted : AcceptedInclusive policy)
    (hnonneg : ∀ charge ∈ charges, 0 ≤ charge)
    (hproduct : charges.sum * taxRate policy ≤ maxSafeInteger) :
    (allocate (flooredShare (taxWithin policy charges.sum) charges.sum)
      (taxWithin policy charges.sum) charges).sum = taxWithin policy charges.sum := by
  have hsum : 0 ≤ charges.sum := List.sum_nonneg hnonneg
  rcases hsum.eq_or_lt with hzero | hpos
  · obtain ⟨htax, htaxLe⟩ := haccepted.taxWithin_bounds hsum
    rw [allocate, if_pos hzero.symm]
    simp only [List.map_const', List.sum_replicate, smul_zero]
    omega
  · exact (haccepted.roundsDown hnonneg hpos hproduct).sum_allocate hpos

/-- The shares lie within the charges exactly when no unit left over reaches a line without
a charge. -/
theorem AcceptedInclusive.shares_within_iff (haccepted : AcceptedInclusive policy)
    (hnonneg : ∀ charge ∈ charges, 0 ≤ charge)
    (hproduct : charges.sum * taxRate policy ≤ maxSafeInteger) :
    List.Forall₂ (fun tax charge => 0 ≤ tax ∧ tax ≤ charge)
        (allocate (flooredShare (taxWithin policy charges.sum) charges.sum)
          (taxWithin policy charges.sum) charges) charges ↔
      ∀ (index : ℕ) (hindex : index < charges.length), charges[index] = 0 →
        taxLoss policy charges ≤ index * charges.sum := by
  have hsum : 0 ≤ charges.sum := List.sum_nonneg hnonneg
  obtain ⟨htax, htaxLe⟩ := haccepted.taxWithin_bounds hsum
  rcases hsum.eq_or_lt with hzero | hpos
  · have hloss : taxLoss policy charges = 0 := by
      have hnone : taxWithin policy charges.sum = 0 := by omega
      rw [taxLoss, ← leftover_mul_sum, ← hzero, mul_zero]
    constructor
    · intro _ index _ _
      rw [hloss, ← hzero, mul_zero]
    · intro _
      rw [allocate, if_pos hzero.symm, List.forall₂_map_left_iff, List.forall₂_same]
      exact fun charge hcharge => ⟨le_rfl, hnonneg charge hcharge⟩
  · have hrounds := haccepted.roundsDown hnonneg hpos hproduct
    have htotal : taxWithin policy charges.sum < charges.sum
        ∨ taxWithin policy charges.sum = charges.sum ∧ ∀ charge ∈ charges,
          flooredShare (taxWithin policy charges.sum) charges.sum charge = charge := by
      rcases htaxLe.lt_or_eq with hless | hall
      · exact .inl hless
      · refine .inr ⟨hall, fun charge hcharge => ?_⟩
        have hone := haccepted.eq_one_of_taxWithin_eq hpos hall
        have hle := List.single_le_sum hnonneg charge hcharge
        have hcases : charge = 0 ∨ charge = 1 := by
          have hlower := hnonneg charge hcharge
          omega
        rw [hall, hone]
        rcases hcases with rfl | rfl
        · decide +kernel
        · decide +kernel
    rw [taxLoss, ← hrounds.allocate_le_iff hpos hnonneg htotal, List.forall₂_iff_get]
    constructor
    · rintro ⟨-, hall⟩ index hindex
      exact (hall index (by simpa using hindex) hindex).2
    · intro hall
      refine ⟨length_allocate _ _ _, fun index hshare hindex => ⟨?_, hall index hindex⟩⟩
      exact hrounds.allocate_nonneg hpos _ (List.getElem_mem hshare)

/-! ## When the lines are fair -/

/-- The taxes of the lines and the subtotals of a closed period. -/
structure SplitFairly (charges : List ℤ) (closed : ClosedUsage) : Prop where
  taxWithinCharge : List.Forall₂ (fun tax charge => 0 ≤ tax ∧ tax ≤ charge)
    closed.lineTaxes charges
  taxesAddUp : closed.lineTaxes.sum = closed.tax.taxAmount
  subtotalNonneg : ∀ subtotal ∈ closed.lineSubtotals, 0 ≤ subtotal
  subtotalsAddUp : closed.lineSubtotals.sum = closed.tax.subtotal

/-- Closing succeeds and takes the tax fairly out of the lines. -/
def ClosesFairly (policy : BillingTaxPolicy) (charges : List ℤ) : Prop :=
  ∃ closed, closeUsage policy charges = .ok closed ∧ SplitFairly charges closed

/-- The total fits into its column, there is a line when lines are rounded, and no unit left
over by the shares reaches a line without a charge: before such a line stand at least as
many lines as the losses of the shares make full totals. -/
def FairlySplittable (policy : BillingTaxPolicy) (charges : List ℤ) : Prop :=
  charges.sum ≤ 2_147_483_647
    ∧ (policy.roundingScope = .stallLine → charges ≠ [])
    ∧ (policy.roundingScope = .invoice →
      ∀ (index : ℕ) (hindex : index < charges.length), charges[index] = 0 →
        taxLoss policy charges ≤ index * charges.sum)

instance : Decidable (FairlySplittable policy charges) :=
  inferInstanceAs (Decidable (_ ∧ _ ∧ _))

theorem sum_zipWith_sub {taxes : List ℤ} (hlength : taxes.length = charges.length) :
    (List.zipWith (fun charge tax => charge - tax) charges taxes).sum
      = charges.sum - taxes.sum := by
  induction charges generalizing taxes with
  | nil =>
      have hnil : taxes = [] := List.eq_nil_of_length_eq_zero hlength
      simp [hnil]
  | cons charge charges ih =>
      cases taxes with
      | nil => cases hlength
      | cons tax taxes =>
          rw [List.zipWith_cons_cons, List.sum_cons, List.sum_cons, List.sum_cons,
            ih (Nat.succ.inj hlength)]
          ring

/-- The subtotals of lines whose tax is within the charge. -/
theorem subtotal_bounds {taxes : List ℤ} {bound : ℤ}
    (hwithin : List.Forall₂ (fun tax charge => 0 ≤ tax ∧ tax ≤ charge) taxes charges)
    (hbound : ∀ charge ∈ charges, charge ≤ bound) :
    ∀ subtotal ∈ List.zipWith (fun charge tax => charge - tax) charges taxes,
      0 ≤ subtotal ∧ subtotal ≤ bound := by
  induction hwithin with
  | nil => simp
  | cons hline _ ih =>
      obtain ⟨hcharge, hrest⟩ := List.forall_mem_cons.mp hbound
      rw [List.zipWith_cons_cons, List.forall_mem_cons]
      exact ⟨⟨by omega, by omega⟩, ih hrest⟩

theorem sum_bounds {taxes : List ℤ}
    (hwithin : List.Forall₂ (fun tax charge => 0 ≤ tax ∧ tax ≤ charge) taxes charges) :
    0 ≤ taxes.sum ∧ taxes.sum ≤ charges.sum := by
  induction hwithin with
  | nil => exact ⟨le_rfl, le_rfl⟩
  | cons hline _ ih =>
      rw [List.sum_cons, List.sum_cons]
      omega

theorem AcceptedInclusive.totalAmount_of_usageTax (haccepted : AcceptedInclusive policy)
    (hnonneg : ∀ charge ∈ charges, 0 ≤ charge) {tax : BillingTax}
    (htax : usageTax policy charges = .ok tax) : tax.totalAmount = charges.sum := by
  obtain ⟨-, amounts, -, -, rfl⟩ :=
    (haccepted.calculateBillingTax_eq_ok_iff (List.sum_nonneg hnonneg)).mp htax
  rfl

/-- A product of an amount of a column and a rate is safe. -/
theorem AcceptedInclusive.product_le (haccepted : AcceptedInclusive policy)
    (hamount : 0 ≤ amount) (hle : amount ≤ 2_147_483_647) :
    amount * taxRate policy ≤ maxSafeInteger := by
  obtain ⟨-, hrate⟩ := haccepted.rate
  have hproduct : amount * taxRate policy ≤ amount * 10_000 :=
    mul_le_mul_of_nonneg_left hrate hamount
  unfold maxSafeInteger
  omega

/-- Closing is fair when the tax of the invoice and the taxes of the lines are computed, the
total fits into its column, and the taxes fit to the charges and to the tax of the invoice. -/
theorem AcceptedInclusive.closesFairly_iff (haccepted : AcceptedInclusive policy)
    (hnonneg : ∀ charge ∈ charges, 0 ≤ charge) :
    ClosesFairly policy charges ↔
      charges.sum ≤ 2_147_483_647 ∧
        ∃ tax taxes, usageTax policy charges = .ok tax
          ∧ calculateInclusiveLineTaxes charges tax.taxAmount policy = .ok taxes
          ∧ List.Forall₂ (fun tax charge => 0 ≤ tax ∧ tax ≤ charge) taxes charges
          ∧ taxes.sum = tax.taxAmount ∧ charges.sum - taxes.sum = tax.subtotal := by
  have hextracted : ∀ total, extractedTaxes policy charges total
      = calculateInclusiveLineTaxes charges total policy := by
    intro total
    rw [extractedTaxes, haccepted.inclusive]
  unfold ClosesFairly closeUsage
  constructor
  · rintro ⟨closed, hclosed, hfair⟩
    obtain ⟨tax, htax, hrest⟩ := bind_eq_ok.mp hclosed
    obtain ⟨taxes, htaxes, hrest⟩ := bind_eq_ok.mp hrest
    obtain ⟨-, -, hrest⟩ := bind_eq_ok.mp hrest
    obtain ⟨⟨⟩, hfits, hpure⟩ := bind_eq_ok.mp hrest
    cases pure_eq_ok.mp hpure
    rw [hextracted] at htaxes
    simp only [failWhen_eq_ok, Bool.not_eq_false', fitsColumns, Bool.and_eq_true,
      isAmount_iff] at hfits
    rw [← haccepted.totalAmount_of_usageTax hnonneg htax]
    refine ⟨hfits.2.2, tax, taxes, htax, htaxes, hfair.taxWithinCharge, hfair.taxesAddUp, ?_⟩
    rw [haccepted.totalAmount_of_usageTax hnonneg htax,
      ← sum_zipWith_sub hfair.taxWithinCharge.length_eq]
    exact hfair.subtotalsAddUp
  · rintro ⟨htotal, tax, taxes, htax, htaxes, hwithin, hsum, hsubtotal⟩
    have hcharge : ∀ charge ∈ charges, charge ≤ 2_147_483_647 := fun charge hmem =>
      (List.single_le_sum hnonneg charge hmem).trans htotal
    have hlines := subtotal_bounds hwithin hcharge
    have hall : (List.zipWith (fun charge tax => charge - tax) charges taxes).all isAmount
        = true := by
      rw [List.all_eq_true]
      exact fun subtotal hmem => isAmount_iff.mpr (hlines subtotal hmem)
    have hfits : fitsColumns tax = true := by
      obtain ⟨hlower, hupper⟩ := sum_bounds hwithin
      simp only [fitsColumns, Bool.and_eq_true, isAmount_iff,
        haccepted.totalAmount_of_usageTax hnonneg htax]
      omega
    refine ⟨⟨tax, taxes, List.zipWith (fun charge tax => charge - tax) charges taxes⟩, ?_, ?_⟩
    · apply bind_eq_ok.mpr
      refine ⟨tax, htax, bind_eq_ok.mpr ⟨taxes, (hextracted _).trans htaxes, ?_⟩⟩
      refine bind_eq_ok.mpr ⟨(), failWhen_eq_ok.mpr (by rw [hall]; rfl), ?_⟩
      exact bind_eq_ok.mpr ⟨(), failWhen_eq_ok.mpr (by rw [hfits]; rfl), rfl⟩
    · exact ⟨hwithin, hsum, fun subtotal hmem => (hlines subtotal hmem).1,
        (sum_zipWith_sub hwithin.length_eq).trans hsubtotal⟩

/-! ### Line by line -/

theorem validateLineAmounts_eq_ok_iff (hnonneg : ∀ charge ∈ charges, 0 ≤ charge)
    {amounts : List ℤ} :
    validateLineAmounts (some charges) charges.sum = .ok amounts ↔
      charges ≠ [] ∧ (∀ charge ∈ charges, charge ≤ maxSafeInteger) ∧ amounts = charges := by
  unfold validateLineAmounts
  rw [bind_eq_ok]
  constructor
  · rintro ⟨values, hvalues, hrest⟩
    obtain ⟨⟨⟩, hmoney, hrest⟩ := bind_eq_ok.mp hrest
    obtain ⟨-, -, hpure⟩ := bind_eq_ok.mp hrest
    rw [orFail_eq_ok, Option.filter_eq_some_iff] at hvalues
    obtain ⟨hsome, hnonempty⟩ := hvalues
    cases hsome
    rw [forM_eq_ok_iff] at hmoney
    exact ⟨of_decide_eq_true hnonempty, fun charge hmem =>
      (assertMoney_eq_ok_iff (hnonneg charge hmem)).mp (hmoney charge hmem),
      (pure_eq_ok.mp hpure).symm⟩
  · rintro ⟨hnonempty, hsafe, rfl⟩
    refine ⟨amounts, ?_, bind_eq_ok.mpr ⟨(), ?_, bind_eq_ok.mpr ⟨(), ?_, rfl⟩⟩⟩
    · rw [orFail_eq_ok, Option.filter_eq_some_iff]
      exact ⟨rfl, decide_eq_true hnonempty⟩
    · rw [forM_eq_ok_iff]
      exact fun charge hmem =>
        (assertMoney_eq_ok_iff (hnonneg charge hmem)).mpr (hsafe charge hmem)
    · rw [failWhen_eq_ok]
      simp

theorem AcceptedInclusive.lineTax_eq_ok_iff (haccepted : AcceptedInclusive policy)
    (hamount : 0 ≤ amount) :
    lineTax policy amount = .ok (taxWithin policy amount) ↔
      amount ≤ maxSafeInteger ∧ amount * taxRate policy ≤ maxSafeInteger := by
  have hinvoice : AcceptedInclusive { policy with roundingScope := .invoice } :=
    ⟨haccepted.inclusive, haccepted.accepted⟩
  unfold lineTax
  rw [bind_eq_ok]
  constructor
  · rintro ⟨tax, htax, -⟩
    obtain ⟨hsafe, amounts, hrounded, hall, -⟩ :=
      (hinvoice.calculateBillingTax_eq_ok_iff hamount).mp htax
    cases hrounded
    exact ⟨hsafe, (hinvoice.includedTax_eq_ok_iff hamount).mp (hall amount List.mem_cons_self)⟩
  · rintro ⟨hsafe, hproduct⟩
    refine ⟨includedBillingTax policy amount [amount],
      (hinvoice.calculateBillingTax_eq_ok_iff hamount).mpr ⟨hsafe, [amount], rfl, ?_, rfl⟩, ?_⟩
    · intro other hmem
      rw [List.mem_singleton.mp hmem]
      exact (hinvoice.includedTax_eq_ok_iff hamount).mpr hproduct
    · exact congrArg Except.ok (add_zero (taxWithin policy amount))

theorem AcceptedInclusive.eq_taxWithin_of_lineTax (haccepted : AcceptedInclusive policy)
    {tax : ℤ} (hamount : 0 ≤ amount) (htax : lineTax policy amount = .ok tax) :
    tax = taxWithin policy amount := by
  have hinvoice : AcceptedInclusive { policy with roundingScope := .invoice } :=
    ⟨haccepted.inclusive, haccepted.accepted⟩
  obtain ⟨billingTax, hbilling, hpure⟩ := bind_eq_ok.mp htax
  obtain ⟨-, amounts, hrounded, -, rfl⟩ :=
    (hinvoice.calculateBillingTax_eq_ok_iff hamount).mp hbilling
  cases hrounded
  rw [← pure_eq_ok.mp hpure]
  exact add_zero _

theorem AcceptedInclusive.stallLineTaxes_eq_ok_iff (haccepted : AcceptedInclusive policy)
    (hscope : policy.roundingScope = .stallLine) (hnonneg : ∀ charge ∈ charges, 0 ≤ charge)
    {total : ℤ} {taxes : List ℤ} :
    calculateInclusiveLineTaxes charges total policy = .ok taxes ↔
      (∀ charge ∈ charges, lineTax policy charge = .ok (taxWithin policy charge))
        ∧ taxes = charges.map (taxWithin policy) := by
  rw [calculateInclusiveLineTaxes, hscope]
  exact mapM_eq_ok_iff fun charge hmem tax htax =>
    haccepted.eq_taxWithin_of_lineTax (hnonneg charge hmem) htax

/-- The tax of the invoice is that of its lines. -/
theorem AcceptedInclusive.usageTax_stallLine (haccepted : AcceptedInclusive policy)
    (hscope : policy.roundingScope = .stallLine) (hnonneg : ∀ charge ∈ charges, 0 ≤ charge)
    {tax : BillingTax} (htax : usageTax policy charges = .ok tax) :
    charges.sum ≤ maxSafeInteger ∧ charges ≠ []
      ∧ tax = includedBillingTax policy charges.sum charges := by
  obtain ⟨hsafe, amounts, hrounded, -, rfl⟩ :=
    (haccepted.calculateBillingTax_eq_ok_iff (List.sum_nonneg hnonneg)).mp htax
  rw [roundedAmounts, hscope] at hrounded
  by_cases hempty : charges = []
  · rw [hempty] at hrounded
    cases hrounded
  · simp only [hempty, ne_eq, not_false_eq_true, decide_true, Bool.and_self, if_true] at hrounded
    obtain ⟨-, -, rfl⟩ := (validateLineAmounts_eq_ok_iff hnonneg).mp hrounded
    exact ⟨hsafe, hempty, rfl⟩

theorem AcceptedInclusive.closesFairly_stallLine_iff (haccepted : AcceptedInclusive policy)
    (hscope : policy.roundingScope = .stallLine) (hnonneg : ∀ charge ∈ charges, 0 ≤ charge) :
    ClosesFairly policy charges ↔ FairlySplittable policy charges := by
  have hsum : 0 ≤ charges.sum := List.sum_nonneg hnonneg
  rw [haccepted.closesFairly_iff hnonneg]
  simp only [FairlySplittable, hscope, reduceCtorEq, false_imp_iff, true_imp_iff, and_true]
  apply and_congr_right
  intro htotal
  constructor
  · rintro ⟨tax, taxes, htax, -⟩
    exact (haccepted.usageTax_stallLine hscope hnonneg htax).2.1
  · intro hnonempty
    have hsmall : ∀ charge ∈ charges, charge ≤ 2_147_483_647 := fun charge hmem =>
      (List.single_le_sum hnonneg charge hmem).trans htotal
    have hproducts : ∀ charge ∈ charges, charge * taxRate policy ≤ maxSafeInteger :=
      fun charge hmem => haccepted.product_le (hnonneg charge hmem) (hsmall charge hmem)
    have hsafe : charges.sum ≤ maxSafeInteger := htotal.trans (by decide)
    have hcharge : ∀ charge ∈ charges, charge ≤ maxSafeInteger := fun charge hmem =>
      (hsmall charge hmem).trans (by decide)
    have hrounded : roundedAmounts policy charges.sum
        (if policy.roundingScope = .stallLine && charges ≠ [] then some charges else none)
        = .ok charges := by
      rw [roundedAmounts, hscope]
      simp only [hnonempty, ne_eq, not_false_eq_true, decide_true, Bool.and_self, if_true]
      exact (validateLineAmounts_eq_ok_iff hnonneg).mpr ⟨hnonempty, hcharge, rfl⟩
    refine ⟨includedBillingTax policy charges.sum charges, charges.map (taxWithin policy),
      (haccepted.calculateBillingTax_eq_ok_iff hsum).mpr ⟨hsafe, charges, hrounded, ?_, rfl⟩,
      (haccepted.stallLineTaxes_eq_ok_iff hscope hnonneg).mpr ⟨?_, rfl⟩, ?_, rfl, rfl⟩
    · exact fun charge hmem =>
        (haccepted.includedTax_eq_ok_iff (hnonneg charge hmem)).mpr (hproducts charge hmem)
    · exact fun charge hmem => (haccepted.lineTax_eq_ok_iff (hnonneg charge hmem)).mpr
        ⟨hcharge charge hmem, hproducts charge hmem⟩
    · rw [List.forall₂_map_left_iff, List.forall₂_same]
      exact fun charge hmem => haccepted.taxWithin_bounds (hnonneg charge hmem)

/-! ### Once for the invoice -/

theorem AcceptedInclusive.usageTax_invoice_iff (haccepted : AcceptedInclusive policy)
    (hscope : policy.roundingScope = .invoice) (hnonneg : ∀ charge ∈ charges, 0 ≤ charge)
    {tax : BillingTax} : usageTax policy charges = .ok tax ↔
      charges.sum ≤ maxSafeInteger ∧ charges.sum * taxRate policy ≤ maxSafeInteger
        ∧ tax = includedBillingTax policy charges.sum [charges.sum] := by
  have hsum : 0 ≤ charges.sum := List.sum_nonneg hnonneg
  unfold usageTax
  rw [haccepted.calculateBillingTax_eq_ok_iff hsum, roundedAmounts, hscope]
  simp only [Except.ok.injEq, exists_eq_left', List.mem_singleton, forall_eq,
    haccepted.includedTax_eq_ok_iff hsum]

theorem AcceptedInclusive.closesFairly_invoice_iff (haccepted : AcceptedInclusive policy)
    (hscope : policy.roundingScope = .invoice) (hnonneg : ∀ charge ∈ charges, 0 ≤ charge) :
    ClosesFairly policy charges ↔ FairlySplittable policy charges := by
  have hsum : 0 ≤ charges.sum := List.sum_nonneg hnonneg
  have htaxAmount : (includedBillingTax policy charges.sum [charges.sum]).taxAmount
      = taxWithin policy charges.sum := add_zero _
  have hlines : ∀ total, calculateInclusiveLineTaxes charges total policy
      = .ok (allocate (flooredShare total charges.sum) total charges) := by
    intro total
    rw [calculateInclusiveLineTaxes, hscope]
  rw [haccepted.closesFairly_iff hnonneg]
  simp only [FairlySplittable, hscope, reduceCtorEq, false_imp_iff, true_imp_iff, true_and]
  apply and_congr_right
  intro htotal
  have hproduct := haccepted.product_le hsum htotal
  rw [← haccepted.shares_within_iff hnonneg hproduct]
  constructor
  · rintro ⟨tax, taxes, htax, htaxes, hfair, -⟩
    obtain ⟨-, -, rfl⟩ := (haccepted.usageTax_invoice_iff hscope hnonneg).mp htax
    rw [hlines, htaxAmount] at htaxes
    cases htaxes
    exact hfair
  · intro hfair
    refine ⟨includedBillingTax policy charges.sum [charges.sum], _,
      (haccepted.usageTax_invoice_iff hscope hnonneg).mpr
        ⟨htotal.trans (by decide), hproduct, rfl⟩, hlines _, ?_⟩
    rw [htaxAmount, haccepted.sum_allocate_taxWithin hnonneg hproduct]
    refine ⟨hfair, rfl, ?_⟩
    rw [← htaxAmount]
    rfl

/-- Under an accepted policy with prices that include tax, closing succeeds and splits the
tax fairly exactly for the charges that are fairly splittable. -/
theorem closes_fairly_iff (haccepted : AcceptedInclusive policy)
    (hnonneg : ∀ charge ∈ charges, 0 ≤ charge) :
    ClosesFairly policy charges ↔ FairlySplittable policy charges := by
  cases hscope : policy.roundingScope with
  | invoice => exact haccepted.closesFairly_invoice_iff hscope hnonneg
  | stallLine => exact haccepted.closesFairly_stallLine_iff hscope hnonneg

/-! ### Sample charges -/

def samplePolicy (roundingScope : BillingTaxRoundingScope) : BillingTaxPolicy where
  treatment := .inclusive
  rateBps := some 500
  jurisdiction := some "TW".toList
  roundingMode := .halfUp
  roundingScope := roundingScope
  capTaxBasis := some .taxInclusiveTotal
  taxDocumentRequired := true

theorem samplePolicy_accepted (roundingScope : BillingTaxRoundingScope) :
    AcceptedInclusive (samplePolicy roundingScope) :=
  ⟨rfl, by cases roundingScope <;> decide +kernel⟩

theorem closes_fairly_samples :
    ClosesFairly (samplePolicy .invoice) [1499, 1499, 0]
      ∧ ClosesFairly (samplePolicy .stallLine) [0, 1499, 1499] := by
  constructor
  · exact (closes_fairly_iff (samplePolicy_accepted .invoice) (by decide)).mpr (by decide +kernel)
  · exact (closes_fairly_iff (samplePolicy_accepted .stallLine) (by decide)).mpr
      (by decide +kernel)

/-- A quotient that is a whole number exactly comes out below it, and the first line gets the
unit. -/
example : taxWithin (samplePolicy .invoice) 434_915_149 = 20_710_245
    ∧ flooredShare 20_710_245 434_915_149 434_915_149 = 20_710_244
    ∧ ¬FairlySplittable (samplePolicy .invoice) [0, 434_915_149] := by
  decide +kernel

/-- A stall without a charge that stands first gets the unit that rounding left over. -/
theorem zero_charge_taxed :
    ¬∀ (policy : BillingTaxPolicy) (charges : List ℤ), AcceptedInclusive policy →
      (∀ charge ∈ charges, 0 ≤ charge) → ClosesFairly policy charges := by
  intro hall
  obtain ⟨closed, hclosed, -⟩ := hall (samplePolicy .invoice) [0, 1499, 1499]
    (samplePolicy_accepted .invoice) (by decide)
  have hfails : (closeUsage (samplePolicy .invoice) [0, 1499, 1499]).isOk = false := by
    decide +kernel
  rw [hclosed] at hfails
  cases hfails

end Stallorder.TaxPolicy
