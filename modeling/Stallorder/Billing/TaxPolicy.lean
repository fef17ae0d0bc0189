import Stallorder.Billing.InvoiceWorkflow
import Stallorder.Core.Allocation
import Stallorder.Core.Doubles

/-!
# The tax of an invoice

A plan version fixes how tax is treated, at which rate in basis points, and how
and where amounts are rounded.  The tax of an invoice is computed once for the
whole amount or stall by stall; when prices include tax, the tax is taken out
of the usage lines again so that they add up to the subtotal.
-/

namespace Stallorder.TaxPolicy

open Allocation Checks Doubles
open InvoiceWorkflow (isAmount)

inductive BillingTaxTreatment
  | unconfigured
  | inclusive
  | exclusive
  | exempt
  | outOfScope
  deriving DecidableEq

inductive BillingTaxRoundingMode
  | halfUp
  | halfEven
  | floor
  | ceiling
  deriving DecidableEq

inductive BillingTaxRoundingScope
  | invoice
  | stallLine
  deriving DecidableEq

inductive BillingCapTaxBasis
  | taxInclusiveTotal
  | preTaxUsage
  deriving DecidableEq

structure BillingTaxPolicy where
  treatment : BillingTaxTreatment
  rateBps : Option ℤ
  jurisdiction : Option Text
  roundingMode : BillingTaxRoundingMode
  roundingScope : BillingTaxRoundingScope
  capTaxBasis : Option BillingCapTaxBasis
  taxDocumentRequired : Bool
  deriving DecidableEq

structure BillingTax where
  subtotal : ℤ
  taxAmount : ℤ
  totalAmount : ℤ
  deriving DecidableEq

inductive TaxError
  | policyUnconfigured
  | policyMismatch
  | moneyInvalid
  | unsafeInteger
  /-- A column of the invoice or of a line refuses its amount. -/
  | constraintViolated
  deriving DecidableEq

/-! ## Checks -/

def maxSafeInteger : ℤ := 2 ^ 53 - 1

def isSafeInteger (value : ℤ) : Bool :=
  -maxSafeInteger ≤ value && value ≤ maxSafeInteger

def assertMoney (value : ℤ) : Except TaxError Unit :=
  failWhen (!isSafeInteger value || value < 0) .moneyInvalid

def blank (text : Option Text) : Bool :=
  text.all fun text => text.trim = []

def rateAccepted (rateBps : Option ℤ) : Bool :=
  rateBps.any fun rate => 0 ≤ rate && rate ≤ 10_000

def assertTaxPolicy (policy : BillingTaxPolicy) : Except TaxError Unit :=
  match policy.treatment with
  | .unconfigured =>
      failWhen (policy.rateBps.isSome || policy.jurisdiction.isSome || policy.capTaxBasis.isSome)
        .policyMismatch
  | .inclusive | .exclusive =>
      failWhen (blank policy.jurisdiction || !rateAccepted policy.rateBps
        || policy.capTaxBasis.isNone) .policyMismatch
  | .exempt | .outOfScope =>
      failWhen (blank policy.jurisdiction || !policy.rateBps.all (· = 0)) .policyMismatch

/-! ## Rounding -/

def roundQuotient (numerator denominator : ℤ) (mode : BillingTaxRoundingMode) : ℤ :=
  let quotient := numerator / denominator
  let remainder := numerator % denominator
  match mode with
  | .floor => quotient
  | .ceiling => quotient + if 0 < remainder then 1 else 0
  | .halfUp => if remainder * 2 < denominator then quotient else quotient + 1
  | .halfEven =>
      if remainder * 2 < denominator then quotient
      else if denominator < remainder * 2 then quotient + 1
      else if quotient % 2 = 0 then quotient else quotient + 1

def roundRatio (numerator denominator : ℤ) (mode : BillingTaxRoundingMode) :
    Except TaxError ℤ := do
  failWhen (!isSafeInteger numerator || denominator ≤ 0) .unsafeInteger
  return roundQuotient numerator denominator mode

/-! ## The tax of an amount -/

def validateLineAmounts (values : Option (List ℤ)) (total : ℤ) : Except TaxError (List ℤ) := do
  let amounts ← orFail (values.filter (· ≠ [])) .policyMismatch
  amounts.forM assertMoney
  failWhen (amounts.sum ≠ total) .policyMismatch
  return amounts

/-- The amounts that are rounded one by one. -/
def roundedAmounts (policy : BillingTaxPolicy) (taxableAmount : ℤ)
    (lineAmounts : Option (List ℤ)) : Except TaxError (List ℤ) :=
  match policy.roundingScope with
  | .stallLine => validateLineAmounts lineAmounts taxableAmount
  | .invoice => .ok [taxableAmount]

/-- The tax contained in an amount that includes it. -/
def includedTax (policy : BillingTaxPolicy) (amount : ℤ) : Except TaxError ℤ :=
  let rateBps := policy.rateBps.getD 0
  roundRatio (amount * rateBps) (10_000 + rateBps) policy.roundingMode

/-- The tax that comes on top of an amount. -/
def addedTax (policy : BillingTaxPolicy) (amount : ℤ) : Except TaxError ℤ :=
  roundRatio (amount * policy.rateBps.getD 0) 10_000 policy.roundingMode

def calculateBillingTax (policy : BillingTaxPolicy) (taxableAmount : ℤ)
    (lineAmounts : Option (List ℤ)) : Except TaxError BillingTax := do
  assertMoney taxableAmount
  assertTaxPolicy policy
  let amounts ← roundedAmounts policy taxableAmount lineAmounts
  match policy.treatment with
  | .unconfigured => throw .policyUnconfigured
  | .exempt | .outOfScope =>
      return { subtotal := taxableAmount, taxAmount := 0, totalAmount := taxableAmount }
  | .inclusive =>
      let taxes ← amounts.mapM (includedTax policy)
      return {
        subtotal := taxableAmount - taxes.sum
        taxAmount := taxes.sum
        totalAmount := taxableAmount }
  | .exclusive =>
      let taxes ← amounts.mapM (addedTax policy)
      return {
        subtotal := taxableAmount
        taxAmount := taxes.sum
        totalAmount := taxableAmount + taxes.sum }

/-! ## The tax of the lines -/

/-- The tax of one line computed as if the line were an invoice. -/
def lineTax (policy : BillingTaxPolicy) (amount : ℤ) : Except TaxError ℤ := do
  let tax ← calculateBillingTax { policy with roundingScope := .invoice } amount none
  return tax.taxAmount

/-- The share of a line of the tax of the invoice: the quotient is one of doubles. -/
def flooredShare (totalTax total amount : ℤ) : ℤ :=
  ⌊toDouble (toDouble (totalTax * amount) / total)⌋

def calculateInclusiveLineTaxes (amounts : List ℤ) (totalTax : ℤ) (policy : BillingTaxPolicy) :
    Except TaxError (List ℤ) :=
  match policy.roundingScope with
  | .stallLine => amounts.mapM (lineTax policy)
  | .invoice => .ok (allocate (flooredShare totalTax amounts.sum) totalTax amounts)

/-- The tax to take out of each usage line. -/
def extractedTaxes (policy : BillingTaxPolicy) (amounts : List ℤ) (totalTax : ℤ) :
    Except TaxError (List ℤ) :=
  match policy.treatment with
  | .inclusive => calculateInclusiveLineTaxes amounts totalTax policy
  | _ => .ok (amounts.map fun _ => 0)

/-- The tax of the usage charges of one invoice. -/
def usageTax (policy : BillingTaxPolicy) (usageAmounts : List ℤ) : Except TaxError BillingTax :=
  calculateBillingTax policy usageAmounts.sum
    (if policy.roundingScope = .stallLine && usageAmounts ≠ [] then some usageAmounts else none)

/-- What closing a period writes of the usage charges. -/
structure ClosedUsage where
  tax : BillingTax
  lineTaxes : List ℤ
  lineSubtotals : List ℤ
  deriving DecidableEq

def fitsColumns (tax : BillingTax) : Bool :=
  isAmount tax.subtotal && isAmount tax.taxAmount && isAmount tax.totalAmount

/-- The tax and the usage lines of a closed period, one line for the charge of each stall.
The tables refuse negative amounts and those beyond their integers. -/
def closeUsage (policy : BillingTaxPolicy) (usageAmounts : List ℤ) :
    Except TaxError ClosedUsage := do
  let tax ← usageTax policy usageAmounts
  let lineTaxes ← extractedTaxes policy usageAmounts tax.taxAmount
  let lineSubtotals := List.zipWith (fun charge tax => charge - tax) usageAmounts lineTaxes
  failWhen (!lineSubtotals.all isAmount) .constraintViolated
  failWhen (!fitsColumns tax) .constraintViolated
  return { tax, lineTaxes, lineSubtotals }

end Stallorder.TaxPolicy
