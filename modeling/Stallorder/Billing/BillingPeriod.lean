import Stallorder.Core.UtcDate

/-!
# Billing periods

A billing period is a calendar month of the billing time zone; it is named by
the instant at which the month begins in UTC.  Instants are put into periods by
the date that the clocks of the zone show, while the ends of a period are local
midnights that are found by correcting a guess.
-/

namespace Stallorder.Billing

open ZonedClock UtcDate

inductive BillingPeriodType
  | calendarMonth
  | other
  deriving DecidableEq

/-- `billingTimezone` is missing when the stored name is no time zone. -/
structure BillingCycleContract where
  billingTimezone : Option TimeZone
  billingCycleAnchorDay : ℤ
  billingPeriodType : BillingPeriodType

inductive BillingCycleError
  | billingCycleUnsupported
  | billingTimezoneInvalid
  deriving DecidableEq

/-- The time zone of a contract that can be billed. -/
def assertSupportedBillingCycle (contract : BillingCycleContract) :
    Except BillingCycleError TimeZone :=
  if contract.billingCycleAnchorDay ≠ 1 ∨ contract.billingPeriodType ≠ .calendarMonth then
    .error .billingCycleUnsupported
  else
    match contract.billingTimezone with
    | none => .error .billingTimezoneInvalid
    | some zone => .ok zone

def dateParts (zone : TimeZone) (instant : ℤ) : DateParts :=
  partsOfDay (dayOf (wallClock zone instant))

/-- The date and time of an instant, to the second, as an instant of UTC. -/
def represented (zone : TimeZone) (instant : ℤ) : ℤ :=
  let parts := dateParts zone instant
  let time := timeOfDay (wallClock zone instant)
  let hour := time / 3_600_000
  let minute := time / 60_000 % 60
  let second := time / 1_000 % 60
  dateUTC parts.year (parts.month - 1) parts.day
    + hour * 3_600_000 + minute * 60_000 + second * 1_000

def zonedMidnight (zone : TimeZone) (year month day : ℤ) : ℤ :=
  let target := dateUTC year (month - 1) day
  correctGuess (represented zone) target 4 target

def billingPeriodForInstant (instant : ℤ) (contract : BillingCycleContract) :
    Except BillingCycleError ℤ := do
  let zone ← assertSupportedBillingCycle contract
  let parts := dateParts zone instant
  return dateUTC parts.year (parts.month - 1) 1

def billingPeriodEndInstant (period : ℤ) (contract : BillingCycleContract) :
    Except BillingCycleError ℤ := do
  let zone ← assertSupportedBillingCycle contract
  let year := (partsOfDay (dayOf period)).year
  let month := (partsOfDay (dayOf period)).month
  let nextYear := if month = 12 then year + 1 else year
  let nextMonth := if month = 12 then 1 else month + 1
  return zonedMidnight zone nextYear nextMonth 1

def billingPeriodStartInstant (period : ℤ) (contract : BillingCycleContract) :
    Except BillingCycleError ℤ := do
  let zone ← assertSupportedBillingCycle contract
  let parts := partsOfDay (dayOf period)
  return zonedMidnight zone parts.year parts.month contract.billingCycleAnchorDay

def hasBillingPeriodEnded (period : ℤ) (contract : BillingCycleContract) (now : ℤ) :
    Except BillingCycleError Bool := do
  let stop ← billingPeriodEndInstant period contract
  return decide (stop ≤ now)

/-- The contract of a zone that can be billed. -/
def monthlyContract (zone : TimeZone) : BillingCycleContract where
  billingTimezone := some zone
  billingCycleAnchorDay := 1
  billingPeriodType := .calendarMonth

end Stallorder.Billing
