import Stallorder.Billing.BillingPeriod

/-!
# Periods and the instants in them

The periods from some month on contain the instants that are put into them
exactly when every one of them begins where the clocks of the zone pass its
first midnight for good.  A change of the clocks around that midnight can spoil
this: the correction of the guess misses a midnight that is skipped, and takes
the second of two.
-/

namespace Stallorder.Billing

open Calendar ZonedClock UtcDate

/-- Changes of the clocks that skip the target may only begin at it, and not after the
guess; changes that repeat it may only end at it, and after the guess. -/
def Undisturbed (zone : TimeZone) (target : ℤ) : Prop :=
  ∀ change,
    (Skips target change (zone.offset (change - 1)) (zone.offset change) →
      change ≤ target ∧ change = target - zone.offset (change - 1))
      ∧ (Repeats target change (zone.offset (change - 1)) (zone.offset change) →
        target < change ∧ change = target - zone.offset change)

/-- The name of the period of a month. -/
def periodOf (month : ℤ) : ℤ := monthStart month * dayLength

/-- The first January that no misread year is taken for. -/
def january2000 : ℤ := 24_000

variable {zone : TimeZone} {month instant change target : ℤ}

/-! ## The guesses -/

theorem floorTo_seconds (instant : ℤ) :
    dayOf instant * dayLength + timeOfDay instant / 3_600_000 * 3_600_000
        + timeOfDay instant / 60_000 % 60 * 60_000 + timeOfDay instant / 1_000 % 60 * 1_000
      = floorTo 1_000 instant := by
  unfold dayOf timeOfDay floorTo dayLength
  omega

theorem represented_eq (hread : ¬Misread (monthOfDay (dayOf (wallClock zone instant)))) :
    represented zone instant = floorTo 1_000 (wallClock zone instant) := by
  rw [← floorTo_seconds]
  simp only [represented, dateParts, dateUTC]
  rw [utcDay_partsOfDay hread]

theorem not_misread_of_le (hlater : periodOf 1_200 ≤ instant) :
    ¬Misread (monthOfDay (dayOf instant)) := by
  have hmonth : 1_200 ≤ monthOfDay (dayOf instant) :=
    le_monthOfDay_iff.mpr (le_dayOf_iff.mpr hlater)
  unfold Misread
  omega

theorem periodOf_le_periodOf {earlier later : ℤ} (hle : earlier ≤ later) :
    periodOf earlier ≤ periodOf later :=
  mul_le_mul_of_nonneg_right (monthStart_le_iff.mpr hle) dayLength_pos.le

/-- The first month whose beginning is not misread on any clock. -/
def february100 : ℤ := 1_201

theorem february100_le (hmonth : january2000 ≤ month) : february100 ≤ month :=
  (by decide : february100 ≤ january2000).trans hmonth

theorem periodOf_january100_le : periodOf 1_200 + 2 * dayLength ≤ periodOf february100 := by
  decide

theorem switches_represented (hswitch : SwitchesAt zone (periodOf month - dayLength) change)
    (hmonth : february100 ≤ month) :
    Switches (represented zone) 1_000 (periodOf month) change (zone.offset (change - 1))
      (zone.offset change) := by
  have hdvd : (1_000 : ℤ) ∣ periodOf month := Dvd.dvd.mul_left (by norm_num) _
  have hfloors := hswitch.switches (by norm_num : (0 : ℤ) < 1_000) (by norm_num) hdvd
  rw [floorTo_eq_self (zone.wholeSeconds _), floorTo_eq_self (zone.wholeSeconds _)] at hfloors
  refine ⟨fun guess hguess hlower hupper => ?_, hdvd, hfloors.before_dvd, hfloors.after_dvd,
    hfloors.abs_before, hfloors.abs_after⟩
  rw [← hfloors.shown_eq guess hguess hlower hupper]
  refine represented_eq (not_misread_of_le ?_)
  have hbound := abs_le.mp (zone.abs_offset_le guess)
  have hlater := periodOf_le_periodOf hmonth
  have hearly := periodOf_january100_le
  have hminute := minuteLength_pos
  unfold wallClock
  omega

/-! ## Midnights that are passed for good -/

/-- The local midnight that the first day of a month begins with. -/
def monthMidnight (zone : TimeZone) (month : ℤ) : ℤ :=
  correctGuess (represented zone) (periodOf month) 4 (periodOf month)

/-- From an instant on the clock shows the target or a later time, and not before. -/
def Passes (zone : TimeZone) (target instant : ℤ) : Prop :=
  ∀ other, instant ≤ other ↔ target ≤ wallClock zone other

theorem wallClock_of_switchesAt (hswitch : SwitchesAt zone (target - dayLength) change)
    (hlower : target - dayLength ≤ instant) (hupper : instant < target + dayLength) :
    wallClock zone instant
      = instant + if instant < change then zone.offset (change - 1) else zone.offset change := by
  rw [wallClock, hswitch.offset_eq instant hlower (by omega)]

/-- A day before and after the target the clock is not in doubt. -/
theorem wallClock_far (target : ℤ) (zone : TimeZone) (instant : ℤ) :
    (instant < target - dayLength → wallClock zone instant < target)
      ∧ (target + dayLength ≤ instant → target ≤ wallClock zone instant) := by
  have hbound := abs_le.mp (zone.abs_offset_le instant)
  have hminute := minuteLength_pos
  unfold wallClock
  constructor <;> intro hfar <;> omega

/-- Only the change near the target can skip or repeat it. -/
theorem undisturbed_iff (hswitch : SwitchesAt zone (target - dayLength) change) :
    Undisturbed zone target ↔
      (Skips target change (zone.offset (change - 1)) (zone.offset change) →
        change ≤ target ∧ change = target - zone.offset (change - 1))
        ∧ (Repeats target change (zone.offset (change - 1)) (zone.offset change) →
          target < change ∧ change = target - zone.offset change) := by
  refine ⟨fun hundisturbed => hundisturbed change, fun hchange other => ?_⟩
  have hminute := minuteLength_pos
  have hbefore := abs_le.mp (zone.abs_offset_le (other - 1))
  have hafter := abs_le.mp (zone.abs_offset_le other)
  constructor
  · intro hskips
    have hnear : other = change := by
      unfold Skips at hskips
      exact hswitch.eq_of_differs (by omega) (by omega) (by omega)
    subst hnear
    exact hchange.1 hskips
  · intro hrepeats
    have hnear : other = change := by
      unfold Repeats at hrepeats
      exact hswitch.eq_of_differs (by omega) (by omega) (by omega)
    subst hnear
    exact hchange.2 hrepeats

theorem monthMidnight_eq (hswitch : SwitchesAt zone (periodOf month - dayLength) change)
    (hmonth : february100 ≤ month) :
    monthMidnight zone month
      = settled (periodOf month) change (zone.offset (change - 1)) (zone.offset change) :=
  (switches_represented hswitch hmonth).correctGuess_eq_settled

theorem monthMidnight_within (zone : TimeZone) (hmonth : february100 ≤ month) :
    periodOf month - dayLength < monthMidnight zone month
      ∧ monthMidnight zone month < periodOf month + dayLength := by
  obtain ⟨change, hswitch⟩ := exists_switchesAt zone (periodOf month - dayLength)
  rw [monthMidnight_eq hswitch hmonth]
  exact (switches_represented hswitch hmonth).settled_within

theorem passes_monthMidnight_iff (zone : TimeZone) (hmonth : february100 ≤ month) :
    Passes zone (periodOf month) (monthMidnight zone month)
      ↔ Undisturbed zone (periodOf month) := by
  obtain ⟨change, hswitch⟩ := exists_switchesAt zone (periodOf month - dayLength)
  rw [undisturbed_iff hswitch, ← settled_passes_iff, ← monthMidnight_eq hswitch hmonth]
  have hwithin := monthMidnight_within zone hmonth
  have hbefore := abs_le.mp (zone.abs_offset_le (change - 1))
  have hafter := abs_le.mp (zone.abs_offset_le change)
  have hminute := minuteLength_pos
  refine forall_congr' fun instant => ?_
  have hfar := wallClock_far (periodOf month) zone instant
  by_cases hlower : instant < periodOf month - dayLength
  · have hwall := hfar.1 hlower
    unfold changedClock
    split_ifs <;> omega
  · by_cases hupper : periodOf month + dayLength ≤ instant
    · have hwall := hfar.2 hupper
      unfold changedClock
      split_ifs <;> omega
    · rw [wallClock_of_switchesAt hswitch (not_lt.mp hlower) (not_le.mp hupper), changedClock]

/-! ## The functions on the periods of a zone -/

theorem supported_monthlyContract (zone : TimeZone) :
    assertSupportedBillingCycle (monthlyContract zone) = .ok zone := rfl

theorem partsOfDay_monthStart (month : ℤ) :
    partsOfDay (monthStart month) = ⟨month / 12, month % 12 + 1, 1⟩ := by
  simp [partsOfDay, dayOfMonth]

theorem zonedMidnight_eq (hread : ¬Misread month) :
    zonedMidnight zone (month / 12) (month % 12 + 1) 1 = monthMidnight zone month := by
  have htarget : dateUTC (month / 12) (month % 12) 1 = periodOf month := by
    rw [dateUTC, utcDay_month, if_neg hread, periodOf, add_sub_cancel_right]
  simp only [zonedMidnight, add_sub_cancel_right, htarget]
  rfl

theorem periodStart_eq (hread : ¬Misread month) :
    billingPeriodStartInstant (periodOf month) (monthlyContract zone)
      = .ok (monthMidnight zone month) := by
  simp only [billingPeriodStartInstant, supported_monthlyContract, periodOf, dayOf_mul,
    partsOfDay_monthStart]
  exact congrArg Except.ok (zonedMidnight_eq hread)

/-- A period ends where the next begins. -/
theorem periodEnd_eq_start_succ (month : ℤ) :
    billingPeriodEndInstant (periodOf month) (monthlyContract zone)
      = billingPeriodStartInstant (periodOf (month + 1)) (monthlyContract zone) := by
  simp only [billingPeriodEndInstant, billingPeriodStartInstant, supported_monthlyContract,
    periodOf, dayOf_mul, partsOfDay_monthStart]
  refine congrArg Except.ok ?_
  by_cases hdecember : month % 12 + 1 = 12
  · have hyear : (month + 1) / 12 = month / 12 + 1 := by omega
    have hmonth : (month + 1) % 12 + 1 = 1 := by omega
    rw [if_pos hdecember, if_pos hdecember, hyear, hmonth]
    rfl
  · have hyear : (month + 1) / 12 = month / 12 := by omega
    have hmonth : (month + 1) % 12 + 1 = month % 12 + 1 + 1 := by omega
    rw [if_neg hdecember, if_neg hdecember, hyear, hmonth]
    rfl

/-- The month that the clocks of a zone show. -/
def localMonth (zone : TimeZone) (instant : ℤ) : ℤ := monthOfDay (dayOf (wallClock zone instant))

theorem le_localMonth_iff : month ≤ localMonth zone instant
    ↔ periodOf month ≤ wallClock zone instant := by
  rw [localMonth, le_monthOfDay_iff, le_dayOf_iff, periodOf]

theorem periodForInstant_eq (zone : TimeZone) (instant : ℤ) :
    billingPeriodForInstant instant (monthlyContract zone)
      = .ok (periodOf (if Misread (localMonth zone instant) then localMonth zone instant + 22_800
          else localMonth zone instant)) := by
  simp only [billingPeriodForInstant, supported_monthlyContract, dateParts, partsOfDay]
  refine congrArg Except.ok ?_
  rw [add_sub_cancel_right, dateUTC, utcDay_month, add_sub_cancel_right]
  rfl

theorem periodOf_injective {left right : ℤ} (hsame : periodOf left = periodOf right) :
    left = right :=
  monthStart_strictMono.injective (mul_right_cancel₀ dayLength_pos.ne' hsame)

theorem periodForInstant_iff (hmonth : january2000 ≤ month) :
    billingPeriodForInstant instant (monthlyContract zone) = .ok (periodOf month)
      ↔ localMonth zone instant = month := by
  rw [periodForInstant_eq, Except.ok.injEq]
  unfold january2000 at hmonth
  constructor
  · intro hsame
    have hmonths := periodOf_injective hsame
    by_cases hread : Misread (localMonth zone instant)
    · rw [if_pos hread] at hmonths
      unfold Misread at hread
      omega
    · rwa [if_neg hread] at hmonths
  · intro hsame
    rw [hsame, if_neg (by unfold Misread; omega)]

/-! ## The partition -/

/-- The periods from a month on contain the instants that are put into them, follow one
another, and stay ended. -/
structure PartitionsFrom (contract : BillingCycleContract) (first : ℤ) : Prop where
  contains : ∀ month, first ≤ month → ∀ instant,
    billingPeriodForInstant instant contract = .ok (periodOf month) ↔
      ∃ start stop, billingPeriodStartInstant (periodOf month) contract = .ok start
        ∧ billingPeriodEndInstant (periodOf month) contract = .ok stop
        ∧ start ≤ instant ∧ instant < stop
  adjacent : ∀ month, first ≤ month →
    billingPeriodEndInstant (periodOf month) contract
      = billingPeriodStartInstant (periodOf (month + 1)) contract
  staysEnded : ∀ month, first ≤ month → ∀ now later, now ≤ later →
    hasBillingPeriodEnded (periodOf month) contract now = .ok true →
      hasBillingPeriodEnded (periodOf month) contract later = .ok true

theorem contains_iff (hmonth : january2000 ≤ month) :
    (billingPeriodForInstant instant (monthlyContract zone) = .ok (periodOf month) ↔
      ∃ start stop, billingPeriodStartInstant (periodOf month) (monthlyContract zone) = .ok start
        ∧ billingPeriodEndInstant (periodOf month) (monthlyContract zone) = .ok stop
        ∧ start ≤ instant ∧ instant < stop)
      ↔ (localMonth zone instant = month ↔
        monthMidnight zone month ≤ instant ∧ instant < monthMidnight zone (month + 1)) := by
  unfold january2000 at hmonth
  rw [periodForInstant_iff hmonth, periodEnd_eq_start_succ,
    periodStart_eq (by unfold Misread; omega), periodStart_eq (by unfold Misread; omega)]
  simp

theorem staysEnded (month now later : ℤ) (hle : now ≤ later)
    (hended : hasBillingPeriodEnded (periodOf month) (monthlyContract zone) now = .ok true) :
    hasBillingPeriodEnded (periodOf month) (monthlyContract zone) later = .ok true := by
  unfold hasBillingPeriodEnded at hended ⊢
  cases hstop : billingPeriodEndInstant (periodOf month) (monthlyContract zone) with
  | error error =>
      rw [hstop] at hended
      cases hended
  | ok stop =>
      rw [hstop] at hended
      have hbefore : stop ≤ now := by simpa [pure, Except.pure, bind, Except.bind] using hended
      have hafter := hbefore.trans hle
      simpa [pure, Except.pure, bind, Except.bind] using hafter

/-- The middle of a month is in the month on every clock. -/
theorem localMonth_middle (zone : TimeZone) (month : ℤ) :
    localMonth zone (periodOf month + 14 * dayLength) = month := by
  have hbound := abs_le.mp (zone.abs_offset_le (periodOf month + 14 * dayLength))
  have hlength := monthStart_succ_bounds month
  have hminute := minuteLength_pos
  have hday := dayLength_pos
  have hstart : month ≤ localMonth zone (periodOf month + 14 * dayLength) := by
    rw [le_localMonth_iff, wallClock]
    omega
  have hnext : periodOf month + 28 * dayLength ≤ periodOf (month + 1) := by
    unfold periodOf
    rw [← add_mul]
    exact mul_le_mul_of_nonneg_right hlength.1 hday.le
  have hend : ¬month + 1 ≤ localMonth zone (periodOf month + 14 * dayLength) := by
    rw [le_localMonth_iff, wallClock]
    omega
  omega

section Partition

variable {first : ℤ}

/-- The instants of every month from the first lie between its midnight and the next. -/
def Contains (zone : TimeZone) (first : ℤ) : Prop :=
  ∀ month, first ≤ month → ∀ instant, localMonth zone instant = month ↔
    monthMidnight zone month ≤ instant ∧ instant < monthMidnight zone (month + 1)

theorem monthMidnight_lt_succ (hcontains : Contains zone first) (hmonth : first ≤ month) :
    monthMidnight zone month < monthMidnight zone (month + 1) := by
  have hmiddle := (hcontains month hmonth _).mp (localMonth_middle zone month)
  exact hmiddle.1.trans_lt hmiddle.2

theorem monthMidnight_mono (hcontains : Contains zone first) {later : ℤ} (hmonth : first ≤ month)
    (hle : month ≤ later) : monthMidnight zone month ≤ monthMidnight zone later := by
  induction later, hle using Int.leInduction with
  | base => exact le_refl _
  | succ later hle ih =>
      exact ih.trans (monthMidnight_lt_succ hcontains (hmonth.trans hle)).le

/-- The last month that has begun by an instant. -/
theorem exists_month_between (hfirst : february100 ≤ month)
    (hbegun : monthMidnight zone month ≤ instant) :
    ∃ later, month ≤ later ∧ monthMidnight zone later ≤ instant
      ∧ instant < monthMidnight zone (later + 1) := by
  have hbounded : ∀ later, month ≤ later ∧ monthMidnight zone later ≤ instant →
      later ≤ localMonth zone (instant + 2 * dayLength) := by
    rintro later ⟨hlater, hbefore⟩
    have hwithin := monthMidnight_within zone (hfirst.trans hlater)
    have hbound := abs_le.mp (zone.abs_offset_le (instant + 2 * dayLength))
    have hminute := minuteLength_pos
    rw [le_localMonth_iff, wallClock]
    omega
  obtain ⟨later, ⟨hlater, hbefore⟩, hgreatest⟩ :=
    Int.exists_greatest_of_bdd ⟨_, hbounded⟩ ⟨month, le_refl month, hbegun⟩
  refine ⟨later, hlater, hbefore, ?_⟩
  by_contra hnext
  have hle := hgreatest (later + 1) ⟨by omega, not_lt.mp hnext⟩
  omega

theorem contains_iff_passes (hfirst : january2000 ≤ first) :
    Contains zone first
      ↔ ∀ month, first ≤ month → Passes zone (periodOf month) (monthMidnight zone month) := by
  constructor
  · intro hcontains month hmonth instant
    constructor
    · intro hbegun
      obtain ⟨later, hlater, hbefore, hafter⟩ :=
        exists_month_between (february100_le (hfirst.trans hmonth)) hbegun
      have hlocal := (hcontains later (hmonth.trans hlater) instant).mpr ⟨hbefore, hafter⟩
      rwa [← le_localMonth_iff, hlocal]
    · intro hshown
      have hlocal := le_localMonth_iff.mpr hshown
      have hbefore := ((hcontains _ (hmonth.trans hlocal) instant).mp rfl).1
      exact (monthMidnight_mono hcontains hmonth hlocal).trans hbefore
  · intro hpasses month hmonth instant
    have hthis := hpasses month hmonth instant
    have hnext := hpasses (month + 1) (by omega) instant
    rw [← le_localMonth_iff] at hthis hnext
    omega

/-- In the misread years, instants are put into the months of a later century. -/
theorem january2000_le_of_partitions (hpartitions : PartitionsFrom (monthlyContract zone) first) :
    january2000 ≤ first := by
  by_contra hearly
  unfold january2000 at hearly
  have hmiddle := localMonth_middle zone 1_199
  have hput : billingPeriodForInstant (periodOf 1_199 + 14 * dayLength) (monthlyContract zone)
      = .ok (periodOf 23_999) := by
    rw [periodForInstant_eq, hmiddle]
    rfl
  obtain ⟨start, stop, hstart, -, hbegun, -⟩ :=
    (hpartitions.contains 23_999 (by omega) _).mp hput
  rw [periodStart_eq (by decide)] at hstart
  cases hstart
  have hwithin := monthMidnight_within zone (by decide : february100 ≤ 23_999)
  have hcenturies : periodOf 1_199 + 15 * dayLength ≤ periodOf 23_999 := by decide
  have hday := dayLength_pos
  omega

/-- From the first period of a month on, periods partition time if and only if the month is
not before the year 2000 and no clock change disturbs the beginning of a later one. -/
theorem partitionsFrom_iff (zone : TimeZone) (first : ℤ) :
    PartitionsFrom (monthlyContract zone) first
      ↔ january2000 ≤ first ∧ ∀ month, first ≤ month → Undisturbed zone (periodOf month) := by
  have hundisturbed : january2000 ≤ first → (Contains zone first
      ↔ ∀ month, first ≤ month → Undisturbed zone (periodOf month)) := by
    intro hfirst
    rw [contains_iff_passes hfirst]
    refine forall₂_congr fun month hmonth => ?_
    exact passes_monthMidnight_iff zone (february100_le (hfirst.trans hmonth))
  have hread : january2000 ≤ first → (Contains zone first ↔ ∀ month, first ≤ month →
      ∀ instant, billingPeriodForInstant instant (monthlyContract zone) = .ok (periodOf month) ↔
        ∃ start stop,
          billingPeriodStartInstant (periodOf month) (monthlyContract zone) = .ok start
            ∧ billingPeriodEndInstant (periodOf month) (monthlyContract zone) = .ok stop
            ∧ start ≤ instant ∧ instant < stop) := by
    intro hfirst
    refine forall₂_congr fun month hmonth => forall_congr' fun instant => ?_
    exact (contains_iff (hfirst.trans hmonth)).symm
  constructor
  · intro hpartitions
    have hfirst := january2000_le_of_partitions hpartitions
    exact ⟨hfirst, (hundisturbed hfirst).mp ((hread hfirst).mpr hpartitions.contains)⟩
  · rintro ⟨hfirst, hclean⟩
    exact ⟨(hread hfirst).mp ((hundisturbed hfirst).mpr hclean),
      fun month _ => periodEnd_eq_start_succ month,
      fun month _ now later hle => staysEnded month now later hle⟩

end Partition

/-! ## A month that begins with a skipped hour -/

/-- Four hours behind UTC, and three from the first of October 2017 on. -/
def asuncion : TimeZone :=
  TimeZone.switching 1_506_830_400_000 (-14_400_000) (-10_800_000) (by decide) (by decide)
    (by decide) (by decide)

def october2017 : ℤ := 24_213

/-- The last hour of September belongs to October by its ends. -/
theorem asuncion_not_partitionsFrom :
    ¬PartitionsFrom (monthlyContract asuncion) october2017 := by
  intro hpartitions
  have hwithin := (hpartitions.contains october2017 (le_refl _) 1_506_826_800_000).mpr
    ⟨1_506_826_800_000, 1_509_505_200_000, by decide, by decide, by decide, by decide⟩
  exact absurd hwithin (by decide)

end Stallorder.Billing
