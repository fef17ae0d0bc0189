import Mathlib

/-!
# Clocks of a time zone

Instants and the times that a clock shows are counted in milliseconds.  The
offset of a time zone is constant but for changes that are isolated in time.  A
clock time is turned into an instant by correcting a guess four times by the
difference between the time it shows and the time wanted.  With at most one
change near the time wanted the corrections settle on an instant that shows it,
unless the clock skips it: then they go to and fro between the two instants at
which the offsets before and after the change would show it.
-/

namespace Stallorder.ZonedClock

/-- The milliseconds of a day. -/
abbrev dayLength : ℤ := 86_400_000

theorem dayLength_pos : 0 < dayLength := by norm_num

/-- The milliseconds of a minute. -/
abbrev minuteLength : ℤ := 60_000

theorem minuteLength_pos : 0 < minuteLength := by norm_num

/-- The largest multiple of a unit that does not exceed a time. -/
def floorTo (unit time : ℤ) : ℤ := time / unit * unit

structure TimeZone where
  offset : ℤ → ℤ
  wholeSeconds : ∀ instant, 1000 ∣ offset instant
  abs_offset_le : ∀ instant, |offset instant| ≤ dayLength - minuteLength
  isolated : ∀ earlier later, earlier < later → offset earlier ≠ offset (earlier - 1) →
    offset later ≠ offset (later - 1) → earlier + 2 * dayLength ≤ later

/-- The time that the clocks of a zone show. -/
def wallClock (zone : TimeZone) (instant : ℤ) : ℤ := instant + zone.offset instant

/-- The zone whose offset changes once. -/
def TimeZone.switching (change before after : ℤ) (hbefore : 1000 ∣ before) (hafter : 1000 ∣ after)
    (habsBefore : |before| ≤ dayLength - minuteLength)
    (habsAfter : |after| ≤ dayLength - minuteLength) : TimeZone where
  offset instant := if instant < change then before else after
  wholeSeconds instant := by
    by_cases hside : instant < change
    · rwa [if_pos hside]
    · rwa [if_neg hside]
  abs_offset_le instant := by
    by_cases hside : instant < change
    · rwa [if_pos hside]
    · rwa [if_neg hside]
  isolated earlier later hlt hearlier hlater := by
    have hat : ∀ instant : ℤ, (if instant < change then before else after)
        ≠ (if instant - 1 < change then before else after) → instant = change := by
      intro instant hdiffers
      by_contra hne
      by_cases hside : instant < change
      · rw [if_pos hside, if_pos (by omega)] at hdiffers
        exact hdiffers rfl
      · rw [if_neg hside, if_neg (by omega)] at hdiffers
        exact hdiffers rfl
    have hsame := (hat earlier hearlier).trans (hat later hlater).symm
    omega

/-- Corrections of a guess, until it shows the time wanted. -/
def correctGuess (shown : ℤ → ℤ) (target : ℤ) : ℕ → ℤ → ℤ
  | 0, guess => guess
  | attempts + 1, guess =>
      let next := guess - (shown guess - target)
      if next = guess then guess else correctGuess shown target attempts next

/-! ## Changes of the offset -/

section Changes

variable {zone : TimeZone}

theorem exists_change {earlier later : ℤ} (hle : earlier ≤ later)
    (hne : zone.offset later ≠ zone.offset earlier) :
    ∃ change, earlier < change ∧ change ≤ later
      ∧ zone.offset change ≠ zone.offset (change - 1) := by
  induction later, hle using Int.leInduction with
  | base => exact absurd rfl hne
  | succ later hle ih =>
      by_cases hstep : zone.offset (later + 1) = zone.offset later
      · obtain ⟨change, hafter, hbefore, hchange⟩ := ih (by rwa [← hstep])
        exact ⟨change, hafter, by omega, hchange⟩
      · refine ⟨later + 1, by omega, le_refl _, ?_⟩
        rwa [add_sub_cancel_right]

/-- Within two days from a start, the offset changes at most at one instant. -/
structure SwitchesAt (zone : TimeZone) (start change : ℤ) : Prop where
  after_start : start < change
  before_end : change < start + 2 * dayLength
  offset_eq : ∀ instant, start ≤ instant → instant < start + 2 * dayLength →
    zone.offset instant
      = if instant < change then zone.offset (change - 1) else zone.offset change

theorem exists_switchesAt (zone : TimeZone) (start : ℤ) :
    ∃ change, SwitchesAt zone start change := by
  by_cases hchanges : ∃ change, start < change ∧ change < start + 2 * dayLength
      ∧ zone.offset change ≠ zone.offset (change - 1)
  · obtain ⟨change, hstart, hend, hchange⟩ := hchanges
    refine ⟨change, hstart, hend, fun instant hfrom hto => ?_⟩
    by_cases hbefore : instant < change
    · rw [if_pos hbefore]
      by_contra hne
      obtain ⟨other, hafter, hother, hdiffers⟩ :=
        exists_change (by omega : instant ≤ change - 1) (Ne.symm hne)
      have hapart := zone.isolated other change (by omega) hdiffers hchange
      omega
    · rw [if_neg hbefore]
      by_contra hne
      obtain ⟨other, hafter, hother, hdiffers⟩ :=
        exists_change (by omega : change ≤ instant) hne
      have hapart := zone.isolated change other hafter hchange hdiffers
      omega
  · have hday := dayLength_pos
    have hsame : ∀ instant, start ≤ instant → instant < start + 2 * dayLength →
        zone.offset instant = zone.offset start := by
      intro instant hfrom hto
      by_contra hne
      obtain ⟨change, hafter, hbefore, hchange⟩ := exists_change hfrom hne
      exact hchanges ⟨change, hafter, by omega, hchange⟩
    refine ⟨start + 1, by omega, by norm_num, fun instant hfrom hto => ?_⟩
    rw [add_sub_cancel_right, hsame instant hfrom hto, hsame (start + 1) (by omega) (by omega),
      ite_self]

/-- Any other instant of the two days leaves the offset as it is. -/
theorem SwitchesAt.eq_of_differs {start change other : ℤ} (hswitch : SwitchesAt zone start change)
    (hlower : start < other) (hupper : other < start + 2 * dayLength)
    (hdiffers : zone.offset other ≠ zone.offset (other - 1)) : other = change := by
  rw [hswitch.offset_eq other (by omega) hupper,
    hswitch.offset_eq (other - 1) (by omega) (by omega)] at hdiffers
  by_contra hne
  by_cases hside : other < change
  · rw [if_pos hside, if_pos (by omega)] at hdiffers
    exact hdiffers rfl
  · rw [if_neg hside, if_neg (by omega)] at hdiffers
    exact hdiffers rfl

end Changes

/-! ## Multiples of a unit -/

section Units

variable {unit time shift : ℤ}

theorem dvd_floorTo : unit ∣ floorTo unit time := Dvd.intro_left _ rfl

theorem floorTo_eq_self (hdvd : unit ∣ time) : floorTo unit time = time :=
  Int.ediv_mul_cancel hdvd

theorem floorTo_le (hunit : 0 < unit) (time : ℤ) : floorTo unit time ≤ time :=
  Int.ediv_mul_le time hunit.ne'

theorem lt_floorTo_add (hunit : 0 < unit) (time : ℤ) : time < floorTo unit time + unit := by
  have hlt := Int.lt_ediv_add_one_mul_self time hunit
  rwa [add_mul, one_mul] at hlt

theorem floorTo_add_of_dvd (hunit : 0 < unit) (hdvd : unit ∣ time) :
    floorTo unit (time + shift) = time + floorTo unit shift := by
  obtain ⟨count, rfl⟩ := hdvd
  unfold floorTo
  rw [Int.add_comm, Int.add_mul_ediv_left _ _ hunit.ne', add_mul]
  ring

theorem abs_floorTo_lt (hunit : 0 < unit) (hminute : unit ≤ minuteLength)
    (habs : |time| ≤ dayLength - minuteLength) : |floorTo unit time| < dayLength := by
  have hbounds := abs_le.mp habs
  have hle := floorTo_le hunit time
  have hlt := lt_floorTo_add hunit time
  exact abs_lt.mpr ⟨by omega, by omega⟩

end Units

/-! ## Correcting a guess around one change -/

section Switch

variable {shown : ℤ → ℤ} {unit target change before after guess : ℤ}

/-- Near the target, a clock shows the instant with the offset before or after the change. -/
structure Switches (shown : ℤ → ℤ) (unit target change before after : ℤ) : Prop where
  shown_eq : ∀ guess, unit ∣ guess → target - dayLength < guess → guess < target + dayLength →
    shown guess = guess + if guess < change then before else after
  target_dvd : unit ∣ target
  before_dvd : unit ∣ before
  after_dvd : unit ∣ after
  abs_before : |before| < dayLength
  abs_after : |after| < dayLength

/-- The clock skips the target. -/
def Skips (target change before after : ℤ) : Prop :=
  target - after < change ∧ change ≤ target - before

theorem correctGuess_of_shown (hshown : shown guess = target) (attempts : ℕ) :
    correctGuess shown target attempts guess = guess := by
  cases attempts with
  | zero => rfl
  | succ attempts => simp [correctGuess, hshown]

theorem correctGuess_succ (attempts : ℕ) (guess : ℤ) :
    correctGuess shown target (attempts + 1) guess
      = correctGuess shown target attempts (guess - (shown guess - target)) := by
  rw [correctGuess]
  by_cases hsame : guess - (shown guess - target) = guess
  · have hshown : shown guess = target := by omega
    rw [if_pos hsame, hsame, correctGuess_of_shown hshown]
  · rw [if_neg hsame]

instance : Decidable (Skips target change before after) :=
  inferInstanceAs (Decidable (_ ∧ _))

/-- The clock shows the target before the change and again after it. -/
def Repeats (target change before after : ℤ) : Prop :=
  target - before < change ∧ change ≤ target - after

/-- Where four corrections end. -/
def settled (target change before after : ℤ) : ℤ :=
  if Skips target change before after then
    if target < change then target - after else target - before
  else if target < change then
    if target - before < change then target - before else target - after
  else
    if change ≤ target - after then target - after else target - before

/-- The time shown by a clock that is changed once. -/
def changedClock (change before after instant : ℤ) : ℤ :=
  instant + if instant < change then before else after

theorem changedClock_of_lt (hlt : guess < change) :
    changedClock change before after guess = guess + before := by
  rw [changedClock, if_pos hlt]

theorem changedClock_of_le (hle : change ≤ guess) :
    changedClock change before after guess = guess + after := by
  rw [changedClock, if_neg (not_lt.mpr hle)]

theorem settled_of_skips (hskips : Skips target change before after) :
    settled target change before after
      = if target < change then target - after else target - before :=
  if_pos hskips

theorem settled_of_not_skips (hskips : ¬Skips target change before after) :
    settled target change before after
      = if target < change then
          if target - before < change then target - before else target - after
        else
          if change ≤ target - after then target - after else target - before :=
  if_neg hskips

theorem settled_of_plain (hskips : ¬Skips target change before after)
    (hrepeats : ¬Repeats target change before after) :
    settled target change before after
      = if target - before < change then target - before else target - after := by
  rw [settled_of_not_skips hskips]
  unfold Skips at hskips
  unfold Repeats at hrepeats
  split_ifs <;> omega

/-- The clock passes the target once, at the instant that the corrections end at, exactly when
it is neither skipped nor repeated, or in a way that leaves that instant alone. -/
theorem settled_passes_iff (target change before after : ℤ) :
    (∀ instant, settled target change before after ≤ instant
        ↔ target ≤ changedClock change before after instant)
      ↔ (Skips target change before after → change ≤ target ∧ change = target - before)
        ∧ (Repeats target change before after → target < change ∧ change = target - after) := by
  by_cases hskips : Skips target change before after
  · have hnot : ¬Repeats target change before after := by
      unfold Repeats
      unfold Skips at hskips
      omega
    simp only [hskips, hnot, true_imp_iff, false_imp_iff, and_true]
    have hsettled := settled_of_skips hskips
    unfold Skips at hskips
    constructor
    · intro hpasses
      have hat := hpasses change
      have hjust := hpasses (change - 1)
      rw [changedClock_of_le (le_refl change)] at hat
      rw [changedClock_of_lt (by omega)] at hjust
      split_ifs at hsettled <;> omega
    · rintro ⟨hside, hbegins⟩ instant
      rw [if_neg (not_lt.mpr hside)] at hsettled
      by_cases hbefore : instant < change
      · rw [changedClock_of_lt hbefore]
        omega
      · rw [changedClock_of_le (not_lt.mp hbefore)]
        omega
  · by_cases hrepeats : Repeats target change before after
    · simp only [hskips, hrepeats, true_imp_iff, false_imp_iff, true_and]
      have hsettled : settled target change before after
          = if target < change then target - before else target - after := by
        unfold Repeats at hrepeats
        rw [settled_of_not_skips hskips, if_pos hrepeats.1, if_pos hrepeats.2]
      unfold Repeats at hrepeats
      constructor
      · intro hpasses
        have hat := hpasses change
        have hfirst := hpasses (target - before)
        rw [changedClock_of_le (le_refl change)] at hat
        rw [changedClock_of_lt hrepeats.1] at hfirst
        split_ifs at hsettled <;> omega
      · rintro ⟨hside, hends⟩ instant
        rw [if_pos hside] at hsettled
        by_cases hbefore : instant < change
        · rw [changedClock_of_lt hbefore]
          omega
        · rw [changedClock_of_le (not_lt.mp hbefore)]
          omega
    · simp only [hskips, hrepeats, false_imp_iff, and_self, iff_true]
      intro instant
      rw [settled_of_plain hskips hrepeats]
      unfold Skips at hskips
      unfold Repeats at hrepeats
      by_cases hbefore : instant < change
      · rw [changedClock_of_lt hbefore]
        split_ifs <;> omega
      · rw [changedClock_of_le (not_lt.mp hbefore)]
        split_ifs <;> omega

namespace Switches

variable (hswitch : Switches shown unit target change before after)
include hswitch

theorem shown_before (hbefore : target - before < change) :
    shown (target - before) = target := by
  have habs := abs_lt.mp hswitch.abs_before
  rw [hswitch.shown_eq _ (dvd_sub hswitch.target_dvd hswitch.before_dvd) (by omega) (by omega),
    if_pos hbefore, sub_add_cancel]

theorem shown_after (hafter : change ≤ target - after) : shown (target - after) = target := by
  have habs := abs_lt.mp hswitch.abs_after
  rw [hswitch.shown_eq _ (dvd_sub hswitch.target_dvd hswitch.after_dvd) (by omega) (by omega),
    if_neg (not_lt.mpr hafter), sub_add_cancel]

theorem correctGuess_step (attempts : ℕ) (hdvd : unit ∣ guess)
    (hlower : target - dayLength < guess) (hupper : guess < target + dayLength) :
    correctGuess shown target (attempts + 1) guess
      = correctGuess shown target attempts
          (if guess < change then target - before else target - after) := by
  rw [correctGuess_succ, hswitch.shown_eq guess hdvd hlower hupper]
  by_cases hside : guess < change
  · rw [if_pos hside, if_pos hside]
    congr 1
    ring
  · rw [if_neg hside, if_neg hside]
    congr 1
    ring

theorem correctGuess_target (attempts : ℕ) :
    correctGuess shown target (attempts + 1) target
      = correctGuess shown target attempts
          (if target < change then target - before else target - after) := by
  have hday := dayLength_pos
  exact hswitch.correctGuess_step attempts hswitch.target_dvd (by omega) (by omega)

theorem correctGuess_before (attempts : ℕ) :
    correctGuess shown target (attempts + 1) (target - before)
      = correctGuess shown target attempts
          (if target - before < change then target - before else target - after) := by
  have habs := abs_lt.mp hswitch.abs_before
  exact hswitch.correctGuess_step attempts (dvd_sub hswitch.target_dvd hswitch.before_dvd)
    (by omega) (by omega)

theorem correctGuess_after (attempts : ℕ) :
    correctGuess shown target (attempts + 1) (target - after)
      = correctGuess shown target attempts
          (if target - after < change then target - before else target - after) := by
  have habs := abs_lt.mp hswitch.abs_after
  exact hswitch.correctGuess_step attempts (dvd_sub hswitch.target_dvd hswitch.after_dvd)
    (by omega) (by omega)

/-- A skipped target is sought to and fro.  Any other is found with the offset on the side
of the change on which the corrections begin, where that shows it. -/
theorem correctGuess_eq_settled :
    correctGuess shown target 4 target = settled target change before after := by
  by_cases hskips : Skips target change before after
  · have hnot : ¬target - before < change := not_lt.mpr hskips.2
    rw [settled_of_skips hskips, hswitch.correctGuess_target]
    by_cases hside : target < change
    · rw [if_pos hside, if_pos hside, hswitch.correctGuess_before, if_neg hnot,
        hswitch.correctGuess_after, if_pos hskips.1, hswitch.correctGuess_before, if_neg hnot]
      rfl
    · rw [if_neg hside, if_neg hside, hswitch.correctGuess_after, if_pos hskips.1,
        hswitch.correctGuess_before, if_neg hnot, hswitch.correctGuess_after, if_pos hskips.1]
      rfl
  · have hshows : change ≤ target - after ∨ target - before < change := by
      by_contra hneither
      rw [not_or, not_le, not_lt] at hneither
      exact hskips hneither
    rw [settled_of_not_skips hskips, hswitch.correctGuess_target]
    by_cases hside : target < change
    · rw [if_pos hside, if_pos hside, hswitch.correctGuess_before]
      by_cases hbefore : target - before < change
      · rw [if_pos hbefore]
        exact correctGuess_of_shown (hswitch.shown_before hbefore) 2
      · rw [if_neg hbefore]
        exact correctGuess_of_shown (hswitch.shown_after (hshows.resolve_right hbefore)) 2
    · rw [if_neg hside, if_neg hside, hswitch.correctGuess_after]
      by_cases hafter : change ≤ target - after
      · rw [if_neg (not_lt.mpr hafter), if_pos hafter]
        exact correctGuess_of_shown (hswitch.shown_after hafter) 2
      · rw [if_pos (not_le.mp hafter), if_neg hafter]
        exact correctGuess_of_shown (hswitch.shown_before (hshows.resolve_left hafter)) 2

theorem settled_within :
    target - dayLength < settled target change before after
      ∧ settled target change before after < target + dayLength := by
  have hbefore := abs_lt.mp hswitch.abs_before
  have hafter := abs_lt.mp hswitch.abs_after
  unfold settled
  split_ifs <;> omega

end Switches

/-- The clocks of a zone, read in units of at most a minute. -/
theorem SwitchesAt.switches {zone : TimeZone}
    (hswitch : SwitchesAt zone (target - dayLength) change) (hunit : 0 < unit)
    (hminute : unit ≤ minuteLength) (hdvd : unit ∣ target) :
    Switches (fun guess => floorTo unit (wallClock zone guess)) unit target change
      (floorTo unit (zone.offset (change - 1))) (floorTo unit (zone.offset change)) where
  shown_eq guess hguess hlower hupper := by
    rw [wallClock, floorTo_add_of_dvd hunit hguess,
      hswitch.offset_eq guess (by omega) (by omega), apply_ite (floorTo unit)]
  target_dvd := hdvd
  before_dvd := dvd_floorTo
  after_dvd := dvd_floorTo
  abs_before := abs_floorTo_lt hunit hminute (zone.abs_offset_le _)
  abs_after := abs_floorTo_lt hunit hminute (zone.abs_offset_le _)

end Switch

end Stallorder.ZonedClock
