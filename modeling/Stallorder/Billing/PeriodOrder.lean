import Stallorder.Billing.CloseSteps

/-!
# The order of the periods

A subscription goes from one period to a later one only.  So the jobs that there
are, and the copies that the invocations under way have, are of its current
period or of earlier ones; and a period that has just begun has no job.
-/

namespace Stallorder.PeriodOrder

open OrderContract AutomaticClose CloseSteps PaygClosing UtcDate Calendar Run

/-! ## Months -/

section Months

variable (day : ℤ)

theorem monthStart_le_firstOfMonth : monthStart (monthOfDay day) ≤ firstOfMonth day := by
  have hfirst : firstOfMonth day = utcDay (monthOfDay day / 12) (monthOfDay day % 12) 1 := by
    simp only [firstOfMonth, partsOfDay, add_sub_cancel_right]
  rw [hfirst, utcDay_month, add_sub_cancel_right]
  apply monthStart_le_iff.mpr
  split_ifs <;> omega

theorem monthStart_le_addUtcMonths : monthStart (monthOfDay day + 1) ≤ addUtcMonths day 1 := by
  simp only [addUtcMonths, partsOfDay, add_sub_cancel_right, utcDay]
  apply monthStart_le_iff.mpr
  split_ifs <;> omega

theorem monthOfDay_le_firstOfMonth : monthOfDay day ≤ monthOfDay (firstOfMonth day) :=
  le_monthOfDay_iff.mpr (monthStart_le_firstOfMonth day)

theorem lt_addUtcMonths : day < addUtcMonths day 1 :=
  (within_monthOfDay day).2.trans_le (monthStart_le_addUtcMonths day)

/-- The next period begins after the day. -/
theorem lt_nextMonth : day < addUtcMonths (firstOfMonth day) 1 := by
  have hmonth := monthOfDay_le_firstOfMonth day
  calc
    day < monthStart (monthOfDay day + 1) := (within_monthOfDay day).2
    _ ≤ monthStart (monthOfDay (firstOfMonth day) + 1) := monthStart_le_iff.mpr (by omega)
    _ ≤ addUtcMonths (firstOfMonth day) 1 := monthStart_le_addUtcMonths _

theorem lt_firstOfMonth_addUtcMonths : day < firstOfMonth (addUtcMonths day 1) := by
  have hmonth : monthOfDay day + 1 ≤ monthOfDay (addUtcMonths day 1) :=
    le_monthOfDay_iff.mpr (monthStart_le_addUtcMonths day)
  calc
    day < monthStart (monthOfDay day + 1) := (within_monthOfDay day).2
    _ ≤ monthStart (monthOfDay (addUtcMonths day 1)) := monthStart_le_iff.mpr hmonth
    _ ≤ firstOfMonth (addUtcMonths day 1) := monthStart_le_firstOfMonth _

end Months

/-! ## Later periods -/

/-- The period is the same, or one of a later month. -/
def Follows (earlier later : ℤ) : Prop :=
  earlier = later ∨ firstOfMonth earlier < firstOfMonth later

theorem Follows.trans {first second third : ℤ} (hfirst : Follows first second)
    (hsecond : Follows second third) : Follows first third := by
  cases hfirst with
  | inl hsame => exact hsame ▸ hsecond
  | inr hlater =>
      cases hsecond with
      | inl hsame => exact .inr (hsame ▸ hlater)
      | inr hlatest => exact .inr (hlater.trans hlatest)

variable {subscription : BilledSubscription} {db db' : CloseDb} {command : CloseCommand}
  {tables tables' : CloseTables} {invocation invocation' : Invocation}

theorem follows_closed (subscription : BilledSubscription) (period : ℤ) :
    Follows subscription.billingPeriodStart
      (subscription.closed period).billingPeriodStart := by
  rw [BilledSubscription.closed]
  split_ifs with hcurrent
  · rw [← hcurrent]
    exact .inr (lt_firstOfMonth_addUtcMonths _)
  · exact .inl rfl

/-- The subscription has the period, or has had it. -/
def Had (subscriptions : Table BilledSubscription) (period : Uuid × ℤ) : Prop :=
  ∀ subscription ∈ subscriptions, subscription.id = period.1 →
    Follows period.2 subscription.billingPeriodStart

theorem Had.step {period : Uuid × ℤ} (hhad : Had tables.subscriptions period)
    (hstep : WorkStep tables invocation tables' invocation') :
    Had tables'.subscriptions period := by
  cases hstep.subscriptions with
  | inl hsame => exact hsame ▸ hhad
  | inr hclosed =>
      obtain ⟨head, _, _, hclosed⟩ := hclosed
      rw [hclosed]
      intro stored hstored hid
      obtain ⟨old, hold, hchanged⟩ := mem_closedIn.mp hstored
      split_ifs at hchanged with hsame
      · subst hchanged
        have holdId : old.id = period.1 := by
          rw [← hid, BilledSubscription.closed, apply_ite BilledSubscription.id, ite_self]
        exact (hhad old hold holdId).trans (follows_closed old _)
      · exact hchanged ▸ hhad old hold (hchanged ▸ hid)

/-- Nobody knows of a period to come. -/
structure Dated (db : CloseDb) : Prop where
  jobs : ∀ job ∈ db.tables.jobs, Had db.tables.subscriptions job.period
  copies : Underway (fun invocation => ∀ copy ∈ invocation.remaining,
    Had db.tables.subscriptions copy.period) db

theorem WorkStep.jobs {job : PaygCloseJob} (hstep : WorkStep tables invocation tables' invocation')
    (hjob : job ∈ tables'.jobs) :
    (∃ old ∈ tables.jobs, old.period = job.period)
      ∨ ∃ copy ∈ invocation.remaining, invocation.stage ≠ .ended ∧ copy.period = job.period := by
  cases hstep with
  | create hhead hstage hpassable hnone hat =>
      cases Table.mem_put.mp hjob with
      | inl hold => exact .inl ⟨job, hold.1, rfl⟩
      | inr hnew =>
          subst hnew
          exact .inr ⟨_, List.mem_of_head? hhead, by simp [hstage], rfl⟩
  | claim requestId now hhead hstage hold hclaimable hat =>
      cases Table.mem_put.mp hjob with
      | inl hold => exact .inl ⟨job, hold.1, rfl⟩
      | inr hnew =>
          subst hnew
          exact .inl ⟨_, Table.mem_of_get? hold, rfl⟩
  | record clock hhead hstage hold hpast =>
      cases Table.mem_put.mp hjob with
      | inl hold => exact .inl ⟨job, hold.1, rfl⟩
      | inr hnew =>
          subst hnew
          exact .inl ⟨_, Table.mem_of_get? hold, rfl⟩
  | close closes errorCode hhead hstage hat =>
      rw [apply_ite CloseTables.jobs, ite_self] at hjob
      exact .inl ⟨job, hjob, rfl⟩
  | _ => exact .inl ⟨job, hjob, rfl⟩

theorem had_of_mem {subscriptions : Table BilledSubscription}
    (hmem : subscription ∈ subscriptions) : Had subscriptions subscription.period := by
  intro other hother hid
  have hsame : other = subscription := Table.eq_of_key_eq hother hmem hid
  exact .inl (hsame ▸ rfl)

theorem Dated.step (hdated : Dated db) (hstep : DbStep db command db') : Dated db' := by
  have hcopies : Underway (fun invocation => ∀ copy ∈ invocation.remaining,
      Had db.tables.subscriptions copy.period) db' := by
    apply hdated.copies.step hstep
    · intro now copy hcopy
      exact had_of_mem (List.mem_filter.mp (FirstOf.mem_of_mem_firstOf hcopy)).1
    · intro invocation _ hcopies _ _ hworked hlive copy hcopy
      exact hcopies copy ((hworked.remaining hlive).2.subset hcopy)
  cases hstep with
  | work input hinvocation hstep =>
      constructor
      · intro job hjob
        cases WorkStep.jobs hstep hjob with
        | inl hold =>
            obtain ⟨old, hold, hperiod⟩ := hold
            exact hperiod ▸ (hdated.jobs old hold).step hstep
        | inr hnew =>
            obtain ⟨copy, hcopy, hlive, hperiod⟩ := hnew
            have hhad := hdated.copies _ (List.mem_of_getElem? hinvocation) hlive copy hcopy
            exact hperiod ▸ hhad.step hstep
      · intro invocation hinvocation hlive copy hcopy
        exact (hcopies invocation hinvocation hlive copy hcopy).step hstep
  | _ => exact ⟨hdated.jobs, hcopies⟩

theorem dated_exec (hdated : Dated db) (commands : List CloseCommand) :
    Dated (exec step db commands) :=
  invariant_exec Dated (fun db command hdated => hdated.step (db_step db command)) hdated commands

theorem dated_opened (subscriptions : Table BilledSubscription) :
    Dated (.opened subscriptions) := by
  constructor
  · intro job hjob
    exact absurd hjob (Table.notMem_empty job)
  · intro invocation hinvocation
    cases hinvocation

end Stallorder.PeriodOrder
