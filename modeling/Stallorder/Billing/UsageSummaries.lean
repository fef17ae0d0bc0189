import Stallorder.Billing.UsageCounts

/-!
# Summaries and the ledger

The triggers write the summaries of one month at a time.  All the same, every
summary is at any time what the whole ledger says, and no event of an order is
without one.
-/

namespace Stallorder.UsageSummaries

open OrderContract UsageLedger UsageCounts Calendar Checks Run

variable {contract : Option UsageContract} {pricing : UsagePricing} {db db' : UsageDb}
  {events : List UsageEvent} {event : UsageEvent} {period : ℤ}

/-! ## Writing summaries -/

theorem mem_upsertSummaries {summaries : Table UsageSummary} {stalls : List UsageStall}
    {summary : UsageSummary}
    (hmem : summary ∈ upsertSummaries pricing events period summaries stalls) :
    (∃ stall ∈ stalls, summary = calculated pricing events stall.id period)
      ∨ summary ∈ summaries
        ∧ ∀ stall ∈ stalls, (summary.stallId, summary.billingPeriod) ≠ (stall.id, period) := by
  induction stalls generalizing summaries with
  | nil => exact .inr ⟨hmem, fun stall hstall => by cases hstall⟩
  | cons stall stalls ih =>
      cases ih hmem with
      | inl hwritten =>
          obtain ⟨other, hother, hsummary⟩ := hwritten
          exact .inl ⟨other, List.mem_cons_of_mem _ hother, hsummary⟩
      | inr hold =>
          cases Table.mem_put.mp hold.1 with
          | inr hwritten => exact .inl ⟨stall, List.mem_cons_self, hwritten⟩
          | inl hkept =>
              refine .inr ⟨hkept.1, fun other hother => ?_⟩
              cases List.mem_cons.mp hother with
              | inl hsame => exact hsame ▸ hkept.2
              | inr hlater => exact hold.2 other hlater

/-- Nothing is deleted, and the stalls in scope have a summary. -/
theorem exists_upsertSummaries {summaries : Table UsageSummary} {stalls : List UsageStall}
    {key : Uuid × ℤ}
    (hkey : (∃ summary ∈ summaries, (summary.stallId, summary.billingPeriod) = key)
      ∨ ∃ stall ∈ stalls, (stall.id, period) = key) :
    ∃ summary ∈ upsertSummaries pricing events period summaries stalls,
      (summary.stallId, summary.billingPeriod) = key := by
  induction stalls generalizing summaries with
  | nil =>
      cases hkey with
      | inl hstored => exact hstored
      | inr hscoped =>
          obtain ⟨stall, hstall, -⟩ := hscoped
          cases hstall
  | cons stall stalls ih =>
      apply ih
      by_cases hsame : (stall.id, period) = key
      · exact .inl ⟨calculated pricing events stall.id period, Table.mem_put.mpr (.inr rfl), hsame⟩
      · cases hkey with
        | inl hstored =>
            obtain ⟨summary, hsummary, hsummaryKey⟩ := hstored
            refine .inl ⟨summary, Table.mem_put.mpr (.inl ⟨hsummary, ?_⟩), hsummaryKey⟩
            exact fun hreplaced => hsame (hreplaced.symm.trans hsummaryKey)
        | inr hscoped =>
            obtain ⟨other, hother, hotherKey⟩ := hscoped
            cases List.mem_cons.mp hother with
            | inl hhead => exact absurd (hhead ▸ hotherKey) hsame
            | inr hlater => exact .inr ⟨other, hlater, hotherKey⟩

/-! ## The invariant -/

/-- The summary says what the ledger says. -/
def IsCurrent (contract : Option UsageContract) (events : List UsageEvent)
    (summary : UsageSummary) : Prop :=
  ∃ pricing, pricingOf contract = .ok (some pricing)
    ∧ summary = calculated pricing events summary.stallId summary.billingPeriod

def IsCovered (contract : Option UsageContract) (summaries : Table UsageSummary)
    (event : UsageEvent) : Prop :=
  ∀ pricing, pricingOf contract = .ok (some pricing) → event.eventType ≠ .other →
    ∃ summary ∈ summaries, (summary.stallId, summary.billingPeriod)
      = (event.stallId, event.billingPeriod)

structure Sound (contract : Option UsageContract) (db : UsageDb) : Prop where
  ledger : Ledger db.events
  current : ∀ summary ∈ db.summaries, IsCurrent contract db.events summary
  covered : ∀ event ∈ db.events, IsCovered contract db.summaries event

theorem sound_empty : Sound contract .empty := by
  constructor
  · constructor
    · intro eventType hbillable
      exact List.nodup_nil
    · intro event hevent
      cases hevent
    · intro event hevent
      cases hevent
    · intro event hevent
      cases hevent
  · intro summary hsummary
    exact absurd hsummary (Table.notMem_empty summary)
  · intro event hevent
    cases hevent

/-- Rebuilding a month makes its summaries current. -/
structure Rebuilt (contract : Option UsageContract) (db db' : UsageDb) (period : ℤ) : Prop where
  orders : db'.orders = db.orders
  stalls : db'.stalls = db.stalls
  events : db'.events = db.events
  summaries : pricingOf contract = .ok none ∧ db'.summaries = db.summaries
    ∨ ∃ pricing, pricingOf contract = .ok (some pricing)
      ∧ db'.summaries = upsertSummaries pricing db.events period db.summaries
        (scopedStalls db period)

theorem rebuilt_of_ok {billingPeriod : ℤ}
    (hok : rebuildPaygStallUsageSummaries contract db billingPeriod = .ok db') :
    Rebuilt contract db db' (monthOf billingPeriod) := by
  rw [rebuildPaygStallUsageSummaries] at hok
  cases hpricing : pricingOf contract with
  | error failure =>
      rw [hpricing] at hok
      cases hok
  | ok pricing =>
      rw [hpricing] at hok
      cases pricing with
      | none =>
          cases hok
          exact ⟨rfl, rfl, rfl, .inl ⟨hpricing, rfl⟩⟩
      | some pricing =>
          cases hok
          exact ⟨rfl, rfl, rfl, .inr ⟨pricing, hpricing, rfl⟩⟩

theorem monthOf_monthOf (day : ℤ) : monthOf (monthOf day) = monthOf day := by
  rw [monthOf, monthOf, monthOfDay_monthStart]

/-! ## One more event -/

theorem counted_append_of_other {eventType : UsageEventType} {stallId : Uuid}
    (helsewhere : event.eventType ≠ eventType
      ∨ (event.stallId, event.billingPeriod) ≠ (stallId, period)) :
    counted pricing (events ++ [event]) stallId period eventType
      = counted pricing events stallId period eventType := by
  rw [counted, counted, List.filter_append, List.filter_singleton]
  have hskipped : (event.stallId = stallId && event.billingPeriod = period
      && event.eventType = eventType && isEffective pricing event) = false := by
    apply Bool.eq_false_of_not_eq_true
    intro hcounted
    simp only [Bool.and_eq_true, decide_eq_true_eq] at hcounted
    cases helsewhere with
    | inl htype => exact htype hcounted.1.2
    | inr hkey => exact hkey (Prod.ext hcounted.1.1.1 hcounted.1.1.2)
  rw [hskipped]
  exact List.append_nil _

/-- An event changes the summary of its stall and month only. -/
theorem calculated_append {stallId : Uuid}
    (helsewhere : event.eventType = .other
      ∨ (event.stallId, event.billingPeriod) ≠ (stallId, period)) :
    calculated pricing (events ++ [event]) stallId period
      = calculated pricing events stallId period := by
  have hsame : ∀ eventType ≠ .other,
      counted pricing (events ++ [event]) stallId period eventType
        = counted pricing events stallId period eventType := by
    intro eventType hbillable
    apply counted_append_of_other
    cases helsewhere with
    | inl hother => exact .inl fun hsame => hbillable (hsame.symm.trans hother)
    | inr hkey => exact .inr hkey
  simp only [calculated, hsame _ billableOrderCompleted_ne_other,
    hsame _ billableOrderFullRefund_ne_other]

/-- What a new event of the ledger has to be. -/
structure Admissible (events : List UsageEvent) (event : UsageEvent) : Prop where
  month : monthOf event.billingPeriod = event.billingPeriod
  fresh : event.eventType ≠ .other → ∀ other ∈ events,
    other.eventType = event.eventType → other.referenceId ≠ event.referenceId
  completion : event.eventType = .billableOrderCompleted → event.quantity = 1
  refund : event.eventType = .billableOrderFullRefund → event.quantity = -1
    ∧ ∃ completion ∈ events, completion.eventType = .billableOrderCompleted
      ∧ completion.referenceId = event.referenceId ∧ completion.stallId = event.stallId
      ∧ completion.billingPeriod = event.billingPeriod

theorem ledger_append (hledger : Ledger events) (hevent : Admissible events event) :
    Ledger (events ++ [event]) := by
  constructor
  · intro eventType hbillable
    rw [List.filter_append, List.filter_singleton, List.map_append]
    by_cases htype : event.eventType = eventType
    · rw [decide_eq_true htype]
      apply List.nodup_append.mpr
      refine ⟨hledger.once eventType hbillable, List.nodup_singleton _, ?_⟩
      intro reference hreference other hother
      obtain ⟨old, hold, hsame⟩ := List.mem_map.mp hreference
      obtain ⟨hold, holdType⟩ := List.mem_filter.mp hold
      have hnew := hevent.fresh (htype ▸ hbillable) old hold
        ((of_decide_eq_true holdType).trans htype.symm)
      have hlast : other = event.referenceId := List.mem_singleton.mp hother
      rw [hlast, ← hsame]
      exact hnew
    · rw [decide_eq_false htype]
      simpa using hledger.once eventType hbillable
  · intro other hother htype
    cases List.mem_append.mp hother with
    | inl hold => exact hledger.completions other hold htype
    | inr hnew =>
        rw [List.mem_singleton] at hnew
        subst hnew
        exact hevent.completion htype
  · intro other hother htype
    cases List.mem_append.mp hother with
    | inl hold =>
        obtain ⟨hquantity, completion, hcompletion, hfacts⟩ := hledger.refunds other hold htype
        exact ⟨hquantity, completion, List.mem_append_left _ hcompletion, hfacts⟩
    | inr hnew =>
        rw [List.mem_singleton] at hnew
        subst hnew
        obtain ⟨hquantity, completion, hcompletion, hfacts⟩ := hevent.refund htype
        exact ⟨hquantity, completion, List.mem_append_left _ hcompletion, hfacts⟩
  · intro other hother
    cases List.mem_append.mp hother with
    | inl hold => exact hledger.months other hold
    | inr hnew =>
        rw [List.mem_singleton] at hnew
        subst hnew
        exact hevent.month

/-! ## Steps -/

theorem Rebuilt.sound (hrebuilt : Rebuilt contract db db' period) (hledger : Ledger db.events)
    (hcurrent : ∀ summary ∈ db.summaries, IsCurrent contract db.events summary
      ∨ (∃ pricing, pricingOf contract = .ok (some pricing))
        ∧ ∃ stall ∈ scopedStalls db period,
          (summary.stallId, summary.billingPeriod) = (stall.id, period))
    (hcovered : ∀ event ∈ db.events, IsCovered contract db.summaries event
      ∨ ∃ stall ∈ scopedStalls db period,
        (stall.id, period) = (event.stallId, event.billingPeriod)) :
    Sound contract db' := by
  cases hrebuilt.summaries with
  | inl hfree =>
      obtain ⟨hpricing, hsame⟩ := hfree
      constructor
      · rw [hrebuilt.events]
        exact hledger
      · intro summary hsummary
        rw [hsame] at hsummary
        rw [hrebuilt.events]
        cases hcurrent summary hsummary with
        | inl hcurrent => exact hcurrent
        | inr hreplaced =>
            obtain ⟨⟨pricing, hother⟩, -⟩ := hreplaced
            rw [hpricing] at hother
            cases hother
      · intro event hevent pricing hother
        rw [hpricing] at hother
        cases hother
  | inr hpriced =>
      obtain ⟨pricing, hpricing, hsummaries⟩ := hpriced
      constructor
      · rw [hrebuilt.events]
        exact hledger
      · intro summary hsummary
        rw [hsummaries] at hsummary
        rw [hrebuilt.events]
        cases mem_upsertSummaries hsummary with
        | inl hwritten =>
            obtain ⟨stall, -, hwritten⟩ := hwritten
            subst hwritten
            exact ⟨pricing, hpricing, rfl⟩
        | inr hkept =>
            cases hcurrent summary hkept.1 with
            | inl hcurrent => exact hcurrent
            | inr hreplaced =>
                obtain ⟨-, stall, hstall, hkey⟩ := hreplaced
                exact absurd hkey (hkept.2 stall hstall)
      · intro event hevent pricing' hpricing' hbillable
        rw [hrebuilt.events] at hevent
        rw [hsummaries]
        apply exists_upsertSummaries
        cases hcovered event hevent with
        | inl hcovered => exact .inl (hcovered pricing' hpricing' hbillable)
        | inr hscoped => exact .inr hscoped

theorem Sound.rebuilt (hsound : Sound contract db) (hrebuilt : Rebuilt contract db db' period) :
    Sound contract db' :=
  hrebuilt.sound hsound.ledger (fun summary hsummary => .inl (hsound.current summary hsummary))
    fun event hevent => .inl (hsound.covered event hevent)

/-- After a new event, the summaries of its month are the ones that have to change. -/
theorem Sound.recorded (hsound : Sound contract db) (hevent : Admissible db.events event)
    (hstall : (db.stalls.get? event.stallId).isSome = true)
    (hrebuilt : Rebuilt contract { db with events := db.events ++ [event] } db'
      event.billingPeriod) : Sound contract db' := by
  obtain ⟨stall, hfound⟩ := Option.isSome_iff_exists.mp hstall
  obtain ⟨hstored, hid⟩ := Table.get?_eq_some_iff.mp hfound
  have hscoped : stall ∈ scopedStalls { db with events := db.events ++ [event] }
      event.billingPeriod := by
    apply List.mem_filter.mpr
    refine ⟨hstored, ?_⟩
    rw [Bool.or_eq_true, List.any_eq_true]
    refine .inr ⟨event, List.mem_append_right _ (List.mem_singleton_self event), ?_⟩
    rw [Bool.and_eq_true, decide_eq_true_eq, decide_eq_true_eq]
    exact ⟨hid.symm, rfl⟩
  have hkey : (stall.id, event.billingPeriod) = (event.stallId, event.billingPeriod) :=
    congrArg (·, event.billingPeriod) hid
  apply hrebuilt.sound (ledger_append hsound.ledger hevent)
  · intro summary hsummary
    obtain ⟨pricing, hpricing, hcurrent⟩ := hsound.current summary hsummary
    by_cases hsame : (event.stallId, event.billingPeriod)
        = (summary.stallId, summary.billingPeriod)
    · exact .inr ⟨⟨pricing, hpricing⟩, stall, hscoped, hsame.symm.trans hkey.symm⟩
    · exact .inl ⟨pricing, hpricing, hcurrent.trans (calculated_append (.inr hsame)).symm⟩
  · intro other hother
    cases List.mem_append.mp hother with
    | inl hold => exact .inl (hsound.covered other hold)
    | inr hnew =>
        rw [List.mem_singleton] at hnew
        subst hnew
        exact .inr ⟨stall, hscoped, hkey⟩

/-- An event of another kind is in no summary. -/
theorem Sound.append_other (hsound : Sound contract db) (hevent : event.eventType = .other)
    (hmonth : monthOf event.billingPeriod = event.billingPeriod) :
    Sound contract { db with events := db.events ++ [event] } := by
  have hadmissible : Admissible db.events event := by
    constructor
    · exact hmonth
    · intro hbillable
      exact absurd hevent hbillable
    · intro hcompleted
      rw [hevent] at hcompleted
      cases hcompleted
    · intro hrefund
      rw [hevent] at hrefund
      cases hrefund
  constructor
  · exact ledger_append hsound.ledger hadmissible
  · intro summary hsummary
    obtain ⟨pricing, hpricing, hcurrent⟩ := hsound.current summary hsummary
    exact ⟨pricing, hpricing, hcurrent.trans (calculated_append (.inl hevent)).symm⟩
  · intro other hother
    cases List.mem_append.mp hother with
    | inl hold => exact hsound.covered other hold
    | inr hnew =>
        rw [List.mem_singleton] at hnew
        subst hnew
        intro pricing hpricing hbillable
        exact absurd hevent hbillable

/-- The ledger and the summaries are all that the invariant is about. -/
theorem Sound.of_eq (hsound : Sound contract db) (hevents : db'.events = db.events)
    (hsummaries : db'.summaries = db.summaries) : Sound contract db' := by
  constructor
  · rw [hevents]
    exact hsound.ledger
  · rw [hevents, hsummaries]
    exact hsound.current
  · rw [hevents, hsummaries]
    exact hsound.covered

/-- An event is recorded, unless it has been before, and its month is rebuilt. -/
theorem Sound.addEvent (hsound : Sound contract db)
    (hevent : (∀ other ∈ db.events, other.eventType = event.eventType →
      other.referenceId ≠ event.referenceId) → Admissible db.events event)
    (hstall : (db.stalls.get? event.stallId).isSome = true)
    (hrebuilt : Rebuilt contract (UsageLedger.addEvent db event) db' event.billingPeriod) :
    Sound contract db' := by
  rw [UsageLedger.addEvent] at hrebuilt
  split_ifs at hrebuilt with hconflict
  · exact hsound.rebuilt hrebuilt
  · apply hsound.recorded _ hstall hrebuilt
    apply hevent
    intro other hother htype hreference
    apply hconflict
    rw [List.any_eq_true]
    exact ⟨other, hother, by simp [htype, hreference]⟩

variable {taipei : ZonedClock.TimeZone} {old new : BilledOrder} {now : Timestamp}

theorem Sound.completed {before : Option BilledOrder} (hsound : Sound contract db)
    (hstall : (db.stalls.get? new.stallId).isSome = true)
    (hok : recordBillableOrderCompleted contract taipei db before new now = .ok db') :
    Sound contract db' := by
  rw [recordBillableOrderCompleted] at hok
  split_ifs at hok with hcompleted
  · have hrebuilt := rebuilt_of_ok hok
    rw [monthOf_monthOf] at hrebuilt
    refine hsound.addEvent (fun hfresh => ?_) hstall hrebuilt
    exact ⟨monthOf_monthOf _, fun _ => hfresh, fun _ => rfl, fun htype => by cases htype⟩
  · cases hok
    exact hsound

theorem Sound.refunded (hsound : Sound contract db)
    (hstall : (db.stalls.get? new.stallId).isSome = true)
    (hok : recordBillableOrderFullRefund contract db old new now = .ok db') :
    Sound contract db' ∧ db'.stalls = db.stalls := by
  rw [recordBillableOrderFullRefund] at hok
  split_ifs at hok with hrefunded
  · cases hfound : db.events.find? fun event => event.eventType = .billableOrderCompleted
        && event.referenceId = new.id && event.stallId = new.stallId with
    | none =>
        rw [hfound] at hok
        cases hok
        exact ⟨hsound, rfl⟩
    | some completion =>
        rw [hfound] at hok
        have hcompletion := List.mem_of_find?_eq_some hfound
        have hfacts := List.find?_some hfound
        simp only [Bool.and_eq_true, decide_eq_true_eq] at hfacts
        have hmonth := hsound.ledger.months completion hcompletion
        have hrebuilt := rebuilt_of_ok hok
        rw [hmonth] at hrebuilt
        constructor
        · refine hsound.addEvent (fun hfresh => ?_) hstall hrebuilt
          exact ⟨hmonth, fun _ => hfresh, fun htype => (by cases htype),
            fun _ => ⟨rfl, completion, hcompletion, hfacts.1.1, hfacts.1.2, hfacts.2, rfl⟩⟩
        · rw [hrebuilt.stalls, UsageLedger.addEvent]
          split_ifs <;> rfl
  · cases hok
    exact ⟨hsound, rfl⟩

theorem Sound.runCommand {command : UsageCommand} (hsound : Sound contract db)
    (hok : UsageLedger.runCommand contract taipei db command = .ok db') : Sound contract db' := by
  cases command with
  | insertOrder order now =>
      simp only [UsageLedger.runCommand, bind_eq_ok, failWhen_eq_ok] at hok
      obtain ⟨_, hstall, _, _, hok⟩ := hok
      have hinserted : Sound contract { db with orders := db.orders.put order } :=
        hsound.of_eq rfl rfl
      exact hinserted.completed (Option.isNone_eq_false_iff.mp hstall) hok
  | updateOrder order now =>
      simp only [UsageLedger.runCommand, bind_eq_ok, failWhen_eq_ok] at hok
      obtain ⟨_, hstall, old, _, refunded, hrefunded, hok⟩ := hok
      have hupdated : Sound contract { db with orders := db.orders.put order } :=
        hsound.of_eq rfl rfl
      have hstored := Option.isNone_eq_false_iff.mp hstall
      obtain ⟨hrefundedSound, hstalls⟩ := hupdated.refunded hstored hrefunded
      exact hrefundedSound.completed (by rw [hstalls]; exact hstored) hok
  | saveStall stall =>
      cases hok
      exact hsound.of_eq rfl rfl
  | recordUsage stallId quantity billingPeriod referenceId now =>
      simp only [UsageLedger.runCommand, bind_eq_ok, failWhen_eq_ok, pure_eq_ok] at hok
      obtain ⟨_, _, _, hmonth, hsame⟩ := hok
      subst hsame
      exact hsound.append_other rfl (by simpa using hmonth)
  | rebuild billingPeriod => exact hsound.rebuilt (rebuilt_of_ok hok)

theorem sound_exec (contract : Option UsageContract) (taipei : ZonedClock.TimeZone)
    (commands : List UsageCommand) :
    Sound contract (exec (step contract taipei) .empty commands) := by
  apply invariant_exec (Sound contract)
  · intro db command hsound
    rw [step]
    cases hresult : UsageLedger.runCommand contract taipei db command with
    | error failure => exact hsound
    | ok db' => exact hsound.runCommand hresult
  · exact sound_empty

/-- Whatever happens to the orders: each summary is what rebuilding it from the whole ledger gives,
it counts the orders of its stall and month that the pricing applies to and that have not been
refunded, up to those whose completion and refund are on either side of the start of the pricing;
and no order that is billed is without a summary. -/
theorem summaries_exec (contract : Option UsageContract) (taipei : ZonedClock.TimeZone)
    (commands : List UsageCommand) :
    (∀ summary ∈ (exec (step contract taipei) .empty commands).summaries,
      ∃ pricing, pricingOf contract = .ok (some pricing)
        ∧ summary = calculated pricing (exec (step contract taipei) .empty commands).events
          summary.stallId summary.billingPeriod
        ∧ summary.netBillableOrderCount
          = max ((kept pricing (exec (step contract taipei) .empty commands).events
              summary.stallId summary.billingPeriod : ℤ)
            + refundedBefore pricing (exec (step contract taipei) .empty commands).events
              summary.stallId summary.billingPeriod
            - completedBefore pricing (exec (step contract taipei) .empty commands).events
              summary.stallId summary.billingPeriod) 0)
      ∧ ∀ event ∈ (exec (step contract taipei) .empty commands).events,
        IsCovered contract (exec (step contract taipei) .empty commands).summaries event := by
  have hsound := sound_exec contract taipei commands
  constructor
  · intro summary hsummary
    obtain ⟨pricing, hpricing, hcurrent⟩ := hsound.current summary hsummary
    have hnet := hsound.ledger.net_eq pricing summary.stallId summary.billingPeriod
    rw [← hcurrent] at hnet
    exact ⟨pricing, hpricing, hcurrent, hnet⟩
  · exact hsound.covered

end Stallorder.UsageSummaries
