import Stallorder.Billing.UsageLedger
import Stallorder.Core.Run

/-!
# What the summaries count

A summary charges the orders that the pricing applies to and that have not been
refunded.  The start of the pricing falls between a completion and its refund
for some orders: their refunds are taken off although they were never charged.
-/

namespace Stallorder.UsageCounts

open OrderContract UsageLedger

/-! ## Counting -/

section Counting

variable {Item : Type*} [DecidableEq Item]

/-- Two lists without repetitions have as many of the one in the other as the other way round. -/
theorem countP_mem_comm {left right : List Item} (hleft : left.Nodup) (hright : right.Nodup) :
    left.countP (· ∈ right) = right.countP (· ∈ left) := by
  rw [List.countP_eq_length_filter, List.countP_eq_length_filter]
  apply List.Perm.length_eq
  apply (List.perm_ext_iff_of_nodup (hleft.filter _) (hright.filter _)).mpr
  intro item
  rw [List.mem_filter, List.mem_filter, decide_eq_true_eq, decide_eq_true_eq, and_comm]

omit [DecidableEq Item] in
/-- Every item is of one of three kinds. -/
theorem countP_add_countP {items : List Item} {first second third : Item → Bool}
    (hone : ∀ item ∈ items, (first item).toNat + (second item).toNat + (third item).toNat = 1) :
    items.countP first + items.countP second + items.countP third = items.length := by
  induction items with
  | nil => rfl
  | cons item items ih =>
      have hrest := ih fun other hother => hone other (List.mem_cons_of_mem _ hother)
      have hitem := hone item List.mem_cons_self
      have htoNat : ∀ found : Bool, (if found = true then 1 else 0) = found.toNat := by decide
      simp only [List.countP_cons, List.length_cons, htoNat]
      omega

end Counting

/-! ## The ledger -/

/-- An order is completed once and refunded once, and a refund is booked where its completion
is. -/
structure Ledger (events : List UsageEvent) : Prop where
  once : ∀ eventType ≠ .other,
    ((events.filter (·.eventType = eventType)).map (·.referenceId)).Nodup
  completions : ∀ event ∈ events, event.eventType = .billableOrderCompleted → event.quantity = 1
  refunds : ∀ event ∈ events, event.eventType = .billableOrderFullRefund →
    event.quantity = -1 ∧ ∃ completion ∈ events,
      completion.eventType = .billableOrderCompleted
        ∧ completion.referenceId = event.referenceId
        ∧ completion.stallId = event.stallId
        ∧ completion.billingPeriod = event.billingPeriod
  months : ∀ event ∈ events, monthOf event.billingPeriod = event.billingPeriod

section Ledgers

variable {events : List UsageEvent} {event other : UsageEvent} {pricing : UsagePricing}
  {stallId : Uuid} {period : ℤ} {eventType : UsageEventType}

theorem mem_counted : event ∈ counted pricing events stallId period eventType ↔
    event ∈ events ∧ event.stallId = stallId ∧ event.billingPeriod = period
      ∧ event.eventType = eventType ∧ isEffective pricing event = true := by
  rw [counted, List.mem_filter]
  simp only [Bool.and_eq_true, decide_eq_true_eq, and_assoc]

theorem Ledger.eq_of_reference (hledger : Ledger events) (hevent : event ∈ events)
    (hother : other ∈ events) (hbillable : event.eventType ≠ .other)
    (htype : other.eventType = event.eventType)
    (hreference : other.referenceId = event.referenceId) : other = event := by
  apply List.inj_on_of_nodup_map (hledger.once event.eventType hbillable)
  · exact List.mem_filter.mpr ⟨hother, decide_eq_true htype⟩
  · exact List.mem_filter.mpr ⟨hevent, decide_eq_true rfl⟩
  · exact hreference

theorem billableOrderCompleted_ne_other : UsageEventType.billableOrderCompleted ≠ .other := by
  decide

theorem billableOrderFullRefund_ne_other : UsageEventType.billableOrderFullRefund ≠ .other := by
  decide

theorem Ledger.nodup_counted (hledger : Ledger events) (pricing : UsagePricing) (stallId : Uuid)
    (period : ℤ) (hbillable : eventType ≠ .other) :
    ((counted pricing events stallId period eventType).map (·.referenceId)).Nodup := by
  apply List.Nodup.sublist _ (hledger.once eventType hbillable)
  apply List.Sublist.map
  apply List.monotone_filter_right
  intro event hevent
  simp only [Bool.and_eq_true, decide_eq_true_eq] at hevent
  exact decide_eq_true hevent.1.2

/-! ### Orders on either side of the start of the pricing -/

def hasEvent (events : List UsageEvent) (eventType : UsageEventType)
    (event : UsageEvent) (keep : UsageEvent → Bool) : Bool :=
  events.any fun other => other.eventType = eventType && other.referenceId = event.referenceId
    && keep other

/-- The completed orders that the pricing applies to and that have not been refunded. -/
def kept (pricing : UsagePricing) (events : List UsageEvent) (stallId : Uuid) (period : ℤ) : ℕ :=
  (counted pricing events stallId period .billableOrderCompleted).countP fun completion =>
    !hasEvent events .billableOrderFullRefund completion fun _ => true

/-- Those whose refund is dated before the start of the pricing. -/
def refundedBefore (pricing : UsagePricing) (events : List UsageEvent) (stallId : Uuid)
    (period : ℤ) : ℕ :=
  (counted pricing events stallId period .billableOrderCompleted).countP fun completion =>
    hasEvent events .billableOrderFullRefund completion fun refund => !isEffective pricing refund

/-- The refunds since then of orders that had been completed before it. -/
def completedBefore (pricing : UsagePricing) (events : List UsageEvent) (stallId : Uuid)
    (period : ℤ) : ℕ :=
  (counted pricing events stallId period .billableOrderFullRefund).countP fun refund =>
    hasEvent events .billableOrderCompleted refund fun completion =>
      !isEffective pricing completion

variable {keep : UsageEvent → Bool}

theorem hasEvent_iff : hasEvent events eventType event keep = true ↔
    ∃ other ∈ events, other.eventType = eventType ∧ other.referenceId = event.referenceId
      ∧ keep other = true := by
  rw [hasEvent, List.any_eq_true]
  simp only [Bool.and_eq_true, decide_eq_true_eq, and_assoc]

/-- An order has one event of a type. -/
theorem Ledger.hasEvent_eq (hledger : Ledger events) (hother : other ∈ events)
    (htype : other.eventType = eventType) (hbillable : eventType ≠ .other)
    (hreference : other.referenceId = event.referenceId) :
    hasEvent events eventType event keep = keep other := by
  rw [Bool.eq_iff_iff, hasEvent_iff]
  constructor
  · rintro ⟨found, hfound, hfoundType, hfoundReference, hkeep⟩
    have hsame : found = other := hledger.eq_of_reference hother hfound (htype ▸ hbillable)
      (hfoundType.trans htype.symm) (hfoundReference.trans hreference.symm)
    exact hsame ▸ hkeep
  · intro hkeep
    exact ⟨other, hother, htype, hreference, hkeep⟩

/-- The refund of a completion that is counted is booked where the completion is. -/
theorem Ledger.refund_of_counted {completion refund : UsageEvent} (hledger : Ledger events)
    (hcompletion : completion ∈ counted pricing events stallId period .billableOrderCompleted)
    (hrefund : refund ∈ events) (htype : refund.eventType = .billableOrderFullRefund)
    (hreference : refund.referenceId = completion.referenceId) :
    refund.stallId = stallId ∧ refund.billingPeriod = period := by
  obtain ⟨hmem, hstall, hperiod, hcompleted, -⟩ := mem_counted.mp hcompletion
  obtain ⟨-, found, hfound, hfoundType, hfoundReference, hfoundStall, hfoundPeriod⟩ :=
    hledger.refunds refund hrefund htype
  have hsame : found = completion := hledger.eq_of_reference hmem hfound
    (hcompleted ▸ billableOrderCompleted_ne_other) (hfoundType.trans hcompleted.symm)
    (hfoundReference.trans hreference)
  subst hsame
  exact ⟨hfoundStall.symm.trans hstall, hfoundPeriod.symm.trans hperiod⟩

/-- The order of an event is among those that the pricing applies to if that event's is. -/
theorem Ledger.mem_references (hledger : Ledger events) (hother : other ∈ events)
    (hstall : other.stallId = stallId) (hperiod : other.billingPeriod = period)
    (htype : other.eventType = eventType) (hbillable : eventType ≠ .other)
    (hreference : other.referenceId = event.referenceId) :
    event.referenceId ∈ (counted pricing events stallId period eventType).map (·.referenceId)
      ↔ isEffective pricing other = true := by
  constructor
  · intro hmem
    obtain ⟨found, hfound, hfoundReference⟩ := List.mem_map.mp hmem
    obtain ⟨hfound, -, -, hfoundType, heffective⟩ := mem_counted.mp hfound
    have hsame : found = other := hledger.eq_of_reference hother hfound (htype ▸ hbillable)
      (hfoundType.trans htype.symm) (hfoundReference.trans hreference.symm)
    exact hsame ▸ heffective
  · intro heffective
    exact List.mem_map.mpr ⟨other,
      mem_counted.mpr ⟨hother, hstall, hperiod, htype, heffective⟩, hreference⟩

theorem Ledger.counted_completions (hledger : Ledger events) (pricing : UsagePricing)
    (stallId : Uuid) (period : ℤ) :
    kept pricing events stallId period + refundedBefore pricing events stallId period
        + (counted pricing events stallId period .billableOrderCompleted).countP (fun completion =>
          completion.referenceId ∈ (counted pricing events stallId period
            .billableOrderFullRefund).map (·.referenceId))
      = (counted pricing events stallId period .billableOrderCompleted).length := by
  apply countP_add_countP
  intro completion hcompletion
  cases hrefunded : hasEvent events .billableOrderFullRefund completion fun _ => true with
  | false =>
      have hnone : ∀ refund ∈ events, refund.eventType = .billableOrderFullRefund →
          refund.referenceId ≠ completion.referenceId := by
        intro refund hrefund htype hreference
        rw [hasEvent_iff.mpr ⟨refund, hrefund, htype, hreference, rfl⟩] at hrefunded
        cases hrefunded
      have hbefore : hasEvent events .billableOrderFullRefund completion
          (fun refund => !isEffective pricing refund) = false := by
        apply Bool.eq_false_of_not_eq_true
        intro hbefore
        obtain ⟨refund, hrefund, htype, hreference, -⟩ := hasEvent_iff.mp hbefore
        exact hnone refund hrefund htype hreference
      have hcountedRefund : ¬ completion.referenceId ∈ (counted pricing events stallId period
          .billableOrderFullRefund).map (·.referenceId) := by
        intro hmem
        obtain ⟨refund, hrefund, hreference⟩ := List.mem_map.mp hmem
        obtain ⟨hrefund, -, -, htype, -⟩ := mem_counted.mp hrefund
        exact hnone refund hrefund htype hreference
      rw [hbefore, decide_eq_false hcountedRefund]
      rfl
  | true =>
      obtain ⟨refund, hrefund, htype, hreference, -⟩ := hasEvent_iff.mp hrefunded
      obtain ⟨hstall, hperiod⟩ := hledger.refund_of_counted hcompletion hrefund htype hreference
      have hboth : decide (completion.referenceId ∈ (counted pricing events stallId period
          .billableOrderFullRefund).map (·.referenceId)) = isEffective pricing refund := by
        rw [Bool.eq_iff_iff, decide_eq_true_eq]
        exact hledger.mem_references hrefund hstall hperiod htype
          billableOrderFullRefund_ne_other hreference
      rw [hledger.hasEvent_eq hrefund htype billableOrderFullRefund_ne_other hreference, hboth]
      cases isEffective pricing refund <;> rfl

theorem Ledger.counted_refunds (hledger : Ledger events) (pricing : UsagePricing)
    (stallId : Uuid) (period : ℤ) :
    completedBefore pricing events stallId period
        + (counted pricing events stallId period .billableOrderFullRefund).countP (fun refund =>
          refund.referenceId ∈ (counted pricing events stallId period
            .billableOrderCompleted).map (·.referenceId))
      = (counted pricing events stallId period .billableOrderFullRefund).length := by
  rw [List.length_eq_countP_add_countP fun refund =>
    hasEvent events .billableOrderCompleted refund fun completion =>
      !isEffective pricing completion]
  congr 1
  apply List.countP_congr
  intro refund hrefund
  obtain ⟨hmem, hstall, hperiod, htype, -⟩ := mem_counted.mp hrefund
  obtain ⟨-, completion, hcompletion, hcompleted, hreference, hsameStall, hsamePeriod⟩ :=
    hledger.refunds refund hmem htype
  rw [hledger.hasEvent_eq hcompletion hcompleted billableOrderCompleted_ne_other hreference,
    decide_eq_true_eq, hledger.mem_references hcompletion (hsameStall.trans hstall)
      (hsamePeriod.trans hperiod) hcompleted billableOrderCompleted_ne_other hreference]
  cases isEffective pricing completion <;> decide

/-- What the pricing's events leave of the orders of a stall in a month. -/
theorem Ledger.length_counted (hledger : Ledger events) (pricing : UsagePricing)
    (stallId : Uuid) (period : ℤ) :
    (counted pricing events stallId period .billableOrderCompleted).length
        + completedBefore pricing events stallId period
      = (counted pricing events stallId period .billableOrderFullRefund).length
        + (kept pricing events stallId period + refundedBefore pricing events stallId period) := by
  have hcompletions := hledger.counted_completions pricing stallId period
  have hrefunds := hledger.counted_refunds pricing stallId period
  have hmatched := countP_mem_comm
    (hledger.nodup_counted pricing stallId period billableOrderCompleted_ne_other)
    (hledger.nodup_counted pricing stallId period billableOrderFullRefund_ne_other)
  rw [List.countP_map, List.countP_map] at hmatched
  simp only [Function.comp_def] at hmatched
  omega

theorem sum_quantity {quantity : ℤ} (hquantity : ∀ event ∈ events, event.quantity = quantity) :
    (events.map (·.quantity)).sum = events.length * quantity := by
  have hsame : events.map (·.quantity) = List.replicate events.length quantity := by
    apply List.eq_replicate_iff.mpr
    constructor
    · exact List.length_map _
    · intro found hfound
      obtain ⟨event, hevent, hfoundQuantity⟩ := List.mem_map.mp hfound
      exact hfoundQuantity ▸ hquantity event hevent
  rw [hsame, List.sum_replicate, nsmul_eq_mul]

theorem Ledger.net_eq (hledger : Ledger events) (pricing : UsagePricing) (stallId : Uuid)
    (period : ℤ) :
    (calculated pricing events stallId period).netBillableOrderCount
      = max ((kept pricing events stallId period : ℤ)
          + refundedBefore pricing events stallId period
          - completedBefore pricing events stallId period) 0 := by
  have hgross : ((counted pricing events stallId period .billableOrderCompleted).map
      (·.quantity)).sum
      = (counted pricing events stallId period .billableOrderCompleted).length := by
    rw [sum_quantity fun event hevent => hledger.completions event (mem_counted.mp hevent).1
      (mem_counted.mp hevent).2.2.2.1, mul_one]
  have hrefunded : ((counted pricing events stallId period .billableOrderFullRefund).map
      (·.quantity)).sum
      = -(counted pricing events stallId period .billableOrderFullRefund).length := by
    rw [sum_quantity fun event hevent => (hledger.refunds event (mem_counted.mp hevent).1
      (mem_counted.mp hevent).2.2.2.1).1, mul_neg_one]
  have hlength := hledger.length_counted pricing stallId period
  simp only [calculated, hgross, hrefunded]
  omega

end Ledgers

end Stallorder.UsageCounts
