import Stallorder.Core.Run

/-!
# Leases

A lease is one stored pair of an owner and the moment at which it expires.  An
owner takes it when it is free, expired or already its own, extends it while it is
stored under its name, and gives it back.  What an owner was granted last may
have been taken over since, but only after it has expired, so at any moment at
most one owner has been granted a lease that has not expired.
-/

namespace Stallorder.Lease

open Run

variable {Owner Time : Type*} [DecidableEq Owner]

/-- The stored owner and the moment at which the lease expires. -/
abbrev Slot (Owner Time : Type*) := Option (Owner × Time)

/-- Take the lease, unless another owner has one that has not expired. -/
def acquire [LinearOrder Time] (slot : Slot Owner Time) (owner : Owner) (now expiry : Time) :
    Slot Owner Time × Bool :=
  if slot.any fun held => held.1 ≠ owner && now < held.2 then (slot, false)
  else (some (owner, expiry), true)

/-- Extend the lease that is stored for the owner. -/
def renew (slot : Slot Owner Time) (owner : Owner) (expiry : Time) : Slot Owner Time × Bool :=
  if slot.any fun held => held.1 = owner then (some (owner, expiry), true) else (slot, false)

/-- Delete the lease that is stored for the owner. -/
def release (slot : Slot Owner Time) (owner : Owner) : Slot Owner Time :=
  if slot.any fun held => held.1 = owner then none else slot

/-- One call of an owner at a moment; `pass` lets the moment pass. -/
inductive Call (Owner Time : Type*)
  | acquire (owner : Owner) (now expiry : Time)
  | renew (owner : Owner) (now expiry : Time)
  | release (owner : Owner) (now : Time)
  | pass (now : Time)

def Call.now : Call Owner Time → Time
  | .acquire _ now _ => now
  | .renew _ now _ => now
  | .release _ now => now
  | .pass now => now

/-- The slot, the last moment, and until when each owner was last granted the
lease and has not given it back. -/
@[ext]
structure World (Owner Time : Type*) where
  slot : Slot Owner Time
  clock : Time
  granted : Owner → Option Time

/-- Note what an owner was answered. -/
def grant (granted : Owner → Option Time) (owner : Owner) (expiry : Time) (answer : Bool) :
    Owner → Option Time :=
  if answer then Function.update granted owner (some expiry) else granted

def step [LinearOrder Time] (world : World Owner Time) (call : Call Owner Time) : World Owner Time :=
  match call with
  | .acquire owner now expiry => {
      slot := (acquire world.slot owner now expiry).1
      clock := now
      granted := grant world.granted owner expiry (acquire world.slot owner now expiry).2 }
  | .renew owner now expiry => {
      slot := (renew world.slot owner expiry).1
      clock := now
      granted := grant world.granted owner expiry (renew world.slot owner expiry).2 }
  | .release owner now => {
      slot := release world.slot owner
      clock := now
      granted := Function.update world.granted owner none }
  | .pass now => { world with clock := now }

/-- The clock does not run backwards. -/
def ClockAdvances [LinearOrder Time] (world : World Owner Time) (call : Call Owner Time) : Prop :=
  world.clock ≤ call.now

/-! ## What the operations do -/

section Operations

variable {slot : Slot Owner Time} {owner : Owner} {now expiry : Time}

theorem renew_eq_true (hrenew : (renew slot owner expiry).2 = true) :
    (renew slot owner expiry).1 = some (owner, expiry) ∧ ∃ held, slot = some (owner, held) := by
  unfold renew at hrenew ⊢
  split at hrenew
  · next hown =>
      rw [if_pos hown]
      obtain ⟨held, hslot, howner⟩ := (Option.any_eq_true _ _).mp hown
      exact ⟨rfl, held.2, by rw [hslot, ← of_decide_eq_true howner]⟩
  · cases hrenew

theorem renew_eq_false (hrenew : (renew slot owner expiry).2 = false) :
    (renew slot owner expiry).1 = slot := by
  unfold renew at hrenew ⊢
  split at hrenew
  · cases hrenew
  · next hother => rw [if_neg hother]

theorem release_of_other {other : Owner} {held : Time} (hslot : slot = some (other, held))
    (hother : other ≠ owner) : release slot owner = slot := by
  have hnot : ¬ (slot.any fun held => held.1 = owner) = true := by
    rw [hslot, Option.any_some, decide_eq_true_eq]
    exact hother
  rw [release, if_neg hnot]

variable [LinearOrder Time]

/-- A lease is taken over from another owner only after it has expired. -/
theorem acquire_eq_true (hacquire : (acquire slot owner now expiry).2 = true) :
    (acquire slot owner now expiry).1 = some (owner, expiry)
      ∧ ∀ other held, slot = some (other, held) → other ≠ owner → held ≤ now := by
  unfold acquire at hacquire ⊢
  split at hacquire
  · cases hacquire
  · next hfree =>
      rw [if_neg hfree]
      refine ⟨rfl, fun other held hslot hother => ?_⟩
      rw [hslot, Option.any_some, Bool.and_eq_true, decide_eq_true_eq, decide_eq_true_eq] at hfree
      exact not_lt.mp fun hlater => hfree ⟨hother, hlater⟩

theorem acquire_eq_false (hacquire : (acquire slot owner now expiry).2 = false) :
    (acquire slot owner now expiry).1 = slot := by
  unfold acquire at hacquire ⊢
  split at hacquire
  · next htaken => rw [if_pos htaken]
  · cases hacquire

end Operations

/-! ## Exclusion -/

theorem grant_self (granted : Owner → Option Time) (owner : Owner) (expiry : Time) :
    grant granted owner expiry true owner = some expiry :=
  Function.update_self ..

theorem grant_of_ne (granted : Owner → Option Time) {owner other : Owner} (expiry : Time)
    (answer : Bool) (hother : other ≠ owner) :
    grant granted owner expiry answer other = granted other := by
  unfold grant
  split
  · exact Function.update_of_ne hother ..
  · rfl

/-- A further grant leaves none of the earlier ones without an answer. -/
theorem exists_grant {granted : Owner → Option Time} {other : Owner} {held : Time}
    (hgranted : granted other = some held) (owner : Owner) (expiry : Time) (answer : Bool) :
    ∃ held', grant granted owner expiry answer other = some held' := by
  by_cases hother : other = owner
  · subst hother
    cases answer with
    | false => exact ⟨held, hgranted⟩
    | true => exact ⟨expiry, grant_self granted other expiry⟩
  · exact ⟨held, (grant_of_ne granted expiry answer hother).trans hgranted⟩

variable [LinearOrder Time]

/-- What an owner was granted and has not expired is what is stored. -/
def Exclusive (world : World Owner Time) : Prop :=
  ∀ owner expiry, world.granted owner = some expiry → world.clock < expiry →
    world.slot = some (owner, expiry)

/-- At a moment the owner has a lease that has not expired, by what is stored or
by what it was granted. -/
def HoldsAt (world : World Owner Time) (moment : Time) (owner : Owner) : Prop :=
  ∃ expiry, moment < expiry
    ∧ (world.granted owner = some expiry ∨ world.slot = some (owner, expiry))

variable {world : World Owner Time} {call : Call Owner Time}

/-- What an owner was granted, once the lease has gone to another owner, has expired. -/
theorem exclusive_step (hexclusive : Exclusive world) (hclock : ClockAdvances world call) :
    Exclusive (step world call) := by
  intro holder held hgranted hheld
  cases call with
  | acquire owner now expiry =>
      change grant world.granted owner expiry (acquire world.slot owner now expiry).2 holder
        = some held at hgranted
      change (acquire world.slot owner now expiry).1 = some (holder, held)
      change now < held at hheld
      change world.clock ≤ now at hclock
      cases hanswer : (acquire world.slot owner now expiry).2 with
      | false =>
          rw [hanswer] at hgranted
          rw [acquire_eq_false hanswer]
          exact hexclusive holder held hgranted (hclock.trans_lt hheld)
      | true =>
          rw [hanswer] at hgranted
          obtain ⟨hslot, hexpired⟩ := acquire_eq_true hanswer
          rw [hslot]
          by_cases hholder : holder = owner
          · subst hholder
            rw [grant_self] at hgranted
            rw [Option.some.inj hgranted]
          · rw [grant_of_ne _ _ _ hholder] at hgranted
            have hstored := hexclusive holder held hgranted (hclock.trans_lt hheld)
            exact absurd hheld (not_lt.mpr (hexpired holder held hstored hholder))
  | renew owner now expiry =>
      change grant world.granted owner expiry (renew world.slot owner expiry).2 holder
        = some held at hgranted
      change (renew world.slot owner expiry).1 = some (holder, held)
      change now < held at hheld
      change world.clock ≤ now at hclock
      cases hanswer : (renew world.slot owner expiry).2 with
      | false =>
          rw [hanswer] at hgranted
          rw [renew_eq_false hanswer]
          exact hexclusive holder held hgranted (hclock.trans_lt hheld)
      | true =>
          rw [hanswer] at hgranted
          obtain ⟨hslot, before, hbefore⟩ := renew_eq_true hanswer
          rw [hslot]
          by_cases hholder : holder = owner
          · subst hholder
            rw [grant_self] at hgranted
            rw [Option.some.inj hgranted]
          · rw [grant_of_ne _ _ _ hholder] at hgranted
            have hstored := hexclusive holder held hgranted (hclock.trans_lt hheld)
            rw [hbefore, Option.some.injEq, Prod.mk.injEq] at hstored
            exact absurd hstored.1.symm hholder
  | release owner now =>
      change Function.update world.granted owner none holder = some held at hgranted
      change release world.slot owner = some (holder, held)
      change now < held at hheld
      change world.clock ≤ now at hclock
      by_cases hholder : holder = owner
      · subst hholder
        rw [Function.update_self] at hgranted
        cases hgranted
      · rw [Function.update_of_ne hholder] at hgranted
        have hstored := hexclusive holder held hgranted (hclock.trans_lt hheld)
        rw [release_of_other hstored hholder]
        exact hstored
  | pass now =>
      change now < held at hheld
      change world.clock ≤ now at hclock
      exact hexclusive holder held hgranted (hclock.trans_lt hheld)

theorem exclusive_exec (hexclusive : Exclusive world) {calls : List (Call Owner Time)}
    (hclock : Safely step ClockAdvances world calls) : Exclusive (exec step world calls) :=
  invariant_of_safely Exclusive (fun _ _ hstate hadvances => exclusive_step hstate hadvances)
    hexclusive hclock

omit [DecidableEq Owner] in
/-- At any moment from the last call on, at most one owner has an unexpired lease. -/
theorem holdsAt_unique (hexclusive : Exclusive world) {moment : Time}
    (hmoment : world.clock ≤ moment) {left right : Owner} (hleft : HoldsAt world moment left)
    (hright : HoldsAt world moment right) : left = right := by
  have hstored : ∀ owner, HoldsAt world moment owner →
      ∃ expiry, world.slot = some (owner, expiry) := by
    rintro owner ⟨expiry, hexpiry, hgranted | hslot⟩
    · exact ⟨expiry, hexclusive owner expiry hgranted (hmoment.trans_lt hexpiry)⟩
    · exact ⟨expiry, hslot⟩
  obtain ⟨leftExpiry, hleftSlot⟩ := hstored left hleft
  obtain ⟨rightExpiry, hrightSlot⟩ := hstored right hright
  have hsame := hleftSlot.symm.trans hrightSlot
  rw [Option.some.injEq, Prod.mk.injEq] at hsame
  exact hsame.1

end Stallorder.Lease
