import Stallorder.Core.Lease
import Stallorder.Core.Table
import Stallorder.Offline.OrderContract

/-!
# The synchronization lease

Where the browser has no lock manager, the tabs of an installation share a lease
in the database of the device: one record per installation, taken by the first
tab, renewed while its operation runs, and deleted after it.  Every call is one
transaction.
-/

namespace Stallorder.SyncLease

open OrderContract Run

/-- The record under the lease id of an installation. -/
structure OfflineSyncLease where
  installationId : Uuid
  ownerId : Uuid
  expiresAt : Timestamp
  createdAt : Timestamp
  updatedAt : Timestamp
  deriving DecidableEq

instance : KeyIndexed OfflineSyncLease Uuid := .ofKey (·.installationId)

abbrev LeaseStore := Table OfflineSyncLease

def acquireOfflineSyncLease (leases : LeaseStore) (installationId ownerId : Uuid)
    (nowMs leaseDurationMs : ℤ) : LeaseStore × Bool :=
  if (leases.get? installationId).any fun current =>
      current.ownerId ≠ ownerId && nowMs < current.expiresAt then (leases, false)
  else
    (leases.put {
      installationId := installationId
      ownerId := ownerId
      expiresAt := nowMs + leaseDurationMs
      createdAt := nowMs
      updatedAt := nowMs }, true)

def renewOfflineSyncLease (leases : LeaseStore) (installationId ownerId : Uuid)
    (nowMs leaseDurationMs : ℤ) : LeaseStore × Bool :=
  match leases.get? installationId with
  | none => (leases, false)
  | some current =>
      if current.ownerId ≠ ownerId then (leases, false)
      else (leases.put { current with
        expiresAt := nowMs + leaseDurationMs
        updatedAt := nowMs }, true)

def releaseOfflineSyncLease (leases : LeaseStore) (installationId ownerId : Uuid) : LeaseStore :=
  if (leases.get? installationId).any fun current => current.ownerId = ownerId then
    leases.filter fun lease => lease.installationId ≠ installationId
  else leases

/-! ## Calls -/

inductive LeaseCall
  | acquire (installationId ownerId : Uuid) (nowMs leaseDurationMs : ℤ)
  | renew (installationId ownerId : Uuid) (nowMs leaseDurationMs : ℤ)
  | release (installationId ownerId : Uuid) (nowMs : ℤ)

def LeaseCall.nowMs : LeaseCall → ℤ
  | .acquire _ _ nowMs _ => nowMs
  | .renew _ _ nowMs _ => nowMs
  | .release _ _ nowMs => nowMs

/-- The store, the last clock reading, and until when the owners were last
granted the lease of an installation and have not released it. -/
structure LeaseWorld where
  leases : LeaseStore
  clock : ℤ
  granted : Uuid → Uuid → Option ℤ

def LeaseWorld.opened (leases : LeaseStore) (clock : ℤ) : LeaseWorld where
  leases := leases
  clock := clock
  granted := fun _ _ => none

/-- Note what an owner was answered for an installation. -/
def noted (world : LeaseWorld) (installationId ownerId : Uuid) (expiresAt : ℤ)
    (answer : Bool) : Uuid → Uuid → Option ℤ :=
  Function.update world.granted installationId
    (Lease.grant (world.granted installationId) ownerId expiresAt answer)

def callStep (world : LeaseWorld) : LeaseCall → LeaseWorld
  | .acquire installationId ownerId nowMs leaseDurationMs =>
      let result := acquireOfflineSyncLease world.leases installationId ownerId nowMs
        leaseDurationMs
      { leases := result.1
        clock := nowMs
        granted := noted world installationId ownerId (nowMs + leaseDurationMs) result.2 }
  | .renew installationId ownerId nowMs leaseDurationMs =>
      let result := renewOfflineSyncLease world.leases installationId ownerId nowMs
        leaseDurationMs
      { leases := result.1
        clock := nowMs
        granted := noted world installationId ownerId (nowMs + leaseDurationMs) result.2 }
  | .release installationId ownerId nowMs =>
      { leases := releaseOfflineSyncLease world.leases installationId ownerId
        clock := nowMs
        granted := Function.update world.granted installationId
          (Function.update (world.granted installationId) ownerId none) }

/-- No call reads an earlier time than the one before it. -/
def ClockAdvances (world : LeaseWorld) (call : LeaseCall) : Prop :=
  world.clock ≤ call.nowMs

/-! ## The lease of one installation -/

/-- Who has the lease of an installation by the store, and until when. -/
def slotOf (leases : LeaseStore) (installationId : Uuid) : Lease.Slot Uuid ℤ :=
  (leases.get? installationId).map fun lease => (lease.ownerId, lease.expiresAt)

def LeaseWorld.view (world : LeaseWorld) (installationId : Uuid) : Lease.World Uuid ℤ where
  slot := slotOf world.leases installationId
  clock := world.clock
  granted := world.granted installationId

/-- What a call is to an installation. -/
def LeaseCall.seenBy (call : LeaseCall) (installationId : Uuid) : Lease.Call Uuid ℤ :=
  match call with
  | .acquire called ownerId nowMs leaseDurationMs =>
      if installationId = called then .acquire ownerId nowMs (nowMs + leaseDurationMs)
      else .pass nowMs
  | .renew called ownerId nowMs leaseDurationMs =>
      if installationId = called then .renew ownerId nowMs (nowMs + leaseDurationMs)
      else .pass nowMs
  | .release called ownerId nowMs =>
      if installationId = called then .release ownerId nowMs else .pass nowMs

section Store

variable (leases : LeaseStore)

theorem slotOf_put_self (lease : OfflineSyncLease) :
    slotOf (leases.put lease) lease.installationId = some (lease.ownerId, lease.expiresAt) := by
  rw [slotOf]
  exact congrArg (Option.map _) (Table.get?_put_self leases lease)

theorem slotOf_put_of_ne {lease : OfflineSyncLease} {other : Uuid}
    (hother : other ≠ lease.installationId) :
    slotOf (leases.put lease) other = slotOf leases other :=
  congrArg (Option.map _) (Table.get?_put_of_ne hother)

variable (installationId : Uuid)

theorem slotOf_filter_self :
    slotOf (leases.filter fun lease => lease.installationId ≠ installationId) installationId
      = none := by
  rw [slotOf, Option.map_eq_none_iff, Table.get?_eq_none_iff]
  intro lease hlease
  exact of_decide_eq_true (Table.mem_filter.mp hlease).2

variable {installationId} in
theorem slotOf_filter_of_ne {other : Uuid} (hother : other ≠ installationId) :
    slotOf (leases.filter fun lease => lease.installationId ≠ installationId) other
      = slotOf leases other := by
  unfold slotOf
  congr 1
  ext lease
  rw [Table.get?_eq_some_iff, Table.get?_eq_some_iff, Table.mem_filter]
  constructor
  · rintro ⟨⟨hlease, -⟩, hkey⟩
    exact ⟨hlease, hkey⟩
  · rintro ⟨hlease, hkey⟩
    refine ⟨⟨hlease, decide_eq_true fun hsame => ?_⟩, hkey⟩
    exact hother (hkey.symm.trans hsame)

theorem any_slotOf (condition : Uuid → ℤ → Bool) :
    (slotOf leases installationId).any (fun held => condition held.1 held.2)
      = (leases.get? installationId).any fun lease =>
        condition lease.ownerId lease.expiresAt := by
  rw [slotOf]
  cases leases.get? installationId <;> rfl

variable (ownerId : Uuid) (nowMs leaseDurationMs : ℤ)

theorem slotOf_acquire :
    (slotOf (acquireOfflineSyncLease leases installationId ownerId nowMs leaseDurationMs).1
        installationId,
      (acquireOfflineSyncLease leases installationId ownerId nowMs leaseDurationMs).2)
      = Lease.acquire (slotOf leases installationId) ownerId nowMs (nowMs + leaseDurationMs) := by
  have htaken := any_slotOf leases installationId fun holder expiresAt =>
    holder ≠ ownerId && nowMs < expiresAt
  unfold acquireOfflineSyncLease Lease.acquire
  rw [htaken]
  split
  · rfl
  · exact congrArg (·, true) (slotOf_put_self leases _)

theorem slotOf_renew :
    (slotOf (renewOfflineSyncLease leases installationId ownerId nowMs leaseDurationMs).1
        installationId,
      (renewOfflineSyncLease leases installationId ownerId nowMs leaseDurationMs).2)
      = Lease.renew (slotOf leases installationId) ownerId (nowMs + leaseDurationMs) := by
  have hown := any_slotOf leases installationId fun holder _ => holder = ownerId
  unfold renewOfflineSyncLease Lease.renew
  rw [hown]
  cases hfound : leases.get? installationId with
  | none => rfl
  | some current =>
      have hid : current.installationId = installationId := Table.key_of_get? hfound
      rw [Option.any_some]
      by_cases howner : current.ownerId = ownerId
      · rw [if_pos (decide_eq_true howner)]
        dsimp only
        rw [if_neg (not_not.mpr howner), ← howner]
        refine congrArg (·, true) ?_
        have hput := slotOf_put_self leases { current with
          expiresAt := nowMs + leaseDurationMs
          updatedAt := nowMs }
        rw [← hid]
        exact hput
      · rw [if_neg (by rwa [decide_eq_true_eq])]
        dsimp only
        rw [if_pos howner]

theorem slotOf_release :
    slotOf (releaseOfflineSyncLease leases installationId ownerId) installationId
      = Lease.release (slotOf leases installationId) ownerId := by
  have hown := any_slotOf leases installationId fun holder _ => holder = ownerId
  unfold releaseOfflineSyncLease Lease.release
  rw [hown]
  split
  · exact slotOf_filter_self leases installationId
  · rfl

variable {installationId} {other : Uuid}

theorem slotOf_acquire_of_ne (hother : other ≠ installationId) :
    slotOf (acquireOfflineSyncLease leases installationId ownerId nowMs leaseDurationMs).1 other
      = slotOf leases other := by
  unfold acquireOfflineSyncLease
  split
  · rfl
  · exact slotOf_put_of_ne leases hother

theorem slotOf_renew_of_ne (hother : other ≠ installationId) :
    slotOf (renewOfflineSyncLease leases installationId ownerId nowMs leaseDurationMs).1 other
      = slotOf leases other := by
  unfold renewOfflineSyncLease
  split
  · rfl
  · next current hfound =>
      have hid : current.installationId = installationId := Table.key_of_get? hfound
      split
      · rfl
      · exact slotOf_put_of_ne leases (hid ▸ hother)

theorem slotOf_release_of_ne (hother : other ≠ installationId) :
    slotOf (releaseOfflineSyncLease leases installationId ownerId) other
      = slotOf leases other := by
  unfold releaseOfflineSyncLease
  split
  · exact slotOf_filter_of_ne leases hother
  · rfl

end Store

/-- To an installation, a call is the call it sees. -/
theorem view_callStep (world : LeaseWorld) (call : LeaseCall) (installationId : Uuid) :
    (callStep world call).view installationId
      = Lease.step (world.view installationId) (call.seenBy installationId) := by
  cases call with
  | acquire called ownerId nowMs leaseDurationMs =>
      rw [LeaseCall.seenBy]
      split
      · next hcalled =>
          subst hcalled
          have hslot := slotOf_acquire world.leases installationId ownerId nowMs leaseDurationMs
          apply Lease.World.ext
          · exact congrArg Prod.fst hslot
          · rfl
          · exact (Function.update_self ..).trans
              (congrArg (Lease.grant _ _ _) (congrArg Prod.snd hslot))
      · next hcalled =>
          apply Lease.World.ext
          · exact slotOf_acquire_of_ne world.leases ownerId nowMs leaseDurationMs hcalled
          · rfl
          · exact Function.update_of_ne hcalled ..
  | renew called ownerId nowMs leaseDurationMs =>
      rw [LeaseCall.seenBy]
      split
      · next hcalled =>
          subst hcalled
          have hslot := slotOf_renew world.leases installationId ownerId nowMs leaseDurationMs
          apply Lease.World.ext
          · exact congrArg Prod.fst hslot
          · rfl
          · exact (Function.update_self ..).trans
              (congrArg (Lease.grant _ _ _) (congrArg Prod.snd hslot))
      · next hcalled =>
          apply Lease.World.ext
          · exact slotOf_renew_of_ne world.leases ownerId nowMs leaseDurationMs hcalled
          · rfl
          · exact Function.update_of_ne hcalled ..
  | release called ownerId nowMs =>
      rw [LeaseCall.seenBy]
      split
      · next hcalled =>
          subst hcalled
          apply Lease.World.ext
          · exact slotOf_release world.leases installationId ownerId
          · rfl
          · exact Function.update_self ..
      · next hcalled =>
          apply Lease.World.ext
          · exact slotOf_release_of_ne world.leases ownerId hcalled
          · rfl
          · exact Function.update_of_ne hcalled ..

theorem now_seenBy (call : LeaseCall) (installationId : Uuid) :
    (call.seenBy installationId).now = call.nowMs := by
  cases call <;> rw [LeaseCall.seenBy] <;> split <;> rfl

/-- Every installation sees an exclusive lease. -/
def Exclusive (world : LeaseWorld) : Prop :=
  ∀ installationId, Lease.Exclusive (world.view installationId)

theorem exclusive_opened (leases : LeaseStore) (clock : ℤ) :
    Exclusive (.opened leases clock) :=
  fun _ _ _ hgranted => nomatch hgranted

theorem exclusive_callStep {world : LeaseWorld} {call : LeaseCall} (hexclusive : Exclusive world)
    (hclock : ClockAdvances world call) : Exclusive (callStep world call) := by
  intro installationId
  rw [view_callStep]
  refine Lease.exclusive_step (hexclusive installationId) ?_
  rw [Lease.ClockAdvances, now_seenBy]
  exact hclock

/-! ## Operations under the lease -/

def leaseDurationMs : ℤ := 60_000

/-- How far one call of `withIndexedDbLease` has come. -/
inductive SessionPhase
  | idle
  | running
  | finishing
  | finished
  deriving DecidableEq

/-- What happens in the course of the calls of `withIndexedDbLease`, each of
which has an owner id of its own: the lease is asked for, the timer fires, the
operation settles, and the lease is released. -/
inductive SessionEvent
  | start (installationId ownerId : Uuid) (nowMs : ℤ)
  | renewal (installationId ownerId : Uuid) (nowMs : ℤ)
  | settle (installationId ownerId : Uuid) (nowMs : ℤ)
  | release (installationId ownerId : Uuid) (nowMs : ℤ)

def SessionEvent.nowMs : SessionEvent → ℤ
  | .start _ _ nowMs => nowMs
  | .renewal _ _ nowMs => nowMs
  | .settle _ _ nowMs => nowMs
  | .release _ _ nowMs => nowMs

structure SyncWorld where
  world : LeaseWorld
  phase : Uuid → Uuid → SessionPhase

def SyncWorld.opened (leases : LeaseStore) (clock : ℤ) : SyncWorld where
  world := .opened leases clock
  phase := fun _ _ => .idle

def SyncWorld.enter (sync : SyncWorld) (world : LeaseWorld) (installationId ownerId : Uuid)
    (phase : SessionPhase) : SyncWorld where
  world := world
  phase := Function.update sync.phase installationId
    (Function.update (sync.phase installationId) ownerId phase)

/-- An event that the session has not come to only lets time pass.  A renewal
that was sent before the operation settled may arrive after it. -/
def sessionStep (sync : SyncWorld) (event : SessionEvent) : SyncWorld :=
  match event with
  | .start installationId ownerId nowMs =>
      if sync.phase installationId ownerId = .idle then
        sync.enter (callStep sync.world (.acquire installationId ownerId nowMs leaseDurationMs))
          installationId ownerId
          (if (acquireOfflineSyncLease sync.world.leases installationId ownerId nowMs
            leaseDurationMs).2 then .running else .finished)
      else { sync with world := { sync.world with clock := nowMs } }
  | .renewal installationId ownerId nowMs =>
      if sync.phase installationId ownerId ≠ .idle then
        { sync with
          world := callStep sync.world (.renew installationId ownerId nowMs leaseDurationMs) }
      else { sync with world := { sync.world with clock := nowMs } }
  | .settle installationId ownerId nowMs =>
      if sync.phase installationId ownerId = .running then
        sync.enter { sync.world with clock := nowMs } installationId ownerId .finishing
      else { sync with world := { sync.world with clock := nowMs } }
  | .release installationId ownerId nowMs =>
      if sync.phase installationId ownerId = .finishing then
        sync.enter (callStep sync.world (.release installationId ownerId nowMs)) installationId
          ownerId .finished
      else { sync with world := { sync.world with clock := nowMs } }

def SessionClockAdvances (sync : SyncWorld) (event : SessionEvent) : Prop :=
  sync.world.clock ≤ event.nowMs

/-- The operation of the session runs. -/
def SyncWorld.Runs (sync : SyncWorld) (installationId ownerId : Uuid) : Prop :=
  sync.phase installationId ownerId = .running

/-- Every session whose operation runs has renewed its lease before it has expired. -/
def Renewed (sync : SyncWorld) : Prop :=
  ∀ installationId ownerId expiresAt, sync.Runs installationId ownerId →
    sync.world.granted installationId ownerId = some expiresAt → sync.world.clock < expiresAt

/-- No two operations run at once for an installation. -/
def NoOverlap (sync : SyncWorld) : Prop :=
  ∀ installationId left right, sync.Runs installationId left →
    sync.Runs installationId right → left = right

structure SessionInvariant (sync : SyncWorld) : Prop where
  exclusive : Exclusive sync.world
  granted : ∀ installationId ownerId, sync.Runs installationId ownerId →
    ∃ expiresAt, sync.world.granted installationId ownerId = some expiresAt

theorem sessionInvariant_opened (leases : LeaseStore) (clock : ℤ) :
    SessionInvariant (.opened leases clock) where
  exclusive := exclusive_opened leases clock
  granted _ _ hruns := nomatch hruns

section Sessions

variable {sync : SyncWorld}

theorem phase_enter (world : LeaseWorld) (installationId ownerId : Uuid) (phase : SessionPhase)
    (other owner : Uuid) :
    (sync.enter world installationId ownerId phase).phase other owner
      = if other = installationId ∧ owner = ownerId then phase else sync.phase other owner := by
  change Function.update sync.phase installationId _ other owner = _
  by_cases hother : other = installationId
  · subst hother
    rw [Function.update_self]
    by_cases howner : owner = ownerId
    · subst howner
      rw [Function.update_self, if_pos ⟨rfl, rfl⟩]
    · rw [Function.update_of_ne howner, if_neg fun hboth => howner hboth.2]
  · rw [Function.update_of_ne hother, if_neg fun hboth => hother hboth.1]

/-- A session that runs after an event and is not the one that has changed its phase ran
before. -/
theorem runs_of_enter {world : LeaseWorld} {installationId ownerId : Uuid} {phase : SessionPhase}
    {other owner : Uuid} (hruns : (sync.enter world installationId ownerId phase).Runs other owner) :
    (other = installationId ∧ owner = ownerId ∧ phase = .running)
      ∨ ((other ≠ installationId ∨ owner ≠ ownerId) ∧ sync.Runs other owner) := by
  rw [SyncWorld.Runs, phase_enter] at hruns
  split at hruns
  · next hsame => exact Or.inl ⟨hsame.1, hsame.2, hruns⟩
  · next hother => exact Or.inr ⟨not_and_or.mp hother, hruns⟩

/-- What an owner was granted stays granted, unless it releases the lease. -/
theorem granted_callStep {world : LeaseWorld} (call : LeaseCall) {installationId ownerId : Uuid}
    {expiresAt : ℤ} (hgranted : world.granted installationId ownerId = some expiresAt)
    (hcall : ∀ nowMs, call ≠ .release installationId ownerId nowMs) :
    ∃ expiresAt', (callStep world call).granted installationId ownerId = some expiresAt' := by
  have hnoted : ∀ called owner expiry answer,
      ∃ expiresAt', noted world called owner expiry answer installationId ownerId
        = some expiresAt' := by
    intro called owner expiry answer
    by_cases hcalled : installationId = called
    · subst hcalled
      rw [noted, Function.update_self]
      exact Lease.exists_grant hgranted owner expiry answer
    · rw [noted, Function.update_of_ne hcalled]
      exact ⟨expiresAt, hgranted⟩
  cases call with
  | acquire called owner nowMs duration => exact hnoted called owner _ _
  | renew called owner nowMs duration => exact hnoted called owner _ _
  | release called owner nowMs =>
      refine ⟨expiresAt, ?_⟩
      change Function.update world.granted called _ installationId ownerId = some expiresAt
      by_cases hcalled : installationId = called
      · subst hcalled
        have howner : ownerId ≠ owner := fun hsame => hcall nowMs (by rw [hsame])
        rw [Function.update_self, Function.update_of_ne howner]
        exact hgranted
      · rw [Function.update_of_ne hcalled]
        exact hgranted

theorem granted_acquire {world : LeaseWorld} {installationId ownerId : Uuid} {nowMs duration : ℤ}
    (hacquire : (acquireOfflineSyncLease world.leases installationId ownerId nowMs duration).2
      = true) :
    (callStep world (.acquire installationId ownerId nowMs duration)).granted installationId
      ownerId = some (nowMs + duration) := by
  change noted world installationId ownerId (nowMs + duration) (acquireOfflineSyncLease
    world.leases installationId ownerId nowMs duration).2 installationId ownerId = _
  rw [hacquire, noted, Function.update_self, Lease.grant_self]

theorem exclusive_pass {world : LeaseWorld} {nowMs : ℤ} (hexclusive : Exclusive world)
    (hclock : world.clock ≤ nowMs) : Exclusive { world with clock := nowMs } :=
  fun installationId ownerId expiresAt hgranted hheld =>
    hexclusive installationId ownerId expiresAt hgranted (hclock.trans_lt hheld)

theorem sessionInvariant_pass {nowMs : ℤ} (hinvariant : SessionInvariant sync)
    (hclock : sync.world.clock ≤ nowMs) :
    SessionInvariant { sync with world := { sync.world with clock := nowMs } } where
  exclusive := exclusive_pass hinvariant.exclusive hclock
  granted := hinvariant.granted

theorem sessionInvariant_step {event : SessionEvent} (hinvariant : SessionInvariant sync)
    (hclock : SessionClockAdvances sync event) : SessionInvariant (sessionStep sync event) := by
  cases event with
  | start installationId ownerId nowMs =>
      rw [sessionStep]
      split
      · refine ⟨exclusive_callStep hinvariant.exclusive hclock, fun other owner hruns => ?_⟩
        rcases runs_of_enter hruns with ⟨rfl, rfl, hphase⟩ | ⟨-, hbefore⟩
        · refine ⟨nowMs + leaseDurationMs, granted_acquire ?_⟩
          by_contra hrefused
          rw [if_neg hrefused] at hphase
          cases hphase
        · obtain ⟨expiresAt, hgranted⟩ := hinvariant.granted other owner hbefore
          exact granted_callStep (.acquire installationId ownerId nowMs leaseDurationMs) hgranted
            fun _ hcall => nomatch hcall
      · exact sessionInvariant_pass hinvariant hclock
  | renewal installationId ownerId nowMs =>
      rw [sessionStep]
      split
      · refine ⟨exclusive_callStep hinvariant.exclusive hclock, fun other owner hruns => ?_⟩
        obtain ⟨expiresAt, hgranted⟩ := hinvariant.granted other owner hruns
        exact granted_callStep (.renew installationId ownerId nowMs leaseDurationMs) hgranted
          fun _ hcall => nomatch hcall
      · exact sessionInvariant_pass hinvariant hclock
  | settle installationId ownerId nowMs =>
      rw [sessionStep]
      split
      · refine ⟨exclusive_pass hinvariant.exclusive hclock, fun other owner hruns => ?_⟩
        rcases runs_of_enter hruns with ⟨-, -, hphase⟩ | ⟨-, hbefore⟩
        · cases hphase
        · exact hinvariant.granted other owner hbefore
      · exact sessionInvariant_pass hinvariant hclock
  | release installationId ownerId nowMs =>
      rw [sessionStep]
      split
      · refine ⟨exclusive_callStep hinvariant.exclusive hclock, fun other owner hruns => ?_⟩
        rcases runs_of_enter hruns with ⟨-, -, hphase⟩ | ⟨hother, hbefore⟩
        · cases hphase
        · obtain ⟨expiresAt, hgranted⟩ := hinvariant.granted other owner hbefore
          refine granted_callStep (.release installationId ownerId nowMs) hgranted fun _ hcall => ?_
          injection hcall with hinstallation howner
          rcases hother with hne | hne
          · exact hne hinstallation.symm
          · exact hne howner.symm
      · exact sessionInvariant_pass hinvariant hclock

theorem noOverlap_of_renewed (hinvariant : SessionInvariant sync) (hrenewed : Renewed sync) :
    NoOverlap sync := by
  intro installationId left right hleft hright
  have hholds : ∀ owner, sync.Runs installationId owner →
      Lease.HoldsAt (sync.world.view installationId) sync.world.clock owner := by
    intro owner hruns
    obtain ⟨expiresAt, hgranted⟩ := hinvariant.granted installationId owner hruns
    exact ⟨expiresAt, hrenewed installationId owner expiresAt hruns hgranted, Or.inl hgranted⟩
  exact Lease.holdsAt_unique (hinvariant.exclusive installationId) le_rfl (hholds left hleft)
    (hholds right hright)

end Sessions

/-- A call of an owner leaves the lease that is stored for another owner alone. -/
structure StaleOwner (leases : LeaseStore) (installationId ownerId : Uuid) : Prop where
  renew : ∀ nowMs duration,
    renewOfflineSyncLease leases installationId ownerId nowMs duration = (leases, false)
  release : releaseOfflineSyncLease leases installationId ownerId = leases

theorem staleOwner_of_slotOf {leases : LeaseStore} {installationId ownerId holder : Uuid}
    {expiresAt : ℤ} (hslot : slotOf leases installationId = some (holder, expiresAt))
    (hholder : holder ≠ ownerId) : StaleOwner leases installationId ownerId := by
  obtain ⟨lease, hfound, hlease⟩ := Option.map_eq_some_iff.mp hslot
  have howner : lease.ownerId ≠ ownerId := by
    rw [Prod.mk.injEq] at hlease
    exact hlease.1 ▸ hholder
  constructor
  · intro nowMs duration
    rw [renewOfflineSyncLease, hfound]
    exact if_pos howner
  · rw [releaseOfflineSyncLease, hfound, Option.any_some, if_neg]
    rwa [decide_eq_true_eq]

/-- The sync lease excludes: at most one owner has an unexpired lease, an owner whose lease was
taken over cannot touch that of the new owner, and operations whose holders renew in time do
not overlap. -/
theorem sync_lease_excludes (leases : LeaseStore) (clock : ℤ) :
    (∀ calls, Safely callStep ClockAdvances (.opened leases clock) calls →
      (∀ installationId moment left right,
        (exec callStep (.opened leases clock) calls).clock ≤ moment →
        Lease.HoldsAt ((exec callStep (.opened leases clock) calls).view installationId) moment
          left →
        Lease.HoldsAt ((exec callStep (.opened leases clock) calls).view installationId) moment
          right → left = right)
      ∧ ∀ installationId ownerId holder expiresAt,
        slotOf (exec callStep (.opened leases clock) calls).leases installationId
          = some (holder, expiresAt) → holder ≠ ownerId →
        StaleOwner (exec callStep (.opened leases clock) calls).leases installationId ownerId)
    ∧ ∀ events, Safely sessionStep SessionClockAdvances (.opened leases clock) events →
        Renewed (exec sessionStep (.opened leases clock) events) →
        NoOverlap (exec sessionStep (.opened leases clock) events) := by
  constructor
  · intro calls hclock
    have hexclusive := invariant_of_safely Exclusive
      (fun _ _ hstate hadvances => exclusive_callStep hstate hadvances)
      (exclusive_opened leases clock) hclock
    exact ⟨fun installationId moment left right hmoment =>
        Lease.holdsAt_unique (hexclusive installationId) hmoment,
      fun installationId ownerId holder expiresAt => staleOwner_of_slotOf⟩
  · intro events hclock
    have hinvariant := invariant_of_safely SessionInvariant
      (fun _ _ hstate hadvances => sessionInvariant_step hstate hadvances)
      (sessionInvariant_opened leases clock) hclock
    exact noOverlap_of_renewed hinvariant

/-- A tab takes the lease, and another one asks in vain while the operation runs. -/
def twoTabs : List SessionEvent :=
  [.start 1 10 0, .renewal 1 10 10_000, .start 1 20 15_000]

theorem two_tabs_do_not_overlap :
    (exec sessionStep (.opened .empty 0) twoTabs).phase 1 10 = .running
      ∧ (exec sessionStep (.opened .empty 0) twoTabs).phase 1 20 = .finished
      ∧ NoOverlap (exec sessionStep (.opened .empty 0) twoTabs) := by
  refine ⟨by decide +kernel, by decide +kernel, (sync_lease_excludes .empty 0).2 twoTabs ?_ ?_⟩
  · exact ⟨by unfold SessionClockAdvances; decide +kernel,
      by unfold SessionClockAdvances; decide +kernel,
      by unfold SessionClockAdvances; decide +kernel, trivial⟩
  · intro installationId ownerId expiresAt hruns hgranted
    rcases runs_of_enter hruns with ⟨-, -, hphase⟩ | ⟨-, hbefore⟩
    · exact absurd hphase (by decide +kernel)
    · rcases runs_of_enter hbefore with ⟨rfl, rfl, -⟩ | ⟨-, hopened⟩
      · have hrenewal : (exec sessionStep (.opened .empty 0) twoTabs).world.granted 1 10
            = some 70_000 := by decide +kernel
        have hclock : (exec sessionStep (.opened .empty 0) twoTabs).world.clock = 15_000 := by
          decide +kernel
        rw [hrenewal, Option.some.injEq] at hgranted
        rw [hclock, ← hgranted]
        decide
      · cases hopened

end Stallorder.SyncLease
