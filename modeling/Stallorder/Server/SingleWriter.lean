import Stallorder.Core.Run
import Stallorder.Server.DeviceService

/-!
# The single writer of a stall

A stall has at most one device that writes while it is offline.  The partial
index on active leaders carries the uniqueness.  That an enabled policy and
every active permit belong to this device is an invariant of the transactions:
each of them releases a device from policies and permits before it takes the
leader role away from it.
-/

namespace Stallorder.SingleWriter

open OrderContract LocalDatabase DeviceDatabase DeviceService Checks

/-! ## The invariant -/

/-- The device is the active leader that the policy names. -/
structure PolicyLeader (devices : CheckedTable ClientDevice clientDeviceChecks)
    (policy : OfflineStallRuntimePolicy) (device : ClientDevice) : Prop where
  mem : device ∈ devices
  named : policy.offlineLeaderDeviceId = some device.id
  organization : device.organizationId = policy.organizationId
  stall : device.stallId = policy.stallId
  leader : device.isActiveLeader = true

/-- The device is the active leader that the permit was issued to. -/
structure PermitHolder (devices : CheckedTable ClientDevice clientDeviceChecks)
    (permit : OfflinePermit) (device : ClientDevice) : Prop where
  mem : device ∈ devices
  held : permit.deviceId = device.id
  organization : device.organizationId = permit.organizationId
  stall : device.stallId = permit.stallId
  leader : device.isActiveLeader = true

/-- Enabled policies name an active leader and active permits belong to one. -/
structure Consistent (db : DeviceDb) : Prop where
  policy_leader : ∀ policy ∈ db.policies, policy.offlineEnabled = true →
    ∃ device, PolicyLeader db.clientDevices policy device
  permit_holder : ∀ permit ∈ db.permits, permit.status = .active →
    ∃ device, PermitHolder db.clientDevices permit device

theorem consistent_empty (runtime : List BackendRuntimeState) :
    Consistent (DeviceDb.empty runtime) where
  policy_leader policy hpolicy := absurd hpolicy (CheckedTable.notMem_empty policy)
  permit_holder permit hpermit := absurd hpermit (CheckedTable.notMem_empty permit)

/-- No enabled policy names the device and no active permit belongs to it. -/
structure Released (db : DeviceDb) (deviceId : Uuid) : Prop where
  policies : ∀ policy ∈ db.policies, policy.offlineEnabled = true →
    policy.offlineLeaderDeviceId ≠ some deviceId
  permits : ∀ permit ∈ db.permits, permit.status = .active → permit.deviceId ≠ deviceId

/-- A change of a device that keeps what policies and permits rely on. -/
structure KeepsLeader (device changed : ClientDevice) : Prop where
  id : changed.id = device.id
  organization : changed.organizationId = device.organizationId
  stall : changed.stallId = device.stallId
  leader : device.isActiveLeader = true → changed.isActiveLeader = true

theorem KeepsLeader.refl (device : ClientDevice) : KeepsLeader device device :=
  ⟨rfl, rfl, rfl, fun hleader => hleader⟩

/-! ## Statements on devices -/

section Devices

variable {scope : ScopeTables} {db db' : DeviceDb} {wanted : ClientDevice → Bool}
  {change : ClientDevice → ClientDevice}

/-- After an update each unreleased device is still there as the same leader. -/
theorem exists_kept_device
    (hupdate : updateDevices? scope wanted change db = some db')
    (hchange : ∀ device ∈ db.clientDevices, wanted device = true →
      KeepsLeader device (change device) ∨ Released db device.id)
    {device : ClientDevice} (hdevice : device ∈ db.clientDevices)
    (hunreleased : ¬ Released db device.id) :
    ∃ kept ∈ db'.clientDevices, KeepsLeader device kept := by
  obtain ⟨clientDevices, rfl, htable⟩ := updateDevices?_eq_some hupdate
  refine ⟨_, (CheckedTable.mem_of_updateWhere? htable).mpr ⟨device, hdevice, rfl⟩, ?_⟩
  by_cases hwanted : wanted device = true
  · rw [if_pos hwanted]
    exact (hchange device hdevice hwanted).resolve_right hunreleased
  · rw [if_neg hwanted]
    exact KeepsLeader.refl device

theorem Consistent.updateDevices (hconsistent : Consistent db)
    (hupdate : updateDevices? scope wanted change db = some db')
    (hchange : ∀ device ∈ db.clientDevices, wanted device = true →
      KeepsLeader device (change device) ∨ Released db device.id) :
    Consistent db' := by
  have hkept : ∀ device ∈ db.clientDevices, ¬ Released db device.id →
      ∃ kept ∈ db'.clientDevices, KeepsLeader device kept :=
    fun _ => exists_kept_device hupdate hchange
  obtain ⟨clientDevices, rfl, -⟩ := updateDevices?_eq_some hupdate
  constructor
  · intro policy hpolicy henabled
    obtain ⟨device, hleader⟩ := hconsistent.policy_leader policy hpolicy henabled
    obtain ⟨kept, hmem, hkeeps⟩ := hkept device hleader.mem fun hreleased =>
      hreleased.policies policy hpolicy henabled hleader.named
    exact ⟨kept, hmem, by rw [hkeeps.id]; exact hleader.named,
      hkeeps.organization.trans hleader.organization, hkeeps.stall.trans hleader.stall,
      hkeeps.leader hleader.leader⟩
  · intro permit hpermit hactive
    obtain ⟨device, hholder⟩ := hconsistent.permit_holder permit hpermit hactive
    obtain ⟨kept, hmem, hkeeps⟩ := hkept device hholder.mem fun hreleased =>
      hreleased.permits permit hpermit hactive hholder.held
    exact ⟨kept, hmem, hholder.held.trans hkeeps.id.symm,
      hkeeps.organization.trans hholder.organization, hkeeps.stall.trans hholder.stall,
      hkeeps.leader hholder.leader⟩

theorem Released.updateDevices {deviceId : Uuid} (hreleased : Released db deviceId)
    (hupdate : updateDevices? scope wanted change db = some db') : Released db' deviceId := by
  obtain ⟨clientDevices, rfl, -⟩ := updateDevices?_eq_some hupdate
  exact ⟨hreleased.policies, hreleased.permits⟩

theorem Consistent.insertDevice {device : ClientDevice} (hconsistent : Consistent db)
    (hinsert : insertDevice? scope device db = some db') : Consistent db' := by
  obtain ⟨clientDevices, rfl, htable⟩ := insertDevice?_eq_some hinsert
  constructor
  · intro policy hpolicy henabled
    obtain ⟨leader, hleader⟩ := hconsistent.policy_leader policy hpolicy henabled
    exact ⟨leader, (CheckedTable.mem_of_insert? htable).mpr (Or.inl hleader.mem),
      hleader.named, hleader.organization, hleader.stall, hleader.leader⟩
  · intro permit hpermit hactive
    obtain ⟨holder, hholder⟩ := hconsistent.permit_holder permit hpermit hactive
    exact ⟨holder, (CheckedTable.mem_of_insert? htable).mpr (Or.inl hholder.mem),
      hholder.held, hholder.organization, hholder.stall, hholder.leader⟩

end Devices

/-! ## Statements on policies and permits -/

section PoliciesAndPermits

variable {scope : ScopeTables} {db db' : DeviceDb}

/-- A policy that its trigger accepts names an active leader once it names anyone. -/
theorem exists_policyLeader {policy : OfflineStallRuntimePolicy}
    (hvalid : validateOfflinePolicyScope scope db policy = true)
    (hnamed : policy.offlineLeaderDeviceId.isSome = true) :
    ∃ device, PolicyLeader db.clientDevices policy device := by
  obtain ⟨leaderId, hleaderId⟩ := Option.isSome_iff_exists.mp hnamed
  obtain ⟨device, hmem, hid, horganization, hstall, hleader⟩ :=
    exists_leader_of_validateOfflinePolicyScope hvalid hleaderId
  exact ⟨device, hmem, by rw [hleaderId, hid], horganization, hstall, hleader⟩

theorem Consistent.updatePolicies {wanted : OfflineStallRuntimePolicy → Bool}
    {change : OfflineStallRuntimePolicy → OfflineStallRuntimePolicy}
    (hconsistent : Consistent db)
    (hupdate : updatePolicies? scope wanted change db = some db')
    (hchange : ∀ policy, (change policy).offlineEnabled = true →
      (change policy).offlineLeaderDeviceId.isSome = true) :
    Consistent db' := by
  obtain ⟨hvalid, policies, rfl, htable⟩ := updatePolicies?_eq_some hupdate
  constructor
  · intro policy hpolicy henabled
    obtain ⟨stored, hstored, rfl⟩ := (CheckedTable.mem_of_updateWhere? htable).mp hpolicy
    by_cases hwanted : wanted stored = true
    · rw [if_pos hwanted] at henabled ⊢
      exact exists_policyLeader (hvalid stored hstored hwanted) (hchange stored henabled)
    · rw [if_neg hwanted] at henabled ⊢
      exact hconsistent.policy_leader stored hstored henabled
  · intro permit hpermit hactive
    exact hconsistent.permit_holder permit hpermit hactive

theorem Consistent.insertPolicy {policy : OfflineStallRuntimePolicy}
    (hconsistent : Consistent db) (hinsert : insertPolicy? scope policy db = some db')
    (hnamed : policy.offlineEnabled = true → policy.offlineLeaderDeviceId.isSome = true) :
    Consistent db' := by
  obtain ⟨hvalid, policies, rfl, htable⟩ := insertPolicy?_eq_some hinsert
  constructor
  · intro stored hstored henabled
    rcases (CheckedTable.mem_of_insert? htable).mp hstored with hold | rfl
    · exact hconsistent.policy_leader stored hold henabled
    · exact exists_policyLeader hvalid (hnamed henabled)
  · intro permit hpermit hactive
    exact hconsistent.permit_holder permit hpermit hactive

theorem Consistent.upsertPolicy {created : OfflineStallRuntimePolicy}
    {change : OfflineStallRuntimePolicy → OfflineStallRuntimePolicy}
    (hconsistent : Consistent db)
    (hupsert : upsertPolicy? scope created change db = some db')
    (hcreated : created.offlineEnabled = true → created.offlineLeaderDeviceId.isSome = true)
    (hchange : ∀ policy, (change policy).offlineEnabled = true →
      (change policy).offlineLeaderDeviceId.isSome = true) :
    Consistent db' := by
  unfold upsertPolicy? at hupsert
  split at hupsert
  · exact hconsistent.updatePolicies hupsert hchange
  · exact hconsistent.insertPolicy hupsert hcreated

/-- An upsert that disables leaves no enabled policy at the stall. -/
theorem disabled_of_upsertPolicy {created policy : OfflineStallRuntimePolicy}
    {change : OfflineStallRuntimePolicy → OfflineStallRuntimePolicy}
    (hupsert : upsertPolicy? scope created change db = some db')
    (hcreated : created.offlineEnabled = false)
    (hchange : ∀ policy, (change policy).offlineEnabled = false)
    (hpolicy : policy ∈ db'.policies) (hstall : policy.stallId = created.stallId) :
    policy.offlineEnabled = false := by
  unfold upsertPolicy? at hupsert
  split at hupsert
  · obtain ⟨-, policies, rfl, htable⟩ := updatePolicies?_eq_some hupsert
    obtain ⟨stored, -, rfl⟩ := (CheckedTable.mem_of_updateWhere? htable).mp hpolicy
    by_cases hwanted : stored.stallId = created.stallId
    · simp [hwanted, hchange]
    · simp only [hwanted, decide_false, Bool.false_eq_true, if_false] at hstall
  · next hnone =>
    obtain ⟨-, policies, rfl, htable⟩ := insertPolicy?_eq_some hupsert
    rcases (CheckedTable.mem_of_insert? htable).mp hpolicy with hold | rfl
    · refine absurd ?_ hnone
      simp only [List.any_eq_true, decide_eq_true_eq]
      exact ⟨policy, hold, hstall⟩
    · exact hcreated

/-- Permits that stop being active need no holder. -/
theorem Consistent.updatePermits {wanted : OfflinePermit → Bool}
    {change : OfflinePermit → OfflinePermit} (hconsistent : Consistent db)
    (hupdate : updatePermits? wanted change db = some db')
    (hchange : ∀ permit, (change permit).status ≠ .active) : Consistent db' := by
  obtain ⟨permits, rfl, htable⟩ := updatePermits?_eq_some hupdate
  constructor
  · intro policy hpolicy henabled
    exact hconsistent.policy_leader policy hpolicy henabled
  · intro permit hpermit hactive
    obtain ⟨stored, hstored, rfl⟩ := (CheckedTable.mem_of_updateWhere? htable).mp hpermit
    by_cases hwanted : wanted stored = true
    · rw [if_pos hwanted] at hactive
      exact absurd hactive (hchange stored)
    · rw [if_neg hwanted] at hactive ⊢
      exact hconsistent.permit_holder stored hstored hactive

theorem Consistent.insertPermit {permit : OfflinePermit} (hconsistent : Consistent db)
    (hinsert : insertPermit? permit db = some db') : Consistent db' := by
  obtain ⟨hvalid, permits, rfl, htable⟩ := insertPermit?_eq_some hinsert
  constructor
  · intro policy hpolicy henabled
    exact hconsistent.policy_leader policy hpolicy henabled
  · intro stored hstored hactive
    rcases (CheckedTable.mem_of_insert? htable).mp hstored with hold | rfl
    · exact hconsistent.permit_holder stored hold hactive
    · obtain ⟨device, hmem, hid, horganization, hstall, hleader⟩ :=
        exists_leader_of_validateOfflinePermitScope hvalid hactive
      exact ⟨device, hmem, hid.symm, horganization, hstall, hleader⟩

theorem Consistent.insertMenuSnapshot {snapshot : MenuSnapshot} (hconsistent : Consistent db)
    (hinsert : insertMenuSnapshot? scope snapshot db = some db') : Consistent db' := by
  obtain ⟨menuSnapshots, rfl, -⟩ := insertMenuSnapshot?_eq_some hinsert
  constructor
  · intro policy hpolicy henabled
    exact hconsistent.policy_leader policy hpolicy henabled
  · intro permit hpermit hactive
    exact hconsistent.permit_holder permit hpermit hactive

end PoliciesAndPermits

/-! ## Commands -/

section Commands

variable {scope : ScopeTables} {db db' : DeviceDb}

theorem execute_eq_ok {statement : DeviceDb → Option DeviceDb}
    (hexecute : execute statement db = .ok db') : statement db = some db' :=
  orFail_eq_ok.mp hexecute

/-- Where a stall has no enabled policy and no active permit, its devices are
released. -/
theorem released_of_quiet (hconsistent : Consistent db) {organizationId stallId : Uuid}
    (hpolicies : ∀ policy ∈ db.policies, policy.stallId = stallId →
      policy.offlineEnabled = false)
    (hpermits : ∀ permit ∈ db.permits, permit.organizationId = organizationId →
      permit.stallId = stallId → permit.status ≠ .active)
    {device : ClientDevice} (hdevice : device ∈ db.clientDevices)
    (horganization : device.organizationId = organizationId)
    (hstall : device.stallId = stallId) : Released db device.id := by
  constructor
  · intro policy hpolicy henabled hnamed
    obtain ⟨leader, hleader⟩ := hconsistent.policy_leader policy hpolicy henabled
    have hsame : leader = device := CheckedTable.eq_of_key_eq hleader.mem hdevice
      (Option.some.inj (hleader.named.symm.trans hnamed))
    have hpolicyStall : policy.stallId = stallId := by
      rw [← hleader.stall, hsame, hstall]
    rw [hpolicies policy hpolicy hpolicyStall] at henabled
    cases henabled
  · intro permit hpermit hactive hheld
    obtain ⟨holder, hholder⟩ := hconsistent.permit_holder permit hpermit hactive
    have hsame : holder = device := CheckedTable.eq_of_key_eq hholder.mem hdevice
      (hholder.held.symm.trans hheld)
    exact hpermits permit hpermit (by rw [← hholder.organization, hsame, horganization])
      (by rw [← hholder.stall, hsame, hstall]) hactive

theorem keepsLeader_withoutPermit (device : ClientDevice) :
    KeepsLeader device (withoutPermit device) :=
  ⟨rfl, rfl, rfl, fun hleader => hleader⟩

theorem keepsLeader_leaderDevice (device : ClientDevice) :
    KeepsLeader device (leaderDevice device) :=
  ⟨rfl, rfl, rfl, fun _ => rfl⟩

/-- What revoking the permits of a stall establishes and keeps. -/
structure Revoked (organizationId stallId : Uuid) (db db' : DeviceDb) : Prop where
  consistent : Consistent db'
  policies : db'.policies = db.policies
  permits : ∀ permit ∈ db'.permits, permit.organizationId = organizationId →
    permit.stallId = stallId → permit.status ≠ .active
  devices : ∀ device ∈ db'.clientDevices, ∃ stored ∈ db.clientDevices,
    stored.id = device.id ∧ stored.organizationId = device.organizationId
      ∧ stored.stallId = device.stallId

theorem revoked_of_revokeActivePermits (hconsistent : Consistent db)
    {organizationId stallId : Uuid} {now : Timestamp}
    (hrevoke : revokeActivePermits scope organizationId stallId now db = .ok db') :
    Revoked organizationId stallId db db' := by
  obtain ⟨revoked, hpermits, hdevices⟩ := bind_eq_ok.mp hrevoke
  have hpermits := execute_eq_ok hpermits
  have hdevices := execute_eq_ok hdevices
  have hrevoked : Consistent revoked :=
    hconsistent.updatePermits hpermits fun permit hactive => by cases hactive
  constructor
  · exact hrevoked.updateDevices hdevices fun device _ _ =>
      Or.inl (keepsLeader_withoutPermit device)
  · obtain ⟨permits, rfl, -⟩ := updatePermits?_eq_some hpermits
    obtain ⟨clientDevices, rfl, -⟩ := updateDevices?_eq_some hdevices
    rfl
  · obtain ⟨permits, rfl, htable⟩ := updatePermits?_eq_some hpermits
    obtain ⟨clientDevices, rfl, -⟩ := updateDevices?_eq_some hdevices
    intro permit hpermit horganization hstall hactive
    obtain ⟨stored, -, rfl⟩ := (CheckedTable.mem_of_updateWhere? htable).mp hpermit
    split at hactive
    · cases hactive
    · next hunwanted =>
      rw [if_neg hunwanted] at horganization hstall
      exact hunwanted (by simp [horganization, hstall, hactive])
  · obtain ⟨permits, rfl, -⟩ := updatePermits?_eq_some hpermits
    obtain ⟨clientDevices, rfl, htable⟩ := updateDevices?_eq_some hdevices
    intro device hdevice
    obtain ⟨stored, hstored, rfl⟩ := (CheckedTable.mem_of_updateWhere? htable).mp hdevice
    refine ⟨stored, hstored, ?_⟩
    split <;> exact ⟨rfl, rfl, rfl⟩

theorem Consistent.demoteLeaders (hconsistent : Consistent db) {organizationId stallId : Uuid}
    (hpolicies : ∀ policy ∈ db.policies, policy.stallId = stallId →
      policy.offlineEnabled = false)
    (hpermits : ∀ permit ∈ db.permits, permit.organizationId = organizationId →
      permit.stallId = stallId → permit.status ≠ .active)
    (hdemote : demoteLeaders scope organizationId stallId db = .ok db') : Consistent db' := by
  refine hconsistent.updateDevices (execute_eq_ok hdemote) fun device hdevice hwanted => ?_
  simp only [ofStall, Bool.and_eq_true, decide_eq_true_eq] at hwanted
  obtain ⟨⟨horganization, hstall⟩, -⟩ := hwanted
  exact Or.inr (released_of_quiet hconsistent hpolicies hpermits hdevice horganization hstall)

theorem Consistent.disablePolicy (hconsistent : Consistent db) {input : ManagementInput}
    {update : PolicyUpdate} {now : Timestamp} (hdisabled : update.offlineEnabled = false)
    (hcommand : disablePolicy scope input update now db = .ok db') : Consistent db' := by
  obtain ⟨updated, hupsert, hrest⟩ := bind_eq_ok.mp hcommand
  obtain ⟨revoked, hrevoke, hdemote⟩ := bind_eq_ok.mp hrest
  have hupsert := execute_eq_ok hupsert
  have hupdated : Consistent updated := hconsistent.upsertPolicy hupsert
    (fun henabled => by simp [policyRow, hdisabled] at henabled)
    (fun policy henabled => by simp [policyData, hdisabled] at henabled)
  have hrevoked := revoked_of_revokeActivePermits hupdated hrevoke
  refine hrevoked.consistent.demoteLeaders (fun policy hpolicy hstall => ?_)
    hrevoked.permits hdemote
  rw [hrevoked.policies] at hpolicy
  exact disabled_of_upsertPolicy hupsert hdisabled (fun _ => hdisabled) hpolicy hstall

theorem Consistent.assignLeader (hconsistent : Consistent db) {input : ManagementInput}
    {update : PolicyUpdate} {now : Timestamp}
    (hcommand : assignLeader scope input update now db = .ok db') : Consistent db' := by
  obtain ⟨leaderId, hleaderId, hcommand⟩ := bind_eq_ok.mp hcommand
  obtain ⟨leader, -, hcommand⟩ := bind_eq_ok.mp hcommand
  obtain ⟨-, -, hcommand⟩ := bind_eq_ok.mp hcommand
  obtain ⟨disabled, hupsert, hcommand⟩ := bind_eq_ok.mp hcommand
  obtain ⟨revoked, hrevoke, hcommand⟩ := bind_eq_ok.mp hcommand
  obtain ⟨demoted, hdemote, hcommand⟩ := bind_eq_ok.mp hcommand
  obtain ⟨promoted, hpromote, hpolicy⟩ := bind_eq_ok.mp hcommand
  have hupsert := execute_eq_ok hupsert
  have hdisabled : Consistent disabled := hconsistent.upsertPolicy hupsert
    (fun henabled => by cases henabled) (fun policy henabled => by cases henabled)
  have hrevoked := revoked_of_revokeActivePermits hdisabled hrevoke
  have hdemoted : Consistent demoted := by
    refine hrevoked.consistent.demoteLeaders (fun policy hmem hstall => ?_)
      hrevoked.permits hdemote
    rw [hrevoked.policies] at hmem
    exact disabled_of_upsertPolicy hupsert rfl (fun _ => rfl) hmem hstall
  have hpromoted : Consistent promoted := hdemoted.updateDevices (execute_eq_ok hpromote)
    fun device _ _ => Or.inl (keepsLeader_leaderDevice device)
  refine hpromoted.updatePolicies (execute_eq_ok hpolicy) fun policy _ => ?_
  simp [policyData, orFail_eq_ok.mp hleaderId]

/-- Once the policies that name a device are disabled, no enabled one names it. -/
theorem policies_of_withdrawLeader (hconsistent : Consistent db) {input : ManagementInput}
    {device : ClientDevice} (hdevice : device ∈ db.clientDevices)
    (horganization : device.organizationId = input.organizationId)
    (hstall : device.stallId = input.stallId)
    (hwithdraw : withdrawLeader scope input device db = .ok db') :
    ∀ policy ∈ db'.policies, policy.offlineEnabled = true →
      policy.offlineLeaderDeviceId ≠ some device.id := by
  intro policy hpolicy henabled hnamed
  unfold withdrawLeader at hwithdraw
  split at hwithdraw
  · obtain ⟨-, policies, rfl, htable⟩ := updatePolicies?_eq_some (execute_eq_ok hwithdraw)
    obtain ⟨stored, hstored, rfl⟩ := (CheckedTable.mem_of_updateWhere? htable).mp hpolicy
    split at henabled
    · cases henabled
    · next hunwanted =>
      rw [if_neg hunwanted] at hnamed
      obtain ⟨leader, hleader⟩ := hconsistent.policy_leader stored hstored henabled
      have hsame : leader = device := CheckedTable.eq_of_key_eq hleader.mem hdevice
        (Option.some.inj (hleader.named.symm.trans hnamed))
      apply hunwanted
      simp only [Bool.and_eq_true, decide_eq_true_eq]
      exact ⟨⟨by rw [← hleader.organization, hsame, horganization],
        by rw [← hleader.stall, hsame, hstall]⟩, hnamed⟩
  · next hrole =>
    cases hwithdraw
    obtain ⟨leader, hleader⟩ := hconsistent.policy_leader policy hpolicy henabled
    have hsame : leader = device := CheckedTable.eq_of_key_eq hleader.mem hdevice
      (Option.some.inj (hleader.named.symm.trans hnamed))
    have hactive := hleader.leader
    rw [hsame] at hactive
    simp only [ClientDevice.isActiveLeader, Bool.and_eq_true, decide_eq_true_eq] at hactive
    exact hrole hactive.2

theorem Consistent.withdrawLeader (hconsistent : Consistent db) {input : ManagementInput}
    {device : ClientDevice} (hwithdraw : withdrawLeader scope input device db = .ok db') :
    Consistent db' := by
  unfold DeviceService.withdrawLeader at hwithdraw
  split at hwithdraw
  · exact hconsistent.updatePolicies (execute_eq_ok hwithdraw)
      fun policy henabled => by cases henabled
  · cases hwithdraw
    exact hconsistent

theorem clientDevices_of_withdrawLeader {input : ManagementInput} {device : ClientDevice}
    (hwithdraw : withdrawLeader scope input device db = .ok db') :
    db'.clientDevices = db.clientDevices := by
  unfold withdrawLeader at hwithdraw
  split at hwithdraw
  · obtain ⟨-, policies, rfl, -⟩ := updatePolicies?_eq_some (execute_eq_ok hwithdraw)
    rfl
  · cases hwithdraw
    rfl

theorem mem_of_findDevice {organizationId stallId deviceId : Uuid} {device : ClientDevice}
    (hfound : findDevice db organizationId stallId deviceId = some device) :
    device ∈ db.clientDevices ∧ device.id = deviceId
      ∧ device.organizationId = organizationId ∧ device.stallId = stallId := by
  obtain ⟨hmem, hwanted⟩ := CheckedTable.mem_of_findFirst hfound
  simp only [ofStall, Bool.and_eq_true, decide_eq_true_eq] at hwanted
  exact ⟨hmem, hwanted.1, hwanted.2.1, hwanted.2.2⟩

theorem Consistent.updateDevice (hconsistent : Consistent db) {input : ManagementInput}
    {deviceId : Uuid} {action : DeviceAction} {now : Timestamp}
    (hcommand : updateDevice scope input deviceId action now db = .ok db') :
    Consistent db' := by
  obtain ⟨device, hfound, hcommand⟩ := bind_eq_ok.mp hcommand
  obtain ⟨-, -, hcommand⟩ := bind_eq_ok.mp hcommand
  obtain ⟨withdrawn, hwithdraw, hcommand⟩ := bind_eq_ok.mp hcommand
  obtain ⟨revoked, hrevoke, hmanage⟩ := bind_eq_ok.mp hcommand
  obtain ⟨hdevice, -, horganization, hstall⟩ := mem_of_findDevice (orFail_eq_ok.mp hfound)
  have hwithdrawn := hconsistent.withdrawLeader hwithdraw
  have hrevoked := revoked_of_revokeActivePermits hwithdrawn hrevoke
  have hpolicies := policies_of_withdrawLeader hconsistent hdevice horganization hstall hwithdraw
  refine hrevoked.consistent.updateDevices (execute_eq_ok hmanage) fun stored _ hwanted => ?_
  have hid : stored.id = device.id := of_decide_eq_true hwanted
  refine Or.inr ⟨?_, ?_⟩
  · rw [hrevoked.policies, hid]
    exact hpolicies
  · intro permit hpermit hactive hheld
    obtain ⟨holder, hholder⟩ := hrevoked.consistent.permit_holder permit hpermit hactive
    obtain ⟨origin, horigin, hid', horganization', hstall'⟩ :=
      hrevoked.devices holder hholder.mem
    rw [clientDevices_of_withdrawLeader hwithdraw] at horigin
    have hsame : origin = device := CheckedTable.eq_of_key_eq horigin hdevice
      (hid'.trans (hholder.held.symm.trans (hheld.trans hid)))
    exact hrevoked.permits permit hpermit
      (by rw [← hholder.organization, ← horganization', hsame, horganization])
      (by rw [← hholder.stall, ← hstall', hsame, hstall]) hactive

theorem Consistent.applyOfflineManagementCommand (hconsistent : Consistent db)
    {flags : OfflineFlags} {input : ManagementInput} {now : Timestamp}
    (hcommand : applyOfflineManagementCommand scope flags input now db = .ok db') :
    Consistent db' := by
  unfold DeviceService.applyOfflineManagementCommand at hcommand
  obtain ⟨-, -, hcommand⟩ := bind_eq_ok.mp hcommand
  cases hoperation : input.command with
  | updatePolicy update =>
      simp only [hoperation] at hcommand
      split at hcommand
      · exact hconsistent.assignLeader hcommand
      · next hdisabled =>
        exact hconsistent.disablePolicy (Bool.eq_false_of_not_eq_true hdisabled) hcommand
  | updateDevice deviceId action =>
      simp only [hoperation] at hcommand
      exact hconsistent.updateDevice hcommand

theorem Consistent.registerOfflineDevice (hconsistent : Consistent db) {flags : OfflineFlags}
    {input : RegisterDeviceInput} {deviceId : Uuid} {readDb : DeviceDb}
    (hcommand : registerOfflineDevice scope flags input deviceId readDb db = .ok db') :
    Consistent db' := by
  obtain ⟨-, -, hcommand⟩ := bind_eq_ok.mp hcommand
  split at hcommand
  · obtain ⟨-, -, hcommand⟩ := bind_eq_ok.mp hcommand
    obtain ⟨-, -, hcommand⟩ := bind_eq_ok.mp hcommand
    exact hconsistent.updateDevices (execute_eq_ok hcommand)
      fun device _ _ => Or.inl (KeepsLeader.refl device)
  · exact hconsistent.insertDevice (execute_eq_ok hcommand)

theorem Consistent.createOrReuseOfflineMenuSnapshot (hconsistent : Consistent db)
    {organizationId stallId : Uuid} {minimumExpiresAt : Timestamp} {source : SnapshotSource}
    {snapshot : MenuSnapshot}
    (hcommand : createOrReuseOfflineMenuSnapshot scope organizationId stallId
      minimumExpiresAt source db = .ok (db', snapshot)) :
    Consistent db' := by
  unfold DeviceService.createOrReuseOfflineMenuSnapshot at hcommand
  simp only at hcommand
  split at hcommand
  · cases hcommand
    exact hconsistent
  · obtain ⟨stored, hinsert, hreturn⟩ := bind_eq_ok.mp hcommand
    cases hreturn
    exact hconsistent.insertMenuSnapshot (execute_eq_ok hinsert)

theorem Consistent.storePermit (hconsistent : Consistent db) {row : OfflinePermit}
    {now : Timestamp} (hstore : storePermit scope row now db = .ok db') : Consistent db' := by
  obtain ⟨expired, hexpire, hstore⟩ := bind_eq_ok.mp hstore
  obtain ⟨revoked, hrevoke, hstore⟩ := bind_eq_ok.mp hstore
  obtain ⟨issued, hissue, hdevice⟩ := bind_eq_ok.mp hstore
  have hexpired := hconsistent.updatePermits (execute_eq_ok hexpire)
    fun permit hactive => by cases hactive
  have hrevoked := hexpired.updatePermits (execute_eq_ok hrevoke)
    fun permit hactive => by cases hactive
  have hissued := hrevoked.insertPermit (execute_eq_ok hissue)
  exact hissued.updateDevices (execute_eq_ok hdevice)
    fun device _ _ => Or.inl ⟨rfl, rfl, rfl, fun hleader => hleader⟩

theorem Consistent.issuePermit (hconsistent : Consistent db) {codec : TokenCodec}
    {flags : OfflineFlags} {input : IssueBootstrapInput} {answers : IssueAnswers}
    {reads : BootstrapReads} {snapshot : MenuSnapshot} {catalog : Catalog.MenuCatalog}
    {permit : IssuedPermit}
    (hcommand : issuePermit scope codec flags input answers reads snapshot catalog db
      = .ok (db', permit)) :
    Consistent db' := by
  obtain ⟨-, -, hcommand⟩ := bind_eq_ok.mp hcommand
  obtain ⟨token, -, hcommand⟩ := bind_eq_ok.mp hcommand
  obtain ⟨stored, hstore, hreturn⟩ := bind_eq_ok.mp hcommand
  cases hreturn
  exact hconsistent.storePermit hstore

end Commands

/-! ## Runs -/

/-- One transaction of the device service.  Registering and issuing read
before their transaction, so what they read is a database of its own: any
earlier state, or none that ever was. -/
inductive DeviceOperation
  | register (flags : OfflineFlags) (input : RegisterDeviceInput) (deviceId : Uuid)
      (readDb : DeviceDb)
  | manage (flags : OfflineFlags) (input : ManagementInput) (now : Timestamp)
  | createSnapshot (organizationId stallId : Uuid) (minimumExpiresAt : Timestamp)
      (source : SnapshotSource)
  | issuePermit (codec : TokenCodec) (flags : OfflineFlags) (input : IssueBootstrapInput)
      (answers : IssueAnswers) (deviceDb policyDb : DeviceDb) (snapshot : MenuSnapshot)
      (catalog : Catalog.MenuCatalog)
  | promoteBackend (runtime : List BackendRuntimeState)

def DeviceOperation.run (scope : ScopeTables) (db : DeviceDb) :
    DeviceOperation → Except DeviceServiceError DeviceDb
  | .register flags input deviceId readDb =>
      registerOfflineDevice scope flags input deviceId readDb db
  | .manage flags input now => applyOfflineManagementCommand scope flags input now db
  | .createSnapshot organizationId stallId minimumExpiresAt source =>
      (createOrReuseOfflineMenuSnapshot scope organizationId stallId minimumExpiresAt source
        db).map (·.1)
  | .issuePermit codec flags input answers deviceDb policyDb snapshot catalog => do
      let reads ← readForBootstrap flags input deviceDb policyDb
      let issued ← DeviceService.issuePermit scope codec flags input answers reads snapshot
        catalog db
      return issued.1
  | .promoteBackend runtime => .ok { db with runtime }

/-- An operation with the scope tables of its moment. -/
structure DeviceCommand where
  scope : ScopeTables
  operation : DeviceOperation

/-- A refused transaction leaves the database as it was. -/
def step (db : DeviceDb) (command : DeviceCommand) : DeviceDb :=
  match command.operation.run command.scope db with
  | .ok db' => db'
  | .error _ => db

theorem consistent_run {scope : ScopeTables} {operation : DeviceOperation} {db db' : DeviceDb}
    (hconsistent : Consistent db) (hrun : operation.run scope db = .ok db') :
    Consistent db' := by
  cases operation with
  | register flags input deviceId readDb => exact hconsistent.registerOfflineDevice hrun
  | manage flags input now => exact hconsistent.applyOfflineManagementCommand hrun
  | createSnapshot organizationId stallId minimumExpiresAt source =>
      unfold DeviceOperation.run at hrun
      obtain ⟨⟨created, snapshot⟩, hcreate, rfl⟩ := exists_of_map_eq_ok hrun
      exact hconsistent.createOrReuseOfflineMenuSnapshot hcreate
  | issuePermit codec flags input answers deviceDb policyDb snapshot catalog =>
      obtain ⟨reads, -, hrun⟩ := bind_eq_ok.mp hrun
      obtain ⟨⟨issued, permit⟩, hissue, hreturn⟩ := bind_eq_ok.mp hrun
      cases hreturn
      exact hconsistent.issuePermit hissue
  | promoteBackend runtime =>
      cases hrun
      exact ⟨hconsistent.policy_leader, hconsistent.permit_holder⟩

theorem consistent_step {db : DeviceDb} (hconsistent : Consistent db)
    (command : DeviceCommand) : Consistent (step db command) := by
  unfold step
  split
  · next hrun => exact consistent_run hconsistent hrun
  · exact hconsistent

theorem consistent_exec (runtime : List BackendRuntimeState) (commands : List DeviceCommand) :
    Consistent (Run.exec step (DeviceDb.empty runtime) commands) :=
  Run.invariant_exec Consistent
    (fun _ command hconsistent => consistent_step hconsistent command)
    (consistent_empty runtime) commands

/-- A permit issued from fresh reads is the two transactions of a run, one after
the other. -/
theorem exec_issueOfflineBootstrap {scope : ScopeTables} {codec : TokenCodec}
    {flags : OfflineFlags} {input : IssueBootstrapInput} {answers : IssueAnswers}
    {source : SnapshotSource} {openCashShift : Option OpenCashShift}
    {deviceDb policyDb db db' : DeviceDb} {response : OfflineBootstrapResponse}
    (hissue : issueOfflineBootstrap scope codec flags input answers source openCashShift
      deviceDb policyDb db = .ok (db', response)) :
    ∃ commands : List DeviceCommand, Run.exec step db commands = db' := by
  obtain ⟨reads, hreads, hissue⟩ := bind_eq_ok.mp hissue
  obtain ⟨⟨withSnapshot, snapshot⟩, hsnapshot, hissue⟩ := bind_eq_ok.mp hissue
  obtain ⟨⟨issued, permit⟩, hpermit, hreturn⟩ := bind_eq_ok.mp hissue
  cases hreturn
  refine ⟨[
    ⟨scope, .createSnapshot input.organizationId input.stallId
      (reads.expiresAt input answers.issuedAt) source⟩,
    ⟨scope, .issuePermit codec flags input answers deviceDb policyDb snapshot
      source.catalog⟩], ?_⟩
  simp [step, DeviceOperation.run, hsnapshot, hreads, hpermit, Except.map, pure, Except.pure]

/-- The single-writer invariant: whatever registrations, management commands and
permits a run is made of, and however stale the reads of the permits are, a
stall has at most one active leader, an enabled policy names that device and
every active permit belongs to it. -/
theorem single_writer (runtime : List BackendRuntimeState) (commands : List DeviceCommand)
    (stallId : Uuid) :
    let db := Run.exec step (DeviceDb.empty runtime) commands
    let isLeader := fun device : ClientDevice => device ∈ db.clientDevices
      ∧ device.stallId = stallId ∧ device.status = .active
      ∧ device.offlineRole = .offlineLeader
    (∀ left right, isLeader left → isLeader right → left = right)
      ∧ (∀ policy ∈ db.policies, policy.stallId = stallId → policy.offlineEnabled = true →
        ∃ device, isLeader device ∧ policy.offlineLeaderDeviceId = some device.id)
      ∧ (∀ permit ∈ db.permits, permit.stallId = stallId → permit.status = .active →
        ∃ device, isLeader device ∧ permit.deviceId = device.id) := by
  intro db isLeader
  have hconsistent : Consistent db := consistent_exec runtime commands
  have hisLeader : ∀ device ∈ db.clientDevices, device.stallId = stallId →
      device.isActiveLeader = true → isLeader device := by
    intro device hdevice hstall hleader
    simp only [ClientDevice.isActiveLeader, Bool.and_eq_true, decide_eq_true_eq] at hleader
    exact ⟨hdevice, hstall, hleader.1.1, hleader.2⟩
  refine ⟨?_, ?_, ?_⟩
  · rintro left right ⟨hleft, hleftStall, -, hleftRole⟩ ⟨hright, hrightStall, -, hrightRole⟩
    exact activeLeader_unique hleft hright (hleftStall.trans hrightStall.symm)
      (isActiveLeader_of_role hleft hleftRole) (isActiveLeader_of_role hright hrightRole)
  · intro policy hpolicy hstall henabled
    obtain ⟨device, hleader⟩ := hconsistent.policy_leader policy hpolicy henabled
    exact ⟨device, hisLeader device hleader.mem (hleader.stall.trans hstall) hleader.leader,
      hleader.named⟩
  · intro permit hpermit hstall hactive
    obtain ⟨device, hholder⟩ := hconsistent.permit_holder permit hpermit hactive
    exact ⟨device, hisLeader device hholder.mem (hholder.stall.trans hstall) hholder.leader,
      hholder.held⟩

end Stallorder.SingleWriter
