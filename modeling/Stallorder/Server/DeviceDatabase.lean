import Stallorder.Offline.LocalDatabase

/-!
# The device tables of the server

Registered devices, the offline policy of a stall, the issued permits, the menu
snapshots and the state of the backend, with the check constraints, the unique
indexes and the triggers that their migration installs.  The triggers also
refuse a change of an identity column; no modelled statement changes one.
-/

namespace Stallorder.DeviceDatabase

open OrderContract Permit Catalog LocalDatabase

/-! ## Devices -/

structure ClientDevice where
  id : Uuid
  organizationId : Uuid
  stallId : Uuid
  profileId : Uuid
  installationId : Uuid
  offlineEnabled : Bool
  offlineRole : OfflineDeviceRole
  status : OfflineDeviceStatus
  permitExpiresAt : Option Timestamp
  revokedAt : Option Timestamp
  deriving DecidableEq

/-- The devices that the partial index on leaders covers. -/
def ClientDevice.isActiveLeader (device : ClientDevice) : Bool :=
  device.status = .active && device.offlineEnabled && device.offlineRole = .offlineLeader

def disabledRoleCheck (device : ClientDevice) : Bool :=
  (device.offlineEnabled && device.status = .active && device.offlineRole ≠ .none)
    || (!device.offlineEnabled && device.offlineRole = .none)

def revocationCheck (device : ClientDevice) : Bool :=
  match device.status with
  | .revoked | .lost | .replaced => device.revokedAt.isSome
  | .active | .disabled => true

def clientDeviceChecks (device : ClientDevice) : Bool :=
  disabledRoleCheck device && revocationCheck device

/-- A device is unique by its identifier, by its installation within the
organization and, while it is an active leader, by its stall. -/
instance : Indexed ClientDevice Uuid where
  key := (·.id)
  collides left right :=
    left.id = right.id
      || (left.organizationId = right.organizationId
        && left.installationId = right.installationId)
      || (left.stallId = right.stallId && left.isActiveLeader && right.isActiveLeader)
  collides_symm hcollides := by
    simp only [Bool.or_eq_true, Bool.and_eq_true, decide_eq_true_eq] at hcollides ⊢
    rcases hcollides with (hid | ⟨horganization, hinstallation⟩) | ⟨⟨hstall, hleft⟩, hright⟩
    · exact Or.inl (Or.inl hid.symm)
    · exact Or.inl (Or.inr ⟨horganization.symm, hinstallation.symm⟩)
    · exact Or.inr ⟨⟨hstall.symm, hright⟩, hleft⟩
  collides_of_key_eq hkey := by simp [hkey]

/-! ## Policies -/

inductive OfflineWriteMode
  | disabled
  | singleDeviceOnly
  | localGatewayFuture
  deriving DecidableEq

structure OfflineStallRuntimePolicy where
  stallId : Uuid
  organizationId : Uuid
  offlineEnabled : Bool
  offlineWriteMode : OfflineWriteMode
  offlineLeaderDeviceId : Option Uuid
  limits : OfflineRuntimeLimits
  deriving DecidableEq

def enabledModeCheck (policy : OfflineStallRuntimePolicy) : Bool :=
  policy.offlineEnabled = (policy.offlineWriteMode ≠ .disabled)

def singleLeaderCheck (policy : OfflineStallRuntimePolicy) : Bool :=
  match policy.offlineWriteMode with
  | .disabled => policy.offlineLeaderDeviceId.isNone
  | .singleDeviceOnly => policy.offlineLeaderDeviceId.isSome
  | .localGatewayFuture => true

/-- The numeric columns keep twelve digits, two of them decimal. -/
def policyLimitsCheck (limits : OfflineRuntimeLimits) : Bool :=
  riskLimitsSchema (999_999_999_999 / 100) limits
    && limits.maxSingleOrderAmount ≤ limits.maxTotalAmount
    && limits.maxManualPaymentAmount ≤ limits.maxSingleOrderAmount
    && limits.maxTotalManualPaymentAmount ≤ limits.maxTotalAmount
    && (limits.requireCustomerContactAboveAmount = 0
      || limits.requireCustomerContactAboveAmount ≤ limits.maxManualPaymentAmount)
    && (limits.managerApprovalThreshold = 0
      || limits.managerApprovalThreshold ≤ limits.maxManualPaymentAmount)

def policyChecks (policy : OfflineStallRuntimePolicy) : Bool :=
  enabledModeCheck policy && singleLeaderCheck policy && policyLimitsCheck policy.limits

instance : KeyIndexed OfflineStallRuntimePolicy Uuid := .ofKey (·.stallId)

/-! ## Permits -/

inductive PermitStatus
  | active
  | revoked
  | expired
  deriving DecidableEq

abbrev TokenHash := ℕ

structure OfflinePermit where
  id : Uuid
  organizationId : Uuid
  stallId : Uuid
  deviceId : Uuid
  profileId : Uuid
  menuSnapshotId : Uuid
  menuSnapshotVersion : ℕ
  tokenHash : TokenHash
  roles : List UserRole
  allowedActions : List OfflineAllowedAction
  promotionEpoch : ℕ
  status : PermitStatus
  issuedAt : Timestamp
  expiresAt : Timestamp
  revokedAt : Option Timestamp
  deriving DecidableEq

def permitChecks (permit : OfflinePermit) : Bool :=
  1 ≤ permit.menuSnapshotVersion && 1 ≤ permit.promotionEpoch
    && permit.issuedAt < permit.expiresAt
    && permit.expiresAt ≤ permit.issuedAt + 12 * 60 * 60_000
    && (permit.status ≠ .revoked || permit.revokedAt.isSome)

/-- A permit is unique by its identifier, by its token and, while it is active,
by its device. -/
instance : Indexed OfflinePermit Uuid where
  key := (·.id)
  collides left right :=
    left.id = right.id || left.tokenHash = right.tokenHash
      || (left.deviceId = right.deviceId && left.status = .active && right.status = .active)
  collides_symm hcollides := by
    simp only [Bool.or_eq_true, Bool.and_eq_true, decide_eq_true_eq] at hcollides ⊢
    rcases hcollides with (hid | htoken) | ⟨⟨hdevice, hleft⟩, hright⟩
    · exact Or.inl (Or.inl hid.symm)
    · exact Or.inl (Or.inr htoken.symm)
    · exact Or.inr ⟨⟨hdevice.symm, hright⟩, hleft⟩
  collides_of_key_eq hkey := by simp [hkey]

/-! ## Menu snapshots and the backend -/

abbrev ContentHash := ℕ

structure MenuSnapshot where
  id : Uuid
  organizationId : Uuid
  stallId : Uuid
  version : ℕ
  contentHash : ContentHash
  catalog : MenuCatalog
  currency : Text
  generatedAt : Timestamp
  expiresAt : Timestamp
  deriving DecidableEq

instance : Indexed MenuSnapshot Uuid where
  key := (·.id)
  collides left right :=
    left.id = right.id || (left.stallId = right.stallId && left.version = right.version)
  collides_symm hcollides := by
    simp only [Bool.or_eq_true, Bool.and_eq_true, decide_eq_true_eq] at hcollides ⊢
    exact hcollides.imp Eq.symm fun hversion => ⟨hversion.1.symm, hversion.2.symm⟩
  collides_of_key_eq hkey := by simp [hkey]

inductive BackendRole
  | activeWriter
  | standby
  deriving DecidableEq

structure BackendRuntimeState where
  isCurrent : Bool
  backendRole : BackendRole
  writesEnabled : Bool
  promotionEpoch : ℕ
  deriving DecidableEq

def BackendRuntimeState.isWritable (state : BackendRuntimeState) : Bool :=
  state.isCurrent && state.backendRole = .activeWriter && state.writesEnabled

/-! ## The database -/

structure DeviceDb where
  clientDevices : CheckedTable ClientDevice clientDeviceChecks
  policies : CheckedTable OfflineStallRuntimePolicy policyChecks
  permits : CheckedTable OfflinePermit permitChecks
  menuSnapshots : Table MenuSnapshot
  runtime : List BackendRuntimeState

/-- Nothing is registered; the backend is in the given state. -/
def DeviceDb.empty (runtime : List BackendRuntimeState) : DeviceDb where
  clientDevices := .empty
  policies := .empty
  permits := .empty
  menuSnapshots := .empty
  runtime := runtime

/-- What the triggers read of the tables that no offline operation writes: the
organization of a stall, and whether a profile may work at it. -/
structure ScopeTables where
  stallOrganization : Uuid → Option Uuid
  profileInScope : Uuid → Uuid → Uuid → Bool

variable (scope : ScopeTables)

/-! ## Triggers -/

def validateClientDeviceScope (device : ClientDevice) : Bool :=
  scope.stallOrganization device.stallId = some device.organizationId
    && (device.status ≠ .active
      || scope.profileInScope device.organizationId device.stallId device.profileId)

def validateOfflinePolicyScope (db : DeviceDb) (policy : OfflineStallRuntimePolicy) : Bool :=
  scope.stallOrganization policy.stallId = some policy.organizationId
    && policy.offlineLeaderDeviceId.all fun leaderId =>
      db.clientDevices.table.rows.any fun device =>
        device.id = leaderId
          && device.organizationId = policy.organizationId
          && device.stallId = policy.stallId
          && device.isActiveLeader

def permitDeviceInScope (db : DeviceDb) (permit : OfflinePermit) : Bool :=
  db.clientDevices.table.rows.any fun device =>
    device.id = permit.deviceId
      && device.organizationId = permit.organizationId
      && device.stallId = permit.stallId
      && device.profileId = permit.profileId
      && device.isActiveLeader

def permitSnapshotInScope (db : DeviceDb) (permit : OfflinePermit) : Bool :=
  db.menuSnapshots.rows.any fun snapshot =>
    snapshot.id = permit.menuSnapshotId
      && snapshot.organizationId = permit.organizationId
      && snapshot.stallId = permit.stallId
      && snapshot.version = permit.menuSnapshotVersion
      && permit.expiresAt ≤ snapshot.expiresAt

def permitPolicyInScope (db : DeviceDb) (permit : OfflinePermit) : Bool :=
  db.policies.table.rows.any fun policy =>
    policy.organizationId = permit.organizationId
      && policy.stallId = permit.stallId
      && policy.offlineEnabled
      && policy.offlineWriteMode = .singleDeviceOnly
      && policy.offlineLeaderDeviceId = some permit.deviceId
      && permit.expiresAt ≤ permit.issuedAt + policy.limits.maxOfflineDurationMinutes * 60_000

def permitEpochInScope (db : DeviceDb) (permit : OfflinePermit) : Bool :=
  db.runtime.any fun state => state.isWritable && state.promotionEpoch = permit.promotionEpoch

/-- A permit that is not active passes; an active one has to belong to the
leader that the policy of its stall names. -/
def validateOfflinePermitScope (db : DeviceDb) (permit : OfflinePermit) : Bool :=
  permit.status ≠ .active
    || (permitDeviceInScope db permit && permitSnapshotInScope db permit
      && permitPolicyInScope db permit && permitEpochInScope db permit)

def validateMenuSnapshotScope (snapshot : MenuSnapshot) : Bool :=
  scope.stallOrganization snapshot.stallId = some snapshot.organizationId

/-! ## Statements -/

/-- A statement returns nothing when a constraint or a trigger refuses it. -/
def insertDevice? (device : ClientDevice) (db : DeviceDb) : Option DeviceDb := do
  guard (validateClientDeviceScope scope device)
  let clientDevices ← db.clientDevices.insert? device
  return { db with clientDevices }

def updateDevices? (wanted : ClientDevice → Bool) (change : ClientDevice → ClientDevice)
    (db : DeviceDb) : Option DeviceDb := do
  guard (db.clientDevices.table.rows.all fun device =>
    !wanted device || validateClientDeviceScope scope (change device))
  let clientDevices ← db.clientDevices.updateWhere? wanted change
  return { db with clientDevices }

def insertPolicy? (policy : OfflineStallRuntimePolicy) (db : DeviceDb) : Option DeviceDb := do
  guard (validateOfflinePolicyScope scope db policy)
  let policies ← db.policies.insert? policy
  return { db with policies }

def updatePolicies? (wanted : OfflineStallRuntimePolicy → Bool)
    (change : OfflineStallRuntimePolicy → OfflineStallRuntimePolicy) (db : DeviceDb) :
    Option DeviceDb := do
  guard (db.policies.table.rows.all fun policy =>
    !wanted policy || validateOfflinePolicyScope scope db (change policy))
  let policies ← db.policies.updateWhere? wanted change
  return { db with policies }

def insertPermit? (permit : OfflinePermit) (db : DeviceDb) : Option DeviceDb := do
  guard (validateOfflinePermitScope db permit)
  let permits ← db.permits.insert? permit
  return { db with permits }

def updatePermits? (wanted : OfflinePermit → Bool) (change : OfflinePermit → OfflinePermit)
    (db : DeviceDb) : Option DeviceDb := do
  guard (db.permits.table.rows.all fun permit =>
    !wanted permit || validateOfflinePermitScope db (change permit))
  let permits ← db.permits.updateWhere? wanted change
  return { db with permits }

def insertMenuSnapshot? (snapshot : MenuSnapshot) (db : DeviceDb) : Option DeviceDb := do
  guard (validateMenuSnapshotScope scope snapshot)
  let menuSnapshots ← db.menuSnapshots.insert? snapshot
  return { db with menuSnapshots }

/-! ## What a statement did -/

section Statements

variable {scope} {db db' : DeviceDb}

theorem insertDevice?_eq_some {device : ClientDevice}
    (hinsert : insertDevice? scope device db = some db') :
    ∃ clientDevices, db' = { db with clientDevices }
      ∧ db.clientDevices.insert? device = some clientDevices := by
  simp only [insertDevice?, Option.bind_eq_bind, Option.bind_eq_some_iff] at hinsert
  obtain ⟨-, -, clientDevices, htable, hdb⟩ := hinsert
  exact ⟨clientDevices, (Option.some.inj hdb).symm, htable⟩

theorem updateDevices?_eq_some {wanted : ClientDevice → Bool}
    {change : ClientDevice → ClientDevice}
    (hupdate : updateDevices? scope wanted change db = some db') :
    ∃ clientDevices, db' = { db with clientDevices }
      ∧ db.clientDevices.updateWhere? wanted change = some clientDevices := by
  simp only [updateDevices?, Option.bind_eq_bind, Option.bind_eq_some_iff] at hupdate
  obtain ⟨-, -, clientDevices, htable, hdb⟩ := hupdate
  exact ⟨clientDevices, (Option.some.inj hdb).symm, htable⟩

theorem insertPolicy?_eq_some {policy : OfflineStallRuntimePolicy}
    (hinsert : insertPolicy? scope policy db = some db') :
    validateOfflinePolicyScope scope db policy = true ∧
      ∃ policies, db' = { db with policies }
        ∧ db.policies.insert? policy = some policies := by
  simp only [insertPolicy?, Option.bind_eq_bind, Option.bind_eq_some_iff,
    Option.guard_eq_some'] at hinsert
  obtain ⟨-, hscope, policies, htable, hdb⟩ := hinsert
  exact ⟨hscope, policies, (Option.some.inj hdb).symm, htable⟩

theorem updatePolicies?_eq_some {wanted : OfflineStallRuntimePolicy → Bool}
    {change : OfflineStallRuntimePolicy → OfflineStallRuntimePolicy}
    (hupdate : updatePolicies? scope wanted change db = some db') :
    (∀ policy ∈ db.policies, wanted policy = true →
      validateOfflinePolicyScope scope db (change policy) = true) ∧
      ∃ policies, db' = { db with policies }
        ∧ db.policies.updateWhere? wanted change = some policies := by
  simp only [updatePolicies?, Option.bind_eq_bind, Option.bind_eq_some_iff, Option.guard_eq_some',
    List.all_eq_true, Bool.or_eq_true, Bool.not_eq_true'] at hupdate
  obtain ⟨-, hscope, policies, htable, hdb⟩ := hupdate
  refine ⟨fun policy hpolicy hwanted => ?_, policies, (Option.some.inj hdb).symm, htable⟩
  rcases hscope policy hpolicy with hunwanted | hvalid
  · rw [hwanted] at hunwanted
    cases hunwanted
  · exact hvalid

theorem insertPermit?_eq_some {permit : OfflinePermit}
    (hinsert : insertPermit? permit db = some db') :
    validateOfflinePermitScope db permit = true ∧
      ∃ permits, db' = { db with permits } ∧ db.permits.insert? permit = some permits := by
  simp only [insertPermit?, Option.bind_eq_bind, Option.bind_eq_some_iff,
    Option.guard_eq_some'] at hinsert
  obtain ⟨-, hscope, permits, htable, hdb⟩ := hinsert
  exact ⟨hscope, permits, (Option.some.inj hdb).symm, htable⟩

theorem updatePermits?_eq_some {wanted : OfflinePermit → Bool}
    {change : OfflinePermit → OfflinePermit}
    (hupdate : updatePermits? wanted change db = some db') :
    ∃ permits, db' = { db with permits }
      ∧ db.permits.updateWhere? wanted change = some permits := by
  simp only [updatePermits?, Option.bind_eq_bind, Option.bind_eq_some_iff] at hupdate
  obtain ⟨-, -, permits, htable, hdb⟩ := hupdate
  exact ⟨permits, (Option.some.inj hdb).symm, htable⟩

theorem insertMenuSnapshot?_eq_some {snapshot : MenuSnapshot}
    (hinsert : insertMenuSnapshot? scope snapshot db = some db') :
    ∃ menuSnapshots, db' = { db with menuSnapshots }
      ∧ db.menuSnapshots.insert? snapshot = some menuSnapshots := by
  simp only [insertMenuSnapshot?, Option.bind_eq_bind, Option.bind_eq_some_iff] at hinsert
  obtain ⟨-, -, menuSnapshots, htable, hdb⟩ := hinsert
  exact ⟨menuSnapshots, (Option.some.inj hdb).symm, htable⟩

/-- An accepted policy that names a leader names an active leader of its stall. -/
theorem exists_leader_of_validateOfflinePolicyScope {policy : OfflineStallRuntimePolicy}
    {leaderId : Uuid} (hvalid : validateOfflinePolicyScope scope db policy = true)
    (hleader : policy.offlineLeaderDeviceId = some leaderId) :
    ∃ device ∈ db.clientDevices, device.id = leaderId
      ∧ device.organizationId = policy.organizationId
      ∧ device.stallId = policy.stallId ∧ device.isActiveLeader = true := by
  simp only [validateOfflinePolicyScope, hleader, Option.all_some, Bool.and_eq_true,
    List.any_eq_true, decide_eq_true_eq] at hvalid
  obtain ⟨-, device, hdevice, ⟨⟨hid, horganization⟩, hstall⟩, hactive⟩ := hvalid
  exact ⟨device, hdevice, hid, horganization, hstall, hactive⟩

/-- An accepted active permit belongs to an active leader of its stall. -/
theorem exists_leader_of_validateOfflinePermitScope {permit : OfflinePermit}
    (hvalid : validateOfflinePermitScope db permit = true) (hactive : permit.status = .active) :
    ∃ device ∈ db.clientDevices, device.id = permit.deviceId
      ∧ device.organizationId = permit.organizationId
      ∧ device.stallId = permit.stallId ∧ device.isActiveLeader = true := by
  simp only [validateOfflinePermitScope, hactive, ne_eq, not_true_eq_false, decide_false,
    Bool.false_or, Bool.and_eq_true, permitDeviceInScope, List.any_eq_true,
    decide_eq_true_eq] at hvalid
  obtain ⟨⟨⟨⟨device, hdevice, ⟨⟨⟨hid, horganization⟩, hstall⟩, -⟩, hleader⟩, -⟩, -⟩, -⟩ := hvalid
  exact ⟨device, hdevice, hid, horganization, hstall, hleader⟩

end Statements

/-- Two active leaders of one stall are the same device: the partial index
refuses a second one. -/
theorem activeLeader_unique {db : DeviceDb} {left right : ClientDevice}
    (hleft : left ∈ db.clientDevices) (hright : right ∈ db.clientDevices)
    (hstall : left.stallId = right.stallId) (hleftLeader : left.isActiveLeader = true)
    (hrightLeader : right.isActiveLeader = true) : left = right :=
  CheckedTable.eq_of_collides hleft hright (by
    simp [Indexed.collides, hstall, hleftLeader, hrightLeader])

/-- The role check: a leader is enabled and active. -/
theorem isActiveLeader_of_role {db : DeviceDb} {device : ClientDevice}
    (hdevice : device ∈ db.clientDevices) (hrole : device.offlineRole = .offlineLeader) :
    device.isActiveLeader = true := by
  have hchecks := db.clientDevices.checked device hdevice
  simp only [clientDeviceChecks, disabledRoleCheck, hrole, Bool.and_eq_true, Bool.or_eq_true]
    at hchecks
  obtain ⟨⟨⟨henabled, hstatus⟩, -⟩ | ⟨-, hnone⟩, -⟩ := hchecks
  · simp [ClientDevice.isActiveLeader, henabled, of_decide_eq_true hstatus, hrole]
  · simp at hnone

end Stallorder.DeviceDatabase
