import Stallorder.Server.SingleWriter
import Stallorder.Server.SyncReplay

/-!
# What device operations keep

No operation of the device service removes a row or rewrites its identity:
devices change their role, permits change their status, snapshots stay.  An
upload finds its permit and its device by identity, so the context of a request
after any such operations differs in the two statuses only.
-/

namespace Stallorder.DeviceHistory

open OrderContract Permit DeviceDatabase DeviceService SingleWriter SyncReplay Checks

/-! ## The relation -/

def SameDevice (device changed : ClientDevice) : Prop :=
  changed = { device with
    offlineEnabled := changed.offlineEnabled
    offlineRole := changed.offlineRole
    status := changed.status
    permitExpiresAt := changed.permitExpiresAt
    revokedAt := changed.revokedAt }

def SamePermit (permit changed : OfflinePermit) : Prop :=
  changed = { permit with status := changed.status, revokedAt := changed.revokedAt }

theorem SameDevice.refl (device : ClientDevice) : SameDevice device device := rfl

theorem SamePermit.refl (permit : OfflinePermit) : SamePermit permit permit := rfl

theorem SameDevice.trans {first second third : ClientDevice} (hfirst : SameDevice first second)
    (hsecond : SameDevice second third) : SameDevice first third := by
  unfold SameDevice at hfirst hsecond ⊢
  rw [hfirst] at hsecond
  exact hsecond

theorem SamePermit.trans {first second third : OfflinePermit} (hfirst : SamePermit first second)
    (hsecond : SamePermit second third) : SamePermit first third := by
  unfold SamePermit at hfirst hsecond ⊢
  rw [hfirst] at hsecond
  exact hsecond

theorem SameDevice.installation {device device' : ClientDevice}
    (hdevice : SameDevice device device') :
    device'.id = device.id ∧ device'.organizationId = device.organizationId
      ∧ device'.installationId = device.installationId := by
  unfold SameDevice at hdevice
  rw [hdevice]
  exact ⟨rfl, rfl, rfl⟩

theorem SamePermit.id {permit permit' : OfflinePermit} (hpermit : SamePermit permit permit') :
    permit'.id = permit.id := by
  unfold SamePermit at hpermit
  rw [hpermit]

structure Keeps (before after : DeviceDb) : Prop where
  devices : ∀ device ∈ before.clientDevices,
    ∃ changed ∈ after.clientDevices, SameDevice device changed
  permits : ∀ permit ∈ before.permits, ∃ changed ∈ after.permits, SamePermit permit changed
  snapshots : ∀ snapshot ∈ before.menuSnapshots, snapshot ∈ after.menuSnapshots
  runtime : after.runtime = before.runtime

theorem Keeps.refl (db : DeviceDb) : Keeps db db where
  devices device hdevice := ⟨device, hdevice, SameDevice.refl device⟩
  permits permit hpermit := ⟨permit, hpermit, SamePermit.refl permit⟩
  snapshots _ hsnapshot := hsnapshot
  runtime := rfl

theorem Keeps.policies (db : DeviceDb)
    (policies : CheckedTable OfflineStallRuntimePolicy policyChecks) :
    Keeps db { db with policies := policies } where
  devices := (Keeps.refl db).devices
  permits := (Keeps.refl db).permits
  snapshots := (Keeps.refl db).snapshots
  runtime := rfl

theorem Keeps.trans {first second third : DeviceDb} (hfirst : Keeps first second)
    (hsecond : Keeps second third) : Keeps first third where
  devices device hdevice := by
    obtain ⟨middle, hmiddle, hearlier⟩ := hfirst.devices device hdevice
    obtain ⟨changed, hchanged, hlater⟩ := hsecond.devices middle hmiddle
    exact ⟨changed, hchanged, hearlier.trans hlater⟩
  permits permit hpermit := by
    obtain ⟨middle, hmiddle, hearlier⟩ := hfirst.permits permit hpermit
    obtain ⟨changed, hchanged, hlater⟩ := hsecond.permits middle hmiddle
    exact ⟨changed, hchanged, hearlier.trans hlater⟩
  snapshots snapshot hsnapshot := hsecond.snapshots snapshot (hfirst.snapshots snapshot hsnapshot)
  runtime := hsecond.runtime.trans hfirst.runtime

/-! ## Statements -/

section Statements

variable {scope : ScopeTables} {db db' : DeviceDb}

theorem keeps_updateDevices {wanted : ClientDevice → Bool}
    {change : ClientDevice → ClientDevice}
    (hexecute : execute (updateDevices? scope wanted change) db = .ok db')
    (hchange : ∀ device, SameDevice device (change device)) : Keeps db db' := by
  obtain ⟨clientDevices, rfl, htable⟩ := updateDevices?_eq_some (execute_eq_ok hexecute)
  refine { Keeps.refl db with devices := fun device hdevice => ?_ }
  refine ⟨_, (CheckedTable.mem_of_updateWhere? htable).mpr ⟨device, hdevice, rfl⟩, ?_⟩
  split
  · exact hchange device
  · exact SameDevice.refl device

theorem keeps_updatePolicies {wanted : OfflineStallRuntimePolicy → Bool}
    {change : OfflineStallRuntimePolicy → OfflineStallRuntimePolicy}
    (hexecute : execute (updatePolicies? scope wanted change) db = .ok db') : Keeps db db' := by
  obtain ⟨-, policies, rfl, -⟩ := updatePolicies?_eq_some (execute_eq_ok hexecute)
  exact Keeps.policies db policies

theorem keeps_upsertPolicy {created : OfflineStallRuntimePolicy}
    {change : OfflineStallRuntimePolicy → OfflineStallRuntimePolicy}
    (hexecute : execute (upsertPolicy? scope created change) db = .ok db') : Keeps db db' := by
  have hupsert := execute_eq_ok hexecute
  unfold upsertPolicy? at hupsert
  split at hupsert
  · obtain ⟨-, policies, rfl, -⟩ := updatePolicies?_eq_some hupsert
    exact Keeps.policies db policies
  · obtain ⟨-, policies, rfl, -⟩ := insertPolicy?_eq_some hupsert
    exact Keeps.policies db policies

theorem keeps_updatePermits {wanted : OfflinePermit → Bool}
    {change : OfflinePermit → OfflinePermit}
    (hexecute : execute (updatePermits? wanted change) db = .ok db')
    (hchange : ∀ permit, SamePermit permit (change permit)) : Keeps db db' := by
  obtain ⟨permits, rfl, htable⟩ := updatePermits?_eq_some (execute_eq_ok hexecute)
  refine { Keeps.refl db with permits := fun permit hpermit => ?_ }
  refine ⟨_, (CheckedTable.mem_of_updateWhere? htable).mpr ⟨permit, hpermit, rfl⟩, ?_⟩
  split
  · exact hchange permit
  · exact SamePermit.refl permit

end Statements

/-! ## Operations -/

section Operations

variable {scope : ScopeTables} {db db' : DeviceDb}

theorem keeps_revokeActivePermits {organizationId stallId : Uuid} {now : Timestamp}
    (hrevoke : revokeActivePermits scope organizationId stallId now db = .ok db') :
    Keeps db db' := by
  obtain ⟨revoked, hpermits, hdevices⟩ := bind_eq_ok.mp hrevoke
  exact (keeps_updatePermits hpermits fun _ => rfl).trans
    (keeps_updateDevices hdevices fun _ => rfl)

theorem keeps_disablePolicy {input : ManagementInput} {update : PolicyUpdate} {now : Timestamp}
    (hcommand : disablePolicy scope input update now db = .ok db') : Keeps db db' := by
  obtain ⟨updated, hupsert, hcommand⟩ := bind_eq_ok.mp hcommand
  obtain ⟨revoked, hrevoke, hdemote⟩ := bind_eq_ok.mp hcommand
  exact ((keeps_upsertPolicy hupsert).trans (keeps_revokeActivePermits hrevoke)).trans
    (keeps_updateDevices hdemote fun _ => rfl)

theorem keeps_assignLeader {input : ManagementInput} {update : PolicyUpdate} {now : Timestamp}
    (hcommand : assignLeader scope input update now db = .ok db') : Keeps db db' := by
  obtain ⟨leaderId, -, hcommand⟩ := bind_eq_ok.mp hcommand
  obtain ⟨leader, -, hcommand⟩ := bind_eq_ok.mp hcommand
  obtain ⟨-, -, hcommand⟩ := bind_eq_ok.mp hcommand
  obtain ⟨disabled, hupsert, hcommand⟩ := bind_eq_ok.mp hcommand
  obtain ⟨revoked, hrevoke, hcommand⟩ := bind_eq_ok.mp hcommand
  obtain ⟨demoted, hdemote, hcommand⟩ := bind_eq_ok.mp hcommand
  obtain ⟨promoted, hpromote, hpolicy⟩ := bind_eq_ok.mp hcommand
  have hdemoted := ((keeps_upsertPolicy hupsert).trans (keeps_revokeActivePermits hrevoke)).trans
    (keeps_updateDevices hdemote fun _ => rfl)
  exact (hdemoted.trans (keeps_updateDevices hpromote fun _ => rfl)).trans
    (keeps_updatePolicies hpolicy)

theorem keeps_withdrawLeader {input : ManagementInput} {device : ClientDevice}
    (hwithdraw : withdrawLeader scope input device db = .ok db') : Keeps db db' := by
  unfold withdrawLeader at hwithdraw
  split at hwithdraw
  · exact keeps_updatePolicies hwithdraw
  · cases hwithdraw
    exact Keeps.refl db

theorem keeps_updateDevice {input : ManagementInput} {deviceId : Uuid} {action : DeviceAction}
    {now : Timestamp} (hcommand : updateDevice scope input deviceId action now db = .ok db') :
    Keeps db db' := by
  obtain ⟨device, -, hcommand⟩ := bind_eq_ok.mp hcommand
  obtain ⟨-, -, hcommand⟩ := bind_eq_ok.mp hcommand
  obtain ⟨withdrawn, hwithdraw, hcommand⟩ := bind_eq_ok.mp hcommand
  obtain ⟨revoked, hrevoke, hmanage⟩ := bind_eq_ok.mp hcommand
  exact ((keeps_withdrawLeader hwithdraw).trans (keeps_revokeActivePermits hrevoke)).trans
    (keeps_updateDevices hmanage fun _ => rfl)

theorem keeps_applyOfflineManagementCommand {flags : OfflineFlags} {input : ManagementInput}
    {now : Timestamp}
    (hcommand : applyOfflineManagementCommand scope flags input now db = .ok db') :
    Keeps db db' := by
  obtain ⟨-, -, hcommand⟩ := bind_eq_ok.mp hcommand
  cases hoperation : input.command with
  | updatePolicy update =>
      simp only [hoperation] at hcommand
      split at hcommand
      · exact keeps_assignLeader hcommand
      · exact keeps_disablePolicy hcommand
  | updateDevice deviceId action =>
      simp only [hoperation] at hcommand
      exact keeps_updateDevice hcommand

end Operations

/-! ## The context of an upload -/

/-- The context that the rows of the permit and of the device give a request. -/
def contextOf (request : SyncRequest) (signed : OfflinePermitPayload) (permit : OfflinePermit)
    (device : ClientDevice) (promotionEpoch : ℕ) : SharedSyncContext where
  organizationId := request.organizationId
  stallId := request.stallId
  actor := request.actor
  clientSentAt := request.clientSentAt
  permit := signed
  permitRecord := {
    status := permit.status
    issuedAt := permit.issuedAt
    expiresAt := permit.expiresAt
    revokedAt := permit.revokedAt }
  device := { id := device.id, status := device.status, revokedAt := device.revokedAt }
  promotionEpoch := promotionEpoch

/-- What a request has passed when its context is resolved. -/
structure Resolved (codec : TokenCodec) (db : DeviceDb) (request : SyncRequest)
    (now : Timestamp) (signed : OfflinePermitPayload) (runtime : BackendRuntimeState)
    (permit : OfflinePermit) (device : ClientDevice) : Prop where
  verified : verifyOfflinePermit codec.signatureFor request.permitToken now true = some signed
  inScope : signed.organizationId = request.organizationId ∧ signed.stallId = request.stallId
    ∧ signed.profileId = request.actor.profileId
  writable : db.runtime.find? (·.isWritable) = some runtime
  permit : (permit ∈ db.permits ∧ permit.id = signed.permitId)
    ∧ permitMatches codec request signed permit = true
  device : (device ∈ db.clientDevices ∧ device.organizationId = request.organizationId
      ∧ device.installationId = request.installationId)
    ∧ deviceMatches request signed device = true
  allowed : .createOfflineOrder ∈ signed.allowedOfflineActions

theorem permit_findFirst_iff {db : DeviceDb} {permitId : Uuid} {permit : OfflinePermit} :
    db.permits.findFirst (fun row => row.id = permitId) = some permit ↔
      permit ∈ db.permits ∧ permit.id = permitId := by
  constructor
  · intro hfound
    obtain ⟨hmem, hid⟩ := CheckedTable.mem_of_findFirst hfound
    exact ⟨hmem, of_decide_eq_true hid⟩
  · rintro ⟨hmem, hid⟩
    cases hfound : db.permits.findFirst (fun row => row.id = permitId) with
    | none =>
        have hmissed := List.find?_eq_none.mp hfound permit hmem
        exact absurd (decide_eq_true hid) hmissed
    | some found =>
        obtain ⟨hfoundMem, hfoundId⟩ := CheckedTable.mem_of_findFirst hfound
        exact congrArg some (CheckedTable.eq_of_key_eq hfoundMem hmem
          ((of_decide_eq_true hfoundId).trans hid.symm))

theorem deviceOfInstallation_iff {db : DeviceDb} {organizationId installationId : Uuid}
    {device : ClientDevice} :
    deviceOfInstallation db organizationId installationId = some device ↔
      device ∈ db.clientDevices ∧ device.organizationId = organizationId
        ∧ device.installationId = installationId := by
  constructor
  · intro hfound
    obtain ⟨hmem, hwanted⟩ := CheckedTable.mem_of_findFirst hfound
    simp only [Bool.and_eq_true, decide_eq_true_eq] at hwanted
    exact ⟨hmem, hwanted⟩
  · rintro ⟨hmem, horganization, hinstallation⟩
    cases hfound : deviceOfInstallation db organizationId installationId with
    | none =>
        have hmissed := List.find?_eq_none.mp hfound device hmem
        simp [horganization, hinstallation] at hmissed
    | some found =>
        obtain ⟨hfoundMem, hwanted⟩ := CheckedTable.mem_of_findFirst hfound
        simp only [Bool.and_eq_true, decide_eq_true_eq] at hwanted
        exact congrArg some (CheckedTable.eq_of_collides hfoundMem hmem
          (by simp [Indexed.collides, hwanted.1, hwanted.2, horganization, hinstallation]))

theorem resolveSharedSyncContext_iff {codec : TokenCodec} {db : DeviceDb}
    {request : SyncRequest} {now : Timestamp} {context : SharedSyncContext} :
    resolveSharedSyncContext codec db request now = .ok context ↔
      ∃ signed runtime permit device,
        Resolved codec db request now signed runtime permit device
        ∧ context = contextOf request signed permit device runtime.promotionEpoch := by
  constructor
  · intro hresolve
    obtain ⟨signed, hsigned, hresolve⟩ := bind_eq_ok.mp hresolve
    obtain ⟨_, hscope, hresolve⟩ := bind_eq_ok.mp hresolve
    obtain ⟨runtime, hruntime, hresolve⟩ := bind_eq_ok.mp hresolve
    obtain ⟨permit, hpermit, hresolve⟩ := bind_eq_ok.mp hresolve
    obtain ⟨_, hmatches, hresolve⟩ := bind_eq_ok.mp hresolve
    obtain ⟨device, hdevice, hresolve⟩ := bind_eq_ok.mp hresolve
    obtain ⟨_, hdeviceMatches, hresolve⟩ := bind_eq_ok.mp hresolve
    obtain ⟨_, hallowed, hreturn⟩ := bind_eq_ok.mp hresolve
    cases hreturn
    have hscope := failWhen_eq_ok.mp hscope
    simp only [Bool.or_eq_false_iff, decide_eq_false_iff_not, ne_eq, not_not] at hscope
    have hallowed := failWhen_eq_ok.mp hallowed
    simp only [decide_eq_false_iff_not, not_not] at hallowed
    have hmatches := failWhen_eq_ok.mp hmatches
    have hdeviceMatches := failWhen_eq_ok.mp hdeviceMatches
    rw [Bool.not_eq_false'] at hmatches hdeviceMatches
    exact ⟨signed, runtime, permit, device, ⟨orFail_eq_ok.mp hsigned,
      ⟨hscope.1.1, hscope.1.2, hscope.2⟩, orFail_eq_ok.mp hruntime,
      ⟨permit_findFirst_iff.mp (orFail_eq_ok.mp hpermit), hmatches⟩,
      ⟨deviceOfInstallation_iff.mp (orFail_eq_ok.mp hdevice), hdeviceMatches⟩, hallowed⟩, rfl⟩
  · rintro ⟨signed, runtime, permit, device, hresolved, rfl⟩
    obtain ⟨horganization, hstall, hprofile⟩ := hresolved.inScope
    simp only [resolveSharedSyncContext, hresolved.verified, orFail_some, bind_ok,
      horganization, hstall, hprofile, ne_eq, not_true_eq_false, decide_false, Bool.or_self,
      failWhen_false, hresolved.writable, permit_findFirst_iff.mpr hresolved.permit.1,
      hresolved.permit.2, Bool.not_true, deviceOfInstallation_iff.mpr hresolved.device.1,
      hresolved.device.2, hresolved.allowed]
    rfl

end Stallorder.DeviceHistory
