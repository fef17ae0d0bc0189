import Stallorder.Server.DeviceHistory
import Stallorder.Server.ImportOutcome

/-!
# Uploading after a revocation

What a sale needs to be taken in after the permit or the device it was made
with was revoked.  The records are judged by the time of the revocation, but
before any record is read the request has to come from the enabled leader of
the stall, and a revoked, lost or disabled device has lost that role.
-/

namespace Stallorder.Revocation

open OrderContract Permit DeviceDatabase DeviceService SyncDatabase SyncReplay OrderImport
  SyncService ImportOutcome DeviceHistory Checks Run

variable {Hash : Type} {platform : Platform Hash} {db : ServerDb Hash}
  {context : SharedSyncContext} {answers : ImportAnswers}

/-! ## The context after a revocation -/

/-- The context with what a revocation writes to the rows of the permit and of
the device. -/
def revokedContext (context : SharedSyncContext) (permit : OfflinePermit)
    (device : ClientDevice) : SharedSyncContext :=
  { context with
    permitRecord := { context.permitRecord with
      status := permit.status
      revokedAt := permit.revokedAt }
    device := { context.device with
      status := device.status
      revokedAt := device.revokedAt } }

theorem contextOf_revoked {request : SyncRequest} {signed : OfflinePermitPayload}
    {permit permit' : OfflinePermit} {device device' : ClientDevice} {promotionEpoch : ℕ}
    (hpermit : SamePermit permit permit') (hdevice : SameDevice device device') :
    contextOf request signed permit' device' promotionEpoch
      = revokedContext (contextOf request signed permit device promotionEpoch) permit' device' := by
  unfold SamePermit at hpermit
  unfold SameDevice at hdevice
  rw [hpermit, hdevice]
  rfl

theorem permitMatches_revoked {codec : TokenCodec} {request : SyncRequest}
    {signed : OfflinePermitPayload} {permit permit' : OfflinePermit}
    (hpermit : SamePermit permit permit') :
    permitMatches codec request signed permit' = permitMatches codec request signed permit := by
  unfold SamePermit at hpermit
  rw [hpermit]
  rfl

/-- A device that matched still matches exactly while it is the enabled leader. -/
theorem deviceMatches_revoked {request : SyncRequest} {signed : OfflinePermitPayload}
    {device device' : ClientDevice} (hdevice : SameDevice device device')
    (hmatches : deviceMatches request signed device = true) :
    deviceMatches request signed device' = true ↔
      device'.offlineRole = .offlineLeader ∧ device'.offlineEnabled = true := by
  unfold SameDevice at hdevice
  simp only [deviceMatches, Bool.and_eq_true, decide_eq_true_eq] at hmatches ⊢
  obtain ⟨⟨⟨⟨⟨hid, horganization⟩, hstall⟩, hprofile⟩, -⟩, -⟩ := hmatches
  rw [hdevice]
  simp [hid, horganization, hstall, hprofile]

/-- Whatever the device service did meanwhile, a request that was let through
is let through exactly while its device is the enabled leader. -/
theorem resolve_after {before after : DeviceDb} {codec : TokenCodec} {request : SyncRequest}
    {now : Timestamp} {context' : SharedSyncContext} {permit' : OfflinePermit}
    {device' : ClientDevice} (hkeeps : Keeps before after)
    (hresolve : resolveSharedSyncContext codec before request now = .ok context)
    (hpermit : permit' ∈ after.permits) (hpermitId : permit'.id = context.permit.permitId)
    (hdevice : device' ∈ after.clientDevices) (hdeviceId : device'.id = context.device.id) :
    resolveSharedSyncContext codec after request now = .ok context' ↔
      (device'.offlineRole = .offlineLeader ∧ device'.offlineEnabled = true)
        ∧ context' = revokedContext context permit' device' := by
  obtain ⟨signed, runtime, permit, device, hresolved, rfl⟩ :=
    resolveSharedSyncContext_iff.mp hresolve
  obtain ⟨keptPermit, hkeptPermit, hsamePermit⟩ :=
    hkeeps.permits permit hresolved.permit.1.1
  obtain ⟨keptDevice, hkeptDevice, hsameDevice⟩ :=
    hkeeps.devices device hresolved.device.1.1
  obtain ⟨hsameId, hsameOrganization, hsameInstallation⟩ := hsameDevice.installation
  have hpermitEq : keptPermit = permit' := CheckedTable.eq_of_key_eq hkeptPermit hpermit
    ((hsamePermit.id.trans hresolved.permit.1.2).trans hpermitId.symm)
  have hdeviceEq : keptDevice = device' := CheckedTable.eq_of_key_eq hkeptDevice hdevice
    (hsameId.trans hdeviceId.symm)
  subst hpermitEq hdeviceEq
  constructor
  · intro hafter
    obtain ⟨signed', runtime', permit', device', hresolved', rfl⟩ :=
      resolveSharedSyncContext_iff.mp hafter
    have hsigned : signed' = signed :=
      Option.some.inj (hresolved'.verified.symm.trans hresolved.verified)
    subst hsigned
    have hruntime : runtime' = runtime := by
      have hwritable := hresolved'.writable
      rw [hkeeps.runtime, hresolved.writable] at hwritable
      exact (Option.some.inj hwritable).symm
    have hpermitFound : permit' = keptPermit :=
      CheckedTable.eq_of_key_eq hresolved'.permit.1.1 hkeptPermit
        (hresolved'.permit.1.2.trans hpermitId.symm)
    have hinstallation : Indexed.collides device' keptDevice = true := by
      simp only [Indexed.collides, Bool.or_eq_true, Bool.and_eq_true, decide_eq_true_eq]
      refine Or.inl (Or.inr ⟨?_, ?_⟩)
      · rw [hsameOrganization, hresolved'.device.1.2.1, hresolved.device.1.2.1]
      · rw [hsameInstallation, hresolved'.device.1.2.2, hresolved.device.1.2.2]
    have hdeviceFound : device' = keptDevice :=
      CheckedTable.eq_of_collides hresolved'.device.1.1 hkeptDevice hinstallation
    subst hruntime hpermitFound hdeviceFound
    exact ⟨(deviceMatches_revoked hsameDevice hresolved.device.2).mp hresolved'.device.2,
      contextOf_revoked hsamePermit hsameDevice⟩
  · rintro ⟨hleader, rfl⟩
    refine resolveSharedSyncContext_iff.mpr ⟨signed, runtime, keptPermit, keptDevice, ?_,
      (contextOf_revoked hsamePermit hsameDevice).symm⟩
    exact {
      verified := hresolved.verified
      inScope := hresolved.inScope
      writable := by
        rw [hkeeps.runtime]
        exact hresolved.writable
      permit := ⟨⟨hpermit, hpermitId⟩,
        (permitMatches_revoked hsamePermit).trans hresolved.permit.2⟩
      device := ⟨⟨hdevice, hsameOrganization.trans hresolved.device.1.2.1,
        hsameInstallation.trans hresolved.device.1.2.2⟩,
        (deviceMatches_revoked hsameDevice hresolved.device.2).mpr hleader⟩
      allowed := hresolved.allowed }

/-! ## The import of a revoked record -/

/-- The identifiers drawn for conflicts are fresh. -/
structure FreshConflicts (conflicts : Table SyncConflict) (answers : ImportAnswers) : Prop where
  unused : ∀ type, ∀ conflict ∈ conflicts, conflict.id ≠ answers.conflictIds type
  distinct : ∀ left right, answers.conflictIds left = answers.conflictIds right → left = right

/-- A fresh conflict is found or stored; either way it keeps its type. -/
theorem findOrCreateConflict_of_fresh {base conflicts : Table SyncConflict}
    (hfresh : FreshConflicts base answers) {order : OfflineOrder} {orderId : Uuid}
    (hconflicts : ∀ conflict ∈ conflicts, conflict ∈ base
      ∨ ∃ type, conflict = orderConflict context answers order orderId type)
    (type : OfflineSyncConflictType) :
    ∃ created conflict, findOrCreateConflict conflicts
        (orderConflict context answers order orderId type) = some (created, conflict)
      ∧ conflict.conflictType = type
      ∧ ∀ stored ∈ created, stored ∈ base
        ∨ ∃ type, stored = orderConflict context answers order orderId type := by
  cases hfound : conflicts.rows.find? fun conflict =>
      sameConflict conflict (orderConflict context answers order orderId type) with
  | some existing =>
      have hsame := List.find?_some hfound
      simp only [sameConflict, Bool.and_eq_true, decide_eq_true_eq] at hsame
      refine ⟨conflicts, existing, ?_, hsame.2, hconflicts⟩
      unfold findOrCreateConflict
      rw [hfound]
  | none =>
      have hfree : ∀ stored ∈ conflicts, ¬ Indexed.collides stored
          (orderConflict context answers order orderId type) := by
        intro stored hstored hcollides
        have hdifferent := List.find?_eq_none.mp hfound stored hstored
        simp only [Indexed.collides, Bool.or_eq_true, decide_eq_true_eq] at hcollides
        rcases hcollides with hid | hsame
        · rcases hconflicts stored hstored with hbase | ⟨other, rfl⟩
          · exact hfresh.unused type stored hbase hid
          · have hother : other = type := hfresh.distinct other type hid
            subst hother
            simp [sameConflict] at hdifferent
        · exact hdifferent hsame
      obtain ⟨created, hinsert⟩ := Table.exists_insert? hfree
      refine ⟨created, orderConflict context answers order orderId type, ?_, rfl, ?_⟩
      · unfold findOrCreateConflict
        rw [hfound, hinsert]
        rfl
      · intro stored hstored
        rcases (Table.mem_of_insert? hinsert).mp hstored with hold | rfl
        · exact hconflicts stored hold
        · exact Or.inr ⟨type, rfl⟩

theorem createConflicts_of_fresh {base : Table SyncConflict} (context : SharedSyncContext)
    (order : OfflineOrder) (orderId : Uuid) (hfresh : FreshConflicts base answers)
    (types : List OfflineSyncConflictType) {conflicts : Table SyncConflict}
    (hconflicts : ∀ conflict ∈ conflicts, conflict ∈ base
      ∨ ∃ type, conflict = orderConflict context answers order orderId type) :
    ∃ all created, createConflicts conflicts
        (types.map (orderConflict context answers order orderId)) = some (all, created)
      ∧ created.map (·.conflictType) = types := by
  induction types generalizing conflicts with
  | nil => exact ⟨conflicts, [], rfl, rfl⟩
  | cons type types ih =>
      obtain ⟨next, conflict, hcreate, htype, hnext⟩ :=
        findOrCreateConflict_of_fresh hfresh hconflicts type
      obtain ⟨all, created, hrest, htypes⟩ := ih hnext
      refine ⟨all, conflict :: created, ?_, by rw [List.map_cons, htype, htypes]⟩
      simp [createConflicts, hcreate, hrest]

/-- The row that an order is found by: its snapshot does not change while the
device service works. -/
theorem loadSnapshot_after {after : DeviceDb} {order : OfflineOrder} {snapshot : MenuSnapshot}
    (hkeeps : Keeps db.devices after) (hload : loadSnapshot db context order = .ok snapshot)
    (permit : OfflinePermit) (device : ClientDevice) :
    loadSnapshot { db with devices := after } (revokedContext context permit device) order
      = .ok snapshot := by
  obtain ⟨found, hfound, hload⟩ := bind_eq_ok.mp hload
  have hfound := orFail_eq_ok.mp hfound
  have hkept := hkeeps.snapshots found (List.mem_of_find?_eq_some hfound)
  have hwanted := List.find?_some hfound
  have hafter : after.menuSnapshots.rows.find? (fun snapshot =>
      snapshot.organizationId = context.organizationId
        && snapshot.stallId = context.stallId
        && snapshot.version = order.menuSnapshotVersion) = some found := by
    cases hsearch : after.menuSnapshots.rows.find? (fun snapshot =>
        snapshot.organizationId = context.organizationId
          && snapshot.stallId = context.stallId
          && snapshot.version = order.menuSnapshotVersion) with
    | none => exact absurd hwanted (List.find?_eq_none.mp hsearch found hkept)
    | some other =>
        have hother := List.find?_some hsearch
        simp only [Bool.and_eq_true, decide_eq_true_eq] at hwanted hother
        exact congrArg some (Table.eq_of_collides (List.mem_of_find?_eq_some hsearch) hkept (by
          simp [Indexed.collides, hwanted.1.2, hwanted.2, hother.1.2, hother.2]))
  refine bind_eq_ok.mpr ⟨found, orFail_eq_ok.mpr hafter, ?_⟩
  exact hload

/-- The plan of an import differs after a revocation in its conflicts only. -/
theorem planImport_after {after : DeviceDb} {record : OfflineOrderSyncRecord}
    {order : OfflineOrder} {scope : RecordScope} {plan : ImportPlan}
    (hkeeps : Keeps db.devices after)
    (hplan : planImport db context answers record order scope = .ok plan)
    (permit : OfflinePermit) (device : ClientDevice) :
    ∃ conflicts, planImport { db with devices := after } (revokedContext context permit device)
        answers record order scope = .ok { plan with conflicts }
      ∧ (isRevoked (revokedContext context permit device) = true →
        .deviceRevoked ∈ conflicts) := by
  obtain ⟨snapshot, hload, hplan⟩ := bind_eq_ok.mp hplan
  obtain ⟨prepared, hprepared, hplan⟩ := bind_eq_ok.mp hplan
  obtain ⟨_, havailable, hplan⟩ := bind_eq_ok.mp hplan
  obtain ⟨_, hlimits, hplan⟩ := bind_eq_ok.mp hplan
  obtain ⟨⟨payment, paymentConflicts⟩, hpayment, hplan⟩ := bind_eq_ok.mp hplan
  obtain ⟨⟨printJobs, printConflicts⟩, hprint, hreturn⟩ := bind_eq_ok.mp hplan
  cases hreturn
  refine ⟨_, bind_eq_ok.mpr ⟨snapshot, loadSnapshot_after hkeeps hload permit device,
    bind_eq_ok.mpr ⟨prepared, hprepared, bind_eq_ok.mpr ⟨_, havailable,
      bind_eq_ok.mpr ⟨_, hlimits, bind_eq_ok.mpr ⟨(payment, paymentConflicts), hpayment,
        bind_eq_ok.mpr ⟨(printJobs, printConflicts), hprint, rfl⟩⟩⟩⟩⟩⟩, fun hrevoked => ?_⟩
  rw [List.mem_eraseDups]
  simp [contextConflicts, hrevoked]

/-- What can be stored can be stored with other conflicts as well. -/
theorem storeImport_after (after : DeviceDb) {record : OfflineOrderSyncRecord}
    {order : OfflineOrder} {scope : RecordScope} {plan : ImportPlan} {day : BusinessDate}
    {stored : ServerDb Hash × OfflineSyncReceipt}
    (hfresh : FreshConflicts db.conflicts answers)
    (hstore : storeImport platform db context answers record order scope plan day = some stored)
    (conflicts : List OfflineSyncConflictType) (permit : OfflinePermit) (device : ClientDevice) :
    ∃ db' receipt, storeImport platform { db with devices := after }
        (revokedContext context permit device) answers record order scope
        { plan with conflicts } day = some (db', receipt)
      ∧ receipt.outcome = acceptedOutcome conflicts
      ∧ receipt.conflicts.map (·.type) = conflicts := by
  simp only [storeImport, Option.bind_eq_bind, Option.bind_eq_some_iff] at hstore
  obtain ⟨orders, horders, receipts, hreceipts, created, -, inbox, hinbox, -⟩ := hstore
  simp only [insertOrder?, Option.bind_eq_bind, Option.bind_eq_some_iff,
    Option.guard_eq_some'] at horders
  obtain ⟨-, hjobs, horders⟩ := horders
  obtain ⟨newOrders, hnewOrders⟩ := Table.exists_insert?_of_insert? horders
    (canonicalOrder platform (revokedContext context permit device) answers record
      order scope { plan with conflicts } (drawOrderNumber db context.stallId day).2)
    fun _ => rfl
  obtain ⟨newReceipts, hnewReceipts⟩ := Table.exists_insert?_of_insert? hreceipts
    (receiptRow (revokedContext context permit device) answers order answers.orderId
      (drawOrderNumber db context.stallId day).2 (acceptedOutcome conflicts))
    fun _ => rfl
  obtain ⟨all, found, hconflicts, htypes⟩ := createConflicts_of_fresh
    (revokedContext context permit device) order answers.orderId hfresh conflicts
    fun conflict hconflict => Or.inl hconflict
  refine ⟨{ db with
      devices := after
      counters := (drawOrderNumber db context.stallId day).1
      orders := newOrders
      receipts := newReceipts
      conflicts := all
      inbox := inbox }, orderReceipt record order (acceptedOutcome conflicts)
    (some (answers.orderId, (drawOrderNumber db context.stallId day).2))
    answers.serverReceivedAt (found.map responseConflict) none, ?_, rfl, ?_⟩
  · simp only [storeImport, insertOrder?, Option.bind_eq_bind, Option.bind_eq_some_iff,
      Option.guard_eq_some']
    exact ⟨newOrders, ⟨(), hjobs, hnewOrders⟩, newReceipts, hnewReceipts, (all, found),
      hconflicts, inbox, hinbox, rfl⟩
  · change (found.map responseConflict).map (·.type) = conflicts
    rw [List.map_map]
    exact htypes

section Import

variable [DecidableEq Hash]

/-- An accepted import has admitted a record that was never seen before. -/
theorem importFresh_of_accepted {record : OfflineOrderSyncRecord}
    {db' : ServerDb Hash} {receipt : OfflineSyncReceipt}
    (himport : importOfflineOrder platform db context answers record = .ok (db', receipt))
    (haccepted : receipt.outcome = .accepted ∨ receipt.outcome = .acceptedWithConflict) :
    ∃ order scope, Admitted context record answers.scopeAt order scope
      ∧ findReplay platform db context record order = .ok .fresh
      ∧ importFresh platform db context answers record order scope = .ok (db', receipt) := by
  obtain ⟨⟨order, scope⟩, hadmit, himport⟩ := bind_eq_ok.mp himport
  obtain ⟨replay, hreplay, himport⟩ := bind_eq_ok.mp himport
  refine ⟨order, scope, admitted_iff.mp hadmit, ?_⟩
  cases replay with
  | rejected code =>
      cases himport
      simp [orderReceipt] at haccepted
  | duplicate stored =>
      cases himport
      simp [orderReceipt] at haccepted
  | orphaned existing =>
      have hreconcile := orFail_eq_ok.mp himport
      simp only [reconcileOrphaned, Option.bind_eq_bind, Option.bind_eq_some_iff] at hreconcile
      obtain ⟨receipts, -, inbox, -, hreturn⟩ := hreconcile
      cases hreturn
      simp [orderReceipt] at haccepted
  | fresh => exact ⟨hreplay, himport⟩

/-- A record that was accepted before a revocation, and was created before it,
is accepted after it with a conflict. -/
theorem importOfflineOrder_after {after : DeviceDb} {record : OfflineOrderSyncRecord}
    {db' : ServerDb Hash} {receipt : OfflineSyncReceipt} {permit : OfflinePermit}
    {device : ClientDevice} {revokedAt : Timestamp}
    (hkeeps : Keeps db.devices after)
    (himport : importOfflineOrder platform db context answers record = .ok (db', receipt))
    (haccepted : receipt.outcome = .accepted ∨ receipt.outcome = .acceptedWithConflict)
    (hfresh : FreshConflicts db.conflicts answers)
    (hrevoked : permit.status = .revoked ∨ device.status ≠ .active)
    (htime : permit.revokedAt.or device.revokedAt = some revokedAt)
    (hearlier : adjustedDeviceTime record.order.createdAtDevice
      (answers.scopeAt - context.clientSentAt) < revokedAt) :
    ∃ db'' receipt', importOfflineOrder platform { db with devices := after }
        (revokedContext context permit device) answers record = .ok (db'', receipt')
      ∧ receipt'.outcome = .acceptedWithConflict
      ∧ .deviceRevoked ∈ receipt'.conflicts.map (·.type) := by
  obtain ⟨order, scope, hadmitted, hreplay, hfreshImport⟩ :=
    importFresh_of_accepted himport haccepted
  obtain ⟨plan, hplan, hfreshImport⟩ := bind_eq_ok.mp hfreshImport
  obtain ⟨day, hday, hstore⟩ := bind_eq_ok.mp hfreshImport
  obtain ⟨conflicts, hplanAfter, hmem⟩ := planImport_after hkeeps hplan permit device
  obtain ⟨stored, receipt', hstoreAfter, houtcome, htypes⟩ :=
    storeImport_after after hfresh (orFail_eq_ok.mp hstore) conflicts permit device
  have hisRevoked : isRevoked (revokedContext context permit device) = true := by
    rcases hrevoked with hpermit | hdevice
    · simp [isRevoked, revokedContext, hpermit]
    · simp [isRevoked, revokedContext, hdevice]
  have hdeviceRevoked := hmem hisRevoked
  have hcreated : order.createdAtDevice = record.order.createdAtDevice := by
    rw [← (offlineOrderSchema.parse_eq_some_iff.mp hadmitted.parsed).2]
    rfl
  have hscope : scope.occurredAt = adjustedDeviceTime record.order.createdAtDevice
      (answers.scopeAt - context.clientSentAt) := by
    obtain ⟨_, -, hinScope⟩ := bind_eq_ok.mp hadmitted.inScope
    obtain ⟨_, -, hinScope⟩ := bind_eq_ok.mp hinScope
    obtain ⟨_, -, hinScope⟩ := bind_eq_ok.mp hinScope
    obtain ⟨_, -, hinScope⟩ := bind_eq_ok.mp hinScope
    cases hinScope
    rw [← hcreated]
    rfl
  have hadmittedAfter : Admitted (revokedContext context permit device) record answers.scopeAt
      order scope := by
    refine ⟨hadmitted.parsed, hadmitted.inScope, hadmitted.menuAndChain,
      hadmitted.eventWindow, failWhen_eq_ok.mpr ?_⟩
    have hrevocation : revocationTime (revokedContext context permit device) = some revokedAt :=
      htime
    rw [hrevocation, Option.all_some, hscope, decide_eq_false (not_le.mpr hearlier),
      Bool.and_false]
  refine ⟨stored, receipt', ?_, ?_, htypes ▸ hdeviceRevoked⟩
  · refine bind_eq_ok.mpr ⟨(order, scope), admitted_iff.mpr hadmittedAfter, ?_⟩
    refine bind_eq_ok.mpr ⟨.fresh, hreplay, ?_⟩
    refine bind_eq_ok.mpr ⟨_, hplanAfter, bind_eq_ok.mpr ⟨day, hday, ?_⟩⟩
    exact orFail_eq_ok.mpr hstoreAfter
  · rw [houtcome, acceptedOutcome, if_neg (List.ne_nil_of_mem hdeviceRevoked)]

/-! ## Uploading after management commands -/

/-- A management command with what it reads of its moment. -/
structure ManagementCall where
  scope : ScopeTables
  flags : OfflineFlags
  input : ManagementInput
  now : Timestamp

/-- A refused command changes nothing. -/
def manage (devices : DeviceDb) (call : ManagementCall) : DeviceDb :=
  match applyOfflineManagementCommand call.scope call.flags call.input call.now devices with
  | .ok changed => changed
  | .error _ => devices

omit [DecidableEq Hash] in
theorem keeps_manage (devices : DeviceDb) (calls : List ManagementCall) :
    Keeps devices (exec manage devices calls) :=
  invariant_exec (Keeps devices)
    (fun reached call hkeeps => by
      unfold manage
      split
      · next hcommand => exact hkeeps.trans (keeps_applyOfflineManagementCommand hcommand)
      · exact hkeeps)
    (Keeps.refl devices) calls

variable (platform) in
/-- The upload of the record reaches its import and is accepted with the
conflict of a revocation. -/
def AcceptedAsRevoked (db : ServerDb Hash) (request : SyncRequest) (now : Timestamp)
    (answers : ImportAnswers) (record : OfflineOrderSyncRecord) : Prop :=
  ∃ context db' receipt,
    resolveSharedSyncContext platform.codec db.devices request now = .ok context
      ∧ importOfflineOrder platform db context answers record = .ok (db', receipt)
      ∧ receipt.outcome = .acceptedWithConflict
      ∧ .deviceRevoked ∈ receipt.conflicts.map (·.type)

/-- An order that would have been accepted before the management commands, and
was created before the revocation they brought, is accepted after them if and
only if its device is the enabled leader again. -/
theorem accepted_after_revocation_iff (calls : List ManagementCall) {request : SyncRequest}
    {now : Timestamp} {record : OfflineOrderSyncRecord} {db' : ServerDb Hash}
    {receipt : OfflineSyncReceipt} {permit : OfflinePermit} {device : ClientDevice}
    {revokedAt : Timestamp}
    (hresolve : resolveSharedSyncContext platform.codec db.devices request now = .ok context)
    (himport : importOfflineOrder platform db context answers record = .ok (db', receipt))
    (haccepted : receipt.outcome = .accepted ∨ receipt.outcome = .acceptedWithConflict)
    (hfresh : FreshConflicts db.conflicts answers)
    (hpermit : permit ∈ (exec manage db.devices calls).permits)
    (hpermitId : permit.id = context.permit.permitId)
    (hdevice : device ∈ (exec manage db.devices calls).clientDevices)
    (hdeviceId : device.id = context.device.id)
    (hrevoked : permit.status = .revoked ∨ device.status ≠ .active)
    (htime : permit.revokedAt.or device.revokedAt = some revokedAt)
    (hearlier : adjustedDeviceTime record.order.createdAtDevice
      (answers.scopeAt - request.clientSentAt) < revokedAt) :
    AcceptedAsRevoked platform { db with devices := exec manage db.devices calls } request now
        answers record
      ↔ device.offlineRole = .offlineLeader ∧ device.offlineEnabled = true := by
  have hkeeps := keeps_manage db.devices calls
  have hresolved : ∀ reached, resolveSharedSyncContext platform.codec
      (exec manage db.devices calls) request now = .ok reached ↔ _ := fun reached =>
    resolve_after hkeeps hresolve hpermit hpermitId hdevice hdeviceId
  constructor
  · rintro ⟨reached, -, -, hreached, -⟩
    exact ((hresolved reached).mp hreached).1
  · intro hleader
    have hsent : context.clientSentAt = request.clientSentAt := by
      obtain ⟨signed, runtime, permit, device, -, rfl⟩ :=
        resolveSharedSyncContext_iff.mp hresolve
      rfl
    obtain ⟨stored, accepted, himported, houtcome, hconflict⟩ :=
      importOfflineOrder_after hkeeps himport haccepted hfresh hrevoked htime
        (hsent.symm ▸ hearlier)
    exact ⟨revokedContext context permit device, stored, accepted,
      (hresolved _).mpr ⟨hleader, rfl⟩, himported, houtcome, hconflict⟩

end Import

/-! ## The leader of the sample stall -/

open LocalRun

def sampleScope : ScopeTables where
  stallOrganization := fun _ => some 1
  profileInScope := fun _ _ _ => true

def sampleFlags : OfflineFlags where
  offlinePosEnabled := true
  singleDeviceOnly := true
  manualPaymentEnabled := true

def sampleManagement (command : OfflineManagementCommand) (now : Timestamp) :
    ManagementCall where
  scope := sampleScope
  flags := sampleFlags
  input := { organizationId := 1, stallId := 2, command := command }
  now := now

/-- The command that names the sample device the leader of its stall. -/
def nameLeader (now : Timestamp) : ManagementCall :=
  sampleManagement (.updatePolicy {
    offlineEnabled := true
    offlineWriteMode := .singleDeviceOnly
    offlineLeaderDeviceId := some 3
    limits := sampleLimits }) now

def registeredDevices : DeviceDb :=
  (registerOfflineDevice sampleScope sampleFlags
    { organizationId := 1, stallId := 2, profileId := 4, installationId := 6 } 3 sampleDevices
    sampleDevices).toOption.getD sampleDevices

def leaderDevices : DeviceDb :=
  manage registeredDevices (nameLeader 0)

def sampleIssue : IssueBootstrapInput where
  organizationId := 1
  stallId := 2
  profileId := 4
  roles := [.staff]
  installationId := 6
  storageClass := .persistent
  requestedDurationMinutes := 60
  appProtocolVersion := offlineAppProtocolVersion

def sampleSource : SnapshotSource where
  catalog := sampleCatalog
  contentHash := 0
  snapshotId := 500
  generatedAt := 0

def sampleIssueAnswers (permitId : Uuid) (now : Timestamp) : IssueAnswers where
  printEntitled := true
  permitId := permitId
  issuedAt := now
  transactionAt := now

/-- The tables once the leader has fetched its first permit. -/
def permittedDevices : DeviceDb :=
  ((issueOfflineBootstrap sampleScope sampleCodec sampleFlags sampleIssue
    (sampleIssueAnswers 7 0) sampleSource none leaderDevices leaderDevices
    leaderDevices).toOption.map (·.1)).getD leaderDevices

def permittedServer : ServerDb OfflineSyncRecord :=
  { sampleServer with devices := permittedDevices }

/-- The upload of the sample order under its permit. -/
def sampleRequest (now : Timestamp) : SyncRequest where
  organizationId := 1
  stallId := 2
  installationId := 6
  permitToken := { payload := samplePermit 7 0, signature := 0 }
  clientSentAt := now
  actor := { profileId := 4, roles := [.staff] }
  records := [.order sampleRecord]

/-- Every type of conflict has an identifier of its own. -/
def freshAnswers (now : Timestamp) : ImportAnswers :=
  { sampleAnswers 300 now with conflictIds := fun type => 302 + type.ctorIdx }

theorem freshConflicts_sample (now : Timestamp) :
    FreshConflicts permittedServer.conflicts (freshAnswers now) where
  unused _ _ hconflict := absurd hconflict (Table.notMem_empty _)
  distinct left right hid := by
    have hindex : left.ctorIdx = right.ctorIdx := Nat.add_left_cancel hid
    cases left <;> cases right <;> first | rfl | cases hindex

/-- What an import gives, and a default when it fails. -/
def importedOrder (context : SharedSyncContext) (now : Timestamp) :
    ServerDb OfflineSyncRecord × OfflineSyncReceipt :=
  (importOfflineOrder samplePlatform permittedServer context (freshAnswers now)
    sampleRecord).toOption.getD (permittedServer, rejectionReceipt (freshAnswers now)
      (.order sampleRecord) (rejectionConflict context (freshAnswers now) (.order sampleRecord)
        .unknownReference) .scopeInvalid)

/-- The order is uploaded twenty minutes after the permit was issued. -/
theorem resolve_permitted :
    resolveSharedSyncContext samplePlatform.codec permittedServer.devices
      (sampleRequest (20 * minuteMs)) (20 * minuteMs)
        = .ok (sampleSyncContext 3 (20 * minuteMs)) := by
  exact (eq_ok_of_isOk (by decide +kernel) (sampleSyncContext 3 (20 * minuteMs))).trans
    (congrArg Except.ok (by decide +kernel))

theorem import_permitted :
    importOfflineOrder samplePlatform permittedServer (sampleSyncContext 3 (20 * minuteMs))
        (freshAnswers (20 * minuteMs)) sampleRecord
      = .ok (importedOrder (sampleSyncContext 3 (20 * minuteMs)) (20 * minuteMs)) :=
  eq_ok_of_isOk (by decide +kernel) _

/-- A leader that is named again may still upload what it sold before. -/
theorem accepted_after_leader_named_again :
    AcceptedAsRevoked samplePlatform
      { permittedServer with
        devices := exec manage permittedServer.devices [nameLeader (10 * minuteMs)] }
      (sampleRequest (20 * minuteMs)) (20 * minuteMs) (freshAnswers (20 * minuteMs))
      sampleRecord := by
  have hpermits : ∃ permit ∈ (exec manage permittedServer.devices
      [nameLeader (10 * minuteMs)]).permits.table.rows,
      permit.id = 7 ∧ permit.status = .revoked ∧ permit.revokedAt = some (10 * minuteMs) := by
    decide +kernel
  have hdevices : ∃ device ∈ (exec manage permittedServer.devices
      [nameLeader (10 * minuteMs)]).clientDevices.table.rows,
      device.id = 3 ∧ device.offlineRole = .offlineLeader ∧ device.offlineEnabled = true := by
    decide +kernel
  obtain ⟨permit, hpermit, hpermitId, hstatus, hrevokedAt⟩ := hpermits
  obtain ⟨device, hdevice, hdeviceId, hleader⟩ := hdevices
  exact (accepted_after_revocation_iff [nameLeader (10 * minuteMs)] resolve_permitted
    import_permitted (Or.inl (by decide +kernel)) (freshConflicts_sample _) hpermit hpermitId
    hdevice hdeviceId (Or.inl hstatus) (by rw [hrevokedAt]; rfl) (by decide +kernel)).mpr hleader

/-- A device that was revoked after the sale cannot upload it. -/
theorem refused_after_device_revoked :
    ∃ calls : List ManagementCall,
      resolveSharedSyncContext samplePlatform.codec permittedServer.devices
          (sampleRequest (20 * minuteMs)) (20 * minuteMs)
        = .ok (sampleSyncContext 3 (20 * minuteMs))
      ∧ (importedOrder (sampleSyncContext 3 (20 * minuteMs)) (20 * minuteMs)).2.outcome
        = .accepted
      ∧ (∃ permit ∈ (exec manage permittedServer.devices calls).permits,
        permit.id = 7 ∧ permit.status = .revoked
          ∧ permit.revokedAt = some (10 * minuteMs))
      ∧ adjustedDeviceTime sampleRecord.order.createdAtDevice 0 < 10 * minuteMs
      ∧ ¬ AcceptedAsRevoked samplePlatform
        { permittedServer with devices := exec manage permittedServer.devices calls }
        (sampleRequest (20 * minuteMs)) (20 * minuteMs) (freshAnswers (20 * minuteMs))
        sampleRecord := by
  refine ⟨[sampleManagement (.updateDevice 3 .revoke) (10 * minuteMs)], resolve_permitted,
    by decide +kernel, ?_, by decide +kernel, ?_⟩
  · show ∃ permit ∈ (exec manage permittedServer.devices
      [sampleManagement (.updateDevice 3 .revoke) (10 * minuteMs)]).permits.table.rows, _
    decide +kernel
  · rintro ⟨context, -, -, hresolve, -⟩
    have hrefused : (resolveSharedSyncContext samplePlatform.codec
        (exec manage permittedServer.devices
          [sampleManagement (.updateDevice 3 .revoke) (10 * minuteMs)])
        (sampleRequest (20 * minuteMs)) (20 * minuteMs)).isOk = false := by decide +kernel
    rw [hresolve] at hrefused
    cases hrefused

end Stallorder.Revocation
