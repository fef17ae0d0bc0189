import Stallorder.Server.DeviceService

/-!
# The risk limits of a permit

A permit is issued with the limits of the policy, each cut off at what its
storage class may have.  The cut off limits still stand in the relations that the
schema of the permit asks for, no limit is looser than that of the policy, and a
stricter policy or a shorter duration never loosens one.
-/

namespace Stallorder.RiskLimits

open OrderContract Permit Catalog DeviceDatabase DeviceService

/-- The limits that a policy may be saved with. -/
def offlineLimitsSchema (limits : OfflineRuntimeLimits) : Bool :=
  riskLimitsSchema (9_999_999_999 / 100) limits
    && limits.maxSingleOrderAmount ≤ limits.maxTotalAmount
    && limits.maxManualPaymentAmount ≤ limits.maxSingleOrderAmount
    && limits.maxTotalManualPaymentAmount ≤ limits.maxTotalAmount
    && limits.requireCustomerContactAboveAmount ≤ limits.maxManualPaymentAmount
    && limits.managerApprovalThreshold ≤ limits.maxManualPaymentAmount

/-- Every limit is at most the one it is compared with. -/
structure Within (limits bounds : OfflineRuntimeLimits) : Prop where
  duration : limits.maxOfflineDurationMinutes ≤ bounds.maxOfflineDurationMinutes
  pendingOrders : limits.maxPendingOrders ≤ bounds.maxPendingOrders
  totalAmount : limits.maxTotalAmount ≤ bounds.maxTotalAmount
  singleOrderAmount : limits.maxSingleOrderAmount ≤ bounds.maxSingleOrderAmount
  manualPaymentAmount : limits.maxManualPaymentAmount ≤ bounds.maxManualPaymentAmount
  totalManualPaymentAmount :
    limits.maxTotalManualPaymentAmount ≤ bounds.maxTotalManualPaymentAmount
  customerContact :
    limits.requireCustomerContactAboveAmount ≤ bounds.requireCustomerContactAboveAmount
  managerApproval : limits.managerApprovalThreshold ≤ bounds.managerApprovalThreshold

/-- No threshold for manual payments is zero where that of the policy is not. -/
structure KeepsThresholds (policy limits : OfflineRuntimeLimits) : Prop where
  manualPaymentAmount :
    policy.maxManualPaymentAmount ≠ 0 → limits.maxManualPaymentAmount ≠ 0
  totalManualPaymentAmount :
    policy.maxTotalManualPaymentAmount ≠ 0 → limits.maxTotalManualPaymentAmount ≠ 0
  customerContact : policy.requireCustomerContactAboveAmount ≠ 0 →
    limits.requireCustomerContactAboveAmount ≠ 0
  managerApproval : policy.managerApprovalThreshold ≠ 0 → limits.managerApprovalThreshold ≠ 0

/-! ## What the schemas ask for -/

/-- The ranges and the relations of valid limits. -/
@[mk_iff]
structure ValidLimits (limits : OfflineRuntimeLimits) : Prop where
  duration : 15 ≤ limits.maxOfflineDurationMinutes ∧ limits.maxOfflineDurationMinutes ≤ 720
  pendingOrders : 1 ≤ limits.maxPendingOrders ∧ limits.maxPendingOrders ≤ 500
  totalAmount : 0 ≤ limits.maxTotalAmount ∧ limits.maxTotalAmount ≤ 9_999_999_999 / 100
  singleOrderAmount :
    0 ≤ limits.maxSingleOrderAmount ∧ limits.maxSingleOrderAmount ≤ 9_999_999_999 / 100
  manualPaymentAmount :
    0 ≤ limits.maxManualPaymentAmount ∧ limits.maxManualPaymentAmount ≤ 100_000_000
  totalManualPaymentAmount :
    0 ≤ limits.maxTotalManualPaymentAmount ∧ limits.maxTotalManualPaymentAmount ≤ 100_000_000
  customerContact : 0 ≤ limits.requireCustomerContactAboveAmount
    ∧ limits.requireCustomerContactAboveAmount ≤ 100_000_000
  managerApproval :
    0 ≤ limits.managerApprovalThreshold ∧ limits.managerApprovalThreshold ≤ 100_000_000
  single_le_total : limits.maxSingleOrderAmount ≤ limits.maxTotalAmount
  manual_le_single : (limits.maxManualPaymentAmount : ℚ) ≤ limits.maxSingleOrderAmount
  totalManual_le_total : (limits.maxTotalManualPaymentAmount : ℚ) ≤ limits.maxTotalAmount
  contact_le_manual :
    limits.requireCustomerContactAboveAmount ≤ limits.maxManualPaymentAmount
  approval_le_manual : limits.managerApprovalThreshold ≤ limits.maxManualPaymentAmount

theorem offlineLimitsSchema_iff {limits : OfflineRuntimeLimits} :
    offlineLimitsSchema limits = true ↔ ValidLimits limits := by
  simp only [offlineLimitsSchema, riskLimitsSchema, money, Bool.and_eq_true, decide_eq_true_eq,
    validLimits_iff, and_assoc]

/-- What a permit says besides its lifetime and its limits. -/
structure PermitHead (payload : OfflinePermitPayload) : Prop where
  roles : 1 ≤ payload.roles.length ∧ payload.roles.length ≤ 5
  rolesAllowed : ∀ role ∈ payload.roles, role ∈ permitRoles
  actions :
    1 ≤ payload.allowedOfflineActions.length ∧ payload.allowedOfflineActions.length ≤ 3
  menuSnapshotVersion : 0 < payload.menuSnapshotVersion
  promotionEpoch : 1 ≤ payload.promotionEpoch
  appProtocolVersion : payload.appProtocolVersion = offlineAppProtocolVersion
  storageClass : payload.storageClass = .persistent ∨ payload.storageClass = .bestEffort

theorem offlinePermitPayloadSchema_iff {payload : OfflinePermitPayload} :
    offlinePermitPayloadSchema payload = true ↔
      PermitHead payload
        ∧ (payload.issuedAt < payload.expiresAt
          ∧ payload.expiresAt - payload.issuedAt ≤ 12 * 60 * 60 * 1000)
        ∧ ValidLimits payload.riskLimits := by
  rw [← offlineLimitsSchema_iff]
  simp only [offlinePermitPayloadSchema, offlineLimitsSchema, Bool.and_eq_true,
    decide_eq_true_eq, Bool.or_eq_true, List.all_eq_true]
  constructor
  · intro hschema
    exact ⟨by constructor <;> tauto, by tauto, by tauto⟩
  · rintro ⟨⟨hroles, hallowed, hactions, hversion, hepoch, hprotocol, hclass⟩, hlifetime, hlimits⟩
    tauto

/-! ## Cutting limits off -/

section Cutting

theorem cast_min_le_min {amount cap : ℤ} {bound capBound : ℚ} (hamount : (amount : ℚ) ≤ bound)
    (hcap : (amount : ℚ) ≤ capBound ∨ (cap : ℚ) ≤ capBound) :
    ((min amount cap : ℤ) : ℚ) ≤ min bound capBound := by
  rw [Int.cast_min]
  apply le_min
  · exact (min_le_left _ _).trans hamount
  · rcases hcap with hamount' | hcap
    · exact (min_le_left _ _).trans hamount'
    · exact (min_le_right _ _).trans hcap

variable {policy policy' : OfflineRuntimeLimits} {storageClass : OfflineStorageClass}
  {requested requested' : ℤ}

theorem bounded_persistent (policy : OfflineRuntimeLimits) (requested : ℤ) :
    boundedOfflineRiskLimits policy .persistent requested = {
      maxOfflineDurationMinutes := min policy.maxOfflineDurationMinutes (min requested 720)
      maxPendingOrders := min policy.maxPendingOrders 500
      maxTotalAmount := min policy.maxTotalAmount (9_999_999_999 / 100)
      maxSingleOrderAmount := min policy.maxSingleOrderAmount (9_999_999_999 / 100)
      maxManualPaymentAmount := min policy.maxManualPaymentAmount 100_000_000
      maxTotalManualPaymentAmount := min policy.maxTotalManualPaymentAmount 100_000_000
      requireCustomerContactAboveAmount := min policy.requireCustomerContactAboveAmount
        (min policy.maxManualPaymentAmount 100_000_000)
      managerApprovalThreshold := min policy.managerApprovalThreshold
        (min policy.maxManualPaymentAmount 100_000_000) } := rfl

theorem bounded_bestEffort (policy : OfflineRuntimeLimits) (requested : ℤ) :
    boundedOfflineRiskLimits policy .bestEffort requested = {
      maxOfflineDurationMinutes := min policy.maxOfflineDurationMinutes (min requested 60)
      maxPendingOrders := min policy.maxPendingOrders 10
      maxTotalAmount := min policy.maxTotalAmount 5_000
      maxSingleOrderAmount := min policy.maxSingleOrderAmount 1_000
      maxManualPaymentAmount := min policy.maxManualPaymentAmount 1_000
      maxTotalManualPaymentAmount := min policy.maxTotalManualPaymentAmount 3_000
      requireCustomerContactAboveAmount := min policy.requireCustomerContactAboveAmount
        (min policy.maxManualPaymentAmount 1_000)
      managerApprovalThreshold := min policy.managerApprovalThreshold
        (min policy.maxManualPaymentAmount 1_000) } := rfl

theorem bounded_within (policy : OfflineRuntimeLimits) (storageClass : OfflineStorageClass)
    (requested : ℤ) : Within (boundedOfflineRiskLimits policy storageClass requested) policy where
  duration := min_le_left _ _
  pendingOrders := min_le_left _ _
  totalAmount := min_le_left _ _
  singleOrderAmount := min_le_left _ _
  manualPaymentAmount := min_le_left _ _
  totalManualPaymentAmount := min_le_left _ _
  customerContact := min_le_left _ _
  managerApproval := min_le_left _ _

/-- A stricter policy and a shorter duration give stricter limits. -/
theorem bounded_mono (storageClass : OfflineStorageClass) (hpolicy : Within policy policy')
    (hrequested : requested ≤ requested') :
    Within (boundedOfflineRiskLimits policy storageClass requested)
      (boundedOfflineRiskLimits policy' storageClass requested') where
  duration := min_le_min hpolicy.duration (min_le_min_right _ hrequested)
  pendingOrders := min_le_min_right _ hpolicy.pendingOrders
  totalAmount := min_le_min_right _ hpolicy.totalAmount
  singleOrderAmount := min_le_min_right _ hpolicy.singleOrderAmount
  manualPaymentAmount := min_le_min_right _ hpolicy.manualPaymentAmount
  totalManualPaymentAmount := min_le_min_right _ hpolicy.totalManualPaymentAmount
  customerContact :=
    min_le_min hpolicy.customerContact (min_le_min_right _ hpolicy.manualPaymentAmount)
  managerApproval :=
    min_le_min hpolicy.managerApproval (min_le_min_right _ hpolicy.manualPaymentAmount)

theorem validLimits_bounded (hpolicy : ValidLimits policy)
    (hclass : storageClass = .persistent ∨ storageClass = .bestEffort)
    (hrequested : 15 ≤ requested ∧ requested ≤ 720) :
    ValidLimits (boundedOfflineRiskLimits policy storageClass requested) := by
  obtain ⟨hduration, hpending, htotal, hsingle, hmanual, htotalManual, hcontact, happroval,
    hsingleTotal, hmanualSingle, htotalManualTotal, hcontactManual, happrovalManual⟩ := hpolicy
  rcases hclass with rfl | rfl
  · rw [bounded_persistent]
    constructor <;> dsimp only
    case single_le_total => exact min_le_min_right _ hsingleTotal
    case manual_le_single =>
      exact cast_min_le_min hmanualSingle (Or.inl (hmanualSingle.trans hsingle.2))
    case totalManual_le_total =>
      exact cast_min_le_min htotalManualTotal (Or.inl (htotalManualTotal.trans htotal.2))
    case totalAmount => exact ⟨le_min htotal.1 (by norm_num), min_le_right _ _⟩
    case singleOrderAmount => exact ⟨le_min hsingle.1 (by norm_num), min_le_right _ _⟩
    all_goals omega
  · rw [bounded_bestEffort]
    constructor <;> dsimp only
    case single_le_total => exact min_le_min hsingleTotal (by norm_num)
    case manual_le_single => exact cast_min_le_min hmanualSingle (Or.inr (by norm_num))
    case totalManual_le_total =>
      exact cast_min_le_min htotalManualTotal (Or.inr (by norm_num))
    case totalAmount =>
      exact ⟨le_min htotal.1 (by norm_num), (min_le_right _ _).trans (by norm_num)⟩
    case singleOrderAmount =>
      exact ⟨le_min hsingle.1 (by norm_num), (min_le_right _ _).trans (by norm_num)⟩
    all_goals omega

theorem keepsThresholds_bounded (hpolicy : ValidLimits policy)
    (hclass : storageClass = .persistent ∨ storageClass = .bestEffort) :
    KeepsThresholds policy (boundedOfflineRiskLimits policy storageClass requested) := by
  have hmanual := hpolicy.manualPaymentAmount
  have htotalManual := hpolicy.totalManualPaymentAmount
  have hcontact := hpolicy.customerContact
  have happroval := hpolicy.managerApproval
  have hcontactManual := hpolicy.contact_le_manual
  have happrovalManual := hpolicy.approval_le_manual
  rcases hclass with rfl | rfl
  · rw [bounded_persistent]
    constructor <;> dsimp only <;> omega
  · rw [bounded_bestEffort]
    constructor <;> dsimp only <;> omega

end Cutting

/-! ## Issued permits -/

/-- A duration within the bounds is a lifetime of at most twelve hours. -/
theorem lifetime_of_duration {minutes : ℤ} (hminutes : 15 ≤ minutes ∧ minutes ≤ 720)
    {issuedAt expiresAt : Timestamp} (hexpires : expiresAt = issuedAt + minutes * 60_000) :
    issuedAt < expiresAt ∧ expiresAt - issuedAt ≤ 12 * 60 * 60 * 1000 := by
  have hlifetime : expiresAt - issuedAt = minutes * 60_000 := by
    rw [hexpires]
    exact add_sub_cancel_left _ _
  have hpos : 0 < minutes * 60_000 := by omega
  have hle : minutes * 60_000 ≤ 12 * 60 * 60 * 1000 := by omega
  rw [← hlifetime] at hpos hle
  exact ⟨sub_pos.mp hpos, hle⟩

/-- The limits of a permit that is issued under an accepted policy: the schema of the permit
accepts them together with the lifetime they give, they are within the policy and keep its
thresholds, and they are monotone in the policy and in the duration that is asked for. -/
theorem issued_limits_valid {policy : OfflineRuntimeLimits} {storageClass : OfflineStorageClass}
    {requested : ℤ} (hpolicy : offlineLimitsSchema policy = true)
    (hclass : storageClass = .persistent ∨ storageClass = .bestEffort)
    (hrequested : 15 ≤ requested ∧ requested ≤ 720) :
    (∀ payload, PermitHead payload →
      payload.riskLimits = boundedOfflineRiskLimits policy storageClass requested →
      payload.expiresAt
        = payload.issuedAt + payload.riskLimits.maxOfflineDurationMinutes * 60_000 →
      offlinePermitPayloadSchema payload = true)
    ∧ Within (boundedOfflineRiskLimits policy storageClass requested) policy
    ∧ KeepsThresholds policy (boundedOfflineRiskLimits policy storageClass requested)
    ∧ ∀ policy' requested', Within policy policy' → requested ≤ requested' →
        Within (boundedOfflineRiskLimits policy storageClass requested)
          (boundedOfflineRiskLimits policy' storageClass requested') := by
  have hvalid := offlineLimitsSchema_iff.mp hpolicy
  have hbounded := validLimits_bounded hvalid hclass hrequested
  refine ⟨fun payload hhead hlimits hexpires => ?_, bounded_within policy storageClass requested,
    keepsThresholds_bounded hvalid hclass, fun policy' requested' hwithin hle =>
      bounded_mono storageClass hwithin hle⟩
  rw [← hlimits] at hbounded
  exact offlinePermitPayloadSchema_iff.mpr
    ⟨hhead, lifetime_of_duration hbounded.duration hexpires, hbounded⟩

def sampleLimits : OfflineRuntimeLimits where
  maxOfflineDurationMinutes := 240
  maxPendingOrders := 50
  maxTotalAmount := 20_000
  maxSingleOrderAmount := 5_000
  maxManualPaymentAmount := 2_000
  maxTotalManualPaymentAmount := 10_000
  requireCustomerContactAboveAmount := 1_500
  managerApprovalThreshold := 1_000

theorem sample_limits_valid :
    boundedOfflineRiskLimits sampleLimits .bestEffort 120
        = { maxOfflineDurationMinutes := 60
            maxPendingOrders := 10
            maxTotalAmount := 5_000
            maxSingleOrderAmount := 1_000
            maxManualPaymentAmount := 1_000
            maxTotalManualPaymentAmount := 3_000
            requireCustomerContactAboveAmount := 1_000
            managerApprovalThreshold := 1_000 }
      ∧ KeepsThresholds sampleLimits (boundedOfflineRiskLimits sampleLimits .bestEffort 120) :=
  ⟨by decide +kernel, (issued_limits_valid (by decide +kernel) (Or.inr rfl)
    (by decide)).2.2.1⟩

/-! ## Signing -/

theorem nodup_eraseDups (roles : List UserRole) : roles.eraseDups.Nodup := by
  induction hlength : roles.length using Nat.strong_induction_on generalizing roles with
  | h length ih =>
      cases roles with
      | nil => exact List.nodup_nil
      | cons role roles =>
          rw [List.eraseDups_cons]
          refine List.nodup_cons.mpr ⟨fun hmem => ?_, ?_⟩
          · simpa using (List.mem_filter.mp (List.mem_eraseDups.mp hmem)).2
          · have hshorter := List.length_filter_le (fun other => !other == role) roles
            rw [List.length_cons] at hlength
            exact ih _ (by omega) _ rfl

/-- The roles of a permit are distinct roles that a permit may carry. -/
theorem length_roles_le (roles : List UserRole) :
    (roles.filter (· ∈ permitRoles)).eraseDups.length ≤ 5 := by
  have hsubset : (roles.filter (· ∈ permitRoles)).eraseDups ⊆ permitRoles := by
    intro role hrole
    exact of_decide_eq_true (List.mem_filter.mp (List.mem_eraseDups.mp hrole)).2
  exact ((nodup_eraseDups _).subperm hsubset).length_le

theorem length_permitActions (flags : OfflineFlags) (catalog : MenuCatalog)
    (printEntitled : Bool) :
    1 ≤ (permitActions flags catalog printEntitled).length
      ∧ (permitActions flags catalog printEntitled).length ≤ 3 := by
  unfold permitActions
  rw [List.length_append, List.length_append]
  constructor
  · exact (Nat.le_add_right 1 _).trans (Nat.le_add_right _ _)
  · split <;> split <;> decide

/-- Under an accepted policy the payload of a permit is never refused. -/
theorem permitPayload_accepted {flags : OfflineFlags} {input : IssueBootstrapInput}
    {answers : IssueAnswers} {reads : BootstrapReads} {snapshot : MenuSnapshot}
    {catalog : MenuCatalog} (hpolicy : offlineLimitsSchema reads.policy.limits = true)
    (hclass : input.storageClass = .persistent ∨ input.storageClass = .bestEffort)
    (hrequested : 15 ≤ input.requestedDurationMinutes ∧ input.requestedDurationMinutes ≤ 720)
    (hprotocol : input.appProtocolVersion = offlineAppProtocolVersion)
    (hversion : 0 < snapshot.version) (hepoch : 1 ≤ reads.runtime.promotionEpoch)
    (hroles : (permitPayload flags input answers reads snapshot catalog).roles ≠ []) :
    offlinePermitPayloadSchema (permitPayload flags input answers reads snapshot catalog)
      = true := by
  have hvalid := validLimits_bounded (offlineLimitsSchema_iff.mp hpolicy) hclass hrequested
  refine offlinePermitPayloadSchema_iff.mpr
    ⟨?_, lifetime_of_duration hvalid.duration rfl, hvalid⟩
  exact {
    roles := ⟨List.length_pos_iff.mpr hroles, length_roles_le input.roles⟩
    rolesAllowed := fun role hrole =>
      of_decide_eq_true (List.mem_filter.mp (List.mem_eraseDups.mp hrole)).2
    actions := length_permitActions flags catalog answers.printEntitled
    menuSnapshotVersion := hversion
    promotionEpoch := hepoch
    appProtocolVersion := hprotocol
    storageClass := hclass }

end Stallorder.RiskLimits
