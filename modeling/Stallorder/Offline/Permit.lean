import Stallorder.Offline.OrderContract

/-!
# Offline permits

A permit is the signed statement that a device may take orders offline until a
given time and within given risk limits.  Amounts come from decimal columns, so
the two order limits are rational numbers.  The message authentication code of the
signature is a parameter of signing and verifying.
-/

namespace Stallorder.Permit

open OrderContract

abbrev Signature := ℕ

inductive UserRole
  | platformAdmin
  | merchantOwner
  | merchantManager
  | organizationOwner
  | organizationAdmin
  | financeViewer
  | stallManager
  | staff
  | kitchen
  deriving DecidableEq

/-- The roles that may approve manual payments above the threshold. -/
def managerRoles : List UserRole :=
  [.platformAdmin, .organizationOwner, .organizationAdmin, .stallManager]

/-- The roles a permit may carry. -/
def permitRoles : List UserRole :=
  [.platformAdmin, .organizationOwner, .organizationAdmin, .stallManager, .staff]

inductive OfflineAllowedAction
  | createOfflineOrder
  | recordCashPayment
  | queuePrintJob
  deriving DecidableEq

inductive OfflineStorageClass
  | persistent
  | bestEffort
  | insufficient
  | unavailable
  deriving DecidableEq

structure OfflineRuntimeLimits where
  maxOfflineDurationMinutes : ℤ
  maxPendingOrders : ℤ
  maxTotalAmount : ℚ
  maxSingleOrderAmount : ℚ
  maxManualPaymentAmount : ℤ
  maxTotalManualPaymentAmount : ℤ
  requireCustomerContactAboveAmount : ℤ
  managerApprovalThreshold : ℤ
  deriving DecidableEq

/-- The bounds every set of limits obeys; `maxAmount` bounds the two order
limits and differs between the schema of the permit and that of the device. -/
def riskLimitsSchema (maxAmount : ℚ) (limits : OfflineRuntimeLimits) : Bool :=
  15 ≤ limits.maxOfflineDurationMinutes && limits.maxOfflineDurationMinutes ≤ 720
    && 1 ≤ limits.maxPendingOrders && limits.maxPendingOrders ≤ 500
    && 0 ≤ limits.maxTotalAmount && limits.maxTotalAmount ≤ maxAmount
    && 0 ≤ limits.maxSingleOrderAmount && limits.maxSingleOrderAmount ≤ maxAmount
    && money limits.maxManualPaymentAmount
    && money limits.maxTotalManualPaymentAmount
    && money limits.requireCustomerContactAboveAmount
    && money limits.managerApprovalThreshold

structure OfflinePermitPayload where
  permitId : Uuid
  deviceId : Uuid
  profileId : Uuid
  organizationId : Uuid
  stallId : Uuid
  roles : List UserRole
  allowedOfflineActions : List OfflineAllowedAction
  issuedAt : Timestamp
  expiresAt : Timestamp
  menuSnapshotVersion : ℕ
  promotionEpoch : ℕ
  appProtocolVersion : ℕ
  storageClass : OfflineStorageClass
  riskLimits : OfflineRuntimeLimits
  deriving DecidableEq

def offlinePermitPayloadSchema (payload : OfflinePermitPayload) : Bool :=
  1 ≤ payload.roles.length && payload.roles.length ≤ 5
    && payload.roles.all (· ∈ permitRoles)
    && 1 ≤ payload.allowedOfflineActions.length && payload.allowedOfflineActions.length ≤ 3
    && 0 < payload.menuSnapshotVersion
    && 1 ≤ payload.promotionEpoch
    && payload.appProtocolVersion = offlineAppProtocolVersion
    && (payload.storageClass = .persistent || payload.storageClass = .bestEffort)
    && riskLimitsSchema (9_999_999_999 / 100) payload.riskLimits
    && payload.issuedAt < payload.expiresAt
    && payload.expiresAt - payload.issuedAt ≤ 12 * 60 * 60 * 1000
    && payload.riskLimits.maxSingleOrderAmount ≤ payload.riskLimits.maxTotalAmount
    && payload.riskLimits.maxManualPaymentAmount ≤ payload.riskLimits.maxSingleOrderAmount
    && payload.riskLimits.maxTotalManualPaymentAmount ≤ payload.riskLimits.maxTotalAmount
    && payload.riskLimits.requireCustomerContactAboveAmount
        ≤ payload.riskLimits.maxManualPaymentAmount
    && payload.riskLimits.managerApprovalThreshold
        ≤ payload.riskLimits.maxManualPaymentAmount

/-! ## Tokens -/

/-- A permit token that decodes to a payload; one that does not is refused
before its content is looked at. -/
structure Token where
  payload : OfflinePermitPayload
  signature : Signature
  deriving DecidableEq

variable (signatureFor : OfflinePermitPayload → Signature)

/-- Signing parses the payload and throws when it is refused. -/
def signOfflinePermit (payload : OfflinePermitPayload) : Option Token :=
  if offlinePermitPayloadSchema payload then
    some { payload := payload, signature := signatureFor payload }
  else none

def verifyOfflinePermit (token : Token) (now : Timestamp) (allowExpired : Bool) :
    Option OfflinePermitPayload :=
  if token.signature ≠ signatureFor token.payload then none
  else if !offlinePermitPayloadSchema token.payload then none
  else if !allowExpired && token.payload.expiresAt ≤ now then none
  else some token.payload

/-- A signed permit is read back, also after it has expired. -/
theorem verify_signOfflinePermit {payload : OfflinePermitPayload} {token : Token}
    (hsign : signOfflinePermit signatureFor payload = some token) (now : Timestamp) :
    verifyOfflinePermit signatureFor token now true = some payload := by
  unfold signOfflinePermit at hsign
  split at hsign
  · next hschema =>
    cases hsign
    simp [verifyOfflinePermit, hschema]
  · cases hsign

end Stallorder.Permit
