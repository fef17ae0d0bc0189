import Stallorder.Core.Run
import Stallorder.Delivery.ExternalOrders

/-!
# Runs of the delivery integration

Webhooks, workers, retries by hand and the staff's transitions take turns.  A
worker claims jobs, runs each of them and writes its outcome, as three separate
steps; it may be slow, or stop between them.  The platforms remember the actions
that they were told.
-/

namespace Stallorder.DeliveryRun

open OrderContract DeliveryDatabase SyncJobs ExternalOrders Transaction Transaction.Program

/-! ## One job -/

inductive ProviderActionKind
  | accept
  | reject
  | preparing
  | ready
  deriving DecidableEq

/-- An action that a platform carried out. -/
structure ProviderAction where
  provider : DeliveryProvider
  connectionId : Uuid
  externalOrderId : Text
  kind : ProviderActionKind
  deriving DecidableEq

/-- What a job finds outside the delivery tables. -/
structure JobResponse where
  /-- The feature switches and the entitlements of the organization. -/
  access : Except DeliveryError Unit
  /-- The answers of the platform. -/
  fetched : Except DeliveryError NormalizedExternalOrder
  action : Except DeliveryError Unit
  reads : StallReads
  ids : IntakeIds
  orderId : Uuid
  now : Timestamp

def isJobConnection (job : DeliverySyncJob) (connection : DeliveryConnection) : Bool :=
  connection.id = job.connectionId && connection.organizationId = job.organizationId
    && connection.stallId = job.stallId && connection.provider = job.provider

/-- The result of a job, the tables after it, and the action that it had carried out. -/
abbrev JobEffect := Except DeliveryError Unit × DeliveryDb × List ProviderAction

def runImport (job : DeliverySyncJob) (response : JobResponse) (db : DeliveryDb) : JobEffect :=
  match job.input with
  | .orderImport ledgerId webhookEventId order =>
      if !order.accepts then
        (.error .other, db, [])
      else
        let (outcome, db') := importExternalOrderFromJob ⟨ledgerId, webhookEventId, order⟩ job.id
          response.reads response.orderId response.now db
        (outcome.map fun _ => (), db', [])
  | _ => (.error .other, db, [])

def runFetch (job : DeliverySyncJob) (connection : DeliveryConnection) (response : JobResponse)
    (db : DeliveryDb) : JobEffect :=
  match job.input, response.fetched with
  | .orderFetch externalOrderId webhookEventId payloadHash, .ok order =>
      if !isIdentifier externalOrderId then
        (.error (.permanent .unsupportedMapping), db, [])
      else if !isWantedOrder connection externalOrderId order then
        (.error (.permanent .storeNotFound), db, [])
      else
        let (outcome, db') := transact
          (stageExternalOrder connection order webhookEventId payloadHash response.ids response.now)
          db
        (outcome.map fun _ => (), db', [])
  | .orderFetch _ _ _, .error error => (.error error, db, [])
  | _, _ => (.error (.permanent .unsupportedMapping), db, [])

/-- The action of a job, for the jobs that have one. -/
def providerActionKind : DeliveryJobType → Option ProviderActionKind
  | .orderAccept => some .accept
  | .orderReject => some .reject
  | .orderPreparing => some .preparing
  | .orderReady => some .ready
  | _ => none

def executeProviderJob (job : DeliverySyncJob) (connection : DeliveryConnection)
    (response : JobResponse) (db : DeliveryDb) : JobEffect :=
  match job.input with
  | .orderAction externalOrderId _ =>
      if !isIdentifier externalOrderId then
        (.error (.permanent .unsupportedMapping), db, [])
      else
        match providerActionKind job.jobType, response.action with
        | none, _ => (.error (.permanent .providerDisabled), db, [])
        | some _, .error error => (.error error, db, [])
        | some kind, .ok () =>
            (.ok (), db, [⟨job.provider, connection.id, externalOrderId, kind⟩])
  | _ => (.error (.permanent .unsupportedMapping), db, [])

def runJob (job : DeliverySyncJob) (response : JobResponse) (db : DeliveryDb) : JobEffect :=
  match response.access, db.connections.rows.find? (isJobConnection job) with
  | .error error, _ => (.error error, db, [])
  | .ok (), none => (.error (.permanent .connectionNotFound), db, [])
  | .ok (), some connection =>
      if connection.status ≠ .active then
        (.error (.permanent .connectionStateConflict), db, [])
      else if job.jobType = .orderImport then
        runImport job response db
      else if job.jobType = .orderFetch then
        runFetch job connection response db
      else
        executeProviderJob job connection response db

/-! ## Transitions of the staff -/

structure TransitionRequest where
  orderId : Uuid
  nextStatus : ExternalTransitionStatus
  /-- The status that the order gets; paying for an order may leave another one. -/
  persistedStatus : ExternalTransitionStatus
  access : Except DeliveryError Unit
  /-- The answer of the platform to an acceptance or a rejection. -/
  answer : Except DeliveryError Unit
  /-- The order took the transition. -/
  orderChanged : Bool
  jobId : Uuid
  now : Timestamp

def acknowledgementKind : ExternalTransitionStatus → Option ProviderActionKind
  | .confirmed => some .accept
  | .cancelled => some .reject
  | _ => none

def isTransitionConnection (external : ExternalTransitionContext)
    (connection : DeliveryConnection) : Bool :=
  connection.id = external.connectionId && connection.organizationId = external.organizationId
    && connection.stallId = external.stallId && connection.provider = external.provider
    && connection.status = .active

/-- The platform is asked before an order is accepted or rejected. -/
def acknowledgeExternalOrderBeforeTransition (request : TransitionRequest) (db : DeliveryDb) :
    Except DeliveryError (Option ExternalTransitionContext × List ProviderAction) :=
  match transitionContext request.orderId db with
  | none => .ok (none, [])
  | some external =>
      match acknowledgementKind request.nextStatus with
      | none => .ok (some external, [])
      | some kind => do
          request.access
          let connection ← Checks.orFail
            (db.connections.rows.find? (isTransitionConnection external))
            (.permanent .connectionStateConflict)
          request.answer
          return (some external,
            [⟨external.provider, connection.id, external.externalOrderId, kind⟩])

/-- The transaction of a transition; the order itself is written first. -/
def transitionOrder (request : TransitionRequest) (external : Option ExternalTransitionContext) :
    DeliveryProgram Unit := do
  Program.failWhen (!request.orderChanged) .other
  match external with
  | none => pure ()
  | some external =>
      persistExternalOrderTransition external request.persistedStatus request.jobId request.now

/-! ## The system -/

/-- A job in the hands of a worker; `result` is what running it came to. -/
structure JobClaim where
  ticket : ℕ
  worker : Text
  job : DeliverySyncJob
  now : Timestamp
  result : Option (Except DeliveryError Unit)
  deriving DecidableEq

structure DeliverySystem where
  db : DeliveryDb
  claims : List JobClaim
  nextTicket : ℕ
  /-- The claim call that gave a job to its present worker, until the claim is
  taken back or its outcome is written. -/
  holder : Uuid → Option ℕ
  actions : List ProviderAction

def JobClaim.isCurrent (claim : JobClaim) (system : DeliverySystem) : Bool :=
  system.holder claim.job.id = some claim.ticket

inductive DeliveryCommand
  | webhook (call : WebhookCall)
  | claim (worker : Text) (now : Timestamp) (limit : ℤ) (place : Uuid → ℕ)
  | execute (claim : JobClaim) (response : JobResponse)
  | settle (claim : JobClaim) (written : Timestamp)
  | crash (claim : JobClaim)
  | retry (jobId : Uuid) (now : Timestamp)
  | transition (request : TransitionRequest)
  | connect (connection : DeliveryConnection)
  /-- The platform cancels an order by itself. -/
  | platformCancels (provider : DeliveryProvider) (connectionId : Uuid) (externalOrderId : Text)

/-- Whose claims are current after a claim call. -/
def holderAfterClaim (system : DeliverySystem) (now : Timestamp) (jobs : List DeliverySyncJob)
    (jobId : Uuid) : Option ℕ :=
  if jobs.any (·.id = jobId) then
    some system.nextTicket
  else if system.db.jobs.table.rows.any (fun job => job.id = jobId && hasExpiredLease now job) then
    none
  else
    system.holder jobId

def claimJobs (system : DeliverySystem) (worker : Text) (now : Timestamp) (limit : ℤ)
    (place : Uuid → ℕ) : DeliverySystem :=
  match claimDeliverySyncJobs system.db worker now limit place with
  | .error _ => system
  | .ok (db, jobs) =>
      { system with
        db
        claims := system.claims ++ jobs.map fun job => ⟨system.nextTicket, worker, job, now, none⟩
        nextTicket := system.nextTicket + 1
        holder := holderAfterClaim system now jobs }

def executeClaim (system : DeliverySystem) (claim : JobClaim) (response : JobResponse) :
    DeliverySystem :=
  if claim ∈ system.claims && claim.result.isNone then
    let (result, db, actions) := runJob claim.job response system.db
    { system with
      db
      claims := system.claims.erase claim ++ [{ claim with result := some result }]
      actions := system.actions ++ actions }
  else
    system

def settleClaim (system : DeliverySystem) (claim : JobClaim) (written : Timestamp) :
    DeliverySystem :=
  match claim.result with
  | some result =>
      if claim ∈ system.claims then
        { system with
          db := (writeOutcome system.db claim.job result claim.now written).toOption.getD system.db
          claims := system.claims.erase claim
          holder := fun jobId =>
            if claim.isCurrent system && jobId = claim.job.id then none else system.holder jobId }
      else
        system
  | none => system

def transitionOrders (system : DeliverySystem) (request : TransitionRequest) : DeliverySystem :=
  match acknowledgeExternalOrderBeforeTransition request system.db with
  | .error _ => system
  | .ok (external, actions) =>
      { system with
        db := (transact (transitionOrder request external) system.db).2
        actions := system.actions ++ actions }

def step (system : DeliverySystem) : DeliveryCommand → DeliverySystem
  | .webhook call => { system with db := (processDeliveryWebhook call system.db).2 }
  | .claim worker now limit place => claimJobs system worker now limit place
  | .execute claim response => executeClaim system claim response
  | .settle claim written => settleClaim system claim written
  | .crash claim => { system with claims := system.claims.erase claim }
  | .retry jobId now =>
      { system with db := (retryDeliverySyncJob system.db jobId now).toOption.getD system.db }
  | .transition request => transitionOrders system request
  | .connect connection =>
      { system with
        db := { system.db with connections := system.db.connections.put connection } }
  | .platformCancels provider connectionId externalOrderId =>
      { system with
        actions := system.actions ++ [⟨provider, connectionId, externalOrderId, .reject⟩] }

def DeliverySystem.initial : DeliverySystem where
  db := {
    connections := .empty
    externalOrders := .empty
    webhookEvents := .empty
    orders := .empty
    jobs := .empty
    importAudits := [] }
  claims := []
  nextTicket := 0
  holder _ := none
  actions := []

end Stallorder.DeliveryRun
