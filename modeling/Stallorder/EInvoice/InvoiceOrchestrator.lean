import Stallorder.Core.Run
import Stallorder.EInvoice.MockProvider

/-!
# The orchestrator of invoice operations

An operation reads the document, registers itself and marks the document as
pending, calls the provider, and then writes the document in a transaction of
its own; when the provider or the transaction fails it marks the document as
failed.  Between any two of these steps other operations may take theirs, and
a restart of the process loses the operations in progress and the memory of the
mock provider.
-/

namespace Stallorder.InvoiceOrchestrator

open MockProvider

/-! ## Documents and operations -/

inductive ReconciliationStatus
  | notChecked
  | matched
  | caseOpen
  deriving DecidableEq

structure InvoiceDocument where
  status : LifecycleStatus
  totalAmount : ℤ
  taxAmount : ℤ
  allowedAmount : ℤ
  externalInvoiceNumber : Option Text
  externalAllowanceReference : Option Text
  reconciliationStatus : ReconciliationStatus
  deriving DecidableEq

def InvoiceDocument.created (totalAmount taxAmount : ℤ) : InvoiceDocument where
  status := .pending
  totalAmount := totalAmount
  taxAmount := taxAmount
  allowedAmount := 0
  externalInvoiceNumber := none
  externalAllowanceReference := none
  reconciliationStatus := .notChecked

/-- The check constraints of the amount that is allowed. -/
def documentCheck (document : InvoiceDocument) : Bool :=
  0 ≤ document.allowedAmount && document.allowedAmount ≤ document.totalAmount

/-- An operation with what its fingerprint is taken of. -/
inductive OperationRequest
  | issue (details : Text)
  | query
  | void (reason : Text)
  | allowance (amount : ℤ) (reason : Text)
  | allowanceVoid
  | reconcile
  deriving DecidableEq

inductive OperationType
  | issue
  | query
  | void
  | allowance
  | allowanceVoid
  | reconcile
  deriving DecidableEq

def OperationRequest.type : OperationRequest → OperationType
  | .issue _ => .issue
  | .query => .query
  | .void _ => .void
  | .allowance _ _ => .allowance
  | .allowanceVoid => .allowanceVoid
  | .reconcile => .reconcile

def operationPendingStatus : OperationType → Option LifecycleStatus
  | .issue => some .issuing
  | .void => some .voidPending
  | .allowance => some .allowancePending
  | .allowanceVoid => some .allowanceVoidPending
  | .query | .reconcile => none

def operationFailureStatus : OperationType → Option LifecycleStatus
  | .issue => some .issueFailed
  | .void => some .voidFailed
  | .allowance => some .allowanceFailed
  | .allowanceVoid => some .allowanceVoidFailed
  | .query | .reconcile => none

inductive ProviderOperationStatus
  | running
  | succeeded
  /-- Dead lettered or to be retried. -/
  | failed
  deriving DecidableEq

structure ProviderOperation where
  idempotencyKey : Text
  request : OperationRequest
  status : ProviderOperationStatus
  deriving DecidableEq

/-- An allowance that was recorded. -/
structure Allowance where
  reference : Option Text
  amount : ℤ
  deriving DecidableEq

/-! ## Operations in progress -/

inductive OperationAnswer
  | done
  | replayed
  | idempotencyConflict
  | alreadyStarted
  | transitionInvalid
  | concurrentModification
  | failed
  deriving DecidableEq

inductive OperationStage
  /-- The document has been read. -/
  | read
  | restored
  | started
  /-- The provider's state differs from the document that was read. -/
  | flagging (code : MismatchCode) (rest : List MismatchCode) (result : StoredInvoice)
  /-- The provider's state is that of the document that was read. -/
  | marking (result : StoredInvoice)
  | recording (result : StoredInvoice)
  | failing
  | ended (answer : OperationAnswer)
  deriving DecidableEq

structure RunningOperation where
  request : OperationRequest
  idempotencyKey : Text
  /-- The document as it was read. -/
  document : InvoiceDocument
  stage : OperationStage

structure OrchestratorState where
  document : InvoiceDocument
  adapter : Adapter
  operations : List ProviderOperation
  running : List RunningOperation
  /-- The allowances that were recorded and not voided; no column stores them. -/
  outstanding : List Allowance

def OrchestratorState.opened (totalAmount taxAmount : ℤ) : OrchestratorState where
  document := .created totalAmount taxAmount
  adapter := none
  operations := []
  running := []
  outstanding := []

/-! ## The steps of an operation -/

def restoreLocalState (adapter : Adapter) (document : InvoiceDocument) : Adapter :=
  match adapter, document.externalInvoiceNumber with
  | none, some number => some {
      status := document.status
      externalInvoiceNumber := number
      externalAllowanceReference := document.externalAllowanceReference
      totalAmount := document.totalAmount
      taxAmount := document.taxAmount
      allowedAmount := document.allowedAmount }
  | stored, _ => stored

/-- The adapter of an issue is not restored. -/
def restoreMockAdapter (state : OrchestratorState) (operation : RunningOperation) :
    OrchestratorState :=
  match operation.request with
  | .issue _ => state
  | _ => { state with adapter := restoreLocalState state.adapter operation.document }

def sameOperation (operation : RunningOperation) (stored : ProviderOperation) : Bool :=
  stored.request.type = operation.request.type
    && stored.idempotencyKey = operation.idempotencyKey

def resolveExistingOperation (existing : ProviderOperation) (operation : RunningOperation) :
    OperationAnswer :=
  if existing.request ≠ operation.request then .idempotencyConflict
  else if existing.status = .succeeded then .replayed
  else .alreadyStarted

def registered (state : OrchestratorState) (operation : RunningOperation) :
    List ProviderOperation :=
  state.operations ++ [⟨operation.idempotencyKey, operation.request, .running⟩]

def startOperation (state : OrchestratorState) (operation : RunningOperation) :
    OrchestratorState × OperationStage :=
  match state.operations.find? (sameOperation operation) with
  | some existing => (state, .ended (resolveExistingOperation existing operation))
  | none =>
      let operations := registered state operation
      match operationPendingStatus operation.request.type with
      | none => ({ state with operations }, .started)
      | some target =>
          if operation.document.status = target then (state, .ended .alreadyStarted)
          else if !canTransitionInvoice operation.document.status target then
            (state, .ended .transitionInvalid)
          else if state.document.status ≠ operation.document.status then
            (state, .ended .concurrentModification)
          else
            ({ state with
              operations := operations
              document := { state.document with status := target } }, .started)

/-- What the provider returns is in its memory. -/
def answered (state : OrchestratorState) (result : Option StoredInvoice) :
    OrchestratorState × OperationStage :=
  match result with
  | some stored => ({ state with adapter := some stored }, .recording stored)
  | none => (state, .failing)

def compared (state : OrchestratorState) (stored : StoredInvoice) (codes : List MismatchCode) :
    OrchestratorState × OperationStage :=
  match codes with
  | [] => (state, .marking stored)
  | code :: rest => (state, .flagging code rest stored)

def invoke (codes : ReferenceCodes) (state : OrchestratorState) (operation : RunningOperation) :
    OrchestratorState × OperationStage :=
  let document := operation.document
  let number := document.externalInvoiceNumber
  match operation.request with
  | .issue _ => answered state
      (some (issueInvoice codes document.totalAmount document.taxAmount state.adapter))
  | .void reason => answered state (number.bind (voidInvoice state.adapter · reason))
  | .allowance amount reason =>
      answered state (number.bind (createAllowance codes state.adapter · amount reason))
  | .allowanceVoid => answered state (number.bind (voidAllowance state.adapter))
  | .query =>
      match number.bind (requireInvoice state.adapter) with
      | some stored => compared state stored
          (if stored.status ≠ document.status then [.statusMismatch] else [])
      | none => (state, .failing)
  | .reconcile =>
      match number.bind (requireInvoice state.adapter) with
      | some stored => compared state stored
          (mismatchCodes stored document.status document.totalAmount document.taxAmount)
      | none => (state, .failing)

def openReconciliationCase (document : InvoiceDocument) : InvoiceDocument :=
  { document with
    status := .reconciliationRequired
    reconciliationStatus := .caseOpen }

def flag (state : OrchestratorState) (rest : List MismatchCode) (result : StoredInvoice) :
    OrchestratorState × OperationStage :=
  ({ state with document := openReconciliationCase state.document },
    match rest with
    | [] => .recording result
    | code :: rest => .flagging code rest result)

def markMatched (document : InvoiceDocument) : InvoiceDocument :=
  { document with reconciliationStatus := .matched }

/-- The document as an operation that succeeded writes it. -/
def recordedDocument (document : InvoiceDocument) (result : StoredInvoice) :
    OperationRequest → InvoiceDocument
  | .issue _ => { document with
      status := result.status
      externalInvoiceNumber := some result.externalInvoiceNumber
      reconciliationStatus := .matched }
  | .void _ => { document with
      status := result.status
      reconciliationStatus := .matched }
  | .allowance amount _ => { document with
      status := result.status
      allowedAmount := document.allowedAmount + amount
      externalAllowanceReference := result.externalAllowanceReference
      reconciliationStatus := .matched }
  | .allowanceVoid => { document with
      status := result.status
      allowedAmount := 0
      externalAllowanceReference := none
      reconciliationStatus := .matched }
  | .query | .reconcile => document

/-- The void of an allowance voids the one that the document named. -/
def recordedAllowances (outstanding : List Allowance) (result : StoredInvoice)
    (operation : RunningOperation) : List Allowance :=
  match operation.request with
  | .allowance amount _ => outstanding ++ [⟨result.externalAllowanceReference, amount⟩]
  | .allowanceVoid =>
      outstanding.eraseP (·.reference = operation.document.externalAllowanceReference)
  | _ => outstanding

def completed (operations : List ProviderOperation) (operation : RunningOperation)
    (status : ProviderOperationStatus) : List ProviderOperation :=
  operations.map fun stored =>
    if sameOperation operation stored then { stored with status } else stored

/-- The document is still in the status that the operation gave it. -/
def stillPending (document : InvoiceDocument) (operation : RunningOperation) : Bool :=
  (operationPendingStatus operation.request.type).all (document.status = ·)

/-- The local transaction of an operation goes through. -/
def records (document : InvoiceDocument) (result : StoredInvoice)
    (operation : RunningOperation) : Bool :=
  stillPending document operation
    && documentCheck (recordedDocument document result operation.request)

def recordResult (state : OrchestratorState) (operation : RunningOperation)
    (result : StoredInvoice) : OrchestratorState × OperationStage :=
  if records state.document result operation then
    ({ state with
      document := recordedDocument state.document result operation.request
      operations := completed state.operations operation .succeeded
      outstanding := recordedAllowances state.outstanding result operation }, .ended .done)
  else (state, .failing)

def failedDocument (document : InvoiceDocument) (operation : RunningOperation) :
    InvoiceDocument :=
  match operationFailureStatus operation.request.type with
  | some failed =>
      if stillPending document operation then { document with status := failed } else document
  | none => document

def failOperation (state : OrchestratorState) (operation : RunningOperation) :
    OrchestratorState × OperationStage :=
  ({ state with
    document := failedDocument state.document operation
    operations := completed state.operations operation .failed }, .ended .failed)

/-- What becomes of an operation whose next call is refused or whose next
transaction fails. -/
def interrupted (state : OrchestratorState) (operation : RunningOperation) :
    OrchestratorState × OperationStage :=
  match operation.stage with
  | .read | .restored | .failing => (state, .ended .failed)
  | .started | .flagging _ _ _ | .marking _ | .recording _ => (state, .failing)
  | .ended answer => (state, .ended answer)

def nextStep (codes : ReferenceCodes) (state : OrchestratorState) (operation : RunningOperation) :
    OrchestratorState × OperationStage :=
  match operation.stage with
  | .read => (restoreMockAdapter state operation, .restored)
  | .restored => startOperation state operation
  | .started => invoke codes state operation
  | .flagging _ rest result => flag state rest result
  | .marking result => ({ state with document := markMatched state.document }, .recording result)
  | .recording result => recordResult state operation result
  | .failing => failOperation state operation
  | .ended answer => (state, .ended answer)

/-! ## Runs -/

inductive OrchestratorCommand
  | begin (request : OperationRequest) (idempotencyKey : Text)
  /-- Take the next step of an operation, which may fail from outside. -/
  | advance (position : ℕ) (fails : Bool)
  | restart

/-- An issue of a document that has been issued returns it. -/
def firstStage (document : InvoiceDocument) (request : OperationRequest) : OperationStage :=
  match request with
  | .issue _ =>
      if document.externalInvoiceNumber.isSome && document.status ∈
          [LifecycleStatus.issued, .voided, .partiallyAllowed, .fullyAllowed] then
        .ended .done
      else .read
  | _ => .read

def outcome (codes : ReferenceCodes) (state : OrchestratorState) (operation : RunningOperation)
    (fails : Bool) : OrchestratorState × OperationStage :=
  if fails then interrupted state operation else nextStep codes state operation

def advanceOperation (codes : ReferenceCodes) (state : OrchestratorState) (position : ℕ)
    (operation : RunningOperation) (fails : Bool) : OrchestratorState :=
  let (state', stage) := outcome codes state operation fails
  { state' with running := state.running.set position { operation with stage } }

def orchestratorStep (codes : ReferenceCodes) (state : OrchestratorState) :
    OrchestratorCommand → OrchestratorState
  | .begin request idempotencyKey =>
      { state with running := state.running ++
        [⟨request, idempotencyKey, state.document, firstStage state.document request⟩] }
  | .advance position fails =>
      match state.running[position]? with
      | some operation => advanceOperation codes state position operation fails
      | none => state
  | .restart => { state with adapter := none, running := [] }

end Stallorder.InvoiceOrchestrator
