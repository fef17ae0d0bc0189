import Stallorder.Core.Parties
import Stallorder.EInvoice.AllowedAmount

/-!
# Agreement with the provider

A document that is marked as matched agrees with the invoice of the provider
whenever no operation is in progress.  This holds as long as no operation fails
on a matched document that it has marked as pending, and no query marks a document
as matched that has an open reconciliation case.
-/

namespace Stallorder.ProviderAgreement

open MockProvider InvoiceOrchestrator Claims AllowedAmount Parties Run

variable {codes : ReferenceCodes} {state state' : OrchestratorState}
variable {operation : RunningOperation} {stage' : OperationStage} {position : ℕ}
variable {document : InvoiceDocument} {adapter : Adapter} {type : OperationType}
  {target : LifecycleStatus} {held : Prop}

/-! ## Agreement -/

/-- The document says what the provider has stored. -/
def Agrees (document : InvoiceDocument) (adapter : Adapter) : Prop :=
  ∃ stored, adapter = some stored ∧ document.status = stored.status
    ∧ document.allowedAmount = stored.allowedAmount

/-- The document agrees with the provider, or it is not marked as matched. -/
def Accounted (state : OrchestratorState) : Prop :=
  Agrees state.document state.adapter ∨ state.document.reconciliationStatus ≠ .matched

def hasEnded : OperationStage → Bool
  | .ended _ => true
  | _ => false

/-- No operation is in progress. -/
def Quiet (state : OrchestratorState) : Prop :=
  ∀ operation ∈ state.running, hasEnded operation.stage = true

instance : Decidable (Quiet state) :=
  inferInstanceAs (Decidable (∀ operation ∈ state.running, _))

/-- The operation is about to fail on the matched document that it has marked as
pending. -/
def failsSilently (document : InvoiceDocument) (operation : RunningOperation) : Bool :=
  operation.stage = .failing
    && operationPendingStatus operation.request.type = some document.status
    && document.reconciliationStatus = .matched

/-- The operation is about to mark a document with an open case as matched. -/
def hidesCase (document : InvoiceDocument) (operation : RunningOperation) : Bool :=
  match operation.stage with
  | .marking _ => document.reconciliationStatus = .caseOpen
  | _ => false

/-- The command neither fails silently nor hides a case. -/
def isOpen (state : OrchestratorState) : OrchestratorCommand → Bool
  | .advance position fails => state.running[position]?.all fun operation =>
      !failsSilently state.document operation && (fails || !hidesCase state.document operation)
  | _ => true

/-! ## What holds between the steps -/

/-- The statuses of a document that has no invoice number yet. -/
def unissued (status : LifecycleStatus) : Bool :=
  status ∈ [LifecycleStatus.pending, .issuing, .issueFailed]

/-- The statuses that the provider gives an invoice. -/
def isProviderStatus (status : LifecycleStatus) : Bool :=
  status ∈ [LifecycleStatus.issued, .voided, .partiallyAllowed, .fullyAllowed, .allowanceVoided]

/-- The operation has marked the document as pending and has not ended. -/
def holdsDocument (operation : RunningOperation) : Bool :=
  (operationPendingStatus operation.request.type).isSome && underWay operation.stage

/-- The document of an operation under way: pending, or flagged once it is issued. -/
def HeldAs (document : InvoiceDocument) (type : OperationType) : Prop :=
  operationPendingStatus type = some document.status
    ∨ type ≠ .issue ∧ document.status = .reconciliationRequired

/-- What the provider has stored is what the document says, with what the
operation that holds the document has yet to write. -/
def Follows (document : InvoiceDocument) (adapter : Adapter) (operation : RunningOperation) :
    Prop :=
  match operation.stage with
  | .started => ∀ stored, adapter = some stored → stored.allowedAmount = document.allowedAmount
  | .recording result => adapter = some result ∧ result.allowedAmount
      = (recordedDocument document result operation.request).allowedAmount
  | _ => True

/-- Only queries and reconciliations of issued documents compare. -/
def Comparing (operation : RunningOperation) : Prop :=
  match operation.stage with
  | .flagging _ _ _ | .marking _ => operation.request.type ∈ [.query, .reconcile]
      ∧ operation.document.externalInvoiceNumber.isSome = true
  | _ => True

structure OperationSound (document : InvoiceDocument) (adapter : Adapter)
    (operation : RunningOperation) : Prop where
  numbered : operation.document.externalInvoiceNumber.isSome = true →
    document.externalInvoiceNumber.isSome = true
  comparing : Comparing operation
  held : holdsDocument operation = true → HeldAs document operation.request.type
  follows : holdsDocument operation = true → document.status ≠ .reconciliationRequired →
    Follows document adapter operation

/-- A document without an invoice. -/
structure Fresh (document : InvoiceDocument) (adapter : Adapter) : Prop where
  number : document.externalInvoiceNumber = none
  status : unissued document.status = true
  allowed : document.allowedAmount = 0
  unchecked : document.reconciliationStatus = .notChecked
  stored : ∀ stored, adapter = some stored → stored.allowedAmount = 0

/-- A document with an invoice that no case is open for. -/
structure Matched (document : InvoiceDocument) (adapter : Adapter) (held : Prop) : Prop where
  number : document.externalInvoiceNumber.isSome = true
  status : unissued document.status = false
  unflagged : document.status ≠ .reconciliationRequired
  matched : document.reconciliationStatus = .matched
  stored : adapter.isSome = true
  agrees : ¬ held → Agrees document adapter

/-- A document with an invoice and an open case. -/
structure InCase (document : InvoiceDocument) (adapter : Adapter) : Prop where
  number : document.externalInvoiceNumber.isSome = true
  flagged : document.status = .reconciliationRequired
  caseOpen : document.reconciliationStatus = .caseOpen
  stored : adapter.isSome = true

def Phase (document : InvoiceDocument) (adapter : Adapter) (held : Prop) : Prop :=
  Fresh document adapter ∨ Matched document adapter held ∨ InCase document adapter

/-- Some operation holds the document. -/
def Held (running : List RunningOperation) : Prop :=
  ∃ operation ∈ running, holdsDocument operation = true

def Apart (left right : RunningOperation) : Prop :=
  ¬ (holdsDocument left = true ∧ holdsDocument right = true)

theorem apart_symm (left right : RunningOperation) (hapart : Apart left right) :
    Apart right left :=
  fun hholds => hapart ⟨hholds.2, hholds.1⟩

structure Consistent (state : OrchestratorState) : Prop where
  provider : ∀ stored, state.adapter = some stored → isProviderStatus stored.status = true
  phase : Phase state.document state.adapter (Held state.running)
  sound : ∀ operation ∈ state.running, OperationSound state.document state.adapter operation
  apart : EachApart Apart state.running

theorem consistent_opened (totalAmount taxAmount : ℤ) :
    Consistent (.opened totalAmount taxAmount) where
  provider _ hstored := by cases hstored
  phase := Or.inl ⟨rfl, rfl, rfl, rfl, fun _ hstored => by cases hstored⟩
  sound _ hmem := absurd hmem List.not_mem_nil
  apart := eachApart_nil

theorem sound_of_notHolding
    (hnot : holdsDocument operation = false) (hcomparing : Comparing operation)
    (hnumbered : operation.document.externalInvoiceNumber.isSome = true →
      document.externalInvoiceNumber.isSome = true) :
    OperationSound document adapter operation where
  numbered := hnumbered
  comparing := hcomparing
  held hholds := by rw [hnot] at hholds; cases hholds
  follows hholds := by rw [hnot] at hholds; cases hholds

/-! ## Phases -/

theorem Phase.of_held {held held' : Prop}
    (hphase : Phase document adapter held) (hheld : held → held') :
    Phase document adapter held' := by
  rcases hphase with hfresh | hmatched | hcase
  · exact Or.inl hfresh
  · have hagrees : ¬ held' → Agrees document adapter :=
      fun hnot => hmatched.agrees (mt hheld hnot)
    exact Or.inr (Or.inl { hmatched with agrees := hagrees })
  · exact Or.inr (Or.inr hcase)

/-- Only a document with an invoice can have been compared. -/
theorem Phase.stored_of_number (hphase : Phase document adapter held)
    (hnumber : document.externalInvoiceNumber.isSome = true) : adapter.isSome = true := by
  rcases hphase with hfresh | hmatched | hcase
  · rw [hfresh.number] at hnumber
    cases hnumber
  · exact hmatched.stored
  · exact hcase.stored

theorem Phase.matched_of_matched
    (hphase : Phase document adapter held) (hmatched : document.reconciliationStatus = .matched) :
    Matched document adapter held := by
  rcases hphase with hfresh | hmatched' | hcase
  · have hunchecked := hfresh.unchecked
    rw [hmatched] at hunchecked
    cases hunchecked
  · exact hmatched'
  · have hopen := hcase.caseOpen
    rw [hmatched] at hopen
    cases hopen

theorem Phase.flagged_of_caseOpen
    (hphase : Phase document adapter held) (hopen : document.reconciliationStatus = .caseOpen) :
    document.status = .reconciliationRequired := by
  rcases hphase with hfresh | hmatched | hcase
  · have hunchecked := hfresh.unchecked
    rw [hopen] at hunchecked
    cases hunchecked
  · have hmatched := hmatched.matched
    rw [hopen] at hmatched
    cases hmatched
  · exact hcase.flagged

/-! ## Statuses -/

theorem unissued_target {status target : LifecycleStatus}
    (htarget : operationPendingStatus type = some target)
    (hallowed : canTransitionInvoice status target = true) :
    unissued target = unissued status := by
  cases type <;> cases htarget <;> cases status <;> first | rfl | cases hallowed

/-- No operation can start on a document that another one holds. -/
theorem not_heldAs
    {type other : OperationType} (htarget : operationPendingStatus type = some target)
    (hnew : document.status ≠ target)
    (hallowed : canTransitionInvoice document.status target = true) :
    ¬ HeldAs document other := by
  rcases document with ⟨status, _, _, _, _, _, _⟩
  rintro (hpending | ⟨-, hflagged⟩)
  · cases type <;> cases htarget <;> cases other <;> cases hpending <;>
      first | exact hnew rfl | cases hallowed
  · change status = _ at hflagged
    subst hflagged
    cases type <;> cases htarget <;> cases hallowed

theorem unissued_failure {target failure : LifecycleStatus}
    (htarget : operationPendingStatus type = some target)
    (hfailure : operationFailureStatus type = some failure) :
    unissued failure = unissued target := by
  cases type <;> cases htarget <;> cases hfailure <;> rfl

theorem pendingStatus_of_failureStatus {failure : LifecycleStatus}
    (hfailure : operationFailureStatus type = some failure) :
    ∃ target, operationPendingStatus type = some target := by
  cases type <;> first | exact ⟨_, rfl⟩ | cases hfailure

theorem failureStatus_of_pendingStatus (htarget : operationPendingStatus type = some target) :
    ∃ failure, operationFailureStatus type = some failure := by
  cases type <;> first | exact ⟨_, rfl⟩ | cases htarget

theorem unissued_pending_iff (htarget : operationPendingStatus type = some target) :
    unissued target = true ↔ type = .issue := by
  cases type <;> cases htarget <;> decide

theorem pending_ne_reconciliationRequired (htarget : operationPendingStatus type = some target) :
    target ≠ .reconciliationRequired ∧ isProviderStatus target = false := by
  cases type <;> cases htarget <;> decide

theorem not_canTransition_case (htarget : operationPendingStatus type = some target) :
    canTransitionInvoice .reconciliationRequired target = false := by
  cases type <;> cases htarget <;> rfl

theorem isProviderStatus_failure {failure : LifecycleStatus}
    (hfailure : operationFailureStatus type = some failure) :
    isProviderStatus failure = false := by
  cases type <;> cases hfailure <;> rfl

theorem issued_of_isProviderStatus {status : LifecycleStatus}
    (hprovider : isProviderStatus status = true) :
    unissued status = false ∧ status ≠ .reconciliationRequired := by
  cases status <;> first | decide | cases hprovider

/-- Only an issue holds a document without an invoice. -/
theorem Phase.type_ne_issue (hphase : Phase document adapter held)
    (hnumber : document.externalInvoiceNumber.isSome = true) (hheld : HeldAs document type) :
    type ≠ .issue := by
  rintro rfl
  rcases hheld with hpending | ⟨hne, -⟩
  · have hissuing : unissued document.status = true := by
      rw [unissued_pending_iff hpending]
    rcases hphase with hfresh | hmatched | hcase
    · rw [hfresh.number] at hnumber
      cases hnumber
    · rw [hmatched.status] at hissuing
      cases hissuing
    · rw [hcase.flagged] at hissuing
      cases hissuing
  · exact hne rfl

/-! ## Operations side by side -/

theorem notHolding_of_apart {other : RunningOperation} (hapart : Apart other operation)
    (hholds : holdsDocument operation = true) : holdsDocument other = false :=
  Bool.eq_false_iff.mpr fun hother => hapart ⟨hother, hholds⟩

theorem apart_of_notHolding {left right : RunningOperation} (hnot : holdsDocument left = false) :
    Apart left right := by
  rintro ⟨hholds, -⟩
  rw [hnot] at hholds
  cases hholds

theorem underWay_of_holds (hholds : holdsDocument operation = true) :
    underWay operation.stage = true :=
  (Bool.and_eq_true _ _ ▸ hholds).2

theorem notHolding_of_free (hfree : operationPendingStatus operation.request.type = none) :
    holdsDocument { operation with stage := stage' } = false := by
  simp [holdsDocument, hfree]

theorem pendingStatus_of_compares (htype : type ∈ [.query, .reconcile]) :
    operationPendingStatus type = none := by
  rw [List.mem_cons, List.mem_singleton] at htype
  rcases htype with htype | htype
  · rw [htype]
    rfl
  · rw [htype]
    rfl

/-- Queries and reconciliations leave the document to others. -/
theorem notHolding_of_compares (htype : operation.request.type ∈ [.query, .reconcile]) :
    holdsDocument { operation with stage := stage' } = false :=
  notHolding_of_free (pendingStatus_of_compares htype)

theorem notHolding_of_ended {answer : OperationAnswer} :
    holdsDocument { operation with stage := .ended answer } = false :=
  Bool.and_false _

theorem held_set {running : List RunningOperation} {operation' : RunningOperation}
    (hoperation : running[position]? = some operation)
    (hkeeps : holdsDocument operation = true → holdsDocument operation' = true)
    (hheld : Held running) : Held (running.set position operation') := by
  obtain ⟨other, hmem, hholds⟩ := hheld
  obtain ⟨index, hindex⟩ := List.mem_iff_getElem?.mp hmem
  by_cases hsame : index = position
  · subst hsame
    cases hoperation.symm.trans hindex
    obtain ⟨hlt, -⟩ := List.getElem?_eq_some_iff.mp hoperation
    exact ⟨operation', List.mem_set hlt _, hkeeps hholds⟩
  · refine ⟨other, ?_, hholds⟩
    rw [List.mem_iff_getElem?]
    exact ⟨index, by rw [getElem?_set_of_ne hsame]; exact hindex⟩

theorem held_set_self {running : List RunningOperation} {operation' : RunningOperation}
    (hoperation : running[position]? = some operation)
    (hholds : holdsDocument operation' = true) : Held (running.set position operation') := by
  obtain ⟨hlt, -⟩ := List.getElem?_eq_some_iff.mp hoperation
  exact ⟨operation', List.mem_set hlt _, hholds⟩

/-- A step keeps the state consistent when it is sound itself and leaves the other
operations sound. -/
theorem consistent_set (state' : OrchestratorState) {operation' : RunningOperation}
    (hconsistent : Consistent state)
    (hoperation : state.running[position]? = some operation)
    (hprovider : ∀ stored, state'.adapter = some stored → isProviderStatus stored.status = true)
    (hphase : Phase state'.document state'.adapter (Held (state.running.set position operation')))
    (hown : OperationSound state'.document state'.adapter operation')
    (hothers : ∀ other ∈ state.running, Apart other operation →
      OperationSound state.document state.adapter other →
        OperationSound state'.document state'.adapter other ∧ Apart other operation') :
    Consistent { state' with running := state.running.set position operation' } where
  provider := hprovider
  phase := hphase
  sound := by
    intro other hmem
    obtain ⟨index, hindex⟩ := List.mem_iff_getElem?.mp hmem
    by_cases hsame : index = position
    · subst hsame
      rw [eq_of_getElem?_set_self hindex]
      exact hown
    · rw [getElem?_set_of_ne hsame] at hindex
      have hmember := List.mem_of_getElem? hindex
      have hapart := hconsistent.apart index position other operation hsame hindex hoperation
      exact (hothers other hmember hapart (hconsistent.sound other hmember)).1
  apart := by
    apply eachApart_set apart_symm hconsistent.apart
    intro found other hne hfound
    have hmember := List.mem_of_getElem? hfound
    have hapart := hconsistent.apart found position other operation hne hfound hoperation
    exact (hothers other hmember hapart (hconsistent.sound other hmember)).2

/-! ## Calls of the provider -/

/-- A call that changes an invoice names it, and adds to what is allowed what the
document adds. -/
structure Changed (adapter : Adapter) (operation : RunningOperation) (stored : StoredInvoice) :
    Prop where
  type : operation.request.type ≠ .issue
  number : operation.document.externalInvoiceNumber.isSome = true
  status : isProviderStatus stored.status = true
  allowed : ∃ before, adapter = some before ∧ ∀ document : InvoiceDocument,
    before.allowedAmount = document.allowedAmount → stored.allowedAmount
      = (recordedDocument document stored operation.request).allowedAmount

/-- The call issues the invoice or changes it. -/
theorem changed_of_carried {stored : StoredInvoice}
    (hcarried : Carried codes adapter operation stored) :
    (operation.request.type = .issue ∧ stored = issueInvoice codes operation.document.totalAmount
      operation.document.taxAmount adapter) ∨ Changed adapter operation stored := by
  unfold Carried at hcarried
  cases hrequest : operation.request with
  | issue details =>
      rw [hrequest] at hcarried
      exact Or.inl ⟨rfl, hcarried⟩
  | void reason =>
      rw [hrequest] at hcarried
      obtain ⟨number, hnumber, hvoid⟩ := Option.bind_eq_some_iff.mp hcarried
      obtain ⟨before, hbefore, rfl⟩ := voidInvoice_eq_some hvoid
      refine Or.inr ⟨by simp [hrequest, OperationRequest.type], by rw [hnumber]; rfl, rfl, before,
        hbefore, fun document hsame => ?_⟩
      rw [hrequest]
      exact hsame
  | allowance amount reason =>
      rw [hrequest] at hcarried
      obtain ⟨number, hnumber, hcreate⟩ := Option.bind_eq_some_iff.mp hcarried
      obtain ⟨-, before, hbefore, rfl⟩ := createAllowance_eq_some hcreate
      refine Or.inr ⟨by simp [hrequest, OperationRequest.type], by rw [hnumber]; rfl, ?_, before,
        hbefore, fun document hsame => ?_⟩
      · change isProviderStatus (allowanceStatus _ _) = true
        unfold allowanceStatus
        split <;> rfl
      · rw [hrequest]
        exact congrArg (· + amount) hsame
  | allowanceVoid =>
      rw [hrequest] at hcarried
      obtain ⟨number, hnumber, hvoid⟩ := Option.bind_eq_some_iff.mp hcarried
      obtain ⟨before, hbefore, rfl⟩ := voidAllowance_eq_some hvoid
      refine Or.inr ⟨by simp [hrequest, OperationRequest.type], by rw [hnumber]; rfl, rfl, before,
        hbefore, fun document _ => ?_⟩
      rw [hrequest]
      rfl
  | query =>
      rw [hrequest] at hcarried
      cases hcarried
  | reconcile =>
      rw [hrequest] at hcarried
      cases hcarried

theorem allowedAmount_recordedDocument_issue
    {result : StoredInvoice} {request : OperationRequest} (htype : request.type = .issue) :
    (recordedDocument document result request).allowedAmount = document.allowedAmount := by
  cases request <;> first | rfl | cases htype

theorem recordedDocument_of_free {result : StoredInvoice}
    {request : OperationRequest} (hfree : operationPendingStatus request.type = none) :
    recordedDocument document result request = document := by
  cases request <;> first | rfl | cases hfree

/-- What is written of a document that was pending. -/
structure Written (document : InvoiceDocument) (result : StoredInvoice)
    (request : OperationRequest) (written : InvoiceDocument) : Prop where
  status : written.status = result.status
  matched : written.reconciliationStatus = .matched
  number : request.type = .issue ∨ document.externalInvoiceNumber.isSome = true →
    written.externalInvoiceNumber.isSome = true

theorem written_recordedDocument {request : OperationRequest}
    (htarget : operationPendingStatus request.type = some target) (document : InvoiceDocument)
    (result : StoredInvoice) :
    Written document result request (recordedDocument document result request) := by
  cases request with
  | issue details => exact ⟨rfl, rfl, fun _ => rfl⟩
  | query => cases htarget
  | void reason => exact ⟨rfl, rfl, fun hnumber => hnumber.resolve_left nofun⟩
  | allowance amount reason => exact ⟨rfl, rfl, fun hnumber => hnumber.resolve_left nofun⟩
  | allowanceVoid => exact ⟨rfl, rfl, fun hnumber => hnumber.resolve_left nofun⟩
  | reconcile => cases htarget

/-- Only operations that mark the document as pending call for a change. -/
theorem holds_of_carried {stored : StoredInvoice} (stage : OperationStage)
    (hcarried : Carried codes adapter operation stored) (hunderWay : underWay stage = true) :
    holdsDocument { operation with stage } = true := by
  unfold Carried at hcarried
  cases hrequest : operation.request with
  | query =>
      rw [hrequest] at hcarried
      cases hcarried
  | reconcile =>
      rw [hrequest] at hcarried
      cases hcarried
  | _ =>
      simp [holdsDocument, OperationRequest.type, operationPendingStatus, hunderWay]

/-! ## Steps -/

section Steps

variable (hconsistent : Consistent state) (hoperation : state.running[position]? = some operation)

include hconsistent hoperation

theorem sound_of_running : OperationSound state.document state.adapter operation :=
  hconsistent.sound operation (List.mem_of_getElem? hoperation)

/-- A step that changes neither the document nor the adapter.  The operation lets
go of the document only when it is not matched. -/
theorem consistent_same (state' : OrchestratorState) (stage' : OperationStage)
    (hdocument : state'.document = state.document)
    (hadapter : state'.adapter = state.adapter)
    (hcomparing : Comparing { operation with stage := stage' })
    (hholds : holdsDocument { operation with stage := stage' } = true →
      holdsDocument operation = true
        ∧ Follows state.document state.adapter { operation with stage := stage' })
    (hreleases : holdsDocument operation = true →
      holdsDocument { operation with stage := stage' } = true
        ∨ state.document.reconciliationStatus ≠ .matched) :
    Consistent { state' with
      running := state.running.set position { operation with stage := stage' } } := by
  have hsound := sound_of_running hconsistent hoperation
  apply consistent_set state' hconsistent hoperation
  · rw [hadapter]
    exact hconsistent.provider
  · rw [hdocument, hadapter]
    by_cases hmatched : state.document.reconciliationStatus = .matched
    · apply hconsistent.phase.of_held
      apply held_set hoperation
      intro hheld
      exact (hreleases hheld).resolve_right (not_not_intro hmatched)
    · rcases hconsistent.phase with hfresh | hphase | hcase
      · exact Or.inl hfresh
      · exact absurd hphase.matched hmatched
      · exact Or.inr (Or.inr hcase)
  · rw [hdocument, hadapter]
    exact ⟨hsound.numbered, hcomparing, fun hheld => hsound.held (hholds hheld).1,
      fun hheld _ => (hholds hheld).2⟩
  · intro other _ hapart hother
    rw [hdocument, hadapter]
    exact ⟨hother, fun hboth => hapart ⟨hboth.1, (hholds hboth.2).1⟩⟩

/-- An operation that never holds the document takes a step beside it. -/
theorem consistent_aside (state' : OrchestratorState) (stage' : OperationStage)
    (hnot : ∀ stage, holdsDocument { operation with stage } = false)
    (hdocument : state'.document = state.document) (hadapter : state'.adapter = state.adapter)
    (hcomparing : Comparing { operation with stage := stage' }) :
    Consistent { state' with
      running := state.running.set position { operation with stage := stage' } } := by
  apply consistent_same hconsistent hoperation state' stage' hdocument hadapter hcomparing
  · intro hholds
    rw [hnot] at hholds
    cases hholds
  · intro hholds
    have hfree := hnot operation.stage
    rw [hholds] at hfree
    cases hfree

/-- A failing operation lets go of a document that is not matched. -/
theorem notMatched_of_failing (hstage : operation.stage = .failing)
    (hopen : failsSilently state.document operation = false)
    (hholds : holdsDocument operation = true) :
    state.document.reconciliationStatus ≠ .matched := by
  intro hmatched
  have hphase := hconsistent.phase.matched_of_matched hmatched
  rcases (sound_of_running hconsistent hoperation).held hholds with hpending | ⟨-, hflagged⟩
  · rw [failsSilently, hstage, hpending, hmatched] at hopen
    simp at hopen
  · exact hphase.unflagged hflagged

/-- Nothing has to be restored before a restart. -/
theorem restoreMockAdapter_eq_self : restoreMockAdapter state operation = state := by
  have hsound := sound_of_running hconsistent hoperation
  have hsame : restoreLocalState state.adapter operation.document = state.adapter := by
    unfold restoreLocalState
    split
    · next hadapter hnumber =>
        have hstored := hconsistent.phase.stored_of_number
          (hsound.numbered (by rw [hnumber]; rfl))
        rw [hadapter] at hstored
        cases hstored
    · rfl
  unfold restoreMockAdapter
  split
  · rfl
  · rw [hsame]

theorem consistent_claims {operations : List ProviderOperation}
    (htarget : operationPendingStatus operation.request.type = some target)
    (hnew : state.document.status ≠ target)
    (hallowed : canTransitionInvoice state.document.status target = true) :
    Consistent { state with
      operations := operations
      document := { state.document with status := target }
      running := state.running.set position { operation with stage := .started } } := by
  have hsound := sound_of_running hconsistent hoperation
  have hidle : ∀ other ∈ state.running, holdsDocument other = false := by
    intro other hmem
    by_contra hholds
    rw [Bool.not_eq_false] at hholds
    exact not_heldAs htarget hnew hallowed ((hconsistent.sound other hmem).held hholds)
  have hnotHeld : ¬ Held state.running := by
    rintro ⟨other, hmem, hholds⟩
    rw [hidle other hmem] at hholds
    cases hholds
  have hclaims : holdsDocument { operation with stage := .started } = true := by
    simp [holdsDocument, htarget, underWay]
  have hstatus := unissued_target htarget hallowed
  have hallowedAmount : ∀ stored, state.adapter = some stored →
      stored.allowedAmount = state.document.allowedAmount := by
    intro stored hstored
    rcases hconsistent.phase with hfresh | hmatched | hcase
    · rw [hfresh.stored stored hstored, hfresh.allowed]
    · obtain ⟨agreed, hagreed, -, hamount⟩ := hmatched.agrees hnotHeld
      cases hstored.symm.trans hagreed
      exact hamount.symm
    · rw [hcase.flagged, not_canTransition_case htarget] at hallowed
      cases hallowed
  refine consistent_set { state with
    operations := operations
    document := { state.document with status := target } } hconsistent hoperation
    hconsistent.provider ?_ ⟨hsound.numbered, trivial, fun _ => Or.inl htarget, ?_⟩ ?_
  · rcases hconsistent.phase with hfresh | hmatched | hcase
    · exact Or.inl { hfresh with status := hstatus.trans hfresh.status }
    · exact Or.inr (Or.inl { hmatched with
        status := hstatus.trans hmatched.status
        unflagged := (pending_ne_reconciliationRequired htarget).1
        agrees := fun hnot => absurd (held_set_self hoperation hclaims) hnot })
    · rw [hcase.flagged, not_canTransition_case htarget] at hallowed
      cases hallowed
  · intro _ _
    exact hallowedAmount
  · intro other hmem _ hother
    exact ⟨sound_of_notHolding (hidle other hmem) hother.comparing hother.numbered,
      apart_of_notHolding (hidle other hmem)⟩

theorem consistent_calls {stored : StoredInvoice} (hstage : operation.stage = .started)
    (hcarried : Carried codes state.adapter operation stored) :
    Consistent { state with
      adapter := some stored
      running := state.running.set position { operation with stage := .recording stored } } := by
  have hsound := sound_of_running hconsistent hoperation
  have hholds : holdsDocument operation = true :=
    holds_of_carried operation.stage hcarried (by rw [hstage]; rfl)
  have hholds' : holdsDocument { operation with stage := .recording stored } = true :=
    holds_of_carried (.recording stored) hcarried rfl
  have hfollows : state.document.status ≠ .reconciliationRequired → ∀ before,
      state.adapter = some before → before.allowedAmount = state.document.allowedAmount := by
    intro hunflagged before hbefore
    have hfollows := hsound.follows hholds hunflagged
    rw [Follows, hstage] at hfollows
    exact hfollows before hbefore
  refine consistent_set { state with adapter := some stored } hconsistent hoperation ?_ ?_
    ⟨hsound.numbered, trivial, fun _ => hsound.held hholds,
      fun _ hunflagged => ⟨rfl, ?_⟩⟩ ?_
  · rintro _ ⟨⟩
    rcases changed_of_carried hcarried with ⟨-, rfl⟩ | hchanged
    · cases hadapter : state.adapter with
      | none => rfl
      | some before => exact hconsistent.provider before hadapter
    · exact hchanged.status
  · rcases hconsistent.phase with hfresh | hmatched | hcase
    · refine Or.inl { hfresh with stored := ?_ }
      rintro _ ⟨⟩
      rcases changed_of_carried hcarried with ⟨-, rfl⟩ | hchanged
      · cases hadapter : state.adapter with
        | none => rfl
        | some before => exact hfresh.stored before hadapter
      · have hnumber := hsound.numbered hchanged.number
        rw [hfresh.number] at hnumber
        cases hnumber
    · exact Or.inr (Or.inl { hmatched with
        stored := rfl
        agrees := fun hnot => absurd (held_set_self hoperation hholds') hnot })
    · exact Or.inr (Or.inr { hcase with stored := rfl })
  · rcases changed_of_carried hcarried with ⟨htype, hissued⟩ | hchanged
    · rw [allowedAmount_recordedDocument_issue htype, hissued]
      cases hadapter : state.adapter with
      | some before => exact hfollows hunflagged before hadapter
      | none =>
          rcases hconsistent.phase with hfresh | hmatched | hcase
          · exact hfresh.allowed.symm
          · have hstored := hmatched.stored
            rw [hadapter] at hstored
            cases hstored
          · exact absurd hcase.flagged hunflagged
    · obtain ⟨before, hbefore, hallowed⟩ := hchanged.allowed
      exact hallowed state.document (hfollows hunflagged before hbefore)
  · intro other _ hapart hother
    have hnot := notHolding_of_apart hapart hholds
    exact ⟨sound_of_notHolding hnot hother.comparing hother.numbered, apart_of_notHolding hnot⟩

theorem consistent_flags {code : MismatchCode} {rest : List MismatchCode}
    {result : StoredInvoice} (hstage : operation.stage = .flagging code rest result) :
    Consistent { (flag state rest result).1 with
      running := state.running.set position
        { operation with stage := (flag state rest result).2 } } := by
  have hsound := sound_of_running hconsistent hoperation
  have hcomparing := hsound.comparing
  rw [Comparing, hstage] at hcomparing
  have hnumber := hsound.numbered hcomparing.2
  have hnot : holdsDocument { operation with stage := (flag state rest result).2 } = false :=
    notHolding_of_compares hcomparing.1
  refine consistent_set (flag state rest result).1 hconsistent hoperation hconsistent.provider
    (Or.inr (Or.inr ⟨hnumber, rfl, rfl, hconsistent.phase.stored_of_number hnumber⟩))
    (sound_of_notHolding hnot ?_ hsound.numbered) ?_
  · cases rest with
    | nil => trivial
    | cons code rest => exact hcomparing
  · intro other hmem _ hother
    refine ⟨⟨hother.numbered, hother.comparing, fun hholds => Or.inr ⟨?_, rfl⟩,
      fun _ hunflagged => absurd rfl hunflagged⟩, fun hboth => ?_⟩
    · exact hconsistent.phase.type_ne_issue hnumber (hother.held hholds)
    · rw [hnot] at hboth
      cases hboth.2

/-- The document that is marked has been matched before, or its case is hidden. -/
theorem consistent_marks {result : StoredInvoice} (hstage : operation.stage = .marking result)
    (hopen : hidesCase state.document operation = false) :
    Consistent { state with
      document := markMatched state.document
      running := state.running.set position { operation with stage := .recording result } } := by
  have hsound := sound_of_running hconsistent hoperation
  have hcomparing := hsound.comparing
  rw [Comparing, hstage] at hcomparing
  have hmatched : state.document.reconciliationStatus = .matched := by
    rcases hconsistent.phase with hfresh | hmatched | hcase
    · have hnumber := hsound.numbered hcomparing.2
      rw [hfresh.number] at hnumber
      cases hnumber
    · exact hmatched.matched
    · rw [hidesCase, hstage] at hopen
      exact absurd hcase.caseOpen (of_decide_eq_false hopen)
  have hsame : markMatched state.document = state.document := by
    rw [markMatched, ← hmatched]
  have hnot : ∀ stage, holdsDocument { operation with stage } = false := fun stage =>
    notHolding_of_compares hcomparing.1
  rw [hsame]
  exact consistent_aside hconsistent hoperation state (.recording result) hnot rfl rfl trivial

theorem consistent_records {result : StoredInvoice} (hstage : operation.stage = .recording result)
    (hrecords : records state.document result operation = true) :
    Consistent { state with
      document := recordedDocument state.document result operation.request
      operations := completed state.operations operation .succeeded
      outstanding := recordedAllowances state.outstanding result operation
      running := state.running.set position { operation with stage := .ended .done } } := by
  have hsound := sound_of_running hconsistent hoperation
  cases htarget : operationPendingStatus operation.request.type with
  | none =>
      rw [recordedDocument_of_free htarget]
      apply consistent_same hconsistent hoperation { state with
        operations := completed state.operations operation .succeeded
        outstanding := recordedAllowances state.outstanding result operation } (.ended .done)
        rfl rfl trivial
      · intro hholds
        rw [notHolding_of_ended] at hholds
        cases hholds
      · intro hholds
        rw [holdsDocument, htarget] at hholds
        cases hholds
  | some target =>
      have hstatus : state.document.status = target := by
        have hpending := (Bool.and_eq_true _ _ ▸ hrecords).1
        rw [stillPending, htarget] at hpending
        exact of_decide_eq_true hpending
      have hholds : holdsDocument operation = true := by
        rw [holdsDocument, htarget, hstage]
        rfl
      have hunflagged : state.document.status ≠ .reconciliationRequired := by
        rw [hstatus]
        exact (pending_ne_reconciliationRequired htarget).1
      have hfollows := hsound.follows hholds hunflagged
      rw [Follows, hstage] at hfollows
      obtain ⟨hadapter, hallowed⟩ := hfollows
      have hissued := issued_of_isProviderStatus (hconsistent.provider result hadapter)
      have hwritten := written_recordedDocument htarget state.document result
      have hnumber : (recordedDocument state.document result
          operation.request).externalInvoiceNumber.isSome = true := by
        apply hwritten.number
        rw [← unissued_pending_iff htarget, ← hstatus]
        rcases hconsistent.phase with hfresh | hphase | hcase
        · exact Or.inl hfresh.status
        · exact Or.inr hphase.number
        · exact Or.inr hcase.number
      have hagrees : Agrees (recordedDocument state.document result operation.request)
          state.adapter := ⟨result, hadapter, hwritten.status, hallowed.symm⟩
      refine consistent_set { state with
        document := recordedDocument state.document result operation.request
        operations := completed state.operations operation .succeeded
        outstanding := recordedAllowances state.outstanding result operation } hconsistent
        hoperation hconsistent.provider
        (Or.inr (Or.inl ⟨hnumber, ?_, ?_, hwritten.matched, ?_, fun _ => hagrees⟩))
        (sound_of_notHolding notHolding_of_ended trivial fun _ => hnumber) ?_
      · rw [hwritten.status]
        exact hissued.1
      · rw [hwritten.status]
        exact hissued.2
      · change state.adapter.isSome = true
        rw [hadapter]
        rfl
      · intro other _ hapart hother
        have hnot := notHolding_of_apart hapart hholds
        exact ⟨sound_of_notHolding hnot hother.comparing fun _ => hnumber,
          apart_of_notHolding hnot⟩

/-- An operation ends on a document that it leaves as it is. -/
theorem consistent_ends (operations : List ProviderOperation) (answer : OperationAnswer)
    (hreleases : holdsDocument operation = true →
      state.document.reconciliationStatus ≠ .matched) :
    Consistent { state with
      operations := operations
      running := state.running.set position { operation with stage := .ended answer } } := by
  apply consistent_same hconsistent hoperation { state with operations := operations }
    (.ended answer) rfl rfl trivial
  · intro hholds
    rw [notHolding_of_ended] at hholds
    cases hholds
  · intro hholds
    exact Or.inr (hreleases hholds)

/-- A document that is still pending and not matched has no invoice yet. -/
theorem consistent_gives (hstage : operation.stage = .failing)
    (hopen : failsSilently state.document operation = false) :
    Consistent { state with
      document := failedDocument state.document operation
      operations := completed state.operations operation .failed
      running := state.running.set position { operation with stage := .ended .failed } } := by
  have hsound := sound_of_running hconsistent hoperation
  have hreleases := notMatched_of_failing hconsistent hoperation hstage hopen
  have hunchanged : failedDocument state.document operation = state.document →
      Consistent { state with
        document := failedDocument state.document operation
        operations := completed state.operations operation .failed
        running := state.running.set position { operation with stage := .ended .failed } } := by
    intro hsame
    rw [hsame]
    exact consistent_ends hconsistent hoperation _ .failed hreleases
  cases hfailure : operationFailureStatus operation.request.type with
  | none =>
      apply hunchanged
      rw [failedDocument, hfailure]
  | some failure =>
      by_cases hpending : stillPending state.document operation = true
      · obtain ⟨target, htarget⟩ := pendingStatus_of_failureStatus hfailure
        have hstatus : state.document.status = target := by
          rw [stillPending, htarget] at hpending
          exact of_decide_eq_true hpending
        have hholds : holdsDocument operation = true := by
          rw [holdsDocument, htarget, hstage]
          rfl
        have hwritten : failedDocument state.document operation
            = { state.document with status := failure } := by
          simp only [failedDocument, hfailure, if_pos hpending]
        have hfresh : Fresh state.document state.adapter := by
          rcases hconsistent.phase with hfresh | hphase | hcase
          · exact hfresh
          · exact absurd hphase.matched (hreleases hholds)
          · have hunflagged := (pending_ne_reconciliationRequired htarget).1
            exact absurd (hstatus.symm.trans hcase.flagged) hunflagged
        have hunissued : unissued failure = true := by
          rw [unissued_failure htarget hfailure, ← hstatus]
          exact hfresh.status
        rw [hwritten]
        refine consistent_set { state with
          document := { state.document with status := failure }
          operations := completed state.operations operation .failed } hconsistent hoperation
          hconsistent.provider (Or.inl { hfresh with status := hunissued })
          (sound_of_notHolding notHolding_of_ended trivial hsound.numbered) ?_
        intro other _ hapart hother
        have hnot := notHolding_of_apart hapart hholds
        exact ⟨sound_of_notHolding hnot hother.comparing hother.numbered,
          apart_of_notHolding hnot⟩
      · apply hunchanged
        simp only [failedDocument, hfailure, if_neg hpending]

theorem consistent_of_steps (hsteps : Steps codes state operation state' stage')
    (hfails : failsSilently state.document operation = false)
    (hhides : hidesCase state.document operation = true → stage' = .failing) :
    Consistent { state' with
      running := state.running.set position { operation with stage := stage' } } := by
  have hsound := sound_of_running hconsistent hoperation
  cases hsteps with
  | stays answer hstage =>
      apply consistent_ends hconsistent hoperation
      intro hholds
      have hunderWay := underWay_of_holds hholds
      apply notMatched_of_failing hconsistent hoperation _ hfails hholds
      rcases hstage with hstage | hstage
      · simp only [List.mem_cons, List.not_mem_nil, or_false] at hstage
        rcases hstage with hstage | hstage | hstage
        · rw [hstage] at hunderWay
          cases hunderWay
        · rw [hstage] at hunderWay
          cases hunderWay
        · exact hstage
      · rw [hstage] at hunderWay
        cases hunderWay
  | restores hstage =>
      rw [restoreMockAdapter_eq_self hconsistent hoperation]
      apply consistent_same hconsistent hoperation state .restored rfl rfl trivial
      · intro hholds
        cases underWay_of_holds hholds
      · intro hholds
        have hunderWay := underWay_of_holds hholds
        rw [hstage] at hunderWay
        cases hunderWay
  | registers hstage hfree =>
      have hnot : ∀ stage, holdsDocument { operation with stage } = false :=
        fun _ => notHolding_of_free hfree
      exact consistent_aside hconsistent hoperation
        { state with operations := registered state operation } .started hnot rfl rfl trivial
  | claims target hstage htarget hnew hallowed hcurrent =>
      rw [← hcurrent] at hnew hallowed
      exact consistent_claims hconsistent hoperation htarget hnew hallowed
  | calls stored hstage hcarried => exact consistent_calls hconsistent hoperation hstage hcarried
  | compares stored mismatches hstage htype hnumber hadapter =>
      have hnot : ∀ stage, holdsDocument { operation with stage } = false :=
        fun _ => notHolding_of_compares htype
      apply consistent_aside hconsistent hoperation state _ hnot rfl rfl
      cases mismatches with
      | nil => exact ⟨htype, hnumber⟩
      | cons code rest => exact ⟨htype, hnumber⟩
  | fails hstage =>
      apply consistent_same hconsistent hoperation state .failing rfl rfl trivial
      · intro hholds
        rw [holdsDocument, Bool.and_eq_true] at hholds
        refine ⟨?_, trivial⟩
        rw [holdsDocument, hstage, Bool.and_true]
        exact hholds.1
      · intro hholds
        rw [holdsDocument, hstage, Bool.and_true] at hholds
        refine Or.inl ?_
        rw [holdsDocument, Bool.and_eq_true]
        exact ⟨hholds, rfl⟩
  | flags code rest result hstage => exact consistent_flags hconsistent hoperation hstage
  | marks result hstage =>
      apply consistent_marks hconsistent hoperation hstage
      rw [Bool.eq_false_iff]
      intro hhidden
      cases hhides hhidden
  | records result hstage hrecords =>
      exact consistent_records hconsistent hoperation hstage hrecords
  | gives hstage => exact consistent_gives hconsistent hoperation hstage hfails

end Steps

/-! ## Runs -/

theorem stage_of_interrupted {fails : Bool}
    (hhidden : hidesCase state.document operation = true) (hfails : fails = true) :
    (outcome codes state operation fails).2 = .failing := by
  subst hfails
  change (interrupted state operation).2 = _
  unfold interrupted
  cases hstage : operation.stage with
  | marking result => rfl
  | _ => simp [hidesCase, hstage] at hhidden

theorem consistent_advance {position : ℕ} {fails : Bool} (hconsistent : Consistent state)
    (hopen : isOpen state (.advance position fails) = true) :
    Consistent (orchestratorStep codes state (.advance position fails)) := by
  cases hoperation : state.running[position]? with
  | none =>
      simp only [orchestratorStep, hoperation]
      exact hconsistent
  | some operation =>
      simp only [isOpen, hoperation, Option.all_some, Bool.and_eq_true, Bool.not_eq_true'] at hopen
      simp only [orchestratorStep, hoperation]
      apply consistent_of_steps hconsistent hoperation (steps_outcome codes state operation fails)
        hopen.1
      intro hhidden
      rw [hhidden, Bool.not_true, Bool.or_false] at hopen
      exact stage_of_interrupted hhidden hopen.2

theorem firstStage_cases (document : InvoiceDocument) (request : OperationRequest) :
    firstStage document request = .read
      ∨ ∃ answer, firstStage document request = .ended answer := by
  unfold firstStage
  split
  · split
    · exact Or.inr ⟨_, rfl⟩
    · exact Or.inl rfl
  · exact Or.inl rfl

theorem consistent_begin (request : OperationRequest) (idempotencyKey : Text)
    (hconsistent : Consistent state) :
    Consistent (orchestratorStep codes state (.begin request idempotencyKey)) := by
  let started : RunningOperation :=
    ⟨request, idempotencyKey, state.document, firstStage state.document request⟩
  obtain ⟨hidle, hcomparing⟩ : underWay started.stage = false ∧ Comparing started := by
    change underWay (firstStage state.document request) = false ∧ _
    rcases firstStage_cases state.document request with hfirst | ⟨answer, hfirst⟩
    · simp only [started, Comparing, hfirst, underWay, and_self]
    · simp only [started, Comparing, hfirst, underWay, and_self]
  have hnot : holdsDocument started = false := by
    rw [holdsDocument, hidle, Bool.and_false]
  constructor
  · exact hconsistent.provider
  · apply hconsistent.phase.of_held
    rintro ⟨other, hmem, hholds⟩
    exact ⟨other, List.mem_append_left _ hmem, hholds⟩
  · intro other hmem
    rcases List.mem_append.mp hmem with hmem | hmem
    · exact hconsistent.sound other hmem
    · rw [List.mem_singleton.mp hmem]
      exact sound_of_notHolding hnot hcomparing id
  · apply eachApart_append apart_symm hconsistent.apart
    intro other _
    exact apart_symm _ _ (apart_of_notHolding hnot)

/-- Runs of operations keep the state consistent as long as none fails silently. -/
theorem consistent_exec {commands : List OrchestratorCommand} (hrestart : .restart ∉ commands)
    (hconsistent : Consistent state)
    (hopen : Safely (orchestratorStep codes) (fun state command => isOpen state command = true)
      state commands) : Consistent (exec (orchestratorStep codes) state commands) := by
  induction commands generalizing state with
  | nil => exact hconsistent
  | cons command commands ih =>
      rw [List.mem_cons, not_or] at hrestart
      rw [exec_cons]
      apply ih hrestart.2 _ hopen.2
      cases command with
      | begin request idempotencyKey => exact consistent_begin request idempotencyKey hconsistent
      | advance position fails => exact consistent_advance hconsistent hopen.1
      | restart => exact absurd rfl hrestart.1

/-- A state in which no operation is in progress is accounted for. -/
theorem accounted_of_quiet (hconsistent : Consistent state) (hquiet : Quiet state) :
    Accounted state := by
  have hnotHeld : ¬ Held state.running := by
    rintro ⟨operation, hmem, hholds⟩
    have hunderWay := underWay_of_holds hholds
    have hended := hquiet operation hmem
    cases hstage : operation.stage with
    | ended answer =>
        rw [hstage] at hunderWay
        cases hunderWay
    | _ =>
        rw [hstage] at hended
        cases hended
  by_cases hmatched : state.document.reconciliationStatus = .matched
  · exact Or.inl ((hconsistent.phase.matched_of_matched hmatched).agrees hnotHeld)
  · exact Or.inr hmatched

/-! ## Runs that leave the condition -/

theorem not_accounted (hconsistent : Consistent state)
    (hstatus : isProviderStatus state'.document.status = false)
    (hmatched : state'.document.reconciliationStatus = .matched)
    (hadapter : state'.adapter = state.adapter) : ¬ Accounted state' := by
  rintro (⟨stored, hstored, hsame, -⟩ | hnot)
  · rw [hadapter] at hstored
    rw [hsame, hconsistent.provider stored hstored] at hstatus
    cases hstatus
  · exact hnot hmatched

/-- An operation takes two steps, of which only the first one may fail. -/
theorem exec_twice {fails : Bool} {stage : OperationStage}
    (hoperation : state.running[position]? = some operation)
    (hstage : (outcome codes state operation fails).2 = stage) :
    exec (orchestratorStep codes) state [.advance position fails, .advance position false]
      = advanceOperation codes (advanceOperation codes state position operation fails) position
        { operation with stage } false := by
  obtain ⟨hlt, -⟩ := List.getElem?_eq_some_iff.mp hoperation
  have hnext : (advanceOperation codes state position operation fails).running[position]?
      = some { operation with stage } := by
    rw [← hstage]
    exact List.getElem?_set_self hlt
  simp only [exec_cons, exec_nil, orchestratorStep, hoperation, hnext]

theorem not_accounted_of_failsSilently {fails : Bool} (hconsistent : Consistent state)
    (hoperation : state.running[position]? = some operation)
    (hfails : failsSilently state.document operation = true) :
    ¬ Accounted (exec (orchestratorStep codes) state
      [.advance position fails, .advance position false]) := by
  simp only [failsSilently, Bool.and_eq_true, decide_eq_true_eq] at hfails
  obtain ⟨⟨hstage, hpending⟩, hmatched⟩ := hfails
  obtain ⟨document, houtcome, hstatus, hkept⟩ : ∃ document,
      outcome codes state operation fails = ({ state with
        document := document
        operations := (outcome codes state operation fails).1.operations }, .ended .failed)
      ∧ isProviderStatus document.status = false
      ∧ document.reconciliationStatus = .matched := by
    cases fails with
    | true =>
        refine ⟨state.document, ?_, (pending_ne_reconciliationRequired hpending).2, hmatched⟩
        simp only [outcome, if_true, interrupted, hstage]
    | false =>
        obtain ⟨failure, hfailure⟩ := failureStatus_of_pendingStatus hpending
        refine ⟨{ state.document with status := failure }, ?_, isProviderStatus_failure hfailure,
          hmatched⟩
        simp [outcome, nextStep, hstage, failOperation, failedDocument, hfailure, stillPending,
          hpending]
  rw [exec_twice hoperation (congrArg Prod.snd houtcome)]
  apply not_accounted hconsistent
  · change isProviderStatus (outcome codes state operation fails).1.document.status = false
    rw [houtcome]
    exact hstatus
  · change (outcome codes state operation fails).1.document.reconciliationStatus = .matched
    rw [houtcome]
    exact hkept
  · change (outcome codes state operation fails).1.adapter = state.adapter
    rw [houtcome]

/-- A query or a reconciliation records its result in the operation alone. -/
theorem recordResult_of_free (hfree : operationPendingStatus operation.request.type = none)
    (state : OrchestratorState) (result : StoredInvoice) (stage : OperationStage) :
    (recordResult state { operation with stage } result).1.document = state.document
      ∧ (recordResult state { operation with stage } result).1.adapter = state.adapter := by
  unfold recordResult
  split
  · exact ⟨recordedDocument_of_free hfree, rfl⟩
  · exact ⟨rfl, rfl⟩

theorem not_accounted_of_hidesCase (hconsistent : Consistent state)
    (hoperation : state.running[position]? = some operation)
    (hhides : hidesCase state.document operation = true) :
    ¬ Accounted (exec (orchestratorStep codes) state
      [.advance position false, .advance position false]) := by
  have hsound := sound_of_running hconsistent hoperation
  cases hstage : operation.stage with
  | marking result =>
      rw [hidesCase, hstage] at hhides
      have hcomparing := hsound.comparing
      rw [Comparing, hstage] at hcomparing
      have hflagged := hconsistent.phase.flagged_of_caseOpen (of_decide_eq_true hhides)
      have houtcome : outcome codes state operation false
          = ({ state with document := markMatched state.document }, .recording result) := by
        simp only [outcome, Bool.false_eq_true, if_false, nextStep, hstage]
      rw [exec_twice hoperation (congrArg Prod.snd houtcome)]
      have hfinal := recordResult_of_free (pendingStatus_of_compares hcomparing.1)
        (advanceOperation codes state position operation false) result (.recording result)
      apply not_accounted hconsistent
      · refine (congrArg (isProviderStatus ·.status) hfinal.1).trans ?_
        change isProviderStatus (outcome codes state operation false).1.document.status = false
        rw [houtcome]
        exact congrArg isProviderStatus hflagged
      · refine (congrArg (·.reconciliationStatus) hfinal.1).trans ?_
        change (outcome codes state operation false).1.document.reconciliationStatus = .matched
        rw [houtcome]
        rfl
      · refine hfinal.2.trans ?_
        change (outcome codes state operation false).1.adapter = state.adapter
        rw [houtcome]
  | _ => simp [hidesCase, hstage] at hhides

theorem not_accounted_of_not_isOpen {fails : Bool} (hconsistent : Consistent state)
    (hclosed : isOpen state (.advance position fails) = false) :
    ¬ Accounted (exec (orchestratorStep codes) state
      [.advance position fails, .advance position false]) := by
  cases hoperation : state.running[position]? with
  | none =>
      rw [isOpen, hoperation] at hclosed
      cases hclosed
  | some operation =>
      rw [isOpen, hoperation, Option.all_some, Bool.and_eq_false_iff] at hclosed
      rcases hclosed with hfails | hhides
      · rw [Bool.not_eq_false'] at hfails
        exact not_accounted_of_failsSilently hconsistent hoperation hfails
      · rw [Bool.or_eq_false_iff, Bool.not_eq_false'] at hhides
        obtain ⟨rfl, hhides⟩ := hhides
        exact not_accounted_of_hidesCase hconsistent hoperation hhides

/-- Whenever no operation is in progress the document is accounted for, in every
run of operations in which none fails silently and none hides a case.  The first
operation that does leaves a matched document that differs from the provider. -/
theorem accounted_while_open (codes : ReferenceCodes) (totalAmount taxAmount : ℤ)
    {commands : List OrchestratorCommand} (hrestart : .restart ∉ commands)
    (hopen : Safely (orchestratorStep codes) (fun state command => isOpen state command = true)
      (.opened totalAmount taxAmount) commands) :
    (∀ before, before <+: commands →
      Quiet (exec (orchestratorStep codes) (.opened totalAmount taxAmount) before) →
        Accounted (exec (orchestratorStep codes) (.opened totalAmount taxAmount) before))
      ∧ ∀ position fails, isOpen
          (exec (orchestratorStep codes) (.opened totalAmount taxAmount) commands)
          (.advance position fails) = false →
        ¬ Accounted (exec (orchestratorStep codes) (.opened totalAmount taxAmount)
          (commands ++ [.advance position fails, .advance position false])) := by
  constructor
  · rintro before ⟨after, rfl⟩ hquiet
    apply accounted_of_quiet _ hquiet
    apply consistent_exec _ (consistent_opened totalAmount taxAmount)
    · exact (safely_append.mp hopen).1
    · exact fun hmem => hrestart (List.mem_append_left after hmem)
  · intro position fails hclosed
    rw [exec_append]
    apply not_accounted_of_not_isOpen _ hclosed
    exact consistent_exec hrestart (consistent_opened totalAmount taxAmount) hopen

/-! ## An allowance that is not recorded -/

/-- The provider accepts the allowance, and the transaction that records it fails. -/
def interruptedAllowance : List OrchestratorCommand :=
  undisturbed 0 (.issue []) ++ [.begin (.allowance 3 ['a']) ['k'], .advance 1 false,
    .advance 1 false, .advance 1 false, .advance 1 true]

theorem restart_notMem_interruptedAllowance : .restart ∉ interruptedAllowance := by
  simp [interruptedAllowance, undisturbed]

theorem accounted_while_open_interruptedAllowance :
    Accounted (exec (orchestratorStep sampleCodes) (.opened 10 0) (undisturbed 0 (.issue [])))
      ∧ ¬ Accounted (exec (orchestratorStep sampleCodes) (.opened 10 0)
        (interruptedAllowance ++ [.advance 1 false, .advance 1 false])) := by
  have hholds := accounted_while_open sampleCodes 10 0 restart_notMem_interruptedAllowance
    (by decide)
  exact ⟨hholds.1 _ (List.prefix_append _ _) (by decide), hholds.2 1 false (by decide)⟩

/-- The allowance has failed for the document, which is still matched and allows
nothing, but not for the provider. -/
theorem interrupted_allowance_diverges :
    let run := interruptedAllowance ++ [.advance 1 false]
    let final := exec (orchestratorStep sampleCodes) (.opened 10 0) run
    .restart ∉ run ∧ Quiet final ∧ final.document.status = .allowanceFailed
      ∧ final.document.allowedAmount = 0 ∧ final.adapter.map (·.allowedAmount) = some 3
      ∧ ¬ Accounted final := by
  intro run final
  have hamounts : final.document.allowedAmount = 0
      ∧ final.adapter.map (·.allowedAmount) = some 3 := by decide
  refine ⟨?_, by decide, by decide, hamounts.1, hamounts.2, ?_⟩
  · simp [run, restart_notMem_interruptedAllowance]
  · rintro (⟨stored, hstored, -, hallowed⟩ | hnot)
    · rw [hstored, ← hamounts.1] at hamounts
      cases (Option.some.inj hamounts.2).symm.trans hallowed.symm
    · exact hnot (by decide)

end Stallorder.ProviderAgreement
