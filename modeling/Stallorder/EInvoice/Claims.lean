import Stallorder.EInvoice.InvoiceOrchestrator

/-!
# The steps of invoice operations

The calls of the provider and the steps of the operations are enumerated once.
What the operations keep about the document is proved from that enumeration.
-/

namespace Stallorder.Claims

open MockProvider InvoiceOrchestrator

variable {codes : ReferenceCodes} {state state' : OrchestratorState}
variable {operation : RunningOperation} {stage' : OperationStage} {position : ℕ}

/-! ## The calls of the provider -/

/-- The provider carries the operation out and remembers the invoice as `stored`. -/
def Carried (codes : ReferenceCodes) (adapter : Adapter) (operation : RunningOperation)
    (stored : StoredInvoice) : Prop :=
  let document := operation.document
  match operation.request with
  | .issue _ => stored = issueInvoice codes document.totalAmount document.taxAmount adapter
  | .void reason => document.externalInvoiceNumber.bind (voidInvoice adapter · reason)
      = some stored
  | .allowance amount reason => document.externalInvoiceNumber.bind
      (createAllowance codes adapter · amount reason) = some stored
  | .allowanceVoid => document.externalInvoiceNumber.bind (voidAllowance adapter) = some stored
  | .query | .reconcile => False

theorem requireInvoice_eq_some {adapter : Adapter} {number : Text} {stored : StoredInvoice}
    (hfound : requireInvoice adapter number = some stored) : adapter = some stored :=
  (Option.filter_eq_some_iff.mp hfound).1

theorem voidInvoice_eq_some {adapter : Adapter} {number reason : Text} {stored : StoredInvoice}
    (hvoid : voidInvoice adapter number reason = some stored) :
    ∃ before, adapter = some before ∧ stored = { before with status := .voided } := by
  obtain ⟨_, -, hvoid⟩ := Option.bind_eq_some_iff.mp hvoid
  obtain ⟨before, hbefore, hvoid⟩ := Option.bind_eq_some_iff.mp hvoid
  obtain ⟨_, -, hvoid⟩ := Option.bind_eq_some_iff.mp hvoid
  exact ⟨before, requireInvoice_eq_some hbefore, (Option.some.inj hvoid).symm⟩

theorem createAllowance_eq_some {adapter : Adapter} {number reason : Text} {amount : ℤ}
    {stored : StoredInvoice}
    (hcreate : createAllowance codes adapter number amount reason = some stored) :
    0 < amount ∧ ∃ before, adapter = some before ∧ stored = { before with
      allowedAmount := before.allowedAmount + amount
      externalAllowanceReference :=
        some (codes.allowanceReference (before.allowedAmount + amount))
      status := allowanceStatus (before.allowedAmount + amount) before.totalAmount } := by
  obtain ⟨_, hinput, hcreate⟩ := Option.bind_eq_some_iff.mp hcreate
  obtain ⟨before, hbefore, hcreate⟩ := Option.bind_eq_some_iff.mp hcreate
  obtain ⟨_, -, hcreate⟩ := Option.bind_eq_some_iff.mp hcreate
  obtain ⟨_, -, hcreate⟩ := Option.bind_eq_some_iff.mp hcreate
  refine ⟨?_, before, requireInvoice_eq_some hbefore, (Option.some.inj hcreate).symm⟩
  by_contra hnot
  rw [guard, if_neg fun hvalid => hnot hvalid.2.1] at hinput
  cases hinput

theorem voidAllowance_eq_some {adapter : Adapter} {number : Text} {stored : StoredInvoice}
    (hvoid : voidAllowance adapter number = some stored) :
    ∃ before, adapter = some before ∧ stored = { before with
      allowedAmount := 0
      externalAllowanceReference := none
      status := .allowanceVoided } := by
  obtain ⟨before, hbefore, hvoid⟩ := Option.bind_eq_some_iff.mp hvoid
  obtain ⟨_, -, hvoid⟩ := Option.bind_eq_some_iff.mp hvoid
  exact ⟨before, requireInvoice_eq_some hbefore, (Option.some.inj hvoid).symm⟩

/-! ## The steps -/

/-- The operation has started and not ended. -/
def underWay : OperationStage → Bool
  | .read | .restored | .ended _ => false
  | _ => true

/-- What one step of an operation makes of the state and of its stage. -/
inductive Steps (codes : ReferenceCodes) (state : OrchestratorState)
    (operation : RunningOperation) : OrchestratorState → OperationStage → Prop
  | stays (answer : OperationAnswer)
      (hstage : operation.stage ∈ [.read, .restored, .failing]
        ∨ operation.stage = .ended answer) :
      Steps codes state operation state (.ended answer)
  | restores (hstage : operation.stage = .read) :
      Steps codes state operation (restoreMockAdapter state operation) .restored
  | registers (hstage : operation.stage = .restored)
      (hfree : operationPendingStatus operation.request.type = none) :
      Steps codes state operation
        { state with operations := registered state operation } .started
  | claims (target : LifecycleStatus) (hstage : operation.stage = .restored)
      (htarget : operationPendingStatus operation.request.type = some target)
      (hnew : operation.document.status ≠ target)
      (hallowed : canTransitionInvoice operation.document.status target = true)
      (hcurrent : state.document.status = operation.document.status) :
      Steps codes state operation { state with
        operations := registered state operation
        document := { state.document with status := target } } .started
  | calls (stored : StoredInvoice) (hstage : operation.stage = .started)
      (hcarried : Carried codes state.adapter operation stored) :
      Steps codes state operation { state with adapter := some stored } (.recording stored)
  | compares (stored : StoredInvoice) (mismatches : List MismatchCode)
      (hstage : operation.stage = .started)
      (htype : operation.request.type ∈ [.query, .reconcile])
      (hnumber : operation.document.externalInvoiceNumber.isSome = true)
      (hadapter : state.adapter = some stored) :
      Steps codes state operation state (compared state stored mismatches).2
  | fails (hstage : underWay operation.stage = true) :
      Steps codes state operation state .failing
  | flags (code : MismatchCode) (rest : List MismatchCode) (result : StoredInvoice)
      (hstage : operation.stage = .flagging code rest result) :
      Steps codes state operation (flag state rest result).1 (flag state rest result).2
  | marks (result : StoredInvoice) (hstage : operation.stage = .marking result) :
      Steps codes state operation
        { state with document := markMatched state.document } (.recording result)
  | records (result : StoredInvoice) (hstage : operation.stage = .recording result)
      (hrecords : records state.document result operation = true) :
      Steps codes state operation { state with
        document := recordedDocument state.document result operation.request
        operations := completed state.operations operation .succeeded
        outstanding := recordedAllowances state.outstanding result operation } (.ended .done)
  | gives (hstage : operation.stage = .failing) :
      Steps codes state operation { state with
        document := failedDocument state.document operation
        operations := completed state.operations operation .failed } (.ended .failed)

theorem steps_startOperation (hstage : operation.stage = .restored) :
    Steps codes state operation (startOperation state operation).1
      (startOperation state operation).2 := by
  have hends : ∀ answer, Steps codes state operation state (.ended answer) := by
    intro answer
    exact .stays answer (Or.inl (by rw [hstage]; decide))
  unfold startOperation
  split
  · exact hends _
  · split
    · next hfree => exact .registers hstage hfree
    · next target htarget =>
        by_cases hsame : operation.document.status = target
        · rw [if_pos hsame]
          exact hends _
        · rw [if_neg hsame]
          by_cases hallowed : canTransitionInvoice operation.document.status target = true
          · rw [hallowed, Bool.not_true, if_neg Bool.false_ne_true]
            by_cases hcurrent : state.document.status = operation.document.status
            · rw [if_neg (not_not_intro hcurrent)]
              exact .claims target hstage htarget hsame hallowed hcurrent
            · rw [if_pos hcurrent]
              exact hends _
          · rw [if_pos (by simpa using hallowed)]
            exact hends _

theorem steps_answered {result : Option StoredInvoice} (hstage : operation.stage = .started)
    (hcarried : ∀ stored, result = some stored → Carried codes state.adapter operation stored) :
    Steps codes state operation (answered state result).1 (answered state result).2 := by
  cases result with
  | none => exact .fails (by rw [hstage]; rfl)
  | some stored => exact .calls stored hstage (hcarried stored rfl)

theorem steps_compared {stored : StoredInvoice} {mismatches : List MismatchCode} {number : Text}
    (hstage : operation.stage = .started) (htype : operation.request.type ∈ [.query, .reconcile])
    (hnumber : operation.document.externalInvoiceNumber = some number)
    (hfound : requireInvoice state.adapter number = some stored) :
    Steps codes state operation (compared state stored mismatches).1
      (compared state stored mismatches).2 := by
  have hcompares : Steps codes state operation state (compared state stored mismatches).2 :=
    .compares stored mismatches hstage htype (by rw [hnumber]; rfl)
      (requireInvoice_eq_some hfound)
  cases mismatches with
  | nil => exact hcompares
  | cons code rest => exact hcompares

theorem steps_invoke (hstage : operation.stage = .started) :
    Steps codes state operation (invoke codes state operation).1
      (invoke codes state operation).2 := by
  have hfails : Steps codes state operation state .failing := .fails (by rw [hstage]; rfl)
  unfold invoke
  cases hrequest : operation.request with
  | issue details =>
      apply steps_answered hstage
      rintro stored ⟨⟩
      simp only [Carried, hrequest]
  | void reason =>
      apply steps_answered hstage
      intro stored hstored
      simp only [Carried, hrequest]
      exact hstored
  | allowance amount reason =>
      apply steps_answered hstage
      intro stored hstored
      simp only [Carried, hrequest]
      exact hstored
  | allowanceVoid =>
      apply steps_answered hstage
      intro stored hstored
      simp only [Carried, hrequest]
      exact hstored
  | query =>
      cases hfound : operation.document.externalInvoiceNumber.bind
          (requireInvoice state.adapter) with
      | none =>
          simp only [hfound]
          exact hfails
      | some stored =>
          simp only [hfound]
          obtain ⟨number, hnumber, hfound⟩ := Option.bind_eq_some_iff.mp hfound
          exact steps_compared hstage (by rw [hrequest]; decide) hnumber hfound
  | reconcile =>
      cases hfound : operation.document.externalInvoiceNumber.bind
          (requireInvoice state.adapter) with
      | none =>
          simp only [hfound]
          exact hfails
      | some stored =>
          simp only [hfound]
          obtain ⟨number, hnumber, hfound⟩ := Option.bind_eq_some_iff.mp hfound
          exact steps_compared hstage (by rw [hrequest]; decide) hnumber hfound

theorem steps_interrupted (codes : ReferenceCodes) (state : OrchestratorState)
    (operation : RunningOperation) : Steps codes state operation (interrupted state operation).1
      (interrupted state operation).2 := by
  unfold interrupted
  cases hstage : operation.stage with
  | read => exact .stays _ (Or.inl (by rw [hstage]; decide))
  | restored => exact .stays _ (Or.inl (by rw [hstage]; decide))
  | failing => exact .stays _ (Or.inl (by rw [hstage]; decide))
  | ended answer => exact .stays answer (Or.inr hstage)
  | started => exact .fails (by rw [hstage]; rfl)
  | flagging code rest result => exact .fails (by rw [hstage]; rfl)
  | marking result => exact .fails (by rw [hstage]; rfl)
  | recording result => exact .fails (by rw [hstage]; rfl)

theorem steps_nextStep (codes : ReferenceCodes) (state : OrchestratorState)
    (operation : RunningOperation) : Steps codes state operation
      (nextStep codes state operation).1 (nextStep codes state operation).2 := by
  unfold nextStep
  cases hstage : operation.stage with
  | read => exact .restores hstage
  | restored => exact steps_startOperation hstage
  | started => exact steps_invoke hstage
  | flagging code rest result => exact .flags code rest result hstage
  | marking result => exact .marks result hstage
  | recording result =>
      by_cases hrecords : records state.document result operation = true
      · simp only [recordResult, if_pos hrecords]
        exact .records result hstage hrecords
      · simp only [recordResult, if_neg hrecords]
        exact .fails (by rw [hstage]; rfl)
  | failing => exact .gives hstage
  | ended answer => exact .stays answer (Or.inr hstage)

/-- The enumeration of the steps is complete. -/
theorem steps_outcome (codes : ReferenceCodes) (state : OrchestratorState)
    (operation : RunningOperation) (fails : Bool) : Steps codes state operation
      (outcome codes state operation fails).1 (outcome codes state operation fails).2 := by
  cases fails with
  | true => exact steps_interrupted codes state operation
  | false => exact steps_nextStep codes state operation

end Stallorder.Claims
