import Stallorder.EInvoice.Claims

/-!
# The amount that is allowed

The document keeps one running total of its allowances.  An allowance adds its
amount to the total, while the void of one allowance takes the whole total
back.  The total is that of the allowances that are left as long as every void
names the last one.
-/

namespace Stallorder.AllowedAmount

open MockProvider InvoiceOrchestrator Claims Run

variable {codes : ReferenceCodes} {state state' : OrchestratorState}
variable {operation : RunningOperation} {stage' : OperationStage}

/-- The document allows what its allowances add up to, and no more than its total. -/
structure AddsUp (state : OrchestratorState) : Prop where
  sum : state.document.allowedAmount = (state.outstanding.map (·.amount)).sum
  nonneg : 0 ≤ state.document.allowedAmount
  within : state.document.allowedAmount ≤ state.document.totalAmount

/-- The allowance void that the command records, if it does record one, names the
only allowance that is left. -/
def VoidsLast (state : OrchestratorState) : OrchestratorCommand → Prop
  | .advance position false =>
      ∀ operation result, state.running[position]? = some operation →
        operation.stage = .recording result → operation.request = .allowanceVoid →
        records state.document result operation = true →
          state.outstanding.eraseP
            (·.reference = operation.document.externalAllowanceReference) = []
  | _ => True

/-! ## What the operations in progress know -/

/-- Only queries and reconciliations compare, and a recorded allowance has an amount. -/
def StageSound (request : OperationRequest) : OperationStage → Prop
  | .flagging _ _ _ | .marking _ => request.type ∈ [.query, .reconcile]
  | .recording _ => ∀ amount reason, request = .allowance amount reason → 0 < amount
  | _ => True

theorem stageSound_recording_of_compares {request : OperationRequest} {result : StoredInvoice}
    (htype : request.type ∈ [.query, .reconcile]) : StageSound request (.recording result) := by
  rintro amount reason rfl
  simp [OperationRequest.type] at htype

theorem stageSound_of_steps (hsound : StageSound operation.request operation.stage)
    (hsteps : Steps codes state operation state' stage') :
    StageSound operation.request stage' := by
  cases hsteps with
  | stays answer hstage => trivial
  | restores hstage => trivial
  | registers hstage hfree => trivial
  | claims target hstage htarget hnew hallowed hcurrent => trivial
  | calls stored hstage hcarried =>
      intro amount reason hrequest
      unfold Carried at hcarried
      rw [hrequest] at hcarried
      obtain ⟨number, -, hcreate⟩ := Option.bind_eq_some_iff.mp hcarried
      exact (createAllowance_eq_some hcreate).1
  | compares stored mismatches hstage htype hnumber hadapter =>
      cases mismatches with
      | nil => exact htype
      | cons code rest => exact htype
  | fails hstage => trivial
  | flags code rest result hstage =>
      rw [hstage] at hsound
      cases rest with
      | nil => exact stageSound_recording_of_compares hsound
      | cons code rest => exact hsound
  | marks result hstage =>
      rw [hstage] at hsound
      exact stageSound_recording_of_compares hsound
  | records result hstage hrecords => trivial
  | gives hstage => trivial

/-! ## What a step does to the amounts -/

/-- Neither the amounts of the document nor its allowances have changed. -/
structure SameAmounts (state state' : OrchestratorState) : Prop where
  allowed : state'.document.allowedAmount = state.document.allowedAmount
  total : state'.document.totalAmount = state.document.totalAmount
  outstanding : state'.outstanding = state.outstanding

theorem SameAmounts.refl (state : OrchestratorState) : SameAmounts state state :=
  ⟨rfl, rfl, rfl⟩

theorem SameAmounts.addsUp_iff (hsame : SameAmounts state state') :
    AddsUp state' ↔ AddsUp state := by
  have hforward : ∀ {left right : OrchestratorState}, SameAmounts left right →
      AddsUp left → AddsUp right := by
    intro left right hsame hadds
    refine ⟨?_, ?_, ?_⟩
    · rw [hsame.allowed, hsame.outstanding]
      exact hadds.sum
    · rw [hsame.allowed]
      exact hadds.nonneg
    · rw [hsame.allowed, hsame.total]
      exact hadds.within
  exact ⟨hforward ⟨hsame.allowed.symm, hsame.total.symm, hsame.outstanding.symm⟩,
    hforward hsame⟩

/-- A step that records nothing leaves the amounts as they are. -/
theorem sameAmounts_of_steps (hsteps : Steps codes state operation state' stage')
    (hnone : ∀ result, operation.stage = .recording result →
      records state.document result operation = false) : SameAmounts state state' := by
  cases hsteps with
  | stays answer hstage => exact .refl state
  | restores hstage =>
      unfold restoreMockAdapter
      split <;> exact ⟨rfl, rfl, rfl⟩
  | registers hstage hfree => exact ⟨rfl, rfl, rfl⟩
  | claims target hstage htarget hnew hallowed hcurrent => exact ⟨rfl, rfl, rfl⟩
  | calls stored hstage hcarried => exact ⟨rfl, rfl, rfl⟩
  | compares stored mismatches hstage htype hnumber hadapter => exact .refl state
  | fails hstage => exact .refl state
  | flags code rest result hstage => exact ⟨rfl, rfl, rfl⟩
  | marks result hstage => exact ⟨rfl, rfl, rfl⟩
  | records result hstage hrecord =>
      rw [hnone result hstage] at hrecord
      cases hrecord
  | gives hstage =>
      refine ⟨?_, ?_, rfl⟩
      · change (failedDocument state.document operation).allowedAmount = _
        unfold failedDocument
        split
        · split <;> rfl
        · rfl
      · change (failedDocument state.document operation).totalAmount = _
        unfold failedDocument
        split
        · split <;> rfl
        · rfl

theorem interrupted_fst (state : OrchestratorState) (operation : RunningOperation) :
    (interrupted state operation).1 = state := by
  unfold interrupted
  split <;> rfl

/-- The state after an operation has recorded its result. -/
def recordedState (state : OrchestratorState) (operation : RunningOperation)
    (result : StoredInvoice) : OrchestratorState :=
  { state with
    document := recordedDocument state.document result operation.request
    operations := completed state.operations operation .succeeded
    outstanding := recordedAllowances state.outstanding result operation }

/-- The operation records its result in this step. -/
def Records (state : OrchestratorState) (operation : RunningOperation) (fails : Bool)
    (result : StoredInvoice) : Prop :=
  fails = false ∧ operation.stage = .recording result
    ∧ records state.document result operation = true

/-- A step records a result, or it leaves the amounts alone. -/
theorem amounts_of_outcome (codes : ReferenceCodes) (state : OrchestratorState)
    (operation : RunningOperation) (fails : Bool) :
    (∃ result, Records state operation fails result
      ∧ (outcome codes state operation fails).1 = recordedState state operation result)
    ∨ (∀ result, ¬ Records state operation fails result)
      ∧ SameAmounts state (outcome codes state operation fails).1 := by
  by_cases hrecords : ∃ result, Records state operation fails result
  · obtain ⟨result, rfl, hstage, hrecord⟩ := hrecords
    refine Or.inl ⟨result, ⟨rfl, hstage, hrecord⟩, ?_⟩
    change (nextStep codes state operation).1 = _
    rw [nextStep, hstage]
    simp only [recordResult, if_pos hrecord]
    rfl
  · refine Or.inr ⟨fun result hrecord => hrecords ⟨result, hrecord⟩, ?_⟩
    cases fails with
    | true =>
        change SameAmounts state (interrupted state operation).1
        rw [interrupted_fst]
        exact .refl state
    | false =>
        refine sameAmounts_of_steps (steps_nextStep codes state operation) fun result hstage => ?_
        exact Bool.eq_false_iff.mpr fun hrecord => hrecords ⟨result, rfl, hstage, hrecord⟩

/-! ## Recording -/

/-- The amounts of the allowances that are left, and of one about to be recorded, are positive. -/
structure Positive (state : OrchestratorState) : Prop where
  outstanding : ∀ allowance ∈ state.outstanding, 0 < allowance.amount
  running : ∀ operation ∈ state.running, StageSound operation.request operation.stage

theorem eq_nil_of_sum_eq_zero {allowances : List Allowance}
    (hpositive : ∀ allowance ∈ allowances, 0 < allowance.amount)
    (hsum : (allowances.map (·.amount)).sum = 0) : allowances = [] := by
  cases allowances with
  | nil => rfl
  | cons first rest =>
      rw [List.forall_mem_cons] at hpositive
      have hrest : 0 ≤ (rest.map (·.amount)).sum := by
        refine List.sum_nonneg fun amount hamount => ?_
        obtain ⟨allowance, hallowance, rfl⟩ := List.mem_map.mp hamount
        exact (hpositive.2 allowance hallowance).le
      rw [List.map_cons, List.sum_cons] at hsum
      have hfirst := hpositive.1
      omega

theorem within_of_records {result : StoredInvoice}
    (hrecords : records state.document result operation = true) :
    0 ≤ (recordedDocument state.document result operation.request).allowedAmount
      ∧ (recordedDocument state.document result operation.request).allowedAmount
        ≤ (recordedDocument state.document result operation.request).totalAmount := by
  have hcheck := (Bool.and_eq_true _ _ ▸ hrecords).2
  simpa [documentCheck] using hcheck

/-- A recorded result keeps the sum unless it voids one allowance of several. -/
theorem addsUp_recordedState_iff {result : StoredInvoice} (hadds : AddsUp state)
    (hpositive : Positive state) (hrecords : records state.document result operation = true) :
    AddsUp (recordedState state operation result) ↔
      (operation.request = .allowanceVoid → state.outstanding.eraseP
        (·.reference = operation.document.externalAllowanceReference) = []) := by
  obtain ⟨hnonneg, hwithin⟩ := within_of_records hrecords
  have hsum : AddsUp (recordedState state operation result) ↔
      (recordedDocument state.document result operation.request).allowedAmount
        = ((recordedAllowances state.outstanding result operation).map (·.amount)).sum :=
    ⟨fun hafter => hafter.sum, fun hafter => ⟨hafter, hnonneg, hwithin⟩⟩
  rw [hsum]
  unfold recordedAllowances
  cases hrequest : operation.request with
  | allowanceVoid =>
      change 0 = _ ↔ _
      constructor
      · intro hzero _
        refine eq_nil_of_sum_eq_zero (fun allowance hallowance => ?_) hzero.symm
        exact hpositive.outstanding allowance (List.mem_of_mem_eraseP hallowance)
      · intro hlast
        simp [hlast rfl]
  | allowance amount reason =>
      refine iff_of_true ?_ nofun
      change state.document.allowedAmount + amount = _
      rw [hadds.sum, List.map_append, List.sum_append]
      simp
  | issue details => exact iff_of_true hadds.sum nofun
  | void reason => exact iff_of_true hadds.sum nofun
  | query => exact iff_of_true hadds.sum nofun
  | reconcile => exact iff_of_true hadds.sum nofun

/-! ## Steps of a run -/

theorem sameAmounts_advanceOperation (codes : ReferenceCodes) (state : OrchestratorState)
    (position : ℕ) (operation : RunningOperation) (fails : Bool) :
    SameAmounts (outcome codes state operation fails).1
      (advanceOperation codes state position operation fails) :=
  ⟨rfl, rfl, rfl⟩

theorem step_advance_of_none {position : ℕ} {fails : Bool}
    (hnone : state.running[position]? = none) :
    orchestratorStep codes state (.advance position fails) = state := by
  simp only [orchestratorStep, hnone]

theorem step_advance_of_some {position : ℕ} {fails : Bool}
    (hsome : state.running[position]? = some operation) :
    orchestratorStep codes state (.advance position fails)
      = advanceOperation codes state position operation fails := by
  simp only [orchestratorStep, hsome]

theorem addsUp_step_iff (hadds : AddsUp state) (hpositive : Positive state)
    (command : OrchestratorCommand) :
    AddsUp (orchestratorStep codes state command) ↔ VoidsLast state command := by
  cases command with
  | begin request idempotencyKey =>
      exact iff_of_true ⟨hadds.sum, hadds.nonneg, hadds.within⟩ trivial
  | restart => exact iff_of_true ⟨hadds.sum, hadds.nonneg, hadds.within⟩ trivial
  | advance position fails =>
      cases hoperation : state.running[position]? with
      | none =>
          rw [step_advance_of_none hoperation]
          refine iff_of_true hadds ?_
          cases fails with
          | true => trivial
          | false =>
              intro operation result hsome
              rw [hoperation] at hsome
              cases hsome
      | some operation =>
          rw [step_advance_of_some hoperation,
            (sameAmounts_advanceOperation codes state position operation fails).addsUp_iff]
          rcases amounts_of_outcome codes state operation fails with
            ⟨result, ⟨rfl, hstage, hrecords⟩, hstate⟩ | ⟨hnone, hsame⟩
          · rw [hstate, addsUp_recordedState_iff hadds hpositive hrecords]
            constructor
            · intro hlast found written hfound _ hrequest _
              cases hoperation.symm.trans hfound
              exact hlast hrequest
            · intro hvoids hrequest
              exact hvoids operation result hoperation hstage hrequest hrecords
          · refine iff_of_true (hsame.addsUp_iff.mpr hadds) ?_
            cases fails with
            | true => trivial
            | false =>
                intro found result hfound hstage _ hrecords
                cases hoperation.symm.trans hfound
                exact absurd ⟨rfl, hstage, hrecords⟩ (hnone result)

theorem outstanding_pos_recorded {result : StoredInvoice}
    (hpositive : ∀ allowance ∈ state.outstanding, 0 < allowance.amount)
    (hsound : StageSound operation.request (.recording result)) :
    ∀ allowance ∈ recordedAllowances state.outstanding result operation,
      0 < allowance.amount := by
  unfold recordedAllowances
  cases hrequest : operation.request with
  | allowance amount reason =>
      intro allowance hmem
      rcases List.mem_append.mp hmem with hmem | hmem
      · exact hpositive allowance hmem
      · rw [List.mem_singleton.mp hmem]
        exact hsound amount reason hrequest
  | allowanceVoid =>
      intro allowance hmem
      exact hpositive allowance (List.mem_of_mem_eraseP hmem)
  | issue details => exact hpositive
  | void reason => exact hpositive
  | query => exact hpositive
  | reconcile => exact hpositive

theorem positive_step (hpositive : Positive state) (command : OrchestratorCommand) :
    Positive (orchestratorStep codes state command) := by
  cases command with
  | begin request idempotencyKey =>
      refine ⟨hpositive.outstanding, fun operation hmem => ?_⟩
      rcases List.mem_append.mp hmem with hmem | hmem
      · exact hpositive.running operation hmem
      · rw [List.mem_singleton.mp hmem]
        change StageSound request (firstStage state.document request)
        unfold firstStage
        split
        · split <;> trivial
        · trivial
  | restart => exact ⟨hpositive.outstanding, fun _ hmem => absurd hmem List.not_mem_nil⟩
  | advance position fails =>
      cases hoperation : state.running[position]? with
      | none =>
          rw [step_advance_of_none hoperation]
          exact hpositive
      | some operation =>
          rw [step_advance_of_some hoperation]
          have hsound := hpositive.running operation (List.mem_of_getElem? hoperation)
          have hsteps := steps_outcome codes state operation fails
          constructor
          · change ∀ allowance ∈ (outcome codes state operation fails).1.outstanding, _
            rcases amounts_of_outcome codes state operation fails with
              ⟨result, ⟨-, hstage, -⟩, hstate⟩ | ⟨-, hsame⟩
            · rw [hstate]
              rw [hstage] at hsound
              exact outstanding_pos_recorded hpositive.outstanding hsound
            · rw [hsame.outstanding]
              exact hpositive.outstanding
          · intro other hother
            rcases List.mem_or_eq_of_mem_set hother with hmem | rfl
            · exact hpositive.running other hmem
            · have hnext := stageSound_of_steps hsound hsteps
              exact hnext

theorem addsUp_opened {totalAmount taxAmount : ℤ} (htotal : 0 < totalAmount) :
    AddsUp (.opened totalAmount taxAmount) :=
  ⟨rfl, le_rfl, htotal.le⟩

theorem positive_opened (totalAmount taxAmount : ℤ) : Positive (.opened totalAmount taxAmount) :=
  ⟨fun _ hmem => absurd hmem List.not_mem_nil, fun _ hmem => absurd hmem List.not_mem_nil⟩

/-- In every state of a run the document allows what the allowances add up to,
exactly when every allowance void that the run records names the last one. -/
theorem allowances_add_up_iff (codes : ReferenceCodes) {totalAmount : ℤ} (taxAmount : ℤ)
    (htotal : 0 < totalAmount) (commands : List OrchestratorCommand) :
    (∀ before, before <+: commands →
        AddsUp (exec (orchestratorStep codes) (.opened totalAmount taxAmount) before))
      ↔ Safely (orchestratorStep codes) VoidsLast (.opened totalAmount taxAmount) commands := by
  rw [forall_prefix_iff AddsUp, and_iff_right (addsUp_opened htotal)]
  apply safely_congr (fun state => AddsUp state ∧ Positive state)
  · intro state command hstate
    exact addsUp_step_iff hstate.1 hstate.2 command
  · intro state command hstate hvoids
    exact ⟨(addsUp_step_iff hstate.1 hstate.2 command).mpr hvoids,
      positive_step hstate.2 command⟩
  · exact ⟨addsUp_opened htotal, positive_opened totalAmount taxAmount⟩

/-! ## Two allowances -/

def sampleCodes : ReferenceCodes where
  invoiceNumber := "INVOICE".toList
  allowanceReference allowedAmount := List.replicate allowedAmount.toNat 'A'

/-- An operation that takes all its steps. -/
def undisturbed (position : ℕ) (request : OperationRequest) : List OrchestratorCommand :=
  .begin request (List.replicate position 'k') :: List.replicate 4 (.advance position false)

/-- The void comes after two allowances and names the second one. -/
def voidOfSecond : List OrchestratorCommand :=
  undisturbed 0 (.issue []) ++ undisturbed 1 (.allowance 3 ['a'])
    ++ undisturbed 2 (.allowance 5 ['a']) ++ undisturbed 3 .allowanceVoid

theorem allowances_add_up_iff_voidOfSecond :
    (∀ before, before <+: voidOfSecond →
        AddsUp (exec (orchestratorStep sampleCodes) (.opened 10 0) before))
      ↔ Safely (orchestratorStep sampleCodes) VoidsLast (.opened 10 0) voidOfSecond :=
  allowances_add_up_iff sampleCodes 0 (by decide) voidOfSecond

/-- The first allowance is left, but the document allows nothing. -/
theorem void_of_second_drops_first :
    let final := exec (orchestratorStep sampleCodes) (.opened 10 0) voidOfSecond
    final.document.allowedAmount = 0 ∧ final.outstanding.map (·.amount) = [3]
      ∧ ¬ AddsUp final := by
  have hamounts : let final := exec (orchestratorStep sampleCodes) (.opened 10 0) voidOfSecond
      final.document.allowedAmount = 0 ∧ final.outstanding.map (·.amount) = [3] := by
    decide
  refine ⟨hamounts.1, hamounts.2, fun hadds => ?_⟩
  have hsum := hadds.sum
  rw [hamounts.1, hamounts.2] at hsum
  cases hsum

end Stallorder.AllowedAmount
