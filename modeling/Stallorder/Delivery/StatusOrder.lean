import Stallorder.Delivery.QueueGrowth

/-!
# The order in which a platform learns about statuses

Every status of an order that the platform is told is a job of its own, with a
retry time of its own.  The platform learns about them in the order of the stall
as long as no action is carried out while one that it overtakes is still open.
-/

namespace Stallorder.StatusOrder

open OrderContract DeliveryDatabase SyncJobs ExternalOrders DeliveryRun QueueGrowth
open Transaction.Program Checks Run

/-! ## Actions that overtake others -/

def overtakesKind : ProviderActionKind → ProviderActionKind → Bool
  | .ready, .preparing | .reject, .preparing | .reject, .ready => true
  | _, _ => false

/-- The later action comes too late after the earlier one. -/
def overtakes (earlier later : ProviderAction) : Bool :=
  earlier = { later with kind := earlier.kind } && overtakesKind earlier.kind later.kind

/-- An order is never reported as in preparation after it was reported as ready,
and neither is reported after the order was cancelled. -/
def InLocalOrder (actions : List ProviderAction) : Prop :=
  actions.Pairwise fun earlier later => overtakes earlier later = false

instance (actions : List ProviderAction) : Decidable (InLocalOrder actions) :=
  inferInstanceAs (Decidable (List.Pairwise _ _))

/-- What the platform is told when the job succeeds. -/
def jobAction (job : DeliverySyncJob) : Option ProviderAction :=
  match job.input, providerActionKind job.jobType with
  | .orderAction externalOrderId _, some kind =>
      some ⟨job.provider, job.connectionId, externalOrderId, kind⟩
  | _, _ => none

def isUnsettled (status : DeliveryJobStatus) : Bool :=
  status = .pending || status = .retryPending || status = .processing

/-- The queue may hand out such a job, or a worker has one. -/
def isOpen (system : DeliverySystem) (action : ProviderAction) : Bool :=
  system.db.jobs.table.rows.any (fun job => jobAction job = some action && isUnsettled job.status)
    || system.claims.any fun claim => jobAction claim.job = some action

/-- The actions that this one overtakes. -/
def overtaken (action : ProviderAction) : List ProviderAction :=
  ([.preparing, .ready].map fun kind => { action with kind }).filter (overtakes action)

/-- Nothing that the action overtakes is open. -/
def comesLast (system : DeliverySystem) (action : ProviderAction) : Bool :=
  (overtaken action).all fun later => !isOpen system later

/-- The platform was told nothing that overtakes the action. -/
def isTimely (actions : List ProviderAction) (action : ProviderAction) : Bool :=
  actions.all fun earlier => !overtakes earlier action

def actionOn (external : ExternalTransitionContext) (kind : ProviderActionKind) :
    ProviderAction :=
  ⟨external.provider, external.connectionId, external.externalOrderId, kind⟩

/-- The action that a transition queues. -/
def queuedKind : ExternalTransitionStatus → Option ProviderActionKind
  | .preparing => some .preparing
  | .ready => some .ready
  | _ => none

/-- An action is carried out once nothing that it overtakes is open, and none is
queued, or put back by hand, that was overtaken. -/
def keepsLocalOrder (system : DeliverySystem) : DeliveryCommand → Bool
  | .execute claim _ => (jobAction claim.job).all (comesLast system)
  | .retry jobId _ => system.db.jobs.table.rows.all fun job =>
      job.id ≠ jobId || (jobAction job).all (isTimely system.actions)
  | .transition request => (transitionContext request.orderId system.db).all fun external =>
      let acknowledged := (acknowledgementKind request.nextStatus).map (actionOn external)
      acknowledged.all (comesLast system)
        && ((queuedKind request.persistedStatus).map (actionOn external)).all
          (isTimely (system.actions ++ acknowledged.toList))
  | .platformCancels provider connectionId externalOrderId =>
      comesLast system ⟨provider, connectionId, externalOrderId, .reject⟩
  | _ => true

/-! ## Open actions -/

variable {system system' : DeliverySystem}

theorem isOpen_iff {action : ProviderAction} : isOpen system action = true ↔
    (∃ job ∈ system.db.jobs, jobAction job = some action ∧ isUnsettled job.status = true)
      ∨ ∃ claim ∈ system.claims, jobAction claim.job = some action := by
  simp only [isOpen, Bool.or_eq_true, List.any_eq_true, Bool.and_eq_true, decide_eq_true_eq]
  rfl

theorem isTimely_iff {actions : List ProviderAction} {action : ProviderAction} :
    isTimely actions action = true ↔ ∀ earlier ∈ actions, overtakes earlier action = false := by
  simp [isTimely]

theorem mem_of_overtakesKind {earlier later : ProviderActionKind}
    (hkind : overtakesKind earlier later = true) : later ∈ [.preparing, .ready] := by
  cases later with
  | preparing => exact List.mem_cons_self
  | ready => exact List.mem_cons_of_mem _ List.mem_cons_self
  | _ => cases earlier <;> cases hkind

theorem comesLast_iff {action : ProviderAction} : comesLast system action = true ↔
    ∀ later, overtakes action later = true → isOpen system later = false := by
  simp only [comesLast, overtaken, List.all_eq_true, List.mem_filter, List.mem_map,
    Bool.not_eq_true']
  constructor
  · intro hlast later hovertakes
    have hboth := hovertakes
    simp only [overtakes, Bool.and_eq_true, decide_eq_true_eq] at hboth
    refine hlast later ⟨⟨later.kind, mem_of_overtakesKind hboth.2, ?_⟩, hovertakes⟩
    rw [hboth.1]
  · rintro hlast later ⟨-, hovertakes⟩
    exact hlast later hovertakes

theorem jobAction_of_sameTask {job job' : DeliverySyncJob} (hsame : SameTask job job') :
    jobAction job' = jobAction job := by
  simp only [jobAction, hsame.input, hsame.jobType, hsame.provider, hsame.connectionId]

theorem jobAction_of_intake {job : DeliverySyncJob} (hintake : Intake job) :
    jobAction job = none := by
  have hkind : providerActionKind job.jobType = none := by
    rcases hintake with hfetch | himport
    · rw [hfetch]
      rfl
    · rw [himport]
      rfl
  unfold jobAction
  rw [hkind]
  cases job.input <;> rfl

theorem jobAction_of_tells {external : ExternalTransitionContext}
    {nextStatus : ExternalTransitionStatus} {job : DeliverySyncJob}
    (htells : TellsOf external nextStatus job) :
    jobAction job = (queuedKind nextStatus).map (actionOn external) := by
  obtain ⟨jobType, capability, jobId, now, haction, rfl⟩ := htells
  cases nextStatus <;> cases haction <;> rfl

/-! ## The platform's log -/

/-- What holds of a run that keeps the order: nothing is open that the platform
must not be told any more. -/
structure LocalOrder (system : DeliverySystem) : Prop where
  inOrder : InLocalOrder system.actions
  settled : ∀ earlier ∈ system.actions, ∀ later, overtakes earlier later = true →
    isOpen system later = false
  claimed : ∀ claim ∈ system.claims, ∃ job ∈ system.db.jobs, SameTask job claim.job

/-- The platform is told at most one timely action, and nothing is opened that it
must not be told. -/
theorem LocalOrder.extend (horder : LocalOrder system) (told : Option ProviderAction)
    (hactions : system'.actions = system.actions ++ told.toList)
    (htold : ∀ action ∈ told, isTimely system.actions action = true
      ∧ comesLast system action = true)
    (hopen : ∀ action, isOpen system' action = true →
      isOpen system action = true ∨ isTimely system'.actions action = true)
    (hclaimed : ∀ claim ∈ system'.claims, ∃ job ∈ system'.db.jobs, SameTask job claim.job) :
    LocalOrder system' := by
  refine ⟨?_, fun earlier hearlier later hovertakes => ?_, hclaimed⟩
  · rw [hactions]
    refine List.pairwise_append.mpr ⟨horder.inOrder, ?_, fun earlier hearlier later hlater => ?_⟩
    · cases told <;> simp
    · exact isTimely_iff.mp (htold later (Option.mem_toList.mp hlater)).1 earlier hearlier
  · rw [Bool.eq_false_iff]
    intro hlater
    rcases hopen later hlater with hbefore | htimely
    · rw [hactions] at hearlier
      rcases List.mem_append.mp hearlier with hold | hnew
      · rw [horder.settled earlier hold later hovertakes] at hbefore
        cases hbefore
      · have hlast := (htold earlier (Option.mem_toList.mp hnew)).2
        rw [comesLast_iff.mp hlast later hovertakes] at hbefore
        cases hbefore
    · rw [isTimely_iff.mp htimely earlier hearlier] at hovertakes
      cases hovertakes

/-- A step that brings orders in, or takes jobs from workers. -/
theorem LocalOrder.of_intake (horder : LocalOrder system) (told : Option ProviderAction)
    (hactions : system'.actions = system.actions ++ told.toList)
    (htold : ∀ action ∈ told, isTimely system.actions action = true
      ∧ comesLast system action = true)
    (hgrow : JobsGrow Intake system.db system'.db)
    (hclaims : ∀ claim ∈ system'.claims, ∃ before ∈ system.claims, before.job = claim.job) :
    LocalOrder system' := by
  apply horder.extend told hactions htold
  · intro action hopen
    left
    rcases isOpen_iff.mp hopen with ⟨job, hjob, haction, hunsettled⟩ | ⟨claim, hclaim, haction⟩
    · rcases hgrow.fresh job hjob with hbefore | hintake
      · exact isOpen_iff.mpr (Or.inl ⟨job, hbefore, haction, hunsettled⟩)
      · rw [jobAction_of_intake hintake] at haction
        cases haction
    · obtain ⟨before, hbefore, hsame⟩ := hclaims claim hclaim
      exact isOpen_iff.mpr (Or.inr ⟨before, hbefore, hsame ▸ haction⟩)
  · intro claim hclaim
    obtain ⟨before, hbefore, hsame⟩ := hclaims claim hclaim
    obtain ⟨job, hjob, htask⟩ := horder.claimed before hbefore
    exact ⟨job, hgrow.kept job hjob, hsame ▸ htask⟩

/-- An action that is open was not overtaken. -/
theorem LocalOrder.isTimely_of_open (horder : LocalOrder system) {action : ProviderAction}
    (hopen : isOpen system action = true) : isTimely system.actions action = true := by
  rw [isTimely_iff]
  intro earlier hearlier
  rw [Bool.eq_false_iff]
  intro hovertakes
  rw [horder.settled earlier hearlier action hovertakes] at hopen
  cases hopen

/-! ## Steps -/

/-- The action that a job had carried out is the one it was queued for. -/
theorem runJob_actions (job : DeliverySyncJob) (response : JobResponse) (db : DeliveryDb) :
    ∃ told : Option ProviderAction, (runJob job response db).2.2 = told.toList
      ∧ ∀ action ∈ told, jobAction job = some action := by
  have hnone : ∃ told : Option ProviderAction, ([] : List ProviderAction) = told.toList
      ∧ ∀ action ∈ told, jobAction job = some action := ⟨none, rfl, by simp⟩
  unfold runJob
  split
  · exact hnone
  · exact hnone
  · next connection _ hconnection =>
      have hid : connection.id = job.connectionId := by
        have hmatches := List.find?_some hconnection
        simp only [isJobConnection, Bool.and_eq_true, decide_eq_true_eq] at hmatches
        exact hmatches.1.1.1
      split
      · exact hnone
      · split
        · unfold runImport
          split
          · split <;> exact hnone
          · exact hnone
        · split
          · unfold runFetch
            split
            · split
              · exact hnone
              · split <;> exact hnone
            · exact hnone
            · exact hnone
          · unfold executeProviderJob
            split
            · next externalOrderId key hinput =>
                split
                · exact hnone
                · split
                  · exact hnone
                  · exact hnone
                  · next kind hkind _ =>
                      refine ⟨some _, rfl, ?_⟩
                      intro action haction
                      rw [← Option.mem_some_iff.mp haction, jobAction, hinput, hkind, hid]
            · exact hnone

theorem unsettled_of_due {now : Timestamp} {job : DeliverySyncJob} (hdue : isDue now job = true) :
    isUnsettled job.status = true := by
  simp only [isDue, Bool.and_eq_true, Bool.or_eq_true, decide_eq_true_eq] at hdue
  rcases hdue.2 with hpending | hretry
  · simp [isUnsettled, hpending.1]
  · simp [isUnsettled, hretry.1]

theorem unsettled_of_reclaimed (now : Timestamp) {job : DeliverySyncJob}
    (hunsettled : isUnsettled (reclaimed now job).status = true) :
    isUnsettled job.status = true := by
  by_cases hexpired : hasExpiredLease now job = true
  · simp only [hasExpiredLease, Bool.and_eq_true, decide_eq_true_eq] at hexpired
    simp [isUnsettled, hexpired.1]
  · rw [reclaimed, if_neg hexpired] at hunsettled
    exact hunsettled

/-- A claim call brings no job back to life. -/
theorem unsettled_of_afterClaim {db db' : DeliveryDb} {worker : Text} {now : Timestamp}
    {taken : List DeliverySyncJob} (hclaims : JobClaims db db' worker now taken)
    {job : DeliverySyncJob}
    (hunsettled : isUnsettled (afterClaim worker now taken job).status = true) :
    isUnsettled job.status = true := by
  apply unsettled_of_reclaimed now
  by_cases htaken : reclaimed now job ∈ taken
  · exact unsettled_of_due (hclaims.due _ htaken)
  · rw [afterClaim, if_neg htaken] at hunsettled
    exact hunsettled

theorem localOrder_claim (horder : LocalOrder system) (worker : Text) (now : Timestamp)
    (limit : ℤ) (place : Uuid → ℕ) :
    LocalOrder (claimJobs system worker now limit place) := by
  unfold claimJobs
  split
  · exact horder
  · next db jobs hclaim =>
      obtain ⟨taken, rfl, hclaims⟩ := claimDeliverySyncJobs_cases hclaim
      refine horder.extend none (List.append_nil _).symm (by simp) (fun action hopen => ?_)
        fun claim hclaim => ?_
      · left
        rcases isOpen_iff.mp hopen with
          ⟨stored, hstored, haction, hunsettled⟩ | ⟨claim, hclaim, haction⟩
        · obtain ⟨job, hjob, rfl⟩ := (hclaims.mem stored).mp hstored
          rw [jobAction_of_sameTask (sameTask_afterClaim worker now taken job)] at haction
          exact isOpen_iff.mpr
            (Or.inl ⟨job, hjob, haction, unsettled_of_afterClaim hclaims hunsettled⟩)
        · rcases List.mem_append.mp hclaim with hbefore | hnew
          · exact isOpen_iff.mpr (Or.inr ⟨claim, hbefore, haction⟩)
          · obtain ⟨_, hclaimed, rfl⟩ := List.mem_map.mp hnew
            obtain ⟨job, hjob, rfl⟩ := List.mem_map.mp hclaimed
            obtain ⟨before, hbefore, rfl⟩ := hclaims.queued job hjob
            have hsame := (sameTask_reclaimed now before).trans
              (sameTask_claimed worker now (reclaimed now before))
            rw [jobAction_of_sameTask hsame] at haction
            exact isOpen_iff.mpr (Or.inl ⟨before, hbefore, haction,
              unsettled_of_reclaimed _ (unsettled_of_due (hclaims.due _ hjob))⟩)
      · rcases List.mem_append.mp hclaim with hbefore | hnew
        · obtain ⟨job, hjob, hsame⟩ := horder.claimed claim hbefore
          refine ⟨_, (hclaims.mem _).mpr ⟨job, hjob, rfl⟩, ?_⟩
          exact (sameTask_afterClaim worker now taken job).symm.trans hsame
        · obtain ⟨_, hclaimed, rfl⟩ := List.mem_map.mp hnew
          obtain ⟨job, hjob, rfl⟩ := List.mem_map.mp hclaimed
          obtain ⟨before, hbefore, rfl⟩ := hclaims.queued job hjob
          refine ⟨_, (hclaims.mem _).mpr ⟨before, hbefore, rfl⟩, ?_⟩
          rw [afterClaim, if_pos hjob]
          exact SameTask.refl _

theorem localOrder_execute (horder : LocalOrder system) (claim : JobClaim)
    (response : JobResponse) (hkept : keepsLocalOrder system (.execute claim response) = true) :
    LocalOrder (executeClaim system claim response) := by
  unfold executeClaim
  split
  · next hready =>
      simp only [Bool.and_eq_true, decide_eq_true_eq] at hready
      obtain ⟨told, hactions, htold⟩ := runJob_actions claim.job response system.db
      apply horder.of_intake told
      · exact congrArg (system.actions ++ ·) hactions
      · intro action haction
        have hjob := htold action haction
        constructor
        · exact horder.isTimely_of_open (isOpen_iff.mpr (Or.inr ⟨claim, hready.1, hjob⟩))
        · simpa only [keepsLocalOrder, hjob, Option.all_some] using hkept
      · exact jobsGrow_runJob claim.job response system.db
      · intro other hother
        rcases List.mem_append.mp hother with hbefore | hnew
        · exact ⟨other, List.mem_of_mem_erase hbefore, rfl⟩
        · rw [List.mem_singleton.mp hnew]
          exact ⟨claim, hready.1, rfl⟩
  · exact horder

theorem localOrder_settle (horder : LocalOrder system) (claim : JobClaim) (written : Timestamp) :
    LocalOrder (settleClaim system claim written) := by
  unfold settleClaim
  split
  · next result _ =>
      split
      · next hclaim =>
          obtain ⟨row, hrow, hsame⟩ := horder.claimed claim hclaim
          obtain ⟨db, hwrite, hjobs, -⟩ :=
            exists_writeOutcome hrow hsame.id.symm result claim.now written
          rw [hwrite]
          refine horder.extend none (List.append_nil _).symm (by simp) (fun action hopen => ?_)
            fun other hother => ?_
          · left
            rcases isOpen_iff.mp hopen with
              ⟨stored, hstored, haction, hunsettled⟩ | ⟨other, hother, haction⟩
            · obtain ⟨job, hjob, hrewritten⟩ := (hjobs stored).mp hstored
              by_cases hid : job.id = claim.job.id
              · -- Whatever becomes of the job, the worker has it until now.
                rw [if_pos hid] at hrewritten
                rw [← hrewritten, jobAction_of_sameTask (sameTask_outcomeChange _ _ _ _ job),
                  CheckedTable.eq_of_key_eq hjob hrow (hid.trans hsame.id),
                  ← jobAction_of_sameTask hsame] at haction
                exact isOpen_iff.mpr (Or.inr ⟨claim, hclaim, haction⟩)
              · rw [if_neg hid] at hrewritten
                subst hrewritten
                exact isOpen_iff.mpr (Or.inl ⟨job, hjob, haction, hunsettled⟩)
            · exact isOpen_iff.mpr (Or.inr ⟨other, List.mem_of_mem_erase hother, haction⟩)
          · obtain ⟨job, hjob, htask⟩ := horder.claimed other (List.mem_of_mem_erase hother)
            refine ⟨_, (hjobs _).mpr ⟨job, hjob, rfl⟩, ?_⟩
            split
            · exact (sameTask_outcomeChange _ _ _ _ job).symm.trans htask
            · exact htask
      · exact horder
  · exact horder

theorem localOrder_retry (horder : LocalOrder system) {jobId : Uuid} {now : Timestamp}
    {db : DeliveryDb} (hretry : retryDeliverySyncJob system.db jobId now = .ok db)
    (hkept : keepsLocalOrder system (.retry jobId now) = true) :
    LocalOrder { system with db } := by
  obtain ⟨-, hjobs, -⟩ := retryDeliverySyncJob_cases hretry
  have hretried : ∀ job, SameTask job (retried now job) := fun _ => ⟨rfl, rfl, rfl, rfl, rfl, rfl⟩
  refine horder.extend none (List.append_nil _).symm (by simp) (fun action hopen => ?_)
    fun claim hclaim => ?_
  · rcases isOpen_iff.mp hopen with
      ⟨stored, hstored, haction, hunsettled⟩ | ⟨claim, hclaim, haction⟩
    · obtain ⟨job, hjob, hrewritten⟩ := (hjobs stored).mp hstored
      by_cases hid : job.id = jobId
      · right
        rw [if_pos hid] at hrewritten
        rw [← hrewritten, jobAction_of_sameTask (hretried job)] at haction
        simp only [keepsLocalOrder, List.all_eq_true, Bool.or_eq_true] at hkept
        rcases hkept job hjob with hother | htimely
        · exact absurd hid (of_decide_eq_true hother)
        · simpa only [haction, Option.all_some] using htimely
      · left
        rw [if_neg hid] at hrewritten
        subst hrewritten
        exact isOpen_iff.mpr (Or.inl ⟨job, hjob, haction, hunsettled⟩)
    · exact Or.inl (isOpen_iff.mpr (Or.inr ⟨claim, hclaim, haction⟩))
  · obtain ⟨job, hjob, htask⟩ := horder.claimed claim hclaim
    refine ⟨_, (hjobs _).mpr ⟨job, hjob, rfl⟩, ?_⟩
    split
    · exact (hretried job).symm.trans htask
    · exact htask

/-- The platform answered what it was asked, if it was asked at all. -/
theorem acknowledge_eq_ok {request : TransitionRequest} {db : DeliveryDb}
    {external : Option ExternalTransitionContext} {actions : List ProviderAction}
    (hacknowledge : acknowledgeExternalOrderBeforeTransition request db = .ok (external, actions)) :
    external = transitionContext request.orderId db
      ∧ actions = (external.bind fun context =>
        (acknowledgementKind request.nextStatus).map (actionOn context)).toList := by
  unfold acknowledgeExternalOrderBeforeTransition at hacknowledge
  cases hcontext : transitionContext request.orderId db with
  | none =>
      rw [hcontext] at hacknowledge
      cases hacknowledge
      exact ⟨rfl, rfl⟩
  | some context =>
      rw [hcontext] at hacknowledge
      cases hkind : acknowledgementKind request.nextStatus with
      | none =>
          simp only [hkind] at hacknowledge
          cases hacknowledge
          exact ⟨rfl, rfl⟩
      | some kind =>
          simp only [hkind] at hacknowledge
          obtain ⟨_, -, hconnected⟩ := bind_eq_ok.mp hacknowledge
          obtain ⟨connection, hconnection, hanswered⟩ := bind_eq_ok.mp hconnected
          obtain ⟨_, -, hreturn⟩ := bind_eq_ok.mp hanswered
          cases hreturn
          have hmatches := List.find?_some (orFail_eq_ok.mp hconnection)
          simp only [isTransitionConnection, Bool.and_eq_true, decide_eq_true_eq] at hmatches
          refine ⟨rfl, ?_⟩
          simp only [Option.bind_some, Option.map_some, Option.toList_some, actionOn,
            hmatches.1.1.1.1]

/-- An acceptance or a rejection is never overtaken. -/
theorem isTimely_acknowledgement (actions : List ProviderAction)
    (nextStatus : ExternalTransitionStatus) {kind : ProviderActionKind}
    (hkind : acknowledgementKind nextStatus = some kind) (external : ExternalTransitionContext) :
    isTimely actions (actionOn external kind) = true := by
  rw [isTimely_iff]
  intro earlier _
  have hnever : overtakesKind earlier.kind kind = false := by
    cases nextStatus <;> cases hkind <;> cases earlier.kind <;> rfl
  simp [overtakes, actionOn, hnever]

theorem isTimely_reject (actions : List ProviderAction) (provider : DeliveryProvider)
    (connectionId : Uuid) (externalOrderId : Text) :
    isTimely actions ⟨provider, connectionId, externalOrderId, .reject⟩ = true :=
  isTimely_acknowledgement actions .cancelled rfl
    ⟨0, provider, connectionId, 0, 0, externalOrderId⟩

theorem localOrder_transition (horder : LocalOrder system) (request : TransitionRequest)
    (hkept : keepsLocalOrder system (.transition request) = true) :
    LocalOrder (transitionOrders system request) := by
  unfold transitionOrders
  split
  · exact horder
  · next external actions hacknowledge =>
      obtain ⟨hexternal, rfl⟩ := acknowledge_eq_ok hacknowledge
      have hgrow := moves_transact (moves_transitionOrder request external) system.db
      refine horder.extend _ rfl (fun action haction => ?_) (fun action hopen => ?_)
        fun claim hclaim => ?_
      · obtain ⟨context, hcontext, hacknowledged⟩ := Option.bind_eq_some_iff.mp haction
        obtain ⟨kind, hkind, rfl⟩ := Option.map_eq_some_iff.mp hacknowledged
        refine ⟨isTimely_acknowledgement _ _ hkind context, ?_⟩
        simp only [keepsLocalOrder, ← hexternal, hcontext, hkind, Option.all_some, Option.map_some,
          Bool.and_eq_true] at hkept
        exact hkept.1
      · rcases isOpen_iff.mp hopen with ⟨job, hjob, haction, hunsettled⟩ | ⟨claim, hclaim, haction⟩
        · rcases hgrow.fresh job hjob with hbefore | ⟨context, rfl, htells⟩
          · exact Or.inl (isOpen_iff.mpr (Or.inl ⟨job, hbefore, haction, hunsettled⟩))
          · right
            rw [jobAction_of_tells htells] at haction
            simp only [keepsLocalOrder, ← hexternal, Option.all_some, Bool.and_eq_true,
              haction] at hkept
            exact hkept.2
        · exact Or.inl (isOpen_iff.mpr (Or.inr ⟨claim, hclaim, haction⟩))
      · obtain ⟨job, hjob, hsame⟩ := horder.claimed claim hclaim
        exact ⟨job, hgrow.kept job hjob, hsame⟩

theorem localOrder_step (system : DeliverySystem) (command : DeliveryCommand)
    (horder : LocalOrder system) (hkept : keepsLocalOrder system command = true) :
    LocalOrder (step system command) := by
  have hsame : ∀ claim ∈ system.claims, ∃ before ∈ system.claims, before.job = claim.job :=
    fun claim hclaim => ⟨claim, hclaim, rfl⟩
  cases command with
  | webhook call =>
      exact horder.of_intake none (List.append_nil _).symm (by simp)
        (jobsGrow_processDeliveryWebhook call system.db) hsame
  | claim worker now limit place => exact localOrder_claim horder worker now limit place
  | execute claim response => exact localOrder_execute horder claim response hkept
  | settle claim written => exact localOrder_settle horder claim written
  | crash claim =>
      exact horder.of_intake none (List.append_nil _).symm (by simp) (Evolution.refl system.db)
        fun other hother => ⟨other, List.mem_of_mem_erase hother, rfl⟩
  | retry jobId now =>
      cases hretry : retryDeliverySyncJob system.db jobId now with
      | error error =>
          simp only [step, hretry]
          exact horder
      | ok db =>
          simp only [step, hretry]
          exact localOrder_retry horder hretry hkept
  | transition request => exact localOrder_transition horder request hkept
  | connect connection =>
      exact horder.of_intake none (List.append_nil _).symm (by simp) (jobsGrow_of_same rfl) hsame
  | platformCancels provider connectionId externalOrderId =>
      refine horder.of_intake (some ⟨provider, connectionId, externalOrderId, .reject⟩) rfl ?_
        (Evolution.refl system.db) hsame
      intro action haction
      rw [← Option.mem_some_iff.mp haction]
      exact ⟨isTimely_reject _ provider connectionId externalOrderId, hkept⟩

/-! ## Runs -/

theorem localOrder_initial : LocalOrder .initial where
  inOrder := List.Pairwise.nil
  settled _ hearlier := absurd hearlier List.not_mem_nil
  claimed _ hclaim := absurd hclaim List.not_mem_nil

/-- The platform learns about the statuses of an order in the order of the stall,
in every run that carries out no action before those that it overtakes. -/
theorem platform_sees_local_order (commands : List DeliveryCommand)
    (hkept : Safely step (fun system command => keepsLocalOrder system command = true) .initial
      commands) :
    InLocalOrder (exec step .initial commands).actions :=
  (invariant_of_safely LocalOrder localOrder_step localOrder_initial hkept).inOrder

/-! ## Two runs with one order -/

def mockCall : WebhookCall where
  provider := .mock
  connectionId := 1
  access := .ok ()
  payloadHash := "payload".toList
  verification := .ok {
    provider := .mock
    externalEventId := none
    eventType := "order.created".toList
    replayKey := "first".toList
    payloadHash := "payload".toList
    order := some (sampleOrder .mock)
    orderReference := none }
  ids := ⟨100, 101, 102⟩
  now := 1000

def mockResponse (access : Except DeliveryError Unit) (now : Timestamp) : JobResponse where
  access := access
  fetched := .ok (sampleOrder .mock)
  action := .ok ()
  reads := sampleReads
  ids := ⟨200, 201, 202⟩
  orderId := 300
  now := now

/-- The job in the hands of the worker. -/
def handed (ticket : ℕ) (job : DeliverySyncJob) (attemptCount : ℕ) (now : Timestamp)
    (result : Option (Except DeliveryError Unit)) : JobClaim where
  ticket := ticket
  worker := "worker".toList
  job := {
    job with
    status := .processing
    claimedByWorker := some "worker".toList
    attemptCount := attemptCount
    startedAt := some now
    lastErrorCode := if attemptCount = 1 then none else some (.delivery .providerUnavailable)
    updatedAt := now }
  now := now
  result := result

def mockImport : DeliverySyncJob :=
  (importJob (sampleConnection .mock) (sampleOrder .mock) 101 100 10).row 102 1000

def mockContext : ExternalTransitionContext := ⟨101, .mock, 1, 10, 20, "order-1".toList⟩

def preparingJob : DeliverySyncJob :=
  (actionJob mockContext .preparing .orderPreparing).row 400 2000

def readyJob (now : Timestamp) : DeliverySyncJob :=
  (actionJob mockContext .ready .orderReady).row 401 now

def moveTo (nextStatus : ExternalTransitionStatus) (jobId : Uuid) (now : Timestamp) :
    DeliveryCommand :=
  .transition ⟨300, nextStatus, nextStatus, .ok (), .ok (), true, jobId, now⟩

/-- The order is imported and accepted, and goes into preparation. -/
def preparedRun : List DeliveryCommand :=
  [.connect (sampleConnection .mock),
    .webhook mockCall,
    .claim "worker".toList 1000 20 id,
    .execute (handed 0 mockImport 1 1000 none) (mockResponse (.ok ()) 1000),
    .settle (handed 0 mockImport 1 1000 (some (.ok ()))) 1500,
    moveTo .confirmed 399 1900,
    moveTo .preparing 400 2000]

/-- The platform learns that the order is in preparation before it is ready. -/
def patientRun : List DeliveryCommand :=
  preparedRun ++
    [.claim "worker".toList 2000 20 id,
    .execute (handed 1 preparingJob 1 2000 none) (mockResponse (.ok ()) 2000),
    .settle (handed 1 preparingJob 1 2000 (some (.ok ()))) 2100,
    moveTo .ready 401 3000,
    .claim "worker".toList 3000 20 id,
    .execute (handed 2 (readyJob 3000) 1 3000 none) (mockResponse (.ok ()) 3000),
    .settle (handed 2 (readyJob 3000) 1 3000 (some (.ok ()))) 3100]

/-- The features of the organization cannot be read. -/
def unreadable : Except DeliveryError Unit := .error .other

/-- The job of the preparation fails before its call; the platform is told after it was told that
the order is ready. -/
def overtakenRun : List DeliveryCommand :=
  preparedRun ++
    [moveTo .ready 401 3000,
    .claim "worker".toList 3000 20 id,
    .execute (handed 1 preparingJob 1 3000 none) (mockResponse unreadable 3000),
    .execute (handed 1 (readyJob 3000) 1 3000 none) (mockResponse (.ok ()) 3000),
    .settle (handed 1 preparingJob 1 3000 (some unreadable)) 3100,
    .settle (handed 1 (readyJob 3000) 1 3000 (some (.ok ()))) 3100,
    .claim "worker".toList 63_000 20 id,
    .execute (handed 2 preparingJob 2 63_000 none) (mockResponse (.ok ()) 63_000)]

theorem patient_run_in_order :
    (exec step .initial patientRun).actions
        = [.accept, .preparing, .ready].map (actionOn mockContext)
      ∧ InLocalOrder (exec step .initial patientRun).actions :=
  ⟨by decide +kernel, platform_sees_local_order patientRun (by decide +kernel)⟩

theorem preparing_told_after_ready :
    (exec step .initial overtakenRun).actions
        = [.accept, .ready, .preparing].map (actionOn mockContext)
      ∧ ¬ InLocalOrder (exec step .initial overtakenRun).actions :=
  ⟨by decide +kernel, by decide +kernel⟩

end Stallorder.StatusOrder
