import Stallorder.Delivery.DeliveryRun

/-!
# What joins the queue of jobs

Webhooks, the jobs themselves and the transitions of the staff leave the jobs of
the queue as they are.  Webhooks and jobs add jobs that bring an order in;
transitions add jobs that tell the platform about a status.
-/

namespace Stallorder.QueueGrowth

open OrderContract DeliveryDatabase SyncJobs ExternalOrders DeliveryRun
open Transaction.Program Checks

/-- The jobs of the queue stay as they are, and the new ones are of a kind. -/
structure JobsGrow (New : DeliverySyncJob → Prop) (db db' : DeliveryDb) : Prop where
  kept : ∀ job ∈ db.jobs, job ∈ db'.jobs
  fresh : ∀ job ∈ db'.jobs, job ∈ db.jobs ∨ New job

variable {New : DeliverySyncJob → Prop}

instance : Evolution (JobsGrow New) where
  refl _ := ⟨fun _ hjob => hjob, fun _ hjob => Or.inl hjob⟩
  trans hfirst hsecond := {
    kept := fun job hjob => hsecond.kept job (hfirst.kept job hjob)
    fresh := fun job hjob => (hsecond.fresh job hjob).elim (hfirst.fresh job) Or.inr }

/-- A job that brings an order in. -/
def Intake (job : DeliverySyncJob) : Prop :=
  job.jobType = .orderFetch ∨ job.jobType = .orderImport

/-- A job that tells the platform about a status. -/
def TellsOf (external : ExternalTransitionContext) (nextStatus : ExternalTransitionStatus)
    (job : DeliverySyncJob) : Prop :=
  ∃ jobType capability jobId now, actionOf nextStatus = some (jobType, capability)
    ∧ job = (actionJob external nextStatus jobType).row jobId now

theorem jobsGrow_of_same {db db' : DeliveryDb} (hsame : db'.jobs = db.jobs) :
    JobsGrow New db db' := by
  constructor
  · intro job hjob
    rw [hsame]
    exact hjob
  · intro job hjob
    rw [hsame] at hjob
    exact Or.inl hjob

/-! ## Statements -/

theorem jobs_of_updateExternalOrder {ledgerId : Uuid} {change : ExternalOrder → ExternalOrder}
    {db db' : DeliveryDb} {order : ExternalOrder}
    (hupdate : updateExternalOrder ledgerId change db = .ok (order, db')) : db'.jobs = db.jobs := by
  obtain ⟨_, _, hupdate⟩ := Checks.bind_eq_ok.mp hupdate
  obtain ⟨_, _, hupdate⟩ := Checks.bind_eq_ok.mp hupdate
  obtain ⟨externalOrders, _, hreturn⟩ := Checks.bind_eq_ok.mp hupdate
  cases hreturn
  rfl

theorem moves_updateExternalOrder (ledgerId : Uuid) (change : ExternalOrder → ExternalOrder) :
    Moves (JobsGrow New) (ExternalOrders.run (updateExternalOrder ledgerId change)) :=
  moves_statement fun hupdate => jobsGrow_of_same (jobs_of_updateExternalOrder hupdate)

theorem moves_createExternalOrder (order : ExternalOrder) :
    Moves (JobsGrow New) (ExternalOrders.run (createExternalOrder order)) := by
  apply moves_statement
  intro db created db' hcreate
  obtain ⟨_, _, hcreate⟩ := Checks.bind_eq_ok.mp hcreate
  obtain ⟨_, _, hreturn⟩ := Checks.bind_eq_ok.mp hcreate
  cases hreturn
  exact jobsGrow_of_same rfl

theorem moves_createWebhookEvent (event : WebhookEvent) :
    Moves (JobsGrow New) (ExternalOrders.run (createWebhookEvent event)) := by
  apply moves_statement
  intro db created db' hcreate
  obtain ⟨_, _, hcreate⟩ := Checks.bind_eq_ok.mp hcreate
  obtain ⟨_, _, hreturn⟩ := Checks.bind_eq_ok.mp hcreate
  cases hreturn
  exact jobsGrow_of_same rfl

theorem moves_updateWebhookEvents (wanted : WebhookEvent → Bool)
    (change : WebhookEvent → WebhookEvent) :
    Moves (JobsGrow New) (ExternalOrders.run (updateWebhookEvents wanted change)) := by
  apply moves_statement
  intro db updated db' hupdate
  obtain ⟨_, _, hreturn⟩ := Checks.bind_eq_ok.mp hupdate
  cases hreturn
  exact jobsGrow_of_same rfl

theorem moves_createOrder (order : ImportedOrder) (audit : ImportAudit) :
    Moves (JobsGrow New) (ExternalOrders.run (createOrder order audit)) := by
  apply moves_statement
  intro db created db' hcreate
  obtain ⟨_, _, hcreate⟩ := Checks.bind_eq_ok.mp hcreate
  obtain ⟨_, _, hreturn⟩ := Checks.bind_eq_ok.mp hcreate
  cases hreturn
  exact jobsGrow_of_same rfl

theorem moves_enqueue {new : NewDeliveryJob} {jobId : Uuid} {now : Timestamp}
    (hnew : New (new.row jobId now)) :
    Moves (JobsGrow New) (enqueueDeliverySyncJob new jobId now) := by
  apply moves_catchError
  · apply moves_statement
    intro db created db' hcreate
    obtain ⟨_, _, hcreate⟩ := Checks.bind_eq_ok.mp hcreate
    obtain ⟨jobs, hinsert, hreturn⟩ := Checks.bind_eq_ok.mp hcreate
    cases hreturn
    have hmem (job : DeliverySyncJob) : job ∈ jobs ↔ job ∈ db.jobs ∨ job = new.row jobId now :=
      CheckedTable.mem_of_insert? (orFail_eq_ok.mp hinsert)
    refine ⟨fun job hjob => (hmem job).mpr (Or.inl hjob), fun job hjob => ?_⟩
    rcases (hmem job).mp hjob with hbefore | rfl
    · exact Or.inl hbefore
    · exact Or.inr hnew
  · intro error
    by_cases hother : error ≠ .uniqueViolation
    · simp only [if_pos hother]
      exact moves_raise error
    · simp only [if_neg hother]
      exact moves_bind (moves_query _) fun existing => moves_orFail existing error

theorem moves_enqueueFetch (connection : DeliveryConnection) (verified : VerifiedWebhook)
    (reference : OrderReference) (eventId jobId : Uuid) (now : Timestamp) :
    Moves (JobsGrow Intake)
      (enqueueDeliverySyncJob (fetchJob connection verified reference eventId) jobId now) := by
  apply moves_enqueue
  exact Or.inl rfl

theorem moves_enqueueImport (connection : DeliveryConnection) (order : NormalizedExternalOrder)
    (ledgerId eventId : Uuid) (priority : ℤ) (jobId : Uuid) (now : Timestamp) :
    Moves (JobsGrow Intake)
      (enqueueDeliverySyncJob (importJob connection order ledgerId eventId priority) jobId now) := by
  apply moves_enqueue
  exact Or.inr rfl

/-! ## Webhooks, jobs and transitions -/

theorem moves_queueImport (connection : DeliveryConnection) (order : NormalizedExternalOrder)
    (externalOrder : ExternalOrder) (ids : IntakeIds) (now : Timestamp) :
    Moves (JobsGrow Intake) (queueImport connection order externalOrder ids now) := by
  unfold queueImport
  split
  · exact moves_bind (moves_updateWebhookEvents _ _) fun _ => moves_pure _
  · exact moves_bind (moves_failWhen _ _) fun _ =>
      moves_bind (moves_enqueueImport _ _ _ _ _ _ _) fun _ => moves_pure _

theorem moves_receiveOrder (connection : DeliveryConnection) (verified : VerifiedWebhook)
    (order : NormalizedExternalOrder) (ids : IntakeIds) (now : Timestamp) :
    Moves (JobsGrow Intake) (receiveOrder connection verified order ids now) := by
  refine moves_bind (moves_query _) fun existing => moves_bind (moves_failWhen _ _) fun _ =>
    moves_bind ?_ fun externalOrder => moves_queueImport _ _ _ _ _
  cases existing with
  | none => exact moves_createExternalOrder _
  | some externalOrder => exact moves_pure externalOrder

theorem moves_receiveWebhook (connection : DeliveryConnection) (verified : VerifiedWebhook)
    (ids : IntakeIds) (now : Timestamp) :
    Moves (JobsGrow Intake) (receiveWebhook connection verified ids now) := by
  refine moves_bind (moves_createWebhookEvent _) fun event => moves_bind (moves_failWhen _ _)
    fun _ => moves_bind ?_ fun _ => moves_pure _
  unfold receiveAnnouncement
  split
  · exact moves_bind (moves_enqueueFetch _ _ _ _ _ _) fun _ => moves_pure _
  · exact moves_receiveOrder _ _ _ _ _
  · exact moves_pure _

theorem jobsGrow_recordRejectedWebhook (connection : DeliveryConnection) (payloadHash : Text)
    (signatureValid : Bool) (error : DeliveryError) (eventId : Uuid) (now : Timestamp)
    (db : DeliveryDb) : JobsGrow Intake db
      (recordRejectedWebhook connection payloadHash signatureValid error eventId now db) :=
  moves_transact (moves_createWebhookEvent _) db

theorem jobsGrow_intakeWebhook (call : WebhookCall) (connection : DeliveryConnection)
    (verified : VerifiedWebhook) (db : DeliveryDb) :
    JobsGrow Intake db (intakeWebhook call connection verified db).2 := by
  have hgrow : JobsGrow Intake db
      (transact (receiveWebhook connection verified call.ids call.now) db).2 :=
    moves_transact (moves_receiveWebhook _ _ _ _) db
  unfold intakeWebhook
  split
  · next heq =>
      rw [heq] at hgrow
      exact hgrow
  · next heq =>
      rw [heq] at hgrow
      simp only
      split <;> exact hgrow
  · next heq =>
      rw [heq] at hgrow
      exact Evolution.trans hgrow (jobsGrow_recordRejectedWebhook _ _ _ _ _ _ _)

theorem jobsGrow_processDeliveryWebhook (call : WebhookCall) (db : DeliveryDb) :
    JobsGrow Intake db (processDeliveryWebhook call db).2 := by
  have hrefl : JobsGrow Intake db db := Evolution.refl db
  unfold processDeliveryWebhook
  split
  · exact hrefl
  · split
    · exact hrefl
    · split
      · exact hrefl
      · exact jobsGrow_recordRejectedWebhook _ _ _ _ _ _ _
      · split
        · exact jobsGrow_recordRejectedWebhook _ _ _ _ _ _ _
        · exact jobsGrow_intakeWebhook _ _ _ _

theorem moves_stageExternalOrder (connection : DeliveryConnection)
    (order : NormalizedExternalOrder) (webhookEventId : Uuid) (payloadHash : Text)
    (ids : IntakeIds) (now : Timestamp) :
    Moves (JobsGrow Intake)
      (stageExternalOrder connection order webhookEventId payloadHash ids now) := by
  refine moves_bind (moves_query _) fun found => moves_bind (moves_orFail _ _) fun event =>
    moves_bind (moves_query _) fun existing => moves_bind ?_ fun externalOrder => ?_
  · cases existing with
    | none => exact moves_createExternalOrder _
    | some externalOrder => exact moves_updateExternalOrder _ _
  · unfold queueFetchedImport
    split
    · exact moves_bind (moves_updateWebhookEvents _ _) fun _ => moves_pure _
    · exact moves_bind (moves_failWhen _ _) fun _ =>
        moves_bind (moves_enqueueImport _ _ _ _ _ _ _) fun _ =>
    moves_bind (moves_updateWebhookEvents _ _) fun _ => moves_pure _

theorem moves_updateImportEvent (webhookEventId : Option Uuid) (connectionId : Uuid)
    (change : WebhookEvent → WebhookEvent) :
    Moves (JobsGrow Intake) (updateImportEvent webhookEventId connectionId change) := by
  cases webhookEventId with
  | none => exact moves_pure ()
  | some eventId => exact moves_updateWebhookEvents _ _

theorem moves_markMappingRequired (externalOrder : ExternalOrder) (webhookEventId : Option Uuid)
    (reason : MappingReason) (now : Timestamp) :
    Moves (JobsGrow Intake) (markMappingRequired externalOrder webhookEventId reason now) :=
  moves_bind (moves_updateExternalOrder _ _) fun _ =>
    moves_bind (moves_updateImportEvent _ _ _) fun _ => moves_pure _

theorem moves_importMapped (externalOrder : ExternalOrder) (input : ImportInput) (jobId : Uuid)
    (items : List PreparedOrderItem) (timeoutSeconds : ℤ) (orderId : Uuid) (now : Timestamp) :
    Moves (JobsGrow Intake)
      (importMapped externalOrder input jobId items timeoutSeconds orderId now) :=
  moves_bind (moves_createOrder _ _) fun _ => moves_bind (moves_updateExternalOrder _ _) fun _ =>
    moves_bind (moves_updateImportEvent _ _ _) fun _ => moves_pure _

theorem moves_importOrder (input : ImportInput) (jobId : Uuid) (reads : StallReads)
    (orderId : Uuid) (now : Timestamp) :
    Moves (JobsGrow Intake) (importOrder input jobId reads orderId now) := by
  refine moves_bind (moves_query _) fun found => moves_bind (moves_orFail _ _) fun externalOrder => ?_
  split
  · exact moves_pure _
  · refine moves_bind (moves_failWhen _ _) fun _ => moves_bind (moves_query _) fun connection => ?_
    split
    · split
      · exact moves_markMappingRequired _ _ _ _
      · split
        · exact moves_markMappingRequired _ _ _ _
        · exact moves_bind (moves_failWhen _ _) fun _ => moves_importMapped _ _ _ _ _ _ _
    · exact moves_markMappingRequired _ _ _ _

theorem db_of_importExternalOrderFromJob (input : ImportInput) (jobId : Uuid)
    (reads : StallReads) (orderId : Uuid) (now : Timestamp) (db : DeliveryDb) :
    (importExternalOrderFromJob input jobId reads orderId now db).2
      = (transact (importOrder input jobId reads orderId now) db).2 := by
  unfold importExternalOrderFromJob
  split
  · next heq => rw [heq]
  · rfl

/-- A job imports an order, stages one, or leaves the database as it is. -/
theorem db_of_runJob (job : DeliverySyncJob) (response : JobResponse) (db : DeliveryDb) :
    (∃ input jobId reads orderId now, (runJob job response db).2.1
        = (transact (importOrder input jobId reads orderId now) db).2)
      ∨ (∃ connection order eventId payloadHash ids now, (runJob job response db).2.1
        = (transact (stageExternalOrder connection order eventId payloadHash ids now) db).2)
      ∨ (runJob job response db).2.1 = db := by
  unfold runJob
  split
  · exact .inr (.inr rfl)
  · exact .inr (.inr rfl)
  · split
    · exact .inr (.inr rfl)
    · split
      · unfold runImport
        split
        · split
          · exact .inr (.inr rfl)
          · exact .inl ⟨_, _, _, _, _, db_of_importExternalOrderFromJob _ _ _ _ _ _⟩
        · exact .inr (.inr rfl)
      · split
        · unfold runFetch
          split
          · split
            · exact .inr (.inr rfl)
            · split
              · exact .inr (.inr rfl)
              · exact .inr (.inl ⟨_, _, _, _, _, _, rfl⟩)
          · exact .inr (.inr rfl)
          · exact .inr (.inr rfl)
        · unfold executeProviderJob
          right; right
          split
          · split
            · rfl
            · split <;> rfl
          · rfl

theorem jobsGrow_runJob (job : DeliverySyncJob) (response : JobResponse) (db : DeliveryDb) :
    JobsGrow Intake db (runJob job response db).2.1 := by
  rcases db_of_runJob job response db with ⟨_, _, _, _, _, himport⟩
    | ⟨_, _, _, _, _, _, hstage⟩ | hsame
  · rw [himport]
    exact moves_transact (moves_importOrder _ _ _ _ _) db
  · rw [hstage]
    exact moves_transact (moves_stageExternalOrder _ _ _ _ _ _) db
  · rw [hsame]
    exact Evolution.refl db

/-! ## Transitions -/

theorem moves_queueAction (external : ExternalTransitionContext)
    (nextStatus : ExternalTransitionStatus) (jobId : Uuid) (now : Timestamp) :
    Moves (JobsGrow (TellsOf external nextStatus)) (queueAction external nextStatus jobId now) := by
  unfold queueAction
  split
  · exact moves_pure ()
  · next jobType capability haction =>
      split
      · refine moves_bind (moves_enqueue ?_) fun _ => moves_pure ()
        exact ⟨jobType, capability, jobId, now, haction, rfl⟩
      · exact moves_pure ()

theorem moves_transitionOrder (request : TransitionRequest)
    (external : Option ExternalTransitionContext) :
    Moves (JobsGrow fun job => ∃ context, external = some context
      ∧ TellsOf context request.persistedStatus job) (transitionOrder request external) := by
  refine moves_bind (moves_failWhen _ _) fun _ => ?_
  cases external with
  | none => exact moves_pure ()
  | some external =>
      refine moves_bind (moves_updateExternalOrder _ _) fun _ => ?_
      have htells : (fun job => ∃ context, some external = some context
          ∧ TellsOf context request.persistedStatus job)
          = TellsOf external request.persistedStatus := by
        funext job
        simp
      rw [htells]
      exact moves_queueAction _ _ _ _

end Stallorder.QueueGrowth
