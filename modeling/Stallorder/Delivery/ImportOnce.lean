import Stallorder.Delivery.JobOutcomes

/-!
# An order of a platform is imported once

However webhooks, fetches, imports and retries are interleaved, a row of the
ledger is linked to the one order that was made of it, and from then on its
amounts stay as they are.
-/

namespace Stallorder.ImportOnce

open OrderContract DeliveryDatabase SyncJobs ExternalOrders DeliveryRun QueueGrowth
open Transaction Transaction.Program Run

/-! ## Links -/

/-- What a row of the ledger stands for. -/
def ledgerKey (row : ExternalOrder) : OrderIdempotencyKey :=
  ⟨row.connectionId, row.provider, row.externalOrderId⟩

/-- The rows that name an order, and the orders that rows name. -/
structure Linked (db : DeliveryDb) : Prop where
  names : ∀ row ∈ db.externalOrders, ∀ orderId, row.internalOrderId = some orderId →
    ∃ order ∈ db.orders, order.id = orderId ∧ order.idempotencyKey = ledgerKey row
  named : ∀ order ∈ db.orders, ∃ row ∈ db.externalOrders,
    row.internalOrderId = some order.id ∧ ledgerKey row = order.idempotencyKey

/-- A linked row stays linked to its order, with the amounts that it has. -/
def Frozen (db db' : DeliveryDb) : Prop :=
  ∀ row ∈ db.externalOrders, ∀ orderId, row.internalOrderId = some orderId →
    ∃ row' ∈ db'.externalOrders, row'.id = row.id ∧ ledgerKey row' = ledgerKey row
      ∧ row'.internalOrderId = some orderId ∧ row'.amounts = row.amounts

theorem Frozen.refl (db : DeliveryDb) : Frozen db db :=
  fun row hrow _ hlinked => ⟨row, hrow, rfl, rfl, hlinked, rfl⟩

theorem Frozen.trans {first second third : DeliveryDb} (hfirst : Frozen first second)
    (hsecond : Frozen second third) : Frozen first third := by
  intro row hrow orderId hlinked
  obtain ⟨row', hrow', hid, hkey, hlinked', hamounts⟩ := hfirst row hrow orderId hlinked
  obtain ⟨row'', hrow'', hid', hkey', hlinked'', hamounts'⟩ :=
    hsecond row' hrow' orderId hlinked'
  exact ⟨row'', hrow'', hid'.trans hid, hkey'.trans hkey, hlinked'', hamounts'.trans hamounts⟩

/-- The links are kept. -/
def KeepsLinks (db db' : DeliveryDb) : Prop := Linked db → Linked db' ∧ Frozen db db'

instance : Evolution KeepsLinks where
  refl db hlinked := ⟨hlinked, Frozen.refl db⟩
  trans hfirst hsecond hlinked :=
    have hmiddle := hfirst hlinked
    have hlast := hsecond hmiddle.1
    ⟨hlast.1, hmiddle.2.trans hlast.2⟩

variable {db db' : DeliveryDb}

theorem keepsLinks_of_same (hledger : db'.externalOrders = db.externalOrders)
    (horders : db'.orders = db.orders) : KeepsLinks db db' := by
  intro hlinked
  refine ⟨⟨?_, ?_⟩, ?_⟩
  · rw [hledger, horders]
    exact hlinked.names
  · rw [hledger, horders]
    exact hlinked.named
  · unfold Frozen
    rw [hledger]
    exact Frozen.refl db

theorem row_unique {left right : ExternalOrder} (hleft : left ∈ db.externalOrders)
    (hright : right ∈ db.externalOrders) (hkey : ledgerKey left = ledgerKey right) :
    left = right := by
  apply CheckedTable.eq_of_collides hleft hright
  simp only [ledgerKey, OrderIdempotencyKey.mk.injEq] at hkey
  simp [Indexed.collides, hkey]

/-! ## Statements -/

/-- A change of a row that leaves what is linked as it is. -/
structure KeepsRow (row row' : ExternalOrder) : Prop where
  id : row'.id = row.id
  key : ledgerKey row' = ledgerKey row
  internalOrderId : row'.internalOrderId = row.internalOrderId
  amounts : row.internalOrderId.isSome = true → row'.amounts = row.amounts

theorem KeepsRow.refl (row : ExternalOrder) : KeepsRow row row := ⟨rfl, rfl, rfl, fun _ => rfl⟩

theorem mem_of_updateExternalOrder {ledgerId : Uuid} {change : ExternalOrder → ExternalOrder}
    {order : ExternalOrder} (hupdate : updateExternalOrder ledgerId change db = .ok (order, db')) :
    (∀ stored, stored ∈ db'.externalOrders ↔ ∃ row ∈ db.externalOrders,
        (if row.id = ledgerId then change row else row) = stored)
      ∧ db'.orders = db.orders
      ∧ ∃ row ∈ db.externalOrders, row.id = ledgerId ∧ change row = order := by
  obtain ⟨row, hfound, hupdate⟩ := Checks.bind_eq_ok.mp hupdate
  obtain ⟨_, _, hupdate⟩ := Checks.bind_eq_ok.mp hupdate
  obtain ⟨externalOrders, hrows, hreturn⟩ := Checks.bind_eq_ok.mp hupdate
  cases hreturn
  obtain ⟨hrow, hid⟩ := CheckedTable.mem_of_findFirst (Checks.orFail_eq_ok.mp hfound)
  refine ⟨fun stored => ?_, rfl, row, hrow, of_decide_eq_true hid, rfl⟩
  rw [CheckedTable.mem_of_updateWhere? (Checks.orFail_eq_ok.mp hrows)]
  simp

theorem keepsLinks_of_update {ledgerId : Uuid} {change : ExternalOrder → ExternalOrder}
    {order : ExternalOrder} (hupdate : updateExternalOrder ledgerId change db = .ok (order, db'))
    (hchange : ∀ row ∈ db.externalOrders, row.id = ledgerId → KeepsRow row (change row)) :
    KeepsLinks db db' := by
  obtain ⟨hmem, horders, -⟩ := mem_of_updateExternalOrder hupdate
  have hkept : ∀ row ∈ db.externalOrders, ∃ row' ∈ db'.externalOrders, KeepsRow row row' := by
    intro row hrow
    refine ⟨_, (hmem _).mpr ⟨row, hrow, rfl⟩, ?_⟩
    by_cases hid : row.id = ledgerId
    · rw [if_pos hid]
      exact hchange row hrow hid
    · rw [if_neg hid]
      exact KeepsRow.refl row
  intro hlinked
  refine ⟨⟨fun stored hstored orderId hnamed => ?_, fun stored hstored => ?_⟩,
    fun row hrow orderId hnamed => ?_⟩
  · obtain ⟨row, hrow, hrewritten⟩ := (hmem stored).mp hstored
    have hsame : KeepsRow row stored := by
      rw [← hrewritten]
      by_cases hid : row.id = ledgerId
      · rw [if_pos hid]
        exact hchange row hrow hid
      · rw [if_neg hid]
        exact KeepsRow.refl row
    rw [hsame.internalOrderId] at hnamed
    rw [hsame.key, horders]
    exact hlinked.names row hrow orderId hnamed
  · rw [horders] at hstored
    obtain ⟨row, hrow, hnames, hkey⟩ := hlinked.named stored hstored
    obtain ⟨row', hrow', hsame⟩ := hkept row hrow
    exact ⟨row', hrow', hsame.internalOrderId.trans hnames, hsame.key.trans hkey⟩
  · obtain ⟨row', hrow', hsame⟩ := hkept row hrow
    exact ⟨row', hrow', hsame.id, hsame.key, hsame.internalOrderId.trans hnamed,
      hsame.amounts (by rw [hnamed]; rfl)⟩

theorem moves_updateExternalOrder {ledgerId : Uuid} {change : ExternalOrder → ExternalOrder}
    (hchange : ∀ row, KeepsRow row (change row)) :
    Moves KeepsLinks (ExternalOrders.run (updateExternalOrder ledgerId change)) :=
  moves_statement fun hupdate => keepsLinks_of_update hupdate fun row _ _ => hchange row

/-- A new row of the ledger names no order. -/
theorem moves_createExternalOrder {order : ExternalOrder} (hfree : order.internalOrderId = none) :
    Moves KeepsLinks (ExternalOrders.run (createExternalOrder order)) := by
  apply moves_statement
  intro db created db' hcreate
  obtain ⟨_, _, hcreate⟩ := Checks.bind_eq_ok.mp hcreate
  obtain ⟨externalOrders, hinsert, hreturn⟩ := Checks.bind_eq_ok.mp hcreate
  cases hreturn
  have hmem (row : ExternalOrder) :
      row ∈ externalOrders ↔ row ∈ db.externalOrders ∨ row = order :=
    CheckedTable.mem_of_insert? (Checks.orFail_eq_ok.mp hinsert)
  intro hlinked
  refine ⟨⟨fun row hrow orderId hnamed => ?_, fun stored hstored => ?_⟩,
    fun row hrow orderId hnamed => ?_⟩
  · rcases (hmem row).mp hrow with hbefore | rfl
    · exact hlinked.names row hbefore orderId hnamed
    · rw [hfree] at hnamed
      cases hnamed
  · obtain ⟨row, hrow, hlink⟩ := hlinked.named stored hstored
    exact ⟨row, (hmem row).mpr (Or.inl hrow), hlink⟩
  · exact ⟨row, (hmem row).mpr (Or.inl hrow), rfl, rfl, hnamed, rfl⟩

theorem moves_createWebhookEvent (event : WebhookEvent) :
    Moves KeepsLinks (ExternalOrders.run (createWebhookEvent event)) := by
  apply moves_statement
  intro db created db' hcreate
  obtain ⟨_, _, hcreate⟩ := Checks.bind_eq_ok.mp hcreate
  obtain ⟨_, _, hreturn⟩ := Checks.bind_eq_ok.mp hcreate
  cases hreturn
  exact keepsLinks_of_same rfl rfl

theorem moves_updateWebhookEvents (wanted : WebhookEvent → Bool)
    (change : WebhookEvent → WebhookEvent) :
    Moves KeepsLinks (ExternalOrders.run (updateWebhookEvents wanted change)) := by
  apply moves_statement
  intro db updated db' hupdate
  obtain ⟨_, _, hreturn⟩ := Checks.bind_eq_ok.mp hupdate
  cases hreturn
  exact keepsLinks_of_same rfl rfl

theorem moves_enqueue (new : NewDeliveryJob) (jobId : Uuid) (now : Timestamp) :
    Moves KeepsLinks (enqueueDeliverySyncJob new jobId now) := by
  apply moves_catchError
  · apply moves_statement
    intro db created db' hcreate
    obtain ⟨_, _, hcreate⟩ := Checks.bind_eq_ok.mp hcreate
    obtain ⟨_, _, hreturn⟩ := Checks.bind_eq_ok.mp hcreate
    cases hreturn
    exact keepsLinks_of_same rfl rfl
  · intro error
    by_cases hother : error ≠ .uniqueViolation
    · simp only [if_pos hother]
      exact moves_raise error
    · simp only [if_neg hother]
      exact moves_bind (moves_query _) fun existing => moves_orFail existing error

/-! ## Webhooks and fetches -/

theorem moves_queueImport (connection : DeliveryConnection) (order : NormalizedExternalOrder)
    (externalOrder : ExternalOrder) (ids : IntakeIds) (now : Timestamp) :
    Moves KeepsLinks (queueImport connection order externalOrder ids now) := by
  unfold queueImport
  split
  · exact moves_bind (moves_updateWebhookEvents _ _) fun _ => moves_pure _
  · exact moves_bind (moves_failWhen _ _) fun _ =>
      moves_bind (moves_enqueue _ _ _) fun _ => moves_pure _

theorem moves_receiveWebhook (connection : DeliveryConnection) (verified : VerifiedWebhook)
    (ids : IntakeIds) (now : Timestamp) :
    Moves KeepsLinks (receiveWebhook connection verified ids now) := by
  refine moves_bind (moves_createWebhookEvent _) fun event => moves_bind (moves_failWhen _ _)
    fun _ => moves_bind ?_ fun _ => moves_pure _
  unfold receiveAnnouncement
  split
  · exact moves_bind (moves_enqueue _ _ _) fun _ => moves_pure _
  · refine moves_bind (moves_query _) fun existing => moves_bind (moves_failWhen _ _) fun _ =>
      moves_bind ?_ fun externalOrder => moves_queueImport _ _ _ _ _
    cases existing with
    | none =>
        apply moves_createExternalOrder
        rfl
    | some externalOrder => exact moves_pure externalOrder
  · exact moves_pure _

theorem keepsRow_fetched (order : NormalizedExternalOrder) (eventType payloadHash : Text)
    {row : ExternalOrder} (hfree : row.internalOrderId.isSome = false) :
    KeepsRow row (fetchedOrder order eventType payloadHash row) :=
  ⟨rfl, rfl, rfl, fun hlinked => by rw [hfree] at hlinked; cases hlinked⟩

/-- A fetch rewrites the row that it has just read, unless that row is linked. -/
theorem yields_stageOrder {session : Session DeliveryDb} (connection : DeliveryConnection)
    (order : NormalizedExternalOrder) (eventType payloadHash : Text)
    {existing : Option ExternalOrder} (ledgerId : Uuid)
    (hexisting : ∀ externalOrder, existing = some externalOrder →
      externalOrder ∈ session.db.externalOrders) :
    Yields KeepsLinks (stageOrder connection order eventType payloadHash existing ledgerId)
      session := by
  cases existing with
  | none =>
      apply yields_of_moves
      apply moves_createExternalOrder
      rfl
  | some externalOrder =>
      apply yields_statement
      intro stored db' hupdate
      apply keepsLinks_of_update hupdate
      intro row hrow hid
      have hsame : row = externalOrder :=
        CheckedTable.eq_of_key_eq hrow (hexisting externalOrder rfl) hid
      rw [hsame]
      cases hlinked : externalOrder.internalOrderId.isSome with
      | true => exact KeepsRow.refl externalOrder
      | false => exact keepsRow_fetched order eventType payloadHash hlinked

theorem moves_queueFetchedImport (connection : DeliveryConnection)
    (order : NormalizedExternalOrder) (externalOrder : ExternalOrder) (eventId jobId : Uuid)
    (now : Timestamp) :
    Moves KeepsLinks (queueFetchedImport connection order externalOrder eventId jobId now) := by
  unfold queueFetchedImport
  split
  · exact moves_bind (moves_updateWebhookEvents _ _) fun _ => moves_pure _
  · exact moves_bind (moves_failWhen _ _) fun _ => moves_bind (moves_enqueue _ _ _) fun _ =>
      moves_bind (moves_updateWebhookEvents _ _) fun _ => moves_pure _

theorem mem_of_findExternalOrder {connectionId : Uuid} {provider : DeliveryProvider}
    {externalOrderId : Text} {row : ExternalOrder}
    (hfound : findExternalOrder connectionId provider externalOrderId db = some row) :
    row ∈ db.externalOrders :=
  (CheckedTable.mem_of_findFirst hfound).1

theorem yields_stageExternalOrder {session : Session DeliveryDb} (connection : DeliveryConnection)
    (order : NormalizedExternalOrder) (webhookEventId : Uuid) (payloadHash : Text)
    (ids : IntakeIds) (now : Timestamp) :
    Yields KeepsLinks (stageExternalOrder connection order webhookEventId payloadHash ids now)
      session := by
  apply yields_query_bind
  apply yields_orFail_bind
  intro event _
  apply yields_query_bind
  apply yields_bind
  · apply yields_stageOrder
    intro externalOrder hfound
    exact mem_of_findExternalOrder hfound
  · intro externalOrder middle _
    exact yields_of_moves (moves_queueFetchedImport _ _ _ _ _ _) middle

/-! ## Imports -/

theorem moves_updateImportEvent (webhookEventId : Option Uuid) (connectionId : Uuid)
    (change : WebhookEvent → WebhookEvent) :
    Moves KeepsLinks (updateImportEvent webhookEventId connectionId change) := by
  cases webhookEventId with
  | none => exact moves_pure ()
  | some eventId => exact moves_updateWebhookEvents _ _

theorem moves_markMappingRequired (externalOrder : ExternalOrder) (webhookEventId : Option Uuid)
    (reason : MappingReason) (now : Timestamp) :
    Moves KeepsLinks (markMappingRequired externalOrder webhookEventId reason now) := by
  refine moves_bind (moves_updateExternalOrder fun row => ?_) fun _ =>
    moves_bind (moves_updateImportEvent _ _ _) fun _ => moves_pure _
  exact ⟨rfl, rfl, rfl, fun _ => rfl⟩

theorem mem_of_createOrder {order : ImportedOrder} {audit : ImportAudit} {done : Unit}
    (hcreate : createOrder order audit db = .ok (done, db')) :
    (∀ stored, stored ∈ db'.orders ↔ stored ∈ db.orders ∨ stored = order)
      ∧ db'.externalOrders = db.externalOrders := by
  obtain ⟨_, _, hcreate⟩ := Checks.bind_eq_ok.mp hcreate
  obtain ⟨orders, hinsert, hreturn⟩ := Checks.bind_eq_ok.mp hcreate
  cases hreturn
  exact ⟨fun stored => CheckedTable.mem_of_insert? (Checks.orFail_eq_ok.mp hinsert), rfl⟩

/-- The new order and the link of its row are written together. -/
theorem keepsLinks_of_link {order : ImportedOrder} {audit : ImportAudit} {middle : DeliveryDb}
    {row updated : ExternalOrder} {now : Timestamp} {done : Unit}
    (hrow : row ∈ db.externalOrders) (hfree : row.internalOrderId = none)
    (hkey : order.idempotencyKey = ledgerKey row)
    (hcreate : createOrder order audit db = .ok (done, middle))
    (hlink : updateExternalOrder row.id (linked order.id now) middle = .ok (updated, db')) :
    KeepsLinks db db' := by
  obtain ⟨horders, hledger⟩ := mem_of_createOrder hcreate
  obtain ⟨hmem, horders', -⟩ := mem_of_updateExternalOrder hlink
  rw [hledger] at hmem
  have hother : ∀ other ∈ db.externalOrders, ∀ orderId, other.internalOrderId = some orderId →
      other.id ≠ row.id := by
    intro other hmember orderId hnamed hid
    rw [CheckedTable.eq_of_key_eq hmember hrow hid, hfree] at hnamed
    cases hnamed
  intro hlinked
  refine ⟨⟨fun stored hstored orderId hnamed => ?_, fun stored hstored => ?_⟩,
    fun other hmember orderId hnamed => ?_⟩
  · obtain ⟨before, hbefore, hrewritten⟩ := (hmem stored).mp hstored
    rw [horders']
    by_cases hid : before.id = row.id
    · have hsame : before = row := CheckedTable.eq_of_key_eq hbefore hrow hid
      rw [if_pos hid, hsame] at hrewritten
      subst hrewritten
      exact ⟨order, (horders order).mpr (Or.inr rfl), Option.some.inj hnamed, hkey⟩
    · rw [if_neg hid] at hrewritten
      subst hrewritten
      obtain ⟨found, hfound, hlink⟩ := hlinked.names before hbefore orderId hnamed
      exact ⟨found, (horders found).mpr (Or.inl hfound), hlink⟩
  · rw [horders'] at hstored
    rcases (horders stored).mp hstored with hbefore | rfl
    · obtain ⟨other, hmember, hnames, hotherKey⟩ := hlinked.named stored hbefore
      exact ⟨other, (hmem other).mpr ⟨other, hmember, if_neg (hother other hmember _ hnames)⟩,
        hnames, hotherKey⟩
    · exact ⟨linked stored.id now row, (hmem _).mpr ⟨row, hrow, if_pos rfl⟩, rfl, hkey.symm⟩
  · exact ⟨other, (hmem other).mpr ⟨other, hmember, if_neg (hother other hmember orderId hnamed)⟩,
      rfl, rfl, hnamed, rfl⟩

theorem yields_importMapped {session : Session DeliveryDb} {externalOrder : ExternalOrder}
    (hrow : externalOrder ∈ session.db.externalOrders)
    (hfree : externalOrder.internalOrderId = none) (input : ImportInput) (jobId : Uuid)
    (items : List PreparedOrderItem) (timeoutSeconds : ℤ) (orderId : Uuid) (now : Timestamp)
    (hprovider : externalOrder.provider = input.order.provider)
    (hexternal : externalOrder.externalOrderId = input.order.externalOrderId) :
    Yields KeepsLinks
      (importMapped externalOrder input jobId items timeoutSeconds orderId now) session := by
  intro outcome session' hrun
  obtain ⟨_, middle, hcreateRun, hrest⟩ := bind_eq_ok.mp hrun
  obtain ⟨_, created, hcreate, rfl⟩ := statement_eq_ok.mp hcreateRun
  obtain ⟨updated, last, hlinkRun, hmarkRun⟩ := bind_eq_ok.mp hrest
  obtain ⟨_, linkedDb, hlink, rfl⟩ := statement_eq_ok.mp hlinkRun
  have hkey : (canonicalOrder externalOrder input.order items timeoutSeconds orderId
      now).idempotencyKey = ledgerKey externalOrder := by
    simp [canonicalOrder, ledgerKey, hprovider, hexternal]
  have hlinks : KeepsLinks session.db linkedDb :=
    keepsLinks_of_link hrow hfree hkey hcreate hlink
  have hmark : KeepsLinks linkedDb session'.db :=
    yields_of_moves (moves_bind (moves_updateImportEvent _ _ _) fun _ => moves_pure _) _ _ _
      hmarkRun
  exact Evolution.trans hlinks hmark

theorem yields_importFresh {session : Session DeliveryDb} {externalOrder : ExternalOrder}
    (hrow : externalOrder ∈ session.db.externalOrders)
    (hfree : externalOrder.internalOrderId = none) (input : ImportInput) (jobId : Uuid)
    (reads : StallReads) (orderId : Uuid) (now : Timestamp) :
    Yields KeepsLinks (importFresh externalOrder input jobId reads orderId now) session := by
  apply yields_failWhen_bind
  intro hmatches
  simp only [ne_eq, Bool.or_eq_false_iff, decide_eq_false_iff_not, not_not] at hmatches
  apply yields_query_bind
  split
  · split
    · exact yields_of_moves (moves_markMappingRequired _ _ _ _) session
    · split
      · exact yields_of_moves (moves_markMappingRequired _ _ _ _) session
      · apply yields_failWhen_bind
        intro _
        exact yields_importMapped hrow hfree input jobId _ _ orderId now hmatches.1.1 hmatches.1.2
  · exact yields_of_moves (moves_markMappingRequired _ _ _ _) session

theorem yields_importOrder {session : Session DeliveryDb} (input : ImportInput) (jobId : Uuid)
    (reads : StallReads) (orderId : Uuid) (now : Timestamp) :
    Yields KeepsLinks (importOrder input jobId reads orderId now) session := by
  apply yields_query_bind
  apply yields_orFail_bind
  intro externalOrder hfound
  cases hlinked : externalOrder.internalOrderId with
  | some importedId =>
      simp only
      exact yields_of_moves (moves_pure _) session
  | none =>
      simp only
      exact yields_importFresh (CheckedTable.mem_of_findFirst hfound).1 hlinked _ _ _ _ _

/-! ## Calls -/

theorem keepsLinks_recordRejectedWebhook (connection : DeliveryConnection) (payloadHash : Text)
    (signatureValid : Bool) (error : DeliveryError) (eventId : Uuid) (now : Timestamp)
    (db : DeliveryDb) : KeepsLinks db
      (recordRejectedWebhook connection payloadHash signatureValid error eventId now db) :=
  moves_transact (moves_createWebhookEvent _) db

theorem keepsLinks_intakeWebhook (call : WebhookCall) (connection : DeliveryConnection)
    (verified : VerifiedWebhook) (db : DeliveryDb) :
    KeepsLinks db (intakeWebhook call connection verified db).2 := by
  have hkeeps : KeepsLinks db
      (transact (receiveWebhook connection verified call.ids call.now) db).2 :=
    moves_transact (moves_receiveWebhook _ _ _ _) db
  unfold intakeWebhook
  split
  · next heq =>
      rw [heq] at hkeeps
      exact hkeeps
  · next heq =>
      rw [heq] at hkeeps
      simp only
      split <;> exact hkeeps
  · next heq =>
      rw [heq] at hkeeps
      exact Evolution.trans hkeeps (keepsLinks_recordRejectedWebhook _ _ _ _ _ _ _)

theorem keepsLinks_processDeliveryWebhook (call : WebhookCall) (db : DeliveryDb) :
    KeepsLinks db (processDeliveryWebhook call db).2 := by
  have hrefl : KeepsLinks db db := Evolution.refl db
  unfold processDeliveryWebhook
  split
  · exact hrefl
  · split
    · exact hrefl
    · split
      · exact hrefl
      · exact keepsLinks_recordRejectedWebhook _ _ _ _ _ _ _
      · split
        · exact keepsLinks_recordRejectedWebhook _ _ _ _ _ _ _
        · exact keepsLinks_intakeWebhook _ _ _ _

theorem keepsLinks_runJob (job : DeliverySyncJob) (response : JobResponse) (db : DeliveryDb) :
    KeepsLinks db (runJob job response db).2.1 := by
  rcases db_of_runJob job response db with ⟨_, _, _, _, _, himport⟩
    | ⟨_, _, _, _, _, _, hstage⟩ | hsame
  · rw [himport]
    exact yields_transact (yields_importOrder _ _ _ _ _)
  · rw [hstage]
    exact yields_transact (yields_stageExternalOrder _ _ _ _ _ _)
  · rw [hsame]
    exact Evolution.refl db

theorem moves_queueAction (external : ExternalTransitionContext)
    (nextStatus : ExternalTransitionStatus) (jobId : Uuid) (now : Timestamp) :
    Moves KeepsLinks (queueAction external nextStatus jobId now) := by
  unfold queueAction
  split
  · exact moves_pure ()
  · split
    · exact moves_bind (moves_enqueue _ _ _) fun _ => moves_pure ()
    · exact moves_pure ()

theorem moves_transitionOrder (request : TransitionRequest)
    (external : Option ExternalTransitionContext) :
    Moves KeepsLinks (transitionOrder request external) := by
  refine moves_bind (moves_failWhen _ _) fun _ => ?_
  cases external with
  | none => exact moves_pure ()
  | some external =>
      apply moves_bind
      · apply moves_updateExternalOrder
        intro row
        exact ⟨rfl, rfl, rfl, fun _ => rfl⟩
      · intro _
        exact moves_queueAction _ _ _ _

/-! ## Runs -/

theorem keepsLinks_step (system : DeliverySystem) (command : DeliveryCommand) :
    KeepsLinks system.db (step system command).db := by
  have hrefl : KeepsLinks system.db system.db := Evolution.refl system.db
  cases command with
  | webhook call => exact keepsLinks_processDeliveryWebhook call system.db
  | claim worker now limit place =>
      simp only [step, claimJobs]
      split
      · exact hrefl
      · next hclaim =>
          obtain ⟨_, -, hclaims⟩ := claimDeliverySyncJobs_cases hclaim
          rw [hclaims.rest]
          exact keepsLinks_of_same rfl rfl
  | execute claim response =>
      simp only [step, executeClaim]
      split
      · exact keepsLinks_runJob claim.job response system.db
      · exact hrefl
  | settle claim written =>
      simp only [step, settleClaim]
      split
      · next result _ =>
          split
          · cases hwrite : writeOutcome system.db claim.job result claim.now written with
            | error error => exact hrefl
            | ok db =>
                change KeepsLinks system.db db
                rw [rest_of_writeOutcome hwrite]
                exact keepsLinks_of_same rfl rfl
          · exact hrefl
      · exact hrefl
  | crash claim => exact hrefl
  | retry jobId now =>
      simp only [step]
      cases hretry : retryDeliverySyncJob system.db jobId now with
      | error error => exact hrefl
      | ok db =>
          change KeepsLinks system.db db
          rw [(retryDeliverySyncJob_cases hretry).2.2]
          exact keepsLinks_of_same rfl rfl
  | transition request =>
      simp only [step, transitionOrders]
      split
      · exact hrefl
      · exact moves_transact (moves_transitionOrder _ _) system.db
  | connect connection => exact keepsLinks_of_same rfl rfl
  | platformCancels provider connectionId externalOrderId => exact hrefl

/-- Every order of a platform has one row in the ledger and at most one order of
the stall, and the two know each other. -/
structure ImportedOnce (db : DeliveryDb) : Prop where
  oneRow : ∀ left ∈ db.externalOrders, ∀ right ∈ db.externalOrders,
    ledgerKey left = ledgerKey right → left = right
  oneOrder : ∀ left ∈ db.orders, ∀ right ∈ db.orders,
    left.idempotencyKey = right.idempotencyKey → left = right
  names : ∀ row ∈ db.externalOrders, ∀ orderId, row.internalOrderId = some orderId →
    ∃ order ∈ db.orders, order.id = orderId ∧ order.idempotencyKey = ledgerKey row
  named : ∀ order ∈ db.orders, ∃ row ∈ db.externalOrders,
    row.internalOrderId = some order.id ∧ ledgerKey row = order.idempotencyKey

theorem Linked.importedOnce (hlinked : Linked db) : ImportedOnce db where
  oneRow _ hleft _ hright hkey := row_unique hleft hright hkey
  oneOrder left hleft right hright hkey := by
    obtain ⟨row, hrow, hnames, hrowKey⟩ := hlinked.named left hleft
    obtain ⟨other, hother, hotherNames, hotherKey⟩ := hlinked.named right hright
    have hsame : row = other :=
      row_unique hrow hother (hrowKey.trans (hkey.trans hotherKey.symm))
    rw [hsame, hotherNames] at hnames
    exact CheckedTable.eq_of_key_eq hleft hright (Option.some.inj hnames).symm
  names := hlinked.names
  named := hlinked.named

theorem linked_initial : Linked DeliverySystem.initial.db where
  names _ hrow := absurd hrow List.not_mem_nil
  named order (horder : order ∈ (CheckedTable.empty : CheckedTable ImportedOrder ordersChecks)) :=
    absurd horder (CheckedTable.notMem_empty order)

theorem keepsLinks_exec (system : DeliverySystem) (commands : List DeliveryCommand) :
    KeepsLinks system.db (exec step system commands).db := by
  induction commands generalizing system with
  | nil => exact Evolution.refl system.db
  | cons command commands ih =>
      rw [exec_cons]
      exact Evolution.trans (keepsLinks_step system command) (ih (step system command))

/-- An order of a platform is imported once in every run, and whatever happens
later leaves its row linked to the order, with the same amounts. -/
theorem imported_once (commands later : List DeliveryCommand) :
    ImportedOnce (exec step .initial commands).db
      ∧ Frozen (exec step .initial commands).db
        (exec step .initial (commands ++ later)).db := by
  have hlinked : Linked (exec step .initial commands).db :=
    (keepsLinks_exec .initial commands linked_initial).1
  constructor
  · exact hlinked.importedOnce
  · rw [exec_append]
    exact (keepsLinks_exec _ later hlinked).2

end Stallorder.ImportOnce
