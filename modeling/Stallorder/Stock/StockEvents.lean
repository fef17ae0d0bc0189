import Stallorder.Stock.StockSession

/-!
# Refused and repeated events

A transaction is refused for its stock exactly when one of its events would
take a product below zero, and an event that is repeated finds nothing to do.
-/

namespace Stallorder.StockEvents

open OrderContract StockDatabase Reconciliation StockSession Checks

/-! ## Refusals -/

section Refusals

variable {session : Session} {order : StockOrder} {orderId : Uuid} {db : StockDb}
  {statements : List Statement}

/-- Reconciling an order would take the stock of one of its products below
zero. -/
def Overdraws (session : Session) (order : StockOrder) : Prop :=
  ∃ productId ∈ productsToReconcile (fingerprintOf session.db order) order.stockAllocations,
    ∃ stock, countedStock session.db.products (productKey order productId) = some stock
      ∧ ¬ Predates order order.stockAllocations productId stock
      ∧ stock.stockRemaining
        - deltaOf (fingerprintOf session.db order) order.stockAllocations productId stock < 0

theorem reconcileOrder_eq_error {error : StockError} :
    reconcileOrder session order = .error error ↔
      error = .stockInsufficient ∧ Overdraws session order := by
  unfold reconcileOrder
  have hnodup := nodup_productsToReconcile (fingerprintOf session.db order) order.stockAllocations
  cases hloop : (productsToReconcile (fingerprintOf session.db order)
      order.stockAllocations).foldlM (reconcileProduct order (fingerprintOf session.db order))
      { products := session.db.products, allocations := order.stockAllocations } with
  | ok reconciled =>
      simp only [hloop]
      constructor
      · intro hok
        cases hok
      · rintro ⟨-, productId, hlisted, stock, hcounted, hcurrent, hshort⟩
        exfalso
        obtain ⟨-, hturned⟩ := turned_of_loop hnodup hloop
        cases hturned productId hlisted with
        | unlimited hnone _ _ => cases hnone.symm.trans hcounted
        | predates found hfound hold _ _ =>
            cases hfound.symm.trans hcounted
            exact hcurrent hold
        | counted found hfound _ henough _ _ =>
            cases hfound.symm.trans hcounted
            exact absurd henough (not_le.mpr (sub_neg.mp hshort))
  | error found =>
      simp only [hloop]
      have hrefused : found = .stockInsufficient ∧ Overdraws session order := by
        obtain ⟨before, productId, after, state, hitems, hbefore, hturn⟩ :=
          foldlM_eq_error.mp hloop
        obtain ⟨rfl, stock, hcounted, hcurrent, hshort⟩ := reconcileProduct_eq_error.mp hturn
        rw [hitems] at hnodup
        have hfresh : productId ∉ before := fun hmem =>
          (List.nodup_append.mp hnodup).2.2 productId hmem productId List.mem_cons_self rfl
        obtain ⟨htouches, -⟩ := turned_of_loop (List.nodup_append.mp hnodup).1 hbefore
        have hallocation := htouches.allocations productId hfresh
        have hproducts := htouches.products (productKey order productId)
          fun other hother => productKey_ne fun hsame => hfresh (hsame ▸ hother)
        have hheld := heldOf_congr hallocation stock.stockStartedAt
        have hdelta : deltaOf (fingerprintOf session.db order) state.allocations productId stock
            = deltaOf (fingerprintOf session.db order) order.stockAllocations productId stock := by
          unfold deltaOf desiredOf
          rw [previousOf_congr hallocation]
        refine ⟨rfl, productId, ?_, stock, hproducts.symm.trans hcounted, ?_, ?_⟩
        · rw [hitems]
          exact List.mem_append_right _ List.mem_cons_self
        · exact fun hold => hcurrent ⟨hheld.trans hold.1, hold.2⟩
        · rw [← hdelta]
          exact hshort
      constructor
      · intro herror
        cases herror
        exact hrefused
      · rintro ⟨rfl, -⟩
        rw [hrefused.1]
        rfl

/-- An event whose order is there, is no test, has changed since it was last
reconciled, and asks for more than there is. -/
def RunsShort (session : Session) (orderId : Uuid) : Prop :=
  ∃ order, session.db.orders.get? orderId = some order ∧ order.isSetupTest = false
    ∧ session.cache orderId ≠ some (fingerprintOf session.db order) ∧ Overdraws session order

theorem reconcileOrderStock_eq_error {error : StockError} :
    reconcileOrderStock session orderId = .error error ↔
      error = .stockInsufficient ∧ RunsShort session orderId := by
  unfold reconcileOrderStock RunsShort
  cases hfound : session.db.orders.get? orderId with
  | none =>
      constructor
      · intro hok
        cases hok
      · rintro ⟨-, order, hnone, -⟩
        cases hnone
  | some order =>
      simp only [Option.some.injEq, exists_eq_left']
      by_cases htest : order.isSetupTest = true
      · simp [htest]
      · have hreal : order.isSetupTest = false := Bool.eq_false_iff.mpr htest
        rw [if_neg htest]
        by_cases hcached : session.cache orderId = some (fingerprintOf session.db order)
        · simp [hcached]
        · rw [if_neg hcached, reconcileOrder_eq_error]
          simp [hreal, hcached]

/-- The deferred events of a transaction come to one that asks for more than
there is, when it commits or makes its constraints immediate. -/
def Overdrawn (db : StockDb) (statements : List Statement) : Prop :=
  ∃ before after pending handled orderId waiting session,
    statements ++ [Statement.setConstraintsImmediate]
        = before ++ Statement.setConstraintsImmediate :: after
      ∧ before.foldlM executeStatement (Session.start db) = .ok pending
      ∧ pending.deferred = handled ++ orderId :: waiting
      ∧ handled.foldlM reconcileOrderStock pending = .ok session
      ∧ RunsShort session orderId

theorem executeStatement_eq_stockInsufficient {statement : Statement} :
    executeStatement session statement = .error .stockInsufficient ↔
      statement = .setConstraintsImmediate
        ∧ session.deferred.foldlM reconcileOrderStock session = .error .stockInsufficient := by
  have hguard : ∀ {condition : Bool} {next : Unit → Except StockError Session},
      (failWhen condition .constraintViolated >>= next) = .error .stockInsufficient →
        next () = .error .stockInsufficient := by
    intro condition next hfails
    cases condition with
    | true => cases hfails
    | false => exact hfails
  have hstored : ∀ {Value : Type} {value : Option Value} {next : Value → Session},
      (orFail value .constraintViolated >>= fun result => pure (next result))
        ≠ (.error .stockInsufficient : Except StockError Session) := by
    intro Value value next hfails
    cases value <;> cases hfails
  have hpure : ∀ {result : Session},
      (pure result : Except StockError Session) ≠ .error .stockInsufficient := by
    intro result hfails
    cases hfails
  unfold executeStatement
  constructor
  · intro hfails
    cases statement with
    | insertOrder new => exact absurd hfails hstored
    | updateOrderStatus orderId status =>
        simp only at hfails
        split at hfails <;> cases hfails
    | insertLine line => exact absurd (hguard (hguard hfails)) hstored
    | updateLineQuantity lineId quantity =>
        simp only at hfails
        split at hfails
        · cases hfails
        · exact absurd (hguard hfails) hpure
    | updateLineStatus lineId status =>
        simp only at hfails
        split at hfails <;> cases hfails
    | deleteLine lineId =>
        simp only at hfails
        split at hfails <;> cases hfails
    | writeTask orderId status => cases hfails
    | insertProduct other remaining now => exact absurd (hguard hfails) hstored
    | updateStock other remaining now => exact absurd (hguard hfails) hpure
    | setConstraintsImmediate =>
        cases hevents : session.deferred.foldlM reconcileOrderStock session with
        | ok reconciled =>
            simp only [hevents] at hfails
            cases hfails
        | error error =>
            simp only [hevents] at hfails
            cases hfails
            exact ⟨rfl, rfl⟩
  · rintro ⟨rfl, hevents⟩
    simp only [hevents]
    rfl

/-- A transaction is refused for its stock exactly when some event of it would
take a product below zero. -/
theorem transact_eq_stockInsufficient :
    transact db statements = .error .stockInsufficient ↔ Overdrawn db statements := by
  have hwhole : transact db statements = .error .stockInsufficient ↔
      (statements ++ [Statement.setConstraintsImmediate]).foldlM executeStatement
        (Session.start db) = .error .stockInsufficient := by
    unfold transact
    cases (statements ++ [Statement.setConstraintsImmediate]).foldlM executeStatement
      (Session.start db) with
    | ok session =>
        constructor
        · intro hok
          cases hok
        · intro hok
          cases hok
    | error error =>
        rw [bind_error]
        constructor
        · intro herror
          cases herror
          rfl
        · intro herror
          cases herror
          rfl
  rw [hwhole, foldlM_eq_error]
  constructor
  · rintro ⟨before, statement, after, pending, hitems, hbefore, hfails⟩
    obtain ⟨rfl, hevents⟩ := executeStatement_eq_stockInsufficient.mp hfails
    obtain ⟨handled, orderId, waiting, session, hdeferred, hhandled, hevent⟩ :=
      foldlM_eq_error.mp hevents
    exact ⟨before, after, pending, handled, orderId, waiting, session, hitems, hbefore, hdeferred,
      hhandled, (reconcileOrderStock_eq_error.mp hevent).2⟩
  · rintro ⟨before, after, pending, handled, orderId, waiting, session, hitems, hbefore,
      hdeferred, hhandled, hshort⟩
    refine ⟨before, _, after, pending, hitems, hbefore, ?_⟩
    rw [executeStatement_eq_stockInsufficient]
    refine ⟨rfl, foldlM_eq_error.mpr ⟨handled, orderId, waiting, session, hdeferred, hhandled, ?_⟩⟩
    exact reconcileOrderStock_eq_error.mpr ⟨rfl, hshort⟩

end Refusals

/-! ## Repeated events -/

section Repetition

variable {session session' : Session} {order : StockOrder} {orderId : Uuid}
  {products products' : Table ProductStock} {fingerprint : Fingerprint}
  {allocations : Table StockAllocation} {ids : List Uuid}

/-- A reconciliation of the order has nothing to do. -/
def Steady (products : Table ProductStock) (fingerprint : Fingerprint) (order : StockOrder) :
    Prop :=
  ∀ productId ∈ productsToReconcile fingerprint order.stockAllocations,
    Fixed order fingerprint { products := products, allocations := order.stockAllocations }
      productId

/-- The same products are counted, since the same times, and none is short. -/
def Continues (products products' : Table ProductStock) : Prop :=
  ∀ key, (countedStock products key = none → countedStock products' key = none)
    ∧ ∀ stock, countedStock products key = some stock → ∃ remaining,
      countedStock products' key = some { stock with stockRemaining := remaining }
        ∧ (0 ≤ stock.stockRemaining → 0 ≤ remaining)

theorem Continues.refl (products : Table ProductStock) : Continues products products :=
  fun _ => ⟨id, fun stock hcounted => ⟨stock.stockRemaining, hcounted, id⟩⟩

theorem Steady.continues (hsteady : Steady products fingerprint order)
    (hcontinues : Continues products products') : Steady products' fingerprint order := by
  intro productId hlisted
  have hfixed := hsteady productId hlisted
  obtain ⟨hnone, hsome⟩ := hcontinues (productKey order productId)
  unfold Fixed at hfixed ⊢
  cases hcounted : countedStock products (productKey order productId) with
  | none =>
      rw [hcounted] at hfixed
      simp only [hnone hcounted]
      exact hfixed
  | some stock =>
      rw [hcounted] at hfixed
      obtain ⟨remaining, hcounted', hnonneg⟩ := hsome stock hcounted
      simp only [hcounted']
      exact hfixed.imp id fun hheld => ⟨hnonneg hheld.1, hheld.2⟩

theorem continues_of_loop {state state' : Reconciling} {productIds : List Uuid}
    (hnodup : productIds.Nodup)
    (hloop : productIds.foldlM (reconcileProduct order fingerprint) state = .ok state') :
    Continues state.products state'.products := by
  obtain ⟨htouches, hturned⟩ := turned_of_loop hnodup hloop
  intro key
  by_cases htouched : ∃ productId ∈ productIds, key = productKey order productId
  · obtain ⟨productId, hlisted, rfl⟩ := htouched
    cases hturned productId hlisted with
    | unlimited hcounted hproducts _ =>
        refine ⟨fun _ => hproducts, fun stock hstock => ?_⟩
        cases hcounted.symm.trans hstock
    | predates found hcounted _ hproducts _ =>
        refine ⟨fun hnone => ?_, fun stock hstock => ?_⟩
        · cases hcounted.symm.trans hnone
        · cases hcounted.symm.trans hstock
          exact ⟨_, hproducts, id⟩
    | counted found hcounted _ henough hproducts _ =>
        refine ⟨fun hnone => ?_, fun stock hstock => ?_⟩
        · cases hcounted.symm.trans hnone
        · cases hcounted.symm.trans hstock
          exact ⟨_, hproducts, fun _ => sub_nonneg.mpr henough⟩
  · have hsame := htouches.products key fun productId hlisted hkey =>
      htouched ⟨productId, hlisted, hkey⟩
    refine ⟨fun hnone => hsame.trans hnone, fun stock hstock => ?_⟩
    exact ⟨stock.stockRemaining, hsame.trans hstock, id⟩

theorem steady_of_loop {reconciled : Reconciling}
    (hloop : (productsToReconcile fingerprint order.stockAllocations).foldlM
      (reconcileProduct order fingerprint)
      { products := products, allocations := order.stockAllocations } = .ok reconciled) :
    Steady reconciled.products fingerprint (withAllocations reconciled.allocations order) := by
  obtain ⟨htouches, hturned⟩ := turned_of_loop (nodup_productsToReconcile _ _) hloop
  intro productId hlisted
  refine (hturned productId ?_).fixed
  by_contra habsent
  have hnot := habsent
  rw [mem_productsToReconcile, not_or] at hnot
  rcases mem_productsToReconcile.mp hlisted with hline | ⟨stored, hstored, hproduct⟩
  · exact hnot.1 hline
  · have hkept : reconciled.allocations.get? productId = some stored :=
      Table.get?_eq_some_iff.mpr ⟨hstored, hproduct⟩
    rw [htouches.allocations productId habsent] at hkept
    exact hnot.2 ⟨stored, Table.mem_of_get? hkept, hproduct⟩

theorem reconcileOrder_of_steady (hmem : order ∈ session.db.orders)
    (hsteady : Steady session.db.products (fingerprintOf session.db order) order) :
    reconcileOrder session order = .ok { session with
      cache := Function.update session.cache order.id (some (fingerprintOf session.db order)) } := by
  unfold reconcileOrder
  have horders : session.db.orders.update order.id (withAllocations order.stockAllocations) id
      = session.db.orders := by
    refine Table.update_eq_self (withAllocations order.stockAllocations) id fun row hrow hid => ?_
    rw [Table.eq_of_key_eq hrow hmem hid]
    rfl
  simp only [loop_of_fixed hsteady]
  rw [bind_ok, horders]
  rfl

/-- What a transaction remembers of an order is a state of it that leaves its
reconciliation nothing to do. -/
structure Remembers (session : Session) : Prop where
  known : ∀ orderId, session.cache orderId ≠ none → ∃ order ∈ session.db.orders,
    order.id = orderId
  steady : ∀ order ∈ session.db.orders, ∀ fingerprint,
    session.cache order.id = some fingerprint → Steady session.db.products fingerprint order

/-- The order needs no further event in this transaction. -/
def Done (session : Session) (orderId : Uuid) : Prop :=
  ∀ order, session.db.orders.get? orderId = some order → order.isSetupTest = false →
    session.cache orderId = some (fingerprintOf session.db order)

theorem reconcileOrderStock_of_done (hdone : Done session orderId) :
    reconcileOrderStock session orderId = .ok session := by
  unfold reconcileOrderStock
  cases hfound : session.db.orders.get? orderId with
  | none => rfl
  | some order =>
      simp only
      by_cases htest : order.isSetupTest = true
      · rw [if_pos htest]
      · rw [if_neg htest, if_pos (hdone order hfound (Bool.eq_false_iff.mpr htest))]

/-- What an event does, when it does not fail. -/
structure Handled (session session' : Session) (orderId : Uuid) : Prop where
  done : Done session' orderId
  keeps : ∀ other, Done session other → Done session' other
  remembers : Remembers session → Remembers session'

theorem handled_of_reconcileOrder (hmem : order ∈ session.db.orders)
    (hreconcile : reconcileOrder session order = .ok session') :
    Handled session session' order.id := by
  unfold reconcileOrder at hreconcile
  obtain ⟨reconciled, hloop, hsession⟩ := bind_eq_ok.mp hreconcile
  cases hsession
  have hself := Table.get?_update_self (withAllocations reconciled.allocations) id hmem rfl
  have hother : ∀ other, other ≠ order.id →
      (session.db.orders.update order.id (withAllocations reconciled.allocations) id).get? other
        = session.db.orders.get? other := fun other hne =>
    Table.get?_update_of_ne (withAllocations reconciled.allocations) id (fun _ _ => rfl) hne
  have hdone : Done { session with
      db := { session.db with
        products := reconciled.products
        orders := session.db.orders.update order.id (withAllocations reconciled.allocations) id }
      cache := Function.update session.cache order.id (some (fingerprintOf session.db order)) }
      order.id := by
    intro found hfound _
    cases hself.symm.trans hfound
    exact Function.update_self ..
  refine ⟨hdone, fun other hold => ?_, fun hremembers => ⟨fun other hcached => ?_, ?_⟩⟩
  · by_cases hsame : other = order.id
    · rw [hsame]
      exact hdone
    · intro found hfound hreal
      simp only [hother other hsame] at hfound
      change Function.update session.cache order.id _ other = _
      rw [Function.update_of_ne hsame]
      exact hold found hfound hreal
  · change Function.update session.cache order.id _ other ≠ none at hcached
    by_cases hsame : other = order.id
    · exact ⟨_, Table.mem_of_get? hself, hsame.symm⟩
    · rw [Function.update_of_ne hsame] at hcached
      obtain ⟨found, hfound, hid⟩ := hremembers.known other hcached
      have hne : found.id ≠ order.id := fun hkey => hsame (hid.symm.trans hkey)
      exact ⟨found, (mem_update_withAllocations hmem).mpr (Or.inr ⟨hfound, hne⟩), hid⟩
  · intro stored hstored fingerprint hcached
    change Function.update session.cache order.id _ stored.id = _ at hcached
    rcases (mem_update_withAllocations hmem).mp hstored with rfl | ⟨hold, hne⟩
    · have hid : (withAllocations reconciled.allocations order).id = order.id := rfl
      rw [hid, Function.update_self] at hcached
      cases hcached
      exact steady_of_loop hloop
    · rw [Function.update_of_ne hne] at hcached
      exact (hremembers.steady stored hold fingerprint hcached).continues
        (continues_of_loop (nodup_productsToReconcile _ _) hloop)

theorem handled_of_event (hevent : reconcileOrderStock session orderId = .ok session') :
    Handled session session' orderId := by
  unfold reconcileOrderStock at hevent
  cases hfound : session.db.orders.get? orderId with
  | none =>
      rw [hfound] at hevent
      cases hevent
      refine ⟨fun order horder _ => ?_, fun _ => id, id⟩
      cases hfound.symm.trans horder
  | some order =>
      rw [hfound] at hevent
      simp only at hevent
      split at hevent
      · next htest =>
        cases hevent
        refine ⟨fun other hother hreal => ?_, fun _ => id, id⟩
        cases hfound.symm.trans hother
        rw [htest] at hreal
        cases hreal
      · split at hevent
        · next hcached =>
          cases hevent
          refine ⟨fun other hother _ => ?_, fun _ => id, id⟩
          cases hfound.symm.trans hother
          exact hcached
        · have hid : order.id = orderId := Table.key_of_get? hfound
          rw [← hid]
          exact handled_of_reconcileOrder (Table.mem_of_get? hfound) hevent

/-- Once its events have run, a transaction has nothing left to do for the
orders they were about. -/
theorem done_of_events (hevents : ids.foldlM reconcileOrderStock session = .ok session') :
    (∀ orderId ∈ ids, Done session' orderId) ∧ (∀ other, Done session other → Done session' other)
      ∧ (Remembers session → Remembers session') := by
  induction ids generalizing session with
  | nil =>
      cases hevents
      exact ⟨fun orderId hmem => absurd hmem List.not_mem_nil, fun _ => id, id⟩
  | cons orderId ids ih =>
      obtain ⟨middle, hevent, hrest⟩ := foldlM_cons_eq_ok.mp hevents
      have hhandled := handled_of_event hevent
      obtain ⟨hdone, hkeeps, hremembers⟩ := ih hrest
      refine ⟨fun other hmem => ?_, fun other hother => hkeeps other (hhandled.keeps other hother),
        fun hbefore => hremembers (hhandled.remembers hbefore)⟩
      rcases List.mem_cons.mp hmem with rfl | htail
      · exact hkeeps _ hhandled.done
      · exact hdone other htail

theorem events_of_done (hdone : ∀ orderId ∈ ids, Done session orderId) :
    ids.foldlM reconcileOrderStock session = .ok session := by
  induction ids with
  | nil => rfl
  | cons orderId ids ih =>
      refine foldlM_cons_eq_ok.mpr ⟨session, ?_, ?_⟩
      · exact reconcileOrderStock_of_done (hdone orderId List.mem_cons_self)
      · exact ih fun other hmem => hdone other (List.mem_cons_of_mem _ hmem)

theorem products_of_executeStatement {statement : Statement}
    (hexecute : executeStatement session statement = .ok session')
    (hstock : writtenProduct statement = none) (hflush : flushes statement = false) :
    session'.db.products = session.db.products := by
  unfold executeStatement at hexecute
  cases statement with
  | insertOrder new =>
      obtain ⟨orders, -, hsession⟩ := bind_eq_ok.mp hexecute
      cases hsession
      rfl
  | updateOrderStatus orderId status =>
      simp only at hexecute
      split at hexecute <;> cases hexecute <;> rfl
  | insertLine line =>
      obtain ⟨_, -, hexecute⟩ := bind_eq_ok.mp hexecute
      obtain ⟨_, -, hexecute⟩ := bind_eq_ok.mp hexecute
      obtain ⟨lines, -, hsession⟩ := bind_eq_ok.mp hexecute
      cases hsession
      rfl
  | updateLineQuantity lineId quantity =>
      simp only at hexecute
      split at hexecute
      · cases hexecute
        rfl
      · obtain ⟨_, -, hsession⟩ := bind_eq_ok.mp hexecute
        cases hsession
        rfl
  | updateLineStatus lineId status =>
      simp only at hexecute
      split at hexecute <;> cases hexecute <;> rfl
  | deleteLine lineId =>
      simp only at hexecute
      split at hexecute <;> cases hexecute <;> rfl
  | writeTask orderId status =>
      cases hexecute
      rfl
  | insertProduct other remaining now => cases hstock
  | updateStock other remaining now => cases hstock
  | setConstraintsImmediate => cases hflush

theorem Remembers.wrote {key : ProductKey} (hremembers : Remembers session)
    (hwrote : Wrote key session session')
    (hproducts : session'.db.products = session.db.products) : Remembers session' where
  known orderId hcached := by
    rw [hwrote.cache] at hcached
    obtain ⟨order, horder, hid⟩ := hremembers.known orderId hcached
    obtain ⟨order', horder', hid'⟩ := hwrote.kept order horder
    exact ⟨order', horder', hid'.trans hid⟩
  steady order' horder' fingerprint hcached := by
    rw [hwrote.cache] at hcached
    rw [hproducts]
    rcases hwrote.orders order' horder' with hcreated | ⟨order, horder, hrewrote⟩
    · have hknown := hremembers.known order'.id (by rw [hcached]; exact Option.some_ne_none _)
      obtain ⟨order, horder, hid⟩ := hknown
      exact absurd hid (hcreated.new order horder)
    · rw [hrewrote.id_eq] at hcached
      have hsteady := hremembers.steady order horder fingerprint hcached
      rw [hrewrote.same]
      exact hsteady

/-- Another transaction repeats the events and finds nothing to do either. -/
theorem retry_of_steady {db : StockDb} (hdb : session.db = db)
    (hsteady : ∀ orderId ∈ ids, ∀ order, db.orders.get? orderId = some order →
      order.isSetupTest = false → Steady db.products (fingerprintOf db order) order) :
    ∃ retried, ids.foldlM reconcileOrderStock session = .ok retried ∧ retried.db = db := by
  induction ids generalizing session with
  | nil => exact ⟨session, rfl, hdb⟩
  | cons orderId ids ih =>
      have hevent : ∃ next, reconcileOrderStock session orderId = .ok next ∧ next.db = db := by
        unfold reconcileOrderStock
        subst hdb
        cases hfound : session.db.orders.get? orderId with
        | none => exact ⟨session, rfl, rfl⟩
        | some order =>
            simp only
            by_cases htest : order.isSetupTest = true
            · exact ⟨session, if_pos htest, rfl⟩
            · rw [if_neg htest]
              by_cases hcached : session.cache orderId = some (fingerprintOf session.db order)
              · exact ⟨session, if_pos hcached, rfl⟩
              · rw [if_neg hcached]
                exact ⟨_, reconcileOrder_of_steady (Table.mem_of_get? hfound)
                  (hsteady orderId List.mem_cons_self order hfound
                    (Bool.eq_false_iff.mpr htest)), rfl⟩
      obtain ⟨next, hnext, hnextDb⟩ := hevent
      obtain ⟨retried, hretried, hretriedDb⟩ :=
        ih hnextDb fun other hmem => hsteady other (List.mem_cons_of_mem _ hmem)
      exact ⟨retried, foldlM_cons_eq_ok.mpr ⟨next, hnext, hretried⟩, hretriedDb⟩

/-- The events of a transaction that writes no stock by itself: repeating any
of them changes nothing, neither at once nor in another transaction. -/
def RepeatsNothing (db : StockDb) (statements : List Statement) : Prop :=
  ∀ session committed, statements.foldlM executeStatement (Session.start db) = .ok session →
    session.deferred.foldlM reconcileOrderStock session = .ok committed →
    ∀ again : List Uuid, (∀ orderId ∈ again, orderId ∈ session.deferred) →
      again.foldlM reconcileOrderStock committed = .ok committed
        ∧ ((∀ statement ∈ statements, writtenProduct statement = none) →
          ∃ retried, again.foldlM reconcileOrderStock (Session.start committed.db) = .ok retried
            ∧ retried.db = committed.db)

theorem remembers_of_statements {statements : List Statement} (hremembers : Remembers session)
    (hstock : ∀ statement ∈ statements, writtenProduct statement = none)
    (hstatements : statements.foldlM executeStatement session = .ok session') :
    Remembers session' := by
  refine foldlM_invariant Remembers (fun statement hmem state next hstate hexecute => ?_)
    hremembers hstatements
  have hnone := hstock statement hmem
  cases hflush : flushes statement with
  | true =>
      cases statement <;> cases hflush
      obtain ⟨reconciled, hevents, hnext⟩ := bind_eq_ok.mp hexecute
      cases hnext
      obtain ⟨-, -, hkeeps⟩ := done_of_events hevents
      exact ⟨(hkeeps hstate).known, (hkeeps hstate).steady⟩
  | false =>
      have hother : writtenProduct statement ≠ some ⟨0, 0, 0⟩ := by
        rw [hnone]
        exact (Option.some_ne_none _).symm
      exact hstate.wrote (wrote_of_executeStatement hexecute hother hflush)
        (products_of_executeStatement hexecute hnone hflush)

theorem repeatsNothing (db : StockDb) (statements : List Statement) :
    RepeatsNothing db statements := by
  intro session committed hstatements hevents again hagain
  obtain ⟨hdone, -, hkeeps⟩ := done_of_events hevents
  refine ⟨events_of_done fun orderId hmem => hdone orderId (hagain orderId hmem), fun hstock => ?_⟩
  have hstart : Remembers (Session.start db) :=
    ⟨fun orderId hcached => absurd rfl hcached, fun order _ fingerprint hcached => by cases hcached⟩
  have hremembers := hkeeps (remembers_of_statements hstart hstock hstatements)
  refine retry_of_steady rfl fun orderId hmem order hfound hreal => ?_
  have hcached := hdone orderId (hagain orderId hmem) order hfound hreal
  rw [← Table.key_of_get? hfound] at hcached
  exact hremembers.steady order (Table.mem_of_get? hfound) _ hcached

end Repetition

end Stallorder.StockEvents
