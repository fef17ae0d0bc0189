import Stallorder.Core.Run
import Stallorder.Stock.StockEvents

/-!
# Conservation of counted portions

Once the counting of a product has begun, transactions only move portions
between its stock and the orders of its stall.  The module follows one product
through a run of transactions.
-/

namespace Stallorder.Conservation

open OrderContract StockDatabase Reconciliation StockSession StockEvents Checks Run

/-! ## One product through a transaction -/

section Transactions

variable {key : ProductKey} {epoch : Timestamp} {old : Uuid → Prop} {sum : ℤ}
  {session session' : Session} {db db' : StockDb} {statement : Statement}
  {statements : List Statement}

/-- A stock correction by hand, or the beginning or the end of the counting. -/
def adjustsStock (key : ProductKey) : Statement → Bool
  | .updateStock other _ _ => other = key
  | _ => false

/-- The portions of a counting that all orders of the stall hold together. -/
def heldTotal (key : ProductKey) (epoch : Timestamp) (db : StockDb) : ℤ :=
  db.orders.total fun order => heldBy key epoch order

/-- Orders whose production has started hold at least what they held. -/
def Retains (key : ProductKey) (epoch : Timestamp) (db db' : StockDb) : Prop :=
  ∀ order ∈ db.orders, order.stockConsumed = true → ∃ order' ∈ db'.orders,
    order'.id = order.id ∧ order'.stockConsumed = true
      ∧ heldBy key epoch order ≤ heldBy key epoch order'

/-- The portions of the product, in a transaction: in its stock or held by an
order.  Orders that are not old give back what they may, at the latest in the
events still to come. -/
structure Keeping (key : ProductKey) (epoch : Timestamp) (old : Uuid → Prop) (sum : ℤ)
    (session : Session) : Prop where
  counted : ∃ stock, countedStock session.db.products key = some stock
    ∧ stock.stockStartedAt = epoch ∧ stock.stockRemaining + heldTotal key epoch session.db = sum
    ∧ 0 ≤ stock.stockRemaining
  sound : Sound key epoch session
  tests : ∀ order ∈ session.db.orders, ¬ old order.id → order.isSetupTest = true →
    heldBy key epoch order = 0
  closed : ∀ order ∈ session.db.orders, ¬ old order.id → order.id ∉ session.deferred →
    isClosed order.status = true → order.stockConsumed = false → heldBy key epoch order = 0

theorem Retains.refl (key : ProductKey) (epoch : Timestamp) (db : StockDb) :
    Retains key epoch db db :=
  fun order horder hconsumed => ⟨order, horder, rfl, hconsumed, le_rfl⟩

theorem Retains.trans {middle : StockDb} (hfirst : Retains key epoch db middle)
    (hsecond : Retains key epoch middle db') : Retains key epoch db db' := by
  intro order horder hconsumed
  obtain ⟨order', horder', hid, hconsumed', hheld⟩ := hfirst order horder hconsumed
  obtain ⟨order'', horder'', hid', hconsumed'', hheld'⟩ := hsecond order' horder' hconsumed'
  exact ⟨order'', horder'', hid'.trans hid, hconsumed'', hheld.trans hheld'⟩

theorem retains_of_wrote (hwrote : Wrote key session session') :
    Retains key epoch session.db session'.db := by
  intro order horder hconsumed
  obtain ⟨order', horder', hid⟩ := hwrote.kept order horder
  rcases hwrote.orders order' horder' with hcreated | ⟨stored, hstored, hrewrote⟩
  · exact absurd hid.symm (hcreated.new order horder)
  · have hsame : stored = order :=
      Table.eq_of_key_eq hstored horder (hrewrote.id_eq.symm.trans hid)
    subst hsame
    exact ⟨order', horder', hid, hrewrote.consumed hconsumed, le_of_eq hrewrote.heldBy_eq.symm⟩

theorem retains_of_flushed {stock : CountedStock} {ids : List Uuid}
    (hflushed : Flushed key stock ids session session') :
    Retains key stock.stockStartedAt session.db session'.db := by
  intro order horder hconsumed
  obtain ⟨order', horder', hid⟩ := hflushed.kept order horder
  obtain ⟨stored, hstored, hreheld⟩ := hflushed.orders order' horder'
  have hsame : stored = order := Table.eq_of_key_eq hstored horder (hreheld.id_eq.symm.trans hid)
  subst hsame
  have hconsumed' : order'.stockConsumed = true := by
    rw [hreheld.same]
    exact hconsumed
  exact ⟨order', horder', hid, hconsumed', hreheld.grows hconsumed⟩

theorem keeping_of_wrote (hkeeping : Keeping key epoch old sum session)
    (hwrote : Wrote key session session') : Keeping key epoch old sum session' where
  counted := by
    obtain ⟨stock, hcounted, hepoch, hsum, hnonneg⟩ := hkeeping.counted
    refine ⟨stock, hwrote.counted.trans hcounted, hepoch, ?_, hnonneg⟩
    unfold heldTotal at hsum ⊢
    rw [hwrote.total]
    exact hsum
  sound := by
    refine ⟨fun orderId hcached => ?_, fun order' horder' fingerprint hcached => ?_⟩
    · rw [hwrote.cache] at hcached
      obtain ⟨order, horder, hid⟩ := hkeeping.sound.known orderId hcached
      obtain ⟨order', horder', hid'⟩ := hwrote.kept order horder
      exact ⟨order', horder', hid'.trans hid⟩
    · rw [hwrote.cache] at hcached
      rcases hwrote.orders order' horder' with hcreated | ⟨order, horder, hrewrote⟩
      · have hsome : session.cache order'.id ≠ none := by
          rw [hcached]
          exact Option.some_ne_none _
        obtain ⟨order, horder, hid⟩ := hkeeping.sound.known order'.id hsome
        exact absurd hid (hcreated.new order horder)
      · rw [hrewrote.id_eq] at hcached
        have hsettled := hkeeping.sound.settled order horder fingerprint hcached
        rw [hrewrote.same]
        exact hsettled
  tests order' horder' hnew htest := by
    rcases hwrote.orders order' horder' with hcreated | ⟨order, horder, hrewrote⟩
    · exact heldBy_of_empty hcreated.allocations
    · rw [hrewrote.heldBy_eq]
      rw [hrewrote.id_eq] at hnew
      have htest' : order.isSetupTest = true := by
        rw [hrewrote.same] at htest
        exact htest
      exact hkeeping.tests order horder hnew htest'
  closed order' horder' hnew hidle hclosed hunconsumed := by
    rcases hwrote.orders order' horder' with hcreated | ⟨order, horder, hrewrote⟩
    · exact heldBy_of_empty hcreated.allocations
    · rw [hrewrote.heldBy_eq]
      rw [hrewrote.id_eq] at hnew hidle
      refine hkeeping.closed order horder hnew (fun hmem => hidle (hwrote.queued _ hmem)) ?_ ?_
      · rw [← hrewrote.status.resolve_left hidle]
        exact hclosed
      · rw [Bool.eq_false_iff]
        intro hconsumed
        rw [hrewrote.consumed hconsumed] at hunconsumed
        cases hunconsumed

theorem settledBy_of_closed {fingerprint : Fingerprint} {order : StockOrder}
    (hclosed : isClosed fingerprint.status = true)
    (hunconsumed : fingerprint.stockConsumed = false) :
    settledBy key epoch fingerprint order = 0 := by
  unfold settledBy
  rw [desiredQuantity_of_closed hclosed hunconsumed, ite_self, ite_self]

theorem keeping_of_events {reconciled : Session} (hkeeping : Keeping key epoch old sum session)
    (hevents : session.deferred.foldlM reconcileOrderStock session = .ok reconciled) :
    Keeping key epoch old sum { reconciled with deferred := [] }
      ∧ Retains key epoch session.db reconciled.db := by
  obtain ⟨stock, hcounted, rfl, hsum, hnonneg⟩ := hkeeping.counted
  have hflushed := flushed_of_events hevents hcounted hkeeping.sound
  refine ⟨⟨?_, ⟨hflushed.sound.known, hflushed.sound.settled⟩, ?_, ?_⟩,
    retains_of_flushed hflushed⟩
  · obtain ⟨remaining, hcounted', htotal, hnonneg'⟩ := hflushed.counted
    exact ⟨_, hcounted', rfl, htotal.trans hsum, hnonneg' hnonneg⟩
  · intro order' horder' hnew htest
    obtain ⟨order, horder, hreheld⟩ := hflushed.orders order' horder'
    have htest' : order.isSetupTest = true := by
      rw [hreheld.same] at htest
      exact htest
    rw [hreheld.untouched (Or.inr htest')]
    exact hkeeping.tests order horder (hreheld.id_eq ▸ hnew) htest'
  · intro order' horder' hnew _ hclosed hunconsumed
    obtain ⟨order, horder, hreheld⟩ := hflushed.orders order' horder'
    rw [hreheld.id_eq] at hnew
    by_cases hqueued : order.id ∈ session.deferred ∧ order.isSetupTest = false
    · obtain ⟨-, hsettled⟩ := hreheld.settled hqueued.1 hqueued.2
      exact hsettled.trans (settledBy_of_closed hclosed hunconsumed)
    · have hidle : order.id ∉ session.deferred ∨ order.isSetupTest = true := by
        rw [not_and_or, Bool.not_eq_false] at hqueued
        exact hqueued
      have hsame := hreheld.untouched hidle
      rcases hidle with habsent | htest
      · rw [hsame] at hclosed hunconsumed ⊢
        exact hkeeping.closed order horder hnew habsent hclosed hunconsumed
      · rw [hsame]
        exact hkeeping.tests order horder hnew htest

/-- A counted product is not created again, and its stock is only written by
hand. -/
theorem writtenProduct_ne {stock : CountedStock}
    (hcounted : countedStock session.db.products key = some stock)
    (hmanual : adjustsStock key statement = false)
    (hexecute : executeStatement session statement = .ok session') :
    writtenProduct statement ≠ some key := by
  intro hwritten
  cases statement with
  | insertProduct other remaining now =>
      cases hwritten
      obtain ⟨_, -, hrest⟩ := bind_eq_ok.mp hexecute
      obtain ⟨products, hinsert, -⟩ := bind_eq_ok.mp hrest
      obtain ⟨row, hrow, -⟩ := exists_of_countedStock hcounted
      refine Table.not_collides_of_insert? (orFail_eq_ok.mp hinsert)
        (Table.mem_of_get? hrow) (Indexed.collides_of_key_eq ?_)
      exact Table.key_of_get? hrow
  | updateStock other remaining now =>
      cases hwritten
      exact of_decide_eq_false hmanual rfl
  | _ => cases hwritten

/-- No statement other than a correction of the stock moves portions anywhere
else. -/
theorem keeping_of_executeStatement (hkeeping : Keeping key epoch old sum session)
    (hmanual : adjustsStock key statement = false)
    (hexecute : executeStatement session statement = .ok session') :
    Keeping key epoch old sum session' ∧ Retains key epoch session.db session'.db := by
  cases hflush : flushes statement with
  | true =>
      cases statement <;> cases hflush
      obtain ⟨reconciled, hevents, hsession⟩ := bind_eq_ok.mp hexecute
      cases hsession
      exact keeping_of_events hkeeping hevents
  | false =>
      obtain ⟨stock, hcounted, -⟩ := hkeeping.counted
      have hstock := writtenProduct_ne hcounted hmanual hexecute
      have hwrote := wrote_of_executeStatement hexecute hstock hflush
      exact ⟨keeping_of_wrote hkeeping hwrote, retains_of_wrote hwrote⟩

/-! ### No product is ever short -/

def NeverShort (products : Table ProductStock) : Prop :=
  ∀ key stock, countedStock products key = some stock → 0 ≤ stock.stockRemaining

theorem NeverShort.continues {products products' : Table ProductStock}
    (hnever : NeverShort products) (hcontinues : Continues products products') :
    NeverShort products' := by
  intro key stock hcounted'
  obtain ⟨hnone, hsome⟩ := hcontinues key
  cases hcounted : countedStock products key with
  | none => cases (hnone hcounted).symm.trans hcounted'
  | some found =>
      obtain ⟨remaining, hremaining, hnonneg⟩ := hsome found hcounted
      cases hremaining.symm.trans hcounted'
      exact hnonneg (hnever key found hcounted)

theorem continues_of_event {orderId : Uuid}
    (hevent : reconcileOrderStock session orderId = .ok session') :
    Continues session.db.products session'.db.products := by
  unfold reconcileOrderStock at hevent
  split at hevent
  · cases hevent
    exact Continues.refl _
  · split at hevent
    · cases hevent
      exact Continues.refl _
    · split at hevent
      · cases hevent
        exact Continues.refl _
      · unfold reconcileOrder at hevent
        obtain ⟨reconciled, hloop, hsession⟩ := bind_eq_ok.mp hevent
        cases hsession
        exact continues_of_loop (nodup_productsToReconcile _ _) hloop

/-- A counted product after a write of its stock has the portions written. -/
theorem remaining_of_writeStock {products : Table ProductStock} {now : Timestamp}
    {remaining : Option ℤ} {stock : CountedStock}
    (hcounted : countedStock (writeStock products key now remaining) key = some stock) :
    remaining = some stock.stockRemaining := by
  obtain ⟨row', hrow', hstock⟩ := exists_of_countedStock hcounted
  rcases Table.mem_update.mp (Table.mem_of_get? hrow') with ⟨row, hrow, hkey, rfl⟩ | ⟨-, hne⟩
  · unfold versionStallStock at hstock
    split at hstock
    · next hsame =>
      rw [hsame, hstock]
      rfl
    · obtain ⟨portions, hportions, rfl⟩ := Option.map_eq_some_iff.mp hstock
      exact hportions
  · exact absurd (Table.key_of_get? hrow') hne

theorem neverShort_of_executeStatement (hnever : NeverShort session.db.products)
    (hexecute : executeStatement session statement = .ok session') :
    NeverShort session'.db.products := by
  cases hflush : flushes statement with
  | true =>
      cases statement <;> cases hflush
      obtain ⟨reconciled, hevents, hsession⟩ := bind_eq_ok.mp hexecute
      cases hsession
      have hreconciled : NeverShort reconciled.db.products :=
        foldlM_invariant (fun state : Session => NeverShort state.db.products)
          (fun _ _ _ _ hstate hevent => hstate.continues (continues_of_event hevent)) hnever
          hevents
      exact hreconciled
  | false =>
      intro key stock hcounted
      by_cases hstock : writtenProduct statement = some key
      · cases statement with
        | insertProduct other remaining now =>
            cases hstock
            obtain ⟨_, hcheck, hrest⟩ := bind_eq_ok.mp hexecute
            obtain ⟨products, hinsert, hsession⟩ := bind_eq_ok.mp hrest
            cases hsession
            rw [failWhen_eq_ok] at hcheck
            obtain ⟨row, hrow, hrowStock⟩ := exists_of_countedStock hcounted
            rcases (Table.mem_of_insert? (orFail_eq_ok.mp hinsert)).mp (Table.mem_of_get? hrow)
              with hold | rfl
            · exact absurd (Indexed.collides_of_key_eq (Table.key_of_get? hrow))
                (Table.not_collides_of_insert? (orFail_eq_ok.mp hinsert) hold)
            · obtain ⟨portions, rfl, rfl⟩ := Option.map_eq_some_iff.mp hrowStock
              exact not_lt.mp (of_decide_eq_false hcheck)
        | updateStock other remaining now =>
            cases hstock
            obtain ⟨_, hcheck, hsession⟩ := bind_eq_ok.mp hexecute
            cases hsession
            rw [failWhen_eq_ok, remaining_of_writeStock hcounted] at hcheck
            exact not_lt.mp (of_decide_eq_false hcheck)
        | _ => cases hstock
      · have hwrote := wrote_of_executeStatement hexecute hstock hflush
        exact hnever key stock (hwrote.counted.symm.trans hcounted)

end Transactions

/-! ## Runs of transactions -/

section Runs

variable {key : ProductKey} {epoch : Timestamp} {old : Uuid → Prop} {sum : ℤ}
  {db db' : StockDb} {statements : List Statement}

theorem exists_session_of_transact (htransact : transact db statements = .ok db') :
    ∃ session, (statements ++ [Statement.setConstraintsImmediate]).foldlM executeStatement
      (Session.start db) = .ok session ∧ session.db = db' := by
  unfold transact at htransact
  obtain ⟨session, hsession, hdb⟩ := bind_eq_ok.mp htransact
  cases hdb
  exact ⟨session, hsession, rfl⟩

/-- What every transaction that succeeds keeps, every run keeps. -/
theorem invariant_step (Invariant : StockDb → Prop) (statements : List Statement)
    (hbefore : Invariant db)
    (hcommit : ∀ committed, transact db statements = .ok committed → Invariant committed) :
    Invariant (step db statements) := by
  unfold step
  split
  · next committed hcommitted => exact hcommit committed hcommitted
  · exact hbefore

theorem neverShort_exec (before : List (List Statement)) :
    NeverShort (exec step .empty before).products := by
  refine invariant_exec (fun db : StockDb => NeverShort db.products) (fun db statements hdb => ?_)
    (fun key stock hcounted => by cases hcounted) before
  refine invariant_step (fun db : StockDb => NeverShort db.products) statements hdb
    fun committed hcommitted => ?_
  obtain ⟨session, hsession, rfl⟩ := exists_session_of_transact hcommitted
  exact foldlM_invariant (fun state : Session => NeverShort state.db.products)
    (fun _ _ _ _ hstate hexecute => neverShort_of_executeStatement hstate hexecute) hdb hsession

/-- The state between two transactions: no event is left to come. -/
structure Kept (key : ProductKey) (epoch : Timestamp) (old : Uuid → Prop) (sum : ℤ)
    (db : StockDb) : Prop where
  counted : ∃ stock, countedStock db.products key = some stock
    ∧ stock.stockStartedAt = epoch ∧ stock.stockRemaining + heldTotal key epoch db = sum
    ∧ 0 ≤ stock.stockRemaining
  tests : ∀ order ∈ db.orders, ¬ old order.id → order.isSetupTest = true →
    heldBy key epoch order = 0
  closed : ∀ order ∈ db.orders, ¬ old order.id → isClosed order.status = true →
    order.stockConsumed = false → heldBy key epoch order = 0

theorem kept_of_transact (hkept : Kept key epoch old sum db)
    (hmanual : ∀ statement ∈ statements, adjustsStock key statement = false)
    (htransact : transact db statements = .ok db') :
    Kept key epoch old sum db' ∧ Retains key epoch db db' := by
  obtain ⟨session, hsession, rfl⟩ := exists_session_of_transact htransact
  have hstart : Keeping key epoch old sum (Session.start db) :=
    ⟨hkept.counted, ⟨fun _ hcached => absurd rfl hcached, fun _ _ _ hcached => by cases hcached⟩,
      hkept.tests, fun order horder hnew _ => hkept.closed order horder hnew⟩
  rw [List.foldlM_append] at hsession
  obtain ⟨pending, hpending, hcommit⟩ := bind_eq_ok.mp hsession
  obtain ⟨hkeeping, hretains⟩ := foldlM_invariant
    (fun state => Keeping key epoch old sum state ∧ Retains key epoch db state.db)
    (fun statement hmem state next hstate hexecute => by
      obtain ⟨hnext, hnextRetains⟩ :=
        keeping_of_executeStatement hstate.1 (hmanual statement hmem) hexecute
      exact ⟨hnext, hstate.2.trans hnextRetains⟩)
    ⟨hstart, Retains.refl key epoch db⟩ hpending
  obtain ⟨committed, hflush, hdone⟩ := foldlM_cons_eq_ok.mp hcommit
  cases hdone
  obtain ⟨reconciled, hevents, hcommitted⟩ := bind_eq_ok.mp hflush
  cases hcommitted
  obtain ⟨hfinal, hfinalRetains⟩ := keeping_of_events hkeeping hevents
  exact ⟨⟨hfinal.counted, hfinal.tests, fun order horder hnew =>
    hfinal.closed order horder hnew List.not_mem_nil⟩, hretains.trans hfinalRetains⟩

theorem kept_exec {after : List (List Statement)} (hkept : Kept key epoch old sum db)
    (hmanual : ∀ statements ∈ after, ∀ statement ∈ statements,
      adjustsStock key statement = false) :
    Kept key epoch old sum (exec step db after) ∧ Retains key epoch db (exec step db after) := by
  induction after generalizing db with
  | nil => exact ⟨hkept, Retains.refl key epoch db⟩
  | cons statements after ih =>
      have hstep : Kept key epoch old sum (step db statements)
          ∧ Retains key epoch db (step db statements) :=
        invariant_step (fun next => Kept key epoch old sum next ∧ Retains key epoch db next)
          statements ⟨hkept, Retains.refl key epoch db⟩ fun committed hcommitted =>
            kept_of_transact hkept (hmanual statements List.mem_cons_self) hcommitted
      obtain ⟨hrest, hretains⟩ := ih hstep.1 fun other hmem =>
        hmanual other (List.mem_cons_of_mem _ hmem)
      exact ⟨hrest, hstep.2.trans hretains⟩

/-- From any reachable state in which a product is counted: as long as nobody
corrects its stock by hand, the portions left and the portions held are the
same number together, no portion is sold that is not there, orders closed
before their production hold none and orders in production keep theirs, a
transaction is refused exactly when it would take a product below zero, and
repeated events change nothing. -/
theorem stock_conserved {stock : CountedStock} (before after : List (List Statement))
    (hcounted : countedStock (exec step .empty before).products key = some stock)
    (hmanual : ∀ statements ∈ after, ∀ statement ∈ statements,
      adjustsStock key statement = false) :
    (∃ remaining, countedStock (exec step .empty (before ++ after)).products key
          = some { stock with stockRemaining := remaining }
        ∧ 0 ≤ remaining
        ∧ remaining
            + heldTotal key stock.stockStartedAt (exec step .empty (before ++ after))
          = stock.stockRemaining
            + heldTotal key stock.stockStartedAt (exec step .empty before))
      ∧ (∀ order ∈ (exec step .empty (before ++ after)).orders,
        (∀ earlier ∈ (exec step .empty before).orders, earlier.id ≠ order.id) →
          isClosed order.status = true → order.stockConsumed = false →
            heldBy key stock.stockStartedAt order = 0)
      ∧ (∀ middle rest, after = middle ++ rest →
        Retains key stock.stockStartedAt (exec step .empty (before ++ middle))
          (exec step .empty (before ++ after)))
      ∧ (∀ statements, transact (exec step .empty (before ++ after)) statements
          = .error .stockInsufficient
        ↔ Overdrawn (exec step .empty (before ++ after)) statements)
      ∧ ∀ statements, RepeatsNothing (exec step .empty (before ++ after)) statements := by
  have hstart : Kept key stock.stockStartedAt
      (fun orderId => ∃ earlier ∈ (exec step .empty before).orders, earlier.id = orderId)
      (stock.stockRemaining + heldTotal key stock.stockStartedAt (exec step .empty before))
      (exec step .empty before) := by
    refine ⟨⟨stock, hcounted, rfl, rfl, neverShort_exec before key stock hcounted⟩, ?_, ?_⟩
    · exact fun order horder hnew _ => absurd ⟨order, horder, rfl⟩ hnew
    · exact fun order horder hnew _ _ => absurd ⟨order, horder, rfl⟩ hnew
  rw [exec_append]
  obtain ⟨hkept, -⟩ := kept_exec hstart hmanual
  refine ⟨?_, fun order horder hnew => ?_, fun middle rest hafter => ?_,
    fun statements => transact_eq_stockInsufficient, fun statements => repeatsNothing _ statements⟩
  · obtain ⟨found, hfound, hepoch, hsum, hnonneg⟩ := hkept.counted
    refine ⟨found.stockRemaining, ?_, hnonneg, hsum⟩
    rw [hfound, ← hepoch]
  · refine hkept.closed order horder ?_
    rintro ⟨earlier, hearlier, hid⟩
    exact hnew earlier hearlier hid
  · subst hafter
    rw [exec_append, exec_append]
    have hmiddle := (kept_exec hstart fun statements hmem =>
      hmanual statements (List.mem_append_left rest hmem)).1
    exact (kept_exec hmiddle fun statements hmem =>
      hmanual statements (List.mem_append_right middle hmem)).2

end Runs

/-! ### A day of sales -/

def sampleKey : ProductKey where
  organizationId := 1
  stallId := 1
  productId := 7

def sampleOrder (id : Uuid) (createdAt : Timestamp) : NewOrder where
  id := id
  organizationId := 1
  stallId := 1
  isSetupTest := false
  status := .confirmed
  createdAt := createdAt

def sampleLine (id orderId : Uuid) (quantity : ℕ) : OrderLine where
  id := id
  orderId := orderId
  productId := some 7
  quantity := quantity
  status := .pending

def sampleOpening : List (List Statement) :=
  [[.insertProduct sampleKey (some 5) 100]]

/-- Two orders, one of them amended by deleting and adding its line and then
cancelled, the other prepared; a third asks for more than there is. -/
def sampleSales : List (List Statement) :=
  [[.insertOrder (sampleOrder 1 110), .insertLine (sampleLine 10 1 2)],
    [.insertOrder (sampleOrder 2 120), .insertLine (sampleLine 20 2 2)],
    [.deleteLine 10, .insertLine (sampleLine 11 1 3)],
    [.updateOrderStatus 2 .preparing],
    [.insertOrder (sampleOrder 3 130), .insertLine (sampleLine 30 3 1)],
    [.updateOrderStatus 1 .cancelled]]

theorem sample_stock_conserved :
    ∃ remaining, countedStock (exec step .empty (sampleOpening ++ sampleSales)).products sampleKey
        = some { stockRemaining := remaining, stockStartedAt := 100 }
      ∧ 0 ≤ remaining
      ∧ remaining + heldTotal sampleKey 100 (exec step .empty (sampleOpening ++ sampleSales))
        = 5 + heldTotal sampleKey 100 (exec step .empty sampleOpening) := by
  have hcounted : countedStock (exec step .empty sampleOpening).products sampleKey
      = some { stockRemaining := 5, stockStartedAt := 100 } := by decide +kernel
  exact (stock_conserved sampleOpening sampleSales hcounted (by decide)).1

example : countedStock (exec step .empty (sampleOpening ++ sampleSales)).products sampleKey
    = some { stockRemaining := 3, stockStartedAt := 100 } := by decide +kernel

end Stallorder.Conservation
