import Stallorder.Stock.Conservation

/-!
# Portions sold and portions counted

The portions that the orders of a stall gain after the counting of a product
began, next to the portions that were deducted from its stock.  The two agree
as long as the portions of older orders stay as they are and no portion returns
to an order whose production has started.
-/

namespace Stallorder.Counting

open OrderContract StockDatabase Reconciliation StockSession Conservation Checks Run

variable {key : ProductKey} {epoch : Timestamp} {db db' : StockDb} {order order' : StockOrder}
  {statements : List Statement}

/-! ## Portions added -/

/-- The portions of a product that an order sells: none once it is closed, and
none in the setup tutorial. -/
def soldBy (key : ProductKey) (db : StockDb) (order : StockOrder) : ℕ :=
  if productKey order key.productId = key ∧ order.isSetupTest = false
      ∧ isClosed order.status = false then
    lineQuantity db.lines order.id key.productId
  else 0

def soldBefore (key : ProductKey) (db : StockDb) (orderId : Uuid) : ℤ :=
  db.orders.measureAt (fun order => soldBy key db order) orderId

def heldBefore (key : ProductKey) (epoch : Timestamp) (db : StockDb) (orderId : Uuid) : ℤ :=
  db.orders.measureAt (fun order => heldBy key epoch order) orderId

/-- The portions that a transaction adds to an order; portions that it removes
count against them before the production of the order. -/
def addedTo (key : ProductKey) (db db' : StockDb) (order' : StockOrder) : ℤ :=
  if order'.stockConsumed then max 0 (soldBy key db' order' - soldBefore key db order'.id)
  else soldBy key db' order' - soldBefore key db order'.id

def addedBy (key : ProductKey) (db db' : StockDb) : ℤ :=
  db'.orders.total (addedTo key db db')

def addedAlong (key : ProductKey) : StockDb → List (List Statement) → ℤ
  | _, [] => 0
  | db, statements :: rest =>
      addedBy key db (step db statements) + addedAlong key (step db statements) rest

/-- A transaction that runs its events when it commits, and adds or removes
portions on orders from after the beginning of the counting only; those of them
in production hold exactly what is on their lines. -/
def Counts (key : ProductKey) (epoch : Timestamp) (db : StockDb)
    (statements : List Statement) : Prop :=
  (∀ statement ∈ statements, flushes statement = false)
    ∧ ∀ order' ∈ (step db statements).orders, addedTo key db (step db statements) order' ≠ 0 →
      epoch ≤ order'.createdAt
        ∧ (order'.stockConsumed = true →
          heldBefore key epoch db order'.id = soldBefore key db order'.id)

instance (key : ProductKey) (epoch : Timestamp) (db : StockDb) (statements : List Statement) :
    Decidable (Counts key epoch db statements) :=
  inferInstanceAs (Decidable ((∀ statement ∈ statements, flushes statement = false)
    ∧ ∀ order' ∈ (step db statements).orders.rows,
      addedTo key db (step db statements) order' ≠ 0 → epoch ≤ order'.createdAt
        ∧ (order'.stockConsumed = true →
          heldBefore key epoch db order'.id = soldBefore key db order'.id)))

/-! ## Orders whose portions are accounted for -/

/-- What an order holds of the counting, next to what it sells. -/
structure Accounted (key : ProductKey) (epoch : Timestamp) (db : StockDb) (order : StockOrder) :
    Prop where
  older : productKey order key.productId = key → order.createdAt < epoch →
    heldOf order.stockAllocations key.productId epoch = none
  test : order.isSetupTest = true → heldBy key epoch order = 0
  even : epoch ≤ order.createdAt → order.isSetupTest = false → order.stockConsumed = false →
    heldBy key epoch order = soldBy key db order
  covered : epoch ≤ order.createdAt → order.isSetupTest = false → order.stockConsumed = true →
    soldBy key db order ≤ heldBy key epoch order

def AllAccounted (key : ProductKey) (epoch : Timestamp) (db : StockDb) : Prop :=
  ∀ order ∈ db.orders, Accounted key epoch db order

theorem heldBy_of_older
    (holder : productKey order key.productId = key →
      heldOf order.stockAllocations key.productId epoch = none) :
    heldBy key epoch order = 0 := by
  unfold heldBy
  split
  · next hstall => exact previousOf_of_none (holder hstall)
  · rfl

theorem soldBy_of_test (htest : order.isSetupTest = true) : soldBy key db order = 0 := by
  unfold soldBy
  rw [if_neg]
  rintro ⟨-, hreal, -⟩
  rw [htest] at hreal
  cases hreal

/-- The portions on the lines, as the reconciliation reads them. -/
theorem settledBy_eq (hcurrent : epoch ≤ order.createdAt) (hreal : order.isSetupTest = false) :
    settledBy key epoch (fingerprintOf db order) order
      = if isClosed order.status = true then
          if order.stockConsumed = true then heldBy key epoch order else 0
        else if order.stockConsumed = true then
          max (heldBy key epoch order) (soldBy key db order)
        else soldBy key db order := by
  by_cases hstall : productKey order key.productId = key
  · have hheld : heldBy key epoch order
        = previousOf order.stockAllocations key.productId epoch := if_pos hstall
    rw [settledBy_of_current hstall fun hold => absurd hold.2 (not_lt.mpr hcurrent), hheld]
    have hquantity : quantityOf (fingerprintOf db order).lines key.productId
        = lineQuantity db.lines order.id key.productId := quantityOf_orderLines _ _ _
    rw [hquantity]
    unfold desiredQuantity
    cases hclosed : isClosed order.status with
    | true => cases hconsumed : order.stockConsumed <;> simp [fingerprintOf, hclosed, hconsumed]
    | false =>
        have hsold : soldBy key db order = lineQuantity db.lines order.id key.productId :=
          if_pos ⟨hstall, hreal, hclosed⟩
        cases hconsumed : order.stockConsumed <;>
          simp [fingerprintOf, hclosed, hconsumed, hsold]
  · have hheld : heldBy key epoch order = 0 := if_neg hstall
    have hsold : soldBy key db order = 0 := if_neg fun hsells => hstall hsells.1
    have hsettled : settledBy key epoch (fingerprintOf db order) order = 0 := if_neg hstall
    rw [hheld, hsold, hsettled, max_self, ite_self, ite_self]

/-! ## Before the events of a transaction -/

section Pending

variable {pending : Session}

/-- An order after the statements of a transaction, next to what was stored of
it before. -/
structure Traced (key : ProductKey) (epoch : Timestamp) (db : StockDb) (pending : Session)
    (order : StockOrder) : Prop where
  held : (heldBy key epoch order : ℤ) = heldBefore key epoch db order.id
  older : productKey order key.productId = key → order.createdAt < epoch →
    heldOf order.stockAllocations key.productId epoch = none
  test : order.isSetupTest = true → heldBy key epoch order = 0 ∧ soldBefore key db order.id = 0
  even : epoch ≤ order.createdAt → order.isSetupTest = false → order.stockConsumed = false →
    heldBefore key epoch db order.id = soldBefore key db order.id
  covered : epoch ≤ order.createdAt → order.isSetupTest = false →
    soldBefore key db order.id ≤ heldBefore key epoch db order.id
  idle : order.id ∉ pending.deferred →
    (soldBy key pending.db order : ℤ) = soldBefore key db order.id

theorem soldBy_of_lines (hlines : linesOf db'.lines order.id = linesOf db.lines order.id) :
    soldBy key db' order = soldBy key db order := by
  unfold soldBy
  rw [lineQuantity_eq, lineQuantity_eq, hlines]

theorem soldBefore_of_mem (horder : order ∈ db.orders) :
    soldBefore key db order.id = soldBy key db order :=
  Table.measureAt_of_mem _ horder

theorem soldBefore_nonneg (key : ProductKey) (db : StockDb) (orderId : Uuid) :
    0 ≤ soldBefore key db orderId := by
  unfold soldBefore Table.measureAt
  cases db.orders.get? orderId with
  | none => exact le_rfl
  | some order => exact Int.natCast_nonneg _

theorem heldBefore_of_mem (horder : order ∈ db.orders) :
    heldBefore key epoch db order.id = heldBy key epoch order :=
  Table.measureAt_of_mem _ horder

theorem traced_of_wrote (haccounted : AllAccounted key epoch db)
    (hwrote : Wrote key (Session.start db) pending) (horder : order' ∈ pending.db.orders) :
    Traced key epoch db pending order' := by
  rcases hwrote.orders order' horder with hcreated | ⟨order, horder, hrewrote⟩
  · have hheld : heldBy key epoch order' = 0 := heldBy_of_empty hcreated.allocations
    have hbefore : heldBefore key epoch db order'.id = 0 :=
      Table.measureAt_of_forall_ne _ hcreated.new
    have hsold : soldBefore key db order'.id = 0 := Table.measureAt_of_forall_ne _ hcreated.new
    refine ⟨?_, fun _ _ => ?_, fun _ => ⟨hheld, hsold⟩, fun _ _ _ => ?_, fun _ _ => ?_,
      fun hidle => absurd hcreated.queued hidle⟩
    · rw [hheld, hbefore, Nat.cast_zero]
    · rw [hcreated.allocations]
      rfl
    · rw [hbefore, hsold]
    · rw [hbefore, hsold]
  · obtain ⟨holder, htest, heven, hcovered⟩ := haccounted order horder
    have hheld : heldBy key epoch order' = heldBy key epoch order := hrewrote.heldBy_eq
    have hbefore : heldBefore key epoch db order'.id = heldBy key epoch order := by
      rw [hrewrote.id_eq]
      exact heldBefore_of_mem horder
    have hsold : soldBefore key db order'.id = soldBy key db order := by
      rw [hrewrote.id_eq]
      exact soldBefore_of_mem horder
    have htestEq : order'.isSetupTest = order.isSetupTest := by rw [hrewrote.same]
    have hcreatedEq : order'.createdAt = order.createdAt := by rw [hrewrote.same]
    have hstallEq : productKey order' key.productId = productKey order key.productId := by
      rw [hrewrote.same]
      rfl
    rw [← hcreatedEq, ← htestEq] at heven hcovered
    refine ⟨?_, ?_, ?_, ?_, ?_, ?_⟩
    · rw [hheld, hbefore]
    · rw [hcreatedEq, hstallEq, hrewrote.same]
      exact holder
    · intro htutorial
      rw [htestEq] at htutorial
      rw [hheld, hsold, htest htutorial, soldBy_of_test htutorial]
      exact ⟨rfl, rfl⟩
    · intro hcurrent hreal hunconsumed
      have hbeforeConsumed : order.stockConsumed = false := by
        rw [Bool.eq_false_iff]
        intro hconsumed
        rw [hrewrote.consumed hconsumed] at hunconsumed
        cases hunconsumed
      rw [hbefore, hsold, heven hcurrent hreal hbeforeConsumed]
    · intro hcurrent hreal
      rw [hbefore, hsold, Nat.cast_le]
      by_cases hconsumed : order.stockConsumed = true
      · exact hcovered hcurrent hreal hconsumed
      · exact le_of_eq (heven hcurrent hreal (Bool.eq_false_iff.mpr hconsumed)).symm
    · intro hidle
      have hstatus : order'.status = order.status :=
        hrewrote.status.resolve_left (hrewrote.id_eq ▸ hidle)
      rw [hsold, soldBy_of_lines (hwrote.lines order'.id hidle), hrewrote.same, hstatus]
      rfl

/-! ## After the events of a transaction -/

/-- What the events of a transaction leave of an order. -/
structure Turnover (key : ProductKey) (epoch : Timestamp) (db db' : StockDb)
    (order' : StockOrder) : Prop where
  accounted : Accounted key epoch db' order'
  added : (addedTo key db db' order' ≠ 0 → epoch ≤ order'.createdAt
      ∧ (order'.stockConsumed = true →
        heldBefore key epoch db order'.id = soldBefore key db order'.id)) →
    addedTo key db db' order' = heldBy key epoch order' - heldBefore key epoch db order'.id

theorem addedTo_of_same
    (hsame : (soldBy key db' order' : ℤ) = soldBefore key db order'.id) :
    addedTo key db db' order' = 0 := by
  unfold addedTo
  rw [hsame, sub_self, max_self, ite_self]

/-- An order without an event keeps what it sells and holds. -/
theorem turnover_of_idle (htraced : Traced key epoch db pending order')
    (hsame : (soldBy key db' order' : ℤ) = soldBefore key db order'.id) :
    Turnover key epoch db db' order' := by
  refine ⟨⟨htraced.older, fun htest => (htraced.test htest).1, ?_, ?_⟩, fun _ => ?_⟩
  · intro hcurrent hreal hunconsumed
    have heven := htraced.even hcurrent hreal hunconsumed
    rw [← htraced.held, ← hsame] at heven
    exact Nat.cast_injective heven
  · intro hcurrent hreal _
    have hcovered := htraced.covered hcurrent hreal
    rw [← htraced.held, ← hsame] at hcovered
    exact Nat.cast_le.mp hcovered
  · rw [addedTo_of_same hsame, htraced.held, sub_self]

/-- An order from before the counting holds nothing, and counts as long as its
portions stay as they are. -/
theorem turnover_of_older (htraced : Traced key epoch db pending order)
    (hreheld : Reheld key epoch pending.deferred db' order order')
    (holder : order'.createdAt < epoch) : Turnover key epoch db db' order' := by
  have hcreated : order.createdAt < epoch := by
    rw [hreheld.same] at holder
    exact holder
  have hstall : productKey order' key.productId = productKey order key.productId := by
    rw [hreheld.same]
    rfl
  have hnone : productKey order' key.productId = key →
      heldOf order'.stockAllocations key.productId epoch = none := fun hsame =>
    hreheld.staysOut (hstall ▸ hsame) hcreated (htraced.older (hstall ▸ hsame) hcreated)
  have hheld : heldBy key epoch order' = 0 := heldBy_of_older hnone
  have hbefore : heldBefore key epoch db order'.id = 0 := by
    rw [hreheld.id_eq, ← htraced.held,
      heldBy_of_older fun hsame => htraced.older hsame hcreated, Nat.cast_zero]
  refine ⟨⟨fun hsame _ => hnone hsame, fun _ => hheld, fun hcurrent _ _ => ?_,
    fun hcurrent _ _ => ?_⟩, fun hcounts => ?_⟩
  · exact absurd holder (not_lt.mpr hcurrent)
  · exact absurd holder (not_lt.mpr hcurrent)
  · rw [hheld, hbefore, Nat.cast_zero, sub_zero]
    by_contra hadded
    exact absurd holder (not_lt.mpr (hcounts hadded).1)

/-- An order with an event from after the beginning of the counting. -/
theorem turnover_of_settled (htraced : Traced key epoch db pending order)
    (hreheld : Reheld key epoch pending.deferred db' order order')
    (hqueued : order.id ∈ pending.deferred) (hcurrent : epoch ≤ order'.createdAt)
    (hreal : order'.isSetupTest = false) : Turnover key epoch db db' order' := by
  have hsame := hreheld.same
  have hcurrent' : epoch ≤ order.createdAt := by
    rw [hsame] at hcurrent
    exact hcurrent
  have hreal' : order.isSetupTest = false := by
    rw [hsame] at hreal
    exact hreal
  have hstatus : order'.status = order.status := by rw [hsame]; rfl
  have hconsumed : order'.stockConsumed = order.stockConsumed := by rw [hsame]; rfl
  have hsold : soldBy key db' order' = soldBy key db' order := by rw [hsame]; rfl
  have hfingerprint : fingerprintOf db' order' = fingerprintOf db' order := by rw [hsame]; rfl
  obtain ⟨hheld, -⟩ := hreheld.settled hqueued hreal'
  rw [hfingerprint, settledBy_eq hcurrent' hreal'] at hheld
  have hbefore : heldBefore key epoch db order'.id = heldBy key epoch order := by
    rw [hreheld.id_eq, htraced.held]
  have heven := htraced.even hcurrent' hreal'
  have hcovered := htraced.covered hcurrent' hreal'
  rw [← htraced.held] at heven hcovered
  rw [← hreheld.id_eq] at heven hcovered
  have hclosedSold : isClosed order.status = true → soldBy key db' order = 0 := fun hclosed =>
    if_neg fun hsells => by
      rw [hclosed] at hsells
      cases hsells.2.2
  refine ⟨⟨fun _ holder => absurd holder (not_lt.mpr hcurrent), fun htest => ?_,
    fun _ _ hunconsumed => ?_, fun _ _ hstarted => ?_⟩, fun hcounts => ?_⟩
  · rw [hreal] at htest
    cases htest
  · rw [hconsumed] at hunconsumed
    rw [hsold, hheld, hunconsumed]
    by_cases hclosed : isClosed order.status = true
    · simp [hclosed, hclosedSold hclosed]
    · simp [hclosed]
  · rw [hconsumed] at hstarted
    rw [hsold, hheld, hstarted]
    by_cases hclosed : isClosed order.status = true
    · simp [hclosed, hclosedSold hclosed]
    · simp [hclosed]
  · rw [hbefore, hheld]
    unfold addedTo at hcounts ⊢
    rw [hbefore, hconsumed, hsold] at hcounts
    rw [hconsumed, hsold]
    by_cases hstarted : order.stockConsumed = true
    · rw [if_pos hstarted] at hcounts ⊢
      rw [if_pos hstarted, if_pos hstarted]
      by_cases hclosed : isClosed order.status = true
      · have hnonneg := soldBefore_nonneg key db order'.id
        rw [if_pos hclosed, hclosedSold hclosed]
        omega
      · rw [if_neg hclosed]
        by_cases hgrows : (soldBy key db' order : ℤ) ≤ soldBefore key db order'.id
        · omega
        · have heq := (hcounts (by omega)).2 hstarted
          omega
    · rw [if_neg hstarted, if_neg hstarted, if_neg hstarted]
      have hunconsumed := heven (Bool.eq_false_iff.mpr hstarted)
      by_cases hclosed : isClosed order.status = true
      · rw [if_pos hclosed, hclosedSold hclosed]
        omega
      · rw [if_neg hclosed]
        omega

theorem turnover_of_reheld (htraced : Traced key epoch db pending order)
    (hreheld : Reheld key epoch pending.deferred db' order order')
    (hlines : db'.lines = pending.db.lines) : Turnover key epoch db db' order' := by
  by_cases hidle : order.id ∉ pending.deferred ∨ order.isSetupTest = true
  · have hsame := hreheld.untouched hidle
    subst hsame
    refine turnover_of_idle htraced ?_
    rcases hidle with habsent | htest
    · rw [← htraced.idle habsent]
      refine congrArg Nat.cast (soldBy_of_lines ?_)
      rw [hlines]
    · rw [soldBy_of_test htest, (htraced.test htest).2, Nat.cast_zero]
  · rw [not_or, not_not, Bool.not_eq_true] at hidle
    have hreal : order'.isSetupTest = false := by
      rw [hreheld.same]
      exact hidle.2
    by_cases hcurrent : epoch ≤ order'.createdAt
    · exact turnover_of_settled htraced hreheld hidle.1 hcurrent hreal
    · exact turnover_of_older htraced hreheld (not_le.mp hcurrent)

/-- A transaction that runs its events when it commits. -/
theorem turnover_of_transact {stock : CountedStock}
    (haccounted : AllAccounted key stock.stockStartedAt db)
    (hcounted : countedStock db.products key = some stock)
    (hmanual : ∀ statement ∈ statements, adjustsStock key statement = false)
    (hflush : ∀ statement ∈ statements, flushes statement = false)
    (htransact : transact db statements = .ok db') :
    (∀ order' ∈ db'.orders, Turnover key stock.stockStartedAt db db' order')
      ∧ (∀ order ∈ db.orders, ∃ order' ∈ db'.orders, order'.id = order.id)
      ∧ ∃ remaining, countedStock db'.products key
          = some { stock with stockRemaining := remaining }
        ∧ remaining + heldTotal key stock.stockStartedAt db'
          = stock.stockRemaining + heldTotal key stock.stockStartedAt db
        ∧ (0 ≤ stock.stockRemaining → 0 ≤ remaining) := by
  obtain ⟨session, hsession, rfl⟩ := exists_session_of_transact htransact
  rw [List.foldlM_append] at hsession
  obtain ⟨pending, hpending, hcommit⟩ := bind_eq_ok.mp hsession
  have hwrote : Wrote key (Session.start db) pending := by
    refine foldlM_invariant (fun state => Wrote key (Session.start db) state)
      (fun statement hmem state next hstate hexecute => ?_) (Wrote.refl key _) hpending
    have hstock := writtenProduct_ne (hstate.counted.trans hcounted) (hmanual statement hmem)
      hexecute
    exact hstate.trans (wrote_of_executeStatement hexecute hstock (hflush statement hmem))
  obtain ⟨committed, hevents, hdone⟩ := foldlM_cons_eq_ok.mp hcommit
  cases hdone
  obtain ⟨reconciled, hreconciled, hcommitted⟩ := bind_eq_ok.mp hevents
  cases hcommitted
  have hsound : Sound key stock.stockStartedAt pending := by
    have hcache : pending.cache = fun _ => none := hwrote.cache
    refine ⟨fun orderId hcached => ?_, fun order _ fingerprint hcached => ?_⟩
    · rw [hcache] at hcached
      exact absurd rfl hcached
    · rw [hcache] at hcached
      cases hcached
  have hflushed := flushed_of_events hreconciled (hwrote.counted.trans hcounted) hsound
  refine ⟨fun order' horder' => ?_, fun order horder => ?_, ?_⟩
  · obtain ⟨order, horder, hreheld⟩ := hflushed.orders order' horder'
    exact turnover_of_reheld (traced_of_wrote haccounted hwrote horder) hreheld hflushed.lines
  · obtain ⟨order', horder', hid⟩ := hwrote.kept order horder
    obtain ⟨order'', horder'', hid'⟩ := hflushed.kept order' horder'
    exact ⟨order'', horder'', hid'.trans hid⟩
  · obtain ⟨remaining, hremaining, htotal, hnonneg⟩ := hflushed.counted
    have hbefore := hwrote.total stock.stockStartedAt
    exact ⟨remaining, hremaining, htotal.trans (congrArg _ hbefore), hnonneg⟩

end Pending

/-! ## Runs -/

section Runs

variable {stock : CountedStock} {after : List (List Statement)}

/-- A refused transaction adds nothing. -/
theorem addedBy_self (key : ProductKey) (db : StockDb) : addedBy key db db = 0 := by
  refine Table.total_eq_zero fun order horder => addedTo_of_same ?_
  rw [soldBefore_of_mem horder]

/-- In a transaction that counts, the portions added are the portions taken from
the stock. -/
theorem counted_step (haccounted : AllAccounted key stock.stockStartedAt db)
    (hcounted : countedStock db.products key = some stock) (hnonneg : 0 ≤ stock.stockRemaining)
    (hmanual : ∀ statement ∈ statements, adjustsStock key statement = false)
    (hcounts : Counts key stock.stockStartedAt db statements) :
    AllAccounted key stock.stockStartedAt (step db statements)
      ∧ ∃ remaining, countedStock (step db statements).products key
          = some { stock with stockRemaining := remaining }
        ∧ 0 ≤ remaining
        ∧ addedBy key db (step db statements) = stock.stockRemaining - remaining := by
  cases htransact : transact db statements with
  | error error =>
      have hstep : step db statements = db := by
        unfold step
        rw [htransact]
      rw [hstep, addedBy_self]
      exact ⟨haccounted, stock.stockRemaining, hcounted, hnonneg, (sub_self _).symm⟩
  | ok db' =>
      have hstep : step db statements = db' := by
        unfold step
        rw [htransact]
      obtain ⟨hflush, hadds⟩ := hcounts
      rw [hstep] at hadds ⊢
      obtain ⟨hturnover, hkept, remaining, hremaining, htotal, hstays⟩ :=
        turnover_of_transact haccounted hcounted hmanual hflush htransact
      refine ⟨fun order' horder' => (hturnover order' horder').accounted, remaining, hremaining,
        hstays hnonneg, ?_⟩
      have hadded : addedBy key db db' = heldTotal key stock.stockStartedAt db'
          - heldTotal key stock.stockStartedAt db :=
        calc addedBy key db db'
            = db'.orders.total (fun order' => (heldBy key stock.stockStartedAt order' : ℤ)
                - heldBefore key stock.stockStartedAt db order'.id) :=
              Table.total_congr fun order' horder' =>
                (hturnover order' horder').added (hadds order' horder')
          _ = heldTotal key stock.stockStartedAt db'
                - db'.orders.total (fun order' =>
                  heldBefore key stock.stockStartedAt db order'.id) := Table.total_sub _ _ _
          _ = heldTotal key stock.stockStartedAt db' - heldTotal key stock.stockStartedAt db :=
              congrArg _ (Table.total_measureAt _ hkept)
      rw [hadded]
      linarith

theorem counted_exec (haccounted : AllAccounted key stock.stockStartedAt db)
    (hcounted : countedStock db.products key = some stock) (hnonneg : 0 ≤ stock.stockRemaining)
    (hmanual : ∀ statements ∈ after, ∀ statement ∈ statements, adjustsStock key statement = false)
    (hcounts : Safely step (Counts key stock.stockStartedAt) db after) :
    ∃ remaining, countedStock (exec step db after).products key
        = some { stock with stockRemaining := remaining }
      ∧ 0 ≤ remaining ∧ addedAlong key db after = stock.stockRemaining - remaining := by
  induction after generalizing db stock with
  | nil => exact ⟨stock.stockRemaining, hcounted, hnonneg, (sub_self _).symm⟩
  | cons statements after ih =>
      obtain ⟨hcountsHead, hcountsTail⟩ := hcounts
      obtain ⟨hnext, middle, hmiddle, hmiddleNonneg, hmiddleAdded⟩ := counted_step haccounted
        hcounted hnonneg (hmanual statements List.mem_cons_self) hcountsHead
      obtain ⟨remaining, hremaining, hremainingNonneg, hadded⟩ :=
        @ih (step db statements) { stock with stockRemaining := middle } hnext hmiddle
          hmiddleNonneg (fun other hmem => hmanual other (List.mem_cons_of_mem _ hmem)) hcountsTail
      refine ⟨remaining, hremaining, hremainingNonneg, ?_⟩
      rw [addedAlong, hmiddleAdded, hadded]
      ring

/-- The portions added since a counting began are those deducted from the stock,
and there were no more of them than at the beginning. -/
def CountedExactly (key : ProductKey) (portions : ℤ) (now : Timestamp) (started : StockDb)
    (after : List (List Statement)) : Prop :=
  ∃ remaining, countedStock (exec step started after).products key
      = some { stockRemaining := remaining, stockStartedAt := now }
    ∧ addedAlong key started after = portions - remaining
    ∧ addedAlong key started after ≤ portions

variable {started : StockDb} {portions : ℤ} {now : Timestamp}

/-- The counting begins with the portions written, and moves none. -/
theorem start_of_counting (hproduct : (db.products.get? key).isSome = true)
    (hunlimited : countedStock db.products key = none)
    (hstart : transact db [.updateStock key (some portions) now] = .ok started) :
    started.orders = db.orders ∧ 0 ≤ portions
      ∧ countedStock started.products key
        = some { stockRemaining := portions, stockStartedAt := now } := by
  obtain ⟨session, hsession, rfl⟩ := exists_session_of_transact hstart
  obtain ⟨written, hwrite, hcommit⟩ := foldlM_cons_eq_ok.mp hsession
  obtain ⟨_, hcheck, hwritten⟩ := bind_eq_ok.mp hwrite
  cases hwritten
  obtain ⟨committed, hevents, hdone⟩ := foldlM_cons_eq_ok.mp hcommit
  cases hdone
  cases hevents
  rw [failWhen_eq_ok] at hcheck
  refine ⟨rfl, not_lt.mp (of_decide_eq_false hcheck), ?_⟩
  obtain ⟨row, hrow⟩ := Option.isSome_iff_exists.mp hproduct
  have hnone : row.counted = none := by
    unfold countedStock at hunlimited
    rw [hrow] at hunlimited
    exact hunlimited
  have hkey : row.key = key := Table.key_of_get? hrow
  have hget := Table.get?_update_self (versionStallStock now (some portions))
    collides_versionStallStock (Table.mem_of_get? hrow) (versionStallStock_key _ _ row)
  have hfound : (writeStock db.products key now (some portions)).get? key
      = some (versionStallStock now (some portions) row) := by
    rw [← hkey]
    exact hget
  change countedStock (writeStock db.products key now (some portions)) key = _
  unfold countedStock
  rw [hfound, Option.bind_some, versionStallStock, hnone]
  rfl

/-- A run in which every transaction that adds or removes portions does so on
orders created after the counting began, and puts none back on an order in
production, sells what it deducts. -/
theorem portions_counted (hproduct : (db.products.get? key).isSome = true)
    (hunlimited : countedStock db.products key = none)
    (hclock : ∀ order ∈ db.orders, order.createdAt < now
      ∧ ∀ allocation ∈ order.stockAllocations, allocation.epoch < now)
    (hstart : transact db [.updateStock key (some portions) now] = .ok started)
    (hmanual : ∀ statements ∈ after, ∀ statement ∈ statements, adjustsStock key statement = false)
    (hcounts : Safely step (Counts key now) started after) :
    CountedExactly key portions now started after := by
  obtain ⟨horders, hnonneg, hcounted⟩ := start_of_counting hproduct hunlimited hstart
  have haccounted : AllAccounted key now started := by
    intro order horder
    rw [horders] at horder
    obtain ⟨holder, hepochs⟩ := hclock order horder
    have hnone : heldOf order.stockAllocations key.productId now = none := by
      unfold heldOf
      rw [Option.filter_eq_none_iff]
      intro allocation hallocation hepoch
      have hbefore := hepochs allocation (Table.mem_of_get? hallocation)
      exact absurd (of_decide_eq_true hepoch) (ne_of_lt hbefore)
    exact ⟨fun _ _ => hnone, fun _ => heldBy_of_older fun _ => hnone,
      fun hcurrent _ _ => absurd holder (not_lt.mpr hcurrent),
      fun hcurrent _ _ => absurd holder (not_lt.mpr hcurrent)⟩
  obtain ⟨remaining, hremaining, hremainingNonneg, hadded⟩ :=
    @counted_exec key started { stockRemaining := portions, stockStartedAt := now } after
      haccounted hcounted hnonneg hmanual hcounts
  refine ⟨remaining, hremaining, hadded, ?_⟩
  rw [hadded]
  exact sub_le_self portions hremainingNonneg

end Runs

/-! ### Older orders -/

/-- A stall with an unlimited product and an order of one portion. -/
def unlimitedStall : StockDb :=
  exec step .empty [[.insertProduct sampleKey none 0],
    [.insertOrder (sampleOrder 1 50), .insertLine (sampleLine 10 1 1)]]

def countedStall : StockDb :=
  step unlimitedStall [.updateStock sampleKey (some 4) 100]

/-- A new order is amended before its production, and the older one prepared. -/
def countedSales : List (List Statement) :=
  [[.insertOrder (sampleOrder 2 110), .insertLine (sampleLine 20 2 1)],
    [.updateLineQuantity 20 3],
    [.updateOrderStatus 2 .preparing],
    [.updateOrderStatus 1 .preparing]]

theorem counted_sales_counted : CountedExactly sampleKey 4 100 countedStall countedSales := by
  have hstart : transact unlimitedStall [.updateStock sampleKey (some 4) 100]
      = .ok countedStall := by rfl
  have hclock : ∀ order ∈ unlimitedStall.orders.rows, order.createdAt < 100
      ∧ ∀ allocation ∈ order.stockAllocations.rows, allocation.epoch < 100 := by decide +kernel
  exact portions_counted (by decide +kernel) (by decide +kernel) hclock hstart (by decide)
    (by decide +kernel)

/-- The older order is amended to seven portions. -/
def olderAmendment : List (List Statement) :=
  [[.updateLineQuantity 10 7]]

/-- Six portions of four are sold, and none is deducted. -/
theorem older_amendment_uncounted :
    ¬ CountedExactly sampleKey 4 100 countedStall olderAmendment := by
  rintro ⟨remaining, -, -, hbound⟩
  have hadded : addedAlong sampleKey countedStall olderAmendment = 6 := by decide +kernel
  rw [hadded] at hbound
  omega

end Stallorder.Counting
