import Stallorder.Stock.Reconciliation

/-!
# The steps of a stock transaction

What a statement and a deferred event do to one counted product: a statement
moves no portions and queues an event for every order it changes, and an event
moves portions between the stock of the product and the order it is about.
-/

namespace Stallorder.StockSession

open OrderContract SyncDatabase StockDatabase Reconciliation Checks

/-! ## Lines -/

section Lines

variable {lines lines' : Table OrderLine} {orderId productId : Uuid}

def linesOf (lines : Table OrderLine) (orderId : Uuid) : List OrderLine :=
  lines.rows.filter fun line => line.orderId = orderId

theorem lineQuantity_eq (lines : Table OrderLine) (orderId productId : Uuid) :
    lineQuantity lines orderId productId
      = (((linesOf lines orderId).filter fun line => line.productId = some productId).map
        (·.quantity)).sum := by
  unfold lineQuantity linesOf
  rw [List.filter_filter]
  refine congrArg (fun rows : List OrderLine => (rows.map OrderLine.quantity).sum) ?_
  refine List.filter_congr fun line _ => ?_
  rw [Bool.and_comm]

theorem mem_lineProducts :
    productId ∈ lineProducts lines orderId ↔
      ∃ line ∈ linesOf lines orderId, line.productId = some productId := by
  unfold lineProducts
  rw [(List.perm_insertionSort _ _).mem_iff, List.mem_dedup, List.mem_filterMap]
  rfl

/-- The object of lines holds the sum of the quantities under every product. -/
theorem quantityOf_orderLines (lines : Table OrderLine) (orderId productId : Uuid) :
    quantityOf (orderLines lines orderId) productId = lineQuantity lines orderId productId := by
  have hlookup : ∀ products : List Uuid,
      (products.map fun product => (product, lineQuantity lines orderId product)).lookup productId
        = if productId ∈ products then some (lineQuantity lines orderId productId) else none := by
    intro products
    induction products with
    | nil => rfl
    | cons product products ih =>
        rw [List.map_cons, List.lookup_cons, ih]
        by_cases hsame : productId = product
        · subst hsame
          simp
        · have hbeq : (productId == product) = false := beq_false_of_ne hsame
          rw [hbeq]
          simp [hsame]
  unfold quantityOf orderLines
  rw [hlookup]
  split
  · rfl
  · next habsent =>
    rw [lineQuantity_eq, Option.getD_none]
    symm
    refine List.sum_eq_zero fun quantity hquantity => ?_
    obtain ⟨line, hline, -⟩ := List.mem_map.mp hquantity
    obtain ⟨hmem, hproduct⟩ := List.mem_filter.mp hline
    exact absurd (mem_lineProducts.mpr ⟨line, hmem, of_decide_eq_true hproduct⟩) habsent

theorem filter_map_eq_filter {Row : Type} {keep : Row → Bool} {change : Row → Row} :
    ∀ {rows : List Row}, (∀ row ∈ rows, keep (change row) = keep row) →
      (∀ row ∈ rows, keep row = true → change row = row) →
      (rows.map change).filter keep = rows.filter keep
  | [], _, _ => rfl
  | row :: rows, hkeep, hsame => by
      have hrest := filter_map_eq_filter
        (fun other hother => hkeep other (List.mem_cons_of_mem row hother))
        (fun other hother => hsame other (List.mem_cons_of_mem row hother))
      have hhead := hkeep row List.mem_cons_self
      rw [List.map_cons, List.filter_cons, List.filter_cons, hhead, hrest]
      split
      · next hkept => rw [hsame row List.mem_cons_self hkept]
      · rfl

theorem linesOf_insert {line : OrderLine} (hinsert : lines.insert? line = some lines')
    (hother : line.orderId ≠ orderId) : linesOf lines' orderId = linesOf lines orderId := by
  unfold linesOf
  rw [Table.rows_of_insert? hinsert, List.filter_append]
  simp [hother]

theorem linesOf_update {line : OrderLine} (hline : line ∈ lines) (change : OrderLine → OrderLine)
    (hchange : ∀ {row other : OrderLine}, Indexed.collides (change row) other →
      Indexed.collides row other)
    (horder : ∀ row, (change row).orderId = row.orderId) (hother : line.orderId ≠ orderId) :
    linesOf (lines.update line.id change hchange) orderId = linesOf lines orderId := by
  refine filter_map_eq_filter (fun row _ => ?_) (fun row hrow hkept => ?_)
  · split
    · rw [horder]
    · rfl
  · have hne : ¬ Indexed.key row = line.id := fun hkey => by
      have hsame : row = line := Table.eq_of_key_eq hrow hline hkey
      exact hother (hsame ▸ of_decide_eq_true hkept)
    rw [if_neg hne]

theorem linesOf_delete {line : OrderLine} (hline : line ∈ lines)
    (hother : line.orderId ≠ orderId) :
    linesOf (lines.filter fun stored => stored.id ≠ line.id) orderId = linesOf lines orderId := by
  unfold linesOf Table.filter
  rw [List.filter_filter]
  refine List.filter_congr fun row hrow => ?_
  by_cases hof : row.orderId = orderId
  · have hne : row.id ≠ line.id := fun hid => by
      have hsame : row = line := Table.eq_of_key_eq hrow hline hid
      exact hother (hsame ▸ hof)
    simp [hof, hne]
  · simp [hof]

end Lines

/-! ## Reconciling one order -/

section Reconciling

variable {session session' : Session} {order : StockOrder} {key : ProductKey}
  {stock : CountedStock} {productId : Uuid}

/-- The portions of a counting of a product that an order of its stall holds. -/
def heldBy (key : ProductKey) (epoch : Timestamp) (order : StockOrder) : ℕ :=
  if productKey order key.productId = key then
    previousOf order.stockAllocations key.productId epoch
  else 0

theorem heldBy_of_empty {epoch : Timestamp} (hempty : order.stockAllocations = .empty) :
    heldBy key epoch order = 0 := by
  unfold heldBy
  rw [hempty]
  split
  · rfl
  · rfl

/-- The portions of it that a reconciliation lets an order hold. -/
def settledBy (key : ProductKey) (epoch : Timestamp) (fingerprint : Fingerprint)
    (order : StockOrder) : ℕ :=
  if productKey order key.productId = key then
    if heldOf order.stockAllocations key.productId epoch = none ∧ order.createdAt < epoch then 0
    else desiredQuantity fingerprint (previousOf order.stockAllocations key.productId epoch)
      (quantityOf fingerprint.lines key.productId)
  else 0

theorem settledBy_of_current {epoch : Timestamp} {fingerprint : Fingerprint}
    (hstall : productKey order key.productId = key)
    (hcurrent : ¬ (heldOf order.stockAllocations key.productId epoch = none
      ∧ order.createdAt < epoch)) :
    settledBy key epoch fingerprint order = desiredQuantity fingerprint
      (previousOf order.stockAllocations key.productId epoch)
      (quantityOf fingerprint.lines key.productId) := by
  unfold settledBy
  rw [if_pos hstall, if_neg hcurrent]

/-- An order holds what its reconciliation would let it hold. -/
def Settled (key : ProductKey) (epoch : Timestamp) (db : StockDb) (order : StockOrder) : Prop :=
  heldBy key epoch order = settledBy key epoch (fingerprintOf db order) order

theorem desiredQuantity_of_closed {fingerprint : Fingerprint} {previous quantity : ℕ}
    (hclosed : isClosed fingerprint.status = true) (hunconsumed : fingerprint.stockConsumed = false) :
    desiredQuantity fingerprint previous quantity = 0 := by
  unfold desiredQuantity
  rw [hclosed, hunconsumed]
  rfl

theorem le_desiredQuantity {fingerprint : Fingerprint} {previous quantity : ℕ}
    (hconsumed : fingerprint.stockConsumed = true) :
    previous ≤ desiredQuantity fingerprint previous quantity := by
  unfold desiredQuantity
  rw [hconsumed]
  split
  · exact le_of_eq rfl
  · exact le_max_left previous quantity

theorem desiredQuantity_zero (fingerprint : Fingerprint) :
    desiredQuantity fingerprint 0 0 = 0 := by
  unfold desiredQuantity
  split
  · split <;> rfl
  · split <;> rfl

theorem mem_productsToReconcile {fingerprint : Fingerprint}
    {allocations : Table StockAllocation} :
    productId ∈ productsToReconcile fingerprint allocations ↔
      productId ∈ fingerprint.lines.map (·.1)
        ∨ ∃ stored ∈ allocations, stored.productId = productId := by
  unfold productsToReconcile
  rw [List.mem_insertionSort, List.mem_dedup, List.mem_append]
  exact or_congr_right List.mem_map

theorem nodup_productsToReconcile (fingerprint : Fingerprint)
    (allocations : Table StockAllocation) :
    (productsToReconcile fingerprint allocations).Nodup := by
  unfold productsToReconcile
  rw [(List.perm_insertionSort _ _).nodup_iff]
  exact List.nodup_dedup _

/-- A product that the loop does not run over is neither ordered nor held. -/
theorem none_of_notMem_productsToReconcile {db : StockDb}
    (habsent : productId ∉ productsToReconcile (fingerprintOf db order) order.stockAllocations) :
    lineQuantity db.lines order.id productId = 0
      ∧ order.stockAllocations.get? productId = none := by
  rw [mem_productsToReconcile, not_or] at habsent
  constructor
  · rw [lineQuantity_eq]
    refine List.sum_eq_zero fun quantity hquantity => ?_
    obtain ⟨line, hline, -⟩ := List.mem_map.mp hquantity
    obtain ⟨hmem, hproduct⟩ := List.mem_filter.mp hline
    have hlisted := mem_lineProducts.mpr ⟨line, hmem, of_decide_eq_true hproduct⟩
    refine absurd ?_ habsent.1
    refine List.mem_map.mpr ⟨_, List.mem_map_of_mem hlisted, rfl⟩
  · rw [Table.get?_eq_none_iff]
    intro stored hstored hkey
    exact habsent.2 ⟨stored, hstored, hkey⟩

/-- An order from before the counting holds nothing of it. -/
def StaysOut (key : ProductKey) (epoch : Timestamp) (order order' : StockOrder) : Prop :=
  productKey order key.productId = key → order.createdAt < epoch →
    heldOf order.stockAllocations key.productId epoch = none →
      heldOf order'.stockAllocations key.productId epoch = none

/-- What the reconciliation of one order does to a counted product. -/
structure Moved (key : ProductKey) (stock : CountedStock) (order : StockOrder)
    (session session' : Session) : Prop where
  orders : ∃ allocations,
    session'.db.orders = session.db.orders.update order.id (withAllocations allocations) id
      ∧ heldBy key stock.stockStartedAt (withAllocations allocations order)
        = settledBy key stock.stockStartedAt (fingerprintOf session.db order) order
      ∧ heldBy key stock.stockStartedAt (withAllocations allocations order)
        = settledBy key stock.stockStartedAt (fingerprintOf session.db order)
          (withAllocations allocations order)
      ∧ StaysOut key stock.stockStartedAt order (withAllocations allocations order)
  lines : session'.db.lines = session.db.lines
  deferred : session'.deferred = session.deferred
  cache : session'.cache
    = Function.update session.cache order.id (some (fingerprintOf session.db order))
  counted : countedStock session'.db.products key = some { stock with
    stockRemaining := stock.stockRemaining
      - (settledBy key stock.stockStartedAt (fingerprintOf session.db order) order
        - heldBy key stock.stockStartedAt order) }
  enough : 0 ≤ stock.stockRemaining →
    (settledBy key stock.stockStartedAt (fingerprintOf session.db order) order : ℤ)
      - heldBy key stock.stockStartedAt order ≤ stock.stockRemaining

theorem previousOf_of_none {allocations : Table StockAllocation} {epoch : Timestamp}
    (habsent : heldOf allocations productId epoch = none) :
    previousOf allocations productId epoch = 0 := by
  unfold previousOf
  rw [habsent]
  rfl

theorem previousOf_congr {left right : Table StockAllocation}
    (hsame : left.get? productId = right.get? productId) (epoch : Timestamp) :
    previousOf left productId epoch = previousOf right productId epoch := by
  unfold previousOf heldOf
  rw [hsame]

theorem heldOf_congr {left right : Table StockAllocation}
    (hsame : left.get? productId = right.get? productId) (epoch : Timestamp) :
    heldOf left productId epoch = heldOf right productId epoch := by
  unfold heldOf
  rw [hsame]

theorem heldOf_of_get? {allocations : Table StockAllocation} {quantity : ℕ} {epoch : Timestamp}
    (hallocation : allocations.get? productId = some {
      productId := productId, quantity := quantity, epoch := epoch }) :
    heldOf allocations productId epoch ≠ none := by
  unfold heldOf
  rw [hallocation]
  simp [Option.filter]

/-- Unless the loop turns to the product as a counted one, nothing about it
changes. -/
theorem moved_of_still {reconciled : Reconciling} {fingerprint : Fingerprint}
    (hstall : productKey order key.productId = key)
    (hallocation : reconciled.allocations.get? key.productId
      = order.stockAllocations.get? key.productId)
    (habsent : heldOf order.stockAllocations key.productId stock.stockStartedAt = none)
    (hidle : order.createdAt < stock.stockStartedAt
      ∨ quantityOf fingerprint.lines key.productId = 0) :
    heldBy key stock.stockStartedAt order = 0
      ∧ heldBy key stock.stockStartedAt (withAllocations reconciled.allocations order) = 0
      ∧ settledBy key stock.stockStartedAt fingerprint order = 0
      ∧ settledBy key stock.stockStartedAt fingerprint
        (withAllocations reconciled.allocations order) = 0 := by
  have hsettled : ∀ allocations : Table StockAllocation,
      heldOf allocations key.productId stock.stockStartedAt = none →
      heldBy key stock.stockStartedAt (withAllocations allocations order) = 0
        ∧ settledBy key stock.stockStartedAt fingerprint (withAllocations allocations order)
          = 0 := by
    intro allocations hnone
    unfold heldBy settledBy
    change (if productKey order key.productId = key then
        previousOf allocations key.productId stock.stockStartedAt else 0) = 0
      ∧ (if productKey order key.productId = key then
        if heldOf allocations key.productId stock.stockStartedAt = none
          ∧ order.createdAt < stock.stockStartedAt then 0
        else desiredQuantity fingerprint
          (previousOf allocations key.productId stock.stockStartedAt)
          (quantityOf fingerprint.lines key.productId) else 0) = 0
    rw [if_pos hstall, if_pos hstall, previousOf_of_none hnone]
    refine ⟨rfl, ?_⟩
    rcases hidle with hold | hnothing
    · rw [if_pos ⟨hnone, hold⟩]
    · rw [hnothing, desiredQuantity_zero, ite_self]
  have hbefore := hsettled order.stockAllocations habsent
  have hafter := hsettled reconciled.allocations
    ((heldOf_congr hallocation stock.stockStartedAt).trans habsent)
  exact ⟨hbefore.1, hafter.1, hbefore.2, hafter.2⟩

/-- The order and the counted product when no portion moves between them. -/
theorem moved_of_zero {reconciled : Reconciling}
    (hzero : heldBy key stock.stockStartedAt order = 0
      ∧ heldBy key stock.stockStartedAt (withAllocations reconciled.allocations order) = 0
      ∧ settledBy key stock.stockStartedAt (fingerprintOf session.db order) order = 0
      ∧ settledBy key stock.stockStartedAt (fingerprintOf session.db order)
        (withAllocations reconciled.allocations order) = 0)
    (hout : StaysOut key stock.stockStartedAt order
      (withAllocations reconciled.allocations order))
    (hproducts : countedStock reconciled.products key = some stock) :
    Moved key stock order session { session with
      db := { session.db with
        products := reconciled.products
        orders := session.db.orders.update order.id
          (withAllocations reconciled.allocations) id }
      cache := Function.update session.cache order.id
        (some (fingerprintOf session.db order)) } := by
  obtain ⟨hheld, hheld', hsettled, hsettled'⟩ := hzero
  refine ⟨⟨reconciled.allocations, rfl, hheld'.trans hsettled.symm,
    hheld'.trans hsettled'.symm, hout⟩, rfl, rfl, rfl, ?_, ?_⟩
  · rw [hheld, hsettled, sub_self, sub_zero]
    exact hproducts
  · rw [hheld, hsettled, sub_self]
    exact id

theorem moved_of_reconcileOrder (hreconcile : reconcileOrder session order = .ok session')
    (hcounted : countedStock session.db.products key = some stock) :
    Moved key stock order session session' := by
  unfold reconcileOrder at hreconcile
  obtain ⟨reconciled, hloop, hsession⟩ := bind_eq_ok.mp hreconcile
  cases hsession
  obtain ⟨htouches, hturned⟩ := turned_of_loop (nodup_productsToReconcile _ _) hloop
  by_cases hstall : productKey order key.productId = key
  · by_cases hlisted : key.productId ∈ productsToReconcile (fingerprintOf session.db order)
        order.stockAllocations
    · cases hturned key.productId hlisted with
      | unlimited hnone _ _ =>
          rw [hstall] at hnone
          cases hnone.symm.trans hcounted
      | predates found hfound hold hproducts hallocation =>
          rw [hstall] at hfound hproducts
          cases hfound.symm.trans hcounted
          exact moved_of_zero (moved_of_still hstall hallocation hold.1 (Or.inl hold.2))
            (fun _ _ _ => (heldOf_congr hallocation _).trans hold.1) hproducts
      | counted found hfound hcurrent henough hproducts hallocation =>
          rw [hstall] at hfound hproducts
          cases hfound.symm.trans hcounted
          have hheld : heldBy key stock.stockStartedAt order
              = previousOf order.stockAllocations key.productId stock.stockStartedAt := by
            unfold heldBy
            rw [if_pos hstall]
          have hsettled : settledBy key stock.stockStartedAt (fingerprintOf session.db order) order
              = desiredOf (fingerprintOf session.db order) order.stockAllocations
                key.productId stock := settledBy_of_current hstall hcurrent
          have hheld' : heldBy key stock.stockStartedAt
                (withAllocations reconciled.allocations order)
              = desiredOf (fingerprintOf session.db order) order.stockAllocations
                key.productId stock := by
            unfold heldBy
            change (if productKey order key.productId = key then _ else _) = _
            rw [if_pos hstall]
            exact previousOf_of_get? hallocation
          have hsettled' : settledBy key stock.stockStartedAt (fingerprintOf session.db order)
                (withAllocations reconciled.allocations order)
              = desiredOf (fingerprintOf session.db order) order.stockAllocations
                key.productId stock := by
            have hstall' : productKey (withAllocations reconciled.allocations order)
                key.productId = key := hstall
            have hcurrent' : ¬ (heldOf reconciled.allocations key.productId stock.stockStartedAt
                = none ∧ order.createdAt < stock.stockStartedAt) :=
              fun hold => heldOf_of_get? hallocation hold.1
            rw [settledBy_of_current hstall' hcurrent']
            change desiredQuantity _ (previousOf reconciled.allocations _ _) _ = _
            rw [previousOf_of_get? hallocation]
            exact desiredQuantity_idem _ _ _
          have hout : StaysOut key stock.stockStartedAt order
              (withAllocations reconciled.allocations order) :=
            fun _ hbefore hnone => absurd ⟨hnone, hbefore⟩ hcurrent
          refine ⟨⟨reconciled.allocations, rfl, hheld'.trans hsettled.symm,
            hheld'.trans hsettled'.symm, hout⟩, rfl, rfl, rfl, ?_, ?_⟩
          · rw [hheld, hsettled]
            exact hproducts
          · rw [hheld, hsettled]
            exact fun _ => henough
    · obtain ⟨hnothing, habsent⟩ := none_of_notMem_productsToReconcile hlisted
      have hnone : heldOf order.stockAllocations key.productId stock.stockStartedAt = none := by
        unfold heldOf
        rw [habsent]
        rfl
      have hidle : quantityOf (fingerprintOf session.db order).lines key.productId = 0 :=
        (quantityOf_orderLines _ _ _).trans hnothing
      have hzero := moved_of_still hstall (htouches.allocations _ hlisted) hnone (Or.inr hidle)
      have hproducts : countedStock reconciled.products key = some stock := by
        rw [htouches.products key fun productId hmem hkey => hlisted ?_]
        · exact hcounted
        · have hproduct : key.productId = productId := congrArg ProductKey.productId hkey
          rw [hproduct]
          exact hmem
      have hsame := htouches.allocations _ hlisted
      exact moved_of_zero hzero (fun _ _ _ => (heldOf_congr hsame _).trans hnone) hproducts
  · have hheld : ∀ allocations, heldBy key stock.stockStartedAt
        (withAllocations allocations order) = 0 := fun allocations => if_neg hstall
    have hsettled : ∀ allocations, settledBy key stock.stockStartedAt
        (fingerprintOf session.db order) (withAllocations allocations order) = 0 :=
      fun allocations => if_neg hstall
    have hproducts : countedStock reconciled.products key = some stock := by
      rw [htouches.products key fun productId _ hkey => hstall ?_]
      · exact hcounted
      · have hproduct : key.productId = productId := congrArg ProductKey.productId hkey
        rw [hproduct]
        exact hkey.symm
    exact moved_of_zero ⟨hheld order.stockAllocations, hheld _, hsettled order.stockAllocations,
      hsettled _⟩ (fun hsame => absurd hsame hstall) hproducts

end Reconciling

/-! ## Deferred events -/

section Events

variable {key : ProductKey} {stock : CountedStock} {epoch : Timestamp}
  {session middle session' : Session} {order order' : StockOrder} {orderId : Uuid}
  {ids left right : List Uuid}

/-- The fingerprints a transaction remembers are of orders that hold what these
let them hold. -/
structure Sound (key : ProductKey) (epoch : Timestamp) (session : Session) : Prop where
  known : ∀ orderId, session.cache orderId ≠ none → ∃ order ∈ session.db.orders,
    order.id = orderId
  settled : ∀ order ∈ session.db.orders, ∀ fingerprint,
    session.cache order.id = some fingerprint →
      heldBy key epoch order = settledBy key epoch fingerprint order

/-- What the events of some orders make of one order. -/
structure Reheld (key : ProductKey) (epoch : Timestamp) (ids : List Uuid) (db' : StockDb)
    (order order' : StockOrder) : Prop where
  same : order' = withAllocations order'.stockAllocations order
  untouched : order.id ∉ ids ∨ order.isSetupTest = true → order' = order
  settled : order.id ∈ ids → order.isSetupTest = false →
    heldBy key epoch order' = settledBy key epoch (fingerprintOf db' order') order
      ∧ Settled key epoch db' order'
  staysOut : StaysOut key epoch order order'
  grows : order.stockConsumed = true → heldBy key epoch order ≤ heldBy key epoch order'

/-- What the events of some orders do to a counted product. -/
structure Flushed (key : ProductKey) (stock : CountedStock) (ids : List Uuid)
    (session session' : Session) : Prop where
  lines : session'.db.lines = session.db.lines
  deferred : session'.deferred = session.deferred
  orders : ∀ order' ∈ session'.db.orders, ∃ order ∈ session.db.orders,
    Reheld key stock.stockStartedAt ids session'.db order order'
  kept : ∀ order ∈ session.db.orders, ∃ order' ∈ session'.db.orders, order'.id = order.id
  counted : ∃ remaining,
    countedStock session'.db.products key = some { stock with stockRemaining := remaining }
      ∧ remaining + session'.db.orders.total (fun order => heldBy key stock.stockStartedAt order)
        = stock.stockRemaining
          + session.db.orders.total (fun order => heldBy key stock.stockStartedAt order)
      ∧ (0 ≤ stock.stockRemaining → 0 ≤ remaining)
  sound : Sound key stock.stockStartedAt session'

theorem fingerprintOf_withAllocations {db db' : StockDb} (hlines : db'.lines = db.lines)
    (allocations : Table StockAllocation) (order : StockOrder) :
    fingerprintOf db' (withAllocations allocations order) = fingerprintOf db order := by
  unfold fingerprintOf
  rw [hlines]
  rfl

theorem Reheld.id_eq {db' : StockDb} (hreheld : Reheld key epoch ids db' order order') :
    order'.id = order.id := by
  rw [hreheld.same]
  rfl

theorem Flushed.nil (hcounted : countedStock session.db.products key = some stock)
    (hsound : Sound key stock.stockStartedAt session) : Flushed key stock [] session session where
  lines := rfl
  deferred := rfl
  orders order horder := ⟨order, horder, rfl, fun _ => rfl, fun hmem => absurd hmem List.not_mem_nil,
    fun _ _ => id, fun _ => le_rfl⟩
  kept order horder := ⟨order, horder, rfl⟩
  counted := ⟨stock.stockRemaining, hcounted, rfl, id⟩
  sound := hsound

theorem Flushed.trans {remaining : ℤ} (hfirst : Flushed key stock left session middle)
    (hcounted : countedStock middle.db.products key
      = some { stock with stockRemaining := remaining })
    (hsecond : Flushed key { stock with stockRemaining := remaining } right middle session') :
    Flushed key stock (left ++ right) session session' where
  lines := hsecond.lines.trans hfirst.lines
  deferred := hsecond.deferred.trans hfirst.deferred
  orders order'' horder'' := by
    obtain ⟨order', horder', hreheld'⟩ := hsecond.orders order'' horder''
    obtain ⟨order, horder, hreheld⟩ := hfirst.orders order' horder'
    have hid := hreheld.id_eq
    have htest : order'.isSetupTest = order.isSetupTest := by rw [hreheld.same]; rfl
    have hconsumed : order'.stockConsumed = order.stockConsumed := by rw [hreheld.same]; rfl
    have hstall : productKey order' key.productId = productKey order key.productId := by
      rw [hreheld.same]
      rfl
    have hcreated : order'.createdAt = order.createdAt := by rw [hreheld.same]; rfl
    have hfingerprint : ∀ allocations, fingerprintOf session'.db (withAllocations allocations order')
        = fingerprintOf middle.db order' := fun allocations =>
      fingerprintOf_withAllocations hsecond.lines allocations order'
    refine ⟨order, horder, ?_, ?_, ?_, ?_, ?_⟩
    · rw [hreheld'.same, hreheld.same]
      rfl
    · intro hidle
      have hidle' : order.id ∉ left ∨ order.isSetupTest = true :=
        hidle.imp_left fun hmem hleft => hmem (List.mem_append_left right hleft)
      have hidle'' : order'.id ∉ right ∨ order'.isSetupTest = true := by
        rw [hid, htest]
        exact hidle.imp_left fun hmem hright => hmem (List.mem_append_right left hright)
      exact (hreheld'.untouched hidle'').trans (hreheld.untouched hidle')
    · intro hmem hreal
      by_cases hright : order.id ∈ right
      · obtain ⟨hheld, hsettled⟩ := hreheld'.settled (hid ▸ hright) (htest.trans hreal)
        refine ⟨?_, hsettled⟩
        by_cases hleft : order.id ∈ left
        · have hmiddle := (hreheld.settled hleft hreal).1
          have hsteady := (hreheld.settled hleft hreal).2
          have hlast : fingerprintOf session'.db order'' = fingerprintOf middle.db order' := by
            rw [hreheld'.same]
            exact hfingerprint _
          rw [hlast] at hheld ⊢
          exact hheld.trans (hsteady.symm.trans hmiddle)
        · rw [← hreheld.untouched (Or.inl hleft)]
          exact hheld
      · have hleft : order.id ∈ left := (List.mem_append.mp hmem).resolve_right hright
        have hsame : order'' = order' := hreheld'.untouched (Or.inl (hid ▸ hright))
        have hsettled := hreheld.settled hleft hreal
        have hlast : fingerprintOf session'.db order' = fingerprintOf middle.db order' :=
          hfingerprint order'.stockAllocations
        rw [hsame]
        unfold Settled
        rw [hlast]
        exact hsettled
    · intro hsame hbefore hnone
      exact hreheld'.staysOut (hstall.trans hsame) (hcreated ▸ hbefore)
        (hreheld.staysOut hsame hbefore hnone)
    · intro hstarted
      exact (hreheld.grows hstarted).trans (hreheld'.grows (hconsumed.trans hstarted))
  kept order horder := by
    obtain ⟨order', horder', hid⟩ := hfirst.kept order horder
    obtain ⟨order'', horder'', hid'⟩ := hsecond.kept order' horder'
    exact ⟨order'', horder'', hid'.trans hid⟩
  counted := by
    obtain ⟨first, hfirstCounted, hfirstTotal, hfirstNonneg⟩ := hfirst.counted
    obtain ⟨second, hsecondCounted, hsecondTotal, hsecondNonneg⟩ := hsecond.counted
    have hsame : first = remaining :=
      congrArg CountedStock.stockRemaining (Option.some.inj (hfirstCounted.symm.trans hcounted))
    subst hsame
    exact ⟨second, hsecondCounted, hsecondTotal.trans hfirstTotal,
      fun hnonneg => hsecondNonneg (hfirstNonneg hnonneg)⟩
  sound := hsecond.sound

/-- What a started production took stays taken. -/
theorem heldBy_le_settledBy {fingerprint : Fingerprint}
    (hconsumed : fingerprint.stockConsumed = true) :
    heldBy key epoch order ≤ settledBy key epoch fingerprint order := by
  unfold heldBy settledBy
  split
  · split
    · next hold => rw [previousOf_of_none hold.1]
    · exact le_desiredQuantity hconsumed
  · exact le_rfl

theorem mem_update_withAllocations {orders : Table StockOrder} {allocations : Table StockAllocation}
    (hmem : order ∈ orders) {stored : StockOrder} :
    stored ∈ orders.update order.id (withAllocations allocations) id ↔
      stored = withAllocations allocations order ∨ (stored ∈ orders ∧ stored.id ≠ order.id) :=
  Table.mem_update_of_mem hmem

theorem flushed_of_moved (hmem : order ∈ session.db.orders) (hreal : order.isSetupTest = false)
    (hmoved : Moved key stock order session session')
    (hsound : Sound key stock.stockStartedAt session) :
    Flushed key stock [order.id] session session' := by
  obtain ⟨allocations, horders, hheld, hheld', hout⟩ := hmoved.orders
  have hfingerprint : fingerprintOf session'.db (withAllocations allocations order)
      = fingerprintOf session.db order :=
    fingerprintOf_withAllocations hmoved.lines allocations order
  have hrows : ∀ stored, stored ∈ session'.db.orders ↔
      stored = withAllocations allocations order
        ∨ (stored ∈ session.db.orders ∧ stored.id ≠ order.id) := fun stored => by
    rw [horders]
    exact mem_update_withAllocations hmem
  have hkept : ∀ other ∈ session.db.orders, ∃ stored ∈ session'.db.orders,
      stored.id = other.id := fun other hother => by
    by_cases hid : other.id = order.id
    · exact ⟨_, (hrows _).mpr (Or.inl rfl), hid.symm⟩
    · exact ⟨other, (hrows _).mpr (Or.inr ⟨hother, hid⟩), rfl⟩
  have htotal := Table.total_update (withAllocations allocations) id
    (fun stored => (heldBy key stock.stockStartedAt stored : ℤ)) hmem
  refine ⟨hmoved.lines, hmoved.deferred, fun stored hstored => ?_, hkept, ⟨_, hmoved.counted,
    ?_, fun hnonneg => sub_nonneg.mpr (hmoved.enough hnonneg)⟩, ⟨fun orderId hcached => ?_, ?_⟩⟩
  · rcases (hrows stored).mp hstored with rfl | ⟨hother, hne⟩
    · refine ⟨order, hmem, rfl, fun hidle => ?_, fun _ _ => ?_, hout, fun hconsumed => ?_⟩
      · rcases hidle with habsent | htest
        · exact absurd (List.mem_singleton_self order.id) habsent
        · rw [hreal] at htest
          cases htest
      · unfold Settled
        rw [hfingerprint]
        exact ⟨hheld, hheld'⟩
      · rw [hheld]
        exact heldBy_le_settledBy hconsumed
    · exact ⟨stored, hother, rfl, fun _ => rfl,
        fun hlisted => absurd (List.mem_singleton.mp hlisted) hne, fun _ _ => id, fun _ => le_rfl⟩
  · have hupdated : session'.db.orders.total
          (fun stored => (heldBy key stock.stockStartedAt stored : ℤ))
        = session.db.orders.total (fun stored => (heldBy key stock.stockStartedAt stored : ℤ))
          + (settledBy key stock.stockStartedAt (fingerprintOf session.db order) order
            - heldBy key stock.stockStartedAt order) := by
      rw [horders, ← hheld]
      exact htotal
    rw [hupdated]
    ring
  · rw [hmoved.cache] at hcached
    by_cases hid : orderId = order.id
    · exact ⟨_, (hrows _).mpr (Or.inl rfl), hid.symm⟩
    · rw [Function.update_of_ne hid] at hcached
      obtain ⟨other, hother, hother'⟩ := hsound.known orderId hcached
      obtain ⟨stored, hstored, hstored'⟩ := hkept other hother
      exact ⟨stored, hstored, hstored'.trans hother'⟩
  · intro stored hstored fingerprint hcached
    rw [hmoved.cache] at hcached
    rcases (hrows stored).mp hstored with rfl | ⟨hother, hne⟩
    · have hid : (withAllocations allocations order).id = order.id := rfl
      rw [hid, Function.update_self] at hcached
      cases hcached
      exact hheld'
    · rw [Function.update_of_ne hne] at hcached
      exact hsound.settled stored hother fingerprint hcached

/-- One event. -/
theorem flushed_of_event (hevent : reconcileOrderStock session orderId = .ok session')
    (hcounted : countedStock session.db.products key = some stock)
    (hsound : Sound key stock.stockStartedAt session) :
    Flushed key stock [orderId] session session' := by
  unfold reconcileOrderStock at hevent
  have hidle : (∀ order ∈ session.db.orders, order.id = orderId → order.isSetupTest = false →
      Settled key stock.stockStartedAt session.db order) →
      Flushed key stock [orderId] session session := by
    intro hsettled
    refine ⟨rfl, rfl, fun order horder => ⟨order, horder, rfl, fun _ => rfl, fun hmem hreal => ?_,
      fun _ _ => id, fun _ => le_rfl⟩,
      fun order horder => ⟨order, horder, rfl⟩, ⟨stock.stockRemaining, hcounted, rfl, id⟩, hsound⟩
    have hsteady := hsettled order horder (List.mem_singleton.mp hmem) hreal
    exact ⟨hsteady, hsteady⟩
  cases hfound : session.db.orders.get? orderId with
  | none =>
      rw [hfound] at hevent
      cases hevent
      exact hidle fun order horder hid _ =>
        absurd hid (Table.get?_eq_none_iff.mp hfound order horder)
  | some order =>
      have hmem := Table.mem_of_get? hfound
      have hid : order.id = orderId := Table.key_of_get? hfound
      have hunique : ∀ other ∈ session.db.orders, other.id = orderId → other = order :=
        fun other hother hother' => Table.eq_of_key_eq hother hmem (hother'.trans hid.symm)
      rw [hfound] at hevent
      simp only at hevent
      split at hevent
      · next htest =>
        cases hevent
        refine hidle fun other hother hother' hreal => ?_
        rw [hunique other hother hother', htest] at hreal
        cases hreal
      · next hreal =>
        split at hevent
        · next hcached =>
          cases hevent
          refine hidle fun other hother hother' _ => ?_
          rw [hunique other hother hother']
          exact hsound.settled order hmem _ (hid ▸ hcached)
        · rw [← hid]
          exact flushed_of_moved hmem (Bool.eq_false_iff.mpr hreal)
            (moved_of_reconcileOrder hevent hcounted) hsound

/-- All the deferred events, or any others. -/
theorem flushed_of_events (hevents : ids.foldlM reconcileOrderStock session = .ok session')
    (hcounted : countedStock session.db.products key = some stock)
    (hsound : Sound key stock.stockStartedAt session) :
    Flushed key stock ids session session' := by
  induction ids generalizing session stock with
  | nil =>
      cases hevents
      exact Flushed.nil hcounted hsound
  | cons orderId ids ih =>
      obtain ⟨middle, hevent, hrest⟩ := foldlM_cons_eq_ok.mp hevents
      have hfirst := flushed_of_event hevent hcounted hsound
      obtain ⟨remaining, hmiddle, -, -⟩ := hfirst.counted
      exact hfirst.trans hmiddle (ih hrest hmiddle hfirst.sound)

end Events

/-! ## Statements -/

section Statements

variable {key : ProductKey} {stock : CountedStock} {epoch : Timestamp}
  {session session' : Session} {order order' : StockOrder} {orderId : Uuid} {queue : List Uuid}

/-- The product whose stock a statement writes. -/
def writtenProduct : Statement → Option ProductKey
  | .insertProduct key _ _ | .updateStock key _ _ => some key
  | _ => none

def flushes : Statement → Bool
  | .setConstraintsImmediate => true
  | _ => false

/-- What a statement makes of a stored order: a new status is queued, and only
the mark of its consumption changes besides. -/
structure Rewrote (queue : List Uuid) (order order' : StockOrder) : Prop where
  same : order' = { order with
    status := order'.status, stockConsumed := order'.stockConsumed }
  consumed : order.stockConsumed = true → order'.stockConsumed = true
  status : order.id ∈ queue ∨ order'.status = order.status

theorem Rewrote.refl (queue : List Uuid) (order : StockOrder) : Rewrote queue order order :=
  ⟨rfl, id, Or.inr rfl⟩

theorem Rewrote.heldBy_eq (hrewrote : Rewrote queue order order') :
    heldBy key epoch order' = heldBy key epoch order := by
  rw [hrewrote.same]
  rfl

theorem Rewrote.id_eq (hrewrote : Rewrote queue order order') : order'.id = order.id := by
  rw [hrewrote.same]

theorem rewrote_markStockConsumed (queue : List Uuid) (started : Bool) (order : StockOrder) :
    Rewrote queue order (markStockConsumed started order) := by
  refine ⟨rfl, fun hconsumed => ?_, Or.inr rfl⟩
  unfold markStockConsumed
  rw [hconsumed]
  rfl

theorem rewrote_withStatus (status : OrderStatus) (hqueued : order.id ∈ queue) :
    Rewrote queue order (withStatus status order) := by
  refine ⟨rfl, fun hconsumed => ?_, Or.inl hqueued⟩
  unfold withStatus markStockConsumed
  rw [hconsumed]
  rfl

/-- An order that a statement has just created. -/
structure Created (session session' : Session) (order' : StockOrder) : Prop where
  allocations : order'.stockAllocations = .empty
  queued : order'.id ∈ session'.deferred
  new : ∀ order ∈ session.db.orders, order.id ≠ order'.id

/-- What a statement other than a correction of the stock does to a product. -/
structure Wrote (key : ProductKey) (session session' : Session) : Prop where
  counted : countedStock session'.db.products key = countedStock session.db.products key
  cache : session'.cache = session.cache
  queued : ∀ orderId ∈ session.deferred, orderId ∈ session'.deferred
  orders : ∀ order' ∈ session'.db.orders, Created session session' order'
    ∨ ∃ order ∈ session.db.orders, Rewrote session'.deferred order order'
  kept : ∀ order ∈ session.db.orders, ∃ order' ∈ session'.db.orders, order'.id = order.id
  lines : ∀ orderId, orderId ∉ session'.deferred →
    linesOf session'.db.lines orderId = linesOf session.db.lines orderId
  total : ∀ epoch, session'.db.orders.total (fun order => (heldBy key epoch order : ℤ))
    = session.db.orders.total (fun order => (heldBy key epoch order : ℤ))

theorem Wrote.refl (key : ProductKey) (session : Session) : Wrote key session session where
  counted := rfl
  cache := rfl
  queued _ := id
  orders order horder := Or.inr ⟨order, horder, Rewrote.refl _ order⟩
  kept order horder := ⟨order, horder, rfl⟩
  lines _ _ := rfl
  total _ := rfl

theorem Rewrote.trans {queue' : List Uuid} {order'' : StockOrder}
    (hfirst : Rewrote queue order order') (hsecond : Rewrote queue' order' order'')
    (hqueue : ∀ orderId ∈ queue, orderId ∈ queue') : Rewrote queue' order order'' := by
  refine ⟨?_, fun hconsumed => hsecond.consumed (hfirst.consumed hconsumed), ?_⟩
  · rw [hsecond.same, hfirst.same]
  · rcases hsecond.status with hqueued | hstatus
    · exact Or.inl (hfirst.id_eq ▸ hqueued)
    · rcases hfirst.status with hqueued | hstatus'
      · exact Or.inl (hqueue _ hqueued)
      · exact Or.inr (hstatus.trans hstatus')

theorem Wrote.trans {session'' : Session} (hfirst : Wrote key session session')
    (hsecond : Wrote key session' session'') : Wrote key session session'' where
  counted := hsecond.counted.trans hfirst.counted
  cache := hsecond.cache.trans hfirst.cache
  queued orderId hqueued := hsecond.queued orderId (hfirst.queued orderId hqueued)
  orders order'' horder'' := by
    have hkept : ∀ order ∈ session.db.orders, (∀ other ∈ session'.db.orders,
        other.id ≠ order''.id) → order.id ≠ order''.id := fun order horder hnew => by
      obtain ⟨order', horder', hid⟩ := hfirst.kept order horder
      exact hid ▸ hnew order' horder'
    rcases hsecond.orders order'' horder'' with hcreated | ⟨order', horder', hrewrote'⟩
    · exact Or.inl ⟨hcreated.allocations, hcreated.queued,
        fun order horder => hkept order horder hcreated.new⟩
    · rcases hfirst.orders order' horder' with hcreated | ⟨order, horder, hrewrote⟩
      · refine Or.inl ⟨?_, ?_, ?_⟩
        · rw [hrewrote'.same]
          exact hcreated.allocations
        · rw [hrewrote'.id_eq]
          exact hsecond.queued _ hcreated.queued
        · rw [hrewrote'.id_eq]
          exact hcreated.new
      · exact Or.inr ⟨order, horder, hrewrote.trans hrewrote' hsecond.queued⟩
  kept order horder := by
    obtain ⟨order', horder', hid⟩ := hfirst.kept order horder
    obtain ⟨order'', horder'', hid'⟩ := hsecond.kept order' horder'
    exact ⟨order'', horder'', hid'.trans hid⟩
  lines orderId hidle := (hsecond.lines orderId hidle).trans
    (hfirst.lines orderId fun hqueued => hidle (hsecond.queued orderId hqueued))
  total epoch := (hsecond.total epoch).trans (hfirst.total epoch)

/-- A statement that rewrites the order of one id only. -/
theorem wrote_of_update (change : StockOrder → StockOrder)
    (hchange : ∀ {row other : StockOrder}, Indexed.collides (change row) other →
      Indexed.collides row other)
    (hrewrote : ∀ order, order.id = orderId → Rewrote session'.deferred order (change order))
    (hcounted : countedStock session'.db.products key = countedStock session.db.products key)
    (hcache : session'.cache = session.cache)
    (hqueued : ∀ orderId ∈ session.deferred, orderId ∈ session'.deferred)
    (horders : session'.db.orders = session.db.orders.update orderId change hchange)
    (hlines : ∀ orderId, orderId ∉ session'.deferred →
      linesOf session'.db.lines orderId = linesOf session.db.lines orderId) :
    Wrote key session session' where
  counted := hcounted
  cache := hcache
  queued := hqueued
  orders order' horder' := by
    rw [horders] at horder'
    exact Or.inr (Table.update_back (Rewrote.refl _) (fun order _ hid => hrewrote order hid)
      horder')
  kept order horder := by
    obtain ⟨order', horder', hrewrote'⟩ := Table.update_forth change hchange (Rewrote.refl _)
      (fun order _ hid => hrewrote order hid) horder
    rw [← horders] at horder'
    exact ⟨order', horder', hrewrote'.id_eq⟩
  lines := hlines
  total epoch := by
    rw [horders]
    apply Table.total_update_of_same
    exact fun order _ hid => congrArg Nat.cast (hrewrote order hid).heldBy_eq

/-- A statement that leaves the orders alone. -/
theorem wrote_of_same
    (hcounted : countedStock session'.db.products key = countedStock session.db.products key)
    (hcache : session'.cache = session.cache)
    (hqueued : ∀ orderId ∈ session.deferred, orderId ∈ session'.deferred)
    (horders : session'.db.orders = session.db.orders)
    (hlines : ∀ orderId, orderId ∉ session'.deferred →
      linesOf session'.db.lines orderId = linesOf session.db.lines orderId) :
    Wrote key session session' where
  counted := hcounted
  cache := hcache
  queued := hqueued
  orders order' horder' := Or.inr ⟨order', horders ▸ horder', Rewrote.refl _ _⟩
  kept order horder := ⟨order, horders ▸ horder, rfl⟩
  lines := hlines
  total epoch := by rw [horders]

theorem wrote_of_insertOrder {orders : Table StockOrder} {new : NewOrder}
    (hinsert : session.db.orders.insert? new.row = some orders) :
    Wrote key session { session with
      db := { session.db with orders }
      deferred := session.deferred ++ [new.id] } where
  counted := rfl
  cache := rfl
  queued _ hmem := List.mem_append_left _ hmem
  orders order' horder' := by
    rcases (Table.mem_of_insert? hinsert).mp horder' with hold | rfl
    · exact Or.inr ⟨order', hold, Rewrote.refl _ _⟩
    · refine Or.inl ⟨rfl, List.mem_append_right _ (List.mem_singleton_self _), ?_⟩
      intro order horder hid
      exact Table.not_collides_of_insert? hinsert horder (Indexed.collides_of_key_eq hid)
  kept order horder := ⟨order, (Table.mem_of_insert? hinsert).mpr (Or.inl horder), rfl⟩
  lines _ _ := rfl
  total epoch := by
    have htotal := Table.total_insert? (fun order => (heldBy key epoch order : ℤ)) hinsert
    have hnothing : heldBy key epoch new.row = 0 := heldBy_of_empty rfl
    rw [hnothing, Nat.cast_zero, add_zero] at htotal
    exact htotal

theorem wrote_of_writeLines {lines : Table OrderLine} {started : Bool}
    (hlines : ∀ other, other ≠ orderId → linesOf lines other = linesOf session.db.lines other) :
    Wrote key session (session.writeLines lines orderId started) := by
  have hothers : ∀ other, other ∉ session.deferred ++ [orderId] →
      linesOf lines other = linesOf session.db.lines other := fun other hother =>
    hlines other fun hsame => hother (hsame ▸ List.mem_append_right _ (List.mem_singleton_self _))
  have hqueued : ∀ other ∈ session.deferred, other ∈ session.deferred ++ [orderId] :=
    fun other hother => List.mem_append_left _ hother
  cases started with
  | true =>
      exact wrote_of_update (markStockConsumed true) id
        (fun order _ => rewrote_markStockConsumed _ true order) rfl rfl hqueued rfl hothers
  | false => exact wrote_of_same rfl rfl hqueued rfl hothers

theorem countedStock_of_insert? {products products' : Table ProductStock} {row : ProductStock}
    (hinsert : products.insert? row = some products') (hne : row.key ≠ key) :
    countedStock products' key = countedStock products key := by
  have hfound : products'.get? key = products.get? key := by
    ext stored
    rw [Table.get?_eq_some_iff, Table.get?_eq_some_iff, Table.mem_of_insert? hinsert]
    constructor
    · rintro ⟨hold | rfl, hkey⟩
      · exact ⟨hold, hkey⟩
      · exact absurd hkey hne
    · rintro ⟨hold, hkey⟩
      exact ⟨Or.inl hold, hkey⟩
  unfold countedStock
  rw [hfound]

theorem wrote_of_executeStatement {statement : Statement}
    (hexecute : executeStatement session statement = .ok session')
    (hstock : writtenProduct statement ≠ some key) (hflush : flushes statement = false) :
    Wrote key session session' := by
  unfold executeStatement at hexecute
  cases statement with
  | insertOrder new =>
      obtain ⟨orders, hinsert, hsession⟩ := bind_eq_ok.mp hexecute
      cases hsession
      exact wrote_of_insertOrder (orFail_eq_ok.mp hinsert)
  | updateOrderStatus orderId status =>
      simp only at hexecute
      split at hexecute
      · cases hexecute
        exact wrote_of_same rfl rfl (fun _ => id) rfl fun _ _ => rfl
      · cases hexecute
        refine wrote_of_update (withStatus status) id (fun order hid => ?_) rfl rfl
          (fun _ hmem => List.mem_append_left _ hmem) rfl fun _ _ => rfl
        exact rewrote_withStatus status
          (hid ▸ List.mem_append_right _ (List.mem_singleton_self _))
  | insertLine line =>
      simp only at hexecute
      obtain ⟨_, -, hexecute⟩ := bind_eq_ok.mp hexecute
      obtain ⟨_, -, hexecute⟩ := bind_eq_ok.mp hexecute
      obtain ⟨lines, hinsert, hsession⟩ := bind_eq_ok.mp hexecute
      cases hsession
      exact wrote_of_writeLines fun other hother =>
        linesOf_insert (orFail_eq_ok.mp hinsert) hother.symm
  | updateLineQuantity lineId quantity =>
      simp only at hexecute
      split at hexecute
      · cases hexecute
        exact wrote_of_same rfl rfl (fun _ => id) rfl fun _ _ => rfl
      · next line hfound =>
        obtain ⟨_, -, hsession⟩ := bind_eq_ok.mp hexecute
        cases hsession
        have hid : line.id = lineId := Table.key_of_get? hfound
        subst hid
        exact wrote_of_writeLines fun other hother =>
          linesOf_update (Table.mem_of_get? hfound) (fun stored => { stored with quantity }) id
            (fun _ => rfl) hother.symm
  | updateLineStatus lineId status =>
      simp only at hexecute
      split at hexecute
      · cases hexecute
        exact wrote_of_same rfl rfl (fun _ => id) rfl fun _ _ => rfl
      · next line hfound =>
        cases hexecute
        have hid : line.id = lineId := Table.key_of_get? hfound
        subst hid
        exact wrote_of_writeLines fun other hother =>
          linesOf_update (Table.mem_of_get? hfound) (fun stored => { stored with status }) id
            (fun _ => rfl) hother.symm
  | deleteLine lineId =>
      simp only at hexecute
      split at hexecute
      · cases hexecute
        exact wrote_of_same rfl rfl (fun _ => id) rfl fun _ _ => rfl
      · next line hfound =>
        cases hexecute
        have hid : line.id = lineId := Table.key_of_get? hfound
        subst hid
        exact wrote_of_writeLines fun other hother =>
          linesOf_delete (Table.mem_of_get? hfound) hother.symm
  | writeTask orderId status =>
      cases hexecute
      cases hstarts : taskStartsProduction status with
      | true =>
          exact wrote_of_update (markStockConsumed true) id
            (fun order _ => rewrote_markStockConsumed _ true order) rfl rfl (fun _ => id) rfl
            fun _ _ => rfl
      | false => exact wrote_of_same rfl rfl (fun _ => id) rfl fun _ _ => rfl
  | insertProduct other remaining now =>
      obtain ⟨_, -, hexecute⟩ := bind_eq_ok.mp hexecute
      obtain ⟨products, hinsert, hsession⟩ := bind_eq_ok.mp hexecute
      cases hsession
      have hne : other ≠ key := fun hsame => hstock (congrArg some hsame)
      exact wrote_of_same (countedStock_of_insert? (orFail_eq_ok.mp hinsert) hne) rfl
        (fun _ => id) rfl fun _ _ => rfl
  | updateStock other remaining now =>
      obtain ⟨_, -, hsession⟩ := bind_eq_ok.mp hexecute
      cases hsession
      have hne : key ≠ other := fun hsame => hstock (congrArg some hsame.symm)
      exact wrote_of_same (countedStock_writeStock_of_ne hne remaining) rfl (fun _ => id) rfl
        fun _ _ => rfl
  | setConstraintsImmediate => cases hflush

end Statements

end Stallorder.StockSession
