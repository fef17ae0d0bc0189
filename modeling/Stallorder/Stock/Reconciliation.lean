import Stallorder.Stock.StockDatabase

/-!
# What a reconciliation does

The loop over the products of an order treats every product by itself: a turn
touches one stock row and one allocation, and what it makes of them depends on
nothing else.  From this the effect of a whole reconciliation on one product is
read off, and that a second reconciliation does nothing.
-/

namespace Stallorder.Reconciliation

open OrderContract StockDatabase Checks

/-! ## Reading and writing one key -/

section Keys

variable {products : Table ProductStock} {key other : ProductKey} {now : Timestamp}
  {remaining : ℤ} {stock : CountedStock}

theorem exists_of_countedStock (hcounted : countedStock products key = some stock) :
    ∃ row, products.get? key = some row ∧ row.counted = some stock :=
  Option.bind_eq_some_iff.mp hcounted

theorem countedStock_writeStock_of_ne (hne : other ≠ key) (remaining : Option ℤ) :
    countedStock (writeStock products key now remaining) other = countedStock products other := by
  unfold countedStock writeStock
  rw [Table.get?_update_of_ne _ collides_versionStallStock
    (fun row _ => versionStallStock_key now remaining row) hne]

/-- Another number of portions keeps the beginning of the counting. -/
theorem countedStock_writeStock (hcounted : countedStock products key = some stock) :
    countedStock (writeStock products key now (some remaining)) key
      = some { stock with stockRemaining := remaining } := by
  obtain ⟨row, hrow, hstock⟩ := exists_of_countedStock hcounted
  have hmem := Table.mem_of_get? hrow
  have hkey : row.key = key := Table.key_of_get? hrow
  have hwritten := Table.get?_update_self _ collides_versionStallStock hmem
    (versionStallStock_key now (some remaining) row)
  have hget : (writeStock products key now (some remaining)).get? key
      = some (versionStallStock now (some remaining) row) := by
    rw [← hkey]
    exact hwritten
  unfold countedStock
  rw [hget, Option.bind_some, versionStallStock, hstock]
  split
  · next hsame =>
    rw [Option.map_some, Option.some.injEq] at hsame
    rw [hstock, hsame]
  · rfl

end Keys

section Allocations

variable {allocations : Table StockAllocation} {productId other : Uuid}

theorem get?_setAllocation_self (allocation : StockAllocation) :
    (setAllocation allocations allocation).get? allocation.productId = some allocation := by
  unfold setAllocation
  split
  · next stored hstored =>
    have hmem := Table.mem_of_get? hstored
    have hkey : stored.productId = allocation.productId := Table.key_of_get? hstored
    have hwritten := Table.get?_update_self (replaceAllocation allocation) id hmem rfl
    have hreplaced : replaceAllocation allocation stored = allocation := by
      unfold replaceAllocation
      rw [hkey]
    rw [hreplaced] at hwritten
    rw [← hkey]
    exact hwritten
  · exact Table.get?_put_self allocations allocation

theorem get?_setAllocation_of_ne {allocation : StockAllocation}
    (hne : other ≠ allocation.productId) :
    (setAllocation allocations allocation).get? other = allocations.get? other := by
  unfold setAllocation
  split
  · exact Table.get?_update_of_ne (replaceAllocation allocation) id (fun _ _ => rfl) hne
  · exact Table.get?_put_of_ne hne

theorem setAllocation_eq_self {allocation : StockAllocation}
    (hstored : allocations.get? allocation.productId = some allocation) :
    setAllocation allocations allocation = allocations := by
  unfold setAllocation
  rw [hstored]
  refine Table.update_eq_self (replaceAllocation allocation) id fun row hrow hkey => ?_
  have hsame : row = allocation :=
    Table.eq_of_key_eq hrow (Table.mem_of_get? hstored) hkey
  rw [hsame]
  rfl

theorem get?_removed_self :
    (allocations.filter fun stored => stored.productId ≠ productId).get? productId = none := by
  rw [Table.get?_eq_none_iff]
  intro row hrow hkey
  have hkept := (Table.mem_filter.mp hrow).2
  exact of_decide_eq_true hkept hkey

theorem get?_removed_of_ne (hne : other ≠ productId) :
    (allocations.filter fun stored => stored.productId ≠ productId).get? other
      = allocations.get? other := by
  refine Table.get?_filter_of_keep fun row _ hkey => decide_eq_true ?_
  exact fun hsame => hne (hkey.symm.trans hsame)

theorem removed_eq_self (habsent : allocations.get? productId = none) :
    (allocations.filter fun stored => stored.productId ≠ productId) = allocations := by
  refine Table.filter_eq_self fun row hrow => decide_eq_true ?_
  exact Table.get?_eq_none_iff.mp habsent row hrow

end Allocations

/-! ## One turn of the loop -/

section Turn

variable {order : StockOrder} {fingerprint : Fingerprint} {state state' : Reconciling}
  {productId other : Uuid}

def productKey (order : StockOrder) (productId : Uuid) : ProductKey where
  organizationId := order.organizationId
  stallId := order.stallId
  productId := productId

/-- The allocation of a product that was taken from the current counting. -/
def heldOf (allocations : Table StockAllocation) (productId : Uuid) (epoch : Timestamp) :
    Option StockAllocation :=
  (allocations.get? productId).filter fun stored => stored.epoch = epoch

def previousOf (allocations : Table StockAllocation) (productId : Uuid) (epoch : Timestamp) :
    ℕ :=
  ((heldOf allocations productId epoch).map (·.quantity)).getD 0

/-- The order predates the counting and holds nothing of it. -/
def Predates (order : StockOrder) (allocations : Table StockAllocation) (productId : Uuid)
    (stock : CountedStock) : Prop :=
  heldOf allocations productId stock.stockStartedAt = none
    ∧ order.createdAt < stock.stockStartedAt

/-- The portions an order is to hold of a counted product. -/
def desiredOf (fingerprint : Fingerprint) (allocations : Table StockAllocation)
    (productId : Uuid) (stock : CountedStock) : ℕ :=
  desiredQuantity fingerprint (previousOf allocations productId stock.stockStartedAt)
    (quantityOf fingerprint.lines productId)

def deltaOf (fingerprint : Fingerprint) (allocations : Table StockAllocation)
    (productId : Uuid) (stock : CountedStock) : ℤ :=
  (desiredOf fingerprint allocations productId stock : ℤ)
    - previousOf allocations productId stock.stockStartedAt

/-- What one turn makes of its product. -/
inductive Turned (order : StockOrder) (fingerprint : Fingerprint) (state : Reconciling)
    (productId : Uuid) (state' : Reconciling) : Prop
  | unlimited (hcounted : countedStock state.products (productKey order productId) = none)
      (hproducts : countedStock state'.products (productKey order productId) = none)
      (hallocation : state'.allocations.get? productId = none)
  | predates (stock : CountedStock)
      (hcounted : countedStock state.products (productKey order productId) = some stock)
      (hpredates : Predates order state.allocations productId stock)
      (hproducts : countedStock state'.products (productKey order productId) = some stock)
      (hallocation : state'.allocations.get? productId = state.allocations.get? productId)
  | counted (stock : CountedStock)
      (hcounted : countedStock state.products (productKey order productId) = some stock)
      (hcurrent : ¬ Predates order state.allocations productId stock)
      (henough : deltaOf fingerprint state.allocations productId stock ≤ stock.stockRemaining)
      (hproducts : countedStock state'.products (productKey order productId) = some { stock with
        stockRemaining := stock.stockRemaining
          - deltaOf fingerprint state.allocations productId stock })
      (hallocation : state'.allocations.get? productId = some {
        productId := productId
        quantity := desiredOf fingerprint state.allocations productId stock
        epoch := stock.stockStartedAt })

/-- A turn leaves every other key alone. -/
structure OnlyTouches (order : StockOrder) (touched : List Uuid) (state state' : Reconciling) :
    Prop where
  products : ∀ key, (∀ productId ∈ touched, key ≠ productKey order productId) →
    countedStock state'.products key = countedStock state.products key
  allocations : ∀ productId, productId ∉ touched →
    state'.allocations.get? productId = state.allocations.get? productId

theorem OnlyTouches.refl (order : StockOrder) (state : Reconciling) :
    OnlyTouches order [] state state :=
  ⟨fun _ _ => rfl, fun _ _ => rfl⟩

theorem OnlyTouches.trans {first second third : Reconciling} {left right : List Uuid}
    (hfirst : OnlyTouches order left first second)
    (hsecond : OnlyTouches order right second third) :
    OnlyTouches order (left ++ right) first third where
  products key hkey := (hsecond.products key fun productId hmem =>
      hkey productId (List.mem_append_right left hmem)).trans
    (hfirst.products key fun productId hmem => hkey productId (List.mem_append_left right hmem))
  allocations productId hproduct := by
    rw [List.mem_append, not_or] at hproduct
    exact (hsecond.allocations productId hproduct.2).trans
      (hfirst.allocations productId hproduct.1)

theorem predates_iff {stock : CountedStock} :
    ((heldOf state.allocations productId stock.stockStartedAt).isNone
        && decide (order.createdAt < stock.stockStartedAt)) = true
      ↔ Predates order state.allocations productId stock := by
  rw [Bool.and_eq_true, Option.isNone_iff_eq_none, decide_eq_true_eq]
  rfl

/-- The turn, with what it reads named. -/
theorem reconcileProduct_eq (order : StockOrder) (fingerprint : Fingerprint)
    (state : Reconciling) (productId : Uuid) :
    reconcileProduct order fingerprint state productId
      = match countedStock state.products (productKey order productId) with
        | none => .ok { state with
            allocations := state.allocations.filter fun stored => stored.productId ≠ productId }
        | some stock =>
            if (heldOf state.allocations productId stock.stockStartedAt).isNone
                && decide (order.createdAt < stock.stockStartedAt) then .ok state
            else if stock.stockRemaining < deltaOf fingerprint state.allocations productId stock
              then .error .stockInsufficient
            else .ok {
              products :=
                if deltaOf fingerprint state.allocations productId stock = 0 then state.products
                else writeStock state.products (productKey order productId) stock.stockStartedAt
                  (some (stock.stockRemaining
                    - deltaOf fingerprint state.allocations productId stock))
              allocations := setAllocation state.allocations {
                productId
                quantity := desiredOf fingerprint state.allocations productId stock
                epoch := stock.stockStartedAt } } := by
  unfold reconcileProduct
  change (match countedStock state.products (productKey order productId) with
    | none => _
    | some stock => _) = _
  cases hcounted : countedStock state.products (productKey order productId) with
  | none => rfl
  | some stock =>
      simp only
      change (if (heldOf state.allocations productId stock.stockStartedAt).isNone
        && decide (order.createdAt < stock.stockStartedAt) then _ else _) = _
      split
      · rfl
      · by_cases hshort : stock.stockRemaining
            < deltaOf fingerprint state.allocations productId stock
        · rw [if_pos hshort]
          change (failWhen (decide (stock.stockRemaining
            < deltaOf fingerprint state.allocations productId stock)) _ >>= _) = _
          rw [decide_eq_true hshort]
          rfl
        · rw [if_neg hshort]
          change (failWhen (decide (stock.stockRemaining
            < deltaOf fingerprint state.allocations productId stock)) _ >>= _) = _
          rw [decide_eq_false hshort]
          rfl

theorem productKey_ne (hne : other ≠ productId) :
    productKey order other ≠ productKey order productId :=
  fun hkey => hne (congrArg ProductKey.productId hkey)

theorem turned_of_reconcileProduct
    (hturn : reconcileProduct order fingerprint state productId = .ok state') :
    Turned order fingerprint state productId state'
      ∧ OnlyTouches order [productId] state state' := by
  rw [reconcileProduct_eq] at hturn
  cases hcounted : countedStock state.products (productKey order productId) with
  | none =>
      rw [hcounted] at hturn
      cases hturn
      refine ⟨.unlimited hcounted hcounted get?_removed_self, fun _ _ => rfl, ?_⟩
      exact fun other hother => get?_removed_of_ne fun hsame =>
      hother (hsame ▸ List.mem_singleton_self _)
  | some stock =>
      rw [hcounted] at hturn
      simp only at hturn
      split at hturn
      · next hold =>
        cases hturn
        exact ⟨.predates stock hcounted (predates_iff.mp hold) hcounted rfl,
          fun _ _ => rfl, fun _ _ => rfl⟩
      · next hcurrent =>
        split at hturn
        · cases hturn
        · next henough =>
          cases hturn
          refine ⟨.counted stock hcounted (fun hpredates => hcurrent (predates_iff.mpr hpredates))
            (not_lt.mp henough) ?_ (get?_setAllocation_self _), ?_, ?_⟩
          · simp only
            split
            · next hzero => rw [hcounted, hzero, sub_zero]
            · exact countedStock_writeStock hcounted
          · intro key hkey
            have hne := hkey productId (List.mem_singleton_self _)
            simp only
            split
            · rfl
            · exact countedStock_writeStock_of_ne hne _
          · exact fun other hother => get?_setAllocation_of_ne fun hsame =>
              hother (hsame ▸ List.mem_singleton_self _)

/-- A turn is refused exactly when it would take the stock below zero. -/
theorem reconcileProduct_eq_error {error : StockError} :
    reconcileProduct order fingerprint state productId = .error error ↔
      error = .stockInsufficient ∧ ∃ stock,
        countedStock state.products (productKey order productId) = some stock
          ∧ ¬ Predates order state.allocations productId stock
          ∧ stock.stockRemaining - deltaOf fingerprint state.allocations productId stock < 0 := by
  rw [reconcileProduct_eq]
  cases hcounted : countedStock state.products (productKey order productId) with
  | none =>
      constructor
      · intro hturn
        cases hturn
      · rintro ⟨-, stock, hstock, -⟩
        cases hstock
  | some stock =>
      simp only
      constructor
      · intro hturn
        split at hturn
        · cases hturn
        · next hcurrent =>
          split at hturn
          · next hshort =>
            cases hturn
            exact ⟨rfl, stock, rfl, fun hpredates => hcurrent (predates_iff.mpr hpredates),
              sub_neg.mpr hshort⟩
          · cases hturn
      · rintro ⟨rfl, found, hfound, hcurrent, hshort⟩
        cases hfound
        rw [if_neg fun hold => hcurrent (predates_iff.mp hold), if_pos (sub_neg.mp hshort)]

/-- A turn depends on what it reads only. -/
theorem Turned.of_same {first second : Reconciling}
    (hproducts : countedStock first.products (productKey order productId)
      = countedStock second.products (productKey order productId))
    (hallocation : first.allocations.get? productId = second.allocations.get? productId)
    (hturned : Turned order fingerprint second productId state') :
    Turned order fingerprint first productId state' := by
  have hheld : ∀ epoch, heldOf first.allocations productId epoch
      = heldOf second.allocations productId epoch := fun epoch => by
    unfold heldOf
    rw [hallocation]
  have hprevious : ∀ epoch, previousOf first.allocations productId epoch
      = previousOf second.allocations productId epoch := fun epoch => by
    unfold previousOf
    rw [hheld]
  have hdesired : ∀ stock, desiredOf fingerprint first.allocations productId stock
      = desiredOf fingerprint second.allocations productId stock := fun stock => by
    unfold desiredOf
    rw [hprevious]
  have hdelta : ∀ stock, deltaOf fingerprint first.allocations productId stock
      = deltaOf fingerprint second.allocations productId stock := fun stock => by
    unfold deltaOf
    rw [hdesired, hprevious]
  have hpredates : ∀ stock, Predates order first.allocations productId stock
      ↔ Predates order second.allocations productId stock := fun stock => by
    unfold Predates
    rw [hheld]
  cases hturned with
  | unlimited hcounted hproducts' hallocation' =>
      exact .unlimited (hproducts.trans hcounted) hproducts' hallocation'
  | predates stock hcounted hold hproducts' hallocation' =>
      exact .predates stock (hproducts.trans hcounted) ((hpredates stock).mpr hold) hproducts'
        (hallocation'.trans hallocation.symm)
  | counted stock hcounted hcurrent henough hproducts' hallocation' =>
      refine .counted stock (hproducts.trans hcounted)
        (fun hold => hcurrent ((hpredates stock).mp hold)) ?_ ?_ ?_
      · rw [hdelta]
        exact henough
      · rw [hdelta]
        exact hproducts'
      · rw [hdesired]
        exact hallocation'

theorem Turned.then_same {first second : Reconciling}
    (hturned : Turned order fingerprint state productId first)
    (hproducts : countedStock second.products (productKey order productId)
      = countedStock first.products (productKey order productId))
    (hallocation : second.allocations.get? productId = first.allocations.get? productId) :
    Turned order fingerprint state productId second := by
  cases hturned with
  | unlimited hcounted hproducts' hallocation' =>
      exact .unlimited hcounted (hproducts.trans hproducts') (hallocation.trans hallocation')
  | predates stock hcounted hold hproducts' hallocation' =>
      exact .predates stock hcounted hold (hproducts.trans hproducts')
        (hallocation.trans hallocation')
  | counted stock hcounted hcurrent henough hproducts' hallocation' =>
      exact .counted stock hcounted hcurrent henough (hproducts.trans hproducts')
        (hallocation.trans hallocation')

end Turn

/-! ## The loop -/

section Loop

variable {order : StockOrder} {fingerprint : Fingerprint} {state state' : Reconciling}
  {productIds : List Uuid} {productId : Uuid}

/-- The loop touches the products it runs over only, and makes of each of them
what a turn makes of it. -/
theorem turned_of_loop (hnodup : productIds.Nodup)
    (hloop : productIds.foldlM (reconcileProduct order fingerprint) state = .ok state') :
    OnlyTouches order productIds state state'
      ∧ ∀ productId ∈ productIds, Turned order fingerprint state productId state' := by
  induction productIds generalizing state with
  | nil =>
      cases hloop
      exact ⟨OnlyTouches.refl order _, fun productId hmem => absurd hmem List.not_mem_nil⟩
  | cons head tail ih =>
      obtain ⟨next, hturn, hrest⟩ := foldlM_cons_eq_ok.mp hloop
      obtain ⟨hturned, htouches⟩ := turned_of_reconcileProduct hturn
      rw [List.nodup_cons] at hnodup
      obtain ⟨hrestTouches, hrestTurned⟩ := ih hnodup.2 hrest
      refine ⟨htouches.trans hrestTouches, fun productId hmem => ?_⟩
      rcases List.mem_cons.mp hmem with rfl | htail
      · exact hturned.then_same
          (hrestTouches.products _ fun other hother => productKey_ne fun hsame =>
            hnodup.1 (hsame ▸ hother))
          (hrestTouches.allocations _ hnodup.1)
      · have hne : productId ≠ head := fun hsame => hnodup.1 (hsame ▸ htail)
        refine (hrestTurned productId htail).of_same ?_ ?_
        · exact (htouches.products _ fun other hother => productKey_ne fun hsame =>
            hne (hsame.trans (List.mem_singleton.mp hother))).symm
        · exact (htouches.allocations _ fun hother => hne (List.mem_singleton.mp hother)).symm

/-! ## A second reconciliation -/

/-- A product that the loop has nothing to do for. -/
def Fixed (order : StockOrder) (fingerprint : Fingerprint) (state : Reconciling)
    (productId : Uuid) : Prop :=
  match countedStock state.products (productKey order productId) with
  | none => state.allocations.get? productId = none
  | some stock => Predates order state.allocations productId stock
      ∨ (0 ≤ stock.stockRemaining ∧ state.allocations.get? productId = some {
          productId := productId
          quantity := desiredOf fingerprint state.allocations productId stock
          epoch := stock.stockStartedAt })

theorem desiredQuantity_idem (fingerprint : Fingerprint) (previous quantity : ℕ) :
    desiredQuantity fingerprint (desiredQuantity fingerprint previous quantity) quantity
      = desiredQuantity fingerprint previous quantity := by
  unfold desiredQuantity
  split
  · split <;> rfl
  · split
    · exact max_eq_left (le_max_right previous quantity)
    · rfl

theorem previousOf_of_get? {allocations : Table StockAllocation} {quantity : ℕ}
    {epoch : Timestamp} (hallocation : allocations.get? productId = some {
      productId := productId, quantity := quantity, epoch := epoch }) :
    previousOf allocations productId epoch = quantity := by
  unfold previousOf heldOf
  rw [hallocation]
  simp [Option.filter]

theorem Turned.fixed (hturned : Turned order fingerprint state productId state') :
    Fixed order fingerprint state' productId := by
  unfold Fixed
  cases hturned with
  | unlimited hcounted hproducts hallocation =>
      rw [hproducts]
      exact hallocation
  | predates stock hcounted hold hproducts hallocation =>
      rw [hproducts]
      refine Or.inl ⟨?_, hold.2⟩
      unfold heldOf
      rw [hallocation]
      exact hold.1
  | counted stock hcounted hcurrent henough hproducts hallocation =>
      rw [hproducts]
      refine Or.inr ⟨sub_nonneg.mpr henough, ?_⟩
      have hprevious := previousOf_of_get? hallocation
      have hdesired : desiredOf fingerprint state'.allocations productId { stock with
          stockRemaining := stock.stockRemaining
            - deltaOf fingerprint state.allocations productId stock }
          = desiredOf fingerprint state.allocations productId stock := by
        unfold desiredOf
        rw [hprevious]
        exact desiredQuantity_idem _ _ _
      rw [hdesired]
      exact hallocation

/-- For such a product a turn does nothing. -/
theorem Fixed.reconcileProduct (hfixed : Fixed order fingerprint state productId) :
    StockDatabase.reconcileProduct order fingerprint state productId = .ok state := by
  unfold Fixed at hfixed
  rw [reconcileProduct_eq]
  cases hcounted : countedStock state.products (productKey order productId) with
  | none =>
      rw [hcounted] at hfixed
      simp only
      rw [removed_eq_self hfixed]
  | some stock =>
      rw [hcounted] at hfixed
      simp only
      rcases hfixed with hold | ⟨hnonneg, hallocation⟩
      · rw [if_pos (predates_iff.mpr hold)]
      · have hprevious := previousOf_of_get? hallocation
        have hdelta : deltaOf fingerprint state.allocations productId stock = 0 := by
          unfold deltaOf
          rw [hprevious, sub_self]
        have hheld : heldOf state.allocations productId stock.stockStartedAt ≠ none := by
          unfold heldOf
          rw [hallocation]
          simp [Option.filter]
        rw [if_neg fun hold => hheld (predates_iff.mp hold).1, hdelta, if_neg (not_lt.mpr hnonneg),
          if_pos rfl, setAllocation_eq_self hallocation]

theorem loop_of_fixed (hfixed : ∀ productId ∈ productIds, Fixed order fingerprint state productId) :
    productIds.foldlM (reconcileProduct order fingerprint) state = .ok state := by
  induction productIds with
  | nil => rfl
  | cons head tail ih =>
      refine foldlM_cons_eq_ok.mpr ⟨state, (hfixed head List.mem_cons_self).reconcileProduct, ?_⟩
      exact ih fun productId hmem => hfixed productId (List.mem_cons_of_mem _ hmem)

end Loop

end Stallorder.Reconciliation
