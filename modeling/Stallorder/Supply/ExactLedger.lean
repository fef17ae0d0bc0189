import Stallorder.Core.Run
import Stallorder.Supply.SupplyService

/-!
# The exact supply ledger

The balance of a place is the sum of its movements, and its average unit cost
stays between the costs that its receipts carried.  Both are kept by the one
statement sequence that records a movement, so they are kept by every command.
A submission that is accepted is stored as it was sent, and one whose key is
used records nothing more.
-/

namespace Stallorder.ExactLedger

open OrderContract Checks SupplyDatabase SupplyService Run

/-! ## Recording a movement -/

/-- The deltas of the movements at a place. -/
def deltaSum (ledger : SupplyLedger) (place : SupplyPlace) : ℤ :=
  ledger.movements.total fun movement =>
    if movement.place = place then movement.quantityDeltaMicros else 0

/-- A movement that has increased the stock of a place. -/
structure IsReceipt (ledger : SupplyLedger) (place : SupplyPlace) (movement : SupplyMovement) :
    Prop where
  mem : movement ∈ ledger.movements
  place_eq : movement.place = place
  increases : 0 < movement.quantityDeltaMicros

section Recording

variable {ledger ledger' : SupplyLedger} {movement : SupplyMovement}

theorem recordMovement_eq_ok (hrecord : recordMovement ledger movement = .ok ledger') :
    ledger.movements.insert? movement = some ledger'.movements
      ∧ ledger.balances.put? (movedBalance ledger movement) = some ledger'.balances := by
  obtain ⟨movements, hmovements, hrest⟩ := bind_eq_ok.mp hrecord
  obtain ⟨balances, hbalances, hdone⟩ := bind_eq_ok.mp hrest
  cases hdone
  exact ⟨insertRow_eq_ok.mp hmovements, orFail_eq_ok.mp hbalances⟩

theorem balance_of_record (hrecord : recordMovement ledger movement = .ok ledger')
    (place : SupplyPlace) : ledger'.balances.get? place
      = if place = movement.place then some (movedBalance ledger movement)
        else ledger.balances.get? place :=
  CheckedTable.get?_of_put? (recordMovement_eq_ok hrecord).2 place

theorem quantityAt_of_record (hrecord : recordMovement ledger movement = .ok ledger')
    (place : SupplyPlace) : ledger'.quantityAt place
      = ledger.quantityAt place
        + if movement.place = place then movement.quantityDeltaMicros else 0 := by
  rw [SupplyLedger.quantityAt, balance_of_record hrecord]
  by_cases hplace : movement.place = place
  · rw [if_pos hplace.symm, if_pos hplace, ← hplace]
    rfl
  · rw [if_neg (Ne.symm hplace), if_neg hplace, add_zero]
    rfl

theorem averageUnitCostAt_of_record (hrecord : recordMovement ledger movement = .ok ledger')
    {place : SupplyPlace} (hplace : movement.place = place) :
    ledger'.averageUnitCostAt place
      = calculateAverageUnitCost (ledger.quantityAt place) (ledger.averageUnitCostAt place)
        movement.quantityDeltaMicros movement.unitCostMicros := by
  rw [SupplyLedger.averageUnitCostAt, balance_of_record hrecord, if_pos hplace.symm, ← hplace]
  rfl

theorem averageUnitCostAt_of_record_ne (hrecord : recordMovement ledger movement = .ok ledger')
    {place : SupplyPlace} (hplace : movement.place ≠ place) :
    ledger'.averageUnitCostAt place = ledger.averageUnitCostAt place := by
  rw [SupplyLedger.averageUnitCostAt, balance_of_record hrecord, if_neg (Ne.symm hplace)]
  rfl

theorem deltaSum_of_record (hrecord : recordMovement ledger movement = .ok ledger')
    (place : SupplyPlace) : deltaSum ledger' place
      = deltaSum ledger place
        + if movement.place = place then movement.quantityDeltaMicros else 0 :=
  CheckedTable.total_insert? _ (recordMovement_eq_ok hrecord).1

theorem isReceipt_of_record (hrecord : recordMovement ledger movement = .ok ledger')
    {place : SupplyPlace} {stored : SupplyMovement} :
    IsReceipt ledger' place stored ↔ IsReceipt ledger place stored
      ∨ (stored = movement ∧ movement.place = place ∧ 0 < movement.quantityDeltaMicros) := by
  have hmem : stored ∈ ledger'.movements ↔ stored ∈ ledger.movements ∨ stored = movement :=
    CheckedTable.mem_of_insert? (recordMovement_eq_ok hrecord).1
  constructor
  · rintro ⟨hstored, hplace, hpos⟩
    rcases hmem.mp hstored with hbefore | rfl
    · exact Or.inl ⟨hbefore, hplace, hpos⟩
    · exact Or.inr ⟨rfl, hplace, hpos⟩
  · rintro (⟨hbefore, hplace, hpos⟩ | ⟨rfl, hplace, hpos⟩)
    · exact ⟨hmem.mpr (Or.inl hbefore), hplace, hpos⟩
    · exact ⟨hmem.mpr (Or.inr rfl), hplace, hpos⟩

end Recording

/-! ## The invariant of the ledger -/

/-- The average unit cost of a place is between the costs of two of its receipts, when all its
receipts carry one. -/
def AverageBounded (ledger : SupplyLedger) (place : SupplyPlace) : Prop :=
  (∀ movement, IsReceipt ledger place movement → movement.unitCostMicros ≠ none) →
    (∃ movement, IsReceipt ledger place movement) →
      (∃ low lowCost, IsReceipt ledger place low ∧ low.unitCostMicros = some lowCost
        ∧ lowCost ≤ ledger.averageUnitCostAt place)
      ∧ ∃ high highCost, IsReceipt ledger place high ∧ high.unitCostMicros = some highCost
        ∧ ledger.averageUnitCostAt place ≤ highCost

structure ExactAt (ledger : SupplyLedger) (place : SupplyPlace) : Prop where
  quantity : ledger.quantityAt place = deltaSum ledger place
  average : AverageBounded ledger place

theorem exactAt_empty (place : SupplyPlace) : ExactAt .empty place where
  quantity := rfl
  average := by
    rintro - ⟨movement, hreceipt⟩
    exact absurd hreceipt.mem (CheckedTable.notMem_empty movement)

/-- Stock that is left was received. -/
theorem exists_isReceipt {ledger : SupplyLedger} {place : SupplyPlace}
    (hpos : 0 < deltaSum ledger place) : ∃ movement, IsReceipt ledger place movement := by
  by_contra hnone
  push Not at hnone
  have hnonneg : 0 ≤ ledger.movements.total fun movement =>
      if movement.place = place then -movement.quantityDeltaMicros else 0 := by
    apply CheckedTable.total_nonneg
    intro movement hmovement
    by_cases hplace : movement.place = place
    · rw [if_pos hplace]
      have hnot : ¬ 0 < movement.quantityDeltaMicros := fun hincreases =>
        hnone movement ⟨hmovement, hplace, hincreases⟩
      omega
    · rw [if_neg hplace]
  have hsum : (ledger.movements.total fun movement =>
      if movement.place = place then -movement.quantityDeltaMicros else 0)
        + deltaSum ledger place = 0 := by
    unfold deltaSum
    change ledger.movements.table.total _ + ledger.movements.table.total _ = 0
    rw [← Table.total_add]
    apply Table.total_eq_zero
    intro movement _
    split <;> ring
  omega

theorem calculateAverageUnitCost_of_le {previous average incoming : ℤ} {cost : Option ℤ}
    (hincoming : incoming ≤ 0) : calculateAverageUnitCost previous average incoming cost
      = average := by
  cases cost with
  | none => rfl
  | some cost => exact if_pos hincoming

theorem calculateAverageUnitCost_of_pos {previous average incoming cost : ℤ}
    (hincoming : 0 < incoming) : calculateAverageUnitCost previous average incoming (some cost)
      = WeightedMean.weightedMean (max previous 0) average incoming cost := by
  have hcombined : max previous 0 + incoming ≠ 0 := by omega
  rw [calculateAverageUnitCost, if_neg (not_le.mpr hincoming), if_neg hcombined]

/-- A receipt moves the average towards its own cost. -/
theorem averageBounded_of_receipt {ledger ledger' : SupplyLedger} {movement : SupplyMovement}
    (hrecord : recordMovement ledger movement = .ok ledger')
    (hexact : ExactAt ledger movement.place) (hpos : 0 < movement.quantityDeltaMicros) :
    AverageBounded ledger' movement.place := by
  intro hcosts _
  have hreceipt : ∀ stored, IsReceipt ledger movement.place stored →
      IsReceipt ledger' movement.place stored := fun stored hstored =>
    (isReceipt_of_record hrecord).mpr (Or.inl hstored)
  have hnew : IsReceipt ledger' movement.place movement :=
    (isReceipt_of_record hrecord).mpr (Or.inr ⟨rfl, rfl, hpos⟩)
  obtain ⟨cost, hcost⟩ := Option.ne_none_iff_exists'.mp (hcosts movement hnew)
  have haverage : ledger'.averageUnitCostAt movement.place
      = WeightedMean.weightedMean (max (ledger.quantityAt movement.place) 0)
        (ledger.averageUnitCostAt movement.place) movement.quantityDeltaMicros cost := by
    rw [averageUnitCostAt_of_record hrecord rfl, hcost, calculateAverageUnitCost_of_pos hpos]
  by_cases hbefore : ∃ stored, IsReceipt ledger movement.place stored
  · obtain ⟨⟨low, lowCost, hlow, hlowCost, hle⟩, ⟨high, highCost, hhigh, hhighCost, hge⟩⟩ :=
      hexact.average (fun stored hstored => hcosts stored (hreceipt stored hstored)) hbefore
    rw [haverage]
    constructor
    · rcases le_total lowCost cost with hsmaller | hlarger
      · exact ⟨low, lowCost, hreceipt low hlow, hlowCost,
          WeightedMean.le_weightedMean (le_max_right _ _) hpos hle hsmaller⟩
      · exact ⟨movement, cost, hnew, hcost,
          WeightedMean.le_weightedMean (le_max_right _ _) hpos (hlarger.trans hle) (le_refl _)⟩
    · rcases le_total cost highCost with hsmaller | hlarger
      · exact ⟨high, highCost, hreceipt high hhigh, hhighCost,
          WeightedMean.weightedMean_le (le_max_right _ _) hpos hge hsmaller⟩
      · exact ⟨movement, cost, hnew, hcost,
          WeightedMean.weightedMean_le (le_max_right _ _) hpos (hge.trans hlarger) (le_refl _)⟩
  · have hempty : max (ledger.quantityAt movement.place) 0 = 0 := by
      have hnot : ¬ 0 < deltaSum ledger movement.place := fun hstock =>
        hbefore (exists_isReceipt hstock)
      rw [hexact.quantity]
      omega
    rw [hempty, WeightedMean.weightedMean_zero_left hpos] at haverage
    exact ⟨⟨movement, cost, hnew, hcost, haverage.ge⟩, ⟨movement, cost, hnew, hcost, haverage.le⟩⟩

/-- Where the receipts and the average stay, the average stays bounded. -/
theorem averageBounded_congr {ledger ledger' : SupplyLedger} {place : SupplyPlace}
    (hreceipts : ∀ movement, IsReceipt ledger' place movement ↔ IsReceipt ledger place movement)
    (haverage : ledger'.averageUnitCostAt place = ledger.averageUnitCostAt place)
    (hbounded : AverageBounded ledger place) : AverageBounded ledger' place := by
  unfold AverageBounded
  simp only [hreceipts, haverage]
  exact hbounded

theorem exactAt_of_record {ledger ledger' : SupplyLedger} {movement : SupplyMovement}
    (hrecord : recordMovement ledger movement = .ok ledger') {place : SupplyPlace}
    (hexact : ExactAt ledger place) : ExactAt ledger' place where
  quantity := by
    rw [quantityAt_of_record hrecord, deltaSum_of_record hrecord, hexact.quantity]
  average := by
    by_cases hplace : movement.place = place
    · subst hplace
      rcases lt_or_ge 0 movement.quantityDeltaMicros with hpos | hle
      · exact averageBounded_of_receipt hrecord hexact hpos
      · refine averageBounded_congr (fun stored => ?_) ?_ hexact.average
        · rw [isReceipt_of_record hrecord]
          exact or_iff_left fun ⟨_, _, hpos⟩ => absurd hpos (not_lt.mpr hle)
        · rw [averageUnitCostAt_of_record hrecord rfl, calculateAverageUnitCost_of_le hle]
    · refine averageBounded_congr (fun stored => ?_) ?_ hexact.average
      · rw [isReceipt_of_record hrecord]
        exact or_iff_left fun ⟨_, hsame, _⟩ => hplace hsame
      · exact averageUnitCostAt_of_record_ne hrecord hplace

/-! ## Every command keeps the ledger exact -/

def Exact (db : SupplyDb) : Prop :=
  ∀ place, ExactAt db.ledger place

theorem postNewMovement_eq_ok {db : SupplyDb} {scope : SupplyScope} {movementId : Uuid}
    {command : MovementCommand} {result : SupplyDb × SupplyMovement}
    (hpost : postNewMovement db scope movementId command = .ok result) :
    ∃ ingredient ledger lots,
      activeIngredient db scope.organizationId command.ingredientId = some ingredient
      ∧ recordMovement db.ledger (postedMovement scope movementId command) = .ok ledger
      ∧ lotsAfterMovement db.lots ingredient (postedMovement scope movementId command) = .ok lots
      ∧ result = ({ db with ledger, lots }, postedMovement scope movementId command) := by
  obtain ⟨ingredient, hingredient, hrest⟩ := bind_eq_ok.mp hpost
  obtain ⟨-, -, hwrites⟩ := bind_eq_ok.mp hrest
  obtain ⟨ledger, hledger, hlotsRest⟩ := bind_eq_ok.mp hwrites
  obtain ⟨lots, hlots, hdone⟩ := bind_eq_ok.mp hlotsRest
  cases hdone
  exact ⟨ingredient, ledger, lots, orFail_eq_ok.mp hingredient, hledger, hlots, rfl⟩

theorem postMovement_eq_ok {db : SupplyDb} {scope : SupplyScope} {movementId : Uuid}
    {command : MovementCommand} {result : SupplyDb × SupplyMovement}
    (hpost : postMovement db scope movementId command = .ok result) :
    (movementWithKey db.ledger scope.organizationId command.idempotencyKey = some result.2
        ∧ movementPayloadMatches result.2 command = true ∧ result.1 = db)
      ∨ (movementWithKey db.ledger scope.organizationId command.idempotencyKey = none
        ∧ postNewMovement db scope movementId command = .ok result) := by
  obtain ⟨location, -, hrest⟩ := bind_eq_ok.mp hpost
  obtain ⟨-, -, hmatch⟩ := bind_eq_ok.mp hrest
  cases hexisting : movementWithKey db.ledger scope.organizationId command.idempotencyKey with
  | none =>
      rw [hexisting] at hmatch
      exact Or.inr ⟨rfl, hmatch⟩
  | some existing =>
      rw [hexisting] at hmatch
      obtain ⟨⟨⟩, hpayload, hdone⟩ := bind_eq_ok.mp hmatch
      cases hdone
      rw [failWhen_eq_ok, Bool.not_eq_false'] at hpayload
      exact Or.inl ⟨rfl, hpayload, rfl⟩

theorem receiveLine_eq_ok {scope : SupplyScope} {ids : PurchaseIds} {now : Timestamp}
    {documentNumber : Text} {db db' : SupplyDb} {priced : (PurchaseLine × ℤ) × ℕ}
    (hreceive : receiveLine scope ids now documentNumber db priced = .ok db') :
    ∃ purchaseOrderLines ledger lots,
      recordMovement db.ledger (purchaseMovement scope ids.orderId (ids.line priced.2).movementId
        priced.2 documentNumber priced.1.1) = .ok ledger
      ∧ receiveLot db.lots scope (ids.line priced.2) now priced.1.1 = .ok lots
      ∧ db' = { db with purchaseOrderLines, ledger, lots } := by
  obtain ⟨purchaseOrderLines, -, hrest⟩ := bind_eq_ok.mp hreceive
  obtain ⟨ledger, hledger, hlotsRest⟩ := bind_eq_ok.mp hrest
  obtain ⟨lots, hlots, hdone⟩ := bind_eq_ok.mp hlotsRest
  cases hdone
  exact ⟨purchaseOrderLines, ledger, lots, hledger, hlots, rfl⟩

theorem receivePurchase_eq_ok {db db' : SupplyDb} {scope : SupplyScope} {ids : PurchaseIds}
    {now : Timestamp} {command : PurchaseCommand}
    (hreceive : receivePurchase db scope ids now command = .ok db') :
    ∃ priced purchaseOrders, checkPurchase db scope command = .ok ()
      ∧ command.lines.mapM priceLine = .ok priced
      ∧ db.purchaseOrders.insert? (purchaseOrderRow scope ids.orderId now command
        (priced.map (·.2)).sum) = some purchaseOrders
      ∧ priced.zipIdx.foldlM (receiveLine scope ids now command.documentNumber)
        { db with purchaseOrders } = .ok db' := by
  obtain ⟨⟨⟩, hcheck, hrest⟩ := bind_eq_ok.mp hreceive
  obtain ⟨priced, hpriced, horderRest⟩ := bind_eq_ok.mp hrest
  obtain ⟨purchaseOrders, horders, hlines⟩ := bind_eq_ok.mp horderRest
  exact ⟨priced, purchaseOrders, hcheck, hpriced, insertRow_eq_ok.mp horders, hlines⟩

theorem updateIngredient_eq_ok {db db' : SupplyDb} {scope : SupplyScope}
    {command : IngredientCommand} (hupdate : updateIngredient db scope command = .ok db') :
    ∃ ingredient ingredients,
      activeIngredient db scope.organizationId command.ingredientId = some ingredient
      ∧ (ingredient.trackExpiry = command.trackExpiry
        ∨ trackingLocked db scope.organizationId ingredient.id = false)
      ∧ db.ingredients.updateWhere? (fun row => Indexed.key row = ingredient.id)
        (changedIngredient command) = some ingredients
      ∧ db' = { db with ingredients } := by
  obtain ⟨ingredient, hingredient, hrest⟩ := bind_eq_ok.mp hupdate
  obtain ⟨-, -, hrest⟩ := bind_eq_ok.mp hrest
  obtain ⟨-, -, hrest⟩ := bind_eq_ok.mp hrest
  obtain ⟨⟨⟩, htracking, hrest⟩ := bind_eq_ok.mp hrest
  obtain ⟨-, -, hrest⟩ := bind_eq_ok.mp hrest
  obtain ⟨ingredients, hingredients, hdone⟩ := bind_eq_ok.mp hrest
  cases hdone
  refine ⟨ingredient, ingredients, orFail_eq_ok.mp hingredient, ?_, orFail_eq_ok.mp hingredients,
    rfl⟩
  rw [failWhen_eq_ok, Bool.and_eq_false_iff, decide_eq_false_iff_not, not_not] at htracking
  exact htracking

theorem exact_step {db : SupplyDb} (request : SupplyRequest) (hexact : Exact db) :
    Exact (step db request) := by
  unfold step
  split
  · cases happly : applySupplyCommand db request with
    | error error => exact hexact
    | ok db' =>
        change Exact db'
        obtain ⟨-, -, hcommand⟩ := bind_eq_ok.mp happly
        cases hkind : request.command with
        | postMovement movementId command =>
            rw [hkind] at hcommand
            obtain ⟨result, hpost, rfl⟩ := exists_of_map_eq_ok hcommand
            rcases postMovement_eq_ok hpost with ⟨-, -, hsame⟩ | ⟨-, hnew⟩
            · exact hsame ▸ hexact
            · obtain ⟨ingredient, ledger, lots, -, hledger, -, rfl⟩ := postNewMovement_eq_ok hnew
              exact fun place => exactAt_of_record hledger (hexact place)
        | receivePurchase ids command =>
            rw [hkind] at hcommand
            obtain ⟨priced, purchaseOrders, -, -, -, hlines⟩ := receivePurchase_eq_ok hcommand
            have hstart : Exact { db with purchaseOrders } := hexact
            refine foldlM_invariant Exact ?_ hstart hlines
            intro line _ state next hstate hline
            obtain ⟨purchaseOrderLines, ledger, lots, hledger, -, rfl⟩ := receiveLine_eq_ok hline
            exact fun place => exactAt_of_record hledger (hstate place)
        | updateIngredient command =>
            rw [hkind] at hcommand
            obtain ⟨ingredient, ingredients, -, -, -, rfl⟩ := updateIngredient_eq_ok hcommand
            exact hexact
  · exact hexact

/-! ## Repeated submissions -/

/-- The movement of a key is found by it. -/
theorem movementWithKey_of_mem {ledger : SupplyLedger} {movement : SupplyMovement}
    (hmovement : movement ∈ ledger.movements) :
    movementWithKey ledger movement.place.organizationId movement.idempotencyKey
      = some movement := by
  cases hfound : movementWithKey ledger movement.place.organizationId movement.idempotencyKey with
  | none =>
      have hnone := List.find?_eq_none.mp hfound movement hmovement
      simp at hnone
  | some found =>
      obtain ⟨hmem, hsame⟩ := CheckedTable.mem_of_findFirst hfound
      rw [Bool.and_eq_true, decide_eq_true_eq, decide_eq_true_eq] at hsame
      have hcollides : Indexed.collides found movement :=
        Indexed.collides_addUnique_iff.mpr (Or.inr
          ⟨(movement.place.organizationId, movement.idempotencyKey), by rw [hsame.1, hsame.2], rfl⟩)
      rw [CheckedTable.eq_of_collides hmem hmovement hcollides]

/-- A key that is used is answered with its movement, when the payload is the same, and refused
otherwise. -/
theorem postMovement_of_key {db : SupplyDb} {scope : SupplyScope} (movementId : Uuid)
    {command : MovementCommand} {existing : SupplyMovement}
    (hexisting : existing ∈ db.ledger.movements)
    (hscope : existing.place.organizationId = scope.organizationId)
    (hkey : existing.idempotencyKey = command.idempotencyKey) :
    postMovement db scope movementId command
        = (if movementPayloadMatches existing command then .ok (db, existing)
          else .error .idempotencyConflict)
      ∨ postMovement db scope movementId command = .error .locationNotFound
      ∨ postMovement db scope movementId command = .error .scopeDenied := by
  have hfound := movementWithKey_of_mem hexisting
  rw [hscope, hkey] at hfound
  unfold postMovement
  rw [hfound]
  cases hlocation : activeLocation db scope.organizationId command.locationId with
  | none => exact Or.inr (Or.inl rfl)
  | some location =>
      rw [orFail_some, bind_ok]
      unfold assertLocationAccess
      cases hdenied : !scope.canUseAllStalls && !isAuthorizedStall scope location.stallId with
      | true => exact Or.inr (Or.inr rfl)
      | false =>
          refine Or.inl ?_
          change (failWhen (!movementPayloadMatches existing command) SupplyError.idempotencyConflict
            >>= fun _ => Except.ok (db, existing)) = _
          cases movementPayloadMatches existing command with
          | true => rfl
          | false => rfl

theorem receivePurchase_of_documentNumber {db : SupplyDb} {scope : SupplyScope}
    {ids : PurchaseIds} {now : Timestamp} {command : PurchaseCommand} {order : PurchaseOrder}
    (horder : order ∈ db.purchaseOrders) (hscope : order.organizationId = scope.organizationId)
    (hnumber : order.documentNumber = command.documentNumber) :
    ∃ error, receivePurchase db scope ids now command = .error error := by
  cases hreceive : receivePurchase db scope ids now command with
  | error error => exact ⟨error, rfl⟩
  | ok db' =>
      obtain ⟨priced, purchaseOrders, -, -, hinsert, -⟩ := receivePurchase_eq_ok hreceive
      refine absurd ?_ (CheckedTable.not_collides_of_insert? hinsert horder)
      exact Indexed.collides_addUnique_iff.mpr (Or.inr
        ⟨(order.organizationId, order.documentNumber), rfl, by rw [hscope, hnumber]; rfl⟩)

/-! ## Accepted submissions -/

/-- The movement that answers an accepted submission is stored, and is the one submitted. -/
theorem recorded_of_postMovement {db : SupplyDb} {scope : SupplyScope} {movementId : Uuid}
    {command : MovementCommand} {db' : SupplyDb} {movement : SupplyMovement}
    (hpost : postMovement db scope movementId command = .ok (db', movement)) :
    movement ∈ db'.ledger.movements
      ∧ movement.place.organizationId = scope.organizationId
      ∧ movement.idempotencyKey = command.idempotencyKey
      ∧ movementPayloadMatches movement command = true := by
  rcases postMovement_eq_ok hpost with ⟨hexisting, hmatches, rfl⟩ | ⟨-, hnew⟩
  · obtain ⟨hmem, hsame⟩ := CheckedTable.mem_of_findFirst hexisting
    rw [Bool.and_eq_true, decide_eq_true_eq, decide_eq_true_eq] at hsame
    exact ⟨hmem, hsame.1, hsame.2, hmatches⟩
  · obtain ⟨ingredient, ledger, lots, -, hledger, -, hresult⟩ := postNewMovement_eq_ok hnew
    cases hresult
    exact ⟨(CheckedTable.mem_of_insert? (recordMovement_eq_ok hledger).1).mpr (Or.inr rfl),
      rfl, rfl, by simp [movementPayloadMatches, postedMovement, MovementCommand.place]⟩

theorem mapM_priceLine_eq_ok {lines : List PurchaseLine} {priced : List (PurchaseLine × ℤ)}
    (hpriced : lines.mapM priceLine = .ok priced) : priced.map Prod.fst = lines := by
  induction lines generalizing priced with
  | nil =>
      cases hpriced
      rfl
  | cons line lines ih =>
      rw [List.mapM_cons] at hpriced
      obtain ⟨first, hfirst, hrest⟩ := bind_eq_ok.mp hpriced
      obtain ⟨others, hothers, hdone⟩ := bind_eq_ok.mp hrest
      obtain ⟨amount, -, hpair⟩ := bind_eq_ok.mp hfirst
      cases hpair
      cases hdone
      rw [List.map_cons, ih hothers]

/-- A receipt that is accepted has stored a movement for each of its lines. -/
theorem recorded_of_receivePurchase {db db' : SupplyDb} {scope : SupplyScope}
    {ids : PurchaseIds} {now : Timestamp} {command : PurchaseCommand}
    (hreceive : receivePurchase db scope ids now command = .ok db') {index : ℕ}
    {line : PurchaseLine} (hline : command.lines[index]? = some line) :
    purchaseMovement scope ids.orderId (ids.line index).movementId index command.documentNumber
      line ∈ db'.ledger.movements := by
  obtain ⟨priced, purchaseOrders, -, hpriced, -, hloop⟩ := receivePurchase_eq_ok hreceive
  let recorded (item : (PurchaseLine × ℤ) × ℕ) (state : SupplyDb) : Prop :=
    purchaseMovement scope ids.orderId (ids.line item.2).movementId item.2
      command.documentNumber item.1.1 ∈ state.ledger.movements
  have hrecorded : ∀ item ∈ priced.zipIdx, recorded item db' := by
    apply foldlM_forall recorded ?_ ?_ hloop
    · intro item state next hnext
      obtain ⟨purchaseOrderLines, ledger, lots, hledger, -, rfl⟩ := receiveLine_eq_ok hnext
      exact (CheckedTable.mem_of_insert? (recordMovement_eq_ok hledger).1).mpr (Or.inr rfl)
    · intro item other state next hbefore hnext
      obtain ⟨purchaseOrderLines, ledger, lots, hledger, -, rfl⟩ := receiveLine_eq_ok hnext
      exact (CheckedTable.mem_of_insert? (recordMovement_eq_ok hledger).1).mpr (Or.inl hbefore)
  rw [← mapM_priceLine_eq_ok hpriced, List.getElem?_map, Option.map_eq_some_iff] at hline
  obtain ⟨item, hitem, rfl⟩ := hline
  exact hrecorded (item, index) (List.mem_zipIdx_iff_getElem?.mpr hitem)

/-! ## The main result -/

/-- What holds of the supply ledger in every reachable state. -/
structure ExactSupply (db : SupplyDb) : Prop where
  quantity : ∀ place, db.ledger.quantityAt place = deltaSum db.ledger place
  recordedMovement : ∀ scope movementId command db' movement,
    postMovement db scope movementId command = .ok (db', movement) →
      movement ∈ db'.ledger.movements
      ∧ movement.place.organizationId = scope.organizationId
      ∧ movement.idempotencyKey = command.idempotencyKey
      ∧ movementPayloadMatches movement command = true
  recordedPurchase : ∀ scope ids now command db',
    receivePurchase db scope ids now command = .ok db' →
      ∀ index line, command.lines[index]? = some line →
        purchaseMovement scope ids.orderId (ids.line index).movementId index
          command.documentNumber line ∈ db'.ledger.movements
  repeatedMovement : ∀ scope movementId command existing, existing ∈ db.ledger.movements →
    existing.place.organizationId = scope.organizationId →
    existing.idempotencyKey = command.idempotencyKey →
      (movementPayloadMatches existing command = true →
        postMovement db scope movementId command = .ok (db, existing)
          ∨ postMovement db scope movementId command = .error .locationNotFound
          ∨ postMovement db scope movementId command = .error .scopeDenied)
      ∧ (movementPayloadMatches existing command = false →
        ∃ error, postMovement db scope movementId command = .error error)
  repeatedPurchase : ∀ scope ids now command order, order ∈ db.purchaseOrders →
    order.organizationId = scope.organizationId →
    order.documentNumber = command.documentNumber →
      ∃ error, receivePurchase db scope ids now command = .error error
  average : ∀ place, AverageBounded db.ledger place

theorem Exact.exactSupply {db : SupplyDb} (hexact : Exact db) : ExactSupply db where
  quantity place := (hexact place).quantity
  recordedMovement _ _ _ _ _ hpost := recorded_of_postMovement hpost
  recordedPurchase _ _ _ _ _ hreceive _ _ hline := recorded_of_receivePurchase hreceive hline
  repeatedMovement scope movementId command existing hexisting hscope hkey := by
    have hanswer := postMovement_of_key movementId hexisting hscope hkey
    constructor
    · intro hmatches
      rwa [hmatches, if_pos rfl] at hanswer
    · intro hdiffers
      rw [hdiffers, if_neg Bool.false_ne_true] at hanswer
      rcases hanswer with hconflict | hlocation | hdenied
      · exact ⟨_, hconflict⟩
      · exact ⟨_, hlocation⟩
      · exact ⟨_, hdenied⟩
  repeatedPurchase _ _ _ _ _ horder hscope hnumber :=
    receivePurchase_of_documentNumber horder hscope hnumber
  average place := (hexact place).average

/-- In every reachable state the balances are exact, accepted submissions are stored, repeated ones
are answered or refused, and the average costs are bounded. -/
theorem supply_ledger_exact (ingredients : CheckedTable SupplyIngredient ingredientCheck)
    (locations : Table SupplyLocation) (suppliers stalls : Table Party)
    (recipes : Table RecipeComponent) (requests : List SupplyRequest) :
    ExactSupply (exec step (.opened ingredients locations suppliers stalls recipes) requests) := by
  have hstart : Exact (.opened ingredients locations suppliers stalls recipes) :=
    fun place => exactAt_empty place
  exact (invariant_exec Exact (fun _ request => exact_step request) hstart requests).exactSupply

/-! ## Sample requests -/

def sampleIngredients : CheckedTable SupplyIngredient ingredientCheck :=
  (CheckedTable.insert? .empty {
    id := 1
    organizationId := 1
    code := "MILK".toList
    name := "Milk".toList
    baseUom := .ml
    itemType := .ingredient
    trackExpiry := true
    defaultShelfLifeDays := some 7
    preferredSupplierId := none
    lowStockThresholdMicros := 0
    isActive := true }).getD .empty

def sampleLocations : Table SupplyLocation :=
  (Table.insert? .empty
    { id := 1, organizationId := 1, stallId := none, isActive := true }).getD .empty

def sampleSuppliers : Table Party :=
  (Table.insert? .empty { id := 1, organizationId := 1, isActive := true }).getD .empty

def sampleStart : SupplyDb :=
  .opened sampleIngredients sampleLocations sampleSuppliers .empty .empty

def sampleScope : SupplyScope where
  organizationId := 1
  actorProfileId := 1
  moduleEnabled := true
  canUseAllStalls := true
  authorizedStallIds := []

def samplePurchase (orderId quantity : ℕ) : SupplyRequest where
  scope := sampleScope
  now := 0
  command := .receivePurchase
    { orderId := orderId, line := fun index => ⟨orderId + index, orderId + index, orderId + index⟩ }
    { supplierId := 1
      stallId := none
      documentNumber := Nat.toDigits 10 orderId
      orderedOn := 0
      expectedOn := none
      taxAmount := 0
      freightAmount := 0
      note := none
      lines := [{
        ingredientId := 1
        locationId := 1
        quantityMicros := quantity
        unitCostMicros := 30
        lotNumber := some "A".toList
        manufacturedOn := none
        expiresOn := some 7 }] }

def sampleMovementCommand (movementId : ℕ) (movementType : MovementType) (delta : ℤ) :
    MovementCommand where
  ingredientId := 1
  locationId := 1
  movementType := movementType
  quantityDeltaMicros := delta
  unitCostMicros := none
  sourceType := "COUNT".toList
  sourceId := "1".toList
  idempotencyKey := Nat.toDigits 10 movementId
  reason := "count".toList

def sampleMovement (movementId : ℕ) (movementType : MovementType) (delta : ℤ) : SupplyRequest where
  scope := sampleScope
  now := 0
  command := .postMovement movementId (sampleMovementCommand movementId movementType delta)

/-- Waste that is accepted after a delivery is stored with its quantity. -/
theorem supply_ledger_exact_waste :
    ∃ db movement, postMovement (exec step sampleStart [samplePurchase 10 100]) sampleScope 20
        (sampleMovementCommand 20 .waste (-40)) = .ok (db, movement)
      ∧ movement ∈ db.ledger.movements ∧ movement.quantityDeltaMicros = -40
      ∧ db.ledger.quantityAt ⟨1, 1, 1⟩ = 60 := by
  have hexact := supply_ledger_exact sampleIngredients sampleLocations sampleSuppliers .empty
    .empty [samplePurchase 10 100]
  have haccepted : ((postMovement (exec step sampleStart [samplePurchase 10 100]) sampleScope 20
      (sampleMovementCommand 20 .waste (-40))).toOption.map
        fun result => result.1.ledger.quantityAt ⟨1, 1, 1⟩) = some 60 := by
    decide +kernel
  cases hpost : postMovement (exec step sampleStart [samplePurchase 10 100]) sampleScope 20
      (sampleMovementCommand 20 .waste (-40)) with
  | error error =>
      rw [hpost] at haccepted
      cases haccepted
  | ok result =>
      rw [hpost] at haccepted
      obtain ⟨hstored, -, -, hmatches⟩ := hexact.recordedMovement _ _ _ result.1 result.2 hpost
      simp only [movementPayloadMatches, Bool.and_eq_true, decide_eq_true_eq] at hmatches
      exact ⟨result.1, result.2, rfl, hstored, hmatches.1.1.1.1.2, Option.some.inj haccepted⟩

end Stallorder.ExactLedger
