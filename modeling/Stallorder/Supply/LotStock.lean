import Stallorder.Supply.ExactLedger

/-!
# Lots and the stock on hand

The lots of an ingredient whose expiry is tracked account for its stock when
what is left of them at a place is the balance of the place, or nothing when the
balance is negative.  Consumption keeps that, whatever it consumes.  A posted
increase adds no lot, and a receipt after a negative balance adds a lot that is
larger than the stock.
-/

namespace Stallorder.LotStock

open OrderContract Checks SupplyDatabase SupplyService ExactLedger Run

/-! ## The property -/

/-- The expiry of the ingredient of a place is tracked. -/
def tracked (db : SupplyDb) (place : SupplyPlace) : Bool :=
  db.ingredients.table.rows.any fun ingredient => ingredient.id = place.ingredientId
    && ingredient.organizationId = place.organizationId && ingredient.trackExpiry

def AccountsAt (db : SupplyDb) (place : SupplyPlace) : Prop :=
  remainingAt db.lots place = max (db.ledger.quantityAt place) 0

def LotsAccount (db : SupplyDb) : Prop :=
  ∀ place, tracked db place = true → AccountsAt db place

theorem tracked_iff {db : SupplyDb} {place : SupplyPlace} :
    tracked db place = true ↔ ∃ ingredient ∈ db.ingredients, ingredient.id = place.ingredientId
      ∧ ingredient.organizationId = place.organizationId ∧ ingredient.trackExpiry = true := by
  simp only [tracked, List.any_eq_true, Bool.and_eq_true, decide_eq_true_eq, and_assoc]
  rfl

theorem tracked_of_active {db : SupplyDb} {place : SupplyPlace} {ingredient : SupplyIngredient}
    (hactive : activeIngredient db place.organizationId place.ingredientId = some ingredient) :
    tracked db place = ingredient.trackExpiry := by
  obtain ⟨hfound, hscope⟩ := Option.filter_eq_some_iff.mp hactive
  rw [Bool.and_eq_true, decide_eq_true_eq] at hscope
  have hmem := Table.mem_of_get? hfound
  have hid : ingredient.id = place.ingredientId := Table.key_of_get? hfound
  rw [Bool.eq_iff_iff, tracked_iff]
  constructor
  · rintro ⟨other, hother, hsame, -, htrack⟩
    have hrow : other = ingredient := Table.eq_of_key_eq hother hmem (hsame.trans hid.symm)
    exact hrow ▸ htrack
  · intro htrack
    exact ⟨ingredient, hmem, hid, hscope.1, htrack⟩

/-! ## Lots that are left are available -/

def LotsAvailable (lots : CheckedTable SupplyLot lotCheck) : Prop :=
  ∀ lot ∈ lots, 0 < lot.remainingQuantityMicros → lot.status = .available

theorem lotsAvailable_empty : LotsAvailable .empty :=
  fun lot hlot => absurd hlot (CheckedTable.notMem_empty lot)

section Updating

variable {lots lots' : CheckedTable SupplyLot lotCheck} {lot : SupplyLot}
  {change : SupplyLot → SupplyLot}

theorem mem_of_updateLot (hlot : lot ∈ lots) (hupdate : updateLot lots lot.id change = .ok lots')
    {stored : SupplyLot} :
    stored ∈ lots' ↔ stored = change lot ∨ (stored ∈ lots ∧ stored.id ≠ lot.id) := by
  rw [CheckedTable.mem_of_updateWhere? (orFail_eq_ok.mp hupdate)]
  constructor
  · rintro ⟨row, hrow, rfl⟩
    by_cases hid : row.id = lot.id
    · have hsame : row = lot := CheckedTable.eq_of_key_eq hrow hlot hid
      exact Or.inl (by rw [hsame]; exact if_pos (decide_eq_true rfl))
    · have hkept : (if decide (Indexed.key row = lot.id) = true then change row else row) = row :=
        if_neg (by rw [decide_eq_true_eq]; exact hid)
      rw [hkept]
      exact Or.inr ⟨hrow, hid⟩
  · rintro (rfl | ⟨hstored, hid⟩)
    · exact ⟨lot, hlot, if_pos (decide_eq_true rfl)⟩
    · exact ⟨stored, hstored, if_neg (by rw [decide_eq_true_eq]; exact hid)⟩

theorem lotsAvailable_of_updateLot (hlot : lot ∈ lots)
    (hupdate : updateLot lots lot.id change = .ok lots') (havailable : LotsAvailable lots)
    (hchange : 0 < (change lot).remainingQuantityMicros → (change lot).status = .available) :
    LotsAvailable lots' := by
  intro stored hstored hleft
  rcases (mem_of_updateLot hlot hupdate).mp hstored with rfl | ⟨hbefore, -⟩
  · exact hchange hleft
  · exact havailable stored hbefore hleft

theorem remainingAt_of_updateLot (hlot : lot ∈ lots)
    (hupdate : updateLot lots lot.id change = .ok lots') (hplace : (change lot).place = lot.place)
    (place : SupplyPlace) :
    remainingAt lots' place = remainingAt lots place
      + if lot.place = place then
          (change lot).remainingQuantityMicros - lot.remainingQuantityMicros
        else 0 := by
  rw [remainingAt, CheckedTable.total_updateWhere?_key _ hlot (orFail_eq_ok.mp hupdate), hplace,
    ← remainingAt]
  split
  · rfl
  · rw [sub_self]

end Updating

/-! ## Consumption -/

section Consuming

variable {lots lots' : CheckedTable SupplyLot lotCheck}

/-- The parts of a consumption are taken off the lots one after another. -/
theorem consume_parts {parts : List (SupplyLot × ℤ)} (hparts : ∀ part ∈ parts, part.1 ∈ lots)
    (hdistinct : (parts.map fun part => part.1.id).Nodup)
    (hconsume : parts.foldlM (fun lots part => updateLot lots part.1.id (consumed part)) lots
      = .ok lots')
    (havailable : LotsAvailable lots) (hpos : ∀ part ∈ parts, 0 < part.2) :
    LotsAvailable lots' ∧ ∀ place, remainingAt lots' place = remainingAt lots place
      - (parts.map fun part => if part.1.place = place then part.2 else 0).sum := by
  induction parts generalizing lots with
  | nil =>
      cases hconsume
      exact ⟨havailable, fun place => by rw [List.map_nil, List.sum_nil, sub_zero]⟩
  | cons part parts ih =>
      obtain ⟨next, hnext, hrest⟩ := foldlM_cons_eq_ok.mp hconsume
      obtain ⟨hfresh, hdistinctRest⟩ := List.nodup_cons.mp hdistinct
      have hhead := hparts part List.mem_cons_self
      have hkept : ∀ other ∈ parts, other.1 ∈ next := by
        intro other hother
        have hne : other.1.id ≠ part.1.id := fun hid =>
          hfresh (List.mem_map.mpr ⟨other, hother, hid⟩)
        exact (mem_of_updateLot hhead hnext).mpr
          (Or.inr ⟨hparts other (List.mem_cons_of_mem _ hother), hne⟩)
      have htaken := hpos part List.mem_cons_self
      have hleft := lotsAvailable_of_updateLot hhead hnext havailable (by
        intro hsome
        have hsome' : 0 < part.1.remainingQuantityMicros - part.2 := hsome
        have hstatus : (consumed part part.1).status = part.1.status := if_neg hsome'.ne'
        rw [hstatus]
        exact havailable part.1 hhead (by omega))
      obtain ⟨hdone, hremaining⟩ := ih hkept hdistinctRest hrest hleft
        fun other hother => hpos other (List.mem_cons_of_mem _ hother)
      refine ⟨hdone, fun place => ?_⟩
      have hchanged : (consumed part part.1).remainingQuantityMicros
          - part.1.remainingQuantityMicros = -part.2 := by
        change part.1.remainingQuantityMicros - part.2 - part.1.remainingQuantityMicros = -part.2
        omega
      rw [hremaining, remainingAt_of_updateLot hhead hnext rfl, hchanged, List.map_cons,
        List.sum_cons]
      split <;> omega

/-- The lots of a place that have something left. -/
theorem consumableLots_eq (havailable : LotsAvailable lots) (place : SupplyPlace)
    (movementType : MovementType) :
    ((consumableLots lots place movementType).map (·.remainingQuantityMicros)).sum
      = remainingAt lots place := by
  have hrows : ∀ rows : List SupplyLot, (∀ lot ∈ rows, lot ∈ lots) →
      ((rows.filter fun lot => lot.place = place && 0 < lot.remainingQuantityMicros
        && lotConsumable movementType lot.status).map (·.remainingQuantityMicros)).sum
      = (rows.map fun lot => if lot.place = place then lot.remainingQuantityMicros else 0).sum := by
    intro rows hstored
    induction rows with
    | nil => rfl
    | cons lot rows ih =>
        have hlot := hstored lot List.mem_cons_self
        have hrest := ih fun other hother => hstored other (List.mem_cons_of_mem _ hother)
        have hnonneg := remaining_nonneg hlot
        rw [List.map_cons, List.sum_cons, ← hrest]
        by_cases hplace : lot.place = place
        · rcases hnonneg.eq_or_lt with hempty | hleft
          · rw [List.filter_cons_of_neg (by simp [← hempty]), if_pos hplace, ← hempty, zero_add]
          · have hstatus := havailable lot hlot hleft
            rw [List.filter_cons_of_pos (by simp [hplace, hleft, lotConsumable, hstatus]),
              List.map_cons, List.sum_cons, if_pos hplace]
        · rw [List.filter_cons_of_neg (by simp [hplace]), if_neg hplace, zero_add]
  exact hrows lots.table.rows fun lot hlot => hlot

theorem mem_consumableLots {place : SupplyPlace} {movementType : MovementType} {lot : SupplyLot}
    (hlot : lot ∈ consumableLots lots place movementType) :
    lot ∈ lots ∧ lot.place = place := by
  obtain ⟨hmem, hkeep⟩ := List.mem_filter.mp hlot
  rw [Bool.and_eq_true, Bool.and_eq_true, decide_eq_true_eq] at hkeep
  exact ⟨hmem, hkeep.1.1⟩

theorem nodup_consumableLots (place : SupplyPlace) (movementType : MovementType) :
    ((consumableLots lots place movementType).map (·.id)).Nodup := by
  rw [List.Nodup, List.pairwise_map]
  apply (lots.table.unique.filter _).imp
  intro left right hnot hid
  exact hnot (Indexed.collides_of_key_eq hid)

/-- The lots of a consumption in their order have what the place has left. -/
theorem sum_sorted_eq (havailable : LotsAvailable lots) (place : SupplyPlace)
    (movementType : MovementType) :
    (((consumableLots lots place movementType).insertionSort
      fun left right => fefoBefore left right).map fun lot => max lot.remainingQuantityMicros 0).sum
      = remainingAt lots place := by
  have hperm := List.perm_insertionSort (fun left right => fefoBefore left right)
    (consumableLots lots place movementType)
  rw [(hperm.map _).sum_eq, ← consumableLots_eq havailable place movementType]
  refine congrArg List.sum (List.map_congr_left fun lot hlot => ?_)
  exact max_eq_left (remaining_nonneg (mem_consumableLots hlot).1)

/-- A consumption takes from the lots of its place what it asks for, as far as they have it. -/
theorem consumeLots_eq_ok {place : SupplyPlace} {movementType : MovementType} {quantity : ℤ}
    (hquantity : 0 ≤ quantity) (havailable : LotsAvailable lots)
    (hconsume : consumeLots lots place movementType quantity = .ok lots') :
    LotsAvailable lots' ∧ ∀ other, remainingAt lots' other = remainingAt lots other
      - if place = other then min quantity (remainingAt lots place) else 0 := by
  have hperm := List.perm_insertionSort (fun left right => fefoBefore left right)
    (consumableLots lots place movementType)
  unfold consumeLots allocateFefoLotConsumption at hconsume
  rw [max_eq_left hquantity] at hconsume
  have hsublist := DrawDown.sources_sublist (fun lot : SupplyLot => lot.remainingQuantityMicros)
    hquantity ((consumableLots lots place movementType).insertionSort fun left right =>
      fefoBefore left right)
  have hsum := DrawDown.sum_taken (fun lot : SupplyLot => lot.remainingQuantityMicros) hquantity
    ((consumableLots lots place movementType).insertionSort fun left right =>
      fefoBefore left right)
  have hpos := DrawDown.taken_le_available (fun lot : SupplyLot => lot.remainingQuantityMicros)
    hquantity ((consumableLots lots place movementType).insertionSort fun left right =>
      fefoBefore left right)
  rw [sum_sorted_eq havailable] at hsum
  generalize (DrawDown.drawDown _ _ _).1 = parts at hconsume hsublist hsum hpos
  have hfound : ∀ part ∈ parts, part.1 ∈ lots ∧ part.1.place = place := fun part hpart =>
    mem_consumableLots (hperm.mem_iff.mp (hsublist.subset (List.mem_map_of_mem hpart)))
  have hdistinct : (parts.map fun part => part.1.id).Nodup := by
    have hids := (hsublist.map (·.id)).nodup ((hperm.map (·.id)).nodup_iff.mpr
      (nodup_consumableLots place movementType))
    rwa [List.map_map] at hids
  obtain ⟨hleft, hremaining⟩ := consume_parts (fun part hpart => (hfound part hpart).1) hdistinct
    hconsume havailable fun part hpart => (hpos part hpart).1
  refine ⟨hleft, fun other => ?_⟩
  rw [hremaining]
  by_cases hplace : place = other
  · rw [if_pos hplace, ← hsum]
    congr 2
    refine List.map_congr_left fun part hpart => if_pos ?_
    rw [(hfound part hpart).2, hplace]
  · rw [if_neg hplace]
    congr 1
    apply List.sum_eq_zero
    intro value hvalue
    obtain ⟨part, hpart, rfl⟩ := List.mem_map.mp hvalue
    rw [(hfound part hpart).2, if_neg hplace]

end Consuming

/-! ## Receipts -/

section Receiving

variable {lots lots' : CheckedTable SupplyLot lotCheck}

/-- A delivery with a lot number adds to the lots what it delivers. -/
theorem receiveLot_eq_ok {scope : SupplyScope} {ids : LineIds} {now : Timestamp}
    {line : PurchaseLine} (havailable : LotsAvailable lots)
    (hreceive : receiveLot lots scope ids now line = .ok lots') :
    LotsAvailable lots' ∧ ∀ place, remainingAt lots' place = remainingAt lots place
      + if line.lotNumber.isSome = true ∧ line.place scope.organizationId = place then
          line.quantityMicros else 0 := by
  cases hnumber : line.lotNumber with
  | none =>
      rw [receiveLot, hnumber] at hreceive
      cases hreceive
      exact ⟨havailable, fun place => by simp⟩
  | some lotNumber =>
      rw [receiveLot, hnumber] at hreceive
      change receiveNumberedLot lots scope ids now line lotNumber = .ok lots' at hreceive
      unfold receiveNumberedLot at hreceive
      cases hfound : lotOf lots (line.place scope.organizationId) lotNumber with
      | none =>
          rw [hfound] at hreceive
          have hinsert := insertRow_eq_ok.mp hreceive
          constructor
          · intro stored hstored hleft
            rcases (CheckedTable.mem_of_insert? hinsert).mp hstored with hbefore | rfl
            · exact havailable stored hbefore hleft
            · rfl
          · intro place
            have hnew : (newLot scope ids now line lotNumber).place
                = line.place scope.organizationId := rfl
            rw [remainingAt, CheckedTable.total_insert? _ hinsert, ← remainingAt, hnew]
            by_cases hplace : line.place scope.organizationId = place
            · rw [if_pos hplace, if_pos ⟨rfl, hplace⟩]
              rfl
            · rw [if_neg hplace, if_neg fun hboth => hplace hboth.2]
      | some lot =>
          rw [hfound] at hreceive
          obtain ⟨hlot, hsame⟩ := CheckedTable.mem_of_findFirst hfound
          rw [Bool.and_eq_true, decide_eq_true_eq] at hsame
          refine ⟨lotsAvailable_of_updateLot hlot hreceive havailable fun _ => rfl, fun place => ?_⟩
          rw [remainingAt_of_updateLot hlot hreceive rfl, hsame.1]
          by_cases hplace : line.place scope.organizationId = place
          · rw [if_pos hplace, if_pos ⟨rfl, hplace⟩]
            exact congrArg _ (add_sub_cancel_left _ _)
          · rw [if_neg hplace, if_neg fun hboth => hplace hboth.2]

end Receiving

/-! ## Purchases -/

/-- What the lines of a purchase deliver to a place. -/
def delivered (organizationId : Uuid) (lines : List PurchaseLine) (place : SupplyPlace) : ℤ :=
  (lines.map fun line =>
    if line.place organizationId = place then line.quantityMicros else 0).sum

theorem delivered_nonneg (organizationId : Uuid) {lines : List PurchaseLine}
    (hlines : ∀ line ∈ lines, 0 < line.quantityMicros) (place : SupplyPlace) :
    0 ≤ delivered organizationId lines place := by
  apply List.sum_nonneg
  intro value hvalue
  obtain ⟨line, hline, rfl⟩ := List.mem_map.mp hvalue
  have hpos := hlines line hline
  split <;> omega

theorem delivered_pos (organizationId : Uuid) {lines : List PurchaseLine}
    (hlines : ∀ line ∈ lines, 0 < line.quantityMicros) {line : PurchaseLine}
    (hline : line ∈ lines) : 0 < delivered organizationId lines (line.place organizationId) := by
  induction lines with
  | nil => cases hline
  | cons head lines ih =>
      have hrest : ∀ other ∈ lines, 0 < other.quantityMicros := fun other hother =>
        hlines other (List.mem_cons_of_mem _ hother)
      have hhead := hlines head List.mem_cons_self
      have htail := delivered_nonneg organizationId hrest
        (line.place organizationId)
      rw [delivered, List.map_cons, List.sum_cons, ← delivered]
      rcases List.mem_cons.mp hline with rfl | hlater
      · rw [if_pos rfl]
        omega
      · have hsum := ih hrest hlater
        split <;> omega

/-- What the lines of a purchase do: they add what they deliver to the balances, and to the lots
where every line has a lot number. -/
theorem receiveLines_eq_ok {scope : SupplyScope} {ids : PurchaseIds} {now : Timestamp}
    {documentNumber : Text} {items : List ((PurchaseLine × ℤ) × ℕ)} {db db' : SupplyDb}
    (havailable : LotsAvailable db.lots)
    (hreceive : items.foldlM (receiveLine scope ids now documentNumber) db = .ok db') :
    db'.ingredients = db.ingredients ∧ LotsAvailable db'.lots
      ∧ (∀ place, db'.ledger.quantityAt place = db.ledger.quantityAt place
        + delivered scope.organizationId (items.map (·.1.1)) place)
      ∧ ∀ place, (∀ item ∈ items, item.1.1.place scope.organizationId = place →
          item.1.1.lotNumber.isSome = true) →
        remainingAt db'.lots place = remainingAt db.lots place
          + delivered scope.organizationId (items.map (·.1.1)) place := by
  induction items generalizing db with
  | nil =>
      cases hreceive
      refine ⟨rfl, havailable, fun place => ?_, fun place _ => ?_⟩ <;> simp [delivered]
  | cons item items ih =>
      obtain ⟨next, hnext, hrest⟩ := foldlM_cons_eq_ok.mp hreceive
      obtain ⟨purchaseOrderLines, ledger, lots, hledger, hlots, rfl⟩ := receiveLine_eq_ok hnext
      obtain ⟨hleft, hremaining⟩ := receiveLot_eq_ok havailable hlots
      obtain ⟨hingredients, hleft', hquantity', hremaining'⟩ := ih hleft hrest
      refine ⟨hingredients, hleft', fun place => ?_, fun place hnumbered => ?_⟩
      · rw [hquantity', delivered, delivered, List.map_cons, List.map_cons, List.sum_cons]
        change ledger.quantityAt place + _ = _
        rw [quantityAt_of_record hledger, add_assoc]
        rfl
      · have hhead := hnumbered item List.mem_cons_self
        rw [hremaining' place fun other hother => hnumbered other (List.mem_cons_of_mem _ hother),
          delivered, delivered, List.map_cons, List.map_cons, List.sum_cons]
        dsimp only
        rw [hremaining]
        by_cases hplace : item.1.1.place scope.organizationId = place
        · rw [if_pos ⟨hhead hplace, hplace⟩, if_pos hplace]
          ring
        · rw [if_neg fun hboth => hplace hboth.2, if_neg hplace]
          ring

/-- The lines for ingredients whose expiry is tracked carry a lot number. -/
theorem lotNumber_of_checkPurchase {db : SupplyDb} {scope : SupplyScope}
    {command : PurchaseCommand} (hcheck : checkPurchase db scope command = .ok ())
    {line : PurchaseLine} (hline : line ∈ command.lines)
    (htracked : tracked db (line.place scope.organizationId) = true) :
    line.lotNumber.isSome = true := by
  obtain ⟨⟨⟩, -, hrest⟩ := bind_eq_ok.mp hcheck
  obtain ⟨⟨⟩, -, hrest⟩ := bind_eq_ok.mp hrest
  obtain ⟨⟨⟩, -, hrest⟩ := bind_eq_ok.mp hrest
  obtain ⟨⟨⟩, hingredients, hrest⟩ := bind_eq_ok.mp hrest
  obtain ⟨⟨⟩, -, hrest⟩ := bind_eq_ok.mp hrest
  obtain ⟨⟨⟩, -, hlots⟩ := bind_eq_ok.mp hrest
  rw [failWhen_eq_ok, List.any_eq_false] at hingredients hlots
  have hfound := hingredients line hline
  have hnumber := hlots line hline
  rw [Option.isNone_iff_eq_none] at hfound
  obtain ⟨ingredient, hactive⟩ := Option.ne_none_iff_exists'.mp hfound
  have hsame : tracked db (line.place scope.organizationId) = ingredient.trackExpiry :=
    tracked_of_active hactive
  rw [hactive, Option.any_some, ← hsame, htracked, Bool.true_and, Option.isNone_iff_eq_none]
    at hnumber
  exact Option.isSome_iff_ne_none.mpr hnumber

/-! ## What the commands do to the account -/

/-- The condition: a posted increase leaves no positive balance of an ingredient whose expiry is
tracked, and such an ingredient is delivered where its balance is not negative. -/
def KeepsLots (db : SupplyDb) (request : SupplyRequest) : Prop :=
  match request.command with
  | .postMovement _ command =>
      movementWithKey db.ledger request.scope.organizationId command.idempotencyKey = none →
      tracked db (command.place request.scope.organizationId) = true →
      0 < command.quantityDeltaMicros →
        db.ledger.quantityAt (command.place request.scope.organizationId)
          + command.quantityDeltaMicros ≤ 0
  | .receivePurchase _ command =>
      ∀ line ∈ command.lines, tracked db (line.place request.scope.organizationId) = true →
        0 ≤ db.ledger.quantityAt (line.place request.scope.organizationId)
  | .updateIngredient _ => True

instance (db : SupplyDb) (request : SupplyRequest) : Decidable (KeepsLots db request) := by
  unfold KeepsLots
  split <;> infer_instance

theorem lotsAfterMovement_eq_ok {lots lots' : CheckedTable SupplyLot lotCheck}
    {ingredient : SupplyIngredient} {movement : SupplyMovement} (havailable : LotsAvailable lots)
    (hlots : lotsAfterMovement lots ingredient movement = .ok lots') :
    LotsAvailable lots' ∧ ∀ place, remainingAt lots' place = remainingAt lots place
      - if ingredient.trackExpiry = true ∧ movement.quantityDeltaMicros < 0
          ∧ movement.place = place then
          min (-movement.quantityDeltaMicros) (remainingAt lots movement.place) else 0 := by
  unfold lotsAfterMovement at hlots
  by_cases hconsumes : (ingredient.trackExpiry && movement.quantityDeltaMicros < 0) = true
  · rw [if_pos hconsumes] at hlots
    rw [Bool.and_eq_true, decide_eq_true_eq] at hconsumes
    obtain ⟨hleft, hremaining⟩ := consumeLots_eq_ok (by omega) havailable hlots
    refine ⟨hleft, fun place => ?_⟩
    rw [hremaining]
    by_cases hplace : movement.place = place
    · rw [if_pos hplace, if_pos ⟨hconsumes.1, hconsumes.2, hplace⟩]
    · rw [if_neg hplace, if_neg fun hall => hplace hall.2.2]
  · rw [if_neg hconsumes] at hlots
    cases hlots
    refine ⟨havailable, fun place => ?_⟩
    rw [Bool.and_eq_true, decide_eq_true_eq] at hconsumes
    rw [if_neg fun hall => hconsumes ⟨hall.1, hall.2.1⟩, sub_zero]

theorem lotsAccount_post_iff {db : SupplyDb} {scope : SupplyScope} {movementId : Uuid}
    {command : MovementCommand} {result : SupplyDb × SupplyMovement}
    (havailable : LotsAvailable db.lots) (haccount : LotsAccount db)
    (hnonzero : command.quantityDeltaMicros ≠ 0)
    (hpost : postNewMovement db scope movementId command = .ok result) :
    LotsAvailable result.1.lots ∧
      (LotsAccount result.1 ↔ (tracked db (command.place scope.organizationId) = true →
        0 < command.quantityDeltaMicros →
        db.ledger.quantityAt (command.place scope.organizationId)
          + command.quantityDeltaMicros ≤ 0)) := by
  obtain ⟨ingredient, ledger, lots, hactive, hledger, hlots, rfl⟩ := postNewMovement_eq_ok hpost
  obtain ⟨hleft, hremaining⟩ := lotsAfterMovement_eq_ok havailable hlots
  have hquantity := quantityAt_of_record hledger
  have htrack : tracked db (command.place scope.organizationId) = ingredient.trackExpiry :=
    tracked_of_active hactive
  have hposted : (postedMovement scope movementId command).place
      = command.place scope.organizationId := rfl
  have hmoved : ledger.quantityAt (command.place scope.organizationId)
      = db.ledger.quantityAt (command.place scope.organizationId)
        + command.quantityDeltaMicros := by
    rw [hquantity, if_pos hposted]
    rfl
  refine ⟨hleft, fun hafter htracked hpos => ?_, fun hkeeps place htracked => ?_⟩
  · have hbefore : remainingAt db.lots (command.place scope.organizationId)
        = max (db.ledger.quantityAt (command.place scope.organizationId)) 0 :=
      haccount _ htracked
    have hplace : remainingAt lots (command.place scope.organizationId)
        = max (ledger.quantityAt (command.place scope.organizationId)) 0 :=
      hafter (command.place scope.organizationId) htracked
    rw [hremaining, hmoved, if_neg fun hall => not_lt.mpr hpos.le hall.2.1] at hplace
    omega
  · have hbefore : remainingAt db.lots place = max (db.ledger.quantityAt place) 0 :=
      haccount place htracked
    change remainingAt lots place = max (ledger.quantityAt place) 0
    by_cases hplace : command.place scope.organizationId = place
    · subst hplace
      have hexpiry : ingredient.trackExpiry = true := htrack ▸ htracked
      rw [hmoved, hremaining]
      rcases lt_or_gt_of_ne hnonzero with hneg | hpos
      · have htaken : min (-(postedMovement scope movementId command).quantityDeltaMicros)
            (remainingAt db.lots (postedMovement scope movementId command).place)
            = min (-command.quantityDeltaMicros)
              (remainingAt db.lots (command.place scope.organizationId)) := rfl
        rw [if_pos ⟨hexpiry, hneg, rfl⟩, htaken]
        omega
      · have hle := hkeeps htracked hpos
        rw [if_neg fun hall => not_lt.mpr hpos.le hall.2.1]
        omega
    · rw [← hposted] at hplace
      rw [hremaining, hquantity, if_neg fun hall => hplace hall.2.2, if_neg hplace, sub_zero,
        add_zero]
      exact hbefore

theorem lotsAccount_purchase_iff {db db' : SupplyDb} {scope : SupplyScope} {ids : PurchaseIds}
    {now : Timestamp} {command : PurchaseCommand} (havailable : LotsAvailable db.lots)
    (haccount : LotsAccount db) (hlines : ∀ line ∈ command.lines, 0 < line.quantityMicros)
    (hreceive : receivePurchase db scope ids now command = .ok db') :
    LotsAvailable db'.lots ∧ (LotsAccount db' ↔
      ∀ line ∈ command.lines, tracked db (line.place scope.organizationId) = true →
        0 ≤ db.ledger.quantityAt (line.place scope.organizationId)) := by
  obtain ⟨priced, purchaseOrders, hcheck, hpriced, -, hfold⟩ := receivePurchase_eq_ok hreceive
  have hitems : priced.zipIdx.map (fun item => item.1.1) = command.lines := by
    rw [← mapM_priceLine_eq_ok hpriced]
    conv_rhs => rw [← List.zipIdx_map_fst 0 priced, List.map_map]
    rfl
  have hstart : LotsAvailable ({ db with purchaseOrders } : SupplyDb).lots := havailable
  obtain ⟨hingredients, hleft, hquantity, hremaining⟩ := receiveLines_eq_ok hstart hfold
  rw [hitems] at hquantity hremaining
  have htracked' : ∀ place, tracked db' place = tracked db place := by
    intro place
    rw [tracked, hingredients]
    rfl
  have hlots : ∀ place, tracked db place = true → remainingAt db'.lots place
      = remainingAt db.lots place + delivered scope.organizationId command.lines place := by
    intro place htracked
    apply hremaining
    intro item hitem hplace
    have hline : item.1.1 ∈ command.lines := by
      rw [← hitems]
      exact List.mem_map_of_mem hitem
    exact lotNumber_of_checkPurchase hcheck hline (hplace ▸ htracked)
  have hbalance : ∀ place, db'.ledger.quantityAt place = db.ledger.quantityAt place
      + delivered scope.organizationId command.lines place := hquantity
  refine ⟨hleft, fun hafter line hline htracked => ?_, fun hkeeps place htracked => ?_⟩
  · have hbefore : remainingAt db.lots (line.place scope.organizationId)
        = max (db.ledger.quantityAt (line.place scope.organizationId)) 0 := haccount _ htracked
    have hplace : remainingAt db'.lots (line.place scope.organizationId)
        = max (db'.ledger.quantityAt (line.place scope.organizationId)) 0 :=
      hafter _ ((htracked' _).trans htracked)
    have hpos := delivered_pos scope.organizationId hlines hline
    rw [hlots _ htracked, hbalance] at hplace
    omega
  · rw [htracked'] at htracked
    have hbefore : remainingAt db.lots place = max (db.ledger.quantityAt place) 0 :=
      haccount place htracked
    have hnonneg := delivered_nonneg scope.organizationId hlines place
    change remainingAt db'.lots place = max (db'.ledger.quantityAt place) 0
    rw [hlots place htracked, hbalance]
    by_cases hline : ∃ line ∈ command.lines, line.place scope.organizationId = place
    · obtain ⟨line, hmem, rfl⟩ := hline
      have hle := hkeeps line hmem htracked
      omega
    · have hzero : delivered scope.organizationId command.lines place = 0 := by
        apply List.sum_eq_zero
        intro value hvalue
        obtain ⟨line, hmem, rfl⟩ := List.mem_map.mp hvalue
        exact if_neg fun hplace => hline ⟨line, hmem, hplace⟩
      omega

/-- An ingredient whose tracking is changed has no stock and no lots. -/
theorem lotsAccount_updateIngredient {db db' : SupplyDb} {scope : SupplyScope}
    {command : IngredientCommand} (haccount : LotsAccount db)
    (hupdate : updateIngredient db scope command = .ok db') :
    db'.lots = db.lots ∧ LotsAccount db' := by
  obtain ⟨ingredient, ingredients, hactive, htracking, hingredients, rfl⟩ :=
    updateIngredient_eq_ok hupdate
  refine ⟨rfl, fun place htracked => ?_⟩
  obtain ⟨stored, hstored, hid, hscope, htrack⟩ := tracked_iff.mp htracked
  obtain ⟨row, hrow, hchanged⟩ := (CheckedTable.mem_of_updateWhere? hingredients).mp hstored
  obtain ⟨hfound, hactiveScope⟩ := Option.filter_eq_some_iff.mp hactive
  have hmem := Table.mem_of_get? hfound
  change AccountsAt db place
  by_cases hkey : row.id = ingredient.id
  · have hsame : row = ingredient := CheckedTable.eq_of_key_eq hrow hmem hkey
    have hnew : stored = changedIngredient command ingredient := by
      rw [← hchanged, hsame]
      exact if_pos (decide_eq_true rfl)
    rw [hnew] at hid hscope htrack
    rcases htracking with hkept | hunlocked
    · apply haccount
      exact tracked_iff.mpr ⟨ingredient, hmem, hid, hscope, hkept.trans htrack⟩
    · have hplaceScope : place.organizationId = scope.organizationId := by
        rw [Bool.and_eq_true, decide_eq_true_eq] at hactiveScope
        exact hscope.symm.trans hactiveScope.1
      have hplaceId : place.ingredientId = ingredient.id := hid.symm
      rw [trackingLocked, Bool.or_eq_false_iff, List.any_eq_false, List.any_eq_false] at hunlocked
      have hstock : db.ledger.quantityAt place = 0 := by
        rw [SupplyLedger.quantityAt]
        cases hbalance : db.ledger.balances.get? place with
        | none => rfl
        | some balance =>
            have hplace : balance.place = place := Table.key_of_get? hbalance
            have hzero := hunlocked.1 balance (Table.mem_of_get? hbalance)
            simpa [hplace, hplaceScope, hplaceId] using hzero
      have hlots : remainingAt db.lots place = 0 := by
        apply CheckedTable.total_eq_zero
        intro lot hlot
        by_cases hplace : lot.place = place
        · have hempty := hunlocked.2 lot hlot
          have hnonneg := remaining_nonneg hlot
          rw [if_pos hplace]
          simp only [hplace, hplaceScope, hplaceId, decide_true, Bool.true_and, decide_eq_true_eq]
            at hempty
          omega
        · exact if_neg hplace
      rw [AccountsAt, hstock, hlots]
      rfl
  · have hsame : stored = row := by
      rw [← hchanged]
      exact if_neg (by rw [decide_eq_true_eq]; exact hkey)
    exact haccount place (tracked_iff.mpr ⟨row, hrow, hsame ▸ hid, hsame ▸ hscope, hsame ▸ htrack⟩)

/-- Of the commands that are accepted, exactly those that meet the condition keep the account. -/
theorem lotsAccount_apply_iff {db db' : SupplyDb} {request : SupplyRequest}
    (havailable : LotsAvailable db.lots) (haccount : LotsAccount db)
    (hschema : supplyCommandSchema request.command = true)
    (happly : applySupplyCommand db request = .ok db') :
    LotsAvailable db'.lots ∧ (LotsAccount db' ↔ KeepsLots db request) := by
  obtain ⟨-, -, hcommand⟩ := bind_eq_ok.mp happly
  unfold KeepsLots
  cases hkind : request.command with
  | postMovement movementId command =>
      rw [hkind] at hcommand hschema
      have hnonzero : command.quantityDeltaMicros ≠ 0 := by
        simp only [supplyCommandSchema, movementSchema, Bool.and_eq_true, decide_eq_true_eq]
          at hschema
        exact hschema.1.1.1.1.1
      obtain ⟨result, hpost, rfl⟩ := exists_of_map_eq_ok hcommand
      rcases postMovement_eq_ok hpost with ⟨hused, -, hsame⟩ | ⟨hfree, hnew⟩
      · rw [hsame]
        exact ⟨havailable, iff_of_true haccount fun hfree => by simp [hused] at hfree⟩
      · obtain ⟨hleft, hiff⟩ := lotsAccount_post_iff havailable haccount hnonzero hnew
        exact ⟨hleft, hiff.trans ⟨fun hkeeps _ => hkeeps, fun hkeeps => hkeeps hfree⟩⟩
  | receivePurchase ids command =>
      rw [hkind] at hcommand hschema
      apply lotsAccount_purchase_iff havailable haccount ?_ hcommand
      intro line hline
      simp only [supplyCommandSchema, receivePurchaseSchema, Bool.and_eq_true, List.all_eq_true]
        at hschema
      have hschemaLine := hschema.2 line hline
      simp only [purchaseLineSchema, Bool.and_eq_true, decide_eq_true_eq] at hschemaLine
      omega
  | updateIngredient command =>
      rw [hkind] at hcommand
      obtain ⟨hlots, hafter⟩ := lotsAccount_updateIngredient haccount hcommand
      exact ⟨hlots ▸ havailable, iff_of_true hafter trivial⟩

/-! ## Runs -/

/-- The lots account for the stock, and those that are left are available. -/
structure LotInvariant (db : SupplyDb) : Prop where
  available : LotsAvailable db.lots
  account : LotsAccount db

theorem step_of_ok {db db' : SupplyDb} {request : SupplyRequest}
    (hschema : supplyCommandSchema request.command = true)
    (happly : applySupplyCommand db request = .ok db') : step db request = db' := by
  rw [step, if_pos hschema, happly]

theorem lotInvariant_step {db : SupplyDb} {request : SupplyRequest} (hinvariant : LotInvariant db)
    (hkeeps : KeepsLots db request) : LotInvariant (step db request) := by
  by_cases hschema : supplyCommandSchema request.command = true
  · cases happly : applySupplyCommand db request with
    | error error =>
        rw [step, if_pos hschema, happly]
        exact hinvariant
    | ok db' =>
        obtain ⟨havailable, hiff⟩ :=
          lotsAccount_apply_iff hinvariant.available hinvariant.account hschema happly
        rw [step_of_ok hschema happly]
        exact ⟨havailable, hiff.mpr hkeeps⟩
  · rw [step, if_neg hschema]
    exact hinvariant

theorem lotInvariant_opened (ingredients : CheckedTable SupplyIngredient ingredientCheck)
    (locations : Table SupplyLocation) (suppliers stalls : Table Party)
    (recipes : Table RecipeComponent) :
    LotInvariant (.opened ingredients locations suppliers stalls recipes) where
  available := lotsAvailable_empty
  account _ _ := rfl

/-- A run whose steps meet the condition keeps the lots in line with the stock, and an accepted
request after it does so exactly when it meets the condition as well. -/
theorem lots_account_for_stock (ingredients : CheckedTable SupplyIngredient ingredientCheck)
    (locations : Table SupplyLocation) (suppliers stalls : Table Party)
    (recipes : Table RecipeComponent) (requests : List SupplyRequest)
    (hkeeps : Safely step KeepsLots (.opened ingredients locations suppliers stalls recipes)
      requests) :
    LotsAccount (exec step (.opened ingredients locations suppliers stalls recipes) requests)
    ∧ ∀ request db', supplyCommandSchema request.command = true →
        applySupplyCommand
          (exec step (.opened ingredients locations suppliers stalls recipes) requests) request
          = .ok db' →
        (LotsAccount db' ↔ KeepsLots
          (exec step (.opened ingredients locations suppliers stalls recipes) requests)
          request) := by
  have hinvariant := invariant_of_safely LotInvariant
    (fun _ _ hstate hsafe => lotInvariant_step hstate hsafe)
    (lotInvariant_opened ingredients locations suppliers stalls recipes) hkeeps
  refine ⟨hinvariant.account, fun request db' hschema happly => ?_⟩
  exact (lotsAccount_apply_iff hinvariant.available hinvariant.account hschema happly).2

/-! ## Sample runs -/

/-- A delivery and the consumption of a part of it. -/
def consumptionRun : List SupplyRequest :=
  [samplePurchase 10 100, sampleMovement 20 .saleConsumption (-40)]

theorem lots_account_for_consumption :
    LotsAccount (exec step sampleStart consumptionRun) :=
  (lots_account_for_stock sampleIngredients sampleLocations sampleSuppliers .empty .empty
    consumptionRun (by decide +kernel)).1

/-- An adjustment that finds ten more than were recorded. -/
def adjustmentRun : List SupplyRequest := [sampleMovement 20 .adjustment 10]

/-- The stock of an adjustment is in no lot. -/
theorem adjustment_without_lot :
    ∃ requests, ¬ LotsAccount (exec step sampleStart requests) := by
  refine ⟨adjustmentRun, fun haccount => ?_⟩
  have hplace := haccount ⟨1, 1, 1⟩ (by decide +kernel)
  have hdiffers : remainingAt (exec step sampleStart adjustmentRun).lots ⟨1, 1, 1⟩
      ≠ max ((exec step sampleStart adjustmentRun).ledger.quantityAt ⟨1, 1, 1⟩) 0 := by
    decide +kernel
  exact hdiffers hplace

end Stallorder.LotStock
