import Stallorder.Supply.LotStock

/-!
# First-expiring stock is used first

A consuming movement takes what it asks for from the usable lots of its place,
the earliest expiry first.  No lot gives more than it has, nothing stays
uncovered while a usable lot has something left, and a lot is drawn on only
when every usable lot that expires before it is used up.
-/

namespace Stallorder.FirstExpiring

open Checks Run SupplyDatabase SupplyService ExactLedger LotStock

/-- A lot expires before another one; undated lots never do. -/
def expiresEarlier (left right : SupplyLot) : Bool :=
  left.expiresOn.any fun leftExpiry => right.expiresOn.all fun rightExpiry =>
    leftExpiry < rightExpiry

/-- What an allocation of a requested quantity to lots has to satisfy. -/
structure FirstExpiringFirst (lots : List SupplyLot) (requested : ℤ)
    (allocation : List (SupplyLot × ℤ) × ℤ) : Prop where
  /-- Every lot is drawn on at most as often as it is listed. -/
  fromLots : (allocation.1.map Prod.fst).Subperm lots
  within : ∀ part ∈ allocation.1, 0 ≤ part.2 ∧ part.2 ≤ part.1.remainingQuantityMicros
  whole : (allocation.1.map Prod.snd).sum + allocation.2 = requested
  restNonneg : 0 ≤ allocation.2
  emptied : 0 < allocation.2 → ∀ lot ∈ lots, 0 < lot.remainingQuantityMicros →
    (lot, lot.remainingQuantityMicros) ∈ allocation.1
  ordered : ∀ part ∈ allocation.1, ∀ lot ∈ lots, 0 < lot.remainingQuantityMicros →
    expiresEarlier lot part.1 = true → (lot, lot.remainingQuantityMicros) ∈ allocation.1

/-! ## The order of consumption -/

theorem fefoBefore_refl (lot : SupplyLot) : fefoBefore lot lot = true := by
  unfold fefoBefore
  cases lot.expiresOn with
  | none => simp
  | some expiry => simp

theorem fefoBefore_total (left right : SupplyLot) :
    fefoBefore left right = true ∨ fefoBefore right left = true := by
  unfold fefoBefore
  cases left.expiresOn with
  | none =>
      cases right.expiresOn with
      | none => simpa using le_total left.receivedAt right.receivedAt
      | some rightExpiry => simp
  | some leftExpiry =>
      cases right.expiresOn with
      | none => simp
      | some rightExpiry =>
          simp only [Bool.or_eq_true, Bool.and_eq_true, decide_eq_true_eq]
          have hreceived := le_total left.receivedAt right.receivedAt
          grind

theorem fefoBefore_trans {first second third : SupplyLot}
    (hfirst : fefoBefore first second = true) (hsecond : fefoBefore second third = true) :
    fefoBefore first third = true := by
  unfold fefoBefore at hfirst hsecond ⊢
  cases hfirstExpiry : first.expiresOn <;> cases hsecondExpiry : second.expiresOn <;>
    cases hthirdExpiry : third.expiresOn <;>
    simp only [hfirstExpiry, hsecondExpiry, hthirdExpiry, Bool.or_eq_true, Bool.and_eq_true,
      decide_eq_true_eq, Bool.false_eq_true] at hfirst hsecond ⊢ <;> grind

instance : Std.Total fun left right : SupplyLot => fefoBefore left right = true where
  total := fefoBefore_total

instance : IsTrans SupplyLot fun left right => fefoBefore left right = true where
  trans _ _ _ hfirst hsecond := fefoBefore_trans hfirst hsecond

theorem pairwise_fefoBefore (lots : List SupplyLot) :
    (lots.insertionSort fun left right => fefoBefore left right).Pairwise
      fun left right => fefoBefore left right = true :=
  List.pairwise_insertionSort _ lots

/-- A lot that expires earlier comes first in the order. -/
theorem not_fefoBefore_of_expiresEarlier {left right : SupplyLot}
    (hearlier : expiresEarlier left right = true) : ¬ fefoBefore right left = true := by
  unfold expiresEarlier at hearlier
  unfold fefoBefore
  cases hleft : left.expiresOn with
  | none =>
      rw [hleft] at hearlier
      exact absurd hearlier Bool.false_ne_true
  | some leftExpiry =>
      rw [hleft] at hearlier
      cases hright : right.expiresOn with
      | none => exact Bool.false_ne_true
      | some rightExpiry =>
          rw [hright] at hearlier
          simp only [Option.any_some, Option.all_some, decide_eq_true_eq] at hearlier
          simp only [Bool.or_eq_true, Bool.and_eq_true, decide_eq_true_eq]
          omega

theorem firstExpiringFirst_allocate (lots : List SupplyLot) (requested : ℤ) :
    FirstExpiringFirst lots (max requested 0) (allocateFefoLotConsumption lots requested) := by
  have hrequested : 0 ≤ max requested 0 := le_max_right requested 0
  have hperm := List.perm_insertionSort (fun left right => fefoBefore left right) lots
  exact {
    fromLots := (DrawDown.sources_sublist SupplyLot.remainingQuantityMicros
    hrequested _).subperm.trans
      hperm.subperm
    within := by
      intro part hpart
      have htaken := DrawDown.taken_le_available SupplyLot.remainingQuantityMicros hrequested _ part
        hpart
      exact ⟨htaken.1.le, htaken.2⟩
    whole := DrawDown.sum_taken_add_rest SupplyLot.remainingQuantityMicros hrequested _
    restNonneg := DrawDown.rest_nonneg SupplyLot.remainingQuantityMicros hrequested _
    emptied := by
      intro hrest lot hlot hleft
      exact DrawDown.emptied_of_rest_pos hrequested hrest (hperm.mem_iff.mpr hlot) hleft
    ordered := by
      intro part hpart lot hlot hleft hearlier
      exact DrawDown.emptied_of_ordered fefoBefore_refl hrequested (pairwise_fefoBefore lots)
        hpart (hperm.mem_iff.mpr hlot) hleft (not_fefoBefore_of_expiresEarlier hearlier) }

/-! ## What a consuming movement writes -/

/-- The lots after the parts of a consumption have been taken off them. -/
theorem mem_of_consume {lots lots' : CheckedTable SupplyLot lotCheck}
    {parts : List (SupplyLot × ℤ)} (hparts : ∀ part ∈ parts, part.1 ∈ lots)
    (hdistinct : (parts.map fun part => part.1.id).Nodup)
    (hconsume : parts.foldlM (fun lots part => updateLot lots part.1.id (consumed part)) lots
      = .ok lots')
    {stored : SupplyLot} :
    stored ∈ lots' ↔ (∃ part ∈ parts, stored = consumed part part.1)
      ∨ (stored ∈ lots ∧ ∀ part ∈ parts, stored.id ≠ part.1.id) := by
  induction parts generalizing lots with
  | nil =>
      cases hconsume
      simp
  | cons part parts ih =>
      obtain ⟨next, hnext, hrest⟩ := foldlM_cons_eq_ok.mp hconsume
      obtain ⟨hfresh, hdistinctRest⟩ := List.nodup_cons.mp hdistinct
      have hhead := hparts part List.mem_cons_self
      have hne : ∀ other ∈ parts, other.1.id ≠ part.1.id := fun other hother hid =>
        hfresh (List.mem_map.mpr ⟨other, hother, hid⟩)
      have hkept : ∀ other ∈ parts, other.1 ∈ next := fun other hother =>
        (mem_of_updateLot hhead hnext).mpr
          (Or.inr ⟨hparts other (List.mem_cons_of_mem _ hother), hne other hother⟩)
      rw [ih hkept hdistinctRest hrest, mem_of_updateLot hhead hnext]
      constructor
      · rintro (⟨other, hother, rfl⟩ | ⟨rfl | ⟨hstored, hid⟩, hothers⟩)
        · exact Or.inl ⟨other, List.mem_cons_of_mem _ hother, rfl⟩
        · exact Or.inl ⟨part, List.mem_cons_self, rfl⟩
        · refine Or.inr ⟨hstored, fun other hother => ?_⟩
          rcases List.mem_cons.mp hother with rfl | hlater
          · exact hid
          · exact hothers other hlater
      · rintro (⟨other, hother, rfl⟩ | ⟨hstored, hothers⟩)
        · rcases List.mem_cons.mp hother with rfl | hlater
          · exact Or.inr ⟨Or.inl rfl, fun later hlater => (hne later hlater).symm⟩
          · exact Or.inl ⟨other, hlater, rfl⟩
        · exact Or.inr ⟨Or.inr ⟨hstored, hothers part List.mem_cons_self⟩,
            fun other hother => hothers other (List.mem_cons_of_mem _ hother)⟩

/-- What the stored lots are after a quantity has been consumed from usable lots. -/
structure TakesFirstExpiring (lots lots' : CheckedTable SupplyLot lotCheck)
    (usable : List SupplyLot) (quantity : ℤ) : Prop where
  allocation : FirstExpiringFirst usable quantity (allocateFefoLotConsumption usable quantity)
  written : ∀ stored, stored ∈ lots' ↔
    (∃ part ∈ (allocateFefoLotConsumption usable quantity).1, stored = consumed part part.1)
      ∨ (stored ∈ lots
        ∧ ∀ part ∈ (allocateFefoLotConsumption usable quantity).1, stored.id ≠ part.1.id)
  /-- Where a usable lot has changed, those that expire earlier are used up. -/
  earlierUsedUp : ∀ lot ∈ usable, lot ∉ lots' → ∀ earlier ∈ usable,
    expiresEarlier earlier lot = true →
      ∃ stored ∈ lots', stored.id = earlier.id ∧ stored.remainingQuantityMicros = 0

theorem consumableLots_pos {lots : CheckedTable SupplyLot lotCheck} {place : SupplyPlace}
    {movementType : MovementType} {lot : SupplyLot}
    (hlot : lot ∈ consumableLots lots place movementType) : 0 < lot.remainingQuantityMicros := by
  have hkeep := (List.mem_filter.mp hlot).2
  rw [Bool.and_eq_true, Bool.and_eq_true, decide_eq_true_eq, decide_eq_true_eq] at hkeep
  exact hkeep.1.2

theorem takesFirstExpiring_consumeLots {lots lots' : CheckedTable SupplyLot lotCheck}
    {place : SupplyPlace} {movementType : MovementType} {quantity : ℤ} (hquantity : 0 ≤ quantity)
    (hconsume : consumeLots lots place movementType quantity = .ok lots') :
    TakesFirstExpiring lots lots' (consumableLots lots place movementType) quantity := by
  have hallocation := firstExpiringFirst_allocate (consumableLots lots place movementType) quantity
  rw [max_eq_left hquantity] at hallocation
  have hfound : ∀ part ∈ (allocateFefoLotConsumption (consumableLots lots place movementType)
      quantity).1, part.1 ∈ consumableLots lots place movementType := fun part hpart =>
    hallocation.fromLots.subset (List.mem_map_of_mem hpart)
  have hdistinct : ((allocateFefoLotConsumption (consumableLots lots place movementType)
      quantity).1.map fun part => part.1.id).Nodup := by
    obtain ⟨drawn, hdrawn, hsublist⟩ := hallocation.fromLots
    have hids := ((hdrawn.map SupplyLot.id).nodup_iff).mp
      ((hsublist.map SupplyLot.id).nodup (nodup_consumableLots place movementType))
    rwa [List.map_map] at hids
  have hwritten := fun stored => @mem_of_consume lots lots' _
    (fun part hpart => (mem_consumableLots (hfound part hpart)).1) hdistinct hconsume stored
  refine ⟨hallocation, hwritten, fun lot hlot hgone earlier hearlier hbefore => ?_⟩
  -- the changed lot is one of those that are drawn on
  have htouched : ∃ part ∈ (allocateFefoLotConsumption
      (consumableLots lots place movementType) quantity).1, part.1 = lot := by
    by_contra hnone
    refine hgone ((hwritten lot).mpr (Or.inr ⟨(mem_consumableLots hlot).1, ?_⟩))
    intro part hpart hid
    refine hnone ⟨part, hpart, ?_⟩
    exact CheckedTable.eq_of_key_eq (mem_consumableLots (hfound part hpart)).1
      (mem_consumableLots hlot).1 hid.symm
  obtain ⟨part, hpart, rfl⟩ := htouched
  have hused := hallocation.ordered part hpart earlier hearlier (consumableLots_pos hearlier)
    hbefore
  exact ⟨consumed (earlier, earlier.remainingQuantityMicros) earlier,
    (hwritten _).mpr (Or.inl ⟨_, hused, rfl⟩), rfl, sub_self _⟩

/-- The lots that a posted movement of an ingredient consumes from. -/
def usableLots (db : SupplyDb) (scope : SupplyScope) (command : MovementCommand) :
    List SupplyLot :=
  consumableLots db.lots (command.place scope.organizationId) command.movementType

/-- Every allocation is by expiry, and a consuming movement of a tracked ingredient writes it to
the lots. -/
theorem first_expiring_stock_first :
    (∀ lots requested,
      FirstExpiringFirst lots (max requested 0) (allocateFefoLotConsumption lots requested))
    ∧ ∀ db scope movementId command db' movement ingredient,
      postNewMovement db scope movementId command = .ok (db', movement) →
      activeIngredient db scope.organizationId command.ingredientId = some ingredient →
      ingredient.trackExpiry = true → command.quantityDeltaMicros < 0 →
        movement = postedMovement scope movementId command
        ∧ movement ∈ db'.ledger.movements
        ∧ TakesFirstExpiring db.lots db'.lots (usableLots db scope command)
          (-command.quantityDeltaMicros) := by
  refine ⟨firstExpiringFirst_allocate, ?_⟩
  intro db scope movementId command db' movement ingredient hpost hactive htrack hdelta
  obtain ⟨found, ledger, lots, hfound, hledger, hlots, hresult⟩ := postNewMovement_eq_ok hpost
  cases hresult
  cases hactive.symm.trans hfound
  have hconsumes : (ingredient.trackExpiry
      && (postedMovement scope movementId command).quantityDeltaMicros < 0) = true := by
    rw [htrack, Bool.true_and]
    exact decide_eq_true hdelta
  rw [lotsAfterMovement, if_pos hconsumes] at hlots
  have hrecorded := (CheckedTable.mem_of_insert? (recordMovement_eq_ok hledger).1).mpr
    (Or.inr rfl)
  exact ⟨rfl, hrecorded, takesFirstExpiring_consumeLots (by omega) hlots⟩

/-- The delivery of a lot of the sample ingredient. -/
def lotPurchase (quantity : ℕ) (lotNumber : String) (expiresOn : Option ℤ) :
    PurchaseCommand where
  supplierId := 1
  stallId := none
  documentNumber := lotNumber.toList
  orderedOn := 0
  expectedOn := none
  taxAmount := 0
  freightAmount := 0
  note := none
  lines := [{
    ingredientId := 1
    locationId := 1
    quantityMicros := quantity
    unitCostMicros := 30
    lotNumber := some lotNumber.toList
    manufacturedOn := none
    expiresOn := expiresOn }]

def lotRequest (orderId quantity : ℕ) (lotNumber : String) (expiresOn : Option ℤ) :
    SupplyRequest where
  scope := sampleScope
  now := orderId
  command := .receivePurchase
    { orderId := orderId, line := fun index => ⟨orderId + index, orderId + index, orderId + index⟩ }
    (lotPurchase quantity lotNumber expiresOn)

/-- Three lots, the last delivered of which expires first. -/
def threeLots : SupplyDb :=
  exec step sampleStart [lotRequest 10 100 "A" none, lotRequest 20 50 "B" (some 9),
    lotRequest 30 20 "C" (some 4)]

def sampleConsumption : MovementCommand where
  ingredientId := 1
  locationId := 1
  movementType := .saleConsumption
  quantityDeltaMicros := -60
  unitCostMicros := none
  sourceType := "SALE".toList
  sourceId := "1".toList
  idempotencyKey := "sale-1".toList
  reason := "sale".toList

theorem sample_consumption_first_expiring_first :
    ∃ db' movement,
      postNewMovement threeLots sampleScope 40 sampleConsumption = .ok (db', movement)
      ∧ TakesFirstExpiring threeLots.lots db'.lots
        (usableLots threeLots sampleScope sampleConsumption) 60
      ∧ db'.lots.table.rows.map (·.remainingQuantityMicros) = [100, 10, 0] := by
  have hrows : (postNewMovement threeLots sampleScope 40 sampleConsumption).toOption.map
      (fun result => result.1.lots.table.rows.map (·.remainingQuantityMicros))
        = some [100, 10, 0] := by
    decide +kernel
  have hingredient : (activeIngredient threeLots sampleScope.organizationId
      sampleConsumption.ingredientId).map (·.trackExpiry) = some true := by
    decide +kernel
  obtain ⟨ingredient, hactive, htrack⟩ := Option.map_eq_some_iff.mp hingredient
  cases hpost : postNewMovement threeLots sampleScope 40 sampleConsumption with
  | error error =>
      rw [hpost] at hrows
      cases hrows
  | ok result =>
      rw [hpost] at hrows
      obtain ⟨db', movement⟩ := result
      have htakes := first_expiring_stock_first.2 threeLots sampleScope 40 sampleConsumption db'
        movement ingredient hpost hactive htrack (by decide)
      exact ⟨db', movement, rfl, htakes.2.2, Option.some.inj hrows⟩

end Stallorder.FirstExpiring
