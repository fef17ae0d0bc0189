import Stallorder.Supply.LotStock

/-!
# The amounts of a purchase

Every line of a purchase is refused above a thousand million, but the lines, the
tax and the freight are added up without a further bound, and the columns of the
sums are 32-bit integers.  A purchase fits exactly when what its quantities and
unit costs come to stays within them.
-/

namespace Stallorder.PurchaseAmounts

open OrderContract Checks SupplyDatabase SupplyService ExactLedger

/-- What a line comes to, to the nearest whole amount. -/
def lineValue (line : PurchaseLine) : ℤ :=
  (line.quantityMicros * line.unitCostMicros + 500_000_000_000) / 1_000_000_000_000

/-- Every amount that is written for a purchase is in the range of its column. -/
def AmountsFit (command : PurchaseCommand) : Prop :=
  ∀ priced, command.lines.mapM priceLine = .ok priced →
    (∀ line ∈ priced, integerAmount line.2 = true)
    ∧ ∀ scope orderId now, purchaseOrderCheck
      (purchaseOrderRow scope orderId now command (priced.map (·.2)).sum) = true

theorem integerAmount_iff {amount : ℤ} :
    integerAmount amount = true ↔ 0 ≤ amount ∧ amount ≤ 2_147_483_647 := by
  unfold integerAmount maxInteger
  rw [Bool.and_eq_true, decide_eq_true_eq, decide_eq_true_eq]

/-! ## Lines -/

section Lines

variable {line : PurchaseLine}

theorem purchaseLineSchema_nonneg (hschema : purchaseLineSchema line = true) :
    0 ≤ line.quantityMicros ∧ 0 ≤ line.unitCostMicros := by
  simp only [purchaseLineSchema, Bool.and_eq_true, decide_eq_true_eq] at hschema
  omega

theorem lineValue_nonneg (hschema : purchaseLineSchema line = true) : 0 ≤ lineValue line := by
  obtain ⟨hquantity, hcost⟩ := purchaseLineSchema_nonneg hschema
  have hproduct := mul_nonneg hquantity hcost
  exact Int.ediv_nonneg (by omega) (by omega)

/-- A line is refused above the bound, and otherwise comes to its value. -/
theorem purchaseLineAmount_eq (hschema : purchaseLineSchema line = true) :
    purchaseLineAmount line
      = if 1_000_000_000 < lineValue line then .error .purchaseAmountTooLarge
        else .ok (lineValue line) := by
  obtain ⟨hquantity, hcost⟩ := purchaseLineSchema_nonneg hschema
  have hproduct := mul_nonneg hquantity hcost
  have hrounded : (line.quantityMicros * line.unitCostMicros + 500_000_000_000).tdiv
      1_000_000_000_000 = lineValue line := Int.tdiv_eq_ediv_of_nonneg (by omega)
  rw [purchaseLineAmount, hrounded]

theorem priceLine_eq_ok (hschema : purchaseLineSchema line = true)
    {priced : PurchaseLine × ℤ} :
    priceLine line = .ok priced ↔
      lineValue line ≤ 1_000_000_000 ∧ priced = (line, lineValue line) := by
  unfold priceLine
  rw [purchaseLineAmount_eq hschema]
  split
  · next hlarge =>
      refine iff_of_false (fun herror => nomatch herror) fun hboth => ?_
      omega
  · next hsmall =>
      constructor
      · intro hok
        cases hok
        exact ⟨not_lt.mp hsmall, rfl⟩
      · rintro ⟨-, rfl⟩
        rfl

end Lines

/-- The lines are priced when none of them is above the bound. -/
theorem mapM_priceLine_iff {lines : List PurchaseLine}
    (hschema : ∀ line ∈ lines, purchaseLineSchema line = true)
    {priced : List (PurchaseLine × ℤ)} :
    lines.mapM priceLine = .ok priced ↔
      (∀ line ∈ lines, lineValue line ≤ 1_000_000_000)
        ∧ priced = lines.map fun line => (line, lineValue line) := by
  induction lines generalizing priced with
  | nil =>
      rw [List.mapM_nil]
      constructor
      · intro hok
        cases hok
        exact ⟨fun line hline => absurd hline List.not_mem_nil, rfl⟩
      · rintro ⟨-, rfl⟩
        rfl
  | cons line lines ih =>
      have hhead := hschema line List.mem_cons_self
      have hrest := fun other hother => hschema other (List.mem_cons_of_mem line hother)
      rw [List.mapM_cons, List.forall_mem_cons, List.map_cons]
      constructor
      · intro hok
        obtain ⟨first, hfirst, hothers⟩ := bind_eq_ok.mp hok
        obtain ⟨others, hmapped, hdone⟩ := bind_eq_ok.mp hothers
        cases hdone
        obtain ⟨hbound, rfl⟩ := (priceLine_eq_ok hhead).mp hfirst
        obtain ⟨hbounds, rfl⟩ := (ih hrest).mp hmapped
        exact ⟨⟨hbound, hbounds⟩, rfl⟩
      · rintro ⟨⟨hbound, hbounds⟩, rfl⟩
        exact bind_eq_ok.mpr ⟨_, (priceLine_eq_ok hhead).mpr ⟨hbound, rfl⟩,
          bind_eq_ok.mpr ⟨_, (ih hrest).mpr ⟨hbounds, rfl⟩, rfl⟩⟩

/-! ## The whole purchase -/

theorem purchaseOrderCheck_iff {command : PurchaseCommand}
    (hschema : receivePurchaseSchema command = true) {subtotal : ℤ} (hsubtotal : 0 ≤ subtotal)
    (scope : SupplyScope) (orderId : Uuid) (now : Timestamp) :
    purchaseOrderCheck (purchaseOrderRow scope orderId now command subtotal) = true ↔
      subtotal + command.taxAmount + command.freightAmount ≤ 2_147_483_647 := by
  simp only [receivePurchaseSchema, Bool.and_eq_true, decide_eq_true_eq] at hschema
  simp only [purchaseOrderCheck, purchaseOrderRow, Bool.and_eq_true, integerAmount_iff]
  omega

/-- The amounts of an accepted purchase fit exactly when a line is refused or the values of its
lines stay within the column together with the tax and the freight. -/
theorem purchase_amounts_fit_iff (command : PurchaseCommand)
    (hschema : receivePurchaseSchema command = true) :
    AmountsFit command ↔
      (∃ line ∈ command.lines, 1_000_000_000 < lineValue line)
      ∨ (command.lines.map lineValue).sum + command.taxAmount + command.freightAmount
        ≤ 2_147_483_647 := by
  have hlines : ∀ line ∈ command.lines, purchaseLineSchema line = true := by
    have hall := hschema
    rw [receivePurchaseSchema, Bool.and_eq_true, List.all_eq_true] at hall
    exact hall.2
  have hsum : 0 ≤ (command.lines.map lineValue).sum := by
    apply List.sum_nonneg
    intro value hvalue
    obtain ⟨line, hline, rfl⟩ := List.mem_map.mp hvalue
    exact lineValue_nonneg (hlines line hline)
  have hvalues : ((command.lines.map fun line => (line, lineValue line)).map (·.2))
      = command.lines.map lineValue := by
    rw [List.map_map]
    rfl
  constructor
  · intro hfit
    by_cases hbounds : ∀ line ∈ command.lines, lineValue line ≤ 1_000_000_000
    · obtain ⟨-, horder⟩ := hfit _ ((mapM_priceLine_iff hlines).mpr ⟨hbounds, rfl⟩)
      rw [hvalues] at horder
      exact Or.inr ((purchaseOrderCheck_iff hschema hsum sampleScope 0 0).mp
        (horder sampleScope 0 0))
    · push Not at hbounds
      exact Or.inl hbounds
  · rintro (⟨line, hline, hlarge⟩ | htotal) priced hpriced
    · have hbound := ((mapM_priceLine_iff hlines).mp hpriced).1 line hline
      exact absurd hlarge (not_lt.mpr hbound)
    · obtain ⟨hbounds, rfl⟩ := (mapM_priceLine_iff hlines).mp hpriced
      refine ⟨fun priced hmem => ?_, fun scope orderId now => ?_⟩
      · obtain ⟨line, hline, rfl⟩ := List.mem_map.mp hmem
        have hvalue := lineValue_nonneg (hlines line hline)
        have hbound := hbounds line hline
        exact integerAmount_iff.mpr ⟨hvalue, by dsimp only; omega⟩
      · rw [hvalues]
        exact (purchaseOrderCheck_iff hschema hsum scope orderId now).mpr htotal

/-- Three lines at the bound. -/
def largePurchase : PurchaseCommand where
  supplierId := 1
  stallId := none
  documentNumber := "P-1".toList
  orderedOn := 0
  expectedOn := none
  taxAmount := 0
  freightAmount := 0
  note := none
  lines := List.replicate 3 {
    ingredientId := 1
    locationId := 1
    quantityMicros := 1_000_000_000
    unitCostMicros := 1_000_000_000_000
    lotNumber := some "A".toList
    manufacturedOn := none
    expiresOn := none }

def largePurchaseIds : PurchaseIds where
  orderId := 1
  line := fun index => ⟨1 + index, 1 + index, 1 + index⟩

/-- The lines are within their bound, their sum is not within its column, and nothing is
received. -/
theorem large_purchase_overflows :
    receivePurchaseSchema largePurchase = true
    ∧ checkPurchase sampleStart sampleScope largePurchase = .ok ()
    ∧ largePurchase.lines.map lineValue = [1_000_000_000, 1_000_000_000, 1_000_000_000]
    ∧ ¬ AmountsFit largePurchase
    ∧ receivePurchase sampleStart sampleScope largePurchaseIds 0 largePurchase
      = .error .constraintViolated := by
  refine ⟨by decide +kernel, by decide +kernel, by decide +kernel, fun hfit => ?_, rfl⟩
  have horder := (hfit (largePurchase.lines.map fun line => (line, lineValue line))
    (by decide +kernel)).2 sampleScope 1 0
  revert horder
  decide +kernel

/-- A purchase of the same lines with the last left out. -/
def fittingPurchase : PurchaseCommand :=
  { largePurchase with lines := largePurchase.lines.take 2 }

theorem fitting_purchase_fits : AmountsFit fittingPurchase :=
  (purchase_amounts_fit_iff fittingPurchase (by decide +kernel)).mpr
    (Or.inr (by decide +kernel))

end Stallorder.PurchaseAmounts
