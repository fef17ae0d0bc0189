import Stallorder.Pickup.PickupCodes

/-!
# Pickup codes tell orders apart

A code is free for an order when no other active order of its business date has
it.  Writing a free code is never refused, leaves the order settled, and takes
nothing from an order that is settled already.
-/

namespace Stallorder.PickupCodes

variable {Date : Type} [DecidableEq Date] {businessDate : ℕ → Timestamp → Date}
  {orders orders' : Orders Date} {order other row : PickupOrder Date} {code : Text}

/-! ## Codes -/

theorem digit_injective : ∀ left < 10, ∀ right < 10, digit left = digit right → left = right := by
  decide

theorem candidateCode_injective {left right : ℕ} (hleft : left < 1000) (hright : right < 1000)
    (hsame : candidateCode left = candidateCode right) : left = right := by
  simp only [candidateCode, List.cons.injEq, and_true] at hsame
  have hhundreds := digit_injective _ (by omega) _ (by omega) hsame.1
  have htens := digit_injective _ (by omega) _ (by omega) hsame.2.1
  have hones := digit_injective _ (by omega) _ (by omega) hsame.2.2
  omega

theorem candidateCodes_nodup : candidateCodes.Nodup := by
  refine List.Nodup.map_on (fun left hleft right hright hsame => ?_) List.nodup_range
  rw [List.mem_range] at hleft hright
  have hindex := candidateCode_injective (by omega) (by omega) hsame
  omega

theorem length_candidateCodes : candidateCodes.length = 999 := by
  rw [candidateCodes, List.length_map, List.length_range]

theorem isDigit_digit : ∀ value < 10, (digit value).isDigit = true := by
  decide

theorem isPickupCode_of_mem (hcode : code ∈ candidateCodes) : isPickupCode code = true := by
  obtain ⟨index, hindex, rfl⟩ := List.mem_map.mp hcode
  rw [List.mem_range] at hindex
  have hdigits : isThreeDigits (candidateCode (index + 1)) = true := by
    simp [isThreeDigits, candidateCode, isDigit_digit _ (by omega : (index + 1) / 100 < 10),
      isDigit_digit _ (by omega : (index + 1) / 10 % 10 < 10),
      isDigit_digit _ (by omega : (index + 1) % 10 < 10)]
  have hnonzero : candidateCode (index + 1) ≠ "000".toList := by
    intro hzero
    have hnone := candidateCode_injective (by omega) (by omega)
      (hzero.trans (by decide : "000".toList = candidateCode 0))
    omega
  rw [isPickupCode, hdigits, Bool.true_and, decide_eq_true_eq]
  exact hnonzero

/-! ## Free codes -/

/-- No other active order of the date has the code. -/
def Free (businessDate : ℕ → Timestamp → Date) (orders : Orders Date) (order : PickupOrder Date)
    (code : Text) : Prop :=
  ∀ other ∈ orders, other.id ≠ order.id → other.stallId = order.stallId → isActive other = true →
    serviceDateOf businessDate other = businessDateOf businessDate order →
      other.pickupCodeDisplay ≠ some code

theorem mem_rivals_iff :
    other ∈ rivals businessDate orders order ↔ other ∈ orders ∧ other.id ≠ order.id
      ∧ other.stallId = order.stallId ∧ isActive other = true
      ∧ serviceDateOf businessDate other = businessDateOf businessDate order := by
  simp [rivals, Table.mem_iff, and_assoc]

theorem isTaken_eq_false_iff :
    isTaken businessDate orders order code = false ↔ Free businessDate orders order code := by
  rw [isTaken, List.any_eq_false]
  constructor
  · intro hnone other hother hid hstall hactive hdate
    simpa using hnone other (mem_rivals_iff.mpr ⟨hother, hid, hstall, hactive, hdate⟩)
  · intro hfree other hother
    obtain ⟨hmem, hid, hstall, hactive, hdate⟩ := mem_rivals_iff.mp hother
    simpa using hfree other hmem hid hstall hactive hdate

theorem free_of_ownCode (hown : ownCode businessDate orders order = some code) :
    order.pickupCodeDisplay = some code ∧ isPickupCode code = true
      ∧ Free businessDate orders order code := by
  obtain ⟨hcode, hkept⟩ := Option.filter_eq_some_iff.mp hown
  rw [Bool.and_eq_true, Bool.not_eq_true', isTaken_eq_false_iff] at hkept
  exact ⟨hcode, hkept⟩

theorem free_of_freeCode (hfree : freeCode businessDate orders order = some code) :
    isPickupCode code = true ∧ Free businessDate orders order code := by
  have hmem := List.mem_of_find?_eq_some hfree
  have hkept := List.find?_some hfree
  rw [Bool.not_eq_true', isTaken_eq_false_iff] at hkept
  exact ⟨isPickupCode_of_mem hmem, hkept⟩

/-- Codes run out only when as many orders stand in the way. -/
theorem length_rivals_of_freeCode (hnone : freeCode businessDate orders order = none) :
    999 ≤ (rivals businessDate orders order).length := by
  have hsubset : candidateCodes
      ⊆ (rivals businessDate orders order).filterMap PickupOrder.pickupCodeDisplay := by
    intro code hcode
    have htaken := List.find?_eq_none.mp hnone code hcode
    rw [Bool.not_eq_true', Bool.not_eq_false, isTaken, List.any_eq_true] at htaken
    obtain ⟨other, hother, hsame⟩ := htaken
    exact List.mem_filterMap.mpr ⟨other, hother, of_decide_eq_true hsame⟩
  calc 999 = candidateCodes.length := length_candidateCodes.symm
    _ ≤ ((rivals businessDate orders order).filterMap PickupOrder.pickupCodeDisplay).length :=
        (candidateCodes_nodup.subperm hsubset).length_le
    _ ≤ (rivals businessDate orders order).length := List.length_filterMap_le _ _

/-- Orders that are retired or written for other dates take no code. -/
theorem free_of_subset (hfree : Free businessDate orders order code)
    (hsubset : ∀ other ∈ orders', other.id ≠ order.id → other.stallId = order.stallId →
      isActive other = true → serviceDateOf businessDate other = businessDateOf businessDate order →
      other ∈ orders) : Free businessDate orders' order code :=
  fun other hother hid hstall hactive hdate =>
    hfree other (hsubset other hother hid hstall hactive hdate) hid hstall hactive hdate

/-! ## Writing -/

/-- A free code is never refused by the unique index. -/
theorem exists_writeCode (horder : order ∈ orders)
    (hfree : Free businessDate orders order code) :
    ∃ written, writeCode businessDate orders order code = some written := by
  refine Table.exists_updateOne? orders fun row hrow hid other hother hne hcollides => ?_
  have hsame : row = order := Table.eq_of_key_eq hrow horder hid
  subst hsame
  rcases Indexed.collides_addUnique_iff.mp hcollides with hbase | ⟨key, hkey, hotherKey⟩
  · exact hne (of_decide_eq_true hbase).symm
  · unfold activeCode at hkey hotherKey
    split at hkey
    · split at hotherKey
      · next hactive =>
          obtain ⟨date, hdate, hcode⟩ := Option.bind_eq_some_iff.mp hotherKey
          obtain ⟨display, hdisplay, rfl⟩ := Option.map_eq_some_iff.mp hcode
          simp only [withCode, Option.bind_some, Option.map_some, Option.some.injEq,
            Prod.mk.injEq] at hkey
          obtain ⟨hstall, hserviceDate, rfl⟩ := hkey
          refine hfree other hother hne hstall.symm hactive ?_ hdisplay
          rw [serviceDateOf, hdate, hserviceDate]
          rfl
      · cases hotherKey
    · cases hkey

theorem mem_writeCode_iff (horder : order ∈ orders)
    (hwrite : writeCode businessDate orders order code = some orders') :
    row ∈ orders' ↔ row = withCode (businessDateOf businessDate order) code order
      ∨ (row ∈ orders ∧ row.id ≠ order.id) := by
  rw [Table.mem_of_updateAll? hwrite]
  constructor
  · rintro ⟨stored, hstored, rfl⟩
    by_cases hid : stored.id = order.id
    · have hsame : stored = order := Table.eq_of_key_eq hstored horder hid
      rw [if_pos hid, hsame]
      exact .inl rfl
    · rw [if_neg hid]
      exact .inr ⟨hstored, hid⟩
  · rintro (rfl | ⟨hrow, hid⟩)
    · exact ⟨order, horder, if_pos rfl⟩
    · exact ⟨row, hrow, if_neg hid⟩

/-- The row of an order carries a code that no other active order of the date has. -/
theorem free_writeCode (horder : order ∈ orders) (hfree : Free businessDate orders order code)
    (hwrite : writeCode businessDate orders order code = some orders') :
    Free businessDate orders' (withCode (businessDateOf businessDate order) code order) code := by
  intro other hother hid hstall hactive hdate
  rcases (mem_writeCode_iff horder hwrite).mp hother with rfl | ⟨hold, hne⟩
  · exact absurd rfl hid
  · exact hfree other hold hne hstall hactive hdate

/-! ## Orders with a code of their own -/

/-- An order carries a code for its business date that, while it is active, nobody else has. -/
structure Settled (businessDate : ℕ → Timestamp → Date) (orders : Orders Date)
    (order : PickupOrder Date) (code : Text) : Prop where
  stored : order ∈ orders
  serviceDate : order.pickupCodeServiceDate = some (businessDateOf businessDate order)
  display : order.pickupCodeDisplay = some code
  pickupCode : isPickupCode code = true
  free : isActive order = true → Free businessDate orders order code

theorem Settled.carriesCode (hsettled : Settled businessDate orders order code) :
    carriesCode businessDate order = true := by
  simp [PickupCodes.carriesCode, hsettled.serviceDate, hsettled.display, hsettled.pickupCode]

theorem Settled.serviceDateOf_eq (hsettled : Settled businessDate orders order code) :
    serviceDateOf businessDate order = businessDateOf businessDate order := by
  rw [serviceDateOf, hsettled.serviceDate]
  rfl

theorem settled_of_writeCode (horder : order ∈ orders) (hcode : isPickupCode code = true)
    (hfree : Free businessDate orders order code)
    (hwrite : writeCode businessDate orders order code = some orders') :
    Settled businessDate orders'
      (withCode (businessDateOf businessDate order) code order) code where
  stored := (mem_writeCode_iff horder hwrite).mpr (.inl rfl)
  serviceDate := rfl
  display := rfl
  pickupCode := hcode
  free _ := free_writeCode horder hfree hwrite

/-- The code of another order is not the one that is written. -/
theorem settled_writeCode_of_ne {written : Text} (hsettled : Settled businessDate orders row code)
    (hne : row.id ≠ order.id) (horder : order ∈ orders)
    (hfree : Free businessDate orders order written)
    (hwrite : writeCode businessDate orders order written = some orders') :
    Settled businessDate orders' row code where
  stored := (mem_writeCode_iff horder hwrite).mpr (.inr ⟨hsettled.stored, hne⟩)
  serviceDate := hsettled.serviceDate
  display := hsettled.display
  pickupCode := hsettled.pickupCode
  free hactive := by
    intro other hother hid hstall hotherActive hdate
    rcases (mem_writeCode_iff horder hwrite).mp hother with rfl | ⟨hold, -⟩
    · intro hsame
      have hrow : serviceDateOf businessDate row = businessDateOf businessDate order :=
        hsettled.serviceDateOf_eq.trans hdate.symm
      refine hfree row hsettled.stored hne hstall.symm hactive hrow ?_
      rw [hsettled.display]
      exact hsame.symm
    · exact hsettled.free hactive other hold hid hstall hotherActive hdate

end Stallorder.PickupCodes
