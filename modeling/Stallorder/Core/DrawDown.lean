import Mathlib

/-!
# Drawing an amount from several sources

An amount is taken from a list of sources, from each as much as it has until the
amount is reached.  What is taken altogether is the smaller of the amount and of
what the sources have, whatever their order.
-/

namespace Stallorder.DrawDown

variable {Source : Type*} (available : Source → ℤ)

/-- The sources that something is taken from, with what is taken, and the part
of the amount that no source covers. -/
def drawDown : ℤ → List Source → List (Source × ℤ) × ℤ
  | amount, [] => ([], amount)
  | amount, source :: sources =>
      if amount = 0 then ([], amount)
      else
        let taken := min (max (available source) 0) amount
        if taken = 0 then drawDown amount sources
        else
          let rest := drawDown (amount - taken) sources
          ((source, taken) :: rest.1, rest.2)

variable {available}

theorem drawDown_zero (sources : List Source) : drawDown available 0 sources = ([], 0) := by
  cases sources <;> rfl

theorem drawDown_cons_of_taken_eq_zero {amount : ℤ} {source : Source} {sources : List Source}
    (htaken : min (max (available source) 0) amount = 0) :
    drawDown available amount (source :: sources) = drawDown available amount sources := by
  rw [drawDown]
  split
  · next hamount => rw [hamount, drawDown_zero]
  · rw [if_pos htaken]

theorem drawDown_cons_of_taken_ne_zero {amount : ℤ} {source : Source} {sources : List Source}
    (hamount : 0 ≤ amount) (htaken : min (max (available source) 0) amount ≠ 0) :
    drawDown available amount (source :: sources)
      = ((source, min (max (available source) 0) amount)
          :: (drawDown available (amount - min (max (available source) 0) amount) sources).1,
        (drawDown available (amount - min (max (available source) 0) amount) sources).2) := by
  have hpos : amount ≠ 0 := by
    rintro rfl
    exact htaken (by simp)
  rw [drawDown, if_neg hpos]
  exact if_neg htaken

variable (available)

/-- From every source that is drawn on, a part of what it has is taken. -/
theorem taken_le_available {amount : ℤ} (hamount : 0 ≤ amount) (sources : List Source) :
    ∀ part ∈ (drawDown available amount sources).1,
      0 < part.2 ∧ part.2 ≤ available part.1 := by
  induction sources generalizing amount with
  | nil => simp [drawDown]
  | cons source sources ih =>
      by_cases htaken : min (max (available source) 0) amount = 0
      · rw [drawDown_cons_of_taken_eq_zero htaken]
        exact ih hamount
      · rw [drawDown_cons_of_taken_ne_zero hamount htaken]
        intro part hpart
        rcases List.mem_cons.mp hpart with rfl | hrest
        · constructor <;> dsimp only <;> omega
        · exact ih (by omega) part hrest

theorem sources_sublist {amount : ℤ} (hamount : 0 ≤ amount) (sources : List Source) :
    ((drawDown available amount sources).1.map Prod.fst).Sublist sources := by
  induction sources generalizing amount with
  | nil => exact List.Sublist.refl []
  | cons source sources ih =>
      by_cases htaken : min (max (available source) 0) amount = 0
      · rw [drawDown_cons_of_taken_eq_zero htaken]
        exact (ih hamount).cons source
      · rw [drawDown_cons_of_taken_ne_zero hamount htaken]
        exact (ih (by omega)).cons_cons source

/-- What is taken altogether. -/
theorem sum_taken {amount : ℤ} (hamount : 0 ≤ amount) (sources : List Source) :
    ((drawDown available amount sources).1.map Prod.snd).sum
      = min amount (sources.map fun source => max (available source) 0).sum := by
  induction sources generalizing amount with
  | nil =>
      rw [drawDown, List.map_nil, List.map_nil, List.sum_nil]
      omega
  | cons source sources ih =>
      have hrest : 0 ≤ (sources.map fun source => max (available source) 0).sum := by
        apply List.sum_nonneg
        intro value hvalue
        obtain ⟨other, -, rfl⟩ := List.mem_map.mp hvalue
        exact le_max_right _ _
      rw [List.map_cons, List.sum_cons]
      by_cases htaken : min (max (available source) 0) amount = 0
      · rw [drawDown_cons_of_taken_eq_zero htaken, ih hamount]
        omega
      · rw [drawDown_cons_of_taken_ne_zero hamount htaken, List.map_cons, List.sum_cons,
          ih (by omega)]
        omega

/-- What is taken and what no source covers make up the amount. -/
theorem sum_taken_add_rest {amount : ℤ} (hamount : 0 ≤ amount) (sources : List Source) :
    ((drawDown available amount sources).1.map Prod.snd).sum
      + (drawDown available amount sources).2 = amount := by
  induction sources generalizing amount with
  | nil =>
      rw [drawDown, List.map_nil, List.sum_nil, zero_add]
  | cons source sources ih =>
      by_cases htaken : min (max (available source) 0) amount = 0
      · rw [drawDown_cons_of_taken_eq_zero htaken, ih hamount]
      · have hrest := @ih (amount - min (max (available source) 0) amount) (by omega)
        rw [drawDown_cons_of_taken_ne_zero hamount htaken, List.map_cons, List.sum_cons]
        dsimp only
        omega

theorem rest_nonneg {amount : ℤ} (hamount : 0 ≤ amount) (sources : List Source) :
    0 ≤ (drawDown available amount sources).2 := by
  have htaken := sum_taken available hamount sources
  have hwhole := sum_taken_add_rest available hamount sources
  omega

variable {available}

/-- The whole of a source is taken as soon as something is left to take after it. -/
theorem taken_eq_available {amount : ℤ} {source : Source} (hpos : 0 < available source)
    (hleft : amount - min (max (available source) 0) amount ≠ 0) :
    min (max (available source) 0) amount = available source := by
  omega

/-- Where a part of the amount is not covered, every source is used up. -/
theorem emptied_of_rest_pos {amount : ℤ} (hamount : 0 ≤ amount) {sources : List Source}
    (hrest : 0 < (drawDown available amount sources).2) {source : Source}
    (hsource : source ∈ sources) (hpos : 0 < available source) :
    (source, available source) ∈ (drawDown available amount sources).1 := by
  induction sources generalizing amount with
  | nil => exact absurd hsource List.not_mem_nil
  | cons head sources ih =>
      by_cases htaken : min (max (available head) 0) amount = 0
      · rw [drawDown_cons_of_taken_eq_zero htaken] at hrest ⊢
        rcases List.mem_cons.mp hsource with rfl | hlater
        · have hzero : amount = 0 := by omega
          rw [hzero, drawDown_zero] at hrest
          exact absurd hrest (lt_irrefl 0)
        · exact ih hamount hrest hlater
      · rw [drawDown_cons_of_taken_ne_zero hamount htaken] at hrest ⊢
        have hleft : amount - min (max (available head) 0) amount ≠ 0 := by
          intro hzero
          dsimp only at hrest
          rw [hzero, drawDown_zero] at hrest
          exact absurd hrest (lt_irrefl 0)
        rcases List.mem_cons.mp hsource with rfl | hlater
        · rw [taken_eq_available hpos hleft]
          exact List.mem_cons_self
        · exact List.mem_cons_of_mem _ (ih (by omega) hrest hlater)

/-- A source is drawn on only when those that come before it in the order are used up. -/
theorem emptied_of_ordered {R : Source → Source → Prop} (hrefl : ∀ source, R source source)
    {amount : ℤ} (hamount : 0 ≤ amount) {sources : List Source} (hordered : sources.Pairwise R)
    {part : Source × ℤ} (hpart : part ∈ (drawDown available amount sources).1)
    {source : Source} (hsource : source ∈ sources) (hpos : 0 < available source)
    (hbefore : ¬ R part.1 source) :
    (source, available source) ∈ (drawDown available amount sources).1 := by
  induction sources generalizing amount with
  | nil => exact absurd hsource List.not_mem_nil
  | cons head sources ih =>
      obtain ⟨hhead, hrestOrdered⟩ := List.pairwise_cons.mp hordered
      by_cases htaken : min (max (available head) 0) amount = 0
      · rw [drawDown_cons_of_taken_eq_zero htaken] at hpart ⊢
        rcases List.mem_cons.mp hsource with rfl | hlater
        · have hzero : amount = 0 := by omega
          rw [hzero, drawDown_zero] at hpart
          exact absurd hpart List.not_mem_nil
        · exact ih hamount hrestOrdered hpart hlater
      · rw [drawDown_cons_of_taken_ne_zero hamount htaken] at hpart ⊢
        rcases List.mem_cons.mp hpart with rfl | hlaterPart
        · -- what is not after the first source is the first source itself
          rcases List.mem_cons.mp hsource with rfl | hlater
          · exact absurd (hrefl source) hbefore
          · exact absurd (hhead source hlater) hbefore
        · have hleft : amount - min (max (available head) 0) amount ≠ 0 := by
            intro hzero
            rw [hzero, drawDown_zero] at hlaterPart
            exact absurd hlaterPart List.not_mem_nil
          rcases List.mem_cons.mp hsource with rfl | hlater
          · rw [taken_eq_available hpos hleft]
            exact List.mem_cons_self
          · exact List.mem_cons_of_mem _ (ih (by omega) hrestOrdered hlaterPart hlater)

end Stallorder.DrawDown
