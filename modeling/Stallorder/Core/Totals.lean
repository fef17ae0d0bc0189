import Stallorder.Core.Table

/-!
# Totals over tables

The sum of a measure over the rows of a table, and what the statements on a
table do to it.  Conservation laws are stated with such totals.
-/

namespace Stallorder.Table

open Indexed

variable {Row Key : Type*} [Indexed Row Key]

/-- The sum of a measure over all rows. -/
def total (table : Table Row) (measure : Row → ℤ) : ℤ :=
  (table.rows.map measure).sum

@[simp]
theorem total_empty (measure : Row → ℤ) : (empty : Table Row).total measure = 0 := rfl

theorem total_congr {table : Table Row} {left right : Row → ℤ}
    (hsame : ∀ row ∈ table, left row = right row) : table.total left = table.total right := by
  unfold total
  rw [List.map_congr_left hsame]

theorem total_eq_zero {table : Table Row} {measure : Row → ℤ}
    (hzero : ∀ row ∈ table, measure row = 0) : table.total measure = 0 := by
  unfold total
  refine List.sum_eq_zero fun value hvalue => ?_
  obtain ⟨row, hrow, rfl⟩ := List.mem_map.mp hvalue
  exact hzero row hrow

theorem total_nonneg {table : Table Row} {measure : Row → ℤ}
    (hnonneg : ∀ row ∈ table, 0 ≤ measure row) : 0 ≤ table.total measure := by
  unfold total
  refine List.sum_nonneg fun value hvalue => ?_
  obtain ⟨row, hrow, rfl⟩ := List.mem_map.mp hvalue
  exact hnonneg row hrow

theorem total_insert? {table table' : Table Row} {row : Row} (measure : Row → ℤ)
    (hinsert : table.insert? row = some table') :
    table'.total measure = table.total measure + measure row := by
  unfold total
  rw [rows_of_insert? hinsert, List.map_append, List.sum_append]
  simp

theorem total_sub (table : Table Row) (left right : Row → ℤ) :
    table.total (fun row => left row - right row) = table.total left - table.total right := by
  unfold total
  induction table.rows with
  | nil => rfl
  | cons row rows ih =>
      simp only [List.map_cons, List.sum_cons]
      rw [ih]
      ring

/-! ## Totals over a growing table -/

section Growing

variable [DecidableEq Key]

/-- The measure of the row stored under a key, if any. -/
def measureAt (table : Table Row) (measure : Row → ℤ) (wanted : Key) : ℤ :=
  ((table.get? wanted).map measure).getD 0

theorem measureAt_of_mem {table : Table Row} {row : Row} (measure : Row → ℤ)
    (hrow : row ∈ table) : table.measureAt measure (key row) = measure row := by
  unfold measureAt
  rw [get?_of_mem hrow]
  rfl

theorem measureAt_of_forall_ne {table : Table Row} {wanted : Key} (measure : Row → ℤ)
    (habsent : ∀ row ∈ table, key row ≠ wanted) : table.measureAt measure wanted = 0 := by
  unfold measureAt
  rw [get?_eq_none_iff.mpr habsent]
  rfl

theorem total_eq_sum_keys (table : Table Row) (measure : Row → ℤ) :
    table.total measure
      = ∑ wanted ∈ (table.rows.map key).toFinset, table.measureAt measure wanted := by
  have hnodup : (table.rows.map key).Nodup := by
    rw [List.Nodup, List.pairwise_map]
    exact table.unique.imp fun hnot hkey => hnot (collides_of_key_eq hkey)
  rw [List.sum_toFinset _ hnodup, List.map_map]
  unfold total
  refine congrArg List.sum (List.map_congr_left fun row hrow => ?_)
  exact (measureAt_of_mem measure hrow).symm

/-- A table that has lost no key has the old total when its rows count what was
stored under their keys before. -/
theorem total_measureAt {table table' : Table Row} (measure : Row → ℤ)
    (hkept : ∀ row ∈ table, ∃ row' ∈ table', key row' = key row) :
    table'.total (fun row' => table.measureAt measure (key row')) = table.total measure := by
  have hold : ∀ wanted, table'.measureAt (fun row' => table.measureAt measure (key row')) wanted
      = if wanted ∈ (table'.rows.map key).toFinset then table.measureAt measure wanted else 0 := by
    intro wanted
    by_cases hmem : wanted ∈ (table'.rows.map key).toFinset
    · rw [if_pos hmem]
      obtain ⟨row', hrow', rfl⟩ := List.mem_map.mp (List.mem_toFinset.mp hmem)
      exact measureAt_of_mem _ hrow'
    · rw [if_neg hmem]
      refine measureAt_of_forall_ne _ fun row' hrow' hkey => hmem ?_
      exact List.mem_toFinset.mpr (List.mem_map.mpr ⟨row', hrow', hkey⟩)
  rw [total_eq_sum_keys table', total_eq_sum_keys table]
  symm
  calc ∑ wanted ∈ (table.rows.map key).toFinset, table.measureAt measure wanted
      = ∑ wanted ∈ (table'.rows.map key).toFinset, table.measureAt measure wanted := by
        refine Finset.sum_subset (fun wanted hwanted => ?_) fun wanted _ habsent => ?_
        · obtain ⟨row, hrow, rfl⟩ := List.mem_map.mp (List.mem_toFinset.mp hwanted)
          obtain ⟨row', hrow', hkey⟩ := hkept row hrow
          exact List.mem_toFinset.mpr (List.mem_map.mpr ⟨row', hrow', hkey⟩)
        · refine measureAt_of_forall_ne measure fun row hrow hkey => habsent ?_
          exact List.mem_toFinset.mpr (List.mem_map.mpr ⟨row, hrow, hkey⟩)
    _ = ∑ wanted ∈ (table'.rows.map key).toFinset,
          table'.measureAt (fun row' => table.measureAt measure (key row')) wanted := by
        refine Finset.sum_congr rfl fun wanted hwanted => ?_
        rw [hold, if_pos hwanted]

end Growing

section Updating

variable [DecidableEq Key] (change : Row → Row)
  (hchange : ∀ {row other}, collides (change row) other → collides row other)

/-- Replacing one row changes the total by the difference of its measures. -/
theorem total_update {table : Table Row} {row : Row} (measure : Row → ℤ) (hrow : row ∈ table) :
    (table.update (key row) change hchange).total measure
      = table.total measure + (measure (change row) - measure row) := by
  have hrows : ∀ rows : List Row, row ∈ rows →
      rows.Pairwise (fun left right => ¬ collides left right) →
      ((rows.map fun stored => if key stored = key row then change stored else stored).map
        measure).sum = (rows.map measure).sum + (measure (change row) - measure row) := by
    intro rows hmem hunique
    induction rows with
    | nil => cases hmem
    | cons head tail ih =>
        rw [List.pairwise_cons] at hunique
        rcases List.mem_cons.mp hmem with rfl | htail
        · have hrest : tail.map (fun stored =>
              if key stored = key row then change stored else stored) = tail := by
            conv_rhs => rw [← List.map_id tail]
            refine List.map_congr_left fun stored hstored => ?_
            have hne : key stored ≠ key row := fun hkey =>
              hunique.1 stored hstored (collides_of_key_eq hkey.symm)
            rw [if_neg hne, id]
          rw [List.map_cons, hrest, if_pos rfl]
          simp only [List.map_cons, List.sum_cons]
          ring
        · have hne : key head ≠ key row := fun hkey =>
            hunique.1 row htail (collides_of_key_eq hkey)
          have hih := ih htail hunique.2
          simp only [List.map_cons, List.sum_cons, if_neg hne]
          rw [hih]
          ring
  exact hrows table.rows hrow table.unique

/-- A change that keeps the measure of its row keeps the total. -/
theorem total_update_of_same {table : Table Row} {wanted : Key} (measure : Row → ℤ)
    (hsame : ∀ row ∈ table, key row = wanted → measure (change row) = measure row) :
    (table.update wanted change hchange).total measure = table.total measure := by
  unfold total update
  rw [List.map_map]
  refine congrArg List.sum (List.map_congr_left fun row hrow => ?_)
  rw [Function.comp_apply]
  split
  · next hkey => exact hsame row hrow hkey
  · rfl

/-- Rewriting a row by itself changes nothing. -/
theorem update_eq_self {table : Table Row} {wanted : Key}
    (hfixed : ∀ row ∈ table, key row = wanted → change row = row) :
    table.update wanted change hchange = table := by
  apply ext
  conv_rhs => rw [← List.map_id table.rows]
  refine List.map_congr_left fun row hrow => ?_
  by_cases hkey : key row = wanted
  · rw [if_pos hkey, hfixed row hrow hkey, id]
  · rw [if_neg hkey, id]

theorem get?_update_self {table : Table Row} {row : Row} (hrow : row ∈ table)
    (hkey : key (change row) = key row) :
    (table.update (key row) change hchange).get? (key row) = some (change row) :=
  get?_eq_some_iff.mpr ⟨mem_update_of_key hrow rfl, hkey⟩

theorem get?_update_of_ne {table : Table Row} {wanted other : Key}
    (hkeys : ∀ row ∈ table, key (change row) = key row) (hne : other ≠ wanted) :
    (table.update wanted change hchange).get? other = table.get? other := by
  ext row
  rw [get?_eq_some_iff, get?_eq_some_iff, mem_update]
  constructor
  · rintro ⟨⟨stored, hstored, hkey, rfl⟩ | ⟨hmem, -⟩, hother⟩
    · exact absurd (hother.symm.trans ((hkeys stored hstored).trans hkey)) hne
    · exact ⟨hmem, hother⟩
  · rintro ⟨hmem, hother⟩
    exact ⟨Or.inr ⟨hmem, hother ▸ hne⟩, hother⟩

end Updating

section Filtering

variable [DecidableEq Key]

theorem get?_filter_of_keep {table : Table Row} {keep : Row → Bool} {wanted : Key}
    (hkeep : ∀ row ∈ table, key row = wanted → keep row = true) :
    (table.filter keep).get? wanted = table.get? wanted := by
  ext row
  rw [get?_eq_some_iff, get?_eq_some_iff, mem_filter]
  constructor
  · rintro ⟨⟨hmem, -⟩, hkey⟩
    exact ⟨hmem, hkey⟩
  · rintro ⟨hmem, hkey⟩
    exact ⟨⟨hmem, hkeep row hmem hkey⟩, hkey⟩

end Filtering

end Stallorder.Table
