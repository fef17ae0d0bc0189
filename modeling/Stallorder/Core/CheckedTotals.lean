import Stallorder.Core.Totals

/-!
# Totals over tables with check constraints

What the statements on a checked table do to the sum of a measure over its rows,
and the statement that stores a row under its key.
-/

namespace Stallorder

namespace Table

variable {Row Key : Type*} [Indexed Row Key]

theorem total_add (table : Table Row) (left right : Row → ℤ) :
    table.total (fun row => left row + right row) = table.total left + table.total right := by
  have hleft : table.total (fun row => left row + right row - right row) = table.total left :=
    total_congr fun row _ => add_sub_cancel_right _ _
  rw [← hleft, total_sub, sub_add_cancel]

/-- A measure that only one stored row has. -/
theorem total_single [DecidableEq Key] {table : Table Row} {row : Row} (measure : Row → ℤ)
    (hrow : row ∈ table) :
    table.total (fun stored => if Indexed.key stored = Indexed.key row then measure stored else 0)
      = measure row := by
  have hrows : ∀ rows : List Row, row ∈ rows →
      rows.Pairwise (fun left right => ¬ Indexed.collides left right) →
      (rows.map fun stored => if Indexed.key stored = Indexed.key row then measure stored
        else 0).sum = measure row := by
    intro rows hmem hunique
    induction rows with
    | nil => cases hmem
    | cons head tail ih =>
        obtain ⟨hhead, htail⟩ := List.pairwise_cons.mp hunique
        rw [List.map_cons, List.sum_cons]
        rcases List.mem_cons.mp hmem with rfl | hlater
        · have hzero : (tail.map fun stored =>
              if Indexed.key stored = Indexed.key row then measure stored else 0).sum = 0 := by
            apply List.sum_eq_zero
            intro value hvalue
            obtain ⟨stored, hstored, rfl⟩ := List.mem_map.mp hvalue
            exact if_neg fun hkey =>
              hhead stored hstored (Indexed.collides_of_key_eq hkey.symm)
          rw [if_pos rfl, hzero, add_zero]
        · have hne : Indexed.key head ≠ Indexed.key row := fun hkey =>
            hhead row hlater (Indexed.collides_of_key_eq hkey)
          rw [if_neg hne, zero_add]
          exact ih hlater htail
  exact hrows table.rows hrow table.unique

end Table

namespace CheckedTable

variable {Row Key : Type*} [Indexed Row Key] {check : Row → Bool}

def total (checked : CheckedTable Row check) (measure : Row → ℤ) : ℤ :=
  checked.table.total measure

@[simp]
theorem total_empty (measure : Row → ℤ) :
    (empty : CheckedTable Row check).total measure = 0 := rfl

theorem total_congr {checked : CheckedTable Row check} {left right : Row → ℤ}
    (hsame : ∀ row ∈ checked, left row = right row) : checked.total left = checked.total right :=
  Table.total_congr hsame

theorem total_eq_zero {checked : CheckedTable Row check} {measure : Row → ℤ}
    (hzero : ∀ row ∈ checked, measure row = 0) : checked.total measure = 0 :=
  Table.total_eq_zero hzero

theorem total_nonneg {checked : CheckedTable Row check} {measure : Row → ℤ}
    (hnonneg : ∀ row ∈ checked, 0 ≤ measure row) : 0 ≤ checked.total measure :=
  Table.total_nonneg hnonneg

theorem total_insert? {checked checked' : CheckedTable Row check} {row : Row}
    (measure : Row → ℤ) (hinsert : checked.insert? row = some checked') :
    checked'.total measure = checked.total measure + measure row := by
  obtain ⟨table, htable, hofTable⟩ := Option.bind_eq_some_iff.mp hinsert
  rw [total, table_of_ofTable? hofTable]
  exact Table.total_insert? measure htable

/-- After an update the rows are measured as they were rewritten. -/
theorem total_updateWhere? {checked checked' : CheckedTable Row check} {wanted : Row → Bool}
    {change : Row → Row} (measure : Row → ℤ)
    (hupdate : checked.updateWhere? wanted change = some checked') :
    checked'.total measure
      = checked.total fun row => measure (if wanted row then change row else row) := by
  obtain ⟨table, htable, hofTable⟩ := Option.bind_eq_some_iff.mp hupdate
  rw [total, table_of_ofTable? hofTable, Table.total, Table.rows_of_updateAll? htable,
    List.map_map]
  rfl

/-- Rewriting the row of one key changes the total by the difference of its measures. -/
theorem total_updateWhere?_key [DecidableEq Key] {checked checked' : CheckedTable Row check}
    {row : Row} {change : Row → Row} (measure : Row → ℤ) (hrow : row ∈ checked)
    (hupdate : checked.updateWhere? (fun stored => Indexed.key stored = Indexed.key row) change
      = some checked') :
    checked'.total measure = checked.total measure + (measure (change row) - measure row) := by
  have hsingle : checked.table.total (fun stored =>
      if Indexed.key stored = Indexed.key row then measure (change stored) - measure stored
        else 0) = measure (change row) - measure row :=
    Table.total_single (fun stored => measure (change stored) - measure stored) hrow
  rw [total_updateWhere? measure hupdate, ← hsingle, total, total, ← Table.total_add]
  apply Table.total_congr
  intro stored _
  by_cases hkey : Indexed.key stored = Indexed.key row
  · simp only [hkey, decide_true, if_true]
    ring
  · simp only [hkey, decide_false, Bool.false_eq_true, if_false, add_zero]

/-! ## Deleting -/

/-- Keep the rows that satisfy `keep`. -/
def filter (checked : CheckedTable Row check) (keep : Row → Bool) : CheckedTable Row check where
  table := checked.table.filter keep
  checked row hrow := checked.checked row (Table.mem_filter.mp hrow).1

@[simp]
theorem mem_filter {checked : CheckedTable Row check} {keep : Row → Bool} {row : Row} :
    row ∈ checked.filter keep ↔ row ∈ checked ∧ keep row = true :=
  Table.mem_filter

/-! ## Putting -/

section Putting

variable {Row Key : Type*} [KeyIndexed Row Key] [DecidableEq Key] {check : Row → Bool}

/-- Store a row under its key, replacing the row that was there. -/
def put? (checked : CheckedTable Row check) (row : Row) : Option (CheckedTable Row check) :=
  ofTable? (checked.table.put row)

def get? (checked : CheckedTable Row check) (wanted : Key) : Option Row :=
  checked.table.get? wanted

theorem get?_of_put? {checked checked' : CheckedTable Row check} {row : Row}
    (hput : checked.put? row = some checked') (wanted : Key) :
    checked'.get? wanted = if wanted = Indexed.key row then some row else checked.get? wanted := by
  rw [get?, table_of_ofTable? hput]
  by_cases hkey : wanted = Indexed.key row
  · rw [if_pos hkey, hkey, Table.get?_put_self]
  · rw [if_neg hkey, Table.get?_put_of_ne hkey]
    rfl

end Putting

end CheckedTable

end Stallorder
