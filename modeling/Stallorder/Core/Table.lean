import Mathlib

/-!
# Tables with unique indexes

Both storage engines of the development, the object stores of a browser and
the tables of a relational database, refuse a row that repeats a primary key
or the value of a unique index.  A `Table` carries that fact as a field, so a
table with two colliding rows cannot be built and no later proof has to argue
for it again.
-/

namespace Stallorder

/-- The primary key of a kind of row, together with the relation of all its
unique indexes: `collides left right` holds when the two rows agree on one of
them and therefore cannot be stored side by side. -/
class Indexed (Row : Type*) (Key : outParam (Type*)) where
  key : Row → Key
  collides : Row → Row → Bool
  collides_symm : ∀ {left right}, collides left right → collides right left
  collides_of_key_eq : ∀ {left right}, key left = key right → collides left right

/-- A kind of row whose only unique index is its primary key. -/
class KeyIndexed (Row : Type*) (Key : outParam (Type*)) extends Indexed Row Key where
  key_eq_of_collides : ∀ {left right}, collides left right → key left = key right

/-- The index of a row type without further unique indexes. -/
@[reducible]
def KeyIndexed.ofKey {Row Key : Type*} [DecidableEq Key] (key : Row → Key) :
    KeyIndexed Row Key where
  key := key
  collides left right := key left = key right
  collides_symm hcollides := by simpa [eq_comm] using hcollides
  collides_of_key_eq hkey := by simpa using hkey
  key_eq_of_collides hcollides := by simpa using hcollides

/-- One more unique index, over the rows that have a value for it. -/
@[reducible]
def Indexed.addUnique {Row Key Value : Type*} [DecidableEq Value] (base : Indexed Row Key)
    (unique : Row → Option Value) : Indexed Row Key where
  key := base.key
  collides left right :=
    base.collides left right || ((unique left).isSome && unique left = unique right)
  collides_symm hcollides := by
    simp only [Bool.or_eq_true, Bool.and_eq_true, decide_eq_true_eq] at hcollides ⊢
    exact hcollides.imp base.collides_symm fun ⟨hsome, hsame⟩ => ⟨hsame ▸ hsome, hsame.symm⟩
  collides_of_key_eq hkey := by
    rw [Bool.or_eq_true]
    exact Or.inl (base.collides_of_key_eq hkey)

theorem Indexed.collides_addUnique_iff {Row Key Value : Type*} [DecidableEq Value]
    {base : Indexed Row Key} {unique : Row → Option Value} {left right : Row} :
    (base.addUnique unique).collides left right = true ↔
      base.collides left right = true
        ∨ ∃ value, unique left = some value ∧ unique right = some value := by
  change (base.collides left right || ((unique left).isSome && unique left = unique right))
    = true ↔ _
  simp only [Bool.or_eq_true, Bool.and_eq_true, decide_eq_true_eq]
  constructor
  · rintro (hbase | ⟨hsome, hsame⟩)
    · exact Or.inl hbase
    · obtain ⟨value, hvalue⟩ := Option.isSome_iff_exists.mp hsome
      exact Or.inr ⟨value, hvalue, hsame ▸ hvalue⟩
  · rintro (hbase | ⟨value, hleft, hright⟩)
    · exact Or.inl hbase
    · exact Or.inr ⟨by rw [hleft, Option.isSome_some], hleft.trans hright.symm⟩

structure Table (Row : Type*) {Key : Type*} [Indexed Row Key] where
  rows : List Row
  unique : rows.Pairwise fun left right => ¬ Indexed.collides left right

namespace Table

open Indexed

variable {Row Key : Type*} [Indexed Row Key]

instance : Membership Row (Table Row) where
  mem table row := row ∈ table.rows

theorem mem_iff {table : Table Row} {row : Row} : row ∈ table ↔ row ∈ table.rows :=
  Iff.rfl

@[ext]
theorem ext {left right : Table Row} (hrows : left.rows = right.rows) : left = right := by
  cases left
  cases right
  cases hrows
  rfl

def empty : Table Row where
  rows := []
  unique := List.Pairwise.nil

@[simp]
theorem notMem_empty (row : Row) : row ∉ (empty : Table Row) :=
  List.not_mem_nil

/-- Two stored rows that agree on a unique index are the same row. -/
theorem eq_of_collides {table : Table Row} {left right : Row}
    (hleft : left ∈ table) (hright : right ∈ table)
    (hcollides : collides left right) : left = right := by
  by_contra hne
  have hsymm : Std.Symm fun left right : Row => ¬ collides left right :=
    ⟨fun _ _ hnot hback => hnot (collides_symm hback)⟩
  exact table.unique.forall hleft hright hne hcollides

theorem eq_of_key_eq {table : Table Row} {left right : Row}
    (hleft : left ∈ table) (hright : right ∈ table)
    (hkey : key left = key right) : left = right :=
  eq_of_collides hleft hright (collides_of_key_eq hkey)

/-! ## Reading -/

section Reading

variable [DecidableEq Key]

def get? (table : Table Row) (wanted : Key) : Option Row :=
  table.rows.find? fun row => key row = wanted

theorem get?_eq_some_iff {table : Table Row} {wanted : Key} {row : Row} :
    table.get? wanted = some row ↔ row ∈ table ∧ key row = wanted := by
  constructor
  · intro hfound
    have hkey := List.find?_some hfound
    exact ⟨List.mem_of_find?_eq_some hfound, by simpa using hkey⟩
  · rintro ⟨hmem, hkey⟩
    cases hfound : table.get? wanted with
    | none =>
        have hnone := List.find?_eq_none.mp hfound row hmem
        simp [hkey] at hnone
    | some found =>
        have hfoundKey := List.find?_some hfound
        have hfoundMem : found ∈ table := List.mem_of_find?_eq_some hfound
        congr 1
        exact eq_of_key_eq hfoundMem hmem (by rw [hkey]; simpa using hfoundKey)

theorem get?_eq_none_iff {table : Table Row} {wanted : Key} :
    table.get? wanted = none ↔ ∀ row ∈ table, key row ≠ wanted := by
  simp [get?, mem_iff]

theorem get?_of_mem {table : Table Row} {row : Row} (hmem : row ∈ table) :
    table.get? (key row) = some row :=
  get?_eq_some_iff.mpr ⟨hmem, rfl⟩

theorem mem_of_get? {table : Table Row} {wanted : Key} {row : Row}
    (hfound : table.get? wanted = some row) : row ∈ table :=
  (get?_eq_some_iff.mp hfound).1

theorem key_of_get? {table : Table Row} {wanted : Key} {row : Row}
    (hfound : table.get? wanted = some row) : key row = wanted :=
  (get?_eq_some_iff.mp hfound).2

end Reading

/-! ## Inserting -/

/-- Add a row; the unique indexes refuse it by returning `none`. -/
def insert? (table : Table Row) (row : Row) : Option (Table Row) :=
  if hfree : ∀ stored ∈ table.rows, ¬ collides stored row then
    some {
      rows := table.rows ++ [row]
      unique := List.pairwise_append.mpr
        ⟨table.unique, List.pairwise_singleton _ _, by simpa using hfree⟩ }
  else none

theorem rows_of_insert? {table table' : Table Row} {row : Row}
    (hinsert : table.insert? row = some table') :
    table'.rows = table.rows ++ [row] := by
  unfold insert? at hinsert
  split at hinsert
  · cases hinsert
    rfl
  · cases hinsert

theorem mem_of_insert? {table table' : Table Row} {row stored : Row}
    (hinsert : table.insert? row = some table') :
    stored ∈ table' ↔ stored ∈ table ∨ stored = row := by
  simp [mem_iff, rows_of_insert? hinsert]

theorem not_collides_of_insert? {table table' : Table Row} {row stored : Row}
    (hinsert : table.insert? row = some table') (hstored : stored ∈ table) :
    ¬ collides stored row := by
  unfold insert? at hinsert
  split at hinsert
  · next hfree => exact hfree stored hstored
  · cases hinsert

theorem exists_insert? {table : Table Row} {row : Row}
    (hfree : ∀ stored ∈ table, ¬ collides stored row) :
    ∃ table', table.insert? row = some table' :=
  ⟨_, dif_pos hfree⟩

/-- A row that agrees with a storable one on every index is storable too. -/
theorem exists_insert?_of_insert? {table table' : Table Row} {row : Row}
    (hinsert : table.insert? row = some table') (other : Row)
    (hsame : ∀ stored, collides stored other = collides stored row) :
    ∃ changed, table.insert? other = some changed :=
  exists_insert? fun stored hstored => by
    rw [hsame]
    exact not_collides_of_insert? hinsert hstored

/-! ## Deleting -/

/-- Keep the rows that satisfy `keep`. -/
def filter (table : Table Row) (keep : Row → Bool) : Table Row where
  rows := table.rows.filter keep
  unique := table.unique.filter keep

@[simp]
theorem mem_filter {table : Table Row} {keep : Row → Bool} {row : Row} :
    row ∈ table.filter keep ↔ row ∈ table ∧ keep row = true :=
  List.mem_filter

theorem filter_eq_self {table : Table Row} {keep : Row → Bool}
    (hkeep : ∀ row ∈ table, keep row = true) : table.filter keep = table :=
  ext (List.filter_eq_self.mpr hkeep)

/-! ## Updating -/

section Updating

variable [DecidableEq Key]

/-- Rewrite the row stored under one key.  The change may not move the row on
any unique index, so no other row can collide with it afterwards. -/
def update (table : Table Row) (wanted : Key) (change : Row → Row)
    (hchange : ∀ {row other}, collides (change row) other → collides row other) :
    Table Row where
  rows := table.rows.map fun row => if key row = wanted then change row else row
  unique := by
    rw [List.pairwise_map]
    refine table.unique.imp fun {left right} hnot hcollides => hnot ?_
    by_cases hleft : key left = wanted
    · by_cases hright : key right = wanted
      · exact collides_of_key_eq (hleft.trans hright.symm)
      · rw [if_pos hleft, if_neg hright] at hcollides
        exact hchange hcollides
    · by_cases hright : key right = wanted
      · rw [if_neg hleft, if_pos hright] at hcollides
        exact collides_symm (hchange (collides_symm hcollides))
      · rwa [if_neg hleft, if_neg hright] at hcollides

variable {change : Row → Row}
  {hchange : ∀ {row other}, collides (change row) other → collides row other}

theorem mem_update {table : Table Row} {wanted : Key} {stored : Row} :
    stored ∈ table.update wanted change hchange ↔
      (∃ row ∈ table, key row = wanted ∧ change row = stored) ∨
        (stored ∈ table ∧ key stored ≠ wanted) := by
  simp only [mem_iff, update, List.mem_map]
  constructor
  · rintro ⟨row, hmem, rfl⟩
    by_cases hkey : key row = wanted
    · exact Or.inl ⟨row, hmem, hkey, by rw [if_pos hkey]⟩
    · exact Or.inr (by rw [if_neg hkey]; exact ⟨hmem, hkey⟩)
  · rintro (⟨row, hmem, hkey, rfl⟩ | ⟨hmem, hkey⟩)
    · exact ⟨row, hmem, by rw [if_pos hkey]⟩
    · exact ⟨stored, hmem, by rw [if_neg hkey]⟩

/-- An update of a row known to be stored: that row is replaced by its image
and every other row stays. -/
theorem mem_update_of_mem {table : Table Row} {row stored : Row} (hrow : row ∈ table) :
    stored ∈ table.update (key row) change hchange ↔
      stored = change row ∨ (stored ∈ table ∧ key stored ≠ key row) := by
  rw [mem_update]
  constructor
  · rintro (⟨other, hother, hkey, rfl⟩ | hrest)
    · exact Or.inl (by rw [eq_of_key_eq hother hrow hkey])
    · exact Or.inr hrest
  · rintro (rfl | hrest)
    · exact Or.inl ⟨row, hrow, rfl, rfl⟩
    · exact Or.inr hrest

theorem mem_update_of_key {table : Table Row} {wanted : Key} {row : Row} (hrow : row ∈ table)
    (hkey : key row = wanted) : change row ∈ table.update wanted change hchange :=
  mem_update.mpr (Or.inl ⟨row, hrow, hkey, rfl⟩)

theorem mem_update_of_ne {table : Table Row} {wanted : Key} {stored : Row}
    (hstored : stored ∈ table) (hkey : key stored ≠ wanted) :
    stored ∈ table.update wanted change hchange :=
  mem_update.mpr (Or.inr ⟨hstored, hkey⟩)

/-- What relates a row to its change relates every updated row to a stored one. -/
theorem update_back {Related : Row → Row → Prop} (hrefl : ∀ row, Related row row)
    {table : Table Row} {wanted : Key}
    (hrelated : ∀ row ∈ table, key row = wanted → Related row (change row)) {stored : Row}
    (hstored : stored ∈ table.update wanted change hchange) :
    ∃ row ∈ table, Related row stored := by
  rcases mem_update.mp hstored with ⟨row, hrow, hkey, rfl⟩ | ⟨hrow, -⟩
  · exact ⟨row, hrow, hrelated row hrow hkey⟩
  · exact ⟨stored, hrow, hrefl stored⟩

theorem update_forth {Related : Row → Row → Prop} (change : Row → Row)
    (hchange : ∀ {row other}, collides (change row) other → collides row other)
    (hrefl : ∀ row, Related row row) {table : Table Row} {wanted : Key}
    (hrelated : ∀ row ∈ table, key row = wanted → Related row (change row)) {row : Row}
    (hrow : row ∈ table) :
    ∃ stored ∈ table.update wanted change hchange, Related row stored := by
  refine ⟨_, List.mem_map_of_mem hrow, ?_⟩
  by_cases hkey : key row = wanted
  · rw [if_pos hkey]
    exact hrelated row hrow hkey
  · rw [if_neg hkey]
    exact hrefl row

end Updating

/-- Rewrite every row at once, as a relational `UPDATE` does; `none` when the
new rows violate a unique index. -/
def updateAll? (table : Table Row) (change : Row → Row) : Option (Table Row) :=
  if hunique : (table.rows.map change).Pairwise fun left right => ¬ collides left right then
    some { rows := table.rows.map change, unique := hunique }
  else none

theorem rows_of_updateAll? {table table' : Table Row} {change : Row → Row}
    (hupdate : table.updateAll? change = some table') :
    table'.rows = table.rows.map change := by
  unfold updateAll? at hupdate
  split at hupdate
  · cases hupdate
    rfl
  · cases hupdate

theorem mem_of_updateAll? {table table' : Table Row} {change : Row → Row} {stored : Row}
    (hupdate : table.updateAll? change = some table') :
    stored ∈ table' ↔ ∃ row ∈ table, change row = stored := by
  simp [mem_iff, rows_of_updateAll? hupdate]

/-- A change that moves no row on a unique index is never refused. -/
theorem exists_updateAll? (table : Table Row) {change : Row → Row}
    (hchange : ∀ {row other}, collides (change row) other → collides row other) :
    ∃ table', table.updateAll? change = some table' := by
  have hunique : (table.rows.map change).Pairwise fun left right => ¬ collides left right := by
    rw [List.pairwise_map]
    apply table.unique.imp
    intro left right hnot hcollides
    exact hnot (collides_symm (hchange (collides_symm (hchange hcollides))))
  exact ⟨_, dif_pos hunique⟩

/-- One row may be rewritten to whatever no other row collides with. -/
theorem exists_updateOne? [DecidableEq Key] (table : Table Row) {wanted : Key}
    {change : Row → Row}
    (hfree : ∀ row ∈ table, key row = wanted → ∀ other ∈ table, key other ≠ wanted →
      ¬ collides (change row) other) :
    ∃ table', table.updateAll? (fun row => if key row = wanted then change row else row)
      = some table' := by
  have hunique : (table.rows.map fun row => if key row = wanted then change row else row).Pairwise
      fun left right => ¬ collides left right := by
    rw [List.pairwise_map]
    refine table.unique.imp_of_mem fun {left right} hleft hright hnot hcollides => ?_
    by_cases hleftKey : key left = wanted
    · by_cases hrightKey : key right = wanted
      · exact hnot (collides_of_key_eq (hleftKey.trans hrightKey.symm))
      · rw [if_pos hleftKey, if_neg hrightKey] at hcollides
        exact hfree left hleft hleftKey right hright hrightKey hcollides
    · by_cases hrightKey : key right = wanted
      · rw [if_neg hleftKey, if_pos hrightKey] at hcollides
        exact hfree right hright hrightKey left hleft hleftKey (collides_symm hcollides)
      · rw [if_neg hleftKey, if_neg hrightKey] at hcollides
        exact hnot hcollides
  exact ⟨_, dif_pos hunique⟩

/-! ## Rewriting -/

section Rewriting

variable {Row Key : Type*} [KeyIndexed Row Key]

/-- Rewrite the rows, each of which keeps its key. -/
def rewrite (table : Table Row) (change : Row → Row)
    (hkey : ∀ row, key (change row) = key row) : Table Row where
  rows := table.rows.map change
  unique := by
    rw [List.pairwise_map]
    refine table.unique.imp fun {left right} hnot hcollides => hnot ?_
    have hsame := KeyIndexed.key_eq_of_collides hcollides
    exact collides_of_key_eq ((hkey left).symm.trans (hsame.trans (hkey right)))

theorem mem_rewrite {table : Table Row} {change : Row → Row}
    (hkey : ∀ row, key (change row) = key row) {stored : Row} :
    stored ∈ table.rewrite change hkey ↔ ∃ row ∈ table, change row = stored := by
  simp [mem_iff, rewrite]

theorem mem_rewrite_of_mem {table : Table Row} {change : Row → Row}
    (hkey : ∀ row, key (change row) = key row) {row : Row} (hrow : row ∈ table) :
    change row ∈ table.rewrite change hkey :=
  (mem_rewrite hkey).mpr ⟨row, hrow, rfl⟩

theorem get?_rewrite [DecidableEq Key] {table : Table Row} {change : Row → Row}
    {hkey : ∀ row, key (change row) = key row} (wanted : Key) :
    (table.rewrite change hkey).get? wanted = (table.get? wanted).map change := by
  rw [get?, get?, rewrite, List.find?_map]
  congr 2
  funext row
  rw [Function.comp_apply, hkey]

end Rewriting

/-! ## Putting -/

section Putting

variable {Row Key : Type*} [KeyIndexed Row Key] [DecidableEq Key]

/-- Store a row under its key, replacing the row that was there. -/
def put (table : Table Row) (row : Row) : Table Row where
  rows := table.rows.filter (fun stored => key stored ≠ key row) ++ [row]
  unique := by
    refine List.pairwise_append.mpr
      ⟨table.unique.filter _, List.pairwise_singleton _ _, ?_⟩
    intro stored hstored last hlast hcollides
    rw [List.mem_singleton] at hlast
    subst hlast
    have hkey := (List.mem_filter.mp hstored).2
    exact of_decide_eq_true hkey (KeyIndexed.key_eq_of_collides hcollides)

theorem mem_put {table : Table Row} {row stored : Row} :
    stored ∈ table.put row ↔ (stored ∈ table ∧ key stored ≠ key row) ∨ stored = row := by
  simp [mem_iff, put]

@[simp]
theorem get?_put_self (table : Table Row) (row : Row) :
    (table.put row).get? (key row) = some row :=
  get?_eq_some_iff.mpr ⟨mem_put.mpr (Or.inr rfl), rfl⟩

theorem get?_put_of_ne {table : Table Row} {row : Row} {wanted : Key}
    (hne : wanted ≠ key row) : (table.put row).get? wanted = table.get? wanted := by
  ext stored
  rw [get?_eq_some_iff, get?_eq_some_iff, mem_put]
  constructor
  · rintro ⟨⟨hmem, -⟩ | rfl, hkey⟩
    · exact ⟨hmem, hkey⟩
    · exact absurd hkey.symm hne
  · rintro ⟨hmem, hkey⟩
    exact ⟨Or.inl ⟨hmem, by rw [hkey]; exact hne⟩, hkey⟩

end Putting

end Table

/-! ## Check constraints -/

/-- A table whose rows all pass the check constraints of the relation. -/
structure CheckedTable (Row : Type*) {Key : Type*} [Indexed Row Key] (check : Row → Bool) where
  table : Table Row
  checked : ∀ row ∈ table, check row = true

namespace CheckedTable

variable {Row Key : Type*} [Indexed Row Key] {check : Row → Bool}

instance : Membership Row (CheckedTable Row check) where
  mem checked row := row ∈ checked.table

def empty : CheckedTable Row check where
  table := .empty
  checked row hmem := absurd hmem (Table.notMem_empty row)

@[simp]
theorem notMem_empty (row : Row) : row ∉ (empty : CheckedTable Row check) :=
  List.not_mem_nil

/-- The table when every row passes the check. -/
def ofTable? (table : Table Row) : Option (CheckedTable Row check) :=
  if hchecked : ∀ row ∈ table.rows, check row = true then some ⟨table, hchecked⟩ else none

theorem table_of_ofTable? {table : Table Row} {checked : CheckedTable Row check}
    (hofTable : ofTable? table = some checked) : checked.table = table := by
  unfold ofTable? at hofTable
  split at hofTable
  · cases hofTable
    rfl
  · cases hofTable

def insert? (checked : CheckedTable Row check) (row : Row) :
    Option (CheckedTable Row check) :=
  (checked.table.insert? row).bind ofTable?

theorem mem_of_insert? {checked checked' : CheckedTable Row check} {row stored : Row}
    (hinsert : checked.insert? row = some checked') :
    stored ∈ checked' ↔ stored ∈ checked ∨ stored = row := by
  obtain ⟨table, htable, hofTable⟩ := Option.bind_eq_some_iff.mp hinsert
  change stored ∈ checked'.table ↔ _
  rw [table_of_ofTable? hofTable]
  exact Table.mem_of_insert? htable

theorem not_collides_of_insert? {checked checked' : CheckedTable Row check} {row stored : Row}
    (hinsert : checked.insert? row = some checked') (hstored : stored ∈ checked) :
    ¬ Indexed.collides stored row := by
  obtain ⟨table, htable, -⟩ := Option.bind_eq_some_iff.mp hinsert
  exact Table.not_collides_of_insert? htable hstored

/-- The insertion goes through when the row passes the check and collides with none. -/
theorem exists_insert? {checked : CheckedTable Row check} {row : Row} (hcheck : check row = true)
    (hfree : ∀ stored ∈ checked, ¬ Indexed.collides stored row) :
    ∃ checked', checked.insert? row = some checked' := by
  obtain ⟨table, htable⟩ : ∃ table', checked.table.insert? row = some table' :=
    Table.exists_insert? hfree
  have hchecked : ∀ stored ∈ table.rows, check stored = true := by
    intro stored hstored
    rcases (Table.mem_of_insert? htable).mp hstored with hbefore | rfl
    · exact checked.checked stored hbefore
    · exact hcheck
  refine ⟨⟨table, hchecked⟩, ?_⟩
  rw [insert?, htable, Option.bind_some, ofTable?, dif_pos hchecked]

/-- Rewrite the rows that satisfy `wanted`. -/
def updateWhere? (checked : CheckedTable Row check) (wanted : Row → Bool)
    (change : Row → Row) : Option (CheckedTable Row check) :=
  (checked.table.updateAll? fun row => if wanted row then change row else row).bind ofTable?

theorem mem_of_updateWhere? {checked checked' : CheckedTable Row check} {wanted : Row → Bool}
    {change : Row → Row} {stored : Row}
    (hupdate : checked.updateWhere? wanted change = some checked') :
    stored ∈ checked' ↔
      ∃ row ∈ checked, (if wanted row then change row else row) = stored := by
  obtain ⟨table, htable, hofTable⟩ := Option.bind_eq_some_iff.mp hupdate
  change stored ∈ checked'.table ↔ _
  rw [table_of_ofTable? hofTable]
  exact Table.mem_of_updateAll? htable

/-- A change that moves no row on a unique index, and after which the rows still
pass the check, is never refused. -/
theorem exists_updateWhere? (checked : CheckedTable Row check) (wanted : Row → Bool)
    (change : Row → Row)
    (hchange : ∀ {row other}, Indexed.collides (change row) other → Indexed.collides row other)
    (hcheck : ∀ row ∈ checked, wanted row = true → check (change row) = true) :
    ∃ checked', checked.updateWhere? wanted change = some checked' := by
  have hmoved : ∀ {row other : Row},
      Indexed.collides (if wanted row then change row else row) other →
        Indexed.collides row other := by
    intro row other hcollides
    split at hcollides
    · exact hchange hcollides
    · exact hcollides
  obtain ⟨table, htable⟩ := Table.exists_updateAll? checked.table hmoved
  have hchecked : ∀ row ∈ table.rows, check row = true := by
    intro stored hstored
    obtain ⟨row, hrow, hrewritten⟩ := (Table.mem_of_updateAll? htable).mp hstored
    rw [← hrewritten]
    by_cases hwanted : wanted row = true
    · rw [if_pos hwanted]
      exact hcheck row hrow hwanted
    · rw [if_neg hwanted]
      exact checked.checked row hrow
  refine ⟨⟨table, hchecked⟩, ?_⟩
  rw [updateWhere?, htable]
  exact dif_pos hchecked

theorem eq_of_collides {checked : CheckedTable Row check} {left right : Row}
    (hleft : left ∈ checked) (hright : right ∈ checked)
    (hcollides : Indexed.collides left right) : left = right :=
  @Table.eq_of_collides _ _ _ checked.table _ _ hleft hright hcollides

theorem eq_of_key_eq {checked : CheckedTable Row check} {left right : Row}
    (hleft : left ∈ checked) (hright : right ∈ checked)
    (hkey : Indexed.key left = Indexed.key right) : left = right :=
  @Table.eq_of_key_eq _ _ _ checked.table _ _ hleft hright hkey

theorem rows_of_insert? {checked checked' : CheckedTable Row check} {row : Row}
    (hinsert : checked.insert? row = some checked') :
    checked'.table.rows = checked.table.rows ++ [row] := by
  obtain ⟨table, htable, hofTable⟩ := Option.bind_eq_some_iff.mp hinsert
  rw [table_of_ofTable? hofTable, Table.rows_of_insert? htable]

theorem rows_of_updateWhere? {checked checked' : CheckedTable Row check} {wanted : Row → Bool}
    {change : Row → Row} (hupdate : checked.updateWhere? wanted change = some checked') :
    checked'.table.rows
      = checked.table.rows.map fun row => if wanted row then change row else row := by
  obtain ⟨table, htable, hofTable⟩ := Option.bind_eq_some_iff.mp hupdate
  rw [table_of_ofTable? hofTable, Table.rows_of_updateAll? htable]

/-- The first row that satisfies `wanted`. -/
def findFirst (checked : CheckedTable Row check) (wanted : Row → Bool) : Option Row :=
  checked.table.rows.find? wanted

theorem mem_of_findFirst {checked : CheckedTable Row check} {wanted : Row → Bool} {row : Row}
    (hfound : checked.findFirst wanted = some row) : row ∈ checked ∧ wanted row = true :=
  ⟨List.mem_of_find?_eq_some hfound, List.find?_some hfound⟩

end CheckedTable

end Stallorder
