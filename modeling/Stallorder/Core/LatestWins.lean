import Mathlib

/-!
# Keeping the latest item

A register that only takes an item whose key is at least that of the item it
holds ends with an item of the greatest key, whatever the order in which the
items arrive.  Items with one key are taken in their order of arrival, so the
value that is read from the register does not depend on the order exactly when
the greatest items are read alike.
-/

namespace Stallorder.LatestWins

variable {Item Key Value : Type*} [LinearOrder Key] (key : Item → Key)

/-- The item that the register holds after `next` arrived. -/
def keepLatest (current next : Item) : Item :=
  if key current ≤ key next then next else current

def latest (start : Item) (items : List Item) : Item :=
  items.foldl (keepLatest key) start

@[simp]
theorem latest_nil (start : Item) : latest key start [] = start := rfl

@[simp]
theorem latest_cons (start item : Item) (items : List Item) :
    latest key start (item :: items) = latest key (keepLatest key start item) items := rfl

theorem latest_append (start : Item) (before after : List Item) :
    latest key start (before ++ after) = latest key (latest key start before) after :=
  List.foldl_append

variable {key}

theorem keepLatest_of_le {current next : Item} (hle : key current ≤ key next) :
    keepLatest key current next = next :=
  if_pos hle

theorem keepLatest_of_lt {current next : Item} (hlt : key next < key current) :
    keepLatest key current next = current :=
  if_neg (not_le.mpr hlt)

theorem le_keepLatest_left (current next : Item) :
    key current ≤ key (keepLatest key current next) := by
  by_cases hle : key current ≤ key next
  · rw [keepLatest_of_le hle]
    exact hle
  · rw [keepLatest_of_lt (not_le.mp hle)]

theorem le_keepLatest_right (current next : Item) :
    key next ≤ key (keepLatest key current next) := by
  by_cases hle : key current ≤ key next
  · rw [keepLatest_of_le hle]
  · rw [keepLatest_of_lt (not_le.mp hle)]
    exact (not_le.mp hle).le

theorem start_le_latest (start : Item) (items : List Item) :
    key start ≤ key (latest key start items) := by
  induction items generalizing start with
  | nil => exact le_refl _
  | cons item items ih => exact (le_keepLatest_left start item).trans (ih _)

theorem mem_le_latest {start item : Item} {items : List Item} (hmem : item ∈ items) :
    key item ≤ key (latest key start items) := by
  induction items generalizing start with
  | nil => cases hmem
  | cons head items ih =>
      cases hmem with
      | head => exact (le_keepLatest_right start item).trans (start_le_latest _ _)
      | tail _ hrest => exact ih hrest

/-- The register holds what it started with, or an item that it has taken. -/
theorem latest_eq_start_or_mem (key : Item → Key) (start : Item) (items : List Item) :
    latest key start items = start
      ∨ (latest key start items ∈ items ∧ key start ≤ key (latest key start items)) := by
  induction items generalizing start with
  | nil => exact Or.inl rfl
  | cons item items ih =>
      rw [latest_cons]
      by_cases hle : key start ≤ key item
      · rw [keepLatest_of_le hle]
        rcases ih item with hsame | ⟨hmem, hkey⟩
        · rw [hsame]
          exact Or.inr ⟨List.mem_cons_self, hle⟩
        · exact Or.inr ⟨List.mem_cons_of_mem _ hmem, hle.trans hkey⟩
      · rw [keepLatest_of_lt (not_le.mp hle)]
        exact (ih start).imp_right fun ⟨hmem, hkey⟩ => ⟨List.mem_cons_of_mem _ hmem, hkey⟩

theorem latest_eq_start {start : Item} {items : List Item}
    (hbelow : ∀ item ∈ items, key item < key start) : latest key start items = start := by
  rcases latest_eq_start_or_mem key start items with hsame | ⟨hmem, hkey⟩
  · exact hsame
  · exact absurd hkey (not_le.mpr (hbelow _ hmem))

/-- Once an item can be taken, some item is. -/
theorem latest_mem {start item : Item} {items : List Item} (hmem : item ∈ items)
    (hle : key start ≤ key item) : latest key start items ∈ items := by
  induction items generalizing start with
  | nil => cases hmem
  | cons head items ih =>
      rw [latest_cons]
      by_cases hhead : key start ≤ key head
      · rw [keepLatest_of_le hhead]
        rcases latest_eq_start_or_mem key head items with hsame | ⟨hrest, -⟩
        · rw [hsame]
          exact List.mem_cons_self
        · exact List.mem_cons_of_mem _ hrest
      · rw [keepLatest_of_lt (not_le.mp hhead)]
        cases hmem with
        | head => exact absurd hle hhead
        | tail _ hrest => exact List.mem_cons_of_mem _ (ih hrest hle)

/-- An item that can be taken, and that no other item exceeds. -/
structure IsLatest (key : Item → Key) (start : Item) (items : List Item) (item : Item) :
    Prop where
  mem : item ∈ items
  taken : key start ≤ key item
  greatest : ∀ other ∈ items, key other ≤ key item

theorem isLatest_iff {start item : Item} {items : List Item} :
    IsLatest key start items item ↔
      item ∈ items ∧ key start ≤ key item ∧ ∀ other ∈ items, key other ≤ key item :=
  ⟨fun hlatest => ⟨hlatest.mem, hlatest.taken, hlatest.greatest⟩,
    fun ⟨hmem, htaken, hgreatest⟩ => ⟨hmem, htaken, hgreatest⟩⟩

instance [DecidableEq Item] (start : Item) (items : List Item) (item : Item) :
    Decidable (IsLatest key start items item) :=
  decidable_of_iff' _ isLatest_iff

theorem isLatest_latest {start item : Item} {items : List Item} (hmem : item ∈ items)
    (hle : key start ≤ key item) : IsLatest key start items (latest key start items) where
  mem := latest_mem hmem hle
  taken := start_le_latest start items
  greatest _ hother := mem_le_latest hother

theorem IsLatest.of_same_members {start item : Item} {items others : List Item}
    (hlatest : IsLatest key start items item) (hsame : ∀ other, other ∈ others ↔ other ∈ items) :
    IsLatest key start others item where
  mem := (hsame item).mpr hlatest.mem
  taken := hlatest.taken
  greatest other hother := hlatest.greatest other ((hsame other).mp hother)

/-- An item of the greatest key is what the register holds after it came last. -/
theorem IsLatest.latest_append {start item : Item} {items before : List Item}
    (hlatest : IsLatest key start items item) (hbefore : ∀ other ∈ before, other ∈ items) :
    latest key start (before ++ [item]) = item := by
  rw [LatestWins.latest_append, latest_cons, latest_nil]
  apply keepLatest_of_le
  rcases latest_eq_start_or_mem key start before with hsame | ⟨hmem, -⟩
  · rw [hsame]
    exact hlatest.taken
  · exact hlatest.greatest _ (hbefore _ hmem)

/-- What is read from the register depends on the items only, and not on their
order, when the greatest items are read alike. -/
theorem read_latest_eq {read : Item → Value} {start : Item} {items first second : List Item}
    (hfirst : ∀ item, item ∈ first ↔ item ∈ items)
    (hsecond : ∀ item, item ∈ second ↔ item ∈ items)
    (halike : ∀ left right, IsLatest key start items left → IsLatest key start items right →
      read left = read right) :
    read (latest key start first) = read (latest key start second) := by
  by_cases hsome : ∃ item ∈ items, key start ≤ key item
  · obtain ⟨item, hmem, hle⟩ := hsome
    have hleft := isLatest_latest ((hfirst item).mpr hmem) hle
    have hright := isLatest_latest ((hsecond item).mpr hmem) hle
    exact halike _ _ (hleft.of_same_members fun other => (hfirst other).symm)
      (hright.of_same_members fun other => (hsecond other).symm)
  · have hbelow : ∀ item ∈ items, key item < key start := by
      intro item hmem
      exact not_le.mp fun hle => hsome ⟨item, hmem, hle⟩
    rw [latest_eq_start fun item hmem => hbelow item ((hfirst item).mp hmem),
      latest_eq_start fun item hmem => hbelow item ((hsecond item).mp hmem)]

end Stallorder.LatestWins
