import Mathlib

/-!
# The first items of a queue

A worker takes the first items of a queue that is ordered by a key.  When no
two items share a key, whether an item is among them depends only on how many
items are before it.
-/

namespace Stallorder.FirstOf

variable {Item Key : Type*} [LinearOrder Key] (key : Item → Key)

/-- At most `limit` items, in the order of their keys. -/
def firstOf (limit : ℕ) (items : List Item) : List Item :=
  (items.insertionSort fun left right => key left ≤ key right).take limit

/-- The items that are before an item. -/
def before (items : List Item) (item : Item) : List Item :=
  items.filter fun other => key other < key item

variable {key} {limit : ℕ} {items : List Item} {item : Item}

theorem mem_of_mem_firstOf (hmem : item ∈ firstOf key limit items) : item ∈ items := by
  have hsorted := List.mem_of_mem_take hmem
  exact (List.mem_insertionSort _).mp hsorted

/-- The head of the queue has the least key. -/
theorem head_firstOf_eq_some (hhead : (firstOf key (limit + 1) items).head? = some item) :
    item ∈ items ∧ ∀ other ∈ items, key item ≤ key other := by
  have hsorted := List.pairwise_insertionSort (fun left right => key left ≤ key right) items
  have hmem := fun other =>
    List.mem_insertionSort (x := other) (l := items) fun left right => key left ≤ key right
  unfold firstOf at hhead
  cases hqueue : items.insertionSort fun left right => key left ≤ key right with
  | nil =>
      rw [hqueue] at hhead
      cases hhead
  | cons first rest =>
      rw [hqueue] at hhead hsorted hmem
      cases hhead
      refine ⟨(hmem item).mp List.mem_cons_self, fun other hother => ?_⟩
      rcases List.mem_cons.mp ((hmem other).mpr hother) with rfl | hrest
      · exact le_refl _
      · exact (List.pairwise_cons.mp hsorted).1 other hrest

theorem head_firstOf_eq_none (hhead : (firstOf key (limit + 1) items).head? = none) :
    items = [] := by
  have hlength : (items.insertionSort fun left right => key left ≤ key right).length
      = items.length := List.length_insertionSort _ _
  unfold firstOf at hhead
  cases hqueue : items.insertionSort fun left right => key left ≤ key right with
  | nil =>
      rw [hqueue] at hlength
      exact List.eq_nil_of_length_eq_zero hlength.symm
  | cons first rest =>
      rw [hqueue] at hhead
      cases hhead

theorem exists_head_firstOf (key : Item → Key) (limit : ℕ) (hmem : item ∈ items) :
    ∃ head, (firstOf key (limit + 1) items).head? = some head := by
  cases hhead : (firstOf key (limit + 1) items).head? with
  | none =>
      rw [head_firstOf_eq_none hhead] at hmem
      cases hmem
  | some head => exact ⟨head, rfl⟩

theorem head_firstOf_eq_some_iff (hkeys : (items.map key).Nodup) :
    (firstOf key (limit + 1) items).head? = some item ↔
      item ∈ items ∧ ∀ other ∈ items, key item ≤ key other := by
  constructor
  · exact head_firstOf_eq_some
  · rintro ⟨hmem, hleast⟩
    obtain ⟨head, hhead⟩ := exists_head_firstOf key limit hmem
    obtain ⟨hheadMem, hheadLeast⟩ := head_firstOf_eq_some hhead
    have hsame : key head = key item := le_antisymm (hheadLeast item hmem) (hleast head hheadMem)
    rw [hhead, List.inj_on_of_nodup_map hkeys hheadMem hmem hsame]

/-- An item that joins the queue is its head exactly when it is before the one
that was. -/
theorem head_firstOf_concat (hkeys : ((items ++ [item]).map key).Nodup) :
    (firstOf key (limit + 1) (items ++ [item])).head?
      = if (firstOf key (limit + 1) items).head?.all (key item < key ·) then some item
        else (firstOf key (limit + 1) items).head? := by
  cases hhead : (firstOf key (limit + 1) items).head? with
  | none =>
      rw [head_firstOf_eq_none hhead]
      rfl
  | some head =>
      obtain ⟨hmem, hleast⟩ := head_firstOf_eq_some hhead
      rw [Option.all_some]
      by_cases hbefore : key item < key head
      · rw [if_pos (decide_eq_true hbefore), head_firstOf_eq_some_iff hkeys]
        refine ⟨List.mem_append_right _ (List.mem_singleton_self item), fun other hother => ?_⟩
        rcases List.mem_append.mp hother with hold | hnew
        · exact hbefore.le.trans (hleast other hold)
        · rw [List.mem_singleton.mp hnew]
      · rw [if_neg (by simpa using hbefore), head_firstOf_eq_some_iff hkeys]
        refine ⟨List.mem_append_left _ hmem, fun other hother => ?_⟩
        rcases List.mem_append.mp hother with hold | hnew
        · exact hleast other hold
        · rw [List.mem_singleton.mp hnew]
          exact not_lt.mp hbefore

/-- In a list whose keys grow, an item is among the first ones when fewer items
are before it. -/
theorem mem_take_iff_of_growing (hgrowing : items.Pairwise fun left right => key left < key right)
    (hmem : item ∈ items) : item ∈ items.take limit ↔ (before key items item).length < limit := by
  induction items generalizing limit with
  | nil => cases hmem
  | cons head items ih =>
      obtain ⟨hhead, hrest⟩ := List.pairwise_cons.mp hgrowing
      cases limit with
      | zero => simp
      | succ limit =>
          rw [List.take_succ_cons]
          cases hmem with
          | head =>
              have hnone : before key (item :: items) item = [] := by
                apply List.filter_eq_nil_iff.mpr
                intro other hother
                rw [decide_eq_true_eq, not_lt]
                rcases List.mem_cons.mp hother with rfl | hlater
                · exact le_refl _
                · exact (hhead other hlater).le
              rw [hnone]
              exact iff_of_true List.mem_cons_self (Nat.succ_pos limit)
          | tail _ hlater =>
              have hbefore : before key (head :: items) item = head :: before key items item :=
                List.filter_cons_of_pos (decide_eq_true (hhead item hlater))
              have hne : item ≠ head := by
                rintro rfl
                exact lt_irrefl _ (hhead item hlater)
              rw [hbefore, List.length_cons, Nat.add_lt_add_iff_right, ← ih hrest hlater,
                List.mem_cons]
              exact or_iff_right hne

theorem growing_insertionSort (hkeys : (items.map key).Nodup) :
    (items.insertionSort fun left right => key left ≤ key right).Pairwise
      fun left right => key left < key right := by
  have hperm := List.perm_insertionSort (fun left right => key left ≤ key right) items
  have hsorted := List.pairwise_insertionSort (fun left right => key left ≤ key right) items
  have hdistinct := ((hperm.map key).nodup_iff.mpr hkeys)
  rw [List.Nodup, List.pairwise_map] at hdistinct
  exact (hsorted.and hdistinct).imp fun ⟨hle, hne⟩ => lt_of_le_of_ne hle hne

theorem growing_firstOf (limit : ℕ) (hkeys : (items.map key).Nodup) :
    (firstOf key limit items).Pairwise fun left right => key left < key right :=
  (growing_insertionSort hkeys).sublist (List.take_sublist _ _)

theorem mem_firstOf_iff (hkeys : (items.map key).Nodup) (hmem : item ∈ items) :
    item ∈ firstOf key limit items ↔ (before key items item).length < limit := by
  have hperm := List.perm_insertionSort (fun left right => key left ≤ key right) items
  have hcount : (before key items item).length
      = (before key (items.insertionSort fun left right => key left ≤ key right) item).length :=
    (hperm.filter _).length_eq.symm
  rw [hcount]
  exact mem_take_iff_of_growing (growing_insertionSort hkeys) (hperm.mem_iff.mpr hmem)

/-- What comes before one of the first items is among them. -/
theorem mem_firstOf_of_lt (hkeys : (items.map key).Nodup) {earlier : Item}
    (hmem : item ∈ firstOf key limit items) (hearlier : earlier ∈ items)
    (hlt : key earlier < key item) : earlier ∈ firstOf key limit items := by
  have hrank := (mem_firstOf_iff hkeys (mem_of_mem_firstOf hmem)).mp hmem
  apply (mem_firstOf_iff hkeys hearlier).mpr
  apply lt_of_le_of_lt _ hrank
  apply List.Sublist.length_le
  apply List.monotone_filter_right
  intro other hother
  exact decide_eq_true ((of_decide_eq_true hother).trans hlt)

/-! ## Ranks -/

section Ranks

variable (key) in
/-- How many items are not after an item. -/
def rank (items : List Item) (item : Item) : ℕ := items.countP fun other => key other ≤ key item

theorem rank_cons (head : Item) (items : List Item) (item : Item) :
    rank key (head :: items) item
      = rank key items item + if key head ≤ key item then 1 else 0 := by
  rw [rank, List.countP_cons, ← rank]
  simp only [decide_eq_true_eq]

theorem rank_perm {others : List Item} (hperm : items.Perm others) (item : Item) :
    rank key items item = rank key others item :=
  hperm.countP_eq _

/-- In a list whose keys grow, the ranks are in order. -/
theorem map_rank_of_growing
    (hgrowing : items.Pairwise fun left right => key left < key right) :
    items.map (rank key items) = List.range' 1 items.length := by
  induction items with
  | nil => rfl
  | cons head items ih =>
      obtain ⟨hhead, hrest⟩ := List.pairwise_cons.mp hgrowing
      have hfirst : rank key (head :: items) head = 1 := by
        have hnone : rank key items head = 0 := by
          apply List.countP_eq_zero.mpr
          intro other hother
          simpa using hhead other hother
        rw [rank_cons, hnone, if_pos le_rfl]
      have hlater : items.map (rank key (head :: items))
          = (items.map (rank key items)).map (· + 1) := by
        rw [List.map_map]
        apply List.map_congr_left
        intro item hitem
        rw [rank_cons, if_pos (hhead item hitem).le]
        rfl
      rw [List.map_cons, hfirst, hlater, ih hrest, List.length_cons, List.range'_succ]
      have hshift : (List.range' 1 items.length).map (· + 1) = List.range' 2 items.length := by
        rw [show (· + 1) = (1 + ·) from funext fun rank => Nat.add_comm rank 1]
        exact List.map_add_range' 1 items.length 1
      rw [hshift]

/-- The ranks of a list are the numbers from one on. -/
theorem map_rank_perm (hkeys : (items.map key).Nodup) :
    (items.map (rank key items)).Perm (List.range' 1 items.length) := by
  have hperm := List.perm_insertionSort (fun left right => key left ≤ key right) items
  have hsame : rank key items
      = rank key (items.insertionSort fun left right => key left ≤ key right) := by
    funext item
    exact rank_perm hperm.symm item
  have hranks := map_rank_of_growing (growing_insertionSort hkeys)
  rw [List.length_insertionSort] at hranks
  rw [hsame, ← hranks]
  exact hperm.symm.map _

end Ranks

end Stallorder.FirstOf
