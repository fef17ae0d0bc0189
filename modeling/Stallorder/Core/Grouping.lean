import Mathlib

/-!
# Grouping by a key

Items are collected into groups by their key; a group is made by its first item
and extended by every later one.  The groups stand in the order in which their
keys first occur.  Grouping loses nothing: the parts that the groups are made of
are those of the items, and every key has one group.
-/

namespace Stallorder.Grouping

variable {Item Key Group Part : Type*} [DecidableEq Key]

/-- Extend the group with a key, or make it. -/
def put (add : Option Group → Item → Group) (key : Key) (item : Item) :
    List (Key × Group) → List (Key × Group)
  | [] => [(key, add none item)]
  | (other, group) :: groups =>
      if other = key then (other, add (some group) item) :: groups
      else (other, group) :: put add key item groups

def groupBy (key : Item → Key) (add : Option Group → Item → Group) (items : List Item) :
    List (Key × Group) :=
  items.foldl (fun groups item => put add (key item) item groups) []

variable {key : Item → Key} {add : Option Group → Item → Group}

theorem groupBy_concat (items : List Item) (item : Item) :
    groupBy key add (items ++ [item]) = put add (key item) item (groupBy key add items) := by
  rw [groupBy, List.foldl_append]
  rfl

/-! ## Every group -/

theorem forall_mem_put (Holds : Key → Group → Prop) {inserted : Key} {item : Item}
    (hmake : Holds inserted (add none item))
    (hextend : ∀ group, Holds inserted group → Holds inserted (add (some group) item))
    {groups : List (Key × Group)} (hgroups : ∀ group ∈ groups, Holds group.1 group.2) :
    ∀ group ∈ put add inserted item groups, Holds group.1 group.2 := by
  induction groups with
  | nil =>
      intro group hgroup
      cases List.mem_singleton.mp hgroup
      exact hmake
  | cons pair groups ih =>
      obtain ⟨other, found⟩ := pair
      have hfound : Holds other found := hgroups _ List.mem_cons_self
      have hrest : ∀ group ∈ groups, Holds group.1 group.2 := fun group hgroup =>
        hgroups group (List.mem_cons_of_mem _ hgroup)
      intro group hgroup
      unfold put at hgroup
      by_cases hother : other = inserted
      · subst hother
        rw [if_pos rfl, List.mem_cons] at hgroup
        rcases hgroup with rfl | hgroup
        · exact hextend found hfound
        · exact hrest group hgroup
      · rw [if_neg hother, List.mem_cons] at hgroup
        rcases hgroup with rfl | hgroup
        · exact hfound
        · exact ih hrest group hgroup

/-- What holds of a new group and stays true as it grows holds of every group. -/
theorem forall_mem_groupBy (Holds : Key → Group → Prop)
    (hmake : ∀ item, Holds (key item) (add none item))
    (hextend : ∀ group item, Holds (key item) group → Holds (key item) (add (some group) item))
    (items : List Item) : ∀ group ∈ groupBy key add items, Holds group.1 group.2 := by
  induction items using List.reverseRecOn with
  | nil => exact fun group hgroup => absurd hgroup List.not_mem_nil
  | append_singleton items item ih =>
      rw [groupBy_concat]
      exact forall_mem_put Holds (hmake item) (fun group => hextend group item) ih

/-! ## Nothing is lost -/

section Parts

variable (parts : Group → List Part) (part : Item → Part)
  (hmake : ∀ item, parts (add none item) = [part item])
  (hextend : ∀ group item, parts (add (some group) item) = parts group ++ [part item])
include hmake hextend

theorem flatMap_put_perm (inserted : Key) (item : Item) (groups : List (Key × Group)) :
    ((put add inserted item groups).flatMap fun group => parts group.2).Perm
      ((groups.flatMap fun group => parts group.2) ++ [part item]) := by
  induction groups with
  | nil =>
      rw [put, List.flatMap_singleton, hmake]
      exact List.Perm.refl _
  | cons pair groups ih =>
      obtain ⟨other, group⟩ := pair
      unfold put
      by_cases hother : other = inserted
      · rw [if_pos hother, List.flatMap_cons, List.flatMap_cons, hextend, List.append_assoc,
          List.append_assoc]
        exact (List.perm_append_comm).append_left _
      · rw [if_neg hother, List.flatMap_cons, List.flatMap_cons, List.append_assoc]
        exact ih.append_left _

theorem flatMap_groupBy_perm (items : List Item) :
    ((groupBy key add items).flatMap fun group => parts group.2).Perm (items.map part) := by
  induction items using List.reverseRecOn with
  | nil => exact List.Perm.refl _
  | append_singleton items item ih =>
      rw [groupBy_concat, List.map_append]
      exact (flatMap_put_perm parts part hmake hextend (key item) item _).trans (ih.append_right _)

end Parts

/-! ## The group of a key -/

def groupAt (key : Key) (groups : List (Key × Group)) : Option Group :=
  (groups.find? (·.1 = key)).map Prod.snd

theorem groupAt_cons (sought : Key) (pair : Key × Group) (groups : List (Key × Group)) :
    groupAt sought (pair :: groups)
      = if pair.1 = sought then some pair.2 else groupAt sought groups := by
  by_cases hsame : pair.1 = sought
  · simp [groupAt, hsame]
  · simp [groupAt, hsame]

theorem groupAt_put (sought inserted : Key) (item : Item) (groups : List (Key × Group)) :
    groupAt sought (put add inserted item groups)
      = if sought = inserted then some (add (groupAt inserted groups) item)
        else groupAt sought groups := by
  induction groups with
  | nil =>
      rw [put, groupAt_cons]
      by_cases hsame : sought = inserted
      · rw [if_pos hsame, if_pos hsame.symm]
        rfl
      · rw [if_neg hsame, if_neg (Ne.symm hsame)]
  | cons pair groups ih =>
      obtain ⟨other, group⟩ := pair
      unfold put
      by_cases hother : other = inserted
      · subst hother
        rw [if_pos rfl, groupAt_cons, groupAt_cons, groupAt_cons, if_pos rfl]
        by_cases hsame : sought = other
        · rw [if_pos hsame, if_pos hsame.symm]
        · rw [if_neg hsame, if_neg (Ne.symm hsame), if_neg (Ne.symm hsame)]
      · rw [if_neg hother, groupAt_cons, groupAt_cons, groupAt_cons, if_neg hother, ih]
        by_cases hsame : sought = inserted
        · rw [if_pos hsame, if_pos hsame, if_neg (by rw [hsame]; exact hother)]
        · rw [if_neg hsame, if_neg hsame]

theorem mem_keys_put (sought inserted : Key) (item : Item) (groups : List (Key × Group)) :
    sought ∈ (put add inserted item groups).map Prod.fst
      ↔ sought = inserted ∨ sought ∈ groups.map Prod.fst := by
  induction groups with
  | nil =>
      rw [put, List.map_singleton, List.mem_singleton, List.map_nil, or_iff_left List.not_mem_nil]
  | cons pair groups ih =>
      obtain ⟨other, group⟩ := pair
      unfold put
      by_cases hother : other = inserted
      · rw [if_pos hother, List.map_cons, List.map_cons, List.mem_cons, hother, or_self_left]
      · rw [if_neg hother, List.map_cons, List.map_cons, List.mem_cons, List.mem_cons, ih,
          or_left_comm]

theorem nodup_keys_groupBy (items : List Item) :
    ((groupBy key add items).map Prod.fst).Nodup := by
  have hput : ∀ (inserted : Key) (item : Item) (groups : List (Key × Group)),
      (groups.map Prod.fst).Nodup → ((put add inserted item groups).map Prod.fst).Nodup := by
    intro inserted item groups
    induction groups with
    | nil => exact fun _ => List.nodup_singleton _
    | cons pair groups ih =>
        obtain ⟨other, group⟩ := pair
        intro hnodup
        obtain ⟨hfresh, hrest⟩ := List.nodup_cons.mp hnodup
        unfold put
        by_cases hother : other = inserted
        · rw [if_pos hother]
          exact hnodup
        · rw [if_neg hother]
          apply List.nodup_cons.mpr
          refine ⟨?_, ih hrest⟩
          rw [mem_keys_put, not_or]
          exact ⟨hother, hfresh⟩
  induction items using List.reverseRecOn with
  | nil => exact List.nodup_nil
  | append_singleton items item ih =>
      rw [groupBy_concat]
      exact hput (key item) item _ ih

theorem mem_iff_groupAt {groups : List (Key × Group)} (hkeys : (groups.map Prod.fst).Nodup)
    {sought : Key} {group : Group} :
    (sought, group) ∈ groups ↔ groupAt sought groups = some group := by
  induction groups with
  | nil => exact iff_of_false List.not_mem_nil (Option.some_ne_none group).symm
  | cons pair groups ih =>
      obtain ⟨other, found⟩ := pair
      obtain ⟨hfresh, hrest⟩ := List.nodup_cons.mp hkeys
      rw [groupAt_cons, List.mem_cons, Prod.mk.injEq]
      by_cases hsame : other = sought
      · subst hsame
        rw [if_pos rfl, Option.some.injEq, or_iff_left]
        · exact ⟨fun hpair => hpair.2.symm, fun heq => ⟨rfl, heq.symm⟩⟩
        · intro hmem
          exact hfresh (List.mem_map.mpr ⟨_, hmem, rfl⟩)
      · rw [if_neg hsame, ← ih hrest]
        exact or_iff_right fun hpair => hsame hpair.1.symm

/-- The items of each key, in their order. -/
def collect (key : Item → Key) (items : List Item) : List (Key × List Item) :=
  groupBy key (fun group item => group.getD [] ++ [item]) items

theorem groupAt_collect (items : List Item) (sought : Key) :
    (groupAt sought (collect key items)).getD [] = items.filter (key · = sought)
      ∧ groupAt sought (collect key items) ≠ some [] := by
  induction items using List.reverseRecOn with
  | nil => exact ⟨rfl, (Option.some_ne_none _).symm⟩
  | append_singleton items item ih =>
      rw [collect, groupBy_concat, ← collect, groupAt_put, List.filter_append]
      by_cases hsame : sought = key item
      · subst hsame
        rw [if_pos rfl, ih.1, List.filter_singleton, decide_eq_true rfl]
        refine ⟨rfl, fun hnil => ?_⟩
        exact List.append_ne_nil_of_right_ne_nil _ (List.cons_ne_nil _ _) (Option.some.inj hnil)
      · rw [if_neg hsame, List.filter_singleton, decide_eq_false (Ne.symm hsame)]
        refine ⟨?_, ih.2⟩
        rw [ih.1]
        exact (List.append_nil _).symm

theorem mem_collect_iff {items : List Item} {sought : Key} {group : List Item} :
    (sought, group) ∈ collect key items ↔ group ≠ [] ∧ items.filter (key · = sought) = group := by
  have hfound : (groupAt sought (collect key items)).getD [] = items.filter (key · = sought)
      ∧ groupAt sought (collect key items) ≠ some [] := groupAt_collect items sought
  obtain ⟨hitems, hsome⟩ := hfound
  have hkeys : ((collect key items).map Prod.fst).Nodup := nodup_keys_groupBy items
  rw [mem_iff_groupAt hkeys, ← hitems]
  cases hgroup : groupAt sought (collect key items) with
  | none => exact iff_of_false (Option.some_ne_none _).symm fun hnil => hnil.1 hnil.2.symm
  | some found =>
      rw [hgroup] at hsome
      constructor
      · rintro heq
        cases Option.some.inj heq
        exact ⟨fun hnil => hsome (congrArg some hnil), rfl⟩
      · exact fun heq => congrArg some heq.2

end Stallorder.Grouping
