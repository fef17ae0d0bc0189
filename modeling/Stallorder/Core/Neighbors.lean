import Mathlib

/-!
# Neighbours

In a list whose keys grow, two items stand next to each other when no key of the
list is between theirs.  What is between two items of a list is between them in
any part of it that keeps it.
-/

namespace Stallorder.Neighbors

variable {Item Key : Type*} [LinearOrder Key] {key : Item → Key} {items : List Item}
  {first second : Item}

/-- The second item comes after the first one, and nothing comes between them. -/
structure Follows (key : Item → Key) (items : List Item) (first second : Item) : Prop where
  first_mem : first ∈ items
  second_mem : second ∈ items
  lt : key first < key second
  none_between : ∀ other ∈ items, key first < key other → key second ≤ key other

theorem follows_cons_cons_iff {head next : Item} {rest : List Item}
    (hgrowing : (head :: next :: rest).Pairwise fun left right => key left < key right) :
    Follows key (head :: next :: rest) first second
      ↔ first = head ∧ second = next ∨ Follows key (next :: rest) first second := by
  obtain ⟨hhead, htail⟩ := List.pairwise_cons.mp hgrowing
  have hnext : ∀ other ∈ next :: rest, key next ≤ key other := by
    intro other hother
    rcases List.mem_cons.mp hother with rfl | hrest
    · exact le_refl _
    · exact ((List.pairwise_cons.mp htail).1 other hrest).le
  constructor
  · intro hfollows
    have hsecond : second ∈ next :: rest := by
      rcases List.mem_cons.mp hfollows.second_mem with rfl | hlater
      · rcases List.mem_cons.mp hfollows.first_mem with rfl | hlater
        · exact absurd hfollows.lt (lt_irrefl _)
        · exact absurd (hhead first hlater) hfollows.lt.not_gt
      · exact hlater
    rcases List.mem_cons.mp hfollows.first_mem with rfl | hlater
    · left
      refine ⟨rfl, ?_⟩
      have hle : key second ≤ key next :=
        hfollows.none_between next (List.mem_cons_of_mem _ List.mem_cons_self)
          (hhead next List.mem_cons_self)
      rcases List.mem_cons.mp hsecond with rfl | hrest
      · rfl
      · exact absurd ((List.pairwise_cons.mp htail).1 second hrest) hle.not_gt
    · right
      exact ⟨hlater, hsecond, hfollows.lt, fun other hother =>
        hfollows.none_between other (List.mem_cons_of_mem _ hother)⟩
  · rintro (⟨rfl, rfl⟩ | hfollows)
    · refine ⟨List.mem_cons_self, List.mem_cons_of_mem _ List.mem_cons_self,
        hhead _ List.mem_cons_self, ?_⟩
      intro other hother hlt
      rcases List.mem_cons.mp hother with rfl | hlater
      · exact absurd hlt (lt_irrefl _)
      · exact hnext other hlater
    · refine ⟨List.mem_cons_of_mem _ hfollows.first_mem, List.mem_cons_of_mem _ hfollows.second_mem,
        hfollows.lt, ?_⟩
      intro other hother hlt
      rcases List.mem_cons.mp hother with rfl | hlater
      · exact absurd hlt (hhead first hfollows.first_mem).not_gt
      · exact hfollows.none_between other hlater hlt

theorem mem_zip_tail_iff
    (hgrowing : items.Pairwise fun left right => key left < key right) :
    (first, second) ∈ items.zip items.tail ↔ Follows key items first second := by
  induction items with
  | nil =>
      apply iff_of_false List.not_mem_nil
      intro hfollows
      exact absurd hfollows.first_mem List.not_mem_nil
  | cons head items ih =>
      cases items with
      | nil =>
          apply iff_of_false List.not_mem_nil
          intro hfollows
          have hfirst := List.mem_singleton.mp hfollows.first_mem
          have hsecond := List.mem_singleton.mp hfollows.second_mem
          rw [hfirst, hsecond] at hfollows
          exact lt_irrefl _ hfollows.lt
      | cons next rest =>
          rw [List.tail_cons, List.zip_cons_cons, List.mem_cons, Prod.mk.injEq,
            follows_cons_cons_iff hgrowing, ← ih (List.pairwise_cons.mp hgrowing).2, List.tail_cons]

theorem nodup_zip_tail (hnodup : items.Nodup) : (items.zip items.tail).Nodup := by
  have hsnd : ((items.zip items.tail).map Prod.snd) = items.tail :=
    List.map_snd_zip (by rw [List.length_tail]; exact Nat.sub_le _ _)
  apply List.Nodup.of_map Prod.snd
  rw [hsnd]
  exact hnodup.sublist (List.tail_sublist items)

end Stallorder.Neighbors
