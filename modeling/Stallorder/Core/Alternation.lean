import Mathlib

/-!
# Alternation along time

Items that carry a time and one of two labels alternate when every way to list
them in the order of time shows the labels in turns.  An item that joins
alternating items keeps them alternating exactly when it is the latest one and
its label is next in turn.
-/

namespace Stallorder.Alternation

variable {Item Time : Type*} [LinearOrder Time]
variable (time : Item → Time) (label : Item → Bool)

/-- The labels of the list are in turns, from `turn` on. -/
def inTurns : Bool → List Item → Bool
  | _, [] => true
  | turn, item :: items => label item = turn && inTurns (!turn) items

/-- The label in turn after a number of items. -/
def turnAfter (count : ℕ) : Bool := count % 2 = 0

/-- A way to list the items in the order of time. -/
structure Listing (items : Finset Item) (ordered : List Item) : Prop where
  nodup : ordered.Nodup
  mem : ∀ item, item ∈ ordered ↔ item ∈ items
  sorted : ordered.Pairwise fun left right => time left ≤ time right

def Alternates (items : Finset Item) : Prop :=
  ∀ ordered, Listing time items ordered → inTurns label true ordered = true

variable {time label}

/-! ## Turns -/

@[simp]
theorem turnAfter_zero : turnAfter 0 = true := rfl

theorem turnAfter_succ (count : ℕ) : turnAfter (count + 1) = !turnAfter count := by
  rcases Nat.mod_two_eq_zero_or_one count with heven | hodd
  · have hnext : (count + 1) % 2 = 1 := by omega
    simp [turnAfter, heven, hnext]
  · have hnext : (count + 1) % 2 = 0 := by omega
    simp [turnAfter, hodd, hnext]

theorem inTurns_append (turn : Bool) (before after : List Item) :
    inTurns label turn (before ++ after) = true ↔ inTurns label turn before = true
      ∧ inTurns label (turn == turnAfter before.length) after = true := by
  induction before generalizing turn with
  | nil => simp [inTurns]
  | cons item before ih =>
      have hturn : ((!turn) == turnAfter before.length)
          = (turn == turnAfter (before.length + 1)) := by
        rw [turnAfter_succ]
        cases turn <;> cases turnAfter before.length <;> rfl
      rw [List.cons_append, inTurns, inTurns, Bool.and_eq_true, Bool.and_eq_true, ih, hturn,
        and_assoc, List.length_cons]

/-- In a list that starts with `true`, the place of an item decides its label. -/
theorem label_of_inTurns {before after : List Item} {item : Item}
    (hturns : inTurns label true (before ++ item :: after) = true) :
    label item = turnAfter before.length := by
  have hafter := ((inTurns_append true before (item :: after)).mp hturns).2
  simp only [inTurns, Bool.and_eq_true, decide_eq_true_eq] at hafter
  rw [hafter.1]
  cases turnAfter before.length <;> rfl

theorem inTurns_concat_iff (before : List Item) (item : Item) :
    inTurns label true (before ++ [item]) = true
      ↔ inTurns label true before = true ∧ label item = turnAfter before.length := by
  rw [inTurns_append]
  simp only [inTurns, Bool.and_true, decide_eq_true_eq]
  cases turnAfter before.length <;> simp

/-! ## Listings -/

variable {items : Finset Item} {ordered : List Item} {item : Item}

/-- Items can be listed in the order of time. -/
theorem exists_listing (time : Item → Time) (items : Finset Item) :
    ∃ ordered, Listing time items ordered := by
  refine ⟨items.toList.insertionSort fun left right => time left ≤ time right, ?_, fun other => ?_,
    List.pairwise_insertionSort _ _⟩
  · exact (List.perm_insertionSort _ _).nodup_iff.mpr items.nodup_toList
  · rw [List.mem_insertionSort, Finset.mem_toList]

/-- The items before a time, and those from it on. -/
theorem Listing.split (hlisting : Listing time items ordered) (moment : Time) :
    ∃ before after, ordered = before ++ after ∧ (∀ other ∈ before, time other < moment)
      ∧ ∀ other ∈ after, moment ≤ time other := by
  have hsorted := hlisting.sorted
  clear hlisting
  induction ordered with
  | nil => exact ⟨[], [], rfl, by simp, by simp⟩
  | cons head ordered ih =>
      obtain ⟨hhead, hrest⟩ := List.pairwise_cons.mp hsorted
      by_cases hearly : time head < moment
      · obtain ⟨before, after, hsplit, hbefore, hafter⟩ := ih hrest
        refine ⟨head :: before, after, by rw [hsplit, List.cons_append], ?_, hafter⟩
        intro other hother
        rcases List.mem_cons.mp hother with rfl | hother
        · exact hearly
        · exact hbefore other hother
      · refine ⟨[], head :: ordered, rfl, by simp, fun other hother => ?_⟩
        rcases List.mem_cons.mp hother with rfl | hother
        · exact not_lt.mp hearly
        · exact (not_lt.mp hearly).trans (hhead other hother)

variable [DecidableEq Item]

theorem Listing.length_eq (hlisting : Listing time items ordered) :
    ordered.length = items.card := by
  have hsame : ordered.toFinset = items := by
    ext other
    rw [List.mem_toFinset, hlisting.mem]
  rw [← hsame, List.toFinset_card_of_nodup hlisting.nodup]

/-- An item between two parts of a list in the order of time can join it. -/
theorem Listing.join {before after : List Item}
    (hlisting : Listing time items (before ++ after)) (hnew : item ∉ items)
    (hbefore : ∀ other ∈ before, time other ≤ time item)
    (hafter : ∀ other ∈ after, time item ≤ time other) :
    Listing time (insert item items) (before ++ item :: after) where
  nodup := by
    have hout : item ∉ before ++ after := fun hmem => hnew ((hlisting.mem item).mp hmem)
    exact (List.perm_middle.nodup_iff).mpr (List.nodup_cons.mpr ⟨hout, hlisting.nodup⟩)
  mem other := by
    rw [List.perm_middle.mem_iff, List.mem_cons, hlisting.mem, Finset.mem_insert]
  sorted := by
    obtain ⟨hleft, hright, hcross⟩ := List.pairwise_append.mp hlisting.sorted
    refine List.pairwise_append.mpr ⟨hleft, List.pairwise_cons.mpr ⟨hafter, hright⟩, ?_⟩
    intro earlier hearlier later hlater
    rcases List.mem_cons.mp hlater with rfl | hlater
    · exact hbefore earlier hearlier
    · exact hcross earlier hearlier later hlater

/-- And what is left of a list in the order of time is one, too. -/
theorem Listing.leave {before after : List Item}
    (hlisting : Listing time (insert item items) (before ++ item :: after))
    (hnew : item ∉ items) : Listing time items (before ++ after) := by
  have hcons := (List.perm_middle.nodup_iff).mp hlisting.nodup
  obtain ⟨hout, hnodup⟩ := List.nodup_cons.mp hcons
  refine ⟨hnodup, fun other => ?_, ?_⟩
  · have hmem := hlisting.mem other
    rw [List.perm_middle.mem_iff, List.mem_cons, Finset.mem_insert] at hmem
    constructor
    · intro hin
      refine (hmem.mp (Or.inr hin)).resolve_left ?_
      rintro rfl
      exact hout hin
    · intro hin
      refine (hmem.mpr (Or.inr hin)).resolve_left ?_
      rintro rfl
      exact hnew hin
  · exact hlisting.sorted.sublist ((List.sublist_cons_self item after).append_left before)

/-! ## Joining alternating items -/

/-- A latest item of alternating items shows whose turn it was. -/
theorem label_of_latest (halternates : Alternates time label items) (hitem : item ∈ items)
    (hlatest : ∀ other ∈ items, time other ≤ time item) :
    (!label item) = turnAfter items.card := by
  obtain ⟨before, hbefore⟩ := exists_listing time (items.erase item)
  have hlisting : Listing time items (before ++ [item]) := by
    have hjoined : Listing time (insert item (items.erase item)) (before ++ [item]) := by
      rw [← List.append_nil before] at hbefore
      refine hbefore.join (Finset.notMem_erase item items) (fun other hother => ?_) (by simp)
      rw [List.append_nil] at hbefore
      exact hlatest other (Finset.mem_of_mem_erase ((hbefore.mem other).mp hother))
    rwa [Finset.insert_erase hitem] at hjoined
  have hcount : before.length + 1 = items.card := by
    rw [← hlisting.length_eq, List.length_append, List.length_singleton]
  rw [label_of_inTurns (halternates _ hlisting), ← hcount, turnAfter_succ]

/-- Alternating items stay so exactly when the new one is the latest, in turn. -/
theorem alternates_insert_iff (halternates : Alternates time label items) (hnew : item ∉ items) :
    Alternates time label (insert item items)
      ↔ (∀ other ∈ items, time other < time item) ∧ label item = turnAfter items.card := by
  constructor
  · intro hjoined
    obtain ⟨ordered, hordered⟩ := exists_listing time items
    obtain ⟨before, after, rfl, hbefore, hafter⟩ := hordered.split (time item)
    have hlisting := hordered.join hnew (fun other hother => (hbefore other hother).le) hafter
    have hlabel := label_of_inTurns (hjoined _ hlisting)
    cases after with
    | nil =>
        rw [List.append_nil] at hordered
        rw [← hordered.length_eq]
        exact ⟨fun other hother => hbefore other ((hordered.mem other).mpr hother), hlabel⟩
    | cons next after =>
        -- The next item would have had the label of the new one.
        exfalso
        have hnext := label_of_inTurns (halternates _ hordered)
        have hmoved : label next = turnAfter (before ++ [item]).length := by
          have hturns : inTurns label true ((before ++ [item]) ++ next :: after) = true := by
            rw [List.append_assoc]
            exact hjoined _ hlisting
          exact label_of_inTurns hturns
        rw [List.length_append, List.length_singleton, turnAfter_succ, ← hnext] at hmoved
        cases hvalue : label next <;> rw [hvalue] at hmoved <;> cases hmoved
  · rintro ⟨hlatest, hlabel⟩ ordered hordered
    obtain ⟨before, after, rfl⟩ :=
      List.append_of_mem ((hordered.mem item).mpr (Finset.mem_insert_self item items))
    have hrest := hordered.leave hnew
    have hempty : after = [] := by
      rw [List.eq_nil_iff_forall_not_mem]
      intro other hother
      have hlater : time item ≤ time other :=
        (List.pairwise_cons.mp (List.pairwise_append.mp hordered.sorted).2.1).1 other hother
      have hearlier := hlatest other ((hrest.mem other).mp (List.mem_append_right _ hother))
      exact absurd hearlier (not_lt.mpr hlater)
    rw [hempty, List.append_nil] at hrest
    rw [hempty, inTurns_concat_iff]
    exact ⟨halternates before hrest, by rw [hlabel, hrest.length_eq]⟩

end Stallorder.Alternation
