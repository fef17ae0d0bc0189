import Mathlib

/-!
# Logs that are sorted again

The entries of a log carry a time and an identifier.  A store returns them in
the order of their identifiers, and a stable sort then orders them by time, so
that identifiers break the ties.  The log comes back as it was written exactly
when it was written in that order.  Where every entry names the state it
starts from, and no state is left twice, no other order of the entries fits.
-/

namespace Stallorder.EventLog

variable {Entry Time Id State : Type*}

/-! ## A stable sort after a sort by identifier -/

section Sorting

variable [LinearOrder Time] [LinearOrder Id] {time : Entry → Time} {id : Entry → Id}

/-- One entry comes before another by time, and by identifier at the same time. -/
def Before (time : Entry → Time) (id : Entry → Id) (left right : Entry) : Prop :=
  time left < time right ∨ (time left = time right ∧ id left < id right)

instance (left right : Entry) : Decidable (Before time id left right) :=
  inferInstanceAs (Decidable (_ ∨ _))

theorem Before.asymm {left right : Entry} (hbefore : Before time id left right) :
    ¬ Before time id right left := by
  rintro (hlater | ⟨hsame, hid⟩)
  · rcases hbefore with hearlier | ⟨hsame, -⟩
    · exact lt_asymm hearlier hlater
    · exact hlater.ne hsame.symm
  · rcases hbefore with hearlier | ⟨-, hless⟩
    · exact hearlier.ne hsame.symm
    · exact lt_asymm hless hid

theorem Before.trans {first second third : Entry} (hfirst : Before time id first second)
    (hsecond : Before time id second third) : Before time id first third := by
  rcases hfirst with hfirst | ⟨hfirst, hfirstId⟩
  · rcases hsecond with hsecond | ⟨hsecond, -⟩
    · exact Or.inl (hfirst.trans hsecond)
    · exact Or.inl (hsecond ▸ hfirst)
  · rcases hsecond with hsecond | ⟨hsecond, hsecondId⟩
    · exact Or.inl (hfirst ▸ hsecond)
    · exact Or.inr ⟨hfirst.trans hsecond, hfirstId.trans hsecondId⟩

/-- An entry with a smaller identifier than all others goes before the first that is not
earlier. -/
theorem pairwise_orderedInsert {entry : Entry} {entries : List Entry}
    (hsorted : entries.Pairwise (Before time id)) (hids : ∀ other ∈ entries, id entry < id other) :
    (entries.orderedInsert (fun left right => time left ≤ time right) entry).Pairwise
      (Before time id) := by
  induction entries with
  | nil => exact List.pairwise_singleton _ _
  | cons first rest ih =>
      obtain ⟨hfirst, hrest⟩ := List.pairwise_cons.mp hsorted
      by_cases hle : time entry ≤ time first
      · simp only [List.orderedInsert, hle, if_true]
        have hbefore : Before time id entry first := by
          rcases hle.lt_or_eq with hless | hsame
          · exact Or.inl hless
          · exact Or.inr ⟨hsame, hids first List.mem_cons_self⟩
        refine List.pairwise_cons.mpr ⟨fun other hother => ?_, hsorted⟩
        rcases List.mem_cons.mp hother with rfl | hother
        · exact hbefore
        · exact hbefore.trans (hfirst other hother)
      · simp only [List.orderedInsert, hle, if_false]
        refine List.pairwise_cons.mpr ⟨fun other hother => ?_,
          ih hrest fun other hother => hids other (List.mem_cons_of_mem _ hother)⟩
        rcases (List.mem_orderedInsert _).mp hother with rfl | hother
        · exact Or.inl (not_le.mp hle)
        · exact hfirst other hother

theorem pairwise_insertionSort (time : Entry → Time) {entries : List Entry}
    (hids : entries.Pairwise fun left right => id left < id right) :
    (entries.insertionSort fun left right => time left ≤ time right).Pairwise
      (Before time id) := by
  induction entries with
  | nil => exact List.Pairwise.nil
  | cons entry entries ih =>
      obtain ⟨hfirst, hrest⟩ := List.pairwise_cons.mp hids
      refine pairwise_orderedInsert (ih hrest) fun other hother => ?_
      exact hfirst other ((List.mem_insertionSort _).mp hother)

/-- The log comes back as it was written exactly when it was written in order. -/
theorem insertionSort_eq_iff (time : Entry → Time) {written entries : List Entry}
    (hperm : entries.Perm written)
    (hids : entries.Pairwise fun left right => id left < id right) :
    (entries.insertionSort fun left right => time left ≤ time right) = written
      ↔ written.Pairwise (Before time id) := by
  have hsorted := pairwise_insertionSort time hids
  constructor
  · intro heq
    rw [← heq]
    exact hsorted
  · intro hwritten
    refine ((List.perm_insertionSort _ entries).trans hperm).eq_of_pairwise ?_ hsorted hwritten
    intro left right _ _ hleft hright
    exact absurd hright hleft.asymm

end Sorting

/-! ## Entries that continue one another -/

section Chains

variable {source : Entry → Option State} {target : Entry → State}

/-- Every entry starts from the state that the one before it ends in. -/
def IsChain (source : Entry → Option State) (target : Entry → State) :
    Option State → List Entry → Prop
  | _, [] => True
  | current, entry :: entries =>
      source entry = current ∧ IsChain source target (some (target entry)) entries

/-- The state that a chain ends in. -/
def chainTarget (target : Entry → State) (current : Option State) (entries : List Entry) :
    Option State :=
  (entries.map target).getLast?.or current

theorem chainTarget_cons {current : Option State} {first : Entry} {rest : List Entry} :
    chainTarget target current (first :: rest) = chainTarget target (some (target first)) rest := by
  cases hlast : (rest.map target).getLast? with
  | none =>
      rw [List.getLast?_eq_none_iff, List.map_eq_nil_iff] at hlast
      rw [hlast]
      rfl
  | some last => simp [chainTarget, List.getLast?_cons, hlast]

theorem isChain_concat {current : Option State} {entries : List Entry} {entry : Entry} :
    IsChain source target current (entries ++ [entry])
      ↔ IsChain source target current entries
        ∧ source entry = chainTarget target current entries := by
  induction entries generalizing current with
  | nil => simp [IsChain, chainTarget]
  | cons first rest ih =>
      rw [List.cons_append, IsChain, IsChain, ih, and_assoc, chainTarget_cons]

/-- Chains of the same entries agree when no state is left twice. -/
theorem IsChain.eq_of_perm {current : Option State} {left right : List Entry}
    (hleft : IsChain source target current left) (hright : IsChain source target current right)
    (hperm : left.Perm right) (hsources : (left.map source).Nodup) : left = right := by
  induction left generalizing current right with
  | nil => exact hperm.nil_eq
  | cons first rest ih =>
      cases right with
      | nil => exact absurd hperm.symm (List.not_perm_nil_cons first rest)
      | cons other others =>
          have hsame : other = first := by
            have hmem : other ∈ first :: rest := hperm.mem_iff.mpr List.mem_cons_self
            exact List.inj_on_of_nodup_map hsources hmem List.mem_cons_self
              (hright.1.trans hleft.1.symm)
          rw [hsame] at hperm hright ⊢
          rw [List.map_cons, List.nodup_cons] at hsources
          rw [ih hleft.2 hright.2 (List.perm_cons first |>.mp hperm) hsources.2]

end Chains

end Stallorder.EventLog
