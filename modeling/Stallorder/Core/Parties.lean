import Mathlib

/-!
# Parties that run side by side

The parties of a concurrent system are a list in which each one takes its steps
at its own position.  What keeps any two of them apart (that no two hold one
lock, that no two write one key) is a symmetric relation, and a step of one
party keeps it when the party stays apart from all the others.
-/

namespace Stallorder.Parties

variable {Party : Type*} {Apart : Party → Party → Prop} {parties : List Party}
variable {party : Party} {position : ℕ}

/-- Parties at different positions are apart. -/
def EachApart (Apart : Party → Party → Prop) (parties : List Party) : Prop :=
  ∀ (first second : ℕ) (left right : Party), first ≠ second → parties[first]? = some left →
    parties[second]? = some right → Apart left right

/-- A party is apart from all those at other positions. -/
def ApartFromOthers (Apart : Party → Party → Prop) (parties : List Party) (position : ℕ)
    (party : Party) : Prop :=
  ∀ (other : ℕ) (found : Party), other ≠ position → parties[other]? = some found →
    Apart found party

theorem eachApart_nil : EachApart Apart ([] : List Party) := by
  intro first second left right _ hleft
  rw [List.getElem?_nil] at hleft
  cases hleft

theorem EachApart.apartFromOthers (heach : EachApart Apart parties)
    (hparty : parties[position]? = some party) : ApartFromOthers Apart parties position party :=
  fun other found hne hfound => heach other position found party hne hfound hparty

theorem eachApart_append (hsymm : ∀ left right, Apart left right → Apart right left)
    (heach : EachApart Apart parties) (hapart : ∀ found ∈ parties, Apart found party) :
    EachApart Apart (parties ++ [party]) := by
  have hlookup : ∀ (index : ℕ) (found : Party), (parties ++ [party])[index]? = some found →
      parties[index]? = some found ∨ index = parties.length ∧ found = party := by
    intro index found hfound
    rcases lt_trichotomy index parties.length with hlt | heq | hgt
    · rw [List.getElem?_append_left hlt] at hfound
      exact Or.inl hfound
    · rw [heq, List.getElem?_concat_length] at hfound
      exact Or.inr ⟨heq, (Option.some.inj hfound).symm⟩
    · rw [List.getElem?_eq_none (by rw [List.length_append, List.length_singleton]; omega)]
        at hfound
      cases hfound
  intro first second left right hne hleft hright
  rcases hlookup first left hleft with hfirst | ⟨hfirst, rfl⟩
  · rcases hlookup second right hright with hsecond | ⟨-, rfl⟩
    · exact heach first second left right hne hfirst hsecond
    · exact hapart left (List.mem_of_getElem? hfirst)
  · rcases hlookup second right hright with hsecond | ⟨hsecond, -⟩
    · exact hsymm _ _ (hapart right (List.mem_of_getElem? hsecond))
    · exact absurd (hfirst.trans hsecond.symm) hne

theorem getElem?_set_of_ne {other : ℕ} (hne : other ≠ position) :
    (parties.set position party)[other]? = parties[other]? :=
  List.getElem?_set_ne hne.symm

theorem eq_of_getElem?_set_self {found : Party}
    (hfound : (parties.set position party)[position]? = some found) : found = party := by
  rw [List.getElem?_set_self'] at hfound
  obtain ⟨_, -, hsame⟩ := Option.map_eq_some_iff.mp hfound
  exact hsame.symm

theorem eachApart_set (hsymm : ∀ left right, Apart left right → Apart right left)
    (heach : EachApart Apart parties) (hapart : ApartFromOthers Apart parties position party) :
    EachApart Apart (parties.set position party) := by
  intro first second left right hne hleft hright
  by_cases hfirst : first = position
  · subst hfirst
    rw [getElem?_set_of_ne hne.symm] at hright
    rw [eq_of_getElem?_set_self hleft]
    exact hsymm _ _ (hapart second right hne.symm hright)
  · rw [getElem?_set_of_ne hfirst] at hleft
    by_cases hsecond : second = position
    · subst hsecond
      rw [eq_of_getElem?_set_self hright]
      exact hapart first left hne hleft
    · rw [getElem?_set_of_ne hsecond] at hright
      exact heach first second left right hne hleft hright

/-- What holds of every party after a step of one. -/
theorem forall_getElem?_set {Good : ℕ → Party → Prop}
    (hothers : ∀ (other : ℕ) (found : Party), other ≠ position → parties[other]? = some found →
      Good other found)
    (hparty : Good position party) (index : ℕ) (found : Party)
    (hfound : (parties.set position party)[index]? = some found) : Good index found := by
  by_cases hindex : index = position
  · subst hindex
    rw [eq_of_getElem?_set_self hfound]
    exact hparty
  · rw [getElem?_set_of_ne hindex] at hfound
    exact hothers index found hindex hfound

end Stallorder.Parties
