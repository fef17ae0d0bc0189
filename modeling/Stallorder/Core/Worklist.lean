import Mathlib

/-!
# Worklists

A search keeps what it has seen and what it still has to look at.  With fuel
for every node it ends with everything that can be reached from its start.
-/

namespace Stallorder.Worklist

variable {Node : Type*} [DecidableEq Node]

/-- The successors of a node that have not been seen. -/
def unseen (next : Node → List Node) (seen : List Node) (node : Node) : List Node :=
  ((next node).filter (· ∉ seen)).dedup

/-- Look at the pending nodes one after another; what is found waits behind them. -/
def explore (next : Node → List Node) : ℕ → List Node → List Node → List Node
  | 0, _, seen => seen
  | _ + 1, [], seen => seen
  | fuel + 1, node :: pending, seen =>
      explore next fuel (pending ++ unseen next seen node) (seen ++ unseen next seen node)

variable {next : Node → List Node} {nodes : List Node} {fuel : ℕ} {start node : Node}
  {pending seen : List Node}

theorem mem_unseen {found : Node} :
    found ∈ unseen next seen node ↔ found ∈ next node ∧ found ∉ seen := by
  simp [unseen]

theorem mem_explore_of_mem (hseen : node ∈ seen) : node ∈ explore next fuel pending seen := by
  induction fuel generalizing pending seen with
  | zero => exact hseen
  | succ fuel ih =>
      cases pending with
      | nil => exact hseen
      | cons first pending => exact ih (List.mem_append_left _ hseen)

/-- Whatever holds of the seen nodes and passes on to successors holds of the result. -/
theorem forall_mem_explore {Reached : Node → Prop}
    (hnext : ∀ node, Reached node → ∀ found ∈ next node, Reached found)
    (hpending : ∀ node ∈ pending, Reached node) (hseen : ∀ node ∈ seen, Reached node) :
    ∀ node ∈ explore next fuel pending seen, Reached node := by
  induction fuel generalizing pending seen with
  | zero => exact hseen
  | succ fuel ih =>
      cases pending with
      | nil => exact hseen
      | cons first pending =>
          have hfound : ∀ found ∈ unseen next seen first, Reached found := by
            intro found hmem
            exact hnext first (hpending first List.mem_cons_self) found (mem_unseen.mp hmem).1
          apply ih
          · intro node hnode
            rcases List.mem_append.mp hnode with hnode | hnode
            · exact hpending node (List.mem_cons_of_mem first hnode)
            · exact hfound node hnode
          · intro node hnode
            rcases List.mem_append.mp hnode with hnode | hnode
            · exact hseen node hnode
            · exact hfound node hnode

/-- Seeing new nodes leaves that many fewer to be seen. -/
theorem length_unseen_add_le (hnodes : ∀ node, ∀ found ∈ next node, found ∈ nodes)
    (seen : List Node) (node : Node) :
    (unseen next seen node).length
        + (nodes.filter (· ∉ seen ++ unseen next seen node)).length
      ≤ (nodes.filter (· ∉ seen)).length := by
  have hsplit : nodes.filter (· ∉ seen ++ unseen next seen node)
      = (nodes.filter (· ∉ seen)).filter (· ∉ unseen next seen node) := by
    rw [List.filter_filter]
    apply List.filter_congr
    intro found _
    simp [Bool.and_comm]
  have hcount := List.length_eq_length_filter_add (l := nodes.filter (· ∉ seen))
    (· ∈ unseen next seen node)
  have hfound : (unseen next seen node).length
      ≤ ((nodes.filter (· ∉ seen)).filter (· ∈ unseen next seen node)).length := by
    apply List.Subperm.length_le
    apply List.Nodup.subperm (List.nodup_dedup _)
    intro found hmem
    have hfound : found ∈ unseen next seen node := hmem
    obtain ⟨hnext, hnew⟩ := mem_unseen.mp hfound
    simp [hfound, hnew, hnodes node found hnext]
  have hrest : (nodes.filter (· ∉ seen)).filter
        (fun found => !decide (found ∈ unseen next seen node))
      = (nodes.filter (· ∉ seen)).filter (· ∉ unseen next seen node) := by
    apply List.filter_congr
    intro found _
    simp
  rw [hrest] at hcount
  rw [hsplit]
  omega

/-- With enough fuel the result is closed under successors. -/
theorem mem_explore_of_next (hnodes : ∀ node, ∀ found ∈ next node, found ∈ nodes)
    (hpending : ∀ node ∈ pending, node ∈ seen)
    (hdone : ∀ node ∈ seen, node ∉ pending → ∀ found ∈ next node, found ∈ seen)
    (hfuel : pending.length + (nodes.filter (· ∉ seen)).length ≤ fuel)
    {found : Node} (hnode : node ∈ explore next fuel pending seen) (hfound : found ∈ next node) :
    found ∈ explore next fuel pending seen := by
  induction fuel generalizing pending seen with
  | zero =>
      have hempty : pending = [] := by
        apply List.eq_nil_of_length_eq_zero
        omega
      exact hdone node hnode (by simp [hempty]) found hfound
  | succ fuel ih =>
      cases pending with
      | nil => exact hdone node hnode List.not_mem_nil found hfound
      | cons first pending =>
          apply ih
          · intro node hmem
            rcases List.mem_append.mp hmem with hmem | hmem
            · exact List.mem_append_left _ (hpending node (List.mem_cons_of_mem first hmem))
            · exact List.mem_append_right _ hmem
          · intro node hmem hleft found hnext
            rw [List.mem_append, not_or] at hleft
            rcases List.mem_append.mp hmem with hmem | hmem
            · by_cases hfirst : node = first
              · subst hfirst
                by_cases hseen : found ∈ seen
                · exact List.mem_append_left _ hseen
                · exact List.mem_append_right _ (mem_unseen.mpr ⟨hnext, hseen⟩)
              · apply List.mem_append_left
                apply hdone node hmem
                · simp [hfirst, hleft.1]
                · exact hnext
            · exact absurd hmem hleft.2
          · have hless := length_unseen_add_le hnodes seen first
            simp only [List.length_cons, List.length_append] at hfuel ⊢
            omega
          · exact hnode

/-- Everything that can be reached from a node, when all of it is among `nodes`. -/
def reachableFrom (next : Node → List Node) (nodes : List Node) (start : Node) : List Node :=
  explore next (nodes.length + 1) [start] [start]

theorem mem_reachableFrom_iff (hnodes : ∀ node, ∀ found ∈ next node, found ∈ nodes) :
    node ∈ reachableFrom next nodes start
      ↔ Relation.ReflTransGen (fun first second => second ∈ next first) start node := by
  constructor
  · intro hnode
    refine forall_mem_explore (fun first hfirst second hsecond => hfirst.tail hsecond) ?_ ?_
      node hnode
    · intro first hfirst
      rw [List.mem_singleton.mp hfirst]
    · intro first hfirst
      rw [List.mem_singleton.mp hfirst]
  · intro hreached
    induction hreached with
    | refl => exact mem_explore_of_mem List.mem_cons_self
    | tail _ hnext ih =>
        refine mem_explore_of_next hnodes (fun _ hmem => hmem) (fun _ hmem hleft => ?_) ?_ ih hnext
        · exact absurd hmem hleft
        · have hlength := List.length_filter_le (· ∉ [start]) nodes
          simp only [List.length_singleton]
          omega

end Stallorder.Worklist
