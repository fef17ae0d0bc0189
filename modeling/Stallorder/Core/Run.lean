import Mathlib

/-!
# Runs and interruptible loops

A program that only changes its state by executing one command after another
is a step function, and a run is a list of commands.  An invariant of the
steps is an invariant of the runs; when only some steps keep it, the same holds
of the runs made of such steps.

The second half is about loops whose body may throw.  The writes made before
the exception stay, so the state is returned next to the outcome.
-/

namespace Stallorder.Run

variable {State Command : Type*}

/-- Execute the commands of a run from left to right. -/
def exec (step : State → Command → State) (start : State) (commands : List Command) :
    State :=
  commands.foldl step start

@[simp]
theorem exec_nil (step : State → Command → State) (start : State) :
    exec step start [] = start := rfl

@[simp]
theorem exec_cons (step : State → Command → State) (start : State)
    (command : Command) (commands : List Command) :
    exec step start (command :: commands) = exec step (step start command) commands := rfl

theorem exec_append (step : State → Command → State) (start : State)
    (before after : List Command) :
    exec step start (before ++ after) = exec step (exec step start before) after :=
  List.foldl_append

/-- Every command of the run meets `Safe` in the state it is executed in. -/
def Safely (step : State → Command → State) (Safe : State → Command → Prop) :
    State → List Command → Prop
  | _, [] => True
  | state, command :: commands =>
      Safe state command ∧ Safely step Safe (step state command) commands

instance decidableSafely (step : State → Command → State) (Safe : State → Command → Prop)
    [∀ state command, Decidable (Safe state command)] :
    ∀ (state : State) (commands : List Command), Decidable (Safely step Safe state commands)
  | _, [] => isTrue trivial
  | state, command :: commands =>
      have := decidableSafely step Safe (step state command) commands
      inferInstanceAs (Decidable (_ ∧ _))

theorem safely_append {step : State → Command → State} {Safe : State → Command → Prop}
    {start : State} {before after : List Command} :
    Safely step Safe start (before ++ after) ↔
      Safely step Safe start before ∧ Safely step Safe (exec step start before) after := by
  induction before generalizing start with
  | nil => exact (iff_of_eq (true_and _)).symm
  | cons command before ih =>
      rw [List.cons_append, exec_cons]
      exact (and_congr_right fun _ => ih).trans (and_assoc).symm

/-- The invariant rule for runs whose steps are all safe. -/
theorem invariant_of_safely {step : State → Command → State}
    {Safe : State → Command → Prop} (Invariant : State → Prop)
    (hstep : ∀ state command, Invariant state → Safe state command →
      Invariant (step state command))
    {start : State} {commands : List Command} (hstart : Invariant start)
    (hsafe : Safely step Safe start commands) :
    Invariant (exec step start commands) := by
  induction commands generalizing start with
  | nil => exact hstart
  | cons command commands ih =>
      exact ih (hstep start command hstart hsafe.1) hsafe.2

/-- The invariant rule for arbitrary runs. -/
theorem invariant_exec {step : State → Command → State} (Invariant : State → Prop)
    (hstep : ∀ state command, Invariant state → Invariant (step state command))
    {start : State} (hstart : Invariant start) (commands : List Command) :
    Invariant (exec step start commands) := by
  induction commands generalizing start with
  | nil => exact hstart
  | cons command commands ih => exact ih (hstep start command hstart)

/-- Two conditions on steps that agree wherever an invariant holds admit the same
runs, when the steps they admit keep the invariant. -/
theorem safely_congr {step : State → Command → State} {First Second : State → Command → Prop}
    (Invariant : State → Prop)
    (hagree : ∀ state command, Invariant state → (First state command ↔ Second state command))
    (hstep : ∀ state command, Invariant state → Second state command →
      Invariant (step state command))
    {start : State} (hstart : Invariant start) (commands : List Command) :
    Safely step First start commands ↔ Safely step Second start commands := by
  induction commands generalizing start with
  | nil => exact Iff.rfl
  | cons command commands ih =>
      constructor
      · rintro ⟨hfirst, hrest⟩
        have hsecond := (hagree start command hstart).mp hfirst
        exact ⟨hsecond, (ih (hstep start command hstart hsecond)).mp hrest⟩
      · rintro ⟨hsecond, hrest⟩
        exact ⟨(hagree start command hstart).mpr hsecond,
          (ih (hstep start command hstart hsecond)).mpr hrest⟩

/-- A property holds in every state of a run when it holds at the start and
every step of the run leads to it. -/
theorem forall_prefix_iff {step : State → Command → State} (Property : State → Prop)
    {start : State} {commands : List Command} :
    (∀ before, before <+: commands → Property (exec step start before))
      ↔ Property start
        ∧ Safely step (fun state command => Property (step state command)) start commands := by
  induction commands generalizing start with
  | nil =>
      constructor
      · intro hall
        exact ⟨hall [] List.prefix_rfl, trivial⟩
      · rintro ⟨hstart, -⟩ before hbefore
        rw [List.prefix_nil.mp hbefore]
        exact hstart
  | cons command commands ih =>
      constructor
      · intro hall
        refine ⟨hall [] List.nil_prefix, ih.mp fun before hbefore => ?_⟩
        exact hall (command :: before) (List.cons_prefix_cons.mpr ⟨rfl, hbefore⟩)
      · rintro ⟨hstart, hstep, hrest⟩ before hbefore
        rcases List.prefix_cons_iff.mp hbefore with rfl | ⟨tail, rfl, htail⟩
        · exact hstart
        · exact ih.mpr ⟨hstep, hrest⟩ tail htail

/-- How many steps of a run are counted. -/
def countAlong (step : State → Command → State) (counted : State → Command → Bool) :
    State → List Command → ℕ
  | _, [] => 0
  | state, command :: commands =>
      (if counted state command then 1 else 0)
        + countAlong step counted (step state command) commands

/-! ## What a run shows -/

section Observed

variable {Observation : Type*} {step : State → Command → State}
  {observe : State → List Observation}

/-- What is observed in the states that a run leads to. -/
def observed (step : State → Command → State) (observe : State → List Observation) :
    State → List Command → List Observation
  | _, [] => []
  | state, command :: commands =>
      observe (step state command) ++ observed step observe (step state command) commands

/-- The history rule: when each step keeps an invariant about all that has been observed, or
breaks a property of the observations for good, the property holds of the runs without a
breaking step. -/
theorem observed_iff {Safe Breaks : State → Command → Prop} {Good : List Observation → Prop}
    (hgood : ∀ past later, Good (past ++ later) → Good past)
    (Invariant : State → List Observation → Prop)
    (hinvariant : ∀ state past, Invariant state past → Good past)
    (hstep : ∀ state past command, Invariant state past → Safe state command →
      (¬ Breaks state command
          ∧ Invariant (step state command) (past ++ observe (step state command)))
        ∨ (Breaks state command ∧ ¬ Good (past ++ observe (step state command))))
    {start : State} {past : List Observation} {commands : List Command}
    (hstart : Invariant start past) (hsafe : Safely step Safe start commands) :
    Good (past ++ observed step observe start commands) ↔
      Safely step (fun state command => ¬ Breaks state command) start commands := by
  induction commands generalizing start past with
  | nil =>
      rw [observed, List.append_nil]
      exact iff_of_true (hinvariant start past hstart) trivial
  | cons command commands ih =>
      rw [observed, ← List.append_assoc]
      rcases hstep start past command hstart hsafe.1 with ⟨hkeeps, hnext⟩ | ⟨hbreaks, hbad⟩
      · exact (ih hnext hsafe.2).trans (and_iff_right hkeeps).symm
      · constructor
        · intro hall
          exact absurd (hgood _ _ hall) hbad
        · rintro ⟨hkeeps, -⟩
          exact absurd hbreaks hkeeps

end Observed

/-! ## Interruptible loops -/

section Loop

variable {Item Error : Type*}

/-- Run `body` on each item.  The first error ends the loop; whatever was
written before it is kept. -/
def forEach (body : Item → State → State × Except Error Unit) :
    List Item → State → State × Except Error Unit
  | [], state => (state, .ok ())
  | item :: items, state =>
      match body item state with
      | (state', .ok ()) => forEach body items state'
      | (state', .error error) => (state', .error error)

variable {body : Item → State → State × Except Error Unit}

@[simp]
theorem forEach_nil (state : State) : forEach body [] state = (state, .ok ()) := rfl

theorem forEach_cons_ok {item : Item} {items : List Item} {state state' : State}
    (hbody : body item state = (state', .ok ())) :
    forEach body (item :: items) state = forEach body items state' := by
  simp [forEach, hbody]

theorem forEach_cons_error {item : Item} {items : List Item} {state state' : State}
    {error : Error} (hbody : body item state = (state', .error error)) :
    forEach body (item :: items) state = (state', .error error) := by
  simp [forEach, hbody]

/-- What the body preserves for every item, the loop preserves, whether or not
it is interrupted. -/
theorem forEach_invariant (Invariant : State → Prop) {items : List Item}
    (hbody : ∀ item ∈ items, ∀ state, Invariant state → Invariant (body item state).1)
    {state : State} (hstate : Invariant state) :
    Invariant (forEach body items state).1 := by
  induction items generalizing state with
  | nil => exact hstate
  | cons item items ih =>
      have hhead := hbody item List.mem_cons_self state hstate
      rcases hresult : body item state with ⟨state', outcome⟩
      rw [hresult] at hhead
      cases outcome with
      | ok _ =>
          rw [forEach_cons_ok hresult]
          exact ih (fun other hother => hbody other (List.mem_cons_of_mem _ hother)) hhead
      | error error =>
          rw [forEach_cons_error hresult]
          exact hhead

end Loop

end Stallorder.Run
