import Stallorder.Core.Run

/-!
# What a run leaves alone from some point on

A flag that stays up once it is raised marks the point of a run from which an
observation of the state must not change any more.  The observation stays the
same over the rest of the run when no step changes it while the flag is up.
-/

namespace Stallorder.Run

variable {State Command Value : Type*} {step : State → Command → State}

/-- From the state in which the flag is up on, the observation does not change. -/
def Frozen (step : State → Command → State) (Flag : State → Prop) (observe : State → Value)
    (start : State) (commands : List Command) : Prop :=
  ∀ first second, first <+: second → second <+: commands → Flag (exec step start first) →
    observe (exec step start second) = observe (exec step start first)

/-- The step leaves the observation alone when the flag is up. -/
def Keeps (step : State → Command → State) (Flag : State → Prop) (observe : State → Value)
    (state : State) (command : Command) : Prop :=
  Flag state → observe (step state command) = observe state

variable {Flag : State → Prop} {observe : State → Value} {start : State}

theorem frozen_nil : Frozen step Flag observe start [] := by
  intro first second hfirst hsecond _
  rw [List.prefix_nil.mp hsecond] at hfirst
  rw [List.prefix_nil.mp hsecond, List.prefix_nil.mp hfirst]

theorem frozen_cons_iff {command : Command} {commands : List Command}
    (hraised : Flag start → Flag (step start command)) :
    Frozen step Flag observe start (command :: commands) ↔
      Keeps step Flag observe start command
        ∧ Frozen step Flag observe (step start command) commands := by
  constructor
  · intro hfrozen
    constructor
    · exact hfrozen [] [command] List.nil_prefix
        (List.cons_prefix_cons.mpr ⟨rfl, List.nil_prefix⟩)
    · intro first second hfirst hsecond
      exact hfrozen (command :: first) (command :: second)
        (List.cons_prefix_cons.mpr ⟨rfl, hfirst⟩) (List.cons_prefix_cons.mpr ⟨rfl, hsecond⟩)
  · rintro ⟨hkeeps, hfrozen⟩ first second hfirst hsecond hflag
    rcases List.prefix_cons_iff.mp hsecond with rfl | ⟨later, rfl, hlater⟩
    · rw [List.prefix_nil.mp hfirst]
    · rcases List.prefix_cons_iff.mp hfirst with rfl | ⟨earlier, rfl, hearlier⟩
      · rw [exec_cons, exec_nil, ← hkeeps hflag]
        exact hfrozen [] later List.nil_prefix hlater (hraised hflag)
      · exact hfrozen earlier later hearlier hlater hflag

/-- Where the flag stays up, a run freezes the observation when all its steps keep it. -/
theorem frozen_iff (Invariant : State → Prop)
    (hstep : ∀ state command, Invariant state → Invariant (step state command))
    (hraised : ∀ state command, Invariant state → Flag state → Flag (step state command))
    (hstart : Invariant start) (commands : List Command) :
    Frozen step Flag observe start commands ↔
      Safely step (Keeps step Flag observe) start commands := by
  induction commands generalizing start with
  | nil => exact iff_of_true frozen_nil trivial
  | cons command commands ih =>
      rw [frozen_cons_iff (hraised start command hstart), ih (hstep start command hstart)]
      rfl

end Stallorder.Run
