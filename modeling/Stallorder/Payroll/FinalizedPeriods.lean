import Stallorder.Core.Freezing
import Stallorder.Payroll.PayrollTransactions

/-!
# Finalized payroll periods

The lines of a finalized period should never change.  A generation that inserts
lines notices a finalization since its snapshot, but only up to the insertion,
and one that has no lines to insert does not notice it at all.
-/

namespace Stallorder.FinalizedPeriods

open Payroll PayrollTransactions Parties Run

variable {Date : Type} {state state' : PayrollState Date} {generation : Generation Date}
variable {stage' : GenerateStage Date} {position : ℕ} {snapshot : Snapshot Date}
  {rows : List (PayrollLineRow Date)}

def IsFinalized (state : PayrollState Date) : Prop :=
  state.period.any (·.status = .finalized) = true

/-- The next step of the generation is a commit that changes the lines. -/
def overwrites (generation : Generation Date) : Bool :=
  match generation.stage with
  | .deleted snapshot => generation.payrollPreview.isEmpty && !snapshot.lines.isEmpty
  | .inserted snapshot rows => !snapshot.lines.isEmpty || !rows.isEmpty
  | _ => false

/-- The command does not commit other lines for a finalized period. -/
def respects (state : PayrollState Date) : PayrollCommand Date → Bool
  | .advanceGeneration position false =>
      !(state.period.any (·.status = .finalized)
        && state.generations[position]?.any overwrites)
  | _ => true

/-! ## The steps of a generation -/

/-- What one step of a generation makes of the state and of its stage. -/
inductive Steps (state : PayrollState Date) (position : ℕ) (generation : Generation Date) :
    PayrollState Date → GenerateStage Date → Prop
  | ends (answer : GenerateAnswer) : Steps state position generation state (.ended answer)
  | waits : Steps state position generation state generation.stage
  | reads (hopen : ¬ IsFinalized state) :
      Steps state position generation state (.read ⟨state.period, state.lines⟩)
  | creates (snapshot : Snapshot Date) (hstage : generation.stage = .read snapshot)
      (hfree : ∀ other ∈ otherGenerations state position, createsPeriod other = false)
      (hnone : state.period = none) :
      Steps state position generation state (.created snapshot)
  | deletes (snapshot : Snapshot Date)
      (hstage : generation.stage = .created snapshot
        ∨ generation.stage = .read snapshot ∧ snapshot.period.isNone = false)
      (hfree : ∀ row ∈ snapshot.lines, ∀ other ∈ otherGenerations state position,
        hasId (deletedLines other) row = false)
      (hpresent : ∀ row ∈ snapshot.lines, hasId state.lines row = true) :
      Steps state position generation state (.deleted snapshot)
  | inserts (snapshot : Snapshot Date) (hstage : generation.stage = .deleted snapshot)
      (hunchanged : snapshot.period.isSome = true → state.period = snapshot.period) :
      Steps state position generation
        { state with nextId := state.nextId + generation.payrollPreview.length }
        (.inserted snapshot (newRows state.nextId generation.payrollPreview))
  | commits (snapshot : Snapshot Date) (rows : List (PayrollLineRow Date))
      (hstage : generation.stage = .inserted snapshot rows
        ∨ generation.stage = .deleted snapshot ∧ generation.payrollPreview = [] ∧ rows = []) :
      Steps state position generation (commit state snapshot rows).1 (.ended .done)

theorem steps_deleteLines {waiting : GenerateStage Date}
    (hwaiting : generation.stage = waiting)
    (hstage : generation.stage = .created snapshot
      ∨ generation.stage = .read snapshot ∧ snapshot.period.isNone = false) :
    Steps state position generation (deleteLines state position waiting snapshot).1
      (deleteLines state position waiting snapshot).2 := by
  unfold deleteLines
  split
  · rw [← hwaiting]
    exact .waits
  · next hfree =>
      split
      · exact .ends .aborted
      · next hpresent =>
          apply Steps.deletes snapshot hstage
          · intro row hrow other hother
            by_contra hlocked
            rw [Bool.not_eq_false] at hlocked
            exact hfree (List.any_eq_true.mpr
              ⟨row, hrow, List.any_eq_true.mpr ⟨other, hother, hlocked⟩⟩)
          · intro row hrow
            by_contra hmissing
            exact hpresent (List.any_eq_true.mpr ⟨row, hrow, by simpa using hmissing⟩)

theorem steps_insertLines (hstage : generation.stage = .deleted snapshot) :
    Steps state position generation
      (insertLines state position generation.payrollPreview snapshot).1
      (insertLines state position generation.payrollPreview snapshot).2 := by
  simp only [insertLines]
  split
  · rw [← hstage]
    exact .waits
  · split
    · exact .ends .aborted
    · next hsame =>
        split
        · exact .ends .aborted
        · apply Steps.inserts snapshot hstage
          intro hsome
          rw [hsome, Bool.true_and, decide_eq_true_eq, not_not] at hsame
          exact hsame

theorem steps_generateStep (state : PayrollState Date) (position : ℕ)
    (generation : Generation Date) : Steps state position generation
      (generateStep state position generation).1 (generateStep state position generation).2 := by
  unfold generateStep
  cases hstage : generation.stage with
  | begun =>
      simp only [findPeriod]
      split
      · exact .ends .payrollFinalized
      · next hopen => exact .reads hopen
  | read snapshot =>
      simp only
      split
      · simp only [createPeriod]
        split
        · rw [← hstage]
          exact .waits
        · next hfree =>
            split
            · exact .ends .aborted
            · next hnone =>
                refine .creates snapshot hstage (fun other hother => ?_) (by simpa using hnone)
                by_contra hcreates
                rw [Bool.not_eq_false] at hcreates
                exact hfree (List.any_eq_true.mpr ⟨other, hother, hcreates⟩)
      · next hsome => exact steps_deleteLines hstage (Or.inr ⟨hstage, Bool.eq_false_iff.mpr hsome⟩)
  | created snapshot => exact steps_deleteLines hstage (Or.inl hstage)
  | deleted snapshot =>
      simp only
      split
      · next hempty =>
          exact .commits snapshot [] (Or.inr ⟨hstage, List.isEmpty_iff.mp hempty, rfl⟩)
      · exact steps_insertLines hstage
  | inserted snapshot rows => exact .commits snapshot rows (Or.inl hstage)
  | ended answer => exact .ends answer

theorem steps_generateOutcome (state : PayrollState Date) (position : ℕ)
    (generation : Generation Date) (fails : Bool) : Steps state position generation
      (generateOutcome state position generation fails).1
      (generateOutcome state position generation fails).2 := by
  unfold generateOutcome
  split
  · exact .ends _
  · exact .ends .aborted
  · exact steps_generateStep state position generation

/-! ## What the locks keep -/

/-- Two transactions in progress have written nothing that the other one has. -/
structure Apart (left right : Generation Date) : Prop where
  created : ¬ (createsPeriod left = true ∧ createsPeriod right = true)
  deleted : ∀ row ∈ deletedLines left, ∀ other ∈ deletedLines right, row.id ≠ other.id
  inserted : ∀ row ∈ insertedLines left, ∀ other ∈ insertedLines right, row.id ≠ other.id

theorem apart_symm (left right : Generation Date) (hapart : Apart left right) :
    Apart right left where
  created hboth := hapart.created ⟨hboth.2, hboth.1⟩
  deleted row hrow other hother := (hapart.deleted other hother row hrow).symm
  inserted row hrow other hother := (hapart.inserted other hother row hrow).symm

/-- What a transaction in progress has written is still as it has left it. -/
structure Undisturbed (state : PayrollState Date) (generation : Generation Date) : Prop where
  created : createsPeriod generation = true → state.period = none
  deleted : ∀ row ∈ deletedLines generation, hasId state.lines row = true
  inserted : ∀ row ∈ insertedLines generation, hasId state.lines row = false
    ∧ row.id < state.nextId

structure Sound (state : PayrollState Date) : Prop where
  fresh : ∀ row ∈ state.lines, row.id < state.nextId
  undisturbed : ∀ generation ∈ state.generations, Undisturbed state generation
  apart : EachApart Apart state.generations

theorem hasId_iff {row : PayrollLineRow Date} :
    hasId rows row = true ↔ ∃ other ∈ rows, other.id = row.id := by
  simp only [hasId, List.any_eq_true, decide_eq_true_eq]

theorem hasId_eq_false_iff {row : PayrollLineRow Date} :
    hasId rows row = false ↔ ∀ other ∈ rows, other.id ≠ row.id := by
  simp only [hasId, List.any_eq_false, decide_eq_true_eq, ne_eq]

theorem mem_otherGenerations {index : ℕ} {other : Generation Date} (hne : index ≠ position)
    (hother : state.generations[index]? = some other) : other ∈ otherGenerations state position :=
  List.mem_eraseIdx_iff_getElem?.mpr ⟨index, hne, hother⟩

/-- The lines that a commit leaves. -/
theorem mem_commit_lines {row : PayrollLineRow Date} :
    row ∈ (commit state snapshot rows).1.lines ↔
      row ∈ state.lines ∧ hasId snapshot.lines row = false ∨ row ∈ rows := by
  simp only [commit, List.mem_append, List.mem_filter, Bool.not_eq_true']

theorem mem_newRows {nextId : ℕ} {preview : List (PayrollLine Date)} {row : PayrollLineRow Date}
    (hrow : row ∈ newRows nextId preview) : nextId ≤ row.id ∧ row.id < nextId + preview.length := by
  rw [newRows, List.mem_mapIdx] at hrow
  obtain ⟨index, hlt, rfl⟩ := hrow
  exact ⟨Nat.le_add_right _ _, Nat.add_lt_add_left hlt nextId⟩

/-- What the transaction of a commit has written. -/
theorem written_of_commits (hstage : generation.stage = .inserted snapshot rows
      ∨ generation.stage = .deleted snapshot ∧ generation.payrollPreview = [] ∧ rows = []) :
    createsPeriod generation = snapshot.period.isNone
      ∧ deletedLines generation = snapshot.lines ∧ insertedLines generation = rows := by
  unfold createsPeriod deletedLines insertedLines
  rcases hstage with hstage | ⟨hstage, -, rfl⟩
  · rw [hstage]
    exact ⟨rfl, rfl, rfl⟩
  · rw [hstage]
    exact ⟨rfl, rfl, rfl⟩

/-- The transaction has written nothing yet, or it is over. -/
structure Idle (generation : Generation Date) : Prop where
  created : createsPeriod generation = false
  deleted : deletedLines generation = []
  inserted : insertedLines generation = []

theorem undisturbed_of_idle (hidle : Idle generation) : Undisturbed state generation where
  created := by
    rw [hidle.created]
    exact fun hcreated => by cases hcreated
  deleted := by
    rw [hidle.deleted]
    exact fun row hrow => absurd hrow List.not_mem_nil
  inserted := by
    rw [hidle.inserted]
    exact fun row hrow => absurd hrow List.not_mem_nil

theorem apart_of_idle {other : Generation Date} (hidle : Idle generation) :
    Apart other generation where
  created := by
    rw [hidle.created]
    rintro ⟨-, hcreated⟩
    cases hcreated
  deleted := by
    rw [hidle.deleted]
    exact fun _ _ row hrow => absurd hrow List.not_mem_nil
  inserted := by
    rw [hidle.inserted]
    exact fun _ _ row hrow => absurd hrow List.not_mem_nil

section Steps

variable (hsound : Sound state) (hgeneration : state.generations[position]? = some generation)

include hsound hgeneration

theorem undisturbed_of_running : Undisturbed state generation :=
  hsound.undisturbed generation (List.mem_of_getElem? hgeneration)

/-- A step keeps a state sound when the transactions that go on are undisturbed. -/
theorem sound_set (state' : PayrollState Date) (stage' : GenerateStage Date)
    (hfresh : ∀ row ∈ state'.lines, row.id < state'.nextId)
    (hown : Undisturbed state' { generation with stage := stage' })
    (hothers : ∀ other ∈ otherGenerations state position, Apart other generation →
      Undisturbed state other → Undisturbed state' other
        ∧ Apart other { generation with stage := stage' }) :
    Sound { state' with
      generations := state.generations.set position { generation with stage := stage' } } := by
  have hkept : ∀ index other, index ≠ position → state.generations[index]? = some other →
      Undisturbed state' other ∧ Apart other { generation with stage := stage' } := by
    intro index other hne hother
    exact hothers other (mem_otherGenerations hne hother)
      (hsound.apart index position other generation hne hother hgeneration)
      (hsound.undisturbed other (List.mem_of_getElem? hother))
  constructor
  · exact hfresh
  · intro other hmem
    obtain ⟨index, hindex⟩ := List.mem_iff_getElem?.mp hmem
    have hgood : Undisturbed state' other :=
      forall_getElem?_set (fun index other hne hother => (hkept index other hne hother).1)
        hown index other hindex
    exact ⟨hgood.created, hgood.deleted, hgood.inserted⟩
  · apply eachApart_set apart_symm hsound.apart
    intro index other hne hother
    exact (hkept index other hne hother).2

theorem sound_idle (stage' : GenerateStage Date)
    (hidle : Idle { generation with stage := stage' }) :
    Sound { state with
      generations := state.generations.set position { generation with stage := stage' } } := by
  apply sound_set hsound hgeneration state stage' hsound.fresh (undisturbed_of_idle hidle)
  intro other _ _ hother
  exact ⟨hother, apart_of_idle hidle⟩

theorem sound_creates
    (hfree : ∀ other ∈ otherGenerations state position, createsPeriod other = false)
    (hnone : state.period = none) :
    Sound { state with generations :=
      state.generations.set position { generation with stage := .created snapshot } } := by
  apply sound_set hsound hgeneration state (.created snapshot) hsound.fresh
  · exact ⟨fun _ => hnone, fun _ hrow => absurd hrow List.not_mem_nil,
      fun _ hrow => absurd hrow List.not_mem_nil⟩
  · intro other hmem _ hother
    refine ⟨hother, ⟨fun hboth => ?_, fun _ _ row hrow => absurd hrow List.not_mem_nil,
      fun _ _ row hrow => absurd hrow List.not_mem_nil⟩⟩
    rw [hfree other hmem] at hboth
    cases hboth.1

theorem sound_deletes (hstage : generation.stage = .created snapshot
      ∨ generation.stage = .read snapshot ∧ snapshot.period.isNone = false)
    (hfree : ∀ row ∈ snapshot.lines, ∀ other ∈ otherGenerations state position,
      hasId (deletedLines other) row = false)
    (hpresent : ∀ row ∈ snapshot.lines, hasId state.lines row = true) :
    Sound { state with generations :=
      state.generations.set position { generation with stage := .deleted snapshot } } := by
  have hcreates : createsPeriod { generation with stage := .deleted snapshot } = true →
      createsPeriod generation = true := by
    intro (hnone : snapshot.period.isNone = true)
    rcases hstage with hstage | ⟨-, hsome⟩
    · rw [createsPeriod, hstage]
    · rw [hsome] at hnone
      cases hnone
  apply sound_set hsound hgeneration state (.deleted snapshot) hsound.fresh
  · have hbefore := undisturbed_of_running hsound hgeneration
    exact ⟨fun hcreated => hbefore.created (hcreates hcreated), hpresent,
      fun _ hrow => absurd hrow List.not_mem_nil⟩
  · intro other hmem hapart hother
    refine ⟨hother, ⟨fun hboth => hapart.created ⟨hboth.1, hcreates hboth.2⟩, ?_,
      fun _ _ row hrow => absurd hrow List.not_mem_nil⟩⟩
    intro row hrow taken htaken
    exact hasId_eq_false_iff.mp (hfree taken htaken other hmem) row hrow

theorem sound_inserts (hstage : generation.stage = .deleted snapshot) :
    Sound { state with
      nextId := state.nextId + generation.payrollPreview.length
      generations := state.generations.set position { generation with
        stage := .inserted snapshot (newRows state.nextId generation.payrollPreview) } } := by
  have hbefore := undisturbed_of_running hsound hgeneration
  have hcreates : createsPeriod generation = snapshot.period.isNone := by
    rw [createsPeriod, hstage]
  have hdeleted : deletedLines generation = snapshot.lines := by
    rw [deletedLines, hstage]
  apply sound_set hsound hgeneration
    { state with nextId := state.nextId + generation.payrollPreview.length }
    (.inserted snapshot (newRows state.nextId generation.payrollPreview))
  · intro row hrow
    exact (hsound.fresh row hrow).trans_le (Nat.le_add_right _ _)
  · refine ⟨fun hcreated => hbefore.created (hcreates.trans hcreated), ?_, ?_⟩
    · intro row hrow
      apply hbefore.deleted
      rw [hdeleted]
      exact hrow
    · intro row hrow
      obtain ⟨hnew, hlt⟩ := mem_newRows hrow
      refine ⟨hasId_eq_false_iff.mpr fun other hother => ?_, hlt⟩
      exact ((hsound.fresh other hother).trans_le hnew).ne
  · intro other hmem hapart hother
    refine ⟨⟨hother.created, hother.deleted, ?_⟩, ⟨?_, ?_, ?_⟩⟩
    · intro row hrow
      obtain ⟨hfresh, hlt⟩ := hother.inserted row hrow
      exact ⟨hfresh, hlt.trans_le (Nat.le_add_right _ _)⟩
    · exact fun hboth => hapart.created ⟨hboth.1, hcreates.trans hboth.2⟩
    · intro row hrow taken htaken
      apply hapart.deleted row hrow taken
      rw [hdeleted]
      exact htaken
    · intro row hrow new hnew
      exact ((hother.inserted row hrow).2.trans_le (mem_newRows hnew).1).ne

theorem sound_commits (hstage : generation.stage = .inserted snapshot rows
      ∨ generation.stage = .deleted snapshot ∧ generation.payrollPreview = [] ∧ rows = []) :
    Sound { (commit state snapshot rows).1 with
      generations := state.generations.set position
        { generation with stage := .ended .done } } := by
  have hbefore := undisturbed_of_running hsound hgeneration
  obtain ⟨hcreates, hdeleted, hinserted⟩ := written_of_commits hstage
  apply sound_set hsound hgeneration (commit state snapshot rows).1 (.ended .done)
  · intro row hrow
    rcases mem_commit_lines.mp hrow with ⟨hkept, -⟩ | hnew
    · exact hsound.fresh row hkept
    · rw [← hinserted] at hnew
      exact (hbefore.inserted row hnew).2
  · exact undisturbed_of_idle ⟨rfl, rfl, rfl⟩
  · intro other _ hapart hother
    refine ⟨⟨fun hcreated => ?_, ?_, ?_⟩, apart_of_idle ⟨rfl, rfl, rfl⟩⟩
    · have hkept : snapshot.period.isNone = false := by
        rw [← hcreates, Bool.eq_false_iff]
        exact fun hown => hapart.created ⟨hcreated, hown⟩
      simp only [commit, hkept, Bool.false_eq_true, if_false]
      exact hother.created hcreated
    · intro row hrow
      obtain ⟨line, hline, hid⟩ := hasId_iff.mp (hother.deleted row hrow)
      refine hasId_iff.mpr ⟨line, mem_commit_lines.mpr (Or.inl ⟨hline, ?_⟩), hid⟩
      rw [hasId_eq_false_iff]
      intro taken htaken
      rw [hid]
      apply (hapart.deleted row hrow taken _).symm
      rw [hdeleted]
      exact htaken
    · intro row hrow
      obtain ⟨hfresh, hlt⟩ := hother.inserted row hrow
      refine ⟨hasId_eq_false_iff.mpr fun line hline => ?_, hlt⟩
      rcases mem_commit_lines.mp hline with ⟨hkept, -⟩ | hnew
      · exact hasId_eq_false_iff.mp hfresh line hkept
      · apply (hapart.inserted row hrow line _).symm
        rw [hinserted]
        exact hnew

theorem sound_of_steps (hsteps : Steps state position generation state' stage') :
    Sound { state' with
      generations := state.generations.set position { generation with stage := stage' } } := by
  cases hsteps with
  | ends answer => exact sound_idle hsound hgeneration _ ⟨rfl, rfl, rfl⟩
  | waits =>
      exact sound_set hsound hgeneration state generation.stage hsound.fresh
        (undisturbed_of_running hsound hgeneration) fun other _ hapart hother => ⟨hother, hapart⟩
  | reads hopen => exact sound_idle hsound hgeneration _ ⟨rfl, rfl, rfl⟩
  | creates snapshot hstage hfree hnone => exact sound_creates hsound hgeneration hfree hnone
  | deletes snapshot hstage hfree hpresent =>
      exact sound_deletes hsound hgeneration hstage hfree hpresent
  | inserts snapshot hstage hunchanged => exact sound_inserts hsound hgeneration hstage
  | commits snapshot rows hstage => exact sound_commits hsound hgeneration hstage

end Steps

/-! ## Commits -/

theorem overwrites_of_commits (hstage : generation.stage = .inserted snapshot rows
      ∨ generation.stage = .deleted snapshot ∧ generation.payrollPreview = [] ∧ rows = []) :
    overwrites generation = false ↔ snapshot.lines = [] ∧ rows = [] := by
  unfold overwrites
  rcases hstage with hstage | ⟨hstage, hempty, rfl⟩
  · simp [hstage]
  · simp [hstage, hempty]

/-- A commit leaves the lines alone when it deletes and inserts none. -/
theorem commit_lines_iff (hundisturbed : Undisturbed state generation)
    (hstage : generation.stage = .inserted snapshot rows
      ∨ generation.stage = .deleted snapshot ∧ generation.payrollPreview = [] ∧ rows = []) :
    (commit state snapshot rows).1.lines = state.lines ↔ overwrites generation = false := by
  obtain ⟨-, hdeleted, hinserted⟩ := written_of_commits hstage
  rw [overwrites_of_commits hstage]
  constructor
  · intro hsame
    constructor
    · rw [List.eq_nil_iff_forall_not_mem]
      intro row hrow
      rw [← hdeleted] at hrow
      obtain ⟨line, hline, hid⟩ := hasId_iff.mp (hundisturbed.deleted row hrow)
      rw [← hsame, mem_commit_lines] at hline
      rcases hline with ⟨-, hkept⟩ | hnew
      · rw [hdeleted] at hrow
        exact hasId_eq_false_iff.mp hkept row hrow hid.symm
      · rw [← hinserted] at hnew
        have hfresh := (hundisturbed.inserted line hnew).1
        obtain ⟨stored, hstored, hstoredId⟩ := hasId_iff.mp (hundisturbed.deleted row hrow)
        exact hasId_eq_false_iff.mp hfresh stored hstored (hstoredId.trans hid.symm)
    · rw [List.eq_nil_iff_forall_not_mem]
      intro row hrow
      have hline : row ∈ state.lines := by
        rw [← hsame, mem_commit_lines]
        exact Or.inr hrow
      rw [← hinserted] at hrow
      exact hasId_eq_false_iff.mp (hundisturbed.inserted row hrow).1 row hline rfl
  · rintro ⟨hnone, rfl⟩
    simp [commit, hnone, hasId]

/-- A generation that overwrites lines does so with a commit. -/
theorem exists_commit_of_overwrites (state : PayrollState Date) (position : ℕ)
    (hoverwrites : overwrites generation = true) :
    ∃ snapshot rows, (generation.stage = .inserted snapshot rows
        ∨ generation.stage = .deleted snapshot ∧ generation.payrollPreview = [] ∧ rows = [])
      ∧ generateOutcome state position generation false = commit state snapshot rows := by
  cases hstage : generation.stage with
  | inserted snapshot rows =>
      refine ⟨snapshot, rows, Or.inl rfl, ?_⟩
      simp only [generateOutcome, generateStep, hstage]
  | deleted snapshot =>
      rw [overwrites, hstage] at hoverwrites
      have hempty := List.isEmpty_iff.mp (Bool.and_eq_true _ _ ▸ hoverwrites).1
      refine ⟨snapshot, [], Or.inr ⟨rfl, hempty, rfl⟩, ?_⟩
      simp only [generateOutcome, generateStep, hstage, hempty, List.isEmpty_nil, if_true]
  | _ => simp [overwrites, hstage] at hoverwrites

/-- Other steps leave the lines alone. -/
theorem lines_of_steps (hundisturbed : Undisturbed state generation)
    (hkeeps : overwrites generation = false)
    (hsteps : Steps state position generation state' stage') : state'.lines = state.lines := by
  cases hsteps with
  | commits snapshot rows hstage => exact (commit_lines_iff hundisturbed hstage).mpr hkeeps
  | _ => rfl

/-- Only a draft can be created. -/
theorem period_of_steps (hundisturbed : Undisturbed state generation)
    (hsteps : Steps state position generation state' stage') (hfinalized : IsFinalized state) :
    IsFinalized state' := by
  cases hsteps with
  | commits snapshot rows hstage =>
      obtain ⟨hcreates, -, -⟩ := written_of_commits hstage
      have hkept : snapshot.period.isNone = false := by
        rw [← hcreates, Bool.eq_false_iff]
        intro hcreated
        rw [IsFinalized, hundisturbed.created hcreated] at hfinalized
        cases hfinalized
      rw [IsFinalized, commit, hkept]
      exact hfinalized
  | _ => exact hfinalized

/-! ## Runs -/

/-- What a command does; a finalization writes nothing but the row of the period. -/
inductive Advances (state : PayrollState Date) : PayrollState Date → Prop
  | generates (payrollPreview : List (PayrollLine Date)) :
      Advances state { state with generations := state.generations ++ [⟨payrollPreview, .begun⟩] }
  | steps {position : ℕ} {generation : Generation Date} {state' : PayrollState Date}
      {stage : GenerateStage Date} (hgeneration : state.generations[position]? = some generation)
      (hsteps : Steps state position generation state' stage) :
      Advances state
        { state' with generations := state.generations.set position { generation with stage } }
  | keeps (finalizations : List FinalizeStage) : Advances state { state with finalizations }
  | finalizes {version : ℕ} (finalizations : List FinalizeStage)
      (hdraft : state.period = some ⟨.draft, version⟩) :
      Advances state { state with period := some ⟨.finalized, version + 1⟩, finalizations }

theorem advances_payrollStep (state : PayrollState Date) (command : PayrollCommand Date) :
    Advances state (payrollStep state command) := by
  cases command with
  | generate payrollPreview => exact .generates payrollPreview
  | finalize => exact .keeps _
  | advanceGeneration position fails =>
      simp only [payrollStep]
      split
      · next generation hgeneration =>
        exact .steps hgeneration (steps_generateOutcome state position generation fails)
      · exact .keeps state.finalizations
  | advanceFinalization position =>
      simp only [payrollStep]
      split
      · next stage _ =>
        cases stage with
        | begun => exact .keeps _
        | ended answer => exact .keeps _
        | counted =>
            simp only [finalizeStep]
            split
            · next hdraft => exact .finalizes _ hdraft
            · exact .keeps _
      · exact .keeps state.finalizations

theorem sound_opened : Sound (.opened Date) where
  fresh _ hrow := absurd hrow List.not_mem_nil
  undisturbed _ hmem := absurd hmem List.not_mem_nil
  apart := eachApart_nil

theorem sound_of_advances (hsound : Sound state) (hadvances : Advances state state') :
    Sound state' := by
  have hwaits : ∀ period finalizations,
      (∀ generation ∈ state.generations, createsPeriod generation = true → period = none) →
      Sound { state with period, finalizations } := by
    intro period finalizations hcreated
    refine ⟨hsound.fresh, fun generation hmem => ?_, hsound.apart⟩
    have hundisturbed := hsound.undisturbed generation hmem
    exact ⟨hcreated generation hmem, hundisturbed.deleted, hundisturbed.inserted⟩
  cases hadvances with
  | generates payrollPreview =>
      refine ⟨hsound.fresh, fun generation hmem => ?_,
        eachApart_append apart_symm hsound.apart fun _ _ => apart_of_idle ⟨rfl, rfl, rfl⟩⟩
      rcases List.mem_append.mp hmem with hmem | hmem
      · have hundisturbed := hsound.undisturbed generation hmem
        exact ⟨hundisturbed.created, hundisturbed.deleted, hundisturbed.inserted⟩
      · rw [List.mem_singleton.mp hmem]
        exact undisturbed_of_idle ⟨rfl, rfl, rfl⟩
  | steps hgeneration hsteps => exact sound_of_steps hsound hgeneration hsteps
  | keeps => exact hwaits _ _ fun generation hmem => (hsound.undisturbed generation hmem).created
  | finalizes _ hdraft =>
      refine hwaits _ _ fun generation hmem hcreated => ?_
      rw [(hsound.undisturbed generation hmem).created hcreated] at hdraft
      cases hdraft

theorem isFinalized_of_advances (hsound : Sound state) (hfinalized : IsFinalized state)
    (hadvances : Advances state state') : IsFinalized state' := by
  cases hadvances with
  | generates => exact hfinalized
  | steps hgeneration hsteps =>
      have hkept := period_of_steps (undisturbed_of_running hsound hgeneration) hsteps hfinalized
      exact hkept
  | keeps => exact hfinalized
  | finalizes => rfl

theorem keeps_iff_respects (hsound : Sound state) (command : PayrollCommand Date) :
    Keeps payrollStep IsFinalized PayrollState.lines state command
      ↔ respects state command = true := by
  cases command with
  | generate payrollPreview => exact iff_of_true (fun _ => rfl) rfl
  | finalize => exact iff_of_true (fun _ => rfl) rfl
  | advanceFinalization position =>
      refine iff_of_true (fun _ => ?_) rfl
      simp only [payrollStep]
      split
      · next stage _ =>
        cases stage with
        | counted =>
            simp only [finalizeStep]
            split <;> rfl
        | _ => rfl
      · rfl
  | advanceGeneration position fails =>
      cases hgeneration : state.generations[position]? with
      | none =>
          refine iff_of_true (fun _ => ?_) ?_
          · simp only [payrollStep, hgeneration]
          · cases fails <;> simp [respects, hgeneration]
      | some generation =>
          have hundisturbed := undisturbed_of_running hsound hgeneration
          have hlines : (payrollStep state (.advanceGeneration position fails)).lines
              = (generateOutcome state position generation fails).1.lines := by
            simp only [payrollStep, hgeneration]
          rw [Keeps, hlines]
          cases fails with
          | true =>
              refine iff_of_true (fun _ => ?_) rfl
              cases hstage : generation.stage <;> simp only [generateOutcome, hstage]
          | false =>
              rw [respects, hgeneration, Option.any_some, Bool.not_eq_true', Bool.and_eq_false_iff,
                Bool.eq_false_iff]
              cases hoverwrites : overwrites generation with
              | false =>
                  refine iff_of_true (fun _ => ?_) (Or.inr rfl)
                  exact lines_of_steps hundisturbed hoverwrites
                    (steps_generateOutcome state position generation false)
              | true =>
                  obtain ⟨snapshot, rows, hstage, hcommit⟩ :=
                    exists_commit_of_overwrites state position hoverwrites
                  rw [hcommit, commit_lines_iff hundisturbed hstage, hoverwrites]
                  simp [IsFinalized]

/-! ## Insertions -/

/-- The transaction has read a period that was not finalized. -/
def ReadsDraft (generation : Generation Date) : Prop :=
  match generation.stage with
  | .read snapshot | .created snapshot | .deleted snapshot | .inserted snapshot _ =>
      snapshot.period.any (·.status = .finalized) = false
  | _ => True

theorem readsDraft_of_steps (hdraft : ReadsDraft generation)
    (hsteps : Steps state position generation state' stage') :
    ReadsDraft { generation with stage := stage' } := by
  unfold ReadsDraft at hdraft
  cases hsteps with
  | ends answer => trivial
  | waits => exact hdraft
  | reads hopen => exact Bool.eq_false_iff.mpr hopen
  | creates snapshot hstage hfree hnone =>
      rw [hstage] at hdraft
      exact hdraft
  | deletes snapshot hstage hfree hpresent =>
      rcases hstage with hstage | ⟨hstage, -⟩
      · rw [hstage] at hdraft
        exact hdraft
      · rw [hstage] at hdraft
        exact hdraft
  | inserts snapshot hstage hunchanged =>
      rw [hstage] at hdraft
      exact hdraft
  | commits snapshot rows hstage => trivial

/-- No lines are inserted for a finalized period. -/
theorem inserted_of_finalized (hundisturbed : Undisturbed state generation)
    (hdraft : ReadsDraft generation) (hfinalized : IsFinalized state)
    (hsteps : Steps state position generation state' (.inserted snapshot rows)) :
    generation.stage = .inserted snapshot rows := by
  generalize hstage' : GenerateStage.inserted snapshot rows = stage' at hsteps
  cases hsteps with
  | waits => rfl
  | inserts read hstage hunchanged =>
      rw [ReadsDraft, hstage] at hdraft
      cases hsome : read.period with
      | none =>
          have hcreates : createsPeriod generation = true := by
            rw [createsPeriod, hstage]
            exact Option.isNone_iff_eq_none.mpr hsome
          rw [IsFinalized, hundisturbed.created hcreates] at hfinalized
          cases hfinalized
      | some period =>
          rw [IsFinalized, hunchanged (by rw [hsome]; rfl), hdraft] at hfinalized
          cases hfinalized
  | _ => cases hstage'

theorem readsDraft_of_advances (hadvances : Advances state state')
    (hdraft : ∀ generation ∈ state.generations, ReadsDraft generation) :
    ∀ generation ∈ state'.generations, ReadsDraft generation := by
  cases hadvances with
  | generates payrollPreview =>
      intro generation hmem
      rcases List.mem_append.mp hmem with hmem | hmem
      · exact hdraft generation hmem
      · rw [List.mem_singleton.mp hmem]
        trivial
  | steps hgeneration hsteps =>
      intro other hmem
      rcases List.mem_or_eq_of_mem_set hmem with hmem | rfl
      · exact hdraft other hmem
      · exact readsDraft_of_steps (hdraft _ (List.mem_of_getElem? hgeneration)) hsteps
  | keeps => exact hdraft
  | finalizes => exact hdraft

/-- The lines that a generation commits after the finalization were inserted before it. -/
theorem inserted_before_finalized (commands : List (PayrollCommand Date)) (fails : Bool) :
    let state := exec payrollStep (.opened Date) commands
    IsFinalized state → ∀ position generation, state.generations[position]? = some generation →
      ∀ snapshot rows,
        (generateOutcome state position generation fails).2 = .inserted snapshot rows →
          generation.stage = .inserted snapshot rows := by
  intro state hfinalized position generation hgeneration snapshot rows hinserted
  obtain ⟨hsound, hdraft⟩ : Sound state ∧ ∀ generation ∈ state.generations,
      ReadsDraft generation := by
    apply invariant_exec (fun state => Sound state ∧ ∀ generation ∈ state.generations,
      ReadsDraft generation)
    · intro state command hkept
      have hadvances := advances_payrollStep state command
      exact ⟨sound_of_advances hkept.1 hadvances, readsDraft_of_advances hadvances hkept.2⟩
    · exact ⟨sound_opened, fun _ hmem => absurd hmem List.not_mem_nil⟩
  have hsteps := steps_generateOutcome state position generation fails
  rw [hinserted] at hsteps
  exact inserted_of_finalized (undisturbed_of_running hsound hgeneration)
    (hdraft generation (List.mem_of_getElem? hgeneration)) hfinalized hsteps

/-- The lines of the period never change after its finalization, exactly when no
generation commits other lines while the period is finalized. -/
theorem finalized_lines_frozen_iff (commands : List (PayrollCommand Date)) :
    Frozen payrollStep IsFinalized PayrollState.lines (.opened Date) commands ↔
      Safely payrollStep (fun state command => respects state command = true) (.opened Date)
        commands := by
  have hsound_step : ∀ (state : PayrollState Date) command, Sound state →
      Sound (payrollStep state command) := fun state command hsound =>
    sound_of_advances hsound (advances_payrollStep state command)
  rw [frozen_iff Sound hsound_step (fun state command hsound hfinalized =>
    isFinalized_of_advances hsound hfinalized (advances_payrollStep state command)) sound_opened]
  exact safely_congr Sound (fun _ command hsound => keeps_iff_respects hsound command)
    (fun state command hsound _ => hsound_step state command hsound) sound_opened commands

/-! ## A finalization between the insertion and the commit -/

def sampleLine (grossAmount : ℕ) : PayrollLine ℕ where
  profileId := 1
  profileName := []
  hourlyRate := 200
  regularMinutes := 300
  overtimeTier1Minutes := 0
  overtimeTier2Minutes := 0
  holidayMinutes := 0
  regularAmount := grossAmount
  overtimeAmount := 0
  holidayAmount := 0
  grossAmount := grossAmount
  missingWageRate := false
  shifts := []

/-- The period is generated, generated again up to the insertion, and finalized. -/
def finalizedMeanwhile : List (PayrollCommand ℕ) :=
  .generate [sampleLine 1000] :: List.replicate 5 (.advanceGeneration 0 false)
    ++ .generate [sampleLine 2000] :: List.replicate 3 (.advanceGeneration 1 false)
    ++ [.finalize, .advanceFinalization 0, .advanceFinalization 0]

/-- The second generation commits its line for the finalized period. -/
theorem finalized_line_replaced :
    let amounts := fun state : PayrollState ℕ => state.lines.map (·.line.grossAmount)
    let finalized := exec payrollStep (.opened ℕ) finalizedMeanwhile
    let final := exec payrollStep (.opened ℕ)
      (finalizedMeanwhile ++ [.advanceGeneration 1 false])
    IsFinalized finalized ∧ amounts finalized = [1000] ∧ amounts final = [2000]
      ∧ ¬ Frozen payrollStep IsFinalized PayrollState.lines (.opened ℕ)
        (finalizedMeanwhile ++ [.advanceGeneration 1 false]) := by
  intro amounts finalized final
  have hfinalized : IsFinalized finalized := by
    unfold IsFinalized
    decide
  have hbefore : amounts finalized = [1000] := by decide
  have hafter : amounts final = [2000] := by decide
  refine ⟨hfinalized, hbefore, hafter, fun hfrozen => ?_⟩
  have hsame := hfrozen finalizedMeanwhile _ (List.prefix_append _ _) List.prefix_rfl hfinalized
  have hamounts : amounts final = amounts finalized :=
    congrArg (List.map (·.line.grossAmount)) hsame
  rw [hbefore, hafter] at hamounts
  cases hamounts

end Stallorder.FinalizedPeriods
