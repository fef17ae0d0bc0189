import Stallorder.Resilience.BackendRuntime

/-!
# Who is the writer

Between the primary and the standby database, being the writer goes around: the
writer is frozen, the other one is promoted to a new epoch, is frozen in turn,
and the first one comes back with another epoch.  The epochs then put the
writers of all times in order.  Only when the primary is unfrozen while the
standby is frozen for a failback does an old epoch return.
-/

namespace Stallorder.FailoverProtocol

open BackendRuntime

/-- The roles and the epochs of the two databases. -/
structure Roles where
  primaryRole : BackendRole
  primaryEpoch : ℕ
  drRole : BackendRole
  drEpoch : ℕ

structure Writer where
  code : BackendCode
  epoch : ℕ
  deriving DecidableEq

def Roles.writers (roles : Roles) : List Writer :=
  (if roles.primaryRole = .activeWriter then [⟨.primary, roles.primaryEpoch⟩] else [])
    ++ (if roles.drRole = .activeWriter then [⟨.dr, roles.drEpoch⟩] else [])

/-- A writer does not fall behind an earlier one, and another database has a newer epoch. -/
def InOrder (earlier later : Writer) : Prop :=
  earlier.epoch ≤ later.epoch ∧ (earlier.code ≠ later.code → earlier.epoch < later.epoch)

instance (earlier later : Writer) : Decidable (InOrder earlier later) :=
  inferInstanceAs (Decidable (_ ∧ _))

/-! ## The round -/

/-- Where the databases stand in the round. -/
inductive InRound : Roles → Prop
  | normal {role : BackendRole} {epoch : ℕ} (hrole : role = .activeWriter ∨ role = .sealed) :
      InRound ⟨role, epoch, .readOnlyStandby, epoch⟩
  | promoted {role : BackendRole} {epoch drEpoch : ℕ}
      (hrole : role = .activeWriter ∨ role = .sealed) (hlt : epoch < drEpoch) :
      InRound ⟨.sealed, epoch, role, drEpoch⟩
  | restored {epoch drEpoch : ℕ} (hlt : drEpoch < epoch) :
      InRound ⟨.activeWriter, epoch, .sealed, drEpoch⟩

/-- The primary is the writer behind the back of a standby that has been the writer. -/
inductive Regressed : Roles → Prop
  | mk {epoch drEpoch : ℕ} (hlt : epoch < drEpoch) :
      Regressed ⟨.activeWriter, epoch, .sealed, drEpoch⟩

inductive Move : Roles → Roles → Prop
  | stay (roles : Roles) : Move roles roles
  | freeze (epoch : ℕ) :
      Move ⟨.activeWriter, epoch, .readOnlyStandby, epoch⟩ ⟨.sealed, epoch, .readOnlyStandby, epoch⟩
  | unfreeze (epoch : ℕ) :
      Move ⟨.sealed, epoch, .readOnlyStandby, epoch⟩ ⟨.activeWriter, epoch, .readOnlyStandby, epoch⟩
  | promoteDr (epoch : ℕ) :
      Move ⟨.sealed, epoch, .readOnlyStandby, epoch⟩ ⟨.sealed, epoch, .activeWriter, epoch + 1⟩
  | freezeDr {epoch drEpoch : ℕ} (hlt : epoch < drEpoch) :
      Move ⟨.sealed, epoch, .activeWriter, drEpoch⟩ ⟨.sealed, epoch, .sealed, drEpoch⟩
  | unfreezeDr {epoch drEpoch : ℕ} (hlt : epoch < drEpoch) :
      Move ⟨.sealed, epoch, .sealed, drEpoch⟩ ⟨.sealed, epoch, .activeWriter, drEpoch⟩
  | promotePrimary {epoch drEpoch : ℕ} (hlt : epoch < drEpoch) :
      Move ⟨.sealed, epoch, .sealed, drEpoch⟩ ⟨.activeWriter, drEpoch + 1, .sealed, drEpoch⟩
  | demoteDr {epoch drEpoch : ℕ} (hlt : drEpoch < epoch) :
      Move ⟨.activeWriter, epoch, .sealed, drEpoch⟩ ⟨.activeWriter, epoch, .readOnlyStandby, epoch⟩

/-- The primary is unfrozen after the standby has been the writer. -/
inductive Regression : Roles → Roles → Prop
  | mk {epoch drEpoch : ℕ} (hlt : epoch < drEpoch) :
      Regression ⟨.sealed, epoch, .sealed, drEpoch⟩ ⟨.activeWriter, epoch, .sealed, drEpoch⟩

variable {roles roles' : Roles} {past : List Writer} {writer : Writer}

theorem mem_writers_iff :
    writer ∈ roles.writers ↔
      (writer = ⟨.primary, roles.primaryEpoch⟩ ∧ roles.primaryRole = .activeWriter)
        ∨ (writer = ⟨.dr, roles.drEpoch⟩ ∧ roles.drRole = .activeWriter) := by
  rw [Roles.writers, List.mem_append]
  by_cases hprimary : roles.primaryRole = .activeWriter <;>
    by_cases hdr : roles.drRole = .activeWriter <;> simp [hprimary, hdr]

theorem InRound.move (hround : InRound roles) (hmove : Move roles roles') : InRound roles' := by
  cases hmove with
  | stay => exact hround
  | freeze epoch => exact .normal (.inr rfl)
  | unfreeze epoch => exact .normal (.inl rfl)
  | promoteDr epoch => exact .promoted (.inl rfl) (Nat.lt_succ_self epoch)
  | freezeDr hlt => exact .promoted (.inr rfl) hlt
  | unfreezeDr hlt => exact .promoted (.inl rfl) hlt
  | promotePrimary hlt => exact .restored (Nat.lt_succ_self _)
  | demoteDr hlt => exact .normal (.inl rfl)

/-- There is never more than one writer in the round. -/
theorem InRound.one_writer (hround : InRound roles) : roles.writers.length ≤ 1 := by
  cases hround with
  | normal hrole => rcases hrole with rfl | rfl <;> simp [Roles.writers]
  | promoted hrole hlt => rcases hrole with rfl | rfl <;> simp [Roles.writers]
  | restored hlt => exact le_rfl

theorem Move.primaryEpoch_le (hmove : Move roles roles') :
    roles.primaryEpoch ≤ roles'.primaryEpoch := by
  cases hmove with
  | promotePrimary hlt => exact hlt.le.trans (Nat.le_succ _)
  | _ => exact le_rfl

theorem Regression.primaryEpoch_le (hregression : Regression roles roles') :
    roles.primaryEpoch ≤ roles'.primaryEpoch := by
  obtain ⟨hlt⟩ := hregression
  exact le_rfl

/-- Moves do not lead back into the round. -/
theorem Regressed.move (hregressed : Regressed roles) (hmove : Move roles roles') :
    Regressed roles' := by
  obtain ⟨hlt⟩ := hregressed
  cases hmove with
  | stay => exact .mk hlt
  | demoteDr hbehind => exact absurd hlt hbehind.not_gt

theorem Regressed.one_writer (hregressed : Regressed roles) : roles.writers.length ≤ 1 := by
  obtain ⟨hlt⟩ := hregressed
  exact le_rfl

theorem Regression.regressed (hregression : Regression roles roles') : Regressed roles' := by
  obtain ⟨hlt⟩ := hregression
  exact .mk hlt

/-! ## The writers so far -/

/-- What the epochs say of the writers up to now. -/
structure Remembers (roles : Roles) (past : List Writer) : Prop where
  primary_le : ∀ writer ∈ past, writer.code = .primary → writer.epoch ≤ roles.primaryEpoch
  dr_le : ∀ writer ∈ past, writer.code = .dr → writer.epoch ≤ roles.drEpoch
  /-- A standby has not been a writer in its epoch. -/
  standby : roles.drRole = .readOnlyStandby →
    ∀ writer ∈ past, writer.code = .dr → writer.epoch < roles.drEpoch

/-- The writers of a state in the round come after all the writers before it. -/
theorem Remembers.inOrder_writers (hpast : Remembers roles past) (hround : InRound roles)
    (hwriter : writer ∈ roles.writers) : ∀ earlier ∈ past, InOrder earlier writer := by
  intro earlier hearlier
  have hprimary := hpast.primary_le earlier hearlier
  have hdr := hpast.dr_le earlier hearlier
  have hstandby := fun hrole => hpast.standby hrole earlier hearlier
  rcases earlier with ⟨code, epoch⟩
  cases hround with
  | normal hrole =>
      rcases hrole with rfl | rfl
      · rw [List.mem_singleton.mp hwriter]
        cases code with
        | primary => exact ⟨hprimary rfl, fun hne => absurd rfl hne⟩
        | dr => exact ⟨hdr rfl, fun _ => hstandby rfl rfl⟩
      · cases hwriter
  | promoted hrole hlt =>
      rcases hrole with rfl | rfl
      · rw [List.mem_singleton.mp hwriter]
        cases code with
        | primary => exact ⟨(hprimary rfl).trans hlt.le, fun _ => (hprimary rfl).trans_lt hlt⟩
        | dr => exact ⟨hdr rfl, fun hne => absurd rfl hne⟩
      · cases hwriter
  | restored hlt =>
      rw [List.mem_singleton.mp hwriter]
      cases code with
      | primary => exact ⟨hprimary rfl, fun hne => absurd rfl hne⟩
      | dr => exact ⟨(hdr rfl).trans hlt.le, fun _ => (hdr rfl).trans_lt hlt⟩

/-- The epochs go on covering the writers so far. -/
theorem Remembers.move (hpast : Remembers roles past) (hmove : Move roles roles') :
    Remembers roles' past := by
  obtain ⟨hprimary, hdr, hstandby⟩ := hpast
  cases hmove with
  | stay => exact ⟨hprimary, hdr, hstandby⟩
  | freeze epoch => exact ⟨hprimary, hdr, hstandby⟩
  | unfreeze epoch => exact ⟨hprimary, hdr, hstandby⟩
  | promoteDr epoch =>
      refine ⟨hprimary, fun writer hwriter hcode => ?_, fun hrole => by cases hrole⟩
      exact (hdr writer hwriter hcode).trans (Nat.le_succ epoch)
  | freezeDr hlt => exact ⟨hprimary, hdr, fun hrole => by cases hrole⟩
  | unfreezeDr hlt => exact ⟨hprimary, hdr, fun hrole => by cases hrole⟩
  | promotePrimary hlt =>
      refine ⟨fun writer hwriter hcode => ?_, hdr, hstandby⟩
      exact (hprimary writer hwriter hcode).trans (hlt.le.trans (Nat.le_succ _))
  | demoteDr hlt =>
      refine ⟨hprimary, fun writer hwriter hcode => ?_, fun _ writer hwriter hcode => ?_⟩
      · exact (hdr writer hwriter hcode).trans hlt.le
      · exact (hdr writer hwriter hcode).trans_lt hlt

/-- The writers of a state are covered by its epochs. -/
theorem Remembers.extend (hpast : Remembers roles past) :
    Remembers roles (past ++ roles.writers) := by
  constructor
  · intro writer hwriter hcode
    rcases List.mem_append.mp hwriter with hpresent | hpresent
    · exact hpast.primary_le writer hpresent hcode
    · rcases mem_writers_iff.mp hpresent with ⟨rfl, -⟩ | ⟨rfl, -⟩
      · exact le_rfl
      · cases hcode
  · intro writer hwriter hcode
    rcases List.mem_append.mp hwriter with hpresent | hpresent
    · exact hpast.dr_le writer hpresent hcode
    · rcases mem_writers_iff.mp hpresent with ⟨rfl, -⟩ | ⟨rfl, -⟩
      · cases hcode
      · exact le_rfl
  · intro hrole writer hwriter hcode
    rcases List.mem_append.mp hwriter with hpresent | hpresent
    · exact hpast.standby hrole writer hpresent hcode
    · rcases mem_writers_iff.mp hpresent with ⟨rfl, -⟩ | ⟨rfl, hactive⟩
      · cases hcode
      · rw [hrole] at hactive
        cases hactive

/-- The writers so far are in order, and a standby that is ahead is one of them. -/
structure History (roles : Roles) (past : List Writer) : Prop where
  inOrder : past.Pairwise InOrder
  remembers : Remembers roles past
  ahead : roles.primaryEpoch < roles.drEpoch → ⟨.dr, roles.drEpoch⟩ ∈ past

theorem InRound.pairwise_writers (hround : InRound roles) : roles.writers.Pairwise InOrder := by
  have hshort : roles.writers.length ≤ 1 := hround.one_writer
  match roles.writers, hshort with
  | [], _ => exact .nil
  | [writer], _ => exact List.pairwise_singleton _ _

/-- Moves go on with the history. -/
theorem History.move (hhistory : History roles past) (hround : InRound roles)
    (hmove : Move roles roles') : History roles' (past ++ roles'.writers) := by
  have hround' := hround.move hmove
  have hremembers := hhistory.remembers.move hmove
  refine ⟨List.pairwise_append.mpr ⟨hhistory.inOrder, hround'.pairwise_writers, ?_⟩,
    hremembers.extend, ?_⟩
  · intro earlier hearlier writer hwriter
    exact hremembers.inOrder_writers hround' hwriter earlier hearlier
  · intro hlt
    apply List.mem_append.mpr
    cases hmove with
    | stay => exact .inl (hhistory.ahead hlt)
    | freeze epoch => exact absurd hlt (lt_irrefl epoch)
    | unfreeze epoch => exact absurd hlt (lt_irrefl epoch)
    | promoteDr epoch => exact .inr (mem_writers_iff.mpr (.inr ⟨rfl, rfl⟩))
    | freezeDr hahead => exact .inl (hhistory.ahead hahead)
    | unfreezeDr hahead => exact .inl (hhistory.ahead hahead)
    | promotePrimary hahead => exact absurd hlt (Nat.lt_succ_self _).not_gt
    | demoteDr hbehind => exact absurd hlt (lt_irrefl _)

/-- A regression ends the order. -/
theorem Regression.not_inOrder (hregression : Regression roles roles')
    (hhistory : History roles past) : ¬(past ++ roles'.writers).Pairwise InOrder := by
  obtain ⟨hlt⟩ := hregression
  intro hpairwise
  have hlater := (List.pairwise_append.mp hpairwise).2.2 _ (hhistory.ahead hlt) _
    (mem_writers_iff.mpr (.inl ⟨rfl, rfl⟩))
  exact absurd hlt hlater.1.not_gt

end Stallorder.FailoverProtocol
