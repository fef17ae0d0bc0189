import Stallorder.Waitlist.VisitTrail

/-!
# Positions in the queue

The position of a party counts the active entries up to its own.  The entries of
a stall have the positions from one on.  A party only moves forward, unless
another one comes in before it: a call that began earlier and ends later.
-/

namespace Stallorder.QueuePositions

open OrderContract WaitlistDatabase WaitlistService VisitTrail FirstOf Run

/-- The entries of the queue of a stall. -/
def queueOf (db : WaitlistDb) (stallId : Uuid) : List WaitlistEntry :=
  db.entries.table.rows.filter fun entry => entry.stallId = stallId && entry.isActive

def joinsBefore (entry : WaitlistEntry) : CallResult → Bool
  | .joined joined _ => joined.stallId = entry.stallId && joined.queueKey ≤ entry.queueKey
  | _ => false

/-- Another party joins before an entry. -/
def overtakes (entry : WaitlistEntry) (db : WaitlistDb) : WaitlistCommand → Bool
  | .join surroundings call now =>
      joinsBefore entry (joinDigitalWaitlist db surroundings call now).2
  | _ => false

/-- The positions that an entry has in the course of a run. -/
def positionsAlong (entry : WaitlistEntry) (db : WaitlistDb) (commands : List WaitlistCommand) :
    List ℕ :=
  db.position entry :: observed step (fun db => [db.position entry]) db commands

section Queues

theorem position_eq_rank (db : WaitlistDb) (entry : WaitlistEntry) :
    db.position entry = rank (·.queueKey) (queueOf db entry.stallId) entry := by
  rw [WaitlistDb.position, rank, queueOf, List.countP_filter]
  apply List.countP_congr
  intro other _
  simp only [Bool.and_eq_true, decide_eq_true_eq]
  tauto

theorem nodup_queueKeys (db : WaitlistDb) (stallId : Uuid) :
    ((queueOf db stallId).map (·.queueKey)).Nodup := by
  rw [List.Nodup, List.pairwise_map]
  apply (db.entries.table.unique.filter _).imp
  intro left right hdistinct hkeys
  have hid : left.id = right.id := congrArg Prod.snd (toLex.injective hkeys)
  exact hdistinct (Indexed.collides_of_key_eq hid)

/-- The positions of the entries of a stall are the numbers from one on. -/
theorem map_position_perm (db : WaitlistDb) (stallId : Uuid) :
    ((queueOf db stallId).map db.position).Perm (List.range' 1 (queueOf db stallId).length) := by
  have hranks : (queueOf db stallId).map db.position
      = (queueOf db stallId).map (rank (·.queueKey) (queueOf db stallId)) := by
    apply List.map_congr_left
    intro entry hentry
    have hstall : entry.stallId = stallId := by
      have hwanted := (List.mem_filter.mp hentry).2
      simp only [Bool.and_eq_true, decide_eq_true_eq] at hwanted
      exact hwanted.1
    rw [position_eq_rank, hstall]
  rw [hranks]
  exact map_rank_perm (nodup_queueKeys db stallId)

end Queues

/-! ## Steps -/

section Steps

variable {db db' : WaitlistDb} {command : WaitlistCommand} {entry joined old new : WaitlistEntry}
  {action : AuditAction}

theorem position_of_joined (hjoined : Joined db db' joined action) :
    db'.position entry = db.position entry
      + if joined.stallId = entry.stallId ∧ joined.queueKey ≤ entry.queueKey then 1 else 0 := by
  rw [WaitlistDb.position, CheckedTable.rows_of_insert? hjoined.inserted, List.countP_append,
    List.countP_singleton, ← WaitlistDb.position]
  simp only [hjoined.active, Bool.and_true, Bool.and_eq_true, decide_eq_true_eq]

theorem position_of_rewritten (hrewritten : Rewritten db db' old new action) :
    db'.position entry ≤ db.position entry := by
  rw [WaitlistDb.position, CheckedTable.rows_of_updateWhere? hrewritten.rewritten,
    List.countP_map, WaitlistDb.position]
  apply List.countP_mono_left
  intro row hrow hcounts
  by_cases hid : row.id = old.id
  · have hsame : row = old := CheckedTable.eq_of_key_eq hrow hrewritten.stored hid
    subst hsame
    have hkey : new.queueKey = row.queueKey := by
      rw [WaitlistEntry.queueKey, WaitlistEntry.queueKey, hrewritten.sameId,
        hrewritten.sameJoinedAt]
    simp only [Function.comp_apply, if_true, Bool.and_eq_true, decide_eq_true_eq]
      at hcounts ⊢
    rw [hkey, hrewritten.sameStall] at hcounts
    exact ⟨⟨hcounts.1.1, hrewritten.active hcounts.1.2⟩, hcounts.2⟩
  · simpa [hid] using hcounts

theorem position_of_entries (hentries : db'.entries = db.entries) :
    db'.position entry = db.position entry := by
  rw [WaitlistDb.position, WaitlistDb.position, hentries]

/-- An entry moves back exactly in the steps in which it is overtaken. -/
theorem position_step_le_iff (entry : WaitlistEntry) (db : WaitlistDb)
    (command : WaitlistCommand) :
    db.position entry ≥ (step db command).position entry
      ↔ overtakes entry db command = false := by
  cases command with
  | join surroundings call now =>
      rw [step, overtakes]
      rcases join_cases (Prod.mk.eta (p := joinDigitalWaitlist db surroundings call now)).symm with
        ⟨hentries, -, hnot⟩ | ⟨stall, action, position, hresult, hjoined⟩
      · refine iff_of_true (position_of_entries hentries).le ?_
        cases hresult : (joinDigitalWaitlist db surroundings call now).2 with
        | joined joined position => exact absurd hresult (hnot joined position)
        | _ => rfl
      · rw [hresult, joinsBefore, position_of_joined hjoined, ← Bool.not_eq_true, Bool.and_eq_true,
          decide_eq_true_eq, decide_eq_true_eq]
        split_ifs with hbefore
        · exact iff_of_false (Nat.lt_succ_self _).not_ge (not_not_intro hbefore)
        · exact iff_of_true le_rfl hbefore
  | transition surroundings call now =>
      refine iff_of_true ?_ rfl
      rw [step]
      rcases transition_cases
        (Prod.mk.eta (p := transitionDigitalWaitlistEntry db surroundings call now)).symm with
        ⟨hentries, -⟩ | ⟨old, new, action, hrewritten⟩
      · exact (position_of_entries hentries).le
      · exact position_of_rewritten hrewritten
  | exchange surroundings call now =>
      refine iff_of_true ?_ rfl
      rw [step]
      rcases exchange_cases
        (Prod.mk.eta (p := exchangeDigitalWaitlistSeating db surroundings call now)).symm with
        ⟨hentries, -⟩ | ⟨old, new, action, hrewritten⟩
      · exact (position_of_entries hentries).le
      · exact position_of_rewritten hrewritten
  | purge now =>
      refine iff_of_true ?_ rfl
      exact List.filter_sublist.countP_le
  | otherSession session =>
      refine iff_of_true ?_ rfl
      cases hinsert : db.sessions.insert? session with
      | none =>
          rw [step, hinsert]
          exact le_rfl
      | some sessions =>
          rw [step, hinsert]
          exact le_rfl

end Steps

/-! ## Runs -/

/-- The positions of the active entries of a stall are the numbers from one on.  In the course of
any run a place in the queue only moves forward, if and only if no party comes in before it. -/
theorem positions_fall_iff (db : WaitlistDb) (entry : WaitlistEntry)
    (commands : List WaitlistCommand) :
    ((queueOf db entry.stallId).map db.position).Perm
        (List.range' 1 (queueOf db entry.stallId).length)
      ∧ ((positionsAlong entry db commands).IsChain (· ≥ ·) ↔
        Safely step (fun db command => overtakes entry db command = false) db commands) := by
  refine ⟨map_position_perm db entry.stallId, ?_⟩
  induction commands generalizing db with
  | nil => exact iff_of_true (List.isChain_singleton _) trivial
  | cons command commands ih =>
      rw [positionsAlong, observed, List.singleton_append, List.isChain_cons_cons,
        position_step_le_iff]
      exact and_congr_right fun _ => ih (step db command)

/-- Another party, whose call began first and ends last. -/
def sampleOther : JoinCall :=
  { sampleJoin with
    entryId := 6
    publicTokenHash := List.replicate 64 'b'
    duplicateKeyHash := List.replicate 64 'b' }

def sampleEntry : WaitlistEntry := newEntry ⟨1, 1, 1, true, some 900⟩ sampleJoin 10

def sampleQueue : WaitlistDb :=
  exec step .empty [.join sampleSurroundings sampleJoin 10]

/-- Of two calls at the same time the one that ends last comes in before the other. -/
theorem positions_fall_iff_simultaneousJoins :
    sampleEntry ∈ sampleQueue.entries.table.rows
      ∧ ¬ (positionsAlong sampleEntry sampleQueue [.join sampleSurroundings sampleOther 5]).IsChain
        (· ≥ ·) := by
  refine ⟨by decide +kernel, fun hfalls => ?_⟩
  have hsafe := (positions_fall_iff sampleQueue sampleEntry
    [.join sampleSurroundings sampleOther 5]).2.mp hfalls
  exact absurd hsafe (by decide +kernel)

end Stallorder.QueuePositions
