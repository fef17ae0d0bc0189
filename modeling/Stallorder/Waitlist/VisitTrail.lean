import Stallorder.Waitlist.WaitlistService

/-!
# Visits and their trails

What a party goes through is a visit: it waits, is called, is seated and orders,
or it does not come to that.  Every call that takes a visit a step further
leaves one record.  At any time the entries of the waitlist are what the replay
of their records says.
-/

namespace Stallorder.VisitTrail

open OrderContract Checks WaitlistDatabase WaitlistService Run

/-! ## Visits -/

inductive Visit
  | absent
  | waiting
  | notified
  | seated
  | ordering
  | cancelled
  | noShow
  deriving DecidableEq

def Visit.next : Visit → AuditAction → Option Visit
  | .absent, .joined _ _ => some .waiting
  | .waiting, .stateChanged .notify _ _ _ => some .notified
  | .waiting, .stateChanged .cancel _ _ _ => some .cancelled
  | .notified, .stateChanged .cancel _ _ _ => some .cancelled
  | .notified, .stateChanged .markNoShow _ _ _ => some .noShow
  | .notified, .stateChanged .seat _ _ _ => some .seated
  | .seated, .seatingExchanged _ _ => some .ordering
  | _, _ => none

/-- The visit that a trail of records tells, when it tells one. -/
def replay (trail : List AuditAction) : Option Visit := trail.foldlM Visit.next .absent

/-- The records of an entry. -/
def trail (db : WaitlistDb) (entryId : Uuid) : List AuditAction :=
  (db.auditLogs.filter (·.entryId = some entryId)).map (·.action)

def visitOf (entry : WaitlistEntry) : Visit :=
  match entry.status with
  | .waiting => .waiting
  | .notified => .notified
  | .seated => if entry.seatingExchangeConsumedAt.isSome then .ordering else .seated
  | .cancelled => .cancelled
  | .noShow => .noShow

/-- How many more records a visit can get. -/
def Visit.remaining : Visit → ℕ
  | .absent => 4
  | .waiting => 3
  | .notified => 2
  | .seated => 1
  | _ => 0

section Replays

variable {visit visit' : Visit} {action : AuditAction}

theorem Visit.remaining_of_next (hnext : visit.next action = some visit') :
    visit'.remaining < visit.remaining := by
  unfold Visit.next at hnext
  split at hnext <;> cases hnext <;> decide

@[simp]
theorem replay_nil : replay [] = some .absent := rfl

theorem replay_concat (actions : List AuditAction) (action : AuditAction) :
    replay (actions ++ [action]) = (replay actions).bind fun visit => visit.next action := by
  rw [replay, List.foldlM_append, ← replay]
  cases replay actions with
  | none => rfl
  | some visit => exact bind_pure (visit.next action)

/-- A visit has few records. -/
theorem length_add_remaining_le (actions : List AuditAction) :
    ∀ visit, replay actions = some visit → actions.length + visit.remaining ≤ 4 := by
  induction actions using List.reverseRecOn with
  | nil =>
      intro visit hreplay
      cases hreplay
      exact le_rfl
  | append_singleton actions action ih =>
      intro visit' hreplay
      rw [replay_concat] at hreplay
      obtain ⟨visit, hvisit, hnext⟩ := Option.bind_eq_some_iff.mp hreplay
      have hbefore := ih visit hvisit
      have hless := Visit.remaining_of_next hnext
      rw [List.length_append, List.length_singleton]
      omega

def isExchange : AuditAction → Bool
  | .seatingExchanged _ _ => true
  | _ => false

/-- Only the last record of a visit issues a session. -/
theorem countP_isExchange (actions : List AuditAction) :
    ∀ visit, replay actions = some visit →
      actions.countP isExchange = if visit = .ordering then 1 else 0 := by
  induction actions using List.reverseRecOn with
  | nil =>
      intro visit hreplay
      cases hreplay
      rfl
  | append_singleton actions action ih =>
      intro visit' hreplay
      rw [replay_concat] at hreplay
      obtain ⟨visit, hvisit, hnext⟩ := Option.bind_eq_some_iff.mp hreplay
      rw [List.countP_append, List.countP_singleton, ih visit hvisit]
      unfold Visit.next at hnext
      split at hnext <;> cases hnext <;> rfl

end Replays

/-! ## What a call does -/

/-- The row of an entry is rewritten, and one record tells the step of its visit. -/
structure Rewritten (db db' : WaitlistDb) (old new : WaitlistEntry) (action : AuditAction) :
    Prop where
  stored : old ∈ db.entries
  rewritten : db.entries.updateWhere? (fun row => row.id = old.id) (fun _ => new)
    = some db'.entries
  sameId : new.id = old.id
  sameStall : new.stallId = old.stallId
  sameJoinedAt : new.joinedAt = old.joinedAt
  version : new.stateVersion = old.stateVersion + 1
  active : new.isActive = true → old.isActive = true
  visit : (visitOf old).next action = some (visitOf new)
  trail : ∀ id, trail db' id = trail db id ++ if id = old.id then [action] else []

/-- An entry joins at the time of its call, and one record tells of it. -/
structure Joined (db db' : WaitlistDb) (entry : WaitlistEntry) (action : AuditAction) : Prop where
  inserted : db.entries.insert? entry = some db'.entries
  version : entry.stateVersion = 1
  active : entry.isActive = true
  visit : Visit.absent.next action = some (visitOf entry)
  trail : ∀ id, trail db' id = trail db id ++ if id = entry.id then [action] else []

section Calls

variable {db : WaitlistDb} {surroundings : Surroundings} {now : Timestamp}

theorem trail_congr {db' : WaitlistDb} (haudit : db'.auditLogs = db.auditLogs) (id : Uuid) :
    trail db' id = trail db id := by
  rw [trail, trail, haudit]

theorem trail_record_of_none {record : AuditRecord} (hnone : record.entryId = none) (id : Uuid) :
    trail (db.record record) id = trail db id := by
  simp [trail, WaitlistDb.record, hnone]

theorem trail_record {record : AuditRecord} {entryId : Uuid} (hsome : record.entryId = some entryId)
    (id : Uuid) :
    trail (db.record record) id = trail db id ++ if id = entryId then [record.action] else [] := by
  by_cases hid : id = entryId
  · simp [trail, WaitlistDb.record, hsome, hid]
  · simp [trail, WaitlistDb.record, hsome, hid, Ne.symm hid]

theorem entries_notify (db : WaitlistDb) (operation : WaitlistOperation) (entry : WaitlistEntry) :
    (notify db operation entry).entries = db.entries :=
  (apply_ite WaitlistDb.entries _ _ _).trans (ite_self _)

theorem auditLogs_notify (db : WaitlistDb) (operation : WaitlistOperation)
    (entry : WaitlistEntry) : (notify db operation entry).auditLogs = db.auditLogs :=
  (apply_ite WaitlistDb.auditLogs _ _ _).trans (ite_self _)

/-- A call to join is refused, or it joins. -/
theorem join_cases {call : JoinCall} {db' : WaitlistDb} {result : CallResult}
    (hcall : joinDigitalWaitlist db surroundings call now = (db', result)) :
    (db'.entries = db.entries ∧ (∀ id, trail db' id = trail db id)
        ∧ ∀ entry position, result ≠ .joined entry position)
      ∨ ∃ stall action position, result = .joined (newEntry stall call now) position
        ∧ Joined db db' (newEntry stall call now) action := by
  unfold joinDigitalWaitlist at hcall
  cases hchecks : joinChecks surroundings call with
  | error code =>
      simp only [hchecks] at hcall
      cases hcall
      exact .inl ⟨rfl, fun _ => rfl, fun _ _ => CallResult.noConfusion⟩
  | ok stall =>
      simp only [hchecks] at hcall
      split_ifs at hcall with hlimited hduplicate
      · cases hcall
        exact .inl ⟨rfl, trail_record_of_none rfl, fun _ _ => CallResult.noConfusion⟩
      · cases hcall
        exact .inl ⟨rfl, trail_record_of_none rfl, fun _ _ => CallResult.noConfusion⟩
      · cases hinsert : db.entries.insert? (newEntry stall call now) with
        | none =>
            simp only [hinsert] at hcall
            cases hcall
            exact .inl ⟨rfl, fun _ => rfl, fun _ _ => CallResult.noConfusion⟩
        | some entries =>
            simp only [hinsert] at hcall
            cases hcall
            exact .inr ⟨stall, _, _, rfl, hinsert, rfl, rfl, rfl, trail_record rfl⟩

/-- What an operation changes. -/
theorem changedEntry_eq_ok {call : TransitionCall} {entry changed : WaitlistEntry}
    {operation : WaitlistOperation} (hcheck : waitlistCheck entry = true)
    (hok : changedEntry surroundings call now entry operation = .ok changed) :
    changed.id = entry.id ∧ changed.stallId = entry.stallId
      ∧ changed.joinedAt = entry.joinedAt
      ∧ changed.stateVersion = entry.stateVersion + 1
      ∧ entry.isActive = true
      ∧ ∀ status version tableId,
        (visitOf entry).next (.stateChanged operation status version tableId)
          = some (visitOf changed) := by
  cases operation with
  | notify =>
      simp only [changedEntry, bind_eq_ok, failWhen_eq_ok, pure_eq_ok, decide_eq_false_iff_not,
        ne_eq, not_not] at hok
      obtain ⟨_, hstatus, rfl⟩ := hok
      simp [visitOf, hstatus, Visit.next, WaitlistEntry.isActive]
  | cancel =>
      simp only [changedEntry, bind_eq_ok, failWhen_eq_ok, pure_eq_ok, Bool.not_eq_false'] at hok
      obtain ⟨_, hactive, rfl⟩ := hok
      refine ⟨rfl, rfl, rfl, rfl, hactive, fun _ _ _ => ?_⟩
      simp only [WaitlistEntry.isActive, Bool.or_eq_true, decide_eq_true_eq] at hactive
      rcases hactive with hstatus | hstatus <;> simp [visitOf, hstatus, Visit.next]
  | markNoShow =>
      simp only [changedEntry, bind_eq_ok, failWhen_eq_ok, pure_eq_ok, decide_eq_false_iff_not,
        ne_eq, not_not] at hok
      obtain ⟨_, hstatus, _, hheld, rfl⟩ := hok
      simp [visitOf, hstatus, Visit.next, WaitlistEntry.isActive]
  | seat =>
      simp only [changedEntry, bind_eq_ok, failWhen_eq_ok, pure_eq_ok, decide_eq_false_iff_not,
        ne_eq, not_not] at hok
      obtain ⟨_, hstatus, _, hcontract, rfl⟩ := hok
      have hnotConsumed : entry.seatingExchangeConsumedAt.isSome = false := by
        simp only [waitlistCheck, WaitlistEntry.stateShape, hstatus, WaitlistEntry.unseated,
          Bool.and_eq_true, Option.isNone_iff_eq_none] at hcheck
        rw [hcheck.2.1.1.2.2]
        rfl
      simp [visitOf, hstatus, Visit.next, WaitlistEntry.isActive, hnotConsumed]

theorem updateEntry_eq_some {db' : WaitlistDb} {old new : WaitlistEntry}
    (hupdate : db.updateEntry now old new = some db') :
    transitionGuard now old new = true
      ∧ db.entries.updateWhere? (fun row => row.id = old.id) (fun _ => new) = some db'.entries
      ∧ db'.auditLogs = db.auditLogs := by
  unfold WaitlistDb.updateEntry at hupdate
  split_ifs at hupdate with hguard
  obtain ⟨entries, hentries, rfl⟩ := Option.map_eq_some_iff.mp hupdate
  exact ⟨hguard, hentries, rfl⟩

/-- A transition is refused, or it rewrites its entry. -/
theorem transition_cases {call : TransitionCall} {db' : WaitlistDb} {result : CallResult}
    (hcall : transitionDigitalWaitlistEntry db surroundings call now = (db', result)) :
    (db'.entries = db.entries ∧ ∀ id, trail db' id = trail db id)
      ∨ ∃ old new action, Rewritten db db' old new action := by
  unfold transitionDigitalWaitlistEntry at hcall
  cases hchecks : transitionChecks db surroundings call with
  | error code =>
      simp only [hchecks] at hcall
      cases hcall
      exact .inl ⟨rfl, fun _ => rfl⟩
  | ok found =>
      obtain ⟨entry, operation⟩ := found
      have hstored : entry ∈ db.entries := by
        simp only [transitionChecks, bind_eq_ok, failWhen_eq_ok, orFail_eq_ok,
          pure_eq_ok] at hchecks
        obtain ⟨_, -, found, hfound, _, -, _, -, hsame⟩ := hchecks
        cases hsame
        exact (CheckedTable.mem_of_findFirst hfound).1
      cases hchanged : changedEntry surroundings call now entry operation with
      | error code =>
          simp only [hchecks, hchanged] at hcall
          cases hcall
          exact .inl ⟨rfl, fun _ => rfl⟩
      | ok changed =>
          obtain ⟨hid, hstall, hjoined, hversion, hactive, hvisit⟩ :=
            changedEntry_eq_ok (db.entries.checked entry hstored) hchanged
          cases hupdate : db.updateEntry now entry changed with
          | none =>
              simp only [hchecks, hchanged, hupdate] at hcall
              cases hcall
              exact .inl ⟨rfl, fun _ => rfl⟩
          | some updated =>
              obtain ⟨-, hentries, haudit⟩ := updateEntry_eq_some hupdate
              simp only [hchecks, hchanged, hupdate] at hcall
              cases hcall
              refine .inr ⟨entry, changed, .stateChanged operation changed.status
                changed.stateVersion changed.assignedDiningTableId, hstored, ?_, hid, hstall,
                hjoined, hversion, fun _ => hactive, hvisit _ _ _, fun id => ?_⟩
              · rwa [WaitlistDb.record, entries_notify]
              · rw [trail_record (congrArg some hid)]
                congr 1
                exact trail_congr ((auditLogs_notify _ _ _).trans haudit) id

/-- An exchange is refused, or it rewrites its entry. -/
theorem exchange_cases {call : ExchangeCall} {db' : WaitlistDb} {result : CallResult}
    (hcall : exchangeDigitalWaitlistSeating db surroundings call now = (db', result)) :
    (db'.entries = db.entries ∧ ∀ id, trail db' id = trail db id)
      ∨ ∃ old new action, Rewritten db db' old new action := by
  unfold exchangeDigitalWaitlistSeating at hcall
  cases hchecks : exchangeChecks db surroundings call now with
  | error code =>
      simp only [hchecks] at hcall
      cases hcall
      exact .inl ⟨rfl, fun _ => rfl⟩
  | ok entry =>
      have hchecks' := hchecks
      simp only [exchangeChecks, bind_eq_ok, failWhen_eq_ok, orFail_eq_ok, pure_eq_ok,
        Bool.or_eq_false_iff, decide_eq_false_iff_not, ne_eq, not_not] at hchecks
      obtain ⟨found, hfound, _, -, _, hseated, _, hunused, _, -, _, -, hsame⟩ := hchecks
      cases hsame
      have hstored := (CheckedTable.mem_of_findFirst hfound).1
      cases htable : entry.assignedDiningTableId with
      | none =>
          simp only [hchecks', htable] at hcall
          cases hcall
          exact .inl ⟨rfl, fun _ => rfl⟩
      | some tableId =>
          cases hsession : seatingSession surroundings call entry tableId now with
          | error code =>
              simp only [hchecks', htable, hsession] at hcall
              cases hcall
              exact .inl ⟨rfl, fun _ => rfl⟩
          | ok session =>
              cases hinsert : db.sessions.insert? session with
              | none =>
                  simp only [hchecks', htable, hsession, hinsert] at hcall
                  cases hcall
                  exact .inl ⟨rfl, fun _ => rfl⟩
              | some sessions =>
                  cases hupdate : { db with sessions }.updateEntry now entry
                      (consumedEntry entry now) with
                  | none =>
                      simp only [hchecks', htable, hsession, hinsert, hupdate] at hcall
                      cases hcall
                      exact .inl ⟨rfl, fun _ => rfl⟩
                  | some consumed =>
                      obtain ⟨-, hentries, haudit⟩ := updateEntry_eq_some hupdate
                      simp only [hchecks', htable, hsession, hinsert, hupdate] at hcall
                      cases hcall
                      refine .inr ⟨entry, consumedEntry entry now, .seatingExchanged call.sessionId
                        tableId, hstored, hentries, rfl, rfl, rfl, rfl, fun hactive => hactive,
                        ?_, fun id => ?_⟩
                      · simp [visitOf, consumedEntry, hseated, hunused, Visit.next]
                      · rw [trail_record rfl]
                        congr 1
                        exact trail_congr haudit id

end Calls

/-! ## Runs -/

/-- New identifiers have not been drawn before. -/
def drawsFreshId (db : WaitlistDb) : WaitlistCommand → Bool
  | .join _ call _ => db.auditLogs.all (·.entryId ≠ some call.entryId)
  | _ => true

/-- The entries are what their trails tell, and every trail tells a visit. -/
structure Told (db : WaitlistDb) : Prop where
  entries : ∀ entry ∈ db.entries, replay (trail db entry.id) = some (visitOf entry)
    ∧ entry.stateVersion = (trail db entry.id).length
  every : ∀ id, ∃ visit, replay (trail db id) = some visit

section Runs

variable {db db' : WaitlistDb} {command : WaitlistCommand} {commands : List WaitlistCommand}
  {entry old new : WaitlistEntry} {action : AuditAction}

theorem told_empty : Told .empty where
  entries entry hentry := absurd hentry (CheckedTable.notMem_empty entry)
  every _ := ⟨.absent, rfl⟩

theorem trail_of_fresh {surroundings : Surroundings} {call : JoinCall} {now : Timestamp}
    (hfresh : drawsFreshId db (.join surroundings call now) = true) :
    trail db call.entryId = [] := by
  simp only [drawsFreshId, List.all_eq_true, decide_eq_true_eq] at hfresh
  rw [trail, List.filter_eq_nil_iff.mpr fun record hrecord => by simpa using hfresh record hrecord,
    List.map_nil]

/-- Fewer entries, and the same trails. -/
theorem Told.of_subset (htold : Told db) (hentries : ∀ entry ∈ db'.entries, entry ∈ db.entries)
    (htrail : ∀ id, trail db' id = trail db id) : Told db' where
  entries entry hentry := by
    rw [htrail]
    exact htold.entries entry (hentries entry hentry)
  every id := by
    rw [htrail]
    exact htold.every id

theorem Told.joined (htold : Told db) (hjoined : Joined db db' entry action)
    (hfresh : trail db entry.id = []) : Told db' where
  entries stored hstored := by
    have hnew : replay ([] ++ [action]) = some (visitOf entry) :=
      (replay_concat [] action).trans hjoined.visit
    rw [hjoined.trail]
    rcases (CheckedTable.mem_of_insert? hjoined.inserted).mp hstored with hbefore | rfl
    · have hne : stored.id ≠ entry.id := by
        intro hid
        exact CheckedTable.not_collides_of_insert? hjoined.inserted hbefore
          (Indexed.collides_of_key_eq hid)
      rw [if_neg hne, List.append_nil]
      exact htold.entries stored hbefore
    · rw [if_pos rfl, hfresh]
      exact ⟨hnew, hjoined.version⟩
  every id := by
    rw [hjoined.trail]
    by_cases hid : id = entry.id
    · rw [if_pos hid, hid, hfresh]
      exact ⟨_, (replay_concat [] action).trans hjoined.visit⟩
    · rw [if_neg hid, List.append_nil]
      exact htold.every id

theorem Told.rewritten (htold : Told db) (hrewritten : Rewritten db db' old new action) :
    Told db' := by
  obtain ⟨hreplay, hversion⟩ := htold.entries old hrewritten.stored
  have hnext : replay (trail db old.id ++ [action]) = some (visitOf new) := by
    rw [replay_concat, hreplay]
    exact hrewritten.visit
  constructor
  · intro stored hstored
    rw [hrewritten.trail]
    obtain ⟨row, hrow, hchanged⟩ :=
      (CheckedTable.mem_of_updateWhere? hrewritten.rewritten).mp hstored
    by_cases hid : row.id = old.id
    · rw [if_pos (decide_eq_true hid)] at hchanged
      rw [← hchanged, hrewritten.sameId, if_pos rfl, hnext, hrewritten.version, hversion,
        List.length_append, List.length_singleton]
      exact ⟨rfl, by push_cast; rfl⟩
    · rw [if_neg (by simpa using hid)] at hchanged
      rw [← hchanged, if_neg hid, List.append_nil]
      exact htold.entries row hrow
  · intro id
    rw [hrewritten.trail]
    by_cases hid : id = old.id
    · rw [if_pos hid, hid]
      exact ⟨_, hnext⟩
    · rw [if_neg hid, List.append_nil]
      exact htold.every id

theorem Told.step (htold : Told db) (hfresh : drawsFreshId db command = true) :
    Told (step db command) := by
  cases command with
  | join surroundings call now =>
      rcases join_cases (Prod.mk.eta (p := joinDigitalWaitlist db surroundings call now)).symm with
        ⟨hentries, htrail, -⟩ | ⟨stall, action, position, -, hjoined⟩
      · exact htold.of_subset (fun entry hentry => hentries ▸ hentry) htrail
      · exact htold.joined hjoined (trail_of_fresh hfresh)
  | transition surroundings call now =>
      rcases transition_cases
        (Prod.mk.eta (p := transitionDigitalWaitlistEntry db surroundings call now)).symm with
        ⟨hentries, htrail⟩ | ⟨old, new, action, hrewritten⟩
      · exact htold.of_subset (fun entry hentry => hentries ▸ hentry) htrail
      · exact htold.rewritten hrewritten
  | exchange surroundings call now =>
      rcases exchange_cases
        (Prod.mk.eta (p := exchangeDigitalWaitlistSeating db surroundings call now)).symm with
        ⟨hentries, htrail⟩ | ⟨old, new, action, hrewritten⟩
      · exact htold.of_subset (fun entry hentry => hentries ▸ hentry) htrail
      · exact htold.rewritten hrewritten
  | purge now =>
      exact htold.of_subset (fun entry hentry => (CheckedTable.mem_filter.mp hentry).1)
        fun _ => rfl
  | otherSession session =>
      cases hinsert : db.sessions.insert? session with
      | none =>
          rw [WaitlistService.step, hinsert]
          exact htold
      | some sessions =>
          rw [WaitlistService.step, hinsert]
          exact htold.of_subset (fun entry hentry => hentry) fun _ => rfl

/-- Whatever is called, repeated or called at the same time: the entries of the waitlist are what
the replay of their records says, their versions count the records, and no party gets a second
session. -/
theorem entries_told
    (hfresh : Safely step (fun db command => drawsFreshId db command = true) .empty commands) :
    (∀ entry ∈ (exec step .empty commands).entries,
        replay (trail (exec step .empty commands) entry.id) = some (visitOf entry)
          ∧ entry.stateVersion = (trail (exec step .empty commands) entry.id).length)
      ∧ ∀ id, (trail (exec step .empty commands) id).length ≤ 4
        ∧ (trail (exec step .empty commands) id).countP isExchange ≤ 1 := by
  have htold : Told (exec step .empty commands) :=
    invariant_of_safely Told (fun _ _ htold hfresh => htold.step hfresh) told_empty hfresh
  refine ⟨htold.entries, fun id => ?_⟩
  obtain ⟨visit, hvisit⟩ := htold.every id
  have hlength := length_add_remaining_le _ visit hvisit
  have hcount := countP_isExchange _ visit hvisit
  constructor
  · omega
  · rw [hcount]
    split_ifs <;> decide

end Runs

/-! ## A visit -/

def sampleHash : Text := List.replicate 64 'a'

def sampleSurroundings : Surroundings where
  stalls := [⟨1, 1, 1, true, some 900⟩]
  diningTables := [⟨7, 1, 1, true⟩]
  qrCodes := [⟨8, 1, 1, some 7, true, none, 0⟩]
  waitlistEnabled := fun _ _ => true

def sampleJoin : JoinCall where
  entryId := 5
  stallId := 1
  partySize := 2
  displayName := "Lin".toList
  publicTokenHash := sampleHash
  duplicateKeyHash := sampleHash
  ipHash := sampleHash
  requestId := "r".toList
  ipAllowed := true
  deviceAllowed := true

def sampleChange (version : ℤ) (operation : Text) : TransitionCall where
  organizationId := 1
  stallId := 1
  entryId := 5
  expectedVersion := version
  operation := some operation
  diningTableId := some 7
  seatingTokenHash := some sampleHash
  actorProfileId := none
  ipHash := sampleHash
  requestId := "r".toList

def sampleExchange : ExchangeCall where
  publicTokenHash := sampleHash
  seatingTokenHash := some sampleHash
  sessionId := 9
  sessionTokenHash := sampleHash
  deviceHash := sampleHash
  ipHash := sampleHash
  requestId := "r".toList

/-- A party is called, is seated, and asks twice for its session. -/
def sampleVisit : List WaitlistCommand :=
  [.join sampleSurroundings sampleJoin 0,
    .transition sampleSurroundings (sampleChange 1 "NOTIFY".toList) 10,
    .transition sampleSurroundings (sampleChange 2 "SEAT".toList) 20,
    .exchange sampleSurroundings sampleExchange 30,
    .exchange sampleSurroundings sampleExchange 40]

theorem entries_told_sampleVisit :
    (trail (exec step .empty sampleVisit) 5).countP isExchange ≤ 1 :=
  ((entries_told (by decide)).2 5).2

end Stallorder.VisitTrail
