import Stallorder.Attendance.AttendanceService
import Stallorder.Core.Alternation
import Stallorder.Core.Run

/-!
# Clocking in and out in turns

An attempt is compared with the latest accepted event, and so is an event that
is accepted in a review.  The accepted events of a staff member alternate
exactly in the runs in which every event that joins them is the latest one.
-/

namespace Stallorder.Turns

open OrderContract AttendanceService Checks FirstOf Alternation Run

/-! ## Runs -/

inductive AttendanceCommand
  | submit (call : AttemptCall)
  | review (call : ReviewCall)
  /-- Other services write policies, sessions and schedules. -/
  | arrange (policies : Uuid → Option AttendancePolicy) (sessions : Uuid → Option AuthSession)
      (schedules : List WorkforceSchedule)

def step (surroundings : Surroundings) (db : AttendanceDb) : AttendanceCommand → AttendanceDb
  | .submit call => (submitAttendanceAttempt surroundings db call).toOption.getD db
  | .review call => (reviewAttendanceEvent db call).toOption.getD db
  | .arrange policies sessions schedules => { db with policies, sessions, schedules }

/-- Before anyone clocked in. -/
def emptyDb : AttendanceDb where
  policies _ := none
  sessions _ := none
  schedules := []
  events := .empty

/-- The accepted events of a staff member at a stall. -/
def acceptedEvents (db : AttendanceDb) (stallId profileId : Uuid) : Finset AttendanceEvent :=
  (db.events.table.rows.filter (isAcceptedAt stallId profileId)).toFinset

def isClockIn (event : AttendanceEvent) : Bool := event.eventType = .clockIn

/-- Every staff member clocks in and out in turns, at every stall. -/
def EveryoneInTurns (db : AttendanceDb) : Prop :=
  ∀ stallId profileId,
    Alternates (·.occurredAt) isClockIn (acceptedEvents db stallId profileId)

/-- The event occurred after those of the staff member that were accepted. -/
def isLatest (db : AttendanceDb) (event : AttendanceEvent) : Bool :=
  (db.events.table.rows.filter (isAcceptedAt event.stallId event.profileId)).all
    fun other => other.occurredAt < event.occurredAt

/-- Whatever a call is about to accept is the latest event of the staff member. -/
def acceptsInOrder (surroundings : Surroundings) (db : AttendanceDb) : AttendanceCommand → Bool
  | .submit call => (submittedEvent surroundings db call).toOption.all fun event =>
      event.decision ≠ .accepted || (createEvent db event).toOption.isNone || isLatest db event
  | .review call => (reviewableEvent db call).all fun event =>
      !call.accepts || (reviewAttendanceEvent db call).toOption.isNone || isLatest db event
  | .arrange _ _ _ => true

/-! ## Accepted events -/

variable {db db' : AttendanceDb} {stallId profileId : Uuid} {event : AttendanceEvent}

theorem mem_acceptedEvents : event ∈ acceptedEvents db stallId profileId ↔ event ∈ db.events
    ∧ event.stallId = stallId ∧ event.profileId = profileId ∧ event.decision = .accepted := by
  simp only [acceptedEvents, List.mem_toFinset, List.mem_filter, isAcceptedAt, Bool.and_eq_true,
    decide_eq_true_eq, and_assoc]
  rfl

theorem isLatest_iff : isLatest db event = true ↔
    ∀ other ∈ acceptedEvents db event.stallId event.profileId,
      other.occurredAt < event.occurredAt := by
  simp only [isLatest, List.all_eq_true, decide_eq_true_eq, acceptedEvents, List.mem_toFinset]

theorem latestEvent_eq_some {place : Uuid → ℕ} {latest : AttendanceEvent}
    (hlatest : latestEvent db place (isAcceptedAt stallId profileId) = some latest) :
    latest ∈ acceptedEvents db stallId profileId
      ∧ ∀ other ∈ acceptedEvents db stallId profileId, other.occurredAt ≤ latest.occurredAt := by
  obtain ⟨hmem, hleast⟩ := head_firstOf_eq_some hlatest
  refine ⟨List.mem_toFinset.mpr hmem, fun other hother => ?_⟩
  have hkey := hleast other (List.mem_toFinset.mp hother)
  rcases Prod.Lex.toLex_le_toLex.mp hkey with hlt | ⟨heq, -⟩
  · exact (neg_lt_neg_iff.mp hlt).le
  · exact (neg_inj.mp heq).ge

theorem latestEvent_eq_none {place : Uuid → ℕ}
    (hlatest : latestEvent db place (isAcceptedAt stallId profileId) = none) :
    acceptedEvents db stallId profileId = ∅ := by
  rw [acceptedEvents, head_firstOf_eq_none hlatest]
  rfl

/-- The comparison with the latest event tells whose turn it is. -/
theorem breaksTurn_eq_false_iff (hturns : EveryoneInTurns db) (place : Uuid → ℕ)
    (event : AttendanceEvent) : breaksTurn event.eventType
        (latestEvent db place (isAcceptedAt stallId profileId)) = false
      ↔ isClockIn event = turnAfter (acceptedEvents db stallId profileId).card := by
  cases hlatest : latestEvent db place (isAcceptedAt stallId profileId) with
  | none =>
      rw [latestEvent_eq_none hlatest, Finset.card_empty, turnAfter_zero]
      cases hevent : event.eventType <;> simp [breaksTurn, isClockIn, hevent]
  | some latest =>
      obtain ⟨hmem, hgreatest⟩ := latestEvent_eq_some hlatest
      rw [← label_of_latest (hturns stallId profileId) hmem hgreatest]
      cases hevent : event.eventType <;> cases hother : latest.eventType <;>
        simp [breaksTurn, isClockIn, hevent, hother]

/-! ## One step -/

/-- A step that accepts an event which is in turn. -/
structure Joins (db db' : AttendanceDb) (event : AttendanceEvent) : Prop where
  mem : ∀ stallId profileId stored, stored ∈ acceptedEvents db' stallId profileId ↔
    (stored = event ∧ event.stallId = stallId ∧ event.profileId = profileId)
      ∨ stored ∈ acceptedEvents db stallId profileId
  fresh : event ∉ acceptedEvents db event.stallId event.profileId
  inTurn : ∃ place, breaksTurn event.eventType
    (latestEvent db place (isAcceptedAt event.stallId event.profileId)) = false

theorem inTurns_iff_of_joins (hturns : EveryoneInTurns db) (hjoins : Joins db db' event) :
    EveryoneInTurns db' ↔ isLatest db event = true := by
  have hother : ∀ stallId profileId, (event.stallId ≠ stallId ∨ event.profileId ≠ profileId) →
      acceptedEvents db' stallId profileId = acceptedEvents db stallId profileId := by
    intro stallId profileId hne
    ext stored
    rw [hjoins.mem]
    refine or_iff_right ?_
    rintro ⟨-, hstall, hprofile⟩
    exact hne.elim (fun hne => hne hstall) fun hne => hne hprofile
  have hown : acceptedEvents db' event.stallId event.profileId
      = insert event (acceptedEvents db event.stallId event.profileId) := by
    ext stored
    rw [hjoins.mem, Finset.mem_insert]
    simp
  obtain ⟨place, hturn⟩ := hjoins.inTurn
  have hlabel := (breaksTurn_eq_false_iff hturns place event).mp hturn
  have hjoined := alternates_insert_iff (hturns event.stallId event.profileId) hjoins.fresh
  rw [isLatest_iff]
  constructor
  · intro hafter
    have halternates := hafter event.stallId event.profileId
    rw [hown] at halternates
    exact (hjoined.mp halternates).1
  · intro hlatest stallId profileId
    by_cases hsame : event.stallId = stallId ∧ event.profileId = profileId
    · obtain ⟨rfl, rfl⟩ := hsame
      rw [hown]
      exact hjoined.mpr ⟨hlatest, hlabel⟩
    · rw [hother stallId profileId (not_and_or.mp hsame)]
      exact hturns stallId profileId

theorem inTurns_of_same (hturns : EveryoneInTurns db)
    (hsame : ∀ stallId profileId,
      acceptedEvents db' stallId profileId = acceptedEvents db stallId profileId) :
    EveryoneInTurns db' := by
  intro stallId profileId
  rw [hsame]
  exact hturns stallId profileId

/-! ### Attempts -/

theorem mem_of_createEvent (hcreate : createEvent db event = .ok db') (stored : AttendanceEvent) :
    stored ∈ db'.events ↔ stored ∈ db.events ∨ stored = event := by
  obtain ⟨_, _, hinsert⟩ := bind_eq_ok.mp hcreate
  obtain ⟨events, hevents, hreturn⟩ := bind_eq_ok.mp hinsert
  cases hreturn
  exact CheckedTable.mem_of_insert? (orFail_eq_ok.mp hevents)

/-- A new event does not collide with one that is there. -/
theorem fresh_of_createEvent (hcreate : createEvent db event = .ok db') : event ∉ db.events := by
  obtain ⟨_, _, hinsert⟩ := bind_eq_ok.mp hcreate
  obtain ⟨events, hevents, _⟩ := bind_eq_ok.mp hinsert
  intro hmem
  exact CheckedTable.not_collides_of_insert? (orFail_eq_ok.mp hevents) hmem
    (by simp [Indexed.collides])

variable {surroundings : Surroundings} {call : AttemptCall}

/-- An attempt that is accepted at once is in turn. -/
theorem inTurn_of_submittedEvent (hsubmitted : submittedEvent surroundings db call = .ok event)
    (haccepted : event.decision = .accepted) : breaksTurn event.eventType
      (latestEvent db call.place (isAcceptedAt event.stallId event.profileId)) = false := by
  obtain ⟨challenge, _, hfresh⟩ := bind_eq_ok.mp hsubmitted
  obtain ⟨_, _, hpolicy⟩ := bind_eq_ok.mp hfresh
  obtain ⟨⟨policy, centre⟩, _, hreturn⟩ := bind_eq_ok.mp hpolicy
  cases hreturn
  change (assess surroundings db call policy centre).decision = .accepted at haccepted
  change breaksTurn call.attempt.eventType
    (latestEvent db call.place (isAcceptedAt call.stallId call.profileId)) = false
  rw [Bool.eq_false_iff]
  intro hbreaks
  simp [assess, hbreaks] at haccepted

theorem inTurns_submit_iff (hturns : EveryoneInTurns db) (call : AttemptCall) :
    EveryoneInTurns (step surroundings db (.submit call))
      ↔ acceptsInOrder surroundings db (.submit call) = true := by
  cases hsubmitted : submittedEvent surroundings db call with
  | error error =>
      have hstep : step surroundings db (.submit call) = db := by
        simp only [step, submitAttendanceAttempt, hsubmitted, bind_error, Except.toOption,
          Option.getD_none]
      rw [hstep]
      exact iff_of_true hturns (by simp [acceptsInOrder, hsubmitted, Except.toOption])
  | ok event =>
      cases hcreate : createEvent db event with
      | error error =>
          have hstep : step surroundings db (.submit call) = db := by
            simp only [step, submitAttendanceAttempt, hsubmitted, bind_ok, hcreate,
              Except.toOption, Option.getD_none]
          rw [hstep]
          exact iff_of_true hturns (by simp [acceptsInOrder, hsubmitted, hcreate, Except.toOption])
      | ok db' =>
          have hstep : step surroundings db (.submit call) = db' := by
            simp only [step, submitAttendanceAttempt, hsubmitted, bind_ok, hcreate,
              Except.toOption, Option.getD_some]
          have hmem := mem_of_createEvent hcreate
          rw [hstep]
          by_cases haccepted : event.decision = .accepted
          · have hjoins : Joins db db' event := by
              refine ⟨fun stallId profileId stored => ?_, fun hmember => ?_,
                call.place, inTurn_of_submittedEvent hsubmitted haccepted⟩
              · rw [mem_acceptedEvents, mem_acceptedEvents, hmem]
                constructor
                · rintro ⟨hbefore | rfl, hstall, hprofile, hdecision⟩
                  · exact Or.inr ⟨hbefore, hstall, hprofile, hdecision⟩
                  · exact Or.inl ⟨rfl, hstall, hprofile⟩
                · rintro (⟨rfl, hstall, hprofile⟩ | ⟨hbefore, hrest⟩)
                  · exact ⟨Or.inr rfl, hstall, hprofile, haccepted⟩
                  · exact ⟨Or.inl hbefore, hrest⟩
              · exact fresh_of_createEvent hcreate (mem_acceptedEvents.mp hmember).1
            rw [inTurns_iff_of_joins hturns hjoins]
            simp [acceptsInOrder, hsubmitted, hcreate, Except.toOption, haccepted]
          · refine iff_of_true (inTurns_of_same hturns fun stallId profileId => ?_)
              (by simp [acceptsInOrder, hsubmitted, Except.toOption, haccepted])
            ext stored
            rw [mem_acceptedEvents, mem_acceptedEvents, hmem]
            constructor
            · rintro ⟨hbefore | rfl, hstall, hprofile, hdecision⟩
              · exact ⟨hbefore, hstall, hprofile, hdecision⟩
              · exact absurd hdecision haccepted
            · rintro ⟨hbefore, hrest⟩
              exact ⟨Or.inl hbefore, hrest⟩

/-! ### Reviews -/

/-- What a review that went through found and wrote. -/
structure Reviews (db db' : AttendanceDb) (call : ReviewCall) (event : AttendanceEvent) : Prop where
  found : event ∈ db.events
  awaiting : event.decision = .reviewRequired
  stall : event.stallId = call.stallId
  inTurn : call.accepts = true → breaksTurn event.eventType
    (latestEvent db call.place (isAcceptedAt call.stallId event.profileId)) = false
  mem : ∀ stored, stored ∈ db'.events ↔ ∃ row ∈ db.events,
    (if row.id = event.id then reviewed call row else row) = stored

theorem reviews_of_ok {call : ReviewCall} (hreviewable : reviewableEvent db call = some event)
    (hreview : reviewAttendanceEvent db call = .ok db') : Reviews db db' call event := by
  obtain ⟨found, hfound, hchecked⟩ := bind_eq_ok.mp hreview
  obtain ⟨_, hturn, hupdate⟩ := bind_eq_ok.mp hchecked
  obtain ⟨events, hevents, hreturn⟩ := bind_eq_ok.mp hupdate
  cases hreturn
  rw [orFail_eq_ok, hreviewable] at hfound
  cases hfound
  obtain ⟨hwanted, hdecision⟩ := Option.filter_eq_some_iff.mp hreviewable
  obtain ⟨hmem, hmatches⟩ := CheckedTable.mem_of_findFirst hwanted
  simp only [Bool.and_eq_true, decide_eq_true_eq] at hmatches
  refine ⟨hmem, of_decide_eq_true hdecision, hmatches.2, fun haccepts => ?_, fun stored => ?_⟩
  · have hchecks := failWhen_eq_ok.mp hturn
    rwa [haccepts, Bool.true_and] at hchecks
  · rw [CheckedTable.mem_of_updateWhere? (orFail_eq_ok.mp hevents)]
    simp

theorem inTurns_review_iff (hturns : EveryoneInTurns db) (call : ReviewCall) :
    EveryoneInTurns (step surroundings db (.review call))
      ↔ acceptsInOrder surroundings db (.review call) = true := by
  cases hreview : reviewAttendanceEvent db call with
  | error error =>
      have hstep : step surroundings db (.review call) = db := by
        simp only [step, hreview, Except.toOption, Option.getD_none]
      rw [hstep]
      refine iff_of_true hturns ?_
      cases hreviewable : reviewableEvent db call <;>
        simp [acceptsInOrder, hreviewable, hreview, Except.toOption]
  | ok db' =>
      have hstep : step surroundings db (.review call) = db' := by
        simp only [step, hreview, Except.toOption, Option.getD_some]
      obtain ⟨event, hfound, -⟩ := bind_eq_ok.mp hreview
      have hreviewable := orFail_eq_ok.mp hfound
      have hreviews := reviews_of_ok hreviewable hreview
      have hopen : ∀ stallId profileId, event ∉ acceptedEvents db stallId profileId := by
        intro stallId profileId hmember
        have hdecision := (mem_acceptedEvents.mp hmember).2.2.2
        rw [hreviews.awaiting] at hdecision
        cases hdecision
      have hrow : ∀ row ∈ db.events, row.id = event.id → row = event := fun row hrow hid =>
        CheckedTable.eq_of_key_eq hrow hreviews.found hid
      -- The other accepted events are those that were accepted before.
      have hmem : ∀ stallId profileId stored, stored ∈ acceptedEvents db' stallId profileId ↔
          (stored = reviewed call event ∧ event.stallId = stallId ∧ event.profileId = profileId
            ∧ call.accepts = true) ∨ stored ∈ acceptedEvents db stallId profileId := by
        intro stallId profileId stored
        rw [mem_acceptedEvents, hreviews.mem]
        constructor
        · rintro ⟨⟨row, hmember, rfl⟩, hstall, hprofile, hdecision⟩
          by_cases hid : row.id = event.id
          · rw [hrow row hmember hid] at hstall hprofile hdecision ⊢
            rw [if_pos rfl] at hstall hprofile hdecision ⊢
            refine Or.inl ⟨rfl, hstall, hprofile, ?_⟩
            cases haccepts : call.accepts with
            | true => rfl
            | false => simp [reviewed, haccepts] at hdecision
          · rw [if_neg hid] at hstall hprofile hdecision ⊢
            exact Or.inr (mem_acceptedEvents.mpr ⟨hmember, hstall, hprofile, hdecision⟩)
        · rintro (⟨rfl, hstall, hprofile, haccepts⟩ | hbefore)
          · have hdecision : (reviewed call event).decision = .accepted := by
              simp [reviewed, haccepts]
            exact ⟨⟨event, hreviews.found, if_pos rfl⟩, hstall, hprofile, hdecision⟩
          · obtain ⟨hmember, hrest⟩ := mem_acceptedEvents.mp hbefore
            refine ⟨⟨stored, hmember, if_neg fun hid => ?_⟩, hrest⟩
            rw [hrow stored hmember hid] at hbefore
            exact hopen stallId profileId hbefore
      rw [hstep]
      cases haccepts : call.accepts with
      | true =>
          have hjoins : Joins db db' (reviewed call event) := by
            refine ⟨fun stallId profileId stored => ?_, fun hmember => ?_, call.place, ?_⟩
            · rw [hmem, haccepts]
              simp only [and_true]
              rfl
            · have hsame := hrow _ (mem_acceptedEvents.mp hmember).1 rfl
              rw [hsame] at hmember
              exact hopen _ _ hmember
            · change breaksTurn event.eventType
                (latestEvent db call.place (isAcceptedAt event.stallId event.profileId)) = false
              rw [hreviews.stall]
              exact hreviews.inTurn haccepts
          rw [inTurns_iff_of_joins hturns hjoins]
          simp only [acceptsInOrder, hreviewable, hreview, haccepts, Except.toOption,
            Option.all_some, Bool.not_true, Option.isNone_some, Bool.false_or]
          rfl
      | false =>
          refine iff_of_true (inTurns_of_same hturns fun stallId profileId => ?_)
            (by simp [acceptsInOrder, hreviewable, haccepts])
          ext stored
          rw [hmem, haccepts]
          simp

/-! ## Runs -/

theorem inTurns_step_iff (surroundings : Surroundings) (hturns : EveryoneInTurns db)
    (command : AttendanceCommand) : EveryoneInTurns (step surroundings db command)
      ↔ acceptsInOrder surroundings db command = true := by
  cases command with
  | submit call => exact inTurns_submit_iff hturns call
  | review call => exact inTurns_review_iff hturns call
  | arrange policies sessions schedules =>
      exact iff_of_true (inTurns_of_same hturns fun _ _ => rfl) rfl

theorem inTurns_initial : EveryoneInTurns emptyDb := by
  intro stallId profileId ordered hlisting
  have hempty : ordered = [] := by
    rw [List.eq_nil_iff_forall_not_mem]
    intro event hevent
    exact absurd ((hlisting.mem event).mp hevent) (Finset.notMem_empty event)
  rw [hempty]
  rfl

theorem safely_inTurns_iff (surroundings : Surroundings) (hturns : EveryoneInTurns db)
    (commands : List AttendanceCommand) :
    Safely (step surroundings) (fun db command => EveryoneInTurns (step surroundings db command))
        db commands
      ↔ Safely (step surroundings) (fun db command => acceptsInOrder surroundings db command = true)
        db commands :=
  safely_congr EveryoneInTurns (fun _ command hturns => inTurns_step_iff surroundings hturns command)
    (fun _ command hturns hlatest => (inTurns_step_iff surroundings hturns command).mpr hlatest)
    hturns commands

/-- The accepted events of everyone are in turns, after every step of a run,
exactly when every step of it accepts only the latest event of a staff member. -/
theorem everyone_in_turns_iff (surroundings : Surroundings) (commands : List AttendanceCommand) :
    Safely (step surroundings) (fun db command => EveryoneInTurns (step surroundings db command))
        emptyDb commands
      ↔ Safely (step surroundings) (fun db command => acceptsInOrder surroundings db command = true)
        emptyDb commands :=
  safely_inTurns_iff surroundings inTurns_initial commands

/-! ## A review that comes late -/

def samplePlace : Coordinates := ⟨25, 121⟩

/-- Nobody moves, and the stall shows one code. -/
def sampleSurroundings : Surroundings where
  haversineDistanceMeters start finish := if start = finish then 0 else 1000
  rotatingCodeForWindow _ _ := "123456".toList

def sampleMinutes (minutes : ℤ) : Timestamp := minutes * 60_000

def sampleShift (start finish : ℤ) : WorkforceSchedule :=
  ⟨10, 20, 30, some (sampleMinutes start), some (sampleMinutes finish), .published⟩

/-- Two shifts of one day, from eight to nine and from ten to eleven. -/
def sampleArrangement : AttendanceCommand :=
  .arrange (fun _ => some ⟨true, some samplePlace, 150, 80, true, 90⟩)
    (fun _ => some ⟨some 40, 30, none, sampleMinutes 10_000⟩)
    [sampleShift 480 540, sampleShift 600 660]

def sampleAttempt (eventType : AttendanceEventType) (eventId : Uuid) (nonce : Text)
    (minutes : ℤ) : AttendanceCommand :=
  .submit {
    organizationId := 10
    stallId := 20
    profileId := 30
    sessionId := 50
    attempt := {
      eventType := eventType
      challengeToken := some ⟨50, 30, 20, nonce, minutes * 60 + 60⟩
      position := samplePlace
      accuracyMeters := 10
      capturedAt := sampleMinutes minutes
      rotatingCode := some "123456".toList }
    verifiedAt := sampleMinutes minutes
    occurredAt := sampleMinutes minutes
    now := sampleMinutes minutes
    eventId := eventId
    place := id }

/-- Late for the first shift, in time for the second one, and out at its end; then
the late event is accepted. -/
def lateReviewRun : List AttendanceCommand :=
  [sampleArrangement,
    sampleAttempt .clockIn 1 "first".toList 490,
    sampleAttempt .clockIn 2 "second".toList 595,
    sampleAttempt .clockOut 3 "third".toList 660,
    .review ⟨10, 20, 1, 60, true, "ok".toList, sampleMinutes 700, id⟩]

theorem late_review_breaks_turns :
    ((exec (step sampleSurroundings) emptyDb lateReviewRun).events.table.rows.filter
        (isAcceptedAt 20 30)).map (fun event => (event.occurredAt, event.eventType))
        = [(sampleMinutes 490, .clockIn), (sampleMinutes 595, .clockIn),
          (sampleMinutes 660, .clockOut)]
      ∧ ¬ Safely (step sampleSurroundings)
        (fun db command => EveryoneInTurns (step sampleSurroundings db command)) emptyDb
        lateReviewRun := by
  refine ⟨by decide +kernel, ?_⟩
  rw [safely_inTurns_iff sampleSurroundings inTurns_initial]
  decide +kernel

end Stallorder.Turns
