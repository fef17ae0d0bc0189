import Stallorder.Core.Run
import Stallorder.Reservations.ReservationService

/-!
# Reservations and their sessions agree

An active session belongs to a confirmed reservation in its current version and
at its current start.  A call that rewrites a reservation raises its version and
revokes its session in one transaction, and a session is issued from the locked
row of its reservation, so no order of the calls breaks the agreement.
-/

namespace Stallorder.SessionAgreement

open OrderContract Checks ReservationDatabase ReservationService Run

/-! ## The agreement -/

/-- The reservation is confirmed, in the version and at the start that the session was issued
for. -/
structure Covers (reservation : Reservation) (session : PreorderSession) : Prop where
  id_eq : reservation.id = session.reservationId
  confirmed : reservation.status = .confirmed
  version_eq : reservation.version = session.reservationVersion
  start_eq : reservation.startsAt = session.scheduledFor

def SessionsCovered (db : ReservationDb) : Prop :=
  ∀ session ∈ db.sessions, session.status = .active →
    ∃ reservation ∈ db.reservations, Covers reservation session

theorem sessionsCovered_opened (premises : Premises) : SessionsCovered (.opened premises) :=
  fun session hsession => absurd hsession (CheckedTable.notMem_empty session)

/-! ## Rewriting a reservation -/

section Rewriting

variable {db db' : ReservationDb} {now : Timestamp} {before after : Reservation}

theorem rewriteReservation_eq_some (hrewrite : rewriteReservation db now before after = some db') :
    (∀ row, row ∈ db'.reservations ↔ ∃ stored ∈ db.reservations,
      (if Indexed.key stored = before.id then after else stored) = row)
    ∧ ∀ session, session ∈ db'.sessions ↔ ∃ stored ∈ db.sessions,
      (if stored.reservationId = before.id ∧ stored.status = .active then revoked now stored
        else stored) = session := by
  obtain ⟨reservations, hreservations, hrest⟩ := Option.bind_eq_some_iff.mp hrewrite
  obtain ⟨sessions, hsessions, hdone⟩ := Option.bind_eq_some_iff.mp hrest
  cases hdone
  constructor
  · intro row
    simpa only [decide_eq_true_eq] using CheckedTable.mem_of_updateWhere? hreservations
  · intro session
    simpa only [Bool.and_eq_true, decide_eq_true_eq] using
      CheckedTable.mem_of_updateWhere? hsessions

/-- The sessions that stay active belong to other reservations, whose rows are kept. -/
theorem sessionsCovered_of_rewrite (hrewrite : rewriteReservation db now before after = some db')
    (hcovered : SessionsCovered db) : SessionsCovered db' := by
  obtain ⟨hreservations, hsessions⟩ := rewriteReservation_eq_some hrewrite
  intro session hsession hactive
  obtain ⟨stored, hstored, hsame⟩ := (hsessions session).mp hsession
  by_cases hrevoked : stored.reservationId = before.id ∧ stored.status = .active
  · rw [if_pos hrevoked] at hsame
    rw [← hsame] at hactive
    cases hactive
  · rw [if_neg hrevoked] at hsame
    subst hsame
    obtain ⟨reservation, hreservation, hcovers⟩ := hcovered stored hstored hactive
    have hother : Indexed.key reservation ≠ before.id := fun hid =>
      hrevoked ⟨hcovers.id_eq.symm.trans hid, hactive⟩
    exact ⟨reservation, (hreservations reservation).mpr ⟨reservation, hreservation, if_neg hother⟩,
      hcovers⟩

end Rewriting

/-! ## The calls -/

theorem sessionsCovered_create {db : ReservationDb} (call : CreateCall)
    (hcovered : SessionsCovered db) : SessionsCovered (createReservation db call).1 := by
  unfold createReservation
  split
  · exact hcovered
  · next row hrow =>
    split
    · next reservations hinsert =>
      intro session hsession hactive
      obtain ⟨reservation, hreservation, hcovers⟩ := hcovered session hsession hactive
      exact ⟨reservation, (CheckedTable.mem_of_insert? hinsert).mpr (Or.inl hreservation), hcovers⟩
    · exact hcovered

theorem sessionsCovered_modify {db : ReservationDb} (context : CallContext) (call : ModifyCall)
    (hcovered : SessionsCovered db) : SessionsCovered (modifyReservation db context call).1 := by
  unfold modifyReservation
  split
  · exact hcovered
  · split
    · exact hcovered
    · split
      · exact hcovered
      · split
        · next hrewrite => exact sessionsCovered_of_rewrite hrewrite hcovered
        · exact hcovered

theorem sessionsCovered_cancel {db : ReservationDb} (context : CallContext) (call : CancelCall)
    (hcovered : SessionsCovered db) : SessionsCovered (cancelReservation db context call).1 := by
  unfold cancelReservation
  split
  · exact hcovered
  · split
    · exact hcovered
    · split
      · exact hcovered
      · split
        · exact hcovered
        · split
          · next hrewrite => exact sessionsCovered_of_rewrite hrewrite hcovered
          · exact hcovered

/-! ## Issuing -/

section Issuing

variable {db db' : ReservationDb} {context : CallContext} {tableId : Uuid} {call : IssueCall}
  {reservation : Reservation} {now : Timestamp}

theorem openReservation_eq_ok (hopen : openReservation db context tableId call = .ok reservation) :
    reservation ∈ db.reservations ∧ reservation.status = .confirmed
      ∧ reservation.publicTokenHash = call.reservationTokenHash := by
  obtain ⟨found, hfound, hrest⟩ := bind_eq_ok.mp hopen
  obtain ⟨-, -, hrest⟩ := bind_eq_ok.mp hrest
  obtain ⟨-, -, hrest⟩ := bind_eq_ok.mp hrest
  obtain ⟨-, -, hdone⟩ := bind_eq_ok.mp hrest
  cases hdone
  obtain ⟨hmem, hkeep⟩ := CheckedTable.mem_of_findFirst (orFail_eq_ok.mp hfound)
  simp only [Bool.and_eq_true, decide_eq_true_eq] at hkeep
  exact ⟨hmem, hkeep.1.2, hkeep.1.1⟩

theorem expireSessions_eq_some (hexpire : expireSessions db reservation.id now = some db') :
    db'.reservations = db.reservations
      ∧ ∀ session, session ∈ db'.sessions ↔ ∃ stored ∈ db.sessions,
        (if (stored.reservationId = reservation.id ∧ stored.status = .active)
            ∧ stored.expiresAt ≤ now then expired stored else stored) = session := by
  obtain ⟨sessions, hsessions, hdone⟩ := Option.bind_eq_some_iff.mp hexpire
  cases hdone
  refine ⟨rfl, fun session => ?_⟩
  simpa only [Bool.and_eq_true, decide_eq_true_eq] using CheckedTable.mem_of_updateWhere? hsessions

theorem sessionsCovered_of_expire (hexpire : expireSessions db reservation.id now = some db')
    (hcovered : SessionsCovered db) : SessionsCovered db' := by
  obtain ⟨hreservations, hsessions⟩ := expireSessions_eq_some hexpire
  intro session hsession hactive
  obtain ⟨stored, hstored, hsame⟩ := (hsessions session).mp hsession
  rw [hreservations]
  split at hsame
  · rw [← hsame] at hactive
    cases hactive
  · exact hcovered session (hsame ▸ hstored) hactive

/-- The session of a request is issued from the row of its reservation. -/
theorem sessionsCovered_issueNew {outcome : ReservationDb × CallResult}
    (hissue : issueNewSession db call reservation = some outcome)
    (hreservation : reservation ∈ db.reservations) (hconfirmed : reservation.status = .confirmed)
    (hcovered : SessionsCovered db) : SessionsCovered outcome.1 := by
  unfold issueNewSession at hissue
  split at hissue
  · cases hissue
    exact hcovered
  · split at hissue
    · next sessions hinsert =>
      cases hissue
      intro session hsession hactive
      rcases (CheckedTable.mem_of_insert? hinsert).mp hsession with hbefore | rfl
      · exact hcovered session hbefore hactive
      · exact ⟨reservation, hreservation, ⟨rfl, hconfirmed, rfl, rfl⟩⟩
    · split at hissue
      · cases hissue
        exact hcovered
      · cases hissue

/-- The cases of an issue: it ends as it began, or it expires the old session and answers. -/
theorem issue_cases (db : ReservationDb) (context : CallContext) (tableId : Uuid)
    (call : IssueCall) :
    ((issueReservationPreorderSession db context tableId call).1 = db
      ∧ ((issueReservationPreorderSession db context tableId call).2 = .raised
        ∨ ∃ code, (issueReservationPreorderSession db context tableId call).2 = .refused code))
    ∨ ∃ reservation expiredDb, openReservation db context tableId call = .ok reservation
      ∧ expireSessions db reservation.id context.now = some expiredDb
      ∧ answerRequest expiredDb context.now call reservation
        = some (issueReservationPreorderSession db context tableId call) := by
  unfold issueReservationPreorderSession
  cases hopen : openReservation db context tableId call with
  | error code => exact Or.inl ⟨rfl, Or.inr ⟨code, rfl⟩⟩
  | ok reservation =>
      dsimp only
      cases hexpire : expireSessions db reservation.id context.now with
      | none => exact Or.inl ⟨rfl, Or.inl rfl⟩
      | some expiredDb =>
          rw [Option.bind_some]
          cases hanswer : answerRequest expiredDb context.now call reservation with
          | none => exact Or.inl ⟨rfl, Or.inl rfl⟩
          | some outcome => exact Or.inr ⟨reservation, expiredDb, rfl, hexpire, hanswer⟩

theorem sessionsCovered_answer {outcome : ReservationDb × CallResult}
    (hanswer : answerRequest db now call reservation = some outcome)
    (hreservation : reservation ∈ db.reservations) (hconfirmed : reservation.status = .confirmed)
    (hcovered : SessionsCovered db) : SessionsCovered outcome.1 := by
  unfold answerRequest at hanswer
  split at hanswer
  · split at hanswer <;> cases hanswer <;> exact hcovered
  · exact sessionsCovered_issueNew hanswer hreservation hconfirmed hcovered

theorem sessionsCovered_issue (context : CallContext) (tableId : Uuid) (call : IssueCall)
    (hcovered : SessionsCovered db) :
    SessionsCovered (issueReservationPreorderSession db context tableId call).1 := by
  rcases issue_cases db context tableId call with
    ⟨hsame, -⟩ | ⟨reservation, expiredDb, hopen, hexpire, hanswer⟩
  · rw [hsame]
    exact hcovered
  · obtain ⟨hreservation, hconfirmed, -⟩ := openReservation_eq_ok hopen
    have hkept := (expireSessions_eq_some hexpire).1
    exact sessionsCovered_answer hanswer (hkept ▸ hreservation) hconfirmed
      (sessionsCovered_of_expire hexpire hcovered)

/-- The requests of a reservation are distinct. -/
theorem session_eq_of_request {left right : PreorderSession} (hleft : left ∈ db.sessions)
    (hright : right ∈ db.sessions) (hreservation : left.reservationId = right.reservationId)
    (hrequest : left.sessionRequestId = right.sessionRequestId) : left = right := by
  apply CheckedTable.eq_of_collides hleft hright
  apply Indexed.collides_addUnique_iff.mpr
  apply Or.inl
  apply Indexed.collides_addUnique_iff.mpr
  exact Or.inr ⟨(left.reservationId, left.sessionRequestId), rfl, by rw [hreservation, hrequest]⟩

/-- The sessions that have run out can always be expired. -/
theorem exists_expireSessions (db : ReservationDb) (reservationId : Uuid) (now : Timestamp) :
    ∃ expiredDb, expireSessions db reservationId now = some expiredDb := by
  have hmoved : ∀ {row other : PreorderSession}, Indexed.collides (expired row) other →
      Indexed.collides row other := by
    intro row other hcollides
    rcases Indexed.collides_addUnique_iff.mp hcollides with hkept | ⟨_, hactive, -⟩
    · exact Indexed.collides_addUnique_iff.mpr (Or.inl hkept)
    · simp [expired] at hactive
  obtain ⟨sessions, hsessions⟩ := db.sessions.exists_updateWhere?
    (fun session => session.reservationId = reservationId && session.status = .active
      && session.expiresAt ≤ now) expired hmoved (by
      intro row hrow hwanted
      have hcheck := db.sessions.checked row hrow
      simp only [Bool.and_eq_true, decide_eq_true_eq] at hwanted
      rw [sessionCheck, hwanted.1.2] at hcheck
      exact hcheck)
  exact ⟨{ db with sessions }, by rw [expireSessions, hsessions]; rfl⟩

theorem exists_of_expire (hexpire : expireSessions db reservation.id now = some db')
    {stored : PreorderSession} (hstored : stored ∈ db'.sessions) :
    ∃ before ∈ db.sessions, stored = before ∨ stored = expired before := by
  obtain ⟨before, hbefore, rfl⟩ := ((expireSessions_eq_some hexpire).2 stored).mp hstored
  refine ⟨before, hbefore, ?_⟩
  split
  · exact Or.inr rfl
  · exact Or.inl rfl

/-- A session is found by its request, also when it has been expired. -/
theorem sessionOfRequest_of_expire (hexpire : expireSessions db reservation.id now = some db')
    {session : PreorderSession} (hsession : session ∈ db.sessions) :
    ∃ found, sessionOfRequest db' session.reservationId session.sessionRequestId = some found
      ∧ (found = session ∨ found = expired session) := by
  cases hfound : sessionOfRequest db' session.reservationId session.sessionRequestId with
  | none =>
      have hnone := List.find?_eq_none.mp hfound _
        (((expireSessions_eq_some hexpire).2 _).mpr ⟨session, hsession, rfl⟩)
      split at hnone <;> simp [expired] at hnone
  | some found =>
      obtain ⟨hmem, hsame⟩ := CheckedTable.mem_of_findFirst hfound
      rw [Bool.and_eq_true, decide_eq_true_eq, decide_eq_true_eq] at hsame
      obtain ⟨before, hbefore, himage⟩ := exists_of_expire hexpire hmem
      have hbeforeSession : before = session := by
        apply session_eq_of_request hbefore hsession
        · rcases himage with rfl | rfl <;> exact hsame.1
        · rcases himage with rfl | rfl <;> exact hsame.2
      exact ⟨found, rfl, hbeforeSession ▸ himage⟩

/-- A request that has a session is answered with it or refused, and issues no other one. -/
theorem issue_of_session {session : PreorderSession} (hsession : session ∈ db.sessions)
    {owner : Reservation} (howner : owner ∈ db.reservations)
    (hreservation : owner.id = session.reservationId)
    (htoken : owner.publicTokenHash = call.reservationTokenHash)
    (hrequest : session.sessionRequestId = call.sessionRequestId) :
    ((issueReservationPreorderSession db context tableId call).2 = .session session true
      ∨ ∃ code, (issueReservationPreorderSession db context tableId call).2 = .refused code)
    ∧ ∀ stored ∈ (issueReservationPreorderSession db context tableId call).1.sessions,
      ∃ before ∈ db.sessions, before.id = stored.id := by
  unfold issueReservationPreorderSession
  cases hopen : openReservation db context tableId call with
  | error code => exact ⟨Or.inr ⟨code, rfl⟩, fun stored hstored => ⟨stored, hstored, rfl⟩⟩
  | ok reservation =>
      obtain ⟨hopened, -, hopenedToken⟩ := openReservation_eq_ok hopen
      have hsameOwner : reservation = owner := by
        apply CheckedTable.eq_of_collides hopened howner
        simp [Indexed.collides, hopenedToken, htoken]
      obtain ⟨expiredDb, hexpire⟩ := exists_expireSessions db reservation.id context.now
      obtain ⟨found, hfound, himage⟩ := sessionOfRequest_of_expire hexpire hsession
      have hids : ∀ stored ∈ expiredDb.sessions, ∃ before ∈ db.sessions,
          before.id = stored.id := by
        intro stored hstored
        obtain ⟨before, hbefore, rfl | rfl⟩ := exists_of_expire hexpire hstored
        · exact ⟨stored, hbefore, rfl⟩
        · exact ⟨before, hbefore, rfl⟩
      rw [← hreservation, ← hsameOwner, hrequest] at hfound
      dsimp only
      rw [hexpire, Option.bind_some, answerRequest, hfound]
      dsimp only
      by_cases hanswers : sessionAnswers context.now call found = true
      · rw [if_pos hanswers, Option.getD_some]
        rcases himage with rfl | rfl
        · exact ⟨Or.inl rfl, hids⟩
        · cases hanswers
      · rw [if_neg hanswers, Option.getD_some]
        exact ⟨Or.inr ⟨_, rfl⟩, hids⟩

end Issuing

/-! ## The main result -/

/-- What holds of the reservations and the sessions in every reachable state. -/
structure ReservationsAgree (db : ReservationDb) : Prop where
  covered : SessionsCovered db
  one_active : ∀ left ∈ db.sessions, ∀ right ∈ db.sessions, left.status = .active →
    right.status = .active → left.reservationId = right.reservationId → left = right
  no_overlap : ∀ left ∈ db.reservations, ∀ right ∈ db.reservations, left ≠ right →
    left.status = .confirmed → right.status = .confirmed →
    left.diningTableId = right.diningTableId →
      left.endsAt ≤ right.startsAt ∨ right.endsAt ≤ left.startsAt
  repeated : ∀ context tableId call, ∀ session ∈ db.sessions, ∀ owner ∈ db.reservations,
    owner.id = session.reservationId → owner.publicTokenHash = call.reservationTokenHash →
    session.sessionRequestId = call.sessionRequestId →
      ((issueReservationPreorderSession db context tableId call).2 = .session session true
        ∨ ∃ code, (issueReservationPreorderSession db context tableId call).2 = .refused code)
      ∧ ∀ stored ∈ (issueReservationPreorderSession db context tableId call).1.sessions,
        ∃ before ∈ db.sessions, before.id = stored.id

theorem SessionsCovered.agree {db : ReservationDb} (hcovered : SessionsCovered db) :
    ReservationsAgree db where
  covered := hcovered
  one_active left hleft right hright hleftActive hrightActive hsame := by
    apply CheckedTable.eq_of_collides hleft hright
    exact Indexed.collides_addUnique_iff.mpr (Or.inr
      ⟨left.reservationId, if_pos hleftActive, by rw [hsame]; exact if_pos hrightActive⟩)
  no_overlap left hleft right hright hne hleftConfirmed hrightConfirmed htable := by
    by_contra hoverlap
    push Not at hoverlap
    apply hne (CheckedTable.eq_of_collides hleft hright _)
    simp [Indexed.collides, Reservation.excludes, hleftConfirmed, hrightConfirmed, htable,
      hoverlap.1, hoverlap.2]
  repeated _ _ _ _ hsession _ howner hreservation htoken hrequest :=
    issue_of_session hsession howner hreservation htoken hrequest

theorem sessionsCovered_step {system : ReservationSystem} (event : ReservationEvent)
    (hcovered : SessionsCovered system.db) : SessionsCovered (step system event).db := by
  cases event with
  | call context call =>
      rw [step]
      split <;> exact hcovered
  | locked position =>
      rw [step]
      split
      · next context waiting _ =>
        cases waiting with
        | create call => exact sessionsCovered_create call hcovered
        | modify call => exact sessionsCovered_modify context call hcovered
        | cancel call => exact sessionsCovered_cancel context call hcovered
        | issue tableId call => exact sessionsCovered_issue context tableId call hcovered
      · exact hcovered

/-- Reservations and preorder sessions agree in every state that any interleaving of calls
reaches. -/
theorem reservations_agree (premises : Premises) (events : List ReservationEvent) :
    ReservationsAgree (exec step (.opened premises) events).db :=
  (invariant_exec (fun system : ReservationSystem => SessionsCovered system.db)
    (fun _ event hcovered => sessionsCovered_step event hcovered)
    (sessionsCovered_opened premises) events).agree

end Stallorder.SessionAgreement
