import Stallorder.OnlinePayments.EventOrder

/-!
# Payment events in any order

An intent takes the matching event of the greatest rank, and the latest one
among those, so its status is a register of the kind that keeps the latest
item.  The reconciliation status is one only as long as no event contradicts
the intent: a contradiction is forgotten when a later delivery moves the intent
along.
-/

namespace Stallorder.EventConfluence

open OrderContract PaymentIntents EventOrder LatestWins Run

/-! ## The register of an intent -/

/-- Where an intent stands: its status, and the time of the event that led to
it. -/
abbrev Position := IntentStatus × WithBot Timestamp

def lastAt : Option Timestamp → WithBot Timestamp
  | none => ⊥
  | some time => time

def position (intent : PaymentIntent) : Position :=
  (intent.status, lastAt intent.lastProviderEventAt)

def positionOf (event : AcceptedEvent) : Position :=
  (statusAfter event.2, (event.1.providerCreatedAt : WithBot Timestamp))

def rank (position : Position) : ℕ ×ₗ WithBot Timestamp :=
  toLex (currentRank position.1, position.2)

def contradicts (intent : PaymentIntent) (event : AcceptedEvent) : Bool :=
  (matchCode intent event.1).isSome

/-- The positions that the matching events lead to. -/
def positions (intent : PaymentIntent) (accepted : List AcceptedEvent) : List Position :=
  (accepted.filter fun event => !contradicts intent event).map positionOf

def reconciliationOf : IntentStatus → ReconciliationStatus
  | .failed | .timedOut => .notApplicable
  | .requiresAuthorization | .authorized | .captured => .pending

section Register

variable {intent : PaymentIntent} {event : AcceptedEvent} {accepted : List AcceptedEvent}

theorem currentRank_statusAfter (type : PaymentEventType) :
    currentRank (statusAfter type) = incomingRank type := by
  cases type <;> rfl

theorem reconciliationAfter_eq (type : PaymentEventType) :
    reconciliationAfter type = reconciliationOf (statusAfter type) := by
  cases type <;> rfl

theorem reconciliationOf_ne_mismatch (status : IntentStatus) :
    reconciliationOf status ≠ .mismatch := by
  cases status <;> decide

theorem notBefore_iff {event : ProviderEvent} : notBefore intent event = true ↔
    lastAt intent.lastProviderEventAt ≤ (event.providerCreatedAt : WithBot Timestamp) := by
  unfold notBefore
  cases intent.lastProviderEventAt with
  | none => simp [lastAt]
  | some last => simp [lastAt]

theorem applies_iff (hunmatched : intent.reconciliationStatus ≠ .matched) :
    applies intent event.1 event.2 = true ↔
      rank (position intent) ≤ rank (positionOf event) := by
  unfold applies
  rw [if_neg hunmatched, rank, rank, Prod.Lex.toLex_le_toLex, Bool.or_eq_true, Bool.and_eq_true,
    decide_eq_true_eq, decide_eq_true_eq, notBefore_iff, position, positionOf,
    currentRank_statusAfter]
  exact or_congr_right (and_congr_left fun _ => eq_comm)

theorem matchCode_of_not_contradicts (hmatches : contradicts intent event = false) :
    matchCode intent event.1 = none := by
  simpa [contradicts] using hmatches

theorem contradicts_of_sameTerms {intent' : PaymentIntent} (hterms : SameTerms intent intent')
    (event : AcceptedEvent) : contradicts intent' event = contradicts intent event := by
  unfold contradicts
  rw [matchCode_of_sameTerms hterms]

theorem positions_of_sameTerms {intent' : PaymentIntent} (hterms : SameTerms intent intent')
    (accepted : List AcceptedEvent) : positions intent' accepted = positions intent accepted := by
  unfold positions
  simp only [contradicts_of_sameTerms hterms]

theorem position_of_contradicts (hcontradicts : contradicts intent event = true) :
    position (received event.1 event.2 intent) = position intent := by
  obtain ⟨code, hcode⟩ := Option.isSome_iff_exists.mp hcontradicts
  unfold received
  rw [hcode]
  dsimp only
  split <;> rfl

theorem position_of_matches (hunmatched : intent.reconciliationStatus ≠ .matched)
    (hmatches : contradicts intent event = false) :
    position (received event.1 event.2 intent)
      = keepLatest rank (position intent) (positionOf event) := by
  have hcode := matchCode_of_not_contradicts hmatches
  cases happlies : applies intent event.1 event.2 with
  | true =>
      rw [received_of_applies hcode happlies, keepLatest_of_le ((applies_iff hunmatched).mp happlies)]
      rfl
  | false =>
      have hlt : ¬ rank (position intent) ≤ rank (positionOf event) := by
        rw [← applies_iff hunmatched, happlies]
        decide
      rw [received_of_not_applies hcode happlies, keepLatest_of_lt (not_le.mp hlt)]

theorem unmatched_receivedAll (accepted : List AcceptedEvent)
    (hunmatched : intent.reconciliationStatus ≠ .matched) :
    (receivedAll intent accepted).reconciliationStatus ≠ .matched := by
  induction accepted generalizing intent with
  | nil => exact hunmatched
  | cons event accepted ih => exact ih (unmatched_received _ _ hunmatched)

/-- The position of an intent is a register that keeps the latest position. -/
theorem position_receivedAll (accepted : List AcceptedEvent)
    (hunmatched : intent.reconciliationStatus ≠ .matched) :
    position (receivedAll intent accepted)
      = latest rank (position intent) (positions intent accepted) := by
  induction accepted generalizing intent with
  | nil => rfl
  | cons event accepted ih =>
      have hterms : SameTerms intent (received event.1 event.2 intent) := sameTerms_received
      calc position (receivedAll intent (event :: accepted))
          = latest rank (position (received event.1 event.2 intent))
              (positions intent accepted) := by
            rw [← positions_of_sameTerms hterms]
            exact ih (unmatched_received _ _ hunmatched)
        _ = latest rank (position intent) (positions intent (event :: accepted)) := by
            cases hcontradicts : contradicts intent event with
            | true =>
                rw [position_of_contradicts hcontradicts, positions, positions,
                  List.filter_cons_of_neg (by simp [hcontradicts])]
            | false =>
                rw [position_of_matches hunmatched hcontradicts, positions, positions,
                  List.filter_cons_of_pos (by simp [hcontradicts]), List.map_cons, latest_cons]

theorem status_receivedAll (accepted : List AcceptedEvent)
    (hunmatched : intent.reconciliationStatus ≠ .matched) :
    (receivedAll intent accepted).status
      = (latest rank (position intent) (positions intent accepted)).1 :=
  congrArg Prod.fst (position_receivedAll accepted hunmatched)

theorem receivedAll_of_matched (accepted : List AcceptedEvent)
    (hmatched : intent.reconciliationStatus = .matched) : receivedAll intent accepted = intent := by
  induction accepted with
  | nil => rfl
  | cons event accepted ih =>
      have hsame : received event.1 event.2 intent = intent := received_of_matched hmatched
      rw [receivedAll_cons, hsame, ih]

/-! ### The reconciliation status -/

theorem reconciliation_of_settled
    (hmatches : ∀ event ∈ accepted, contradicts intent event = false)
    (hsettled : intent.reconciliationStatus = reconciliationOf intent.status) :
    (receivedAll intent accepted).reconciliationStatus
      = reconciliationOf (receivedAll intent accepted).status := by
  induction accepted generalizing intent with
  | nil => exact hsettled
  | cons event accepted ih =>
      have hterms : SameTerms intent (received event.1 event.2 intent) := sameTerms_received
      have hcode := matchCode_of_not_contradicts (hmatches event List.mem_cons_self)
      rw [receivedAll_cons]
      apply ih
      · intro other hother
        rw [contradicts_of_sameTerms hterms]
        exact hmatches other (List.mem_cons_of_mem _ hother)
      · cases happlies : applies intent event.1 event.2 with
        | true =>
            rw [received_of_applies hcode happlies]
            exact reconciliationAfter_eq event.2
        | false =>
            rw [received_of_not_applies hcode happlies]
            exact hsettled

/-- An event that the intent takes decides its reconciliation status, together
with the matching events after it. -/
theorem reconciliation_of_applicable
    (hmatches : ∀ event ∈ accepted, contradicts intent event = false)
    (hevent : event ∈ accepted) (happlies : applies intent event.1 event.2 = true) :
    (receivedAll intent accepted).reconciliationStatus
      = reconciliationOf (receivedAll intent accepted).status := by
  induction accepted generalizing intent with
  | nil => cases hevent
  | cons head accepted ih =>
      have hterms : SameTerms intent (received head.1 head.2 intent) := sameTerms_received
      have hcode := matchCode_of_not_contradicts (hmatches head List.mem_cons_self)
      have hrest : ∀ other ∈ accepted, contradicts intent other = false :=
        fun other hother => hmatches other (List.mem_cons_of_mem _ hother)
      rw [receivedAll_cons]
      cases hhead : applies intent head.1 head.2 with
      | true =>
          apply reconciliation_of_settled
          · intro other hother
            rw [contradicts_of_sameTerms hterms]
            exact hrest other hother
          · rw [received_of_applies hcode hhead]
            exact reconciliationAfter_eq head.2
      | false =>
          have hsame : received head.1 head.2 intent = intent :=
            received_of_not_applies hcode hhead
          rw [hsame]
          cases hevent with
          | head =>
              rw [happlies] at hhead
              cases hhead
          | tail _ hmem => exact ih hrest hmem happlies

/-- When no matching event can be taken, only the contradictions are noted. -/
theorem receivedAll_of_inapplicable (hunmatched : intent.reconciliationStatus ≠ .matched)
    (hinapplicable : ∀ event ∈ accepted, contradicts intent event = false →
      applies intent event.1 event.2 = false) :
    (receivedAll intent accepted).status = intent.status
      ∧ (receivedAll intent accepted).reconciliationStatus
        = if accepted.any (contradicts intent) then .mismatch
          else intent.reconciliationStatus := by
  induction accepted generalizing intent with
  | nil => exact ⟨rfl, rfl⟩
  | cons head accepted ih =>
      have hterms : SameTerms intent (received head.1 head.2 intent) := sameTerms_received
      have hrest : ∀ other ∈ accepted, contradicts intent other = false →
          applies intent other.1 other.2 = false :=
        fun other hother => hinapplicable other (List.mem_cons_of_mem _ hother)
      rw [receivedAll_cons]
      cases hcontradicts : contradicts intent head with
      | false =>
          have hsame : received head.1 head.2 intent = intent :=
            received_of_not_applies (matchCode_of_not_contradicts hcontradicts)
              (hinapplicable head List.mem_cons_self hcontradicts)
          rw [hsame, List.any_cons, hcontradicts, Bool.false_or]
          exact ih hunmatched hrest
      | true =>
          obtain ⟨code, hcode⟩ := Option.isSome_iff_exists.mp hcontradicts
          have hmarked : received head.1 head.2 intent = _ :=
            received_of_contradiction hcode hunmatched
          have hposition : position (received head.1 head.2 intent) = position intent :=
            position_of_contradicts hcontradicts
          have hunmatched' := unmatched_received head.1 head.2 hunmatched
          obtain ⟨hstatus, hreconciliation⟩ := ih hunmatched' (by
            intro other hother hmatches
            rw [contradicts_of_sameTerms hterms] at hmatches
            have hstale := hrest other hother hmatches
            rw [Bool.eq_false_iff, Ne, applies_iff hunmatched', hposition,
              ← applies_iff hunmatched, hstale]
            decide)
          rw [hstatus, hreconciliation, hmarked, List.any_cons, hcontradicts]
          exact ⟨rfl, by simp⟩

/-- Contradictions that come last are what the intent ends with. -/
theorem reconciliation_of_contradictions (hunmatched : intent.reconciliationStatus ≠ .matched)
    (hcontradicts : ∀ event ∈ accepted, contradicts intent event = true)
    (hsome : accepted ≠ []) :
    (receivedAll intent accepted).reconciliationStatus = .mismatch := by
  obtain ⟨event, hevent⟩ := List.exists_mem_of_ne_nil accepted hsome
  have hmarked := (receivedAll_of_inapplicable hunmatched (by
    intro other hother hmatches
    rw [hcontradicts other hother] at hmatches
    cases hmatches)).2
  rw [hmarked, if_pos]
  exact List.any_eq_true.mpr ⟨event, hevent, hcontradicts event hevent⟩

end Register

/-! ## Events whose order does not matter -/

/-- The order of the new events does not matter to a reconciled intent.  To any
other intent it does not as long as no event contradicts the intent next to one
that the intent takes, and the latest matching events agree on the status. -/
def OrderInsensitive (intent : PaymentIntent) (accepted : List AcceptedEvent) : Prop :=
  intent.reconciliationStatus = .matched
    ∨ ((∀ left ∈ accepted, contradicts intent left = true →
        ∀ right ∈ accepted, contradicts intent right = false →
          applies intent right.1 right.2 = false)
      ∧ ∀ left right, IsLatest rank (position intent) (positions intent accepted) left →
        IsLatest rank (position intent) (positions intent accepted) right → left.1 = right.1)

theorem orderInsensitive_iff {intent : PaymentIntent} {accepted : List AcceptedEvent} :
    OrderInsensitive intent accepted ↔ intent.reconciliationStatus = .matched
      ∨ ((∀ left ∈ accepted, contradicts intent left = true →
          ∀ right ∈ accepted, contradicts intent right = false →
            applies intent right.1 right.2 = false)
        ∧ ∀ left ∈ positions intent accepted, ∀ right ∈ positions intent accepted,
          IsLatest rank (position intent) (positions intent accepted) left →
            IsLatest rank (position intent) (positions intent accepted) right →
              left.1 = right.1) := by
  refine or_congr_right (and_congr_right fun _ => ?_)
  constructor
  · intro halike left _ right _ hleft hright
    exact halike left right hleft hright
  · intro halike left right hleft hright
    exact halike left hleft.mem right hright.mem hleft hright

instance (intent : PaymentIntent) (accepted : List AcceptedEvent) :
    Decidable (OrderInsensitive intent accepted) :=
  decidable_of_iff' _ orderInsensitive_iff

section Insensitive

variable {intent : PaymentIntent} {accepted first second : List AcceptedEvent}

theorem mem_positions {position : Position} : position ∈ positions intent accepted ↔
    ∃ event ∈ accepted, contradicts intent event = false ∧ positionOf event = position := by
  simp [positions, and_assoc]

theorem mem_positions_congr (hsame : ∀ event, event ∈ first ↔ event ∈ accepted)
    (position : Position) : position ∈ positions intent first
      ↔ position ∈ positions intent accepted := by
  simp only [mem_positions, hsame]

theorem same_of_insensitive (hinsensitive : OrderInsensitive intent accepted)
    (hfirst : ∀ event, event ∈ first ↔ event ∈ accepted)
    (hsecond : ∀ event, event ∈ second ↔ event ∈ accepted) :
    (receivedAll intent first).status = (receivedAll intent second).status
      ∧ (receivedAll intent first).reconciliationStatus
        = (receivedAll intent second).reconciliationStatus := by
  by_cases hmatched : intent.reconciliationStatus = .matched
  · rw [receivedAll_of_matched first hmatched, receivedAll_of_matched second hmatched]
    exact ⟨rfl, rfl⟩
  obtain ⟨hapart, halike⟩ := hinsensitive.resolve_left hmatched
  have hstatus : (receivedAll intent first).status = (receivedAll intent second).status := by
    rw [status_receivedAll first hmatched, status_receivedAll second hmatched]
    exact read_latest_eq (mem_positions_congr hfirst) (mem_positions_congr hsecond) halike
  refine ⟨hstatus, ?_⟩
  by_cases hcontradiction : ∃ event ∈ accepted, contradicts intent event = true
  · obtain ⟨event, hevent, hcontradicts⟩ := hcontradiction
    have hmarked : ∀ {order : List AcceptedEvent}, (∀ event, event ∈ order ↔ event ∈ accepted) →
        (receivedAll intent order).reconciliationStatus = .mismatch := by
      intro order hmembers
      rw [(receivedAll_of_inapplicable hmatched fun other hother =>
        hapart event hevent hcontradicts other ((hmembers other).mp hother)).2, if_pos]
      exact List.any_eq_true.mpr ⟨event, (hmembers event).mpr hevent, hcontradicts⟩
    rw [hmarked hfirst, hmarked hsecond]
  · have hmatches : ∀ event ∈ accepted, contradicts intent event = false := by
      intro event hevent
      exact Bool.eq_false_iff.mpr fun hcontradicts => hcontradiction ⟨event, hevent, hcontradicts⟩
    by_cases happlicable : ∃ event ∈ accepted, applies intent event.1 event.2 = true
    · obtain ⟨event, hevent, happlies⟩ := happlicable
      rw [reconciliation_of_applicable (fun other hother => hmatches other ((hfirst other).mp hother))
          ((hfirst event).mpr hevent) happlies,
        reconciliation_of_applicable (fun other hother => hmatches other ((hsecond other).mp hother))
          ((hsecond event).mpr hevent) happlies, hstatus]
    · have hkept : ∀ {order : List AcceptedEvent}, (∀ event, event ∈ order ↔ event ∈ accepted) →
          (receivedAll intent order).reconciliationStatus = intent.reconciliationStatus := by
        intro order hmembers
        rw [(receivedAll_of_inapplicable hmatched fun other hother _ =>
          Bool.eq_false_iff.mpr fun happlies =>
            happlicable ⟨other, (hmembers other).mp hother, happlies⟩).2, if_neg]
        intro hany
        obtain ⟨other, hother, hcontradicts⟩ := List.any_eq_true.mp hany
        exact hcontradiction ⟨other, (hmembers other).mp hother, hcontradicts⟩
      rw [hkept hfirst, hkept hsecond]

/-- The matching events one of which is taken, before and after the
contradictions. -/
theorem differ_of_contradiction {matching contradicting : List AcceptedEvent}
    (hunmatched : intent.reconciliationStatus ≠ .matched)
    (hmatching : ∀ event ∈ matching, contradicts intent event = false)
    (hcontradicting : ∀ event ∈ contradicting, contradicts intent event = true)
    (hsome : contradicting ≠ []) {event : AcceptedEvent} (hevent : event ∈ matching)
    (happlies : applies intent event.1 event.2 = true)
    {matching' contradicting' : List AcceptedEvent}
    (hmatching' : ∀ event, event ∈ matching' ↔ event ∈ matching)
    (hcontradicting' : ∀ event, event ∈ contradicting' ↔ event ∈ contradicting) :
    (receivedAll intent (matching ++ contradicting)).reconciliationStatus
      ≠ (receivedAll intent (contradicting' ++ matching')).reconciliationStatus := by
  have hlast : (receivedAll intent (matching ++ contradicting)).reconciliationStatus
      = .mismatch := by
    rw [receivedAll_append]
    refine reconciliation_of_contradictions (unmatched_receivedAll matching hunmatched) ?_ hsome
    intro other hother
    rw [contradicts_of_sameTerms (sameTerms_receivedAll intent matching)]
    exact hcontradicting other hother
  have hterms := sameTerms_receivedAll intent contradicting'
  have hunmatched' := unmatched_receivedAll contradicting' hunmatched
  have hposition : position (receivedAll intent contradicting') = position intent := by
    rw [position_receivedAll contradicting' hunmatched]
    apply latest_eq_start
    intro reached hreached
    obtain ⟨other, hother, hmatches, -⟩ := mem_positions.mp hreached
    rw [hcontradicting other ((hcontradicting' other).mp hother)] at hmatches
    cases hmatches
  have hfirst : (receivedAll intent (contradicting' ++ matching')).reconciliationStatus
      = reconciliationOf (receivedAll intent (contradicting' ++ matching')).status := by
    rw [receivedAll_append]
    refine reconciliation_of_applicable ?_ ((hmatching' event).mpr hevent) ?_
    · intro other hother
      rw [contradicts_of_sameTerms hterms]
      exact hmatching other ((hmatching' other).mp hother)
    · rw [applies_iff hunmatched', hposition, ← applies_iff hunmatched]
      exact happlies
  rw [hlast, hfirst]
  exact (reconciliationOf_ne_mismatch _).symm

/-- The intent ends at the latest position that comes last. -/
theorem status_of_latest_last {before : List AcceptedEvent} {event : AcceptedEvent}
    (hunmatched : intent.reconciliationStatus ≠ .matched)
    (hmatches : contradicts intent event = false)
    (hlatest : IsLatest rank (position intent) (positions intent accepted) (positionOf event))
    (hbefore : ∀ other ∈ before, other ∈ accepted) :
    (receivedAll intent (before ++ [event])).status = (positionOf event).1 := by
  rw [status_receivedAll _ hunmatched]
  have hsplit : positions intent (before ++ [event])
      = positions intent before ++ [positionOf event] := by
    simp [positions, hmatches]
  rw [hsplit, hlatest.latest_append]
  intro reached hreached
  obtain ⟨other, hother, hkept⟩ := mem_positions.mp hreached
  exact mem_positions.mpr ⟨other, hbefore other hother, hkept⟩

end Insensitive

/-! ## Runs of deliveries -/

section Runs

variable {db : OnlineDb} {intent : PaymentIntent} {events : List ProviderEvent}

/-- Each event is delivered once, in time. -/
def deliverAll (events : List ProviderEvent) : List Delivery :=
  events.map fun event => { event, signatureTimestamp := 0, now := 0 }

theorem delivers_deliverAll {order : List ProviderEvent}
    (hsame : ∀ event, event ∈ order ↔ event ∈ events) : Delivers events (deliverAll order) where
  known := by
    intro delivery hdelivery
    obtain ⟨event, hevent, rfl⟩ := List.mem_map.mp hdelivery
    exact (hsame event).mp hevent
  complete := by
    intro event hevent
    exact ⟨_, List.mem_map_of_mem ((hsame event).mpr hevent), rfl, rfl⟩

theorem taken_deliverAll {db' : OnlineDb} {order : List ProviderEvent}
    {accepted : List AcceptedEvent} (htaken : Taken db db' intent (deliverAll order) accepted)
    (event : AcceptedEvent) : event ∈ accepted ↔ event.1 ∈ order
      ∧ acceptedType event.1 = some event.2 ∧ recorded db event.1 = false := by
  rw [htaken.taken]
  refine and_congr_left fun _ => ?_
  constructor
  · rintro ⟨delivery, hdelivery, hsame, -⟩
    obtain ⟨other, hother, rfl⟩ := List.mem_map.mp hdelivery
    exact hsame ▸ hother
  · intro hmem
    exact ⟨_, List.mem_map_of_mem hmem, rfl, rfl⟩

variable (hintent : intent ∈ db.intents)
  (hdistinct : (events.map (·.providerEventId)).Nodup)
  (hfor : ∀ event ∈ events, event.providerIntentId = intent.providerIntentId)

include hintent hdistinct hfor

/-- A run of deliveries takes the new events in some order. -/
theorem exists_order_of_delivers {deliveries : List Delivery}
    (hdelivers : Delivers events deliveries) :
    ∃ accepted, outcome (exec deliver db deliveries) intent.id
        = some ((receivedAll intent accepted).status,
          (receivedAll intent accepted).reconciliationStatus)
      ∧ ∀ event, event ∈ accepted ↔ event ∈ newEvents db events := by
  obtain ⟨accepted, htaken⟩ := exists_taken intent
    (fun left hleft right hright => List.inj_on_of_nodup_map hdistinct hleft hright)
    hfor hdelivers.known hintent
  refine ⟨accepted, ?_, fun event => ?_⟩
  · rw [← (sameTerms_receivedAll intent accepted).id]
    exact outcome_of_mem htaken.mem
  · rw [htaken.taken, mem_newEvents]
    refine and_congr_left fun _ => ?_
    constructor
    · rintro ⟨delivery, hdelivery, hsame, -⟩
      exact hsame ▸ hdelivers.known delivery hdelivery
    · exact hdelivers.complete event.1

/-- Two groups of events that are delivered one after the other are taken one
after the other. -/
theorem exists_order_of_groups (before after : List ProviderEvent)
    (hbefore : ∀ event ∈ before, event ∈ events) (hafter : ∀ event ∈ after, event ∈ events)
    (hapart : ∀ event ∈ before, event ∉ after) :
    ∃ earlier later, outcome (exec deliver db (deliverAll (before ++ after))) intent.id
        = some ((receivedAll intent (earlier ++ later)).status,
          (receivedAll intent (earlier ++ later)).reconciliationStatus)
      ∧ (∀ event, event ∈ earlier ↔ event ∈ newEvents db events ∧ event.1 ∈ before)
      ∧ ∀ event, event ∈ later ↔ event ∈ newEvents db events ∧ event.1 ∈ after := by
  have hinjective : ∀ left ∈ events, ∀ right ∈ events,
      left.providerEventId = right.providerEventId → left = right :=
    fun left hleft right hright => List.inj_on_of_nodup_map hdistinct hleft hright
  have hknown : ∀ {order : List ProviderEvent}, (∀ event ∈ order, event ∈ events) →
      ∀ delivery ∈ deliverAll order, delivery.event ∈ events := by
    intro order horder delivery hdelivery
    obtain ⟨event, hevent, rfl⟩ := List.mem_map.mp hdelivery
    exact horder event hevent
  obtain ⟨earlier, hearlier⟩ := exists_taken intent hinjective hfor (hknown hbefore) hintent
  have hterms := sameTerms_receivedAll intent earlier
  obtain ⟨later, hlater⟩ := exists_taken (receivedAll intent earlier) hinjective
    (fun event hevent => (hfor event hevent).trans hterms.providerIntentId.symm)
    (hknown hafter) hearlier.mem
  refine ⟨earlier, later, ?_, fun event => ?_, fun event => ?_⟩
  · have hsplit : deliverAll (before ++ after) = deliverAll before ++ deliverAll after :=
      List.map_append
    rw [hsplit, exec_append, receivedAll_append, ← hterms.id,
      ← (sameTerms_receivedAll (receivedAll intent earlier) later).id]
    exact outcome_of_mem hlater.mem
  · rw [taken_deliverAll hearlier, mem_newEvents]
    constructor
    · rintro ⟨hmem, hrest⟩
      exact ⟨⟨hbefore _ hmem, hrest⟩, hmem⟩
    · rintro ⟨⟨-, hrest⟩, hmem⟩
      exact ⟨hmem, hrest⟩
  · rw [taken_deliverAll hlater, mem_newEvents, hearlier.recorded]
    constructor
    · rintro ⟨hmem, htype, hnew, -⟩
      exact ⟨⟨hafter _ hmem, htype, hnew⟩, hmem⟩
    · rintro ⟨⟨hevent, htype, hnew⟩, hmem⟩
      refine ⟨hmem, htype, hnew, fun other hother hsame => ?_⟩
      have hfirst := ((taken_deliverAll hearlier other).mp hother).1
      have heq : event.1 = other.1 := hinjective _ hevent _ (hbefore _ hfirst) hsame
      exact hapart _ hfirst (heq ▸ hmem)

/-- A new matching event at the latest position, delivered last, decides the
status. -/
theorem exists_delivers_of_latest {event : AcceptedEvent}
    (hunmatched : intent.reconciliationStatus ≠ .matched)
    (hnew : event ∈ newEvents db events) (hmatches : contradicts intent event = false)
    (hlatest : IsLatest rank (position intent) (positions intent (newEvents db events))
      (positionOf event)) :
    ∃ deliveries reconciliation, Delivers events deliveries
      ∧ outcome (exec deliver db deliveries) intent.id
        = some ((positionOf event).1, reconciliation) := by
  have hevent : event.1 ∈ events := (mem_newEvents.mp hnew).1
  have hmembers : ∀ other, other ∈ events.filter (fun other => other ≠ event.1) ++ [event.1]
      ↔ other ∈ events := by
    intro other
    by_cases hsame : other = event.1
    · simp [hsame, hevent]
    · simp [hsame]
  obtain ⟨earlier, later, houtcome, hearlier, hlater⟩ := exists_order_of_groups hintent
    hdistinct hfor (events.filter fun other => other ≠ event.1) [event.1]
      (fun other hother => (List.mem_filter.mp hother).1)
    (fun other hother => List.mem_singleton.mp hother ▸ hevent) (by simp)
  have hlaterEvent : event ∈ later := (hlater event).mpr ⟨hnew, List.mem_singleton_self _⟩
  have hlast : later.getLast (List.ne_nil_of_mem hlaterEvent) = event := by
    obtain ⟨haccepted, hsame⟩ := (hlater _).mp (List.getLast_mem (List.ne_nil_of_mem hlaterEvent))
    have hfirst := List.mem_singleton.mp hsame
    refine Prod.ext hfirst ?_
    have htype := (mem_newEvents.mp haccepted).2.1
    rw [hfirst, (mem_newEvents.mp hnew).2.1] at htype
    exact (Option.some.inj htype).symm
  have hsplit : earlier ++ later = (earlier ++ later.dropLast) ++ [event] := by
    rw [List.append_assoc, ← hlast, List.dropLast_append_getLast]
  have hstatus : (receivedAll intent (earlier ++ later)).status = (positionOf event).1 := by
    rw [hsplit]
    apply status_of_latest_last hunmatched hmatches hlatest
    intro other hother
    rcases List.mem_append.mp hother with hbefore | hafter
    · exact ((hearlier other).mp hbefore).1
    · exact ((hlater other).mp (List.mem_of_mem_dropLast hafter)).1
  exact ⟨_, _, delivers_deliverAll hmembers, hstatus ▸ houtcome⟩

/-- An event that the intent takes and one that contradicts it do not commute. -/
theorem exists_delivers_of_contradiction {left right : AcceptedEvent}
    (hunmatched : intent.reconciliationStatus ≠ .matched)
    (hleft : left ∈ newEvents db events) (hcontradicts : contradicts intent left = true)
    (hright : right ∈ newEvents db events) (hmatches : contradicts intent right = false)
    (happlies : applies intent right.1 right.2 = true) :
    ∃ first second, Delivers events first ∧ Delivers events second
      ∧ outcome (exec deliver db first) intent.id
        ≠ outcome (exec deliver db second) intent.id := by
  let matching := events.filter fun event => (matchCode intent event).isNone
  let contradicting := events.filter fun event => (matchCode intent event).isSome
  have hmatching : ∀ event ∈ matching, event ∈ events :=
    fun event hevent => (List.mem_filter.mp hevent).1
  have hcontradicting : ∀ event ∈ contradicting, event ∈ events :=
    fun event hevent => (List.mem_filter.mp hevent).1
  have hapart : ∀ event ∈ matching, event ∉ contradicting := by
    intro event hevent hother
    have hnone := (List.mem_filter.mp hevent).2
    have hsome := (List.mem_filter.mp hother).2
    cases hcode : matchCode intent event with
    | none => simp [hcode] at hsome
    | some code => simp [hcode] at hnone
  have hcovers : ∀ event ∈ events, event ∈ matching ∨ event ∈ contradicting := by
    intro event hevent
    cases hcode : matchCode intent event with
    | none => exact Or.inl (List.mem_filter.mpr ⟨hevent, by simp [hcode]⟩)
    | some code => exact Or.inr (List.mem_filter.mpr ⟨hevent, by simp [hcode]⟩)
  have hkind : ∀ event : AcceptedEvent, event.1 ∈ events →
      (event.1 ∈ matching ↔ contradicts intent event = false)
        ∧ (event.1 ∈ contradicting ↔ contradicts intent event = true) := by
    intro event hevent
    simp [matching, contradicting, contradicts, hevent]
  obtain ⟨earlier, later, houtcome, hearlier, hlater⟩ := exists_order_of_groups hintent hdistinct
    hfor _ _ hmatching hcontradicting hapart
  obtain ⟨earlier', later', houtcome', hearlier', hlater'⟩ := exists_order_of_groups hintent
    hdistinct hfor _ _ hcontradicting hmatching fun event hevent hother => hapart event hother hevent
  have hleftEvent := (mem_newEvents.mp hleft).1
  have hrightEvent := (mem_newEvents.mp hright).1
  have hdiffer := differ_of_contradiction hunmatched
    (fun event hevent => by
      obtain ⟨hnew, hmem⟩ := (hearlier event).mp hevent
      exact (hkind event (mem_newEvents.mp hnew).1).1.mp hmem)
    (fun event hevent => by
      obtain ⟨hnew, hmem⟩ := (hlater event).mp hevent
      exact (hkind event (mem_newEvents.mp hnew).1).2.mp hmem)
    (List.ne_nil_of_mem ((hlater left).mpr ⟨hleft, (hkind left hleftEvent).2.mpr hcontradicts⟩))
    ((hearlier right).mpr ⟨hright, (hkind right hrightEvent).1.mpr hmatches⟩) happlies
    (fun event => (hlater' event).trans (hearlier event).symm)
    (fun event => (hearlier' event).trans (hlater event).symm)
  refine ⟨deliverAll (matching ++ contradicting), deliverAll (contradicting ++ matching),
    delivers_deliverAll fun event => ?_, delivers_deliverAll fun event => ?_, ?_⟩
  case refine_3 =>
    rw [houtcome, houtcome']
    intro hsame
    exact hdiffer (congrArg Prod.snd (Option.some.inj hsame))
  · rw [List.mem_append]
    exact ⟨fun hmem => hmem.elim (hmatching event) (hcontradicting event), hcovers event⟩
  · rw [List.mem_append]
    exact ⟨fun hmem => hmem.elim (hcontradicting event) (hmatching event),
      fun hmem => (hcovers event hmem).symm⟩

/-- The order of the events of an intent does not matter exactly when it is
reconciled, or no new event contradicts it next to one that it takes and its
latest new events agree on the status. -/
theorem events_confluent_iff :
    (∀ first second, Delivers events first → Delivers events second →
      outcome (exec deliver db first) intent.id = outcome (exec deliver db second) intent.id)
    ↔ OrderInsensitive intent (newEvents db events) := by
  constructor
  · intro hconfluent
    by_cases hmatched : intent.reconciliationStatus = .matched
    · exact Or.inl hmatched
    refine Or.inr ⟨fun left hleft hcontradicts right hright hmatches => ?_,
      fun left right hleft hright => ?_⟩
    · rw [Bool.eq_false_iff]
      intro happlies
      obtain ⟨first, second, hfirst, hsecond, hdiffer⟩ := exists_delivers_of_contradiction hintent
        hdistinct hfor hmatched hleft hcontradicts hright hmatches happlies
      exact hdiffer (hconfluent first second hfirst hsecond)
    · obtain ⟨leftEvent, hleftNew, hleftMatches, rfl⟩ := mem_positions.mp hleft.mem
      obtain ⟨rightEvent, hrightNew, hrightMatches, rfl⟩ := mem_positions.mp hright.mem
      obtain ⟨first, _, hfirst, houtcome⟩ := exists_delivers_of_latest hintent hdistinct hfor
        hmatched hleftNew hleftMatches hleft
      obtain ⟨second, _, hsecond, houtcome'⟩ := exists_delivers_of_latest hintent hdistinct hfor
        hmatched hrightNew hrightMatches hright
      have hsame := hconfluent first second hfirst hsecond
      rw [houtcome, houtcome'] at hsame
      exact (Prod.mk.inj (Option.some.inj hsame)).1
  · intro hinsensitive first second hfirst hsecond
    obtain ⟨accepted, houtcome, hmembers⟩ :=
      exists_order_of_delivers hintent hdistinct hfor hfirst
    obtain ⟨accepted', houtcome', hmembers'⟩ :=
      exists_order_of_delivers hintent hdistinct hfor hsecond
    obtain ⟨hstatus, hreconciliation⟩ := same_of_insensitive hinsensitive hmembers hmembers'
    rw [houtcome, houtcome', hstatus, hreconciliation]

end Runs

/-! ## Sample deliveries -/

def sampleIntent : PaymentIntent where
  id := 1
  organizationId := 1
  stallId := 1
  orderId := 20
  providerIntentId := localMockIntentId 1
  idempotencyKey := uuidText 2
  requestFingerprint := hexText 64 3
  amount := 100
  currency := ['T', 'W', 'D']
  status := .requiresAuthorization
  reconciliationStatus := .pending
  reconciliationCode := none
  reconciledPaymentId := none
  lastProviderEventId := none
  lastProviderEventAt := none

def sampleDb : OnlineDb where
  checkout := .empty
  stalls := .empty
  intents := {
    table := { rows := [sampleIntent], unique := List.pairwise_singleton _ _ }
    checked := fun row hrow => by
      rw [List.mem_singleton.mp hrow]
      decide +kernel }
  events := .empty

def sampleEvent (number : ℕ) (type : PaymentEventType) (createdAt : Timestamp) (amount : ℤ) :
    ProviderEvent where
  provider := .localMock
  providerEventId := eventIdPrefix ++ hexText 32 number
  providerIntentId := localMockIntentId 1
  eventType := some type
  providerCreatedAt := createdAt
  bodySha256 := hexText 64 number
  orderReference := uuidText 20
  amount := amount
  currency := ['T', 'W', 'D']

theorem sampleIntent_mem : sampleIntent ∈ sampleDb.intents :=
  List.mem_singleton_self _

/-- An authorization, a failure and a capture. -/
def sampleEvents : List ProviderEvent :=
  [sampleEvent 1 .authorized 10 100, sampleEvent 2 .failed 20 100, sampleEvent 3 .captured 15 100]

/-- The capture comes first, and again last. -/
def sampleReordered : List Delivery :=
  deliverAll (sampleEvents.reverse ++ [sampleEvent 3 .captured 15 100])

theorem sample_events_confluent :
    outcome (exec deliver sampleDb (deliverAll sampleEvents)) 1
      = outcome (exec deliver sampleDb sampleReordered) 1 := by
  have hinsensitive : OrderInsensitive sampleIntent (newEvents sampleDb sampleEvents) := by
    decide +kernel
  have hdistinct : (sampleEvents.map (·.providerEventId)).Nodup := by decide +kernel
  have hfor : ∀ event ∈ sampleEvents, event.providerIntentId = sampleIntent.providerIntentId := by
    decide +kernel
  have hmembers : ∀ event, event ∈ sampleEvents.reverse ++ [sampleEvent 3 .captured 15 100]
      ↔ event ∈ sampleEvents := by
    intro event
    rw [List.mem_append, List.mem_reverse, List.mem_singleton]
    constructor
    · rintro (hevent | rfl)
      · exact hevent
      · simp [sampleEvents]
    · exact Or.inl
  exact (events_confluent_iff sampleIntent_mem hdistinct hfor).mpr hinsensitive _ _
    (delivers_deliverAll fun _ => Iff.rfl) (delivers_deliverAll hmembers)

/-- A capture over another amount than the intent, next to the right one. -/
def contradictingEvents : List ProviderEvent :=
  [sampleEvent 1 .captured 10 100, sampleEvent 2 .captured 20 99]

/-- Delivered last, the contradiction stays; delivered first, it is forgotten. -/
theorem contradiction_not_confluent :
    Delivers contradictingEvents (deliverAll contradictingEvents)
      ∧ Delivers contradictingEvents (deliverAll contradictingEvents.reverse)
      ∧ outcome (exec deliver sampleDb (deliverAll contradictingEvents)) 1
        = some (.captured, .mismatch)
      ∧ outcome (exec deliver sampleDb (deliverAll contradictingEvents.reverse)) 1
        = some (.captured, .pending) := by
  refine ⟨delivers_deliverAll fun _ => Iff.rfl, delivers_deliverAll fun _ => List.mem_reverse,
    ?_, ?_⟩
  · decide +kernel
  · decide +kernel

end Stallorder.EventConfluence
