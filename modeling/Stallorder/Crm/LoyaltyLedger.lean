import Stallorder.Core.Parties
import Stallorder.Crm.LoyaltyEvents

/-!
# The integrity of the points ledger

An account stays locked while an entry of it is being inserted, and the unique
indexes make an event wait for one that is not committed.  So the ledger never
holds two entries of an event or two reversals of an entry, and every balance is
right, in all interleavings.  The answers are not: between the lookup of a call
and its later checks the entry of its event may be committed, and then a check
may refuse what should have been replayed.
-/

namespace Stallorder.LoyaltyLedger

open OrderContract SqlText Checks CrmDatabase LoyaltyEvents Parties

/-! ## What is asked of ledgers and answers -/

structure LedgerSound (ledger : Ledger) : Prop where
  onePerEvent : ∀ left ∈ ledger, ∀ right ∈ ledger, left.event = right.event → left = right
  oneReversal : ∀ left ∈ ledger, ∀ right ∈ ledger, left.reversalOfLedgerId.isSome →
    left.reversalOfLedgerId = right.reversalOfLedgerId → left = right
  reversed : ∀ entry ∈ ledger, ∀ id, entry.reversalOfLedgerId = some id →
    ∃ original ∈ ledger, original.id = id ∧ 0 < original.pointsDelta
      ∧ entry.pointsDelta = -original.pointsDelta ∧ entry.accountId = original.accountId
      ∧ entry.orderId = original.orderId

/-- The answer of a call whose last statement turns one ledger into another. -/
structure AnswerSound (ledger ledger' : Ledger) (event : PointsEvent) (answer : EventAnswer) :
    Prop where
  returned : answer ≠ .raised
  repeated : ∀ entry, storedEntry ledger event = some entry → ledger' = ledger
    ∧ if payloadMatches entry event then ∃ balance, answer = .replayed entry balance
      else answer = .conflict
  balanced : ∀ entry balance, answer = .replayed entry balance ∨ answer = .recorded entry balance →
    balance = balanceOf ledger' entry.accountId
  recorded : ∀ entry balance, answer = .recorded entry balance →
    payloadMatches entry event = true ∧ storedEntry ledger' event = some entry
  unchanged : (∀ entry balance, answer ≠ .recorded entry balance) → ledger' = ledger

/-- Every answer that a step gives is sound. -/
def AnswersWell (system : LoyaltySystem) : LoyaltyCommand → Prop
  | .start event => ∀ answer, beginEvent system.db.ledger event = .answered answer →
      AnswerSound system.db.ledger system.db.ledger event answer
  | .advance position id => ∀ call, system.calls[position]? = some call → ∀ db answer,
      nextStage system id call = some (db, .answered answer) →
        AnswerSound system.db.ledger db.ledger call.event answer

/-- The next statement of a call refuses no event that has an entry, and an
insertion has all the columns it must have, of an actor that exists. -/
def AdvancesWell (system : LoyaltySystem) (id : Uuid) (call : LoyaltyCall) : Prop :=
  let stored := (storedEntry system.db.ledger call.event).isSome
  match call.stage with
  | .looking => stored → (accountOf system.db call.event).isSome
  | .locked account => stored → accountChecks system.db account call.event = .ok ()
      ∧ (call.event.type = some .reverse →
        (originalEntry system.db.ledger call.event).any (reverses call.event) = true)
  | .matched => stored → reversalStored system.db.ledger call.event = false
  | .checked => ∀ result, insertion system id call.event = result →
      result ≠ .malformed ∧ result ≠ .actorMissing
  | _ => True

def StepsWell (system : LoyaltySystem) : LoyaltyCommand → Prop
  | .start event => (storedEntry system.db.ledger event).isSome →
      event.enabled = true ∧ inputInvalid event = false
  | .advance position id => ∀ call, system.calls[position]? = some call →
      AdvancesWell system id call

/-! ## Entries and their indexes -/

theorem collides_iff {left right : LedgerEntry} : Indexed.collides left right = true ↔
    left.id = right.id ∨ left.event = right.event
      ∨ ∃ id, left.reversalOfLedgerId = some id ∧ right.reversalOfLedgerId = some id := by
  refine Indexed.collides_addUnique_iff.trans ?_
  rw [Indexed.collides_addUnique_iff, or_assoc]
  apply or_congr
  · exact decide_eq_true_iff
  · apply or_congr
    · constructor
      · rintro ⟨value, hleft, hright⟩
        exact Option.some.inj (hleft.trans hright.symm)
      · intro hsame
        exact ⟨left.event, rfl, congrArg some hsame.symm⟩
    · exact Iff.rfl

theorem eq_of_event_eq {ledger : Ledger} {left right : LedgerEntry} (hleft : left ∈ ledger)
    (hright : right ∈ ledger) (hevent : left.event = right.event) : left = right :=
  CheckedTable.eq_of_collides hleft hright (collides_iff.mpr (Or.inr (Or.inl hevent)))

theorem storedEntry_eq_some_iff {ledger : Ledger} {event : PointsEvent} {entry : LedgerEntry} :
    storedEntry ledger event = some entry ↔
      entry ∈ ledger ∧ some entry.event = event.sourceEvent := by
  constructor
  · intro hstored
    obtain ⟨hmem, hevent⟩ := CheckedTable.mem_of_findFirst hstored
    exact ⟨hmem, of_decide_eq_true hevent⟩
  · rintro ⟨hmem, hevent⟩
    cases hstored : storedEntry ledger event with
    | none =>
        have hnone := List.find?_eq_none.mp hstored entry hmem
        exact absurd (decide_eq_true hevent) hnone
    | some found =>
        obtain ⟨hfound, hsame⟩ := CheckedTable.mem_of_findFirst hstored
        have hevents : some found.event = some entry.event :=
          (of_decide_eq_true hsame).trans hevent.symm
        rw [eq_of_event_eq hfound hmem (Option.some.inj hevents)]

theorem newEntry_eq_some {id : Uuid} {event : PointsEvent} {entry : LedgerEntry}
    (hnew : newEntry id event = some entry) :
    entry.id = id ∧ some entry.event = event.sourceEvent ∧ some entry.accountId = event.accountId
      ∧ event.type = some entry.entryType ∧ event.pointsDelta = some entry.pointsDelta
      ∧ entry.orderId = event.orderId ∧ entry.reversalOfLedgerId = event.reversalOfLedgerId
      ∧ entry.actorProfileId = event.actorProfileId := by
  unfold newEntry at hnew
  obtain ⟨accountId, haccount, hnew⟩ := Option.bind_eq_some_iff.mp hnew
  obtain ⟨entryType, htype, hnew⟩ := Option.bind_eq_some_iff.mp hnew
  obtain ⟨delta, hdelta, hnew⟩ := Option.bind_eq_some_iff.mp hnew
  obtain ⟨sourceType, hsource, hnew⟩ := Option.bind_eq_some_iff.mp hnew
  cases hnew
  refine ⟨rfl, ?_, haccount.symm, htype, hdelta, rfl, rfl, rfl⟩
  rw [PointsEvent.sourceEvent, hsource]
  rfl

theorem entryTypeText_of_type {event : PointsEvent} {type : EntryType}
    (htype : event.type = some type) : event.entryType = some (entryTypeText type) := by
  obtain ⟨text, htext, hof⟩ := Option.bind_eq_some_iff.mp htype
  unfold entryTypeOf at hof
  have hsame := List.find?_some hof
  rw [htext, of_decide_eq_true hsame]

theorem payloadMatches_of_newEntry {id : Uuid} {event : PointsEvent} {entry : LedgerEntry}
    (hnew : newEntry id event = some entry) : payloadMatches entry event = true := by
  obtain ⟨-, -, haccount, htype, hdelta, horder, hreversal, hactor⟩ := newEntry_eq_some hnew
  simp only [payloadMatches, haccount, entryTypeText_of_type htype, hdelta, horder, hreversal,
    hactor, decide_true, Bool.and_self]

/-! ## What a call has established -/

/-- The entry that the event reverses is stored and fits. -/
def Backed (ledger : Ledger) (event : PointsEvent) : Prop :=
  ∀ id, event.reversalOfLedgerId = some id → ∃ original ∈ ledger, original.id = id
    ∧ 0 < original.pointsDelta ∧ event.delta = -original.pointsDelta
    ∧ event.accountId = some original.accountId ∧ event.orderId = original.orderId

structure Admitted (ledger : Ledger) (event : PointsEvent) : Prop where
  valid : inputInvalid event = false
  typed : typeChecks event = .ok ()
  backed : Backed ledger event

structure Writes (ledger : Ledger) (event : PointsEvent) (entry : LedgerEntry) : Prop where
  row : newEntry entry.id event = some entry
  passes : entryCheck entry = true
  free : ∀ stored ∈ ledger, ¬ Indexed.collides stored entry = true
  backed : Backed ledger event

def StageSound (ledger : Ledger) (event : PointsEvent) : Stage → Prop
  | .looking | .locked _ => inputInvalid event = false
  | .matched | .checked => Admitted ledger event
  | .inserted entry => Writes ledger event entry
  | .totalled entry balance => Writes ledger event entry
      ∧ balance = balanceOf ledger entry.accountId + entry.pointsDelta
  | .replaying entry => storedEntry ledger event = some entry ∧ payloadMatches entry event = true
  | .violated | .answered _ => True

/-- Two calls neither hold one account nor insert entries that collide. -/
def Apart (left right : LoyaltyCall) : Prop :=
  (left.stage.locksAccount = true → right.stage.locksAccount = true →
      left.event.accountId ≠ right.event.accountId)
    ∧ ∀ one other, left.stage.pending = some one → right.stage.pending = some other →
      ¬ Indexed.collides one other = true

theorem apart_symm {left right : LoyaltyCall} (hapart : Apart left right) : Apart right left := by
  constructor
  · intro hright hleft hsame
    exact hapart.1 hleft hright hsame.symm
  · intro one other hone hother hcollides
    exact hapart.2 other one hother hone (Indexed.collides_symm hcollides)

structure Consistent (system : LoyaltySystem) : Prop where
  reversed : ∀ entry ∈ system.db.ledger, ∀ id, entry.reversalOfLedgerId = some id →
    ∃ original ∈ system.db.ledger, original.id = id ∧ 0 < original.pointsDelta
      ∧ entry.pointsDelta = -original.pointsDelta ∧ entry.accountId = original.accountId
      ∧ entry.orderId = original.orderId
  stages : ∀ (position : ℕ) call, system.calls[position]? = some call →
    StageSound system.db.ledger call.event call.stage
  apart : EachApart Apart system.calls

theorem Consistent.ledgerSound {system : LoyaltySystem} (hconsistent : Consistent system) :
    LedgerSound system.db.ledger where
  onePerEvent _ hleft _ hright hevent := eq_of_event_eq hleft hright hevent
  oneReversal left hleft right hright hsome hsame := by
    obtain ⟨id, hid⟩ := Option.isSome_iff_exists.mp hsome
    exact CheckedTable.eq_of_collides hleft hright
      (collides_iff.mpr (Or.inr (Or.inr ⟨id, hid, hsame ▸ hid⟩)))
  reversed := hconsistent.reversed

/-! ## A larger ledger -/

section Insertion

variable {ledger ledger' : Ledger} {entry : LedgerEntry} {event : PointsEvent}

theorem mem_after (hinsert : ledger.insert? entry = some ledger') {stored : LedgerEntry}
    (hstored : stored ∈ ledger) : stored ∈ ledger' :=
  (CheckedTable.mem_of_insert? hinsert).mpr (Or.inl hstored)

theorem backed_after (hinsert : ledger.insert? entry = some ledger')
    (hbacked : Backed ledger event) : Backed ledger' event := by
  intro id hid
  obtain ⟨original, hmem, hfits⟩ := hbacked id hid
  exact ⟨original, mem_after hinsert hmem, hfits⟩

theorem balanceOf_after (hinsert : ledger.insert? entry = some ledger') (accountId : Uuid) :
    balanceOf ledger' accountId = balanceOf ledger accountId
      + if entry.accountId = accountId then entry.pointsDelta else 0 :=
  CheckedTable.total_insert? _ hinsert

theorem writes_after {own : LedgerEntry} (hinsert : ledger.insert? entry = some ledger')
    (hapart : ¬ Indexed.collides entry own = true) (hwrites : Writes ledger event own) :
    Writes ledger' event own where
  row := hwrites.row
  passes := hwrites.passes
  free stored hstored := by
    rcases (CheckedTable.mem_of_insert? hinsert).mp hstored with hbefore | rfl
    · exact hwrites.free stored hbefore
    · exact hapart
  backed := backed_after hinsert hwrites.backed

/-- What a call has established lasts while another commits its entry. -/
theorem stageSound_after {stage : Stage} (hinsert : ledger.insert? entry = some ledger')
    (hlocks : stage.locksAccount = true → event.accountId ≠ some entry.accountId)
    (hpending : ∀ own, stage.pending = some own → ¬ Indexed.collides entry own = true)
    (hsound : StageSound ledger event stage) : StageSound ledger' event stage := by
  cases stage with
  | looking => exact hsound
  | locked account => exact hsound
  | matched => exact ⟨hsound.valid, hsound.typed, backed_after hinsert hsound.backed⟩
  | checked => exact ⟨hsound.valid, hsound.typed, backed_after hinsert hsound.backed⟩
  | inserted own => exact writes_after hinsert (hpending own rfl) hsound
  | totalled own balance =>
      obtain ⟨hwrites, hbalance⟩ := hsound
      have haccount : entry.accountId ≠ own.accountId := by
        intro hsame
        apply hlocks rfl
        rw [hsame]
        exact (newEntry_eq_some hwrites.row).2.2.1.symm
      refine ⟨writes_after hinsert (hpending own rfl) hwrites, ?_⟩
      rw [balanceOf_after hinsert, if_neg haccount, add_zero]
      exact hbalance
  | violated => trivial
  | replaying found =>
      obtain ⟨hstored, hmatches⟩ := hsound
      obtain ⟨hmem, hevent⟩ := storedEntry_eq_some_iff.mp hstored
      exact ⟨storedEntry_eq_some_iff.mpr ⟨mem_after hinsert hmem, hevent⟩, hmatches⟩
  | answered answer => trivial

end Insertion

/-! ## The statements of a call -/

section Statements

variable {system : LoyaltySystem} {event : PointsEvent} {stage : Stage} {id : Uuid}

theorem reversalOf_none_of_typeChecks (htyped : typeChecks event = .ok ())
    (htype : event.type ≠ some .reverse) : event.reversalOfLedgerId = none := by
  rw [← Option.not_isSome_iff_eq_none]
  unfold typeChecks at htyped
  intro hsome
  split at htyped
  · rw [failWhen_eq_ok, hsome, Bool.or_true] at htyped
    cases htyped
  · rw [failWhen_eq_ok, hsome, Bool.true_or] at htyped
    cases htyped
  · rw [failWhen_eq_ok, hsome, Bool.or_true] at htyped
    cases htyped
  · next hreverse => exact htype hreverse
  · rw [failWhen_eq_ok, hsome] at htyped
    cases htyped

/-- The check constraints of the ledger refuse nothing that was admitted. -/
theorem entryCheck_of_admitted {ledger : Ledger} {entry : LedgerEntry}
    (hadmitted : Admitted ledger event) (hnew : newEntry id event = some entry) :
    entryCheck entry = true := by
  obtain ⟨-, hevent, -, htype, hdelta, -, hreversal, -⟩ := newEntry_eq_some hnew
  have hvalid := hadmitted.valid
  have htyped := hadmitted.typed
  obtain ⟨sourceType, hsource, hsame⟩ := Option.map_eq_some_iff.mp hevent.symm
  obtain ⟨-, hsourceType, hsourceId⟩ : event.scope = entry.scope
      ∧ sourceType = entry.sourceEventType ∧ event.sourceEventIdTrimmed = entry.sourceEventId := by
    simpa [LedgerEntry.event] using hsame
  simp only [inputInvalid, hsource, hdelta, Bool.or_eq_false_iff, Option.any_some, Option.all_some,
    Bool.not_eq_false', decide_eq_false_iff_not] at hvalid
  have hcode : codeText 1 79 entry.sourceEventType = true := hsourceType ▸ hvalid.1.1.2
  have hlength : trimmedLength entry.sourceEventId 1 160 = true := by
    rw [← hsourceId, PointsEvent.sourceEventIdTrimmed, trimmedLength_btrim]
    exact hvalid.1.2
  have hamount : event.delta = entry.pointsDelta := by
    rw [PointsEvent.delta, hdelta, Option.getD_some]
  have hdeltas : deltaCheck entry = true := by
    unfold deltaCheck
    unfold typeChecks at htyped
    rw [htype, hamount, ← hreversal] at htyped
    cases htypes : entry.entryType <;> rw [htypes] at htyped
    case earn =>
      simp only [failWhen_eq_ok, Bool.or_eq_false_iff, decide_eq_false_iff_not, not_le] at htyped
      simpa [htyped.1.1] using htyped.2
    case adjust =>
      simp only [failWhen_eq_ok, Bool.or_eq_false_iff] at htyped
      simpa [hvalid.1.1.1.2.1] using htyped.1
    case expire =>
      simp only [failWhen_eq_ok, Bool.or_eq_false_iff, decide_eq_false_iff_not, not_le] at htyped
      simpa [htyped.1] using htyped.2
    case reverse =>
      simp only [failWhen_eq_ok, Bool.or_eq_false_iff, decide_eq_false_iff_not, not_le] at htyped
      simpa [htyped.1, Option.isSome_iff_ne_none] using htyped.2
  rw [entryCheck, hdeltas, hcode, hlength]
  rfl

theorem stageSound_answerStored {ledger : Ledger} {entry : LedgerEntry}
    (hstored : storedEntry ledger event = some entry) :
    StageSound ledger event (answerStored event entry) := by
  unfold answerStored
  by_cases hmatches : payloadMatches entry event = true
  · rw [if_pos hmatches]
    exact ⟨hstored, hmatches⟩
  · rw [if_neg hmatches]
    trivial

theorem idle_answerStored (event : PointsEvent) (entry : LedgerEntry) :
    (answerStored event entry).locksAccount = false ∧ (answerStored event entry).pending = none := by
  unfold answerStored
  split <;> exact ⟨rfl, rfl⟩

theorem stageSound_beginEvent (ledger : Ledger) (event : PointsEvent) :
    StageSound ledger event (beginEvent ledger event) := by
  unfold beginEvent
  by_cases henabled : (!event.enabled) = true
  · rw [if_pos henabled]
    trivial
  · rw [if_neg henabled]
    by_cases hinvalid : inputInvalid event = true
    · rw [if_pos hinvalid]
      trivial
    · rw [if_neg hinvalid]
      cases hstored : storedEntry ledger event with
      | some entry => exact stageSound_answerStored hstored
      | none => exact Bool.eq_false_iff.mpr hinvalid

theorem idle_beginEvent (ledger : Ledger) (event : PointsEvent) :
    (beginEvent ledger event).locksAccount = false
      ∧ (beginEvent ledger event).pending = none := by
  unfold beginEvent
  split
  · exact ⟨rfl, rfl⟩
  · split
    · exact ⟨rfl, rfl⟩
    · split
      · exact idle_answerStored event _
      · exact ⟨rfl, rfl⟩

theorem lockAccount_eq_some (hlock : lockAccount system event = some stage) :
    (accountOf system.db event = none ∧ stage = .answered (.refused .accountNotFound))
      ∨ ∃ account, accountOf system.db event = some account ∧ stage = .locked account
        ∧ ∀ other ∈ system.calls, other.stage.locksAccount = true →
          other.event.accountId ≠ event.accountId := by
  unfold lockAccount at hlock
  cases haccount : accountOf system.db event with
  | none =>
      rw [haccount] at hlock
      cases hlock
      exact Or.inl ⟨rfl, rfl⟩
  | some account =>
      rw [haccount] at hlock
      change (if accountLocked system.calls account then none else some _) = _ at hlock
      by_cases hlocked : accountLocked system.calls account = true
      · rw [if_pos hlocked] at hlock
        cases hlock
      · rw [if_neg hlocked] at hlock
        cases hlock
        obtain ⟨-, hids⟩ := CheckedTable.mem_of_findFirst haccount
        rw [Bool.and_eq_true, decide_eq_true_eq] at hids
        refine Or.inr ⟨account, rfl, rfl, fun other hother hlocks hsame => hlocked ?_⟩
        refine List.any_eq_true.mpr ⟨other, hother, ?_⟩
        rw [hlocks, Bool.true_and, decide_eq_true_eq, hsame, hids.1]

theorem accountChecks_eq_ok {db : CrmDb} {account : LoyaltyAccount}
    (hchecks : accountChecks db account event = .ok ()) : typeChecks event = .ok () := by
  obtain ⟨-, -, hchecks⟩ := bind_eq_ok.mp hchecks
  obtain ⟨-, -, hchecks⟩ := bind_eq_ok.mp hchecks
  exact hchecks

theorem backed_of_originalEntry {ledger : Ledger}
    (horiginal : (originalEntry ledger event).any (reverses event) = true) :
    Backed ledger event := by
  intro id hid
  cases hfound : originalEntry ledger event with
  | none =>
      rw [hfound] at horiginal
      cases horiginal
  | some original =>
      rw [hfound, Option.any_some, reverses, Bool.and_eq_true, decide_eq_true_eq,
        decide_eq_true_eq] at horiginal
      obtain ⟨hmem, hfits⟩ := CheckedTable.mem_of_findFirst hfound
      simp only [Bool.and_eq_true, decide_eq_true_eq, hid] at hfits
      exact ⟨original, hmem, Option.some.inj hfits.1.1.1, hfits.2, horiginal.1, hfits.1.2.symm,
        horiginal.2⟩

theorem checkEvent_cases (db : CrmDb) (account : LoyaltyAccount) (event : PointsEvent) :
    (∃ code, checkEvent db account event = .answered (.refused code))
      ∨ (checkEvent db account event = .matched ∨ checkEvent db account event = .checked)
        ∧ typeChecks event = .ok () ∧ Backed db.ledger event := by
  unfold checkEvent
  cases hchecks : accountChecks db account event with
  | error code => exact Or.inl ⟨code, rfl⟩
  | ok done =>
      have htyped := accountChecks_eq_ok hchecks
      by_cases htype : event.type = some .reverse
      · rw [if_pos htype]
        by_cases horiginal : (originalEntry db.ledger event).any (reverses event) = true
        · rw [if_pos horiginal]
          exact Or.inr ⟨Or.inl rfl, htyped, backed_of_originalEntry horiginal⟩
        · rw [if_neg horiginal]
          exact Or.inl ⟨_, rfl⟩
      · rw [if_neg htype]
        refine Or.inr ⟨Or.inr rfl, htyped, fun id hid => ?_⟩
        rw [reversalOf_none_of_typeChecks htyped htype] at hid
        cases hid

theorem insertion_eq_inserts {entry : LedgerEntry}
    (hinsertion : insertion system id event = .inserts entry) :
    newEntry id event = some entry ∧ entryCheck entry = true
      ∧ (∀ other ∈ pendingEntries system.calls, ¬ Indexed.collides other entry = true)
      ∧ ∀ stored ∈ system.db.ledger, ¬ Indexed.collides stored entry = true := by
  unfold insertion at hinsertion
  cases hnew : newEntry id event with
  | none =>
      rw [hnew] at hinsertion
      cases hinsertion
  | some row =>
      rw [hnew] at hinsertion
      simp only at hinsertion
      by_cases hpasses : (!entryCheck row) = true
      · rw [if_pos hpasses] at hinsertion
        cases hinsertion
      rw [if_neg hpasses] at hinsertion
      by_cases hstale : (system.db.ledger.table.rows ++ pendingEntries system.calls).any
          (·.id = id) = true
      · rw [if_pos hstale] at hinsertion
        cases hinsertion
      rw [if_neg hstale] at hinsertion
      by_cases hpending : (pendingEntries system.calls).any (Indexed.collides · row) = true
      · rw [if_pos hpending] at hinsertion
        cases hinsertion
      rw [if_neg hpending] at hinsertion
      by_cases hfree : system.db.ledger.table.rows.any (Indexed.collides · row) = true
      · rw [if_pos hfree] at hinsertion
        cases hinsertion
      rw [if_neg hfree] at hinsertion
      by_cases hactor : row.actorProfileId.any (· ∉ system.db.actors) = true
      · rw [if_pos hactor] at hinsertion
        cases hinsertion
      rw [if_neg hactor] at hinsertion
      cases hinsertion
      refine ⟨rfl, by simpa using hpasses, fun other hother hcollides => ?_,
        fun stored hstored hcollides => ?_⟩
      · exact hpending (List.any_eq_true.mpr ⟨other, hother, hcollides⟩)
      · exact hfree (List.any_eq_true.mpr ⟨stored, hstored, hcollides⟩)

theorem insertEntry_eq_some (hinsert : insertEntry system id event = some stage) :
    stage = .answered .raised ∨ stage = .violated
      ∨ ∃ entry, stage = .inserted entry ∧ insertion system id event = .inserts entry := by
  unfold insertEntry at hinsert
  cases hinsertion : insertion system id event with
  | malformed =>
      rw [hinsertion] at hinsert
      exact Or.inl (Option.some.inj hinsert).symm
  | actorMissing =>
      rw [hinsertion] at hinsert
      exact Or.inl (Option.some.inj hinsert).symm
  | staleId =>
      rw [hinsertion] at hinsert
      cases hinsert
  | waits =>
      rw [hinsertion] at hinsert
      cases hinsert
  | violates =>
      rw [hinsertion] at hinsert
      exact Or.inr (Or.inl (Option.some.inj hinsert).symm)
  | inserts entry =>
      rw [hinsertion] at hinsert
      exact Or.inr (Or.inr ⟨entry, (Option.some.inj hinsert).symm, rfl⟩)

theorem commitEntry_eq_some {db db' : CrmDb} {entry : LedgerEntry} {balance : ℤ}
    (hcommit : commitEntry db entry balance = some (db', stage)) :
    stage = .answered (.recorded entry balance) ∧ db.ledger.insert? entry = some db'.ledger := by
  obtain ⟨ledger, hinsert, hdone⟩ := Option.bind_eq_some_iff.mp hcommit
  cases hdone
  exact ⟨rfl, hinsert⟩

end Statements

/-! ## The steps of the system -/

section Steps

variable {system : LoyaltySystem} {call : LoyaltyCall} {position : ℕ} {id : Uuid} {db' : CrmDb}
  {stage' : Stage}

/-- What a statement of a call establishes for the call and leaves to the others. -/
structure Advances (system : LoyaltySystem) (call : LoyaltyCall) (db' : CrmDb) (stage' : Stage) :
    Prop where
  sound : StageSound db'.ledger call.event stage'
  locks : stage'.locksAccount = true → call.stage.locksAccount = true
    ∨ ∀ other ∈ system.calls, other.stage.locksAccount = true →
      other.event.accountId ≠ call.event.accountId
  pending : ∀ own, stage'.pending = some own → call.stage.pending = some own
    ∨ ∀ other ∈ pendingEntries system.calls, ¬ Indexed.collides other own = true
  ledger : db'.ledger = system.db.ledger ∨ ∃ entry balance, call.stage = .totalled entry balance
    ∧ system.db.ledger.insert? entry = some db'.ledger

/-- A statement that writes nothing and after which the call holds nothing. -/
theorem advances_of_idle (hsound : StageSound system.db.ledger call.event stage')
    (hlocks : stage'.locksAccount = false) (hpending : stage'.pending = none) :
    Advances system call system.db stage' where
  sound := hsound
  locks hlocked := by
    rw [hlocks] at hlocked
    cases hlocked
  pending own hown := by
    rw [hpending] at hown
    cases hown
  ledger := Or.inl rfl

/-- A statement of a call that keeps its account and inserts nothing. -/
theorem advances_of_locked (hlocked : call.stage.locksAccount = true)
    (hsound : StageSound system.db.ledger call.event stage') (hpending : stage'.pending = none) :
    Advances system call system.db stage' where
  sound := hsound
  locks _ := Or.inl hlocked
  pending own hown := by
    rw [hpending] at hown
    cases hown
  ledger := Or.inl rfl

theorem nextStage_advances (hconsistent : Consistent system)
    (hcall : system.calls[position]? = some call)
    (hnext : nextStage system id call = some (db', stage')) :
    Advances system call db' stage' := by
  have hsound := hconsistent.stages position call hcall
  unfold nextStage at hnext
  cases hstage : call.stage with
  | looking =>
      rw [hstage] at hnext hsound
      obtain ⟨stage, hlock, hsame⟩ := Option.map_eq_some_iff.mp hnext
      cases hsame
      rcases lockAccount_eq_some hlock with ⟨-, rfl⟩ | ⟨account, -, rfl, hfree⟩
      · exact advances_of_idle trivial rfl rfl
      · exact ⟨hsound, fun _ => Or.inr hfree, fun own hown => (nomatch hown), Or.inl rfl⟩
  | locked account =>
      rw [hstage] at hnext hsound
      cases hnext
      have hlocked : call.stage.locksAccount = true := by rw [hstage]; rfl
      rcases checkEvent_cases system.db account call.event with
        ⟨code, hrefused⟩ | ⟨hmatched | hchecked, htyped, hbacked⟩
      · rw [hrefused]
        exact advances_of_idle trivial rfl rfl
      · rw [hmatched]
        exact advances_of_locked hlocked ⟨hsound, htyped, hbacked⟩ rfl
      · rw [hchecked]
        exact advances_of_locked hlocked ⟨hsound, htyped, hbacked⟩ rfl
  | matched =>
      rw [hstage] at hnext hsound
      cases hnext
      unfold checkReversal
      by_cases hreversal : reversalStored system.db.ledger call.event = true
      · rw [if_pos hreversal]
        exact advances_of_idle trivial rfl rfl
      · rw [if_neg hreversal]
        exact advances_of_locked (by rw [hstage]; rfl) hsound rfl
  | checked =>
      rw [hstage] at hnext hsound
      obtain ⟨stage, hinsert, hsame⟩ := Option.map_eq_some_iff.mp hnext
      cases hsame
      rcases insertEntry_eq_some hinsert with rfl | rfl | ⟨entry, rfl, hinsertion⟩
      · exact advances_of_idle trivial rfl rfl
      · exact advances_of_idle trivial rfl rfl
      · obtain ⟨hnew, hpasses, hpending, hfree⟩ := insertion_eq_inserts hinsertion
        have hid : entry.id = id := (newEntry_eq_some hnew).1
        refine ⟨⟨hid.symm ▸ hnew, hpasses, hfree, hsound.backed⟩, fun _ => Or.inl ?_,
          fun own hown => Or.inr ?_, Or.inl rfl⟩
        · rw [hstage]
          rfl
        · cases hown
          exact hpending
  | inserted entry =>
      rw [hstage] at hnext hsound
      cases hnext
      refine ⟨⟨hsound, rfl⟩, fun _ => Or.inl ?_, fun own hown => Or.inl ?_, Or.inl rfl⟩
      · rw [hstage]
        rfl
      · rw [hstage]
        exact hown
  | totalled entry balance =>
      rw [hstage] at hnext
      obtain ⟨rfl, hinsert⟩ := commitEntry_eq_some hnext
      exact ⟨trivial, fun hlocks => (nomatch hlocks), fun own hown => (nomatch hown),
        Or.inr ⟨entry, balance, hstage, hinsert⟩⟩
  | violated =>
      rw [hstage] at hnext
      cases hnext
      unfold handleViolation
      cases hstored : storedEntry system.db.ledger call.event with
      | some entry =>
          obtain ⟨hlocks, hpending⟩ := idle_answerStored call.event entry
          exact advances_of_idle (stageSound_answerStored hstored) hlocks hpending
      | none => exact advances_of_idle trivial rfl rfl
  | replaying entry =>
      rw [hstage] at hnext
      cases hnext
      exact advances_of_idle trivial rfl rfl
  | answered answer =>
      rw [hstage] at hnext
      cases hnext

theorem consistent_opened (db : CrmDb) : Consistent (.opened db) where
  reversed entry hentry := absurd hentry (CheckedTable.notMem_empty entry)
  stages position call hcall := by
    change ([] : List LoyaltyCall)[position]? = some call at hcall
    rw [List.getElem?_nil] at hcall
    cases hcall
  apart := eachApart_nil

theorem reversed_of_insert {ledger ledger' : Ledger} {event : PointsEvent} {entry : LedgerEntry}
    (hwrites : Writes ledger event entry) (hinsert : ledger.insert? entry = some ledger')
    {reversedId : Uuid} (hreversal : entry.reversalOfLedgerId = some reversedId) :
    ∃ original ∈ ledger', original.id = reversedId ∧ 0 < original.pointsDelta
      ∧ entry.pointsDelta = -original.pointsDelta ∧ entry.accountId = original.accountId
      ∧ entry.orderId = original.orderId := by
  obtain ⟨-, -, haccount, -, hdelta, horder, hsame, -⟩ := newEntry_eq_some hwrites.row
  obtain ⟨original, hmem, hid, hpositive, hopposite, horiginalAccount, horiginalOrder⟩ :=
    hwrites.backed reversedId (hsame ▸ hreversal)
  refine ⟨original, mem_after hinsert hmem, hid, hpositive, ?_, ?_, ?_⟩
  · rw [← hopposite, PointsEvent.delta, hdelta, Option.getD_some]
  · exact Option.some.inj (haccount.trans horiginalAccount)
  · rw [horder, horiginalOrder]

theorem apart_of_advances (hapart : EachApart Apart system.calls)
    (hcall : system.calls[position]? = some call) (hadvances : Advances system call db' stage') :
    ApartFromOthers Apart system.calls position { call with stage := stage' } := by
  intro index other hne hother
  have hmem : other ∈ system.calls := List.mem_of_getElem? hother
  have hbefore := hapart index position other call hne hother hcall
  constructor
  · intro hothers hlocks
    rcases hadvances.locks hlocks with hlocked | hfree
    · exact hbefore.1 hothers hlocked
    · exact hfree other hmem hothers
  · intro one own hone hown
    rcases hadvances.pending own hown with hpending | hfree
    · exact hbefore.2 one own hone hpending
    · exact hfree one (List.mem_filterMap.mpr ⟨other, hmem, hone⟩)

theorem consistent_advance (hconsistent : Consistent system)
    (hcall : system.calls[position]? = some call) (hadvances : Advances system call db' stage') :
    Consistent { db := db', calls := system.calls.set position { call with stage := stage' } } where
  reversed := by
    rcases hadvances.ledger with hsame | ⟨entry, balance, hstage, hinsert⟩
    · change ∀ entry ∈ db'.ledger, _
      rw [hsame]
      exact hconsistent.reversed
    · have hwrites := hconsistent.stages position call hcall
      rw [hstage] at hwrites
      intro stored hstored reversedId hid
      rcases (CheckedTable.mem_of_insert? hinsert).mp hstored with hbefore | rfl
      · obtain ⟨original, hmem, hfits⟩ := hconsistent.reversed stored hbefore reversedId hid
        exact ⟨original, mem_after hinsert hmem, hfits⟩
      · exact reversed_of_insert hwrites.1 hinsert hid
  stages := by
    apply forall_getElem?_set
    · intro index other hne hother
      have hsound := hconsistent.stages index other hother
      rcases hadvances.ledger with hsame | ⟨entry, balance, hstage, hinsert⟩
      · change StageSound db'.ledger _ _
        rw [hsame]
        exact hsound
      · have hapart := hconsistent.apart index position other call hne hother hcall
        have hwrites := hconsistent.stages position call hcall
        rw [hstage] at hwrites
        apply stageSound_after hinsert
        · intro hlocks hsame
          apply hapart.1 hlocks (by rw [hstage]; rfl)
          rw [hsame]
          exact (newEntry_eq_some hwrites.1.row).2.2.1
        · intro own hown hcollides
          exact hapart.2 own entry hown (by rw [hstage]; rfl) (Indexed.collides_symm hcollides)
        · exact hsound
    · exact hadvances.sound
  apart := eachApart_set (fun _ _ => apart_symm) hconsistent.apart
    (apart_of_advances hconsistent.apart hcall hadvances)

theorem consistent_start (hconsistent : Consistent system) (event : PointsEvent) :
    Consistent (loyaltyStep system (.start event)) where
  reversed := hconsistent.reversed
  stages position call hcall := by
    have hmem : call ∈ system.calls ++ [⟨event, beginEvent system.db.ledger event⟩] :=
      List.mem_of_getElem? hcall
    rcases List.mem_append.mp hmem with hbefore | hnew
    · obtain ⟨index, hindex⟩ := List.mem_iff_getElem?.mp hbefore
      exact hconsistent.stages index call hindex
    · rw [List.mem_singleton] at hnew
      subst hnew
      exact stageSound_beginEvent system.db.ledger event
  apart := by
    apply eachApart_append (fun _ _ => apart_symm) hconsistent.apart
    intro other _
    obtain ⟨hlocks, hpending⟩ := idle_beginEvent system.db.ledger event
    constructor
    · intro _ hlocked
      rw [hlocks] at hlocked
      cases hlocked
    · intro one own _ hown
      rw [hpending] at hown
      cases hown

theorem consistent_step (hconsistent : Consistent system) (command : LoyaltyCommand) :
    Consistent (loyaltyStep system command) := by
  cases command with
  | start event => exact consistent_start hconsistent event
  | advance position id =>
      cases hcall : system.calls[position]? with
      | none =>
          simp only [loyaltyStep, hcall]
          exact hconsistent
      | some call =>
          rcases hnext : nextStage system id call with _ | ⟨db', stage'⟩
          · simp only [loyaltyStep, hcall, hnext]
            exact hconsistent
          · simp only [loyaltyStep, hcall, hnext]
            exact consistent_advance hconsistent hcall (nextStage_advances hconsistent hcall hnext)

end Steps

/-! ## The answers -/

section Answers

variable {system : LoyaltySystem} {call : LoyaltyCall} {position : ℕ} {id : Uuid}
  {ledger : Ledger} {event : PointsEvent}

/-- A refusal is sound for an event that has no entry. -/
theorem answerSound_refused_iff {code : EventRefusal} :
    AnswerSound ledger ledger event (.refused code) ↔ storedEntry ledger event = none := by
  constructor
  · intro hsound
    cases hstored : storedEntry ledger event with
    | none => rfl
    | some entry =>
        have hrepeated := (hsound.repeated entry hstored).2
        split at hrepeated
        · obtain ⟨_, hreplayed⟩ := hrepeated
          cases hreplayed
        · cases hrepeated
  · intro hnone
    refine ⟨by simp, fun entry hstored => ?_, fun _ _ hreported => ?_, by simp, fun _ => rfl⟩
    · rw [hnone] at hstored
      cases hstored
    · rcases hreported with hreported | hreported <;> cases hreported

theorem answerSound_conflict {entry : LedgerEntry} (hstored : storedEntry ledger event = some entry)
    (hdiffers : ¬ payloadMatches entry event = true) :
    AnswerSound ledger ledger event .conflict := by
  refine ⟨by simp, fun found hfound => ⟨rfl, ?_⟩, fun _ _ hreported => ?_, by simp, fun _ => rfl⟩
  · cases hfound.symm.trans hstored
    rw [if_neg hdiffers]
  · rcases hreported with hreported | hreported <;> cases hreported

theorem answerSound_replayed {entry : LedgerEntry} (hstored : storedEntry ledger event = some entry)
    (hmatches : payloadMatches entry event = true) :
    AnswerSound ledger ledger event (.replayed entry (balanceOf ledger entry.accountId)) := by
  refine ⟨by simp, fun found hfound => ⟨rfl, ?_⟩, fun _ _ hreported => ?_, by simp, fun _ => rfl⟩
  · cases hfound.symm.trans hstored
    rw [if_pos hmatches]
    exact ⟨_, rfl⟩
  · rcases hreported with hreported | hreported
    · cases hreported
      rfl
    · cases hreported

theorem answerSound_recorded {ledger' : Ledger} {entry : LedgerEntry} {balance : ℤ}
    (hwrites : Writes ledger event entry)
    (hbalance : balance = balanceOf ledger entry.accountId + entry.pointsDelta)
    (hinsert : ledger.insert? entry = some ledger') :
    AnswerSound ledger ledger' event (.recorded entry balance) := by
  have hevent : some entry.event = event.sourceEvent := (newEntry_eq_some hwrites.row).2.1
  refine ⟨by simp, fun found hfound => ?_, fun _ _ hreported => ?_, fun _ _ hrecorded => ?_,
    fun hnot => absurd rfl (hnot entry balance)⟩
  · obtain ⟨hmem, hsame⟩ := storedEntry_eq_some_iff.mp hfound
    have hevents : found.event = entry.event := Option.some.inj (hsame.trans hevent.symm)
    exact absurd (collides_iff.mpr (Or.inr (Or.inl hevents))) (hwrites.free found hmem)
  · rcases hreported with hreported | hreported
    · cases hreported
    · cases hreported
      rw [balanceOf_after hinsert, if_pos rfl]
      exact hbalance
  · cases hrecorded
    exact ⟨payloadMatches_of_newEntry hwrites.row, storedEntry_eq_some_iff.mpr
      ⟨(CheckedTable.mem_of_insert? hinsert).mpr (Or.inr rfl), hevent⟩⟩

/-- The answer of a stage, if it is one, is sound. -/
def Answers (ledger : Ledger) (event : PointsEvent) (stage : Stage) : Prop :=
  ∀ answer, stage = .answered answer → AnswerSound ledger ledger event answer

def isAnswered : Stage → Bool
  | .answered _ => true
  | _ => false

theorem answers_of_going {stage : Stage} (hgoing : isAnswered stage = false) :
    Answers ledger event stage := by
  rintro answer rfl
  cases hgoing

theorem answers_refused_iff {code : EventRefusal} :
    Answers ledger event (.answered (.refused code)) ↔ storedEntry ledger event = none := by
  rw [← answerSound_refused_iff]
  constructor
  · intro hanswers
    exact hanswers _ rfl
  · rintro hsound answer ⟨⟩
    exact hsound

theorem answers_answerStored {entry : LedgerEntry}
    (hstored : storedEntry ledger event = some entry) :
    Answers ledger event (answerStored event entry) := by
  unfold answerStored
  by_cases hmatches : payloadMatches entry event = true
  · rw [if_pos hmatches]
    exact answers_of_going rfl
  · rw [if_neg hmatches]
    rintro answer ⟨⟩
    exact answerSound_conflict hstored hmatches

theorem answers_beginEvent_iff : Answers ledger event (beginEvent ledger event) ↔
    ((storedEntry ledger event).isSome → event.enabled = true ∧ inputInvalid event = false) := by
  unfold beginEvent
  by_cases henabled : event.enabled = true
  · rw [if_neg (by simp [henabled])]
    by_cases hinvalid : inputInvalid event = true
    · rw [if_pos hinvalid, answers_refused_iff, hinvalid]
      cases storedEntry ledger event <;> simp
    · rw [if_neg hinvalid]
      have hvalid := Bool.eq_false_iff.mpr hinvalid
      cases hstored : storedEntry ledger event with
      | some entry => exact iff_of_true (answers_answerStored hstored) fun _ => ⟨henabled, hvalid⟩
      | none => exact iff_of_true (answers_of_going rfl) fun _ => ⟨henabled, hvalid⟩
  · rw [if_pos (by simpa using henabled), answers_refused_iff]
    cases storedEntry ledger event <;> simp [henabled]

theorem answers_lockAccount_iff :
    (∀ stage, lockAccount system event = some stage → Answers system.db.ledger event stage) ↔
      ((storedEntry system.db.ledger event).isSome → (accountOf system.db event).isSome) := by
  constructor
  · intro hanswers hstored
    cases haccount : accountOf system.db event with
    | some account => rfl
    | none =>
        have hlock : lockAccount system event = some (.answered (.refused .accountNotFound)) := by
          rw [lockAccount, haccount]
        have hnone := answers_refused_iff.mp (hanswers _ hlock)
        rw [hnone] at hstored
        cases hstored
  · intro hfound stage hlock
    rcases lockAccount_eq_some hlock with ⟨haccount, rfl⟩ | ⟨account, -, rfl, -⟩
    · rw [answers_refused_iff, ← Option.not_isSome_iff_eq_none]
      intro hstored
      have hsome := hfound hstored
      rw [haccount] at hsome
      cases hsome
    · exact answers_of_going rfl

theorem answers_checkEvent_iff {db : CrmDb} {account : LoyaltyAccount} :
    Answers db.ledger event (checkEvent db account event) ↔
      ((storedEntry db.ledger event).isSome → accountChecks db account event = .ok ()
        ∧ (event.type = some .reverse →
          (originalEntry db.ledger event).any (reverses event) = true)) := by
  unfold checkEvent
  cases hchecks : accountChecks db account event with
  | error code =>
      rw [answers_refused_iff]
      cases storedEntry db.ledger event <;> simp
  | ok done =>
      simp only [true_and]
      by_cases htype : event.type = some .reverse
      · rw [if_pos htype]
        by_cases horiginal : (originalEntry db.ledger event).any (reverses event) = true
        · rw [if_pos horiginal]
          exact iff_of_true (answers_of_going rfl) fun _ _ => horiginal
        · rw [if_neg horiginal, answers_refused_iff]
          cases storedEntry db.ledger event <;> simp [htype, horiginal]
      · rw [if_neg htype]
        exact iff_of_true (answers_of_going rfl) fun _ hreverse => absurd hreverse htype

theorem answers_checkReversal_iff : Answers ledger event (checkReversal ledger event) ↔
    ((storedEntry ledger event).isSome → reversalStored ledger event = false) := by
  unfold checkReversal
  by_cases hreversal : reversalStored ledger event = true
  · rw [if_pos hreversal, answers_refused_iff, hreversal]
    cases storedEntry ledger event <;> simp
  · rw [if_neg hreversal]
    exact iff_of_true (answers_of_going rfl) fun _ => Bool.eq_false_iff.mpr hreversal

theorem answers_insertEntry_iff :
    (∀ stage, insertEntry system id event = some stage → Answers system.db.ledger event stage) ↔
      ∀ result, insertion system id event = result → result ≠ .malformed
        ∧ result ≠ .actorMissing := by
  unfold insertEntry
  have hraised : ¬ Answers system.db.ledger event (.answered .raised) :=
    fun hanswers => (hanswers _ rfl).returned rfl
  cases insertion system id event with
  | malformed =>
      exact iff_of_false (fun hanswers => hraised (hanswers _ rfl)) fun hno => (hno _ rfl).1 rfl
  | actorMissing =>
      exact iff_of_false (fun hanswers => hraised (hanswers _ rfl)) fun hno => (hno _ rfl).2 rfl
  | staleId => simp
  | waits => simp
  | violates =>
      refine iff_of_true ?_ (by simp)
      rintro stage ⟨⟩
      exact answers_of_going rfl
  | inserts entry =>
      refine iff_of_true ?_ (by simp)
      rintro stage ⟨⟩
      exact answers_of_going rfl

theorem answers_handleViolation : Answers ledger event (handleViolation ledger event) := by
  unfold handleViolation
  cases hstored : storedEntry ledger event with
  | some entry => exact answers_answerStored hstored
  | none => exact answers_refused_iff.mpr hstored

/-- The answers of a statement that leaves the database as it is. -/
theorem answers_reading_iff (next : Option Stage) :
    (∀ db answer, next.map (system.db, ·) = some (db, .answered answer) →
        AnswerSound system.db.ledger db.ledger event answer) ↔
      ∀ stage, next = some stage → Answers system.db.ledger event stage := by
  constructor
  · rintro hsound stage rfl answer rfl
    exact hsound system.db answer rfl
  · intro hanswers db answer hnext
    obtain ⟨stage, hstage, hsame⟩ := Option.map_eq_some_iff.mp hnext
    cases hsame
    exact hanswers _ hstage answer rfl

theorem answersWell_iff (hconsistent : Consistent system) (command : LoyaltyCommand) :
    AnswersWell system command ↔ StepsWell system command := by
  cases command with
  | start event => exact answers_beginEvent_iff
  | advance position id =>
      refine forall_congr' fun call => forall_congr' fun hcall => ?_
      have hsound := hconsistent.stages position call hcall
      unfold nextStage AdvancesWell
      cases hstage : call.stage with
      | looking => exact (answers_reading_iff _).trans answers_lockAccount_iff
      | locked account =>
          refine Iff.trans (answers_reading_iff (some _)) ?_
          refine Iff.trans ?_ answers_checkEvent_iff
          simp
      | matched =>
          refine Iff.trans (answers_reading_iff (some _)) ?_
          refine Iff.trans ?_ answers_checkReversal_iff
          simp
      | checked => exact (answers_reading_iff _).trans answers_insertEntry_iff
      | inserted entry =>
          refine iff_of_true (fun db answer hnext => ?_) trivial
          obtain ⟨-, hanswer⟩ := Prod.mk.inj (Option.some.inj hnext)
          cases hanswer
      | totalled entry balance =>
          rw [hstage] at hsound
          refine iff_of_true (fun db answer hnext => ?_) trivial
          obtain ⟨hanswer, hinsert⟩ := commitEntry_eq_some hnext
          cases hanswer
          exact answerSound_recorded hsound.1 hsound.2 hinsert
      | violated =>
          refine iff_of_true (fun db answer hnext => ?_) trivial
          obtain ⟨rfl, hanswer⟩ := Prod.mk.inj (Option.some.inj hnext)
          exact answers_handleViolation answer hanswer
      | replaying entry =>
          rw [hstage] at hsound
          refine iff_of_true (fun db answer hnext => ?_) trivial
          cases hnext
          exact answerSound_replayed hsound.1 hsound.2
      | answered answer => exact iff_of_true (by simp) trivial

end Answers

/-- The ledger is sound in every run, and the answers of a run are sound exactly
when its steps refuse no event that has an entry and insert no entry of a missing
type, event type or actor. -/
theorem ledger_integrity (db : CrmDb) (run : List LoyaltyCommand) :
    LedgerSound (Run.exec loyaltyStep (.opened db) run).db.ledger
      ∧ (Run.Safely loyaltyStep AnswersWell (.opened db) run
        ↔ Run.Safely loyaltyStep StepsWell (.opened db) run) := by
  constructor
  · have hconsistent : Consistent (Run.exec loyaltyStep (.opened db) run) :=
      Run.invariant_exec Consistent (fun _ command hconsistent =>
        consistent_step hconsistent command) (consistent_opened db) run
    exact hconsistent.ledgerSound
  · apply Run.safely_congr Consistent
    · intro system command hconsistent
      exact answersWell_iff hconsistent command
    · intro system command hconsistent _
      exact consistent_step hconsistent command
    · exact consistent_opened db

/-! ## Two calls that reverse one entry -/

def sampleScope : CrmScope := ⟨1, 2⟩

def sampleAccount : LoyaltyAccount where
  id := 7
  scope := sampleScope
  profileId := 3
  status := .active
  openedAt := 0
  closedAt := none
  createdAt := 0
  updatedAt := 0

def sampleDb : CrmDb :=
  { CrmDb.opened [sampleScope] [⟨5, sampleScope⟩] [] with
    accounts := (CheckedTable.empty.insert? sampleAccount).getD .empty }

def sampleEvent (entryType sourceEventId : String) (delta : ℤ) (reversalOf : Option Uuid) :
    PointsEvent where
  enabled := true
  scope := sampleScope
  accountId := some 7
  entryType := some entryType.toList
  pointsDelta := some delta
  orderId := some 5
  sourceEventType := some "ORDER".toList
  sourceEventId := some sourceEventId.toList
  reversalOfLedgerId := reversalOf
  actorProfileId := none
  requestId := some "request".toList
  now := 0

/-- Two calls look up the reversal of an entry before either is stored; the first
commits, and the second has found the entry to reverse. -/
def reversedOnce : List LoyaltyCommand :=
  .start (sampleEvent "EARN" "paid" 10 none) :: List.replicate 5 (.advance 0 20)
    ++ [.start (sampleEvent "REVERSE" "refunded" (-10) (some 20)),
      .start (sampleEvent "REVERSE" "refunded" (-10) (some 20))]
    ++ List.replicate 6 (.advance 1 21) ++ List.replicate 2 (.advance 2 22)

/-- A call that has found its original, which its own event has reversed. -/
def repeatsReversal (system : LoyaltySystem) (position : ℕ) : Bool :=
  system.calls[position]?.any fun call => call.stage = .matched
    && (storedEntry system.db.ledger call.event).isSome
    && reversalStored system.db.ledger call.event

/-- The second call is refused as a reversal of what is reversed already. -/
theorem repeated_reversal_refused :
    ¬ Run.Safely loyaltyStep AnswersWell (.opened sampleDb)
      (reversedOnce ++ [.advance 2 22]) := by
  intro hsafe
  have hlast := (Run.safely_append.mp hsafe).2.1
  have hconsistent : Consistent (Run.exec loyaltyStep (.opened sampleDb) reversedOnce) :=
    Run.invariant_exec Consistent (fun _ command hconsistent =>
      consistent_step hconsistent command) (consistent_opened sampleDb) reversedOnce
  have hrepeats : repeatsReversal (Run.exec loyaltyStep (.opened sampleDb) reversedOnce) 2
      = true := by decide +kernel
  unfold repeatsReversal at hrepeats
  cases hcall : (Run.exec loyaltyStep (.opened sampleDb) reversedOnce).calls[2]? with
  | none =>
      rw [hcall] at hrepeats
      cases hrepeats
  | some call =>
      rw [hcall, Option.any_some] at hrepeats
      simp only [Bool.and_eq_true, decide_eq_true_eq] at hrepeats
      obtain ⟨⟨hmatched, hstored⟩, hreversed⟩ := hrepeats
      have hadvances := (answersWell_iff hconsistent _).mp hlast call hcall
      rw [AdvancesWell, hmatched] at hadvances
      rw [hadvances hstored] at hreversed
      cases hreversed

end Stallorder.LoyaltyLedger
