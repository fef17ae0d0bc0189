import Stallorder.Crm.CrmService

/-!
# Erasing a customer again

A customer who opts in after an erasure is stored as a new profile.  The
tombstone of the first erasure stays, and its index allows one for each subject
of a stall, so the second erasure of the same subject is answered as recorded
already and the whole of it is rolled back: the new profile keeps its contact.
-/

namespace Stallorder.Erasure

open OrderContract SqlText Checks CrmDatabase LoyaltyEvents CrmService

/-- The profile of the call has no contact any more and no active account. -/
structure Removed (call : ErasureCall) (result : CrmDb × CrmAnswer) : Prop where
  answered : result.2 = .profileErased call.tombstoneId
  scrubbed : ∃ profile ∈ result.1.profiles, profile.id = call.profileId
    ∧ profile.scope = call.scope ∧ profile.status = .erased
    ∧ profile.contactIdentifierHash = none ∧ profile.contactReference = none
    ∧ profile.contactType = none ∧ profile.contactVerifiedAt = none
  inactive : ∀ account ∈ result.1.accounts, account.scope = call.scope →
    account.profileId = call.profileId → account.status ≠ .active

/-- A subject that was not erased at the stall before, in a request whose stored
identifier is not blank. -/
structure Erasable (db : CrmDb) (call : ErasureCall) : Prop where
  enabled : call.enabled = true
  requestKept : trimmedLength (call.requestId.take 100) 1 100 = true
  notErased : ∀ tombstone ∈ db.tombstones, tombstone.scope = call.scope →
    tombstone.subjectHash ≠ call.subjectHash

/-! ## How long profiles are kept -/

/-- No profile is kept for longer than a year from now. -/
def Retained (now : Timestamp) (db : CrmDb) : Prop :=
  ∀ profile ∈ db.profiles, profile.retentionExpiresAt ≤ now + days 365

theorem retained_later {now later : Timestamp} {db : CrmDb} (hretained : Retained now db)
    (hlater : now ≤ later) : Retained later db :=
  fun profile hprofile => (hretained profile hprofile).trans (add_le_add hlater le_rfl)

theorem retained_of_profiles_eq {now : Timestamp} {db db' : CrmDb}
    (hsame : db'.profiles = db.profiles) (hretained : Retained now db) : Retained now db' := by
  intro profile hprofile
  rw [hsame] at hprofile
  exact hretained profile hprofile

theorem retained_updateWhere? {now : Timestamp} {db : CrmDb}
    {profiles : CheckedTable CrmProfile profileCheck} {wanted : CrmProfile → Bool}
    {change : CrmProfile → CrmProfile} (hretained : Retained now db)
    (hchange : ∀ profile, (change profile).retentionExpiresAt
      ≤ max profile.retentionExpiresAt (now + days 365))
    (hupdate : db.profiles.updateWhere? wanted change = some profiles) :
    Retained now { db with profiles } := by
  intro stored hstored
  obtain ⟨profile, hprofile, hrewritten⟩ := (CheckedTable.mem_of_updateWhere? hupdate).mp hstored
  have hbefore := hretained profile hprofile
  rw [← hrewritten]
  by_cases hwanted : wanted profile = true
  · rw [if_pos hwanted]
    exact (hchange profile).trans (max_le hbefore le_rfl)
  · rw [if_neg hwanted]
    exact hbefore

/-- What a function keeps when it comes to its end, it keeps. -/
theorem settle_invariant (Invariant : CrmDb → Prop) {db : CrmDb}
    {outcome : Except CrmAnswer (CrmDb × CrmAnswer)} (hdb : Invariant db)
    (hdone : ∀ db' answer, outcome = .ok (db', answer) → Invariant db') :
    Invariant (settle db outcome).1 := by
  rcases outcome with answer | ⟨db', answer⟩
  · exact hdb
  · exact hdone db' answer rfl

theorem profiles_of_insertConsent {db db' : CrmDb} {row : ConsentRecord} {violated : CrmAnswer}
    (hinsert : insertConsent db row violated = .ok db') : db'.profiles = db.profiles := by
  obtain ⟨-, -, hinsert⟩ := bind_eq_ok.mp hinsert
  obtain ⟨consents, -, hinsert⟩ := bind_eq_ok.mp hinsert
  cases hinsert
  rfl

theorem profiles_of_joinLoyalty {db db' : CrmDb} {now : Timestamp} {call : OptInCall}
    {profileId : Uuid} (hjoin : joinLoyalty db now call profileId = .ok db') :
    db'.profiles = db.profiles := by
  unfold joinLoyalty at hjoin
  split at hjoin
  · unfold upsertAccount at hjoin
    split at hjoin
    all_goals
      obtain ⟨accounts, -, hjoin⟩ := bind_eq_ok.mp hjoin
      cases hjoin
      rfl
  · cases hjoin
    rfl

theorem profiles_of_closeAccounts {db db' : CrmDb} {now : Timestamp} {scope : CrmScope}
    {profileId : Uuid} (hclose : closeAccounts db now scope profileId = .ok db') :
    db'.profiles = db.profiles := by
  obtain ⟨accounts, -, hclose⟩ := bind_eq_ok.mp hclose
  cases hclose
  rfl

section Keeping

variable {db : CrmDb} {now : Timestamp}

theorem retained_upsertProfile {db' : CrmDb} {call : OptInCall} {contactType : ContactType}
    {verifiedAt : Timestamp} {profileId : Uuid} {created : Bool} (hretained : Retained now db)
    (hupsert : upsertProfile db now call contactType verifiedAt = .ok (db', profileId, created)) :
    Retained now db' := by
  unfold upsertProfile at hupsert
  split at hupsert
  · obtain ⟨profiles, hupdate, hupsert⟩ := bind_eq_ok.mp hupsert
    cases hupsert
    exact retained_updateWhere? hretained (fun _ => le_rfl) (orFail_eq_ok.mp hupdate)
  · obtain ⟨-, -, hupsert⟩ := bind_eq_ok.mp hupsert
    obtain ⟨profiles, hinsert, hupsert⟩ := bind_eq_ok.mp hupsert
    cases hupsert
    intro profile hprofile
    rcases (CheckedTable.mem_of_insert? (orFail_eq_ok.mp hinsert)).mp hprofile with hbefore | rfl
    · exact hretained profile hbefore
    · exact le_rfl

theorem retained_optIn (hretained : Retained now db) (call : OptInCall) :
    Retained now (optIn db now call).1 := by
  apply settle_invariant (Retained now) hretained
  intro db' answer hdone
  obtain ⟨⟨contactType, verifiedAt⟩, -, hdone⟩ := bind_eq_ok.mp hdone
  obtain ⟨⟨stored, profileId, created⟩, hupsert, hdone⟩ := bind_eq_ok.mp hdone
  obtain ⟨consented, hconsent, hdone⟩ := bind_eq_ok.mp hdone
  obtain ⟨joined, hjoin, hdone⟩ := bind_eq_ok.mp hdone
  cases hdone
  have hprofiles : db'.profiles = stored.profiles :=
    (profiles_of_joinLoyalty hjoin).trans (profiles_of_insertConsent hconsent)
  exact retained_of_profiles_eq hprofiles (retained_upsertProfile hretained hupsert)

theorem retained_suppressMarketing {db' : CrmDb} {scope : CrmScope} {profileId : Uuid}
    {suppressedAt : CrmProfile → Timestamp} (hretained : Retained now db)
    (hsuppress : suppressMarketing db now scope profileId suppressedAt = .ok db') :
    Retained now db' := by
  obtain ⟨profiles, hupdate, hsuppress⟩ := bind_eq_ok.mp hsuppress
  cases hsuppress
  apply retained_updateWhere? hretained _ (orFail_eq_ok.mp hupdate)
  intro profile
  exact le_max_left profile.retentionExpiresAt _

theorem retained_withdraw (hretained : Retained now db) (call : WithdrawalCall) :
    Retained now (withdraw db now call).1 := by
  apply settle_invariant (Retained now) hretained
  intro db' answer hdone
  obtain ⟨-, -, hdone⟩ := bind_eq_ok.mp hdone
  obtain ⟨latest, -, hdone⟩ := bind_eq_ok.mp hdone
  obtain ⟨consented, hconsent, hdone⟩ := bind_eq_ok.mp hdone
  obtain ⟨applied, happly, hdone⟩ := bind_eq_ok.mp hdone
  cases hdone
  have hconsented : Retained now consented :=
    retained_of_profiles_eq (profiles_of_insertConsent hconsent) hretained
  unfold applyWithdrawal at happly
  split at happly
  · exact retained_suppressMarketing hconsented happly
  · split at happly
    · exact retained_of_profiles_eq (profiles_of_closeAccounts happly) hconsented
    · cases happly
      exact hconsented

theorem retained_unsubscribe (hretained : Retained now db) (call : UnsubscribeCall) :
    Retained now (unsubscribe db now call).1 := by
  apply settle_invariant (Retained now) hretained
  intro db' answer hdone
  obtain ⟨-, -, hdone⟩ := bind_eq_ok.mp hdone
  obtain ⟨withdrawn, hwithdraw, hdone⟩ := bind_eq_ok.mp hdone
  obtain ⟨suppressed, hsuppress, hdone⟩ := bind_eq_ok.mp hdone
  cases hdone
  have hwithdrawn : Retained now withdrawn := by
    apply foldlM_invariant (Retained now) _ hretained hwithdraw
    intro latest _ state next hstate hnext
    exact retained_of_profiles_eq (profiles_of_insertConsent hnext) hstate
  exact retained_suppressMarketing hwithdrawn hsuppress

theorem retained_scrubProfile {db' : CrmDb} {call : ErasureCall} (hretained : Retained now db)
    (hscrub : scrubProfile db now call = .ok db') : Retained now db' := by
  obtain ⟨profiles, hupdate, hscrub⟩ := bind_eq_ok.mp hscrub
  cases hscrub
  apply retained_updateWhere? hretained _ (orFail_eq_ok.mp hupdate)
  intro profile
  exact le_max_left profile.retentionExpiresAt _

theorem retained_erase (hretained : Retained now db) (call : ErasureCall) :
    Retained now (erase db now call).1 := by
  apply settle_invariant (Retained now) hretained
  intro db' answer hdone
  obtain ⟨-, -, hdone⟩ := bind_eq_ok.mp hdone
  obtain ⟨-, -, hdone⟩ := bind_eq_ok.mp hdone
  obtain ⟨tombstones, -, hdone⟩ := bind_eq_ok.mp hdone
  obtain ⟨closed, hclose, hdone⟩ := bind_eq_ok.mp hdone
  obtain ⟨scrubbed, hscrub, hdone⟩ := bind_eq_ok.mp hdone
  cases hdone
  have hclosed : Retained now closed :=
    retained_of_profiles_eq (profiles_of_closeAccounts hclose) hretained
  exact retained_scrubProfile hclosed hscrub

theorem profiles_of_loyaltyStep (system : LoyaltySystem) (command : LoyaltyCommand) :
    (loyaltyStep system command).db.profiles = system.db.profiles := by
  cases command with
  | start event => rfl
  | advance position id =>
      cases hcall : system.calls[position]? with
      | none => simp only [loyaltyStep, hcall]
      | some call =>
          rcases hnext : nextStage system id call with _ | ⟨db', stage'⟩
          · simp only [loyaltyStep, hcall, hnext]
          · simp only [loyaltyStep, hcall, hnext]
            unfold nextStage at hnext
            cases hstage : call.stage <;> rw [hstage] at hnext
            case looking =>
              obtain ⟨_, -, hsame⟩ := Option.map_eq_some_iff.mp hnext
              cases hsame
              rfl
            case checked =>
              obtain ⟨_, -, hsame⟩ := Option.map_eq_some_iff.mp hnext
              cases hsame
              rfl
            case totalled entry balance =>
              obtain ⟨ledger, -, hsame⟩ := Option.bind_eq_some_iff.mp hnext
              cases hsame
              rfl
            case answered => cases hnext
            all_goals
              cases hnext
              rfl

theorem profiles_of_postLoyaltyPointsEvent (db : CrmDb) (event : PointsEvent) (id : Uuid) :
    (postLoyaltyPointsEvent db event id).profiles = db.profiles :=
  Run.invariant_exec (fun system : LoyaltySystem => system.db.profiles = db.profiles)
    (fun system command hsame => (profiles_of_loyaltyStep system command).trans hsame)
    rfl _

theorem retained_crmStep (state : CrmState) (command : CrmCommand)
    (hretained : Retained state.clock state.db) :
    Retained (crmStep state command).clock (crmStep state command).db := by
  have hnow : Retained (state.clock + command.elapsed) state.db :=
    retained_later hretained (le_add_of_nonneg_right (Int.natCast_nonneg _))
  change Retained (state.clock + command.elapsed)
    (command.request.execute state.db (state.clock + command.elapsed)).1
  cases command.request with
  | optIn call => exact retained_optIn hnow call
  | withdraw call => exact retained_withdraw hnow call
  | unsubscribe call => exact retained_unsubscribe hnow call
  | postEvent event id =>
      exact retained_of_profiles_eq (profiles_of_postLoyaltyPointsEvent _ _ _) hnow
  | erase call => exact retained_erase hnow call

end Keeping

/-! ## Erasing -/

section Erasing

variable {db : CrmDb} {now : Timestamp} {call : ErasureCall}

theorem profile_collides_iff {left right : CrmProfile} : Indexed.collides left right = true ↔
    left.id = right.id ∨ ∃ value,
      left.contactIdentifierHash.map (fun hash => (left.scope, hash)) = some value
        ∧ right.contactIdentifierHash.map (fun hash => (right.scope, hash)) = some value := by
  refine Indexed.collides_addUnique_iff.trans ?_
  exact or_congr decide_eq_true_iff Iff.rfl

theorem account_collides_iff {left right : LoyaltyAccount} :
    Indexed.collides left right = true ↔
      left.id = right.id ∨ (left.scope, left.profileId) = (right.scope, right.profileId) := by
  refine Indexed.collides_addUnique_iff.trans ?_
  apply or_congr decide_eq_true_iff
  constructor
  · rintro ⟨value, hleft, hright⟩
    exact Option.some.inj (hleft.trans hright.symm)
  · intro hsame
    exact ⟨_, rfl, congrArg some hsame.symm⟩

theorem tombstone_collides_iff {left right : Tombstone} : Indexed.collides left right = true ↔
    left.id = right.id ∨ (left.scope, left.subjectHash) = (right.scope, right.subjectHash) := by
  refine Indexed.collides_addUnique_iff.trans ?_
  apply or_congr decide_eq_true_iff
  constructor
  · rintro ⟨value, hleft, hright⟩
    exact Option.some.inj (hleft.trans hright.symm)
  · intro hsame
    exact ⟨_, rfl, congrArg some hsame.symm⟩

/-- A tombstone of valid input passes its checks when the stored request does. -/
theorem tombstoneCheck_tombstoneRow (hinput : erasureInputValid call = true) :
    tombstoneCheck (tombstoneRow now call) = trimmedLength (call.requestId.take 100) 1 100 := by
  rw [erasureInputValid, Bool.and_eq_true, Bool.and_eq_true] at hinput
  have hkept : now < now + days 2190 := lt_add_of_pos_right now (by decide)
  have hbounded : now + days 2190 ≤ now + days 2191 := add_le_add le_rfl (by decide)
  change (hexDigest call.subjectHash && trimmedLength (btrim call.reason) 1 300
    && decide (now < now + days 2190) && decide (now + days 2190 ≤ now + days 2191)
    && trimmedLength (call.requestId.take 100) 1 100) = _
  rw [hinput.1.1, trimmedLength_btrim, hinput.1.2, decide_eq_true hkept,
    decide_eq_true hbounded]
  rfl

theorem profileCheck_scrubbed {profile : CrmProfile} (hcheck : profileCheck profile = true)
    (hretained : profile.retentionExpiresAt ≤ now + days 365) :
    profileCheck (scrubbed now profile) = true := by
  have hkept : profile.createdAt < profile.retentionExpiresAt := by
    simp only [profileCheck, Bool.and_eq_true, decide_eq_true_eq] at hcheck
    exact hcheck.1.2
  have hbounded : profile.retentionExpiresAt ≤ now + days 366 :=
    hretained.trans (add_le_add le_rfl (by decide))
  change (true && true && true && decide (profile.createdAt < profile.retentionExpiresAt)
    && decide (profile.retentionExpiresAt ≤ now + days 366)) = true
  rw [decide_eq_true hkept, decide_eq_true hbounded]
  rfl

theorem exists_closeAccounts (db : CrmDb) (now : Timestamp) (scope : CrmScope) (profileId : Uuid) :
    ∃ db', closeAccounts db now scope profileId = .ok db' := by
  obtain ⟨accounts, hupdate⟩ := db.accounts.exists_updateWhere? (fun account =>
    account.scope = scope && account.profileId = profileId && account.status = .active)
    (closed now) (fun hcollides => account_collides_iff.mpr (account_collides_iff.mp hcollides))
    (fun _ _ _ => rfl)
  exact ⟨{ db with accounts }, by rw [closeAccounts, hupdate]; rfl⟩

theorem exists_scrubProfile (hretained : Retained now db) (call : ErasureCall) :
    ∃ db', scrubProfile db now call = .ok db' := by
  obtain ⟨profiles, hupdate⟩ := db.profiles.exists_updateWhere? (fun profile =>
    profile.id = call.profileId && profile.scope = call.scope) (scrubbed now)
    (fun hcollides => by
      rcases profile_collides_iff.mp hcollides with hid | ⟨value, hhash, -⟩
      · exact profile_collides_iff.mpr (Or.inl hid)
      · cases hhash)
    (fun profile hprofile _ => profileCheck_scrubbed (db.profiles.checked profile hprofile)
      (hretained profile hprofile))
  exact ⟨{ db with profiles }, by rw [scrubProfile, hupdate]; rfl⟩

theorem inactive_of_closeAccounts {db' : CrmDb} {scope : CrmScope} {profileId : Uuid}
    (hclose : closeAccounts db now scope profileId = .ok db') :
    ∀ account ∈ db'.accounts, account.scope = scope → account.profileId = profileId →
      account.status ≠ .active := by
  obtain ⟨accounts, hupdate, hclose⟩ := bind_eq_ok.mp hclose
  cases hclose
  intro account haccount hscope hprofile
  obtain ⟨before, -, hrewritten⟩ :=
    (CheckedTable.mem_of_updateWhere? (orFail_eq_ok.mp hupdate)).mp haccount
  by_cases hwanted : (before.scope = scope && before.profileId = profileId
      && before.status = .active) = true
  · rw [if_pos hwanted] at hrewritten
    rw [← hrewritten]
    exact nofun
  · rw [if_neg hwanted] at hrewritten
    subst hrewritten
    intro hactive
    simp [hscope, hprofile, hactive] at hwanted

theorem erase_of_closes {tombstones : CheckedTable Tombstone tombstoneCheck} {closed erased : CrmDb}
    (hchecks : erasureChecks db call = .ok ())
    (hrow : tombstoneCheck (tombstoneRow now call) = true)
    (hinsert : db.tombstones.insert? (tombstoneRow now call) = some tombstones)
    (hclose : closeAccounts { db with tombstones } now call.scope call.profileId = .ok closed)
    (hscrub : scrubProfile closed now call = .ok erased) :
    erase db now call = (erased, .profileErased call.tombstoneId) := by
  simp only [erase, hchecks, hrow, hinsert, hclose, hscrub, Except.mapError, Bool.not_true,
    failWhen_false, orFail_some, bind_ok]
  rfl

theorem erasureChecks_eq_ok : erasureChecks db call = .ok () ↔ call.enabled = true
    ∧ erasureInputValid call = true ∧ (liveProfile db call.scope call.profileId).isSome = true := by
  unfold erasureChecks
  cases call.enabled <;> cases erasureInputValid call
    <;> cases liveProfile db call.scope call.profileId <;> simp

theorem removed_of_erasable (hinput : erasureInputValid call = true)
    (hlive : (liveProfile db call.scope call.profileId).isSome = true)
    (hfresh : ∀ tombstone ∈ db.tombstones, tombstone.id ≠ call.tombstoneId)
    (hretained : Retained now db) (herasable : Erasable db call) :
    Removed call (erase db now call) := by
  have hchecks : erasureChecks db call = .ok () :=
    erasureChecks_eq_ok.mpr ⟨herasable.enabled, hinput, hlive⟩
  have hrow : tombstoneCheck (tombstoneRow now call) = true :=
    (tombstoneCheck_tombstoneRow hinput).trans herasable.requestKept
  have hfree : ∀ tombstone ∈ db.tombstones,
      ¬ Indexed.collides tombstone (tombstoneRow now call) = true := by
    intro tombstone htombstone hcollides
    rcases tombstone_collides_iff.mp hcollides with hid | hsubject
    · exact hfresh tombstone htombstone hid
    · obtain ⟨hscope, hhash⟩ := Prod.mk.inj hsubject
      exact herasable.notErased tombstone htombstone hscope hhash
  obtain ⟨tombstones, hinsert⟩ := CheckedTable.exists_insert? hrow hfree
  obtain ⟨closed, hclose⟩ :=
    exists_closeAccounts { db with tombstones } now call.scope call.profileId
  have hprofiles : closed.profiles = db.profiles :=
    (profiles_of_closeAccounts hclose : closed.profiles = { db with tombstones }.profiles)
  obtain ⟨erased, hscrub⟩ := exists_scrubProfile (retained_of_profiles_eq hprofiles hretained) call
  rw [erase_of_closes hchecks hrow hinsert hclose hscrub]
  have hinactive := inactive_of_closeAccounts hclose
  obtain ⟨profile, hprofile⟩ := Option.isSome_iff_exists.mp hlive
  obtain ⟨hmem, hfits⟩ := CheckedTable.mem_of_findFirst hprofile
  simp only [isLive, Bool.and_eq_true, decide_eq_true_eq] at hfits
  obtain ⟨profiles, hupdate, hscrub⟩ := bind_eq_ok.mp hscrub
  cases hscrub
  refine ⟨rfl, ⟨scrubbed now profile, ?_, hfits.1.1, hfits.1.2, rfl, rfl, rfl, rfl, rfl⟩,
    hinactive⟩
  apply (CheckedTable.mem_of_updateWhere? (orFail_eq_ok.mp hupdate)).mpr
  refine ⟨profile, hprofiles ▸ hmem, if_pos ?_⟩
  simp [hfits.1.1, hfits.1.2]

theorem erasable_of_removed (hinput : erasureInputValid call = true)
    (hremoved : Removed call (erase db now call)) : Erasable db call := by
  have hanswered := hremoved.answered
  unfold erase at hanswered
  rcases hchecks : erasureChecks db call with code | done
  · rw [hchecks] at hanswered
    cases hanswered
  cases hrow : tombstoneCheck (tombstoneRow now call) with
  | false =>
      rw [hchecks, hrow] at hanswered
      cases hanswered
  | true =>
      cases hinsert : db.tombstones.insert? (tombstoneRow now call) with
      | none =>
          rw [hchecks, hrow, hinsert] at hanswered
          cases hanswered
      | some tombstones =>
          refine ⟨(erasureChecks_eq_ok.mp hchecks).1,
            (tombstoneCheck_tombstoneRow hinput).symm.trans hrow,
            fun tombstone htombstone hscope hhash => ?_⟩
          apply CheckedTable.not_collides_of_insert? hinsert htombstone
          exact tombstone_collides_iff.mpr (Or.inr (congrArg₂ Prod.mk hscope hhash))

end Erasing

/-- What the requests of a run make of a database without customers. -/
def crmRun (stalls : List CrmScope) (orders : List StallOrder) (actors : List Uuid)
    (opened : Timestamp) (run : List CrmCommand) : CrmState :=
  Run.exec crmStep ⟨.opened stalls orders actors, opened⟩ run

theorem retained_crmRun (stalls : List CrmScope) (orders : List StallOrder) (actors : List Uuid)
    (opened : Timestamp) (run : List CrmCommand) :
    Retained (crmRun stalls orders actors opened run).clock
      (crmRun stalls orders actors opened run).db := by
  apply Run.invariant_exec fun state : CrmState => Retained state.clock state.db
  · intro state command hretained
    exact retained_crmStep state command hretained
  · intro profile hprofile
    exact absurd hprofile (CheckedTable.notMem_empty profile)

/-- In every run, an erasure with valid input of a profile that is not erased
removes the customer's data exactly when the subject was not erased before, the
feature is enabled and what is stored of the request identifier is not blank. -/
theorem erasure_removes_iff (stalls : List CrmScope) (orders : List StallOrder)
    (actors : List Uuid) (opened : Timestamp) (run : List CrmCommand) (elapsed : ℕ)
    (call : ErasureCall) (hinput : erasureInputValid call = true)
    (hlive : (liveProfile (crmRun stalls orders actors opened run).db call.scope
      call.profileId).isSome = true)
    (hfresh : ∀ tombstone ∈ (crmRun stalls orders actors opened run).db.tombstones,
      tombstone.id ≠ call.tombstoneId) :
    Removed call (erase (crmRun stalls orders actors opened run).db
        ((crmRun stalls orders actors opened run).clock + elapsed) call)
      ↔ Erasable (crmRun stalls orders actors opened run).db call := by
  have hretained := retained_later (retained_crmRun stalls orders actors opened run)
    (le_add_of_nonneg_right (Int.natCast_nonneg elapsed))
  constructor
  · exact erasable_of_removed hinput
  · exact removed_of_erasable hinput hlive hfresh hretained

/-! ## A customer who comes back -/

def sampleScope : CrmScope := ⟨1, 2⟩

def sampleOptIn (profileId consentId : Uuid) : CrmCommand where
  elapsed := 1
  request := .optIn {
    enabled := true
    scope := sampleScope
    contactIdentifierHash := List.replicate 64 'a'
    contactReference := "vault://customer".toList
    contactType := "EMAIL".toList
    contactVerifiedAt := some 0
    purposeCode := "MARKETING_MAIL".toList
    noticeVersion := "1".toList
    consentSource := "WEB".toList
    lawfulBasis := "CONSENT".toList
    decision := "EXPLICIT_OPT_IN".toList
    requestId := "request".toList
    profileId := profileId
    consentId := consentId
    accountId := 0 }

def sampleErasure (profileId tombstoneId : Uuid) : ErasureCall where
  enabled := true
  scope := sampleScope
  profileId := profileId
  subjectHash := List.replicate 64 'b'
  reason := "asked for it".toList
  requestId := "request".toList
  tombstoneId := tombstoneId

theorem erasure_removes_first :
    Removed (sampleErasure 10 30) (erase (crmRun [sampleScope] [] [] 0 [sampleOptIn 10 20]).db
      ((crmRun [sampleScope] [] [] 0 [sampleOptIn 10 20]).clock + 1) (sampleErasure 10 30)) := by
  have hnone : ∀ tombstone,
      tombstone ∉ (crmRun [sampleScope] [] [] 0 [sampleOptIn 10 20]).db.tombstones := by
    have hrows : (crmRun [sampleScope] [] [] 0 [sampleOptIn 10 20]).db.tombstones.table.rows
        = [] := by decide +kernel
    intro tombstone htombstone
    change tombstone ∈ (crmRun [sampleScope] [] [] 0 [sampleOptIn 10 20]).db.tombstones.table.rows
      at htombstone
    rw [hrows] at htombstone
    cases htombstone
  exact (erasure_removes_iff [sampleScope] [] [] 0 [sampleOptIn 10 20] 1 (sampleErasure 10 30)
    (by decide +kernel) (by decide +kernel)
    (fun tombstone htombstone => absurd htombstone (hnone tombstone))).mpr
    ⟨rfl, by decide +kernel, fun tombstone htombstone => absurd htombstone (hnone tombstone)⟩

/-- The customer opts in, is erased and opts in again. -/
def returningCustomer : List CrmCommand :=
  [sampleOptIn 10 20, ⟨1, .erase (sampleErasure 10 30)⟩, sampleOptIn 11 21]

theorem second_erasure_refused :
    erasureInputValid (sampleErasure 11 31) = true
      ∧ (liveProfile (crmRun [sampleScope] [] [] 0 returningCustomer).db sampleScope
        11).isSome = true
      ∧ ¬ Removed (sampleErasure 11 31) (erase (crmRun [sampleScope] [] [] 0 returningCustomer).db
        ((crmRun [sampleScope] [] [] 0 returningCustomer).clock + 1) (sampleErasure 11 31)) := by
  refine ⟨by decide +kernel, by decide +kernel, fun hremoved => ?_⟩
  have hrefused : (erase (crmRun [sampleScope] [] [] 0 returningCustomer).db
      ((crmRun [sampleScope] [] [] 0 returningCustomer).clock + 1) (sampleErasure 11 31)).2
        = .refused .erasureAlreadyRecorded := by
    decide +kernel
  cases hrefused.symm.trans hremoved.answered

end Stallorder.Erasure
