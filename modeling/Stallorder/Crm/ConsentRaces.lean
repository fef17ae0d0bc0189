import Stallorder.Core.Parties
import Stallorder.Crm.ConsentTransactions

/-!
# Loyalty accounts and the latest consent

Consents are ordered by the times at which their transactions began, and the
account takes the state of the transaction that wrote it last.  A transaction
that began before a committed one and commits after it leaves the account in a
state that the latest consent does not have.
-/

namespace Stallorder.ConsentRaces

open OrderContract CrmDatabase CrmService ConsentTransactions Parties

/-! ## Agreement -/

/-- The latest consent to the loyalty membership. -/
def membership (records : ProfileRecords) : Option ConsentRecord :=
  latestConsent records.consents records.profile.scope records.profile.id loyaltyMembership

def memberGranted (records : ProfileRecords) : Bool :=
  (membership records).any (·.decision = .granted)

def accountActive (account : Option LoyaltyAccount) : Bool :=
  account.any (·.status = .active)

/-- The account is active exactly when the latest consent is a grant. -/
def Agrees (records : ProfileRecords) : Prop :=
  accountActive records.account = memberGranted records

instance (records : ProfileRecords) : Decidable (Agrees records) :=
  inferInstanceAs (Decidable (_ = _))

/-- The consent comes first in the order of the latest consent. -/
def comesFirst (records : ProfileRecords) (consent : ConsentRecord) : Bool :=
  (membership records).all fun latest => latestFirst consent < latestFirst latest

/-- A consent to the membership is committed when it comes first or decides as the
first one does, and a withdrawal that found no active account when there is none. -/
def CommitsInOrder (records : ProfileRecords) (account : Option LoyaltyAccount)
    (consent : ConsentRecord) : Prop :=
  match consent.decision with
  | .granted => comesFirst records consent = true ∨ memberGranted records = true
  | .withdrawn =>
      if account.isSome then comesFirst records consent = true ∨ memberGranted records = false
      else comesFirst records consent = true → accountActive records.account = false

def InOrder (system : ConsentSystem) : ConsentCommand → Prop
  | .commit position => ∀ transaction, system.transactions[position]? = some transaction →
      transaction.statement = .commit → ∀ consent, transaction.writes.consent = some consent →
        consent.purposeCode = loyaltyMembership →
          CommitsInOrder system.records transaction.writes.account consent
  | _ => True

def AgreesAfter (system : ConsentSystem) (command : ConsentCommand) : Prop :=
  Agrees (consentStep system command).records

/-! ## What transactions have written -/

/-- A consent of the profile that decides about the purpose. -/
structure OfProfile (profile : CrmProfile) (purposeCode : Text) (decision : ConsentDecision)
    (consent : ConsentRecord) : Prop where
  scope : consent.scope = profile.scope
  profileId : consent.profileId = profile.id
  purpose : consent.purposeCode = purposeCode
  decided : consent.decision = decision

/-- What an opt-in or a withdrawal writes to the account. -/
def WritesAccount (decision : ConsentDecision) (purposeCode : Text)
    (account : Option LoyaltyAccount) : Prop :=
  match decision with
  | .granted => if purposeCode = loyaltyMembership then accountActive account = true
      else account = none
  | .withdrawn => account = none
      ∨ purposeCode = loyaltyMembership ∧ accountActive account = false

def StatementSound (profile : CrmProfile) (writes : Writes) : Statement → Prop
  | .upsertProfile call _ _ => call.scope = profile.scope ∧ writes.consent = none
      ∧ writes.account = none
  | .insertGrant call _ => call.scope = profile.scope ∧ writes.consent = none
      ∧ writes.account = none
  | .upsertAccount call => writes.account = none ∧ ∃ consent, writes.consent = some consent
      ∧ OfProfile profile call.purposeCode .granted consent
  | .readLatest call => call.scope = profile.scope ∧ call.profileId = profile.id
      ∧ writes.consent = none ∧ writes.account = none
  | .insertWithdrawal call latest => writes.consent = none ∧ writes.account = none
      ∧ OfProfile profile call.purposeCode .granted latest
  | .applyWithdrawal call => writes.account = none ∧ ∃ consent, writes.consent = some consent
      ∧ OfProfile profile call.purposeCode .withdrawn consent
  | .commit => ∃ purposeCode decision consent, writes.consent = some consent
      ∧ OfProfile profile purposeCode decision consent
      ∧ WritesAccount decision purposeCode writes.account
  | .ended => writes = .nothing

structure TransactionSound (records : ProfileRecords) (transaction : ConsentTransaction) :
    Prop where
  statement : StatementSound records.profile transaction.writes transaction.statement
  profile : ∀ profile, transaction.writes.profile = some profile →
    profile.scope = records.profile.scope ∧ profile.id = records.profile.id
  fresh : ∀ consent, transaction.writes.consent = some consent →
    ∀ stored ∈ records.consents, stored.id ≠ consent.id

/-- Two transactions do not insert consents of one id. -/
def Apart (left right : ConsentTransaction) : Prop :=
  ∀ one other, left.writes.consent = some one → right.writes.consent = some other →
    one.id ≠ other.id

theorem apart_symm {left right : ConsentTransaction} (hapart : Apart left right) :
    Apart right left :=
  fun one other hone hother hsame => hapart other one hother hone hsame.symm

structure Consistent (system : ConsentSystem) : Prop where
  distinct : (system.records.consents.map (·.id)).Nodup
  sound : ∀ (position : ℕ) transaction, system.transactions[position]? = some transaction →
    TransactionSound system.records transaction
  apart : EachApart Apart system.transactions

/-! ## Committing -/

section Committing

variable {records : ProfileRecords} {writes : Writes} {consent : ConsentRecord}

/-- Rows of different ids are at different places in the order. -/
theorem nodup_latestFirst {rows : List ConsentRecord} (hids : (rows.map (·.id)).Nodup) :
    (rows.map latestFirst).Nodup := by
  have hsame : rows.map (·.id)
      = (rows.map latestFirst).map fun place => (ofLex (OrderDual.ofDual place)).2 := by
    rw [List.map_map]
    rfl
  rw [hsame] at hids
  exact hids.of_map

theorem nodup_concat (hdistinct : (records.consents.map (·.id)).Nodup)
    (hfresh : ∀ stored ∈ records.consents, stored.id ≠ consent.id) :
    ((records.consents ++ [consent]).map (·.id)).Nodup := by
  rw [List.map_append, List.map_singleton]
  refine hdistinct.append (List.nodup_singleton _) fun id hid hnew => ?_
  obtain ⟨stored, hstored, rfl⟩ := List.mem_map.mp hid
  exact hfresh stored hstored (List.mem_singleton.mp hnew)

theorem membership_commit (hdistinct : (records.consents.map (·.id)).Nodup)
    (hprofile : ∀ profile, writes.profile = some profile →
      profile.scope = records.profile.scope ∧ profile.id = records.profile.id)
    (hconsent : writes.consent = some consent)
    (hfresh : ∀ stored ∈ records.consents, stored.id ≠ consent.id)
    (hscope : consent.scope = records.profile.scope)
    (hprofileId : consent.profileId = records.profile.id) :
    membership (records.commit writes)
      = if consent.purposeCode = loyaltyMembership && comesFirst records consent then some consent
        else membership records := by
  have hidentity : (records.commit writes).profile.scope = records.profile.scope
      ∧ (records.commit writes).profile.id = records.profile.id := by
    change (writes.profile.getD records.profile).scope = _
      ∧ (writes.profile.getD records.profile).id = _
    cases hwritten : writes.profile with
    | none => exact ⟨rfl, rfl⟩
    | some profile => exact hprofile profile hwritten
  have hconsents : (records.commit writes).consents = records.consents ++ [consent] := by
    change records.consents ++ writes.consent.toList = _
    rw [hconsent]
    rfl
  unfold membership latestConsent
  rw [hidentity.1, hidentity.2, hconsents, List.filter_append, List.filter_cons, List.filter_nil]
  by_cases hpurpose : consent.purposeCode = loyaltyMembership
  · have hmatches : (decide (consent.scope = records.profile.scope)
        && decide (consent.profileId = records.profile.id)
        && decide (consent.purposeCode = loyaltyMembership)) = true := by
      simp [hscope, hprofileId, hpurpose]
    rw [if_pos hmatches, decide_eq_true hpurpose, Bool.true_and]
    apply FirstOf.head_firstOf_concat
    apply nodup_latestFirst
    exact (nodup_concat hdistinct hfresh).sublist
      (((List.filter_sublist (l := records.consents)).append (List.Sublist.refl [consent])).map _)
  · have hother : ¬ (decide (consent.scope = records.profile.scope)
        && decide (consent.profileId = records.profile.id)
        && decide (consent.purposeCode = loyaltyMembership)) = true := by
      simp [hpurpose]
    rw [if_neg hother, List.append_nil, decide_eq_false hpurpose, Bool.false_and]
    rfl

theorem account_commit : (records.commit writes).account = writes.account.or records.account :=
  rfl

theorem accountActive_or_of_isSome (hsome : writes.account.isSome = true) :
    accountActive (writes.account.or records.account) = accountActive writes.account := by
  obtain ⟨account, haccount⟩ := Option.isSome_iff_exists.mp hsome
  rw [haccount, Option.some_or]

/-- A commit that does not touch the membership keeps the agreement. -/
theorem agrees_commit_other {purposeCode : Text} {decision : ConsentDecision}
    (hpurpose : purposeCode ≠ loyaltyMembership)
    (hwrites : WritesAccount decision purposeCode writes.account)
    (hmembership : membership (records.commit writes) = membership records)
    (hagrees : Agrees records) : Agrees (records.commit writes) := by
  have hnone : writes.account = none := by
    cases decision with
    | granted =>
        unfold WritesAccount at hwrites
        rw [if_neg hpurpose] at hwrites
        exact hwrites
    | withdrawn =>
        rcases hwrites with hnone | ⟨hloyalty, -⟩
        · exact hnone
        · exact absurd hloyalty hpurpose
  unfold Agrees memberGranted at hagrees ⊢
  rw [hmembership, account_commit, hnone, Option.none_or]
  exact hagrees

theorem agrees_commit_iff {decision : ConsentDecision}
    (hdecided : consent.decision = decision)
    (hwrites : WritesAccount decision loyaltyMembership writes.account)
    (hmembership : membership (records.commit writes)
      = if comesFirst records consent then some consent else membership records)
    (hagrees : Agrees records) :
    Agrees (records.commit writes) ↔ CommitsInOrder records writes.account consent := by
  unfold CommitsInOrder
  have hgranted : memberGranted (records.commit writes)
      = if comesFirst records consent then decide (decision = .granted)
        else memberGranted records := by
    unfold memberGranted
    rw [hmembership]
    split
    · rw [Option.any_some, hdecided]
    · rfl
  unfold Agrees at hagrees ⊢
  rw [hgranted, account_commit, hdecided]
  cases decision with
  | granted =>
      have hactive : accountActive writes.account = true := hwrites
      have hsome : writes.account.isSome = true := by
        cases haccount : writes.account with
        | none =>
            rw [haccount] at hactive
            cases hactive
        | some account => rfl
      rw [accountActive_or_of_isSome hsome, hactive]
      cases comesFirst records consent <;> simp
  | withdrawn =>
      rcases hwrites with hnone | ⟨-, hinactive⟩
      · rw [hnone, Option.none_or]
        cases comesFirst records consent <;> simp [hagrees]
      · cases haccount : writes.account with
        | none =>
            rw [Option.none_or]
            cases comesFirst records consent <;> simp [hagrees]
        | some account =>
            rw [haccount] at hinactive
            rw [Option.some_or, hinactive]
            cases comesFirst records consent <;> cases memberGranted records <;> simp

end Committing

/-! ## The steps of the system -/

section Steps

variable {system : ConsentSystem} {transaction transaction' : ConsentTransaction} {position : ℕ}

theorem statementSound_congr {profile profile' : CrmProfile} {writes : Writes}
    {statement : Statement} (hscope : profile'.scope = profile.scope)
    (hid : profile'.id = profile.id) (hsound : StatementSound profile writes statement) :
    StatementSound profile' writes statement := by
  have hofProfile : ∀ {purposeCode decision consent},
      OfProfile profile purposeCode decision consent →
        OfProfile profile' purposeCode decision consent := by
    intro purposeCode decision consent hof
    exact ⟨hof.scope.trans hscope.symm, hof.profileId.trans hid.symm, hof.purpose, hof.decided⟩
  cases statement with
  | upsertProfile call contactType verifiedAt => exact ⟨hsound.1.trans hscope.symm, hsound.2⟩
  | insertGrant call verifiedAt => exact ⟨hsound.1.trans hscope.symm, hsound.2⟩
  | upsertAccount call =>
      obtain ⟨hnone, consent, hconsent, hof⟩ := hsound
      exact ⟨hnone, consent, hconsent, hofProfile hof⟩
  | readLatest call =>
      exact ⟨hsound.1.trans hscope.symm, hsound.2.1.trans hid.symm, hsound.2.2⟩
  | insertWithdrawal call latest => exact ⟨hsound.1, hsound.2.1, hofProfile hsound.2.2⟩
  | applyWithdrawal call =>
      obtain ⟨hnone, consent, hconsent, hof⟩ := hsound
      exact ⟨hnone, consent, hconsent, hofProfile hof⟩
  | commit =>
      obtain ⟨purposeCode, decision, consent, hconsent, hof, hwrites⟩ := hsound
      exact ⟨purposeCode, decision, consent, hconsent, hofProfile hof, hwrites⟩
  | ended => exact hsound

theorem transactionSound_rolledBack (records : ProfileRecords)
    (transaction : ConsentTransaction) :
    TransactionSound records transaction.rolledBack where
  statement := rfl
  profile _ hprofile := nomatch hprofile
  fresh _ hconsent := nomatch hconsent

/-- What a statement leaves of its transaction. -/
structure Advances (system : ConsentSystem) (transaction transaction' : ConsentTransaction) :
    Prop where
  sound : TransactionSound system.records transaction'
  consent : ∀ consent, transaction'.writes.consent = some consent →
    transaction.writes.consent = some consent
      ∨ ∀ other ∈ system.transactions, ∀ inserted, other.writes.consent = some inserted →
        inserted.id ≠ consent.id

theorem advances_of_rolledBack (system : ConsentSystem) (transaction : ConsentTransaction) :
    Advances system transaction transaction.rolledBack where
  sound := transactionSound_rolledBack system.records transaction
  consent _ hconsent := nomatch hconsent

/-- A statement that writes no consent. -/
theorem advances_of_consent_eq (hsound : TransactionSound system.records transaction)
    (hsame : transaction'.writes.consent = transaction.writes.consent)
    (hstatement : StatementSound system.records.profile transaction'.writes transaction'.statement)
    (hprofile : ∀ profile, transaction'.writes.profile = some profile →
      profile.scope = system.records.profile.scope ∧ profile.id = system.records.profile.id) :
    Advances system transaction transaction' where
  sound := ⟨hstatement, hprofile, fun consent hconsent =>
    hsound.fresh consent (hsame ▸ hconsent)⟩
  consent _ hconsent := Or.inl (hsame ▸ hconsent)

theorem writeProfile_advances {change : CrmProfile → CrmProfile} {next : Statement}
    (hsound : TransactionSound system.records transaction)
    (hchange : ∀ profile, (change profile).scope = profile.scope
      ∧ (change profile).id = profile.id)
    (hnext : ∀ writes : Writes, writes.consent = transaction.writes.consent →
      writes.account = transaction.writes.account →
        StatementSound system.records.profile writes next)
    (hwrite : writeProfile system transaction change next = some transaction') :
    Advances system transaction transaction' := by
  unfold writeProfile at hwrite
  split at hwrite
  · cases hwrite
  · cases hwrite
    refine advances_of_consent_eq hsound rfl (hnext _ rfl rfl) fun profile hprofile => ?_
    cases hprofile
    exact hchange system.records.profile

theorem writeAccount_advances {account : LoyaltyAccount} {purposeCode : Text}
    {decision : ConsentDecision} {consent : ConsentRecord}
    (hsound : TransactionSound system.records transaction)
    (hconsent : transaction.writes.consent = some consent)
    (hof : OfProfile system.records.profile purposeCode decision consent)
    (hwrites : WritesAccount decision purposeCode (some account))
    (hwrite : writeAccount system transaction account = some transaction') :
    Advances system transaction transaction' := by
  unfold writeAccount at hwrite
  split at hwrite
  · cases hwrite
  · cases hwrite
    exact advances_of_consent_eq hsound rfl
      ⟨purposeCode, decision, consent, hconsent, hof, hwrites⟩ hsound.profile

theorem insertConsentRow_advances {row : ConsentRecord} {next : Statement}
    (hsound : TransactionSound system.records transaction)
    (hnext : ∀ writes : Writes, writes.consent = some row →
      writes.account = transaction.writes.account →
        StatementSound system.records.profile writes next)
    (hinsert : insertConsentRow system transaction row next = some transaction') :
    Advances system transaction transaction' := by
  unfold insertConsentRow at hinsert
  split at hinsert
  · cases hinsert
    exact advances_of_rolledBack system transaction
  · split at hinsert
    · next hfresh =>
        cases hinsert
        rw [freshConsentId, Bool.and_eq_true, List.all_eq_true, List.all_eq_true] at hfresh
        refine ⟨⟨hnext _ rfl rfl, hsound.profile, ?_⟩, ?_⟩
        · rintro consent ⟨⟩ stored hstored
          exact of_decide_eq_true (hfresh.1 stored hstored)
        · rintro consent ⟨⟩
          refine Or.inr fun other hother inserted hinserted => ?_
          have hall := hfresh.2 other hother
          rw [hinserted, Option.all_some] at hall
          exact of_decide_eq_true hall
    · cases hinsert

theorem consentOf_latestConsent {consents : List ConsentRecord} {scope : CrmScope}
    {profileId : Uuid} {purposeCode : Text} {latest : ConsentRecord}
    (hlatest : (latestConsent consents scope profileId purposeCode).filter
      (·.decision = .granted) = some latest) :
    latest.scope = scope ∧ latest.profileId = profileId ∧ latest.purposeCode = purposeCode
      ∧ latest.decision = .granted := by
  obtain ⟨hlatest, hgranted⟩ := Option.filter_eq_some_iff.mp hlatest
  have hmem := (FirstOf.head_firstOf_eq_some hlatest).1
  have hmatches := (List.mem_filter.mp hmem).2
  simp only [Bool.and_eq_true, decide_eq_true_eq] at hmatches
  exact ⟨hmatches.1.1, hmatches.1.2, hmatches.2, of_decide_eq_true hgranted⟩

theorem upsertAccount_advances {call : OptInCall}
    (hsound : TransactionSound system.records transaction)
    (hcase : transaction.statement = .upsertAccount call)
    (hadvance : advance system transaction = some transaction') :
    Advances system transaction transaction' := by
  have hstatement := hsound.statement
  unfold advance at hadvance
  rw [hcase] at hadvance hstatement
  obtain ⟨hnone, consent, hconsent, hof⟩ := hstatement
  by_cases hpurpose : call.purposeCode = loyaltyMembership
  · simp only [if_pos hpurpose] at hadvance
    refine writeAccount_advances hsound hconsent hof ?_ hadvance
    have hactive : accountActive (some (joinedAccount system.records transaction.startedAt
        call)) = true := by
      unfold joinedAccount
      split <;> rfl
    unfold WritesAccount
    rw [if_pos hpurpose]
    exact hactive
  · simp only [if_neg hpurpose] at hadvance
    cases hadvance
    refine advances_of_consent_eq hsound rfl ⟨call.purposeCode, .granted, consent, hconsent,
      hof, ?_⟩ hsound.profile
    unfold WritesAccount
    rw [if_neg hpurpose]
    exact hnone

theorem applyWithdrawal_advances {call : WithdrawalCall}
    (hsound : TransactionSound system.records transaction)
    (hcase : transaction.statement = .applyWithdrawal call)
    (hadvance : advance system transaction = some transaction') :
    Advances system transaction transaction' := by
  have hstatement := hsound.statement
  unfold advance at hadvance
  rw [hcase] at hadvance hstatement
  obtain ⟨hnone, consent, hconsent, hof⟩ := hstatement
  have huntouched : Advances system transaction { transaction with statement := .commit } :=
    advances_of_consent_eq hsound rfl ⟨call.purposeCode, .withdrawn, consent, hconsent, hof,
      Or.inl hnone⟩ hsound.profile
  by_cases hmarketing : marketingPurpose call.purposeCode = true
  · simp only [if_pos hmarketing] at hadvance
    apply writeProfile_advances hsound _ _ hadvance
    · intro profile
      exact ⟨rfl, rfl⟩
    · intro writes hsame haccount
      exact ⟨call.purposeCode, .withdrawn, consent, hsame.trans hconsent, hof,
        Or.inl (haccount.trans hnone)⟩
  · simp only [if_neg hmarketing] at hadvance
    by_cases hpurpose : call.purposeCode = loyaltyMembership
    · simp only [if_pos hpurpose] at hadvance
      cases haccount : system.records.account.filter (·.status = .active) with
      | none =>
          rw [haccount] at hadvance
          cases hadvance
          exact huntouched
      | some account =>
          rw [haccount] at hadvance
          exact writeAccount_advances hsound hconsent hof (Or.inr ⟨hpurpose, rfl⟩) hadvance
    · simp only [if_neg hpurpose] at hadvance
      cases hadvance
      exact huntouched

theorem advance_advances (hsound : TransactionSound system.records transaction)
    (hadvance : advance system transaction = some transaction') :
    Advances system transaction transaction' := by
  cases hcase : transaction.statement with
  | upsertAccount call => exact upsertAccount_advances hsound hcase hadvance
  | applyWithdrawal call => exact applyWithdrawal_advances hsound hcase hadvance
  | upsertProfile call contactType verifiedAt =>
      have hstatement := hsound.statement
      unfold advance at hadvance
      rw [hcase] at hadvance hstatement
      apply writeProfile_advances hsound _ _ hadvance
      · intro profile
        exact ⟨rfl, rfl⟩
      · intro writes hconsent haccount
        exact ⟨hstatement.1, hconsent.trans hstatement.2.1, haccount.trans hstatement.2.2⟩
  | insertGrant call verifiedAt =>
      have hstatement := hsound.statement
      unfold advance at hadvance
      rw [hcase] at hadvance hstatement
      apply insertConsentRow_advances hsound _ hadvance
      intro writes hconsent haccount
      exact ⟨haccount.trans hstatement.2.2, _, hconsent, hstatement.1, rfl, rfl, rfl⟩
  | readLatest call =>
      have hstatement := hsound.statement
      unfold advance at hadvance
      rw [hcase] at hadvance hstatement
      simp only at hadvance
      cases hlatest : (latestConsent system.records.consents call.scope call.profileId
          call.purposeCode).filter (·.decision = .granted) with
      | none =>
          rw [hlatest] at hadvance
          cases hadvance
          exact advances_of_rolledBack system transaction
      | some latest =>
          rw [hlatest] at hadvance
          cases hadvance
          obtain ⟨hscope, hprofileId, hnone, haccount⟩ := hstatement
          obtain ⟨hlatestScope, hlatestId, hpurpose, hgranted⟩ := consentOf_latestConsent hlatest
          exact advances_of_consent_eq hsound rfl ⟨hnone, haccount, hlatestScope.trans hscope,
            hlatestId.trans hprofileId, hpurpose, hgranted⟩ hsound.profile
  | insertWithdrawal call latest =>
      have hstatement := hsound.statement
      unfold advance at hadvance
      rw [hcase] at hadvance hstatement
      apply insertConsentRow_advances hsound _ hadvance
      intro writes hconsent haccount
      obtain ⟨-, hnone, hof⟩ := hstatement
      exact ⟨haccount.trans hnone, _, hconsent, hof.scope, hof.profileId, hof.purpose, rfl⟩
  | commit =>
      unfold advance at hadvance
      rw [hcase] at hadvance
      cases hadvance
  | ended =>
      unfold advance at hadvance
      rw [hcase] at hadvance
      cases hadvance

theorem consistent_opened (stalls : List CrmScope) (profile : CrmProfile)
    (clock : Timestamp) :
    Consistent (.opened stalls profile clock) where
  distinct := List.nodup_nil
  sound position transaction htransaction := by
    change ([] : List ConsentTransaction)[position]? = some transaction at htransaction
    rw [List.getElem?_nil] at htransaction
    cases htransaction
  apart := eachApart_nil

/-- A transaction goes on while the committed rows stay as they are. -/
theorem consistent_set (hconsistent : Consistent system)
    (htransaction : system.transactions[position]? = some transaction)
    (hadvances : Advances system transaction transaction') :
    Consistent { system with transactions := system.transactions.set position transaction' } where
  distinct := hconsistent.distinct
  sound := by
    apply forall_getElem?_set
    · intro index other _ hother
      exact hconsistent.sound index other hother
    · exact hadvances.sound
  apart := by
    apply eachApart_set (fun _ _ => apart_symm) hconsistent.apart
    intro index other hne hother one consent hone hconsent
    rcases hadvances.consent consent hconsent with hbefore | hfresh
    · exact hconsistent.apart index position other transaction hne hother htransaction one consent
        hone hbefore
    · exact hfresh other (List.mem_of_getElem? hother) one hone

theorem firstStatement_sound {stalls : List CrmScope} {profile : CrmProfile} {now : Timestamp}
    {call : ConsentCall} {statement : Statement}
    (hfirst : firstStatement stalls profile now call = some statement) :
    StatementSound profile .nothing statement := by
  cases call with
  | optIn call =>
      simp only [firstStatement] at hfirst
      split at hfirst
      · next hcontact =>
          rw [ofContact, Bool.and_eq_true, decide_eq_true_eq] at hcontact
          split at hfirst
          · cases hfirst
            exact ⟨hcontact.1.symm, rfl, rfl⟩
          · cases hfirst
      · cases hfirst
  | withdraw call =>
      simp only [firstStatement] at hfirst
      split at hfirst
      · next hchecks =>
          cases hfirst
          obtain ⟨-, -, hchecks⟩ := Checks.bind_eq_ok.mp hchecks
          obtain ⟨-, -, hlive⟩ := Checks.bind_eq_ok.mp hchecks
          rw [Checks.failWhen_eq_ok, Bool.not_eq_false'] at hlive
          simp only [isLive, Bool.and_eq_true, decide_eq_true_eq] at hlive
          exact ⟨hlive.1.2.symm, hlive.1.1.symm, rfl, rfl⟩
      · cases hfirst

theorem consistent_begin (hconsistent : Consistent system) (elapsed : ℕ) (call : ConsentCall) :
    Consistent (beginTransaction system elapsed call) := by
  cases hfirst : firstStatement system.stalls system.records.profile (system.clock + elapsed)
      call with
  | none =>
      simp only [beginTransaction, hfirst]
      exact ⟨hconsistent.distinct, hconsistent.sound, hconsistent.apart⟩
  | some statement =>
      simp only [beginTransaction, hfirst]
      refine ⟨hconsistent.distinct, fun position transaction htransaction => ?_, ?_⟩
      · have hmem := List.mem_of_getElem? htransaction
        rcases List.mem_append.mp hmem with hbefore | hnew
        · obtain ⟨index, hindex⟩ := List.mem_iff_getElem?.mp hbefore
          exact hconsistent.sound index transaction hindex
        · cases List.mem_singleton.mp hnew
          refine ⟨firstStatement_sound hfirst, fun profile hprofile => ?_,
            fun consent hconsent => ?_⟩
          · cases hprofile
          · cases hconsent
      · apply eachApart_append (fun _ _ => apart_symm) hconsistent.apart
        intro other _ one consent _ hconsent
        cases hconsent

theorem identity_commit (hsound : TransactionSound system.records transaction) :
    (system.records.commit transaction.writes).profile.scope = system.records.profile.scope
      ∧ (system.records.commit transaction.writes).profile.id = system.records.profile.id := by
  change (transaction.writes.profile.getD system.records.profile).scope = _
    ∧ (transaction.writes.profile.getD system.records.profile).id = _
  cases hwritten : transaction.writes.profile with
  | none => exact ⟨rfl, rfl⟩
  | some profile => exact hsound.profile profile hwritten

theorem consistent_commit (hconsistent : Consistent system)
    (htransaction : system.transactions[position]? = some transaction) :
    Consistent (commitTransaction system position transaction) := by
  unfold commitTransaction
  split
  · have hsound := hconsistent.sound position transaction htransaction
    obtain ⟨hscope, hid⟩ := identity_commit hsound
    refine ⟨?_, ?_, ?_⟩
    · change ((system.records.consents ++ transaction.writes.consent.toList).map (·.id)).Nodup
      cases hconsent : transaction.writes.consent with
      | none =>
          rw [Option.toList_none, List.append_nil]
          exact hconsistent.distinct
      | some consent =>
          exact nodup_concat hconsistent.distinct (hsound.fresh consent hconsent)
    · apply forall_getElem?_set
      · intro index other hne hother
        have hbefore := hconsistent.sound index other hother
        refine ⟨statementSound_congr hscope hid hbefore.statement, fun profile hprofile => ?_,
          fun consent hconsent stored hstored => ?_⟩
        · obtain ⟨hprofileScope, hprofileId⟩ := hbefore.profile profile hprofile
          exact ⟨hprofileScope.trans hscope.symm, hprofileId.trans hid.symm⟩
        · rcases List.mem_append.mp hstored with hold | hnew
          · exact hbefore.fresh consent hconsent stored hold
          · have hapart := hconsistent.apart position index transaction other hne.symm
              htransaction hother
            exact hapart stored consent (Option.mem_toList.mp hnew) hconsent
      · exact transactionSound_rolledBack _ transaction
    · apply eachApart_set (fun _ _ => apart_symm) hconsistent.apart
      intro index other _ _ one consent _ hconsent
      cases hconsent
  · exact hconsistent

theorem consistent_step (hconsistent : Consistent system) (command : ConsentCommand) :
    Consistent (consentStep system command) := by
  cases command with
  | begin elapsed call => exact consistent_begin hconsistent elapsed call
  | advance position =>
      cases htransaction : system.transactions[position]? with
      | none =>
          simp only [consentStep, htransaction, Option.bind_none]
          exact hconsistent
      | some transaction =>
          cases hadvance : advance system transaction with
          | none =>
              simp only [consentStep, htransaction, Option.bind_some, hadvance]
              exact hconsistent
          | some transaction' =>
              simp only [consentStep, htransaction, Option.bind_some, hadvance]
              have hsound := hconsistent.sound position transaction htransaction
              exact consistent_set hconsistent htransaction (advance_advances hsound hadvance)
  | commit position =>
      cases htransaction : system.transactions[position]? with
      | none =>
          simp only [consentStep, htransaction]
          exact hconsistent
      | some transaction =>
          simp only [consentStep, htransaction]
          exact consistent_commit hconsistent htransaction
  | rollback position =>
      cases htransaction : system.transactions[position]? with
      | none =>
          simp only [consentStep, htransaction]
          exact hconsistent
      | some transaction =>
          simp only [consentStep, htransaction]
          exact consistent_set hconsistent htransaction
            (advances_of_rolledBack system transaction)

/-! ## The order of commits -/

theorem agreesAfter_commit_iff (hconsistent : Consistent system) (hagrees : Agrees system.records)
    (htransaction : system.transactions[position]? = some transaction)
    (hcommit : transaction.statement = .commit) :
    Agrees (system.records.commit transaction.writes) ↔
      ∀ consent, transaction.writes.consent = some consent →
        consent.purposeCode = loyaltyMembership →
          CommitsInOrder system.records transaction.writes.account consent := by
  have hsound := hconsistent.sound position transaction htransaction
  have hstatement := hsound.statement
  rw [hcommit] at hstatement
  obtain ⟨purposeCode, decision, consent, hconsent, hof, hwrites⟩ := hstatement
  have hmembership := membership_commit hconsistent.distinct hsound.profile hconsent
    (hsound.fresh consent hconsent) hof.scope hof.profileId
  by_cases hpurpose : purposeCode = loyaltyMembership
  · have hloyalty : consent.purposeCode = loyaltyMembership := hof.purpose.trans hpurpose
    rw [decide_eq_true hloyalty, Bool.true_and] at hmembership
    rw [hpurpose] at hwrites
    rw [agrees_commit_iff hof.decided hwrites hmembership hagrees]
    constructor
    · intro horder other hother _
      cases hother.symm.trans hconsent
      exact horder
    · intro horder
      exact horder consent hconsent hloyalty
  · have hother : consent.purposeCode ≠ loyaltyMembership := by
      rw [hof.purpose]
      exact hpurpose
    rw [decide_eq_false hother, Bool.false_and] at hmembership
    apply iff_of_true (agrees_commit_other hpurpose hwrites hmembership hagrees)
    intro other hsame hloyalty
    cases hsame.symm.trans hconsent
    exact absurd hloyalty hother

theorem inOrder_iff (hconsistent : Consistent system) (hagrees : Agrees system.records)
    (command : ConsentCommand) : InOrder system command ↔ AgreesAfter system command := by
  unfold AgreesAfter
  cases command with
  | begin elapsed call =>
      apply iff_of_true trivial
      simp only [consentStep, beginTransaction]
      split <;> exact hagrees
  | advance position =>
      apply iff_of_true trivial
      simp only [consentStep]
      split <;> exact hagrees
  | rollback position =>
      apply iff_of_true trivial
      simp only [consentStep]
      split <;> exact hagrees
  | commit position =>
      unfold InOrder
      cases htransaction : system.transactions[position]? with
      | none =>
          simp only [consentStep, htransaction]
          apply iff_of_true _ hagrees
          intro transaction hnone
          cases hnone
      | some transaction =>
          simp only [consentStep, htransaction, Option.some.injEq, forall_eq']
          by_cases hcommit : transaction.statement = .commit
          · have hrecords : (commitTransaction system position transaction).records
                = system.records.commit transaction.writes := by
              simp only [commitTransaction, hcommit]
            rw [hrecords, agreesAfter_commit_iff hconsistent hagrees htransaction hcommit]
            exact forall_prop_of_true hcommit
          · have hsame : commitTransaction system position transaction = system := by
              unfold commitTransaction
              split
              · next hstatement => exact absurd hstatement hcommit
              · rfl
            rw [hsame]
            exact iff_of_true (fun hstatement => absurd hstatement hcommit) hagrees

end Steps

/-- In every run on a profile whose commits of consents to the membership are in
order, and in no other, the account follows the latest consent in all states. -/
theorem loyalty_follows_consent (stalls : List CrmScope) (profile : CrmProfile)
    (clock : Timestamp) (run : List ConsentCommand) :
    (Run.Safely consentStep InOrder (.opened stalls profile clock) run ↔
        Run.Safely consentStep AgreesAfter (.opened stalls profile clock) run)
      ∧ (Run.Safely consentStep InOrder (.opened stalls profile clock) run →
        Agrees (Run.exec consentStep (.opened stalls profile clock) run).records) := by
  have hstart : Consistent (.opened stalls profile clock)
      ∧ Agrees (ConsentSystem.opened stalls profile clock).records :=
    ⟨consistent_opened stalls profile clock, rfl⟩
  have hiff := Run.safely_congr
    (fun system : ConsentSystem => Consistent system ∧ Agrees system.records)
    (fun system command hinvariant => inOrder_iff hinvariant.1 hinvariant.2 command)
    (fun system command hinvariant hafter =>
      ⟨consistent_step hinvariant.1 command, hafter⟩) hstart run
  refine ⟨hiff, fun hsafe => ?_⟩
  exact (Run.invariant_of_safely
    (fun system : ConsentSystem => Consistent system ∧ Agrees system.records)
    (fun system command hinvariant hafter =>
      ⟨consistent_step hinvariant.1 command, hafter⟩) hstart (hiff.mp hsafe)).2

/-! ## An opt-in that began before a withdrawal -/

def sampleScope : CrmScope := ⟨1, 2⟩

def sampleProfile : CrmProfile where
  id := 10
  scope := sampleScope
  contactIdentifierHash := some (List.replicate 64 'a')
  contactReference := some "vault://customer".toList
  contactType := some .email
  contactVerifiedAt := some 0
  status := .active
  marketingSuppressedAt := none
  erasedAt := none
  retentionExpiresAt := days 365
  createdAt := 0
  updatedAt := 0

def sampleOptIn (consentId accountId : Uuid) : ConsentCall :=
  .optIn {
    enabled := true
    scope := sampleScope
    contactIdentifierHash := List.replicate 64 'a'
    contactReference := "vault://customer".toList
    contactType := "EMAIL".toList
    contactVerifiedAt := some 0
    purposeCode := loyaltyMembership
    noticeVersion := "1".toList
    consentSource := "WEB".toList
    lawfulBasis := "CONSENT".toList
    decision := "EXPLICIT_OPT_IN".toList
    requestId := "request".toList
    profileId := 11
    consentId := consentId
    accountId := accountId }

def sampleWithdrawal (consentId : Uuid) : ConsentCall :=
  .withdraw {
    enabled := true
    scope := sampleScope
    profileId := 10
    purposeCode := loyaltyMembership
    withdrawalSource := "WEB".toList
    withdrawalReason := "asked for it".toList
    requestId := "request".toList
    consentId := consentId }

/-- Execute the three statements of a transaction and commit it. -/
def finish (position : ℕ) : List ConsentCommand :=
  [.advance position, .advance position, .advance position, .commit position]

/-- A member opts in again and withdraws; the withdrawal begins last and is
committed first. -/
def overtakenOptIn : List ConsentCommand :=
  .begin 0 (sampleOptIn 20 30) :: finish 0
    ++ [.begin 1 (sampleOptIn 21 31), .begin 1 (sampleWithdrawal 22)] ++ finish 2 ++ finish 1

theorem overtaken_opt_in_reopens :
    (Run.exec consentStep (.opened [sampleScope] sampleProfile 0) overtakenOptIn).idle = true
      ∧ ¬ Agrees (Run.exec consentStep (.opened [sampleScope] sampleProfile 0)
        overtakenOptIn).records := by
  decide +kernel

end Stallorder.ConsentRaces
