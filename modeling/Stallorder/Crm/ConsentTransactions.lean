import Stallorder.Crm.CrmService

/-!
# Opt-ins and withdrawals that interleave

The statements of the transactions on one profile, each a step of its own.  What
a transaction writes is its own until it commits, and another one that writes
the same row waits; what it reads has been committed.  The consents are stamped
with the time at which their transaction began.
-/

namespace Stallorder.ConsentTransactions

open OrderContract SqlText CrmDatabase CrmService

/-! ## The rows of a profile -/

/-- The committed rows of one profile. -/
structure ProfileRecords where
  profile : CrmProfile
  consents : List ConsentRecord
  account : Option LoyaltyAccount

/-- What a transaction has written and not committed. -/
structure Writes where
  profile : Option CrmProfile
  consent : Option ConsentRecord
  account : Option LoyaltyAccount

def Writes.nothing : Writes := ⟨none, none, none⟩

def ProfileRecords.commit (records : ProfileRecords) (writes : Writes) : ProfileRecords where
  profile := writes.profile.getD records.profile
  consents := records.consents ++ writes.consent.toList
  account := writes.account.or records.account

/-! ## Transactions -/

inductive ConsentCall
  | optIn (call : OptInCall)
  | withdraw (call : WithdrawalCall)

/-- The statement that a transaction executes next. -/
inductive Statement
  | upsertProfile (call : OptInCall) (contactType : ContactType) (verifiedAt : Timestamp)
  | insertGrant (call : OptInCall) (verifiedAt : Timestamp)
  | upsertAccount (call : OptInCall)
  | readLatest (call : WithdrawalCall)
  | insertWithdrawal (call : WithdrawalCall) (latest : ConsentRecord)
  | applyWithdrawal (call : WithdrawalCall)
  | commit
  | ended

structure ConsentTransaction where
  startedAt : Timestamp
  statement : Statement
  writes : Writes

structure ConsentSystem where
  stalls : List CrmScope
  records : ProfileRecords
  transactions : List ConsentTransaction
  clock : Timestamp

def ConsentSystem.opened (stalls : List CrmScope) (profile : CrmProfile) (clock : Timestamp) :
    ConsentSystem where
  stalls := stalls
  records := ⟨profile, [], none⟩
  transactions := []
  clock := clock

def Statement.isEnd : Statement → Bool
  | .ended => true
  | _ => false

/-- No transaction is in progress. -/
def ConsentSystem.idle (system : ConsentSystem) : Bool :=
  system.transactions.all (·.statement.isEnd)

/-- The first statement of a call on the profile that passes the checks of its input. -/
def firstStatement (stalls : List CrmScope) (profile : CrmProfile) (now : Timestamp) :
    ConsentCall → Option Statement
  | .optIn call =>
      if ofContact call.scope call.contactIdentifierHash profile then
        match optInChecks stalls now call with
        | .ok (contactType, verifiedAt) => some (.upsertProfile call contactType verifiedAt)
        | .error _ => none
      else none
  | .withdraw call =>
      match withdrawalChecks (isLive call.scope call.profileId profile) call with
      | .ok () => some (.readLatest call)
      | .error _ => none

/-! ## The statements -/

def profileLocked (transactions : List ConsentTransaction) : Bool :=
  transactions.any (·.writes.profile.isSome)

def accountLocked (transactions : List ConsentTransaction) : Bool :=
  transactions.any (·.writes.account.isSome)

/-- A generated id is never one that was generated before. -/
def freshConsentId (system : ConsentSystem) (id : Uuid) : Bool :=
  system.records.consents.all (·.id ≠ id)
    && system.transactions.all fun other => other.writes.consent.all (·.id ≠ id)

def ConsentTransaction.rolledBack (transaction : ConsentTransaction) : ConsentTransaction :=
  { transaction with statement := .ended, writes := .nothing }

/-- Insert a consent; a check constraint that refuses it ends the transaction. -/
def insertConsentRow (system : ConsentSystem) (transaction : ConsentTransaction)
    (row : ConsentRecord) (next : Statement) : Option ConsentTransaction :=
  if !consentCheck row then some transaction.rolledBack
  else if freshConsentId system row.id then
    some { transaction with
      statement := next
      writes := { transaction.writes with consent := some row } }
  else none

def writeProfile (system : ConsentSystem) (transaction : ConsentTransaction)
    (change : CrmProfile → CrmProfile) (next : Statement) : Option ConsentTransaction :=
  if profileLocked system.transactions then none
  else some { transaction with
    statement := next
    writes := { transaction.writes with profile := some (change system.records.profile) } }

def writeAccount (system : ConsentSystem) (transaction : ConsentTransaction)
    (account : LoyaltyAccount) : Option ConsentTransaction :=
  if accountLocked system.transactions then none
  else some { transaction with
    statement := .commit
    writes := { transaction.writes with account := some account } }

/-- The account that an opt-in stores or, on a conflict, reopens. -/
def joinedAccount (records : ProfileRecords) (now : Timestamp) (call : OptInCall) :
    LoyaltyAccount :=
  match records.account with
  | some account => reopened now account
  | none => openAccount now call records.profile.id

/-- The next statement of a transaction; `none` when it waits or has ended. -/
def advance (system : ConsentSystem) (transaction : ConsentTransaction) :
    Option ConsentTransaction :=
  let records := system.records
  let now := transaction.startedAt
  match transaction.statement with
  | .upsertProfile call contactType verifiedAt =>
      writeProfile system transaction (optedIn now call contactType verifiedAt)
        (.insertGrant call verifiedAt)
  | .insertGrant call verifiedAt =>
      insertConsentRow system transaction
        (grantedConsent now call records.profile.id verifiedAt) (.upsertAccount call)
  | .upsertAccount call =>
      if call.purposeCode = loyaltyMembership then
        writeAccount system transaction (joinedAccount records now call)
      else some { transaction with statement := .commit }
  | .readLatest call =>
      match (latestConsent records.consents call.scope call.profileId
          call.purposeCode).filter (·.decision = .granted) with
      | some latest => some { transaction with statement := .insertWithdrawal call latest }
      | none => some transaction.rolledBack
  | .insertWithdrawal call latest =>
      insertConsentRow system transaction (withdrawnConsent now call.consentId latest
        call.withdrawalSource (btrim call.withdrawalReason) call.requestId) (.applyWithdrawal call)
  | .applyWithdrawal call =>
      if marketingPurpose call.purposeCode then
        writeProfile system transaction (unsubscribed now fun _ => now) .commit
      else if call.purposeCode = loyaltyMembership then
        -- an account that is not active when the statement starts is not waited for
        match records.account.filter (·.status = .active) with
        | some account => writeAccount system transaction (closed now account)
        | none => some { transaction with statement := .commit }
      else some { transaction with statement := .commit }
  | .commit | .ended => none

/-! ## Runs -/

inductive ConsentCommand
  | begin (elapsed : ℕ) (call : ConsentCall)
  /-- Execute the next statement of a transaction. -/
  | advance (position : ℕ)
  | commit (position : ℕ)
  | rollback (position : ℕ)

def beginTransaction (system : ConsentSystem) (elapsed : ℕ) (call : ConsentCall) :
    ConsentSystem :=
  let now := system.clock + elapsed
  match firstStatement system.stalls system.records.profile now call with
  | some statement =>
      { system with
        clock := now
        transactions := system.transactions ++ [⟨now, statement, .nothing⟩] }
  | none => { system with clock := now }

def commitTransaction (system : ConsentSystem) (position : ℕ)
    (transaction : ConsentTransaction) : ConsentSystem :=
  match transaction.statement with
  | .commit =>
      { system with
        records := system.records.commit transaction.writes
        transactions := system.transactions.set position transaction.rolledBack }
  | _ => system

def consentStep (system : ConsentSystem) : ConsentCommand → ConsentSystem
  | .begin elapsed call => beginTransaction system elapsed call
  | .advance position =>
      match system.transactions[position]?.bind (advance system) with
      | some transaction =>
          { system with transactions := system.transactions.set position transaction }
      | none => system
  | .commit position =>
      match system.transactions[position]? with
      | some transaction => commitTransaction system position transaction
      | none => system
  | .rollback position =>
      match system.transactions[position]? with
      | some transaction =>
          { system with transactions := system.transactions.set position transaction.rolledBack }
      | none => system

end Stallorder.ConsentTransactions
