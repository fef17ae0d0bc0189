import Stallorder.Core.Run
import Stallorder.Crm.CrmDatabase

/-!
# Posting loyalty events

`post_loyalty_points_event` looks its event up, waits for the account, checks
the event against the ledger, inserts the entry and adds up the balance.  The
calls run at the read committed level, where each of these statements sees what
has been committed when it starts, so each is a step of its own here.
-/

namespace Stallorder.LoyaltyEvents

open OrderContract SqlText Checks CrmDatabase

/-! ## Calls and answers -/

/-- The arguments of a call; any of them may be null. -/
structure PointsEvent where
  enabled : Bool
  scope : CrmScope
  accountId : Option Uuid
  entryType : Option Text
  pointsDelta : Option ℤ
  orderId : Option Uuid
  sourceEventType : Option Text
  sourceEventId : Option Text
  reversalOfLedgerId : Option Uuid
  actorProfileId : Option Uuid
  requestId : Option Text
  now : Timestamp

inductive EventRefusal
  | disabled
  | inputInvalid
  | accountNotFound
  | accountClosed
  | orderScopeInvalid
  | earnInputInvalid
  | adjustInputInvalid
  | expiryInputInvalid
  | reversalInputInvalid
  | alreadyReversed
  deriving DecidableEq

inductive EventAnswer
  | refused (code : EventRefusal)
  | conflict
  | replayed (entry : LedgerEntry) (balance : ℤ)
  | recorded (entry : LedgerEntry) (balance : ℤ)
  /-- An exception leaves the function. -/
  | raised
  deriving DecidableEq

abbrev Ledger := CheckedTable LedgerEntry entryCheck

/-! ## The statements -/

def entryTypeText : EntryType → Text
  | .earn => "EARN".toList
  | .adjust => "ADJUST".toList
  | .expire => "EXPIRE".toList
  | .reverse => "REVERSE".toList

def entryTypeOf (text : Text) : Option EntryType :=
  [EntryType.earn, .adjust, .expire, .reverse].find? (entryTypeText · = text)

def PointsEvent.type (event : PointsEvent) : Option EntryType := event.entryType.bind entryTypeOf

/-- The comparisons with a null argument are not true, except where it is asked for. -/
def inputInvalid (event : PointsEvent) : Bool :=
  event.entryType.any (fun text => (entryTypeOf text).isNone)
    || event.pointsDelta.all (fun delta => delta = 0 || 1_000_000 < |delta|)
    || event.sourceEventType.any (fun text => !codeText 1 79 text)
    || !trimmedLength (event.sourceEventId.getD []) 1 160
    || !trimmedLength (event.requestId.getD []) 1 100

def PointsEvent.sourceEventIdTrimmed (event : PointsEvent) : Text :=
  btrim (event.sourceEventId.getD [])

/-- The event that the call names, when its type is not null. -/
def PointsEvent.sourceEvent (event : PointsEvent) : Option (CrmScope × Text × Text) :=
  event.sourceEventType.map fun sourceEventType =>
    (event.scope, sourceEventType, event.sourceEventIdTrimmed)

def storedEntry (ledger : Ledger) (event : PointsEvent) : Option LedgerEntry :=
  ledger.findFirst fun entry => some entry.event = event.sourceEvent

def payloadMatches (existing : LedgerEntry) (event : PointsEvent) : Bool :=
  some existing.accountId = event.accountId
    && some (entryTypeText existing.entryType) = event.entryType
    && some existing.pointsDelta = event.pointsDelta
    && existing.orderId = event.orderId
    && existing.reversalOfLedgerId = event.reversalOfLedgerId
    && existing.actorProfileId = event.actorProfileId

def balanceOf (ledger : Ledger) (accountId : Uuid) : ℤ :=
  ledger.total fun entry => if entry.accountId = accountId then entry.pointsDelta else 0

def accountOf (db : CrmDb) (event : PointsEvent) : Option LoyaltyAccount :=
  db.accounts.findFirst fun account =>
    some account.id = event.accountId && account.scope = event.scope

def PointsEvent.delta (event : PointsEvent) : ℤ := event.pointsDelta.getD 0

/-- What each type of entry asks of the other arguments. -/
def typeChecks (event : PointsEvent) : Except EventRefusal Unit :=
  match event.type with
  | some .earn => failWhen (event.delta ≤ 0 || event.orderId.isNone
      || event.reversalOfLedgerId.isSome) .earnInputInvalid
  | some .adjust => failWhen (event.reversalOfLedgerId.isSome || event.actorProfileId.isNone)
      .adjustInputInvalid
  | some .expire => failWhen (0 ≤ event.delta || event.reversalOfLedgerId.isSome)
      .expiryInputInvalid
  | some .reverse => failWhen (0 ≤ event.delta || event.reversalOfLedgerId.isNone)
      .reversalInputInvalid
  | none => failWhen event.reversalOfLedgerId.isSome .reversalInputInvalid

def accountChecks (db : CrmDb) (account : LoyaltyAccount) (event : PointsEvent) :
    Except EventRefusal Unit := do
  failWhen (account.status ≠ .active && event.entryType.any (· ≠ entryTypeText .reverse))
    .accountClosed
  failWhen (event.orderId.any fun orderId =>
    !db.orders.any fun order => order.id = orderId && order.scope = event.scope) .orderScopeInvalid
  typeChecks event

/-- The positive entry of the same account that a reversal names. -/
def originalEntry (ledger : Ledger) (event : PointsEvent) : Option LedgerEntry :=
  ledger.findFirst fun entry => some entry.id = event.reversalOfLedgerId
    && entry.scope = event.scope && some entry.accountId = event.accountId
    && 0 < entry.pointsDelta

def reverses (event : PointsEvent) (original : LedgerEntry) : Bool :=
  event.delta = -original.pointsDelta && event.orderId = original.orderId

def reversalStored (ledger : Ledger) (event : PointsEvent) : Bool :=
  ledger.table.rows.any fun entry =>
    entry.reversalOfLedgerId.isSome && entry.reversalOfLedgerId = event.reversalOfLedgerId

/-- The row to insert, when no column that must not be null is null. -/
def newEntry (id : Uuid) (event : PointsEvent) : Option LedgerEntry := do
  let accountId ← event.accountId
  let entryType ← event.type
  let pointsDelta ← event.pointsDelta
  let sourceEventType ← event.sourceEventType
  return {
    id := id
    scope := event.scope
    accountId := accountId
    entryType := entryType
    pointsDelta := pointsDelta
    orderId := event.orderId
    sourceEventType := sourceEventType
    sourceEventId := event.sourceEventIdTrimmed
    reversalOfLedgerId := event.reversalOfLedgerId
    actorProfileId := event.actorProfileId
    createdAt := event.now }

/-! ## Calls in progress -/

inductive Stage
  /-- The event was not stored; the account is next. -/
  | looking
  | locked (account : LoyaltyAccount)
  /-- The entry to reverse was found. -/
  | matched
  | checked
  /-- The entry is inserted and not committed. -/
  | inserted (entry : LedgerEntry)
  | totalled (entry : LedgerEntry) (balance : ℤ)
  /-- The insertion violated a unique index; the account is no longer locked. -/
  | violated
  | replaying (entry : LedgerEntry)
  | answered (answer : EventAnswer)
  deriving DecidableEq

def Stage.locksAccount : Stage → Bool
  | .locked _ | .matched | .checked | .inserted _ | .totalled _ _ => true
  | _ => false

/-- The entry that is inserted and not committed. -/
def Stage.pending : Stage → Option LedgerEntry
  | .inserted entry | .totalled entry _ => some entry
  | _ => none

structure LoyaltyCall where
  event : PointsEvent
  stage : Stage

structure LoyaltySystem where
  db : CrmDb
  calls : List LoyaltyCall

/-- A ledger that is empty, of any accounts. -/
def LoyaltySystem.opened (db : CrmDb) : LoyaltySystem where
  db := { db with ledger := .empty }
  calls := []

/-! ## The steps of a call -/

/-- What comes of a call whose event has this entry. -/
def answerStored (event : PointsEvent) (entry : LedgerEntry) : Stage :=
  if payloadMatches entry event then .replaying entry else .answered .conflict

def beginEvent (ledger : Ledger) (event : PointsEvent) : Stage :=
  if !event.enabled then .answered (.refused .disabled)
  else if inputInvalid event then .answered (.refused .inputInvalid)
  else
    match storedEntry ledger event with
    | some entry => answerStored event entry
    | none => .looking

/-- Another call holds the account. -/
def accountLocked (calls : List LoyaltyCall) (account : LoyaltyAccount) : Bool :=
  calls.any fun call => call.stage.locksAccount && call.event.accountId = some account.id

/-- `none` when the call has to wait. -/
def lockAccount (system : LoyaltySystem) (event : PointsEvent) : Option Stage :=
  match accountOf system.db event with
  | none => some (.answered (.refused .accountNotFound))
  | some account => if accountLocked system.calls account then none else some (.locked account)

def checkEvent (db : CrmDb) (account : LoyaltyAccount) (event : PointsEvent) : Stage :=
  match accountChecks db account event with
  | .error code => .answered (.refused code)
  | .ok () =>
      if event.type = some .reverse then
        if (originalEntry db.ledger event).any (reverses event) then .matched
        else .answered (.refused .reversalInputInvalid)
      else .checked

def checkReversal (ledger : Ledger) (event : PointsEvent) : Stage :=
  if reversalStored ledger event then .answered (.refused .alreadyReversed) else .checked

/-- What the database does with the insertion of an entry. -/
inductive Insertion
  /-- A column is null, or a check constraint refuses the row. -/
  | malformed
  /-- The generated id is one that was generated before. -/
  | staleId
  /-- An entry that is not committed agrees on a unique index. -/
  | waits
  | violates
  | actorMissing
  | inserts (entry : LedgerEntry)

def pendingEntries (calls : List LoyaltyCall) : List LedgerEntry :=
  calls.filterMap (·.stage.pending)

def insertion (system : LoyaltySystem) (id : Uuid) (event : PointsEvent) : Insertion :=
  match newEntry id event with
  | none => .malformed
  | some entry =>
      if !entryCheck entry then .malformed
      else if (system.db.ledger.table.rows ++ pendingEntries system.calls).any (·.id = id) then
        .staleId
      else if (pendingEntries system.calls).any (Indexed.collides · entry) then .waits
      else if system.db.ledger.table.rows.any (Indexed.collides · entry) then .violates
      else if entry.actorProfileId.any (· ∉ system.db.actors) then .actorMissing
      else .inserts entry

/-- A generated id is never one that was generated before. -/
def insertEntry (system : LoyaltySystem) (id : Uuid) (event : PointsEvent) : Option Stage :=
  match insertion system id event with
  | .malformed | .actorMissing => some (.answered .raised)
  | .staleId | .waits => none
  | .violates => some .violated
  | .inserts entry => some (.inserted entry)

def handleViolation (ledger : Ledger) (event : PointsEvent) : Stage :=
  match storedEntry ledger event with
  | some entry => answerStored event entry
  | none => .answered (.refused .alreadyReversed)

def commitEntry (db : CrmDb) (entry : LedgerEntry) (balance : ℤ) : Option (CrmDb × Stage) := do
  let ledger ← db.ledger.insert? entry
  return ({ db with ledger }, .answered (.recorded entry balance))

/-- The next statement of a call; `none` when it waits or has ended. -/
def nextStage (system : LoyaltySystem) (id : Uuid) (call : LoyaltyCall) :
    Option (CrmDb × Stage) :=
  let db := system.db
  match call.stage with
  | .looking => (lockAccount system call.event).map (db, ·)
  | .locked account => some (db, checkEvent db account call.event)
  | .matched => some (db, checkReversal db.ledger call.event)
  | .checked => (insertEntry system id call.event).map (db, ·)
  | .inserted entry =>
      some (db, .totalled entry (balanceOf db.ledger entry.accountId + entry.pointsDelta))
  | .totalled entry balance => commitEntry db entry balance
  | .violated => some (db, handleViolation db.ledger call.event)
  | .replaying entry =>
      some (db, .answered (.replayed entry (balanceOf db.ledger entry.accountId)))
  | .answered _ => none

/-! ## Runs -/

inductive LoyaltyCommand
  | start (event : PointsEvent)
  /-- Execute the next statement of a call; `id` is what the database generates. -/
  | advance (position : ℕ) (id : Uuid)

def loyaltyStep (system : LoyaltySystem) : LoyaltyCommand → LoyaltySystem
  | .start event =>
      { system with calls := system.calls ++ [⟨event, beginEvent system.db.ledger event⟩] }
  | .advance position id =>
      match system.calls[position]? with
      | none => system
      | some call =>
          match nextStage system id call with
          | none => system
          | some (db, stage) =>
              { db := db, calls := system.calls.set position { call with stage := stage } }

end Stallorder.LoyaltyEvents
