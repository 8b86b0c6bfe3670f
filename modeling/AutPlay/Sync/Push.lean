import AutPlay.Sync.Interaction

/-!
# Pushing events

`pushOne` is the transaction of one event: the checks against the cursor, the inbox and the
idempotency records, the projection, and the terminal acknowledgement that is stored with the inbox
row.  `push` runs the transactions of a batch one after another.

A transaction that ends with `Except.error` is rolled back: its caller keeps the database it had.
-/

set_option linter.unusedSectionVars false

namespace AutPlay.Sync

/-- Text columns and the payload of an event that the inbox stores. -/
def Event.storable (e : Event) : Bool :=
  noNul e.eventType.text && noNul e.aggregateType.text && noNul e.idempotencyKey &&
    Json.storableFields e.payload

/-- The inbox row of an event with its terminal acknowledgement. -/
def inboxRow (p : Principal) (e : Event) (deviceSequence schemaVersion : Int) (base : Option Int)
    (ack : Ack) : InboxRow where
  eventId := e.eventId
  deviceId := p.deviceId
  userId := p.userId
  deviceSequence := deviceSequence
  eventType := e.eventType
  schemaVersion := schemaVersion
  aggregateType := e.aggregateType
  aggregateId := e.aggregateId
  aggregateLocalId := e.aggregateLocalId
  idempotencyKey := e.idempotencyKey
  baseServerRowVersion := base
  payload := e.payload
  occurredAt := e.occurredAt
  requestHash := e.requestHash
  applyStatus := ack.outcome
  errorCode := ack.error.map ErrorBody.code
  terminalAck := some ack

/-- `INSERT` into `sync.device_event_inbox`; the row and its terminal acknowledgement are committed
together. -/
def SyncDb.insertInbox (db : SyncDb) (p : Principal) (e : Event) (deviceSequence : Int) (ack : Ack) :
    Except Abort SyncDb := do
  if e.storable then
    let schemaVersion ← e.schemaVersion.toInteger
    let base ← e.baseVersion.mapM PyInt.toBigint
    let inbox ← insertInto .deviceEventInbox db.inbox
      (inboxRow p e deviceSequence schemaVersion base ack)
    return { db with inbox := inbox }
  else throw .nulCharacter

/-- **`_apply_event`**. -/
def applyEvent (env : Env) (db : SyncDb) (p : Principal) (e : Event) (now : Int)
    (requestId : Uuid) : Except Abort (Ack × SyncDb) :=
  if e.schemaVersion.val ≠ 1 then
    .ok (rejected e .unsupportedSchemaVersion requestId false, db)
  else if e.eventType = .listeningEventRecorded ∨
      e.eventType = .recommendationImpressionRecorded ∨
      e.eventType = .recommendationFeedbackRecorded then
    applyInteraction env db p e now requestId
  else if (genericEventTypes.lookup e.eventType).isSome ∨ e.eventType = .aggregateDeleted then
    applyGeneric env db p e now requestId
  else .ok (rejected e .unsupportedEventType requestId false, db)

def idempotencyScope (p : Principal) (epoch : Uuid) : IdempotencyScope :=
  ⟨p.userId, p.deviceId, epoch⟩

/-- The event is next in its journal and unknown: project it and record its acknowledgement. -/
def accept (env : Env) (db : SyncDb) (p : Principal) (epoch : Uuid) (cursor : CursorRow)
    (e : Event) (sequence : Int) (now : Int) (requestId : Uuid) : Except Abort (Ack × SyncDb) := do
  let (ack, db) ← applyEvent env db p e now requestId
  let db ← db.insertInbox p e sequence ack
  let idempotency ← insertInto .idempotencyRecord db.idempotency
    { scope := idempotencyScope p epoch, idempotencyKey := e.idempotencyKey,
      requestHash := e.requestHash, responseReference := some ack }
  let cursors ← updateIn .deviceSyncCursor db.cursors
    { cursor with lastAckedDeviceSequence := sequence }
  return (ack, { db with idempotency := idempotency, cursors := cursors })

/-- The row that has the sequence number of an event in the journal of its device. -/
def sameSequence (db : SyncDb) (p : Principal) (sequence : Int) : Option InboxRow :=
  db.inbox.rows.find? (fun r => r.deviceId = p.deviceId ∧ r.deviceSequence = sequence)

/-- The idempotency record of an event. -/
def idempotencyRecord (db : SyncDb) (p : Principal) (epoch : Uuid) (e : Event) :
    Option IdempotencyRow :=
  db.idempotency.find (idempotencyScope p epoch, e.idempotencyKey)

/-- **`_push_one`**, the transaction of one event. -/
def pushOne (env : Env) (db : SyncDb) (p : Principal) (epoch : Uuid) (e : Event) (now : Int)
    (requestId : Uuid) : Except Abort (Ack × SyncDb) :=
  let reject (code : RejectCode) (retryable : Bool) : Except Abort (Ack × SyncDb) :=
    .ok (rejected e code requestId retryable, db)
  let replay (stored : Option Ack) : Except Abort (Ack × SyncDb) :=
    match stored with
    | some ack => .ok (duplicate ack e, db)
    | none => .error .inboxCorrupt
  match db.cursors.find p.deviceId with
  | none => reject .journalResetRequired false
  | some cursor =>
    if cursor.journalEpoch ≠ some epoch then reject .journalResetRequired false
    else
      match db.inbox.find e.eventId with
      | some existing =>
        if existing.requestHash ≠ e.requestHash then reject .eventHashMismatch false
        else replay existing.terminalAck
      | none => do
        let sequence ← e.deviceSequence.toBigint
        if (sameSequence db p sequence).isSome then reject .deviceSequenceReuse false
        else
          let next :=
            if sequence ≠ cursor.lastAckedDeviceSequence + 1 then reject .deviceSequenceGap true
            else accept env db p epoch cursor e sequence now requestId
          match idempotencyRecord db p epoch e with
          | none => next
          | some record =>
            if record.requestHash ≠ e.requestHash then reject .idempotencyKeyReuse false
            else
              match record.responseReference with
              | some ack => replay (some ack)
              | none => next

/-! ## batches -/

/-- The database after a transaction: what it committed, or what was there when it aborted. -/
def commit {α : Type} (db : SyncDb) : Except Abort (α × SyncDb) → SyncDb
  | .ok (_, db') => db'
  | .error _ => db

/-- **`push`**: the transactions of a batch, in order; the first that raises ends the batch.  An
event that the envelope validation refuses (`none`) raises before its transaction writes. -/
def push (env : Env) (p : Principal) (epoch : Uuid) (now : Int) (requestId : Uuid) :
    SyncDb → List (Option Event) → List Ack × SyncDb
  | db, [] => ([], db)
  | db, none :: _ => ([], db)
  | db, some e :: rest =>
    match pushOne env db p epoch e now requestId with
    | .error _ => ([], db)
    | .ok (ack, db') =>
      let (acks, db'') := push env p epoch now requestId db' rest
      (ack :: acks, db'')

end AutPlay.Sync
