import AutPlay.Lib.Follow
import AutPlay.Catalog.Publisher

/-!
# Pulling the log, and the tombstones

* `OpaqueCursor`          the signed texts that carry a position;
* `bind`, `pull`          the requests of a device;
* `compactTombstones`     what removes a tombstone.

The columns that only describe a device (its name, its platform, the times) are left out.
-/

set_option linter.unusedSectionVars false

namespace AutPlay.Sync
open Result Follow

/-- The codes of a `SyncError`. -/
inductive SyncFault
  | unsupportedProtocolVersion
  | bindingMismatch
  | requestValidationFailed
  | journalResetRequired
  | cursorInvalid
  | bootstrapSnapshotInvalid
  deriving DecidableEq, Repr

/-! ## opaque cursors -/

/-- What a cursor signs; `expiresAt` is in seconds. -/
inductive CursorBody
  | sync (userId deviceId epoch : Uuid) (sequence expiresAt : Int)
  | bootstrap (snapshotId userId deviceId epoch : Uuid) (ordinal expiresAt : Int)
  deriving DecidableEq

/-- `OpaqueCursor` with its secret: the text of a signed body, and the body of a text whose signature holds. -/
structure OpaqueCursor where
  text : CursorBody → String
  verified : String → Option CursorBody
  verified_text : ∀ body, verified (text body) = some body

def second : Int := 1000000

/-- `int(now.timestamp())` -/
def timestamp (now : Int) : Int := now / second

namespace OpaqueCursor
variable (cursors : OpaqueCursor)

def encode (userId deviceId epoch : Uuid) (sequence now : Int) : String :=
  cursors.text (.sync userId deviceId epoch sequence (timestamp now + 3600))

def decode (value : String) (userId deviceId epoch : Uuid) (now : Int) : Except SyncFault Int :=
  match cursors.verified value with
  | some (.sync u d e s x) =>
    if u = userId ∧ d = deviceId ∧ e = epoch ∧ timestamp now ≤ x ∧ 0 ≤ s then .ok s else .error .cursorInvalid
  | _ => .error .cursorInvalid

def encodeBootstrap (snapshotId userId deviceId epoch : Uuid) (ordinal now : Int) : String :=
  cursors.text (.bootstrap snapshotId userId deviceId epoch ordinal (timestamp now + 3600))

def decodeBootstrap (value : String) (snapshotId userId deviceId epoch : Uuid) (now : Int) : Except SyncFault Int :=
  match cursors.verified value with
  | some (.bootstrap n u d e o x) =>
    if n = snapshotId ∧ u = userId ∧ d = deviceId ∧ e = epoch ∧ 0 ≤ o ∧ timestamp now ≤ x then .ok o
    else .error .bootstrapSnapshotInvalid
  | _ => .error .bootstrapSnapshotInvalid

end OpaqueCursor

/-! ## requests -/

/-- The part of a request that names its journal. -/
structure JournalBinding where
  protocolVersion : Int
  deviceId : Uuid
  userId : Option Uuid
  journalEpoch : Uuid

/-- `_binding`; the device of the request is the caller's. -/
def binding (p : Principal) (body : JournalBinding) : Except SyncFault Uuid :=
  if body.protocolVersion ≠ 1 then .error .unsupportedProtocolVersion
  else if body.deviceId ≠ p.deviceId ∨ body.userId.getD p.userId ≠ p.userId then .error .bindingMismatch
  else .ok body.journalEpoch

/-- The device of the caller may be bound. -/
def bindable (p : Principal) : Option DeviceRow → Bool
  | none => false
  | some device => device.userId = p.userId ∧ device.revokedAt = none

/-- **`bind`**; `described` says that the name, the platform and the version of the device are valid. -/
def bind (db : SyncDb) (p : Principal) (body : JournalBinding) (described : Bool) : Except SyncFault SyncDb := do
  let epoch ← binding p body
  if ¬bindable p (db.devices.find p.deviceId) then .error .bindingMismatch
  else if ¬described then .error .requestValidationFailed
  else
    let bound := (db.cursors.find p.deviceId).bind CursorRow.journalEpoch
    if bound.getD epoch ≠ epoch then .error .journalResetRequired
    else
      let cursor : CursorRow := ⟨p.deviceId, p.userId, 0, 0, some epoch⟩
      return { db with cursors := db.cursors.upsert cursor fun row => { row with journalEpoch := some epoch } }

structure PullBody where
  binding : JournalBinding
  limit : Int
  cursor : Option String
  catalogProjectionVersion : Option Int
  capabilities : List String

/-- `_MAX_PULL` -/
def maxPull : Int := 500

def catalogArtistIdV1 : String := "CATALOG_ARTIST_ID_V1"

/-- `_catalog_enabled` -/
def PullBody.catalogEnabled (body : PullBody) : Bool :=
  body.catalogProjectionVersion = some 1 ∨ catalogArtistIdV1 ∈ body.capabilities

/-- The rows of an owner. -/
def ownedLog (db : SyncDb) (userId : Uuid) : List SyncEventRow :=
  db.syncEvents.rows.filter fun row => row.userId = userId

/-- `_server_event` -/
structure ServerEvent where
  row : SyncEventRow
  tombstone : Option TombstoneRow

/-- The tombstone of a row, among those of the deletions. -/
def tombstoneOf (db : SyncDb) (row : SyncEventRow) : Option TombstoneRow :=
  if row.operation = .delete then
    db.tombstones.rows.find? fun tombstone => tombstone.deletedByEventId = row.eventId
  else none

/-- The rows that a client without the catalogue projection does not see are left out. -/
def shownTo (catalog : Bool) (row : SyncEventRow) : Bool :=
  catalog || decide (row.aggregateType ∉ Catalog.catalogAggregates)

structure PullPage where
  fromCursor : Option String
  nextCursor : String
  hasMore : Bool
  events : List ServerEvent

/-- The sequence of the cursor of a request. -/
def presentedSequence (cursors : OpaqueCursor) (p : Principal) (epoch : Uuid) (cursor : Option String)
    (now : Int) : Except SyncFault Int :=
  match cursor with
  | none => .ok 0
  | some token => cursors.decode token p.userId p.deviceId epoch now

/-- `cursor.last_pulled_server_sequence = max(...)` -/
def SyncDb.acknowledge (db : SyncDb) (deviceId : Uuid) (sequence : Int) : SyncDb :=
  { db with cursors := db.cursors.updateWhere (fun row => row.deviceId = deviceId) fun row =>
      { row with lastPulledServerSequence := max row.lastPulledServerSequence sequence } }

/-- The journal of a device is bound with an epoch. -/
def boundTo (epoch : Uuid) : Option CursorRow → Bool
  | none => false
  | some cursor => cursor.journalEpoch = some epoch

/-- The page of an owner behind a sequence. -/
def pullPage (cursors : OpaqueCursor) (db : SyncDb) (p : Principal) (epoch : Uuid) (body : PullBody)
    (sequence now : Int) : PullPage :=
  let answer := answerTo SyncEventRow.serverSequence (ownedLog db p.userId) sequence body.limit.toNat
  { fromCursor := body.cursor
    nextCursor := cursors.encode p.userId p.deviceId epoch answer.next now
    hasMore := answer.more
    events := (answer.rows.filter (shownTo body.catalogEnabled)).map fun row => ⟨row, tombstoneOf db row⟩ }

/-- **`pull`** -/
def pull (cursors : OpaqueCursor) (db : SyncDb) (p : Principal) (body : PullBody) (now : Int) :
    Except SyncFault (PullPage × SyncDb) := do
  let epoch ← binding p body.binding
  if ¬(1 ≤ body.limit ∧ body.limit ≤ maxPull) then .error .requestValidationFailed
  else
    let sequence ← presentedSequence cursors p epoch body.cursor now
    if ¬boundTo epoch (db.cursors.find p.deviceId) then .error .journalResetRequired
    else return (pullPage cursors db p epoch body sequence now, db.acknowledge p.deviceId sequence)

/-! ## compaction -/

/-- The cursor of a device has not reached a sequence. -/
def unacknowledged (sequence : Int) : Option CursorRow → Bool
  | none => true
  | some cursor => cursor.lastPulledServerSequence < sequence

/-- A device that keeps a tombstone. -/
def pendingDevice (db : SyncDb) (userId : Uuid) (sequence : Int) (device : DeviceRow) : Bool :=
  device.userId = userId ∧ device.revokedAt = none ∧
    unacknowledged sequence (db.cursors.find device.deviceId) = true

/-- The step of the loop: a tombstone that every device acknowledged is removed. -/
def compactTombstone (db : SyncDb) (tombstone : TombstoneRow) : SyncDb :=
  match db.syncEvents.find tombstone.deletedByEventId with
  | none => db
  | some event =>
    if db.devices.rows.countP (pendingDevice db tombstone.userId event.serverSequence) = 0 then
      { db with tombstones := db.tombstones.erase (Schema.key tombstone) }
    else db

/-- **`compact_tombstones`** -/
def compactTombstones (db : SyncDb) (now : Int) : SyncDb :=
  (db.tombstones.rows.filter fun tombstone => tombstone.retainUntil ≤ now).foldl compactTombstone db

end AutPlay.Sync
