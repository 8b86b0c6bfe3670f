import AutPlay.Lib.Table
import AutPlay.Lib.Result
import AutPlay.Sync.Event

/-!
# The tables of the sync runtime

One structure for each mapped row, with its primary key and partial unique index, and `SyncDb`,
the state that every transaction reads and writes.  Columns that no modelled function reads
(creation times, ratings, the surrogate `tombstone_id`) are left out.

* `insertInto`, `updateIn`     a write, with the constraint it violates as an `Abort`.
-/

set_option linter.unusedSectionVars false

namespace AutPlay.Sync

structure Principal where
  userId : Uuid
  deviceId : Uuid
  deriving DecidableEq

/-! ## account and sync schema -/

structure DeviceRow where
  deviceId : Uuid
  userId : Uuid
  revokedAt : Option Int
  deriving DecidableEq

instance : Schema DeviceRow Uuid Empty := ⟨DeviceRow.deviceId, fun _ => none⟩

structure CursorRow where
  deviceId : Uuid
  userId : Uuid
  lastPulledServerSequence : Int
  lastAckedDeviceSequence : Int
  journalEpoch : Option Uuid
  deriving DecidableEq

instance : Schema CursorRow Uuid Empty := ⟨CursorRow.deviceId, fun _ => none⟩

structure InboxRow where
  eventId : Uuid
  deviceId : Uuid
  userId : Uuid
  deviceSequence : Int
  eventType : EventType
  schemaVersion : Int
  aggregateType : AggregateType
  aggregateId : Uuid
  aggregateLocalId : Uuid
  idempotencyKey : String
  baseServerRowVersion : Option Int
  payload : Payload
  occurredAt : Int
  requestHash : String
  applyStatus : Outcome
  errorCode : Option RejectCode
  terminalAck : Option Ack

/-- `uq_device_event_sequence`. -/
instance : Schema InboxRow Uuid (Uuid × Int) :=
  ⟨InboxRow.eventId, fun r => some (r.deviceId, r.deviceSequence)⟩

/-- The scope `sync-event:<user>:<device>:<epoch>`. -/
structure IdempotencyScope where
  userId : Uuid
  deviceId : Uuid
  epoch : Uuid
  deriving DecidableEq

structure IdempotencyRow where
  scope : IdempotencyScope
  idempotencyKey : String
  requestHash : String
  responseReference : Option Ack
  deriving DecidableEq

instance : Schema IdempotencyRow (IdempotencyScope × String) Empty :=
  ⟨fun r => (r.scope, r.idempotencyKey), fun _ => none⟩

inductive Operation
  | upsert
  | delete
  | redirect
  deriving DecidableEq, Repr

structure SyncEventRow where
  serverSequence : Int
  eventId : Uuid
  userId : Uuid
  originDeviceId : Option Uuid
  eventType : EventType
  schemaVersion : Int
  aggregateType : AggregateType
  aggregateId : Uuid
  serverRowVersion : Option Int
  operation : Operation
  payload : Payload
  createdAt : Int

instance : Schema SyncEventRow Uuid Empty := ⟨SyncEventRow.eventId, fun _ => none⟩

structure TombstoneRow where
  userId : Uuid
  aggregateType : AggregateType
  aggregateId : Uuid
  deletedByEventId : Uuid
  deletedAt : Int
  retainUntil : Int
  deriving DecidableEq

/-- `uq_tombstone_aggregate`. -/
instance : Schema TombstoneRow (Uuid × AggregateType × Uuid) Empty :=
  ⟨fun r => (r.userId, r.aggregateType, r.aggregateId), fun _ => none⟩

/-! ## library and playlist schema -/

inductive ResolutionStatus
  | unresolved
  | candidates
  | resolved
  | ambiguous
  | notFound
  deriving DecidableEq, Repr

structure UserTrackRefRow where
  userTrackRefId : Uuid
  userId : Uuid
  recordingId : Option Uuid
  resolutionStatus : ResolutionStatus
  rawTitle : Option String
  rawArtist : Option String
  rawAlbum : Option String
  rawDurationMs : Option Int
  deletedAt : Option Int
  rowVersion : Int
  deriving DecidableEq

instance : Schema UserTrackRefRow Uuid Empty := ⟨UserTrackRefRow.userTrackRefId, fun _ => none⟩

inductive LibrarySource
  | localSource
  | importSource
  | searchSource
  | shareSource
  | restoreSource
  deriving DecidableEq, Repr

def LibrarySource.read : String → Option LibrarySource
  | "LOCAL" => some localSource
  | "IMPORT" => some importSource
  | "SEARCH" => some searchSource
  | "SHARE" => some shareSource
  | "RESTORE" => some restoreSource
  | _ => none

inductive AvailabilityStatus
  | localStatus
  | vault
  | external
  | pending
  | notFound
  | ambiguous
  deriving DecidableEq, Repr

def AvailabilityStatus.read : String → Option AvailabilityStatus
  | "LOCAL" => some localStatus
  | "VAULT" => some vault
  | "EXTERNAL" => some external
  | "PENDING" => some pending
  | "NOT_FOUND" => some notFound
  | "AMBIGUOUS" => some ambiguous
  | _ => none

structure LibraryEntryRow where
  libraryEntryId : Uuid
  userId : Uuid
  userTrackRefId : Uuid
  source : LibrarySource
  availabilityStatus : AvailabilityStatus
  removedAt : Option Int
  rowVersion : Int
  deriving DecidableEq

/-- `uq_library_entry_active`: one active entry for each track reference of a user. -/
instance : Schema LibraryEntryRow Uuid (Uuid × Uuid) :=
  ⟨LibraryEntryRow.libraryEntryId,
    fun r => if r.removedAt = none then some (r.userId, r.userTrackRefId) else none⟩

inductive Preference
  | neutral
  | liked
  | disliked
  deriving DecidableEq, Repr

def Preference.read : String → Option Preference
  | "NEUTRAL" => some neutral
  | "LIKED" => some liked
  | "DISLIKED" => some disliked
  | _ => none

structure UserTrackPreferenceRow where
  userTrackRefId : Uuid
  preference : Preference
  excludedFromTaste : Bool
  rowVersion : Int
  deriving DecidableEq

instance : Schema UserTrackPreferenceRow Uuid Empty :=
  ⟨UserTrackPreferenceRow.userTrackRefId, fun _ => none⟩

inductive Visibility
  | privateList
  | sharedList
  | publicList
  deriving DecidableEq, Repr

inductive PlaylistType
  | manual
  | smart
  | system
  deriving DecidableEq, Repr

structure PlaylistRow where
  playlistId : Uuid
  ownerUserId : Uuid
  name : String
  description : Option String
  visibility : Visibility
  playlistType : PlaylistType
  deletedAt : Option Int
  rowVersion : Int
  deriving DecidableEq

instance : Schema PlaylistRow Uuid Empty := ⟨PlaylistRow.playlistId, fun _ => none⟩

structure PlaylistEntryRow where
  playlistEntryId : Uuid
  playlistId : Uuid
  userTrackRefId : Uuid
  positionKey : String
  addedByUserId : Uuid
  removedAt : Option Int
  rowVersion : Int
  deriving DecidableEq

/-- `uq_playlist_entry_active_position`. -/
instance : Schema PlaylistEntryRow Uuid (Uuid × String) :=
  ⟨PlaylistEntryRow.playlistEntryId,
    fun r => if r.removedAt = none then some (r.playlistId, r.positionKey) else none⟩

/-! ## listening and recommendation schema -/

inductive EventOrigin
  | organic
  | recommended
  | playlist
  | search
  | wave
  deriving DecidableEq, Repr

def EventOrigin.read : String → Option EventOrigin
  | "ORGANIC" => some organic
  | "RECOMMENDED" => some recommended
  | "PLAYLIST" => some playlist
  | "SEARCH" => some search
  | "WAVE" => some wave
  | _ => none

inductive ListeningContext
  | general
  | workout
  | cycling
  | work
  | sleep
  | party
  deriving DecidableEq, Repr

def ListeningContext.read : String → Option ListeningContext
  | "GENERAL" => some general
  | "WORKOUT" => some workout
  | "CYCLING" => some cycling
  | "WORK" => some work
  | "SLEEP" => some sleep
  | "PARTY" => some party
  | _ => none

inductive ExplicitFeedback
  | none
  | like
  | dislike
  deriving DecidableEq, Repr

def ExplicitFeedback.read : String → Option ExplicitFeedback
  | "NONE" => some .none
  | "LIKE" => some .like
  | "DISLIKE" => some .dislike
  | _ => Option.none

structure ListeningEventRow where
  listeningEventId : Uuid
  userId : Uuid
  deviceId : Uuid
  userTrackRefId : Uuid
  recordingId : Option Uuid
  startedAt : Int
  playedMs : Int
  trackDurationMs : Option Int
  completionRatio : Option ℚ
  eventOrigin : EventOrigin
  context : ListeningContext
  recommendationRequestId : Option Uuid
  explicitFeedback : ExplicitFeedback
  excludedFromTaste : Bool

instance : Schema ListeningEventRow Uuid Empty :=
  ⟨ListeningEventRow.listeningEventId, fun _ => none⟩

structure UserInteractionEventRow where
  interactionId : Uuid
  userId : Uuid
  deviceId : Uuid
  eventType : EventType
  recommendationRequestId : Option Uuid
  recordingId : Option Uuid
  sourceRank : Option Int
  presentationId : Option Uuid
  impressionInteractionId : Option Uuid
  payload : Payload

/-- `uq_interaction_presentation`; a null in any column takes a row out of the index. -/
def presentationIndex (r : UserInteractionEventRow) : Option (Uuid × Uuid × Uuid × Int) :=
  if r.eventType = .recommendationImpressionRecorded then
    match r.presentationId, r.recommendationRequestId, r.sourceRank with
    | some presentation, some request, some rank => some (r.userId, presentation, request, rank)
    | _, _, _ => none
  else none

instance : Schema UserInteractionEventRow Uuid (Uuid × Uuid × Uuid × Int) :=
  ⟨UserInteractionEventRow.interactionId, presentationIndex⟩

structure RecommendationRequestRow where
  recommendationRequestId : Uuid
  userId : Uuid
  deriving DecidableEq

instance : Schema RecommendationRequestRow Uuid Empty :=
  ⟨RecommendationRequestRow.recommendationRequestId, fun _ => none⟩

structure RecommendationItemRow where
  recommendationRequestId : Uuid
  rank : Int
  recordingId : Uuid
  deriving DecidableEq

instance : Schema RecommendationItemRow (Uuid × Int) Empty :=
  ⟨fun r => (r.recommendationRequestId, r.rank), fun _ => none⟩

/-! ## the database -/

/-- **The state of the sync runtime**; `syncEvents` lists the log in `server_sequence` order. -/
structure SyncDb where
  devices : Table DeviceRow
  cursors : Table CursorRow
  inbox : Table InboxRow
  idempotency : Table IdempotencyRow
  trackRefs : Table UserTrackRefRow
  libraryEntries : Table LibraryEntryRow
  preferences : Table UserTrackPreferenceRow
  playlists : Table PlaylistRow
  playlistEntries : Table PlaylistEntryRow
  listeningEvents : Table ListeningEventRow
  interactions : Table UserInteractionEventRow
  recommendationRequests : Table RecommendationRequestRow
  recommendationItems : Table RecommendationItemRow
  /-- The keys of `catalog.recording`. -/
  recordings : List Uuid
  syncEvents : Table SyncEventRow
  tombstones : Table TombstoneRow
  /-- The next value of the identity column `server_sequence`. -/
  nextServerSequence : Int

namespace SyncDb

def empty : SyncDb where
  devices := .empty
  cursors := .empty
  inbox := .empty
  idempotency := .empty
  trackRefs := .empty
  libraryEntries := .empty
  preferences := .empty
  playlists := .empty
  playlistEntries := .empty
  listeningEvents := .empty
  interactions := .empty
  recommendationRequests := .empty
  recommendationItems := .empty
  recordings := []
  syncEvents := .empty
  tombstones := .empty
  nextServerSequence := 1

end SyncDb

/-- What a violated constraint of a table raises. -/
def Constraint.abort (table : TableName) : Constraint → Abort
  | .primaryKey => .primaryKey table
  | .uniqueIndex => .uniqueIndex table

section
variable {ρ κ ι : Type*} [Schema ρ κ ι] [DecidableEq κ] [DecidableEq ι]

/-- `INSERT`. -/
def insertInto (table : TableName) (t : Table ρ) (r : ρ) : Except Abort (Table ρ) :=
  (t.insert r).mapError (Constraint.abort table)

/-- `UPDATE` of the row with the key of `r`. -/
def updateIn (table : TableName) (t : Table ρ) (r : ρ) : Except Abort (Table ρ) :=
  (t.update r).mapError (Constraint.abort table)

theorem insertInto_ok {table : TableName} {t t' : Table ρ} {r : ρ} :
    insertInto table t r = .ok t' ↔ t.insert r = .ok t' := Result.mapError_eq_ok

theorem updateIn_ok {table : TableName} {t t' : Table ρ} {r : ρ} :
    updateIn table t r = .ok t' ↔ t.update r = .ok t' := Result.mapError_eq_ok

end

end AutPlay.Sync
