import AutPlay.Sync.Position

/-!
# Generic projections

The projection of the events that change one aggregate of the library or of a playlist.  Every
branch of `_generic_row` makes all its checks before it writes, so that it is a check function,
which ends in a `RowWrite`, followed by `RowWrite.run`:

* `genericChecks`     the checks, branch by branch; they stop with a `Refusal`;
* `RowWrite.run`      the writes; they stop with an `Abort`;
* `applyGeneric`      both inside a savepoint, then the publication of what was written.

A refusal raised inside the savepoint leaves the database as it was; a violation is not among the
exceptions caught there and aborts the whole transaction.
-/

set_option linter.unusedSectionVars false

namespace AutPlay.Sync

/-! ## writes of the library tables -/

namespace SyncDb

/-- `raw_duration_ms IS NULL OR raw_duration_ms > 0`. -/
def insertTrackRef (db : SyncDb) (r : UserTrackRefRow) : Except Abort SyncDb := do
  if r.rawDurationMs.all (0 < ·) then
    let refs ← insertInto .userTrackRef db.trackRefs r
    return { db with trackRefs := refs }
  else throw (.check .userTrackRef)

def updateTrackRef (db : SyncDb) (r : UserTrackRefRow) : Except Abort SyncDb := do
  let refs ← updateIn .userTrackRef db.trackRefs r
  return { db with trackRefs := refs }

/-- `enforce_library_entry_owner`: the entry and its track reference have one owner. -/
def libraryEntryOwnerOk (db : SyncDb) (r : LibraryEntryRow) : Bool :=
  (db.trackRefs.find r.userTrackRefId).map UserTrackRefRow.userId = some r.userId

def insertLibraryEntry (db : SyncDb) (r : LibraryEntryRow) : Except Abort SyncDb := do
  if db.libraryEntryOwnerOk r then
    let entries ← insertInto .libraryEntry db.libraryEntries r
    return { db with libraryEntries := entries }
  else throw (.ownerTrigger .libraryEntry)

def updateLibraryEntry (db : SyncDb) (r : LibraryEntryRow) : Except Abort SyncDb := do
  if db.libraryEntryOwnerOk r then
    let entries ← updateIn .libraryEntry db.libraryEntries r
    return { db with libraryEntries := entries }
  else throw (.ownerTrigger .libraryEntry)

def insertPreference (db : SyncDb) (r : UserTrackPreferenceRow) : Except Abort SyncDb := do
  let preferences ← insertInto .userTrackPreference db.preferences r
  return { db with preferences := preferences }

def updatePreference (db : SyncDb) (r : UserTrackPreferenceRow) : Except Abort SyncDb := do
  let preferences ← updateIn .userTrackPreference db.preferences r
  return { db with preferences := preferences }

def insertPlaylist (db : SyncDb) (r : PlaylistRow) : Except Abort SyncDb := do
  let playlists ← insertInto .playlist db.playlists r
  return { db with playlists := playlists }

def updatePlaylist (db : SyncDb) (r : PlaylistRow) : Except Abort SyncDb := do
  let playlists ← updateIn .playlist db.playlists r
  return { db with playlists := playlists }

/-! ## owner checks -/

/-- `_owned_row` on `library.user_track_ref`. -/
def ownedTrackRef (db : SyncDb) (id : Uuid) (p : Principal) : Except Refusal UserTrackRefRow :=
  match db.trackRefs.find id with
  | none => .error .projectionConflict
  | some row => if row.userId = p.userId then .ok row else .error .projectionConflict

/-- `_owned_row` on `playlist.playlist`. -/
def ownedPlaylist (db : SyncDb) (id : Uuid) (p : Principal) : Except Refusal PlaylistRow :=
  match db.playlists.find id with
  | none => .error .projectionConflict
  | some row => if row.ownerUserId = p.userId then .ok row else .error .projectionConflict

end SyncDb

/-- `_owner`. -/
def requireOwner (owner : Uuid) (p : Principal) : Except Refusal Unit :=
  if owner = p.userId then .ok () else .error .projectionConflict

/-- `_require_version`. -/
def requireVersion (rowVersion : Int) (base : Option PyInt) : Except Refusal Unit :=
  if base.map PyInt.val = some rowVersion then .ok () else .error .projectionConflict

/-- `_require_version` when there is a base version. -/
def requireVersionIfSent (rowVersion : Int) (base : Option PyInt) : Except Refusal Unit :=
  if base = none then .ok () else requireVersion rowVersion base

/-- `if base is not None: raise _ProjectionConflict`. -/
def requireNoBase (base : Option PyInt) : Except Refusal Unit :=
  if base = none then .ok () else .error .projectionConflict

/-- A field that has to be there. -/
def requirePresent {α : Type} : Option α → Except Refusal α
  | some a => .ok a
  | none => .error .valueError

/-- `if parent.deleted_at is not None: raise _ProjectionConflict`. -/
def requireLive (deletedAt : Option Int) : Except Refusal Unit :=
  if deletedAt = none then .ok () else .error .projectionConflict

/-- `if entry.playlist_id != playlist.playlist_id: raise _ProjectionConflict`. -/
def requireSame (a b : Uuid) : Except Refusal Unit :=
  if a = b then .ok () else .error .projectionConflict

/-- Two canonical UUID texts agree but for the version and variant digits. -/
def sameDigest (a b : Uuid) : Bool :=
  let strip (u : Uuid) := (u.text.toList.eraseIdx 19).eraseIdx 14
  strip a == strip b

/-- `_resolve_track_ref`. -/
def resolveTrackRef (env : Env) (db : SyncDb) (p : Principal) (e : Event) :
    Except Refusal UserTrackRefRow := do
  match ← e.payload.uuidOptional "server_user_track_ref_id" with
  | some explicit => db.ownedTrackRef explicit p
  | none =>
    let named ← e.payload.uuidOptionalAlias ["user_track_ref_id", "local_user_track_ref_id"]
    let localId := named.getD e.aggregateId
    if (db.trackRefs.find localId).isSome then db.ownedTrackRef localId p
    else
      match e.serverProfileId with
      | none => throw .projectionConflict
      | some profile =>
        let projection (r : UserTrackRefRow) :=
          env.nameUuid (profile.text ++ ":" ++ r.userTrackRefId.text)
        let candidates := (db.trackRefs.rows.filter (fun r =>
          r.userId = p.userId ∧ r.deletedAt = none ∧ sameDigest (projection r) localId)).take 2
        match candidates.find? (fun r => projection r = localId) with
        | some candidate => return candidate
        | none => throw .projectionConflict

/-! ## what a projection writes -/

/-- The values of a new track reference; the duration is bound when the row is written. -/
structure NewTrackRef where
  id : Uuid
  title : Option String
  artist : Option String
  album : Option String
  duration : Option PyInt
  nestedEntryId : Option Uuid

/-- The write that the checks of a branch lead to.  Updated rows carry the version that the
`BEFORE UPDATE` trigger gives them; a playlist entry is versioned when it is written, since its
temporary key counts. -/
inductive RowWrite
  | insertTrackRef (new : NewTrackRef)
  | updateTrackRef (row : UserTrackRefRow)
  | insertLibraryEntry (row : LibraryEntryRow)
  | updateLibraryEntry (row : LibraryEntryRow)
  | insertPreference (row : UserTrackPreferenceRow)
  | updatePreference (row : UserTrackPreferenceRow)
  | insertPlaylist (row : PlaylistRow)
  | updatePlaylist (row : PlaylistRow)
  | insertEntry (row : PlaylistEntryRow) (plan : PositionPlan)
  | updateEntry (row : PlaylistEntryRow) (plan : PositionPlan)

/-- No entry is re-keyed. -/
def PositionPlan.keep (key : String) : PositionPlan := ⟨key, [], []⟩

/-! ## the checks of `_generic_row`, branch by branch -/

section
variable (env : Env) (db : SyncDb) (p : Principal) (e : Event) (now : Int)

/-- `AGGREGATE_DELETED`. -/
def deleteAggregate : Except Refusal RowWrite := do
  match e.aggregateType with
  | .userTrackRef =>
    match db.trackRefs.find e.aggregateId with
    | none => throw .projectionConflict
    | some row =>
      requireOwner row.userId p
      requireVersion row.rowVersion e.baseVersion
      return .updateTrackRef
        { row with deletedAt := some now, rowVersion := row.rowVersion + 1 }
  | .libraryEntry =>
    match db.libraryEntries.find e.aggregateId with
    | none => throw .projectionConflict
    | some row =>
      requireOwner row.userId p
      requireVersion row.rowVersion e.baseVersion
      return .updateLibraryEntry
        { row with removedAt := some now, rowVersion := row.rowVersion + 1 }
  | .playlist =>
    match db.playlists.find e.aggregateId with
    | none => throw .projectionConflict
    | some row =>
      requireOwner row.ownerUserId p
      requireVersion row.rowVersion e.baseVersion
      return .updatePlaylist
        { row with deletedAt := some now, rowVersion := row.rowVersion + 1 }
  | .playlistEntry =>
    match db.playlistEntries.find e.aggregateId with
    | none => throw .projectionConflict
    | some row =>
      let parent ← db.ownedPlaylist row.playlistId p
      requireLive parent.deletedAt
      requireVersion row.rowVersion e.baseVersion
      return .updateEntry { row with removedAt := some now } (.keep row.positionKey)
  | _ => throw .valueError

/-- `USER_TRACK_REF_CREATED`, with the library entry nested in it. -/
def createTrackRef : Except Refusal RowWrite := do
  requireNoBase e.baseVersion
  let title ← e.payload.optionalString "title"
  let artist ← e.payload.optionalString "artist"
  let album ← e.payload.optionalString "album"
  let duration ← e.payload.optionalInt "duration_ms"
  let nestedEntryId ← e.payload.uuidOptional "library_entry_local_id"
  return .insertTrackRef ⟨e.aggregateId, title, artist, album, duration, nestedEntryId⟩

/-- A text column that is set only when its key is sent. -/
def patchedText (payload : Payload) (key : String) (old : Option String) :
    Except Refusal (Option String) :=
  if payload.has key then payload.optionalString key else .ok old

/-- `USER_TRACK_REF_PATCHED`. -/
def patchTrackRef : Except Refusal RowWrite := do
  let row ← db.ownedTrackRef e.aggregateId p
  requireVersion row.rowVersion e.baseVersion
  let title ← patchedText e.payload "title" row.rawTitle
  let artist ← patchedText e.payload "artist" row.rawArtist
  let album ← patchedText e.payload "album" row.rawAlbum
  return .updateTrackRef { row with
    rawTitle := title, rawArtist := artist, rawAlbum := album, rowVersion := row.rowVersion + 1 }

/-- `removed_at_ms`: a number removes the entry; an absent key and a JSON null both restore it. -/
def removedAt (payload : Payload) (now : Int) : Except Refusal (Option Int) :=
  match payload.get "removed_at_ms" with
  | none => .ok none
  | some removed => if removed.asInt.isSome then .ok (some now) else .error .valueError

/-- `LIBRARY_ENTRY_UPSERTED`. -/
def upsertLibraryEntry : Except Refusal RowWrite := do
  let refId ← e.payload.uuidOptionalAlias ["user_track_ref_id", "local_user_track_ref_id"]
  match db.libraryEntries.find e.aggregateId with
  | none =>
    requireNoBase e.baseVersion
    let ref ← requirePresent refId
    let ref ← db.ownedTrackRef ref p
    let source ← e.payload.enumDefault "source" LibrarySource.read .importSource
    let availability ←
      e.payload.enumDefault "availability_status" AvailabilityStatus.read .pending
    return .insertLibraryEntry
      { libraryEntryId := e.aggregateId, userId := p.userId,
        userTrackRefId := ref.userTrackRefId, source := source,
        availabilityStatus := availability, removedAt := none, rowVersion := 1 }
  | some row =>
    requireOwner row.userId p
    requireVersion row.rowVersion e.baseVersion
    let removed ← removedAt e.payload now
    return .updateLibraryEntry { row with removedAt := removed, rowVersion := row.rowVersion + 1 }

/-- `USER_TRACK_PREFERENCE_SET`; without a base version the write is unconditional. -/
def setPreference : Except Refusal RowWrite := do
  let ref ← resolveTrackRef env db p e
  let preference ← e.payload.enumField "preference" Preference.read
  let excluded ← e.payload.boolean "excluded_from_taste"
  match db.preferences.find ref.userTrackRefId with
  | none =>
    requireNoBase e.baseVersion
    return .insertPreference
      { userTrackRefId := ref.userTrackRefId, preference := preference,
        excludedFromTaste := excluded, rowVersion := 1 }
  | some row =>
    requireVersionIfSent row.rowVersion e.baseVersion
    return .updatePreference { row with
      preference := preference, excludedFromTaste := excluded, rowVersion := row.rowVersion + 1 }

/-- `PLAYLIST_CREATED`. -/
def createPlaylist : Except Refusal RowWrite := do
  requireNoBase e.baseVersion
  let name ← e.payload.stringField "name" 500
  let description ← e.payload.optionalString "description"
  return .insertPlaylist
    { playlistId := e.aggregateId, ownerUserId := p.userId, name := name,
      description := description, visibility := .privateList, playlistType := .manual,
      deletedAt := none, rowVersion := 1 }

/-- The name of a playlist is set only when it is sent. -/
def patchedName (payload : Payload) (old : String) : Except Refusal String :=
  if payload.has "name" then payload.stringField "name" 500 else .ok old

/-- `PLAYLIST_METADATA_PATCHED`. -/
def patchPlaylist : Except Refusal RowWrite := do
  let row ← db.ownedPlaylist e.aggregateId p
  requireVersion row.rowVersion e.baseVersion
  let name ← patchedName e.payload row.name
  let description ← patchedText e.payload "description" row.description
  return .updatePlaylist { row with
    name := name, description := description, rowVersion := row.rowVersion + 1 }

/-- `PLAYLIST_ENTRY_UPSERTED` and `PLAYLIST_ENTRY_MOVED`. -/
def upsertPlaylistEntry : Except Refusal RowWrite := do
  let entry := db.playlistEntries.find e.aggregateId
  let named ← e.payload.uuidOptionalAlias ["playlist_id", "local_playlist_id"]
  let playlistId ← requirePresent (named <|> entry.map PlaylistEntryRow.playlistId)
  let playlist ← db.ownedPlaylist playlistId p
  match entry with
  | none =>
    requireNoBase e.baseVersion
    let refId ← e.payload.uuidOptionalAlias ["user_track_ref_id", "local_user_track_ref_id"]
    let refId ← requirePresent refId
    let _ ← db.ownedTrackRef refId p
    let plan ← positionPlan env db.playlistEntries playlist.playlistId e.payload e.aggregateId
    return .insertEntry
      { playlistEntryId := e.aggregateId, playlistId := playlist.playlistId,
        userTrackRefId := refId, positionKey := plan.positionKey, addedByUserId := p.userId,
        removedAt := none, rowVersion := 1 } plan
  | some entry =>
    requireSame entry.playlistId playlist.playlistId
    requireVersion entry.rowVersion e.baseVersion
    let plan ← positionPlan env db.playlistEntries playlist.playlistId e.payload e.aggregateId
    return .updateEntry { entry with positionKey := plan.positionKey } plan

/-- **The checks of `_generic_row`.** -/
def genericChecks : Except Refusal RowWrite :=
  match e.eventType with
  | .aggregateDeleted => deleteAggregate db p e now
  | .userTrackRefCreated => createTrackRef e
  | .userTrackRefPatched => patchTrackRef db p e
  | .libraryEntryUpserted => upsertLibraryEntry db p e now
  | .userTrackPreferenceSet => setPreference env db p e
  | .playlistCreated => createPlaylist p e
  | .playlistMetadataPatched => patchPlaylist db p e
  | .playlistEntryUpserted => upsertPlaylistEntry env db p e
  | .playlistEntryMoved => upsertPlaylistEntry env db p e
  | _ => .error .valueError

end

/-! ## the writes -/

/-- What a projection hands back: the refreshed version of the row it wrote, the row itself when it
is a playlist entry, the entries re-keyed on the way, and the database. -/
structure GenericResult where
  rowVersion : Int
  entry : Option PlaylistEntryRow
  rebalanced : List Uuid
  db : SyncDb

/-- The row of a new track reference. -/
def NewTrackRef.row (new : NewTrackRef) (p : Principal) (durationMs : Option Int) :
    UserTrackRefRow where
  userTrackRefId := new.id
  userId := p.userId
  recordingId := none
  resolutionStatus := .unresolved
  rawTitle := new.title
  rawArtist := new.artist
  rawAlbum := new.album
  rawDurationMs := durationMs
  deletedAt := none
  rowVersion := 1

/-- The library entry nested in a new track reference. -/
def NewTrackRef.entryRow (new : NewTrackRef) (p : Principal) (entryId : Uuid) :
    LibraryEntryRow where
  libraryEntryId := entryId
  userId := p.userId
  userTrackRefId := new.id
  source := .importSource
  availabilityStatus := .pending
  removedAt := none
  rowVersion := 1

/-- The nested entry is created unless its id is taken. -/
def SyncDb.insertNested (db : SyncDb) (p : Principal) (new : NewTrackRef) : Except Abort SyncDb :=
  match new.nestedEntryId with
  | none => .ok db
  | some entryId =>
    if (db.libraryEntries.find entryId).isSome then .ok db
    else db.insertLibraryEntry (new.entryRow p entryId)

/-- Both phases of a rebalance. -/
def SyncDb.rebalance (db : SyncDb) (plan : PositionPlan) (selfId : Uuid) : Except Abort SyncDb := do
  let db ← db.rekeyPhase plan.temporaryKeys
  db.rekeyPhase (plan.finalKeys selfId)

def RowWrite.run (db : SyncDb) (p : Principal) : RowWrite → Except Abort GenericResult
  | .insertTrackRef new => do
    let durationMs ← new.duration.mapM PyInt.toBigint
    let db ← db.insertTrackRef (new.row p durationMs)
    let db ← db.insertNested p new
    return ⟨1, none, [], db⟩
  | .updateTrackRef row => do
    let db ← db.updateTrackRef row
    return ⟨row.rowVersion, none, [], db⟩
  | .insertLibraryEntry row => do
    let db ← db.insertLibraryEntry row
    return ⟨row.rowVersion, none, [], db⟩
  | .updateLibraryEntry row => do
    let db ← db.updateLibraryEntry row
    return ⟨row.rowVersion, none, [], db⟩
  | .insertPreference row => do
    let db ← db.insertPreference row
    return ⟨row.rowVersion, none, [], db⟩
  | .updatePreference row => do
    let db ← db.updatePreference row
    return ⟨row.rowVersion, none, [], db⟩
  | .insertPlaylist row => do
    let db ← db.insertPlaylist row
    return ⟨row.rowVersion, none, [], db⟩
  | .updatePlaylist row => do
    let db ← db.updatePlaylist row
    return ⟨row.rowVersion, none, [], db⟩
  | .insertEntry row plan => do
    let db ← db.rebalance plan row.playlistEntryId
    let db ← db.insertEntry row
    return ⟨row.rowVersion, some row, plan.rebalanced row.playlistEntryId, db⟩
  | .updateEntry row plan => do
    let db ← db.rebalance plan row.playlistEntryId
    let current := (db.playlistEntries.find row.playlistEntryId).getD row
    let row := { row with rowVersion := current.rowVersion + 1 }
    let db ← db.updateEntry row
    return ⟨row.rowVersion, some row, plan.rebalanced row.playlistEntryId, db⟩

/-- The operation that `_generic_row` reports. -/
def genericOperation (e : Event) : Operation :=
  if e.eventType = .aggregateDeleted then .delete else .upsert

/-! ## publication -/

/-- `_playlist_entry_sync_payload`. -/
def playlistEntrySyncPayload (r : PlaylistEntryRow) : Payload :=
  [("server_playlist_id", .str r.playlistId.text),
   ("server_user_track_ref_id", .str r.userTrackRefId.text),
   ("position_key", .str r.positionKey)]

/-- A published fact; the database assigns its sequence. -/
structure Publication where
  eventId : Uuid
  originDeviceId : Option Uuid
  eventType : EventType
  schemaVersion : Int
  aggregateType : AggregateType
  aggregateId : Uuid
  serverRowVersion : Int
  operation : Operation
  payload : Payload

/-- The row of a published fact. -/
def publishedRow (userId : Uuid) (now : Int) (serverSequence : Int) (f : Publication) :
    SyncEventRow where
  serverSequence := serverSequence
  eventId := f.eventId
  userId := userId
  originDeviceId := f.originDeviceId
  eventType := f.eventType
  schemaVersion := f.schemaVersion
  aggregateType := f.aggregateType
  aggregateId := f.aggregateId
  serverRowVersion := some f.serverRowVersion
  operation := f.operation
  payload := f.payload
  createdAt := now

/-- `INSERT` into `sync.sync_event`. -/
def SyncDb.publish (db : SyncDb) (userId : Uuid) (now : Int) (f : Publication) :
    Except Abort SyncDb := do
  let syncEvents ← insertInto .syncEvent db.syncEvents
    (publishedRow userId now db.nextServerSequence f)
  return { db with
    syncEvents := syncEvents, nextServerSequence := db.nextServerSequence + 1 }

/-- The name of the event that tells a re-keyed entry. -/
def rebalanceName (eventId : Uuid) (r : PlaylistEntryRow) : String :=
  "autplay:playlist-rebalance-v1:" ++ eventId.text ++ ":" ++ r.playlistEntryId.text ++ ":" ++
    toString r.rowVersion ++ ":" ++ r.positionKey

/-- The event that tells a re-keyed entry. -/
def rebalancePublication (env : Env) (p : Principal) (e : Event) (r : PlaylistEntryRow) :
    Publication where
  eventId := env.uuid5 (rebalanceName e.eventId r)
  originDeviceId := some p.deviceId
  eventType := .playlistEntryMoved
  schemaVersion := e.schemaVersion.val
  aggregateType := .playlistEntry
  aggregateId := r.playlistEntryId
  serverRowVersion := r.rowVersion
  operation := .upsert
  payload := playlistEntrySyncPayload r

/-- Several facts, in order. -/
def SyncDb.publishAll (db : SyncDb) (userId : Uuid) (now : Int) :
    List Publication → Except Abort SyncDb
  | [] => .ok db
  | f :: rest => do
    let db ← db.publish userId now f
    publishAll db userId now rest

/-- The re-keyed entries with their final versions, each told by an event. -/
def publishRebalanced (env : Env) (p : Principal) (e : Event) (now : Int) (db : SyncDb)
    (rebalanced : List Uuid) : Except Abort SyncDb :=
  db.publishAll p.userId now (rebalanced.filterMap
    (fun id => (db.playlistEntries.find id).map (rebalancePublication env p e)))

/-- The event that tells the projected row. -/
def genericPublication (p : Principal) (e : Event) (g : GenericResult) : Publication where
  eventId := e.eventId
  originDeviceId := some p.deviceId
  eventType := e.eventType
  schemaVersion := e.schemaVersion.val
  aggregateType := e.aggregateType
  aggregateId := e.aggregateId
  serverRowVersion := g.rowVersion
  operation := genericOperation e
  payload :=
    match genericOperation e, g.entry with
    | .upsert, some r => playlistEntrySyncPayload r
    | _, _ => e.payload

/-- Thirty days. -/
def retention : Int := 30 * 24 * 60 * 60 * 1000000

/-- The tombstone that a `DELETE` leaves. -/
def SyncDb.bury (db : SyncDb) (p : Principal) (e : Event) (now : Int) : Except Abort SyncDb := do
  let tombstones ← insertInto .tombstone db.tombstones
    { userId := p.userId, aggregateType := e.aggregateType, aggregateId := e.aggregateId,
      deletedByEventId := e.eventId, deletedAt := now, retainUntil := now + retention }
  return { db with tombstones := tombstones }

/-- Only a `DELETE` leaves a tombstone. -/
def SyncDb.buryDeleted (db : SyncDb) (p : Principal) (e : Event) (now : Int) :
    Except Abort SyncDb :=
  if genericOperation e = .delete then db.bury p e now else .ok db

/-- The writes of the savepoint: the projection and the events of the re-keyed entries. -/
def savepoint (env : Env) (db : SyncDb) (p : Principal) (e : Event) (now : Int)
    (write : RowWrite) : Except Abort GenericResult := do
  let g ← write.run db p
  let db ← publishRebalanced env p e now g.db g.rebalanced
  return { g with db := db }

/-- What follows the release of the savepoint. -/
def release (p : Principal) (e : Event) (now : Int) (g : GenericResult) :
    Except Abort (Ack × SyncDb) := do
  let db ← g.db.publish p.userId now (genericPublication p e g)
  let db ← db.buryDeleted p e now
  return (applied e g.rowVersion, db)

/-- The aggregate type of an event is the one its event type is about. -/
def aggregateTypeOk (e : Event) : Bool :=
  e.eventType = .aggregateDeleted ∨
    genericEventTypes.lookup e.eventType = some e.aggregateType

/-- **`_apply_generic`**. -/
def applyGeneric (env : Env) (db : SyncDb) (p : Principal) (e : Event) (now : Int)
    (requestId : Uuid) : Except Abort (Ack × SyncDb) :=
  if aggregateTypeOk e = false then
    .ok (rejected e .unsupportedAggregateType requestId false, db)
  else
    match genericChecks env db p e now with
    | .error .projectionConflict => .ok (conflicted e, db)
    | .error _ => .ok (rejected e .requestValidationFailed requestId false, db)
    | .ok write => do
      let g ← savepoint env db p e now write
      release p e now g

end AutPlay.Sync
