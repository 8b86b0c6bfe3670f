import AutPlay.Sync.Rows
import Mathlib.Data.List.Sort
import Mathlib.Data.List.InsertIdx

/-!
# Playlist positions

`_playlist_position` translates the client's "before this entry" intent into server position keys.  Every active
entry of the playlist gets the key `<index>:<entry id>`; the ones whose key changes are re-keyed in
two phases, through a temporary key, so that each is written twice.

* `positionPlan`        the new key of the moved entry and the entries to re-key;
* `rekeyPhase`          one phase: the `UPDATE`s of a flush, in primary key order;
-/

set_option linter.unusedSectionVars false

namespace AutPlay.Sync

/-- What the model takes from outside: the collation of the database, MD5 and SHA-1 name UUIDs. -/
structure Env where
  /-- `a` sorts no later than `b`. -/
  collate : String → String → Bool
  /-- `UUID.nameUUIDFromBytes`, the version 3 UUID of an MD5 digest. -/
  nameUuid : String → Uuid
  /-- `uuid5(NAMESPACE_URL, name)`. -/
  uuid5 : String → Uuid

/-- `enforce_playlist_entry_owner`: playlist, track reference and author have one owner. -/
def SyncDb.entryOwnerOk (db : SyncDb) (r : PlaylistEntryRow) : Bool :=
  let playlistOwner := (db.playlists.find r.playlistId).map PlaylistRow.ownerUserId
  let refOwner := (db.trackRefs.find r.userTrackRefId).map UserTrackRefRow.userId
  playlistOwner = refOwner ∧ playlistOwner = some r.addedByUserId

/-- `INSERT` into `playlist.playlist_entry`. -/
def SyncDb.insertEntry (db : SyncDb) (r : PlaylistEntryRow) : Except Abort SyncDb := do
  if db.entryOwnerOk r then
    let entries ← insertInto .playlistEntry db.playlistEntries r
    return { db with playlistEntries := entries }
  else throw (.ownerTrigger .playlistEntry)

/-- `UPDATE` of one row of `playlist.playlist_entry`. -/
def SyncDb.updateEntry (db : SyncDb) (r : PlaylistEntryRow) : Except Abort SyncDb := do
  if db.entryOwnerOk r then
    let entries ← updateIn .playlistEntry db.playlistEntries r
    return { db with playlistEntries := entries }
  else throw (.ownerTrigger .playlistEntry)

/-! ## the plan -/

/-- `ORDER BY position_key, playlist_entry_id`. -/
def entryLe (env : Env) (a b : PlaylistEntryRow) : Prop :=
  if a.positionKey = b.positionKey then a.playlistEntryId ≤ b.playlistEntryId
  else env.collate a.positionKey b.positionKey = true

instance (env : Env) : DecidableRel (entryLe env) := fun a b =>
  inferInstanceAs (Decidable (if a.positionKey = b.positionKey then _ else _))

/-- The entries of a playlist that are not removed, in position order. -/
def activeEntries (env : Env) (entries : Table PlaylistEntryRow) (playlistId : Uuid) :
    List PlaylistEntryRow :=
  (entries.rows.filter (fun r => r.playlistId = playlistId ∧ r.removedAt = none)).insertionSort
    (entryLe env)

/-- `f"{index:08d}"`. -/
def pad8 (n : Nat) : String := String.ofList (List.replicate (8 - n.repr.length) '0') ++ n.repr

/-- `f"{index:08d}:{id}"`. -/
def positionText (index : Nat) (id : Uuid) : String := pad8 index ++ ":" ++ id.text

/-- `f"~rebalance:{id}"`. -/
def rebalanceText (id : Uuid) : String := "~rebalance:" ++ id.text

/-- The keys of the slots of a playlist; the slot of an entry without an active row is empty. -/
def desiredKeys (slots : List (Option PlaylistEntryRow)) : List (Uuid × String) :=
  slots.zipIdx.filterMap
    (fun s => s.1.map (fun r => (r.playlistEntryId, positionText s.2 r.playlistEntryId)))

structure PositionPlan where
  positionKey : String
  desired : List (Uuid × String)
  changed : List PlaylistEntryRow

/-- Where an entry goes among the other active entries: before `before`, or at the end. -/
def insertAt (ordered : List PlaylistEntryRow) : Option Uuid → Except Refusal Nat
  | none => .ok ordered.length
  | some before =>
    match ordered.findIdx? (fun r => r.playlistEntryId = before) with
    | some index => .ok index
    | none => .error .projectionConflict

/-- The keys of the active entries when `selfId` goes to slot `index` of the others. -/
def placement (rows : List PlaylistEntryRow) (selfId : Uuid) (index : Nat) : PositionPlan :=
  let selfRow := rows.find? (fun r => r.playlistEntryId = selfId)
  let ordered := rows.filter (fun r => r.playlistEntryId ≠ selfId)
  let desired := desiredKeys ((ordered.map some).insertIdx index selfRow)
  { positionKey := positionText index selfId
    desired := desired
    changed := rows.filter (fun r => desired.lookup r.playlistEntryId ≠ some r.positionKey) }

/-- What `_playlist_position` decides before it writes. -/
def positionPlan (env : Env) (entries : Table PlaylistEntryRow) (playlistId : Uuid)
    (payload : Payload) (selfId : Uuid) : Except Refusal PositionPlan :=
  if (payload.get "position_key").isSome then do
    let key ← payload.stringField "position_key" 128
    return { positionKey := key, desired := [], changed := [] }
  else do
    let before ← payload.uuidOptionalAlias
      ["before_playlist_entry_id", "before_local_playlist_entry_id"]
    let rows := activeEntries env entries playlistId
    let index ← insertAt (rows.filter (fun r => r.playlistEntryId ≠ selfId)) before
    return placement rows selfId index

/-! ## the writes -/

/-- Give one entry a new key; an attribute set to the value it has is not written. -/
def SyncDb.rekey (db : SyncDb) (id : Uuid) (key : String) : Except Abort SyncDb :=
  match db.playlistEntries.find id with
  | none => .ok db
  | some row =>
    if row.positionKey = key then .ok db
    else db.updateEntry { row with positionKey := key, rowVersion := row.rowVersion + 1 }

/-- The `UPDATE`s of one flush. -/
def SyncDb.rekeyPhase (db : SyncDb) : List (Uuid × String) → Except Abort SyncDb
  | [] => .ok db
  | (id, key) :: rest => do
    let db ← db.rekey id key
    rekeyPhase db rest

/-- The changed entries in the order a flush writes them. -/
def PositionPlan.flushOrder (plan : PositionPlan) : List Uuid :=
  (plan.changed.map PlaylistEntryRow.playlistEntryId).insertionSort (· ≤ ·)

/-- First phase: every changed entry gets its temporary key. -/
def PositionPlan.temporaryKeys (plan : PositionPlan) : List (Uuid × String) :=
  plan.flushOrder.map (fun id => (id, rebalanceText id))

/-- Second phase: every changed entry but the moved one gets its key. -/
def PositionPlan.finalKeys (plan : PositionPlan) (selfId : Uuid) : List (Uuid × String) :=
  (plan.flushOrder.filter (· ≠ selfId)).filterMap
    (fun id => (plan.desired.lookup id).map (fun key => (id, key)))

/-- The other entries that were re-keyed, in position order. -/
def PositionPlan.rebalanced (plan : PositionPlan) (selfId : Uuid) : List Uuid :=
  (plan.changed.map PlaylistEntryRow.playlistEntryId).filter (· ≠ selfId)

end AutPlay.Sync
