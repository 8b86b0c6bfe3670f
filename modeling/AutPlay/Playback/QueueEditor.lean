import Mathlib.Algebra.Group.Int.Defs
import AutPlay.Lib.Table
import AutPlay.Lib.Dict
import AutPlay.Lib.Result
import Mathlib.Data.List.Sort

/-!
# Editing the queue

`QueueEditorRepository` of the Android client.

* `QueueDb`             the snapshots, their entries and the tracks of the library;
* `toEntity`            a new entry as a row;
* `edit`                one transaction: the queue is read, changed and written anew;
* `perform`             the five edits; the player is told after the commit.

`activeSlot` is `ACTIVE` in one snapshot at most: the unique index on it covers the rows that have one.
-/

set_option linter.unusedSectionVars false

namespace AutPlay.Playback

/-! ## the tables -/

structure QueueSnapshotEntity where
  queueSnapshotId : String
  queueType : String
  sourceContextId : Option String
  currentEntryId : Option String
  currentPositionMs : Int
  shuffleMode : String
  repeatMode : String
  seed : Option Int
  generationVersion : Option String
  isActive : Bool
  activeSlot : Option String
  createdAtMs : Int
  updatedAtMs : Int
  serverProfileId : Option String
  listeningContext : String
  deriving DecidableEq

structure QueueEntryEntity where
  queueEntryId : String
  queueSnapshotId : String
  localUserTrackRefId : String
  position : Int
  sourceOrigin : String
  recommendationRequestId : Option String
  sourceAudioPolicy : String
  createdAtMs : Int
  recommendationAttributionJson : Option String
  deriving DecidableEq

structure UserTrackRefEntity where
  serverProfileId : String
  deletedAtMs : Option Int
  deriving DecidableEq

instance : Schema QueueSnapshotEntity String String where
  key := QueueSnapshotEntity.queueSnapshotId
  index := QueueSnapshotEntity.activeSlot

instance : Schema QueueEntryEntity String (String × Int) where
  key := QueueEntryEntity.queueEntryId
  index r := some (r.queueSnapshotId, r.position)

structure QueueDb where
  snapshots : Table QueueSnapshotEntity
  entries : Table QueueEntryEntity
  trackRefs : Dict String UserTrackRefEntity

inductive Failure
  /-- `QueueEditFailure`. -/
  | queueEdit (code : String)
  /-- What the codec of an attribution throws. -/
  | payload
  | sqlite (constraint : Constraint)
  /-- `check`. -/
  | illegalState
  | indexOutOfBounds
  deriving DecidableEq

/-- What a call throws: the failure of its transaction, or what the owner of the player throws when it
is told of the queue. -/
inductive Thrown
  | transaction (failure : Failure)
  | dispatch
  deriving DecidableEq

def require (p : Prop) [Decidable p] (failure : Failure) : Except Failure Unit :=
  if p then .ok () else .error failure

namespace QueueDb

def activeSnapshotOnce (db : QueueDb) : Option QueueSnapshotEntity :=
  db.snapshots.rows.find? (fun s => s.activeSlot = some "ACTIVE")

/-- The entries of a snapshot, by position. -/
def stored (db : QueueDb) (snapshotId : String) : List QueueEntryEntity :=
  (db.entries.rows.filter (fun r => r.queueSnapshotId = snapshotId)).insertionSort
    (fun a b => a.position ≤ b.position)

/-- `QueueDao.entries`. -/
def entriesOf (db : QueueDb) (snapshotId : String) (limit : Nat) : List QueueEntryEntity :=
  (db.stored snapshotId).take limit

end QueueDb

/-- `insertEntries`, which aborts on a conflict. -/
def insertEntries (entries : Table QueueEntryEntity) (rows : List QueueEntryEntity) :
    Except Failure (Table QueueEntryEntity) :=
  rows.foldlM (fun entries row => (entries.insert row).mapError Failure.sqlite) entries

/-! ## a new entry -/

structure NewPlaybackQueueEntry where
  queueEntryId : String
  trackRefId : String
  sourceOrigin : String
  sourceAudioPolicy : String
  recommendationAttributionJson : Option String
  deriving DecidableEq

/-- What an edit takes from outside. -/
structure Outside where
  /-- `P07PayloadCodec.canonicalize`; `none` is its exception. -/
  canonicalize : String → Option String
  /-- `recommendation_request_id` of a canonical attribution; `none` is an exception. -/
  requestId : String → Option (Option String)
  /-- `System.currentTimeMillis()`. -/
  nowMs : Int
  /-- `LocalId.random()`. -/
  random : String
  /-- `playback.dispatch(RefreshQueue(snapshotId))` returns. -/
  dispatch : String → Bool

def isUpper (c : Char) : Bool := decide ('A' ≤ c) && decide (c ≤ 'Z')

/-- `^[A-Z][A-Z0-9_]{0,99}$`. -/
def tokenUpper (token : String) : Bool :=
  match token.toList with
  | [] => false
  | first :: rest =>
    isUpper first && rest.all (fun c => isUpper c || c.isDigit || c == '_') && decide (rest.length ≤ 99)

/-- `let` on a value that may be absent. -/
def lift {α β : Type} (f : α → Except Failure β) : Option α → Except Failure (Option β)
  | none => .ok none
  | some a => (f a).map some

/-- A value, or the exception of the codec. -/
def orThrow {α : Type} : Option α → Except Failure α
  | some a => .ok a
  | none => .error .payload

def requiredRequestId (outside : Outside) (canonical : String) : Except Failure String := do
  let requestId ← orThrow (outside.requestId canonical)
  match requestId with
  | some id => .ok id
  | none => .error (.queueEdit "QUEUE_ATTRIBUTION_INVALID")

def NewPlaybackQueueEntry.toEntity (outside : Outside) (entry : NewPlaybackQueueEntry)
    (snapshotId : String) : Except Failure QueueEntryEntity := do
  let canonical ← lift (fun json => orThrow (outside.canonicalize json)) entry.recommendationAttributionJson
  let requestId ← lift (requiredRequestId outside) canonical
  require (tokenUpper entry.sourceOrigin ∧ tokenUpper entry.sourceAudioPolicy)
    (.queueEdit "QUEUE_ENTRY_TOKEN_INVALID")
  require (decide (entry.sourceOrigin = "RECOMMENDED") = canonical.isSome)
    (.queueEdit "QUEUE_ATTRIBUTION_INVALID")
  .ok
    { queueEntryId := entry.queueEntryId
      queueSnapshotId := snapshotId
      localUserTrackRefId := entry.trackRefId
      position := 2 ^ 63 - 1
      sourceOrigin := entry.sourceOrigin
      recommendationRequestId := requestId
      sourceAudioPolicy := entry.sourceAudioPolicy
      createdAtMs := outside.nowMs
      recommendationAttributionJson := canonical }

/-! ## one edit -/

def maxQueueEntries : Nat := 10000

def editableTypes : List String := ["USER", "SEARCH", "LIBRARY", "PLAYLIST"]

def legacyUnscopedProfile : String := "legacy-unscoped"

def matchesOwnerProfile (trackProfileId : String) (expectedProfileId : Option String) : Bool :=
  trackProfileId = expectedProfileId.getD legacyUnscopedProfile

def requireTrack (db : QueueDb) (expectedProfileId : Option String) (row : QueueEntryEntity) :
    Except Failure Unit :=
  match db.trackRefs.get? row.localUserTrackRefId with
  | none => .error (.queueEdit "QUEUE_TRACK_NOT_FOUND")
  | some track =>
    require (matchesOwnerProfile track.serverProfileId expectedProfileId ∧ track.deletedAtMs = none)
      (.queueEdit "QUEUE_PROFILE_MISMATCH")

/-- `indexOfFirst`. -/
def indexOfFirst {α : Type} (p : α → Bool) (xs : List α) : Int :=
  match xs.findIdx? p with
  | some index => index
  | none => -1

/-- `mapIndexed { index, row -> row.copy(position = index.toLong()) }`. -/
def renumber (rows : List QueueEntryEntity) : List QueueEntryEntity :=
  rows.mapIdx (fun index row => { row with position := index })

/-- `promoteActiveSnapshot`, which has to find the snapshot. -/
def promoteActiveSnapshot (snapshots : Table QueueSnapshotEntity) (snapshotId : String) (nowMs : Int) :
    Except Failure (Table QueueSnapshotEntity) := do
  require (snapshots.rows.countP
    (fun s => s.queueSnapshotId = snapshotId ∧ s.activeSlot = some "ACTIVE") = 1) .illegalState
  .ok (snapshots.updateWhere
    (fun s => s.queueSnapshotId = snapshotId ∧ s.activeSlot = some "ACTIVE")
    (fun s => { s with queueType := "USER", sourceContextId := none, updatedAtMs := nowMs })
    (fun _ => rfl) (fun _ => rfl))

def promote (db : QueueDb) (snapshot : QueueSnapshotEntity) (nowMs : Int) :
    Except Failure (Table QueueSnapshotEntity) :=
  if snapshot.queueType ≠ "USER" then promoteActiveSnapshot db.snapshots snapshot.queueSnapshotId nowMs
  else .ok db.snapshots

abbrev Transform := QueueSnapshotEntity → List QueueEntryEntity → Int → Except Failure (List QueueEntryEntity)

/-- The transaction of `edit`, on the snapshot that is active. -/
def editSnapshot (outside : Outside) (db : QueueDb) (expectedProfileId expectedSnapshotId : Option String)
    (transform : Transform) (snapshot : QueueSnapshotEntity) : Except Failure QueueDb := do
  require (expectedSnapshotId = some snapshot.queueSnapshotId) (.queueEdit "QUEUE_SNAPSHOT_STALE")
  require (snapshot.queueType ∈ editableTypes) (.queueEdit "QUEUE_TYPE_NOT_EDITABLE")
  require (snapshot.serverProfileId = expectedProfileId) (.queueEdit "QUEUE_PROFILE_MISMATCH")
  let rows := db.entriesOf snapshot.queueSnapshotId maxQueueEntries
  require (¬ (rows = [] ∨ rows.length ≥ maxQueueEntries ∧ snapshot.currentEntryId = none))
    (.queueEdit "QUEUE_SNAPSHOT_INVALID")
  let currentIndex := indexOfFirst (fun r => some r.queueEntryId = snapshot.currentEntryId) rows
  require (0 ≤ currentIndex) (.queueEdit "QUEUE_CURRENT_ENTRY_STALE")
  let next ← transform snapshot rows currentIndex
  require (¬ (next = [] ∨ next.length > maxQueueEntries ∨
    ¬ (next.map QueueEntryEntity.queueEntryId).Nodup)) (.queueEdit "QUEUE_EDIT_INVALID")
  next.forM (requireTrack db expectedProfileId)
  let entries ← insertEntries
    (db.entries.eraseWhere (fun r => r.queueSnapshotId = snapshot.queueSnapshotId)) (renumber next)
  let snapshots ← promote db snapshot outside.nowMs
  .ok { db with snapshots, entries }

structure QueueEditResult where
  snapshotId : String
  created : Bool
  deriving DecidableEq

/-- `edit`: the transaction, and after its commit the player.  A transaction that throws is rolled
back. -/
def edit (outside : Outside) (db : QueueDb) (expectedProfileId expectedSnapshotId : Option String)
    (transform : Transform) : Except Thrown QueueEditResult × QueueDb :=
  match db.activeSnapshotOnce with
  | none => (.error (.transaction (.queueEdit "QUEUE_ACTIVE_NOT_FOUND")), db)
  | some snapshot =>
    match editSnapshot outside db expectedProfileId expectedSnapshotId transform snapshot with
    | .error failure => (.error (.transaction failure), db)
    | .ok db' =>
      (if outside.dispatch snapshot.queueSnapshotId then .ok ⟨snapshot.queueSnapshotId, false⟩
        else .error .dispatch, db')

/-! ## the edits -/

/-- `addNext` of a queue. -/
def insertNext (outside : Outside) (entry : NewPlaybackQueueEntry) : Transform :=
  fun snapshot entries currentIndex => do
    let insertion := max 0 (min (currentIndex + 1) entries.length)
    let row ← entry.toEntity outside snapshot.queueSnapshotId
    .ok (entries.insertIdx insertion.toNat row)

def appendEntry (outside : Outside) (entry : NewPlaybackQueueEntry) : Transform :=
  fun snapshot entries _ => do
    let row ← entry.toEntity outside snapshot.queueSnapshotId
    .ok (entries ++ [row])

def removeEntry (entryId : String) : Transform := fun _ entries currentIndex => do
  let index := indexOfFirst (fun r => r.queueEntryId = entryId) entries
  require (currentIndex < index) (.queueEdit "QUEUE_ENTRY_NOT_UPCOMING")
  .ok (entries.eraseIdx index.toNat)

/-- `removeAt`. -/
def removeAt {α : Type} (xs : List α) (index : Nat) : Except Failure (α × List α) :=
  match xs[index]? with
  | some x => .ok (x, xs.eraseIdx index)
  | none => .error .indexOutOfBounds

/-- Where an entry is moved to among the others. -/
def destinationOf (others : List QueueEntryEntity) : Option String → Int
  | some id => indexOfFirst (fun r => r.queueEntryId = id) others
  | none => others.length

def moveEntry (entryId : String) (beforeEntryId : Option String) : Transform :=
  fun _ entries currentIndex => do
    let source := indexOfFirst (fun r => r.queueEntryId = entryId) entries
    require (currentIndex < source) (.queueEdit "QUEUE_ENTRY_NOT_UPCOMING")
    let (moving, others) ← removeAt entries source.toNat
    let destination := destinationOf others beforeEntryId
    require (¬ (destination ≤ currentIndex ∨ destination < 0)) (.queueEdit "QUEUE_TARGET_NOT_UPCOMING")
    .ok (others.insertIdx destination.toNat moving)

def clearEntries : Transform := fun _ entries currentIndex => .ok (entries.take (currentIndex + 1).toNat)

/-- `createUserQueue`: the entry is the whole queue. -/
def createUserQueue (outside : Outside) (db : QueueDb) (entry : NewPlaybackQueueEntry)
    (expectedProfileId expectedSnapshotId : Option String) : Except Failure (QueueEditResult × QueueDb) := do
  require (expectedSnapshotId = none) (.queueEdit "QUEUE_SNAPSHOT_STALE")
  require (db.activeSnapshotOnce = none) (.queueEdit "QUEUE_SNAPSHOT_STALE")
  let row ← entry.toEntity outside outside.random
  requireTrack db expectedProfileId row
  let snapshots ← (db.snapshots.insert
    { queueSnapshotId := outside.random
      queueType := "USER"
      sourceContextId := none
      currentEntryId := some row.queueEntryId
      currentPositionMs := 0
      shuffleMode := "OFF"
      repeatMode := "OFF"
      seed := none
      generationVersion := some "l1-v1"
      isActive := true
      activeSlot := some "ACTIVE"
      createdAtMs := outside.nowMs
      updatedAtMs := outside.nowMs
      serverProfileId := expectedProfileId
      listeningContext := "GENERAL" }).mapError Failure.sqlite
  let entries ← insertEntries db.entries [{ row with position := 0 }]
  .ok (⟨outside.random, true⟩, { db with snapshots, entries })

inductive Call
  | addNext (entry : NewPlaybackQueueEntry) (expectedSnapshotId : Option String)
  | addToEnd (entry : NewPlaybackQueueEntry) (expectedSnapshotId : Option String)
  | removeUpcoming (entryId expectedSnapshotId : String)
  | moveUpcoming (entryId : String) (beforeEntryId : Option String) (expectedSnapshotId : String)
  | clearUpcoming (expectedSnapshotId : String)
  deriving DecidableEq

/-- An addition, to the active queue or to a new one. -/
def add (outside : Outside) (db : QueueDb) (expectedProfileId expectedSnapshotId : Option String)
    (entry : NewPlaybackQueueEntry) (transform : Transform) : Except Thrown QueueEditResult × QueueDb :=
  match db.activeSnapshotOnce with
  | none =>
    match createUserQueue outside db entry expectedProfileId expectedSnapshotId with
    | .error failure => (.error (.transaction failure), db)
    | .ok (result, db') => (.ok result, db')
  | some _ => edit outside db expectedProfileId expectedSnapshotId transform

def perform (outside : Outside) (db : QueueDb) (expectedProfileId : Option String) :
    Call → Except Thrown QueueEditResult × QueueDb
  | .addNext entry expectedSnapshotId =>
    add outside db expectedProfileId expectedSnapshotId entry (insertNext outside entry)
  | .addToEnd entry expectedSnapshotId =>
    add outside db expectedProfileId expectedSnapshotId entry (appendEntry outside entry)
  | .removeUpcoming entryId expectedSnapshotId =>
    edit outside db expectedProfileId (some expectedSnapshotId) (removeEntry entryId)
  | .moveUpcoming entryId beforeEntryId expectedSnapshotId =>
    edit outside db expectedProfileId (some expectedSnapshotId) (moveEntry entryId beforeEntryId)
  | .clearUpcoming expectedSnapshotId =>
    edit outside db expectedProfileId (some expectedSnapshotId) clearEntries

end AutPlay.Playback
