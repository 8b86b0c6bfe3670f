import AutPlay.Lib.Effect
import Mathlib.Data.List.Sort
import Mathlib.Data.List.MinMax

/-!
# The Wave client

`WaveCoordinator` of the Android client: what it makes of a snapshot of its room.

* `WaveStore`         the rooms that the device keeps, with their queues;
* `WaveClient`        the state of a coordinator, and what the player was told;
* `WaveAnswers`       what everything else answers while one snapshot is applied;
* `applySnapshot`     one snapshot;
* `onEvent`           a message of the socket asks for a snapshot at most.

A snapshot is applied under `snapshotMutex`, so that one is applied at a time.  What only the screen
shows of a room (its code, the titles, the targets of a transfer) is left out.
-/

set_option linter.unusedSectionVars false

namespace AutPlay.Client

/-! ## what the server sends -/

/-- A command has a positive sequence. -/
structure WaveCommand where
  sequence : Int
  kind : String
  payload : String
  positive : 0 < sequence
  deriving DecidableEq

inductive WaveAvailability
  | localReadable
  | downloaded
  | vaultStreamable
  | unavailable
  deriving DecidableEq, Repr

def WaveAvailability.name : WaveAvailability → String
  | .localReadable => "LOCAL_READABLE"
  | .downloaded => "DOWNLOADED"
  | .vaultStreamable => "VAULT_STREAMABLE"
  | .unavailable => "UNAVAILABLE"

structure WaveSnapshotEntry where
  queueEntryId : String
  serverRecordingId : String
  position : Int
  localTrackRefId : Option String
  ready : Bool
  deriving DecidableEq

structure WaveSnapshot where
  roomId : String
  profileId : String
  roomEpoch : String
  queueVersion : Int
  role : String
  state : String
  sequence : Int
  entries : List WaveSnapshotEntry
  preflight : List (String × WaveAvailability)
  playbackCommand : Option WaveCommand
  deriving DecidableEq

/-- A message of the socket.  Without a command it asks for a refresh. -/
structure WaveEvent where
  epoch : String
  command : Option WaveCommand
  deriving DecidableEq

inductive CommandAcceptance
  | applied (nextSequence : Int)
  | duplicate
  | catchUpRequired
  deriving DecidableEq, Repr

/-- **`WaveSequenceRecovery.accept`**. -/
def accept (lastApplied : Int) (command : WaveCommand) : CommandAcceptance :=
  if command.sequence ≤ lastApplied then .duplicate
  else if command.sequence = lastApplied + 1 then .applied command.sequence
  else .catchUpRequired

/-! ## what the device keeps -/

structure StoredWaveRoom where
  roomId : String
  profileId : String
  roomEpoch : String
  queueVersion : Int
  role : String
  state : String
  lastSequence : Int
  updatedAtMs : Int
  deriving DecidableEq

structure StoredWavePreflight where
  queueEntryId : String
  serverRecordingId : String
  localTrackRefId : Option String
  queueVersion : Int
  availability : String
  finalReady : Bool
  checkedAtMs : Int
  deriving DecidableEq

structure StoredWaveQueueEntry where
  sequence : Int
  position : Int
  queueEntryId : String
  serverRecordingId : String
  localTrackRefId : Option String
  ready : Bool
  deriving DecidableEq

/-- A room with its preflight and its queue. -/
structure StoredWave where
  room : StoredWaveRoom
  preflight : List StoredWavePreflight
  queue : List StoredWaveQueueEntry
  deriving DecidableEq

/-- `WaveProjectionStore`. -/
abbrev WaveStore := String → Option StoredWave

namespace WaveStore

/-- `room`. -/
def room (store : WaveStore) (roomId : String) : Option StoredWaveRoom :=
  (store roomId).map StoredWave.room

/-- `queue`: `WHERE room_id = … AND sequence = … ORDER BY position LIMIT …`. -/
def queue (store : WaveStore) (roomId : String) (sequence : Int) (limit : Nat) :
    List StoredWaveQueueEntry :=
  ((((store roomId).elim [] StoredWave.queue).filter fun q => q.sequence = sequence).insertionSort
    fun a b => a.position ≤ b.position).take limit

/-- `replaceSnapshot`: the rows of the room are deleted and written anew, in one transaction. -/
def replaceSnapshot (store : WaveStore) (wave : StoredWave) : WaveStore :=
  fun roomId => if roomId = wave.room.roomId then some wave else store roomId

end WaveStore

/-- A queue of the player, as the device keeps it. -/
structure QueueSnapshot where
  queueSnapshotId : String
  queueType : String
  sourceContextId : Option String
  deriving DecidableEq

/-- The queues of the player, one of them active. -/
structure LocalQueues where
  snapshots : List QueueSnapshot
  active : Option String
  deriving DecidableEq

namespace LocalQueues

/-- `snapshot`. -/
def snapshot (q : LocalQueues) (id : String) : Option QueueSnapshot :=
  q.snapshots.find? fun s => s.queueSnapshotId = id

/-- `activeSnapshotOnce`. -/
def activeSnapshot (q : LocalQueues) : Option QueueSnapshot := q.active.bind q.snapshot

end LocalQueues

/-- The queue types that a room gives way to when it ends. -/
def ordinaryQueueTypes : List String := ["USER", "LIBRARY", "SEARCH", "PLAYLIST"]

/-! ## the player -/

structure WavePreparation where
  ready : Bool
  source : WaveAvailability
  bufferedMs : Int
  deriving DecidableEq

/-- When the prepared entry starts, and until when the clock is trusted. -/
structure WavePlaybackAnchor where
  queueSnapshotId : String
  queueEntryId : String
  commandSequence : Int
  startElapsedRealtimeMs : Int
  validUntilElapsedRealtimeMs : Int
  deriving DecidableEq

/-- What a player is told. -/
inductive PlayerAction
  | prepareWaveQueue (queueSnapshotId queueEntryId : String)
  | seekPreparedTo (positionMs : Int)
  | synchronizePreparedPlayback (anchor : WavePlaybackAnchor) (startPlayback : Bool)
  | restoreQueueAfterRoom (snapshotId : Option String)
  | pause
  deriving DecidableEq

/-! ## the coordinator -/

inductive WaveRuntimeState
  | idle
  | preflight
  | scheduled
  | playing
  | degraded
  | rejoining
  | closed
  deriving DecidableEq, Repr

structure WaveUiState where
  roomId : Option String
  state : WaveRuntimeState
  isHost : Bool
  message : Option String
  currentQueueEntryId : Option String
  deriving DecidableEq

structure WavePreflightReport where
  queueEntryId : String
  recordingId : String
  queueVersion : Int
  availability : WaveAvailability
  finalReady : Bool
  deriving DecidableEq

/-- The fields of a coordinator, the device's tables it writes, and what it sent to the player and to
the server. -/
structure WaveClient where
  store : WaveStore
  queues : LocalQueues
  uiState : WaveUiState
  generation : Nat
  preparedEntryId : Option String
  preparedRoomId : Option String
  preparedPlaybackEntryId : Option String
  preparation : Option WavePreparation
  appliedPlaybackSequence : Int
  prefetchedKey : Option (String × Int × Option String)
  previousOrdinarySnapshotId : Option String
  roomPlaybackSnapshotId : Option String
  serverClockOffsetMs : Int
  clockValidUntilElapsedRealtimeMs : Int
  player : List PlayerAction
  reports : List (List WavePreflightReport)

/-- What a payload says, if it parses as a JSON object. -/
structure WavePayload where
  queueEntryId : Option String
  effectiveAtMs : Option Int
  deriving DecidableEq

/-- How a coordinator was built, and what it takes from the standard library. -/
structure WaveSettings where
  /-- Whether there is a `WavePlaybackExecutor`. -/
  hasPlayback : Bool
  playbackSnapshotNamespace : String
  playbackQueueType : String
  /-- `UUID.nameUUIDFromBytes(…).toString()`. -/
  nameUuid : String → String
  /-- `Json.parseToJsonElement(payload).jsonObject`, its `queue_entry_id` and its `effective_at`. -/
  parse : String → Option WavePayload
  /-- `String.toLongOrNull`. -/
  toLong : String → Option Int

/-- **What everything else answers** while one snapshot is applied: the library, the sources, the
player, the network, the clocks. -/
structure WaveAnswers where
  trackRefByRecording : String → String → Option String
  resolve : String → Option WaveAvailability
  prepare : String → String → WavePreparation
  /-- `transport.preflight` returns. -/
  preflightAccepted : Bool
  /-- `prefetch` returns. -/
  prefetched : Bool
  /-- The offset of the server's clock, unless its samples fail or are not eligible. -/
  clockOffsetMs : Option Int
  /-- `transport.timing` returns. -/
  timingAccepted : Bool
  isWaveSynchronizationDegraded : Bool
  nowMs : Int
  elapsedRealtimeMs : Int

section
variable (w : WaveSettings) (a : WaveAnswers)

/-- `playback?.…`: nothing is told when there is no player. -/
def tell (action : PlayerAction) : Effect WaveClient PUnit :=
  .modify fun c => if w.hasPlayback then { c with player := c.player ++ [action] } else c

/-- The same, under a condition. -/
def tellIf (p : Bool) (action : PlayerAction) : Effect WaveClient PUnit :=
  if p then tell w action else return ⟨⟩

/-- **`scheduledElapsedRealtime`**. -/
def scheduledElapsedRealtime (c : WaveClient) (payload : String) : Option Int :=
  match w.toLong payload with
  | some target => some target
  | none => ((w.parse payload).bind WavePayload.effectiveAtMs).map fun serverEpochMs =>
    a.elapsedRealtimeMs + (serverEpochMs - c.serverClockOffsetMs - a.nowMs)

/-- **`refreshPlaybackAnchor`**.  The constructor of the anchor refuses a start after the end of its
lease. -/
def refreshPlaybackAnchor (roomId : String) (command : WaveCommand) (target : Option Int)
    (startPlayback : Bool) : Effect WaveClient PUnit := do
  let c ← Effect.get
  if c.preparedRoomId = some roomId then
    match target, c.roomPlaybackSnapshotId, c.preparedPlaybackEntryId with
    | some target, some snapshotId, some entryId => do
      Effect.check (target < c.clockValidUntilElapsedRealtimeMs)
      tell w (.synchronizePreparedPlayback ⟨snapshotId, entryId, command.sequence, target,
        c.clockValidUntilElapsedRealtimeMs⟩ startPlayback)
    | _, _, _ => return ⟨⟩
  else return ⟨⟩

/-- The queue of the player for an entry of a room, and its only entry. -/
def waveQueueIds (roomId queueEntryId trackRefId : String) : String × String :=
  let ns := w.playbackSnapshotNamespace ++ ":" ++ roomId ++ ":" ++ queueEntryId ++ ":" ++ trackRefId
  (w.nameUuid (ns ++ ":snapshot"), w.nameUuid (ns ++ ":entry"))

/-- **`activateWaveEntry`**. -/
def activateWaveEntry (roomId queueEntryId trackRefId : String) :
    Effect WaveClient (String × String) := do
  let (snapshotId, playbackEntryId) := waveQueueIds w roomId queueEntryId trackRefId
  Effect.modify fun c =>
    if c.roomPlaybackSnapshotId = none then
      { c with
        previousOrdinarySnapshotId := (c.queues.activeSnapshot.filter fun q =>
          q.queueType ∈ ordinaryQueueTypes).map QueueSnapshot.queueSnapshotId }
    else c
  Effect.modify fun c =>
    { c with
      queues := match c.queues.snapshot snapshotId with
        | some _ => { c.queues with active := some snapshotId }
        | none =>
          { snapshots := c.queues.snapshots ++ [⟨snapshotId, w.playbackQueueType, some roomId⟩]
            active := some snapshotId }
      roomPlaybackSnapshotId := some snapshotId }
  return (snapshotId, playbackEntryId)

/-- The entry becomes the prepared one. -/
def prepareEntry (roomId queueEntryId trackRefId : String) : Effect WaveClient PUnit := do
  let (snapshotId, playbackEntryId) ← activateWaveEntry w roomId queueEntryId trackRefId
  tell w (.prepareWaveQueue snapshotId playbackEntryId)
  Effect.modify fun c => { c with
    preparation := some (a.prepare snapshotId playbackEntryId)
    preparedPlaybackEntryId := some playbackEntryId
    preparedRoomId := some roomId
    preparedEntryId := some queueEntryId }

/-- The same, when it is not the prepared one yet. -/
def prepareUnlessPrepared (prepared : Bool) (roomId queueEntryId trackRefId : String) :
    Effect WaveClient PUnit :=
  if prepared then return ⟨⟩ else prepareEntry w a roomId queueEntryId trackRefId

/-- **`executeScheduledPlay`**: whether the command was started. -/
def executeScheduledPlay (roomId : String) (command : WaveCommand) : Effect WaveClient Bool := do
  let c ← Effect.get
  let found := do
    let value ← w.parse command.payload
    let queueEntryId ← value.queueEntryId
    let room ← c.store.room roomId
    let projection ← (c.store.queue roomId room.lastSequence 100).find? fun q =>
      q.queueEntryId = queueEntryId
    let trackRefId ← projection.localTrackRefId
    return (queueEntryId, trackRefId)
  match found with
  | none => return false
  | some (queueEntryId, trackRefId) => do
    if w.hasPlayback = false then return false
    else do
      prepareUnlessPrepared w a
        (c.preparedRoomId = some roomId ∧ c.preparedEntryId = some queueEntryId)
        roomId queueEntryId trackRefId
      let c ← Effect.get
      if c.preparation.any WavePreparation.ready = false then return false
      else
        match scheduledElapsedRealtime w a c command.payload with
        | none => return false
        | some target => do
          -- A late join resumes where the room is.
          tell w (.seekPreparedTo (max (a.elapsedRealtimeMs - target) 0))
          refreshPlaybackAnchor w roomId command (some target) true
          return true

/-- **`restoreLocalPlayback`**: the player gets back the queue that it had before the room. -/
def restoreLocalPlayback (roomId : String) : Effect WaveClient PUnit := do
  let c ← Effect.get
  match c.roomPlaybackSnapshotId, c.queues.activeSnapshot with
  | some ownedId, some active =>
    if active.queueSnapshotId = ownedId ∧ active.sourceContextId = some roomId ∧
        active.queueType = w.playbackQueueType then do
      let previous := (c.previousOrdinarySnapshotId.bind c.queues.snapshot).filter fun q =>
        q.queueType ∈ ordinaryQueueTypes
      tell w .pause
      Effect.modify fun c => { c with
        queues := { c.queues with active := previous.map QueueSnapshot.queueSnapshotId } }
      tell w (.restoreQueueAfterRoom (previous.map QueueSnapshot.queueSnapshotId))
    else return ⟨⟩
  | _, _ => return ⟨⟩

/-- **`close`**. -/
def close (c : WaveClient) : WaveClient :=
  { c with
    generation := c.generation + 1
    preparedEntryId := none
    preparedRoomId := none
    preparedPlaybackEntryId := none
    preparation := none
    appliedPlaybackSequence := 0
    prefetchedKey := none
    previousOrdinarySnapshotId := none
    roomPlaybackSnapshotId := none
    uiState := ⟨none, .closed, false, some "WAVE_CLOSED", none⟩ }

/-- The order of `Int` that can be computed, whichever others are in scope. -/
abbrev positionOrder : Preorder Int := Int.instLinearOrder.toPreorder

attribute [local instance] positionOrder in
/-- **`selectedWaveEntryId`**: the entry that the playback command names, or else the first one. -/
def selectedWaveEntryId (s : WaveSnapshot) : Option String :=
  let selected := s.playbackCommand.bind fun command =>
    (w.parse command.payload).bind WavePayload.queueEntryId
  ((s.entries.find? fun e => some e.queueEntryId = selected).orElse fun _ =>
    s.entries.argmin WaveSnapshotEntry.position).map WaveSnapshotEntry.queueEntryId

/-- The entries from the selected one on, in the order of the queue. -/
def upcoming (s : WaveSnapshot) : List WaveSnapshotEntry :=
  let sorted := s.entries.insertionSort fun a b => a.position ≤ b.position
  let index := sorted.findIdx fun e => some e.queueEntryId = selectedWaveEntryId w s
  if index < sorted.length then sorted.drop index else sorted

/-- The selected entry is prepared, unless it is not available; what the player says of it. -/
def prepareCurrent (s : WaveSnapshot) (current : WaveSnapshotEntry)
    (availability : Option WaveAvailability) : Effect WaveClient (Option WavePreparation) := do
  match current.localTrackRefId with
  | none => return none
  | some trackRefId =>
    if w.hasPlayback = true ∧ availability ≠ some .unavailable then do
      let c ← Effect.get
      prepareUnlessPrepared w a
        (c.preparedRoomId = some s.roomId ∧ c.preparedEntryId = some current.queueEntryId ∧
          c.preparation.any WavePreparation.ready = true)
        s.roomId current.queueEntryId trackRefId
      let c ← Effect.get
      return c.preparation
    else return none

/-- **`runMediaPreflight`**: what is available of the next four entries. -/
def runMediaPreflight (s : WaveSnapshot) : Effect WaveClient (List (String × WaveAvailability)) := do
  let candidates := (upcoming w s).take 4
  match candidates with
  | [] => return []
  | current :: _ => do
    let resolved := candidates.map fun e =>
      (e.queueEntryId, (e.localTrackRefId.bind a.resolve).getD .unavailable)
    let final ← prepareCurrent w a s current (resolved.reverse.lookup current.queueEntryId)
    -- The source that was prepared overrides the one that was found; the last of a name counts.
    let availability := (resolved ++ (final.map fun p => (current.queueEntryId, p.source)).toList).reverse
    let ready := final.any fun p =>
      p.ready = true ∧ (p.source ≠ .vaultStreamable ∨ 3000 ≤ p.bufferedMs)
    Effect.check (a.preflightAccepted = true)
    Effect.modify fun c => { c with
      reports := c.reports ++ [candidates.map fun e =>
        ⟨e.queueEntryId, e.serverRecordingId, s.queueVersion,
          (availability.lookup e.queueEntryId).getD .unavailable,
          e.queueEntryId = current.queueEntryId ∧ ready = true⟩] }
    return availability

/-- **`refreshClock`**, and whether it went through. -/
def refreshClock : Effect WaveClient Bool := do
  match a.clockOffsetMs with
  | none => return false
  | some offset => do
    Effect.modify fun c => { c with
      serverClockOffsetMs := offset
      clockValidUntilElapsedRealtimeMs := a.elapsedRealtimeMs + 60000 }
    return a.timingAccepted

/-- The snapshot as the device keeps it. -/
def storedWave (s : WaveSnapshot) : StoredWave :=
  let trackRef (e : WaveSnapshotEntry) : Option String :=
    e.localTrackRefId.orElse fun _ => a.trackRefByRecording s.profileId e.serverRecordingId
  { room := ⟨s.roomId, s.profileId, s.roomEpoch, s.queueVersion, s.role, s.state, s.sequence, a.nowMs⟩
    preflight := s.preflight.filterMap fun (queueEntryId, availability) =>
      (s.entries.reverse.find? fun e => e.queueEntryId = queueEntryId).map fun e =>
        ⟨queueEntryId, e.serverRecordingId, trackRef e, s.queueVersion, availability.name, e.ready,
          a.nowMs⟩
    queue := s.entries.map fun e =>
      ⟨s.sequence, e.position, e.queueEntryId, e.serverRecordingId, trackRef e, e.ready⟩ }

/-- The snapshot with the tracks of the library. -/
def resolvedSnapshot (s : WaveSnapshot) : WaveSnapshot :=
  { s with
    entries := s.entries.map fun e => { e with
      localTrackRefId :=
        e.localTrackRefId.orElse fun _ => a.trackRefByRecording s.profileId e.serverRecordingId } }

/-- The room that was prepared before is forgotten when another one comes. -/
def forgetOtherRoom (roomId : String) (c : WaveClient) : WaveClient :=
  if c.preparedRoomId ≠ none ∧ c.preparedRoomId ≠ some roomId then
    { c with
      preparedEntryId := none, preparedRoomId := none, preparedPlaybackEntryId := none,
      preparation := none, appliedPlaybackSequence := 0 }
  else c

/-- The entries from the selected one on are fetched, once for a queue and a selection. -/
def prefetchQueue (s : WaveSnapshot) : Effect WaveClient PUnit := do
  let c ← Effect.get
  let key := (s.roomId, s.queueVersion, selectedWaveEntryId w s)
  if c.prefetchedKey = some key then return ⟨⟩
  else do
    Effect.check (a.prefetched = true)
    Effect.modify fun c => { c with prefetchedKey := some key }

/-- The player pauses and no command counts as applied. -/
def haltPlayback : Effect WaveClient PUnit := do
  tell w .pause
  Effect.modify fun c => { c with appliedPlaybackSequence := 0 }

/-- What is made of the playback command: the state that the screen shows. -/
def applyCommand (s : WaveSnapshot) (availability : List (String × WaveAvailability))
    (clockReady : Bool) : Effect WaveClient WaveRuntimeState := do
  let c ← Effect.get
  match s.playbackCommand with
  | none => return .preflight
  | some command =>
    if command.kind = "PLAY" ∧
        (selectedWaveEntryId w s).bind (availability.lookup ·) = some .unavailable then do
      haltPlayback w
      Effect.modify fun c => { c with preparation := none }
      return .degraded
    else if c.appliedPlaybackSequence < command.sequence then
      if command.kind = "PLAY" then
        if clockReady = true then do
          let started ← executeScheduledPlay w a s.roomId command
          if started = true then do
            Effect.modify fun c => { c with appliedPlaybackSequence := command.sequence }
            return .playing
          else return .degraded
        else return .degraded
      else do
        tell w .pause
        Effect.modify fun c => { c with appliedPlaybackSequence := command.sequence }
        return .preflight
    else if command.kind = "PLAY" then
      if clockReady = true ∧ ¬(w.hasPlayback = true ∧ a.isWaveSynchronizationDegraded = true) then do
        refreshPlaybackAnchor w s.roomId command (scheduledElapsedRealtime w a c command.payload) false
        return .playing
      else do
        haltPlayback w
        return .degraded
    else return .preflight

/-- The snapshot is older than the room that is shown and kept. -/
def Outdated (c : WaveClient) (s : WaveSnapshot) : Prop :=
  c.uiState.roomId = some s.roomId ∧ ∃ previous ∈ c.store.room s.roomId,
    previous.roomEpoch = s.roomEpoch ∧ s.sequence < previous.lastSequence

instance (c : WaveClient) (s : WaveSnapshot) : Decidable (Outdated c s) :=
  inferInstanceAs (Decidable (_ ∧ ∃ previous ∈ c.store.room s.roomId, _ ∧ _))

/-- **`applySnapshot`**.  The generation does not change while it runs: the code checks it again where
it may. -/
def applySnapshot (s : WaveSnapshot) (expectedGeneration : Nat) : Effect WaveClient PUnit := do
  let c ← Effect.get
  if expectedGeneration ≠ c.generation then return ⟨⟩
  else if Outdated c s then return ⟨⟩
  else do
    Effect.modify (forgetOtherRoom s.roomId)
    Effect.check (s.entries.length ≤ 100)
    Effect.check (∀ command ∈ s.playbackCommand, command.sequence ≤ s.sequence)
    Effect.modify fun c => { c with store := c.store.replaceSnapshot (storedWave a s) }
    if s.state = "CLOSED" ∨ s.state = "EXPIRED" then do
      restoreLocalPlayback w s.roomId
      Effect.modify close
    else if s.state = "ORPHANED" then do
      haltPlayback w
      Effect.modify fun c => { c with uiState := { c.uiState with state := .degraded } }
    else do
      let availability ← runMediaPreflight w a (resolvedSnapshot a s)
      prefetchQueue w a s
      let clockReady ← refreshClock a
      let runtimeState ← applyCommand w a s availability clockReady
      Effect.modify fun c => { c with
        uiState :=
          { roomId := some s.roomId
            state := runtimeState
            isHost := s.role = "HOST"
            message := if s.playbackCommand.any (fun command => command.kind = "PAUSE")
              then some "WAVE_PAUSED" else none
            currentQueueEntryId := selectedWaveEntryId w s } }

/-- **`disconnectLocally`**. -/
def disconnectLocally : Effect WaveClient PUnit := do
  let c ← Effect.get
  Effect.modify fun c => { c with generation := c.generation + 1 }
  match c.uiState.roomId with
  | none => Effect.modify close
  | some roomId => do
    restoreLocalPlayback w roomId
    Effect.modify close

/-- What `recover` catches. -/
inductive WaveFailure
  | roomUnavailable
  | security
  | other
  deriving DecidableEq, Repr

/-- How **`recover`** goes on after an exception. -/
def recoverFrom (failure : WaveFailure) (expectedGeneration : Nat) : Effect WaveClient PUnit := do
  let c ← Effect.get
  if expectedGeneration ≠ c.generation then return ⟨⟩
  else
    match failure with
    | .roomUnavailable => disconnectLocally w
    | .security => do
      tellIf w (c.queues.activeSnapshot.map QueueSnapshot.queueSnapshotId = c.roomPlaybackSnapshotId)
        .pause
      Effect.modify fun c => { c with
        uiState := { c.uiState with state := .degraded, message := some "WAVE_AUTH_REQUIRED" } }
    | .other =>
      Effect.modify fun c => { c with
        uiState := { c.uiState with state := .degraded, message := some "WAVE_SERVER_UNAVAILABLE" } }

/-- A snapshot arrives.  `recover` catches what `applySnapshot` throws; the other callers do not. -/
def received (s : WaveSnapshot) (expectedGeneration : Nat) (caught : Option WaveFailure) :
    Effect WaveClient PUnit := fun c =>
  match applySnapshot w a s expectedGeneration c, caught with
  | (none, c'), some failure => recoverFrom w failure expectedGeneration c'
  | r, _ => r

end

/-- **`onEvent`**: whether a message of the socket makes the client ask for a snapshot. -/
def onEvent (c : WaveClient) (expectedRoomId : String) (expectedGeneration : Nat) (event : WaveEvent) :
    Bool :=
  if c.uiState.roomId = some expectedRoomId ∧ c.generation = expectedGeneration then
    match event.command with
    | none => true
    | some command =>
      match c.store.room expectedRoomId with
      | none => false
      | some room =>
        if event.epoch ≠ room.roomEpoch then true
        else
          match accept room.lastSequence command with
          | .applied _ => true
          | .duplicate => false
          | .catchUpRequired => true
  else false

end AutPlay.Client
