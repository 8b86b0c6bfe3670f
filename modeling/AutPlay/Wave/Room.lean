import AutPlay.Wave.Rows
import Mathlib.Data.List.Sort
import Mathlib.Data.List.MinMax

/-!
# The Wave room service

`SqlAlchemyWaveService`, one definition an operation.  Each takes the instant `now` that its caller
passes, and `stmt`, the database's own `statement_timestamp()`, where a trigger reads it; identifiers
that the service draws at random are arguments.

* `playbackCommand`            the current durable playback intent;
* `readSnapshot`, `requireHost`   the checks in front of the operations;
* `appendLifecycleCommand`     a command of the server itself;
* `command`                    a command of the host, in its two phases `commandLookup` and
                               `commandLocked`: the room row is locked between them;
* `start`                      the strict start gate.
-/

set_option linter.unusedSectionVars false

namespace AutPlay.Wave
open Sync (Uuid Json Payload)

namespace WaveDb

/-! ## reading -/

def commandsOf (db : WaveDb) (room : Uuid) : List CommandRow :=
  db.commands.rows.filter (fun c => c.roomId = room)

def membersOf (db : WaveDb) (room : Uuid) : List MemberRow :=
  db.members.rows.filter (fun m => m.roomId = room)

def guestsOf (db : WaveDb) (room : Uuid) : List GuestSessionRow :=
  db.guestSessions.rows.filter (fun g => g.roomId = room)

/-- The live queue, `ORDER BY position`. -/
def queueOf (db : WaveDb) (room : Uuid) : List QueueEntryRow :=
  (db.queueEntries.rows.filter (fun q => q.roomId = room ∧ q.removedAt = none)).insertionSort
    (fun a b => a.position ≤ b.position)

end WaveDb

/-- The kinds that `playback_command` selects. -/
def CommandKind.playback : CommandKind → Bool
  | .play | .pause | .skip | .startAborted | .close | .expire => true
  | .seek | .queue | .transfer | .leave => false

/-- The latest playback command among the commands of a room. -/
def latestPlayback (commands : List CommandRow) : Option CommandRow :=
  (commands.filter (fun c => c.commandKind.playback)).argmax CommandRow.commandSequence

/-- **`playback_command`**. -/
def playbackCommand (db : WaveDb) (room : Uuid) : Option CommandRow :=
  latestPlayback (db.commandsOf room)

structure QueueEntry where
  queueEntryId : Uuid
  recordingId : Uuid
  position : Nat
  deriving DecidableEq

structure HostTransferTarget where
  deviceId : Uuid
  deviceName : String
  deriving DecidableEq

structure WaveRoom where
  roomId : Uuid
  code : String
  hostUserId : Uuid
  createdAt : Instant
  expiresAt : Instant
  members : List Uuid
  queue : List QueueEntry
  version : Nat
  commandSequence : Nat
  closedAt : Option Instant
  hostLostAt : Option Instant
  roomEpoch : Nat
  state : RoomState
  playbackState : PlaybackState
  selfRole : MemberRole
  selfPreflight : List (Uuid × Availability)
  hostTransferTargets : List HostTransferTarget
  playbackCommand : Option CommandRow

def MemberRow.isJoined (m : MemberRow) : Bool := m.status = .joined

def GuestSessionRow.isPresent (now : Instant) (g : GuestSessionRow) : Bool :=
  g.state = .active ∧ now < g.expiresAt

/-- Joined members plus active unexpired guests. -/
def participantCount (db : WaveDb) (room : Uuid) (now : Instant) : Nat :=
  (db.membersOf room).countP MemberRow.isJoined +
    (db.guestsOf room).countP (GuestSessionRow.isPresent now)

/-- A member last seen at the cutoff or later. -/
def MemberRow.seenSince (cutoff : Instant) (m : MemberRow) : Bool :=
  match m.lastPresentAt with
  | none => false
  | some t => cutoff ≤ t

/-- `UPDATE wave.member SET last_present_at=:now`, under `ck_wave_member_presence`. -/
def touchMember (db : WaveDb) (room device : Uuid) (now : Instant) : Except WaveError WaveDb := do
  require (∀ m ∈ db.members.rows, m.roomId = room → m.deviceId = device → m.joinedAt ≤ now)
    (.check .member)
  return { db with
    members := db.members.updateWhere (fun m => m.roomId = room ∧ m.deviceId = device)
      (fun m => { m with lastPresentAt := some now }) }

/-- **`_member`**. -/
def requireMember (db : WaveDb) (room : Uuid) (p : Principal) (now : Instant) :
    Except WaveError WaveDb := do
  require (∃ m ∈ db.members.rows, m.roomId = room ∧ m.userId = p.userId ∧ m.deviceId = p.deviceId ∧
    m.status = .joined) .waveForbidden
  touchMember db room p.deviceId now

/-- The devices that the host may hand the room to. -/
def hostTransferTargets (db : WaveDb) (room device : Uuid) (now : Instant) :
    List HostTransferTarget :=
  (((db.membersOf room).filter (fun m => m.status = .joined ∧ m.deviceId ≠ device ∧
      m.seenSince (now - seconds 30) = true)).insertionSort
      (fun a b => a.joinedAt < b.joinedAt ∨ (a.joinedAt = b.joinedAt ∧ a.deviceId ≤ b.deviceId))
    |>.filterMap fun m =>
      (db.devices.find m.deviceId).bind fun d =>
        if d.userId = m.userId ∧ d.revokedAt = none then
          some ⟨m.deviceId, d.deviceName⟩ else none).take 7

/-- **`_snapshot`**. -/
def readSnapshot (db : WaveDb) (room : Uuid) (p : Principal) (now : Instant) :
    Except WaveError (WaveRoom × WaveDb) := do
  let row ← one ((db.rooms.find room).filter fun r =>
    now < r.expiresAt ∧ r.state ≠ .closed ∧ r.state ≠ .expired)
  let db ← requireMember db room p now
  let self ← one ((db.members.find (room, p.deviceId)).filter fun m => m.userId = p.userId)
  return ({
    roomId := row.roomId
    code := ""
    hostUserId := row.hostUserId
    createdAt := row.createdAt
    expiresAt := row.expiresAt
    members := ((db.membersOf room).filter MemberRow.isJoined).map MemberRow.userId |>.dedup
    queue := (db.queueOf room).map fun q => ⟨q.queueEntryId, q.recordingId, q.position⟩
    version := row.queueVersion
    commandSequence := row.commandSequence
    closedAt := row.closedAt
    hostLostAt := row.hostLostAt
    roomEpoch := row.roomEpoch
    state := row.state
    playbackState := row.playbackState
    selfRole := self.role
    selfPreflight := (db.preflights.rows.filter fun f => f.roomId = room ∧ f.deviceId = p.deviceId ∧
      f.queueVersion = row.queueVersion ∧ now < f.expiresAt).map
        fun f => (f.queueEntryId, f.availability)
    hostTransferTargets :=
      if self.role = .host then hostTransferTargets db room p.deviceId now else []
    playbackCommand := playbackCommand db room }, db)

/-- **`_host`**. -/
def requireHost (db : WaveDb) (room : Uuid) (p : Principal) (now : Instant) :
    Except WaveError (WaveRoom × WaveDb) := do
  let (value, db) ← readSnapshot db room p now
  let row ← one (db.rooms.find room)
  require (value.hostUserId = p.userId ∧ row.hostDeviceId = p.deviceId ∧ value.hostLostAt = none ∧
    value.state = .opened) .waveForbidden
  return (value, db)

/-- `INSERT` into `wave.command`, under `ck_wave_command_key` and `ck_wave_command_base`. -/
def insertCommand (db : WaveDb) (c : CommandRow) : Except WaveError WaveDb := do
  require (1 ≤ c.idempotencyKey.length ∧ c.idempotencyKey.length ≤ 128 ∧
    1 ≤ c.expectedQueueVersion) (.check .command)
  let commands ← insertInto .command db.commands c
  return { db with commands := commands }

/-- The key of a command that the server appends itself. -/
def lifecycleKey (kind : CommandKind) (sequence : Nat) : String :=
  "lifecycle-" ++ (kind.lower ++ ("-" ++ sequence.repr))

def startKey (sequence : Nat) : String := "start-" ++ sequence.repr

/-- The row of a lifecycle command. -/
def lifecycleCommand (env : WaveEnv) (room : RoomRow) (actorUser actorDevice : Uuid)
    (kind : CommandKind) (document : Payload) (now : Instant) : CommandRow where
  roomId := room.roomId
  commandSequence := room.commandSequence + 1
  actorUserId := actorUser
  actorDeviceId := actorDevice
  idempotencyKey := lifecycleKey kind (room.commandSequence + 1)
  requestSha256 := env.sha256 (room.roomId.text ++ ":" ++ (room.commandSequence + 1).repr ++ ":" ++
    kind.text ++ ":" ++ env.dumps document)
  expectedQueueVersion := room.queueVersion
  expectedSequence := room.commandSequence
  commandKind := kind
  commandDocument := document
  effectiveAt := none
  createdAt := now

/-- **`_append_lifecycle_command`**. -/
def appendLifecycleCommand (env : WaveEnv) (db : WaveDb) (room : Uuid)
    (actorUser actorDevice : Uuid) (kind : CommandKind) (document : Payload) (now : Instant) :
    Except WaveError WaveDb := do
  let row ← one (db.rooms.find room)
  let db ← insertCommand db (lifecycleCommand env row actorUser actorDevice kind document now)
  return db.updateRoom room fun r => { r with commandSequence := row.commandSequence + 1 }

/-! ## rooms and members -/

/-- **`create`**: the room, its host and the accounts that may join. -/
def create (env : WaveEnv) (db : WaveDb) (p : Principal) (roomId : Uuid) (code : String)
    (allowUsers : List Uuid) (now : Instant) : Except WaveError WaveDb := do
  let rooms ← insertInto .room db.rooms
    { roomId := roomId, roomCodeSha256 := env.sha256 code, hostUserId := p.userId,
      hostDeviceId := p.deviceId, state := .opened, playbackState := .idle, roomEpoch := 1,
      queueVersion := 1, commandSequence := 0, timelineEffectiveAt := none,
      expiresAt := now + seconds 21600, hostLostAt := none, closedAt := none, createdAt := now }
  let members ← insertInto .member db.members
    { roomId := roomId, userId := p.userId, deviceId := p.deviceId, role := .host,
      status := .joined, joinedAt := now, leftAt := none, lastPresentAt := some now }
  require (allowUsers.length ≤ 7) (.valueError "Wave allowlist exceeds seven invitees")
  let allowed ← (allowUsers.filter (fun u => u ≠ p.userId)).foldlM (fun t u => do
    require ((db.accounts.find u).isSome = true) (.foreignKey .allow)
    insertInto .allow t { roomId := roomId, userId := u }) db.allowed
  return { db with rooms := rooms, members := members, allowed := allowed }

/-- The member row that `join` inserts, or the update that it falls back to. -/
def joinMember (db : WaveDb) (room : Uuid) (p : Principal) (now : Instant) :
    Except WaveError WaveDb :=
  match db.members.find (room, p.deviceId) with
  | none => do
    let members ← insertInto .member db.members
      { roomId := room, userId := p.userId, deviceId := p.deviceId, role := .member,
        status := .joined, joinedAt := now, leftAt := none, lastPresentAt := some now }
    return { db with members := members }
  | some m => do
    require (m.joinedAt ≤ now) (.check .member)
    return { db with
      members := db.members.updateWhere (fun m => m.roomId = room ∧ m.deviceId = p.deviceId)
        (fun m => { m with status := .joined, lastPresentAt := some now, leftAt := none }) }

/-- **`join`**. -/
def join (env : WaveEnv) (db : WaveDb) (code : String) (p : Principal) (now : Instant) :
    Except WaveError (WaveRoom × WaveDb) := do
  let room ← one (db.rooms.rows.find? fun r =>
    r.roomCodeSha256 = env.sha256 (env.upper code) ∧ r.state = .opened ∧ now < r.expiresAt)
  require ((∃ m ∈ db.members.rows, m.roomId = room.roomId ∧ m.deviceId = p.deviceId ∧
    m.status = .joined) ∨ participantCount db room.roomId now < 8) .waveConflict
  let db ← if (db.allowed.find (room.roomId, p.userId)).isSome
    then joinMember db room.roomId p now else pure db
  require (∃ m ∈ db.members.rows, m.roomId = room.roomId ∧ m.userId = p.userId ∧
    m.deviceId = p.deviceId ∧ m.status = .joined) .waveForbidden
  readSnapshot db room.roomId p now

def setLeft (db : WaveDb) (room device : Uuid) (now : Instant) : WaveDb :=
  { db with
    members := db.members.updateWhere (fun m => m.roomId = room ∧ m.deviceId = device)
      (fun m => { m with status := .left, leftAt := some now }) }

def closeRoom (now : Instant) (r : RoomRow) : RoomRow :=
  { r with state := .closed, playbackState := .paused, closedAt := some now }

/-- **`leave`**: the host closes the room, if nobody else is in it. -/
def leave (env : WaveEnv) (db : WaveDb) (room : Uuid) (p : Principal) (now stmt : Instant) :
    Except WaveError WaveDb := do
  let (_, db) ← readSnapshot db room p now
  let row ← one (db.rooms.find room)
  require (¬ (p.deviceId = row.hostDeviceId ∧
    1 < (db.membersOf room).countP MemberRow.isJoined)) .waveConflict
  let kind : CommandKind := if p.deviceId = row.hostDeviceId then .close else .leave
  let db ← appendLifecycleCommand env db room p.userId p.deviceId kind
    [("device_left", .bool true)] now
  let db := setLeft db room p.deviceId now
  if kind = .close then return db.updateRoomState room (closeRoom now) stmt else return db

/-- **`close`**. -/
def close (env : WaveEnv) (db : WaveDb) (room : Uuid) (p : Principal) (now stmt : Instant) :
    Except WaveError WaveDb := do
  let (_, db) ← requireHost db room p now
  let db ← appendLifecycleCommand env db room p.userId p.deviceId .close [] now
  return db.updateRoomState room (closeRoom now) stmt

/-- `UPDATE wave.member SET role=CASE WHEN device_id=:device THEN 'HOST' ELSE 'MEMBER' END`. -/
def setHostRole (db : WaveDb) (room device : Uuid) : WaveDb :=
  { db with
    members := db.members.updateWhere (fun m => m.roomId = room)
      (fun m => { m with role := if m.deviceId = device then .host else .member }) }

/-- **`transfer_host`**. -/
def transferHost (env : WaveEnv) (db : WaveDb) (room : Uuid) (p : Principal) (targetDevice : Uuid)
    (now : Instant) : Except WaveError WaveDb := do
  let (_, db) ← requireHost db room p now
  match (db.members.find (room, targetDevice)).filter fun m =>
      m.deviceId ≠ p.deviceId ∧ m.status = .joined ∧ m.seenSince (now - seconds 30) = true ∧
      ((db.devices.find m.deviceId).any fun d => d.userId = m.userId ∧ d.revokedAt = none) = true with
  | none => throw .waveForbidden
  | some target => do
    let db ← appendLifecycleCommand env db room p.userId p.deviceId .transfer
      [("target_device_id", .str targetDevice.text)] now
    let db := db.updateRoom room fun r =>
      { r with hostUserId := target.userId, hostDeviceId := targetDevice, roomEpoch := r.roomEpoch + 1 }
    return setHostRole db room targetDevice

/-- The first present member, by time of joining and device. -/
def electHost (db : WaveDb) (room : Uuid) (now : Instant) : Option MemberRow :=
  (((db.membersOf room).filter (fun m => m.status = .joined ∧
    m.seenSince (now - seconds 30) = true)).insertionSort
    (fun a b => a.joinedAt < b.joinedAt ∨ (a.joinedAt = b.joinedAt ∧ a.deviceId ≤ b.deviceId))).head?

/-- The host is present: a loss that was recorded ends. -/
def hostReturned (env : WaveEnv) (db : WaveDb) (room : RoomRow) (now stmt : Instant) :
    Except WaveError (Option Uuid × WaveDb) := do
  if room.hostLostAt.isSome ∨ room.state = .orphaned then
    let db ← appendLifecycleCommand env db room.roomId room.hostUserId room.hostDeviceId .transfer
      [("recovered", .bool true)] now
    return (some room.hostUserId, db.updateRoomState room.roomId
      (fun r => { r with hostLostAt := none, state := .opened, roomEpoch := r.roomEpoch + 1 }) stmt)
  else return (none, db)

/-- Nobody can take over: the room pauses, once. -/
def orphanRoom (env : WaveEnv) (db : WaveDb) (room : RoomRow) (now stmt : Instant) :
    Except WaveError (Option Uuid × WaveDb) := do
  if room.state = .orphaned then return (none, db)
  else
    let db ← appendLifecycleCommand env db room.roomId room.hostUserId room.hostDeviceId .pause
      [("reason", .str "host_unavailable")] now
    return (none, db.updateRoomState room.roomId
      (fun r => { r with state := .orphaned, playbackState := .paused }) stmt)

/-- The elected member takes over. -/
def promote (env : WaveEnv) (db : WaveDb) (room : RoomRow) (winner : MemberRow)
    (now stmt : Instant) : Except WaveError (Option Uuid × WaveDb) := do
  let db ← appendLifecycleCommand env db room.roomId room.hostUserId room.hostDeviceId .transfer
    [("target_device_id", .str winner.deviceId.text), ("automatic", .bool true)] now
  let db := db.updateRoomState room.roomId (fun r => { r with
    hostUserId := winner.userId, hostDeviceId := winner.deviceId, hostLostAt := none,
    state := .opened, roomEpoch := r.roomEpoch + 1 }) stmt
  return (some winner.userId, setHostRole db room.roomId winner.deviceId)

/-- **`recover_host`**. -/
def recoverHost (env : WaveEnv) (db : WaveDb) (room : Uuid) (now stmt : Instant) :
    Except WaveError (Option Uuid × WaveDb) := do
  let row ← one ((db.rooms.find room).filter fun r => r.state = .opened ∨ r.state = .orphaned)
  if ∃ m ∈ db.members.rows, m.roomId = room ∧ m.deviceId = row.hostDeviceId ∧ m.status = .joined ∧
      m.seenSince (now - seconds 30) = true then
    hostReturned env db row now stmt
  else
    let lostAt := row.hostLostAt.getD now
    let db := db.updateRoom room fun r => { r with hostLostAt := some (r.hostLostAt.getD now) }
    if now < lostAt + seconds 30 then return (none, db)
    else
      match electHost db room now with
      | none => orphanRoom env db row now stmt
      | some winner => promote env db row winner now stmt

/-- The rooms that a sweep takes, oldest expiry first. -/
def dueRooms (db : WaveDb) (now : Instant) (limit : Nat) : List RoomRow :=
  ((db.rooms.rows.filter fun r => (r.state = .opened ∨ r.state = .orphaned) ∧
    r.expiresAt ≤ now).insertionSort (fun a b => a.expiresAt ≤ b.expiresAt)).take limit

/-- One room of a sweep. -/
def expireRoom (env : WaveEnv) (now stmt : Instant) (db : WaveDb) (room : RoomRow) :
    Except WaveError WaveDb := do
  let db ← appendLifecycleCommand env db room.roomId room.hostUserId room.hostDeviceId .expire [] now
  return db.updateRoomState room.roomId
    (fun r => { r with state := .expired, playbackState := .paused, closedAt := some now }) stmt

/-- **`expire_due`**: one transaction for the whole batch. -/
def expireDue (env : WaveEnv) (db : WaveDb) (now : Instant) (limit : Int) (stmt : Instant) :
    Except WaveError (Nat × WaveDb) := do
  require (1 ≤ limit ∧ limit ≤ 100)
    (.valueError "Wave expiry batch must be between 1 and 100")
  let due := dueRooms db now limit.toNat
  let db ← due.foldlM (expireRoom env now stmt) db
  return (due.length, db)

/-! ## commands of the host -/

structure CommandRequest where
  kind : String
  idempotencyKey : String
  requestHash : Digest
  expectedQueueVersion : Nat
  expectedSequence : Nat
  recordingId : Option Uuid
  deriving DecidableEq

structure CommandResult where
  sequence : Nat
  queueVersion : Option Nat
  idempotent : Bool
  deriving DecidableEq

/-- The first phase of `command`, before the room row is locked: an earlier command of the key. -/
def commandLookup (db : WaveDb) (room : Uuid) (q : CommandRequest) :
    Except WaveError (Option CommandResult) :=
  match db.commands.rows.find? fun c => c.roomId = room ∧ c.idempotencyKey = q.idempotencyKey with
  | none => .ok none
  | some prior =>
    if prior.requestSha256 = q.requestHash then .ok (some ⟨prior.commandSequence, none, true⟩)
    else .error .waveConflict

/-- The entry that `room.playback_command` names, as text. -/
def namedEntry (c : CommandRow) : Option String :=
  match c.commandDocument.lookup "queue_entry_id" with
  | some (.str id) => some id
  | _ => none

/-- The index that PAUSE and SKIP take for the current one. -/
def currentIndex (room : WaveRoom) : Nat :=
  let current := room.playbackCommand.bind namedEntry
  (room.queue.findIdx? fun entry => some entry.queueEntryId.text = current).getD 0

def entryDocument (entry : QueueEntry) : Payload :=
  [("queue_entry_id", .str entry.queueEntryId.text), ("recording_id", .str entry.recordingId.text)]

/-- What a command does besides being appended: the version of the queue after it, and its
document. -/
def commandEffect (db : WaveDb) (room : WaveRoom) (q : CommandRequest) (entryId : Uuid) :
    Except WaveError (CommandKind × Nat × Payload × WaveDb) :=
  match q.kind, q.recordingId with
  | "QUEUE", some recordingId => do
    require (room.queue.length < 100) (.check .queueEntry)
    require (recordingId ∈ db.recordings) (.foreignKey .queueEntry)
    let queueEntries ← insertInto .queueEntry db.queueEntries
      { queueEntryId := entryId, roomId := room.roomId, recordingId := recordingId,
        position := room.queue.length, removedAt := none }
    return (.queue, q.expectedQueueVersion + 1, [], { db with queueEntries := queueEntries })
  | "PLAY", _ => throw (.valueError "PLAY requires strict Wave start")
  | "SKIP", _ =>
    match room.queue[currentIndex room + 1]? with
    | none => throw .waveConflict
    | some entry => return (.skip, q.expectedQueueVersion, entryDocument entry, db)
  | "PAUSE", _ =>
    match room.queue[currentIndex room]? with
    | none => return (.pause, q.expectedQueueVersion, [], db)
    | some entry => return (.pause, q.expectedQueueVersion, entryDocument entry, db)
  | "SEEK", _ => return (.seek, q.expectedQueueVersion, [], db)
  | "TRANSFER", _ => return (.transfer, q.expectedQueueVersion, [], db)
  | _, _ => throw (.valueError "unsupported Wave command")

/-- The second phase of `command`, under the lock of the room row. -/
def commandLocked (db : WaveDb) (room : Uuid) (p : Principal) (q : CommandRequest)
    (entryId : Uuid) (now : Instant) : Except WaveError (CommandResult × WaveDb) := do
  let (value, db) ← requireHost db room p now
  require (value.version = q.expectedQueueVersion ∧ value.commandSequence = q.expectedSequence)
    .waveConflict
  let (kind, version, document, db) ← commandEffect db value q entryId
  let sequence := q.expectedSequence + 1
  let db := db.updateRoom room fun r => { r with
    queueVersion := version
    commandSequence := sequence
    playbackState := if kind = .pause ∨ kind = .skip then .paused else r.playbackState }
  let db ← insertCommand db
    { roomId := room, commandSequence := sequence, actorUserId := p.userId,
      actorDeviceId := p.deviceId, idempotencyKey := q.idempotencyKey,
      requestSha256 := q.requestHash, expectedQueueVersion := q.expectedQueueVersion,
      expectedSequence := q.expectedSequence, commandKind := kind, commandDocument := document,
      effectiveAt := none, createdAt := now }
  return (⟨sequence, some version, false⟩, db)

/-- **`command`**, when nothing happens between its two phases. -/
def command (db : WaveDb) (room : Uuid) (p : Principal) (q : CommandRequest) (entryId : Uuid)
    (now : Instant) : Except WaveError (CommandResult × WaveDb) := do
  match ← commandLookup db room q with
  | some prior => return (prior, db)
  | none => commandLocked db room p q entryId now

/-! ## the start gate -/

/-- **`preflight`** of a member. -/
def preflight (db : WaveDb) (room : Uuid) (p : Principal) (queueEntryId recordingId : Uuid)
    (queueVersion : Nat) (availability : Availability) (finalReady : Bool) (now : Instant) :
    Except WaveError WaveDb := do
  let db ← requireMember db room p now
  require ((∃ q ∈ db.queueEntries.rows, q.roomId = room ∧ q.queueEntryId = queueEntryId ∧
      q.recordingId = recordingId ∧ q.removedAt = none) ∧
    ∃ r ∈ db.rooms.rows, r.roomId = room ∧ r.queueVersion = queueVersion ∧ r.state = .opened)
    .waveConflict
  return { db with
    preflights := db.preflights.upsert
      { roomId := room, userId := p.userId, deviceId := p.deviceId, queueEntryId := queueEntryId,
        recordingId := recordingId, queueVersion := queueVersion, availability := availability,
        finalReady := finalReady, sourceCheckedAt := now,
        expiresAt := now + seconds (if finalReady then 15 else 30) }
      (fun f => { f with
        recordingId := recordingId, queueVersion := queueVersion, availability := availability,
        finalReady := finalReady, sourceCheckedAt := now,
        expiresAt := now + seconds (if finalReady then 15 else 30) }) }

structure TimingRequest where
  sequence : Nat
  rttMs : Int
  offsetMs : Int
  uncertaintyMs : Int
  startSkewMs : Option Int
  driftMs : Option Int
  deriving DecidableEq

/-- **`timing`** of a member, under `ck_wave_timing_bounds`. -/
def timing (db : WaveDb) (room : Uuid) (p : Principal) (t : TimingRequest) (now : Instant) :
    Except WaveError WaveDb := do
  let db ← requireMember db room p now
  require (0 ≤ t.rttMs ∧ t.rttMs ≤ 1000 ∧ 0 ≤ t.uncertaintyMs ∧ t.uncertaintyMs ≤ 100 ∧
    t.offsetMs.natAbs ≤ 86400000) (.check .timingReport)
  return { db with
    timingReports := db.timingReports.upsert
      { roomId := room, deviceId := p.deviceId, commandSequence := t.sequence, rttMs := t.rttMs,
        offsetMs := t.offsetMs, uncertaintyMs := t.uncertaintyMs, startSkewMs := t.startSkewMs,
        driftMs := t.driftMs, reportedAt := now }
      (fun r => { r with
        rttMs := t.rttMs, offsetMs := t.offsetMs, uncertaintyMs := t.uncertaintyMs,
        startSkewMs := t.startSkewMs, driftMs := t.driftMs, reportedAt := now }) }

structure StartRequest where
  queueEntryId : Uuid
  recordingId : Uuid
  expectedQueueVersion : Nat
  expectedSequence : Nat
  deriving DecidableEq

/-- One line of `participant_gate`. -/
structure ParticipantGate where
  ready : Bool
  rtt : Option Int
  uncertainty : Option Int
  deriving DecidableEq

/-- The order of `Int` that can be computed, whichever others are in scope. -/
abbrev instantOrder : Preorder Int := Int.instLinearOrder.toPreorder

section
attribute [local instance] instantOrder

/-- The report that a participant's clock is judged by: `ORDER BY reported_at DESC LIMIT 1`. -/
def latestTiming (reports : List TimingReportRow) : Option TimingReportRow :=
  reports.argmax TimingReportRow.reportedAt

def latestGuestTiming (reports : List GuestTimingReportRow) : Option GuestTimingReportRow :=
  reports.argmax GuestTimingReportRow.reportedAt

end

def memberGate (db : WaveDb) (room : Uuid) (q : StartRequest) (now : Instant) (m : MemberRow) :
    ParticipantGate :=
  let report := latestTiming (db.timingReports.rows.filter fun t => t.roomId = room ∧
    t.deviceId = m.deviceId ∧ t.commandSequence = q.expectedSequence ∧
    now - seconds 60 ≤ t.reportedAt)
  { ready := db.preflights.rows.any fun p => p.roomId = room ∧ p.deviceId = m.deviceId ∧
      p.queueEntryId = q.queueEntryId ∧ p.recordingId = q.recordingId ∧
      p.queueVersion = q.expectedQueueVersion ∧ p.finalReady = true ∧
      p.availability ≠ .unavailable ∧ now < p.expiresAt
    rtt := report.map TimingReportRow.rttMs
    uncertainty := report.map TimingReportRow.uncertaintyMs }

def guestGate (db : WaveDb) (room : Uuid) (q : StartRequest) (now : Instant)
    (g : GuestSessionRow) : ParticipantGate :=
  let report := latestGuestTiming (db.guestTimingReports.rows.filter fun t => t.roomId = room ∧
    t.guestSessionId = g.guestSessionId ∧ t.commandSequence = q.expectedSequence ∧
    now - seconds 60 ≤ t.reportedAt)
  { ready := db.guestPreflights.rows.any fun p => p.roomId = room ∧
      p.guestSessionId = g.guestSessionId ∧
      p.queueEntryId = q.queueEntryId ∧ p.recordingId = q.recordingId ∧
      p.queueVersion = q.expectedQueueVersion ∧ p.finalReady = true ∧
      p.availability ≠ .unavailable ∧ now < p.expiresAt
    rtt := report.map GuestTimingReportRow.rttMs
    uncertainty := report.map GuestTimingReportRow.uncertaintyMs }

def GuestSessionRow.seenSince (cutoff : Instant) (g : GuestSessionRow) : Bool :=
  match g.lastPresentAt with
  | none => false
  | some t => cutoff ≤ t

/-- The members that `participant_gate` selects. -/
def presentMembers (db : WaveDb) (room : Uuid) (now : Instant) : List MemberRow :=
  (db.membersOf room).filter fun m => m.status = .joined ∧ m.seenSince (now - seconds 30) = true

/-- The guests that `participant_gate` selects. -/
def presentGuests (db : WaveDb) (room : Uuid) (now : Instant) : List GuestSessionRow :=
  (db.guestsOf room).filter fun g => g.isPresent now = true ∧
    g.seenSince (now - seconds 30) = true ∧
    ((db.guestInvitations.find g.invitationId).any fun i =>
      (i.state = .pending ∨ i.state = .depleted) ∧ now < i.expiresAt) = true

/-- `participant_gate`. -/
def participantGate (db : WaveDb) (room : Uuid) (q : StartRequest) (now : Instant) :
    List ParticipantGate :=
  (presentMembers db room now).map (memberGate db room q now) ++
    (presentGuests db room now).map (guestGate db room q now)

/-- `rtt BETWEEN 0 AND 1000 AND uncertainty BETWEEN 0 AND 100`. -/
def ParticipantGate.clockOk (g : ParticipantGate) : Bool :=
  (g.rtt.any fun rtt => 0 ≤ rtt ∧ rtt ≤ 1000) && g.uncertainty.any fun u => 0 ≤ u ∧ u ≤ 100

/-- `coalesce(max(x),0)`: unknown values are passed over. -/
def maxOrZero (values : List (Option Int)) : Int :=
  ((values.filterMap id).max?).getD 0

structure GateCounts where
  presentCount : Nat
  readyCount : Nat
  clockCount : Nat
  maxRtt : Int
  maxUncertainty : Int
  deriving DecidableEq

def gateCounts (gate : List ParticipantGate) : GateCounts where
  presentCount := gate.length
  readyCount := gate.countP ParticipantGate.ready
  clockCount := gate.countP ParticipantGate.clockOk
  maxRtt := maxOrZero (gate.map ParticipantGate.rtt)
  maxUncertainty := maxOrZero (gate.map ParticipantGate.uncertainty)

structure StartResult where
  sequence : Nat
  state : PlaybackState
  started : Bool
  effectiveAt : Option Instant
  deriving DecidableEq

/-- The lead of a start, or none when the gate stays shut. -/
def startLead (db : WaveDb) (room : Uuid) (q : StartRequest) (now : Instant) : Option Int :=
  let gate := gateCounts (participantGate db room q now)
  let validEntry := ∃ e ∈ db.queueEntries.rows, e.roomId = room ∧ e.queueEntryId = q.queueEntryId ∧
    e.recordingId = q.recordingId ∧ e.removedAt = none
  let lead := max 2000 (3 * gate.maxRtt + 2 * gate.maxUncertainty + 250)
  if (validEntry ∧ 0 < gate.presentCount ∧ gate.readyCount = gate.presentCount ∧
      gate.clockCount = gate.presentCount) ∧ lead ≤ 8000
  then some lead else none

/-- **`start`**. -/
def start (env : WaveEnv) (db : WaveDb) (room : Uuid) (p : Principal) (q : StartRequest)
    (now : Instant) : Except WaveError (StartResult × WaveDb) := do
  let (value, db) ← requireHost db room p now
  require (value.version = q.expectedQueueVersion ∧ value.commandSequence = q.expectedSequence)
    .waveConflict
  let lead := startLead db room q now
  let sequence := q.expectedSequence + 1
  let effectiveAt := lead.map fun ms => now + milliseconds ms
  let state : PlaybackState := if lead.isSome then .playing else .paused
  let db := db.updateRoom room fun r => { r with
    commandSequence := sequence, playbackState := state, timelineEffectiveAt := effectiveAt }
  let db ← insertCommand db
    { roomId := room, commandSequence := sequence, actorUserId := p.userId,
      actorDeviceId := p.deviceId, idempotencyKey := startKey sequence,
      requestSha256 := env.sha256 (room.text ++ ":" ++ sequence.repr),
      expectedQueueVersion := q.expectedQueueVersion, expectedSequence := q.expectedSequence,
      commandKind := if lead.isSome then .play else .startAborted,
      commandDocument := [("queue_entry_id", .str q.queueEntryId.text),
        ("recording_id", .str q.recordingId.text),
        ("effective_at", (effectiveAt.map fun t => Json.str (env.isoformat t)).getD .null)],
      effectiveAt := effectiveAt, createdAt := now }
  return (⟨sequence, state, lead.isSome, effectiveAt⟩, db)

end AutPlay.Wave
