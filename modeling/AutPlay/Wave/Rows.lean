import AutPlay.Lib.Table
import AutPlay.Lib.Result
import AutPlay.Sync.Value

/-!
# Rows of a Wave room

The tables of the schemas `wave` and `social` that a room and its guests live in, with the accounts,
devices and sessions that they refer to.

* `WaveDb`            the tables;
* `WaveEnv`           what the services take from the standard library and the database: digests,
                      canonical texts, Unicode;
* `WaveError`         how a transaction stops;
* `WaveDb.updateRoomState`   a write to `wave.room.state`, with the triggers that retire guests.

A transaction is a function to `Except WaveError`; one that stops leaves the database as it was.
-/

set_option linter.unusedSectionVars false

namespace AutPlay.Wave
open Sync (Uuid Json Payload)

/-- A point in time, in microseconds. -/
abbrev Instant := Int

def seconds (n : Int) : Int := n * 1000000

def milliseconds (n : Int) : Int := n * 1000

/-- A SHA-256 digest. -/
abbrev Digest := String

structure Principal where
  userId : Uuid
  deviceId : Uuid
  sessionId : Uuid
  deriving DecidableEq

/-! ## rooms -/

/-- `ck_wave_room_state`. -/
inductive RoomState
  | opened
  | orphaned
  | closed
  | expired
  deriving DecidableEq, Repr

/-- `ck_wave_room_playback_state`. -/
inductive PlaybackState
  | idle
  | preparing
  | playing
  | paused
  deriving DecidableEq, Repr

structure RoomRow where
  roomId : Uuid
  roomCodeSha256 : Digest
  hostUserId : Uuid
  hostDeviceId : Uuid
  state : RoomState
  playbackState : PlaybackState
  roomEpoch : Nat
  queueVersion : Nat
  commandSequence : Nat
  timelineEffectiveAt : Option Instant
  expiresAt : Instant
  hostLostAt : Option Instant
  closedAt : Option Instant
  createdAt : Instant
  deriving DecidableEq

instance : Schema RoomRow Uuid Digest := ⟨RoomRow.roomId, fun r => some r.roomCodeSha256⟩

inductive MemberRole
  | host
  | member
  deriving DecidableEq, Repr

inductive MemberStatus
  | allowed
  | joined
  | left
  | revoked
  deriving DecidableEq, Repr

structure MemberRow where
  roomId : Uuid
  userId : Uuid
  deviceId : Uuid
  role : MemberRole
  status : MemberStatus
  joinedAt : Instant
  leftAt : Option Instant
  lastPresentAt : Option Instant
  deriving DecidableEq

instance : Schema MemberRow (Uuid × Uuid) Empty := ⟨fun m => (m.roomId, m.deviceId), fun _ => none⟩

/-- `wave.invitation`: the accounts that may join. -/
structure AllowRow where
  roomId : Uuid
  userId : Uuid
  deriving DecidableEq

instance : Schema AllowRow (Uuid × Uuid) Empty := ⟨fun a => (a.roomId, a.userId), fun _ => none⟩

structure QueueEntryRow where
  queueEntryId : Uuid
  roomId : Uuid
  recordingId : Uuid
  position : Nat
  removedAt : Option Instant
  deriving DecidableEq

instance : Schema QueueEntryRow Uuid Empty := ⟨QueueEntryRow.queueEntryId, fun _ => none⟩

/-- `ck_wave_command_kind`. -/
inductive CommandKind
  | play
  | pause
  | seek
  | skip
  | queue
  | transfer
  | close
  | leave
  | expire
  | startAborted
  deriving DecidableEq, Repr

def CommandKind.text : CommandKind → String
  | .play => "PLAY"
  | .pause => "PAUSE"
  | .seek => "SEEK"
  | .skip => "SKIP"
  | .queue => "QUEUE"
  | .transfer => "TRANSFER"
  | .close => "CLOSE"
  | .leave => "LEAVE"
  | .expire => "EXPIRE"
  | .startAborted => "START_ABORTED"

/-- `kind.lower()`. -/
def CommandKind.lower : CommandKind → String
  | .play => "play"
  | .pause => "pause"
  | .seek => "seek"
  | .skip => "skip"
  | .queue => "queue"
  | .transfer => "transfer"
  | .close => "close"
  | .leave => "leave"
  | .expire => "expire"
  | .startAborted => "start_aborted"

structure CommandRow where
  roomId : Uuid
  commandSequence : Nat
  actorUserId : Uuid
  actorDeviceId : Uuid
  idempotencyKey : String
  requestSha256 : Digest
  expectedQueueVersion : Nat
  expectedSequence : Nat
  commandKind : CommandKind
  commandDocument : Payload
  effectiveAt : Option Instant
  createdAt : Instant
  deriving DecidableEq

/-- The primary key, and `uq_wave_command_idempotency`. -/
instance : Schema CommandRow (Uuid × Nat) (Uuid × String) :=
  ⟨fun c => (c.roomId, c.commandSequence), fun c => some (c.roomId, c.idempotencyKey)⟩

inductive Availability
  | localReadable
  | downloaded
  | vaultStreamable
  | unavailable
  deriving DecidableEq, Repr

structure PreflightRow where
  roomId : Uuid
  userId : Uuid
  deviceId : Uuid
  queueEntryId : Uuid
  recordingId : Uuid
  queueVersion : Nat
  availability : Availability
  finalReady : Bool
  sourceCheckedAt : Instant
  expiresAt : Instant
  deriving DecidableEq

instance : Schema PreflightRow (Uuid × Uuid × Uuid) Empty :=
  ⟨fun p => (p.roomId, p.deviceId, p.queueEntryId), fun _ => none⟩

structure TimingReportRow where
  roomId : Uuid
  deviceId : Uuid
  commandSequence : Nat
  rttMs : Int
  offsetMs : Int
  uncertaintyMs : Int
  startSkewMs : Option Int
  driftMs : Option Int
  reportedAt : Instant
  deriving DecidableEq

instance : Schema TimingReportRow (Uuid × Uuid × Nat) Empty :=
  ⟨fun t => (t.roomId, t.deviceId, t.commandSequence), fun _ => none⟩

/-! ## guests -/

/-- `GUEST_ACTIONS`. -/
inductive GuestAction
  | roomSnapshot
  | roomEvents
  | roomPresence
  | roomPreflight
  | roomTiming
  | roomLeave
  deriving DecidableEq, Repr

def guestActions : List GuestAction :=
  [.roomSnapshot, .roomEvents, .roomPresence, .roomPreflight, .roomTiming, .roomLeave]

inductive InvitationState
  | pending
  | depleted
  | revoked
  | expired
  | roomClosed
  deriving DecidableEq, Repr

structure GuestInvitationRow where
  invitationId : Uuid
  roomId : Uuid
  roomEpoch : Nat
  hostUserId : Uuid
  hostDeviceId : Uuid
  hostSessionId : Uuid
  documentSecretSha256 : Digest
  allowedActions : List GuestAction
  state : InvitationState
  maxUses : Nat
  consumedUses : Nat
  expiresAt : Instant
  revokedAt : Option Instant
  terminalAt : Option Instant
  terminalReason : Option String
  createdAt : Instant
  deriving DecidableEq

instance : Schema GuestInvitationRow Uuid Digest :=
  ⟨GuestInvitationRow.invitationId, fun i => some i.documentSecretSha256⟩

inductive SessionState
  | active
  | left
  | revoked
  | expired
  | roomClosed
  deriving DecidableEq, Repr

structure GuestSessionRow where
  guestSessionId : Uuid
  invitationId : Uuid
  roomId : Uuid
  roomEpoch : Nat
  accessSecretSha256 : Digest
  displayName : String
  allowedActions : List GuestAction
  state : SessionState
  expiresAt : Instant
  lastPresentAt : Option Instant
  leftAt : Option Instant
  revokedAt : Option Instant
  terminalAt : Option Instant
  terminalReason : Option String
  createdAt : Instant
  deriving DecidableEq

instance : Schema GuestSessionRow Uuid Digest :=
  ⟨GuestSessionRow.guestSessionId, fun g => some g.accessSecretSha256⟩

inductive ActorKind
  | host
  | document
  | guest
  deriving DecidableEq, Repr

inductive ReceiptAction
  | issue
  | redeem
  | revoke
  | leave
  deriving DecidableEq, Repr

structure GuestOperationReceiptRow where
  operationId : Uuid
  actorKind : ActorKind
  actorUserId : Option Uuid
  actorDeviceId : Option Uuid
  actorSecretSha256 : Option Digest
  actorGuestSessionId : Option Uuid
  action : ReceiptAction
  requestSha256 : Digest
  resultInvitationId : Option Uuid
  resultGuestSessionId : Option Uuid
  resultRoomId : Option Uuid
  result : Payload
  expiresAt : Instant
  createdAt : Instant
  deriving DecidableEq

instance : Schema GuestOperationReceiptRow Uuid Empty :=
  ⟨GuestOperationReceiptRow.operationId, fun _ => none⟩

structure GuestPreflightRow where
  roomId : Uuid
  guestSessionId : Uuid
  queueEntryId : Uuid
  recordingId : Uuid
  queueVersion : Nat
  availability : Availability
  finalReady : Bool
  sourceCheckedAt : Instant
  expiresAt : Instant
  deriving DecidableEq

instance : Schema GuestPreflightRow (Uuid × Uuid × Uuid) Empty :=
  ⟨fun p => (p.roomId, p.guestSessionId, p.queueEntryId), fun _ => none⟩

structure GuestTimingReportRow where
  roomId : Uuid
  guestSessionId : Uuid
  commandSequence : Nat
  rttMs : Int
  offsetMs : Int
  uncertaintyMs : Int
  startSkewMs : Option Int
  driftMs : Option Int
  reportedAt : Instant
  deriving DecidableEq

instance : Schema GuestTimingReportRow (Uuid × Uuid × Nat) Empty :=
  ⟨fun t => (t.roomId, t.guestSessionId, t.commandSequence), fun _ => none⟩

/-- What a rate window counts. -/
inductive RateScope
  | issueHost
  | redeemSource
  | redeemDocument
  deriving DecidableEq, Repr

structure GuestRateWindowRow where
  rateKeySha256 : Digest
  scope : RateScope
  windowStartedAt : Instant
  expiresAt : Instant
  attemptCount : Nat
  deriving DecidableEq

instance : Schema GuestRateWindowRow Digest Empty :=
  ⟨GuestRateWindowRow.rateKeySha256, fun _ => none⟩

/-! ## accounts and friends -/

structure UserAccountRow where
  userId : Uuid
  active : Bool
  deletedAt : Option Instant
  deriving DecidableEq

instance : Schema UserAccountRow Uuid Empty := ⟨UserAccountRow.userId, fun _ => none⟩

structure DeviceRow where
  deviceId : Uuid
  userId : Uuid
  deviceName : String
  revokedAt : Option Instant
  deriving DecidableEq

instance : Schema DeviceRow Uuid Empty := ⟨DeviceRow.deviceId, fun _ => none⟩

structure UserSessionRow where
  sessionId : Uuid
  userId : Uuid
  deviceId : Uuid
  expiresAt : Instant
  revokedAt : Option Instant
  deriving DecidableEq

instance : Schema UserSessionRow Uuid Empty := ⟨UserSessionRow.sessionId, fun _ => none⟩

inductive FriendInvitationState
  | pending
  | accepted
  | full
  | other
  deriving DecidableEq, Repr

structure FriendRoomInvitationRow where
  invitationId : Uuid
  roomId : Uuid
  roomEpoch : Nat
  hostUserId : Uuid
  hostDeviceId : Uuid
  targetUserId : Uuid
  state : FriendInvitationState
  expiresAt : Instant
  terminalAt : Option Instant
  terminalReason : Option String
  acceptedDeviceId : Option Uuid
  acceptingSessionId : Option Uuid
  deriving DecidableEq

instance : Schema FriendRoomInvitationRow Uuid Empty :=
  ⟨FriendRoomInvitationRow.invitationId, fun _ => none⟩

structure SocialOperationReceiptRow where
  operationId : Uuid
  actorUserId : Uuid
  actorDeviceId : Uuid
  action : String
  requestSha256 : Digest
  result : Payload
  expiresAt : Instant
  createdAt : Instant
  deriving DecidableEq

instance : Schema SocialOperationReceiptRow Uuid Empty :=
  ⟨SocialOperationReceiptRow.operationId, fun _ => none⟩

/-! ## the database -/

structure WaveDb where
  rooms : Table RoomRow
  members : Table MemberRow
  allowed : Table AllowRow
  queueEntries : Table QueueEntryRow
  commands : Table CommandRow
  preflights : Table PreflightRow
  timingReports : Table TimingReportRow
  guestInvitations : Table GuestInvitationRow
  guestSessions : Table GuestSessionRow
  guestReceipts : Table GuestOperationReceiptRow
  guestPreflights : Table GuestPreflightRow
  guestTimingReports : Table GuestTimingReportRow
  guestRateWindows : Table GuestRateWindowRow
  accounts : Table UserAccountRow
  devices : Table DeviceRow
  sessions : Table UserSessionRow
  friendInvitations : Table FriendRoomInvitationRow
  socialReceipts : Table SocialOperationReceiptRow
  recordings : List Uuid

/-- What the services take from the standard library. -/
structure WaveEnv where
  /-- SHA-256 of a UTF-8 text. -/
  sha256 : String → Digest
  /-- `str.upper`. -/
  upper : String → String
  /-- `json.dumps(document, sort_keys=True, separators=(",", ":"))`. -/
  dumps : Payload → String
  /-- `datetime.isoformat`. -/
  isoformat : Instant → String
  /-- The same with the zone `Z`. -/
  iso8601 : Instant → String
  /-- `canonical_sha256` of a request. -/
  canonicalSha256 : Payload → Digest
  /-- SHA-256 of the 32 bytes that a bearer decodes to. -/
  bearerSha256 : String → Digest
  /-- SHA-256 of a scope and a digest: the key of a rate window. -/
  rateKey : RateScope → Digest → Digest
  /-- `unicodedata.normalize("NFKC", value)`. -/
  nfkc : String → String
  /-- `str.isspace` of a character. -/
  isSpace : Char → Bool
  /-- `unicodedata.category(ch).startswith("C")`. -/
  isControl : Char → Bool

/-- The tables that a write can be refused by. -/
inductive TableName
  | room
  | member
  | allow
  | queueEntry
  | command
  | timingReport
  | guestInvitation
  | guestSession
  | guestTimingReport
  | guestReceipt
  | guestRateWindow
  | socialReceipt
  deriving DecidableEq, Repr

/-- The codes of `GuestRoomError`. -/
inductive GuestCode
  | guestInvalid
  | guestUnavailable
  | guestExpired
  | guestRevoked
  | guestScopeDenied
  | operationConflict
  | roomChanged
  | roomFull
  | rateLimited
  deriving DecidableEq, Repr

/-- The codes of `SocialError` that an acceptance raises. -/
inductive SocialCode
  | operationConflict
  | authAttentionRequired
  | roomInvitationUnavailable
  | friendRequestUnavailable
  | roomChanged
  | roomFull
  deriving DecidableEq, Repr

/-- How a transaction stops. -/
inductive WaveError
  | noResultFound
  | waveConflict
  | waveForbidden
  | valueError (message : String)
  | check (table : TableName)
  | foreignKey (table : TableName)
  | violation (table : TableName) (constraint : Constraint)
  | guest (code : GuestCode)
  | social (code : SocialCode)
  deriving DecidableEq, Repr

/-- A transaction step that goes on only when the condition holds. -/
def require (p : Prop) [Decidable p] (e : WaveError) : Except WaveError Unit :=
  if p then .ok () else .error e

theorem require_ok {p : Prop} [Decidable p] {e : WaveError} {u : Unit} :
    require p e = .ok u ↔ p := by
  unfold require
  split
  · rename_i h
    exact ⟨fun _ => h, fun _ => rfl⟩
  · rename_i h
    refine ⟨fun he => ?_, fun hp => absurd hp h⟩
    cases he

theorem require_error {p : Prop} [Decidable p] {e e' : WaveError} :
    require p e = .error e' ↔ ¬ p ∧ e = e' := by
  unfold require
  split
  · rename_i h
    refine ⟨fun he => ?_, fun hp => absurd h hp.1⟩
    cases he
  · rename_i h
    refine ⟨fun he => ⟨h, ?_⟩, fun hp => by rw [hp.2]⟩
    cases he
    rfl

/-- `.one()`. -/
def one {α : Type} : Option α → Except WaveError α
  | some a => .ok a
  | none => .error .noResultFound

theorem one_ok {α : Type} {o : Option α} {a : α} : one o = .ok a ↔ o = some a := by
  cases o with
  | none =>
    refine ⟨fun h => ?_, fun h => ?_⟩
    · cases h
    · cases h
  | some b =>
    refine ⟨fun h => ?_, fun h => ?_⟩
    · cases h
      rfl
    · cases h
      rfl

theorem one_error {α : Type} {o : Option α} {e : WaveError} (h : one o = .error e) :
    e = .noResultFound := by
  cases o with
  | none =>
    cases h
    rfl
  | some a => cases h

/-- `INSERT`. -/
def insertInto {ρ κ ι : Type} [Schema ρ κ ι] [DecidableEq κ] [DecidableEq ι] (name : TableName)
    (t : Table ρ) (r : ρ) : Except WaveError (Table ρ) :=
  (t.insert r).mapError (.violation name)

theorem insertInto_ok {ρ κ ι : Type} [Schema ρ κ ι] [DecidableEq κ] [DecidableEq ι]
    {name : TableName} {t t' : Table ρ} {r : ρ} :
    insertInto name t r = .ok t' ↔ t.insert r = .ok t' :=
  Result.mapError_eq_ok

/-! ## retiring guests -/

namespace WaveDb

/-- What the trigger `retire_guest_invitation_sessions` makes of the state of an invitation. -/
def sessionStateOf : InvitationState → Option SessionState
  | .revoked => some .revoked
  | .expired => some .expired
  | .roomClosed => some .roomClosed
  | .pending => none
  | .depleted => none

/-- The trigger `retire_guest_invitation_sessions`, for one updated invitation. -/
def retireSessions (sessions : Table GuestSessionRow) (old new : GuestInvitationRow)
    (statementTimestamp : Instant) : Table GuestSessionRow :=
  match sessionStateOf new.state with
  | none => sessions
  | some state =>
    if old.state = new.state then sessions
    else
      sessions.updateWhere (fun s => s.invitationId = new.invitationId ∧ s.state = .active)
        (fun s => { s with
          state := state
          revokedAt := if new.state = .revoked then some statementTimestamp else s.revokedAt
          terminalAt := some statementTimestamp
          terminalReason := some (new.terminalReason.getD (match new.state with
            | .revoked => "REVOKED"
            | .expired => "EXPIRED"
            | .roomClosed => "ROOM_CLOSED"
            | .pending => "PENDING"
            | .depleted => "DEPLETED")) })

/-- An `UPDATE` of the state of the invitations of a condition, with its trigger for each row. -/
def updateInvitations (db : WaveDb) (p : GuestInvitationRow → Bool)
    (f : GuestInvitationRow → GuestInvitationRow)
    (hk : ∀ i, (f i).invitationId = i.invitationId)
    (hd : ∀ i, (f i).documentSecretSha256 = i.documentSecretSha256)
    (statementTimestamp : Instant) : WaveDb :=
  { db with
    guestInvitations := db.guestInvitations.updateWhere p f hk (fun i => congrArg some (hd i))
    guestSessions := (db.guestInvitations.rows.filter p).foldl
      (fun sessions i => retireSessions sessions i (f i) statementTimestamp) db.guestSessions }

/-- The trigger `retire_guest_room_state`, for one updated room. -/
def retireRoom (db : WaveDb) (new : RoomRow) (statementTimestamp : Instant) : WaveDb :=
  if new.state = .closed ∨ new.state = .expired ∨ new.expiresAt ≤ statementTimestamp then
    db.updateInvitations
      (fun i => i.roomId = new.roomId ∧ (i.state = .pending ∨ i.state = .depleted))
      (fun i => { i with
        state := if new.state = .closed then .roomClosed else .expired
        terminalAt := some statementTimestamp
        terminalReason := some (if new.state = .closed then "ROOM_CLOSED" else "ROOM_EXPIRED") })
      (fun _ => rfl) (fun _ => rfl) statementTimestamp
  else db

/-- `UPDATE wave.room SET ... WHERE room_id=:room`, not of the state. -/
def updateRoom (db : WaveDb) (room : Uuid) (f : RoomRow → RoomRow)
    (hk : ∀ r, (f r).roomId = r.roomId := by intro _; rfl)
    (hd : ∀ r, (f r).roomCodeSha256 = r.roomCodeSha256 := by intro _; rfl) : WaveDb :=
  { db with
    rooms := db.rooms.updateWhere (fun r => r.roomId = room) f hk (fun r => congrArg some (hd r)) }

/-- The same of the state: the trigger on the room fires. -/
def updateRoomState (db : WaveDb) (room : Uuid) (f : RoomRow → RoomRow)
    (statementTimestamp : Instant)
    (hk : ∀ r, (f r).roomId = r.roomId := by intro _; rfl)
    (hd : ∀ r, (f r).roomCodeSha256 = r.roomCodeSha256 := by intro _; rfl) : WaveDb :=
  match db.rooms.find room with
  | none => db
  | some old => (db.updateRoom room f hk hd).retireRoom (f old) statementTimestamp

end WaveDb

end AutPlay.Wave
