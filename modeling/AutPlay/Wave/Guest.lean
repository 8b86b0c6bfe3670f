import AutPlay.Wave.Room

/-!
# Guests of a room

`GuestRoomService`, one definition an operation, the triggers by which accounts retire invitations,
and `SocialService.accept_invitation`.

* `issue`, `revoke`                     invitations;
* `redeemFirst`, `redeemSecond`         the two transactions of a redemption;
* `guest`                               what every guest action goes through;
* `cleanup`                             bounded expiry and deletion;
* `revokeDevice`, `revokeSession`, `setAccount`   what happens to the issuing host.
-/

set_option linter.unusedSectionVars false

namespace AutPlay.Wave
open Sync (Uuid Json Payload)

def GuestAction.text : GuestAction → String
  | .roomSnapshot => "ROOM_SNAPSHOT"
  | .roomEvents => "ROOM_EVENTS"
  | .roomPresence => "ROOM_PRESENCE"
  | .roomPreflight => "ROOM_PREFLIGHT"
  | .roomTiming => "ROOM_TIMING"
  | .roomLeave => "ROOM_LEAVE"

def InvitationState.text : InvitationState → String
  | .pending => "PENDING"
  | .depleted => "DEPLETED"
  | .revoked => "REVOKED"
  | .expired => "EXPIRED"
  | .roomClosed => "ROOM_CLOSED"

/-- The value of a character of the URL-safe base64 alphabet. -/
def base64Value (c : Char) : Option Nat :=
  if 'A' ≤ c ∧ c ≤ 'Z' then some (c.toNat - 65)
  else if 'a' ≤ c ∧ c ≤ 'z' then some (c.toNat - 71)
  else if '0' ≤ c ∧ c ≤ '9' then some (c.toNat + 4)
  else if c = '-' then some 62
  else if c = '_' then some 63
  else none

/-- The text of exactly 32 bytes: 43 characters, and no stray bits in the last one. -/
def isBearer (value : String) : Bool :=
  value.toList.length = 43 ∧ (value.toList.all fun c => (base64Value c).isSome) = true ∧
    ((value.toList.getLast?.bind base64Value).any fun n => n % 4 = 0) = true

/-- **`_secret_hash`**. -/
def secretHash (env : WaveEnv) (value : String) : Except WaveError Digest := do
  require (isBearer value = true) (.guest .guestUnavailable)
  return env.bearerSha256 value

/-- `str.split()`: the pieces between runs of white space. -/
def splitWords (isSpace : Char → Bool) : List Char → List (List Char)
  | [] => []
  | c :: cs =>
    if isSpace c then splitWords isSpace cs
    else
      match cs with
      | [] => [[c]]
      | d :: ds =>
        if isSpace d then [c] :: splitWords isSpace (d :: ds)
        else
          match splitWords isSpace (d :: ds) with
          | [] => [[c]]
          | w :: ws => (c :: w) :: ws

/-- **`_display_name`**. -/
def displayName (env : WaveEnv) (value : String) : Except WaveError String := do
  let words := (splitWords env.isSpace (env.nfkc value).toList).map String.ofList
  let normalized := String.intercalate " " words
  require (1 ≤ normalized.length ∧ normalized.length ≤ 40 ∧
    (normalized.toList.any env.isControl) = false) (.guest .guestInvalid)
  return normalized

/-- **`_invitation_failure`**. -/
def invitationFailure : InvitationState → GuestCode
  | .revoked => .guestRevoked
  | .expired => .guestExpired
  | .roomClosed => .guestUnavailable
  | .depleted => .guestUnavailable
  | .pending => .guestUnavailable

/-- **`_session_failure`**. -/
def sessionFailure : SessionState → GuestCode
  | .revoked => .guestRevoked
  | .expired => .guestExpired
  | .left => .guestUnavailable
  | .roomClosed => .guestUnavailable
  | .active => .guestUnavailable

/-- **`_host_room`**. -/
def hostRoom (db : WaveDb) (p : Principal) (room : Uuid) (now : Instant) (allowTerminal : Bool) :
    Except WaveError RoomRow :=
  match (db.rooms.find room).filter fun _ => (db.members.find (room, p.deviceId)).any fun m =>
      m.userId = p.userId ∧ m.role = .host ∧ m.status = .joined with
  | none => throw (.guest .guestUnavailable)
  | some row => do
    require (allowTerminal = true ∨ (row.state = .opened ∧ now < row.expiresAt))
      (.guest .guestUnavailable)
    return row

/-- **`_open_room`**. -/
def openRoom (db : WaveDb) (room : Uuid) (now : Instant) : Except WaveError RoomRow :=
  match db.rooms.find room with
  | none => throw (.guest .guestUnavailable)
  | some row => do
    require (row.state ≠ .expired ∧ now < row.expiresAt) (.guest .guestExpired)
    require (row.state = .opened) (.guest .guestUnavailable)
    return row

/-- **`_rate`**. -/
def rate (env : WaveEnv) (db : WaveDb) (scope : RateScope) (subjectHash : Digest) (limit : Nat)
    (now : Instant) : Except WaveError WaveDb := do
  let key := env.rateKey scope subjectHash
  match db.guestRateWindows.find key with
  | none => do
    let windows ← insertInto .guestRateWindow db.guestRateWindows
      { rateKeySha256 := key, scope := scope, windowStartedAt := now,
        expiresAt := now + seconds 900, attemptCount := 1 }
    return { db with guestRateWindows := windows }
  | some row =>
    if row.expiresAt ≤ now then
      return { db with
        guestRateWindows := db.guestRateWindows.updateWhere (fun w => w.rateKeySha256 = key)
          (fun w => { w with
            scope := scope, windowStartedAt := now, expiresAt := now + seconds 900,
            attemptCount := 1 }) }
    else do
      require (row.attemptCount < limit) (.guest .rateLimited)
      return { db with
        guestRateWindows := db.guestRateWindows.updateWhere (fun w => w.rateKeySha256 = key)
          (fun w => { w with attemptCount := w.attemptCount + 1 }) }

/-- **`_invitation_view`**. -/
def invitationView (env : WaveEnv) (i : GuestInvitationRow) (operationId : Uuid) : Payload :=
  [("operation_id", .str operationId.text), ("invitation_id", .str i.invitationId.text),
   ("kind", .str "GUEST"), ("state", .str i.state.text), ("room_id", .str i.roomId.text),
   ("room_epoch", .int i.roomEpoch), ("role", .str "GUEST"),
   ("allowed_actions", .arr (i.allowedActions.map fun a => .str a.text)),
   ("max_uses", .int i.maxUses), ("consumed_uses", .int i.consumedUses),
   ("expires_at", .str (env.iso8601 i.expiresAt)),
   ("media_boundary", .str "INDEPENDENT_DEVICE_AUTHORIZATION_ONLY")]

/-- **`_host_replay`**. -/
def hostReplay (receipt : GuestOperationReceiptRow) (p : Principal) (action : ReceiptAction)
    (requestHash : Digest) (room : Uuid) : Except WaveError Payload := do
  require (receipt.actorKind = .host ∧ receipt.actorUserId = some p.userId ∧
    receipt.actorDeviceId = some p.deviceId ∧ receipt.action = action ∧
    receipt.resultRoomId = some room ∧ receipt.requestSha256 = requestHash)
    (.guest .operationConflict)
  return receipt.result

def insertReceipt (db : WaveDb) (r : GuestOperationReceiptRow) : Except WaveError WaveDb := do
  let receipts ← insertInto .guestReceipt db.guestReceipts r
  return { db with guestReceipts := receipts }

/-- `timedelta(days=30)`. -/
def receiptLifetime : Int := seconds 2592000

/-! ## invitations -/

structure IssueRequest where
  roomId : Uuid
  operationId : Uuid
  documentBearer : String
  ttlSeconds : Int
  maxUses : Nat
  deriving DecidableEq

def issueDocument (secret : Digest) (q : IssueRequest) : Payload :=
  [("room_id", .str q.roomId.text), ("document_secret_sha256", .str secret),
   ("ttl_seconds", .int q.ttlSeconds), ("max_uses", .int q.maxUses)]

/-- **`issue`**. -/
def issue (env : WaveEnv) (db : WaveDb) (p : Principal) (q : IssueRequest) (invitationId : Uuid)
    (now : Instant) : Except WaveError (Payload × WaveDb) := do
  let secret ← secretHash env q.documentBearer
  require (60 ≤ q.ttlSeconds ∧ q.ttlSeconds ≤ 21600 ∧ 1 ≤ q.maxUses ∧ q.maxUses ≤ 8)
    (.guest .guestInvalid)
  let requestHash := env.canonicalSha256 (issueDocument secret q)
  let room ← hostRoom db p q.roomId now false
  match db.guestReceipts.find q.operationId with
  | some receipt => do
    let result ← hostReplay receipt p .issue requestHash q.roomId
    return (result, db)
  | none => do
    let db ← rate env db .issueHost (env.sha256 (p.userId.text ++ ":" ++ p.deviceId.text)) 20 now
    require (∀ i ∈ db.guestInvitations.rows, i.documentSecretSha256 ≠ secret)
      (.guest .operationConflict)
    let expiresAt := min (now + seconds q.ttlSeconds) room.expiresAt
    require (now < expiresAt) (.guest .guestUnavailable)
    let invitation : GuestInvitationRow :=
      { invitationId := invitationId, roomId := q.roomId, roomEpoch := room.roomEpoch,
        hostUserId := p.userId, hostDeviceId := p.deviceId, hostSessionId := p.sessionId,
        documentSecretSha256 := secret, allowedActions := guestActions, state := .pending,
        maxUses := q.maxUses, consumedUses := 0, expiresAt := expiresAt, revokedAt := none,
        terminalAt := none, terminalReason := none, createdAt := now }
    let invitations ← insertInto .guestInvitation db.guestInvitations invitation
    let result := invitationView env invitation q.operationId
    let db ← insertReceipt { db with guestInvitations := invitations }
      { operationId := q.operationId, actorKind := .host, actorUserId := some p.userId,
        actorDeviceId := some p.deviceId, actorSecretSha256 := none, actorGuestSessionId := none,
        action := .issue, requestSha256 := requestHash, resultInvitationId := some invitationId,
        resultGuestSessionId := none, resultRoomId := some q.roomId, result := result,
        expiresAt := now + receiptLifetime, createdAt := now }
    return (result, db)

/-- The state that a host's revocation leaves. -/
def revokeInvitation (now : Instant) (i : GuestInvitationRow) : GuestInvitationRow :=
  { i with
    state := .revoked, revokedAt := some now, terminalAt := some now,
    terminalReason := some "HOST_REVOKED" }

/-- **`revoke`**. -/
def revoke (env : WaveEnv) (db : WaveDb) (p : Principal) (invitationId operationId : Uuid)
    (now stmt : Instant) : Except WaveError (Payload × WaveDb) := do
  let requestHash := env.canonicalSha256 [("invitation_id", .str invitationId.text)]
  match db.guestInvitations.find invitationId with
  | none => throw (.guest .guestUnavailable)
  | some invitation => do
    let _ ← hostRoom db p invitation.roomId now true
    match db.guestReceipts.find operationId with
    | some receipt => do
      let result ← hostReplay receipt p .revoke requestHash invitation.roomId
      return (result, db)
    | none => do
      require (invitation.hostUserId = p.userId ∧ invitation.hostDeviceId = p.deviceId)
        (.guest .guestUnavailable)
      let live := invitation.state = .pending ∨ invitation.state = .depleted
      let invitation := if live then revokeInvitation now invitation else invitation
      let db := if live then
        db.updateInvitations (fun i => i.invitationId = invitationId) (revokeInvitation now)
          (fun _ => rfl) (fun _ => rfl) stmt else db
      let result := invitationView env invitation operationId
      let db ← insertReceipt db
        { operationId := operationId, actorKind := .host, actorUserId := some p.userId,
          actorDeviceId := some p.deviceId, actorSecretSha256 := none, actorGuestSessionId := none,
          action := .revoke, requestSha256 := requestHash, resultInvitationId := some invitationId,
          resultGuestSessionId := none, resultRoomId := some invitation.roomId, result := result,
          expiresAt := now + receiptLifetime, createdAt := now }
      return (result, db)

/-! ## guest actions -/

structure GuestPrincipal where
  guestSessionId : Uuid
  invitationId : Uuid
  roomId : Uuid
  roomEpoch : Nat
  allowedActions : List GuestAction
  expiresAt : Instant
  deriving DecidableEq

/-- The account, the device and the session that issued an invitation are all usable. -/
def hostActive (db : WaveDb) (i : GuestInvitationRow) (now : Instant) : Bool :=
  ((db.accounts.find i.hostUserId).any fun u => u.active = true ∧ u.deletedAt = none) &&
    ((db.devices.find i.hostDeviceId).any fun d => d.userId = i.hostUserId ∧ d.revokedAt = none) &&
    (db.sessions.find i.hostSessionId).any fun s =>
      s.userId = i.hostUserId ∧ s.deviceId = i.hostDeviceId ∧ s.revokedAt = none ∧ now < s.expiresAt

/-- The session of an access secret. -/
def sessionOf (db : WaveDb) (accessHash : Digest) : Option GuestSessionRow :=
  db.guestSessions.rows.find? fun s => s.accessSecretSha256 = accessHash

/-- **`_guest`**.  The expiry that it writes is rolled back with the error that reports it. -/
def guest (db : WaveDb) (accessHash : Digest) (room : Uuid) (action : GuestAction) (now : Instant) :
    Except WaveError (GuestPrincipal × WaveDb) :=
  match sessionOf db accessHash with
  | none => throw (.guest .guestUnavailable)
  | some row => do
    require (row.roomId = room) (.guest .guestScopeDenied)
    match db.guestInvitations.find row.invitationId with
    | none => throw (.guest .guestUnavailable)
    | some invitation => do
      require (now < row.expiresAt ∧ now < invitation.expiresAt) (.guest .guestExpired)
      require (invitation.state = .pending ∨ invitation.state = .depleted)
        (.guest (invitationFailure invitation.state))
      require (hostActive db invitation now = true) (.guest .guestRevoked)
      require (row.state = .active) (.guest (sessionFailure row.state))
      let open_ ← openRoom db room now
      require (row.roomEpoch = open_.roomEpoch ∧ invitation.roomEpoch = open_.roomEpoch)
        (.guest .roomChanged)
      require (action ∈ row.allowedActions) (.guest .guestScopeDenied)
      require (row.createdAt ≤ now) (.check .guestSession)
      return (⟨row.guestSessionId, row.invitationId, row.roomId, row.roomEpoch, row.allowedActions,
          row.expiresAt⟩,
        { db with
          guestSessions := db.guestSessions.updateWhere
            (fun s => s.guestSessionId = row.guestSessionId)
            (fun s => { s with lastPresentAt := some now }) })

/-- **`authenticate`** and **`presence`**: the action, with nothing more to do. -/
def guestAction (env : WaveEnv) (db : WaveDb) (sessionBearer : String) (room : Uuid)
    (action : GuestAction) (now : Instant) : Except WaveError (GuestPrincipal × WaveDb) := do
  let accessHash ← secretHash env sessionBearer
  guest db accessHash room action now

/-- **`preflight`** of a guest. -/
def guestPreflight (env : WaveEnv) (db : WaveDb) (sessionBearer : String)
    (room queueEntryId recordingId : Uuid) (queueVersion : Nat) (availability : Availability)
    (finalReady : Bool) (now : Instant) : Except WaveError WaveDb := do
  let (principal, db) ← guestAction env db sessionBearer room .roomPreflight now
  require ((∃ q ∈ db.queueEntries.rows, q.roomId = room ∧ q.queueEntryId = queueEntryId ∧
      q.recordingId = recordingId ∧ q.removedAt = none) ∧
    ∃ r ∈ db.rooms.rows, r.roomId = room ∧ r.queueVersion = queueVersion ∧ r.state = .opened)
    (.guest .roomChanged)
  return { db with
    guestPreflights := db.guestPreflights.upsert
      { roomId := room, guestSessionId := principal.guestSessionId, queueEntryId := queueEntryId,
        recordingId := recordingId, queueVersion := queueVersion, availability := availability,
        finalReady := finalReady, sourceCheckedAt := now,
        expiresAt := now + seconds (if finalReady then 15 else 30) }
      (fun f => { f with
        recordingId := recordingId, queueVersion := queueVersion, availability := availability,
        finalReady := finalReady, sourceCheckedAt := now,
        expiresAt := now + seconds (if finalReady then 15 else 30) }) }

/-- **`timing`** of a guest. -/
def guestTiming (env : WaveEnv) (db : WaveDb) (sessionBearer : String) (room : Uuid)
    (t : TimingRequest) (now : Instant) : Except WaveError WaveDb := do
  require (0 ≤ t.rttMs ∧ t.rttMs ≤ 1000 ∧ 0 ≤ t.uncertaintyMs ∧ t.uncertaintyMs ≤ 100 ∧
    t.offsetMs.natAbs ≤ 86400000) (.guest .guestInvalid)
  let (principal, db) ← guestAction env db sessionBearer room .roomTiming now
  return { db with
    guestTimingReports := db.guestTimingReports.upsert
      { roomId := room, guestSessionId := principal.guestSessionId, commandSequence := t.sequence,
        rttMs := t.rttMs, offsetMs := t.offsetMs, uncertaintyMs := t.uncertaintyMs,
        startSkewMs := t.startSkewMs, driftMs := t.driftMs, reportedAt := now }
      (fun r => { r with
        rttMs := t.rttMs, offsetMs := t.offsetMs, uncertaintyMs := t.uncertaintyMs,
        startSkewMs := t.startSkewMs, driftMs := t.driftMs, reportedAt := now }) }

/-- **`leave`** of a guest. -/
def guestLeave (env : WaveEnv) (db : WaveDb) (sessionBearer : String) (room operationId : Uuid)
    (now : Instant) : Except WaveError (Payload × WaveDb) := do
  let accessHash ← secretHash env sessionBearer
  let requestHash := env.canonicalSha256 [("room_id", .str room.text)]
  match (sessionOf db accessHash).filter fun s => s.roomId = room with
  | none => throw (.guest .guestUnavailable)
  | some row =>
    match db.guestReceipts.find operationId with
    | some receipt => do
      require (receipt.actorKind = .guest ∧ receipt.actorGuestSessionId = some row.guestSessionId ∧
        receipt.action = .leave ∧ receipt.requestSha256 = requestHash) (.guest .operationConflict)
      return (receipt.result, db)
    | none => do
      let (principal, db) ← guest db accessHash room .roomLeave now
      let result : Payload := [("operation_id", .str operationId.text),
        ("guest_session_id", .str principal.guestSessionId.text), ("room_id", .str room.text),
        ("state", .str "LEFT")]
      let db := { db with
        guestSessions := db.guestSessions.updateWhere
          (fun s => s.guestSessionId = row.guestSessionId)
          (fun s => { s with
            state := .left, leftAt := some now, terminalAt := some now,
            terminalReason := some "GUEST_LEFT" }) }
      let db ← insertReceipt db
        { operationId := operationId, actorKind := .guest, actorUserId := none,
          actorDeviceId := none, actorSecretSha256 := none,
          actorGuestSessionId := some principal.guestSessionId, action := .leave,
          requestSha256 := requestHash, resultInvitationId := none,
          resultGuestSessionId := some principal.guestSessionId, resultRoomId := some room,
          result := result, expiresAt := now + receiptLifetime, createdAt := now }
      return (result, db)

/-! ## redemption -/

structure RedeemRequest where
  invitationId : Uuid
  roomId : Uuid
  operationId : Uuid
  documentBearer : String
  sessionBearer : String
  displayName : String
  sourceRateKey : Digest
  deriving DecidableEq

/-- A redemption with its secrets hashed and its name normalised. -/
structure Redemption where
  documentHash : Digest
  accessHash : Digest
  name : String
  requestHash : Digest
  deriving DecidableEq

def redeemDocument (q : RedeemRequest) (documentHash accessHash : Digest) (name : String) : Payload :=
  [("invitation_id", .str q.invitationId.text), ("room_id", .str q.roomId.text),
   ("document_secret_sha256", .str documentHash), ("access_secret_sha256", .str accessHash),
   ("display_name", .str name)]

/-- What `redeem` computes before it opens a transaction. -/
def readRedemption (env : WaveEnv) (q : RedeemRequest) : Except WaveError Redemption := do
  let documentHash ← secretHash env q.documentBearer
  let accessHash ← secretHash env q.sessionBearer
  let name ← displayName env q.displayName
  return ⟨documentHash, accessHash, name,
    env.canonicalSha256 (redeemDocument q documentHash accessHash name)⟩

/-- **`_document_replay`**. -/
def documentReplay (db : WaveDb) (receipt : GuestOperationReceiptRow) (r : Redemption) (room : Uuid)
    (now : Instant) : Except WaveError (Payload × WaveDb) := do
  require (receipt.actorKind = .document ∧ receipt.action = .redeem ∧
    receipt.resultRoomId = some room ∧ receipt.actorSecretSha256 = some r.documentHash ∧
    receipt.requestSha256 = r.requestHash) (.guest .operationConflict)
  require (receipt.resultGuestSessionId.isSome = true) (.guest .guestUnavailable)
  let (principal, db) ← guest db r.accessHash room .roomSnapshot now
  require (some principal.guestSessionId = receipt.resultGuestSessionId) (.guest .operationConflict)
  return (receipt.result, db)

/-- The first transaction of `redeem`: a replay, or an attempt that the rate windows count. -/
def redeemFirst (env : WaveEnv) (db : WaveDb) (q : RedeemRequest) (r : Redemption) (now : Instant) :
    Except WaveError (Option Payload × WaveDb) :=
  match db.guestReceipts.find q.operationId with
  | some receipt => do
    let (result, db) ← documentReplay db receipt r q.roomId now
    return (some result, db)
  | none => do
    let db ← rate env db .redeemSource q.sourceRateKey 30 now
    let db ← rate env db .redeemDocument r.documentHash 10 now
    return (none, db)

def guestSessionRow (q : RedeemRequest) (r : Redemption) (invitation : GuestInvitationRow)
    (room : RoomRow) (guestSessionId : Uuid) (now : Instant) : GuestSessionRow where
  guestSessionId := guestSessionId
  invitationId := q.invitationId
  roomId := q.roomId
  roomEpoch := room.roomEpoch
  accessSecretSha256 := r.accessHash
  displayName := r.name
  allowedActions := guestActions
  state := .active
  expiresAt := min invitation.expiresAt room.expiresAt
  lastPresentAt := some now
  leftAt := none
  revokedAt := none
  terminalAt := none
  terminalReason := none
  createdAt := now

/-- One more use; the last one depletes the invitation. -/
def consumeUse (now : Instant) (i : GuestInvitationRow) : GuestInvitationRow :=
  if i.consumedUses + 1 = i.maxUses then
    { i with
      consumedUses := i.consumedUses + 1, state := .depleted, terminalAt := some now,
      terminalReason := some "USES_EXHAUSTED" }
  else { i with consumedUses := i.consumedUses + 1 }

theorem consumeUse_invitationId (now : Instant) (i : GuestInvitationRow) :
    (consumeUse now i).invitationId = i.invitationId := by
  unfold consumeUse
  split
  · rfl
  · rfl

theorem consumeUse_secret (now : Instant) (i : GuestInvitationRow) :
    (consumeUse now i).documentSecretSha256 = i.documentSecretSha256 := by
  unfold consumeUse
  split
  · rfl
  · rfl

def redeemResult (env : WaveEnv) (q : RedeemRequest) (s : GuestSessionRow) : Payload :=
  [("operation_id", .str q.operationId.text), ("guest_session_id", .str s.guestSessionId.text),
   ("invitation_id", .str s.invitationId.text), ("room_id", .str s.roomId.text),
   ("room_epoch", .int s.roomEpoch), ("role", .str "GUEST"),
   ("allowed_actions", .arr (s.allowedActions.map fun a => .str a.text)),
   ("display_name", .str s.displayName), ("expires_at", .str (env.iso8601 s.expiresAt)),
   ("media_boundary", .str "INDEPENDENT_DEVICE_AUTHORIZATION_ONLY")]

/-- A new session from an invitation that the row lock holds. -/
def mint (env : WaveEnv) (db : WaveDb) (q : RedeemRequest) (r : Redemption)
    (invitation : GuestInvitationRow) (guestSessionId : Uuid) (now : Instant) :
    Except WaveError (Payload × WaveDb) := do
  require (now < invitation.expiresAt) (.guest .guestExpired)
  require (invitation.state = .pending) (.guest (invitationFailure invitation.state))
  let room ← openRoom db q.roomId now
  require (room.roomEpoch = invitation.roomEpoch) (.guest .roomChanged)
  require (participantCount db q.roomId now < 8) (.guest .roomFull)
  require (sessionOf db r.accessHash = none) (.guest .operationConflict)
  let session := guestSessionRow q r invitation room guestSessionId now
  let sessions ← insertInto .guestSession db.guestSessions session
  let result := redeemResult env q session
  let db ← insertReceipt { db with
      guestSessions := sessions
      guestInvitations := db.guestInvitations.updateWhere
        (fun i => i.invitationId = q.invitationId) (consumeUse now) (consumeUse_invitationId now)
        (fun i => congrArg some (consumeUse_secret now i)) }
    { operationId := q.operationId, actorKind := .document, actorUserId := none,
      actorDeviceId := none, actorSecretSha256 := some r.documentHash, actorGuestSessionId := none,
      action := .redeem, requestSha256 := r.requestHash,
      resultInvitationId := some q.invitationId, resultGuestSessionId := some guestSessionId,
      resultRoomId := some q.roomId, result := result, expiresAt := now + receiptLifetime,
      createdAt := now }
  return (result, db)

/-- The second transaction of `redeem`. -/
def redeemSecond (env : WaveEnv) (db : WaveDb) (q : RedeemRequest) (r : Redemption)
    (guestSessionId : Uuid) (now : Instant) : Except WaveError (Payload × WaveDb) :=
  match db.guestReceipts.find q.operationId with
  | some receipt => documentReplay db receipt r q.roomId now
  | none =>
    match (db.guestInvitations.find q.invitationId).filter fun i => i.roomId = q.roomId ∧
        i.documentSecretSha256 = r.documentHash with
    | none => throw (.guest .guestUnavailable)
    | some invitation => mint env db q r invitation guestSessionId now

/-- **`redeem`**, when nothing happens between its two transactions. -/
def redeem (env : WaveEnv) (db : WaveDb) (q : RedeemRequest) (guestSessionId : Uuid)
    (now : Instant) : Except WaveError (Payload × WaveDb) := do
  let r ← readRedemption env q
  let (replayed, db) ← redeemFirst env db q r now
  match replayed with
  | some result => return (result, db)
  | none => redeemSecond env db q r guestSessionId now

/-! ## cleanup -/

/-- The first rows of a condition, by an instant. -/
def takeDue {ρ : Type} (rows : List ρ) (p : ρ → Bool) (at_ : ρ → Instant) (limit : Nat) : List ρ :=
  ((rows.filter p).insertionSort (fun a b => at_ a ≤ at_ b)).take limit

def dueInvitations (db : WaveDb) (now : Instant) (limit : Nat) : List Uuid :=
  (takeDue db.guestInvitations.rows (fun i => i.state = .pending ∧ i.expiresAt ≤ now)
    GuestInvitationRow.expiresAt limit).map GuestInvitationRow.invitationId

/-- Pending invitations that ran out are expired. -/
def expireInvitations (db : WaveDb) (now : Instant) (limit : Nat) (stmt : Instant) : WaveDb :=
  let due := dueInvitations db now limit
  db.updateInvitations (fun i => i.invitationId ∈ due)
    (fun i => { i with
      state := .expired, terminalAt := some now, terminalReason := some "INVITATION_EXPIRED" })
    (fun _ => rfl) (fun _ => rfl) stmt

def dueSessions (db : WaveDb) (now : Instant) (limit : Nat) : List Uuid :=
  (takeDue db.guestSessions.rows (fun s => s.state = .active ∧ s.expiresAt ≤ now)
    GuestSessionRow.expiresAt limit).map GuestSessionRow.guestSessionId

/-- Active sessions that ran out are expired. -/
def expireSessions (db : WaveDb) (now : Instant) (limit : Nat) : WaveDb :=
  let due := dueSessions db now limit
  { db with
    guestSessions := db.guestSessions.updateWhere (fun s => s.guestSessionId ∈ due)
      (fun s => { s with
        state := .expired, terminalAt := some now, terminalReason := some "SESSION_EXPIRED" }) }

/-- Reports, rate windows and receipts that ran out are deleted. -/
def purgeReports (db : WaveDb) (now : Instant) (limit : Nat) : WaveDb :=
  let preflights := takeDue db.guestPreflights.rows (fun p => p.expiresAt ≤ now)
    GuestPreflightRow.expiresAt limit
  let timings := takeDue db.guestTimingReports.rows (fun t => t.reportedAt ≤ now - receiptLifetime)
    GuestTimingReportRow.reportedAt limit
  let rates := takeDue db.guestRateWindows.rows (fun w => w.expiresAt ≤ now)
    GuestRateWindowRow.expiresAt limit
  let receipts := takeDue db.guestReceipts.rows (fun r => r.expiresAt ≤ now)
    GuestOperationReceiptRow.expiresAt limit
  { db with
    guestPreflights := db.guestPreflights.eraseWhere (fun p => p ∈ preflights)
    guestTimingReports := db.guestTimingReports.eraseWhere (fun t => t ∈ timings)
    guestRateWindows := db.guestRateWindows.eraseWhere (fun w => w ∈ rates)
    guestReceipts := db.guestReceipts.eraseWhere (fun r => r ∈ receipts) }

/-- The sessions that a cleanup deletes: ended long ago, and without a receipt. -/
def oldSessions (db : WaveDb) (now : Instant) (limit : Nat) : List Uuid :=
  (takeDue db.guestSessions.rows
    (fun s => s.state ≠ .active ∧ (s.terminalAt.any fun t => t ≤ now - receiptLifetime) = true ∧
      (db.guestReceipts.rows.all fun r => r.actorGuestSessionId ≠ some s.guestSessionId ∧
        r.resultGuestSessionId ≠ some s.guestSessionId) = true)
    (fun s => s.terminalAt.getD 0) limit).map GuestSessionRow.guestSessionId

/-- The reports of a session restrict its deletion. -/
def purgeSessions (db : WaveDb) (now : Instant) (limit : Nat) : Except WaveError WaveDb := do
  let ids := oldSessions db now limit
  require ((∀ p ∈ db.guestPreflights.rows, p.guestSessionId ∉ ids) ∧
    ∀ t ∈ db.guestTimingReports.rows, t.guestSessionId ∉ ids) (.foreignKey .guestSession)
  return { db with guestSessions := db.guestSessions.eraseWhere (fun s => s.guestSessionId ∈ ids) }

/-- The invitations that a cleanup deletes: ended long ago, without a session and a receipt. -/
def oldInvitations (db : WaveDb) (now : Instant) (limit : Nat) : List Uuid :=
  (takeDue db.guestInvitations.rows
    (fun i => i.state ≠ .pending ∧ (i.terminalAt.any fun t => t ≤ now - receiptLifetime) = true ∧
      (db.guestSessions.rows.all fun s => s.invitationId ≠ i.invitationId) = true ∧
      (db.guestReceipts.rows.all fun r => r.resultInvitationId ≠ some i.invitationId) = true)
    (fun i => i.terminalAt.getD 0) limit).map GuestInvitationRow.invitationId

def purgeInvitations (db : WaveDb) (now : Instant) (limit : Nat) : WaveDb :=
  let ids := oldInvitations db now limit
  { db with guestInvitations := db.guestInvitations.eraseWhere (fun i => i.invitationId ∈ ids) }

/-- **`cleanup`**: bounded expiry, then bounded deletion. -/
def cleanup (db : WaveDb) (now : Instant) (limit : Int) (stmt : Instant) :
    Except WaveError WaveDb := do
  require (1 ≤ limit ∧ limit ≤ 1000)
    (.valueError "guest cleanup limit must be between 1 and 1000")
  let db := expireInvitations db now limit.toNat stmt
  let db := expireSessions db now limit.toNat
  let db := purgeReports db now limit.toNat
  let db ← purgeSessions db now limit.toNat
  return purgeInvitations db now limit.toNat

/-! ## the issuing host -/

/-- An invitation that a trigger of the issuing host revokes. -/
def hostGone (reason : String) (stmt : Instant) (i : GuestInvitationRow) : GuestInvitationRow :=
  { i with
    state := .revoked, revokedAt := some stmt, terminalAt := some stmt,
    terminalReason := some reason }

def GuestInvitationRow.isLive (i : GuestInvitationRow) : Bool :=
  i.state = .pending ∨ i.state = .depleted

/-- A device is revoked; `retire_guest_device_state` fires. -/
def revokeDevice (db : WaveDb) (device : Uuid) (revokedAt stmt : Instant) : WaveDb :=
  match (db.devices.find device).filter fun d => d.revokedAt ≠ some revokedAt with
  | none => db
  | some d =>
    { db with
      devices := db.devices.updateWhere (fun d => d.deviceId = device)
        (fun d => { d with revokedAt := some revokedAt }) }.updateInvitations
      (fun i => i.hostUserId = d.userId ∧ i.hostDeviceId = device ∧ i.isLive = true)
      (hostGone "HOST_DEVICE_REVOKED" stmt) (fun _ => rfl) (fun _ => rfl) stmt

/-- A session is revoked; `retire_guest_user_session_state` fires. -/
def revokeSession (db : WaveDb) (session : Uuid) (revokedAt stmt : Instant) : WaveDb :=
  match (db.sessions.find session).filter fun s => s.revokedAt ≠ some revokedAt with
  | none => db
  | some s =>
    { db with
      sessions := db.sessions.updateWhere (fun s => s.sessionId = session)
        (fun s => { s with revokedAt := some revokedAt }) }.updateInvitations
      (fun i => i.hostUserId = s.userId ∧ i.hostDeviceId = s.deviceId ∧
        i.hostSessionId = session ∧ i.isLive = true)
      (hostGone "HOST_SESSION_REVOKED" stmt) (fun _ => rfl) (fun _ => rfl) stmt

/-- The sessions of an account, all revoked. -/
def revokeSessionsOf (db : WaveDb) (user : Uuid) (revokedAt : Instant) : WaveDb :=
  { db with
    sessions := db.sessions.updateWhere (fun s => s.userId = user ∧ s.revokedAt = none)
      (fun s => { s with revokedAt := some revokedAt }) }

/-- The status of an account changes; `retire_guest_account_state` fires.  The transaction that
disables an account, or asks for its deletion, revokes its sessions too; one that cancels a deletion
makes it usable again. -/
def setAccount (db : WaveDb) (user : Uuid) (active : Bool) (deletedAt : Option Instant)
    (now stmt : Instant) : WaveDb :=
  match db.accounts.find user with
  | none => db
  | some _ =>
    let db := { db with
      accounts := db.accounts.updateWhere (fun u => u.userId = user)
        (fun u => { u with active := active, deletedAt := deletedAt }) }
    if active = true ∧ deletedAt = none then db
    else
      (revokeSessionsOf db user now).updateInvitations
        (fun i => i.hostUserId = user ∧ i.isLive = true)
        (hostGone "HOST_ACCOUNT_UNAVAILABLE" stmt) (fun _ => rfl) (fun _ => rfl) stmt

/-! ## friends -/

/-- What an acceptance reads of the friendship tables. -/
structure SocialFacts where
  isFriend : Bool
  blocked : Bool
  inviteAvailability : Bool
  deriving DecidableEq

/-- The member row of an accepted invitation. -/
def acceptMember (db : WaveDb) (room : Uuid) (p : Principal) (now : Instant) :
    Except WaveError WaveDb :=
  match db.members.find (room, p.deviceId) with
  | none => do
    let members ← insertInto .member db.members
      { roomId := room, userId := p.userId, deviceId := p.deviceId, role := .member,
        status := .joined, joinedAt := now, leftAt := none, lastPresentAt := some now }
    return { db with members := members }
  | some m => do
    require (m.joinedAt ≤ now) (.check .member)
    return { db with
      members := db.members.updateWhere (fun m => m.roomId = room ∧ m.deviceId = p.deviceId)
        (fun m => { m with
          userId := p.userId, status := .joined, leftAt := none, lastPresentAt := some now }) }

def setFriendInvitation (db : WaveDb) (invitationId : Uuid)
    (f : FriendRoomInvitationRow → FriendRoomInvitationRow)
    (hk : ∀ i, (f i).invitationId = i.invitationId := by intro _; rfl) : WaveDb :=
  { db with
    friendInvitations := db.friendInvitations.updateWhere
      (fun i => i.invitationId = invitationId) f hk (fun _ => rfl) }

/-- The account may act: it exists, is active and not deleted. -/
def accountUsable (db : WaveDb) (user : Uuid) : Bool :=
  (db.accounts.find user).any fun u => u.active = true ∧ u.deletedAt = none

/-- **`accept_invitation`**.  A full room is written to the invitation before it is reported. -/
def acceptInvitation (env : WaveEnv) (db : WaveDb) (p : Principal) (invitationId operationId : Uuid)
    (facts : SocialFacts) (now : Instant) : Except WaveError (Except SocialCode Payload × WaveDb) := do
  let requestHash := env.canonicalSha256 [("invitation_id", .str invitationId.text)]
  require (accountUsable db p.userId = true) (.social .friendRequestUnavailable)
  require ((db.sessions.find p.sessionId).any (fun s => s.userId = p.userId ∧
    s.deviceId = p.deviceId ∧ s.revokedAt = none ∧ now < s.expiresAt) = true)
    (.social .authAttentionRequired)
  match db.socialReceipts.find operationId with
  | some replay => do
    require (replay.actorUserId = p.userId ∧ replay.actorDeviceId = p.deviceId ∧
      replay.action = "ACCEPT_ROOM_INVITATION" ∧ replay.requestSha256 = requestHash)
      (.social .operationConflict)
    return (.ok replay.result, db)
  | none => do
    match (db.friendInvitations.find invitationId).filter fun i => i.targetUserId = p.userId with
    | none => throw (.social .roomInvitationUnavailable)
    | some invite => do
      require (accountUsable db invite.hostUserId = true ∧ accountUsable db p.userId = true)
        (.social .friendRequestUnavailable)
      match db.rooms.find invite.roomId with
      | none => throw (.social .roomChanged)
      | some room => do
        require (invite.state = .pending ∧ now < invite.expiresAt ∧ room.state = .opened ∧
          now < room.expiresAt ∧ room.roomEpoch = invite.roomEpoch ∧
          room.hostUserId = invite.hostUserId ∧ room.hostDeviceId = invite.hostDeviceId ∧
          room.hostLostAt = none ∧ facts.isFriend = true ∧ facts.blocked = false ∧
          facts.inviteAvailability = true) (.social .roomChanged)
        require ((db.members.find (room.roomId, invite.hostDeviceId)).any (fun m =>
          m.status = .joined ∧ m.role = .host) = true) (.social .roomChanged)
        require (∃ s ∈ db.sessions.rows, s.userId = invite.hostUserId ∧
          s.deviceId = invite.hostDeviceId ∧ s.revokedAt = none ∧ now < s.expiresAt)
          (.social .roomChanged)
        require (∀ m ∈ db.members.rows, ¬ (m.roomId = room.roomId ∧ m.userId = p.userId ∧
          m.status = .joined)) (.social .roomInvitationUnavailable)
        if 8 ≤ participantCount db room.roomId now then
          return (.error .roomFull, setFriendInvitation db invitationId fun i =>
            { i with state := .full, terminalAt := some now, terminalReason := some "FULL" })
        else do
          let db ← acceptMember db room.roomId p now
          let db := setFriendInvitation db invitationId fun i =>
            { i with
              state := .accepted, acceptedDeviceId := some p.deviceId,
              acceptingSessionId := some p.sessionId, terminalAt := some now }
          let result : Payload := [("operation_id", .str operationId.text),
            ("invitation_id", .str invitationId.text), ("room_id", .str room.roomId.text),
            ("room_epoch", .int room.roomEpoch), ("membership_state", .str "MEMBER")]
          let receipts ← insertInto .socialReceipt db.socialReceipts
            { operationId := operationId, actorUserId := p.userId, actorDeviceId := p.deviceId,
              action := "ACCEPT_ROOM_INVITATION", requestSha256 := requestHash, result := result,
              expiresAt := now + receiptLifetime, createdAt := now }
          return (.ok result, { db with socialReceipts := receipts })

end AutPlay.Wave
