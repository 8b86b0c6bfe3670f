import AutPlay.Lib.Table
import AutPlay.Pairing.Documents

/-!
# The service that pairs a second phone of an account

* rows           ceremonies, decisions, accounts, devices and sessions;
* `start`, `claim`, `poll`, `decide`, `exchange`, `cleanup`   the calls, each in one transaction;
* `Call.run`     a call by name.

A call that raises is rolled back: it returns an error and no database.  Instants are microseconds.
-/

set_option linter.unusedSectionVars false

namespace AutPlay.Pairing

open AutPlay.Sync (Uuid)

/-! ## rows -/

inductive State
  | opened
  | claimed
  | approved
  | exchanged
  | cancelled
  | rejected
  deriving DecidableEq, Repr

def State.text : State → String
  | .opened => "OPEN"
  | .claimed => "CLAIMED"
  | .approved => "APPROVED"
  | .exchanged => "EXCHANGED"
  | .cancelled => "CANCELLED"
  | .rejected => "REJECTED"

def State.isPending : State → Bool
  | .opened | .claimed | .approved => true
  | .exchanged | .cancelled | .rejected => false

structure SelfDevicePairing where
  ceremonyId : Uuid
  serverInstanceId : Uuid
  userId : Uuid
  authorityGeneration : Nat
  sourceDeviceId : Uuid
  sourceFamilyId : Uuid
  startOperationId : Uuid
  startDocument : Request StartBody
  state : State
  revision : Nat
  createdAt : Int
  expiresAt : Int
  claimId : Option Uuid
  claimDocument : Option (Request ClaimBody)
  approvalOperationId : Option Uuid
  lastPolledAt : Option Int
  exchangeId : Option Uuid
  exchangeDocument : Option (Request ExchangeBody)
  resultDeviceId : Option Uuid
  resultSessionId : Option Uuid
  receiptExpiresAt : Option Int
  deriving DecidableEq

instance : Schema SelfDevicePairing Uuid Empty where
  key := SelfDevicePairing.ceremonyId
  index _ := none

structure ClaimView where
  claimId : Option Uuid
  claimRequestSha256 : Sha256Hex
  deviceName : String
  deviceKeyThumbprintSha256 : Sha256Hex
  comparisonCode : String
  deriving DecidableEq

/-- What `_status` returns. -/
structure Status where
  contractVersion : String := "v1"
  schemaVersion : Nat := 1
  ceremonyId : Uuid
  state : String
  revision : Nat
  expiresAt : Int
  retryAfterSeconds : Nat := 2
  claim : Option ClaimView
  account : Option (Uuid × String)
  approvalOperationId : Option Uuid
  deviceId : Option Uuid
  deriving DecidableEq

structure PairingCommand where
  operationId : Uuid
  ceremonyId : Uuid
  userId : Uuid
  deviceId : Uuid
  familyId : Uuid
  requestHash : Sha256Hex
  result : Status
  createdAt : Int
  deriving DecidableEq

instance : Schema PairingCommand Uuid Empty where
  key := PairingCommand.operationId
  index _ := none

inductive AccountRole
  | owner
  | admin
  | user
  deriving DecidableEq

structure UserAccountRow where
  userId : Uuid
  authorityGeneration : Nat
  displayName : String
  role : AccountRole
  status : String
  deletedAt : Option Int

structure PairingAccount where
  userId : Uuid
  authorityGeneration : Nat
  label : String
  role : AccountRole

structure DeviceRow where
  deviceId : Uuid
  userId : Uuid
  deviceName : String
  platform : String
  appVersion : String
  publicKey : Option (List UInt8)
  publicKeyThumbprintSha256 : Option Sha256Hex
  revokedAt : Option Int
  createdAt : Int
  deriving DecidableEq

instance : Schema DeviceRow Uuid Empty where
  key := DeviceRow.deviceId
  index _ := none

structure UserSessionRow where
  sessionId : Uuid
  userId : Uuid
  deviceId : Uuid
  refreshTokenHash : Sha256Hex
  issuedAt : Int
  expiresAt : Int
  revokedAt : Option Int
  familyId : Option Uuid
  generation : Nat
  sessionMode : String
  deriving DecidableEq

/-- The primary key, and the unique refresh token. -/
instance : Schema UserSessionRow Uuid Sha256Hex where
  key := UserSessionRow.sessionId
  index row := some row.refreshTokenHash

structure AuditEvent where
  occurredAt : Int
  actorType : String
  actorUserId : Uuid
  actorDeviceId : Uuid
  action : String
  targetType : String
  targetId : Uuid
  requestId : Uuid
  outcome : String
  deriving DecidableEq

structure Db where
  /-- The rows of `server_instance`, as the fields that a request names. -/
  identity : Uuid → Option Expected
  account : Uuid → Option UserAccountRow
  /-- `device_key_block` rows that are not lifted. -/
  keyBlocked : Uuid → Sha256Hex → Bool
  /-- `effective_account_limits(…).devices`; `none` where it raises. -/
  deviceLimit : Uuid → Option Nat
  devices : Table DeviceRow
  sessions : Table UserSessionRow
  ceremonies : Table SelfDevicePairing
  commands : Table PairingCommand
  audit : List AuditEvent

/-- The codecs and the settings of the service. -/
structure Service where
  crypto : Crypto
  accessTtl : Int
  issueAccess : Principal → AccountRole → Uuid → Int → Int → String
  /-- The size that `CHECK` allows a stored document. -/
  fits : Body → Bool
  resultFits : Status → Bool

/-! ## the repository -/

section
variable (db : Db)

def lockIdentity (serverId : Uuid) : Except SelfPairingError Expected :=
  orRaise .unavailable (db.identity serverId)

def pairingAccount (row : UserAccountRow) : PairingAccount :=
  { userId := row.userId
    authorityGeneration := row.authorityGeneration
    label := row.displayName
    role := row.role }

def lockAccount (userId : Uuid) : Except SelfPairingError PairingAccount := do
  let row ← orRaise .unavailable (db.account userId)
  requireOk .unavailable (row.status = "ACTIVE" ∧ row.deletedAt = none)
  .ok (pairingAccount row)

/-- `_device`: a phone of the account that is not revoked. -/
def lockDevice (userId deviceId : Uuid) : Except SelfPairingError DeviceRow := do
  let row ← orRaise .unavailable (db.devices.find deviceId)
  requireOk .unavailable (row.userId = userId ∧ row.revokedAt = none ∧ row.platform = "ANDROID")
  .ok row

def UserSessionRow.family (session : UserSessionRow) : Uuid :=
  session.familyId.getD session.sessionId

def actorFamily (actor : Principal) (now : Int) : Except SelfPairingError Uuid := do
  let _ ← lockDevice db actor.userId actor.deviceId
  let session ← orRaise .unavailable (db.sessions.find actor.sessionId)
  requireOk .unavailable
    (session.userId = actor.userId ∧ session.deviceId = actor.deviceId ∧
      session.sessionMode = "V2" ∧ session.revokedAt = none ∧ now < session.expiresAt)
  .ok session.family

/-- A session of the source device in the family that started the ceremony. -/
def UserSessionRow.isSource (ceremony : SelfDevicePairing) (now : Int) (session : UserSessionRow) : Bool :=
  decide (session.userId = ceremony.userId ∧ session.deviceId = ceremony.sourceDeviceId ∧
    session.family = ceremony.sourceFamilyId ∧ session.sessionMode = "V2" ∧
    session.revokedAt = none ∧ now < session.expiresAt)

def requireSource (ceremony : SelfDevicePairing) (now : Int) : Except SelfPairingError Unit := do
  let _ ← lockDevice db ceremony.userId ceremony.sourceDeviceId
  requireOk .unavailable (∃ session ∈ db.sessions.rows, session.isSource ceremony now = true)

/-- `require_unique`; the column is unique, so that no other row than the one found has the value. -/
def requireUnique (field : SelfDevicePairing → Option Uuid) (value ceremonyId : Uuid) :
    Except SelfPairingError Unit :=
  requireOk .operationConflict
    (∀ row ∈ db.ceremonies.rows, field row = some value → row.ceremonyId = ceremonyId)

def pendingCount (userId : Uuid) (now : Int) : Nat :=
  db.ceremonies.rows.countP fun row =>
    decide (row.userId = userId) && decide (now < row.expiresAt) && row.state.isPending

def orIntegrity {α : Type} (x : Except Constraint α) : Except SelfPairingError α :=
  x.mapError fun _ => .integrityError

def saveRow (ceremony : SelfDevicePairing) : Except Constraint (Table SelfDevicePairing) :=
  if db.ceremonies.find ceremony.ceremonyId = none then db.ceremonies.insert ceremony
  else db.ceremonies.update ceremony

/-- `save`, of a ceremony or of a new one. -/
def save (ceremony : SelfDevicePairing) : Except SelfPairingError Db := do
  let ceremonies ← orIntegrity (saveRow db ceremony)
  .ok { db with ceremonies := ceremonies }

def saveCommand (command : PairingCommand) : Except SelfPairingError Db := do
  let commands ← orIntegrity (db.commands.insert command)
  .ok { db with commands := commands }

/-- `audit` -/
def Db.record (ceremony : SelfDevicePairing) (action : String) (operationId : Uuid) (now : Int) : Db :=
  { db with
    audit := db.audit ++ [{
      occurredAt := now
      actorType := "USER"
      actorUserId := ceremony.userId
      actorDeviceId := ceremony.sourceDeviceId
      action := action
      targetType := "SELF_DEVICE_PAIRING"
      targetId := ceremony.ceremonyId
      requestId := operationId
      outcome := ceremony.state.text }] }

structure PairingBinding where
  deviceId : Uuid
  sessionId : Uuid
  expiresAt : Int
  deriving DecidableEq

/-- What the service draws at random in an exchange. -/
structure Drawn where
  deviceId : Uuid
  sessionId : Uuid
  tokenId : Uuid

def boundDevice (ceremony : SelfDevicePairing) (claim : ClaimBody) (key : PublicKey) (drawn : Drawn)
    (now : Int) : DeviceRow :=
  { deviceId := drawn.deviceId
    userId := ceremony.userId
    deviceName := claim.deviceName
    platform := "ANDROID"
    appVersion := claim.appVersion
    publicKey := some key.der
    publicKeyThumbprintSha256 := some claim.deviceKeyThumbprintSha256
    revokedAt := none
    createdAt := now }

def day : Int := 86400 * 1000000

def boundSession (ceremony : SelfDevicePairing) (exchange : ExchangeBody) (drawn : Drawn) (now : Int) :
    UserSessionRow :=
  { sessionId := drawn.sessionId
    userId := ceremony.userId
    deviceId := drawn.deviceId
    refreshTokenHash := exchange.nextRefreshTokenSha256
    issuedAt := now
    expiresAt := now + 90 * day
    revokedAt := none
    familyId := some drawn.sessionId
    generation := 0
    sessionMode := "V2" }

def activeDevices (userId : Uuid) : List DeviceRow :=
  db.devices.rows.filter fun row => decide (row.userId = userId) && row.revokedAt.isNone

def requireDeviceCapacity (userId : Uuid) : Except SelfPairingError Unit := do
  let limit ← orRaise .unavailable (db.deviceLimit userId)
  requireOk .accountDeviceLimitReached ((activeDevices db userId).length < limit)

def createBinding (crypto : Crypto) (ceremony : SelfDevicePairing) (claim : ClaimBody)
    (exchange : ExchangeBody) (drawn : Drawn) (now : Int) :
    Except SelfPairingError (PairingBinding × Db) := do
  requireOk .unavailable (db.keyBlocked ceremony.userId claim.deviceKeyThumbprintSha256 = false)
  requireOk .keyAlreadyBound
    (∀ row ∈ activeDevices db ceremony.userId,
      row.publicKeyThumbprintSha256 ≠ some claim.deviceKeyThumbprintSha256)
  requireDeviceCapacity db ceremony.userId
  requireOk .operationConflict
    (∀ row ∈ db.sessions.rows, row.refreshTokenHash ≠ exchange.nextRefreshTokenSha256)
  let key ← orRaise .valueError (crypto.publicKey claim.devicePublicKeySpkiB64)
  let devices ← orIntegrity (db.devices.insert (boundDevice ceremony claim key drawn now))
  let sessions ← orIntegrity (db.sessions.insert (boundSession ceremony exchange drawn now))
  .ok ({ deviceId := drawn.deviceId, sessionId := drawn.sessionId, expiresAt := now + 90 * day },
    { db with devices := devices, sessions := sessions })

def activeBinding (ceremony : SelfDevicePairing) (now : Int) : Except SelfPairingError PairingBinding := do
  let deviceId ← orRaise .unavailable ceremony.resultDeviceId
  let sessionId ← orRaise .unavailable ceremony.resultSessionId
  let _ ← lockDevice db ceremony.userId deviceId
  let row ← orRaise .unavailable (db.sessions.find sessionId)
  requireOk .unavailable
    (row.userId = ceremony.userId ∧ row.deviceId = deviceId ∧ row.sessionMode = "V2" ∧
      row.revokedAt = none ∧ now < row.expiresAt)
  .ok { deviceId := row.deviceId, sessionId := row.sessionId, expiresAt := row.expiresAt }

/-- The ceremonies that `cleanup` removes; a row that another transaction locks is skipped. -/
def cleanupIds (now : Int) (limit : Nat) (locked : List Uuid) : List Uuid :=
  (((db.ceremonies.rows.filter fun row =>
      (if row.state = .exchanged then
        decide (∃ t ∈ row.receiptExpiresAt, t < now)
      else decide (row.expiresAt < now - day)) && !locked.contains row.ceremonyId).mergeSort
    fun a b => decide (a.expiresAt ≤ b.expiresAt)).take limit).map SelfDevicePairing.ceremonyId

/-- `DELETE` of ceremonies, and of their decisions (`ON DELETE CASCADE`). -/
def Db.removeWhere (p : SelfDevicePairing → Bool) : Db :=
  { db with
    ceremonies := db.ceremonies.eraseWhere p
    commands := db.commands.eraseWhere fun command =>
      (db.ceremonies.find command.ceremonyId).any p }

end

/-! ## the service -/

section
variable (service : Service)

/-- `comparison_code`; it raises before a claim. -/
def comparisonCode (ceremony : SelfDevicePairing) : Option String :=
  ceremony.claimDocument.map fun claim =>
    service.crypto.sas ceremony.serverInstanceId ceremony.startDocument.body.common.expected.identityEpoch
      ceremony.ceremonyId claim.requestSha256 claim.body.deviceKeyThumbprintSha256

def claimView (ceremony : SelfDevicePairing) : Option ClaimView :=
  ceremony.claimDocument.map fun claim =>
    { claimId := ceremony.claimId
      claimRequestSha256 := claim.requestSha256
      deviceName := claim.body.deviceName
      deviceKeyThumbprintSha256 := claim.body.deviceKeyThumbprintSha256
      comparisonCode := (comparisonCode service ceremony).getD "" }

/-- `_status` -/
def statusOf (ceremony : SelfDevicePairing) (account : PairingAccount) (source : Bool)
    (now : Option Int) : Status :=
  let expired := now.any (fun t => decide (ceremony.expiresAt ≤ t)) && ceremony.state.isPending
  { ceremonyId := ceremony.ceremonyId
    state := if expired then "EXPIRED" else ceremony.state.text
    revision := ceremony.revision
    expiresAt := ceremony.expiresAt
    claim := claimView service ceremony
    account :=
      if source || (!expired && (ceremony.state == .approved || ceremony.state == .exchanged)) then
        some (account.userId, account.label)
      else none
    approvalOperationId := ceremony.approvalOperationId
    deviceId := ceremony.resultDeviceId }

/-- `_live` -/
def live (ceremony : SelfDevicePairing) (now : Int) : Except SelfPairingError Unit :=
  requireOk .unavailable
    ((∃ deadline ∈ (if ceremony.state = .exchanged then ceremony.receiptExpiresAt
        else some ceremony.expiresAt), now < deadline) ∧
      ceremony.state ≠ .cancelled ∧ ceremony.state ≠ .rejected)

def liveOrRetained (ceremony : SelfDevicePairing) (now : Int) (terminal : Bool) :
    Except SelfPairingError Unit :=
  if terminal = false ∨ ceremony.state = .exchanged then live ceremony now
  else requireOk .unavailable (now < ceremony.expiresAt + day)

/-- `_context`; the row is read again under the locks. -/
def context (db : Db) (ceremonyId : Uuid) (now : Int) (terminal : Bool) :
    Except SelfPairingError (SelfDevicePairing × PairingAccount) := do
  let ceremony ← orRaise .unavailable (db.ceremonies.find ceremonyId)
  let identity ← lockIdentity db ceremony.serverInstanceId
  let account ← lockAccount db ceremony.userId
  requireOk .unavailable
    (ceremony.authorityGeneration = account.authorityGeneration ∧
      ceremony.startDocument.body.common.expected = identity)
  liveOrRetained ceremony now terminal
  .ok (ceremony, account)

/-- `_source` -/
def sourceOk (db : Db) (ceremony : SelfDevicePairing) (actor : Principal) (now : Int) :
    Except SelfPairingError Unit := do
  requireOk .unavailable (ceremony.userId = actor.userId ∧ ceremony.sourceDeviceId = actor.deviceId)
  let family ← actorFamily db actor now
  requireOk .unavailable (family = ceremony.sourceFamilyId)

/-- `_identity_request` -/
def identityRequest (ceremony : SelfDevicePairing) (common : Common) : Except SelfPairingError Unit :=
  requireOk .unavailable (common.expected = ceremony.startDocument.body.common.expected)

/-- `_possession` -/
def possession (secret : String) (expected : Sha256Hex) : Except SelfPairingError Unit :=
  requireOk .unavailable (service.crypto.secretHash secret = some expected)

/-- `_new_phone`; it leaves the claim that it checked. -/
def newPhone (kind : String) (ceremony : SelfDevicePairing) (secret : String) (common : Common)
    (claimId : Uuid) (claimRequestSha256 requestSha256 : Sha256Hex) (signature : String) :
    Except SelfPairingError (Request ClaimBody) := do
  identityRequest ceremony common
  let claim ← orRaise .unavailable ceremony.claimDocument
  requireOk .unavailable (ceremony.claimId = some claimId ∧ claimRequestSha256 = claim.requestSha256)
  possession service secret claim.body.pollSecretSha256
  verifyProof service.crypto kind requestSha256 signature claim.body
  .ok claim

def openCeremony (request : Request StartBody) (identity : Expected) (account : PairingAccount)
    (actor : Principal) (family : Uuid) (now : Int) : SelfDevicePairing :=
  { ceremonyId := request.body.common.ceremonyId
    serverInstanceId := identity.serverInstanceId
    userId := actor.userId
    authorityGeneration := account.authorityGeneration
    sourceDeviceId := actor.deviceId
    sourceFamilyId := family
    startOperationId := request.body.operationId
    startDocument := request
    state := .opened
    revision := 1
    createdAt := now
    expiresAt := now + 15 * 60 * 1000000
    claimId := none
    claimDocument := none
    approvalOperationId := none
    lastPolledAt := none
    exchangeId := none
    exchangeDocument := none
    resultDeviceId := none
    resultSessionId := none
    receiptExpiresAt := none }

/-- The branch of `start` for a ceremony that exists. -/
def startAgain (db : Db) (request : Request StartBody) (account : PairingAccount) (actor : Principal)
    (family : Uuid) (existing : SelfDevicePairing) (now : Int) :
    Except SelfPairingError (Status × Db) := do
  requireOk .operationConflict
    (existing.userId = actor.userId ∧ existing.sourceDeviceId = actor.deviceId ∧
      existing.sourceFamilyId = family ∧
      existing.authorityGeneration = account.authorityGeneration ∧ existing.startDocument = request)
  live existing now
  .ok (statusOf service existing account true none, db)

def startNew (db : Db) (request : Request StartBody) (identity : Expected) (account : PairingAccount)
    (actor : Principal) (family : Uuid) (now : Int) : Except SelfPairingError (Status × Db) := do
  fresh service.crypto request.body.common.requestedAt now
  requireOk .rateLimited (pendingCount db actor.userId now < 3)
  requireOk .integrityError (service.fits (.start request.body) = true)
  let ceremony := openCeremony request identity account actor family now
  let saved ← save db ceremony
  .ok (statusOf service ceremony account true none,
    saved.record ceremony "self_pairing.started" ceremony.startOperationId now)

def Service.start (actor : Principal) (request : Request StartBody) (now : Int) (db : Db) :
    Except SelfPairingError (Status × Db) := do
  parseRequest service.crypto (.start request.body) request.requestSha256
  let identity ← lockIdentity db request.body.common.expected.serverInstanceId
  let account ← lockAccount db actor.userId
  let family ← actorFamily db actor now
  requireOk .unavailable (request.body.common.expected = identity)
  requireUnique db (fun row => some row.startOperationId) request.body.operationId
    request.body.common.ceremonyId
  match db.ceremonies.find request.body.common.ceremonyId with
  | some existing => startAgain service db request account actor family existing now
  | none => startNew service db request identity account actor family now

def claimedBy (ceremony : SelfDevicePairing) (request : Request ClaimBody) : SelfDevicePairing :=
  { ceremony with
    claimId := some request.body.claimId
    claimDocument := some request
    state := .claimed
    revision := ceremony.revision + 1 }

/-- The branch of `claim` for a ceremony without a claim. -/
def claimNew (db : Db) (request : Request ClaimBody) (ceremony : SelfDevicePairing)
    (account : PairingAccount) (now : Int) : Except SelfPairingError (Status × Db) := do
  fresh service.crypto request.body.common.requestedAt now
  requireOk .unavailable (ceremony.state = .opened)
  requireOk .integrityError (service.fits (.claim request.body) = true)
  let saved ← save db (claimedBy ceremony request)
  .ok (statusOf service (claimedBy ceremony request) account false none,
    saved.record (claimedBy ceremony request) "self_pairing.claimed" request.body.claimId now)

def claimAgain (db : Db) (request : Request ClaimBody) (ceremony : SelfDevicePairing)
    (account : PairingAccount) (recorded : Request ClaimBody) : Except SelfPairingError (Status × Db) := do
  requireOk .operationConflict (recorded = request)
  .ok (statusOf service ceremony account false none, db)

def Service.claim (secret : String) (signed : Signed ClaimBody) (now : Int) (db : Db) :
    Except SelfPairingError (Status × Db) := do
  let request := signed.document
  parseSigned service.crypto (.claim request.body) request.requestSha256 signed.signature
  verifyProof service.crypto "claim" request.requestSha256 signed.signature request.body
  let (ceremony, account) ← context db request.body.common.ceremonyId now false
  identityRequest ceremony request.body.common
  possession service secret ceremony.startDocument.body.rendezvousSecretSha256
  requireSource db ceremony now
  requireUnique db SelfDevicePairing.claimId request.body.claimId ceremony.ceremonyId
  match ceremony.claimDocument with
  | some recorded => claimAgain service db request ceremony account recorded
  | none => claimNew service db request ceremony account now

def requireSourceUnlessOver (db : Db) (ceremony : SelfDevicePairing) (now : Int) :
    Except SelfPairingError Unit :=
  if ceremony.state.isPending then requireSource db ceremony now else .ok ()

def polledAt (ceremony : SelfDevicePairing) (now : Int) : SelfDevicePairing :=
  { ceremony with lastPolledAt := some now }

def Service.poll (secret : String) (signed : Signed PollBody) (now : Int) (db : Db) :
    Except SelfPairingError (Status × Db) := do
  let request := signed.document
  parseSigned service.crypto (.poll request.body) request.requestSha256 signed.signature
  fresh service.crypto request.body.common.requestedAt now
  let (ceremony, account) ← context db request.body.common.ceremonyId now true
  let _ ← newPhone service "poll" ceremony secret request.body.common request.body.claimId
    request.body.claimRequestSha256 request.requestSha256 signed.signature
  requireSourceUnlessOver db ceremony now
  requireOk .rateLimited (∀ polled ∈ ceremony.lastPolledAt, polled + 2 * 1000000 ≤ now)
  let saved ← save db (polledAt ceremony now)
  .ok (statusOf service (polledAt ceremony now) account false (some now), saved)

/-- The branch of `decide` for an operation that is recorded. -/
def decideAgain (db : Db) (actor : Principal) (request : Request DecisionBody)
    (ceremony : SelfDevicePairing) (previous : PairingCommand) :
    Except SelfPairingError (Status × Db) := do
  requireOk .operationConflict
    (previous.ceremonyId = ceremony.ceremonyId ∧ previous.userId = actor.userId ∧
      previous.deviceId = actor.deviceId ∧ previous.familyId = ceremony.sourceFamilyId ∧
      previous.requestHash = request.requestSha256)
  .ok (previous.result, db)

/-- The three actions; the comparison code goes with an approval only. -/
def decided (ceremony : SelfDevicePairing) (body : DecisionBody) :
    Except SelfPairingError SelfDevicePairing :=
  match body.action with
  | .approve => do
    requireOk .unavailable (ceremony.state = .claimed)
    let code ← orRaise .unavailable (comparisonCode service ceremony)
    requireOk .unavailable (body.comparisonCode = some code)
    .ok { ceremony with
      state := .approved
      approvalOperationId := some body.operationId
      revision := ceremony.revision + 1 }
  | .reject => do
    requireOk .unavailable (ceremony.state = .claimed ∧ body.comparisonCode = none)
    .ok { ceremony with state := .rejected, revision := ceremony.revision + 1 }
  | .cancel => do
    requireOk .unavailable (body.comparisonCode = none)
    .ok { ceremony with state := .cancelled, revision := ceremony.revision + 1 }

def Action.audited : Action → String
  | .approve => "self_pairing.approve"
  | .reject => "self_pairing.reject"
  | .cancel => "self_pairing.cancel"

def decideNew (db : Db) (actor : Principal) (request : Request DecisionBody)
    (ceremony : SelfDevicePairing) (account : PairingAccount) (now : Int) :
    Except SelfPairingError (Status × Db) := do
  live ceremony now
  fresh service.crypto request.body.common.requestedAt now
  requireOk .revisionConflict (request.body.expectedRevision = ceremony.revision)
  requireOk .operationConflict
    (request.body.claimId = ceremony.claimId ∧
      request.body.claimRequestSha256 = ceremony.claimDocument.map Request.requestSha256 ∧
      ceremony.state ≠ .exchanged)
  let next ← decided service ceremony request.body
  let result := statusOf service next account true none
  requireOk .integrityError (service.resultFits result = true)
  let saved ← save db next
  let commanded ← saveCommand saved
    { operationId := request.body.operationId
      ceremonyId := ceremony.ceremonyId
      userId := actor.userId
      deviceId := actor.deviceId
      familyId := ceremony.sourceFamilyId
      requestHash := request.requestSha256
      result := result
      createdAt := now }
  .ok (result, commanded.record next request.body.action.audited request.body.operationId now)

def Service.decide (actor : Principal) (request : Request DecisionBody) (now : Int) (db : Db) :
    Except SelfPairingError (Status × Db) := do
  parseRequest service.crypto (.decision request.body) request.requestSha256
  let (ceremony, account) ← context db request.body.common.ceremonyId now true
  identityRequest ceremony request.body.common
  sourceOk db ceremony actor now
  match db.commands.find request.body.operationId with
  | some previous => decideAgain db actor request ceremony previous
  | none => decideNew service db actor request ceremony account now

structure ExchangeResponse where
  contractVersion : String := "v1"
  schemaVersion : Nat := 1
  exchangeId : Option Uuid
  bindingCommitId : Uuid
  serverInstanceId : Uuid
  userId : Uuid
  deviceId : Uuid
  sessionId : Uuid
  refreshGeneration : Nat := 0
  refreshAbsoluteExpiresAt : Int
  receiptExpiresAt : Int
  accessToken : String
  accessExpiresAt : Int
  replayed : Bool

/-- `_exchange_response` -/
def exchangeResponse (ceremony : SelfDevicePairing) (account : PairingAccount)
    (binding : PairingBinding) (tokenId : Uuid) (now : Int) (replayed : Bool) :
    Except SelfPairingError ExchangeResponse := do
  let document ← orRaise .unavailable ceremony.exchangeDocument
  let receiptExpiresAt ← orRaise .unavailable ceremony.receiptExpiresAt
  let expiry := min (now + service.accessTtl) binding.expiresAt
  .ok {
    exchangeId := ceremony.exchangeId
    bindingCommitId := document.body.bindingCommitId
    serverInstanceId := ceremony.serverInstanceId
    userId := account.userId
    deviceId := binding.deviceId
    sessionId := binding.sessionId
    refreshAbsoluteExpiresAt := binding.expiresAt
    receiptExpiresAt := receiptExpiresAt
    accessToken := service.issueAccess ⟨account.userId, binding.deviceId, binding.sessionId⟩ account.role
      tokenId now expiry
    accessExpiresAt := expiry
    replayed := replayed }

def exchangedBy (ceremony : SelfDevicePairing) (request : Request ExchangeBody)
    (binding : PairingBinding) : SelfDevicePairing :=
  { ceremony with
    exchangeId := some request.body.exchangeId
    exchangeDocument := some request
    resultDeviceId := some binding.deviceId
    resultSessionId := some binding.sessionId
    receiptExpiresAt := some (binding.expiresAt + 5 * 60 * 1000000)
    state := .exchanged
    revision := ceremony.revision + 1 }

def exchangeAgain (db : Db) (request : Request ExchangeBody) (ceremony : SelfDevicePairing)
    (account : PairingAccount) (drawn : Drawn) (now : Int) :
    Except SelfPairingError (ExchangeResponse × Db) := do
  requireOk .operationConflict (ceremony.exchangeDocument = some request)
  let binding ← activeBinding db ceremony now
  let response ← exchangeResponse service ceremony account binding drawn.tokenId now true
  .ok (response, db)

def exchangeNew (db : Db) (request : Request ExchangeBody) (ceremony : SelfDevicePairing)
    (claim : Request ClaimBody) (account : PairingAccount) (drawn : Drawn) (now : Int) :
    Except SelfPairingError (ExchangeResponse × Db) := do
  requireOk .unavailable (ceremony.state = .approved)
  fresh service.crypto request.body.common.requestedAt now
  requireSource db ceremony now
  let (binding, bound) ← createBinding db service.crypto ceremony claim.body request.body drawn now
  requireOk .integrityError (service.fits (.exchange request.body) = true)
  let next := exchangedBy ceremony request binding
  let saved ← save bound next
  let response ← exchangeResponse service next account binding drawn.tokenId now false
  .ok (response, saved.record next "self_pairing.exchanged" request.body.exchangeId now)

def Service.exchange (secret : String) (signed : Signed ExchangeBody) (drawn : Drawn) (now : Int) (db : Db) :
    Except SelfPairingError (ExchangeResponse × Db) := do
  let request := signed.document
  parseSigned service.crypto (.exchange request.body) request.requestSha256 signed.signature
  let (ceremony, account) ← context db request.body.common.ceremonyId now false
  let claim ← newPhone service "exchange" ceremony secret request.body.common request.body.claimId
    request.body.claimRequestSha256 request.requestSha256 signed.signature
  requireOk .unavailable
    (request.body.confirmedAccountId = account.userId ∧
      ceremony.approvalOperationId = some request.body.approvalOperationId)
  requireUnique db SelfDevicePairing.exchangeId request.body.exchangeId ceremony.ceremonyId
  if ceremony.state = .exchanged then exchangeAgain service db request ceremony account drawn now
  else exchangeNew service db request ceremony claim account drawn now

/-- `cleanup` -/
def Service.cleanup (now : Int) (limit : Nat) (locked : List Uuid) (db : Db) :
    Except SelfPairingError (Nat × Db) := do
  requireOk .valueError (1 ≤ limit ∧ limit ≤ 10000)
  let ids := cleanupIds db now limit locked
  .ok (ids.length, db.removeWhere fun row => ids.contains row.ceremonyId)

/-! ## calls -/

inductive Call
  | start (actor : Principal) (request : Request StartBody) (now : Int)
  | claim (secret : String) (signed : Signed ClaimBody) (now : Int)
  | poll (secret : String) (signed : Signed PollBody) (now : Int)
  | decide (actor : Principal) (request : Request DecisionBody) (now : Int)
  | exchange (secret : String) (signed : Signed ExchangeBody) (drawn : Drawn) (now : Int)
  | cleanup (now : Int) (limit : Nat) (locked : List Uuid)

inductive Outcome
  | status (status : Status)
  | binding (response : ExchangeResponse)
  | removed (count : Nat)

def Call.run (call : Call) (db : Db) : Except SelfPairingError (Outcome × Db) :=
  match call with
  | .start actor request now => (service.start actor request now db).map fun r => (.status r.1, r.2)
  | .claim secret signed now => (service.claim secret signed now db).map fun r => (.status r.1, r.2)
  | .poll secret signed now => (service.poll secret signed now db).map fun r => (.status r.1, r.2)
  | .decide actor request now => (service.decide actor request now db).map fun r => (.status r.1, r.2)
  | .exchange secret signed drawn now =>
    (service.exchange secret signed drawn now db).map fun r => (.binding r.1, r.2)
  | .cleanup now limit locked => (Service.cleanup now limit locked db).map fun r => (.removed r.1, r.2)

end

end AutPlay.Pairing
