import Mathlib.Data.Int.Order.Basic
import AutPlay.Lib.Dict
import AutPlay.Lib.Table
import AutPlay.Auth.Sessions

/-!
# Invitations to an account

The owner's invitations and the accounts that are registered with them.

* `Db`                           the tables, with their keys and unique indexes;
* `createApply`                  the transaction of `create_invitation` that may issue one;
* `redeemApply`                  the transaction of `redeem`: a replay by its receipt, or one registration;
* `lifecycle`                    `cancel_invitation` and `disable_account`;
* `issueGate`, `redeemGates`     the transactions that count attempts;
* `cleanup`                      `cleanup_expired_public_access`.

Times are microseconds.  A call reads the clock before its transactions: `now` is that reading, and `at` the
clock inside the transaction.
-/

set_option linter.unusedSectionVars false

namespace AutPlay.PublicAccess

open AutPlay.Sync (Uuid)
open AutPlay.Auth (AccountRole Principal)

/-! ## rows -/

structure ServerInstanceRow where
  serverInstanceId : Uuid
  identityEpoch : Int
  identityThumbprintSha256 : String
  apiOrigin : String
  streamOrigin : String
  deriving DecidableEq

structure UserAccountRow where
  userId : Uuid
  displayName : String
  role : AccountRole
  status : String
  deletedAt : Option Int
  updatedAt : Int

instance : Schema UserAccountRow Uuid Empty := ⟨UserAccountRow.userId, fun _ => none⟩

structure DeviceRow where
  deviceId : Uuid
  userId : Uuid
  deviceName : String
  appVersion : String
  publicKey : String
  thumbprint : String
  revokedAt : Option Int

instance : Schema DeviceRow Uuid Empty := ⟨DeviceRow.deviceId, fun _ => none⟩

structure UserSessionRow where
  sessionId : Uuid
  userId : Uuid
  deviceId : Uuid
  refreshTokenHash : String
  expiresAt : Int
  revokedAt : Option Int

/-- `user_session_refresh_token_hash_key` -/
instance : Schema UserSessionRow Uuid String := ⟨UserSessionRow.sessionId, fun s => some s.refreshTokenHash⟩

structure AccountInvitationRow where
  invitationId : Uuid
  issuedByUserId : Option Uuid
  displayName : String
  secretSha256 : String
  issuedAt : Int
  expiresAt : Int
  cancelledAt : Option Int
  consumedAt : Option Int

instance : Schema AccountInvitationRow Uuid String :=
  ⟨AccountInvitationRow.invitationId, fun i => some i.secretSha256⟩

structure AccountRegistrationReceiptRow where
  registrationId : Uuid
  invitationId : Uuid
  invitationSecretSha256 : String
  requestSha256 : String
  deviceKeyThumbprintSha256 : String
  userId : Uuid
  deviceId : Uuid
  sessionId : Uuid
  bindingCommitId : Uuid
  receiptExpiresAt : Int
  createdAt : Int

instance : Schema AccountRegistrationReceiptRow Uuid Empty :=
  ⟨AccountRegistrationReceiptRow.registrationId, fun _ => none⟩

structure AccountProvisioningLinkRow where
  userId : Uuid
  invitationId : Uuid
  issuedByUserId : Option Uuid
  createdAt : Int

instance : Schema AccountProvisioningLinkRow Uuid Uuid :=
  ⟨AccountProvisioningLinkRow.userId, fun l => some l.invitationId⟩

inductive Action
  | create
  | cancel
  | disable
  deriving DecidableEq, Repr

inductive Outcome
  | applied
  | alreadyTerminal
  deriving DecidableEq, Repr

/-- What a cancellation or a disabling answers. -/
structure Lifecycle where
  operationId : Uuid
  action : Action
  targetId : Uuid
  outcome : Outcome
  occurredAt : Int
  deriving DecidableEq

/-- `result_json` of a creation is the invitation without its secret; no replay reads it. -/
structure AccountProvisioningOperationReceiptRow where
  operationId : Uuid
  actorUserId : Uuid
  action : Action
  targetId : Uuid
  commandSha256 : String
  resultJson : Option Lifecycle
  createdAt : Int

instance : Schema AccountProvisioningOperationReceiptRow Uuid Empty :=
  ⟨AccountProvisioningOperationReceiptRow.operationId, fun _ => none⟩

structure AccountProvisioningRateWindowRow where
  windowStartedAt : Int
  expiresAt : Int
  attemptCount : Nat

structure Db where
  server : Option ServerInstanceRow
  accounts : Table UserAccountRow
  devices : Table DeviceRow
  sessions : Table UserSessionRow
  invitations : Table AccountInvitationRow
  receipts : Table AccountRegistrationReceiptRow
  links : Table AccountProvisioningLinkRow
  operations : Table AccountProvisioningOperationReceiptRow
  windows : Dict String AccountProvisioningRateWindowRow

/-! ## the service's parameters -/

/-- A request of `create_invitation`, after `normalize_account_display_name`. -/
structure CreateBody where
  operationId : Uuid
  accountDisplayName : String
  expiresInSeconds : Int

/-- A request of `cancel_invitation` or `disable_account`. -/
structure LifecycleBody where
  operationId : Uuid
  other : String

/-- A request of `redeem`. -/
structure RedeemBody where
  invitationId : Uuid
  registrationId : Uuid
  bindingCommitId : Uuid
  invitationSecret : String
  requestSha256 : String
  devicePublicKeySpki : String
  deviceKeyThumbprintSha256 : String
  deviceSignature : String
  nextRefreshTokenSha256 : String
  deviceName : String
  appVersion : String
  expectedServerInstanceId : Uuid
  expectedIdentityEpoch : Int
  expectedIdentityThumbprintSha256 : String
  expectedApiOrigin : String
  expectedStreamOrigin : String
  expectedAccountDisplayName : String

/-- The digests, the signature check, the tokens and the settings. -/
structure Authority where
  createSha256 : CreateBody → String
  lifecycleSha256 : LifecycleBody → String
  /-- `canonical_sha256` of a request, without its hash and its signature. -/
  requestSha256 : RedeemBody → String
  secretSha256 : String → String
  keyThumbprint : String → Option String
  verify : String → String → String → Bool
  isDigest : String → Bool
  accessToken : Principal → Uuid → Int → Int → String
  accessTtl : Int
  deviceLimit : Nat
  rateKey : String → String → String

inductive Error
  | unavailable
  | unauthorized
  | operationConflict
  | invitationLimitReached
  | notFound
  | registrationConflict
  | accountLimitReached
  | accountDeviceLimitReached
  | registrationRateLimited
  | database
  deriving DecidableEq, Repr

def require (p : Prop) [Decidable p] (e : Error) : Except Error Unit := if p then .ok () else .error e

theorem require_ok {p : Prop} [Decidable p] {e : Error} {u : Unit} : require p e = .ok u ↔ p := by
  unfold require
  split
  · rename_i hp
    exact ⟨fun _ => hp, fun _ => rfl⟩
  · rename_i hp
    exact ⟨fun h => (by cases h), fun h => absurd h hp⟩

/-- The row, or an error. -/
def found {α : Type} (row : Option α) (e : Error) : Except Error α := row.elim (.error e) .ok

theorem found_ok {α : Type} {row : Option α} {e : Error} {r : α} : found row e = .ok r ↔ row = some r := by
  unfold found
  cases row with
  | none => exact ⟨fun h => (by cases h), fun h => (by cases h)⟩
  | some r' =>
    constructor
    · intro h
      cases h
      rfl
    · intro h
      cases h
      rfl

/-- A statement, whose constraints may refuse it. -/
def stored {α : Type} (row : Except Constraint α) : Except Error α := row.mapError fun _ => .database

def seconds (n : Int) : Int := n * 1000000

def minutes (n : Int) : Int := seconds (60 * n)

def days (n : Int) : Int := seconds (86400 * n)

/-- `_SESSION_TTL` -/
def sessionTtl : Int := days 90

/-! ## the owner -/

/-- `_require_bootstrap_owner`: the only active owner, on a live session of its own. -/
def requireBootstrapOwner (now : Int) (actor : Principal) (db : Db) : Except Error ServerInstanceRow := do
  require (actor.role = .owner) .unauthorized
  let server ← found db.server .unavailable
  require ((db.accounts.rows.filter fun a => a.role = .owner && a.status = "ACTIVE" && a.deletedAt = none).map
    (·.userId) = [actor.userId]) .unauthorized
  require ((∃ device ∈ db.devices.find actor.deviceId, device.userId = actor.userId ∧ device.revokedAt = none) ∧
    ∃ credential ∈ db.sessions.find actor.sessionId, credential.userId = actor.userId ∧
      credential.deviceId = actor.deviceId ∧ credential.revokedAt = none ∧ now < credential.expiresAt) .unauthorized
  .ok server

/-- `_exact_operation`; a creation has no target to compare. -/
def exactOperation (row : AccountProvisioningOperationReceiptRow) (actor : Uuid) (action : Action) (digest : String)
    (target : Option Uuid) : Except Error Unit :=
  require (row.actorUserId = actor ∧ row.action = action ∧ row.commandSha256 = digest ∧
    ∀ t ∈ target, row.targetId = t) .operationConflict

/-! ## attempts -/

/-- `_consume_rate` -/
def consumeRate (key : String) (maximum : Nat) (window now : Int) (db : Db) : Bool × Db :=
  let row : AccountProvisioningRateWindowRow :=
    match db.windows.get? key with
    | none => ⟨now, now + window, 1⟩
    | some row =>
      if row.expiresAt ≤ now then ⟨now, now + window, 1⟩
      else { row with attemptCount := row.attemptCount + 1 }
  (decide (maximum < row.attemptCount), { db with windows := db.windows.set key row })

section
variable (P : Authority)

/-- `_issue_gate`; the count stays, whatever it says. -/
def issueGate (now clock : Int) (actor : Principal) (db : Db) : Except Error (Bool × Db) := do
  let _ ← requireBootstrapOwner clock actor db
  .ok (consumeRate (P.rateKey "ISSUE_OWNER" actor.userId.text) 10 (minutes 60) now db)

/-- `_redeem_gates` -/
def redeemGates (now : Int) (invitationId : Uuid) (source : Option String) (db : Db) : Bool × Db :=
  let first := consumeRate (P.rateKey "REDEEM_SERVER" "server") 30 (minutes 15) now db
  let second := match source with
    | none => (false, first.2)
    | some s => consumeRate (P.rateKey "REDEEM_SOURCE" s) 10 (minutes 15) now first.2
  let third := consumeRate (P.rateKey "REDEEM_INVITATION" invitationId.text) 5 (minutes 15) now second.2
  (third.1 || second.1 || first.1, third.2)

/-! ## invitations -/

/-- Neither cancelled, consumed nor expired. -/
def IsActive (now : Int) (i : AccountInvitationRow) : Prop :=
  i.cancelledAt = none ∧ i.consumedAt = none ∧ now < i.expiresAt

instance (now : Int) (i : AccountInvitationRow) : Decidable (IsActive now i) :=
  inferInstanceAs (Decidable (_ ∧ _ ∧ _))

/-- A repeat sees the invitation without its secret. -/
inductive Issued
  | new (invitation : AccountInvitationRow) (secret : String)
  | replayed (invitation : AccountInvitationRow)

/-- `create_invitation`, from its operation on: a repeat, or one more invitation. -/
def createApply (now clock : Int) (actor : Principal) (body : CreateBody) (invitationId : Uuid) (secret : String)
    (db : Db) : Except Error (Issued × Db) := do
  let _ ← requireBootstrapOwner clock actor db
  match db.operations.find body.operationId with
  | some existing => do
    exactOperation existing actor.userId .create (P.createSha256 body) none
    let invitation ← found (db.invitations.find existing.targetId) .unavailable
    .ok (.replayed invitation, db)
  | none => do
    require (db.invitations.rows.countP (fun i => IsActive now i) < 5) .invitationLimitReached
    let row : AccountInvitationRow := ⟨invitationId, some actor.userId, body.accountDisplayName,
      P.secretSha256 secret, now, now + seconds body.expiresInSeconds, none, none⟩
    require (row.issuedAt < row.expiresAt) .database
    let invitations ← stored (db.invitations.insert row)
    let operations ← stored (db.operations.insert ⟨body.operationId, actor.userId, .create, invitationId,
      P.createSha256 body, none, now⟩)
    .ok (.new row secret, { db with invitations := invitations, operations := operations })

/-- A cancellation leaves a consumed or cancelled invitation alone. -/
def cancelRow (now : Int) (row : AccountInvitationRow) : AccountInvitationRow :=
  if row.cancelledAt = none ∧ row.consumedAt = none then { row with cancelledAt := some now } else row

/-- `_lifecycle` of an invitation, without its receipt. -/
def cancelTarget (now : Int) (actor : Principal) (targetId : Uuid) (db : Db) : Except Error (Outcome × Db) := do
  let row ← found (db.invitations.find targetId) .notFound
  require (row.issuedByUserId = some actor.userId) .notFound
  let invitations ← stored (db.invitations.update (cancelRow now row))
  .ok (if (cancelRow now row).cancelledAt = some now then .applied else .alreadyTerminal,
    { db with invitations := invitations })

/-- `_lifecycle` of an account, without its receipt: its sessions are revoked. -/
def disableTarget (now : Int) (actor : Principal) (targetId : Uuid) (db : Db) : Except Error (Outcome × Db) := do
  let link ← found (db.links.find targetId) .notFound
  let account ← found (db.accounts.find targetId) .notFound
  require (link.issuedByUserId = some actor.userId) .notFound
  if account.status = "ACTIVE" ∨ account.status = "DELETION_PENDING" then do
    let accounts ← stored (db.accounts.update { account with status := "DISABLED", updatedAt := now })
    .ok (.applied, { db with
      accounts := accounts
      sessions := db.sessions.updateWhere (fun s => s.userId = targetId ∧ s.revokedAt = none)
        fun s => { s with revokedAt := some now } })
  else .ok (.alreadyTerminal, db)

/-- The target of a lifecycle command. -/
def endTarget (now : Int) (cancels : Bool) (actor : Principal) (targetId : Uuid) (db : Db) :
    Except Error (Outcome × Db) :=
  if cancels then cancelTarget now actor targetId db else disableTarget now actor targetId db

/-- `_lifecycle` -/
def lifecycle (now clock : Int) (cancels : Bool) (actor : Principal) (targetId : Uuid) (body : LifecycleBody)
    (db : Db) : Except Error (Lifecycle × Db) := do
  let action : Action := if cancels then .cancel else .disable
  let _ ← requireBootstrapOwner clock actor db
  match db.operations.find body.operationId with
  | some existing => do
    exactOperation existing actor.userId action (P.lifecycleSha256 body) (some targetId)
    let result ← found existing.resultJson .unavailable
    .ok (result, db)
  | none => do
    let r ← endTarget now cancels actor targetId db
    let result : Lifecycle := ⟨body.operationId, action, targetId, r.1, now⟩
    let operations ← stored (r.2.operations.insert ⟨body.operationId, actor.userId, action, targetId,
      P.lifecycleSha256 body, some result, now⟩)
    .ok (result, { r.2 with operations := operations })

/-! ## registrations -/

/-- The hash, the key's thumbprint and the signature of a request, and the form of its refresh hash. -/
structure Checked where
  secretHash : String
  requestHash : String
  thumb : String
  deriving DecidableEq

def checkRequest (body : RedeemBody) : Except Error Checked := do
  require (P.requestSha256 body = body.requestSha256) .unavailable
  let thumb ← found (P.keyThumbprint body.devicePublicKeySpki) .unavailable
  require (thumb = body.deviceKeyThumbprintSha256) .unavailable
  require (P.verify body.devicePublicKeySpki (P.requestSha256 body) body.deviceSignature = true) .unavailable
  require (P.isDigest body.nextRefreshTokenSha256 = true) .unavailable
  .ok ⟨P.secretSha256 body.invitationSecret, P.requestSha256 body, thumb⟩

/-- `_matches_server` -/
def MatchesServer (body : RedeemBody) (server : ServerInstanceRow) (displayName : String) : Prop :=
  body.expectedServerInstanceId = server.serverInstanceId ∧ body.expectedIdentityEpoch = server.identityEpoch ∧
    body.expectedIdentityThumbprintSha256 = server.identityThumbprintSha256 ∧
      body.expectedApiOrigin = server.apiOrigin ∧ body.expectedStreamOrigin = server.streamOrigin ∧
        body.expectedAccountDisplayName = displayName

instance (body : RedeemBody) (server : ServerInstanceRow) (displayName : String) :
    Decidable (MatchesServer body server displayName) :=
  inferInstanceAs (Decidable (_ ∧ _ ∧ _ ∧ _ ∧ _ ∧ _))

structure RegistrationResponse where
  registrationId : Uuid
  bindingCommitId : Uuid
  serverInstanceId : Uuid
  userId : Uuid
  accountDisplayName : String
  deviceId : Uuid
  sessionId : Uuid
  refreshAbsoluteExpiresAt : Int
  receiptExpiresAt : Int
  accessToken : String
  accessExpiresAt : Int
  replayed : Bool

/-- The account, the device and the session of a receipt are live, and the receipt is not expired. -/
def IsLive (clock : Int) (receipt : AccountRegistrationReceiptRow) (account : UserAccountRow) (device : DeviceRow)
    (s : UserSessionRow) : Prop :=
  (account.status = "ACTIVE" ∧ account.deletedAt = none) ∧
    (device.userId = account.userId ∧ s.userId = account.userId ∧ s.deviceId = device.deviceId) ∧
      (device.revokedAt = none ∧ s.revokedAt = none ∧ clock < s.expiresAt ∧ clock < receipt.receiptExpiresAt)

instance (clock : Int) (receipt : AccountRegistrationReceiptRow) (account : UserAccountRow) (device : DeviceRow)
    (s : UserSessionRow) : Decidable (IsLive clock receipt account device s) :=
  inferInstanceAs (Decidable ((_ ∧ _) ∧ (_ ∧ _ ∧ _) ∧ _ ∧ _ ∧ _ ∧ _))

/-- `_registration_response` -/
def registrationResponse (clock : Int) (tokenId : Uuid) (receipt : AccountRegistrationReceiptRow)
    (server : ServerInstanceRow) (replayed : Bool) (db : Db) : Except Error RegistrationResponse := do
  let account ← found (db.accounts.find receipt.userId) .unavailable
  let device ← found (db.devices.find receipt.deviceId) .unavailable
  let s ← found (db.sessions.find receipt.sessionId) .unavailable
  require (IsLive clock receipt account device s) .unavailable
  .ok ⟨receipt.registrationId, receipt.bindingCommitId, server.serverInstanceId, account.userId,
    account.displayName, device.deviceId, s.sessionId, s.expiresAt, receipt.receiptExpiresAt,
    P.accessToken ⟨account.userId, device.deviceId, s.sessionId, .user⟩ tokenId clock (clock + P.accessTtl),
    clock + P.accessTtl, replayed⟩

/-- The fresh identifiers of a registration. -/
structure Fresh where
  userId : Uuid
  deviceId : Uuid
  sessionId : Uuid
  tokenId : Uuid

/-- The receipt of a registration. -/
def newReceipt (now : Int) (body : RedeemBody) (c : Checked) (fresh : Fresh) : AccountRegistrationReceiptRow :=
  ⟨body.registrationId, body.invitationId, c.secretHash, c.requestHash, c.thumb, fresh.userId, fresh.deviceId,
    fresh.sessionId, body.bindingCommitId, now + sessionTtl + minutes 5, now⟩

/-- The rows of a registration. -/
def register (now : Int) (body : RedeemBody) (c : Checked) (fresh : Fresh) (invitation : AccountInvitationRow)
    (db : Db) : Except Error Db := do
  let accounts ← stored (db.accounts.insert ⟨fresh.userId, invitation.displayName, .user, "ACTIVE", none, now⟩)
  require (db.devices.rows.countP (fun d => d.userId = fresh.userId && d.revokedAt = none) < P.deviceLimit)
    .accountDeviceLimitReached
  let devices ← stored (db.devices.insert ⟨fresh.deviceId, fresh.userId, body.deviceName, body.appVersion,
    body.devicePublicKeySpki, c.thumb, none⟩)
  let sessions ← stored (db.sessions.insert ⟨fresh.sessionId, fresh.userId, fresh.deviceId,
    body.nextRefreshTokenSha256, now + sessionTtl, none⟩)
  let invitations ← stored (db.invitations.update { invitation with consumedAt := some now })
  let links ← stored (db.links.insert ⟨fresh.userId, invitation.invitationId, invitation.issuedByUserId, now⟩)
  let receipts ← stored (db.receipts.insert (newReceipt now body c fresh))
  .ok { db with
    accounts := accounts
    devices := devices
    sessions := sessions
    invitations := invitations
    links := links
    receipts := receipts }

/-- A registration of an invitation that the request may redeem. -/
def redeemNew (now clock : Int) (body : RedeemBody) (c : Checked) (fresh : Fresh) (server : ServerInstanceRow)
    (db : Db) : Except Error (RegistrationResponse × Db) := do
  let invitation ← found (db.invitations.find body.invitationId) .unavailable
  require (invitation.secretSha256 = c.secretHash ∧ IsActive now invitation) .unavailable
  require (MatchesServer body server invitation.displayName) .unavailable
  require (db.accounts.rows.countP (fun a => a.status = "ACTIVE") < 20) .accountLimitReached
  let db' ← register P now body c fresh invitation db
  let response ← registrationResponse P clock fresh.tokenId (newReceipt now body c fresh) server false db'
  .ok (response, db')

/-- `redeem`, after its gates: a repeat by its receipt, or a registration. -/
def redeemApply (now clock : Int) (body : RedeemBody) (fresh : Fresh) (db : Db) :
    Except Error (RegistrationResponse × Db) := do
  let c ← checkRequest P body
  let server ← found db.server .unavailable
  match db.receipts.find body.registrationId with
  | some receipt => do
    require (receipt.requestSha256 = c.requestHash ∧ receipt.invitationSecretSha256 = c.secretHash ∧
      receipt.deviceKeyThumbprintSha256 = c.thumb) .registrationConflict
    let response ← registrationResponse P clock fresh.tokenId receipt server true db
    .ok (response, db)
  | none => redeemNew P now clock body c fresh server db

end

/-! ## cleanup -/

/-- The first rows of a condition, in the order of a column. -/
def batch {α : Type} (rows : List α) (due : α → Bool) (column : α → Int) (limit : Nat) : List α :=
  ((rows.filter due).mergeSort fun a b => column a ≤ column b).take limit

/-- A cancelled or expired invitation that was never consumed, a month ago. -/
def Purgeable (now : Int) (db : Db) (i : AccountInvitationRow) : Prop :=
  i.consumedAt = none ∧ i.cancelledAt.getD i.expiresAt ≤ now - days 30 ∧
    (∀ r ∈ db.receipts.rows, r.invitationId ≠ i.invitationId) ∧ ∀ l ∈ db.links.rows, l.invitationId ≠ i.invitationId

instance (now : Int) (db : Db) (i : AccountInvitationRow) : Decidable (Purgeable now db i) :=
  inferInstanceAs (Decidable (_ ∧ _ ∧ _ ∧ _))

/-- `cleanup_expired_public_access`; `free` are the invitations that no one has locked. -/
def cleanup (now : Int) (limit : Nat) (free : Uuid → Bool) (db : Db) : Db :=
  let receipts : List Uuid :=
    (batch db.receipts.rows (fun r => r.receiptExpiresAt ≤ now) (fun r => r.receiptExpiresAt) limit).map
      fun r => r.registrationId
  let db₁ : Db := { db with receipts := db.receipts.eraseWhere fun r => receipts.contains r.registrationId }
  let windows : List String :=
    (batch db₁.windows.items (fun e => e.2.expiresAt ≤ now) (fun e => e.2.expiresAt)
      (limit - receipts.length)).map fun e => e.1
  let db₂ : Db := { db₁ with windows := db₁.windows.filter fun k _ => !windows.contains k }
  let invitations : List Uuid :=
    (batch db₂.invitations.rows (fun i => Purgeable now db₂ i && free i.invitationId) (fun i => i.expiresAt)
      (limit - receipts.length - windows.length)).map fun i => i.invitationId
  { db₂ with invitations := db₂.invitations.eraseWhere fun i => invitations.contains i.invitationId }

end AutPlay.PublicAccess
