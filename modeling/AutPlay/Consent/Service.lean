import Mathlib.Data.String.Basic
import AutPlay.Auth.Sessions
import AutPlay.Evidence.Consent

/-!
# Training consent

The service over two stores: the ledger of intents, which only grows, and the database, whose last
transaction may be lost and which may be replaced by a backup.

* `Ledger.record`       the ledger's call, on what its chain says;
* `provenGrant`         a stored grant that is the owner's latest intent;
* `decide`              one decision: replay, or intent first and rows then;
* `requireGranted`, `get`
* `guardAccount`, `guardBatch`   `restore_guard`, one account and one transaction.

The digests, the tags and the fresh identifiers are parameters.  Training contributions are not part of
this model, nor is the isolation level of a transaction.
-/

set_option linter.unusedSectionVars false

namespace AutPlay.Consent

open AutPlay.Sync (Uuid)
open AutPlay.Auth (UserAccountRow DeviceRow UserSessionRow Principal)
open AutPlay.Evidence

/-! ## the ledger -/

/-- What the chain says, and how many events it has. -/
structure Ledger where
  history : TrainingConsentHistory
  count : Nat

/-- `record`; `none` is `TrainingConsentEvidenceError`. -/
def Ledger.record (ledger : Ledger) (intent : TrainingConsentIntent) : Option Ledger :=
  (recordConsent intent ledger.history ledger.count zero).bind fun p =>
    match p.1 with
    | none => some ledger
    | some e => (applyConsent ledger.history e).map fun history => ⟨history, ledger.count + 1⟩

/-! ## rows -/

structure TrainingConsentRow where
  decision : ConsentDecision
  revision : Int
  policyVersion : Int
  changedAt : Int
  deriving DecidableEq

structure TrainingConsentOperationRow where
  userId : Uuid
  actorDeviceId : Uuid
  requestSha256 : String
  appliedDecision : ConsentDecision
  appliedRevision : Int
  createdAt : Int
  deriving DecidableEq

/-- The tables, each by its primary key. -/
structure Db where
  accounts : Dict Uuid UserAccountRow
  devices : Dict Uuid DeviceRow
  sessions : Dict Uuid UserSessionRow
  consents : Dict Uuid TrainingConsentRow
  operations : Dict Uuid TrainingConsentOperationRow

/-! ## the service's parameters -/

/-- What `decide` is sent; a field is `none` where it is not of its type. -/
structure Body where
  exactFields : Bool
  operationId : Option Uuid
  accountId : Option Uuid
  expectedRevision : Option Int
  policyVersion : Option Int
  decision : Option ConsentDecision
  deriving DecidableEq

/-- The policy of an account; no decision is `UNKNOWN`. -/
structure View where
  accountId : Uuid
  decision : Option ConsentDecision
  revision : Int
  changedAt : Option Int
  deriving DecidableEq

structure Result where
  view : View
  operationId : Uuid
  appliedRevision : Int
  appliedDecision : ConsentDecision
  deriving DecidableEq

/-- The ledger's tags, and `canonical_sha256(..).hex()` of the documents. -/
structure Digests where
  ownerTag : Uuid → String
  actorTag : Uuid → String
  bodySha256 : Body → String
  viewSha256 : View → String
  barrierSha256 : Uuid → String → String
  ownerTag_injective : Function.Injective ownerTag

/-- Every digest and every tag is 64 hexadecimal digits. -/
structure Digests.Hex (S : Digests) : Prop where
  ownerTag : ∀ u, isDigest (S.ownerTag u) = true
  actorTag : ∀ d, isDigest (S.actorTag d) = true
  body : ∀ b, isDigest (S.bodySha256 b) = true
  view : ∀ v, isDigest (S.viewSha256 v) = true
  barrier : ∀ o p, isDigest (S.barrierSha256 o p) = true

inductive Error
  | unavailable
  | authAttentionRequired
  | invalid
  | operationConflict
  | restoreAttention
  | revisionConflict
  | required
  | evidence
  | database
  deriving DecidableEq, Repr

def require (p : Prop) [Decidable p] (e : Error) : Except Error Unit := if p then .ok () else .error e

theorem require_ok {p : Prop} [Decidable p] {e : Error} {u : Unit} : require p e = .ok u ↔ p := by
  unfold require
  split
  · rename_i hp
    exact ⟨fun _ => hp, fun _ => rfl⟩
  · rename_i hp
    exact ⟨fun h => (by cases h), fun h => absurd h hp⟩

theorem require_error {p : Prop} [Decidable p] {e e' : Error} :
    require p e = .error e' ↔ ¬ p ∧ e' = e := by
  unfold require
  split
  · rename_i hp
    exact ⟨fun h => (by cases h), fun h => absurd hp h.1⟩
  · rename_i hp
    refine ⟨fun h => ?_, fun h => by rw [h.2]⟩
    cases h
    exact ⟨hp, rfl⟩

section
variable (S : Digests)

/-! ## reading -/

/-- `lock_account` -/
def lockAccount (db : Db) (userId : Uuid) : Except Error UserAccountRow :=
  match db.accounts.get? userId with
  | none => .error .unavailable
  | some account =>
    if account.status ≠ "ACTIVE" ∨ account.deletedAt ≠ none then .error .unavailable else .ok account

/-- The device and the session of a principal are its own, and neither revoked nor expired. -/
def IsActor (db : Db) (now : Int) (principal : Principal) (account : UserAccountRow) : Prop :=
  principal.role = account.role ∧
    (∃ device ∈ db.devices.get? principal.deviceId,
      device.userId = principal.userId ∧ device.revokedAt = none) ∧
    ∃ credential ∈ db.sessions.get? principal.sessionId,
      credential.userId = principal.userId ∧ credential.deviceId = principal.deviceId ∧
        credential.sessionMode = .v2 ∧ credential.revokedAt = none ∧ now < credential.expiresAt

instance (db : Db) (now : Int) (principal : Principal) (account : UserAccountRow) :
    Decidable (IsActor db now principal account) :=
  inferInstanceAs (Decidable (_ ∧ _ ∧ _))

/-- `_actor` -/
def checkActor (db : Db) (now : Int) (principal : Principal) : Except Error Unit := do
  let account ← lockAccount db principal.userId
  require (IsActor db now principal account) .authAttentionRequired

def view (userId : Uuid) (row : Option TrainingConsentRow) : View :=
  ⟨userId, row.map (·.decision), (row.map (·.revision)).getD 0, row.map (·.changedAt)⟩

/-- `_proven_grant` -/
def ProvenGrant (db : Db) (userId : Uuid) (row : TrainingConsentRow) (history : TrainingConsentHistory) : Prop :=
  ∃ intent ∈ history.latest.get? (S.ownerTag userId), intent.decision = .granted ∧
    ∃ tag ∈ intent.actorTag, ∃ receipt ∈ db.operations.get? intent.operationId,
      receipt.userId = userId ∧ S.actorTag receipt.actorDeviceId = tag ∧
        receipt.requestSha256 = intent.requestSha256 ∧
          (receipt.appliedDecision = intent.decision ∧ intent.decision = row.decision) ∧
            (receipt.appliedRevision = intent.revision ∧ intent.revision = row.revision) ∧
              (receipt.createdAt = intent.changedAt ∧ intent.changedAt = row.changedAt) ∧
                row.policyVersion = 1

instance (db : Db) (userId : Uuid) (row : TrainingConsentRow) (history : TrainingConsentHistory) :
    Decidable (ProvenGrant S db userId row history) := by
  unfold ProvenGrant
  infer_instance

/-- `_require_evidence`, of a row that says granted. -/
def requireEvidence (db : Db) (userId : Uuid) (row : Option TrainingConsentRow)
    (history : TrainingConsentHistory) : Except Error Unit :=
  require (∀ r ∈ row, r.decision = .granted → ProvenGrant S db userId r history) .restoreAttention

/-- `get` -/
def get (now : Int) (principal : Principal) (db : Db) (ledger : Ledger) : Except Error View := do
  checkActor db now principal
  requireEvidence S db principal.userId (db.consents.get? principal.userId) ledger.history
  .ok (view principal.userId (db.consents.get? principal.userId))

/-- `require_granted` -/
def requireGranted (userId : Uuid) (expectedRevision : Int) (db : Db) (ledger : Ledger) :
    Except Error Unit := do
  let _ ← lockAccount db userId
  match db.consents.get? userId with
  | none => .error .required
  | some row =>
    if row.decision ≠ .granted ∨ row.revision ≠ expectedRevision ∨ row.policyVersion ≠ 1 then
      .error .required
    else require (ProvenGrant S db userId row ledger.history) .restoreAttention

/-! ## deciding -/

/-- A command that was accepted for a decision. -/
structure Command where
  operation : Uuid
  revision : Int
  decision : ConsentDecision
  requestHash : String

/-- The checks on the body. -/
def checkBody (principal : Principal) (body : Body) : Except Error Command := do
  require (body.exactFields = true) .invalid
  let account ← body.accountId.elim (.error .invalid) .ok
  require (account = principal.userId) .unavailable
  let operation ← body.operationId.elim (.error .invalid) .ok
  let revision ← body.expectedRevision.elim (.error .invalid) .ok
  let policy ← body.policyVersion.elim (.error .invalid) .ok
  let decision ← body.decision.elim (.error .invalid) .ok
  require (0 ≤ revision ∧ revision < maxRevision ∧ policy = 1) .invalid
  .ok ⟨operation, revision, decision, S.bodySha256 body⟩

/-- An operation that the ledger knows was the same command. -/
def checkKnown (principal : Principal) (c : Command) (known : Option TrainingConsentIntent) :
    Except Error Unit :=
  require (∀ i ∈ known, i.ownerTag = S.ownerTag principal.userId ∧
    i.actorTag = some (S.actorTag principal.deviceId) ∧ i.requestSha256 = c.requestHash) .operationConflict

/-- What a decision comes to. -/
inductive Plan
  | answer (result : Result)
  | perform (applied : ConsentDecision) (intent : TrainingConsentIntent) (known : Bool)

/-- `_result` -/
def result (userId : Uuid) (row : Option TrainingConsentRow) (operation : Uuid)
    (receipt : TrainingConsentOperationRow) : Result :=
  ⟨view userId row, operation, receipt.appliedRevision, receipt.appliedDecision⟩

/-- A repeat: the receipt is of this command, and agrees with the ledger. -/
def replay (principal : Principal) (c : Command) (db : Db) (history : TrainingConsentHistory)
    (receipt : TrainingConsentOperationRow) : Except Error Plan := do
  require (receipt.userId = principal.userId ∧ receipt.actorDeviceId = principal.deviceId ∧
    receipt.requestSha256 = c.requestHash) .operationConflict
  require (∃ i ∈ history.operations.get? c.operation, receipt.appliedDecision = i.decision ∧
    receipt.appliedRevision = i.revision ∧ receipt.createdAt = i.changedAt) .restoreAttention
  requireEvidence S db principal.userId (db.consents.get? principal.userId) history
  .ok (.answer (result principal.userId (db.consents.get? principal.userId) c.operation receipt))

/-- A stale refusal can only make the account more private. -/
def appliedDecision (decision : ConsentDecision) (row : Option TrainingConsentRow) : ConsentDecision :=
  if decision ≠ .granted ∧ ∃ r ∈ row, r.decision = .granted ∨ r.decision = .withdrawn then .withdrawn
  else decision

def currentRevision (row : Option TrainingConsentRow) : Int := (row.map (·.revision)).getD 0

/-- A decision without a receipt: new, or with an intent whose transaction was lost. -/
def planNew (now : Int) (principal : Principal) (c : Command) (db : Db) (history : TrainingConsentHistory) :
    Except Error Plan :=
  let row := db.consents.get? principal.userId
  let known := history.operations.get? c.operation
  let previousHash := S.viewSha256 (view principal.userId row)
  let applied := appliedDecision c.decision row
  let intent : TrainingConsentIntent :=
    ⟨S.ownerTag principal.userId, c.operation, some (S.actorTag principal.deviceId), c.requestHash,
      previousHash, applied, currentRevision row + 1, now⟩
  do
    require (∀ i ∈ known, history.latest.get? i.ownerTag = some i ∧
      i.revision = currentRevision row + 1 ∧ i.previousPolicySha256 = previousHash) .restoreAttention
    require (currentRevision row < maxRevision ∧ (c.decision = .granted →
      currentRevision row = c.revision ∧ currentRevision row < maxRevision - 1)) .revisionConflict
    require (known = none → c.decision = .granted → ∀ r ∈ row, r.decision = .granted →
      ProvenGrant S db principal.userId r history) .restoreAttention
    require (∀ i ∈ known, i.decision = applied) .restoreAttention
    .ok (.perform applied (known.getD intent) known.isSome)

def planDecide (now : Int) (principal : Principal) (body : Body) (db : Db) (ledger : Ledger) :
    Except Error Plan := do
  let c ← checkBody S principal body
  checkActor db now principal
  checkKnown S principal c (ledger.history.operations.get? c.operation)
  match db.operations.get? c.operation with
  | some receipt => replay S principal c db ledger.history receipt
  | none => planNew S now principal c db ledger.history

/-- What an attempt leaves behind, if its transaction is committed. -/
structure Attempt where
  outcome : Except Error Result
  ledger : Ledger
  db : Db

/-- The row of a decision; the trigger refuses one that goes back in time. -/
def nextRow (row : Option TrainingConsentRow) (applied : ConsentDecision) (now : Int) :
    Option TrainingConsentRow :=
  match row with
  | none => some ⟨applied, 1, 1, now⟩
  | some r => if r.changedAt ≤ now then some ⟨applied, r.revision + 1, r.policyVersion, now⟩ else none

/-- The rows of a decision, after its intent. -/
def commitRows (principal : Principal) (intent : TrainingConsentIntent) (applied : ConsentDecision)
    (db : Db) (ledger : Ledger) : Attempt :=
  let row := db.consents.get? principal.userId
  match nextRow row applied intent.changedAt with
  | none => ⟨.error .database, ledger, db⟩
  | some row' =>
    let receipt : TrainingConsentOperationRow :=
      ⟨principal.userId, principal.deviceId, intent.requestSha256, applied, currentRevision row + 1,
        intent.changedAt⟩
    ⟨.ok (result principal.userId (some row') intent.operationId receipt), ledger,
      { db with
        consents := db.consents.set principal.userId row'
        operations := db.operations.set intent.operationId receipt }⟩

/-- `decide`: the intent comes first, and stays whatever becomes of the rows. -/
def decide (now : Int) (principal : Principal) (body : Body) (db : Db) (ledger : Ledger) : Attempt :=
  match planDecide S now principal body db ledger with
  | .error e => ⟨.error e, ledger, db⟩
  | .ok (.answer r) => ⟨.ok r, ledger, db⟩
  | .ok (.perform applied intent true) => commitRows principal intent applied db ledger
  | .ok (.perform applied intent false) =>
    match ledger.record intent with
    | none => ⟨.error .evidence, ledger, db⟩
    | some ledger' => commitRows principal intent applied db ledger'

/-! ## after a restore -/

/-- The fresh values of one transaction: an identifier and the clock, for each account. -/
structure Fresh where
  operation : Uuid → Uuid
  now : Uuid → Int

/-- The grant of an active account that its latest intent proves. -/
def Stays (db : Db) (userId : Uuid) (row : Option TrainingConsentRow) (history : TrainingConsentHistory) : Prop :=
  (∃ account ∈ db.accounts.get? userId, account.status = "ACTIVE" ∧ account.deletedAt = none) ∧
    ∃ r ∈ row, r.decision = .granted ∧ ProvenGrant S db userId r history

instance (db : Db) (userId : Uuid) (row : Option TrainingConsentRow) (history : TrainingConsentHistory) :
    Decidable (Stays S db userId row history) := by
  unfold Stays
  infer_instance

/-- Neither the row nor the ledger has a grant. -/
def Private (row : Option TrainingConsentRow) (latest : Option TrainingConsentIntent) : Prop :=
  (∃ r ∈ row, r.decision ≠ .granted) ∧ ∀ i ∈ latest, i.decision ≠ .granted

instance (row : Option TrainingConsentRow) (latest : Option TrainingConsentIntent) :
    Decidable (Private row latest) :=
  inferInstanceAs (Decidable (_ ∧ _))

/-- The intent of the system: no device made it. -/
def barrier (fresh : Fresh) (userId : Uuid) (row : Option TrainingConsentRow) (decision : ConsentDecision)
    (now : Int) : TrainingConsentIntent :=
  let previousHash := S.viewSha256 (view userId row)
  ⟨S.ownerTag userId, fresh.operation userId, none, S.barrierSha256 (fresh.operation userId) previousHash,
    previousHash, decision, min (currentRevision row + 1) maxRevision, now⟩

/-- The private row that takes the place of a grant. -/
def retiredRow (row : Option TrainingConsentRow) (now : Int) : Option TrainingConsentRow :=
  match row with
  | none => some ⟨.denied, 1, 1, now⟩
  | some r => if r.revision < maxRevision then some ⟨.withdrawn, r.revision + 1, r.policyVersion, now⟩ else none

/-- The decision that retires an account, in the ledger if it is not there, and in the row. -/
def retire (fresh : Fresh) (userId : Uuid) (row : Option TrainingConsentRow)
    (latest : Option TrainingConsentIntent) (s : Db × Ledger) : Option (Db × Ledger) :=
  let now := row.elim (fresh.now userId) fun r => max (fresh.now userId) r.changedAt
  let decision := if row = none then .denied else .withdrawn
  (if ∀ i ∈ latest, i.decision = .granted then s.2.record (barrier S fresh userId row decision now)
    else some s.2).map fun ledger' =>
      (match retiredRow row now with
        | some row' => { s.1 with consents := s.1.consents.set userId row' }
        | none => s.1, ledger')

/-- One account of a batch; `policies` and `history` were read at its start. -/
def guardAccount (fresh : Fresh) (policies : Dict Uuid TrainingConsentRow) (history : TrainingConsentHistory)
    (s : Db × Ledger) (userId : Uuid) : Option (Db × Ledger) :=
  let row := policies.get? userId
  let latest := history.latest.get? (S.ownerTag userId)
  if Stays S s.1 userId row history then some s
  else if Private row latest then some s
  else if row = none ∧ latest = none then some s
  else retire S fresh userId row latest s

/-- The accounts after the cursor, in the order of their identifiers. -/
def accountsAfter (db : Db) (cursor : Option Uuid) : List Uuid :=
  ((db.accounts.items.map Prod.fst).filter fun u => cursor.all fun c => c.text < u.text).mergeSort
    fun u v => u.text ≤ v.text

/-- One page of 256 accounts. -/
def guardPage (db : Db) (cursor : Option Uuid) : List Uuid := (accountsAfter db cursor).take 256

/-- The first accounts of a batch, in one transaction. -/
def guardBatch (fresh : Fresh) (users : List Uuid) (db : Db) (ledger : Ledger) : Option (Db × Ledger) :=
  users.foldlM (guardAccount S fresh db.consents ledger.history) (db, ledger)

end

end AutPlay.Consent
