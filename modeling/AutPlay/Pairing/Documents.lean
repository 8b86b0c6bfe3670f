import AutPlay.Lib.Result
import AutPlay.Sync.Uuid

/-!
# The documents of a pairing of two phones

* `Sha256Hex`        a digest as the documents spell it;
* `StartBody`, …     the fields of each kind of request, without its own digest;
* `Request`          a body with the digest that it carries;
* `parseRequest`     what the service checks of a request before it looks at the database;
* `requireOk`        one check of the service.

Identifiers and digests that are not spelled canonically do not exist here: `parse_request` refuses them.
The cryptography, and the reading of a timestamp, are the service's parameters.
-/

set_option linter.unusedSectionVars false

namespace AutPlay.Pairing

open AutPlay.Sync (Uuid isHexLower)

/-- 64 lower case hexadecimal digits. -/
structure Sha256Hex where
  text : String
  canonical : (text.length == 64 && text.toList.all isHexLower) = true
  deriving DecidableEq

inductive SelfPairingError
  | unavailable
  | requestInvalid
  | operationConflict
  | revisionConflict
  | rateLimited
  | keyAlreadyBound
  | accountDeviceLimitReached
  | integrityError
  | valueError
  deriving DecidableEq, Repr

/-- `SelfPairingError.code` -/
def SelfPairingError.code : SelfPairingError → String
  | .unavailable => "self_pairing_unavailable"
  | .requestInvalid => "self_pairing_request_invalid"
  | .operationConflict => "operation_conflict"
  | .revisionConflict => "self_pairing_revision_conflict"
  | .rateLimited => "self_pairing_rate_limited"
  | .keyAlreadyBound => "self_pairing_key_already_bound"
  | .accountDeviceLimitReached => "account_device_limit_reached"
  | .integrityError => "IntegrityError"
  | .valueError => "ValueError"

/-! ## fields -/

/-- The `expected_…` fields: the server the sender believes to talk to. -/
structure Expected where
  serverInstanceId : Uuid
  identityEpoch : Nat
  identityThumbprintSha256 : Sha256Hex
  apiOrigin : String
  streamOrigin : String
  deriving DecidableEq

/-- `COMMON` -/
structure Common where
  contractVersion : String
  schemaVersion : Int
  ceremonyId : Uuid
  requestedAt : String
  expected : Expected
  deriving DecidableEq

structure StartBody where
  common : Common
  operationId : Uuid
  rendezvousSecretSha256 : Sha256Hex
  deriving DecidableEq

structure ClaimBody where
  common : Common
  claimId : Uuid
  pollSecretSha256 : Sha256Hex
  devicePublicKeySpkiB64 : String
  deviceKeyThumbprintSha256 : Sha256Hex
  deviceName : String
  platform : String
  appVersion : String
  deriving DecidableEq

structure PollBody where
  common : Common
  claimId : Uuid
  claimRequestSha256 : Sha256Hex
  deriving DecidableEq

inductive Action
  | approve
  | reject
  | cancel
  deriving DecidableEq, Repr

structure DecisionBody where
  common : Common
  operationId : Uuid
  action : Action
  expectedRevision : Nat
  claimId : Option Uuid
  claimRequestSha256 : Option Sha256Hex
  comparisonCode : Option String
  deriving DecidableEq

structure ExchangeBody where
  common : Common
  exchangeId : Uuid
  bindingCommitId : Uuid
  claimId : Uuid
  claimRequestSha256 : Sha256Hex
  approvalOperationId : Uuid
  confirmedAccountId : Uuid
  nextRefreshTokenSha256 : Sha256Hex
  deriving DecidableEq

/-- What `canonical_sha256` is taken of; the five kinds have different sets of keys. -/
inductive Body
  | start (body : StartBody)
  | claim (body : ClaimBody)
  | poll (body : PollBody)
  | decision (body : DecisionBody)
  | exchange (body : ExchangeBody)
  deriving DecidableEq

/-- A document without its signature (`public_document`): the body and `request_sha256`. -/
structure Request (β : Type) where
  body : β
  requestSha256 : Sha256Hex
  deriving DecidableEq

/-- A document with `device_signature_b64url`. -/
structure Signed (β : Type) where
  document : Request β
  signature : String
  deriving DecidableEq

/-! ## the service's parameters -/

structure Principal where
  userId : Uuid
  deviceId : Uuid
  sessionId : Uuid

/-- What a canonical P-256 key in base64 decodes to, and the digest of that. -/
structure PublicKey where
  der : List UInt8
  thumbprint : Sha256Hex

structure Crypto where
  /-- `canonical_sha256` -/
  canonicalSha256 : Body → Sha256Hex
  /-- `secret_hash`; `none` where it raises -/
  secretHash : String → Option Sha256Hex
  /-- A key that is at most 256 bytes of canonical DER in canonical base64; `none` where it raises. -/
  publicKey : String → Option PublicKey
  /-- `verify_p1363` -/
  verifyP1363 : List UInt8 → String → Sha256Hex → String → Bool
  /-- `requested_at`: the instant that a UTC text stands for. -/
  instant : String → Option Int
  /-- The digest of the payload of `comparison_code`, as its twelve digits. -/
  sas : Uuid → Nat → Uuid → Sha256Hex → Sha256Hex → String

/-! ## checks -/

/-- One check: go on only where the condition holds. -/
def requireOk (e : SelfPairingError) (p : Prop) [Decidable p] : Except SelfPairingError Unit :=
  if p then .ok () else .error e

@[simp] theorem requireOk_eq_ok {e : SelfPairingError} {p : Prop} [Decidable p] {u : Unit} :
    requireOk e p = .ok u ↔ p := by
  unfold requireOk
  by_cases h : p
  · rw [if_pos h]
    exact ⟨fun _ => h, fun _ => rfl⟩
  · rw [if_neg h]
    refine ⟨fun hok => ?_, fun hp => absurd hp h⟩
    cases hok

/-- An optional value, or the exception where there is none. -/
def orRaise {α : Type} (e : SelfPairingError) (x : Option α) : Except SelfPairingError α :=
  match x with
  | none => .error e
  | some a => .ok a

@[simp] theorem orRaise_eq_ok {α : Type} {e : SelfPairingError} {x : Option α} {a : α} :
    orRaise e x = .ok a ↔ x = some a := by
  cases x with
  | none =>
    refine ⟨fun h => ?_, fun h => ?_⟩
    · cases h
    · cases h
  | some b =>
    refine ⟨fun h => ?_, fun h => ?_⟩
    · rw [Except.ok.inj h]
    · rw [Option.some.inj h]
      rfl

section
variable (crypto : Crypto)

def isText (s : String) : Bool := decide (1 ≤ s.length) && decide (s.length ≤ 2048)

def isCount (n : Nat) : Bool := decide (1 ≤ n) && decide (n ≤ 2 ^ 53 - 1)

/-- `[A-Za-z0-9_-]{86}` -/
def isSignature (s : String) : Bool :=
  s.length == 86 && s.toList.all fun c =>
    ('A' ≤ c && c ≤ 'Z') || ('a' ≤ c && c ≤ 'z') || ('0' ≤ c && c ≤ '9') || c == '_' || c == '-'

def Common.valid (common : Common) : Bool :=
  common.contractVersion == "v1" && common.schemaVersion == 1 && isText common.requestedAt &&
    (crypto.instant common.requestedAt).isSome && isCount common.expected.identityEpoch &&
    isText common.expected.apiOrigin && isText common.expected.streamOrigin

/-- The checks on one kind of document; `device_name` counts the characters below 32 as invalid. -/
def Body.valid : Body → Bool
  | .start body => body.common.valid crypto
  | .claim body =>
    body.common.valid crypto && isText body.devicePublicKeySpkiB64 && isText body.deviceName &&
      isText body.appVersion && body.platform == "ANDROID" && decide (body.deviceName.length ≤ 120) &&
      decide (body.appVersion.length ≤ 32) && body.deviceName.toList.all fun c => decide (32 ≤ c.toNat)
  | .poll body => body.common.valid crypto
  | .decision body =>
    body.common.valid crypto && isCount body.expectedRevision && (body.comparisonCode.map isText).getD true
  | .exchange body => body.common.valid crypto

/-- `parse_request`, of a document without signature. -/
def parseRequest (kind : Body) (requestSha256 : Sha256Hex) : Except SelfPairingError Unit :=
  requireOk .requestInvalid
    (kind.valid crypto = true ∧ crypto.canonicalSha256 kind = requestSha256)

/-- `parse_request`, of a document with one. -/
def parseSigned (kind : Body) (requestSha256 : Sha256Hex) (signature : String) :
    Except SelfPairingError Unit :=
  requireOk .requestInvalid
    (kind.valid crypto = true ∧ isSignature signature = true ∧
      crypto.canonicalSha256 kind = requestSha256)

/-- `fresh`: the request is at most two minutes from now. -/
def fresh (requestedAt : String) (now : Int) : Except SelfPairingError Unit :=
  match crypto.instant requestedAt with
  | none => .error .unavailable
  | some requested => requireOk .unavailable ((now - requested).natAbs ≤ 120 * 1000000)

/-- `verify_proof`: the signature of `request_sha256` under the key of a claim. -/
def verifyProof (kind : String) (requestSha256 : Sha256Hex) (signature : String) (claim : ClaimBody) :
    Except SelfPairingError Unit := do
  let key ← orRaise .unavailable (crypto.publicKey claim.devicePublicKeySpkiB64)
  requireOk .unavailable (key.thumbprint = claim.deviceKeyThumbprintSha256)
  requireOk .unavailable
    (crypto.verifyP1363 key.der ("autplay:self-device-pairing:" ++ kind ++ ":v1\n") requestSha256
      signature = true)

end

end AutPlay.Pairing
