import Mathlib.Algebra.Group.Int.Defs
import AutPlay.Binding.Stores

/-!
# Session rotation

* `prepare`, `execute`, `persistSuccessor`   `M5SessionRotationClient` and its two resolvers;
* `rotateM5`, `refreshCurrent`               what runs under the authority lock;
* `access`, `refreshAfterRejection`          the entry points of `RefreshingSessionCredentials`.

An exception stops the operation, whatever its class. What everything else answers during one of them
is a parameter.
-/

set_option linter.unusedSectionVars false

namespace AutPlay.Binding

open AutPlay.Sync (Uuid)

/-! ## what everything else answers -/

/-- The document that the server answers a rotation with. -/
structure RotationDocument where
  contractVersion : String
  schemaVersion : Int
  rotationId : String
  parentSessionId : String
  familyId : String
  generation : Int
  accessToken : String
  sessionId : String

structure RotationResponse where
  code : Nat
  /-- `Cache-Control` has `no-store`, and `Pragma` has `no-cache`. -/
  uncached : Bool
  /-- `none` for a body that is too large, or that is no such document. -/
  document : Option RotationDocument

/-- The resolver of the settings, and the one that the playback has for itself. -/
inductive Resolver
  | settings
  | playback
  deriving DecidableEq

structure Surroundings where
  /-- `accountDeletionVetoes`, by the binding commit. -/
  vetoes : Option String → Bool
  /-- `shouldRefresh`, by the access token. -/
  expiring : String → Bool
  rotation : Option Resolver
  /-- `beforeRequest` returns, and it returns again. -/
  guarded : Bool
  guardedAgain : Bool
  /-- The random successor token and rotation id. -/
  successorToken : String
  rotationId : String
  /-- The key of the device is there. -/
  keyed : String → Bool
  /-- The canonical request with its digest and its signature. -/
  sign : String → List (String × RequestField) → Option String
  /-- `none` when no response comes. -/
  post : String → String → Option RotationResponse
  /-- The answer of `/auth/refresh`. -/
  refresh : String → Option (String × String)

structure M5RotationContext where
  apiOrigin : String
  serverInstanceId : Uuid
  identityEpoch : Int
  deviceId : String
  deviceKeyAlias : String

structure SessionAccess where
  token : String
  generation : Int
  deriving DecidableEq

def SessionCredentialEnvelope.toAccess (e : SessionCredentialEnvelope) : SessionAccess :=
  ⟨e.accessToken, e.generation⟩

/-- `Long` addition of one. -/
def plusOne (n : Int) : Int := if n = 2 ^ 63 - 1 then -2 ^ 63 else n + 1

/-! ## the settings -/

/-- `resolve` -/
def contextOf (profileId : ServerProfileId) (value : NonSecretSettings) : Option M5RotationContext :=
  match value.m5Binding, value.deviceId, value.serverBaseUrl with
  | some checkpoint, some deviceId, some serverBaseUrl =>
    if value.activeServerProfileId ≠ some profileId then none
    else some ⟨serverBaseUrl, checkpoint.serverInstanceId, checkpoint.identityEpoch, deviceId,
      checkpoint.deviceKeyAlias⟩
  | _, _, _ => none

/-- `SettingsM5RotationContextResolver.persistSuccessor`; it raises where a successor does not fit. -/
def persistedBySettings (profileId : ServerProfileId) (successor : SessionCredentialEnvelope)
    (current : NonSecretSettings) : Option NonSecretSettings :=
  match current.m5Binding, successor.sessionGeneration, successor.sessionId with
  | some checkpoint, some generation, some sessionId =>
    if current.activeServerProfileId ≠ some profileId ∨
        successor.bindingCommitId ≠ some checkpoint.bindingCommitId.text ∨
        successor.sessionFamilyId ≠ some checkpoint.sessionFamilyId.text ∨
        generation < checkpoint.sessionGeneration ∨
        (generation = checkpoint.sessionGeneration ∧ sessionId ≠ checkpoint.sessionId.text) then none
    else (checkpoint.withSession sessionId generation).map fun c => { current with m5Binding := some c }
  | _, _, _ => none

/-- The resolver of the playback; it keeps the settings where a successor does not fit. -/
def persistedByPlayback (profileId : ServerProfileId) (successor : SessionCredentialEnvelope)
    (current : NonSecretSettings) : Option NonSecretSettings :=
  match current.m5Binding, successor.sessionGeneration, successor.sessionId with
  | some checkpoint, some generation, some sessionId =>
    if current.activeServerProfileId = some profileId ∧
        successor.bindingCommitId = some checkpoint.bindingCommitId.text ∧
        successor.sessionFamilyId = some checkpoint.sessionFamilyId.text then
      (checkpoint.withSession sessionId generation).map fun c => { current with m5Binding := some c }
    else some current
  | _, _, _ => some current

def persisted : Resolver → ServerProfileId → SessionCredentialEnvelope → NonSecretSettings →
    Option NonSecretSettings
  | .settings => persistedBySettings
  | .playback => persistedByPlayback

/-! ## a rotation -/

section
variable {Material : Type} (P : Platform Material) (around : Surroundings) (profileId : ServerProfileId)

def persistSuccessor (resolver : Resolver) (successor : SessionCredentialEnvelope) :
    Effect (Device Material) PUnit :=
  mutateSettings (persisted resolver profileId successor)

/-- What is signed. -/
def rotationFields (context : M5RotationContext) (parentSessionId : String) (currentGeneration : Int)
    (refreshToken : String) : List (String × RequestField) :=
  [("contract_version", .text "v1"), ("schema_version", .integer 1),
    ("rotation_id", .text around.rotationId),
    ("expected_server_instance_id", .text context.serverInstanceId.text),
    ("expected_identity_epoch", .integer context.identityEpoch), ("device_id", .text context.deviceId),
    ("parent_session_id", .text parentSessionId), ("current_generation", .integer currentGeneration),
    ("current_refresh_token", .text refreshToken),
    ("next_refresh_token_sha256", .text (P.sha256 around.successorToken)),
    ("signature_algorithm", .text "ES256-P1363")]

/-- `copy` of an envelope with a pending rotation. -/
def pendingOf (current : SessionCredentialEnvelope) (request : String) : Option SessionCredentialEnvelope :=
  SessionCredentialEnvelope.init
    { current.toEnvelopeFields with
      refreshPending := true
      m5PendingRotationId := some around.rotationId
      m5PendingRotationRequest := some request
      m5PendingSuccessorRefreshToken := some around.successorToken }

/-- `prepare` -/
def prepare (current : SessionCredentialEnvelope) : Effect (Device Material) SessionCredentialEnvelope := do
  let value ← settingsFirst
  let context ← Effect.require (contextOf profileId value)
  let refreshToken ← Effect.require current.refreshToken
  Effect.check (around.keyed context.deviceKeyAlias = true)
  let parentSessionId ← Effect.require current.sessionId
  let currentGeneration ← Effect.require current.sessionGeneration
  let request ← Effect.require
    (around.sign context.deviceKeyAlias (rotationFields P around context parentSessionId currentGeneration refreshToken))
  Effect.require (pendingOf around current request)

/-- The successor that a response makes of a pending envelope. -/
def successorOf (pending : SessionCredentialEnvelope) (successorToken : String) (response : RotationResponse) :
    Option SessionCredentialEnvelope :=
  if response.code = 429 ∨ (500 ≤ response.code ∧ response.code ≤ 599) then none
  else if response.uncached = false then none
  else
    match response.document, pending.sessionGeneration with
    | some root, some sessionGeneration =>
      if ¬ (200 ≤ response.code ∧ response.code ≤ 299) then none
      else if root.contractVersion ≠ "v1" ∨ root.schemaVersion ≠ 1 ∨
          pending.m5PendingRotationId ≠ some root.rotationId ∨ pending.sessionId ≠ some root.parentSessionId ∨
          pending.sessionFamilyId ≠ some root.familyId ∨ root.generation ≠ plusOne sessionGeneration ∨
          ¬ (32 ≤ utf16Length root.accessToken ∧ utf16Length root.accessToken ≤ 8192) then none
      else
        SessionCredentialEnvelope.init
          { pending.toEnvelopeFields with
            accessToken := root.accessToken
            refreshToken := some successorToken
            generation := plusOne pending.generation
            refreshPending := false
            sessionId := some root.sessionId
            sessionFamilyId := some root.familyId
            sessionGeneration := some root.generation
            m5PendingRotationId := none
            m5PendingRotationRequest := none
            m5PendingSuccessorRefreshToken := none }
    | _, _ => none

/-- `execute` -/
def execute (pending : SessionCredentialEnvelope) : Effect (Device Material) SessionCredentialEnvelope := do
  let value ← settingsFirst
  let context ← Effect.require (contextOf profileId value)
  let request ← Effect.require pending.m5PendingRotationRequest
  let successorToken ← Effect.require pending.m5PendingSuccessorRefreshToken
  tick
  let response ← Effect.require (around.post context.apiOrigin request)
  Effect.require (successorOf pending successorToken response)

/-! ## under the authority lock -/

/-- An envelope, unless an account deletion vetoes its binding. -/
def readEnvelope : Effect (Device Material) (Option SessionCredentialEnvelope) := do
  match ← readCredentials with
  | none => pure none
  | some material =>
    let envelope ← Effect.require (P.decode material)
    Effect.check (around.vetoes envelope.bindingCommitId = false)
    pure (some envelope)

def persistLocked (value : SessionCredentialEnvelope) : Effect (Device Material) PUnit :=
  writeCredentials (P.encode value)

/-- Another rotation already replaced the rejected generation. -/
def Renewed (rejectedGeneration : Int) (current : EnvelopeFields) : Prop :=
  current.generation ≠ rejectedGeneration ∧ current.refreshPending = false ∧
    around.expiring current.accessToken = false

instance (rejectedGeneration : Int) (current : EnvelopeFields) :
    Decidable (Renewed around rejectedGeneration current) := inferInstanceAs (Decidable (_ ∧ _))

/-- The pending envelope, prepared and stored if there is none. -/
def pendingEnvelope (current : SessionCredentialEnvelope) :
    Effect (Device Material) SessionCredentialEnvelope :=
  if current.refreshPending = true then pure current
  else do
    let pending ← prepare P around profileId current
    persistLocked P pending
    pure pending

/-- `rotateM5` -/
def rotateM5 (rejectedGeneration : Int) : Effect (Device Material) SessionAccess := do
  let current ← Effect.require (← readEnvelope P around)
  Effect.check (current.bindingCommitId.isSome = true)
  if Renewed around rejectedGeneration current.toEnvelopeFields then pure current.toAccess
  else do
    let rotation ← Effect.require around.rotation
    let pending ← pendingEnvelope P around profileId current
    Effect.check (around.guarded = true)
    let successor ← execute around profileId pending
    persistLocked P successor
    persistSuccessor profileId rotation successor
    pure successor.toAccess

/-- The rotation of a credential that has no binding. -/
def refreshCurrent (rejectedGeneration : Int) : Effect (Device Material) SessionAccess := do
  let current ← Effect.require (← readEnvelope P around)
  Effect.check (current.refreshPending = false)
  Effect.check (current.bindingCommitId.isSome = false)
  if Renewed around rejectedGeneration current.toEnvelopeFields then pure current.toAccess
  else do
    let refreshToken ← Effect.require current.refreshToken
    Effect.check (around.guarded = true)
    let pending ← Effect.require (SessionCredentialEnvelope.init { current.toEnvelopeFields with refreshPending := true })
    persistLocked P pending
    if around.guardedAgain = false then do
      persistLocked P current
      Effect.stop
    else do
      tick
      let pair ← Effect.require (around.refresh refreshToken)
      let rotated ← Effect.require
        (SessionCredentialEnvelope.init ⟨pair.1, some pair.2, plusOne current.generation, false, none, none, none, none, none, none, none⟩)
      persistLocked P rotated
      pure rotated.toAccess

/-- The first step of `access` under the lock: it repairs the checkpoint. -/
def repairCheckpoint : Effect (Device Material) SessionCredentialEnvelope := do
  let rotation ← Effect.require around.rotation
  let latest ← Effect.require (← readEnvelope P around)
  Effect.check (latest.bindingCommitId.isSome = true)
  persistSuccessor profileId rotation latest
  pure latest

/-! ## the entry points -/

/-- `access` -/
def access : Effect (Device Material) SessionAccess := do
  let current ← Effect.require (← readEnvelope P around)
  if current.bindingCommitId.isSome = true then do
    let durable ← repairCheckpoint P around profileId
    if durable.refreshPending = true ∨ around.expiring durable.accessToken = true then
      rotateM5 P around profileId durable.generation
    else pure durable.toAccess
  else if current.refreshPending = true then Effect.stop
  else if around.expiring current.accessToken = true then refreshCurrent P around current.generation
  else pure current.toAccess

/-- `refreshAfterRejection` -/
def refreshAfterRejection (rejectedGeneration : Int) : Effect (Device Material) SessionAccess := do
  let current ← Effect.require (← readEnvelope P around)
  if current.bindingCommitId.isSome = true then rotateM5 P around profileId rejectedGeneration
  else refreshCurrent P around rejectedGeneration

end

end AutPlay.Binding
