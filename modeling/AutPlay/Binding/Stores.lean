import Mathlib.Algebra.GroupWithZero.Nat
import AutPlay.Lib.Effect
import AutPlay.Sync.Uuid

/-!
# The two stores of a binding

* `SessionCredentialEnvelope`   what the credential store holds of a profile;
* `M5BindingCheckpoint`         what the settings hold of its binding;
* `Platform`                    the codec of the envelopes, and the other library functions;
* `Device`                      both stores, and how many effects are left before the process stops.

Each access to a store is one effect, so that a run may stop before any of them. What only other
operations read of the envelopes and of the settings is left out.
-/

set_option linter.unusedSectionVars false

namespace AutPlay.Binding

open AutPlay.Sync (Uuid isCanonicalUuid)

/-! ## credentials -/

/-- The spaces of Unicode, and the separators that the platform adds to them. -/
def isWhitespace (c : Char) : Bool :=
  let n := c.toNat
  (9 ≤ n && n ≤ 13) || (28 ≤ n && n ≤ 32) || (0x2000 ≤ n && n ≤ 0x200A) ||
    [0xA0, 0x1680, 0x2028, 0x2029, 0x202F, 0x205F, 0x3000].contains n

def isNotBlank (s : String) : Bool := s.toList.any fun c => ! isWhitespace c

/-- The length in UTF-16. -/
def utf16Length (s : String) : Nat := (s.toList.map fun c => if c.toNat < 0x10000 then 1 else 2).sum

def maxTokenChars : Nat := 4096

def TokenOk (token : String) : Prop := isNotBlank token = true ∧ utf16Length token ≤ maxTokenChars

instance (token : String) : Decidable (TokenOk token) := inferInstanceAs (Decidable (_ ∧ _))

/-- The arguments of an envelope. -/
structure EnvelopeFields where
  accessToken : String
  refreshToken : Option String
  generation : Int
  refreshPending : Bool
  bindingCommitId : Option String
  sessionId : Option String
  sessionFamilyId : Option String
  sessionGeneration : Option Int
  m5PendingRotationId : Option String
  m5PendingRotationRequest : Option String
  m5PendingSuccessorRefreshToken : Option String
  deriving DecidableEq

/-- The `init` of `SessionCredentialEnvelope`. -/
structure EnvelopeFields.Valid (f : EnvelopeFields) : Prop where
  access : TokenOk f.accessToken
  refresh : ∀ token ∈ f.refreshToken, TokenOk token
  generation : 0 ≤ f.generation
  lineage : f.sessionId.isSome = f.bindingCommitId.isSome ∧ f.sessionFamilyId.isSome = f.bindingCommitId.isSome ∧
    f.sessionGeneration.isSome = f.bindingCommitId.isSome
  sessionGeneration : ∀ n ∈ f.sessionGeneration, 0 ≤ n
  rotation : f.m5PendingRotationRequest.isSome = f.m5PendingRotationId.isSome ∧
    f.m5PendingSuccessorRefreshToken.isSome = f.m5PendingRotationId.isSome
  pending : f.m5PendingRotationId.isSome = true → f.refreshPending = true

instance (f : EnvelopeFields) : Decidable f.Valid :=
  decidable_of_iff
    ((TokenOk f.accessToken ∧ (∀ token ∈ f.refreshToken, TokenOk token) ∧ 0 ≤ f.generation) ∧
      (f.sessionId.isSome = f.bindingCommitId.isSome ∧ f.sessionFamilyId.isSome = f.bindingCommitId.isSome ∧
        f.sessionGeneration.isSome = f.bindingCommitId.isSome) ∧
      (∀ n ∈ f.sessionGeneration, 0 ≤ n) ∧
      (f.m5PendingRotationRequest.isSome = f.m5PendingRotationId.isSome ∧
        f.m5PendingSuccessorRefreshToken.isSome = f.m5PendingRotationId.isSome) ∧
      (f.m5PendingRotationId.isSome = true → f.refreshPending = true))
    ⟨fun ⟨⟨h₁, h₂, h₃⟩, h₄, h₅, h₆, h₇⟩ => ⟨h₁, h₂, h₃, h₄, h₅, h₆, h₇⟩,
      fun h => ⟨⟨h.access, h.refresh, h.generation⟩, h.lineage, h.sessionGeneration, h.rotation, h.pending⟩⟩

structure SessionCredentialEnvelope extends EnvelopeFields where
  valid : toEnvelopeFields.Valid

/-- The constructor; `none` is `IllegalArgumentException`. -/
def SessionCredentialEnvelope.init (f : EnvelopeFields) : Option SessionCredentialEnvelope :=
  if h : f.Valid then some ⟨f, h⟩ else none

theorem SessionCredentialEnvelope.init_eq_some {f : EnvelopeFields} {e : SessionCredentialEnvelope}
    (h : SessionCredentialEnvelope.init f = some e) : e.toEnvelopeFields = f := by
  unfold SessionCredentialEnvelope.init at h
  split at h
  · cases h
    rfl
  · cases h

/-- The refresh token that the codec reads back: the text `null` stands for none. -/
def EnvelopeFields.readBack (f : EnvelopeFields) : EnvelopeFields :=
  { f with refreshToken := f.refreshToken.filter (· ≠ "null") }

/-! ## settings -/

abbrev ServerProfileId := String

/-- A checkpoint names its session and the binding by UUIDs. -/
structure M5BindingCheckpoint where
  bindingCommitId : Uuid
  serverInstanceId : Uuid
  identityEpoch : Int
  deviceKeyAlias : String
  sessionId : Uuid
  sessionFamilyId : Uuid
  sessionGeneration : Int
  epoch_pos : 1 ≤ identityEpoch
  generation_nonneg : 0 ≤ sessionGeneration
  deriving DecidableEq

/-- A text as a UUID; `none` is `IllegalArgumentException`. -/
def uuidOf (s : String) : Option Uuid := if h : isCanonicalUuid s = true then some ⟨s, h⟩ else none

/-- `checkpoint.copy(sessionId = …, sessionGeneration = …)` -/
def M5BindingCheckpoint.withSession (c : M5BindingCheckpoint) (sessionId : String) (generation : Int) :
    Option M5BindingCheckpoint :=
  (uuidOf sessionId).bind fun id =>
    if h : 0 ≤ generation then
      some { c with sessionId := id, sessionGeneration := generation, generation_nonneg := h }
    else none

structure NonSecretSettings where
  activeServerProfileId : Option ServerProfileId
  activeUserId : Option String
  deviceId : Option String
  serverBaseUrl : Option String
  m5Binding : Option M5BindingCheckpoint
  m5TrustEvidence : Option String
  m5LocalDataDecision : Option String
  m5PendingExchangeCheckpoint : Option String
  deriving DecidableEq

/-! ## the device -/

/-- A value of a signed request. -/
inductive RequestField
  | text (s : String)
  | integer (n : Int)
  deriving DecidableEq

/-- The library that the operations call. -/
structure Platform (Material : Type) where
  encode : SessionCredentialEnvelope → Material
  /-- `none` is an exception. -/
  decode : Material → Option SessionCredentialEnvelope
  isReservedCredentialProfile : ServerProfileId → Bool
  /-- Of a text in ASCII, in hexadecimal. -/
  sha256 : String → String
  /-- The codec reads what it wrote. -/
  decode_encode : ∀ e, ∃ e', decode (encode e) = some e' ∧ e'.toEnvelopeFields = e.toEnvelopeFields.readBack

structure Device (Material : Type) where
  settings : NonSecretSettings
  /-- The material of the profile. -/
  credentials : Option Material
  /-- How many effects there are before a crash, a cancellation or a failed write. -/
  left : Nat

section
variable {Material : Type}

/-- An effect takes place, or the run stops before it. -/
def tick : Effect (Device Material) PUnit := do
  let d ← Effect.get
  if d.left = 0 then Effect.stop else Effect.modify fun d => { d with left := d.left - 1 }

def readCredentials : Effect (Device Material) (Option Material) := do
  tick
  let d ← Effect.get
  pure d.credentials

def writeCredentials (material : Material) : Effect (Device Material) PUnit := do
  tick
  Effect.modify fun d => { d with credentials := some material }

def clearCredentials : Effect (Device Material) PUnit := do
  tick
  Effect.modify fun d => { d with credentials := none }

/-- `settings.settings.first()` -/
def settingsFirst : Effect (Device Material) NonSecretSettings := do
  tick
  let d ← Effect.get
  pure d.settings

/-- `settings.mutate`, all or nothing. -/
def mutateSettings (f : NonSecretSettings → Option NonSecretSettings) : Effect (Device Material) PUnit := do
  tick
  let d ← Effect.get
  let settings ← Effect.require (f d.settings)
  Effect.modify fun d => { d with settings := settings }

end

end AutPlay.Binding
