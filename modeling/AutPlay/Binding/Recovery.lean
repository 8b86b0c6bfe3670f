import AutPlay.Binding.Rotation

/-!
# Recovery of a binding

`BindingRecovery.recover`, at the next start: a checkpoint with a matching envelope is ready, a later
envelope promotes the checkpoint, and anything else clears both stores.
-/

set_option linter.unusedSectionVars false

namespace AutPlay.Binding

inductive BindingRecoveryResult
  | noM5Binding
  | ready (checkpoint : M5BindingCheckpoint)
  | clearedPartialBinding
  deriving DecidableEq

/-- `matches` -/
def matchesCheckpoint (checkpoint : M5BindingCheckpoint) (secret : SessionCredentialEnvelope) : Prop :=
  secret.bindingCommitId = some checkpoint.bindingCommitId.text ∧
    secret.sessionId = some checkpoint.sessionId.text ∧
    secret.sessionFamilyId = some checkpoint.sessionFamilyId.text ∧
    secret.sessionGeneration = some checkpoint.sessionGeneration

instance (checkpoint : M5BindingCheckpoint) (secret : SessionCredentialEnvelope) :
    Decidable (matchesCheckpoint checkpoint secret) := inferInstanceAs (Decidable (_ ∧ _))

/-- The session of a successor that the checkpoint can be promoted to. -/
def canPromoteSuccessor (checkpoint : M5BindingCheckpoint) (secret : SessionCredentialEnvelope) :
    Option (String × Int) :=
  match secret.sessionId, secret.sessionGeneration with
  | some sessionId, some generation =>
    if secret.refreshPending = false ∧ secret.bindingCommitId = some checkpoint.bindingCommitId.text ∧
        secret.sessionFamilyId = some checkpoint.sessionFamilyId.text ∧
        checkpoint.sessionGeneration < generation then some (sessionId, generation)
    else none
  | _, _ => none

/-- The settings without their binding; the origins stay. -/
def NonSecretSettings.deactivated (s : NonSecretSettings) : NonSecretSettings :=
  { s with
    activeServerProfileId := none
    activeUserId := none
    deviceId := none
    m5Binding := none
    m5TrustEvidence := none
    m5LocalDataDecision := none
    m5PendingExchangeCheckpoint := none }

/-- The binding is the active one, as it was. -/
def NonSecretSettings.Binds (profileId : ServerProfileId) (checkpoint : M5BindingCheckpoint)
    (s : NonSecretSettings) : Prop :=
  s.activeServerProfileId = some profileId ∧ s.m5Binding = some checkpoint

instance (profileId : ServerProfileId) (checkpoint : M5BindingCheckpoint) (s : NonSecretSettings) :
    Decidable (s.Binds profileId checkpoint) := inferInstanceAs (Decidable (_ ∧ _))

section
variable {Material : Type} (P : Platform Material) (profileId : ServerProfileId)

def clearPartial (expectedCheckpoint : M5BindingCheckpoint) :
    Effect (Device Material) BindingRecoveryResult := do
  let current ← settingsFirst
  if ¬ current.Binds profileId expectedCheckpoint then pure .noM5Binding
  else do
    -- the recommendation context is purged
    tick
    if P.isReservedCredentialProfile profileId = false then clearCredentials else pure ⟨⟩
    mutateSettings fun latest =>
      some (if latest.Binds profileId expectedCheckpoint then latest.deactivated else latest)
    pure .clearedPartialBinding

/-- The settings with a promoted checkpoint, if the binding is still the one that was read. -/
def promote (checkpoint promoted : M5BindingCheckpoint) : Effect (Device Material) BindingRecoveryResult := do
  tick
  let d ← Effect.get
  if d.settings.Binds profileId checkpoint then do
    Effect.modify fun d => { d with settings := { d.settings with m5Binding := some promoted } }
    pure (.ready promoted)
  else pure .noM5Binding

/-- What recovery makes of the material. -/
def recoverMaterial (checkpoint : M5BindingCheckpoint) (material : Material) :
    Effect (Device Material) BindingRecoveryResult :=
  match P.decode material with
  | none => clearPartial P profileId checkpoint
  | some secret =>
    if matchesCheckpoint checkpoint secret then pure (.ready checkpoint)
    else
      match canPromoteSuccessor checkpoint secret with
      | none => clearPartial P profileId checkpoint
      | some (sessionId, generation) => do
        let promoted ← Effect.require (checkpoint.withSession sessionId generation)
        promote profileId checkpoint promoted

/-- `recover` -/
def recover (vetoes : Option String → Bool) : Effect (Device Material) BindingRecoveryResult := do
  let initial ← settingsFirst
  match initial.m5Binding with
  | none => pure .noM5Binding
  | some checkpoint =>
    if initial.activeServerProfileId ≠ some profileId then pure .noM5Binding
    else if P.isReservedCredentialProfile profileId = true then clearPartial P profileId checkpoint
    else if vetoes (some checkpoint.bindingCommitId.text) = true then clearPartial P profileId checkpoint
    else
      match ← readCredentials with
      | none => clearPartial P profileId checkpoint
      | some material => recoverMaterial P profileId checkpoint material

end

end AutPlay.Binding
