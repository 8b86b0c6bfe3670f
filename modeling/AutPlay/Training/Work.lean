import AutPlay.Lib.Table
import AutPlay.Consent.Service

/-!
# Training runs

The registry of training runs beside the consent of their participants.

* `Tables`                  the rows of runs, participants, checkpoints, cleanup claims and revocations, next
                            to the consent database;
* `invalidateContributions` the triggers on a consent row and on an account;
* `locked`                  `_locked`: every participant's grant is required again;
* `register`, `ready`, `start`, `authorizeInput`, `sealCheckpoint`, `publish`, `isPublished`;
* `purgeAccount`            what a purge erases of these tables.

A digest is its hexadecimal text.  The participants that `_locked` reads come before its locks, and are an
argument.
-/

set_option linter.unusedSectionVars false

namespace AutPlay.Training

open AutPlay.Sync (Uuid)
open AutPlay.Auth (UserAccountRow DeviceRow UserSessionRow)
open AutPlay.Consent (Digests Ledger requireGranted)
open AutPlay.Evidence (isDigest maxRevision)

/-! ## rows -/

inductive Phase
  | preparing
  | ready
  | running
  | invalidated
  | published
  deriving DecidableEq, Repr

/-- Neither invalidated nor published. -/
def Phase.Live (phase : Phase) : Prop := phase = .preparing ∨ phase = .ready ∨ phase = .running

instance (phase : Phase) : Decidable phase.Live := inferInstanceAs (Decidable (_ ∨ _ ∨ _))

/-- `PUBLICATION_HASH_KEYS` -/
structure PublicationHashes where
  artifactSha256 : String
  manifestSha256 : String
  checkpointSha256 : String
  tokenizerManifestSha256 : String
  tokenizerSha256 : String
  deriving DecidableEq

structure TrainingRunRow where
  runId : Uuid
  serverInstanceId : Uuid
  identityEpoch : Int
  lineageKeyId : String
  sourceSha256 : String
  datasetSha256 : Option String
  requestSha256 : String
  participantCount : Nat
  phase : Phase
  revision : Int
  createdAt : Int
  changedAt : Int
  publicationOperationId : Option Uuid
  publicationSha256 : Option String
  publicationHashes : Option PublicationHashes
  deriving DecidableEq

/-- `training_run_publication_operation_unique` -/
instance : Schema TrainingRunRow Uuid Uuid := ⟨TrainingRunRow.runId, TrainingRunRow.publicationOperationId⟩

structure TrainingParticipantRow where
  runId : Uuid
  userId : Uuid
  consentRevision : Int
  ownerTag : String
  deriving DecidableEq

/-- `training_participant_tag_unique` -/
instance : Schema TrainingParticipantRow (Uuid × Uuid) (Uuid × String) :=
  ⟨fun p => (p.runId, p.userId), fun p => some (p.runId, p.ownerTag)⟩

/-- The state of a cleanup claim. -/
inductive Cleanup
  | pending
  | complete
  deriving DecidableEq, Repr

/-- The tables; `servers` is the epoch of each `server_instance`, `checkpoints` the sealed manifest. -/
structure Tables where
  consent : Consent.Db
  servers : Dict Uuid Int
  runs : Table TrainingRunRow
  participants : Table TrainingParticipantRow
  checkpoints : Dict Uuid String
  claims : Dict Uuid Cleanup
  revocations : List (Uuid × String)

def participantsOf (db : Tables) (runId : Uuid) : List TrainingParticipantRow :=
  (db.participants.rows.filter fun p => p.runId = runId).mergeSort fun p q => p.userId.text ≤ q.userId.text

/-! ## the service's parameters -/

/-- What is hashed of a registration. -/
structure RegistrationDocument where
  runId : Uuid
  sourceSha256 : String
  serverInstanceId : Uuid
  identityEpoch : Int
  lineageKeyId : String
  participants : List (Uuid × Int × String)

/-- What is hashed of a run's inputs. -/
structure BindingDocument where
  runId : Uuid
  serverInstanceId : Uuid
  identityEpoch : Int
  lineageKeyId : String
  registrationSha256 : String
  sourceSha256 : String
  datasetSha256 : String

/-- What is hashed of a publication. -/
structure PublicationDocument where
  runId : Uuid
  operationId : Uuid
  hashes : PublicationHashes

/-- What the service is made with: `ownerTag` is the keyed digest of the lineage key. -/
structure Authority where
  digests : Digests
  serverInstanceId : Uuid
  identityEpoch : Int
  lineageKeyId : String
  ownerTag : Uuid → String
  registrationSha256 : RegistrationDocument → String
  bindingSha256 : BindingDocument → String
  publicationSha256 : PublicationDocument → String

structure TrainingRunView where
  runId : Uuid
  phase : Phase
  revision : Int
  datasetSha256 : Option String
  deriving DecidableEq

structure TrainingInputProvenance where
  runId : Uuid
  serverInstanceId : Uuid
  identityEpoch : Int
  bindingSha256 : String
  deriving DecidableEq

inductive Error
  | invalidDigest
  | invalidParticipantSet
  | invalidContributors
  | invalidPublicationTuple
  | identityChanged
  | runUnavailable
  | runInvalidated
  | operationConflict
  | phaseConflict
  | revisionExhausted
  | inputBindingMismatch
  | inputAuthorityMissing
  | checkpointConflict
  | checkpointSealRequired
  | consent (e : Consent.Error)
  | database
  deriving DecidableEq, Repr

def require (p : Prop) [Decidable p] (e : Error) : Except Error Unit := if p then .ok () else .error e

theorem require_ok {p : Prop} [Decidable p] {e : Error} {u : Unit} : require p e = .ok u ↔ p := by
  unfold require
  split
  · rename_i hp
    exact ⟨fun _ => hp, fun _ => rfl⟩
  · rename_i hp
    exact ⟨fun h => (by cases h), fun h => absurd h hp⟩

/-- `_digest` -/
def digest (value : String) : Except Error String :=
  if isDigest value then .ok value else .error .invalidDigest

/-! ## the triggers -/

/-- Every participant of a run is there, active, and its row says granted at the registered revision. -/
def Consented (db : Tables) (run : TrainingRunRow) : Prop :=
  (participantsOf db run.runId).length = run.participantCount ∧
    ∀ p ∈ participantsOf db run.runId,
      (∃ account ∈ db.consent.accounts.get? p.userId, account.status = "ACTIVE" ∧ account.deletedAt = none) ∧
        ∃ row ∈ db.consent.consents.get? p.userId,
          row.decision = .granted ∧ row.revision = p.consentRevision ∧ row.policyVersion = 1

instance (db : Tables) (run : TrainingRunRow) : Decidable (Consented db run) := by
  unfold Consented
  infer_instance

/-- The phases that may follow one another. -/
def Follows (phase phase' : Phase) : Prop :=
  (phase = .preparing ∧ (phase' = .ready ∨ phase' = .invalidated)) ∨
    (phase = .ready ∧ (phase' = .running ∨ phase' = .invalidated)) ∨
      phase = .running ∧ (phase' = .published ∨ phase' = .invalidated)

instance (phase phase' : Phase) : Decidable (Follows phase phase') := inferInstanceAs (Decidable (_ ∨ _ ∨ _))

/-- The columns of a run that no update changes. -/
structure Registration where
  runId : Uuid
  serverInstanceId : Uuid
  identityEpoch : Int
  lineageKeyId : String
  sourceSha256 : String
  requestSha256 : String
  createdAt : Int
  participantCount : Nat
  deriving DecidableEq

def registrationOf (run : TrainingRunRow) : Registration :=
  ⟨run.runId, run.serverInstanceId, run.identityEpoch, run.lineageKeyId, run.sourceSha256, run.requestSha256,
    run.createdAt, run.participantCount⟩

/-- `guard_training_run` and `require_training_checkpoint_publication`, of an update. -/
structure Guards (db : Tables) (old new : TrainingRunRow) : Prop where
  same : registrationOf new = registrationOf old
  revision : new.revision = old.revision + 1
  time : old.changedAt ≤ new.changedAt
  dataset : old.datasetSha256 ≠ none → new.datasetSha256 = old.datasetSha256
  phase : Follows old.phase new.phase
  consented : new.phase ≠ .invalidated → Consented db old
  sealed : new.phase = .published →
    new.publicationHashes.map (·.checkpointSha256) = db.checkpoints.get? new.runId

instance (db : Tables) (old new : TrainingRunRow) : Decidable (Guards db old new) :=
  decidable_of_iff (registrationOf new = registrationOf old ∧ new.revision = old.revision + 1 ∧
      old.changedAt ≤ new.changedAt ∧ (old.datasetSha256 ≠ none → new.datasetSha256 = old.datasetSha256) ∧
        Follows old.phase new.phase ∧ (new.phase ≠ .invalidated → Consented db old) ∧
          (new.phase = .published →
            new.publicationHashes.map (·.checkpointSha256) = db.checkpoints.get? new.runId))
    ⟨fun ⟨h₁, h₂, h₃, h₄, h₅, h₆, h₇⟩ => ⟨h₁, h₂, h₃, h₄, h₅, h₆, h₇⟩,
      fun h => ⟨h.same, h.revision, h.time, h.dataset, h.phase, h.consented, h.sealed⟩⟩

/-- A run of one of the owners. -/
def Contributed (db : Tables) (owner : Uuid → Prop) (runId : Uuid) : Prop :=
  ∃ p ∈ db.participants.rows, p.runId = runId ∧ owner p.userId

instance (db : Tables) (owner : Uuid → Prop) [DecidablePred owner] (runId : Uuid) :
    Decidable (Contributed db owner runId) := by
  unfold Contributed
  infer_instance

/-- The row of a run that a trigger invalidates. -/
def invalidatedRow (clock : Uuid → Int) (run : TrainingRunRow) : TrainingRunRow :=
  { run with phase := .invalidated, revision := run.revision + 1, changedAt := clock run.runId }

/-- `account.invalidate_training_contributions`, for the owners of one transaction; `clock` is
`clock_timestamp()` at each run, and one that went back makes the transaction fail. -/
def invalidateContributions (owner : Uuid → Prop) [DecidablePred owner] (clock : Uuid → Int) (db : Tables) :
    Option Tables :=
  if ∀ run ∈ db.runs.rows, run.phase.Live → Contributed db owner run.runId → run.changedAt ≤ clock run.runId then
    some { db with
      runs := db.runs.updateWhere (fun run => run.phase.Live ∧ Contributed db owner run.runId)
        (invalidatedRow clock)
      claims := (db.participants.rows.filter fun p => owner p.userId).foldl
        (fun claims p => if claims.has p.runId then claims else claims.set p.runId .pending) db.claims }
  else none

/-! ## the calls -/

section
variable (P : Authority)

/-- `_identity` -/
def identity (db : Tables) : Except Error Unit :=
  require (db.servers.get? P.serverInstanceId = some P.identityEpoch) .identityChanged

/-- `require_granted` of each participant. -/
def requireMembers (members : List TrainingParticipantRow) (db : Tables) (ledger : Ledger) : Except Error Unit :=
  members.forM fun p =>
    (requireGranted P.digests p.userId p.consentRevision db.consent ledger).mapError .consent

/-- `_locked`; a published run stays readable after a withdrawal. -/
def locked (members : List TrainingParticipantRow) (runId : Uuid) (db : Tables) (ledger : Ledger) :
    Except Error TrainingRunRow := do
  identity P db
  let run ← (db.runs.find runId).elim (.error .runUnavailable) .ok
  require (run.serverInstanceId = P.serverInstanceId ∧ run.identityEpoch = P.identityEpoch ∧
    run.lineageKeyId = P.lineageKeyId) .runUnavailable
  require (run.phase ≠ .published → run.phase ≠ .invalidated ∧ members.length = run.participantCount)
    .runInvalidated
  if run.phase = .published then .ok run
  else do
    requireMembers P members db ledger
    .ok run

/-- `_view` -/
def view (run : TrainingRunRow) : TrainingRunView :=
  ⟨run.runId, run.phase, run.revision, run.datasetSha256⟩

/-- `_transition` of the run `old`, whose columns were set to those of `run`. -/
def transition (now : Int) (db : Tables) (old run : TrainingRunRow) (phase : Phase) :
    Except Error (TrainingRunRow × Tables) := do
  require (run.revision < maxRevision) .revisionExhausted
  let run' := { run with phase := phase, revision := run.revision + 1, changedAt := now }
  require (Guards db old run') .database
  match db.runs.update run' with
  | .error _ => .error .database
  | .ok runs => .ok (run', { db with runs := runs })

/-- The owners in the order of their identifiers. -/
def ownersOf (participants : Dict Uuid Int) : List (Uuid × Int) :=
  participants.items.mergeSort fun p q => p.1.text ≤ q.1.text

/-- Each row of a registration, or the constraint that it violates. -/
def insertParticipants (rows : List TrainingParticipantRow) (table : Table TrainingParticipantRow) :
    Except Error (Table TrainingParticipantRow) :=
  rows.foldlM (fun t p => (t.insert p).mapError fun _ => .database) table

/-- The rows of a registration. -/
def participantRows (runId : Uuid) (owners : List (Uuid × Int)) : List TrainingParticipantRow :=
  owners.map fun p => ⟨runId, p.1, p.2, P.ownerTag p.1⟩

/-- The row of a new run. -/
def newRun (now : Int) (runId : Uuid) (source : String) (requestHash : String) (count : Nat) : TrainingRunRow :=
  ⟨runId, P.serverInstanceId, P.identityEpoch, P.lineageKeyId, source, none, requestHash, count, .preparing, 1,
    now, now, none, none, none⟩

/-- The rows of a registration that has none yet. -/
def insertRun (run : TrainingRunRow) (rows : List TrainingParticipantRow) (db : Tables) : Except Error Tables := do
  let runs ← (db.runs.insert run).mapError fun _ => .database
  let participants ← insertParticipants rows db.participants
  .ok { db with runs := runs, participants := participants }

/-- `register` -/
def register (now : Int) (runId : Uuid) (sourceSha256 : String) (participants : Dict Uuid Int) (db : Tables)
    (ledger : Ledger) : Except Error (TrainingRunView × Tables) := do
  require ((1 ≤ participants.items.length ∧ participants.items.length ≤ 4096) ∧
    ∀ e ∈ participants.items, 1 ≤ e.2 ∧ e.2 ≤ maxRevision) .invalidParticipantSet
  let owners := ownersOf participants
  let source ← digest sourceSha256
  let requestHash := P.registrationSha256 ⟨runId, sourceSha256, P.serverInstanceId, P.identityEpoch,
    P.lineageKeyId, owners.map fun p => (p.1, p.2, P.ownerTag p.1)⟩
  identity P db
  requireMembers P (participantRows P runId owners) db ledger
  match db.runs.find runId with
  | some existing => do
    require (existing.requestSha256 = requestHash) .operationConflict
    require (existing.phase ≠ .invalidated) .runInvalidated
    .ok (view existing, db)
  | none => do
    let run := newRun P now runId source requestHash owners.length
    let db' ← insertRun run (participantRows P runId owners) db
    .ok (view run, db')

/-- `ready` -/
def ready (now : Int) (members : List TrainingParticipantRow) (runId : Uuid) (datasetSha256 : String) (db : Tables)
    (ledger : Ledger) : Except Error (TrainingRunView × Tables) := do
  let dataset ← digest datasetSha256
  let run ← locked P members runId db ledger
  if run.phase = .ready ∧ run.datasetSha256 = some dataset then .ok (view run, db)
  else do
    require (run.phase = .preparing) .phaseConflict
    let r ← transition now db run { run with datasetSha256 := some dataset } .ready
    .ok (view r.1, r.2)

/-- A ready run starts, a running one stays. -/
def startLocked (now : Int) (run : TrainingRunRow) (db : Tables) : Except Error (TrainingRunRow × Tables) :=
  if run.phase = .ready then transition now db run run .running
  else do
    require (run.phase = .running) .phaseConflict
    .ok (run, db)

/-- `start` -/
def start (now : Int) (members : List TrainingParticipantRow) (runId : Uuid) (db : Tables) (ledger : Ledger) :
    Except Error (TrainingRunView × Tables) := do
  let run ← locked P members runId db ledger
  let r ← startLocked now run db
  .ok (view r.1, r.2)

/-- `check_running` -/
def checkRunning (members : List TrainingParticipantRow) (runId : Uuid) (db : Tables) (ledger : Ledger) :
    Except Error Unit := do
  let run ← locked P members runId db ledger
  require (run.phase = .running) .phaseConflict

/-- The inputs that a worker has verified. -/
structure Inputs where
  sourceSha256 : String
  datasetSha256 : String
  lineageKeyId : String
  ownerTokens : List String
  deriving DecidableEq

/-- `_input_binding` -/
def inputBinding (db : Tables) (run : TrainingRunRow) (inputs : Inputs) : Except Error Unit := do
  require ((1 ≤ inputs.ownerTokens.length ∧ inputs.ownerTokens.length ≤ 4096) ∧ inputs.ownerTokens.Nodup)
    .invalidContributors
  let supplied ← inputs.ownerTokens.mapM digest
  let source ← digest inputs.sourceSha256
  let dataset ← digest inputs.datasetSha256
  let registered := (participantsOf db run.runId).map (·.ownerTag)
  require (run.sourceSha256 = source ∧ run.datasetSha256 = some dataset ∧
    run.lineageKeyId = inputs.lineageKeyId ∧
      (∀ tag ∈ supplied, tag ∈ registered) ∧ ∀ tag ∈ registered, tag ∈ supplied) .inputBindingMismatch

/-- `_input_provenance` -/
def inputProvenance (run : TrainingRunRow) : Except Error TrainingInputProvenance :=
  match run.datasetSha256 with
  | none => .error .inputAuthorityMissing
  | some dataset =>
    .ok ⟨run.runId, run.serverInstanceId, run.identityEpoch,
      P.bindingSha256 ⟨run.runId, run.serverInstanceId, run.identityEpoch, run.lineageKeyId, run.requestSha256,
        run.sourceSha256, dataset⟩⟩

/-- `authorize_input` -/
def authorizeInput (now : Int) (members : List TrainingParticipantRow) (runId : Uuid) (inputs : Inputs)
    (db : Tables) (ledger : Ledger) : Except Error (TrainingInputProvenance × Tables) := do
  let run ← locked P members runId db ledger
  inputBinding db run inputs
  let r ← startLocked now run db
  let provenance ← inputProvenance P r.1
  .ok (provenance, r.2)

/-- The run's own provenance, and no other. -/
def requireProvenance (run : TrainingRunRow) (provenance : TrainingInputProvenance) : Except Error Unit := do
  let own ← inputProvenance P run
  require (own = provenance) .inputBindingMismatch

/-- `check_candidate` -/
def checkCandidate (members : List TrainingParticipantRow) (provenance : TrainingInputProvenance) (db : Tables)
    (ledger : Ledger) : Except Error Unit := do
  let run ← locked P members provenance.runId db ledger
  requireProvenance P run provenance
  require (run.phase = .running) .phaseConflict

/-- `seal_checkpoint` -/
def sealCheckpoint (members : List TrainingParticipantRow) (provenance : TrainingInputProvenance)
    (manifestSha256 : String) (db : Tables) (ledger : Ledger) : Except Error Tables := do
  let manifest ← digest manifestSha256
  let run ← locked P members provenance.runId db ledger
  requireProvenance P run provenance
  require (run.phase = .running) .phaseConflict
  match db.checkpoints.get? run.runId with
  | some existing => do
    require (existing = manifest) .checkpointConflict
    .ok db
  | none => do
    require (Consented db run) .database
    .ok { db with checkpoints := db.checkpoints.set run.runId manifest }

/-- `check_checkpoint` -/
def checkCheckpoint (members : List TrainingParticipantRow) (provenance : TrainingInputProvenance)
    (manifestSha256 : String) (db : Tables) (ledger : Ledger) : Except Error Unit := do
  let manifest ← digest manifestSha256
  let run ← locked P members provenance.runId db ledger
  let own ← inputProvenance P run
  require (own = provenance ∧ db.checkpoints.get? run.runId = some manifest) .checkpointSealRequired
  require (run.phase = .running) .phaseConflict

/-- `check_input` -/
def checkInput (members : List TrainingParticipantRow) (runId : Uuid) (inputs : Inputs) (db : Tables)
    (ledger : Ledger) : Except Error Unit := do
  let run ← locked P members runId db ledger
  inputBinding db run inputs
  require (run.phase = .running) .phaseConflict

/-- The tuple of a publication, where its keys are the expected ones. -/
def checkHashes (hashes : Option PublicationHashes) : Except Error PublicationHashes := do
  let publication ← hashes.elim (.error .invalidPublicationTuple) .ok
  require (isDigest publication.artifactSha256 ∧ isDigest publication.manifestSha256 ∧
    isDigest publication.checkpointSha256 ∧ isDigest publication.tokenizerManifestSha256 ∧
      isDigest publication.tokenizerSha256) .invalidDigest
  .ok publication

/-- A published run answers its own publication only; a running one is published. -/
def publishLocked (now : Int) (operationId : Uuid) (requestHash : String) (publication : PublicationHashes)
    (run : TrainingRunRow) (db : Tables) : Except Error (TrainingRunRow × Tables) :=
  if run.phase = .published then do
    require (run.publicationOperationId = some operationId ∧ run.publicationSha256 = some requestHash ∧
      run.publicationHashes = some publication) .operationConflict
    .ok (run, db)
  else do
    require (run.phase = .running) .phaseConflict
    require (∀ r ∈ db.runs.rows, r.publicationOperationId ≠ some operationId) .operationConflict
    transition now db run
      { run with
        publicationOperationId := some operationId
        publicationSha256 := some requestHash
        publicationHashes := some publication } .published

/-- `publish` -/
def publish (now : Int) (members : List TrainingParticipantRow) (runId operationId : Uuid)
    (hashes : Option PublicationHashes) (provenance : Option TrainingInputProvenance) (db : Tables)
    (ledger : Ledger) : Except Error (TrainingRunView × Tables) := do
  let publication ← checkHashes hashes
  let requestHash := P.publicationSha256 ⟨runId, operationId, publication⟩
  let run ← locked P members runId db ledger
  provenance.elim (.ok ()) (requireProvenance P run)
  require (db.checkpoints.get? runId = some publication.checkpointSha256) .checkpointSealRequired
  let r ← publishLocked now operationId requestHash publication run db
  .ok (view r.1, r.2)

/-- `is_published`, in the transaction: serving asks for no live grant. -/
def isPublished (runId : Uuid) (hashes : Option PublicationHashes) (provenance : Option TrainingInputProvenance)
    (db : Tables) : Except Error Bool :=
  if hashes = none then .ok false
  else do
    let publication ← checkHashes hashes
    if db.servers.get? P.serverInstanceId = some P.identityEpoch then
      match db.runs.find runId with
      | none => .ok false
      | some run =>
        if (run.serverInstanceId = P.serverInstanceId ∧ run.identityEpoch = P.identityEpoch ∧
            run.lineageKeyId = P.lineageKeyId) ∧
          run.phase = .published ∧ run.publicationHashes = some publication ∧
            db.checkpoints.get? runId = some publication.checkpointSha256 ∧
              ∀ e ∈ db.revocations, e.1 ≠ runId
        then match provenance with
          | none => .ok true
          | some p => (inputProvenance P run).map fun own => decide (own = p)
        else .ok false
    else .ok false

end

/-! ## the other writers -/

/-- What `account.purge_account` erases here: the participant's rows, each after its run's cleanup, and the
account with its policy; a published run is no longer served. -/
def purgeAccount (userId : Uuid) (db : Tables) : Option Tables :=
  if (db.consent.accounts.get? userId).isSome ∧
      ∀ p ∈ db.participants.rows, p.userId = userId → db.claims.get? p.runId = some .complete then
    some { db with
      consent :=
        { accounts := db.consent.accounts.filter fun u _ => u ≠ userId
          devices := db.consent.devices.filter fun _ device => device.userId ≠ userId
          sessions := db.consent.sessions.filter fun _ s => s.userId ≠ userId
          consents := db.consent.consents.filter fun u _ => u ≠ userId
          operations := db.consent.operations.filter fun _ row => row.userId ≠ userId }
      participants := db.participants.eraseWhere fun p => p.userId = userId
      revocations := db.revocations ++
        ((db.participants.rows.filter fun p => p.userId = userId &&
            ((db.runs.find p.runId).map (·.phase) == some .published)).map fun p => (p.runId, p.ownerTag)) }
  else none

end AutPlay.Training
