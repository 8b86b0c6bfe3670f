import AutPlay.Discovery.Rows
import Mathlib.Data.List.Sort
import Mathlib.Data.Option.Basic

/-!
# Bulk operations

* `requireCandidateAuthorization`, `requireCandidateArtist`   what a candidate is checked for;
* `grantSourceAuthorization`     the current authorization of an artist, or a new one;
* `enqueue`                      a job under an idempotency key;
* `enqueueManualAttempt`         a new attempt for a candidate, with its job;
* `savePreview`, `start`         the two halves of a bulk operation.

A call is one transaction: an exception leaves the tables as they were.  It reads the clock once here.
-/

set_option linter.unusedSectionVars false

namespace AutPlay.Discovery

open AutPlay.Sync (Uuid)

/-- How a call fails. -/
inductive BulkFault
  | bulk (code : String)
  | integrity (violated : String)
  | jobConflict
  deriving DecidableEq

abbrev Outcome := Except BulkFault

def check (p : Prop) [Decidable p] (code : String) : Outcome PUnit :=
  if p then .ok ⟨⟩ else .error (.bulk code)

def need {α : Type} (x : Option α) (code : String) : Outcome α := x.elim (.error (.bulk code)) .ok

def jamendoProviderId : Uuid := ⟨"426dc183-ab26-5a6e-9350-3f8bb57cd575", by decide +kernel⟩

/-- An hour, in microseconds. -/
def hour : Int := 3600000000

/-! ## checks -/

section
variable (db : DiscoveryDb)

def providerAvailable : Prop :=
  ∃ provider ∈ db.provider, provider.enabled = true ∧ provider.deletedAt = none ∧
    provider.adapterId = "autplay.jamendo.manual" ∧ provider.adapterVersion = "1.0.0" ∧
    "SEARCH" ∈ provider.capabilities ∧ "DOWNLOAD" ∈ provider.capabilities

instance : Decidable (providerAvailable db) :=
  inferInstanceAs (Decidable (∃ provider ∈ db.provider, _))

/-- **`_require_provider`**. -/
def requireProvider : Outcome PUnit := check (providerAvailable db) "source_authorization_unavailable"

/-- An entry of the library is held back while a candidate that made it is not ready. -/
def heldBack (libraryEntryId : Uuid) : Prop :=
  ∃ e ∈ db.candidates.items, e.2.libraryEntryId = some libraryEntryId ∧ e.2.acquisitionState ≠ .ready

instance (libraryEntryId : Uuid) : Decidable (heldBack db libraryEntryId) :=
  inferInstanceAs (Decidable (∃ e ∈ db.candidates.items, _))

/-- The artist is credited on a recording that a track of the user resolves to. -/
def creditedOn (userId artistId : Uuid) (ref : UserTrackRefRow) : Prop :=
  ref.userId = userId ∧ ref.resolved = true ∧ ref.deletedAt = none ∧
    ∃ recordingId ∈ ref.recordingId, ∃ recording ∈ db.catalog.recordings.get? recordingId,
      recording.deletedAt = none ∧ (recording.artistCreditId, artistId) ∈ db.catalog.artistCreditNames

instance (userId artistId : Uuid) (ref : UserTrackRefRow) : Decidable (creditedOn db userId artistId ref) :=
  inferInstanceAs (Decidable (_ ∧ _ ∧ _ ∧ ∃ recordingId ∈ ref.recordingId, _))

/-- The joins of `_require_candidate_artist` and `_eligible_artist_id` find the artist. -/
def artistReachable (userId artistId : Uuid) : Prop :=
  (∃ artist ∈ db.catalog.artists.get? artistId, artist.deletedAt = none) ∧
    ∃ e ∈ db.catalog.libraryEntries.items, e.2.userId = userId ∧ e.2.removedAt = none ∧
      ¬heldBack db e.1 ∧
      ∃ ref ∈ db.catalog.trackRefs.get? e.2.userTrackRefId, creditedOn db userId artistId ref

instance (userId artistId : Uuid) : Decidable (artistReachable db userId artistId) :=
  inferInstanceAs (Decidable ((∃ artist ∈ db.catalog.artists.get? artistId, _) ∧
    ∃ e ∈ db.catalog.libraryEntries.items, _ ∧ _ ∧ _ ∧
      ∃ ref ∈ db.catalog.trackRefs.get? e.2.userTrackRefId, _))

/-- **`_require_candidate_artist`**. -/
def requireCandidateArtist (candidate : DiscoveryCandidateRow) : Outcome PUnit :=
  check (∃ artistId ∈ candidate.canonicalArtistId, artistReachable db candidate.userId artistId)
    "discovery_target_not_found"

end

/-- **`_validate_authorization_values`** finds nothing wrong. -/
def authorizationFits (authorization : SourceAuthorizationRow) (ownerUserId canonicalArtistId : Uuid) : Prop :=
  authorization.userId = ownerUserId ∧ authorization.providerId = jamendoProviderId ∧
    authorization.canonicalArtistId = canonicalArtistId ∧
    authorization.adapterId = "autplay.jamendo.manual" ∧ authorization.adapterVersion = "1.0.0" ∧
    authorization.marketScope = "GLOBAL" ∧ authorization.rightsCapability = "AUTHORIZED_DOWNLOAD" ∧
    authorization.purpose = .manual ∧ authorization.policyId = none ∧
    authorization.policyRevision = none ∧ authorization.policyReference = "ADR-034:a1b-manual:1"

instance (authorization : SourceAuthorizationRow) (ownerUserId canonicalArtistId : Uuid) :
    Decidable (authorizationFits authorization ownerUserId canonicalArtistId) :=
  inferInstanceAs (Decidable (_ ∧ _ ∧ _ ∧ _ ∧ _ ∧ _ ∧ _ ∧ _ ∧ _ ∧ _ ∧ _))

def unrevokedAt (now : Int) (authorization : SourceAuthorizationRow) : Prop :=
  authorization.revokedAt = none ∧ now < authorization.expiresAt

instance (now : Int) (authorization : SourceAuthorizationRow) : Decidable (unrevokedAt now authorization) :=
  inferInstanceAs (Decidable (_ ∧ _))

/-- **`_require_candidate_authorization`**. -/
def requireCandidateAuthorization (now : Int) (db : DiscoveryDb) (candidate : DiscoveryCandidateRow) :
    Outcome (Nat × SourceAuthorizationRow) := do
  let authorizationId ← need candidate.sourceAuthorizationId "source_authorization_unavailable"
  let artistId ← need candidate.canonicalArtistId "source_authorization_unavailable"
  let authorization ← need (db.authorizations.get? authorizationId) "source_authorization_unavailable"
  check (authorization.revision = candidate.sourceAuthorizationRevision) "source_authorization_unavailable"
  check (authorizationFits authorization candidate.userId artistId) "source_authorization_unavailable"
  check (unrevokedAt now authorization) "source_authorization_unavailable"
  pure (authorizationId, authorization)

/-- **`acquisition_generation`**. -/
def acquisitionGeneration (db : DiscoveryDb) (userId : Uuid) : Option Int :=
  ((db.accounts.get? userId).filter fun account => account.active && account.deletedAt.isNone).map
    UserAccountRow.authorityGeneration

/-! ## jobs -/

/-- A command of `PostgresJobRepository.enqueue` without a time. -/
structure EnqueueJob where
  jobType : String
  schemaVersion : Int
  userId : Option Uuid
  priority : Int
  payload : JobPayload
  idempotency : JobIdempotency
  deriving DecidableEq

/-- **`_same_enqueue`**. -/
def sameEnqueue (stored : JobRow) (command : EnqueueJob) : Prop :=
  stored.jobType = command.jobType ∧ stored.schemaVersion = command.schemaVersion ∧
    stored.userId = command.userId ∧ stored.priority = command.priority ∧
    stored.payload = command.payload ∧ stored.scheduledAt = stored.createdAt

instance (stored : JobRow) (command : EnqueueJob) : Decidable (sameEnqueue stored command) :=
  inferInstanceAs (Decidable (_ ∧ _ ∧ _ ∧ _ ∧ _ ∧ _))

def EnqueueJob.row (command : EnqueueJob) (now : Int) : JobRow where
  jobType := command.jobType
  schemaVersion := command.schemaVersion
  userId := command.userId
  priority := command.priority
  payload := command.payload
  idempotency := some command.idempotency
  scheduledAt := now
  createdAt := now
  state := .queued
  attemptCount := 0
  leaseOwner := none
  leaseDeadline := none
  cancelRequestedAt := none

def findIdempotent (jobs : Dict Nat JobRow) (idempotency : JobIdempotency) : Option (Nat × JobRow) :=
  jobs.items.find? fun e => e.2.idempotency = some idempotency

/-- **`enqueue`**. -/
def enqueue (now : Int) (command : EnqueueJob) (jobs : Dict Nat JobRow) : Outcome (Nat × Dict Nat JobRow) :=
  match findIdempotent jobs command.idempotency with
  | none => .ok (freshId jobs, jobs.set (freshId jobs) (command.row now))
  | some (jobId, stored) => if sameEnqueue stored command then .ok (jobId, jobs) else .error .jobConflict

/-! ## attempts -/

/-- An attempt of the candidate is queued or running. -/
def inProgress (db : DiscoveryDb) (candidateId : CandidateId) : Prop :=
  ∃ e ∈ db.attempts.items, e.2.candidateId = candidateId ∧
    (e.2.state = .queued ∨ e.2.state = .running)

instance (db : DiscoveryDb) (candidateId : CandidateId) : Decidable (inProgress db candidateId) :=
  inferInstanceAs (Decidable (∃ e ∈ db.attempts.items, _))

def discoveryAcquireJob (candidateId : CandidateId) (userId : Uuid) (attemptId : AttemptId) : EnqueueJob where
  jobType := "discovery.acquire"
  schemaVersion := 1
  userId := some userId
  priority := 4
  payload := .candidate candidateId
  idempotency := .acquire userId attemptId

def newAttempt (now generation : Int) (candidateId : CandidateId)
    (authorization : Nat × SourceAuthorizationRow) : AcquisitionAttemptRow where
  authorityGeneration := generation
  candidateId := candidateId
  origin := .manual
  policy := none
  sourceAuthorizationId := authorization.1
  sourceAuthorizationRevision := authorization.2.revision
  jobId := none
  state := .queued
  errorCode := none
  createdAt := now
  updatedAt := now
  completedAt := none
  rowVersion := 1

/-- An attempt that is there already may be used again. -/
def attemptFits (attempt : AcquisitionAttemptRow) (candidateId : CandidateId)
    (authorization : Nat × SourceAuthorizationRow) : Prop :=
  attempt.candidateId = candidateId ∧ attempt.origin = .manual ∧
    attempt.sourceAuthorizationId = authorization.1 ∧
    attempt.sourceAuthorizationRevision = authorization.2.revision ∧
    (attempt.state = .queued ∨ attempt.state = .running ∨ attempt.state = .completed)

instance (attempt : AcquisitionAttemptRow) (candidateId : CandidateId)
    (authorization : Nat × SourceAuthorizationRow) :
    Decidable (attemptFits attempt candidateId authorization) :=
  inferInstanceAs (Decidable (_ ∧ _ ∧ _ ∧ _ ∧ _))

/-- The attempt of the operation: a new one, or the one that is there. -/
def attemptFor (now generation : Int) (candidateId : CandidateId)
    (authorization : Nat × SourceAuthorizationRow) (stored : Option AcquisitionAttemptRow) :
    Outcome AcquisitionAttemptRow :=
  match stored with
  | none => .ok (newAttempt now generation candidateId authorization)
  | some attempt => do
    check (attemptFits attempt candidateId authorization) "operation_conflict"
    pure attempt

/-- The candidate as `_enqueue_manual_attempt` leaves it. -/
def requeued (now : Int) (candidate : DiscoveryCandidateRow) (attemptId : AttemptId)
    (authorization : Nat × SourceAuthorizationRow) (jobId : Nat) : DiscoveryCandidateRow :=
  { candidate with
    currentAcquisitionAttemptId := some attemptId
    sourceAuthorizationId := some authorization.1
    sourceAuthorizationRevision := authorization.2.revision
    selectionOrigin := .manual
    policy := none
    jobId := some jobId
    disposition := .selected
    acquisitionState := .queued
    errorCode := none
    updatedAt := now
    rowVersion := candidate.rowVersion + 1 }

/-- **`_enqueue_manual_attempt`**. -/
def enqueueManualAttempt (now : Int) (candidateId : CandidateId) (candidate : DiscoveryCandidateRow)
    (authorization : Nat × SourceAuthorizationRow) (operationId : Uuid) (db : DiscoveryDb) :
    Outcome DiscoveryDb := do
  let generation ← need (acquisitionGeneration db candidate.userId) "source_authorization_unavailable"
  check (¬inProgress db candidateId) "candidate_acquisition_in_progress"
  let attemptId := AttemptId.manual candidate.userId candidateId operationId
  let attempt ← attemptFor now generation candidateId authorization (db.attempts.get? attemptId)
  let (jobId, jobs) ← enqueue now (discoveryAcquireJob candidateId candidate.userId attemptId) db.jobs
  check (attempt.jobId = none ∨ attempt.jobId = some jobId) "operation_conflict"
  pure { db with
    jobs := jobs
    attempts := db.attempts.set attemptId { attempt with jobId := some jobId }
    candidates := db.candidates.set candidateId (requeued now candidate attemptId authorization jobId) }

/-! ## the start -/

structure BulkStartResult where
  bulkOperationId : BulkId
  state : OperationState
  queuedCount : Nat
  readyCount : Nat
  failedCount : Nat
  replayed : Bool
  deriving DecidableEq

/-- **`_start_result`**. -/
def startResult (bulkOperationId : BulkId) (operation : BulkOperationRow) (replayed : Bool) :
    BulkStartResult where
  bulkOperationId := bulkOperationId
  state := operation.state
  queuedCount := operation.queuedCount
  readyCount := operation.readyCount
  failedCount := operation.failedCount
  replayed := replayed

structure Tally where
  queued : Nat
  ready : Nat
  failed : Nat
  deriving DecidableEq

def Tally.total (t : Tally) : Nat := t.queued + t.ready + t.failed

def ownedOperation (db : DiscoveryDb) (ownerUserId : Uuid) (bulkOperationId : BulkId) :
    Option BulkOperationRow :=
  (db.operations.get? bulkOperationId).filter fun operation => operation.userId = ownerUserId

def ownedCandidate (db : DiscoveryDb) (ownerUserId : Uuid) (candidateId : CandidateId) :
    Option DiscoveryCandidateRow :=
  (db.candidates.get? candidateId).filter fun candidate => candidate.userId = ownerUserId

/-- The candidates of an operation, by ordinal. -/
def plannedCandidates (db : DiscoveryDb) (bulkOperationId : BulkId) : List CandidateId :=
  ((db.items.items.filter fun e => e.1.1 = bulkOperationId).insertionSort fun e e' => e.2 ≤ e'.2).map
    fun e => e.1.2

/-- The states of an acquisition under way. -/
def underWay : List AcquisitionState := [.queued, .acquiring, .ingesting, .materializing, .retryWait]

/-- One turn of the loop of `start`. -/
def startCandidate (now : Int) (ownerUserId operationId : Uuid) (s : Tally × DiscoveryDb)
    (candidateId : CandidateId) : Outcome (Tally × DiscoveryDb) := do
  let (tally, db) := s
  let candidate ← need (ownedCandidate db ownerUserId candidateId) "discovery_target_not_found"
  let _ ← requireCandidateAuthorization now db candidate
  requireCandidateArtist db candidate
  if candidate.acquisitionState = .ready then
    pure ({ tally with ready := tally.ready + 1 }, db)
  else if candidate.disposition ∉ [Disposition.selectable, .selected] then
    pure ({ tally with failed := tally.failed + 1 }, db)
  else if candidate.acquisitionState ∈ underWay then
    pure ({ tally with queued := tally.queued + 1 }, db)
  else if candidate.acquisitionState ∉ [AcquisitionState.notRequested, .cancelled] then
    pure ({ tally with failed := tally.failed + 1 }, db)
  else do
    let authorization ← requireCandidateAuthorization now db candidate
    let db ← enqueueManualAttempt now candidateId candidate authorization operationId db
    pure ({ tally with queued := tally.queued + 1 }, db)

/-- What the counts say of the operation. -/
def Tally.state (t : Tally) : OperationState :=
  if t.queued ≠ 0 then .queued
  else if t.failed = 0 then .completed
  else if t.ready = 0 then .failedTerminal
  else .partlyDone

/-- The operation with the start bound to it. -/
def BulkOperationRow.begun (operation : BulkOperationRow) (now : Int) (bulkOperationId : BulkId)
    (operationId : Uuid) : BulkOperationRow :=
  { operation with
    startOperationId := some operationId
    startRequestSha256 := some (.bulkStart bulkOperationId operationId)
    startedAt := some now }

def BulkOperationRow.counted (operation : BulkOperationRow) (now : Int) (tally : Tally) :
    BulkOperationRow :=
  { operation with
    queuedCount := tally.queued
    readyCount := tally.ready
    failedCount := tally.failed
    state := tally.state
    completedAt := if tally.queued = 0 then some now else operation.completedAt
    updatedAt := now
    rowVersion := operation.rowVersion + 1 }

/-- `uq_bulk_operation_owner_start_operation`: the owner has no other operation with that start. -/
def startUnused (db : DiscoveryDb) (ownerUserId : Uuid) (bulkOperationId : BulkId) (operationId : Uuid) : Prop :=
  ∀ e ∈ db.operations.items, e.2.userId = ownerUserId → e.2.startOperationId = some operationId →
    e.1 = bulkOperationId

instance (db : DiscoveryDb) (ownerUserId : Uuid) (bulkOperationId : BulkId) (operationId : Uuid) :
    Decidable (startUnused db ownerUserId bulkOperationId operationId) :=
  inferInstanceAs (Decidable (∀ e ∈ db.operations.items, _))

/-- The rest of `start`, for an operation that was not started. -/
def startFirst (now : Int) (ownerUserId : Uuid) (bulkOperationId : BulkId) (operationId : Uuid)
    (operation : BulkOperationRow) (db : DiscoveryDb) : Outcome (BulkStartResult × DiscoveryDb) := do
  let begun := operation.begun now bulkOperationId operationId
  if startUnused db ownerUserId bulkOperationId operationId then do
    let (tally, db) ← (plannedCandidates db bulkOperationId).foldlM
      (startCandidate now ownerUserId operationId)
      (⟨0, 0, 0⟩, { db with operations := db.operations.set bulkOperationId begun })
    let counted := begun.counted now tally
    pure (startResult bulkOperationId counted false,
      { db with operations := db.operations.set bulkOperationId counted })
  else .error (.integrity "uq_bulk_operation_owner_start_operation")

/-- **`start`**. -/
def start (now : Int) (ownerUserId : Uuid) (bulkOperationId : BulkId) (operationId : Uuid)
    (db : DiscoveryDb) : Outcome (BulkStartResult × DiscoveryDb) := do
  requireProvider db
  let operation ← need (ownedOperation db ownerUserId bulkOperationId) "discovery_target_not_found"
  check ((plannedCandidates db bulkOperationId).length = operation.plannedCandidateCount)
    "discovery_bulk_preview_invalid"
  match operation.startOperationId with
  | some started => do
    check (started = operationId ∧
      operation.startRequestSha256 = some (.bulkStart bulkOperationId operationId)) "operation_conflict"
    pure (startResult bulkOperationId operation true, db)
  | none => startFirst now ownerUserId bulkOperationId operationId operation db

end AutPlay.Discovery
