import AutPlay.Discovery.Preview

/-!
# Acquisitions

* `requireFence`, `requireCurrentAttempt`      what a worker is checked for;
* `startSearchAcquisition`, `enqueueExplicitManualCandidate`   the other ways into the queue;
* `claimAcquisition`, `prepareIngest`, `failAcquisition`       the steps of a worker;
* `enqueueAuto`, `cancelAutoWork`              the automatic attempts;
* `finalizeReady`, `failDiscoveryCandidate`    what the vault makes of an upload.

What `_materialize_identity` does to the catalog comes with the call, and so does its failure.
-/

set_option linter.unusedSectionVars false

namespace AutPlay.Discovery

open AutPlay.Sync (Uuid)
open AutPlay.Jobs (JobState)

/-! ## fences -/

structure LeaseFence where
  jobId : Nat
  workerId : String
  attemptNo : Int
  deriving DecidableEq

/-- The job runs under the lease of the fence, for the candidate. -/
def holdsLease (now : Int) (fence : LeaseFence) (owner : Uuid) (candidateId : CandidateId) (job : JobRow) : Prop :=
  job.userId = some owner ∧ job.state = .running ∧ job.leaseOwner = some fence.workerId ∧
    job.attemptCount = fence.attemptNo ∧ job.jobType = "discovery.acquire" ∧ job.schemaVersion = 1 ∧
    job.payload = .candidate candidateId ∧ job.cancelRequestedAt = none ∧
    ∃ deadline ∈ job.leaseDeadline, now < deadline

instance (now : Int) (fence : LeaseFence) (owner : Uuid) (candidateId : CandidateId) (job : JobRow) :
    Decidable (holdsLease now fence owner candidateId job) :=
  inferInstanceAs (Decidable (_ ∧ _ ∧ _ ∧ _ ∧ _ ∧ _ ∧ _ ∧ _ ∧ ∃ deadline ∈ job.leaseDeadline, _))

/-- **`_require_fence`**. -/
def requireFence (now : Int) (fence : LeaseFence) (owner : Uuid) (candidateId : CandidateId) (db : DiscoveryDb) :
    Outcome PUnit :=
  check (∃ job ∈ db.jobs.get? fence.jobId, holdsLease now fence owner candidateId job) "lease_fence_lost"

def AttemptState.isActive : AttemptState → Bool
  | .queued | .running => true
  | _ => false

/-- The authorization of an attempt, apart from its purpose and its time. -/
def sourceFits (authorization : SourceAuthorizationRow) (candidate : DiscoveryCandidateRow) : Prop :=
  authorization.userId = candidate.userId ∧ authorization.providerId = jamendoProviderId ∧
    some authorization.canonicalArtistId = candidate.canonicalArtistId ∧
    authorization.adapterId = "autplay.jamendo.manual" ∧ authorization.adapterVersion = "1.0.0" ∧
    authorization.marketScope = "GLOBAL" ∧ authorization.rightsCapability = "AUTHORIZED_DOWNLOAD" ∧
    authorization.revokedAt = none

instance (authorization : SourceAuthorizationRow) (candidate : DiscoveryCandidateRow) :
    Decidable (sourceFits authorization candidate) :=
  inferInstanceAs (Decidable (_ ∧ _ ∧ _ ∧ _ ∧ _ ∧ _ ∧ _ ∧ _))

def manualFits (authorization : SourceAuthorizationRow) : Prop :=
  authorization.purpose = .manual ∧ authorization.policyId = none ∧ authorization.policyRevision = none ∧
    authorization.policyReference = "ADR-034:a1b-manual:1"

instance (authorization : SourceAuthorizationRow) : Decidable (manualFits authorization) :=
  inferInstanceAs (Decidable (_ ∧ _ ∧ _ ∧ _))

/-- The policy of an automatic attempt is what it was, and automation is on. -/
def policyFits (db : DiscoveryDb) (candidate : DiscoveryCandidateRow) (attempt : AcquisitionAttemptRow)
    (authorization : SourceAuthorizationRow) : Prop :=
  ∃ lineage ∈ attempt.policy, ∃ policy ∈ db.policies.get? lineage.1, policy.userId = candidate.userId ∧
    policy.currentRevision = lineage.2 ∧ policy.scheduled = true ∧ policy.autoImport = true ∧
    policy.automationEnabled = true ∧ authorization.purpose = .autoImport ∧
    authorization.policyId = some lineage.1 ∧ authorization.policyRevision = some lineage.2 ∧
    authorization.policyReference = "ADR-042:a1c-auto-import:1"

instance (db : DiscoveryDb) (candidate : DiscoveryCandidateRow) (attempt : AcquisitionAttemptRow)
    (authorization : SourceAuthorizationRow) : Decidable (policyFits db candidate attempt authorization) :=
  inferInstanceAs (Decidable (∃ lineage ∈ attempt.policy, ∃ policy ∈ db.policies.get? lineage.1, _))

/-- The attempt is the one of the candidate, and it is under way. -/
def attemptCurrent (candidateId : CandidateId) (candidate : DiscoveryCandidateRow) (fence : Option LeaseFence)
    (attempt : AcquisitionAttemptRow) : Prop :=
  attempt.candidateId = candidateId ∧ attempt.jobId = candidate.jobId ∧
    (∀ f ∈ fence, attempt.jobId = some f.jobId) ∧ attempt.state.isActive = true ∧
    candidate.sourceAuthorizationId = some attempt.sourceAuthorizationId ∧
    candidate.sourceAuthorizationRevision = attempt.sourceAuthorizationRevision

instance (candidateId : CandidateId) (candidate : DiscoveryCandidateRow) (fence : Option LeaseFence)
    (attempt : AcquisitionAttemptRow) : Decidable (attemptCurrent candidateId candidate fence attempt) :=
  inferInstanceAs (Decidable (_ ∧ _ ∧ (∀ f ∈ fence, _) ∧ _ ∧ _ ∧ _))

/-- What the origin of an attempt asks of its authorization. -/
def requireOrigin (db : DiscoveryDb) (candidate : DiscoveryCandidateRow) (attempt : AcquisitionAttemptRow)
    (authorization : SourceAuthorizationRow) : Outcome PUnit :=
  match attempt.origin with
  | .manual => check (manualFits authorization) "source_authorization_unavailable"
  | .automatic => check (policyFits db candidate attempt authorization) "policy_revision_stale"

/-- The fence of a worker, where there is one. -/
def requireLease (now : Int) (fence : Option LeaseFence) (owner : Uuid) (candidateId : CandidateId)
    (db : DiscoveryDb) : Outcome PUnit :=
  match fence with
  | some f => requireFence now f owner candidateId db
  | none => .ok ⟨⟩

/-- **`_require_current_attempt`**. -/
def requireCurrentAttempt (now : Int) (candidateId : CandidateId) (candidate : DiscoveryCandidateRow)
    (fence : Option LeaseFence) (db : DiscoveryDb) : Outcome (AttemptId × AcquisitionAttemptRow) := do
  let attemptId ← need candidate.currentAcquisitionAttemptId "source_authorization_unavailable"
  let attempt ← need (db.attempts.get? attemptId) "source_authorization_unavailable"
  check (attemptCurrent candidateId candidate fence attempt) "source_authorization_unavailable"
  check (acquisitionGeneration db candidate.userId = some attempt.authorityGeneration)
    "source_authorization_unavailable"
  let authorization ← need (db.authorizations.get? attempt.sourceAuthorizationId)
    "source_authorization_unavailable"
  check (authorization.revision = attempt.sourceAuthorizationRevision ∧ sourceFits authorization candidate)
    "source_authorization_unavailable"
  requireOrigin db candidate attempt authorization
  check (now < authorization.expiresAt) "source_authorization_unavailable"
  requireLease now fence candidate.userId candidateId db
  pure (attemptId, attempt)

/-! ## the counts of the operations -/

/-- The states and dispositions of the candidates of an operation. -/
def operationCandidates (db : DiscoveryDb) (bulk : BulkId) : List DiscoveryCandidateRow :=
  (db.items.items.filter fun e => e.1.1 = bulk).filterMap fun e => db.candidates.get? e.1.2

def countsFailed (row : DiscoveryCandidateRow) : Bool :=
  row.acquisitionState ∈ [AcquisitionState.failedTerminal, .cancelled] ||
    (row.acquisitionState == .notRequested &&
      row.disposition ∉ [Disposition.selectable, .selected, .alreadyInLibrary])

/-- One operation counted again. -/
def BulkOperationRow.recounted (operation : BulkOperationRow) (now : Int) (rows : List DiscoveryCandidateRow) :
    BulkOperationRow :=
  let ready := rows.countP fun row => row.acquisitionState == .ready
  let failed := rows.countP countsFailed
  let closed := ready + failed = operation.plannedCandidateCount
  { operation with
    readyCount := ready
    failedCount := failed
    queuedCount := rows.countP fun row => row.acquisitionState ∈ underWay
    state := if closed then (if failed = 0 then .completed else if ready = 0 then .failedTerminal else .partlyDone)
      else .running
    completedAt := if closed then some now else none
    updatedAt := now
    rowVersion := operation.rowVersion + 1 }

def refreshOperation (now : Int) (db : DiscoveryDb) (bulk : BulkId) : DiscoveryDb :=
  match db.operations.get? bulk with
  | none => db
  | some operation =>
    if operation.startedAt.isNone then db
    else { db with
      operations := db.operations.set bulk (operation.recounted now (operationCandidates db bulk)) }

/-- **`refresh_bulk_operations`**. -/
def refreshBulkOperations (now : Int) (candidateId : CandidateId) (db : DiscoveryDb) : DiscoveryDb :=
  ((db.items.items.filter fun e => e.1.2 = candidateId).map fun e => e.1.1).foldl (refreshOperation now) db

/-! ## into the queue -/

/-- The arguments of a search acquisition. -/
structure SearchEvidence where
  providerTrackId : String
  providerArtistId : String
  evidence : TrackEvidence
  acquisitionAllowed : Bool
  deriving DecidableEq

def SearchEvidence.track (e : SearchEvidence) : ProviderTrack :=
  ⟨e.providerTrackId, e.providerArtistId, e.evidence, true⟩

def newSearchOperation (now : Int) (owner operationId : Uuid) (request : BulkRequest) : BulkOperationRow where
  userId := owner
  importJobId := none
  operationId := operationId
  requestSha256 := request
  startOperationId := some operationId
  startRequestSha256 := some request
  state := .queued
  selectedArtistCount := 1
  plannedCandidateCount := 1
  queuedCount := 1
  readyCount := 0
  failedCount := 0
  createdAt := now
  updatedAt := now
  startedAt := some now
  completedAt := none
  rowVersion := 1

/-- The candidate of a search, under the authorization of the search. -/
def searched (now : Int) (authorization : Nat × SourceAuthorizationRow) (evidence : TrackEvidence)
    (row : DiscoveryCandidateRow) : DiscoveryCandidateRow :=
  if row.acquisitionState ∈ [AcquisitionState.notRequested, .cancelled] then
    { row with
      sourceAuthorizationId := some authorization.1
      sourceAuthorizationRevision := authorization.2.revision
      selectionOrigin := .manual
      policy := none
      evidence := evidence
      disposition := .selectable
      errorCode := none
      updatedAt := now
      rowVersion := row.rowVersion + 1 }
  else row

/-- The rest of a search acquisition, by the state of its candidate. -/
def searchOutcome (now : Int) (operationId : Uuid) (candidateId : CandidateId) (row : DiscoveryCandidateRow)
    (authorization : Nat × SourceAuthorizationRow) (operation : BulkOperationRow) (db : DiscoveryDb) :
    Outcome (BulkOperationRow × DiscoveryDb) :=
  if row.acquisitionState = .ready then
    .ok ({ operation with queuedCount := 0, readyCount := 1, state := .completed, completedAt := some now }, db)
  else if row.acquisitionState ∈ underWay then .ok ({ operation with state := .queued }, db)
  else if row.acquisitionState ∈ [AcquisitionState.notRequested, .cancelled] ∧
      row.disposition ∈ [Disposition.selectable, .selected] then do
    let db ← enqueueManualAttempt now candidateId row authorization operationId db
    pure (operation, db)
  else .error (.bulk "candidate_not_selectable")

section
variable (normalizeText : String → String)

/-- **`start_search_acquisition`**. -/
def startSearchAcquisition (now : Int) (owner operationId : Uuid) (evidence : SearchEvidence) (db : DiscoveryDb) :
    Outcome (BulkStartResult × DiscoveryDb) := do
  requireProvider db
  let artistId ← eligibleArtistId normalizeText db owner evidence.evidence.artist
  check (evidence.acquisitionAllowed = true) "discovery_not_eligible"
  let request := BulkRequest.searchAcquire operationId evidence.providerArtistId evidence.providerTrackId
    evidence.evidence
  let bulk := BulkId.search owner operationId
  match findOperation db owner operationId with
  | some (found, operation) => do
    check (operation.importJobId = none ∧ operation.startOperationId = some operationId ∧
      operation.requestSha256 = request ∧ operation.startRequestSha256 = some request) "operation_conflict"
    pure (startResult found operation true, db)
  | none =>
    if db.operations.has bulk = true ∨ ¬startUnused db owner bulk operationId then
      .error (.integrity "bulk_operation")
    else do
      let operation := newSearchOperation now owner operationId request
      let db := { db with operations := db.operations.set bulk operation }
      let (authorization, db) ← grantSourceAuthorization now owner artistId (some bulk) db
      let (candidateId, row) ← candidateOf now owner artistId authorization evidence.track db
      check (row.providerArtistId = evidence.providerArtistId ∧ row.canonicalArtistId = some artistId)
        "discovery_provider_response_invalid"
      let row := searched now authorization evidence.evidence row
      let db := { db with
        candidates := db.candidates.set candidateId row
        items := db.items.set (bulk, candidateId) 0 }
      let (operation, db) ← searchOutcome now operationId candidateId row authorization operation db
      let operation := { operation with updatedAt := now, rowVersion := operation.rowVersion + 1 }
      pure (startResult bulk operation false, { db with operations := db.operations.set bulk operation })

end

inductive ManualAction
  | select
  | retry
  deriving DecidableEq

def ManualAction.allowedStates : ManualAction → List AcquisitionState
  | .select => [.notRequested, .cancelled]
  | .retry => [.failedTerminal]

/-- **`enqueue_explicit_manual_candidate`**. -/
def enqueueExplicitManualCandidate (now : Int) (owner : Uuid) (candidateId : CandidateId) (operationId : Uuid)
    (action : ManualAction) (db : DiscoveryDb) : Outcome DiscoveryDb := do
  requireProvider db
  let candidate ← need (ownedCandidate db owner candidateId) "discovery_target_not_found"
  requireCandidateArtist db candidate
  let artistId ← need candidate.canonicalArtistId "discovery_target_not_found"
  check (candidate.disposition ∈ [Disposition.selectable, .selected] ∧
    candidate.acquisitionState ∈ action.allowedStates) "candidate_not_selectable"
  let (authorization, db) ← grantSourceAuthorization now owner artistId none db
  enqueueManualAttempt now candidateId candidate authorization operationId db

/-! ## the worker -/

/-- The candidate of a call that the job works for. -/
def leasedCandidate (db : DiscoveryDb) (owner : Uuid) (candidateId : CandidateId) (fence : LeaseFence) :
    Option DiscoveryCandidateRow :=
  (ownedCandidate db owner candidateId).filter fun candidate => candidate.jobId = some fence.jobId

structure AcquisitionTarget where
  candidateId : CandidateId
  acquisitionAttemptId : AttemptId
  ownerUserId : Uuid
  providerTrackId : String
  origin : Origin
  deriving DecidableEq

/-- Candidate and attempt written at once. -/
def DiscoveryDb.withAttempt (db : DiscoveryDb) (candidateId : CandidateId) (candidate : DiscoveryCandidateRow)
    (attemptId : AttemptId) (attempt : AcquisitionAttemptRow) : DiscoveryDb :=
  { db with
    candidates := db.candidates.set candidateId candidate
    attempts := db.attempts.set attemptId attempt }

/-- **`claim_acquisition`**. -/
def claimAcquisition (now : Int) (owner : Uuid) (candidateId : CandidateId) (fence : LeaseFence)
    (automaticEnabled : Bool) (db : DiscoveryDb) : Outcome (Option AcquisitionTarget × DiscoveryDb) := do
  requireFence now fence owner candidateId db
  let candidate ← need (leasedCandidate db owner candidateId fence) "discovery_target_not_found"
  requireProvider db
  let (attemptId, attempt) ← requireCurrentAttempt now candidateId candidate (some fence) db
  check (attempt.origin = .automatic → automaticEnabled = true) "automation_not_active"
  requireCandidateArtist db candidate
  if candidate.acquisitionState = .ready then pure (none, db)
  else if candidate.acquisitionState ∈ [AcquisitionState.ingesting, .materializing] then do
    check (db.uploads.items.any fun e =>
        e.2.sourceCandidateId = candidateId && e.2.sourceAcquisitionAttemptId = attemptId)
      "discovery_ingest_state_invalid"
    pure (none, db)
  else do
    check (candidate.acquisitionState ∈ [AcquisitionState.queued, .acquiring, .retryWait])
      "candidate_not_selectable"
    let claimed := { candidate with
      acquisitionState := .acquiring, updatedAt := now, rowVersion := candidate.rowVersion + 1 }
    let running := { attempt with state := .running, updatedAt := now, rowVersion := attempt.rowVersion + 1 }
    let db := refreshBulkOperations now candidateId (db.withAttempt candidateId claimed attemptId running)
    let _ ← requireCurrentAttempt now candidateId claimed (some fence) db
    pure (some ⟨candidateId, attemptId, candidate.userId, candidate.providerTrackId, attempt.origin⟩, db)

/-- What `_materialize_identity` found or made. -/
structure Materialized where
  catalog : Catalog
  recordingId : Uuid
  libraryEntryId : Uuid

structure AcquisitionPrepared where
  uploadSessionId : AttemptId
  ingestJobId : Nat
  recordingId : Uuid
  deriving DecidableEq

def vaultIngestJob (userId : Uuid) (attemptId : AttemptId) : EnqueueJob where
  jobType := "vault.ingest"
  schemaVersion := 1
  userId := some userId
  priority := 3
  payload := .uploadSession attemptId
  idempotency := .ingest attemptId

/-- **`_create_ingest_locked`**. -/
def createIngestLocked (now : Int) (candidateId : CandidateId) (candidate : DiscoveryCandidateRow)
    (attemptId : AttemptId) (evidence : TrackEvidence) (stagingKey : String) (identity : Option Materialized)
    (db : DiscoveryDb) : Outcome (AcquisitionPrepared × DiscoveryCandidateRow × DiscoveryDb) := do
  let identity ← need identity "identity_review_required"
  let (ingestJobId, jobs) ← enqueue now (vaultIngestJob candidate.userId attemptId) db.jobs
  if db.uploads.has attemptId = true ∨ db.uploads.items.any (fun e => e.2.stagingKey = stagingKey) = true then
    .error (.integrity "upload_session")
  else
    let ingesting := { candidate with
      evidence := evidence
      recordingId := some identity.recordingId
      libraryEntryId := some identity.libraryEntryId
      acquisitionState := .ingesting
      updatedAt := now
      rowVersion := candidate.rowVersion + 1 }
    let upload : UploadSessionRow :=
      ⟨candidate.userId, candidateId, attemptId, identity.recordingId, stagingKey, some ingestJobId⟩
    .ok (⟨attemptId, ingestJobId, identity.recordingId⟩, ingesting,
      refreshBulkOperations now candidateId { db with
        catalog := identity.catalog
        jobs := jobs
        uploads := db.uploads.set attemptId upload
        candidates := db.candidates.set candidateId ingesting })

/-- The upload of an attempt. -/
def uploadOf (db : DiscoveryDb) (attemptId : AttemptId) : Option (AttemptId × UploadSessionRow) :=
  db.uploads.items.find? fun e => e.2.sourceAcquisitionAttemptId = attemptId

/-- **`prepare_ingest`**. -/
def prepareIngest (now : Int) (owner : Uuid) (candidateId : CandidateId) (fence : LeaseFence)
    (evidence : SearchEvidence) (stagingKey : String) (identity : Option Materialized) (db : DiscoveryDb) :
    Outcome (AcquisitionPrepared × DiscoveryDb) := do
  check (¬"provider-".isPrefixOf stagingKey = true) "source_authorization_unavailable"
  requireFence now fence owner candidateId db
  requireProvider db
  let candidate ← need (leasedCandidate db owner candidateId fence) "discovery_not_eligible"
  check (candidate.acquisitionState ∈ [AcquisitionState.acquiring, .ingesting] ∧
    evidence.providerTrackId = candidate.providerTrackId ∧
    evidence.providerArtistId = candidate.providerArtistId ∧ evidence.acquisitionAllowed = true)
    "discovery_not_eligible"
  let (attemptId, _) ← requireCurrentAttempt now candidateId candidate (some fence) db
  requireCandidateArtist db candidate
  match uploadOf db attemptId with
  | some (uploadSessionId, upload) => do
    let jobId ← need upload.jobId "discovery_ingest_state_invalid"
    pure (⟨uploadSessionId, jobId, upload.targetRecordingId⟩, db)
  | none => do
    let (prepared, ingesting, db) ←
      createIngestLocked now candidateId candidate attemptId evidence.evidence stagingKey identity db
    let _ ← requireCurrentAttempt now candidateId ingesting (some fence) db
    pure (prepared, db)

/-- **`fail_acquisition`**. -/
def failAcquisition (now : Int) (owner : Uuid) (candidateId : CandidateId) (fence : LeaseFence)
    (errorCode : String) (terminal : Bool) (db : DiscoveryDb) : Outcome DiscoveryDb := do
  requireFence now fence owner candidateId db
  let candidate ← need (leasedCandidate db owner candidateId fence) "discovery_target_not_found"
  let (attemptId, attempt) ← requireCurrentAttempt now candidateId candidate (some fence) db
  let code := String.ofList (errorCode.toList.take 100)
  let failed := { candidate with
    acquisitionState := if terminal then .failedTerminal else .retryWait
    errorCode := some code
    updatedAt := now
    rowVersion := candidate.rowVersion + 1 }
  let closed := { attempt with
    state := if terminal then .failed else .queued
    errorCode := some code
    updatedAt := now
    completedAt := if terminal then some now else none
    rowVersion := attempt.rowVersion + 1 }
  let db := refreshBulkOperations now candidateId (db.withAttempt candidateId failed attemptId closed)
  requireFence now fence owner candidateId db
  let authorization ← need ((db.authorizations.get? attempt.sourceAuthorizationId).filter fun row =>
    row.revision = attempt.sourceAuthorizationRevision) "source_authorization_unavailable"
  check (now < authorization.expiresAt) "source_authorization_unavailable"
  pure db

/-! ## automatic attempts -/

def AttemptId.number : AttemptId → Nat
  | .generated n => n
  | .manual .. => 0

/-- A generated identifier that no attempt has. -/
def freshAttempt (attempts : Dict AttemptId AcquisitionAttemptRow) : AttemptId :=
  .generated ((attempts.items.map fun e => e.1.number).foldr max 0 + 1)

/-- The authorization of an automatic attempt: the current one of the policy, or a new one. -/
def grantAutomatic (now : Int) (policyId : Uuid) (policy : ArtistPolicyRow) (db : DiscoveryDb) :
    (Nat × SourceAuthorizationRow) × DiscoveryDb :=
  let current := db.authorizations.items.find? fun e =>
    e.2.userId = policy.userId ∧ e.2.providerId = jamendoProviderId ∧
      e.2.canonicalArtistId = policy.canonicalArtistId ∧ e.2.purpose = .autoImport ∧
      e.2.policyId = some policyId ∧ e.2.policyRevision = some policy.currentRevision ∧ e.2.revokedAt = none
  let grant (db : DiscoveryDb) : (Nat × SourceAuthorizationRow) × DiscoveryDb :=
    let revision := ((db.authorizations.items.filter fun e =>
      e.2.userId = policy.userId ∧ e.2.providerId = jamendoProviderId ∧
        e.2.canonicalArtistId = policy.canonicalArtistId ∧ e.2.purpose = .autoImport).map
          fun e => e.2.revision).foldr max 0
    let row : SourceAuthorizationRow :=
      { newAuthorization now policy.userId policy.canonicalArtistId none (revision + 1) with
        purpose := .autoImport
        policyId := some policyId
        policyRevision := some policy.currentRevision
        policyReference := "ADR-042:a1c-auto-import:1" }
    ((freshId db.authorizations, row),
      { db with authorizations := db.authorizations.set (freshId db.authorizations) row })
  match current with
  | some (authorizationId, row) =>
    if now < row.expiresAt then ((authorizationId, row), db)
    else grant { db with
      authorizations := db.authorizations.set authorizationId
        { row with revokedAt := some now, rowVersion := row.rowVersion + 1 } }
  | none => grant db

/-- **`_enqueue_auto`**. -/
def enqueueAuto (now : Int) (candidateId : CandidateId) (policyId : Uuid) (db : DiscoveryDb) :
    Outcome (Bool × DiscoveryDb) := do
  let candidate ← need (db.candidates.get? candidateId) "discovery_target_not_found"
  let policy ← need (db.policies.get? policyId) "discovery_policy_not_found"
  if candidate.disposition ≠ .selectable ∨ candidate.acquisitionState ≠ .notRequested then pure (false, db)
  else do
    let generation ← need (acquisitionGeneration db policy.userId) "source_authorization_unavailable"
    let (authorization, db) := grantAutomatic now policyId policy db
    let attemptId := freshAttempt db.attempts
    let (jobId, jobs) ← enqueue now
      { discoveryAcquireJob candidateId policy.userId attemptId with
        idempotency := .acquireAutomatic policy.userId candidateId attemptId } db.jobs
    let attempt := { newAttempt now generation candidateId authorization with
      origin := .automatic
      policy := some (policyId, policy.currentRevision)
      jobId := some jobId }
    let queued := { requeued now candidate attemptId authorization jobId with
      selectionOrigin := .automatic
      policy := some (policyId, policy.currentRevision) }
    pure (true, ({ db with jobs := jobs } : DiscoveryDb).withAttempt candidateId queued attemptId attempt)

/-- **`request_cancel_for_owner`**, of a job that is not finished. -/
def requestCancel (now : Int) (owner : Uuid) (jobId : Nat) (jobs : Dict Nat JobRow) : Dict Nat JobRow :=
  match jobs.get? jobId with
  | none => jobs
  | some job =>
    if job.userId ≠ some owner ∨ job.state.isTerminal then jobs
    else if job.state = .running then
      jobs.set jobId { job with cancelRequestedAt := some (job.cancelRequestedAt.getD now) }
    else jobs.set jobId { job with state := .cancelled, cancelRequestedAt := some (job.cancelRequestedAt.getD now) }

/-- One turn of the loop of `_cancel_auto_work` over the attempts. -/
def cancelAttempt (now : Int) (db : DiscoveryDb) (entry : AttemptId × AcquisitionAttemptRow) : DiscoveryDb :=
  let (attemptId, attempt) := entry
  let closed := { attempt with
    state := .cancelled, completedAt := some now, updatedAt := now, rowVersion := attempt.rowVersion + 1 }
  match db.candidates.get? attempt.candidateId with
  | none => { db with attempts := db.attempts.set attemptId closed }
  | some candidate =>
    let jobs := match attempt.jobId with
      | some jobId => requestCancel now candidate.userId jobId db.jobs
      | none => db.jobs
    let stopped := if candidate.currentAcquisitionAttemptId = some attemptId ∧
        candidate.acquisitionState ≠ .ready then
        { candidate with
          acquisitionState := .cancelled
          errorCode := some "policy_revision_stale"
          updatedAt := now
          rowVersion := candidate.rowVersion + 1 }
      else candidate
    ({ db with jobs := jobs } : DiscoveryDb).withAttempt attempt.candidateId stopped attemptId closed

/-- **`_cancel_auto_work`**, apart from the runs of the policy. -/
def cancelAutoWork (now : Int) (policyId : Uuid) (db : DiscoveryDb) : DiscoveryDb :=
  let attempts := db.attempts.items.filter fun e =>
    e.2.policy.map Prod.fst = some policyId ∧ e.2.origin = .automatic ∧ e.2.state.isActive = true
  let db := attempts.foldl (cancelAttempt now) db
  { db with
    authorizations := db.authorizations.mapValues fun row =>
      if row.policyId = some policyId ∧ row.purpose = .autoImport ∧ row.revokedAt = none then
        { row with revokedAt := some now, rowVersion := row.rowVersion + 1 }
      else row }

/-! ## the vault -/

/-- The candidate and the attempt of an upload, while they wait for it. -/
def waiting (db : DiscoveryDb) (attemptId : AttemptId) :
    Option (UploadSessionRow × DiscoveryCandidateRow × AcquisitionAttemptRow) := do
  let upload ← db.uploads.get? attemptId
  let candidate ← ownedCandidate db upload.userId upload.sourceCandidateId
  let attempt ← db.attempts.get? upload.sourceAcquisitionAttemptId
  if candidate.currentAcquisitionAttemptId = some upload.sourceAcquisitionAttemptId ∧
      attempt.candidateId = upload.sourceCandidateId ∧ attempt.state.isActive = true then
    some (upload, candidate, attempt)
  else none

/-- The upload was published: what the vault writes of the candidate and its attempt. -/
def finalizeReady (now : Int) (attemptId : AttemptId) (db : DiscoveryDb) : Outcome DiscoveryDb := do
  let (upload, candidate, attempt) ← need (waiting db attemptId) "upload_state"
  check (candidate.acquisitionState ∈ [AcquisitionState.ingesting, .materializing]) "upload_state"
  pure (refreshBulkOperations now upload.sourceCandidateId (db.withAttempt upload.sourceCandidateId
    { candidate with
      errorCode := none, acquisitionState := .ready, updatedAt := now, rowVersion := candidate.rowVersion + 1 }
    upload.sourceAcquisitionAttemptId
    { attempt with
      state := .completed, errorCode := none, completedAt := some now, updatedAt := now,
      rowVersion := attempt.rowVersion + 1 }))

/-- **`_fail_discovery_candidate`**. -/
def failDiscoveryCandidate (now : Int) (attemptId : AttemptId) (code : String) (db : DiscoveryDb) : DiscoveryDb :=
  match waiting db attemptId with
  | none => db
  | some (upload, candidate, attempt) =>
    if candidate.acquisitionState = .ready then db
    else
      let code := String.ofList (code.toList.take 100)
      refreshBulkOperations now upload.sourceCandidateId (db.withAttempt upload.sourceCandidateId
        { candidate with
          acquisitionState := .failedTerminal, errorCode := some code, updatedAt := now,
          rowVersion := candidate.rowVersion + 1 }
        upload.sourceAcquisitionAttemptId
        { attempt with
          state := .failed, errorCode := some code, completedAt := some now, updatedAt := now,
          rowVersion := attempt.rowVersion + 1 })

end AutPlay.Discovery
