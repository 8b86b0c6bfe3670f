import AutPlay.Jobs.Rows
import AutPlay.Lib.Dict
import AutPlay.Sync.Uuid

/-!
# Tables of the discovery

* `CandidateId`, `AttemptId`, `BulkId`   identifiers, with the names that `uuid5` is taken of;
* `DiscoveryCandidateRow`, `SourceAuthorizationRow`, `AcquisitionAttemptRow`, `BulkOperationRow`,
  `UploadSessionRow`, `JobRow`         the tables that the operations write;
* `DiscoveryDb`                          the tables, with what the operations read of the catalog;
* `freshId`                              an identifier that a table does not hold.

A digest is the document that it is taken of.  A point of time is a number of microseconds.
-/

set_option linter.unusedSectionVars false

namespace AutPlay.Discovery

open AutPlay.Sync (Uuid)
open AutPlay.Jobs (JobState)

/-! ## identifiers -/

/-- `uuid5` of a name, or a value that the database made. -/
inductive CandidateId
  | named (ownerUserId providerId : Uuid) (marketScope providerTrackId : String)
  | generated (n : Nat)
  deriving DecidableEq

inductive AttemptId
  | manual (userId : Uuid) (candidateId : CandidateId) (operationId : Uuid)
  | generated (n : Nat)
  deriving DecidableEq

inductive BulkId
  | preview (ownerUserId operationId : Uuid)
  | search (ownerUserId operationId : Uuid)
  deriving DecidableEq

/-- What a provider says of a track, as far as it is stored. -/
structure TrackEvidence where
  title : String
  artist : String
  album : Option String
  durationSeconds : Int
  licenseUrl : String
  shareUrl : String
  deriving DecidableEq

/-- The documents that the operations take digests of. -/
inductive BulkRequest
  | bulkPreview (importJobId operationId : Uuid) (providerArtistIds providerTrackIds : List String)
  | bulkStart (bulkOperationId : BulkId) (operationId : Uuid)
  | searchAcquire (operationId : Uuid) (providerArtistId providerTrackId : String) (evidence : TrackEvidence)
  deriving DecidableEq

/-! ## values of the columns -/

inductive Disposition
  | selectable
  | selected
  | unavailable
  | alreadyInLibrary
  | identityReviewRequired
  | ignored
  deriving DecidableEq

inductive AcquisitionState
  | notRequested
  | queued
  | acquiring
  | ingesting
  | materializing
  | ready
  | retryWait
  | failedTerminal
  | cancelled
  deriving DecidableEq

inductive Origin
  | manual
  | automatic
  deriving DecidableEq

inductive Purpose
  | manual
  | autoImport
  deriving DecidableEq

inductive AttemptState
  | queued
  | running
  | completed
  | failed
  | cancelled
  deriving DecidableEq

inductive OperationState
  | preview
  | queued
  | running
  | completed
  | partlyDone
  | failedTerminal
  | cancelled
  deriving DecidableEq

/-! ## rows -/

structure DiscoveryCandidateRow where
  userId : Uuid
  providerId : Uuid
  canonicalArtistId : Option Uuid
  sourceAuthorizationId : Option Nat
  sourceAuthorizationRevision : Int
  marketScope : String
  providerTrackId : String
  providerArtistId : String
  evidence : TrackEvidence
  disposition : Disposition
  acquisitionState : AcquisitionState
  selectionOrigin : Origin
  policy : Option (Uuid × Int)
  jobId : Option Nat
  recordingId : Option Uuid
  libraryEntryId : Option Uuid
  currentAcquisitionAttemptId : Option AttemptId
  errorCode : Option String
  updatedAt : Int
  rowVersion : Int
  deriving DecidableEq

structure SourceAuthorizationRow where
  userId : Uuid
  providerId : Uuid
  canonicalArtistId : Uuid
  adapterId : String
  adapterVersion : String
  marketScope : String
  rightsCapability : String
  revision : Int
  policyReference : String
  grantedByBulkOperationId : Option BulkId
  purpose : Purpose
  policyId : Option Uuid
  policyRevision : Option Int
  expiresAt : Int
  revokedAt : Option Int
  grantedAt : Int
  rowVersion : Int
  deriving DecidableEq

structure AcquisitionAttemptRow where
  authorityGeneration : Int
  candidateId : CandidateId
  origin : Origin
  policy : Option (Uuid × Int)
  sourceAuthorizationId : Nat
  sourceAuthorizationRevision : Int
  jobId : Option Nat
  state : AttemptState
  errorCode : Option String
  createdAt : Int
  updatedAt : Int
  completedAt : Option Int
  rowVersion : Int
  deriving DecidableEq

structure BulkOperationRow where
  userId : Uuid
  importJobId : Option Uuid
  operationId : Uuid
  requestSha256 : BulkRequest
  startOperationId : Option Uuid
  startRequestSha256 : Option BulkRequest
  state : OperationState
  selectedArtistCount : Nat
  plannedCandidateCount : Nat
  queuedCount : Nat
  readyCount : Nat
  failedCount : Nat
  createdAt : Int
  updatedAt : Int
  startedAt : Option Int
  completedAt : Option Int
  rowVersion : Int
  deriving DecidableEq

/-- Scope and key of a job; the upload session of an attempt is named after it. -/
inductive JobIdempotency
  | acquire (userId : Uuid) (attemptId : AttemptId)
  | acquireAutomatic (userId : Uuid) (candidateId : CandidateId) (attemptId : AttemptId)
  | ingest (attemptId : AttemptId)
  deriving DecidableEq

inductive JobPayload
  | candidate (candidateId : CandidateId)
  | uploadSession (attemptId : AttemptId)
  deriving DecidableEq

/-- The columns of a job that the discovery reads and writes. -/
structure JobRow where
  jobType : String
  schemaVersion : Int
  userId : Option Uuid
  priority : Int
  payload : JobPayload
  idempotency : Option JobIdempotency
  scheduledAt : Int
  createdAt : Int
  state : JobState
  attemptCount : Int
  leaseOwner : Option String
  leaseDeadline : Option Int
  cancelRequestedAt : Option Int
  deriving DecidableEq

/-- An upload of a provider, with the columns that the hand-off reads. -/
structure UploadSessionRow where
  userId : Uuid
  sourceCandidateId : CandidateId
  sourceAcquisitionAttemptId : AttemptId
  targetRecordingId : Uuid
  stagingKey : String
  jobId : Option Nat
  deriving DecidableEq

structure ArtistPolicyRow where
  userId : Uuid
  canonicalArtistId : Uuid
  scheduled : Bool
  autoImport : Bool
  automationEnabled : Bool
  currentRevision : Int
  deriving DecidableEq

structure SourceProviderRow where
  enabled : Bool
  deletedAt : Option Int
  adapterId : String
  adapterVersion : String
  capabilities : List String
  deriving DecidableEq

structure UserAccountRow where
  active : Bool
  deletedAt : Option Int
  authorityGeneration : Int
  deriving DecidableEq

structure ImportJobRow where
  userId : Uuid
  format : Option String
  deriving DecidableEq

structure ArtistRow where
  normalizedName : String
  deletedAt : Option Int
  deriving DecidableEq

structure RecordingRow where
  artistCreditId : Uuid
  deletedAt : Option Int
  deriving DecidableEq

structure UserTrackRefRow where
  userId : Uuid
  recordingId : Option Uuid
  resolved : Bool
  deletedAt : Option Int
  deriving DecidableEq

structure LibraryEntryRow where
  userId : Uuid
  userTrackRefId : Uuid
  removedAt : Option Int
  deriving DecidableEq

/-- What the discovery reads of the catalog and the library. -/
structure Catalog where
  artists : Dict Uuid ArtistRow
  artistCreditNames : List (Uuid × Uuid)
  recordings : Dict Uuid RecordingRow
  trackRefs : Dict Uuid UserTrackRefRow
  libraryEntries : Dict Uuid LibraryEntryRow
  deriving DecidableEq

structure DiscoveryDb where
  provider : Option SourceProviderRow
  accounts : Dict Uuid UserAccountRow
  importJobs : Dict Uuid ImportJobRow
  catalog : Catalog
  authorizations : Dict Nat SourceAuthorizationRow
  operations : Dict BulkId BulkOperationRow
  items : Dict (BulkId × CandidateId) Nat
  candidates : Dict CandidateId DiscoveryCandidateRow
  attempts : Dict AttemptId AcquisitionAttemptRow
  uploads : Dict AttemptId UploadSessionRow
  policies : Dict Uuid ArtistPolicyRow
  jobs : Dict Nat JobRow
  deriving DecidableEq

/-! ## generated identifiers -/

/-- A key that no entry has. -/
def freshId {α : Type*} (d : Dict Nat α) : Nat := (d.items.map Prod.fst).foldr max 0 + 1

theorem le_foldr_max {n : Nat} {ns : List Nat} (h : n ∈ ns) : n ≤ ns.foldr max 0 := by
  induction ns with
  | nil => exact absurd h List.not_mem_nil
  | cons m ns ih =>
    rw [List.foldr_cons]
    rcases List.mem_cons.mp h with rfl | h
    · exact Nat.le_max_left ..
    · exact (ih h).trans (Nat.le_max_right ..)

theorem get?_freshId {α : Type*} (d : Dict Nat α) : d.get? (freshId d) = none := by
  cases h : d.get? (freshId d) with
  | none => rfl
  | some v =>
    have hmem : freshId d ∈ d.items.map Prod.fst := List.mem_map.mpr ⟨_, Dict.get?_eq_some.mp h, rfl⟩
    have hle := le_foldr_max hmem
    unfold freshId at hle
    omega

end AutPlay.Discovery
