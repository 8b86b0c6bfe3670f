import AutPlay.Jobs.Rows
import AutPlay.Metadata.Document

/-!
# The metadata service

One track's description under its four writers: the user's commands, the acquisition that
published the audio, the background sweep and the workers of the enrichment jobs.

* `TrackMetadataRow`, `TrackMetadataRevisionRow`   the stored description and its published revisions;
* `activateStagedAcquisition`, `enqueue`, `publish`   what the writers share;
* `acceptAcquisition`, `command`, `stageAcquisition`, `reconcileFinished`, `enqueueMissing`,
  `applyWorker`   the transactions, each on what it reads of the other tables (`World`).

The cover and the album group of a description are left out: no field, evidence, revision or
receipt depends on them.
-/

set_option linter.unusedSectionVars false

namespace AutPlay.Metadata
open Sync (Uuid)
open Jobs (JobRow JobState LeaseFence JsonValue)
open MetadataDocument

/-! ## rows -/

/-- `source_metadata_document`. -/
structure SourceMetadata where
  provider : String
  sourceId : String
  fields : Dict String MetadataValue
  externalIds : Dict String String
  artwork : List String
  deriving DecidableEq

structure Candidate where
  candidateId : String
  content : String
  deriving DecidableEq

inductive MetadataState
  | queued
  | ready
  | review
  | notFound
  | retry
  | failed
  deriving DecidableEq

/-- The `document` column; `none` is a missing key, and `some none` an empty object. -/
structure StoredDocument where
  description : MetadataDocument := ⟨.empty, .empty⟩
  acquisitionEvidence : Option (Option SourceMetadata) := none
  acquisitionRefreshPending : Bool := false
  selection : Option Candidate := none
  enrichmentVersion : Option Int := none
  audioVariantId : Option Uuid := none
  pendingAcquisitionEvidence : Option (Option SourceMetadata) := none
  pendingAcquisitionExecutionId : Option Uuid := none
  pendingAcquisitionId : Option Uuid := none
  publishedAcquisitionId : Option Uuid := none
  sourceArtistExplicit : Option Bool := none
  workerAcquisitionSha256 : Option String := none
  processedAcquisitionSha256 : Option String := none
  nativeAcquisitionSha256 : Option String := none

structure TrackMetadataRow where
  revision : Int
  generation : Int
  document : StoredDocument
  candidates : List Candidate
  state : MetadataState
  errorCode : Option String
  jobId : Option Uuid
  updatedAt : Int

/-- **`metadata_view`**. -/
structure MetadataView where
  revision : Int
  state : MetadataState
  errorCode : Option String
  fields : Dict String MetadataValue
  provenance : Dict String FieldEvidence
  candidates : List Candidate
  updatedAt : Int

def metadataView (row : TrackMetadataRow) : MetadataView where
  revision := row.revision
  state := row.state
  errorCode := row.errorCode
  fields := row.document.description.fields
  provenance := row.document.description.provenance
  candidates := row.candidates
  updatedAt := row.updatedAt

structure TrackMetadataRevisionRow where
  revision : Int
  snapshot : MetadataView
  operationId : Option Uuid
  requestSha256 : Option (List UInt8)

/-- What is stored of the track. -/
structure State where
  row : Option TrackMetadataRow
  revisions : List TrackMetadataRevisionRow

/-- No row, no revision. -/
def State.initial : State := ⟨none, []⟩

inductive MetadataError
  | music (code message : String) (status : Nat)
  /-- `MusicError(str(error), "Check the metadata fields.", 422)` -/
  | fields (error : ValueError)
  | value (error : ValueError)
  | key (name : String)
  | jobLeaseLost
  | retryable (code : String) (retryAfterSeconds : Int)
  | executionBusy
  | integrity
  deriving DecidableEq

def trackNotFound : MetadataError := .music "music_track_not_found" "The track is unavailable." 404

def audioUnpublished : MetadataError :=
  .music "metadata_audio_unpublished" "Published audio is required." 409

def operationConflict : MetadataError :=
  .music "metadata_operation_conflict" "The operation conflicts." 409

def revisionConflict : MetadataError :=
  .music "metadata_revision_conflict" "Metadata changed; reload before editing." 409

def require (p : Prop) [Decidable p] (error : MetadataError) : Except MetadataError Unit :=
  if p then .ok () else .error error

/-- A request whose canonical JSON is hashed. -/
inductive MetadataRequest
  | acceptAcquisition (evidence : Option SourceMetadata)
  | command (action : String) (fields : Dict String MetadataValue) (candidateId : Option String)
      (expectedRevision : Int)
  deriving DecidableEq

/-- SHA-256 of canonical JSON. -/
structure Digests where
  request : MetadataRequest → List UInt8
  /-- of the evidence, an object that may be empty -/
  acquisition : Option SourceMetadata → String

/-- What a transaction reads of the other tables. -/
structure World where
  refId : Uuid
  now : Int
  nowIso : String
  /-- the reference and its library entry are the caller's and are not deleted -/
  refOwned : Bool
  refPresent : Bool
  refDeleted : Bool
  /-- the library entry that is not removed, and whether it stands in the vault -/
  entry : Option Bool
  accountActive : Bool
  authorityGeneration : Int
  /-- `resolve_owner_playback_variant` -/
  playbackVariant : Option Uuid
  canonicalVariant : Option Uuid
  /-- the audio of an acquisition of this track that is `READY` -/
  readyAcquisition : Uuid → Option Uuid
  job : Uuid → Option JobRow
  /-- the job that the queue gives; `none` where it refuses -/
  enqueuedJob : Option Uuid
  /-- the authority of a staged acquisition holds -/
  stagingAllowed : Bool
  /-- the execution that the worker runs under is the current one -/
  executionAllowed : Bool
  /-- the size checks on the two JSON columns -/
  fits : TrackMetadataRow → Bool

namespace TrackMetadataRow

/-- The row that is inserted when there is none. -/
def fresh (world : World) : TrackMetadataRow where
  revision := 0
  generation := 0
  document := {}
  candidates := []
  state := .queued
  errorCode := none
  jobId := none
  updatedAt := world.now

/-- The description of the row replaced. -/
def withDescription (row : TrackMetadataRow) (description : MetadataDocument) :
    TrackMetadataRow :=
  { row with document := { row.document with description := description } }

@[simp] theorem withDescription_description (row : TrackMetadataRow) (d : MetadataDocument) :
    (row.withDescription d).document.description = d := rfl

@[simp] theorem withDescription_revision (row : TrackMetadataRow) (d : MetadataDocument) :
    (row.withDescription d).revision = row.revision := rfl

@[simp] theorem withDescription_generation (row : TrackMetadataRow) (d : MetadataDocument) :
    (row.withDescription d).generation = row.generation := rfl

end TrackMetadataRow

/-! ## what the writers share -/

def metadataEnrichmentVersion : Int := 2

section
variable (digests : Digests)

/-- **`acquisition_sha256`**. -/
def acquisitionSha256 (document : StoredDocument) : String :=
  digests.acquisition (document.acquisitionEvidence.getD none)

/-- **`document_from`**: the stored fields are checked again. -/
def documentFrom (row : TrackMetadataRow) : Except MetadataError MetadataDocument :=
  match validateFields (row.document.description.fields.mapValues MetadataValue.raw) false with
  | .ok fields => .ok ⟨fields, row.document.description.provenance⟩
  | .error e => .error (.value e)

/-- The table checks, when the row is written. -/
def flush (world : World) (row : TrackMetadataRow) : Except MetadataError Unit :=
  require (1 ≤ row.revision ∧ 1 ≤ row.generation ∧ row.candidates.length ≤ 5 ∧
    world.fits row = true) .integrity

/-- What a new acquisition leaves of the description. -/
def survivesAcquisition (key : String) (proof : FieldEvidence) : Bool :=
  !(proof.source = .sourceNative && !proof.locked && key ≠ "genres")

/-- **`_set_acquisition_evidence`**. -/
def setAcquisitionEvidence (row : TrackMetadataRow) (normalized : Option SourceMetadata) :
    TrackMetadataRow × Bool :=
  if row.document.acquisitionEvidence = some normalized then (row, false)
  else
    ({ row with
        document := { row.document with
          description := row.document.description.restrict survivesAcquisition
          acquisitionEvidence := some normalized
          acquisitionRefreshPending := true } }, true)

/-- Python's truth of a value. -/
def truthy : MetadataValue → Bool
  | .null => false
  | .number n => n ≠ 0
  | .genres items => !items.isEmpty
  | .text s => s ≠ ""

/-- `(native.get("fields") or {}).get("artist")` holds something. -/
def namesArtist (native : Option SourceMetadata) : Bool :=
  native.any fun m => (m.fields.get? "artist").any truthy

/-- An artist that the public catalogue filled in does not survive a source without one. -/
def survivesUnnamedArtist (key : String) (proof : FieldEvidence) : Bool :=
  !(key = "artist" && proof.source = .musicbrainz && !proof.locked)

/-- The pending evidence taken over. -/
def activate (row : TrackMetadataRow) (acquisitionId : Uuid) : TrackMetadataRow :=
  let native := row.document.pendingAcquisitionEvidence.getD none
  let row := (setAcquisitionEvidence row native).1
  let row :=
    if namesArtist native then row
    else row.withDescription (row.document.description.restrict survivesUnnamedArtist)
  { row with
    document := { row.document with
      pendingAcquisitionEvidence := none
      pendingAcquisitionExecutionId := none
      pendingAcquisitionId := none
      acquisitionEvidence := some native
      publishedAcquisitionId := some acquisitionId
      sourceArtistExplicit := some (namesArtist native)
      acquisitionRefreshPending := true } }

/-- **`_activate_staged_acquisition`**. -/
def activateStagedAcquisition (world : World) (row : TrackMetadataRow) : TrackMetadataRow :=
  match row.document.pendingAcquisitionId with
  | none => row
  | some acquisitionId =>
    match world.readyAcquisition acquisitionId, world.playbackVariant with
    | some audio, some variant => if variant = audio then activate row acquisitionId else row
    | _, _ => row

/-- **`_enqueue`**. -/
def enqueue (world : World) (row : TrackMetadataRow) (selection : Option Candidate) :
    Except MetadataError TrackMetadataRow := do
  let active := activateStagedAcquisition world row
  -- new rows must satisfy the constraints when the queue flushes
  let queued : TrackMetadataRow :=
    { active with
      generation := active.generation + 1
      revision := max 1 active.revision
      state := .queued
      errorCode := none
      document := { active.document with
        selection := selection
        enrichmentVersion := some metadataEnrichmentVersion } }
  flush world queued
  match world.enqueuedJob with
  | some jobId => .ok { queued with jobId := some jobId }
  | none => .error .integrity

def published (world : World) (row : TrackMetadataRow) : TrackMetadataRow :=
  { row with revision := row.revision + 1, updatedAt := world.now }

/-- **`_publish`**. -/
def publish (world : World) (s : State) (row : TrackMetadataRow) (operationId : Option Uuid)
    (digest : Option (List UInt8)) : Except MetadataError State := do
  let row := published world row
  flush world row
  -- the primary key and the unique operation of the revisions
  require (∀ old ∈ s.revisions, old.revision ≠ row.revision ∧
    (operationId = none ∨ old.operationId ≠ operationId)) .integrity
  .ok ⟨some row, s.revisions ++ [⟨row.revision, metadataView row, operationId, digest⟩]⟩

def receipt (s : State) (operationId : Uuid) : Option TrackMetadataRevisionRow :=
  s.revisions.find? fun r => r.operationId = some operationId

def jobEnded (world : World) (row : TrackMetadataRow) : Bool :=
  (row.jobId.bind world.job).all fun job => job.state.isTerminal

/-! ## the acquisition -/

/-- The row after the evidence was taken, and the job for it. -/
def acceptedRow (world : World) (s : State) (normalized : Option SourceMetadata) :
    Except MetadataError TrackMetadataRow :=
  let row := s.row.getD (.fresh world)
  let taken := setAcquisitionEvidence row normalized
  if (s.row.isNone || taken.2) && jobEnded world taken.1 then
    enqueue world taken.1 taken.1.document.selection
  else .ok taken.1

/-- **`accept_acquisition`**, of the evidence as it was sanitized. -/
def acceptAcquisition (world : World) (s : State) (operationId : Uuid)
    (normalized : Option SourceMetadata) : Except MetadataError (Option MetadataView × State) := do
  let digest := digests.request (.acceptAcquisition normalized)
  require world.refOwned trackNotFound
  require world.accountActive trackNotFound
  require (world.entry = some true) audioUnpublished
  require world.playbackVariant.isSome audioUnpublished
  match receipt s operationId with
  | some old =>
    require (old.requestSha256 = some digest) operationConflict
    .ok (some old.snapshot, s)
  | none =>
    let row ← acceptedRow world s normalized
    let s' ← publish world s row (some operationId) (some digest)
    .ok (s'.row.map metadataView, s')

/-- **`stage_acquisition_in_transaction`**. -/
def stageAcquisition (world : World) (s : State) (executionId acquisitionId : Uuid)
    (normalized : Option SourceMetadata) : Except MetadataError State := do
  require world.stagingAllowed .jobLeaseLost
  require world.refOwned trackNotFound
  let row := s.row.getD { TrackMetadataRow.fresh world with revision := 1, generation := 1 }
  if row.document.pendingAcquisitionExecutionId = some executionId then
    require (row.document.pendingAcquisitionEvidence = some normalized) operationConflict
    .ok s
  else
    let staged : TrackMetadataRow :=
      { row with
        updatedAt := world.now
        document := { row.document with
          pendingAcquisitionEvidence := some normalized
          pendingAcquisitionExecutionId := some executionId
          pendingAcquisitionId := some acquisitionId
          sourceArtistExplicit := some false } }
    flush world staged
    .ok { s with row := some staged }

/-! ## the user's commands -/

structure Command where
  operationId : Uuid
  expectedRevision : Int
  action : String
  fields : Dict String JsonValue
  candidateId : Option String

/-- `action == "EDIT"`. -/
def editedRow (world : World) (row : TrackMetadataRow) (operationId : Uuid)
    (validated : Dict String MetadataValue) : Except MetadataError TrackMetadataRow := do
  let stored ← documentFrom row
  let doc ← (stored.merge validated
    { source := .user, sourceId := "edit:" ++ operationId.text, observedAt := world.nowIso }
    false).mapError .value
  .ok { row.withDescription doc with
    generation := max 1 row.generation
    state := if row.jobId = none then .ready else row.state }

/-- A refresh, or a selected candidate. -/
def refreshedRow (world : World) (row : TrackMetadataRow) (action : String)
    (candidateId : Option String) : Except MetadataError TrackMetadataRow :=
  if action = "SELECT" then
    match row.candidates.find? fun item => some item.candidateId = candidateId with
    | none =>
      .error (.music "metadata_candidate_missing" "Choose a current metadata result." 409)
    | some selection => enqueue world row (some selection)
  else enqueue world row row.document.selection

/-- The row that a new command publishes. -/
def commandRow (world : World) (s : State) (c : Command)
    (validated : Dict String MetadataValue) : Except MetadataError TrackMetadataRow :=
  let row := s.row.getD (.fresh world)
  if c.action = "EDIT" then editedRow world row c.operationId validated
  else refreshedRow world row c.action c.candidateId

/-- **`command`**. -/
def command (world : World) (s : State) (c : Command) :
    Except MetadataError (Option MetadataView × State) := do
  require (c.action ∈ ["REFRESH", "EDIT", "SELECT"])
    (.music "metadata_action_invalid" "Unknown metadata action." 422)
  let validated ← (validateFields c.fields true).mapError .fields
  let digest := digests.request (.command c.action validated c.candidateId c.expectedRevision)
  require world.refOwned trackNotFound
  match receipt s c.operationId with
  | some old =>
    require (old.requestSha256 = some digest) operationConflict
    .ok (some old.snapshot, s)
  | none =>
    require ((s.row.map TrackMetadataRow.revision).getD 0 = c.expectedRevision) revisionConflict
    let row ← commandRow world s c validated
    let s' ← publish world s row (some c.operationId) (some digest)
    .ok (s'.row.map metadataView, s')

/-! ## the sweep -/

/-- The body of **`reconcile_finished`**. -/
def reconcileFinished (world : World) (s : State) : Except MetadataError State :=
  match s.row with
  | none => .ok s
  | some row =>
    match row.jobId.bind world.job with
    | none => .ok s
    | some job =>
      if world.refPresent ∧ row.state ∈ [MetadataState.queued, .retry] ∧ job.state.isTerminal then
        let ended : TrackMetadataRow :=
          { row with state := .failed, errorCode := some "metadata_job_ended" }
        let sha := acquisitionSha256 digests row.document
        let processed : TrackMetadataRow :=
          if row.document.workerAcquisitionSha256 = some sha then
            { ended with
              document := { row.document with
                processedAcquisitionSha256 := some sha
                acquisitionRefreshPending := false } }
          else ended
        publish world s processed none none
      else .ok s

/-- The row needs no new job. -/
def upToDate (world : World) (row : TrackMetadataRow) : Bool :=
  world.canonicalVariant = none || world.entry ≠ some true ||
    (row.document.audioVariantId = world.canonicalVariant &&
      !row.document.acquisitionRefreshPending &&
      row.document.enrichmentVersion = some metadataEnrichmentVersion)

/-- The body of **`enqueue_missing`** for a track that was listed. -/
def enqueueMissing (world : World) (s : State) : Except MetadataError State := do
  if !world.refPresent || world.refDeleted || world.entry.isNone then .ok s
  else
    match s.row with
    | some row =>
      if !jobEnded world row then .ok s
      else
        let active := activateStagedAcquisition world row
        if upToDate world active then
          flush world active
          .ok { s with row := some active }
        else
          let row ← enqueue world active active.document.selection
          publish world s row none none
    | none =>
      let row ← enqueue world (.fresh world) none
      publish world s row none none

/-! ## the workers -/

structure WorkerResult where
  fields : Option (Dict String MetadataValue) := none
  evidence : Option FieldEvidence := none
  state : Option MetadataState := none
  candidates : Option (List Candidate) := none
  errorCode : Option String := none
  explicitSelection : Bool := false
  audioVariantId : Option Uuid := none
  expectedAcquisitionSha256 : Option String := none
  /-- the handler names the file, the source or the public catalogue -/
  background : ∀ e, evidence = some e → e.source ≠ .user

/-- The payload of the job names this track and generation and the account's authority. -/
def payloadFits (payload : Jobs.JsonObject) (refId : Uuid) (generation authority : Int) : Bool :=
  (match payload.lookup "user_track_ref_id" with
    | some (.str text) => text = refId.text
    | _ => false) &&
  (match payload.lookup "generation" with
    | some (.int n) => n = generation
    | _ => false) &&
  (match payload.lookup "authority_generation" with
    | some (.int n) => n = authority
    | _ => false)

/-- **`lock_metadata_job`**, and the execution of `locked_job`. -/
def lockedJob (world : World) (s : State) (generation : Int) (fence : LeaseFence) :
    Except MetadataError TrackMetadataRow :=
  match s.row, world.job fence.jobId with
  | some row, some job =>
    if world.refOwned ∧ world.accountActive ∧ job.key.jobType = "music.metadata.enrich" ∧
        job.key.schemaVersion = 1 ∧ job.state = .running ∧ job.leaseOwner = some fence.workerId ∧
        job.attemptCount = fence.attemptNo ∧ job.leaseDeadline.any (fun d => world.now < d) ∧
        job.cancelRequestedAt = none ∧ row.jobId = some fence.jobId ∧
        row.generation = generation ∧
        payloadFits job.payload world.refId generation world.authorityGeneration then
      if world.executionAllowed then .ok row else .error .executionBusy
    else .error .jobLeaseLost
  | _, _ => .error .jobLeaseLost

def releaseFields : List String :=
  ["album", "album_artist", "release_date", "original_release_date", "track_number",
    "disc_number", "mb_release_id", "mb_release_group_id"]

/-- What a refreshed source snapshot leaves of the description. -/
def survivesNative (row : TrackMetadataRow) (previous : MetadataDocument)
    (fields : Dict String MetadataValue) (key : String) (old : FieldEvidence) : Bool :=
  let hasNativeAlbum := ((row.document.acquisitionEvidence.getD none).bind fun m =>
    m.externalIds.get? "native_album_id").any fun id => id ≠ ""
  let nativeChanged := row.document.nativeAcquisitionSha256 ≠
    some (acquisitionSha256 digests row.document)
  let recordingChanged := ["title", "artist"].any fun name =>
    (fields.get? name).any fun v => (previous.fields.get? name).getD .null ≠ v
  !(!old.locked &&
    ((old.source = .sourceNative && (key ≠ "genres" || fields.has key)) ||
      (old.source = .musicbrainz &&
        (fields.has key || (hasNativeAlbum && nativeChanged && key ∈ releaseFields) ||
          (recordingChanged && key = "mb_recording_id")))))

/-- A chosen edition replaces all automatic description; `previous.provenance[k]` of each field. -/
def onlyUser (previous : MetadataDocument) : Except MetadataError MetadataDocument :=
  match previous.fields.items.find? fun e => !previous.provenance.has e.1 with
  | some e => .error (.key e.1)
  | none => .ok (previous.restrict fun _ proof => proof.source = .user)

/-- The genres stay when the chosen release has none. -/
def retainGenres (row : TrackMetadataRow) (previous : MetadataDocument) :
    Except MetadataError MetadataDocument := do
  let old ← documentFrom row
  match old.fields.get? "genres" with
  | none => .ok previous
  | some genres =>
    match old.provenance.get? "genres" with
    | none => .error (.key "genres")
    | some proof =>
      .ok ⟨previous.fields.set "genres" genres, previous.provenance.set "genres" proof⟩

/-- What of the description the result is merged into. -/
def mergeBase (row : TrackMetadataRow) (result : WorkerResult) (evidence : FieldEvidence)
    (fields : Dict String MetadataValue) : Except MetadataError MetadataDocument := do
  let stored ← documentFrom row
  let previous :=
    if evidence.source = .sourceNative then
      stored.restrict (survivesNative digests row stored fields)
    else stored
  if result.explicitSelection then
    let chosen ← onlyUser previous
    if fields.has "genres" then .ok chosen else retainGenres row chosen
  else .ok previous

/-- The fields of the result merged in. -/
def mergedRow (row : TrackMetadataRow) (result : WorkerResult) :
    Except MetadataError TrackMetadataRow :=
  match result.fields, result.evidence with
  | some fields, some evidence => do
    let previous ← mergeBase digests row result evidence fields
    let fillOnly := (evidence.source = .musicbrainz || evidence.source = .sourceNative) &&
      !result.explicitSelection
    let doc ← (previous.merge fields evidence fillOnly).mapError .value
    let merged := row.withDescription doc
    if evidence.source = .sourceNative then
      .ok { merged with
        document := { merged.document with
          nativeAcquisitionSha256 := some (acquisitionSha256 digests row.document) } }
    else .ok merged
  | _, _ => .ok row

/-- The marks of the worker on the row. -/
def marked (row : TrackMetadataRow) (result : WorkerResult) : TrackMetadataRow :=
  { row with
    document := { row.document with
      workerAcquisitionSha256 := result.expectedAcquisitionSha256.or
        row.document.workerAcquisitionSha256
      audioVariantId := result.audioVariantId.or row.document.audioVariantId } }

/-- Candidates, state and error code of the result. -/
def concluded (row : TrackMetadataRow) (result : WorkerResult) : TrackMetadataRow :=
  let row := { row with
    candidates := result.candidates.getD row.candidates
    state := result.state.getD row.state
    errorCode := result.errorCode }
  if result.state.any (· ∈ [MetadataState.ready, .review, .notFound, .failed]) then
    { row with
      document := { row.document with
        processedAcquisitionSha256 := some (acquisitionSha256 digests row.document)
        acquisitionRefreshPending := false } }
  else row

/-- **`apply_worker`**. -/
def applyWorker (world : World) (s : State) (generation : Int) (fence : LeaseFence)
    (result : WorkerResult) : Except MetadataError State := do
  let row ← lockedJob world s generation fence
  require (∀ sha, result.expectedAcquisitionSha256 = some sha →
    acquisitionSha256 digests row.document = sha) (.retryable "metadata_evidence_changed" 1)
  let merged ← mergedRow digests (marked row result) result
  publish world s (concluded digests merged result) none none

end

end AutPlay.Metadata
