import Mathlib.Algebra.Group.Int.Defs
import AutPlay.Lib.Run
import AutPlay.Lib.Result
import AutPlay.Sync.Uuid

/-!
# Resumable uploads

One upload session: its row, the receipts of its chunks and its staging file.

* `prepareUploadStaging`, `writeChunk`   the staging file, cut back to what is recorded and appended to;
* `Writer.appendReconciledChunk`         the two writers: in the process of the server, or in a child;
* `recordChunk`, `sealAndEnqueue`, …     the row and its receipts;
* `append`, `complete`, …                the calls of the service;
* `Step`                                 a call that commits, one that raises, and an append that is lost
                                         between the file and its receipt.

A staging key belongs to one session, and the steps of a session hold its row lock.
-/

set_option linter.unusedSectionVars false

namespace AutPlay.Vault

open AutPlay.Sync (Uuid)

abbrev Bytes := List UInt8

abbrev Digest := List UInt8

inductive UploadError
  | notFound
  | invalidState
  | admission (code : String)
  | capacityLow
  | offsetMismatch
  | limitExceeded
  | hashMismatch
  | stagedFileNotFound
  | storageUnavailable
  | integrityError
  deriving DecidableEq, Repr

structure VaultLimits where
  maxObjectBytes : Nat
  maxChunkBytes : Nat
  maxChunks : Nat

/-! ## the staging file -/

/-- The staging file of the session; `none` where there is no such file. -/
abbrev Staging := Option Bytes

/-- `truncate_staging` -/
def truncateStaging (byteSize : Nat) (file : Staging) : Except UploadError Staging :=
  match file with
  | none => .error .stagedFileNotFound
  | some bytes =>
    if bytes.length < byteSize then .error .offsetMismatch else .ok (some (bytes.take byteSize))

/-- `create_staging`, of a file that does not exist. -/
def createStaging : Staging := some []

/-- `prepare_upload_staging` -/
def prepareUploadStaging (committedSize : Nat) (file : Staging) : Except UploadError Staging :=
  match truncateStaging committedSize file with
  | .error .stagedFileNotFound =>
    if committedSize ≠ 0 then .error .stagedFileNotFound else .ok createStaging
  | r => r

section
variable (sha256 : Bytes → Digest) (limits : VaultLimits)

/-- `write_chunk`: at the end of the file, or a repeat of bytes that are there. -/
def writeChunk (offset : Int) (payload : Bytes) (payloadSha256 : Digest) (file : Staging) :
    Except UploadError Staging :=
  if offset < 0 then .error .offsetMismatch
  else if payload = [] ∨ limits.maxChunkBytes < payload.length then .error .limitExceeded
  else if sha256 payload ≠ payloadSha256 then .error .hashMismatch
  else
    match file with
    | none => .error .stagedFileNotFound
    | some bytes =>
      if limits.maxObjectBytes < bytes.length + payload.length then .error .limitExceeded
      else if offset = bytes.length then .ok (some (bytes ++ payload))
      else if offset + payload.length ≤ bytes.length ∧
          (bytes.drop offset.toNat).take payload.length = payload then .ok (some bytes)
      else .error .offsetMismatch

/-! ## the writers -/

/-- The two implementations of `append_reconciled_chunk`. -/
inductive Writer
  | direct
  | process
  deriving DecidableEq

/-- What the writer is told. -/
structure WriterCall where
  committedSize : Nat
  expectedSize : Nat
  offset : Int
  payload : Bytes
  payloadSha256 : Digest
  availableBytes : Int
  minimumFreeBytes : Int

/-- The checks of `execute_command` on an upload; a child that refuses a command says
`vault_storage_unavailable`. -/
def childChecks (call : WriterCall) : Except UploadError Unit :=
  if call.offset < 0 ∨ (limits.maxObjectBytes : Int) < call.offset ∨
      limits.maxObjectBytes < call.committedSize ∨ limits.maxObjectBytes < call.expectedSize then
    .error .storageUnavailable
  else if call.offset ≠ call.committedSize ∨ call.expectedSize ≤ call.committedSize then
    .error .storageUnavailable
  else if limits.maxChunkBytes < call.payload.length ∨ call.payload = [] ∨
      call.expectedSize < call.offset + call.payload.length then .error .storageUnavailable
  else if sha256 call.payload ≠ call.payloadSha256 then .error .hashMismatch
  else .ok ()

def writerChecks (writer : Writer) (call : WriterCall) : Except UploadError Unit :=
  match writer with
  | .direct => .ok ()
  | .process => childChecks sha256 limits call

/-- `append_reconciled_chunk`: the outcome, and the file whatever it is. -/
def appendReconciledChunk (writer : Writer) (call : WriterCall) (file : Staging) :
    Except UploadError Unit × Staging :=
  match writerChecks sha256 limits writer call with
  | .error e => (.error e, file)
  | .ok () =>
    if call.availableBytes - (call.expectedSize - call.committedSize) < call.minimumFreeBytes then
      (.error .capacityLow, file)
    else
      match prepareUploadStaging call.committedSize file with
      | .error e => (.error e, file)
      | .ok prepared =>
        match writeChunk sha256 limits call.offset call.payload call.payloadSha256 prepared with
        | .error e => (.error e, prepared)
        | .ok written => (.ok (), written)

/-- **A writer that is interrupted** leaves the file as it was, cut back, or with a part of the bytes. -/
inductive Torn (call : WriterCall) (file : Staging) : Staging → Prop
  | untouched : Torn call file file
  | prepared {file' : Staging} (h : prepareUploadStaging call.committedSize file = .ok file') :
      Torn call file file'
  | partly {bytes : Bytes} (h : prepareUploadStaging call.committedSize file = .ok (some bytes))
      (n : Nat) : Torn call file (some (bytes ++ call.payload.take n))

end

/-! ## rows -/

inductive UploadState
  | opened
  | sealed
  | processing
  | commitPrepared
  | committed
  | reused
  | quarantined
  | failed
  | cancelled
  | expired
  deriving DecidableEq, Repr

structure UploadSessionRow where
  uploadSessionId : Uuid
  userId : Uuid
  deviceId : Uuid
  expectedSize : Nat
  receivedSize : Nat
  chunkSize : Nat
  maxChunks : Nat
  chunkCount : Nat
  stagingKey : String
  state : UploadState
  jobId : Option Uuid
  errorCode : Option String
  expiresAt : Int
  sealedAt : Option Int
  completedAt : Option Int
  deriving DecidableEq

structure UploadChunkRow where
  chunkIndex : Int
  startOffset : Nat
  byteSize : Nat
  sha256 : Digest
  deriving DecidableEq

/-- The session's row, its receipts in the order of their insertion, and its staging file. -/
structure World where
  row : UploadSessionRow
  chunks : List UploadChunkRow
  file : Staging

structure VaultPrincipal where
  userId : Uuid
  deviceId : Uuid

structure UploadInfo where
  uploadSessionId : Uuid
  expectedSize : Nat
  receivedSize : Nat
  state : UploadState
  expiresAt : Int
  chunkSize : Nat
  jobId : Option Uuid
  deriving DecidableEq

def infoOf (row : UploadSessionRow) : UploadInfo :=
  { uploadSessionId := row.uploadSessionId
    expectedSize := row.expectedSize
    receivedSize := row.receivedSize
    state := row.state
    expiresAt := row.expiresAt
    chunkSize := row.chunkSize
    jobId := row.jobId }

structure ChunkWriteResult where
  nextOffset : Nat
  idempotent : Bool
  deriving DecidableEq

/-- The row that `create_or_replay` inserts. -/
def createdRow (uploadSessionId : Uuid) (principal : VaultPrincipal) (expectedSize : Nat)
    (stagingKey : String) (expiresAt : Int) (limits : VaultLimits) : UploadSessionRow :=
  { uploadSessionId := uploadSessionId
    userId := principal.userId
    deviceId := principal.deviceId
    expectedSize := expectedSize
    receivedSize := 0
    chunkSize := limits.maxChunkBytes
    maxChunks := limits.maxChunks
    chunkCount := 0
    stagingKey := stagingKey
    state := .opened
    jobId := none
    errorCode := none
    expiresAt := expiresAt
    sealedAt := none
    completedAt := none }

/-! ## the repository -/

/-- `require_upload_writer`: what the guard of the writers says, an error code or nothing. -/
def requireUploadWriter (guard : Option String) : Except UploadError Unit :=
  match guard with
  | none => .ok ()
  | some code => .error (.admission code)

/-- `_owned_row` -/
def ownedRow (principal : VaultPrincipal) (row : UploadSessionRow) : Except UploadError UploadSessionRow :=
  if row.userId = principal.userId ∧ row.deviceId = principal.deviceId then .ok row
  else .error .notFound

/-- The chunk that an append sends. -/
structure Chunk where
  offset : Int
  chunkIndex : Int
  payload : Bytes
  payloadSha256 : Digest

def receipt (chunk : Chunk) (row : UploadSessionRow) : UploadChunkRow :=
  { chunkIndex := chunk.chunkIndex
    startOffset := row.receivedSize
    byteSize := chunk.payload.length
    sha256 := chunk.payloadSha256 }

def received (chunk : Chunk) (row : UploadSessionRow) : UploadSessionRow :=
  { row with
    receivedSize := row.receivedSize + chunk.payload.length
    chunkCount := row.chunkCount + 1 }

/-- A receipt for the same index: a repeat, or a conflict. -/
def recordAgain (chunk : Chunk) (w : World) (existing : UploadChunkRow) :
    Except UploadError (ChunkWriteResult × World) :=
  if existing.startOffset = chunk.offset ∧ existing.byteSize = chunk.payload.length ∧
      existing.sha256 = chunk.payloadSha256 then .ok (⟨w.row.receivedSize, true⟩, w)
  else .error .invalidState

def recordNew (chunk : Chunk) (w : World) : Except UploadError (ChunkWriteResult × World) :=
  if chunk.offset ≠ w.row.receivedSize ∨ chunk.payload.length < 1 ∨
      w.row.chunkSize < chunk.payload.length ∨ w.row.maxChunks ≤ w.row.chunkCount ∨
      (w.row.expectedSize : Int) < chunk.offset + chunk.payload.length then .error .invalidState
  -- the column is an INTEGER with a CHECK that it is not negative
  else if chunk.chunkIndex < 0 ∨ 2 ^ 31 ≤ chunk.chunkIndex then .error .integrityError
  else
    .ok (⟨w.row.receivedSize + chunk.payload.length, false⟩,
      { w with row := received chunk w.row, chunks := w.chunks ++ [receipt chunk w.row] })

/-- `record_chunk` -/
def recordChunk (principal : VaultPrincipal) (chunk : Chunk) (guard : Option String) (now : Int)
    (w : World) : Except UploadError (ChunkWriteResult × World) := do
  let row ← ownedRow principal w.row
  requireUploadWriter guard
  if row.state ≠ .opened ∨ row.expiresAt ≤ now then .error .invalidState
  else
    match w.chunks.find? fun c => c.chunkIndex = chunk.chunkIndex with
    | some existing => recordAgain chunk w existing
    | none => recordNew chunk w

def UploadState.isSealed : UploadState → Bool
  | .sealed | .processing | .commitPrepared | .committed | .reused => true
  | .opened | .quarantined | .failed | .cancelled | .expired => false

/-- `seal_and_enqueue`; `jobId` is the job that the queue returns. -/
def sealAndEnqueue (principal : VaultPrincipal) (guard : Option String) (jobId : Uuid) (now : Int)
    (w : World) : Except UploadError (UploadInfo × World) := do
  let row ← ownedRow principal w.row
  requireUploadWriter guard
  if row.state.isSealed then .ok (infoOf row, w)
  else if row.state ≠ .opened ∨ row.receivedSize ≠ row.expectedSize then .error .invalidState
  else
    let next := { row with jobId := some jobId, state := .sealed, sealedAt := some now }
    .ok (infoOf next, { w with row := next })

/-- `expire_open` -/
def expireOpen (principal : VaultPrincipal) (guard : Option String) (now : Int) (w : World) :
    Except UploadError (UploadInfo × World) := do
  let row ← ownedRow principal w.row
  if row.state = .opened then do
    requireUploadWriter guard
    let next :=
      { row with
        state := .expired
        errorCode := some "upload_session_expired"
        completedAt := some now }
    .ok (infoOf next, { w with row := next })
  else .ok (infoOf row, w)

/-! ## the service -/

/-- What an append meets besides the session: the writer, the disk, the guard before and after the
write, and the clock. -/
structure Surroundings where
  writer : Option Writer
  availableBytes : Int
  minimumFreeBytes : Int
  guardBefore : Option String
  guardAfter : Option String
  now : Int

section
variable (sha256 : Bytes → Digest) (limits : VaultLimits)

def writerCall (chunk : Chunk) (env : Surroundings) (w : World) : WriterCall :=
  { committedSize := w.row.receivedSize
    expectedSize := w.row.expectedSize
    offset := chunk.offset
    payload := chunk.payload
    payloadSha256 := chunk.payloadSha256
    availableBytes := env.availableBytes
    minimumFreeBytes := env.minimumFreeBytes }

/-- An append at the end of the session gets to the file: it is not too long, and has a writer. -/
def reachesStorage (principal : VaultPrincipal) (chunk : Chunk) (env : Surroundings) (w : World) :
    Except UploadError Writer := do
  let row ← ownedRow principal w.row
  if row.state ≠ .opened then .error .invalidState
  else if row.chunkSize < chunk.payload.length ∨
      row.expectedSize < row.receivedSize + chunk.payload.length then .error .invalidState
  else do
    requireUploadWriter env.guardBefore
    match env.writer with
    | none => .error (.admission "capability_missing")
    | some writer => .ok writer

/-- The receipt after the write; where it fails the row and the receipts are rolled back, not the
file. -/
def recordWritten (principal : VaultPrincipal) (chunk : Chunk) (env : Surroundings) (w : World)
    (written : Staging) : Except UploadError ChunkWriteResult × World :=
  match recordChunk principal chunk env.guardAfter env.now { w with file := written } with
  | .error e => (.error e, { w with file := written })
  | .ok r => (.ok r.1, r.2)

def appendAtEnd (principal : VaultPrincipal) (chunk : Chunk) (env : Surroundings) (w : World) :
    Except UploadError ChunkWriteResult × World :=
  match reachesStorage principal chunk env w with
  | .error e => (.error e, w)
  | .ok writer =>
    match appendReconciledChunk sha256 limits writer (writerCall chunk env w) w.file with
    | (.error e, file) => (.error e, { w with file := file })
    | (.ok (), file) => recordWritten principal chunk env w file

/-- `VaultUploadService.append` -/
def append (principal : VaultPrincipal) (chunk : Chunk) (env : Surroundings) (w : World) :
    Except UploadError ChunkWriteResult × World :=
  match ownedRow principal w.row with
  | .error e => (.error e, w)
  | .ok row =>
    if row.state ≠ .opened then (.error .invalidState, w)
    else if chunk.offset ≠ row.receivedSize then
      match recordChunk principal chunk env.guardAfter env.now w with
      | .error e => (.error e, w)
      | .ok r => (.ok r.1, r.2)
    else appendAtEnd sha256 limits principal chunk env w

/-- `VaultUploadService.complete` -/
def complete (principal : VaultPrincipal) (guard : Option String) (jobId : Uuid) (now : Int)
    (w : World) : Except UploadError (UploadInfo × World) := do
  let row ← ownedRow principal w.row
  if row.state.isSealed then .ok (infoOf row, w)
  else if row.state ≠ .opened ∨ row.receivedSize ≠ row.expectedSize then .error .invalidState
  else sealAndEnqueue principal guard jobId now w

/-- `VaultUploadService.expire_if_due` -/
def expireIfDue (principal : VaultPrincipal) (guard : Option String) (now : Int) (w : World) :
    Except UploadError (Option UploadInfo × World) := do
  let row ← ownedRow principal w.row
  if row.state = .opened ∧ row.expiresAt ≤ now then do
    let r ← expireOpen principal guard now w
    .ok (some r.1, r.2)
  else .ok (none, w)

/-- `VaultUploadService.status` -/
def status (principal : VaultPrincipal) (w : World) : Except UploadError UploadInfo := do
  let row ← ownedRow principal w.row
  .ok (infoOf row)

/-- `VaultUploadService.cancel` -/
def cancel (principal : VaultPrincipal) (guard : Option String) (now : Int) (w : World) :
    Except UploadError (Unit × World) := do
  let row ← ownedRow principal w.row
  requireUploadWriter guard
  if row.state = .opened ∨ row.state = .sealed then
    .ok ((), { w with
      row := { row with
        state := .cancelled
        errorCode := some "upload_cancelled"
        completedAt := some now } })
  else if row.state = .cancelled then .ok ((), w)
  else .error .invalidState

/-! ## steps -/

inductive Call
  | append (principal : VaultPrincipal) (chunk : Chunk) (env : Surroundings)
  | status (principal : VaultPrincipal)
  | complete (principal : VaultPrincipal) (guard : Option String) (jobId : Uuid) (now : Int)
  | cancel (principal : VaultPrincipal) (guard : Option String) (now : Int)
  | expireIfDue (principal : VaultPrincipal) (guard : Option String) (now : Int)

inductive Outcome
  | written (result : ChunkWriteResult)
  | info (info : UploadInfo)
  | expired (info : Option UploadInfo)
  | done
  | raised (e : UploadError)
  deriving DecidableEq

/-- A call whose changes of the rows are kept when it returns and undone when it raises. -/
def transaction {α : Type} (f : World → Except UploadError (α × World)) (outcome : α → Outcome)
    (w : World) : Outcome × World :=
  match f w with
  | .error e => (.raised e, w)
  | .ok r => (outcome r.1, r.2)

def runCall (call : Call) (w : World) : Outcome × World :=
  match call with
  | .append principal chunk env =>
    match append sha256 limits principal chunk env w with
    | (.error e, w') => (.raised e, w')
    | (.ok result, w') => (.written result, w')
  | .status principal =>
    match status principal w with
    | .error e => (.raised e, w)
    | .ok info => (.info info, w)
  | .complete principal guard jobId now =>
    transaction (complete principal guard jobId now) Outcome.info w
  | .cancel principal guard now => transaction (cancel principal guard now) (fun _ => Outcome.done) w
  | .expireIfDue principal guard now =>
    transaction (expireIfDue principal guard now) Outcome.expired w

/-- A call with its outcome, or an append that is lost on its way. -/
inductive Label
  | served (call : Call) (outcome : Outcome)
  | lost (principal : VaultPrincipal) (chunk : Chunk) (env : Surroundings)

/-- An append that is lost after the write, or in it, leaves the row and the receipts as they were. -/
inductive Step : World → Label → World → Prop
  | served (w : World) (call : Call) :
      Step w (.served call (runCall sha256 limits call w).1) (runCall sha256 limits call w).2
  | lost {w : World} {principal : VaultPrincipal} {chunk : Chunk} {env : Surroundings} {writer : Writer}
      (reaches : chunk.offset = w.row.receivedSize ∧ reachesStorage principal chunk env w = .ok writer)
      {file : Staging} (torn : Torn (writerCall chunk env w) w.file file) :
      Step w (.lost principal chunk env) { w with file := file }

end

end AutPlay.Vault
