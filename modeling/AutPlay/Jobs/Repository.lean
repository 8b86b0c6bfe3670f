import AutPlay.Jobs.Rows

/-!
# The job repository

`PostgresJobRepository`: each method is one transaction, that either gives its answer and the new
contents of the tables, or fails and changes nothing.

* `enqueue`, `claim`                                   a job, and the claims of a worker;
* `heartbeat`, `saveCheckpoint`                        what a worker reports of its claim;
* `complete`, `failRetryable`, `failTerminal`, `deferForResource`, `acknowledgeCancel`   its end;
* `requestCancelForOwner`, `recoverExpired`            the owner, and the recovery.

A row that another transaction has locked is skipped where the code says `SKIP LOCKED`.
-/

set_option linter.unusedSectionVars false

namespace AutPlay.Jobs

open AutPlay.Sync (Uuid)

/-! ## enqueue -/

structure EnqueueJob where
  key : JobKey
  userId : Option Uuid
  payload : JsonObject
  priority : Int
  scheduledAt : Option Int
  idempotencyScope : Option String
  idempotencyKey : Option String

structure EnqueueResult where
  jobId : Uuid
  replayed : Bool
  deriving DecidableEq

/-- **`_validate_enqueue`**.  A point of time has a time zone here. -/
def validateEnqueue (command : EnqueueJob) : Except JobFault Unit :=
  if ¬(0 ≤ command.priority ∧ command.priority ≤ 4) then
    .error (.valueError "priority must be between zero and four")
  else
    match command.idempotencyScope, command.idempotencyKey with
    | none, none => .ok ()
    | some scope, some key =>
      if ¬boundedText scope 100 then
        .error (.valueError "idempotency_scope length must be between one and 100")
      else if ¬boundedText key 200 then
        .error (.valueError "idempotency_key length must be between one and 200")
      else .ok ()
    | _, _ => .error (.valueError "idempotency scope and key must be supplied together")

/-- The pair that `uq_job_idempotency` sees. -/
def EnqueueJob.idempotency (command : EnqueueJob) : Option (String × String) :=
  command.idempotencyScope.bind fun scope => command.idempotencyKey.map fun key => (scope, key)

/-- The instant that a command asks for: without one, that of the insertion. -/
def EnqueueJob.requestedAt (command : EnqueueJob) (createdAt : Int) : Int :=
  command.scheduledAt.getD createdAt

/-- **`_same_enqueue`**. -/
def sameEnqueue (stored : JobRow) (command : EnqueueJob) (payload : JsonObject) : Prop :=
  stored.key = command.key ∧ stored.userId = command.userId ∧ stored.priority = command.priority ∧
    sameJsonDocument stored.payload payload ∧
    stored.scheduledAt = command.requestedAt stored.createdAt

instance (stored : JobRow) (command : EnqueueJob) (payload : JsonObject) :
    Decidable (sameEnqueue stored command payload) :=
  inferInstanceAs (Decidable (_ ∧ _))

/-- The row that `_ENQUEUE` inserts. -/
def enqueuedRow (t : DbTime) (jobId : Uuid) (command : EnqueueJob) (payload : JsonObject) : JobRow where
  jobId := jobId
  key := command.key
  userId := command.userId
  priority := command.priority
  state := .queued
  idempotency := command.idempotency
  payload := toJsonbFields payload
  checkpoint := none
  progressCurrent := none
  progressTotal := none
  attemptCount := 0
  scheduledAt := command.requestedAt t.now
  leaseOwner := none
  leaseDeadline := none
  heartbeatAt := none
  cancelRequestedAt := none
  startedAt := none
  completedAt := none
  errorCode := none
  errorDetail := none
  resourceWaitCount := 0
  resourceWaiting := false
  resourceWakeUntil := none
  createdAt := t.now

/-- **`enqueue`**.  `jobId` is the generated id, `users` the accounts that there are. -/
def enqueue (t : DbTime) (jobId : Uuid) (users : Uuid → Bool) (command : EnqueueJob) (db : JobsDb) :
    Except JobFault (EnqueueResult × JobsDb) := do
  let payload ← (validateJobDocument command.payload "payload" maxJobDocumentBytes).mapError
    JobFault.documentError
  validateEnqueue command
  if ¬storableFields payload then .error (.database "jsonb")
  else if 2147483647 < command.key.schemaVersion then .error (.database "integer")
  else
    -- `ON CONFLICT DO NOTHING` looks for the key before anything is checked of the row.
    match db.jobs.rows.find? fun r => r.idempotency.isSome && r.idempotency = command.idempotency with
    | some stored =>
      if sameEnqueue stored command payload then .ok (⟨stored.jobId, true⟩, db)
      else .error .idempotencyConflict
    | none =>
      if ¬command.userId.all users then .error (.database "job_user_id_fkey")
      else
        match db.jobs.insert (enqueuedRow t jobId command payload) with
        | .ok jobs => .ok (⟨jobId, false⟩, { db with jobs := jobs })
        | .error _ => .error (.database "job_pkey")

/-! ## a lease -/

/-- `lease_owner = :worker_id AND attempt_count = :attempt_no`, of a running job. -/
def holds (fence : LeaseFence) (r : JobRow) : Bool :=
  r.jobId = fence.jobId ∧ r.state = .running ∧ r.leaseOwner = some fence.workerId ∧
    r.attemptCount = fence.attemptNo

/-- The same, before the end of the lease. -/
def holdsLive (now : Int) (fence : LeaseFence) (r : JobRow) : Bool :=
  holds fence r && r.leaseDeadline.any (now < ·)

/-- **`_validate_lease_interval`**. -/
def validateLeaseInterval (value : Int) : Except JobFault Unit :=
  if value < second ∨ 3600 * second < value then
    .error (.valueError "lease interval must be between one second and one hour")
  else .ok ()

structure Heartbeat where
  leaseDeadline : Int
  cancelRequestedAt : Option Int
  deriving DecidableEq

/-- **`heartbeat`**. -/
def heartbeat (t : DbTime) (fence : LeaseFence) (leaseInterval : Int) (db : JobsDb) :
    Except JobFault (Option Heartbeat × JobsDb) := do
  validateLeaseInterval leaseInterval
  match (db.job fence.jobId).filter (holdsLive t.now fence) with
  | none => .ok (none, db)
  | some r => .ok (some ⟨t.now + leaseInterval, r.cancelRequestedAt⟩, { db with
      jobs := db.jobs.updateWhere (holdsLive t.now fence) fun r => { r with
        heartbeatAt := some t.now
        leaseDeadline := some (t.now + leaseInterval) } })

/-- **`_validate_progress`**. -/
def validateProgress (current total : Option Int) : Except JobFault Unit :=
  if current.any (· < 0) then .error (.valueError "progress_current must not be negative")
  else if total.any (· < 0) then .error (.valueError "progress_total must not be negative")
  else if current.any fun c => total.any (· < c) then
    .error (.valueError "progress_current must not exceed progress_total")
  else .ok ()

/-- **`save_checkpoint`**: the answer holds `cancel_requested_at`. -/
def saveCheckpoint (t : DbTime) (fence : LeaseFence) (checkpoint : JsonObject)
    (progressCurrent progressTotal : Option Int) (db : JobsDb) :
    Except JobFault (Option (Option Int) × JobsDb) := do
  let normalized ← (validateJobDocument checkpoint "checkpoint" maxJobDocumentBytes).mapError
    JobFault.documentError
  validateProgress progressCurrent progressTotal
  if ¬storableFields normalized then .error (.database "jsonb")
  else
    match (db.job fence.jobId).filter (holdsLive t.now fence) with
    | none => .ok (none, db)
    | some r => .ok (some r.cancelRequestedAt, { db with
        jobs := db.jobs.updateWhere (holdsLive t.now fence) fun r => { r with
          checkpoint := some (toJsonbFields normalized)
          progressCurrent := progressCurrent
          progressTotal := progressTotal } })

/-- **`_lock_active_lease`**: whether the live attempt is to be cancelled. -/
def lockActiveLease (t : DbTime) (fence : LeaseFence) (db : JobsDb) : Option Bool :=
  ((db.job fence.jobId).filter (holdsLive t.now fence)).map fun r => r.cancelRequestedAt.isSome

/-! ## the end of an attempt -/

/-- The open attempt of a fence. -/
def isOpen (fence : LeaseFence) (a : AttemptRow) : Bool :=
  a.jobId = fence.jobId ∧ a.attemptNo = fence.attemptNo ∧ a.workerId = fence.workerId ∧
    a.finishedAt = none ∧ a.outcome = none

/-- **`_try_close_attempt`**: whether there was one.  `ck_job_attempt_finish` refuses an attempt that
ends before it starts. -/
def tryCloseAttempt (t : DbTime) (fence : LeaseFence) (outcome : JobAttemptOutcome)
    (errorCode : Option String) (db : JobsDb) : Except JobFault (Bool × JobsDb) :=
  match (db.attempt fence.jobId fence.attemptNo).filter (isOpen fence) with
  | none => .ok (false, db)
  | some a =>
    if t.now < a.startedAt then .error (.database "ck_job_attempt_finish")
    else .ok (true, { db with
      attempts := db.attempts.updateWhere (isOpen fence) fun a => { a with
        finishedAt := some t.now
        outcome := some outcome
        errorCode := errorCode } })

/-- What `_SET_JOB_STATE` writes. -/
def JobRow.finished (t : DbTime) (state : JobState) (error : Option JobError) (retryDelay : Int)
    (r : JobRow) : JobRow :=
  { r with
    state := state
    resourceWaiting := false
    resourceWakeUntil := none
    scheduledAt := if state = .retryWait then t.now + retryDelay else r.scheduledAt
    leaseOwner := none
    leaseDeadline := none
    heartbeatAt := none
    completedAt := if state.isTerminal then some t.now else none
    errorCode := error.map JobError.code
    errorDetail := error.map JobError.detail }

/-- **`_set_job_state`**. -/
def setJobState (t : DbTime) (fence : LeaseFence) (state : JobState) (error : Option JobError)
    (retryDelay : Int) (db : JobsDb) : Except JobFault JobsDb :=
  if (db.job fence.jobId).any (holds fence) then
    .ok { db with jobs := db.jobs.updateWhere (holds fence) (JobRow.finished t state error retryDelay) }
  else .error (.persistenceInvariant "locked job transition lost its lease fence")

/-- **`_finish`**. -/
def finish (t : DbTime) (fence : LeaseFence) (outcome : JobAttemptOutcome) (state : JobState)
    (error : Option JobError) (retryDelay : Int) (attemptErrorCode : Option String) (db : JobsDb) :
    Except JobFault JobsDb := do
  let (closed, db) ← tryCloseAttempt t fence outcome (attemptErrorCode.or (error.map JobError.code)) db
  if closed then setJobState t fence state error retryDelay db
  else .error (.persistenceInvariant "active job has no matching open attempt")

/-- The attempt ends because its cancellation was requested. -/
def finishCancelled (t : DbTime) (fence : LeaseFence) (db : JobsDb) : Except JobFault JobsDb :=
  finish t fence .cancelled .cancelled none 0 none db

/-- **`complete`**. -/
def complete (t : DbTime) (fence : LeaseFence) (db : JobsDb) :
    Except JobFault (LeaseTransition × JobsDb) :=
  match lockActiveLease t fence db with
  | none => .ok (.lostLease, db)
  | some true => (finishCancelled t fence db).map (.cancelled, ·)
  | some false => (finish t fence .success .completed none 0 none db).map (.applied, ·)

/-- **`_retry_attempt_no`**. -/
def retryAttemptNo (fence : LeaseFence) (db : JobsDb) : Except JobFault Int :=
  match (db.job fence.jobId).filter fun r =>
    0 ≤ r.resourceWaitCount ∧ r.resourceWaitCount < fence.attemptNo with
  | none => .error (.persistenceInvariant "invalid resource wait count")
  | some r => .ok (fence.attemptNo - r.resourceWaitCount)

/-- **`delay_for`**. -/
def RetryPolicy.delay (policy : RetryPolicy) (jobId : Uuid) (attemptNo : Int) : Except JobFault Int :=
  if attemptNo < 1 then .error (.valueError "attempt_no must be at least one")
  else .ok (policy.delayFor jobId attemptNo)

/-- **`_retry_after_seconds`**. -/
def retryAfterSeconds (error : JobError) : Int :=
  match (error.detail.find? fun x => x.1 = "retry_after_seconds").map Prod.snd with
  | some (.int value) => min 86400 (max 0 value)
  | _ => 0

/-- `JobError("job.retry_exhausted", …)`. -/
def retryExhausted (code : String) : Except JobFault JobError :=
  JobError.make "job.retry_exhausted"
    [("last_error_code", .str code), ("retry_exhausted", .bool true)]

/-- The end of an attempt that may be repeated. -/
def finishRetryable (t : DbTime) (fence : LeaseFence) (error : JobError) (policy : RetryPolicy)
    (db : JobsDb) : Except JobFault JobsDb := do
  let retryAttempt ← retryAttemptNo fence db
  if policy.maxAttempts ≤ retryAttempt then do
    let exhausted ← retryExhausted error.code
    finish t fence .retryableError .failed (some exhausted) 0 (some error.code) db
  else do
    let delay ← policy.delay fence.jobId retryAttempt
    finish t fence .retryableError .retryWait (some error)
      (max delay (retryAfterSeconds error * second)) none db

/-- **`fail_retryable`**. -/
def failRetryable (t : DbTime) (fence : LeaseFence) (error : JobError) (policy : RetryPolicy)
    (db : JobsDb) : Except JobFault (LeaseTransition × JobsDb) :=
  match lockActiveLease t fence db with
  | none => .ok (.lostLease, db)
  | some true => (finishCancelled t fence db).map (.cancelled, ·)
  | some false => (finishRetryable t fence error policy db).map (.applied, ·)

/-- **`fail_terminal`**. -/
def failTerminal (t : DbTime) (fence : LeaseFence) (error : JobError) (db : JobsDb) :
    Except JobFault (LeaseTransition × JobsDb) :=
  match lockActiveLease t fence db with
  | none => .ok (.lostLease, db)
  | some true => (finishCancelled t fence db).map (.cancelled, ·)
  | some false => (finish t fence .terminalError .failed (some error) 0 none db).map (.applied, ·)

/-- **`acknowledge_cancel`**. -/
def acknowledgeCancel (t : DbTime) (fence : LeaseFence) (db : JobsDb) :
    Except JobFault (LeaseTransition × JobsDb) :=
  match lockActiveLease t fence db with
  | some true => (finishCancelled t fence db).map (.cancelled, ·)
  | _ => .ok (.lostLease, db)

/-! ## waiting for resources -/

inductive AdmissionState
  | waiting
  | active
  | released
  | expired
  deriving DecidableEq, Repr

/-- What `defer_for_resource` reads of `account.resource_admission`. -/
structure AdmissionRow where
  operationId : Uuid
  userId : Uuid
  jobId : Option Uuid
  jobWorkerId : Option String
  jobAttempt : Option Int
  isTransfer : Bool
  resourceType : String
  state : AdmissionState
  leaseUntil : Option Int
  claimUntil : Option Int
  claimedAt : Option Int

/-- The admission of an attempt. -/
def matchesAdmission (fence : LeaseFence) (operationId : Uuid) (r : JobRow) (a : AdmissionRow) : Bool :=
  a.operationId = operationId ∧ some a.userId = r.userId ∧ a.jobId = some fence.jobId ∧
    a.jobWorkerId = some fence.workerId ∧ a.jobAttempt = some fence.attemptNo ∧ a.isTransfer ∧
    (a.resourceType = "INTERNET_ACQUISITION" ∧ r.key.jobType = "music.internet.acquire" ∨
      a.resourceType = "DISCOVERY_ACQUISITION" ∧ r.key.jobType = "discovery.acquire")

/-- The job goes back to wait for its resource. -/
def deferJob (t : DbTime) (fence : LeaseFence) (delay : Int) (db : JobsDb) : Except JobFault JobsDb := do
  let db ← finish t fence .resourceWait .retryWait none delay none db
  return { db with
    jobs := db.jobs.updateWhere (fun r => r.jobId = fence.jobId) fun r => { r with
      resourceWaitCount := r.resourceWaitCount + 1
      resourceWaiting := true } }

/-- **`defer_for_resource`**. -/
def deferForResource (t : DbTime) (fence : LeaseFence) (operationId : Uuid) (delay : Int)
    (admissions : List AdmissionRow) (db : JobsDb) :
    Except JobFault (ResourceWaitTransition × JobsDb) :=
  if ¬(second ≤ delay ∧ delay ≤ 30 * second) then
    .error (.valueError "resource wait delay must be between one and 30 seconds")
  else
    match (db.job fence.jobId).filter (holds fence) with
    | none => .ok (.lostLease, db)
    | some r =>
      if ¬r.leaseDeadline.any (t.clock < ·) then .ok (.lostLease, db)
      else if r.cancelRequestedAt.isSome then (finishCancelled t fence db).map (.cancelled, ·)
      else
        match admissions.find? (matchesAdmission fence operationId r) with
        | none => .error (.persistenceInvariant "resource wait has no matching admission")
        | some a =>
          match a.state with
          | .released => .error (.persistenceInvariant "resource wait has no matching admission")
          | .expired => .ok (.recheck, db)
          | .active =>
            if a.leaseUntil.any (t.checkedAt < ·) ∧
                (a.claimedAt.isSome ∨ a.claimUntil.any (t.checkedAt < ·)) then .ok (.granted, db)
            else .ok (.recheck, db)
          | .waiting => (deferJob t fence delay db).map (.deferred, ·)

/-! ## the owner -/

/-- **`request_cancel_for_owner`**. -/
def requestCancelForOwner (t : DbTime) (jobId ownerUserId : Uuid) (db : JobsDb) :
    CancelRequestResult × JobsDb :=
  match (db.job jobId).filter fun r => r.userId = some ownerUserId with
  | none => (.notFound, db)
  | some r =>
    if r.state.isTerminal then (.alreadyTerminal, db)
    else if r.state = .running then (.requested, { db with
      jobs := db.jobs.updateWhere (fun r => r.jobId = jobId) fun r => { r with
        cancelRequestedAt := some (r.cancelRequestedAt.getD t.now) } })
    else (.cancelled, { db with
      jobs := db.jobs.updateWhere (fun r => r.jobId = jobId) fun r => { r with
        state := .cancelled
        resourceWaiting := false
        resourceWakeUntil := none
        cancelRequestedAt := some (r.cancelRequestedAt.getD t.now)
        completedAt := some t.now
        errorCode := none
        errorDetail := none } })

/-! ## claims -/

/-- **`_validate_limit`**. -/
def validateLimit (value : Int) (maximum : Int) (field : String) : Except JobFault Unit :=
  if 1 ≤ value ∧ value ≤ maximum then .ok ()
  else .error (.valueError (field ++ " must be between one and 100"))

/-- A dependency that keeps its job back. -/
def blocks (db : JobsDb) (d : DependencyRow) : Bool :=
  (db.job d.dependsOnJobId).any fun p =>
    match d.dependencyPolicy with
    | .requireSuccess => p.state ≠ .completed
    | .requireTerminal => ¬p.state.isTerminal

/-- The `WHERE` of `_claim_sql`. -/
def claimable (t : DbTime) (supported : List JobKey) (db : JobsDb) (r : JobRow) : Bool :=
  (r.state = .queued ∨ r.state = .retryWait) ∧ r.scheduledAt ≤ t.now ∧ r.cancelRequestedAt = none ∧
    r.key ∈ supported ∧ ∀ d ∈ db.dependencies, d.jobId = r.jobId → blocks db d = false

/-- The `ORDER BY` of `_claim_sql`. -/
def claimBefore (r r' : JobRow) : Prop :=
  ((compare r'.resourceWakeUntil.isSome r.resourceWakeUntil.isSome).then
    ((compare r.resourceWaiting r'.resourceWaiting).then
      ((compare r.priority r'.priority).then
        ((compare r.scheduledAt r'.scheduledAt).then
          ((compare r.createdAt r'.createdAt).then (compare r.jobId r'.jobId)))))).isLE = true

instance : DecidableRel claimBefore := fun _ _ => inferInstanceAs (Decidable (_ = _))

/-- What a claim writes. -/
def JobRow.claimed (t : DbTime) (workerId : String) (leaseInterval : Int) (r : JobRow) : JobRow :=
  { r with
    state := .running
    resourceWaiting := false
    resourceWakeUntil := none
    leaseOwner := some workerId
    leaseDeadline := some (t.now + leaseInterval)
    heartbeatAt := some t.now
    startedAt := some (r.startedAt.getD t.now)
    attemptCount := r.attemptCount + 1
    completedAt := none
    errorCode := none
    errorDetail := none }

/-- The attempt of a claimed job. -/
def JobRow.newAttempt (t : DbTime) (workerId : String) (r : JobRow) : AttemptRow :=
  ⟨r.jobId, r.attemptCount, workerId, t.now, none, none, none⟩

/-- One active delivery of a job. -/
structure JobLease where
  fence : LeaseFence
  key : JobKey
  userId : Option Uuid
  priority : Int
  payload : JsonObject
  checkpoint : Option JsonObject
  leaseDeadline : Int
  cancelRequestedAt : Option Int
  resourceWaitCount : Int
  waits : 0 ≤ resourceWaitCount ∧ resourceWaitCount < fence.attemptNo
  bounded : 0 ≤ priority ∧ priority ≤ 4

/-- **`_lease_from_row`**, of a row that was claimed by a worker. -/
def leaseFromRow (workerId : String) (r : JobRow) : Except JobFault JobLease :=
  if hb : boundedText workerId 300 then
    if hp : 1 ≤ r.attemptCount then
      if hw : 0 ≤ r.resourceWaitCount ∧ r.resourceWaitCount < r.attemptCount then
        if hq : 0 ≤ r.priority ∧ r.priority ≤ 4 then
          match r.leaseDeadline with
          | none => .error (.persistenceInvariant "lease_deadline is not a timestamp")
          | some deadline => .ok ⟨⟨r.jobId, workerId, r.attemptCount, hb, hp⟩, r.key, r.userId,
              r.priority, r.payload, r.checkpoint, deadline, r.cancelRequestedAt, r.resourceWaitCount,
              hw, hq⟩
        else .error (.valueError "priority must be between zero and four")
      else .error (.valueError "resource_wait_count must precede the current attempt")
    else .error (.valueError "attempt_no must be at least one")
  else .error (.valueError "worker_id length must be between one and 300")

/-- One candidate becomes a running attempt. -/
def claimOne (t : DbTime) (workerId : String) (leaseInterval : Int) (db : JobsDb) (r : JobRow) :
    Except JobFault JobsDb :=
  match db.attempts.insert ((r.claimed t workerId leaseInterval).newAttempt t workerId) with
  | .error _ => .error (.database "uq_job_attempt_number")
  | .ok attempts => .ok { db with
      jobs := db.jobs.updateWhere (fun x => x.jobId = r.jobId) (JobRow.claimed t workerId leaseInterval)
      attempts := attempts }

/-- The rows that a claim takes. -/
def candidates (t : DbTime) (supported : List JobKey) (locked : Uuid → Bool) (limit : Nat)
    (db : JobsDb) : List JobRow :=
  ((db.jobs.rows.filter fun r => claimable t supported db r && !locked r.jobId).insertionSort
    claimBefore).take limit

/-- **`claim`**. -/
def claim (t : DbTime) (workerId : String) (supported : List JobKey) (leaseInterval limit : Int)
    (locked : Uuid → Bool) (db : JobsDb) : Except JobFault (List JobLease × JobsDb) := do
  if ¬boundedText workerId 300 then
    .error (.valueError "worker_id length must be between one and 300")
  else do
    validateLeaseInterval leaseInterval
    validateLimit limit 100 "claim limit"
    let rows := candidates t supported locked limit.toNat db
    let db ← rows.foldlM (claimOne t workerId leaseInterval) db
    let leases ← rows.mapM fun r => leaseFromRow workerId (r.claimed t workerId leaseInterval)
    return (leases, db)

/-! ## recovery -/

structure RecoveredJob where
  jobId : Uuid
  attemptNo : Int
  state : JobState
  deriving DecidableEq

/-- The `WHERE` of `_lock_expired_sql`. -/
def isExpired (t : DbTime) (supported : List JobKey) (r : JobRow) : Bool :=
  r.state = .running ∧ r.leaseDeadline.any (· ≤ t.now) ∧ r.key ∈ supported

/-- Its `ORDER BY`. -/
def expiredBefore (r r' : JobRow) : Prop :=
  ((compare (r.leaseDeadline.getD 0) (r'.leaseDeadline.getD 0)).then
    (compare r.jobId r'.jobId)).isLE = true

instance : DecidableRel expiredBefore := fun _ _ => inferInstanceAs (Decidable (_ = _))

/-- The fence of a running row. -/
def fenceOfRow (r : JobRow) : Except JobFault LeaseFence :=
  match r.leaseOwner with
  | none => .error (.persistenceInvariant "lease_owner is not text")
  | some workerId =>
    if h : boundedText workerId 300 ∧ 1 ≤ r.attemptCount then .ok ⟨r.jobId, workerId, r.attemptCount, h.1, h.2⟩
    else .error (.valueError "worker_id length must be between one and 300")

/-- The state, the outcome and the errors of a recovered attempt. -/
def recoveryOf (policy : RetryPolicy) (r : JobRow) :
    Except JobFault (JobState × JobAttemptOutcome × Option String × Option JobError) :=
  if r.cancelRequestedAt.isSome then .ok (.cancelled, .cancelled, none, none)
  else if policy.maxAttempts ≤ r.attemptCount - r.resourceWaitCount then do
    let error ← retryExhausted "job.lease_expired"
    return (.failed, .leaseExpired, some "job.lease_expired", some error)
  else do
    let error ← JobError.make "job.lease_expired" []
    return (.retryWait, .leaseExpired, some "job.lease_expired", some error)

/-- The state and the error, once it is known whether there was an open attempt. -/
def recoveredAs (closed : Bool) (state : JobState) (error : Option JobError) :
    Except JobFault (JobState × Option JobError) :=
  if closed then .ok (state, error)
  else do
    let error ← JobError.make "job.persistence_invariant" [("missing_open_attempt", .bool true)]
    return (.failed, some error)

/-- How long a recovered job waits. -/
def recoveryDelay (policy : RetryPolicy) (r : JobRow) (state : JobState) : Except JobFault Int :=
  if state = .retryWait then policy.delay r.jobId (r.attemptCount - r.resourceWaitCount) else .ok 0

/-- One expired lease. -/
def recoverOne (t : DbTime) (policy : RetryPolicy) (r : JobRow) (db : JobsDb) :
    Except JobFault (RecoveredJob × JobsDb) := do
  let fence ← fenceOfRow r
  let (state, outcome, errorCode, error) ← recoveryOf policy r
  let (closed, db) ← tryCloseAttempt t fence outcome errorCode db
  let (state, error) ← recoveredAs closed state error
  let retryDelay ← recoveryDelay policy r state
  let db ← setJobState t fence state error retryDelay db
  return (⟨r.jobId, r.attemptCount, state⟩, db)

/-- The loop of `recover_expired`. -/
def recoverAll (t : DbTime) (policy : RetryPolicy) :
    List JobRow → JobsDb → Except JobFault (List RecoveredJob × JobsDb)
  | [], db => .ok ([], db)
  | r :: rows, db => do
    let (recovered, db) ← recoverOne t policy r db
    let (others, db) ← recoverAll t policy rows db
    return (recovered :: others, db)

/-- The rows that a recovery locks. -/
def expiredRows (t : DbTime) (supported : List JobKey) (locked : Uuid → Bool) (limit : Nat)
    (db : JobsDb) : List JobRow :=
  ((db.jobs.rows.filter fun r => isExpired t supported r && !locked r.jobId).insertionSort
    expiredBefore).take limit

/-- **`recover_expired`**. -/
def recoverExpired (t : DbTime) (supported : List JobKey) (limit : Int) (policy : RetryPolicy)
    (locked : Uuid → Bool) (db : JobsDb) : Except JobFault (List RecoveredJob × JobsDb) := do
  validateLimit limit 100 "recovery limit"
  recoverAll t policy (expiredRows t supported locked limit.toNat db) db

/-! ## the resource scheduler -/

/-- The wake-up of `ResourceAdmissionRepository.advance`: a job that waits for its resource is due. -/
def wake (now wakeUntil : Int) (jobId : Uuid) (db : JobsDb) : JobsDb :=
  { db with
    jobs := db.jobs.updateWhere (fun r => r.jobId = jobId ∧ r.state = .retryWait ∧ r.resourceWaiting ∧
      r.resourceWakeUntil = none) fun r => { r with
        resourceWakeUntil := some wakeUntil
        scheduledAt := now } }

end AutPlay.Jobs
