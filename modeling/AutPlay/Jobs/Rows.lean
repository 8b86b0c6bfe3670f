import AutPlay.Jobs.Document
import AutPlay.Lib.Table
import AutPlay.Sync.Uuid

/-!
# Jobs

* `JobKey`, `LeaseFence`, `JobError`, `RetryPolicy`   the values of `domain/jobs.py`, with their checks;
* `JobRow`, `AttemptRow`, `DependencyRow`             the tables;
* `JobsDb`                                            their contents.

A point of time is a number of microseconds.
-/

set_option linter.unusedSectionVars false

namespace AutPlay.Jobs

open AutPlay.Sync (Uuid)

/-- A second, in microseconds. -/
def second : Int := 1000000

/-! ## values -/

inductive JobState
  | queued
  | running
  | retryWait
  | paused
  | completed
  | failed
  | cancelled
  deriving DecidableEq, Repr

/-- **`is_terminal`**. -/
def JobState.isTerminal : JobState → Bool
  | .completed | .failed | .cancelled => true
  | _ => false

inductive JobAttemptOutcome
  | success
  | retryableError
  | terminalError
  | leaseExpired
  | resourceWait
  | cancelled
  deriving DecidableEq, Repr

inductive LeaseTransition
  | applied
  | cancelled
  | lostLease
  deriving DecidableEq, Repr

inductive CancelRequestResult
  | requested
  | cancelled
  | alreadyTerminal
  | notFound
  deriving DecidableEq, Repr

inductive ResourceWaitTransition
  | granted
  | recheck
  | deferred
  | cancelled
  | lostLease
  deriving DecidableEq, Repr

/-- **`_validate_bounded_text`**. -/
def boundedText (value : String) (maximum : Nat) : Prop := 1 ≤ value.length ∧ value.length ≤ maximum

instance (value : String) (maximum : Nat) : Decidable (boundedText value maximum) :=
  inferInstanceAs (Decidable (_ ∧ _))

/-- A versioned handler key. -/
structure JobKey where
  jobType : String
  schemaVersion : Int
  bounded : boundedText jobType 200
  positive : 1 ≤ schemaVersion

theorem JobKey.eq_iff {a b : JobKey} :
    a.jobType = b.jobType ∧ a.schemaVersion = b.schemaVersion ↔ a = b := by
  cases a
  cases b
  rw [JobKey.mk.injEq]

instance : DecidableEq JobKey := fun _ _ => decidable_of_iff _ JobKey.eq_iff

/-- The identity of one claim of a job. -/
structure LeaseFence where
  jobId : Uuid
  workerId : String
  attemptNo : Int
  bounded : boundedText workerId 300
  positive : 1 ≤ attemptNo

theorem LeaseFence.eq_iff {a b : LeaseFence} :
    a.jobId = b.jobId ∧ a.workerId = b.workerId ∧ a.attemptNo = b.attemptNo ↔ a = b := by
  cases a
  cases b
  rw [LeaseFence.mk.injEq]

instance : DecidableEq LeaseFence := fun _ _ => decidable_of_iff _ LeaseFence.eq_iff

/-- How a call of the repository fails; its transaction changes nothing then. -/
inductive JobFault
  | valueError (message : String)
  | documentError (message : JobDocumentError)
  | persistenceInvariant (message : String)
  | idempotencyConflict
  | database (violated : String)
  deriving DecidableEq

/-- `^[a-z0-9][a-z0-9_.-]*$`, and at most 200 characters. -/
def isErrorCode (code : String) : Bool :=
  decide (code.length ≤ 200) &&
  match code.toList with
  | [] => false
  | c :: cs => (c.isLower || c.isDigit) && cs.all fun d => d.isLower || d.isDigit || d ∈ ['_', '.', '-']

/-- A checked error of an attempt or a job. -/
structure JobError where
  code : String
  detail : JsonObject
  coded : isErrorCode code = true

/-- The constructor of `JobError`. -/
def JobError.make (code : String) (detail : JsonObject) : Except JobFault JobError :=
  if h : isErrorCode code = true then
    match validateJobDocument detail "error_detail" maxErrorDetailBytes with
    | .ok normalized => .ok ⟨code, normalized, h⟩
    | .error message => .error (.documentError message)
  else .error (.valueError "error code must be a lowercase dotted machine code")

/-- A bounded retry policy.  `delay_for` hashes the job and the attempt; floating point numbers make
it a field here. -/
structure RetryPolicy where
  maxAttempts : Int
  delayFor : Uuid → Int → Int
  bounded : 1 ≤ maxAttempts ∧ maxAttempts ≤ 100

/-! ## tables -/

structure JobRow where
  jobId : Uuid
  key : JobKey
  userId : Option Uuid
  priority : Int
  state : JobState
  idempotency : Option (String × String)
  payload : JsonObject
  checkpoint : Option JsonObject
  progressCurrent : Option Int
  progressTotal : Option Int
  attemptCount : Int
  scheduledAt : Int
  leaseOwner : Option String
  leaseDeadline : Option Int
  heartbeatAt : Option Int
  cancelRequestedAt : Option Int
  startedAt : Option Int
  completedAt : Option Int
  errorCode : Option String
  errorDetail : Option JsonObject
  resourceWaitCount : Int
  resourceWaiting : Bool
  resourceWakeUntil : Option Int
  createdAt : Int

/-- `uq_job_idempotency`. -/
instance : Schema JobRow Uuid (String × String) := ⟨JobRow.jobId, JobRow.idempotency⟩

structure AttemptRow where
  jobId : Uuid
  attemptNo : Int
  workerId : String
  startedAt : Int
  finishedAt : Option Int
  outcome : Option JobAttemptOutcome
  errorCode : Option String

/-- `uq_job_attempt_number`. -/
instance : Schema AttemptRow (Uuid × Int) Empty := ⟨fun a => (a.jobId, a.attemptNo), fun _ => none⟩

inductive DependencyPolicy
  | requireSuccess
  | requireTerminal
  deriving DecidableEq, Repr

structure DependencyRow where
  jobId : Uuid
  dependsOnJobId : Uuid
  dependencyPolicy : DependencyPolicy

/-- The schema `jobs`. -/
structure JobsDb where
  jobs : Table JobRow
  attempts : Table AttemptRow
  dependencies : List DependencyRow

/-- The row of a job. -/
def JobsDb.job (db : JobsDb) (jobId : Uuid) : Option JobRow := db.jobs.find jobId

/-- The row of an attempt. -/
def JobsDb.attempt (db : JobsDb) (jobId : Uuid) (attemptNo : Int) : Option AttemptRow :=
  db.attempts.find (jobId, attemptNo)

/-- The times of a transaction: `now()` is its start, `clock_timestamp()` is read later. -/
structure DbTime where
  now : Int
  clock : Int
  checkedAt : Int
  now_le : now ≤ clock
  clock_le : clock ≤ checkedAt

end AutPlay.Jobs
