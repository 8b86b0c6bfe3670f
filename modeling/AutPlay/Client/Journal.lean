import AutPlay.Sync.Push
import Mathlib.Data.List.Sort

/-!
# The offline journal of a device

The rows of `offline_journal_event`, the statements of `JournalDao` that change them, and what a
`SyncCoordinator` makes of the answer to a push: `retry`, `settle` and the releases of a lease.

Every statement of the DAO is one `UPDATE`, so that it is an `updateWhere` of the rows.
-/

set_option linter.unusedSectionVars false

namespace AutPlay.Client
open Sync

/-! ## rows -/

inductive JournalState
  | pending
  | sending
  | acked
  | conflict
  | deadLetter
  deriving DecidableEq, Repr

/-- The states that a coordinator never leases again. -/
def JournalState.Terminal (s : JournalState) : Prop := s = acked ∨ s = conflict ∨ s = deadLetter

instance (s : JournalState) : Decidable s.Terminal :=
  inferInstanceAs (Decidable (s = .acked ∨ s = .conflict ∨ s = .deadLetter))

/-- What `last_error_code` holds: a code of the server, or one of the coordinator's own. -/
inductive ErrorCode
  | server (code : RejectCode)
  | networkUnavailable
  | partialAck
  | ackProtocolInvalid
  | rejected
  | unknownAckOutcome
  | policyReview
  | sessionRequired
  deriving DecidableEq, Repr

/-- `OfflineJournalEventEntity`: the immutable event and the state of its delivery. -/
structure JournalEvent where
  event : Event
  state : JournalState
  attemptCount : Nat
  nextAttemptAtMs : Option Int
  leaseToken : Option Uuid
  leaseExpiresAtMs : Option Int
  lastErrorCode : Option ErrorCode
  ackedAtMs : Option Int

/-- A new row of the journal. -/
def JournalEvent.new (e : Event) : JournalEvent where
  event := e
  state := .pending
  attemptCount := 0
  nextAttemptAtMs := none
  leaseToken := none
  leaseExpiresAtMs := none
  lastErrorCode := none
  ackedAtMs := none

def JournalEvent.deviceSequence (r : JournalEvent) : Int := r.event.deviceSequence.val

/-! ## `JournalDao` -/

/-- `UPDATE … SET … WHERE …`. -/
def updateWhere (rows : List JournalEvent) (cond : JournalEvent → Bool)
    (set : JournalEvent → JournalEvent) : List JournalEvent :=
  rows.map (fun r => if cond r then set r else r)

/-- The row is leased with the token. -/
def JournalEvent.leasedBy (token : Uuid) (r : JournalEvent) : Bool :=
  r.state = .sending ∧ r.leaseToken = some token

/-- `nextPending`. -/
def nextPending (rows : List JournalEvent) (nowMs : Int) (limit : Nat) : List JournalEvent :=
  ((rows.filter (fun r => r.state = .pending ∧ r.nextAttemptAtMs.all (· ≤ nowMs))).insertionSort
    (fun a b => a.deviceSequence ≤ b.deviceSequence)).take limit

/-- `recoverExpiredLeases`. -/
def recoverExpiredLeases (rows : List JournalEvent) (nowMs : Int) : List JournalEvent :=
  updateWhere rows (fun r => r.state = .sending ∧ r.leaseExpiresAtMs.any (· ≤ nowMs))
    (fun r => { r with state := .pending, leaseToken := none, leaseExpiresAtMs := none })

/-- `recoverUnboundJournal`. -/
def recoverUnboundJournal (rows : List JournalEvent) : List JournalEvent :=
  updateWhere rows
    (fun r => r.state = .deadLetter ∧ r.lastErrorCode = some (.server .journalResetRequired))
    (fun r => { r with
      state := .pending, attemptCount := 0, nextAttemptAtMs := none, lastErrorCode := none,
      leaseToken := none, leaseExpiresAtMs := none })

/-- `lease`: the rows when a pending row has the identifier. -/
def lease (rows : List JournalEvent) (eventId token : Uuid) (expiresAtMs : Int) :
    Option (List JournalEvent) :=
  let cond (r : JournalEvent) : Bool := r.event.eventId = eventId ∧ r.state = .pending
  if rows.any cond then
    some (updateWhere rows cond (fun r => { r with
      state := .sending, leaseToken := some token, leaseExpiresAtMs := some expiresAtMs,
      attemptCount := r.attemptCount + 1 }))
  else none

/-- `acknowledge`. -/
def acknowledge (rows : List JournalEvent) (eventId token : Uuid) (ackedAtMs : Int) :
    List JournalEvent :=
  updateWhere rows (fun r => r.event.eventId = eventId ∧ r.leasedBy token)
    (fun r => { r with
      state := .acked, ackedAtMs := some ackedAtMs, leaseToken := none, leaseExpiresAtMs := none })

/-- `finishAttempt`. -/
def finishAttempt (rows : List JournalEvent) (eventId token : Uuid) (state : JournalState)
    (nextAttemptAtMs : Option Int) (code : Option ErrorCode) : List JournalEvent :=
  updateWhere rows (fun r => r.event.eventId = eventId ∧ r.leasedBy token)
    (fun r => { r with
      state := state, nextAttemptAtMs := nextAttemptAtMs, lastErrorCode := code,
      leaseToken := none, leaseExpiresAtMs := none })

/-- A released row is pending again, and its last attempt does not count. -/
def JournalEvent.released (code : Option ErrorCode) (r : JournalEvent) : JournalEvent :=
  { r with
    state := .pending, attemptCount := r.attemptCount - 1, nextAttemptAtMs := none,
    lastErrorCode := code, leaseToken := none, leaseExpiresAtMs := none }

/-- `releaseForSession`. -/
def releaseForSession (rows : List JournalEvent) (eventId token : Uuid) : List JournalEvent :=
  updateWhere rows (fun r => r.event.eventId = eventId ∧ r.leasedBy token)
    (JournalEvent.released (some .sessionRequired))

/-- `releaseCancelledLease`. -/
def releaseCancelledLease (rows : List JournalEvent) (token : Uuid) : List JournalEvent :=
  updateWhere rows (fun r => r.leasedBy token) (JournalEvent.released none)

/-- `deleteTerminal`; a conflict stays. -/
def deleteTerminal (rows : List JournalEvent) (eventIds : List Uuid) : List JournalEvent :=
  rows.filter (fun r =>
    ¬ (r.event.eventId ∈ eventIds ∧ (r.state = .acked ∨ r.state = .deadLetter)))

/-! ## `SyncAttemptPolicy` -/

def maxAttempts : Nat := 8
def baseBackoffMs : Int := 1000
def maxBackoffMs : Int := 3600000

structure Decision where
  state : JournalState
  delayMs : Int
  deriving DecidableEq, Repr

/-- `SyncAttemptPolicy.afterRetry`. -/
def afterRetry (previousAttempts : Nat) (retryAfterMs : Option Int) : Decision :=
  let attempt := previousAttempts + 1
  let delay := retryAfterMs.getD (min maxBackoffMs (baseBackoffMs * 2 ^ min attempt 12))
  ⟨if maxAttempts ≤ attempt then .deadLetter else .pending, delay⟩

/-! ## acknowledgements as the client reads them -/

/-- An outcome on the wire; an unknown one is kept. -/
inductive WireOutcome
  | known (outcome : Outcome)
  | other (text : String)
  deriving DecidableEq, Repr

/-- `SyncAck`. -/
structure SyncAck where
  eventId : Uuid
  outcome : WireOutcome
  errorCode : Option RejectCode
  retryAfterMs : Option Int
  retryable : Bool
  originalOutcome : Option WireOutcome
  aggregateType : AggregateType
  aggregateLocalId : Uuid
  aggregateServerId : Option Uuid
  serverRowVersion : Option Int

/-- What the transport reads from the acknowledgement of the server, which names no delay. -/
def SyncAck.ofAck (a : Ack) : SyncAck where
  eventId := a.eventId
  outcome := .known a.outcome
  errorCode := a.error.map ErrorBody.code
  retryAfterMs := none
  retryable := (a.error.map ErrorBody.retryable).getD false
  originalOutcome := a.originalOutcome.map WireOutcome.known
  aggregateType := a.aggregateType
  aggregateLocalId := a.aggregateLocalId
  aggregateServerId := a.aggregateServerId
  serverRowVersion := a.serverRowVersion

/-- The outcome that counts: a duplicate has the one of its original. -/
def SyncAck.effective (ack : SyncAck) : WireOutcome :=
  if ack.outcome = .known .duplicate then ack.originalOutcome.getD (.known .rejected)
  else ack.outcome

/-- `ackPreflight`; `adoptable` is what it asks of the row of the aggregate. -/
def ackPreflight (adoptable : JournalEvent → SyncAck → Bool) (event : JournalEvent)
    (ack : SyncAck) : Bool :=
  decide (ack.eventId = event.event.eventId) &&
    decide (ack.aggregateType = event.event.aggregateType) &&
    decide (ack.aggregateLocalId = event.event.aggregateLocalId) &&
    (decide (ack.effective ≠ .known .applied) ||
      (ack.aggregateServerId.isSome && ack.serverRowVersion.isSome && adoptable event ack))

/-! ## `SyncCoordinator` -/

def pushBatchLimit : Nat := 100
def leaseMs : Int := 60000

/-- `retry`: the decision is taken on the attempts of the candidate, as it was selected. -/
def retry (rows : List JournalEvent) (event : JournalEvent) (token : Uuid) (code : ErrorCode)
    (retryAfterMs : Option Int) (nowMs : Int) : List JournalEvent :=
  let decision := afterRetry event.attemptCount retryAfterMs
  finishAttempt rows event.event.eventId token decision.state
    (if decision.state = .pending then some (nowMs + decision.delayMs) else none) (some code)

/-- The candidates that could be leased, up to the first that could not, and the rows. -/
def leaseWhile (token : Uuid) (expiresAtMs : Int) :
    List JournalEvent → List JournalEvent → List JournalEvent × List JournalEvent
  | rows, [] => ([], rows)
  | rows, c :: cs =>
    match lease rows c.event.eventId token expiresAtMs with
    | none => ([], rows)
    | some rows' =>
      let (leased, rows'') := leaseWhile token expiresAtMs rows' cs
      (c :: leased, rows'')

/-- `response.associateBy { it.eventId }`: the last acknowledgement of an event counts. -/
def ackOf (response : List SyncAck) (eventId : Uuid) : Option SyncAck :=
  response.reverse.find? (fun a => a.eventId = eventId)

/-- What the acknowledgement of one leased event does. -/
def settleOne (adoptable : JournalEvent → SyncAck → Bool) (response : List SyncAck) (token : Uuid)
    (nowMs : Int) (rows : List JournalEvent) (event : JournalEvent) : List JournalEvent :=
  match ackOf response event.event.eventId with
  | none => retry rows event token .partialAck none nowMs
  | some ack =>
    if ackPreflight adoptable event ack = false then
      retry rows event token .ackProtocolInvalid none nowMs
    else
      match ack.effective with
      | .known .applied => acknowledge rows event.event.eventId token nowMs
      | .known .duplicate => acknowledge rows event.event.eventId token nowMs
      | .known .conflict =>
        finishAttempt rows event.event.eventId token .conflict none
          (some ((ack.errorCode.map ErrorCode.server).getD .policyReview))
      | .known .rejected =>
        if ack.retryable = false then
          finishAttempt rows event.event.eventId token .deadLetter none
            (ack.errorCode.map ErrorCode.server)
        else
          retry rows event token ((ack.errorCode.map ErrorCode.server).getD .rejected)
            ack.retryAfterMs nowMs
      | .other _ => retry rows event token .unknownAckOutcome none nowMs

/-- The answer to a push, settled in one transaction; a journal reset gives the lease back. -/
def settle (adoptable : JournalEvent → SyncAck → Bool) (rows leased : List JournalEvent)
    (token : Uuid) (response : List SyncAck) (nowMs : Int) : List JournalEvent :=
  if response.any (fun a => a.errorCode = some .journalResetRequired) then
    releaseCancelledLease rows token
  else leased.foldl (settleOne adoptable response token nowMs) rows

/-- A request that failed on the network. -/
def networkFailed (rows leased : List JournalEvent) (token : Uuid) (nowMs : Int) :
    List JournalEvent :=
  leased.foldl (fun rows e => retry rows e token .networkUnavailable none nowMs) rows

/-- A request that found no session. -/
def sessionRequired (rows leased : List JournalEvent) (token : Uuid) : List JournalEvent :=
  leased.foldl (fun rows e => releaseForSession rows e.event.eventId token) rows

end AutPlay.Client
