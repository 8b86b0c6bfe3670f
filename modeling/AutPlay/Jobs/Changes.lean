import AutPlay.Jobs.Repository
import Mathlib.Logic.Relation

/-!
# What a call does to a job

* `Change`           the ways in which one job and its attempts change;
* `Micro`            one job changes, the others do not;
* `finish_micro`, `claimOne_micro`, `recoverOne_micro`, …   every method as changes of single jobs.
-/

set_option linter.unusedSectionVars false

namespace AutPlay.Jobs

open AutPlay.Sync (Uuid)

/-! ## changes -/

/-- What is never written again. -/
structure Lasting (r r' : JobRow) : Prop where
  jobId : r'.jobId = r.jobId
  key : r'.key = r.key
  userId : r'.userId = r.userId
  priority : r'.priority = r.priority
  idempotency : r'.idempotency = r.idempotency
  payload : r'.payload = r.payload
  createdAt : r'.createdAt = r.createdAt

/-- The attempts of a job stay as they are. -/
def AttemptsKept (j : Uuid) (db db' : JobsDb) : Prop := ∀ n, db'.attempt j n = db.attempt j n

/-- All required prerequisites are complete. -/
def PrerequisitesMet (db : JobsDb) (j : Uuid) : Prop :=
  ∀ d ∈ db.dependencies, d.jobId = j → d.dependencyPolicy = .requireSuccess →
    ∀ p, db.job d.dependsOnJobId = some p → p.state = .completed

/-- **How one job changes.** -/
inductive Change (t : DbTime) (db db' : JobsDb) (j : Uuid) : Prop
  | created (r : JobRow) (fresh : db.job j = none) (job : db'.job j = some r)
      (new : r.state = .queued ∧ r.attemptCount = 0 ∧ r.resourceWaitCount = 0)
      (attempts : AttemptsKept j db db')
  | written (r r' : JobRow) (before : db.job j = some r) (after : db'.job j = some r')
      (lasting : Lasting r r') (state : r'.state = r.state) (owner : r'.leaseOwner = r.leaseOwner)
      (cancel : r'.cancelRequestedAt = r.cancelRequestedAt) (count : r'.attemptCount = r.attemptCount)
      (waits : r'.resourceWaitCount = r.resourceWaitCount) (attempts : AttemptsKept j db db')
  | asked (r r' : JobRow) (before : db.job j = some r) (after : db'.job j = some r')
      (lasting : Lasting r r') (running : r.state = .running) (state : r'.state = r.state)
      (owner : r'.leaseOwner = r.leaseOwner) (cancel : r'.cancelRequestedAt.isSome)
      (count : r'.attemptCount = r.attemptCount) (waits : r'.resourceWaitCount = r.resourceWaitCount)
      (attempts : AttemptsKept j db db')
  | withdrawn (r r' : JobRow) (before : db.job j = some r) (after : db'.job j = some r')
      (lasting : Lasting r r') (pending : r.state ≠ .running ∧ r.state.isTerminal = false)
      (state : r'.state = .cancelled) (count : r'.attemptCount = r.attemptCount)
      (waits : r'.resourceWaitCount = r.resourceWaitCount) (attempts : AttemptsKept j db db')
  | claimed (r : JobRow) (workerId : String) (leaseInterval : Int) (before : db.job j = some r)
      (after : db'.job j = some (r.claimed t workerId leaseInterval))
      (bounded : boundedText workerId 300) (pending : r.state ≠ .running ∧ r.state.isTerminal = false)
      (fresh : db.attempt j (r.attemptCount + 1) = none)
      (attempts : ∀ n, db'.attempt j n =
        if n = r.attemptCount + 1 then
          some ((r.claimed t workerId leaseInterval).newAttempt t workerId)
        else db.attempt j n)
  | ended (r r' : JobRow) (fence : LeaseFence) (a a' : AttemptRow) (outcome : JobAttemptOutcome)
      (before : db.job j = some r) (after : db'.job j = some r') (held : holds fence r = true)
      (opened : db.attempt j fence.attemptNo = some a) (isOpen : isOpen fence a = true)
      (lasting : Lasting r r') (state : r'.state ≠ .running) (count : r'.attemptCount = r.attemptCount)
      (waits : r'.resourceWaitCount = r.resourceWaitCount ∨
        r'.resourceWaitCount = r.resourceWaitCount + 1)
      (closed : a'.finishedAt = some t.now ∧ a'.outcome = some outcome)
      (attempts : ∀ n, db'.attempt j n = if n = fence.attemptNo then some a' else db.attempt j n)
      (cancelled : r.cancelRequestedAt.isSome → outcome = .cancelled)
  | orphaned (r r' : JobRow) (fence : LeaseFence) (before : db.job j = some r)
      (after : db'.job j = some r') (held : holds fence r = true) (state : r'.state ≠ .running)
      (missing : (db.attempt j fence.attemptNo).filter (isOpen fence) = none)
      (lasting : Lasting r r')

/-- The other jobs, and the dependencies, stay as they are. -/
structure Frame (j : Uuid) (db db' : JobsDb) : Prop where
  job : ∀ i, i ≠ j → db'.job i = db.job i
  attempt : ∀ i, i ≠ j → AttemptsKept i db db'
  dependencies : db'.dependencies = db.dependencies

/-- One job changes. -/
def Micro (t : DbTime) (db db' : JobsDb) : Prop := ∃ j, Change t db db' j ∧ Frame j db db'

section
variable {t : DbTime} {db db' : JobsDb} {j : Uuid} {fence : LeaseFence} {r r' : JobRow}

/-! ## statements -/

theorem job_updateWhere {p : JobRow → Bool} {f : JobRow → JobRow} {hk : ∀ r, (f r).jobId = r.jobId}
    {hi : ∀ r, (f r).idempotency = r.idempotency} (i : Uuid) :
    JobsDb.job { db with jobs := db.jobs.updateWhere p f hk hi } i =
      (db.job i).map fun r => if p r then f r else r := by
  show Table.find _ i = _
  rw [Table.find_updateWhere]
  rfl

theorem jobId_of_job (h : db.job j = some r) : r.jobId = j := Table.key_of_find h

/-- An update that only concerns one job. -/
theorem frame_updateWhere {p : JobRow → Bool} {f : JobRow → JobRow} {hk : ∀ r, (f r).jobId = r.jobId}
    {hi : ∀ r, (f r).idempotency = r.idempotency} (hp : ∀ r, p r = true → r.jobId = j) :
    Frame j db { db with jobs := db.jobs.updateWhere p f hk hi } := by
  refine ⟨fun i hne => ?_, fun _ _ _ => rfl, rfl⟩
  rw [job_updateWhere]
  cases hi : db.job i with
  | none => rfl
  | some r =>
    have hr : ¬p r = true := fun h => hne ((jobId_of_job hi).symm.trans (hp r h))
    rw [Option.map_some, if_neg hr]

theorem job_of_filter {p : JobRow → Bool} (h : (db.job j).filter p = some r) :
    db.job j = some r ∧ p r = true := by
  rw [Option.filter_eq_some_iff] at h
  exact h

theorem holds_iff : holds fence r = true ↔ r.jobId = fence.jobId ∧ r.state = .running ∧
    r.leaseOwner = some fence.workerId ∧ r.attemptCount = fence.attemptNo := by
  unfold holds
  exact decide_eq_true_iff

theorem holdsLive_iff {now : Int} : holdsLive now fence r = true ↔
    holds fence r = true ∧ ∃ deadline, r.leaseDeadline = some deadline ∧ now < deadline := by
  unfold holdsLive
  rw [Bool.and_eq_true, Option.any_eq_true]
  simp

theorem isOpen_iff {a : AttemptRow} : isOpen fence a = true ↔ a.jobId = fence.jobId ∧
    a.attemptNo = fence.attemptNo ∧ a.workerId = fence.workerId ∧ a.finishedAt = none ∧
    a.outcome = none := by
  unfold isOpen
  exact decide_eq_true_iff

theorem Frame.refl (j : Uuid) (db : JobsDb) : Frame j db db :=
  ⟨fun _ _ => rfl, fun _ _ _ => rfl, rfl⟩

theorem Frame.trans {db'' : JobsDb} (h : Frame j db db') (h' : Frame j db' db'') :
    Frame j db db'' :=
  ⟨fun i hi => (h'.job i hi).trans (h.job i hi),
    fun i hi n => (h'.attempt i hi n).trans (h.attempt i hi n),
    h'.dependencies.trans h.dependencies⟩

/-! ## the end of an attempt -/

/-- **`_try_close_attempt`** closes the open attempt of the fence, if there is one. -/
theorem tryCloseAttempt_ok {outcome : JobAttemptOutcome} {code : Option String} {closed : Bool}
    (h : tryCloseAttempt t fence outcome code db = .ok (closed, db')) :
    (closed = false ∧ db' = db ∧
        (db.attempt fence.jobId fence.attemptNo).filter (isOpen fence) = none) ∨
      ∃ a, closed = true ∧ db.attempt fence.jobId fence.attemptNo = some a ∧ isOpen fence a = true ∧
        db'.jobs = db.jobs ∧ Frame fence.jobId db db' ∧
        ∀ n, db'.attempt fence.jobId n = if n = fence.attemptNo then
            some { a with finishedAt := some t.now, outcome := some outcome, errorCode := code }
          else db.attempt fence.jobId n := by
  unfold tryCloseAttempt at h
  split at h
  · rename_i hnone
    cases h
    exact Or.inl ⟨rfl, rfl, hnone⟩
  · rename_i a ha
    rw [Option.filter_eq_some_iff] at ha
    split at h
    · cases h
    · cases h
      have hfind : ∀ i n, JobsDb.attempt { db with
            attempts := db.attempts.updateWhere (isOpen fence) fun a => { a with
              finishedAt := some t.now
              outcome := some outcome
              errorCode := code } } i n =
          (db.attempt i n).map fun a => if isOpen fence a then { a with
              finishedAt := some t.now
              outcome := some outcome
              errorCode := code } else a := by
        intro i n
        show Table.find _ (i, n) = _
        rw [Table.find_updateWhere]
        rfl
      have hother : ∀ i n, (i, n) ≠ (fence.jobId, fence.attemptNo) → ∀ b, db.attempt i n = some b →
          ¬isOpen fence b = true := by
        intro i n hne b hb hopen
        have hkey : (b.jobId, b.attemptNo) = (i, n) := Table.key_of_find hb
        have hopen' := isOpen_iff.mp hopen
        rw [hopen'.1, hopen'.2.1] at hkey
        exact hne hkey.symm
      refine Or.inr ⟨a, rfl, ha.1, ha.2, rfl, ⟨fun _ _ => rfl, fun i hi n => ?_, rfl⟩, fun n => ?_⟩
      · rw [hfind]
        cases hb : db.attempt i n with
        | none => rfl
        | some b =>
          have hne : (i, n) ≠ (fence.jobId, fence.attemptNo) := fun h => hi (congrArg Prod.fst h)
          rw [Option.map_some, if_neg (hother i n hne b hb)]
      · rw [hfind]
        split
        · rename_i hn
          rw [hn, ha.1, Option.map_some, if_pos ha.2]
        · rename_i hn
          cases hb : db.attempt fence.jobId n with
          | none => rfl
          | some b =>
            have hne : (fence.jobId, n) ≠ (fence.jobId, fence.attemptNo) :=
              fun h => hn (congrArg Prod.snd h)
            rw [Option.map_some, if_neg (hother _ n hne b hb)]

/-- **`_set_job_state`** needs the fence. -/
theorem setJobState_ok {state : JobState} {error : Option JobError} {delay : Int}
    (h : setJobState t fence state error delay db = .ok db') :
    ∃ r, db.job fence.jobId = some r ∧ holds fence r = true ∧
      db'.job fence.jobId = some (r.finished t state error delay) ∧ db'.attempts = db.attempts ∧
      Frame fence.jobId db db' := by
  unfold setJobState at h
  split at h
  · rename_i hany
    rw [Option.any_eq_true] at hany
    obtain ⟨r, hr, hheld⟩ := hany
    cases h
    refine ⟨r, hr, hheld, ?_, rfl, frame_updateWhere fun x hx => (holds_iff.mp hx).1⟩
    refine (job_updateWhere _).trans ?_
    rw [hr, Option.map_some, if_pos hheld]
  · cases h

theorem lasting_finished (t : DbTime) (state : JobState) (error : Option JobError) (delay : Int)
    (r : JobRow) : Lasting r (r.finished t state error delay) :=
  ⟨rfl, rfl, rfl, rfl, rfl, rfl, rfl⟩

theorem job_eq_of_jobs (h : db'.jobs = db.jobs) (i : Uuid) : db'.job i = db.job i :=
  congrArg (Table.find · i) h

theorem attempt_eq_of_attempts (h : db'.attempts = db.attempts) (i : Uuid) (n : Int) :
    db'.attempt i n = db.attempt i n :=
  congrArg (Table.find · (i, n)) h

/-- What `_finish` leaves. -/
structure Finished (t : DbTime) (fence : LeaseFence) (outcome : JobAttemptOutcome) (state : JobState)
    (error : Option JobError) (delay : Int) (r : JobRow) (db db' : JobsDb) : Prop where
  before : db.job fence.jobId = some r
  held : holds fence r = true
  after : db'.job fence.jobId = some (r.finished t state error delay)
  attempts : ∃ a a', db.attempt fence.jobId fence.attemptNo = some a ∧ isOpen fence a = true ∧
    (a'.finishedAt = some t.now ∧ a'.outcome = some outcome) ∧
    ∀ n, db'.attempt fence.jobId n = if n = fence.attemptNo then some a' else db.attempt fence.jobId n
  frame : Frame fence.jobId db db'

theorem finished_of_parts {db₁ : JobsDb} {outcome : JobAttemptOutcome} {code : Option String}
    {state : JobState} {error : Option JobError} {delay : Int}
    (hclose : tryCloseAttempt t fence outcome code db = .ok (true, db₁))
    (hset : setJobState t fence state error delay db₁ = .ok db') :
    ∃ r, Finished t fence outcome state error delay r db db' := by
  obtain ⟨r, hr, hheld, hafter, hattempts, hframe⟩ := setJobState_ok hset
  rcases tryCloseAttempt_ok hclose with ⟨hfalse, -, -⟩ | ⟨a, -, ha, hopen, hjobs, hframe', hall⟩
  · cases hfalse
  · have hall' : ∀ n, db'.attempt fence.jobId n = _ := fun n =>
      (attempt_eq_of_attempts hattempts _ n).trans (hall n)
    exact ⟨r, (job_eq_of_jobs hjobs _).symm.trans hr, hheld, hafter,
      ⟨a, _, ha, hopen, ⟨rfl, rfl⟩, hall'⟩, hframe'.trans hframe⟩

theorem finish_ok {outcome : JobAttemptOutcome} {state : JobState} {error : Option JobError}
    {delay : Int} {code : Option String}
    (h : finish t fence outcome state error delay code db = .ok db') :
    ∃ r, Finished t fence outcome state error delay r db db' := by
  unfold finish at h
  obtain ⟨⟨closed, db₁⟩, hclose, h⟩ := Result.bind_eq_ok.mp h
  dsimp only at h
  split at h
  · rename_i hclosed
    subst hclosed
    exact finished_of_parts hclose h
  · cases h

/-- An ended attempt is a change of one job. -/
theorem Finished.micro {outcome : JobAttemptOutcome} {state : JobState} {error : Option JobError}
    {delay : Int} (h : Finished t fence outcome state error delay r db db') (hs : state ≠ .running)
    (hc : r.cancelRequestedAt.isSome → outcome = .cancelled) : Micro t db db' := by
  obtain ⟨a, a', ha, hopen, hclosed, hall⟩ := h.attempts
  exact ⟨fence.jobId, .ended r _ fence a a' outcome h.before h.after h.held ha hopen
    (lasting_finished ..) hs rfl (Or.inl rfl) hclosed hall hc, h.frame⟩

/-! ## a finishing call -/

/-- **A fence ends its attempt**: it held the job before the end of the lease, and nobody runs the
attempt after it. -/
structure Ends (t : DbTime) (fence : LeaseFence) (db db' : JobsDb) : Prop where
  micro : Micro t db db'
  live : ∃ r, db.job fence.jobId = some r ∧ holdsLive t.now fence r = true
  stopped : ∃ r, db'.job fence.jobId = some r ∧ r.state ≠ .running ∧
    r.attemptCount = fence.attemptNo

theorem Finished.ends {outcome : JobAttemptOutcome} {state : JobState} {error : Option JobError}
    {delay : Int} (h : Finished t fence outcome state error delay r db db') (hs : state ≠ .running)
    (hlive : holdsLive t.now fence r = true)
    (hc : r.cancelRequestedAt.isSome → outcome = .cancelled) : Ends t fence db db' :=
  ⟨h.micro hs hc, ⟨r, h.before, hlive⟩, _, h.after, hs, (holds_iff.mp h.held).2.2.2⟩

theorem lockActiveLease_eq_some {cancel : Bool} (h : lockActiveLease t fence db = some cancel) :
    ∃ r, db.job fence.jobId = some r ∧ holdsLive t.now fence r = true ∧
      r.cancelRequestedAt.isSome = cancel := by
  unfold lockActiveLease at h
  rw [Option.map_eq_some_iff] at h
  obtain ⟨r, hr, hcancel⟩ := h
  obtain ⟨hjob, hlive⟩ := job_of_filter hr
  exact ⟨r, hjob, hlive, hcancel⟩

/-- An attempt ends as it was found under the lock. -/
theorem finish_ends {cancel : Bool} {outcome : JobAttemptOutcome} {state : JobState}
    {error : Option JobError} {delay : Int} {code : Option String}
    (hlock : lockActiveLease t fence db = some cancel)
    (h : finish t fence outcome state error delay code db = .ok db') (hs : state ≠ .running)
    (hc : cancel = true → outcome = .cancelled) : Ends t fence db db' := by
  obtain ⟨r, hr, hlive, hcancel⟩ := lockActiveLease_eq_some hlock
  obtain ⟨r', hfinished⟩ := finish_ok h
  have hsame : r' = r := Option.some.inj (hfinished.before.symm.trans hr)
  subst hsame
  exact hfinished.ends hs hlive fun hsome => hc (hcancel.symm.trans hsome)

theorem finishCancelled_ends (hlock : lockActiveLease t fence db = some true)
    (h : finishCancelled t fence db = .ok db') : Ends t fence db db' :=
  finish_ends hlock h nofun fun _ => rfl

theorem map_eq_ok {ε α β : Type} {x : Except ε α} {f : α → β} {b : β} :
    x.map f = .ok b ↔ ∃ a, x = .ok a ∧ f a = b := by
  cases x with
  | error e => exact ⟨nofun, fun ⟨a, h, _⟩ => nomatch h⟩
  | ok a =>
    refine ⟨fun h => ⟨a, rfl, Except.ok.inj h⟩, fun ⟨a', h, hb⟩ => ?_⟩
    cases h
    exact congrArg Except.ok hb

/-- A finishing call loses the lease and changes nothing, or it ends the attempt. -/
def EndsOrLost (t : DbTime) (fence : LeaseFence) (db : JobsDb) (answer : LeaseTransition × JobsDb) :
    Prop :=
  (answer.1 = .lostLease ∧ answer.2 = db) ∨ (answer.1 ≠ .lostLease ∧ Ends t fence db answer.2)

theorem EndsOrLost.cancelled {answer : LeaseTransition × JobsDb}
    (hlock : lockActiveLease t fence db = some true)
    (h : (finishCancelled t fence db).map (LeaseTransition.cancelled, ·) = .ok answer) :
    EndsOrLost t fence db answer := by
  obtain ⟨db₁, hfinish, heq⟩ := map_eq_ok.mp h
  subst heq
  exact Or.inr ⟨nofun, finishCancelled_ends hlock hfinish⟩

theorem complete_ok {answer : LeaseTransition × JobsDb} (h : complete t fence db = .ok answer) :
    EndsOrLost t fence db answer := by
  unfold complete at h
  split at h
  · cases h
    exact Or.inl ⟨rfl, rfl⟩
  · rename_i hlock
    exact .cancelled hlock h
  · rename_i hlock
    obtain ⟨db₁, hfinish, heq⟩ := map_eq_ok.mp h
    subst heq
    exact Or.inr ⟨nofun, finish_ends hlock hfinish nofun nofun⟩

theorem finishRetryable_ends {error : JobError} {policy : RetryPolicy}
    (hlock : lockActiveLease t fence db = some false)
    (h : finishRetryable t fence error policy db = .ok db') : Ends t fence db db' := by
  unfold finishRetryable at h
  obtain ⟨n, -, h⟩ := Result.bind_eq_ok.mp h
  split at h
  · obtain ⟨exhausted, -, h⟩ := Result.bind_eq_ok.mp h
    exact finish_ends hlock h nofun nofun
  · obtain ⟨delay, -, h⟩ := Result.bind_eq_ok.mp h
    exact finish_ends hlock h nofun nofun

theorem failRetryable_ok {error : JobError} {policy : RetryPolicy}
    {answer : LeaseTransition × JobsDb} (h : failRetryable t fence error policy db = .ok answer) :
    EndsOrLost t fence db answer := by
  unfold failRetryable at h
  split at h
  · cases h
    exact Or.inl ⟨rfl, rfl⟩
  · rename_i hlock
    exact .cancelled hlock h
  · rename_i hlock
    obtain ⟨db₁, hfinish, heq⟩ := map_eq_ok.mp h
    subst heq
    exact Or.inr ⟨nofun, finishRetryable_ends hlock hfinish⟩

theorem failTerminal_ok {error : JobError} {answer : LeaseTransition × JobsDb}
    (h : failTerminal t fence error db = .ok answer) : EndsOrLost t fence db answer := by
  unfold failTerminal at h
  split at h
  · cases h
    exact Or.inl ⟨rfl, rfl⟩
  · rename_i hlock
    exact .cancelled hlock h
  · rename_i hlock
    obtain ⟨db₁, hfinish, heq⟩ := map_eq_ok.mp h
    subst heq
    exact Or.inr ⟨nofun, finish_ends hlock hfinish nofun nofun⟩

theorem acknowledgeCancel_ok {answer : LeaseTransition × JobsDb}
    (h : acknowledgeCancel t fence db = .ok answer) : EndsOrLost t fence db answer := by
  unfold acknowledgeCancel at h
  split at h
  · rename_i hlock
    exact .cancelled hlock h
  · cases h
    exact Or.inl ⟨rfl, rfl⟩

/-- A job that goes back to wait ends its attempt too. -/
theorem deferJob_ends {delay : Int} (hr : db.job fence.jobId = some r)
    (hlive : holdsLive t.now fence r = true) (hc : r.cancelRequestedAt.isSome = false)
    (h : deferJob t fence delay db = .ok db') : Ends t fence db db' := by
  unfold deferJob at h
  obtain ⟨db₁, hfinish, h⟩ := Result.bind_eq_ok.mp h
  obtain ⟨r', hfinished⟩ := finish_ok hfinish
  have hsame : r' = r := Option.some.inj (hfinished.before.symm.trans hr)
  subst hsame
  obtain ⟨a, a', ha, hopen, hclosed, hall⟩ := hfinished.attempts
  cases h
  have hafter : JobsDb.job { db₁ with
        jobs := db₁.jobs.updateWhere (fun r => r.jobId = fence.jobId) fun r => { r with
          resourceWaitCount := r.resourceWaitCount + 1
          resourceWaiting := true } } fence.jobId =
      some { r'.finished t .retryWait none delay with
        resourceWaitCount := r'.resourceWaitCount + 1
        resourceWaiting := true } := by
    refine (job_updateWhere _).trans ?_
    rw [hfinished.after, Option.map_some, if_pos (decide_eq_true (jobId_of_job hfinished.after))]
    rfl
  refine ⟨⟨fence.jobId, .ended r' _ fence a a' .resourceWait hr hafter hfinished.held ha hopen
    ⟨rfl, rfl, rfl, rfl, rfl, rfl, rfl⟩ nofun rfl (Or.inr rfl) hclosed hall fun hsome => ?_,
    hfinished.frame.trans (frame_updateWhere fun x hx => of_decide_eq_true hx)⟩,
    ⟨r', hr, hlive⟩, _, hafter, nofun, (holds_iff.mp hfinished.held).2.2.2⟩
  rw [hc] at hsome
  cases hsome

theorem deferForResource_ok {operationId : Uuid} {delay : Int} {admissions : List AdmissionRow}
    {answer : ResourceWaitTransition × JobsDb}
    (h : deferForResource t fence operationId delay admissions db = .ok answer) :
    (answer.1 ≠ .deferred ∧ answer.1 ≠ .cancelled ∧ answer.2 = db) ∨
      ((answer.1 = .deferred ∨ answer.1 = .cancelled) ∧ Ends t fence db answer.2) := by
  unfold deferForResource at h
  split at h
  · cases h
  split at h
  · cases h
    exact Or.inl ⟨nofun, nofun, rfl⟩
  rename_i r hr
  obtain ⟨hjob, hheld⟩ := job_of_filter hr
  split at h
  · cases h
    exact Or.inl ⟨nofun, nofun, rfl⟩
  rename_i hdeadline
  rw [not_not, Option.any_eq_true] at hdeadline
  obtain ⟨deadline, hd, hclock⟩ := hdeadline
  have hlive : holdsLive t.now fence r = true :=
    holdsLive_iff.mpr ⟨hheld, deadline, hd, lt_of_le_of_lt t.now_le (of_decide_eq_true hclock)⟩
  split at h
  · rename_i hcancel
    obtain ⟨db₁, hfinish, heq⟩ := map_eq_ok.mp h
    subst heq
    obtain ⟨r', hfinished⟩ := finish_ok hfinish
    have hsame : r' = r := Option.some.inj (hfinished.before.symm.trans hjob)
    subst hsame
    exact Or.inr ⟨Or.inr rfl, hfinished.ends nofun hlive fun _ => rfl⟩
  rename_i hcancel
  split at h
  · cases h
  split at h
  · cases h
  · cases h
    exact Or.inl ⟨nofun, nofun, rfl⟩
  · split at h
    · cases h
      exact Or.inl ⟨nofun, nofun, rfl⟩
    · cases h
      exact Or.inl ⟨nofun, nofun, rfl⟩
  · obtain ⟨db₁, hdefer, heq⟩ := map_eq_ok.mp h
    subst heq
    exact Or.inr ⟨Or.inl rfl, deferJob_ends hjob hlive (eq_false_of_ne_true hcancel) hdefer⟩

/-! ## other changes of one job -/

theorem find_insert_ne {r : JobRow} {jobs : Table JobRow} (h : db.jobs.insert r = .ok jobs)
    (hne : j ≠ r.jobId) : jobs.find j = db.jobs.find j := by
  exact (Table.find_insert h j).trans (if_neg (Ne.symm hne))

/-- **`enqueue`** replays, or adds a job. -/
theorem enqueue_ok {jobId : Uuid} {users : Uuid → Bool} {command : EnqueueJob}
    {answer : EnqueueResult × JobsDb} (h : enqueue t jobId users command db = .ok answer) :
    (answer.1.replayed = true ∧ answer.2 = db) ∨
      (answer.1 = ⟨jobId, false⟩ ∧ Micro t db answer.2 ∧
        ∃ payload, validateJobDocument command.payload "payload" maxJobDocumentBytes = .ok payload ∧
          answer.2.job jobId = some (enqueuedRow t jobId command payload)) := by
  unfold enqueue at h
  obtain ⟨payload, hpayload, h⟩ := Result.bind_eq_ok.mp h
  obtain ⟨-, -, h⟩ := Result.bind_eq_ok.mp h
  split at h
  · cases h
  split at h
  · cases h
  split at h
  · split at h
    · cases h
      exact Or.inl ⟨rfl, rfl⟩
    · cases h
  split at h
  · cases h
  split at h
  · rename_i jobs hinsert
    cases h
    have hnew : jobs.find jobId = some (enqueuedRow t jobId command payload) := by
      rw [Table.find_insert hinsert]
      exact if_pos rfl
    refine Or.inr ⟨rfl, ⟨jobId, .created _ (Table.insert_ok.mp hinsert).1 hnew ⟨rfl, rfl, rfl⟩
      fun _ => rfl, fun i hi => find_insert_ne hinsert hi, fun _ _ _ => rfl, rfl⟩,
      payload, Result.mapError_eq_ok.mp hpayload, hnew⟩
  · cases h

/-- A statement that writes columns which no rule of the life of a job reads. -/
theorem micro_written {p : JobRow → Bool} {f : JobRow → JobRow} {hk : ∀ r, (f r).jobId = r.jobId}
    {hi : ∀ r, (f r).idempotency = r.idempotency} (hp : ∀ r, p r = true → r.jobId = j)
    (hr : db.job j = some r) (lasting : Lasting r (f r)) (state : (f r).state = r.state)
    (owner : (f r).leaseOwner = r.leaseOwner)
    (cancel : (f r).cancelRequestedAt = r.cancelRequestedAt)
    (count : (f r).attemptCount = r.attemptCount)
    (waits : (f r).resourceWaitCount = r.resourceWaitCount) :
    Micro t db { db with jobs := db.jobs.updateWhere p f hk hi } := by
  refine ⟨j, ?_, frame_updateWhere hp⟩
  have hafter : JobsDb.job { db with jobs := db.jobs.updateWhere p f hk hi } j = _ :=
    job_updateWhere j
  rw [hr, Option.map_some] at hafter
  by_cases hpr : p r = true
  · rw [if_pos hpr] at hafter
    exact .written r _ hr hafter lasting state owner cancel count waits fun _ => rfl
  · rw [if_neg hpr] at hafter
    exact .written r r hr hafter ⟨rfl, rfl, rfl, rfl, rfl, rfl, rfl⟩ rfl rfl rfl rfl rfl fun _ => rfl

theorem heartbeat_ok {interval : Int} {answer : Option Heartbeat × JobsDb}
    (h : heartbeat t fence interval db = .ok answer) : answer.2 = db ∨ Micro t db answer.2 := by
  unfold heartbeat at h
  obtain ⟨-, -, h⟩ := Result.bind_eq_ok.mp h
  split at h
  · cases h
    exact Or.inl rfl
  · rename_i r hr
    cases h
    exact Or.inr (micro_written (fun x hx => (holds_iff.mp (holdsLive_iff.mp hx).1).1)
      (job_of_filter hr).1 ⟨rfl, rfl, rfl, rfl, rfl, rfl, rfl⟩ rfl rfl rfl rfl rfl)

theorem saveCheckpoint_ok {checkpoint : JsonObject} {current total : Option Int}
    {answer : Option (Option Int) × JobsDb}
    (h : saveCheckpoint t fence checkpoint current total db = .ok answer) :
    answer.2 = db ∨ Micro t db answer.2 := by
  unfold saveCheckpoint at h
  obtain ⟨normalized, -, h⟩ := Result.bind_eq_ok.mp h
  obtain ⟨-, -, h⟩ := Result.bind_eq_ok.mp h
  split at h
  · cases h
  split at h
  · cases h
    exact Or.inl rfl
  · rename_i r hr
    cases h
    exact Or.inr (micro_written (fun x hx => (holds_iff.mp (holdsLive_iff.mp hx).1).1)
      (job_of_filter hr).1 ⟨rfl, rfl, rfl, rfl, rfl, rfl, rfl⟩ rfl rfl rfl rfl rfl)

theorem wake_micro {now wakeUntil : Int} : wake now wakeUntil j db = db ∨
    Micro t db (wake now wakeUntil j db) := by
  have hp : ∀ r : JobRow, decide (r.jobId = j ∧ r.state = .retryWait ∧ r.resourceWaiting ∧
      r.resourceWakeUntil = none) = true → r.jobId = j := fun r h => (of_decide_eq_true h).1
  cases hr : db.job j with
  | some r =>
    exact Or.inr (micro_written hp hr ⟨rfl, rfl, rfl, rfl, rfl, rfl, rfl⟩ rfl rfl rfl rfl rfl)
  | none =>
    left
    have hrows : ∀ x ∈ db.jobs.rows, x.jobId ≠ j := Table.find_none.mp hr
    unfold wake
    have hsame : db.jobs.updateWhere (fun r => r.jobId = j ∧ r.state = .retryWait ∧
        r.resourceWaiting ∧ r.resourceWakeUntil = none) (fun r => { r with
          resourceWakeUntil := some wakeUntil
          scheduledAt := now }) = db.jobs := by
      refine Table.ext ?_
      rw [Table.updateWhere_rows]
      refine (List.map_congr_left fun x hx => ?_).trans (List.map_id _)
      rw [if_neg fun h => hrows x hx (of_decide_eq_true h).1]
      rfl
    rw [hsame]

/-- **`request_cancel_for_owner`**. -/
theorem requestCancel_ok {owner : Uuid} : (requestCancelForOwner t j owner db).2 = db ∨
    Micro t db (requestCancelForOwner t j owner db).2 := by
  unfold requestCancelForOwner
  split
  · exact Or.inl rfl
  rename_i r hr
  have hjob := (job_of_filter hr).1
  have hat : decide (r.jobId = j) = true := decide_eq_true (jobId_of_job hjob)
  split
  · exact Or.inl rfl
  rename_i hterminal
  split
  · rename_i hrunning
    refine Or.inr ⟨j, ?_, frame_updateWhere fun x hx => of_decide_eq_true hx⟩
    refine .asked r { r with cancelRequestedAt := some (r.cancelRequestedAt.getD t.now) } hjob ?_
      ⟨rfl, rfl, rfl, rfl, rfl, rfl, rfl⟩ hrunning rfl rfl rfl rfl rfl fun _ => rfl
    refine (job_updateWhere j).trans ?_
    rw [hjob, Option.map_some, if_pos hat]
  · rename_i hrunning
    refine Or.inr ⟨j, ?_, frame_updateWhere fun x hx => of_decide_eq_true hx⟩
    refine .withdrawn r { r with
        state := .cancelled
        resourceWaiting := false
        resourceWakeUntil := none
        cancelRequestedAt := some (r.cancelRequestedAt.getD t.now)
        completedAt := some t.now
        errorCode := none
        errorDetail := none } hjob ?_ ⟨rfl, rfl, rfl, rfl, rfl, rfl, rfl⟩
      ⟨hrunning, eq_false_of_ne_true hterminal⟩ rfl rfl rfl fun _ => rfl
    refine (job_updateWhere j).trans ?_
    rw [hjob, Option.map_some, if_pos hat]

/-! ## claims and recovery -/

/-- Changes of single jobs, one after the other. -/
abbrev Micros (t : DbTime) : JobsDb → JobsDb → Prop := Relation.ReflTransGen (Micro t)

theorem Micros.of_or (h : db' = db ∨ Micro t db db') : Micros t db db' := by
  rcases h with rfl | h
  · exact .refl
  · exact .single h

/-- A job that a claim may take. -/
def Pending (r : JobRow) : Prop := r.state ≠ .running ∧ r.state.isTerminal = false

theorem claimOne_micro {workerId : String} {leaseInterval : Int} (hr : db.job r.jobId = some r)
    (hp : Pending r) (hb : boundedText workerId 300)
    (h : claimOne t workerId leaseInterval db r = .ok db') :
    Micro t db db' ∧ Frame r.jobId db db' := by
  unfold claimOne at h
  split at h
  · cases h
  rename_i attempts hinsert
  cases h
  have hnew : db.attempt r.jobId (r.attemptCount + 1) = none := (Table.insert_ok.mp hinsert).1
  have hattempt : ∀ i n, attempts.find (i, n) =
      if (r.jobId, r.attemptCount + 1) = (i, n) then
        some ((r.claimed t workerId leaseInterval).newAttempt t workerId)
      else db.attempt i n := fun i n => Table.find_insert hinsert (i, n)
  have hframe : Frame r.jobId db { db with
      jobs := db.jobs.updateWhere (fun x => x.jobId = r.jobId) (JobRow.claimed t workerId leaseInterval)
      attempts := attempts } := by
    refine ⟨(frame_updateWhere fun x hx => of_decide_eq_true hx).job, fun i hi n => ?_, rfl⟩
    refine (hattempt i n).trans (if_neg fun heq => hi ?_)
    exact (congrArg Prod.fst heq).symm
  refine ⟨⟨r.jobId, .claimed r workerId leaseInterval hr ?_ hb hp hnew fun n => ?_, hframe⟩, hframe⟩
  · refine (job_updateWhere r.jobId).trans ?_
    rw [hr, Option.map_some, if_pos (decide_eq_true rfl)]
  · refine (hattempt r.jobId n).trans ?_
    by_cases hn : n = r.attemptCount + 1
    · rw [if_pos hn, if_pos (by rw [hn])]
    · rw [if_neg hn, if_neg fun heq => hn (congrArg Prod.snd heq).symm]

theorem Frame.keeps {rows : List JobRow} (hf : Frame r.jobId db db')
    (hn : ((r :: rows).map JobRow.jobId).Nodup) (hrows : ∀ x ∈ rows, db.job x.jobId = some x) :
    ∀ x ∈ rows, db'.job x.jobId = some x := by
  intro x hx
  rw [hf.job x.jobId fun heq => ?_]
  · exact hrows x hx
  · rw [List.map_cons, List.nodup_cons] at hn
    exact hn.1 (heq ▸ List.mem_map_of_mem hx)

/-- All candidates are claimed, one after the other, and nothing else changes. -/
theorem claimAll_micros {workerId : String} {leaseInterval : Int} (hb : boundedText workerId 300)
    {rows : List JobRow} (hn : (rows.map JobRow.jobId).Nodup)
    (hrows : ∀ r ∈ rows, db.job r.jobId = some r) (hp : ∀ r ∈ rows, Pending r)
    (h : rows.foldlM (claimOne t workerId leaseInterval) db = .ok db') :
    Micros t db db' ∧ (∀ i, i ∉ rows.map JobRow.jobId → db'.job i = db.job i) ∧
      db'.dependencies = db.dependencies := by
  induction rows generalizing db with
  | nil =>
    cases h
    exact ⟨.refl, fun _ _ => rfl, rfl⟩
  | cons r rows ih =>
    rw [List.foldlM_cons] at h
    obtain ⟨db₁, hone, h⟩ := Result.bind_eq_ok.mp h
    obtain ⟨hmicro, hframe⟩ := claimOne_micro (hrows r List.mem_cons_self) (hp r List.mem_cons_self)
      hb hone
    have hrows₁ := hframe.keeps hn fun x hx => hrows x (List.mem_cons_of_mem _ hx)
    obtain ⟨hmicros, hothers, hdeps⟩ := ih (List.nodup_cons.mp hn).2 hrows₁
      (fun x hx => hp x (List.mem_cons_of_mem _ hx)) h
    refine ⟨.head hmicro hmicros, fun i hi => ?_, hdeps.trans hframe.dependencies⟩
    rw [List.map_cons, List.mem_cons, not_or] at hi
    exact (hothers i hi.2).trans (hframe.job i hi.1)

/-- The rows of a selection are rows of the table, each once. -/
theorem selected_rows (db : JobsDb) (rel : JobRow → JobRow → Prop) [DecidableRel rel]
    (p : JobRow → Bool) (limit : Nat) :
    ((((db.jobs.rows.filter p).insertionSort rel).take limit).map JobRow.jobId).Nodup ∧
      ∀ r ∈ ((db.jobs.rows.filter p).insertionSort rel).take limit,
        db.job r.jobId = some r ∧ p r = true := by
  constructor
  · have hfilter : ((db.jobs.rows.filter p).map JobRow.jobId).Nodup :=
      (List.filter_sublist.map _).nodup db.jobs.nodup
    have hsort : (((db.jobs.rows.filter p).insertionSort rel).map JobRow.jobId).Nodup :=
      ((List.perm_insertionSort rel _).map JobRow.jobId).nodup_iff.mpr hfilter
    exact ((List.take_sublist _ _).map _).nodup hsort
  · intro r hr
    have hmem := (List.mem_insertionSort rel).mp (List.mem_of_mem_take hr)
    obtain ⟨hrow, hp⟩ := List.mem_filter.mp hmem
    exact ⟨Table.find_mem hrow, hp⟩

theorem claimable_iff {supported : List JobKey} (h : claimable t supported db r = true) :
    Pending r ∧ PrerequisitesMet db r.jobId := by
  unfold claimable at h
  obtain ⟨hstate, -, -, -, hdeps⟩ := of_decide_eq_true h
  refine ⟨?_, fun d hd hj hpolicy p hp => ?_⟩
  · unfold Pending
    rcases hstate with hs | hs
    · rw [hs]
      exact ⟨nofun, rfl⟩
    · rw [hs]
      exact ⟨nofun, rfl⟩
  · have hb := hdeps d hd hj
    unfold blocks at hb
    rw [hp, Option.any_some, hpolicy] at hb
    simpa using hb

/-- **`claim`** takes pending jobs whose required prerequisites are complete. -/
theorem claim_ok {workerId : String} {supported : List JobKey} {leaseInterval limit : Int}
    {locked : Uuid → Bool} {answer : List JobLease × JobsDb}
    (h : claim t workerId supported leaseInterval limit locked db = .ok answer) :
    Micros t db answer.2 ∧ answer.2.dependencies = db.dependencies ∧
      ∀ i, answer.2.job i ≠ db.job i → PrerequisitesMet db i := by
  unfold claim at h
  split at h
  · cases h
  rename_i hb
  obtain ⟨-, -, h⟩ := Result.bind_eq_ok.mp h
  obtain ⟨-, -, h⟩ := Result.bind_eq_ok.mp h
  obtain ⟨db₁, hall, h⟩ := Result.bind_eq_ok.mp h
  obtain ⟨leases, -, h⟩ := Result.bind_eq_ok.mp h
  cases h
  obtain ⟨hnodup, hrows⟩ := selected_rows db claimBefore
    (fun r => claimable t supported db r && !locked r.jobId) limit.toNat
  have hclaimable : ∀ r ∈ candidates t supported locked limit.toNat db,
      claimable t supported db r = true := fun r hr => (Bool.and_eq_true_iff.mp (hrows r hr).2).1
  obtain ⟨hmicros, hothers, hdeps⟩ := claimAll_micros (not_not.mp hb) hnodup
    (fun r hr => (hrows r hr).1) (fun r hr => (claimable_iff (hclaimable r hr)).1) hall
  refine ⟨hmicros, hdeps, fun i hi => ?_⟩
  by_contra hnot
  refine hi (hothers i fun hmem => ?_)
  obtain ⟨r, hr, rfl⟩ := List.mem_map.mp hmem
  exact hnot (claimable_iff (hclaimable r hr)).2

/-- Nobody runs the attempt any more. -/
def Stopped (db : JobsDb) (j : Uuid) (n : Int) : Prop :=
  ∃ r, db.job j = some r ∧ r.state ≠ .running ∧ r.attemptCount = n

theorem recoveryOf_ok {policy : RetryPolicy} {state : JobState} {outcome : JobAttemptOutcome}
    {code : Option String} {error : Option JobError}
    (h : recoveryOf policy r = .ok (state, outcome, code, error)) :
    state ≠ .running ∧ (r.cancelRequestedAt.isSome → outcome = .cancelled) := by
  unfold recoveryOf at h
  split at h
  · cases h
    exact ⟨nofun, fun _ => rfl⟩
  rename_i hc
  split at h
  · obtain ⟨e, -, h⟩ := Result.bind_eq_ok.mp h
    cases h
    exact ⟨nofun, fun hs => absurd hs hc⟩
  · obtain ⟨e, -, h⟩ := Result.bind_eq_ok.mp h
    cases h
    exact ⟨nofun, fun hs => absurd hs hc⟩

theorem fenceOfRow_ok (h : fenceOfRow r = .ok fence) :
    fence.jobId = r.jobId ∧ fence.attemptNo = r.attemptCount := by
  unfold fenceOfRow at h
  split at h
  · cases h
  split at h
  · cases h
    exact ⟨rfl, rfl⟩
  · cases h

/-- **A recovered lease** is not run any more. -/
theorem recoverOne_micro {policy : RetryPolicy} {answer : RecoveredJob × JobsDb}
    (hr : db.job r.jobId = some r) (h : recoverOne t policy r db = .ok answer) :
    Micro t db answer.2 ∧ Frame r.jobId db answer.2 ∧
      answer.1.jobId = r.jobId ∧ answer.1.attemptNo = r.attemptCount ∧ r.state = .running ∧
      Stopped answer.2 r.jobId r.attemptCount := by
  unfold recoverOne at h
  obtain ⟨fence, hfence, h⟩ := Result.bind_eq_ok.mp h
  obtain ⟨⟨state, outcome, code, error⟩, hrecovery, h⟩ := Result.bind_eq_ok.mp h
  obtain ⟨⟨closed, db₁⟩, hclose, h⟩ := Result.bind_eq_ok.mp h
  obtain ⟨⟨state', error'⟩, has, h⟩ := Result.bind_eq_ok.mp h
  obtain ⟨delay, -, h⟩ := Result.bind_eq_ok.mp h
  obtain ⟨db₂, hset, h⟩ := Result.bind_eq_ok.mp h
  cases h
  obtain ⟨hj, hcount⟩ := fenceOfRow_ok hfence
  obtain ⟨hs, hc⟩ := recoveryOf_ok hrecovery
  dsimp only at hclose has hset ⊢
  rw [← hj] at hr ⊢
  unfold recoveredAs at has
  cases closed with
  | true =>
    rw [if_pos rfl] at has
    cases has
    obtain ⟨r', hfinished⟩ := finished_of_parts hclose hset
    have hsame : r' = r := Option.some.inj (hfinished.before.symm.trans hr)
    subst hsame
    have hheld := holds_iff.mp hfinished.held
    exact ⟨hfinished.micro hs hc, hfinished.frame, rfl, rfl, hheld.2.1, _, hfinished.after, hs, rfl⟩
  | false =>
    obtain ⟨e, -, has⟩ := Result.bind_eq_ok.mp has
    cases has
    rcases tryCloseAttempt_ok hclose with ⟨-, hsame, hmissing⟩ | ⟨a, hfalse, -⟩
    · subst hsame
      obtain ⟨r', hr', hheld, hafter, -, hframe⟩ := setJobState_ok hset
      have hsame : r' = r := Option.some.inj (hr'.symm.trans hr)
      subst hsame
      exact ⟨⟨fence.jobId, .orphaned r' _ fence hr hafter hheld nofun hmissing
        (lasting_finished ..), hframe⟩, hframe, rfl, rfl, (holds_iff.mp hheld).2.1, _, hafter, nofun,
        rfl⟩
    · cases hfalse

/-- All of them, one after the other. -/
theorem recoverAll_micros {policy : RetryPolicy} {rows : List JobRow}
    {answer : List RecoveredJob × JobsDb} (hn : (rows.map JobRow.jobId).Nodup)
    (hrows : ∀ r ∈ rows, db.job r.jobId = some r) (h : recoverAll t policy rows db = .ok answer) :
    Micros t db answer.2 ∧ (∀ i, i ∉ rows.map JobRow.jobId → answer.2.job i = db.job i) ∧
      answer.2.dependencies = db.dependencies ∧
      ∀ x ∈ answer.1, ∃ r ∈ rows, x.jobId = r.jobId ∧ x.attemptNo = r.attemptCount ∧
        r.state = .running ∧ Stopped answer.2 r.jobId r.attemptCount := by
  induction rows generalizing db answer with
  | nil =>
    cases h
    exact ⟨.refl, fun _ _ => rfl, rfl, nofun⟩
  | cons r rows ih =>
    unfold recoverAll at h
    obtain ⟨⟨one, db₁⟩, hone, h⟩ := Result.bind_eq_ok.mp h
    obtain ⟨⟨others, db₂⟩, hothers, h⟩ := Result.bind_eq_ok.mp h
    cases h
    obtain ⟨hmicro, hframe, hj, hno, hrunning, hstopped⟩ :=
      recoverOne_micro (hrows r List.mem_cons_self) hone
    have hrows₁ := hframe.keeps hn fun x hx => hrows x (List.mem_cons_of_mem _ hx)
    obtain ⟨hmicros, hrest, hdeps, hall⟩ := ih (List.nodup_cons.mp hn).2 hrows₁ hothers
    refine ⟨.head hmicro hmicros, fun i hi => ?_, hdeps.trans hframe.dependencies, ?_⟩
    · rw [List.map_cons, List.mem_cons, not_or] at hi
      exact (hrest i hi.2).trans (hframe.job i hi.1)
    · intro x hx
      rcases List.mem_cons.mp hx with rfl | hx
      · refine ⟨r, List.mem_cons_self, hj, hno, hrunning, ?_⟩
        obtain ⟨r', hr', hs, hc⟩ := hstopped
        refine ⟨r', (hrest r.jobId ?_).trans hr', hs, hc⟩
        rw [List.map_cons, List.nodup_cons] at hn
        exact hn.1
      · obtain ⟨r', hr', hfacts⟩ := hall x hx
        exact ⟨r', List.mem_cons_of_mem _ hr', hfacts⟩

/-- **`recover_expired`**: the recovered attempts ran, and run no more. -/
theorem recoverExpired_ok {supported : List JobKey} {limit : Int} {policy : RetryPolicy}
    {locked : Uuid → Bool} {answer : List RecoveredJob × JobsDb}
    (h : recoverExpired t supported limit policy locked db = .ok answer) :
    Micros t db answer.2 ∧ answer.2.dependencies = db.dependencies ∧
      ∀ x ∈ answer.1, (∃ r, db.job x.jobId = some r ∧ r.state = .running ∧
        r.attemptCount = x.attemptNo) ∧ Stopped answer.2 x.jobId x.attemptNo := by
  unfold recoverExpired at h
  obtain ⟨-, -, h⟩ := Result.bind_eq_ok.mp h
  obtain ⟨hnodup, hrows⟩ := selected_rows db expiredBefore
    (fun r => isExpired t supported r && !locked r.jobId) limit.toNat
  obtain ⟨hmicros, -, hdeps, hall⟩ := recoverAll_micros hnodup (fun r hr => (hrows r hr).1) h
  refine ⟨hmicros, hdeps, fun x hx => ?_⟩
  obtain ⟨r, hr, hj, hno, hrunning, hstopped⟩ := hall x hx
  rw [hj, hno]
  exact ⟨⟨r, (hrows r hr).1, hrunning, rfl⟩, hstopped⟩

end

end AutPlay.Jobs
