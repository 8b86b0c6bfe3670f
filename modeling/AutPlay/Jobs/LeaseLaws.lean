import AutPlay.Jobs.Changes
import AutPlay.Lib.Run

/-!
# The lease of a job

* `JobStep`       one call of the repository, by a worker, the owner or the recovery;
* `JobOk`         how a job and its attempts belong together;
* `Past`          an attempt that nobody can end any more;
* `lease_laws`    the laws of leases, in every run.
-/

set_option linter.unusedSectionVars false

namespace AutPlay.Jobs

open AutPlay.Sync (Uuid)

/-! ## calls -/

/-- A call of the repository; and what others do: the scheduler wakes a job, dependencies change. -/
inductive JobCall
  | enqueue (jobId : Uuid) (users : Uuid → Bool) (command : EnqueueJob)
  | claim (workerId : String) (supported : List JobKey) (leaseInterval limit : Int)
      (locked : Uuid → Bool)
  | heartbeat (fence : LeaseFence) (leaseInterval : Int)
  | saveCheckpoint (fence : LeaseFence) (checkpoint : JsonObject)
      (progressCurrent progressTotal : Option Int)
  | complete (fence : LeaseFence)
  | failRetryable (fence : LeaseFence) (error : JobError) (policy : RetryPolicy)
  | failTerminal (fence : LeaseFence) (error : JobError)
  | deferForResource (fence : LeaseFence) (operationId : Uuid) (delay : Int)
      (admissions : List AdmissionRow)
  | requestCancelForOwner (jobId ownerUserId : Uuid)
  | acknowledgeCancel (fence : LeaseFence)
  | recoverExpired (supported : List JobKey) (limit : Int) (policy : RetryPolicy)
      (locked : Uuid → Bool)
  | wake (jobId : Uuid) (wakeUntil : Int)
  | depend (dependencies : List DependencyRow)

inductive JobAnswer
  | enqueued (result : EnqueueResult)
  | claimed (leases : List JobLease)
  | beat (heartbeat : Option Heartbeat)
  | saved (cancelRequestedAt : Option (Option Int))
  | transition (result : LeaseTransition)
  | waited (result : ResourceWaitTransition)
  | asked (result : CancelRequestResult)
  | recovered (jobs : List RecoveredJob)
  | done
  | fault (fault : JobFault)

def perform (t : DbTime) (db : JobsDb) : JobCall → Except JobFault (JobAnswer × JobsDb)
  | .enqueue jobId users command =>
    (enqueue t jobId users command db).map fun a => (.enqueued a.1, a.2)
  | .claim workerId supported leaseInterval limit locked =>
    (claim t workerId supported leaseInterval limit locked db).map fun a => (.claimed a.1, a.2)
  | .heartbeat fence leaseInterval =>
    (heartbeat t fence leaseInterval db).map fun a => (.beat a.1, a.2)
  | .saveCheckpoint fence checkpoint current total =>
    (saveCheckpoint t fence checkpoint current total db).map fun a => (.saved a.1, a.2)
  | .complete fence => (complete t fence db).map fun a => (.transition a.1, a.2)
  | .failRetryable fence error policy =>
    (failRetryable t fence error policy db).map fun a => (.transition a.1, a.2)
  | .failTerminal fence error => (failTerminal t fence error db).map fun a => (.transition a.1, a.2)
  | .deferForResource fence operationId delay admissions =>
    (deferForResource t fence operationId delay admissions db).map fun a => (.waited a.1, a.2)
  | .requestCancelForOwner jobId owner =>
    .ok (.asked (requestCancelForOwner t jobId owner db).1, (requestCancelForOwner t jobId owner db).2)
  | .acknowledgeCancel fence => (acknowledgeCancel t fence db).map fun a => (.transition a.1, a.2)
  | .recoverExpired supported limit policy locked =>
    (recoverExpired t supported limit policy locked db).map fun a => (.recovered a.1, a.2)
  | .wake jobId wakeUntil => .ok (.done, wake t.now wakeUntil jobId db)
  | .depend dependencies => .ok (.done, { db with dependencies := dependencies })

/-- A call at a time, with its answer. -/
structure JobEvent where
  time : DbTime
  call : JobCall
  answer : JobAnswer

/-- A call that fails is rolled back. -/
def JobStep (db : JobsDb) (e : JobEvent) (db' : JobsDb) : Prop :=
  match perform e.time db e.call with
  | .ok (answer, db₁) => e.answer = answer ∧ db' = db₁
  | .error fault => e.answer = .fault fault ∧ db' = db

/-- The fence was given a transition that ends its attempt. -/
def finishes (fence : LeaseFence) (e : JobEvent) : Bool :=
  match e.call, e.answer with
  | .complete f, .transition x => f = fence ∧ x ≠ .lostLease
  | .failRetryable f _ _, .transition x => f = fence ∧ x ≠ .lostLease
  | .failTerminal f _, .transition x => f = fence ∧ x ≠ .lostLease
  | .acknowledgeCancel f, .transition x => f = fence ∧ x ≠ .lostLease
  | .deferForResource f _ _ _, .waited x => f = fence ∧ (x = .deferred ∨ x = .cancelled)
  | _, _ => false

/-- The attempt of the fence was recovered. -/
def recovers (fence : LeaseFence) (e : JobEvent) : Bool :=
  match e.answer with
  | .recovered jobs => jobs.any fun x => x.jobId = fence.jobId ∧ x.attemptNo = fence.attemptNo
  | _ => false

/-! ## a job and its attempts -/

/-- **A job and its attempts.** -/
structure JobOk (db : JobsDb) (j : Uuid) : Prop where
  numbered : ∀ n, (db.attempt j n).isSome ↔ ∃ r, db.job j = some r ∧ 1 ≤ n ∧ n ≤ r.attemptCount
  opened : ∀ n a, db.attempt j n = some a →
    (a.outcome = none ↔ ∃ r, db.job j = some r ∧ r.state = .running ∧ r.attemptCount = n)
  finished : ∀ n a, db.attempt j n = some a → (a.finishedAt = none ↔ a.outcome = none)
  worker : ∀ r, db.job j = some r → r.state = .running →
    ∃ a, db.attempt j r.attemptCount = some a ∧ r.leaseOwner = some a.workerId
  waits : ∀ r, db.job j = some r → 0 ≤ r.resourceWaitCount ∧
    r.resourceWaitCount ≤ r.attemptCount ∧ (r.state = .running → r.resourceWaitCount < r.attemptCount)

section
variable {t : DbTime} {db db' db₀ : JobsDb} {j : Uuid} {r r' : JobRow} {n : Int} {e : JobEvent}
  {fence : LeaseFence}

theorem JobOk.of_same (h : JobOk db j) (hjob : db'.job j = db.job j) (ha : AttemptsKept j db db') :
    JobOk db' j := by
  constructor
  · intro n
    rw [ha n, hjob]
    exact h.numbered n
  · intro n a hn
    rw [hjob]
    exact h.opened n a ((ha n).symm.trans hn)
  · intro n a hn
    exact h.finished n a ((ha n).symm.trans hn)
  · intro r hr hs
    rw [ha]
    exact h.worker r (hjob.symm.trans hr) hs
  · intro r hr
    exact h.waits r (hjob.symm.trans hr)

/-- The row changes, the attempts do not. -/
theorem JobOk.of_row (h : JobOk db j) (hr : db.job j = some r) (hr' : db'.job j = some r')
    (ha : AttemptsKept j db db') (hstate : r'.state = .running ↔ r.state = .running)
    (howner : r.state = .running → r'.leaseOwner = r.leaseOwner)
    (hcount : r'.attemptCount = r.attemptCount)
    (hwaits : r'.resourceWaitCount = r.resourceWaitCount) : JobOk db' j := by
  constructor
  · intro n
    rw [ha n, h.numbered n, hr, hr']
    simp [hcount]
  · intro n a hn
    rw [h.opened n a ((ha n).symm.trans hn), hr, hr']
    simp [hcount, hstate]
  · intro n a hn
    exact h.finished n a ((ha n).symm.trans hn)
  · intro x hx hs
    cases Option.some.inj (hr'.symm.trans hx)
    obtain ⟨a, hfound, hw⟩ := h.worker r hr (hstate.mp hs)
    rw [ha, hcount, howner (hstate.mp hs)]
    exact ⟨a, hfound, hw⟩
  · intro x hx
    cases Option.some.inj (hr'.symm.trans hx)
    rw [hcount, hwaits, hstate]
    exact h.waits r hr

theorem JobOk.count_nonneg (h : JobOk db j) (hr : db.job j = some r) : 0 ≤ r.attemptCount :=
  (h.waits r hr).1.trans (h.waits r hr).2.1

/-- A new attempt. -/
theorem JobOk.claimed {workerId : String} {leaseInterval : Int} (h : JobOk db j)
    (hr : db.job j = some r) (hr' : db'.job j = some (r.claimed t workerId leaseInterval))
    (hp : r.state ≠ .running)
    (ha : ∀ n, db'.attempt j n = if n = r.attemptCount + 1 then
      some ((r.claimed t workerId leaseInterval).newAttempt t workerId) else db.attempt j n) :
    JobOk db' j := by
  have hcount : (r.claimed t workerId leaseInterval).attemptCount = r.attemptCount + 1 := rfl
  have hnonneg := h.count_nonneg hr
  have hwaits := h.waits r hr
  constructor
  · intro n
    rw [ha n, hr']
    split
    · rename_i hn
      refine ⟨fun _ => ⟨_, rfl, ?_, ?_⟩, fun _ => rfl⟩
      · omega
      · rw [hcount]
        exact hn.le
    · rename_i hn
      rw [h.numbered n, hr]
      simp only [Option.some.injEq, exists_eq_left', hcount]
      omega
  · intro n a hn
    rw [ha n] at hn
    rw [hr']
    simp only [Option.some.injEq, exists_eq_left', hcount]
    split at hn
    · rename_i hlast
      cases hn
      exact ⟨fun _ => ⟨rfl, hlast.symm⟩, fun _ => rfl⟩
    · rename_i hlast
      rw [h.opened n a hn, hr]
      constructor
      · rintro ⟨x, hx, hs, -⟩
        cases hx
        exact absurd hs hp
      · rintro ⟨-, heq⟩
        exact absurd heq.symm hlast
  · intro n a hn
    rw [ha n] at hn
    split at hn
    · cases hn
      exact ⟨fun _ => rfl, fun _ => rfl⟩
    · exact h.finished n a hn
  · intro x hx hs
    cases Option.some.inj (hr'.symm.trans hx)
    rw [ha, if_pos hcount]
    exact ⟨_, rfl, rfl⟩
  · intro x hx
    cases Option.some.inj (hr'.symm.trans hx)
    have hkept : (r.claimed t workerId leaseInterval).resourceWaitCount = r.resourceWaitCount := rfl
    rw [hcount, hkept]
    omega

/-- The last attempt is closed. -/
theorem JobOk.ended {a a' : AttemptRow} {outcome : JobAttemptOutcome} (h : JobOk db j)
    (hr : db.job j = some r) (hr' : db'.job j = some r') (hheld : holds fence r = true)
    (hopen : db.attempt j fence.attemptNo = some a) (hstate : r'.state ≠ .running)
    (hcount : r'.attemptCount = r.attemptCount)
    (hwaits : r'.resourceWaitCount = r.resourceWaitCount ∨
      r'.resourceWaitCount = r.resourceWaitCount + 1)
    (hclosed : a'.finishedAt = some t.now ∧ a'.outcome = some outcome)
    (ha : ∀ n, db'.attempt j n = if n = fence.attemptNo then some a' else db.attempt j n) :
    JobOk db' j := by
  obtain ⟨-, hrunning, -, hno⟩ := holds_iff.mp hheld
  have hw := h.waits r hr
  constructor
  · intro n
    rw [ha n, hr']
    simp only [Option.some.injEq, exists_eq_left', hcount]
    have hnumbered := h.numbered n
    rw [hr] at hnumbered
    simp only [Option.some.injEq, exists_eq_left'] at hnumbered
    split
    · rename_i hn
      rw [← hnumbered, hn, hopen]
      exact ⟨fun _ => rfl, fun _ => rfl⟩
    · exact hnumbered
  · intro n b hn
    rw [ha n] at hn
    have hnot : ¬∃ x, db'.job j = some x ∧ x.state = .running ∧ x.attemptCount = n := by
      rintro ⟨x, hx, hs, -⟩
      cases Option.some.inj (hr'.symm.trans hx)
      exact hstate hs
    split at hn
    · cases hn
      rw [hclosed.2]
      exact ⟨nofun, fun hx => absurd hx hnot⟩
    · rename_i hlast
      rw [h.opened n b hn]
      refine ⟨fun ⟨x, hx, _, hc⟩ => ?_, fun hx => absurd hx hnot⟩
      cases Option.some.inj (hr.symm.trans hx)
      exact absurd (hc.symm.trans hno) hlast
  · intro n b hn
    rw [ha n] at hn
    split at hn
    · cases hn
      simp [hclosed.1, hclosed.2]
    · exact h.finished n b hn
  · intro x hx hs
    cases Option.some.inj (hr'.symm.trans hx)
    exact absurd hs hstate
  · intro x hx
    cases Option.some.inj (hr'.symm.trans hx)
    have hlt := hw.2.2 hrunning
    refine ⟨?_, ?_, fun hs => absurd hs hstate⟩
    · omega
    · omega

/-- A running job has an open attempt, so that nothing is orphaned. -/
theorem JobOk.not_orphaned (h : JobOk db j) (hr : db.job j = some r) (hheld : holds fence r = true)
    (hj : fence.jobId = j) : (db.attempt j fence.attemptNo).filter (isOpen fence) ≠ none := by
  obtain ⟨-, hrunning, howner, hno⟩ := holds_iff.mp hheld
  obtain ⟨a, ha, hworker⟩ := h.worker r hr hrunning
  rw [hno] at ha
  have hkey : (a.jobId, a.attemptNo) = (j, fence.attemptNo) := Table.key_of_find ha
  have hopen := (h.opened _ a ha).mpr ⟨r, hr, hrunning, hno⟩
  have hsame : a.workerId = fence.workerId := Option.some.inj (hworker.symm.trans howner)
  rw [ha, Option.filter_some, if_pos]
  · exact nofun
  · exact isOpen_iff.mpr ⟨(congrArg Prod.fst hkey).trans hj.symm, congrArg Prod.snd hkey, hsame,
      (h.finished _ a ha).mpr hopen, hopen⟩

theorem JobOk.change (h : JobOk db j) (hc : Change t db db' j) : JobOk db' j := by
  cases hc with
  | created r fresh job new attempts =>
    have hnone : ∀ n, db'.attempt j n = none := by
      intro n
      rw [attempts n]
      by_contra hn
      obtain ⟨x, hx, -⟩ := (h.numbered n).mp (Option.isSome_iff_ne_none.mpr hn)
      rw [fresh] at hx
      cases hx
    obtain ⟨hs, hcount, hw⟩ := new
    refine ⟨fun n => ?_, fun n a hn => ?_, fun n a hn => ?_, fun x hx hrun => ?_, fun x hx => ?_⟩
    · rw [hnone n, job]
      simp only [Option.some.injEq, exists_eq_left', hcount]
      refine ⟨nofun, fun hn => ?_⟩
      omega
    · rw [hnone n] at hn
      cases hn
    · rw [hnone n] at hn
      cases hn
    · cases Option.some.inj (job.symm.trans hx)
      rw [hs] at hrun
      cases hrun
    · cases Option.some.inj (job.symm.trans hx)
      rw [hcount, hw, hs]
      exact ⟨le_refl _, le_refl _, nofun⟩
  | written r r' before after lasting state owner cancel count waits attempts =>
    exact h.of_row before after attempts (by rw [state]) (fun _ => owner) count waits
  | asked r r' before after lasting running state owner cancel count waits attempts =>
    exact h.of_row before after attempts (by rw [state]) (fun _ => owner) count waits
  | withdrawn r r' before after lasting pending state count waits attempts =>
    refine h.of_row before after attempts ?_ (fun hs => absurd hs pending.1) count waits
    rw [state]
    exact ⟨nofun, fun hs => absurd hs pending.1⟩
  | claimed r workerId leaseInterval before after bounded pending fresh attempts =>
    exact h.claimed before after pending.1 attempts
  | ended r r' fence a a' outcome before after held opened isOpen lasting state count waits closed
      attempts cancelled =>
    exact h.ended before after held opened state count waits closed attempts
  | orphaned r r' fence before after held state missing lasting =>
    have hj : fence.jobId = j := (holds_iff.mp held).1.symm.trans (jobId_of_job before)
    exact absurd missing (h.not_orphaned before held hj)

theorem jobOk_micro (h : ∀ j, JobOk db j) (hm : Micro t db db') : ∀ j, JobOk db' j := by
  obtain ⟨i, hchange, hframe⟩ := hm
  intro j
  by_cases hj : j = i
  · exact hj ▸ (h i).change hchange
  · exact (h j).of_same (hframe.job j hj) (hframe.attempt j hj)

theorem jobOk_micros (h : ∀ j, JobOk db j) (hm : Micros t db db') : ∀ j, JobOk db' j := by
  induction hm with
  | refl => exact h
  | tail _ hm ih => exact jobOk_micro ih hm

/-- The contents of the tables after a call. -/
def dbAfter (t : DbTime) (call : JobCall) (db : JobsDb) : JobsDb :=
  match perform t db call with
  | .ok (_, db') => db'
  | .error _ => db

/-- A call with its answer. -/
def eventOf (t : DbTime) (call : JobCall) (db : JobsDb) : JobEvent :=
  ⟨t, call, match perform t db call with
    | .ok (answer, _) => answer
    | .error fault => .fault fault⟩

theorem jobStep_dbAfter (t : DbTime) (call : JobCall) (db : JobsDb) :
    JobStep db (eventOf t call db) (dbAfter t call db) := by
  unfold JobStep eventOf dbAfter
  cases perform t db call with
  | ok result => exact ⟨rfl, rfl⟩
  | error fault => exact ⟨rfl, rfl⟩

/-! ## what stays -/

/-- Nobody can end the attempt any more. -/
def Past (j : Uuid) (n : Int) (db : JobsDb) : Prop :=
  ∃ r, db.job j = some r ∧ (n < r.attemptCount ∨ n = r.attemptCount ∧ r.state ≠ .running)

/-- The job ended in a state that is terminal. -/
def EndedIn (j : Uuid) (s : JobState) (db : JobsDb) : Prop :=
  s.isTerminal = true ∧ ∃ r, db.job j = some r ∧ r.state = s

/-- The cancellation of the attempt was requested, or it is cancelled. -/
def Doomed (j : Uuid) (n : Int) (db : JobsDb) : Prop :=
  (∃ r, db.job j = some r ∧ r.state = .running ∧ r.attemptCount = n ∧ r.cancelRequestedAt.isSome) ∨
    (Past j n db ∧ ∃ a, db.attempt j n = some a ∧ a.outcome = some .cancelled)

theorem Past.change (h : Past j n db) (hok : JobOk db j) (hc : Change t db db' j) : Past j n db' := by
  obtain ⟨x, hx, hpast⟩ := h
  cases hc with
  | created r fresh job new attempts =>
    rw [fresh] at hx
    cases hx
  | written r r' before after lasting state owner cancel count waits attempts =>
    cases Option.some.inj (before.symm.trans hx)
    refine ⟨r', after, ?_⟩
    rw [count, state]
    exact hpast
  | asked r r' before after lasting running state owner cancel count waits attempts =>
    cases Option.some.inj (before.symm.trans hx)
    refine ⟨r', after, ?_⟩
    rw [count, state]
    exact hpast
  | withdrawn r r' before after lasting pending state count waits attempts =>
    cases Option.some.inj (before.symm.trans hx)
    refine ⟨r', after, ?_⟩
    rw [count, state]
    exact hpast.imp_right fun h => ⟨h.1, nofun⟩
  | claimed r workerId leaseInterval before after bounded pending fresh attempts =>
    cases Option.some.inj (before.symm.trans hx)
    refine ⟨_, after, Or.inl ?_⟩
    show n < x.attemptCount + 1
    omega
  | ended r r' fence a a' outcome before after held opened isOpen lasting state count waits closed
      attempts cancelled =>
    cases Option.some.inj (before.symm.trans hx)
    refine ⟨r', after, ?_⟩
    rw [count]
    exact hpast.imp_right fun h => ⟨h.1, state⟩
  | orphaned r r' fence before after held state missing lasting =>
    have hj : fence.jobId = j := (holds_iff.mp held).1.symm.trans (jobId_of_job before)
    exact absurd missing (hok.not_orphaned before held hj)

theorem EndedIn.change {s : JobState} (h : EndedIn j s db) (hc : Change t db db' j) :
    EndedIn j s db' := by
  obtain ⟨hs, x, hx, hstate⟩ := h
  have hnot : s ≠ .running := fun heq => by
    rw [heq] at hs
    cases hs
  cases hc with
  | created r fresh job new attempts =>
    rw [fresh] at hx
    cases hx
  | written r r' before after lasting state owner cancel count waits attempts =>
    cases Option.some.inj (before.symm.trans hx)
    exact ⟨hs, r', after, state.trans hstate⟩
  | asked r r' before after lasting running state owner cancel count waits attempts =>
    cases Option.some.inj (before.symm.trans hx)
    exact absurd (hstate.symm.trans running) hnot
  | withdrawn r r' before after lasting pending state count waits attempts =>
    cases Option.some.inj (before.symm.trans hx)
    rw [hstate, hs] at pending
    cases pending.2
  | claimed r workerId leaseInterval before after bounded pending fresh attempts =>
    cases Option.some.inj (before.symm.trans hx)
    rw [hstate, hs] at pending
    cases pending.2
  | ended r r' fence a a' outcome before after held opened isOpen lasting state count waits closed
      attempts cancelled =>
    cases Option.some.inj (before.symm.trans hx)
    exact absurd (hstate.symm.trans (holds_iff.mp held).2.1) hnot
  | orphaned r r' fence before after held state missing lasting =>
    cases Option.some.inj (before.symm.trans hx)
    exact absurd (hstate.symm.trans (holds_iff.mp held).2.1) hnot

/-- A closed attempt stays as it is. -/
theorem attempt_kept {a : AttemptRow} (hok : JobOk db j) (hpast : Past j n db)
    (ha : db.attempt j n = some a) (hc : Change t db db' j) : db'.attempt j n = some a := by
  obtain ⟨x, hx, hn⟩ := hpast
  cases hc with
  | created r fresh job new attempts => exact (attempts n).trans ha
  | written r r' before after lasting state owner cancel count waits attempts =>
    exact (attempts n).trans ha
  | asked r r' before after lasting running state owner cancel count waits attempts =>
    exact (attempts n).trans ha
  | withdrawn r r' before after lasting pending state count waits attempts =>
    exact (attempts n).trans ha
  | claimed r workerId leaseInterval before after bounded pending fresh attempts =>
    cases Option.some.inj (before.symm.trans hx)
    rw [attempts n, if_neg]
    · exact ha
    · omega
  | ended r r' fence a₁ a' outcome before after held opened isOpen lasting state count waits closed
      attempts cancelled =>
    cases Option.some.inj (before.symm.trans hx)
    obtain ⟨-, hrunning, -, hno⟩ := holds_iff.mp held
    rw [attempts n, if_neg]
    · exact ha
    · rintro rfl
      rcases hn with hn | hn
      · omega
      · exact hn.2 hrunning
  | orphaned r r' fence before after held state missing lasting =>
    have hj : fence.jobId = j := (holds_iff.mp held).1.symm.trans (jobId_of_job before)
    exact absurd missing (hok.not_orphaned before held hj)

theorem Doomed.change (h : Doomed j n db) (hok : JobOk db j) (hc : Change t db db' j) :
    Doomed j n db' := by
  rcases h with ⟨x, hx, hrunning, hcount, hcancel⟩ | ⟨hpast, a, ha, hout⟩
  swap
  · exact Or.inr ⟨hpast.change hok hc, a, attempt_kept hok hpast ha hc, hout⟩
  cases hc with
  | created r fresh job new attempts =>
    rw [fresh] at hx
    cases hx
  | written r r' before after lasting state owner cancel count waits attempts =>
    cases Option.some.inj (before.symm.trans hx)
    exact Or.inl ⟨r', after, state.trans hrunning, count.trans hcount, by rw [cancel, hcancel]⟩
  | asked r r' before after lasting running state owner cancel count waits attempts =>
    cases Option.some.inj (before.symm.trans hx)
    exact Or.inl ⟨r', after, state.trans hrunning, count.trans hcount, cancel⟩
  | withdrawn r r' before after lasting pending state count waits attempts =>
    cases Option.some.inj (before.symm.trans hx)
    exact absurd hrunning pending.1
  | claimed r workerId leaseInterval before after bounded pending fresh attempts =>
    cases Option.some.inj (before.symm.trans hx)
    exact absurd hrunning pending.1
  | ended r r' fence a a' outcome before after held opened isOpen lasting state count waits closed
      attempts cancelled =>
    cases Option.some.inj (before.symm.trans hx)
    have hno : n = fence.attemptNo := hcount.symm.trans (holds_iff.mp held).2.2.2
    refine Or.inr ⟨⟨r', after, Or.inr ⟨(count.trans hcount).symm, state⟩⟩, a', ?_, ?_⟩
    · rw [attempts n, if_pos hno]
    · rw [closed.2, cancelled hcancel]
  | orphaned r r' fence before after held state missing lasting =>
    have hj : fence.jobId = j := (holds_iff.mp held).1.symm.trans (jobId_of_job before)
    exact absurd missing (hok.not_orphaned before held hj)

/-- What one change keeps of a job, every sequence of changes keeps. -/
theorem micros_keep {P : JobsDb → Prop}
    (hchange : ∀ {t : DbTime} {db db' : JobsDb}, JobOk db j → P db → Change t db db' j → P db')
    (hsame : ∀ {db db' : JobsDb}, db'.job j = db.job j → AttemptsKept j db db' → P db → P db')
    (hok : ∀ i, JobOk db i) (hp : P db) (hm : Micros t db db') : P db' := by
  induction hm with
  | refl => exact hp
  | @tail db₁ db₂ hm hone ih =>
    obtain ⟨i, hc, hframe⟩ := hone
    have hok₁ := jobOk_micros hok hm
    by_cases hj : j = i
    · subst hj
      exact hchange (hok₁ j) ih hc
    · exact hsame (hframe.job j hj) (hframe.attempt j hj) ih

theorem Past.of_same (hjob : db'.job j = db.job j) (h : Past j n db) : Past j n db' := by
  obtain ⟨r, hr, hn⟩ := h
  exact ⟨r, hjob.trans hr, hn⟩

theorem Past.micros (hok : ∀ i, JobOk db i) (h : Past j n db) (hm : Micros t db db') :
    Past j n db' :=
  micros_keep (fun hok h hc => h.change hok hc) (fun hjob _ h => h.of_same hjob) hok h hm

theorem EndedIn.of_same {s : JobState} (hjob : db'.job j = db.job j) (h : EndedIn j s db) :
    EndedIn j s db' := by
  obtain ⟨hs, r, hr, hn⟩ := h
  exact ⟨hs, r, hjob.trans hr, hn⟩

theorem EndedIn.micros {s : JobState} (hok : ∀ i, JobOk db i) (h : EndedIn j s db)
    (hm : Micros t db db') : EndedIn j s db' :=
  micros_keep (fun _ h hc => h.change hc) (fun hjob _ h => h.of_same hjob) hok h hm

theorem Doomed.of_same (hjob : db'.job j = db.job j) (ha : AttemptsKept j db db')
    (h : Doomed j n db) : Doomed j n db' := by
  rcases h with ⟨r, hr, hfacts⟩ | ⟨hpast, a, hn, hout⟩
  · exact Or.inl ⟨r, hjob.trans hr, hfacts⟩
  · exact Or.inr ⟨hpast.of_same hjob, a, (ha n).trans hn, hout⟩

theorem Doomed.micros (hok : ∀ i, JobOk db i) (h : Doomed j n db) (hm : Micros t db db') :
    Doomed j n db' :=
  micros_keep (fun hok h hc => h.change hok hc) (fun hjob ha h => h.of_same hjob ha) hok h hm

/-! ## steps -/

/-- The jobs change one by one, or only the dependencies change. -/
def Moves (t : DbTime) (db db' : JobsDb) : Prop :=
  Micros t db db' ∨ (db'.jobs = db.jobs ∧ db'.attempts = db.attempts)

/-- **What a call does.** -/
structure StepFacts (db : JobsDb) (e : JobEvent) (db' : JobsDb) : Prop where
  moves : Moves e.time db db'
  finished : ∀ fence, finishes fence e = true → Ends e.time fence db db'
  recovered : ∀ fence, recovers fence e = true →
    (∃ r, db.job fence.jobId = some r ∧ r.state = .running ∧ r.attemptCount = fence.attemptNo) ∧
      Stopped db' fence.jobId fence.attemptNo

/-- A call that neither finishes nor recovers. -/
theorem StepFacts.of_moves (h : Moves e.time db db') (hf : ∀ fence, finishes fence e = false)
    (hr : ∀ fence, recovers fence e = false) : StepFacts db e db' := by
  refine ⟨h, fun fence hx => ?_, fun fence hx => ?_⟩
  · rw [hf fence] at hx
    cases hx
  · rw [hr fence] at hx
    cases hx

/-- A call that asks for the end of the attempt of `fence`. -/
theorem StepFacts.of_ends {result : LeaseTransition} (hcall : ∀ f, finishes f e = true →
      fence = f ∧ result ≠ .lostLease) (hr : ∀ f, recovers f e = false)
    (h : EndsOrLost e.time fence db (result, db')) : StepFacts db e db' := by
  rcases h with ⟨hlost, hsame⟩ | ⟨hres, hends⟩
  · refine ⟨Or.inl ?_, fun f hf => absurd hlost (hcall f hf).2, fun f hf => ?_⟩
    · rw [show db' = db from hsame]
    · rw [hr f] at hf
      cases hf
  · refine ⟨Or.inl (.single hends.micro), fun f hf => ?_, fun f hf => ?_⟩
    · rw [← (hcall f hf).1]
      exact hends
    · rw [hr f] at hf
      cases hf

theorem jobStep_facts (h : JobStep db e db') : StepFacts db e db' := by
  obtain ⟨t, call, answer⟩ := e
  unfold JobStep at h
  cases hperform : perform t db call with
  | error fault =>
    rw [hperform] at h
    obtain ⟨hanswer, rfl⟩ := h
    dsimp only at hanswer
    subst hanswer
    refine .of_moves (Or.inl .refl) (fun fence => ?_) fun fence => rfl
    cases call <;> rfl
  | ok result =>
    rw [hperform] at h
    obtain ⟨hanswer, rfl⟩ := h
    dsimp only at hanswer
    subst hanswer
    cases call with
    | enqueue jobId users command =>
      obtain ⟨a, ha, rfl⟩ := map_eq_ok.mp hperform
      refine .of_moves (Or.inl (Micros.of_or ?_)) (fun fence => rfl) fun fence => rfl
      exact (enqueue_ok ha).imp And.right fun hx => hx.2.1
    | claim workerId supported leaseInterval limit locked =>
      obtain ⟨a, ha, rfl⟩ := map_eq_ok.mp hperform
      exact .of_moves (Or.inl (claim_ok ha).1) (fun fence => rfl) fun fence => rfl
    | heartbeat fence leaseInterval =>
      obtain ⟨a, ha, rfl⟩ := map_eq_ok.mp hperform
      exact .of_moves (Or.inl (Micros.of_or (heartbeat_ok ha))) (fun fence => rfl) fun fence => rfl
    | saveCheckpoint fence checkpoint current total =>
      obtain ⟨a, ha, rfl⟩ := map_eq_ok.mp hperform
      exact .of_moves (Or.inl (Micros.of_or (saveCheckpoint_ok ha))) (fun fence => rfl) fun fence => rfl
    | complete fence =>
      obtain ⟨a, ha, rfl⟩ := map_eq_ok.mp hperform
      exact .of_ends (fun f hf => of_decide_eq_true hf) (fun f => rfl) (complete_ok ha)
    | failRetryable fence error policy =>
      obtain ⟨a, ha, rfl⟩ := map_eq_ok.mp hperform
      exact .of_ends (fun f hf => of_decide_eq_true hf) (fun f => rfl) (failRetryable_ok ha)
    | failTerminal fence error =>
      obtain ⟨a, ha, rfl⟩ := map_eq_ok.mp hperform
      exact .of_ends (fun f hf => of_decide_eq_true hf) (fun f => rfl) (failTerminal_ok ha)
    | deferForResource fence operationId delay admissions =>
      obtain ⟨a, ha, rfl⟩ := map_eq_ok.mp hperform
      rcases deferForResource_ok ha with ⟨hd, hc, hsame⟩ | ⟨-, hends⟩
      · refine ⟨Or.inl ?_, fun f hf => ?_, nofun⟩
        · rw [hsame]
        · rcases (of_decide_eq_true hf).2 with hx | hx
          · exact absurd hx hd
          · exact absurd hx hc
      · refine ⟨Or.inl (.single hends.micro), fun f hf => ?_, nofun⟩
        rw [← (of_decide_eq_true hf).1]
        exact hends
    | requestCancelForOwner jobId owner =>
      cases hperform
      exact .of_moves (Or.inl (Micros.of_or requestCancel_ok)) (fun fence => rfl) fun fence => rfl
    | acknowledgeCancel fence =>
      obtain ⟨a, ha, rfl⟩ := map_eq_ok.mp hperform
      exact .of_ends (fun f hf => of_decide_eq_true hf) (fun f => rfl) (acknowledgeCancel_ok ha)
    | recoverExpired supported limit policy locked =>
      obtain ⟨a, ha, rfl⟩ := map_eq_ok.mp hperform
      obtain ⟨hmicros, -, hall⟩ := recoverExpired_ok ha
      refine ⟨Or.inl hmicros, nofun, fun f hf => ?_⟩
      obtain ⟨x, hx, heq⟩ := List.any_eq_true.mp hf
      obtain ⟨hj, hno⟩ := of_decide_eq_true heq
      rw [← hj, ← hno]
      exact hall x hx
    | wake jobId wakeUntil =>
      cases hperform
      exact .of_moves (Or.inl (Micros.of_or wake_micro)) (fun fence => rfl) fun fence => rfl
    | depend dependencies =>
      cases hperform
      exact .of_moves (Or.inr ⟨rfl, rfl⟩) (fun fence => rfl) fun fence => rfl

/-- A claim takes jobs whose required prerequisites are complete. -/
theorem jobStep_claim {workerId : String} {supported : List JobKey} {leaseInterval limit : Int}
    {locked : Uuid → Bool} (h : JobStep db e db')
    (hc : e.call = .claim workerId supported leaseInterval limit locked)
    (hj : db'.job j ≠ db.job j) : PrerequisitesMet db j := by
  unfold JobStep at h
  rw [hc] at h
  cases hperform : perform e.time db (.claim workerId supported leaseInterval limit locked) with
  | error fault =>
    rw [hperform] at h
    exact absurd (congrArg (JobsDb.job · j) h.2) hj
  | ok result =>
    rw [hperform] at h
    obtain ⟨-, rfl⟩ := h
    obtain ⟨a, ha, rfl⟩ := map_eq_ok.mp hperform
    exact (claim_ok ha).2.2 j hj

theorem moves_keep {P : JobsDb → Prop} (hm : Moves t db db')
    (hmicros : Micros t db db' → P db')
    (hsame : (∀ i, db'.job i = db.job i) → (∀ i, AttemptsKept i db db') → P db') : P db' := by
  rcases hm with hm | ⟨hjobs, hattempts⟩
  · exact hmicros hm
  · exact hsame (job_eq_of_jobs hjobs) (attempt_eq_of_attempts hattempts)

theorem jobOk_step (h : ∀ j, JobOk db j) (hs : JobStep db e db') : ∀ j, JobOk db' j :=
  moves_keep (P := fun x => ∀ j, JobOk x j) (jobStep_facts hs).moves (jobOk_micros h)
    fun hj ha i => (h i).of_same (hj i) (ha i)

theorem Past.step (hok : ∀ i, JobOk db i) (h : Past j n db) (hs : JobStep db e db') : Past j n db' :=
  moves_keep (jobStep_facts hs).moves (h.micros hok) fun hj _ => h.of_same (hj j)

theorem EndedIn.step {s : JobState} (hok : ∀ i, JobOk db i) (h : EndedIn j s db)
    (hs : JobStep db e db') : EndedIn j s db' :=
  moves_keep (jobStep_facts hs).moves (h.micros hok) fun hj _ => h.of_same (hj j)

theorem Doomed.step (hok : ∀ i, JobOk db i) (h : Doomed j n db) (hs : JobStep db e db') :
    Doomed j n db' :=
  moves_keep (jobStep_facts hs).moves (h.micros hok) fun hj ha => h.of_same (hj j) (ha j)

/-- A call that ends the attempt of a fence finds it running, and leaves it in the past. -/
theorem ends_once (hs : JobStep db e db')
    (h : (finishes fence e || recovers fence e) = true) :
    ¬Past fence.jobId fence.attemptNo db ∧ Past fence.jobId fence.attemptNo db' := by
  have hfacts := jobStep_facts hs
  have hboth : (∃ r, db.job fence.jobId = some r ∧ r.state = .running ∧
      r.attemptCount = fence.attemptNo) ∧ Stopped db' fence.jobId fence.attemptNo := by
    rcases (Bool.or_eq_true _ _).mp h with hf | hr
    · have hends := hfacts.finished fence hf
      obtain ⟨r, hr, hlive⟩ := hends.live
      have hheld := holds_iff.mp (holdsLive_iff.mp hlive).1
      exact ⟨⟨r, hr, hheld.2.1, hheld.2.2.2⟩, hends.stopped⟩
    · exact hfacts.recovered fence hr
  obtain ⟨⟨r, hr, hrunning, hcount⟩, r', hr', hstopped, hcount'⟩ := hboth
  refine ⟨?_, r', hr', Or.inr ⟨hcount'.symm, hstopped⟩⟩
  rintro ⟨x, hx, hpast⟩
  cases Option.some.inj (hr.symm.trans hx)
  rcases hpast with hlt | ⟨-, hnot⟩
  · omega
  · exact hnot hrunning

/-! ## runs -/

/-- The attempts that were ended so far are in the past. -/
structure RunOk (events : List JobEvent) (db : JobsDb) : Prop where
  ok : ∀ j, JobOk db j
  once : ∀ fence, events.countP (fun e => finishes fence e || recovers fence e) = 0 ∨
    events.countP (fun e => finishes fence e || recovers fence e) = 1 ∧
      Past fence.jobId fence.attemptNo db

theorem RunOk.step {events : List JobEvent} (h : RunOk events db) (hs : JobStep db e db') :
    RunOk (events ++ [e]) db' := by
  refine ⟨jobOk_step h.ok hs, fun fence => ?_⟩
  rw [List.countP_append, List.countP_singleton]
  by_cases hends : (finishes fence e || recovers fence e) = true
  · obtain ⟨hnot, hpast⟩ := ends_once hs hends
    rw [if_pos hends]
    rcases h.once fence with hzero | ⟨-, hp⟩
    · rw [hzero]
      exact Or.inr ⟨rfl, hpast⟩
    · exact absurd hp hnot
  · rw [if_neg hends, Nat.add_zero]
    exact (h.once fence).imp_right fun hx => ⟨hx.1, hx.2.step h.ok hs⟩

/-- No job has been enqueued yet. -/
def NoJobs (db : JobsDb) : Prop := ∀ j, db.job j = none ∧ ∀ n, db.attempt j n = none

theorem NoJobs.ok (h : NoJobs db) (j : Uuid) : JobOk db j := by
  obtain ⟨hj, ha⟩ := h j
  refine ⟨fun n => ?_, fun n a hn => ?_, fun n a hn => ?_, fun r hr => ?_, fun r hr => ?_⟩
  · rw [hj, ha n]
    simp
  · rw [ha n] at hn
    cases hn
  · rw [ha n] at hn
    cases hn
  · rw [hj] at hr
    cases hr
  · rw [hj] at hr
    cases hr

theorem runOk {events : List JobEvent} (start : NoJobs db₀) (run : Path JobStep db₀ events db) :
    RunOk events db := by
  have h₀ : RunOk [] db₀ := ⟨start.ok, fun _ => Or.inl rfl⟩
  exact run.history (I := RunOk) (fun _ _ _ _ h hs => h.step hs) h₀

/-- What was asked of a running attempt, or decided of a job, stays. -/
theorem later_keeps {later : List JobEvent} (hok : ∀ i, JobOk db i)
    (run : Path JobStep db later db') :
    (∀ i, JobOk db' i) ∧ (∀ i s, EndedIn i s db → EndedIn i s db') ∧
      ∀ i m, Doomed i m db → Doomed i m db' := by
  refine run.invariant (I := fun x => (∀ i, JobOk x i) ∧ (∀ i s, EndedIn i s db → EndedIn i s x) ∧
    ∀ i m, Doomed i m db → Doomed i m x) (fun x e x' hx hs => ?_) ⟨hok, fun _ _ h => h, fun _ _ h => h⟩
  obtain ⟨hx, hended, hdoomed⟩ := hx
  exact ⟨jobOk_step hx hs, fun i s h => (hended i s h).step hx hs,
    fun i m h => (hdoomed i m h).step hx hs⟩

/-- A doomed attempt has no other outcome. -/
theorem Doomed.outcome {a : AttemptRow} (h : Doomed j n db) (hok : JobOk db j)
    (ha : db.attempt j n = some a) : a.outcome = none ∨ a.outcome = some .cancelled := by
  rcases h with ⟨r, hr, hrunning, hcount, -⟩ | ⟨-, b, hb, hout⟩
  · exact Or.inl ((hok.opened n a ha).mpr ⟨r, hr, hrunning, hcount⟩)
  · cases Option.some.inj (ha.symm.trans hb)
    exact Or.inr hout

end

/-- **The laws of leases.**  In every state that any calls lead to: the attempts of a job are numbered
from 1 to its count, the last one is open exactly while the job runs, and the waits for resources are
among them; an attempt is ended by at most one call, a fence ends its own before the end of the lease;
a terminal state stays; an attempt whose cancellation was requested is only cancelled; and no job is
claimed before its required prerequisites are complete. -/
theorem lease_laws {db₀ db : JobsDb} {events : List JobEvent} (start : NoJobs db₀)
    (run : Path JobStep db₀ events db) :
    (∀ j, JobOk db j) ∧
    (∀ fence, events.countP (fun e => finishes fence e || recovers fence e) ≤ 1) ∧
    (∀ e db', JobStep db e db' →
      (∀ fence, finishes fence e = true → ∃ r, db.job fence.jobId = some r ∧
        holds fence r = true ∧ ∃ deadline, r.leaseDeadline = some deadline ∧ e.time.now < deadline) ∧
      ∀ workerId supported leaseInterval limit locked,
        e.call = .claim workerId supported leaseInterval limit locked →
          ∀ j, db'.job j ≠ db.job j → PrerequisitesMet db j) ∧
    (∀ later db', Path JobStep db later db' → ∀ j r, db.job j = some r →
      (r.state.isTerminal = true → ∃ r', db'.job j = some r' ∧ r'.state = r.state) ∧
      (r.state = .running → r.cancelRequestedAt.isSome → ∀ a, db'.attempt j r.attemptCount = some a →
        a.outcome = none ∨ a.outcome = some .cancelled)) := by
  have hrun := runOk start run
  refine ⟨hrun.ok, fun fence => ?_, fun e db' hs => ⟨fun fence hf => ?_, ?_⟩,
    fun later db' hlater j r hr => ?_⟩
  · rcases hrun.once fence with h | ⟨h, -⟩
    · omega
    · omega
  · obtain ⟨r, hr, hlive⟩ := ((jobStep_facts hs).finished fence hf).live
    exact ⟨r, hr, holdsLive_iff.mp hlive⟩
  · intro workerId supported leaseInterval limit locked hc j hj
    exact jobStep_claim hs hc hj
  · obtain ⟨hok, hended, hdoomed⟩ := later_keeps hrun.ok hlater
    refine ⟨fun hterminal => ?_, fun hrunning hcancel a ha => ?_⟩
    · exact (hended j r.state ⟨hterminal, r, hr, rfl⟩).2
    · exact (hdoomed j r.attemptCount (Or.inl ⟨r, hr, hrunning, rfl, hcancel⟩)).outcome (hok j) ha

/-! A job that is claimed and completed. -/

namespace JobSample

def noJobs : JobsDb := ⟨.empty, .empty, []⟩

def jobId : Uuid := ⟨"00000000-0000-7000-8000-000000000001", by decide⟩

theorem key_positive : (1 : Int) ≤ 1 := le_rfl

def key : JobKey := ⟨"library.scan", 1, by decide, key_positive⟩

def atTime (now : Int) : DbTime := ⟨now, now, now, le_refl _, le_refl _⟩

def command : EnqueueJob where
  key := key
  userId := none
  payload := []
  priority := 3
  scheduledAt := none
  idempotencyScope := none
  idempotencyKey := none

theorem first_attempt : (1 : Int) ≤ 1 := le_rfl

def fence : LeaseFence := ⟨jobId, "worker", 1, by decide, first_attempt⟩

def enqueued : JobsDb := dbAfter (atTime 0) (.enqueue jobId (fun _ => true) command) noJobs

def claimCall : JobCall := .claim "worker" [key] (30 * second) 10 fun _ => false

def claimed : JobsDb := dbAfter (atTime 5) claimCall enqueued

def completed : JobsDb := dbAfter (atTime 9) (.complete fence) claimed

theorem noJobs_noJobs : NoJobs noJobs := fun _ => ⟨rfl, fun _ => rfl⟩

end JobSample

/-- A job that is claimed and completed: both laws of its fence apply. -/
theorem lease_laws_completed :
    (JobSample.completed.job JobSample.jobId).map JobRow.state = some .completed ∧
      JobOk JobSample.completed JobSample.jobId := by
  have run := ((Path.nil JobSample.noJobs).snoc (jobStep_dbAfter (JobSample.atTime 0) _ _)).snoc
    (jobStep_dbAfter (JobSample.atTime 5) JobSample.claimCall JobSample.enqueued)
  refine ⟨by decide +kernel, ?_⟩
  exact (lease_laws JobSample.noJobs_noJobs
    (run.snoc (jobStep_dbAfter (JobSample.atTime 9) (.complete JobSample.fence) _))).1 JobSample.jobId

end AutPlay.Jobs
