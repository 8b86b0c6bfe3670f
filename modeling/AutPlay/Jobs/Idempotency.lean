import AutPlay.Jobs.LeaseLaws

/-!
# Enqueueing a job again

* `copyFields_ok`        the checks of a document copy it;
* `Path.lasting`         the columns of a job that nothing writes again;
* `enqueue_stored`       what an idempotent command gets for a job that is there;
* `enqueue_again_iff`    when that is the right answer.
-/

set_option linter.unusedSectionVars false

namespace AutPlay.Jobs

open AutPlay.Sync (Uuid)

/-! ## the copy of a document -/

mutual

theorem copyJsonValue_ok {v w : JsonValue} {path : String} {depth : Nat}
    (h : copyJsonValue path depth v = .ok w) : w = v := by
  cases v with
  | list items =>
    unfold copyJsonValue at h
    split at h
    · cases h
    · obtain ⟨copied, hitems, h⟩ := Result.bind_eq_ok.mp h
      cases h
      rw [copyItems_ok hitems]
  | dict fields =>
    unfold copyJsonValue at h
    split at h
    · cases h
    · obtain ⟨copied, hfields, h⟩ := Result.bind_eq_ok.mp h
      cases h
      rw [copyFields_ok hfields]
  | _ =>
    unfold copyJsonValue at h
    split at h
    · cases h
    · cases h
      rfl

theorem copyItems_ok {xs ys : List JsonValue} {path : String} {index depth : Nat}
    (h : copyItems path index depth xs = .ok ys) : ys = xs := by
  cases xs with
  | nil =>
    unfold copyItems at h
    cases h
    rfl
  | cons x xs =>
    unfold copyItems at h
    obtain ⟨y, hy, h⟩ := Result.bind_eq_ok.mp h
    obtain ⟨ys', hys, h⟩ := Result.bind_eq_ok.mp h
    cases h
    rw [copyJsonValue_ok hy, copyItems_ok hys]

/-- **The copy that is stored is the document.** -/
theorem copyFields_ok {xs ys : List (String × JsonValue)} {path : String} {depth : Nat}
    (h : copyFields path depth xs = .ok ys) : ys = xs := by
  cases xs with
  | nil =>
    unfold copyFields at h
    cases h
    rfl
  | cons x xs =>
    unfold copyFields at h
    split at h
    · cases h
    · obtain ⟨y, hy, h⟩ := Result.bind_eq_ok.mp h
      obtain ⟨ys', hys, h⟩ := Result.bind_eq_ok.mp h
      cases h
      rw [copyJsonValue_ok hy, copyFields_ok hys]

end

theorem validateJobDocument_ok {value normalized : JsonObject} {field : String} {maximum : Nat}
    (h : validateJobDocument value field maximum = .ok normalized) : normalized = value := by
  unfold validateJobDocument at h
  obtain ⟨copied, hcopied, h⟩ := Result.bind_eq_ok.mp h
  split at h
  · cases h
  split at h
  · cases h
  · cases h
    exact copyFields_ok hcopied

section
variable {t : DbTime} {db db' : JobsDb} {j : Uuid} {r r' : JobRow} {e : JobEvent}
  {command other : EnqueueJob} {users : Uuid → Bool}

/-! ## columns that stay -/

theorem Lasting.trans {r'' : JobRow} (h : Lasting r r') (h' : Lasting r' r'') : Lasting r r'' :=
  ⟨h'.jobId.trans h.jobId, h'.key.trans h.key, h'.userId.trans h.userId,
    h'.priority.trans h.priority, h'.idempotency.trans h.idempotency, h'.payload.trans h.payload,
    h'.createdAt.trans h.createdAt⟩

/-- The job is there, with the columns of `r`. -/
def StillThere (r : JobRow) (db : JobsDb) : Prop := ∃ r', db.job r.jobId = some r' ∧ Lasting r r'

theorem StillThere.change (h : StillThere r db) (hc : Change t db db' r.jobId) : StillThere r db' := by
  obtain ⟨x, hx, hlasting⟩ := h
  cases hc with
  | created r₁ fresh job new attempts =>
    rw [fresh] at hx
    cases hx
  | written r₁ r' before after lasting state owner cancel count waits attempts =>
    cases Option.some.inj (before.symm.trans hx)
    exact ⟨r', after, hlasting.trans lasting⟩
  | asked r₁ r' before after lasting running state owner cancel count waits attempts =>
    cases Option.some.inj (before.symm.trans hx)
    exact ⟨r', after, hlasting.trans lasting⟩
  | withdrawn r₁ r' before after lasting pending state count waits attempts =>
    cases Option.some.inj (before.symm.trans hx)
    exact ⟨r', after, hlasting.trans lasting⟩
  | claimed r₁ workerId leaseInterval before after bounded pending fresh attempts =>
    cases Option.some.inj (before.symm.trans hx)
    exact ⟨_, after, hlasting.trans ⟨rfl, rfl, rfl, rfl, rfl, rfl, rfl⟩⟩
  | ended r₁ r' fence a a' outcome before after held opened isOpen lasting state count waits closed
      attempts cancelled =>
    cases Option.some.inj (before.symm.trans hx)
    exact ⟨r', after, hlasting.trans lasting⟩
  | orphaned r₁ r' fence before after held state missing lasting =>
    cases Option.some.inj (before.symm.trans hx)
    exact ⟨r', after, hlasting.trans lasting⟩

theorem StillThere.of_same (hjob : db'.job r.jobId = db.job r.jobId) (h : StillThere r db) :
    StillThere r db' := by
  obtain ⟨x, hx, hlasting⟩ := h
  exact ⟨x, hjob.trans hx, hlasting⟩

theorem StillThere.micros (h : StillThere r db) (hm : Micros t db db') : StillThere r db' := by
  induction hm with
  | refl => exact h
  | tail _ hone ih =>
    obtain ⟨i, hc, hframe⟩ := hone
    by_cases hj : r.jobId = i
    · subst hj
      exact ih.change hc
    · exact ih.of_same (hframe.job _ hj)

theorem StillThere.step (h : StillThere r db) (hs : JobStep db e db') : StillThere r db' :=
  moves_keep (jobStep_facts hs).moves h.micros fun hj _ => h.of_same (hj _)

/-- **Whatever happens to a job, it stays what was enqueued.** -/
theorem lasting_of_run {events : List JobEvent} (hr : db.job r.jobId = some r)
    (run : Path JobStep db events db') : StillThere r db' :=
  run.invariant (I := StillThere r) (fun _ _ _ h hs => h.step hs)
    ⟨r, hr, ⟨rfl, rfl, rfl, rfl, rfl, rfl, rfl⟩⟩

/-! ## the answer to an idempotent command -/

/-- The command passes the checks that come before the tables are read. -/
def Checked (command : EnqueueJob) : Prop :=
  validateJobDocument command.payload "payload" maxJobDocumentBytes = .ok command.payload ∧
    validateEnqueue command = .ok () ∧ storableFields command.payload = true ∧
    command.key.schemaVersion ≤ 2147483647

/-- A command that fails a check fails for that. -/
theorem enqueue_unchecked {jobId : Uuid} (h : ¬Checked command) :
    ∃ fault, enqueue t jobId users command db = .error fault ∧ fault ≠ .idempotencyConflict := by
  unfold enqueue
  cases hdocument : validateJobDocument command.payload "payload" maxJobDocumentBytes with
  | error message => exact ⟨.documentError message, rfl, nofun⟩
  | ok payload =>
    have hsame := validateJobDocument_ok hdocument
    subst hsame
    cases hvalidate : validateEnqueue command with
    | error fault =>
      refine ⟨fault, rfl, ?_⟩
      rintro rfl
      unfold validateEnqueue at hvalidate
      split at hvalidate
      · cases hvalidate
      split at hvalidate
      · cases hvalidate
      · split at hvalidate
        · cases hvalidate
        split at hvalidate
        · cases hvalidate
        · cases hvalidate
      · cases hvalidate
    | ok _ =>
      by_cases hstorable : storableFields command.payload = true
      swap
      · refine ⟨.database "jsonb", ?_, nofun⟩
        show (if ¬storableFields command.payload = true then _ else _) = _
        rw [if_pos hstorable]
      by_cases hversion : command.key.schemaVersion ≤ 2147483647
      · exact absurd ⟨hdocument, hvalidate, hstorable, hversion⟩ h
      · refine ⟨.database "integer", ?_, nofun⟩
        show (if ¬storableFields command.payload = true then _ else if _ then _ else _) = _
        rw [if_neg (not_not.mpr hstorable), if_pos (not_le.mp hversion)]

/-- **A command whose key is taken** is compared with the job. -/
theorem enqueue_stored {jobId : Uuid} (hc : Checked command) (hr : db.job j = some r)
    (hkey : r.idempotency = command.idempotency) (hsome : command.idempotency.isSome) :
    enqueue t jobId users command db =
      if sameEnqueue r command command.payload then .ok (⟨r.jobId, true⟩, db)
      else .error .idempotencyConflict := by
  obtain ⟨hdocument, hvalidate, hstorable, hversion⟩ := hc
  have hfind : db.jobs.rows.find? (fun r => r.idempotency.isSome && r.idempotency = command.idempotency) =
      some r := by
    have hmem : r ∈ db.jobs := Table.mem_of_find hr
    cases hfound : db.jobs.rows.find?
        (fun r => r.idempotency.isSome && r.idempotency = command.idempotency) with
    | none =>
      have hnot := List.find?_eq_none.mp hfound r hmem
      simp [hkey, hsome] at hnot
    | some x =>
      have hx := List.find?_some hfound
      rw [Bool.and_eq_true, decide_eq_true_iff] at hx
      refine congrArg some (Table.eq_of_index (List.mem_of_find?_eq_some hfound) hmem ?_ ?_)
      · exact Option.isSome_iff_ne_none.mp hx.1
      · exact hx.2.trans hkey.symm
  unfold enqueue
  rw [hdocument, hvalidate]
  show (if ¬storableFields command.payload = true then _ else if _ then _ else _) = _
  rw [if_neg (not_not.mpr hstorable), if_neg (not_lt.mpr hversion), hfind]

/-- Two commands that ask for the same. -/
structure Identical (command other : EnqueueJob) : Prop where
  key : other.key = command.key
  userId : other.userId = command.userId
  priority : other.priority = command.priority
  scheduledAt : other.scheduledAt = command.scheduledAt
  payload : sameJsonDocument command.payload other.payload

/-- **The right answer** to `other`, once `command` was accepted as the job `jobId`. -/
def RightAnswer (t : DbTime) (newId : Uuid) (users : Uuid → Bool) (command other : EnqueueJob)
    (jobId : Uuid) (db : JobsDb) : Prop :=
  (Identical command other → enqueue t newId users other db = .ok (⟨jobId, true⟩, db)) ∧
    (¬Identical command other → enqueue t newId users other db = .error .idempotencyConflict)

/-- What a job needs for the right answer: `other` passes the checks; the job is due when `command`
asked for it, and its payload came back from the column as it was; and it does not look like what a
different command asks for. -/
def Recognises (r : JobRow) (inserted : Bool) (command other : EnqueueJob) : Prop :=
  Checked other ∧
    (Identical command other → r.scheduledAt = command.requestedAt r.createdAt ∧
      (inserted = true → KeptFields command.payload)) ∧
    (¬Identical command other → other.key = command.key → other.userId = command.userId →
      other.priority = command.priority → sameJsonDocument r.payload other.payload →
        r.scheduledAt ≠ other.requestedAt r.createdAt)

/-- The job that an accepted command stands for. -/
structure Accepted (command : EnqueueJob) (inserted : Bool) (r : JobRow) : Prop where
  key : r.key = command.key
  userId : r.userId = command.userId
  priority : r.priority = command.priority
  idempotency : r.idempotency = command.idempotency
  payload : sameJsonDocument r.payload command.payload ↔ (inserted = true → KeptFields command.payload)

theorem accepted_of_enqueue {newId : Uuid} {result : EnqueueResult}
    (h : enqueue t newId users command db = .ok (result, db')) :
    ∃ r, db'.job r.jobId = some r ∧ r.jobId = result.jobId ∧ Accepted command (!result.replayed) r := by
  unfold enqueue at h
  obtain ⟨payload, hpayload, h⟩ := Result.bind_eq_ok.mp h
  have hsame := validateJobDocument_ok (Result.mapError_eq_ok.mp hpayload)
  subst hsame
  obtain ⟨-, -, h⟩ := Result.bind_eq_ok.mp h
  split at h
  · cases h
  split at h
  · cases h
  split at h
  · rename_i r hfound
    split at h
    · rename_i hs
      cases h
      have hx := List.find?_some hfound
      rw [Bool.and_eq_true, decide_eq_true_iff] at hx
      refine ⟨r, Table.find_mem (List.mem_of_find?_eq_some hfound), rfl, hs.1, hs.2.1, hs.2.2.1,
        hx.2, fun _ hf => ?_, fun _ => hs.2.2.2.1⟩
      cases hf
    · cases h
  split at h
  · cases h
  split at h
  · rename_i jobs hinsert
    cases h
    have hnew : jobs.find newId = some (enqueuedRow t newId command command.payload) :=
      (Table.find_insert hinsert newId).trans (if_pos rfl)
    exact ⟨enqueuedRow t newId command command.payload, hnew, rfl, rfl, rfl, rfl, rfl,
      (same_toJsonb_iff command.payload).trans ⟨fun hk _ => hk, fun hk => hk rfl⟩⟩
  · cases h

theorem Accepted.lasting {inserted : Bool} (h : Accepted command inserted r) (hl : Lasting r r') :
    Accepted command inserted r' := by
  refine ⟨hl.key.trans h.key, hl.userId.trans h.userId, hl.priority.trans h.priority,
    hl.idempotency.trans h.idempotency, ?_⟩
  rw [hl.payload]
  exact h.payload

/-- An identical command is taken for the accepted one. -/
theorem sameEnqueue_of_identical {inserted : Bool} (h : Accepted command inserted r)
    (hi : Identical command other) : sameEnqueue r other other.payload ↔
      r.scheduledAt = command.requestedAt r.createdAt ∧
        (inserted = true → KeptFields command.payload) := by
  have hat : other.requestedAt r.createdAt = command.requestedAt r.createdAt := by
    unfold EnqueueJob.requestedAt
    rw [hi.scheduledAt]
  have hdocument : sameJsonDocument r.payload other.payload ↔
      sameJsonDocument r.payload command.payload :=
    ⟨fun hs => hs.trans hi.payload.symm, fun hs => hs.trans hi.payload⟩
  unfold sameEnqueue
  rw [hat, hdocument, h.payload]
  constructor
  · rintro ⟨-, -, -, hpayload, hscheduled⟩
    exact ⟨hscheduled, hpayload⟩
  · rintro ⟨hscheduled, hpayload⟩
    exact ⟨h.key.trans hi.key.symm, h.userId.trans hi.userId.symm, h.priority.trans hi.priority.symm,
      hpayload, hscheduled⟩

theorem rightAnswer_iff {inserted : Bool} {newId : Uuid} (hr : db.job r.jobId = some r)
    (h : Accepted command inserted r) (hkey : other.idempotency = command.idempotency)
    (hsome : command.idempotency.isSome) :
    RightAnswer t newId users command other r.jobId db ↔ Recognises r inserted command other := by
  by_cases hc : Checked other
  swap
  · have hunchecked : ∃ fault, enqueue t newId users other db = .error fault ∧
        fault ≠ .idempotencyConflict := enqueue_unchecked hc
    obtain ⟨fault, hfault, hne⟩ := hunchecked
    refine ⟨fun ha => ?_, fun hrec => absurd hrec.1 hc⟩
    unfold RightAnswer at ha
    rw [hfault] at ha
    by_cases hi : Identical command other
    · cases ha.1 hi
    · exact absurd (Except.error.inj (ha.2 hi)) hne
  have hanswer : enqueue t newId users other db = _ :=
    enqueue_stored hc hr (h.idempotency.trans hkey.symm) (hkey ▸ hsome)
  unfold RightAnswer Recognises
  rw [hanswer]
  by_cases hi : Identical command other
  · have hsame := sameEnqueue_of_identical h hi
    constructor
    · intro ha
      refine ⟨hc, fun _ => ?_, fun hnot => absurd hi hnot⟩
      have hok := ha.1 hi
      split at hok
      · rename_i hs
        exact hsame.mp hs
      · cases hok
    · intro hrec
      refine ⟨fun _ => if_pos (hsame.mpr (hrec.2.1 hi)), fun hnot => absurd hi hnot⟩
  · constructor
    · intro ha
      refine ⟨hc, fun hyes => absurd hyes hi, fun _ hk hu hp hd hat => ?_⟩
      have herror := ha.2 hi
      rw [if_pos ⟨h.key.trans hk.symm, h.userId.trans hu.symm, h.priority.trans hp.symm, hd, hat⟩]
        at herror
      cases herror
    · intro hrec
      refine ⟨fun hyes => absurd hyes hi, fun _ => if_neg ?_⟩
      rintro ⟨hk, hu, hp, hd, hat⟩
      exact hrec.2.2 hi (hk.symm.trans h.key) (hu.symm.trans h.userId) (hp.symm.trans h.priority) hd hat

end

/-- **Enqueueing again.**  A command with an idempotency key was accepted, and anything happened since.
A command with the same key gets the right answer exactly if the job is recognised. -/
theorem enqueue_again_iff {t : DbTime} {newId : Uuid} {users : Uuid → Bool} {command other : EnqueueJob}
    {db₀ db₁ db : JobsDb} {result : EnqueueResult} {events : List JobEvent}
    (accepted : enqueue t newId users command db₀ = .ok (result, db₁))
    (keyed : command.idempotency.isSome) (run : Path JobStep db₁ events db)
    (same : other.idempotency = command.idempotency) :
    ∃ r, db.job result.jobId = some r ∧ ∀ t' newId' users',
      (RightAnswer t' newId' users' command other result.jobId db ↔
        Recognises r (!result.replayed) command other) := by
  obtain ⟨r₁, hr₁, hid, haccepted⟩ := accepted_of_enqueue accepted
  obtain ⟨r, hr, hlasting⟩ := lasting_of_run hr₁ run
  rw [← hid]
  refine ⟨r, hr, fun t' newId' users' => ?_⟩
  rw [← hlasting.jobId] at hr ⊢
  exact rightAnswer_iff hr (haccepted.lasting hlasting) same keyed

/-! A job that failed once and waits to be tried again. -/

namespace JobSample

def keyed : EnqueueJob := { command with
  idempotencyScope := some "library"
  idempotencyKey := some "scan-1" }

def policy : RetryPolicy := ⟨5, fun _ _ => 2 * second, by decide⟩

def timeout : JobError := ⟨"library.timeout", [], by decide⟩

def keyedOnce : JobsDb := dbAfter (atTime 0) (.enqueue jobId (fun _ => true) keyed) noJobs

def failed : JobsDb :=
  dbAfter (atTime 9) (.failRetryable fence timeout policy) (dbAfter (atTime 5) claimCall keyedOnce)

/-- The fault of a call. -/
def faultOf {α : Type} : Except JobFault α → Option JobFault
  | .ok _ => none
  | .error fault => some fault

theorem accepted : enqueue (atTime 0) jobId (fun _ => true) keyed noJobs =
    .ok (⟨jobId, false⟩, keyedOnce) := rfl

end JobSample

/-- Before anything happens to it, the job is recognised. -/
theorem enqueue_again_iff_at_once :
    RightAnswer (JobSample.atTime 1) JobSample.jobId (fun _ => true) JobSample.keyed JobSample.keyed
      JobSample.jobId JobSample.keyedOnce := by
  obtain ⟨r, hr, hiff⟩ := enqueue_again_iff JobSample.accepted rfl (.nil _)
    (rfl : JobSample.keyed.idempotency = _)
  cases hr
  refine (hiff _ _ _).mpr ⟨⟨rfl, rfl, rfl, by decide⟩, fun _ => ⟨rfl, fun _ => trivial⟩, fun hnot => ?_⟩
  exact absurd ⟨rfl, rfl, rfl, rfl, rfl⟩ hnot

/-- The identical command is refused once the job waits for its second attempt. -/
theorem retried_conflict :
    JobSample.faultOf (enqueue (JobSample.atTime 10) JobSample.jobId (fun _ => true) JobSample.keyed
      JobSample.failed) = some .idempotencyConflict ∧
    (JobSample.failed.job JobSample.jobId).map JobRow.state = some .retryWait := by
  decide +kernel

end AutPlay.Jobs
