import AutPlay.Discovery.Bulk

/-!
# What a bulk start does

* `requireCandidateAuthorization_eq_ok`, `enqueueManualAttempt_eq_ok`   what the parts of a turn check;
* `Turn`          one turn of the loop of `start`;
* `Agrees`        two states look the same to the turn of one candidate;
* `turn_agrees`   a turn leaves the other candidates as they are;
* `fold_turns`    each planned candidate has its own turn, and nothing else happens to it;
* `started_iff`   when the first start accounts for every planned candidate.
-/

set_option linter.unusedSectionVars false

namespace AutPlay.Discovery

open AutPlay.Sync (Uuid)
open AutPlay.Result (bind_eq_ok)

/-! ## reading the results -/

theorem check_eq_ok {p : Prop} [Decidable p] {code : String} {u : PUnit} :
    check p code = .ok u ↔ p := by
  unfold check
  split
  · rename_i h
    exact ⟨fun _ => h, fun _ => rfl⟩
  · rename_i h
    exact ⟨fun h' => (by cases h'), fun h' => absurd h' h⟩

theorem need_eq_ok {α : Type} {x : Option α} {code : String} {a : α} : need x code = .ok a ↔ x = some a := by
  cases x with
  | none => exact ⟨fun h => (by cases h), fun h => (by cases h)⟩
  | some b =>
    show Except.ok b = Except.ok a ↔ _
    rw [Except.ok.injEq, Option.some.injEq]

theorem ownedCandidate_eq_some {db : DiscoveryDb} {owner : Uuid} {id : CandidateId}
    {c : DiscoveryCandidateRow} :
    ownedCandidate db owner id = some c ↔ db.candidates.get? id = some c ∧ c.userId = owner := by
  unfold ownedCandidate
  rw [Option.filter_eq_some_iff, decide_eq_true_eq]

theorem ownedOperation_eq_some {db : DiscoveryDb} {owner : Uuid} {bulk : BulkId}
    {operation : BulkOperationRow} :
    ownedOperation db owner bulk = some operation ↔
      db.operations.get? bulk = some operation ∧ operation.userId = owner := by
  unfold ownedOperation
  rw [Option.filter_eq_some_iff, decide_eq_true_eq]

section
variable {now : Int} {owner operationId : Uuid} {db db' db₁ : DiscoveryDb} {id : CandidateId}
  {c : DiscoveryCandidateRow} {authorization : Nat × SourceAuthorizationRow}

/-- The candidate names a manual authorization of its artist that holds now. -/
structure Authorized (now : Int) (db : DiscoveryDb) (c : DiscoveryCandidateRow)
    (authorization : Nat × SourceAuthorizationRow) : Prop where
  named : c.sourceAuthorizationId = some authorization.1
  stored : db.authorizations.get? authorization.1 = some authorization.2
  revision : authorization.2.revision = c.sourceAuthorizationRevision
  fits : ∃ artistId, c.canonicalArtistId = some artistId ∧ authorizationFits authorization.2 c.userId artistId
  holds : unrevokedAt now authorization.2

theorem requireCandidateAuthorization_eq_ok :
    requireCandidateAuthorization now db c = .ok authorization ↔ Authorized now db c authorization := by
  unfold requireCandidateAuthorization
  constructor
  · intro h
    obtain ⟨authorizationId, hid, h⟩ := bind_eq_ok.mp h
    obtain ⟨artistId, hartist, h⟩ := bind_eq_ok.mp h
    obtain ⟨row, hrow, h⟩ := bind_eq_ok.mp h
    obtain ⟨⟨⟩, hrevision, h⟩ := bind_eq_ok.mp h
    obtain ⟨⟨⟩, hfits, h⟩ := bind_eq_ok.mp h
    obtain ⟨⟨⟩, hholds, h⟩ := bind_eq_ok.mp h
    cases h
    exact ⟨need_eq_ok.mp hid, need_eq_ok.mp hrow, check_eq_ok.mp hrevision,
      ⟨artistId, need_eq_ok.mp hartist, check_eq_ok.mp hfits⟩, check_eq_ok.mp hholds⟩
  · rintro ⟨hid, hrow, hrevision, ⟨artistId, hartist, hfits⟩, hholds⟩
    refine bind_eq_ok.mpr ⟨_, need_eq_ok.mpr hid, bind_eq_ok.mpr ⟨_, need_eq_ok.mpr hartist, ?_⟩⟩
    refine bind_eq_ok.mpr ⟨_, need_eq_ok.mpr hrow, bind_eq_ok.mpr ⟨⟨⟩, check_eq_ok.mpr hrevision, ?_⟩⟩
    exact bind_eq_ok.mpr ⟨⟨⟩, check_eq_ok.mpr hfits, bind_eq_ok.mpr ⟨⟨⟩, check_eq_ok.mpr hholds, rfl⟩⟩

/-! ## the attempt -/

/-- The attempt that the start makes for a candidate. -/
abbrev startAttempt (owner operationId : Uuid) (id : CandidateId) : AttemptId := .manual owner id operationId

/-- A job of the key is what the start would enqueue. -/
def jobFits (db : DiscoveryDb) (owner operationId : Uuid) (id : CandidateId) : Prop :=
  ∀ e ∈ findIdempotent db.jobs (.acquire owner (startAttempt owner operationId id)),
    sameEnqueue e.2 (discoveryAcquireJob id owner (startAttempt owner operationId id))

theorem enqueue_ok {command : EnqueueJob} {jobs : Dict Nat JobRow}
    (h : ∀ e ∈ findIdempotent jobs command.idempotency, sameEnqueue e.2 command) :
    ∃ r, enqueue now command jobs = .ok r := by
  unfold enqueue
  split
  · exact ⟨_, rfl⟩
  · rename_i jobId stored he
    rw [if_pos (h _ he)]
    exact ⟨_, rfl⟩

/-- The jobs are as they were, or one of the key was added. -/
theorem enqueue_jobs {command : EnqueueJob} {jobs jobs' : Dict Nat JobRow} {jobId : Nat}
    (h : enqueue now command jobs = .ok (jobId, jobs')) :
    jobs' = jobs ∨ jobs'.items = jobs.items ++ [(freshId jobs, command.row now)] := by
  unfold enqueue at h
  split at h
  · cases h
    exact Or.inr (Dict.items_set_of_none (get?_freshId jobs))
  · split at h
    · cases h
      exact Or.inl rfl
    · cases h

theorem enqueue_fits {command : EnqueueJob} {jobs : Dict Nat JobRow} {r : Nat × Dict Nat JobRow}
    (h : enqueue now command jobs = .ok r) :
    ∀ e ∈ findIdempotent jobs command.idempotency, sameEnqueue e.2 command := by
  intro e he
  unfold enqueue at h
  rw [he] at h
  obtain ⟨jobId, stored⟩ := e
  dsimp only at h
  split at h
  · rename_i hsame
    exact hsame
  · cases h

/-- A job of another key changes nothing for this one. -/
theorem findIdempotent_enqueue {command : EnqueueJob} {jobs jobs' : Dict Nat JobRow} {jobId : Nat}
    {key : JobIdempotency} (h : enqueue now command jobs = .ok (jobId, jobs'))
    (hkey : key ≠ command.idempotency) : findIdempotent jobs' key = findIdempotent jobs key := by
  rcases enqueue_jobs h with rfl | hitems
  · rfl
  · unfold findIdempotent
    rw [hitems, List.find?_append]
    have hne : ¬(some command.idempotency = some key) := fun he => hkey (Option.some.inj he).symm
    have hnone : [(freshId jobs, command.row now)].find? (fun e => decide (e.2.idempotency = some key)) = none := by
      refine List.find?_eq_none.mpr ?_
      intro e he
      rw [List.mem_singleton.mp he, decide_eq_true_eq]
      exact hne
    rw [hnone, Option.or_none]

/-- What `_enqueue_manual_attempt` did for a candidate of the owner. -/
structure Queued (now : Int) (operationId : Uuid) (db : DiscoveryDb) (id : CandidateId)
    (c : DiscoveryCandidateRow) (authorization : Nat × SourceAuthorizationRow) (db' : DiscoveryDb)
    (generation : Int) (attempt : AcquisitionAttemptRow) (jobId : Nat) : Prop where
  account : acquisitionGeneration db c.userId = some generation
  idle : ¬inProgress db id
  taken : attemptFor now generation id authorization
    (db.attempts.get? (startAttempt c.userId operationId id)) = .ok attempt
  job : enqueue now (discoveryAcquireJob id c.userId (startAttempt c.userId operationId id)) db.jobs =
    .ok (jobId, db'.jobs)
  result : db' = { db with
    jobs := db'.jobs
    attempts := db.attempts.set (startAttempt c.userId operationId id) { attempt with jobId := some jobId }
    candidates := db.candidates.set id
      (requeued now c (startAttempt c.userId operationId id) authorization jobId) }

theorem enqueueManualAttempt_eq_ok
    (h : enqueueManualAttempt now id c authorization operationId db = .ok db') :
    ∃ generation attempt jobId, Queued now operationId db id c authorization db' generation attempt jobId := by
  unfold enqueueManualAttempt at h
  obtain ⟨generation, hgeneration, h⟩ := bind_eq_ok.mp h
  obtain ⟨⟨⟩, hidle, h⟩ := bind_eq_ok.mp h
  obtain ⟨attempt, hattempt, h⟩ := bind_eq_ok.mp h
  obtain ⟨⟨jobId, jobs⟩, hjob, h⟩ := bind_eq_ok.mp h
  obtain ⟨⟨⟩, hsame, h⟩ := bind_eq_ok.mp h
  cases h
  exact ⟨generation, attempt, jobId, need_eq_ok.mp hgeneration, check_eq_ok.mp hidle, hattempt, hjob, rfl⟩

/-- An attempt that is not there yet is made. -/
theorem enqueueManualAttempt_ok {generation : Int} (haccount : acquisitionGeneration db c.userId = some generation)
    (hidle : ¬inProgress db id) (hnew : db.attempts.get? (startAttempt c.userId operationId id) = none)
    (hjob : jobFits db c.userId operationId id) :
    ∃ db', enqueueManualAttempt now id c authorization operationId db = .ok db' := by
  obtain ⟨⟨jobId, jobs⟩, hr⟩ : ∃ r, enqueue now (discoveryAcquireJob id c.userId (startAttempt c.userId operationId id))
      db.jobs = .ok r := enqueue_ok hjob
  refine ⟨{ db with
    jobs := jobs
    attempts := db.attempts.set (startAttempt c.userId operationId id)
      { newAttempt now generation id authorization with jobId := some jobId }
    candidates := db.candidates.set id
      (requeued now c (startAttempt c.userId operationId id) authorization jobId) }, ?_⟩
  refine bind_eq_ok.mpr ⟨generation, need_eq_ok.mpr haccount, ?_⟩
  refine bind_eq_ok.mpr ⟨⟨⟩, check_eq_ok.mpr hidle, ?_⟩
  refine bind_eq_ok.mpr ⟨newAttempt now generation id authorization, ?_, ?_⟩
  · rw [hnew]
    rfl
  · exact bind_eq_ok.mpr ⟨⟨jobId, jobs⟩, hr, bind_eq_ok.mpr ⟨⟨⟩, check_eq_ok.mpr (Or.inl rfl), rfl⟩⟩

theorem attemptFor_candidate {generation : Int} {stored : Option AcquisitionAttemptRow}
    {attempt : AcquisitionAttemptRow} (h : attemptFor now generation id authorization stored = .ok attempt) :
    attempt.candidateId = id ∧ ∀ old ∈ stored, old.candidateId = id := by
  unfold attemptFor at h
  split at h
  · cases h
    exact ⟨rfl, fun _ ho => (by cases ho)⟩
  · rename_i old
    obtain ⟨⟨⟩, hfits, h⟩ := bind_eq_ok.mp h
    cases h
    have hsame := (check_eq_ok.mp hfits).1
    refine ⟨hsame, fun o ho => ?_⟩
    cases ho
    exact hsame

/-! ## one turn -/

/-- The candidate is selectable, and nothing was asked of it or the last request was cancelled. -/
def wanted (c : DiscoveryCandidateRow) : Prop :=
  c.disposition ∈ [Disposition.selectable, .selected] ∧
    c.acquisitionState ∈ [AcquisitionState.notRequested, .cancelled]

instance (c : DiscoveryCandidateRow) : Decidable (wanted c) := inferInstanceAs (Decidable (_ ∧ _))

/-- The artist of the candidate is eligible still. -/
def artistEligible (db : DiscoveryDb) (c : DiscoveryCandidateRow) : Prop :=
  ∃ artistId ∈ c.canonicalArtistId, artistReachable db c.userId artistId

/-- **One turn** of the loop of `start`. -/
inductive Turn (now : Int) (owner operationId : Uuid) (db : DiscoveryDb) (id : CandidateId) :
    DiscoveryDb → Prop
  | counted (c : DiscoveryCandidateRow) (authorization : Nat × SourceAuthorizationRow)
      (owned : ownedCandidate db owner id = some c) (authorized : Authorized now db c authorization)
      (other : ¬wanted c) : Turn now owner operationId db id db
  | queued (c : DiscoveryCandidateRow) (authorization : Nat × SourceAuthorizationRow) (db' : DiscoveryDb)
      (generation : Int) (attempt : AcquisitionAttemptRow) (jobId : Nat)
      (owned : ownedCandidate db owner id = some c) (authorized : Authorized now db c authorization)
      (isWanted : wanted c) (queued : Queued now operationId db id c authorization db' generation attempt jobId) :
      Turn now owner operationId db id db'

theorem startCandidate_ok {tally tally' : Tally}
    (h : startCandidate now owner operationId (tally, db) id = .ok (tally', db')) :
    tally'.total = tally.total + 1 ∧ Turn now owner operationId db id db' := by
  unfold startCandidate at h
  obtain ⟨c, howned, h⟩ := bind_eq_ok.mp h
  obtain ⟨authorization, hauthorized, h⟩ := bind_eq_ok.mp h
  obtain ⟨⟨⟩, hartist, h⟩ := bind_eq_ok.mp h
  replace howned := need_eq_ok.mp howned
  replace hauthorized := requireCandidateAuthorization_eq_ok.mp hauthorized
  have counted (hother : ¬wanted c) : Turn now owner operationId db id db :=
    .counted c authorization howned hauthorized hother
  split at h
  · rename_i hready
    cases h
    refine ⟨?_, counted ?_⟩
    · simp only [Tally.total]
      omega
    · rintro ⟨-, hstate⟩
      rw [hready] at hstate
      exact absurd hstate (by decide)
  split at h
  · rename_i hdisposition
    cases h
    refine ⟨?_, counted fun hwanted => hdisposition hwanted.1⟩
    simp only [Tally.total]
    omega
  split at h
  · rename_i hstate
    cases h
    refine ⟨?_, counted ?_⟩
    · simp only [Tally.total]
      omega
    · rintro ⟨-, hwanted⟩
      revert hstate hwanted
      generalize c.acquisitionState = state
      revert state
      decide
  split at h
  · rename_i hstate
    cases h
    refine ⟨?_, counted fun hwanted => hstate hwanted.2⟩
    simp only [Tally.total]
    omega
  · rename_i hdisposition _ hstate
    obtain ⟨authorization', hauthorized', h⟩ := bind_eq_ok.mp h
    obtain ⟨db₁, hdb, h⟩ := bind_eq_ok.mp h
    cases h
    obtain ⟨generation, attempt, jobId, hqueued⟩ := enqueueManualAttempt_eq_ok hdb
    refine ⟨?_, .queued c authorization' db' generation attempt jobId howned
      (requireCandidateAuthorization_eq_ok.mp hauthorized')
      ⟨not_not.mp hdisposition, not_not.mp hstate⟩ hqueued⟩
    simp only [Tally.total]
    omega

/-- **What the turn of a candidate needs**, for an attempt that is new. -/
structure Startable (now : Int) (owner operationId : Uuid) (db : DiscoveryDb) (id : CandidateId)
    (c : DiscoveryCandidateRow) : Prop where
  authorized : ∃ authorization, Authorized now db c authorization
  account : wanted c → ∃ generation, acquisitionGeneration db owner = some generation
  idle : wanted c → ¬inProgress db id
  fresh : wanted c → db.attempts.get? (startAttempt owner operationId id) = none
  job : wanted c → jobFits db owner operationId id

theorem startCandidate_of_startable (howned : ownedCandidate db owner id = some c)
    (hartist : artistEligible db c) (h : Startable now owner operationId db id c) (tally : Tally) :
    ∃ s, startCandidate now owner operationId (tally, db) id = .ok s := by
  obtain ⟨authorization, hauthorized⟩ := h.authorized
  replace hauthorized := requireCandidateAuthorization_eq_ok.mpr hauthorized
  have huser := (ownedCandidate_eq_some.mp howned).2
  have hstart : startCandidate now owner operationId (tally, db) id =
      (if c.acquisitionState = .ready then pure ({ tally with ready := tally.ready + 1 }, db)
      else if c.disposition ∉ [Disposition.selectable, .selected] then
        pure ({ tally with failed := tally.failed + 1 }, db)
      else if c.acquisitionState ∈ underWay then pure ({ tally with queued := tally.queued + 1 }, db)
      else if c.acquisitionState ∉ [AcquisitionState.notRequested, .cancelled] then
        pure ({ tally with failed := tally.failed + 1 }, db)
      else do
        let authorization ← requireCandidateAuthorization now db c
        let db ← enqueueManualAttempt now id c authorization operationId db
        pure ({ tally with queued := tally.queued + 1 }, db)) := by
    have hneed : need (ownedCandidate db owner id) "discovery_target_not_found" = .ok c := by
      rw [howned]
      rfl
    have hcheck : requireCandidateArtist db c = .ok ⟨⟩ := check_eq_ok.mpr hartist
    unfold startCandidate
    dsimp only
    rw [hneed, Result.ok_bind, hauthorized, Result.ok_bind, hcheck, Result.ok_bind]
  rw [hstart]
  split
  · exact ⟨_, rfl⟩
  split
  · exact ⟨_, rfl⟩
  split
  · exact ⟨_, rfl⟩
  split
  · exact ⟨_, rfl⟩
  · rename_i hdisposition _ hstate
    have hwanted : wanted c := ⟨not_not.mp hdisposition, not_not.mp hstate⟩
    obtain ⟨generation, hgeneration⟩ := h.account hwanted
    have hfresh := h.fresh hwanted
    have hjob := h.job hwanted
    subst huser
    obtain ⟨db', hdb⟩ : ∃ db', enqueueManualAttempt now id c authorization operationId db = .ok db' :=
      enqueueManualAttempt_ok hgeneration (h.idle hwanted) hfresh hjob
    exact ⟨_, bind_eq_ok.mpr ⟨authorization, hauthorized, bind_eq_ok.mpr ⟨db', hdb, rfl⟩⟩⟩

/-! ## the other candidates -/

/-- **Two states look the same** to the turn of one candidate. -/
structure Agrees (owner operationId : Uuid) (id : CandidateId) (db db' : DiscoveryDb) : Prop where
  candidate : db'.candidates.get? id = db.candidates.get? id
  authorizations : db'.authorizations = db.authorizations
  accounts : db'.accounts = db.accounts
  artists : ∀ userId artistId, artistReachable db' userId artistId ↔ artistReachable db userId artistId
  progress : inProgress db' id ↔ inProgress db id
  attempt : db'.attempts.get? (startAttempt owner operationId id) =
    db.attempts.get? (startAttempt owner operationId id)
  job : findIdempotent db'.jobs (.acquire owner (startAttempt owner operationId id)) =
    findIdempotent db.jobs (.acquire owner (startAttempt owner operationId id))

theorem Agrees.refl : Agrees owner operationId id db db :=
  ⟨rfl, rfl, rfl, fun _ _ => Iff.rfl, Iff.rfl, rfl, rfl⟩

theorem Agrees.trans (h : Agrees owner operationId id db db₁) (h' : Agrees owner operationId id db₁ db') :
    Agrees owner operationId id db db' :=
  ⟨h'.candidate.trans h.candidate, h'.authorizations.trans h.authorizations, h'.accounts.trans h.accounts,
    fun u a => (h'.artists u a).trans (h.artists u a), h'.progress.trans h.progress,
    h'.attempt.trans h.attempt, h'.job.trans h.job⟩

theorem Agrees.owned (h : Agrees owner operationId id db db') :
    ownedCandidate db' owner id = ownedCandidate db owner id := by
  unfold ownedCandidate
  rw [h.candidate]

theorem Authorized.of_agrees (h : Agrees owner operationId id db db')
    (ha : Authorized now db' c authorization) : Authorized now db c authorization :=
  { ha with stored := by rw [← h.authorizations]; exact ha.stored }

theorem Startable.of_agrees (h : Agrees owner operationId id db db')
    (hs : Startable now owner operationId db id c) : Startable now owner operationId db' id c := by
  obtain ⟨authorization, ha⟩ := hs.authorized
  refine ⟨⟨authorization, ?_⟩, fun hw => ?_, fun hw => ?_, fun hw => ?_, fun hw => ?_⟩
  · exact { ha with stored := by rw [h.authorizations]; exact ha.stored }
  · unfold acquisitionGeneration
    rw [h.accounts]
    exact hs.account hw
  · rw [h.progress]
    exact hs.idle hw
  · rw [h.attempt]
    exact hs.fresh hw
  · unfold jobFits
    rw [h.job]
    exact hs.job hw

theorem artistEligible.of_agrees (h : Agrees owner operationId id db db') (ha : artistEligible db c) :
    artistEligible db' c := by
  obtain ⟨artistId, hmem, hreachable⟩ := ha
  exact ⟨artistId, hmem, (h.artists _ _).mpr hreachable⟩

/-- Putting a candidate back into the queue holds no entry of the library back that was not. -/
theorem heldBack_requeued {attemptId : AttemptId} {jobId : Nat} {libraryEntryId : Uuid}
    (hc : db.candidates.get? id = some c) (hready : c.acquisitionState ≠ .ready)
    (hcandidates : db'.candidates = db.candidates.set id (requeued now c attemptId authorization jobId)) :
    heldBack db' libraryEntryId ↔ heldBack db libraryEntryId := by
  constructor
  · rintro ⟨⟨k, row⟩, hmem, hentry, hstate⟩
    rw [hcandidates, Dict.mem_set] at hmem
    split at hmem
    · rw [hmem] at hentry
      exact ⟨(id, c), Dict.get?_eq_some.mp hc, hentry, hready⟩
    · exact ⟨(k, row), hmem, hentry, hstate⟩
  · rintro ⟨⟨k, row⟩, hmem, hentry, hstate⟩
    by_cases hk : k = id
    · subst hk
      have hrow : row = c := Dict.eq_of_mem hmem (Dict.get?_eq_some.mp hc)
      subst hrow
      refine ⟨(k, requeued now row attemptId authorization jobId), ?_, hentry, AcquisitionState.noConfusion⟩
      rw [hcandidates, Dict.mem_set, if_pos rfl]
    · refine ⟨(k, row), ?_, hentry, hstate⟩
      rw [hcandidates, Dict.mem_set, if_neg hk]
      exact hmem

theorem artistReachable_congr (hcatalog : db'.catalog = db.catalog)
    (hheld : ∀ entry, heldBack db' entry ↔ heldBack db entry) (userId artistId : Uuid) :
    artistReachable db' userId artistId ↔ artistReachable db userId artistId := by
  unfold artistReachable creditedOn
  simp only [hcatalog, hheld]

/-- An attempt of another candidate is not one of this one. -/
theorem inProgress_set {other : CandidateId} {attemptId : AttemptId} {attempt : AcquisitionAttemptRow}
    (hattempts : db'.attempts = db.attempts.set attemptId attempt) (hother : attempt.candidateId ≠ other)
    (hold : ∀ old ∈ db.attempts.get? attemptId, old.candidateId ≠ other) :
    inProgress db' other ↔ inProgress db other := by
  constructor
  · rintro ⟨⟨k, row⟩, hmem, hcandidate, hstate⟩
    rw [hattempts, Dict.mem_set] at hmem
    split at hmem
    · rw [hmem] at hcandidate
      exact absurd hcandidate hother
    · exact ⟨(k, row), hmem, hcandidate, hstate⟩
  · rintro ⟨⟨k, row⟩, hmem, hcandidate, hstate⟩
    refine ⟨(k, row), ?_, hcandidate, hstate⟩
    rw [hattempts, Dict.mem_set, if_neg]
    · exact hmem
    · intro hk
      subst hk
      exact hold row (Dict.get?_eq_some.mpr hmem) hcandidate

/-- **A turn leaves the other candidates as they are.** -/
theorem turn_agrees {other : CandidateId} (h : Turn now owner operationId db id db') (hne : other ≠ id) :
    Agrees owner operationId other db db' := by
  cases h with
  | counted => exact .refl
  | queued c authorization _ generation attempt jobId owned authorized isWanted queued =>
    obtain ⟨hc, huser⟩ := ownedCandidate_eq_some.mp owned
    subst huser
    have hready : c.acquisitionState ≠ .ready := by
      intro hr
      have hstate := isWanted.2
      rw [hr] at hstate
      exact absurd hstate (by decide)
    have hattempt := attemptFor_candidate queued.taken
    have hcandidates : db'.candidates = db.candidates.set id
        (requeued now c (startAttempt c.userId operationId id) authorization jobId) := by
      rw [queued.result]
    have hattempts : db'.attempts = db.attempts.set (startAttempt c.userId operationId id)
        { attempt with jobId := some jobId } := by
      rw [queued.result]
    have hkey : startAttempt c.userId operationId other ≠ startAttempt c.userId operationId id := by
      intro he
      injection he with _ he
      exact hne he
    refine ⟨?_, ?_, ?_, ?_, ?_, ?_, ?_⟩
    · rw [hcandidates, Dict.get?_set_ne _ _ hne]
    · rw [queued.result]
    · rw [queued.result]
    · exact artistReachable_congr (by rw [queued.result]) fun _ => heldBack_requeued hc hready hcandidates
    · refine inProgress_set hattempts ?_ fun old ho => ?_
      · show attempt.candidateId ≠ other
        rw [hattempt.1]
        exact hne.symm
      · rw [hattempt.2 old ho]
        exact hne.symm
    · rw [hattempts, Dict.get?_set_ne _ _ hkey]
    · refine findIdempotent_enqueue queued.job ?_
      intro he
      injection he with _ he
      exact hkey he

/-! ## all turns -/

/-- Only the candidates `ids` and their attempts of the operation changed. -/
structure Frame (owner operationId : Uuid) (ids : List CandidateId) (db db' : DiscoveryDb) : Prop where
  provider : db'.provider = db.provider
  operations : db'.operations = db.operations
  items : db'.items = db.items
  authorizations : db'.authorizations = db.authorizations
  candidates : ∀ other, other ∉ ids → db'.candidates.get? other = db.candidates.get? other
  attempts : ∀ attemptId, (∀ id ∈ ids, attemptId ≠ startAttempt owner operationId id) →
    db'.attempts.get? attemptId = db.attempts.get? attemptId

theorem turn_frame (h : Turn now owner operationId db id db') : Frame owner operationId [id] db db' := by
  cases h with
  | counted => exact ⟨rfl, rfl, rfl, rfl, fun _ _ => rfl, fun _ _ => rfl⟩
  | queued c authorization _ generation attempt jobId owned authorized isWanted queued =>
    have huser := (ownedCandidate_eq_some.mp owned).2
    subst huser
    refine ⟨?_, ?_, ?_, ?_, fun other ho => ?_, fun attemptId ha => ?_⟩
    · rw [queued.result]
    · rw [queued.result]
    · rw [queued.result]
    · rw [queued.result]
    · rw [queued.result]
      exact Dict.get?_set_ne _ _ (List.ne_of_not_mem_cons ho)
    · rw [queued.result]
      exact Dict.get?_set_ne _ _ (ha id List.mem_cons_self)

/-- **Each planned candidate has its own turn**: before it and after it nothing that the turn reads or
writes of the candidate changes. -/
structure Turns (now : Int) (owner operationId : Uuid) (ids : List CandidateId) (db db' : DiscoveryDb) :
    Prop where
  frame : Frame owner operationId ids db db'
  turn : ∀ id ∈ ids, ∃ before after, Agrees owner operationId id db before ∧
    Turn now owner operationId before id after ∧ Agrees owner operationId id after db'
  agrees : ∀ other, other ∉ ids → Agrees owner operationId other db db'

theorem fold_turns {ids : List CandidateId} {tally tally' : Tally} (hnodup : ids.Nodup)
    (h : ids.foldlM (startCandidate now owner operationId) (tally, db) = .ok (tally', db')) :
    tally'.total = tally.total + ids.length ∧ Turns now owner operationId ids db db' := by
  induction ids generalizing tally db with
  | nil =>
    cases h
    exact ⟨rfl, ⟨rfl, rfl, rfl, rfl, fun _ _ => rfl, fun _ _ => rfl⟩, fun _ hm => absurd hm List.not_mem_nil,
      fun _ _ => .refl⟩
  | cons id ids ih =>
    rw [List.foldlM_cons] at h
    obtain ⟨⟨tally₁, db₁⟩, hfirst, h⟩ := bind_eq_ok.mp h
    obtain ⟨hid, hnodup⟩ := List.nodup_cons.mp hnodup
    obtain ⟨htally, hturn⟩ := startCandidate_ok hfirst
    obtain ⟨htotal, hrest⟩ := ih hnodup h
    have hframe := turn_frame hturn
    refine ⟨?_, ⟨?_, ?_, ?_, ?_, fun other ho => ?_, fun attemptId ha => ?_⟩, fun other hm => ?_,
      fun other ho => ?_⟩
    · rw [htotal, htally, List.length_cons]
      omega
    · rw [hrest.frame.provider, hframe.provider]
    · rw [hrest.frame.operations, hframe.operations]
    · rw [hrest.frame.items, hframe.items]
    · rw [hrest.frame.authorizations, hframe.authorizations]
    · rw [hrest.frame.candidates other fun hm => ho (List.mem_cons_of_mem _ hm)]
      refine hframe.candidates other fun hm => ho ?_
      rw [List.mem_singleton.mp hm]
      exact List.mem_cons_self
    · rw [hrest.frame.attempts attemptId fun id hm => ha id (List.mem_cons_of_mem _ hm)]
      refine hframe.attempts attemptId fun id' hm => ?_
      rw [List.mem_singleton.mp hm]
      exact ha id List.mem_cons_self
    · rcases List.mem_cons.mp hm with rfl | hm
      · exact ⟨db, db₁, .refl, hturn, hrest.agrees other hid⟩
      · have hne : other ≠ id := fun he => hid (he ▸ hm)
        obtain ⟨before, after, hbefore, hstep, hafter⟩ := hrest.turn other hm
        exact ⟨before, after, (turn_agrees hturn hne).trans hbefore, hstep, hafter⟩
    · have hne : other ≠ id := fun he => ho (he ▸ List.mem_cons_self)
      exact (turn_agrees hturn hne).trans (hrest.agrees other fun hm => ho (List.mem_cons_of_mem _ hm))

/-- Candidates that can start one by one can start together. -/
theorem fold_of_startable {ids : List CandidateId} (hnodup : ids.Nodup)
    (h : ∀ id ∈ ids, ∃ c, ownedCandidate db owner id = some c ∧ artistEligible db c ∧
      Startable now owner operationId db id c) (tally : Tally) :
    ∃ s, ids.foldlM (startCandidate now owner operationId) (tally, db) = .ok s := by
  induction ids generalizing tally db with
  | nil => exact ⟨_, rfl⟩
  | cons id ids ih =>
    obtain ⟨hid, hnodup⟩ := List.nodup_cons.mp hnodup
    obtain ⟨c, howned, hartist, hstartable⟩ := h id List.mem_cons_self
    obtain ⟨⟨tally₁, db₁⟩, hfirst⟩ := startCandidate_of_startable howned hartist hstartable tally
    have hturn := (startCandidate_ok hfirst).2
    have hrest : ∀ other ∈ ids, ∃ c, ownedCandidate db₁ owner other = some c ∧ artistEligible db₁ c ∧
        Startable now owner operationId db₁ other c := by
      intro other hm
      obtain ⟨c', howned', hartist', hstartable'⟩ := h other (List.mem_cons_of_mem _ hm)
      have hagrees := turn_agrees hturn fun he => hid (he ▸ hm)
      exact ⟨c', hagrees.owned.trans howned', hartist'.of_agrees hagrees, hstartable'.of_agrees hagrees⟩
    obtain ⟨s, hs⟩ := ih hnodup hrest tally₁
    exact ⟨s, by rw [List.foldlM_cons]; exact bind_eq_ok.mpr ⟨_, hfirst, hs⟩⟩

/-- A candidate that is not wanted stays as it is. -/
theorem Turns.other {ids : List CandidateId} (h : Turns now owner operationId ids db db') (hm : id ∈ ids)
    (howned : ownedCandidate db owner id = some c) (hother : ¬wanted c) :
    Agrees owner operationId id db db' := by
  obtain ⟨before, after, hbefore, hturn, hafter⟩ := h.turn id hm
  cases hturn with
  | counted => exact hbefore.trans hafter
  | queued c' authorization _ generation attempt jobId owned authorized isWanted queued =>
    rw [hbefore.owned, howned] at owned
    cases owned
    exact absurd isWanted hother

/-- What the start did for a wanted candidate. -/
structure Attempted (now : Int) (owner operationId : Uuid) (db : DiscoveryDb) (id : CandidateId)
    (c : DiscoveryCandidateRow) (db' : DiscoveryDb) (authorization : Nat × SourceAuthorizationRow)
    (generation : Int) (attempt : AcquisitionAttemptRow) (jobId : Nat) : Prop where
  authorized : Authorized now db c authorization
  account : acquisitionGeneration db owner = some generation
  idle : ¬inProgress db id
  job : jobFits db owner operationId id
  taken : attemptFor now generation id authorization
    (db.attempts.get? (startAttempt owner operationId id)) = .ok attempt
  stored : db'.attempts.get? (startAttempt owner operationId id) = some { attempt with jobId := some jobId }

theorem Turns.attempted {ids : List CandidateId} (h : Turns now owner operationId ids db db') (hm : id ∈ ids)
    (howned : ownedCandidate db owner id = some c) (hwanted : wanted c) :
    ∃ authorization generation attempt jobId,
      Attempted now owner operationId db id c db' authorization generation attempt jobId := by
  obtain ⟨before, after, hbefore, hturn, hafter⟩ := h.turn id hm
  cases hturn with
  | counted c' authorization owned authorized other =>
    rw [hbefore.owned, howned] at owned
    cases owned
    exact absurd hwanted other
  | queued c' authorization _ generation attempt jobId owned authorized isWanted queued =>
    rw [hbefore.owned, howned] at owned
    cases owned
    have huser := (ownedCandidate_eq_some.mp howned).2
    subst huser
    have haccount := queued.account
    unfold acquisitionGeneration at haccount
    rw [hbefore.accounts] at haccount
    have hjob := enqueue_fits queued.job
    have htaken := queued.taken
    rw [hbefore.attempt] at htaken
    refine ⟨authorization, generation, attempt, jobId, authorized.of_agrees hbefore, haccount, ?_, ?_, htaken, ?_⟩
    · rw [← hbefore.progress]
      exact queued.idle
    · unfold jobFits
      rw [← hbefore.job]
      exact hjob
    · rw [hafter.attempt, queued.result]
      exact Dict.get?_set_self _ _ _

/-- A new attempt is the one of a wanted candidate. -/
theorem Turns.new {ids : List CandidateId} (h : Turns now owner operationId ids db db')
    (howned : ∀ id ∈ ids, ∃ c, ownedCandidate db owner id = some c) {attemptId : AttemptId}
    {attempt : AcquisitionAttemptRow} (hold : db.attempts.get? attemptId = none)
    (hnew : db'.attempts.get? attemptId = some attempt) :
    attemptId = startAttempt owner operationId attempt.candidateId ∧ attempt.candidateId ∈ ids ∧
      ∃ c, ownedCandidate db owner attempt.candidateId = some c ∧ wanted c := by
  by_cases hid : ∃ id ∈ ids, attemptId = startAttempt owner operationId id
  · obtain ⟨id, hm, rfl⟩ := hid
    obtain ⟨c, hc⟩ := howned id hm
    by_cases hw : wanted c
    · obtain ⟨authorization, generation, attempt', jobId, ha⟩ := h.attempted hm hc hw
      rw [ha.stored] at hnew
      cases hnew
      have hcandidate : attempt'.candidateId = id := (attemptFor_candidate ha.taken).1
      show _ = startAttempt owner operationId attempt'.candidateId ∧ attempt'.candidateId ∈ ids ∧
        ∃ c, ownedCandidate db owner attempt'.candidateId = some c ∧ _
      rw [hcandidate]
      exact ⟨rfl, hm, c, hc, hw⟩
    · rw [(h.other hm hc hw).attempt, hold] at hnew
      cases hnew
  · rw [h.frame.attempts attemptId fun id hm he => hid ⟨id, hm, he⟩, hold] at hnew
    cases hnew

/-! ## the start -/

theorem plannedCandidates_nodup (db : DiscoveryDb) (bulk : BulkId) : (plannedCandidates db bulk).Nodup := by
  unfold plannedCandidates
  have hperm := (List.perm_insertionSort (fun e e' : (BulkId × CandidateId) × Nat => e.2 ≤ e'.2)
    (db.items.items.filter fun e => e.1.1 = bulk)).map fun e => e.1.2
  rw [hperm.nodup_iff]
  have hkeys : ((db.items.items.filter fun e => e.1.1 = bulk).map Prod.fst).Nodup :=
    db.items.nodup.sublist (List.filter_sublist.map _)
  have hpairs : ((db.items.items.filter fun e => e.1.1 = bulk).map fun e => e.1.2).map (Prod.mk bulk) =
      (db.items.items.filter fun e => e.1.1 = bulk).map Prod.fst := by
    rw [List.map_map]
    refine List.map_congr_left fun e he => ?_
    have hbulk : e.1.1 = bulk := of_decide_eq_true (List.mem_filter.mp he).2
    show (bulk, e.1.2) = e.1
    rw [← hbulk]
  rw [← hpairs] at hkeys
  exact hkeys.of_map

end

section
variable {now : Int} {owner operationId : Uuid} {db db' : DiscoveryDb} {bulk : BulkId}
  {operation : BulkOperationRow}

/-- **An operation that was previewed and not started**, while its provider and artists are eligible. -/
structure Planned (db : DiscoveryDb) (owner : Uuid) (bulk : BulkId) (operation : BulkOperationRow) : Prop where
  stored : ownedOperation db owner bulk = some operation
  unstarted : operation.startOperationId = none
  count : (plannedCandidates db bulk).length = operation.plannedCandidateCount
  owned : ∀ id ∈ plannedCandidates db bulk, ∃ c, ownedCandidate db owner id = some c
  provider : providerAvailable db
  artists : ∀ id ∈ plannedCandidates db bulk, ∀ c ∈ ownedCandidate db owner id, artistEligible db c

/-- **Exactly one new attempt** for the candidate, under a manual authorization that holds now. -/
def newlyAttempted (now : Int) (owner : Uuid) (db db' : DiscoveryDb) (id : CandidateId)
    (c : DiscoveryCandidateRow) : Prop :=
  ∃ attemptId attempt authorization artistId, db.attempts.get? attemptId = none ∧
    db'.attempts.get? attemptId = some attempt ∧ attempt.candidateId = id ∧ attempt.origin = .manual ∧
    attempt.state = .queued ∧
    db'.authorizations.get? attempt.sourceAuthorizationId = some authorization ∧
    authorization.revision = attempt.sourceAuthorizationRevision ∧ c.canonicalArtistId = some artistId ∧
    authorizationFits authorization owner artistId ∧ unrevokedAt now authorization ∧
    ∀ attemptId' attempt', db.attempts.get? attemptId' = none → db'.attempts.get? attemptId' = some attempt' →
      attempt'.candidateId = id → attemptId' = attemptId

/-- **The first start accounts for every planned candidate.** -/
def startedFully (now : Int) (owner : Uuid) (bulk : BulkId) (operationId : Uuid) (planned : Nat)
    (db : DiscoveryDb) : Prop :=
  ∃ result db', start now owner bulk operationId db = .ok (result, db') ∧ result.replayed = false ∧
    result.queuedCount + result.readyCount + result.failedCount = planned ∧
    (∀ id ∈ plannedCandidates db bulk, ∀ c ∈ ownedCandidate db owner id, wanted c →
      newlyAttempted now owner db db' id c) ∧
    (∀ id, (id ∈ plannedCandidates db bulk → ∀ c ∈ ownedCandidate db owner id, ¬wanted c) →
      db'.candidates.get? id = db.candidates.get? id ∧
        ∀ attemptId attempt, db.attempts.get? attemptId = none → db'.attempts.get? attemptId = some attempt →
          attempt.candidateId ≠ id) ∧
    (∀ later, start later owner bulk operationId db' = .ok ({ result with replayed := true }, db')) ∧
    ∀ later other, other ≠ operationId →
      start later owner bulk other db' = .error (.bulk "operation_conflict")

theorem requireProvider_ok (h : providerAvailable db) : requireProvider db = .ok ⟨⟩ := check_eq_ok.mpr h

/-- An operation that was not started, is started first. -/
theorem start_planned (h : Planned db owner bulk operation) :
    start now owner bulk operationId db = startFirst now owner bulk operationId operation db := by
  have hneed : need (ownedOperation db owner bulk) "discovery_target_not_found" = .ok operation := by
    rw [h.stored]
    rfl
  have hcount : check ((plannedCandidates db bulk).length = operation.plannedCandidateCount)
      "discovery_bulk_preview_invalid" = .ok ⟨⟩ := check_eq_ok.mpr h.count
  unfold start
  rw [requireProvider_ok h.provider, Result.ok_bind, hneed, Result.ok_bind, hcount, Result.ok_bind, h.unstarted]

/-- The tables with the start bound to the operation. -/
abbrev bound (now : Int) (bulk : BulkId) (operationId : Uuid) (operation : BulkOperationRow) (db : DiscoveryDb) :
    DiscoveryDb :=
  { db with operations := db.operations.set bulk (operation.begun now bulk operationId) }

/-- The tables with the counts of the start. -/
abbrev closed (now : Int) (bulk : BulkId) (operationId : Uuid) (operation : BulkOperationRow) (tally : Tally)
    (db : DiscoveryDb) : DiscoveryDb :=
  { db with operations := db.operations.set bulk ((operation.begun now bulk operationId).counted now tally) }

theorem startFirst_eq_ok {r : BulkStartResult × DiscoveryDb} :
    startFirst now owner bulk operationId operation db = .ok r ↔
      startUnused db owner bulk operationId ∧ ∃ tally db₁,
        (plannedCandidates db bulk).foldlM (startCandidate now owner operationId)
          (⟨0, 0, 0⟩, bound now bulk operationId operation db) = .ok (tally, db₁) ∧
        r = (startResult bulk ((operation.begun now bulk operationId).counted now tally) false,
          closed now bulk operationId operation tally db₁) := by
  unfold startFirst
  dsimp only
  split
  · rename_i hunused
    constructor
    · intro h
      obtain ⟨⟨tally, db₁⟩, hfold, h⟩ := bind_eq_ok.mp h
      cases h
      exact ⟨hunused, tally, db₁, hfold, rfl⟩
    · rintro ⟨-, tally, db₁, hfold, rfl⟩
      exact bind_eq_ok.mpr ⟨_, hfold, rfl⟩
  · rename_i hused
    exact ⟨fun h => (by cases h), fun h => absurd h.1 hused⟩

/-- Binding the start changes nothing that a turn looks at. -/
theorem bound_agrees (id : CandidateId) :
    Agrees owner operationId id db (bound now bulk operationId operation db) :=
  ⟨rfl, rfl, rfl, fun _ _ => Iff.rfl, Iff.rfl, rfl, rfl⟩

/-- What a started operation answers. -/
theorem start_again {operation' : BulkOperationRow} {later : Int} {other : Uuid}
    (hprovider : providerAvailable db) (hstored : ownedOperation db owner bulk = some operation')
    (hcount : (plannedCandidates db bulk).length = operation'.plannedCandidateCount)
    (hstarted : operation'.startOperationId = some operationId)
    (hhash : operation'.startRequestSha256 = some (.bulkStart bulk operationId)) :
    start later owner bulk other db =
      if other = operationId then .ok (startResult bulk operation' true, db)
      else .error (.bulk "operation_conflict") := by
  have hneed : need (ownedOperation db owner bulk) "discovery_target_not_found" = .ok operation' := by
    rw [hstored]
    rfl
  have hcheck : check ((plannedCandidates db bulk).length = operation'.plannedCandidateCount)
      "discovery_bulk_preview_invalid" = .ok ⟨⟩ := check_eq_ok.mpr hcount
  unfold start
  rw [requireProvider_ok hprovider, Result.ok_bind, hneed, Result.ok_bind, hcheck, Result.ok_bind, hstarted]
  dsimp only
  unfold check
  by_cases ho : other = operationId
  · subst ho
    rw [if_pos ⟨rfl, hhash⟩, if_pos rfl]
    rfl
  · rw [if_neg fun hsame => ho hsame.1.symm, if_neg ho]
    rfl

/-- **The start of a planned operation accounts for every candidate exactly when** no other operation of
the owner began with its identifier, every planned candidate names a manual authorization that holds, and
nothing stands where the attempts of the wanted ones go. -/
theorem started_iff (h : Planned db owner bulk operation) :
    startedFully now owner bulk operationId operation.plannedCandidateCount db ↔
      startUnused db owner bulk operationId ∧
        ∀ id ∈ plannedCandidates db bulk, ∀ c ∈ ownedCandidate db owner id,
          Startable now owner operationId db id c := by
  have hnodup := plannedCandidates_nodup db bulk
  have hagrees : ∀ id, Agrees owner operationId id db (bound now bulk operationId operation db) := bound_agrees
  constructor
  · rintro ⟨result, db', hstart, -, -, hnew, -⟩
    rw [start_planned h, startFirst_eq_ok] at hstart
    obtain ⟨hunused, tally, db₁, hfold, hr⟩ := hstart
    obtain ⟨-, hturns⟩ := fold_turns hnodup hfold
    refine ⟨hunused, fun id hm c hc => ?_⟩
    have howned : ownedCandidate (bound now bulk operationId operation db) owner id = some c := hc
    have hdb : db'.attempts = db₁.attempts := by
      cases hr
      rfl
    by_cases hw : wanted c
    · obtain ⟨authorization, generation, attempt, jobId, ha⟩ := hturns.attempted hm howned hw
      refine ⟨⟨authorization, ha.authorized.of_agrees (hagrees id)⟩, fun _ => ⟨generation, ha.account⟩, fun _ => ha.idle, fun _ => ?_,
        fun _ => ha.job⟩
      -- the new attempt of the candidate can be no other
      obtain ⟨attemptId, attempt', _, _, hold, hstored, hcandidate, -⟩ := hnew id hm c hc hw
      rw [hdb] at hstored
      obtain ⟨hid, -⟩ := hturns.new h.owned hold hstored
      rw [hcandidate] at hid
      rw [← hid]
      exact hold
    · obtain ⟨before, after, hbefore, hturn, -⟩ := hturns.turn id hm
      have hauthorized : ∃ authorization, Authorized now before c authorization := by
        cases hturn with
        | counted c' authorization owned authorized other =>
          rw [hbefore.owned, howned] at owned
          cases owned
          exact ⟨authorization, authorized⟩
        | queued c' authorization _ generation attempt jobId owned authorized isWanted queued =>
          rw [hbefore.owned, howned] at owned
          cases owned
          exact absurd isWanted hw
      obtain ⟨authorization, ha⟩ := hauthorized
      exact ⟨⟨authorization, (ha.of_agrees hbefore).of_agrees (hagrees id)⟩, fun hw' => absurd hw' hw, fun hw' => absurd hw' hw,
        fun hw' => absurd hw' hw, fun hw' => absurd hw' hw⟩
  · rintro ⟨hunused, hstartable⟩
    have hall : ∀ id ∈ plannedCandidates db bulk, ∃ c,
        ownedCandidate (bound now bulk operationId operation db) owner id = some c ∧
          artistEligible (bound now bulk operationId operation db) c ∧
          Startable now owner operationId (bound now bulk operationId operation db) id c := by
      intro id hm
      obtain ⟨c, hc⟩ := h.owned id hm
      exact ⟨c, hc, (h.artists id hm c hc).of_agrees (hagrees id), (hstartable id hm c hc).of_agrees (hagrees id)⟩
    obtain ⟨⟨tally, db₁⟩, hfold⟩ := fold_of_startable hnodup hall ⟨0, 0, 0⟩
    obtain ⟨htotal, hturns⟩ := fold_turns hnodup hfold
    have hstart := (start_planned h).trans (startFirst_eq_ok.mpr ⟨hunused, tally, db₁, hfold, rfl⟩)
    have hprovider : providerAvailable db₁ := by
      have hp := h.provider
      unfold providerAvailable
      rw [hturns.frame.provider]
      exact hp
    have hagain : ∀ later other,
        start later owner bulk other (closed now bulk operationId operation tally db₁) =
          if other = operationId then
            .ok (startResult bulk ((operation.begun now bulk operationId).counted now tally) true,
              closed now bulk operationId operation tally db₁)
          else .error (.bulk "operation_conflict") := by
      intro later other
      refine start_again hprovider ?_ ?_ rfl rfl
      · exact ownedOperation_eq_some.mpr ⟨Dict.get?_set_self _ _ _, (ownedOperation_eq_some.mp h.stored).2⟩
      · show (plannedCandidates db₁ bulk).length = operation.plannedCandidateCount
        unfold plannedCandidates
        rw [hturns.frame.items]
        exact h.count
    refine ⟨_, _, hstart, rfl, ?_, fun id hm c hc hw => ?_, fun id hother => ⟨?_, fun attemptId attempt hold hnew he => ?_⟩,
      fun later => ?_, fun later other hne => ?_⟩
    · show tally.total = operation.plannedCandidateCount
      rw [htotal, ← h.count]
      exact Nat.zero_add _
    · obtain ⟨authorization, generation, attempt, jobId, ha⟩ := hturns.attempted hm hc hw
      have hfresh := (hstartable id hm c hc).fresh hw
      have htaken := ha.taken
      rw [show (bound now bulk operationId operation db).attempts.get? (startAttempt owner operationId id) = none
        from hfresh] at htaken
      cases htaken
      obtain ⟨artistId, hartist, hfits⟩ := ha.authorized.fits
      rw [(ownedCandidate_eq_some.mp hc).2] at hfits
      refine ⟨_, _, authorization.2, artistId, hfresh, ha.stored, rfl, rfl, rfl, ?_, rfl, hartist, hfits,
        ha.authorized.holds, fun attemptId' attempt' hold hnew he => ?_⟩
      · show db₁.authorizations.get? authorization.1 = some authorization.2
        rw [hturns.frame.authorizations]
        exact ha.authorized.stored
      · have hid := (hturns.new h.owned hold hnew).1
        rw [he] at hid
        exact hid
    · show db₁.candidates.get? id = db.candidates.get? id
      by_cases hm : id ∈ plannedCandidates db bulk
      · obtain ⟨c, hc⟩ := h.owned id hm
        exact (hturns.other hm hc (hother hm c hc)).candidate
      · exact hturns.frame.candidates id hm
    · obtain ⟨-, hm, c, hc, hw⟩ := hturns.new h.owned hold hnew
      rw [he] at hm hc
      exact hother hm c hc hw
    · rw [hagain, if_pos rfl]
      rfl
    · rw [hagain, if_neg hne]

end

end AutPlay.Discovery
