import AutPlay.Lib.Run
import AutPlay.Consent.Guard
import AutPlay.Training.Work

/-!
# Runs of the training registry

* `Call`, `perform`   the service's calls; `World`, `Event`, `Step` every writer of its tables;
* `Transits`, `Registers`, `Seals`   what a call that writes has checked, and what it wrote;
* `Kept`              what the other writers keep of a run and its participants;
* `Inv`, `run_inv`    what holds of every reachable world.

A live run's participants all have a row that says granted at the registered revision: a consent row or an
account that changes invalidates its runs in the same transaction.  What the rows cannot say is in the ledger,
which may be ahead of them.
-/

set_option linter.unusedSectionVars false

namespace AutPlay.Training

open AutPlay.Sync (Uuid)
open AutPlay.Auth (UserAccountRow DeviceRow UserSessionRow Principal)
open AutPlay.Consent (Ledger requireGranted currentRevision requireGranted_ok guardBatch guardAccount)
open AutPlay.Evidence (maxRevision)
open AutPlay.Result

/-! ## calls -/

inductive Call
  | register (runId : Uuid) (sourceSha256 : String) (participants : Dict Uuid Int)
  | ready (runId : Uuid) (datasetSha256 : String)
  | start (runId : Uuid)
  | checkRunning (runId : Uuid)
  | authorizeInput (runId : Uuid) (inputs : Inputs)
  | checkInput (runId : Uuid) (inputs : Inputs)
  | checkCandidate (provenance : TrainingInputProvenance)
  | sealCheckpoint (provenance : TrainingInputProvenance) (manifestSha256 : String)
  | checkCheckpoint (provenance : TrainingInputProvenance) (manifestSha256 : String)
  | publish (runId operationId : Uuid) (hashes : Option PublicationHashes)
      (provenance : Option TrainingInputProvenance)
  | isPublished (runId : Uuid) (hashes : Option PublicationHashes) (provenance : Option TrainingInputProvenance)

/-- The run whose participants a call reads before its locks. -/
def Call.locks : Call → Option Uuid
  | .register .. => none
  | .ready runId _ => some runId
  | .start runId => some runId
  | .checkRunning runId => some runId
  | .authorizeInput runId _ => some runId
  | .checkInput runId _ => some runId
  | .checkCandidate provenance => some provenance.runId
  | .sealCheckpoint provenance _ => some provenance.runId
  | .checkCheckpoint provenance _ => some provenance.runId
  | .publish runId _ _ _ => some runId
  | .isPublished .. => none

inductive Answer
  | view (view : TrainingRunView)
  | provenance (provenance : TrainingInputProvenance)
  | done
  | served (published : Bool)

section
variable (P : Authority)

/-- One call, with its clock and the participants that it has read. -/
def perform (now : Int) (members : List TrainingParticipantRow) (db : Tables) (ledger : Ledger) :
    Call → Except Error (Answer × Tables)
  | .register runId source participants =>
    (register P now runId source participants db ledger).map fun r => (.view r.1, r.2)
  | .ready runId dataset => (ready P now members runId dataset db ledger).map fun r => (.view r.1, r.2)
  | .start runId => (start P now members runId db ledger).map fun r => (.view r.1, r.2)
  | .checkRunning runId => (checkRunning P members runId db ledger).map fun _ => (.done, db)
  | .authorizeInput runId inputs =>
    (authorizeInput P now members runId inputs db ledger).map fun r => (.provenance r.1, r.2)
  | .checkInput runId inputs => (checkInput P members runId inputs db ledger).map fun _ => (.done, db)
  | .checkCandidate provenance => (checkCandidate P members provenance db ledger).map fun _ => (.done, db)
  | .sealCheckpoint provenance manifest =>
    (sealCheckpoint P members provenance manifest db ledger).map fun db' => (.done, db')
  | .checkCheckpoint provenance manifest =>
    (checkCheckpoint P members provenance manifest db ledger).map fun _ => (.done, db)
  | .publish runId operationId hashes provenance =>
    (publish P now members runId operationId hashes provenance db ledger).map fun r => (.view r.1, r.2)
  | .isPublished runId hashes provenance =>
    (isPublished P runId hashes provenance db).map fun b => (.served b, db)

end

/-! ## worlds -/

/-- The tables, the ledger, and every reading of a run's participants. -/
structure World where
  db : Tables
  ledger : Ledger
  reads : List (Uuid × List TrainingParticipantRow)

inductive Event
  | decided (now : Int) (principal : Principal) (body : Consent.Body) (clock : Uuid → Int)
  | decisionLost (now : Int) (principal : Principal) (body : Consent.Body)
  | guarded (fresh : Consent.Fresh) (users : List Uuid) (clock : Uuid → Int)
  | guardLost (fresh : Consent.Fresh) (users : List Uuid)
  | accountChanged (userId : Uuid) (account : UserAccountRow) (clock : Uuid → Int)
  | actorsChanged (devices : Dict Uuid DeviceRow) (sessions : Dict Uuid UserSessionRow)
  | serversChanged (servers : Dict Uuid Int)
  | purged (userId : Uuid)
  | cleaned (runId : Uuid)
  | membersRead (runId : Uuid)
  | called (now : Int) (call : Call) (members : List TrainingParticipantRow)

/-- A consent database in the place of another: `training_consent_work_changed`. -/
def consentChanged (clock : Uuid → Int) (consent : Consent.Db) (db : Tables) : Option Tables :=
  (invalidateContributions (fun u => consent.consents.get? u ≠ db.consent.consents.get? u) clock db).map
    fun db' => { db' with consent := consent }

/-- An account row written: `training_owner_unavailable`. -/
def accountChanged (userId : Uuid) (account : UserAccountRow) (clock : Uuid → Int) (db : Tables) : Option Tables :=
  (if account.status = "ACTIVE" ∧ account.deletedAt = none then some db
    else invalidateContributions (fun u => u = userId) clock db).map fun db' =>
      { db' with consent := { db'.consent with accounts := db'.consent.accounts.set userId account } }

section
variable (P : Authority)

/-- A transaction that is lost leaves its intent in the ledger; a call that fails leaves nothing. -/
inductive Step : World → Event → World → Prop
  | decided {w : World} {now : Int} {principal : Principal} {body : Consent.Body} {clock : Uuid → Int}
      {a : Consent.Attempt} {db : Tables} (h : Consent.decide P.digests now principal body w.db.consent w.ledger = a)
      (ht : consentChanged clock a.db w.db = some db) :
      Step w (.decided now principal body clock) ⟨db, a.ledger, w.reads⟩
  | decisionLost {w : World} {now : Int} {principal : Principal} {body : Consent.Body} {a : Consent.Attempt}
      (h : Consent.decide P.digests now principal body w.db.consent w.ledger = a) :
      Step w (.decisionLost now principal body) ⟨w.db, a.ledger, w.reads⟩
  | guarded {w : World} {fresh : Consent.Fresh} {users : List Uuid} {clock : Uuid → Int} {s : Consent.Db × Ledger}
      {db : Tables} (h : guardBatch P.digests fresh users w.db.consent w.ledger = some s)
      (ht : consentChanged clock s.1 w.db = some db) : Step w (.guarded fresh users clock) ⟨db, s.2, w.reads⟩
  | guardLost {w : World} {fresh : Consent.Fresh} {users : List Uuid} {s : Consent.Db × Ledger}
      (h : guardBatch P.digests fresh users w.db.consent w.ledger = some s) :
      Step w (.guardLost fresh users) ⟨w.db, s.2, w.reads⟩
  | accountChanged {w : World} {userId : Uuid} {account : UserAccountRow} {clock : Uuid → Int} {db : Tables}
      (h : Training.accountChanged userId account clock w.db = some db) :
      Step w (.accountChanged userId account clock) ⟨db, w.ledger, w.reads⟩
  | actorsChanged {w : World} {devices : Dict Uuid DeviceRow} {sessions : Dict Uuid UserSessionRow} :
      Step w (.actorsChanged devices sessions)
        ⟨{ w.db with consent := { w.db.consent with devices := devices, sessions := sessions } }, w.ledger, w.reads⟩
  | serversChanged {w : World} {servers : Dict Uuid Int} :
      Step w (.serversChanged servers) ⟨{ w.db with servers := servers }, w.ledger, w.reads⟩
  | purged {w : World} {userId : Uuid} {db : Tables} (h : purgeAccount userId w.db = some db) :
      Step w (.purged userId) ⟨db, w.ledger, w.reads⟩
  /-- The cleanup of a claim, when the run's executions are closed. -/
  | cleaned {w : World} {runId : Uuid} (h : (w.db.claims.get? runId).isSome = true) :
      Step w (.cleaned runId) ⟨{ w.db with claims := w.db.claims.set runId .complete }, w.ledger, w.reads⟩
  | membersRead {w : World} {runId : Uuid} :
      Step w (.membersRead runId) ⟨w.db, w.ledger, (runId, participantsOf w.db runId) :: w.reads⟩
  | called {w : World} {now : Int} {call : Call} {members : List TrainingParticipantRow} {answer : Answer}
      {db : Tables} (hm : ∀ runId, call.locks = some runId → (runId, members) ∈ w.reads)
      (h : perform P now members w.db w.ledger call = .ok (answer, db)) :
      Step w (.called now call members) ⟨db, w.ledger, w.reads⟩

end

/-! ## what a call does -/

/-- A call has the run's row, and unless it is published every participant's grant. -/
structure Locks (P : Authority) (members : List TrainingParticipantRow) (db : Tables) (ledger : Ledger)
    (runId : Uuid) (run : TrainingRunRow) : Prop where
  found : db.runs.find runId = some run
  members : run.phase ≠ .published → run.phase ≠ .invalidated ∧ members.length = run.participantCount ∧
    ∀ p ∈ members, requireGranted P.digests p.userId p.consentRevision db.consent ledger = .ok ()

/-- A run goes to the phase after its own. -/
structure Transits (P : Authority) (members : List TrainingParticipantRow) (db : Tables) (ledger : Ledger)
    (old new : TrainingRunRow) (db' : Tables) : Prop where
  locks : Locks P members db ledger old.runId old
  guards : Guards db old new
  forward : new.phase ≠ .invalidated
  live : old.phase.Live
  rows : ∃ runs, db.runs.update new = .ok runs ∧ db' = { db with runs := runs }
  published : new.phase = .published → ∃ operationId hashes, new.publicationOperationId = some operationId ∧
    new.publicationHashes = some hashes

/-- A run that was not there, with its participants. -/
structure Registers (P : Authority) (db : Tables) (ledger : Ledger) (run : TrainingRunRow)
    (rows : List TrainingParticipantRow) (db' : Tables) : Prop where
  new : db.runs.find run.runId = none
  phase : run.phase = .preparing ∧ run.revision = 1 ∧ run.datasetSha256 = none
  count : rows.length = run.participantCount ∧ 1 ≤ run.participantCount
  mine : ∀ p ∈ rows, p.runId = run.runId
  granted : ∀ p ∈ rows, requireGranted P.digests p.userId p.consentRevision db.consent ledger = .ok ()
  written : insertRun run rows db = .ok db'

/-- A running run's checkpoint, where there was none. -/
structure Seals (P : Authority) (members : List TrainingParticipantRow) (db : Tables) (ledger : Ledger)
    (run : TrainingRunRow) (manifest : String) (db' : Tables) : Prop where
  locks : Locks P members db ledger run.runId run
  phase : run.phase = .running
  new : db.checkpoints.get? run.runId = none
  rows : db' = { db with checkpoints := db.checkpoints.set run.runId manifest }

section
variable {P : Authority} {members : List TrainingParticipantRow} {runId : Uuid} {db db' : Tables} {ledger : Ledger}
  {now : Int} {run : TrainingRunRow}

theorem requireMembers_ok : requireMembers P members db ledger = .ok () ↔
    ∀ p ∈ members, requireGranted P.digests p.userId p.consentRevision db.consent ledger = .ok () := by
  unfold requireMembers
  induction members with
  | nil => exact ⟨fun _ p hp => absurd hp List.not_mem_nil, fun _ => rfl⟩
  | cons p members ih =>
    rw [List.forall_mem_cons, ← ih]
    constructor
    · intro h
      obtain ⟨⟨⟩, h₁, h₂⟩ := bind_eq_ok.mp h
      exact ⟨mapError_eq_ok.mp h₁, h₂⟩
    · rintro ⟨h₁, h₂⟩
      exact bind_eq_ok.mpr ⟨(), mapError_eq_ok.mpr h₁, h₂⟩

theorem locked_ok (h : locked P members runId db ledger = .ok run) : Locks P members db ledger runId run := by
  obtain ⟨⟨⟩, -, h⟩ := bind_eq_ok.mp h
  obtain ⟨run', hrun, h⟩ := bind_eq_ok.mp h
  obtain ⟨⟨⟩, -, h⟩ := bind_eq_ok.mp h
  obtain ⟨⟨⟩, hphase, h⟩ := bind_eq_ok.mp h
  have hphase := require_ok.mp hphase
  have hfound : db.runs.find runId = some run' := by
    cases hf : db.runs.find runId with
    | none =>
      rw [hf] at hrun
      cases hrun
    | some r =>
      rw [hf] at hrun
      cases hrun
      rfl
  split at h
  · rename_i hpublished
    cases h
    exact ⟨hfound, fun hne => absurd hpublished hne⟩
  · rename_i hne
    obtain ⟨⟨⟩, hmembers, h⟩ := bind_eq_ok.mp h
    cases h
    exact ⟨hfound, fun _ => ⟨(hphase hne).1, (hphase hne).2, requireMembers_ok.mp hmembers⟩⟩

/-- The identifier of a locked run is the one that was asked for. -/
theorem Locks.runId_eq (h : Locks P members db ledger runId run) : run.runId = runId := Table.key_of_find h.found

theorem Locks.own (h : Locks P members db ledger runId run) : Locks P members db ledger run.runId run := by
  rw [h.runId_eq]
  exact h

theorem transition_ok {old : TrainingRunRow} {phase : Phase} {new : TrainingRunRow}
    (h : transition now db old run phase = .ok (new, db')) :
    new = { run with phase := phase, revision := run.revision + 1, changedAt := now } ∧ Guards db old new ∧
      ∃ runs, db.runs.update new = .ok runs ∧ db' = { db with runs := runs } := by
  obtain ⟨⟨⟩, -, h⟩ := bind_eq_ok.mp h
  obtain ⟨⟨⟩, hguards, h⟩ := bind_eq_ok.mp h
  split at h
  · cases h
  · rename_i runs hruns
    cases h
    exact ⟨rfl, require_ok.mp hguards, runs, hruns, rfl⟩

/-- A ready run that starts. -/
theorem startLocked_ok {new : TrainingRunRow} (hl : Locks P members db ledger runId run)
    (h : startLocked now run db = .ok (new, db')) :
    db' = db ∨ Transits P members db ledger run new db' := by
  unfold startLocked at h
  split at h
  · rename_i hphase
    obtain ⟨hnew, hguards, hrows⟩ := transition_ok h
    have hrunning : new.phase = .running := by rw [hnew]
    refine Or.inr ⟨hl.own, hguards, ?_, Or.inr (Or.inl hphase), hrows, ?_⟩
    · rw [hrunning]
      exact fun h => Phase.noConfusion h
    · rw [hrunning]
      exact fun h => Phase.noConfusion h
  · obtain ⟨⟨⟩, -, h⟩ := bind_eq_ok.mp h
    cases h
    exact Or.inl rfl

theorem ready_ok {dataset : String} {v : TrainingRunView}
    (h : ready P now members runId dataset db ledger = .ok (v, db')) :
    ∃ run, Locks P members db ledger runId run ∧
      (db' = db ∨ ∃ new, Transits P members db ledger run new db') := by
  obtain ⟨digest, -, h⟩ := bind_eq_ok.mp h
  obtain ⟨run, hlocked, h⟩ := bind_eq_ok.mp h
  have hl := locked_ok hlocked
  refine ⟨run, hl, ?_⟩
  split at h
  · cases h
    exact Or.inl rfl
  · obtain ⟨⟨⟩, hphase, h⟩ := bind_eq_ok.mp h
    obtain ⟨⟨new, db₁⟩, ht, h⟩ := bind_eq_ok.mp h
    obtain ⟨hnew, hguards, hrows⟩ := transition_ok ht
    cases h
    have hready : new.phase = .ready := by rw [hnew]
    refine Or.inr ⟨new, hl.own, hguards, ?_, Or.inl (require_ok.mp hphase), hrows, ?_⟩
    · rw [hready]
      exact fun h => Phase.noConfusion h
    · rw [hready]
      exact fun h => Phase.noConfusion h

theorem start_ok {v : TrainingRunView} (h : start P now members runId db ledger = .ok (v, db')) :
    ∃ run, Locks P members db ledger runId run ∧
      (db' = db ∨ ∃ new, Transits P members db ledger run new db') := by
  obtain ⟨run, hlocked, h⟩ := bind_eq_ok.mp h
  obtain ⟨⟨new, db₁⟩, hs, h⟩ := bind_eq_ok.mp h
  cases h
  have hl := locked_ok hlocked
  exact ⟨run, hl, (startLocked_ok hl hs).imp_right fun ht => ⟨new, ht⟩⟩

theorem authorizeInput_ok {inputs : Inputs} {provenance : TrainingInputProvenance}
    (h : authorizeInput P now members runId inputs db ledger = .ok (provenance, db')) :
    ∃ run, Locks P members db ledger runId run ∧
      (db' = db ∨ ∃ new, Transits P members db ledger run new db') := by
  obtain ⟨run, hlocked, h⟩ := bind_eq_ok.mp h
  obtain ⟨⟨⟩, -, h⟩ := bind_eq_ok.mp h
  obtain ⟨⟨new, db₁⟩, hs, h⟩ := bind_eq_ok.mp h
  obtain ⟨own, -, h⟩ := bind_eq_ok.mp h
  cases h
  have hl := locked_ok hlocked
  exact ⟨run, hl, (startLocked_ok hl hs).imp_right fun ht => ⟨new, ht⟩⟩

theorem sealCheckpoint_ok {provenance : TrainingInputProvenance} {manifest : String}
    (h : sealCheckpoint P members provenance manifest db ledger = .ok db') :
    ∃ run, Locks P members db ledger provenance.runId run ∧
      (db' = db ∨ ∃ digest, Seals P members db ledger run digest db') := by
  obtain ⟨digest, -, h⟩ := bind_eq_ok.mp h
  obtain ⟨run, hlocked, h⟩ := bind_eq_ok.mp h
  obtain ⟨⟨⟩, -, h⟩ := bind_eq_ok.mp h
  obtain ⟨⟨⟩, hphase, h⟩ := bind_eq_ok.mp h
  have hl := locked_ok hlocked
  refine ⟨run, hl, ?_⟩
  split at h
  · obtain ⟨⟨⟩, -, h⟩ := bind_eq_ok.mp h
    cases h
    exact Or.inl rfl
  · rename_i hnew
    obtain ⟨⟨⟩, -, h⟩ := bind_eq_ok.mp h
    cases h
    exact Or.inr ⟨digest, hl.own, require_ok.mp hphase, hnew, rfl⟩

theorem publish_ok {operationId : Uuid} {hashes : Option PublicationHashes}
    {provenance : Option TrainingInputProvenance} {v : TrainingRunView}
    (h : publish P now members runId operationId hashes provenance db ledger = .ok (v, db')) :
    ∃ run, Locks P members db ledger runId run ∧
      (db' = db ∨ ∃ new, Transits P members db ledger run new db') := by
  obtain ⟨publication, -, h⟩ := bind_eq_ok.mp h
  obtain ⟨run, hlocked, h⟩ := bind_eq_ok.mp h
  obtain ⟨⟨⟩, -, h⟩ := bind_eq_ok.mp h
  obtain ⟨⟨⟩, -, h⟩ := bind_eq_ok.mp h
  obtain ⟨⟨new, db₁⟩, hp, h⟩ := bind_eq_ok.mp h
  cases h
  have hl := locked_ok hlocked
  refine ⟨run, hl, ?_⟩
  unfold publishLocked at hp
  split at hp
  · obtain ⟨⟨⟩, -, hp⟩ := bind_eq_ok.mp hp
    cases hp
    exact Or.inl rfl
  · obtain ⟨⟨⟩, hphase, hp⟩ := bind_eq_ok.mp hp
    obtain ⟨⟨⟩, -, hp⟩ := bind_eq_ok.mp hp
    obtain ⟨hnew, hguards, hrows⟩ := transition_ok hp
    have hpublished : new.phase = .published := by rw [hnew]
    refine Or.inr ⟨new, hl.own, hguards, ?_, Or.inr (Or.inr (require_ok.mp hphase)), hrows, fun _ => ?_⟩
    · rw [hpublished]
      exact fun h => Phase.noConfusion h
    · exact ⟨operationId, publication, by rw [hnew], by rw [hnew]⟩

theorem length_ownersOf (participants : Dict Uuid Int) :
    (ownersOf participants).length = participants.items.length := List.length_mergeSort _

theorem register_ok {source : String} {participants : Dict Uuid Int} {v : TrainingRunView}
    (h : register P now runId source participants db ledger = .ok (v, db')) :
    db' = db ∨ ∃ run rows, run.runId = runId ∧ Registers P db ledger run rows db' := by
  obtain ⟨⟨⟩, hvalid, h⟩ := bind_eq_ok.mp h
  obtain ⟨digest, -, h⟩ := bind_eq_ok.mp h
  obtain ⟨⟨⟩, -, h⟩ := bind_eq_ok.mp h
  obtain ⟨⟨⟩, hmembers, h⟩ := bind_eq_ok.mp h
  split at h
  · obtain ⟨⟨⟩, -, h⟩ := bind_eq_ok.mp h
    obtain ⟨⟨⟩, -, h⟩ := bind_eq_ok.mp h
    cases h
    exact Or.inl rfl
  · rename_i hnew
    obtain ⟨db₁, hwritten, h⟩ := bind_eq_ok.mp h
    cases h
    refine Or.inr ⟨_, _, rfl, hnew, ⟨rfl, rfl, rfl⟩, ⟨List.length_map _, ?_⟩, ?_, requireMembers_ok.mp hmembers,
      hwritten⟩
    · show 1 ≤ (ownersOf participants).length
      rw [length_ownersOf]
      exact (require_ok.mp hvalid).1.1
    · intro p hp
      obtain ⟨e, -, rfl⟩ := List.mem_map.mp hp
      rfl

/-- **What a call does**: it registers a run, takes one to its next phase, seals a checkpoint, or writes
nothing; and one that locks a run has its grants. -/
theorem perform_cases {call : Call} {answer : Answer} (h : perform P now members db ledger call = .ok (answer, db')) :
    (∀ runId, call.locks = some runId → ∃ run, Locks P members db ledger runId run) ∧
      (db' = db ∨ (∃ run rows, Registers P db ledger run rows db') ∨
        ∃ runId, call.locks = some runId ∧ ∃ run, run.runId = runId ∧
          ((∃ new, Transits P members db ledger run new db') ∨
            ∃ manifest, Seals P members db ledger run manifest db')) := by
  have hlock : ∀ {runId : Uuid} {run : TrainingRunRow}, Locks P members db ledger runId run →
      (db' = db ∨ ∃ new, Transits P members db ledger run new db') →
        (∀ r, some runId = some r → ∃ run, Locks P members db ledger r run) ∧
          (db' = db ∨ (∃ run rows, Registers P db ledger run rows db') ∨
            ∃ r, some runId = some r ∧ ∃ run, run.runId = r ∧
              ((∃ new, Transits P members db ledger run new db') ∨
                ∃ manifest, Seals P members db ledger run manifest db')) := by
    intro runId run hl hcase
    refine ⟨fun r hr => ?_, hcase.imp_right fun ht => Or.inr ⟨runId, rfl, run, hl.runId_eq, Or.inl ht⟩⟩
    cases hr
    exact ⟨run, hl⟩
  cases call with
  | register runId source participants =>
    obtain ⟨⟨v, db₁⟩, hr, hd⟩ := map_eq_ok.mp h
    cases hd
    refine ⟨fun r hr => (by cases hr), (register_ok hr).imp_right fun ⟨run, rows, _, hreg⟩ => Or.inl ⟨run, rows, hreg⟩⟩
  | ready runId dataset =>
    obtain ⟨⟨v, db₁⟩, hr, hd⟩ := map_eq_ok.mp h
    cases hd
    obtain ⟨run, hl, hcase⟩ := ready_ok hr
    exact hlock hl hcase
  | start runId =>
    obtain ⟨⟨v, db₁⟩, hr, hd⟩ := map_eq_ok.mp h
    cases hd
    obtain ⟨run, hl, hcase⟩ := start_ok hr
    exact hlock hl hcase
  | checkRunning runId =>
    obtain ⟨u, hr, hd⟩ := map_eq_ok.mp h
    cases hd
    obtain ⟨run, hlocked, -⟩ := bind_eq_ok.mp hr
    exact hlock (locked_ok hlocked) (Or.inl rfl)
  | authorizeInput runId inputs =>
    obtain ⟨⟨v, db₁⟩, hr, hd⟩ := map_eq_ok.mp h
    cases hd
    obtain ⟨run, hl, hcase⟩ := authorizeInput_ok hr
    exact hlock hl hcase
  | checkInput runId inputs =>
    obtain ⟨u, hr, hd⟩ := map_eq_ok.mp h
    cases hd
    obtain ⟨run, hlocked, -⟩ := bind_eq_ok.mp hr
    exact hlock (locked_ok hlocked) (Or.inl rfl)
  | checkCandidate provenance =>
    obtain ⟨u, hr, hd⟩ := map_eq_ok.mp h
    cases hd
    obtain ⟨run, hlocked, -⟩ := bind_eq_ok.mp hr
    exact hlock (locked_ok hlocked) (Or.inl rfl)
  | sealCheckpoint provenance manifest =>
    obtain ⟨db₁, hr, hd⟩ := map_eq_ok.mp h
    cases hd
    obtain ⟨run, hl, hcase⟩ := sealCheckpoint_ok hr
    refine ⟨fun r hr => ?_, hcase.imp_right fun hs => Or.inr ⟨_, rfl, run, hl.runId_eq, Or.inr hs⟩⟩
    cases hr
    exact ⟨run, hl⟩
  | checkCheckpoint provenance manifest =>
    obtain ⟨u, hr, hd⟩ := map_eq_ok.mp h
    cases hd
    obtain ⟨digest, -, hr⟩ := bind_eq_ok.mp hr
    obtain ⟨run, hlocked, -⟩ := bind_eq_ok.mp hr
    exact hlock (locked_ok hlocked) (Or.inl rfl)
  | publish runId operationId hashes provenance =>
    obtain ⟨⟨v, db₁⟩, hr, hd⟩ := map_eq_ok.mp h
    cases hd
    obtain ⟨run, hl, hcase⟩ := publish_ok hr
    exact hlock hl hcase
  | isPublished runId hashes provenance =>
    obtain ⟨b, -, hd⟩ := map_eq_ok.mp h
    cases hd
    exact ⟨fun r hr => (by cases hr), Or.inl rfl⟩

end

/-! ## what a step does -/

/-- The participant's latest intent is a grant of the registered revision. -/
def Granted (P : Authority) (ledger : Ledger) (p : TrainingParticipantRow) : Prop :=
  ∃ i ∈ ledger.history.latest.get? (P.digests.ownerTag p.userId),
    i.decision = .granted ∧ i.revision = p.consentRevision

/-- An account that may take part. -/
def Active (db : Consent.Db) (u : Uuid) : Prop :=
  ∃ account ∈ db.accounts.get? u, account.status = "ACTIVE" ∧ account.deletedAt = none

/-- What the writers other than the calls do: the live runs of the owners are invalidated, and for the others
nothing that counts is changed. -/
structure Invalidates (owner : Uuid → Prop) (clock : Uuid → Int) (db db' : Tables) : Prop where
  runs : ∀ runId,
    (db'.runs.find runId = db.runs.find runId ∧
      ∀ run, db.runs.find runId = some run → run.phase.Live → ¬ Contributed db owner run.runId) ∨
    ∃ run, db.runs.find runId = some run ∧ run.phase.Live ∧ db'.runs.find runId = some (invalidatedRow clock run)
  participants : db'.participants = db.participants
  checkpoints : db'.checkpoints = db.checkpoints
  claims : ∀ runId, db'.claims.get? runId ≠ none → db.claims.get? runId ≠ none ∨ Contributed db owner runId
  consents : ∀ u, ¬ owner u → db'.consent.consents.get? u = db.consent.consents.get? u
  accounts : ∀ u, ¬ owner u → Active db.consent u → Active db'.consent u

/-- No grant of a revision that a row has already comes back to the ledger. -/
def LedgerMoves (P : Authority) (db : Tables) (ledger ledger' : Ledger) : Prop :=
  ∀ p row, db.consent.consents.get? p.userId = some row → row.revision = p.consentRevision →
    Granted P ledger' p → Granted P ledger p

/-- **What a step does.** -/
inductive Effect (P : Authority) : World → World → Prop
  | others {w w' : World} (owner : Uuid → Prop) (clock : Uuid → Int) (h : Invalidates owner clock w.db w'.db)
      (hl : LedgerMoves P w.db w.ledger w'.ledger)
      (hr : ∀ r ∈ w'.reads, r ∈ w.reads ∨ r = (r.1, participantsOf w.db r.1)) : Effect P w w'
  | purged {w : World} {userId : Uuid} {db : Tables} (h : purgeAccount userId w.db = some db) :
      Effect P w ⟨db, w.ledger, w.reads⟩
  | registered {w : World} {run : TrainingRunRow} {rows : List TrainingParticipantRow} {db : Tables}
      (h : Registers P w.db w.ledger run rows db) : Effect P w ⟨db, w.ledger, w.reads⟩
  | moved {w : World} {members : List TrainingParticipantRow} {old new : TrainingRunRow} {db : Tables}
      (hm : (old.runId, members) ∈ w.reads) (h : Transits P members w.db w.ledger old new db) :
      Effect P w ⟨db, w.ledger, w.reads⟩
  | sealed {w : World} {members : List TrainingParticipantRow} {run : TrainingRunRow} {manifest : String}
      {db : Tables} (hm : (run.runId, members) ∈ w.reads) (h : Seals P members w.db w.ledger run manifest db) :
      Effect P w ⟨db, w.ledger, w.reads⟩

section
variable {P : Authority} {owner : Uuid → Prop} {clock : Uuid → Int} {db db' : Tables} {ledger ledger' : Ledger}
  {w w' : World}

/-- A writer that leaves the runs and the grants alone. -/
theorem Invalidates.quiet (hruns : db'.runs = db.runs) (hparticipants : db'.participants = db.participants)
    (hcheckpoints : db'.checkpoints = db.checkpoints)
    (hclaims : ∀ runId, db'.claims.get? runId ≠ none → db.claims.get? runId ≠ none)
    (hconsents : db'.consent.consents = db.consent.consents) (haccounts : db'.consent.accounts = db.consent.accounts) :
    Invalidates (fun _ => False) (fun _ => 0) db db' := by
  refine ⟨fun runId => Or.inl ⟨by rw [hruns], fun _ _ _ ⟨_, _, _, hno⟩ => hno⟩, hparticipants, hcheckpoints,
    fun runId h => Or.inl (hclaims runId h), fun u _ => by rw [hconsents], fun u _ h => ?_⟩
  unfold Active at h ⊢
  rw [haccounts]
  exact h

/-- The claims after a trigger. -/
theorem claims_foldl {rows : List TrainingParticipantRow} {claims : Dict Uuid Cleanup} {runId : Uuid}
    (h : (rows.foldl (fun claims p => if claims.has p.runId then claims else claims.set p.runId .pending)
      claims).get? runId ≠ none) : claims.get? runId ≠ none ∨ ∃ p ∈ rows, p.runId = runId := by
  induction rows generalizing claims with
  | nil => exact Or.inl h
  | cons p rows ih =>
    rw [List.foldl_cons] at h
    rcases ih h with h | ⟨q, hq, hrun⟩
    · split at h
      · exact Or.inl h
      · rw [Dict.get?_set] at h
        split at h
        · rename_i hrun
          exact Or.inr ⟨p, List.mem_cons_self, hrun.symm⟩
        · exact Or.inl h
    · exact Or.inr ⟨q, List.mem_cons_of_mem _ hq, hrun⟩

theorem invalidateContributions_some [DecidablePred owner]
    (h : invalidateContributions owner clock db = some db') :
    Invalidates owner clock db db' ∧ db'.consent = db.consent := by
  unfold invalidateContributions at h
  split at h
  · cases h
    refine ⟨⟨fun runId => ?_, rfl, rfl, fun runId h => ?_, fun u _ => rfl, fun u _ h => h⟩, rfl⟩
    · have hfind : (db.runs.updateWhere (fun run => run.phase.Live ∧ Contributed db owner run.runId)
          (invalidatedRow clock)).find runId = _ := Table.find_updateWhere runId
      cases hrun : db.runs.find runId with
      | none =>
        rw [hrun] at hfind
        exact Or.inl ⟨hfind, fun run hr => (by cases hr)⟩
      | some run =>
        rw [hrun, Option.map_some] at hfind
        by_cases hc : run.phase.Live ∧ Contributed db owner run.runId
        · rw [if_pos (decide_eq_true hc)] at hfind
          exact Or.inr ⟨run, rfl, hc.1, hfind⟩
        · rw [if_neg (fun hd => hc (of_decide_eq_true hd))] at hfind
          refine Or.inl ⟨hfind, fun run' hr hlive hcontributed => ?_⟩
          cases hr
          exact hc ⟨hlive, hcontributed⟩
    · rcases claims_foldl h with h | ⟨p, hp, hrun⟩
      · exact Or.inl h
      · obtain ⟨hmem, ho⟩ := List.mem_filter.mp hp
        exact Or.inr ⟨p, hmem, hrun, of_decide_eq_true ho⟩
  · cases h

/-- Another consent database, whose accounts are the same. -/
theorem consentChanged_some {consent : Consent.Db} (h : consentChanged clock consent db = some db')
    (haccounts : consent.accounts = db.consent.accounts) :
    Invalidates (fun u => consent.consents.get? u ≠ db.consent.consents.get? u) clock db db' := by
  obtain ⟨db₁, hi, rfl⟩ := Option.map_eq_some_iff.mp h
  obtain ⟨hinv, -⟩ := invalidateContributions_some hi
  refine ⟨hinv.runs, hinv.participants, hinv.checkpoints, hinv.claims, fun u hu => not_not.mp hu, fun u _ hu => ?_⟩
  unfold Active at hu ⊢
  rw [haccounts]
  exact hu

theorem accountChanged_some {userId : Uuid} {account : UserAccountRow}
    (h : accountChanged userId account clock db = some db') : ∃ owner, Invalidates owner clock db db' := by
  obtain ⟨db₁, hi, rfl⟩ := Option.map_eq_some_iff.mp h
  have hother : ∀ u, u ≠ userId → Active db.consent u →
      Active { db.consent with accounts := db.consent.accounts.set userId account } u := by
    rintro u hu ⟨a, ha, hactive⟩
    refine ⟨a, ?_, hactive⟩
    rw [Option.mem_def] at ha ⊢
    exact (Dict.get?_set_ne db.consent.accounts account hu).trans ha
  split at hi
  · rename_i hactive
    cases hi
    refine ⟨fun _ => False, fun runId => Or.inl ⟨rfl, fun _ _ _ ⟨_, _, _, hno⟩ => hno⟩, rfl, rfl,
      fun runId h => Or.inl h, fun u _ => rfl, fun u _ hu => ?_⟩
    by_cases hsame : u = userId
    · refine ⟨account, ?_, hactive⟩
      rw [Option.mem_def, hsame]
      exact Dict.get?_set_self ..
    · exact hother u hsame hu
  · obtain ⟨hinv, hconsent⟩ := invalidateContributions_some hi
    refine ⟨fun u => u = userId, hinv.runs, hinv.participants, hinv.checkpoints, hinv.claims, fun u _ => ?_,
      fun u hne hu => ?_⟩
    · show db₁.consent.consents.get? u = _
      rw [hconsent]
    · show Active { db₁.consent with accounts := db₁.consent.accounts.set userId account } u
      rw [hconsent]
      exact hother u hne hu

/-! ### the ledger -/

/-- A recorded intent of another revision, or a refusal, brings no grant back. -/
theorem Granted.of_record {intent : Evidence.TrainingConsentIntent} {p : TrainingParticipantRow}
    (h : ledger.record intent = some ledger')
    (hne : intent.ownerTag = P.digests.ownerTag p.userId → intent.decision = .granted →
      intent.revision ≠ p.consentRevision) (hg : Granted P ledger' p) : Granted P ledger p := by
  rcases Consent.Ledger.record_eq_some h with ⟨rfl, -⟩ | ⟨-, -, rfl, -⟩
  · exact hg
  · obtain ⟨i, hi, hdecision, hrevision⟩ := hg
    have hi : (ledger.history.latest.set intent.ownerTag intent).get? (P.digests.ownerTag p.userId) = some i := hi
    rw [Dict.get?_set] at hi
    split at hi
    · rename_i htag
      cases hi
      exact absurd hrevision (hne htag.symm hdecision)
    · exact ⟨i, hi, hdecision, hrevision⟩

theorem decide_moves {now : Int} {principal : Principal} {body : Consent.Body} {a : Consent.Attempt}
    (h : Consent.decide P.digests now principal body db.consent ledger = a) :
    LedgerMoves P db ledger a.ledger ∧ a.db.accounts = db.consent.accounts := by
  rcases Consent.decide_cases a h with ⟨hl, hd⟩ | ⟨c, applied, intent, ledger', hdec, rfl⟩
  · rw [hl, hd]
    exact ⟨fun p row _ _ hg => hg, rfl⟩
  · obtain ⟨hl, hcase⟩ := Consent.commitRows_cases principal db.consent ledger' intent applied
    rw [hl]
    refine ⟨fun p row hrow hrevision hg => ?_, ?_⟩
    · rcases hdec.recorded with ⟨rfl, -⟩ | hrec
      · exact hg
      · refine hg.of_record hrec fun htag _ hsame => ?_
        -- the intent is of the revision after the row's
        have hu : principal.userId = p.userId :=
          P.digests.ownerTag_injective (hdec.owner.symm.trans htag)
        have hnext := hdec.revision
        rw [hu, hrow] at hnext
        have hnext : intent.revision = row.revision + 1 := hnext
        omega
    · rcases hcase with hd | ⟨row, receipt, -, -, hd⟩
      · rw [hd]
      · rw [hd]

theorem guardBatch_moves {fresh : Consent.Fresh} {users : List Uuid} {s : Consent.Db × Ledger}
    (h : guardBatch P.digests fresh users db.consent ledger = some s) :
    (∀ p, Granted P s.2 p → Granted P ledger p) ∧ s.1.accounts = db.consent.accounts := by
  have hfold : ∀ (users : List Uuid) (s s' : Consent.Db × Ledger),
      users.foldlM (guardAccount P.digests fresh db.consent.consents ledger.history) s = some s' →
        (∀ p, Granted P s'.2 p → Granted P s.2 p) ∧ s'.1.accounts = s.1.accounts := by
    intro users
    induction users with
    | nil =>
      intro s s' hs
      cases hs
      exact ⟨fun p hg => hg, rfl⟩
    | cons u users ih =>
      intro s s' hs
      rw [List.foldlM_cons] at hs
      obtain ⟨s₁, h₁, hs⟩ := Option.bind_eq_some_iff.mp hs
      obtain ⟨hmoves, haccounts⟩ := ih s₁ s' hs
      rcases Consent.guardAccount_cases h₁ with ⟨rfl, -⟩ | ⟨-, -, decision, now, hret⟩
      · exact ⟨hmoves, haccounts⟩
      · refine ⟨fun p hg => ?_, ?_⟩
        · rcases hret.ledger with ⟨-, hrec⟩ | ⟨-, hsame⟩
          · exact (hmoves p hg).of_record hrec fun _ hgranted _ => hret.decision_ne hgranted
          · rw [← hsame]
            exact hmoves p hg
        · rcases hret.rows with ⟨row, -, hrows⟩ | ⟨-, hsame⟩
          · rw [haccounts, hrows]
          · rw [haccounts, hsame]
  exact hfold users _ _ h

theorem LedgerMoves.refl (db : Tables) (ledger : Ledger) : LedgerMoves P db ledger ledger :=
  fun _ _ _ _ hg => hg

/-- **Every step is one of five effects.** -/
theorem Step.effect {e : Event} (h : Step P w e w') : Effect P w w' := by
  cases h with
  | decided h ht =>
    obtain ⟨hmoves, haccounts⟩ := decide_moves h
    exact .others _ _ (consentChanged_some ht haccounts) hmoves fun r hr => Or.inl hr
  | decisionLost h =>
    exact .others _ _ (.quiet rfl rfl rfl (fun _ h => h) rfl rfl) (decide_moves h).1 fun r hr => Or.inl hr
  | guarded h ht =>
    obtain ⟨hmoves, haccounts⟩ := guardBatch_moves h
    exact .others _ _ (consentChanged_some ht haccounts) (fun p _ _ _ hg => hmoves p hg) fun r hr => Or.inl hr
  | guardLost h =>
    exact .others _ _ (.quiet rfl rfl rfl (fun _ h => h) rfl rfl)
      (fun p _ _ _ hg => (guardBatch_moves h).1 p hg) fun r hr => Or.inl hr
  | accountChanged h =>
    obtain ⟨owner, hinv⟩ := accountChanged_some h
    exact .others _ _ hinv (.refl _ _) fun r hr => Or.inl hr
  | actorsChanged =>
    exact .others _ _ (.quiet rfl rfl rfl (fun _ h => h) rfl rfl) (.refl _ _) fun r hr => Or.inl hr
  | serversChanged =>
    exact .others _ _ (.quiet rfl rfl rfl (fun _ h => h) rfl rfl) (.refl _ _) fun r hr => Or.inl hr
  | purged h => exact .purged h
  | @cleaned runId h =>
    refine .others _ _ (.quiet rfl rfl rfl (fun r hr => ?_) rfl rfl) (.refl _ _) fun r hr => Or.inl hr
    have hr : (w.db.claims.set runId .complete).get? r ≠ none := hr
    rw [Dict.get?_set] at hr
    split at hr
    · rename_i hsame
      rw [hsame]
      exact Option.ne_none_iff_isSome.mpr h
    · exact hr
  | membersRead =>
    refine .others _ _ (.quiet rfl rfl rfl (fun _ h => h) rfl rfl) (.refl _ _) fun r hr => ?_
    rcases List.mem_cons.mp hr with rfl | hr
    · exact Or.inr rfl
    · exact Or.inl hr
  | @called now call members answer db hm h =>
    obtain ⟨-, rfl | ⟨run, rows, hreg⟩ | ⟨runId, hlocks, run, hrun, ⟨new, ht⟩ | ⟨manifest, hs⟩⟩⟩ := perform_cases h
    · exact .others _ _ (.quiet rfl rfl rfl (fun _ h => h) rfl rfl) (.refl _ _) fun r hr => Or.inl hr
    · exact .registered hreg
    · exact .moved (by rw [hrun]; exact hm runId hlocks) ht
    · exact .sealed (by rw [hrun]; exact hm runId hlocks) hs

end

/-! ## the invariant -/

/-- What holds of every reachable world. -/
structure Inv (w : World) : Prop where
  live : ∀ runId run, w.db.runs.find runId = some run → run.phase.Live → Consented w.db run
  owned : ∀ p ∈ w.db.participants.rows, ∃ run, w.db.runs.find p.runId = some run
  counted : ∀ runId run, w.db.runs.find runId = some run → 1 ≤ run.participantCount
  unregistered : ∀ r ∈ w.reads, w.db.runs.find r.1 = none → r.2 = []
  reads : ∀ r ∈ w.reads, ∀ run, w.db.runs.find r.1 = some run → run.phase.Live →
    r.2 = [] ∨ r.2 = participantsOf w.db r.1
  claims : ∀ runId, w.db.claims.get? runId ≠ none → ∃ run, w.db.runs.find runId = some run ∧ ¬ run.phase.Live
  published : ∀ runId run, w.db.runs.find runId = some run → run.phase = .published →
    ∃ operationId hashes, run.publicationOperationId = some operationId ∧ run.publicationHashes = some hashes ∧
      w.db.checkpoints.get? runId = some hashes.checkpointSha256

section
variable {P : Authority} {db db' : Tables} {ledger : Ledger} {w w' : World} {runId : Uuid}
  {run old new : TrainingRunRow} {members rows : List TrainingParticipantRow}

theorem mem_participantsOf {p : TrainingParticipantRow} :
    p ∈ participantsOf db runId ↔ p ∈ db.participants.rows ∧ p.runId = runId := by
  unfold participantsOf
  rw [List.mem_mergeSort, List.mem_filter, decide_eq_true_iff]

theorem participantsOf_congr (h : db'.participants.rows.filter (fun p => p.runId = runId) =
    db.participants.rows.filter (fun p => p.runId = runId)) : participantsOf db' runId = participantsOf db runId := by
  unfold participantsOf
  rw [h]

theorem participantsOf_eq_nil (h : ∀ p ∈ db.participants.rows, p.runId ≠ runId) : participantsOf db runId = [] := by
  refine List.eq_nil_iff_forall_not_mem.mpr fun p hp => ?_
  obtain ⟨hmem, hrun⟩ := mem_participantsOf.mp hp
  exact h p hmem hrun

/-- The consent of a run's participants rests on their rows and their accounts. -/
theorem Consented.congr (h : Consented db old) (hrun : new.runId = old.runId)
    (hcount : new.participantCount = old.participantCount)
    (hmembers : participantsOf db' old.runId = participantsOf db old.runId)
    (haccounts : ∀ p ∈ participantsOf db old.runId, Active db.consent p.userId → Active db'.consent p.userId)
    (hconsents : ∀ p ∈ participantsOf db old.runId,
      db'.consent.consents.get? p.userId = db.consent.consents.get? p.userId) : Consented db' new := by
  unfold Consented
  rw [hrun, hcount, hmembers]
  refine ⟨h.1, fun p hp => ⟨haccounts p hp (h.2 p hp).1, ?_⟩⟩
  rw [hconsents p hp]
  exact (h.2 p hp).2

/-! ### one effect at a time -/

theorem find_update_of {runs : Table TrainingRunRow} (h : db.runs.update new = .ok runs)
    (hold : db.runs.find old.runId = some old) (hsame : new.runId = old.runId) (runId : Uuid) :
    runs.find runId = if old.runId = runId then some new else db.runs.find runId := by
  have hfind : runs.find runId = if new.runId = runId then (db.runs.find runId).map (fun _ => new)
      else db.runs.find runId := Table.find_update h runId
  rw [hfind, hsame]
  split
  · rename_i hrun
    rw [← hrun, hold]
    rfl
  · rfl

/-- A transition in the table. -/
theorem Transits.find (h : Transits P members db ledger old new db') (runId : Uuid) :
    db'.runs.find runId = if old.runId = runId then some new else db.runs.find runId := by
  obtain ⟨runs, hruns, rfl⟩ := h.rows
  exact find_update_of hruns h.locks.found (congrArg Registration.runId h.guards.same) runId

theorem Transits.tables (h : Transits P members db ledger old new db') :
    db'.participants = db.participants ∧ db'.checkpoints = db.checkpoints ∧ db'.consent = db.consent ∧
      db'.claims = db.claims := by
  obtain ⟨runs, -, rfl⟩ := h.rows
  exact ⟨rfl, rfl, rfl, rfl⟩

theorem insertParticipants_ok {table table' : Table TrainingParticipantRow}
    (h : insertParticipants rows table = .ok table') : table'.rows = table.rows ++ rows := by
  unfold insertParticipants at h
  induction rows generalizing table with
  | nil =>
    cases h
    exact (List.append_nil _).symm
  | cons p rows ih =>
    rw [List.foldlM_cons] at h
    obtain ⟨t, ht, h⟩ := bind_eq_ok.mp h
    rw [ih h, (Table.insert_ok.mp (mapError_eq_ok.mp ht)).2.2, List.append_assoc]
    rfl

/-- A registration in the tables. -/
theorem Registers.written_ok (h : Registers P db ledger run rows db') :
    (∀ runId, db'.runs.find runId = if run.runId = runId then some run else db.runs.find runId) ∧
      db'.participants.rows = db.participants.rows ++ rows ∧ db'.checkpoints = db.checkpoints ∧
        db'.consent = db.consent ∧ db'.claims = db.claims := by
  obtain ⟨runs, hruns, hw⟩ := bind_eq_ok.mp h.written
  obtain ⟨participants, hparticipants, hw⟩ := bind_eq_ok.mp hw
  cases hw
  exact ⟨fun runId => Table.find_insert (mapError_eq_ok.mp hruns) runId, insertParticipants_ok hparticipants, rfl, rfl,
    rfl⟩

/-- The participants of another run are the same after a registration. -/
theorem Registers.members_ne (h : Registers P db ledger run rows db') (hne : run.runId ≠ runId) :
    participantsOf db' runId = participantsOf db runId := by
  refine participantsOf_congr ?_
  have hnone : rows.filter (fun p => decide (p.runId = runId)) = [] := by
    refine List.filter_eq_nil_iff.mpr fun p hp hrun => hne ?_
    rw [← h.mine p hp]
    exact of_decide_eq_true hrun
  rw [h.written_ok.2.1, List.filter_append, hnone, List.append_nil]

/-- The participants of the new run are those of the registration. -/
theorem Registers.members_self (hinv : Inv w) (h : Registers P w.db w.ledger run rows db') :
    (participantsOf db' run.runId).length = run.participantCount ∧ ∀ p ∈ participantsOf db' run.runId, p ∈ rows := by
  have hnone : w.db.participants.rows.filter (fun p => decide (p.runId = run.runId)) = [] := by
    refine List.filter_eq_nil_iff.mpr fun p hp hrun => ?_
    obtain ⟨r, hr⟩ := hinv.owned p hp
    rw [of_decide_eq_true hrun, h.new] at hr
    cases hr
  have hall : rows.filter (fun p => decide (p.runId = run.runId)) = rows :=
    List.filter_eq_self.mpr fun p hp => decide_eq_true (h.mine p hp)
  unfold participantsOf
  rw [h.written_ok.2.1, List.filter_append, hnone, hall, List.nil_append]
  exact ⟨(List.length_mergeSort _).trans h.count.1, fun p hp => List.mem_mergeSort.mp hp⟩

/-- A purged account is no participant of a live run. -/
theorem purge_live (hinv : Inv w) {userId : Uuid} (h : purgeAccount userId w.db = some db')
    (hrun : w.db.runs.find runId = some run) (hlive : run.phase.Live) :
    ∀ p ∈ w.db.participants.rows, p.runId = runId → p.userId ≠ userId := by
  unfold purgeAccount at h
  split at h
  · rename_i hready
    intro p hp hpr hpu
    have hclaim := hready.2 p hp hpu
    obtain ⟨run', hrun', hnot⟩ := hinv.claims p.runId (by rw [hclaim]; exact Option.some_ne_none _)
    rw [hpr, hrun] at hrun'
    cases hrun'
    exact hnot hlive
  · cases h

theorem purge_tables {userId : Uuid} (h : purgeAccount userId db = some db') :
    db'.runs = db.runs ∧ db'.participants.rows = db.participants.rows.filter (fun p => !decide (p.userId = userId)) ∧
      db'.checkpoints = db.checkpoints ∧ db'.claims = db.claims ∧
        ∀ u, u ≠ userId → db'.consent.consents.get? u = db.consent.consents.get? u ∧
          (Active db.consent u → Active db'.consent u) := by
  unfold purgeAccount at h
  split at h
  · cases h
    refine ⟨rfl, rfl, rfl, rfl, fun u hu => ⟨?_, ?_⟩⟩
    · show (db.consent.consents.filter fun v _ => v ≠ userId).get? u = _
      rw [Dict.get?_filter]
      cases db.consent.consents.get? u with
      | none => rfl
      | some row => rw [Option.filter_some, if_pos (decide_eq_true hu)]
    · rintro ⟨account, haccount, hactive⟩
      refine ⟨account, ?_, hactive⟩
      rw [Option.mem_def] at haccount ⊢
      show (db.consent.accounts.filter fun v _ => v ≠ userId).get? u = _
      rw [Dict.get?_filter, haccount, Option.filter_some, if_pos (decide_eq_true hu)]
  · cases h

/-- The participants of a live run stay. -/
theorem purge_members (hinv : Inv w) {userId : Uuid} (h : purgeAccount userId w.db = some db')
    (hrun : w.db.runs.find runId = some run) (hlive : run.phase.Live) :
    participantsOf db' runId = participantsOf w.db runId := by
  refine participantsOf_congr ?_
  rw [(purge_tables h).2.1, List.filter_filter]
  refine List.filter_congr fun p hp => ?_
  by_cases hpr : p.runId = runId
  · have hne := purge_live hinv h hrun hlive p hp hpr
    rw [decide_eq_false hne, Bool.not_false, Bool.and_true]
  · rw [decide_eq_false hpr, Bool.false_and]

theorem Effect.members_kept (hinv : Inv w) (h : Effect P w w') (hrun : w.db.runs.find runId = some run)
    (hlive : run.phase.Live) : participantsOf w'.db runId = participantsOf w.db runId := by
  cases h with
  | others owner clock h hl hr => exact participantsOf_congr (by rw [h.participants])
  | purged h => exact purge_members hinv h hrun hlive
  | @registered run' rows db h =>
    refine h.members_ne fun hsame => ?_
    have hnew := h.new
    rw [hsame, hrun] at hnew
    cases hnew
  | moved hm h => exact participantsOf_congr (by rw [h.tables.1])
  | sealed hm h => exact participantsOf_congr (by rw [h.rows])

end

/-! ### one step -/

section
variable {P : Authority} {db db' : Tables} {ledger : Ledger} {w w' : World} {runId : Uuid}
  {run old new : TrainingRunRow} {members rows : List TrainingParticipantRow}

theorem requireGranted_consented {p : TrainingParticipantRow}
    (h : requireGranted P.digests p.userId p.consentRevision db.consent ledger = .ok ()) :
    Active db.consent p.userId ∧
      ∃ row ∈ db.consent.consents.get? p.userId,
        row.decision = .granted ∧ row.revision = p.consentRevision ∧ row.policyVersion = 1 := by
  obtain ⟨account, row, haccount, hactive, hdeleted, hrow, hgranted, hrevision, hproven⟩ := requireGranted_ok h
  obtain ⟨i, -, -, tag, -, receipt, -, -, -, -, -, -, -, hversion⟩ := hproven
  exact ⟨⟨account, haccount, hactive, hdeleted⟩, row, hrow, hgranted, hrevision, hversion⟩

theorem requireGranted_granted {p : TrainingParticipantRow}
    (h : requireGranted P.digests p.userId p.consentRevision db.consent ledger = .ok ()) : Granted P ledger p := by
  obtain ⟨account, row, -, -, -, -, -, hrevision, i, hi, hdecision, tag, -, receipt, -, -, -, -, -, hrev, -, -⟩ :=
    requireGranted_ok h
  exact ⟨i, hi, hdecision, by rw [hrev.2, hrevision]⟩

theorem not_live_invalidated {clock : Uuid → Int} : ¬ (invalidatedRow clock run).phase.Live := by
  rintro (h | h | h)
  · exact Phase.noConfusion h
  · exact Phase.noConfusion h
  · exact Phase.noConfusion h

theorem live_ne_published (h : run.phase.Live) : run.phase ≠ .published := by
  intro hp
  rw [hp] at h
  rcases h with h | h | h
  · exact Phase.noConfusion h
  · exact Phase.noConfusion h
  · exact Phase.noConfusion h

theorem Invalidates.inv {owner : Uuid → Prop} {clock : Uuid → Int} (hinv : Inv w)
    (h : Invalidates owner clock w.db w'.db)
    (hr : ∀ r ∈ w'.reads, r ∈ w.reads ∨ r = (r.1, participantsOf w.db r.1)) : Inv w' := by
  have hmembers : ∀ runId, participantsOf w'.db runId = participantsOf w.db runId :=
    fun runId => participantsOf_congr (by rw [h.participants])
  have hback : ∀ runId, w'.db.runs.find runId = none → w.db.runs.find runId = none := by
    intro runId hnone
    rcases h.runs runId with ⟨hsame, -⟩ | ⟨run, -, -, hsome⟩
    · rw [← hsame, hnone]
    · rw [hsome] at hnone
      cases hnone
  -- a live run is the one that was there, and none of its participants is an owner
  have hlive : ∀ runId run, w'.db.runs.find runId = some run → run.phase.Live →
      w.db.runs.find runId = some run ∧ ¬ Contributed w.db owner run.runId := by
    intro runId run hrun hlive
    rcases h.runs runId with ⟨hsame, hno⟩ | ⟨run', -, -, hsome⟩
    · rw [hsame] at hrun
      exact ⟨hrun, hno run hrun hlive⟩
    · rw [hsome] at hrun
      cases hrun
      exact absurd hlive not_live_invalidated
  have hfound : ∀ runId run, w.db.runs.find runId = some run → ∃ run', w'.db.runs.find runId = some run' ∧
      run'.participantCount = run.participantCount ∧ (¬ run.phase.Live → run' = run) := by
    intro runId run hrun
    rcases h.runs runId with ⟨hsame, -⟩ | ⟨run', hrun', hlive', hsome⟩
    · exact ⟨run, by rw [hsame, hrun], rfl, fun _ => rfl⟩
    · rw [hrun] at hrun'
      cases hrun'
      exact ⟨_, hsome, rfl, fun hnot => absurd hlive' hnot⟩
  refine ⟨fun runId run hrun hl => ?_, fun p hp => ?_, fun runId run hrun => ?_, fun r hmem hnone => ?_,
    fun r hmem run hrun hl => ?_, fun runId hclaim => ?_, fun runId run hrun hpub => ?_⟩
  · obtain ⟨hrun', hno⟩ := hlive runId run hrun hl
    have hothers : ∀ p ∈ participantsOf w.db run.runId, ¬ owner p.userId := by
      intro p hp ho
      obtain ⟨hmem, hpr⟩ := mem_participantsOf.mp hp
      exact hno ⟨p, hmem, hpr, ho⟩
    exact (hinv.live runId run hrun' hl).congr rfl rfl (hmembers _)
      (fun p hp hactive => h.accounts _ (hothers p hp) hactive) fun p hp => h.consents _ (hothers p hp)
  · rw [h.participants] at hp
    obtain ⟨run, hrun⟩ := hinv.owned p hp
    obtain ⟨run', hrun', -⟩ := hfound _ run hrun
    exact ⟨run', hrun'⟩
  · cases hold : w.db.runs.find runId with
    | none =>
      rcases h.runs runId with ⟨hsame, -⟩ | ⟨run', hrun', -⟩
      · rw [hsame, hold] at hrun
        cases hrun
      · rw [hold] at hrun'
        cases hrun'
    | some run' =>
      obtain ⟨run'', hrun'', hcount, -⟩ := hfound runId run' hold
      rw [hrun] at hrun''
      cases hrun''
      rw [hcount]
      exact hinv.counted runId run' hold
  · rcases hr r hmem with hmem | hread
    · exact hinv.unregistered r hmem (hback _ hnone)
    · have hnil : participantsOf w.db r.1 = [] := by
        refine participantsOf_eq_nil fun p hp hpr => ?_
        obtain ⟨run, hrun⟩ := hinv.owned p hp
        rw [hpr, hback _ hnone] at hrun
        cases hrun
      exact (congrArg Prod.snd hread).trans hnil
  · obtain ⟨hrun', -⟩ := hlive r.1 run hrun hl
    rw [hmembers]
    rcases hr r hmem with hmem | hread
    · exact hinv.reads r hmem run hrun' hl
    · exact Or.inr (congrArg Prod.snd hread)
  · rcases h.claims runId hclaim with hold | ⟨p, hp, hpr, ho⟩
    · obtain ⟨run, hrun, hnot⟩ := hinv.claims runId hold
      obtain ⟨run', hrun', -, hsame⟩ := hfound runId run hrun
      refine ⟨run', hrun', ?_⟩
      rw [hsame hnot]
      exact hnot
    · obtain ⟨run, hrun⟩ := hinv.owned p hp
      rw [hpr] at hrun
      obtain ⟨run', hrun', -⟩ := hfound runId run hrun
      refine ⟨run', hrun', fun hl => (hlive runId run' hrun' hl).2 ⟨p, hp, ?_, ho⟩⟩
      have hkey : run'.runId = runId := Table.key_of_find hrun'
      rw [hpr, hkey]
  · rw [h.checkpoints]
    rcases h.runs runId with ⟨hsame, -⟩ | ⟨run', -, -, hsome⟩
    · rw [hsame] at hrun
      exact hinv.published runId run hrun hpub
    · rw [hsome] at hrun
      cases hrun
      exact Phase.noConfusion hpub

theorem purge_inv {userId : Uuid} (hinv : Inv w) (h : purgeAccount userId w.db = some db) :
    Inv ⟨db, w.ledger, w.reads⟩ := by
  obtain ⟨hruns, hparticipants, hcheckpoints, hclaims, hothers⟩ := purge_tables h
  have hsub : ∀ p ∈ db.participants.rows, p ∈ w.db.participants.rows := by
    intro p hp
    rw [hparticipants] at hp
    exact List.mem_of_mem_filter hp
  refine ⟨fun runId run hrun hl => ?_, fun p hp => ?_, fun runId run hrun => ?_, fun r hmem hnone => ?_,
    fun r hmem run hrun hl => ?_, fun runId hclaim => ?_, fun runId run hrun hpub => ?_⟩
  · have hrun : db.runs.find runId = some run := hrun
    rw [hruns] at hrun
    have hkey : run.runId = runId := Table.key_of_find hrun
    have hmembers := purge_members hinv h hrun hl
    have hne : ∀ p ∈ participantsOf w.db run.runId, p.userId ≠ userId := by
      intro p hp
      obtain ⟨hmem, hpr⟩ := mem_participantsOf.mp hp
      exact purge_live hinv h hrun hl p hmem (hpr.trans hkey)
    exact (hinv.live runId run hrun hl).congr rfl rfl (by rw [hkey]; exact hmembers)
      (fun p hp => (hothers _ (hne p hp)).2) fun p hp => (hothers _ (hne p hp)).1
  · obtain ⟨run, hrun⟩ := hinv.owned p (hsub p hp)
    exact ⟨run, by rw [hruns, hrun]⟩
  · have hrun : db.runs.find runId = some run := hrun
    rw [hruns] at hrun
    exact hinv.counted runId run hrun
  · have hnone : db.runs.find r.1 = none := hnone
    rw [hruns] at hnone
    exact hinv.unregistered r hmem hnone
  · have hrun : db.runs.find r.1 = some run := hrun
    rw [hruns] at hrun
    show r.2 = [] ∨ r.2 = participantsOf db r.1
    rw [purge_members hinv h hrun hl]
    exact hinv.reads r hmem run hrun hl
  · have hclaim : db.claims.get? runId ≠ none := hclaim
    rw [hclaims] at hclaim
    show ∃ run, db.runs.find runId = some run ∧ _
    rw [hruns]
    exact hinv.claims runId hclaim
  · have hrun : db.runs.find runId = some run := hrun
    rw [hruns] at hrun
    show ∃ operationId hashes, _ ∧ _ ∧ db.checkpoints.get? runId = _
    rw [hcheckpoints]
    exact hinv.published runId run hrun hpub

theorem Registers.inv (hinv : Inv w) (h : Registers P w.db w.ledger run rows db) : Inv ⟨db, w.ledger, w.reads⟩ := by
  obtain ⟨hfind, hparticipants, hcheckpoints, hconsent, hclaims⟩ := h.written_ok
  have hold : ∀ runId r, w.db.runs.find runId = some r → run.runId ≠ runId := by
    intro runId r hr hsame
    have hnew := h.new
    rw [hsame, hr] at hnew
    cases hnew
  have hfound : ∀ runId r, w.db.runs.find runId = some r → db.runs.find runId = some r := by
    intro runId r hr
    rw [hfind, if_neg (hold runId r hr), hr]
  -- a run that is there is the new one, or was there
  have hcases : ∀ runId r, db.runs.find runId = some r →
      (run.runId = runId ∧ r = run) ∨ w.db.runs.find runId = some r := by
    intro runId r hr
    rw [hfind] at hr
    split at hr
    · rename_i hsame
      cases hr
      exact Or.inl ⟨hsame, rfl⟩
    · exact Or.inr hr
  have hback : ∀ runId, db.runs.find runId = none → w.db.runs.find runId = none := by
    intro runId hnone
    cases hw : w.db.runs.find runId with
    | none => rfl
    | some r =>
      rw [hfound runId r hw] at hnone
      cases hnone
  refine ⟨fun runId r hr hl => ?_, fun p hp => ?_, fun runId r hr => ?_, fun r hmem hnone => ?_,
    fun r hmem r' hr hl => ?_, fun runId hclaim => ?_, fun runId r hr hpub => ?_⟩
  · rcases hcases runId r hr with ⟨-, rfl⟩ | hr
    · obtain ⟨hlength, hsub⟩ := h.members_self hinv
      refine ⟨hlength, fun p hp => ?_⟩
      show Active db.consent p.userId ∧ ∃ row ∈ db.consent.consents.get? p.userId, _
      rw [hconsent]
      exact requireGranted_consented (h.granted p (hsub p hp))
    · have hkey : r.runId = runId := Table.key_of_find hr
      refine (hinv.live runId r hr hl).congr rfl rfl (h.members_ne ?_) (fun p _ hactive => ?_) fun p _ => ?_
      · rw [hkey]
        exact hold runId r hr
      · show Active db.consent p.userId
        rw [hconsent]
        exact hactive
      · show db.consent.consents.get? p.userId = _
        rw [hconsent]
  · have hp : p ∈ db.participants.rows := hp
    rw [hparticipants] at hp
    rcases List.mem_append.mp hp with hp | hp
    · obtain ⟨r, hr⟩ := hinv.owned p hp
      exact ⟨r, hfound _ r hr⟩
    · refine ⟨run, ?_⟩
      show db.runs.find p.runId = _
      rw [hfind, if_pos (h.mine p hp).symm]
  · rcases hcases runId r hr with ⟨-, rfl⟩ | hr
    · exact h.count.2
    · exact hinv.counted runId r hr
  · exact hinv.unregistered r hmem (hback _ hnone)
  · rcases hcases r.1 r' hr with ⟨hsame, -⟩ | hr
    · refine Or.inl (hinv.unregistered r hmem ?_)
      rw [← hsame]
      exact h.new
    · show r.2 = [] ∨ r.2 = participantsOf db r.1
      rw [h.members_ne (hold r.1 r' hr)]
      exact hinv.reads r hmem r' hr hl
  · have hclaim : db.claims.get? runId ≠ none := hclaim
    rw [hclaims] at hclaim
    obtain ⟨r, hr, hnot⟩ := hinv.claims runId hclaim
    exact ⟨r, hfound runId r hr, hnot⟩
  · show ∃ operationId hashes, _ ∧ _ ∧ db.checkpoints.get? runId = _
    rw [hcheckpoints]
    rcases hcases runId r hr with ⟨-, rfl⟩ | hr
    · rw [h.phase.1] at hpub
      exact Phase.noConfusion hpub
    · exact hinv.published runId r hr hpub

theorem Transits.inv (hinv : Inv w) (h : Transits P members w.db w.ledger old new db) :
    Inv ⟨db, w.ledger, w.reads⟩ := by
  obtain ⟨hparticipants, hcheckpoints, hconsent, hclaims⟩ := h.tables
  have hfound := h.locks.found
  have hcount : new.participantCount = old.participantCount := congrArg Registration.participantCount h.guards.same
  have hid : new.runId = old.runId := congrArg Registration.runId h.guards.same
  have hmembers : ∀ runId, participantsOf db runId = participantsOf w.db runId :=
    fun runId => participantsOf_congr (by rw [hparticipants])
  have hcases : ∀ runId r, db.runs.find runId = some r →
      (old.runId = runId ∧ r = new) ∨ (old.runId ≠ runId ∧ w.db.runs.find runId = some r) := by
    intro runId r hr
    rw [h.find] at hr
    split at hr
    · rename_i hsame
      cases hr
      exact Or.inl ⟨hsame, rfl⟩
    · rename_i hne
      exact Or.inr ⟨hne, hr⟩
  have hconsented : ∀ r r' : TrainingRunRow, Consented w.db r → r'.runId = r.runId →
      r'.participantCount = r.participantCount → Consented db r' := by
    intro r r' hr hrun hc
    refine hr.congr hrun hc (hmembers _) (fun p _ hactive => ?_) fun p _ => ?_
    · show Active db.consent p.userId
      rw [hconsent]
      exact hactive
    · show db.consent.consents.get? p.userId = _
      rw [hconsent]
  have hforward : ∀ runId r, w.db.runs.find runId = some r → ∃ r', db.runs.find runId = some r' ∧
      (old.runId ≠ runId → r' = r) := by
    intro runId r hr
    rw [h.find]
    split
    · rename_i hsame
      exact ⟨new, rfl, fun hne => absurd hsame hne⟩
    · exact ⟨r, hr, fun _ => rfl⟩
  refine ⟨fun runId r hr hl => ?_, fun p hp => ?_, fun runId r hr => ?_, fun r hmem hnone => ?_,
    fun r hmem r' hr hl => ?_, fun runId hclaim => ?_, fun runId r hr hpub => ?_⟩
  · rcases hcases runId r hr with ⟨-, rfl⟩ | ⟨-, hr⟩
    · exact hconsented old r (h.guards.consented h.forward) hid hcount
    · exact hconsented r r (hinv.live runId r hr hl) rfl rfl
  · have hp : p ∈ db.participants.rows := hp
    rw [hparticipants] at hp
    obtain ⟨r, hr⟩ := hinv.owned p hp
    obtain ⟨r', hr', -⟩ := hforward _ r hr
    exact ⟨r', hr'⟩
  · rcases hcases runId r hr with ⟨-, rfl⟩ | ⟨-, hr⟩
    · rw [hcount]
      exact hinv.counted _ old hfound
    · exact hinv.counted runId r hr
  · refine hinv.unregistered r hmem ?_
    cases hw : w.db.runs.find r.1 with
    | none => rfl
    | some r' =>
      obtain ⟨r'', hr'', -⟩ := hforward _ r' hw
      rw [show db.runs.find r.1 = none from hnone] at hr''
      cases hr''
  · show r.2 = [] ∨ r.2 = participantsOf db r.1
    rw [hmembers]
    rcases hcases r.1 r' hr with ⟨hsame, -⟩ | ⟨-, hr⟩
    · exact hinv.reads r hmem old (by rw [← hsame]; exact hfound) h.live
    · exact hinv.reads r hmem r' hr hl
  · have hclaim : db.claims.get? runId ≠ none := hclaim
    rw [hclaims] at hclaim
    obtain ⟨r, hr, hnot⟩ := hinv.claims runId hclaim
    obtain ⟨r', hr', hsame⟩ := hforward runId r hr
    refine ⟨r', hr', ?_⟩
    rw [hsame fun heq => ?_]
    · exact hnot
    · rw [← heq, hfound] at hr
      cases hr
      exact hnot h.live
  · show ∃ operationId hashes, _ ∧ _ ∧ db.checkpoints.get? runId = _
    rw [hcheckpoints]
    rcases hcases runId r hr with ⟨hsame, rfl⟩ | ⟨-, hr⟩
    · obtain ⟨operationId, hashes, hop, hh⟩ := h.published hpub
      have hsealed := h.guards.sealed hpub
      rw [hh, hid, hsame] at hsealed
      exact ⟨operationId, hashes, hop, hh, hsealed.symm⟩
    · exact hinv.published runId r hr hpub

theorem Seals.inv {manifest : String} (hinv : Inv w) (h : Seals P members w.db w.ledger run manifest db) :
    Inv ⟨db, w.ledger, w.reads⟩ := by
  rw [h.rows]
  refine ⟨fun runId r hr hl => ?_, hinv.owned, hinv.counted, hinv.unregistered, fun r hmem r' hr hl => ?_,
    hinv.claims, fun runId r hr hpub => ?_⟩
  · exact hinv.live runId r hr hl
  · exact hinv.reads r hmem r' hr hl
  · obtain ⟨operationId, hashes, hop, hh, hcheckpoint⟩ := hinv.published runId r hr hpub
    refine ⟨operationId, hashes, hop, hh, ?_⟩
    show (w.db.checkpoints.set run.runId manifest).get? runId = _
    rw [Dict.get?_set]
    split
    · rename_i hsame
      rw [hsame, h.new] at hcheckpoint
      cases hcheckpoint
    · exact hcheckpoint

theorem Effect.inv (hinv : Inv w) (h : Effect P w w') : Inv w' := by
  cases h with
  | others owner clock h hl hr => exact h.inv hinv hr
  | purged h => exact purge_inv hinv h
  | registered h => exact h.inv hinv
  | moved hm h => exact h.inv hinv
  | sealed hm h => exact h.inv hinv

/-- **The invariant holds in every run.** -/
theorem run_inv {events : List Event} (hinv : Inv w) (p : Path (Step P) w events w') : Inv w' :=
  p.invariant (fun _ _ _ hinv hs => hs.effect.inv hinv) hinv

/-- A registry without runs, over any policies and any ledger. -/
structure World.Fresh (w : World) : Prop where
  runs : w.db.runs.rows = []
  participants : w.db.participants.rows = []
  claims : w.db.claims.items = []
  reads : w.reads = []

theorem World.Fresh.inv (h : w.Fresh) : Inv w := by
  have hnone : ∀ runId, w.db.runs.find runId = none := by
    intro runId
    refine Table.find_none.mpr fun r hr => ?_
    rw [Table.mem_def, h.runs] at hr
    cases hr
  have hno : ∀ {runId : Uuid} {run : TrainingRunRow}, w.db.runs.find runId ≠ some run := by
    intro runId run hrun
    rw [hnone] at hrun
    cases hrun
  refine ⟨fun _ _ hrun => absurd hrun hno, fun p hp => ?_, fun _ _ hrun => absurd hrun hno, fun r hr => ?_,
    fun r hr => ?_, fun runId hclaim => absurd ?_ hclaim, fun _ _ hrun => absurd hrun hno⟩
  · rw [h.participants] at hp
    cases hp
  · rw [h.reads] at hr
    cases hr
  · rw [h.reads] at hr
    cases hr
  · unfold Dict.get?
    rw [h.claims]
    rfl

end

end AutPlay.Training
