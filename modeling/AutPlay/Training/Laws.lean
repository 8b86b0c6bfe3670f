import AutPlay.Consent.Laws
import AutPlay.Training.Runs

/-!
# The laws of training runs

* `RunStep`, `Advances`    what a step may do to a run;
* `Withdrawn`, `Stopped`   a participant that is out, and a run that is over;
* `Fallen`                 the state in between: once a run has fallen it stays so, and nothing locks it;
* `training_laws`          the laws hold in every run.
-/

set_option linter.unusedSectionVars false

namespace AutPlay.Training

open AutPlay.Sync (Uuid)
open AutPlay.Auth (UserAccountRow DeviceRow UserSessionRow Principal)
open AutPlay.Consent (Ledger requireGranted)
open AutPlay.Result

/-- The phase after a phase. -/
def Phase.next : Phase → Option Phase
  | .preparing => some .ready
  | .ready => some .running
  | .running => some .published
  | .invalidated => none
  | .published => none

/-- What a step may do to a run. -/
inductive RunStep : Option TrainingRunRow → Option TrainingRunRow → Prop
  | same (run : Option TrainingRunRow) : RunStep run run
  | registered {run : TrainingRunRow} (h : run.phase = .preparing ∧ run.revision = 1 ∧ run.datasetSha256 = none) :
      RunStep none (some run)
  | advanced {old new : TrainingRunRow} (phase : old.phase.next = some new.phase)
      (revision : new.revision = old.revision + 1) (registration : registrationOf new = registrationOf old)
      (dataset : old.datasetSha256 ≠ none → new.datasetSha256 = old.datasetSha256) :
      RunStep (some old) (some new)
  | invalidated {run : TrainingRunRow} (clock : Uuid → Int) (live : run.phase.Live) :
      RunStep (some run) (some (invalidatedRow clock run))

/-- The run is there in a phase in which it was not, and not invalidated. -/
def Advances (run run' : Option TrainingRunRow) : Prop :=
  ∃ new, run' = some new ∧ new.phase ≠ .invalidated ∧ run.map (·.phase) ≠ some new.phase

/-- The owner has withdrawn or was refused, in the ledger or in the row, or its account is not active or gone. -/
def Withdrawn (P : Authority) (w : World) (u : Uuid) : Prop :=
  (∃ i ∈ w.ledger.history.latest.get? (P.digests.ownerTag u), i.decision ≠ .granted) ∨
    (∀ row ∈ w.db.consent.consents.get? u, row.decision ≠ .granted) ∨ ¬ Active w.db.consent u

/-- No call that locks the run succeeds, and no step advances it or seals its checkpoint. -/
structure Stopped (P : Authority) (w : World) (runId : Uuid) : Prop where
  calls : ∀ now call members r, call.locks = some runId → (runId, members) ∈ w.reads →
    perform P now members w.db w.ledger call ≠ .ok r
  steps : ∀ e w', Step P w e w' → ¬ Advances (w.db.runs.find runId) (w'.db.runs.find runId) ∧
    w'.db.checkpoints.get? runId = w.db.checkpoints.get? runId

/-- **The laws of training runs** in a world. -/
structure TrainingLaws (P : Authority) (w : World) : Prop where
  /-- A run goes from phase to phase, one revision at a time, or is invalidated; its digest stays. -/
  phases : ∀ e w', Step P w e w' → ∀ runId, RunStep (w.db.runs.find runId) (w'.db.runs.find runId)
  /-- The participants of a run are those of its registration, while it is live. -/
  participants : ∀ e w', Step P w e w' → ∀ runId run, w.db.runs.find runId = some run → run.phase.Live →
    participantsOf w'.db runId = participantsOf w.db runId ∧
      (participantsOf w.db runId).length = run.participantCount
  /-- When a run advances, every participant's latest intent is a grant of the registered revision. -/
  granted : ∀ e w', Step P w e w' → ∀ runId, Advances (w.db.runs.find runId) (w'.db.runs.find runId) →
    ∀ p ∈ participantsOf w'.db runId, Granted P w.ledger p
  /-- A sealed checkpoint stays. -/
  checkpoints : ∀ e w', Step P w e w' → ∀ runId manifest, w.db.checkpoints.get? runId = some manifest →
    w'.db.checkpoints.get? runId = some manifest
  /-- A publication names the sealed checkpoint, and no other run has its operation. -/
  publications : ∀ runId run, w.db.runs.find runId = some run → run.phase = .published →
    ∃ operationId hashes, run.publicationOperationId = some operationId ∧ run.publicationHashes = some hashes ∧
      w.db.checkpoints.get? runId = some hashes.checkpointSha256 ∧
        ∀ runId' run', w.db.runs.find runId' = some run' → run'.publicationOperationId = some operationId →
          runId' = runId
  /-- A published run stays as it is. -/
  once : ∀ e w', Step P w e w' → ∀ runId run, w.db.runs.find runId = some run → run.phase = .published →
    w'.db.runs.find runId = some run
  /-- Once a participant is out, an unpublished run is over. -/
  withdrawn : ∀ runId, ∀ p ∈ participantsOf w.db runId, ∀ events w₁, Path (Step P) w events w₁ →
    (∀ run, w₁.db.runs.find runId = some run → run.phase ≠ .published) → Withdrawn P w₁ p.userId →
      ∀ events' w₂, Path (Step P) w₁ events' w₂ → Stopped P w₂ runId

section
variable {P : Authority} {db : Tables} {w w' : World} {runId : Uuid} {run old new : TrainingRunRow}
  {members rows : List TrainingParticipantRow}

/-! ## one step of a run -/

theorem Follows.next {phase phase' : Phase} (h : Follows phase phase') (hne : phase' ≠ .invalidated) :
    phase.next = some phase' := by
  rcases h with ⟨rfl, rfl | rfl⟩ | ⟨rfl, rfl | rfl⟩ | ⟨rfl, rfl | rfl⟩
  · rfl
  · exact absurd rfl hne
  · rfl
  · exact absurd rfl hne
  · rfl
  · exact absurd rfl hne

/-- **A step of a run is one of four.** -/
theorem Effect.runStep (h : Effect P w w') (runId : Uuid) :
    RunStep (w.db.runs.find runId) (w'.db.runs.find runId) := by
  cases h with
  | others owner clock h hl hr =>
    rcases h.runs runId with ⟨hsame, -⟩ | ⟨run, hrun, hlive, hnew⟩
    · rw [hsame]
      exact .same _
    · rw [hrun, hnew]
      exact .invalidated clock hlive
  | @purged userId db h =>
    show RunStep _ (db.runs.find runId)
    rw [(purge_tables h).1]
    exact .same _
  | @registered run rows db h =>
    show RunStep _ (db.runs.find runId)
    rw [h.written_ok.1]
    split
    · rename_i hsame
      rw [← hsame, h.new]
      exact .registered h.phase
    · exact .same _
  | @moved members old new db hm h =>
    show RunStep _ (db.runs.find runId)
    rw [h.find]
    split
    · rename_i hsame
      rw [← hsame, h.locks.found]
      exact .advanced (h.guards.phase.next h.forward) h.guards.revision h.guards.same h.guards.dataset
    · exact .same _
  | @sealed members run manifest db hm h =>
    rw [h.rows]
    exact .same _

theorem not_advances_same (o : Option TrainingRunRow) : ¬ Advances o o := by
  rintro ⟨new, rfl, -, hne⟩
  exact hne rfl

/-- A run advances when it is registered, or by a transition of its own. -/
theorem Effect.advances (h : Effect P w w') (ha : Advances (w.db.runs.find runId) (w'.db.runs.find runId)) :
    (∃ run rows, run.runId = runId ∧ Registers P w.db w.ledger run rows w'.db) ∨
      ∃ members old new, old.runId = runId ∧ (runId, members) ∈ w.reads ∧
        Transits P members w.db w.ledger old new w'.db := by
  cases h with
  | others owner clock h hl hr =>
    exfalso
    rcases h.runs runId with ⟨hsame, -⟩ | ⟨run, hrun, hlive, hnew⟩
    · rw [hsame] at ha
      exact not_advances_same _ ha
    · obtain ⟨new, hsome, hne, -⟩ := ha
      rw [hnew] at hsome
      cases hsome
      exact hne rfl
  | @purged userId db h =>
    have ha : Advances (w.db.runs.find runId) (db.runs.find runId) := ha
    rw [(purge_tables h).1] at ha
    exact absurd ha (not_advances_same _)
  | @registered run rows db h =>
    have ha : Advances (w.db.runs.find runId) (db.runs.find runId) := ha
    rw [h.written_ok.1] at ha
    split at ha
    · rename_i hsame
      exact Or.inl ⟨run, rows, hsame, h⟩
    · exact absurd ha (not_advances_same _)
  | @moved members old new db hm h =>
    have ha : Advances (w.db.runs.find runId) (db.runs.find runId) := ha
    rw [h.find] at ha
    split at ha
    · rename_i hsame
      exact Or.inr ⟨members, old, new, hsame, by rw [← hsame]; exact hm, h⟩
    · exact absurd ha (not_advances_same _)
  | @sealed members run manifest db hm h =>
    rw [h.rows] at ha
    exact absurd ha (not_advances_same _)

/-- A checkpoint is written by a seal of its own run. -/
theorem Effect.checkpoint (h : Effect P w w') (runId : Uuid) :
    w'.db.checkpoints.get? runId = w.db.checkpoints.get? runId ∨
      ∃ members run manifest, run.runId = runId ∧ (runId, members) ∈ w.reads ∧
        Seals P members w.db w.ledger run manifest w'.db := by
  cases h with
  | others owner clock h hl hr => exact Or.inl (by rw [h.checkpoints])
  | purged h => exact Or.inl (by rw [(purge_tables h).2.2.1])
  | registered h => exact Or.inl (by rw [h.written_ok.2.2.1])
  | moved hm h => exact Or.inl (by rw [h.tables.2.1])
  | @sealed members run manifest db hm h =>
    by_cases hsame : run.runId = runId
    · exact Or.inr ⟨members, run, manifest, hsame, by rw [← hsame]; exact hm, h⟩
    · refine Or.inl ?_
      show db.checkpoints.get? runId = _
      rw [h.rows]
      exact Dict.get?_set_ne _ _ fun heq => hsame heq.symm

/-! ## what a call has read -/

/-- The participants that a call has read before its locks are the run's. -/
theorem Locks.members_eq (hinv : Inv w) (h : Locks P members w.db w.ledger runId run)
    (hm : (runId, members) ∈ w.reads) (hlive : run.phase.Live) : members = participantsOf w.db runId := by
  rcases hinv.reads _ hm run h.found hlive with hnil | hsame
  · have hlength := (h.members (live_ne_published hlive)).2.1
    have hcount := hinv.counted runId run h.found
    have hnil : members = [] := hnil
    rw [hnil] at hlength
    have hlength : 0 = run.participantCount := hlength
    omega
  · exact hsame

theorem Locks.granted (hinv : Inv w) (h : Locks P members w.db w.ledger runId run)
    (hm : (runId, members) ∈ w.reads) (hlive : run.phase.Live) :
    ∀ p ∈ participantsOf w.db runId, Granted P w.ledger p := by
  intro p hp
  rw [← h.members_eq hinv hm hlive] at hp
  exact requireGranted_granted ((h.members (live_ne_published hlive)).2.2 p hp)

/-! ## fallen runs -/

/-- The run is invalidated, or the ledger no longer has a participant's grant. -/
def Fallen (P : Authority) (w : World) (runId : Uuid) : Prop :=
  ∃ run, w.db.runs.find runId = some run ∧
    (run.phase = .invalidated ∨ run.phase.Live ∧ ∃ p ∈ participantsOf w.db runId, ¬ Granted P w.ledger p)

theorem Fallen.not_locks (hinv : Inv w) (h : Fallen P w runId) (hm : (runId, members) ∈ w.reads) :
    ¬ Locks P members w.db w.ledger runId run := by
  intro hl
  obtain ⟨run', hrun, hcase⟩ := h
  rw [hl.found] at hrun
  cases hrun
  rcases hcase with hinvalid | ⟨hlive, p, hp, hno⟩
  · refine (hl.members fun hpub => ?_).1 hinvalid
    rw [hinvalid] at hpub
    exact Phase.noConfusion hpub
  · exact hno (hl.granted hinv hm hlive p hp)

theorem Fallen.stopped (hinv : Inv w) (h : Fallen P w runId) : Stopped P w runId := by
  refine ⟨fun now call members ⟨answer, db'⟩ hlocks hm hr => ?_, fun e w' hs => ⟨fun ha => ?_, ?_⟩⟩
  · obtain ⟨run, hl⟩ := (perform_cases hr).1 runId hlocks
    exact h.not_locks hinv hm hl
  · rcases hs.effect.advances ha with ⟨run, rows, hsame, hreg⟩ | ⟨members, old, new, hsame, hm, ht⟩
    · obtain ⟨run', hrun, -⟩ := h
      have hnew := hreg.new
      rw [hsame, hrun] at hnew
      cases hnew
    · have hl := ht.locks
      rw [hsame] at hl
      exact h.not_locks hinv hm hl
  · rcases hs.effect.checkpoint runId with hsame | ⟨members, run, manifest, hsame, hm, hseal⟩
    · exact hsame
    · have hl := hseal.locks
      rw [hsame] at hl
      exact absurd hl (h.not_locks hinv hm)

/-- **A fallen run stays fallen**: a grant that comes back has another revision. -/
theorem Fallen.step (hinv : Inv w) (h : Fallen P w runId) (hs : Effect P w w') : Fallen P w' runId := by
  have hstopped := h
  obtain ⟨run, hrun, hcase⟩ := h
  have hmembers : run.phase.Live → participantsOf w'.db runId = participantsOf w.db runId :=
    fun hlive => hs.members_kept hinv hrun hlive
  -- the row is the same where the ledger is
  have hkeep : w'.db.runs.find runId = w.db.runs.find runId → w'.ledger = w.ledger → Fallen P w' runId := by
    intro hfind hledger
    refine ⟨run, hfind.trans hrun, hcase.imp_right fun ⟨hlive, p, hp, hno⟩ => ⟨hlive, p, ?_, ?_⟩⟩
    · rw [hmembers hlive]
      exact hp
    · rw [hledger]
      exact hno
  cases hs with
  | others owner clock h hl hr =>
    rcases h.runs runId with ⟨hsame, -⟩ | ⟨run', -, -, hnew⟩
    · refine ⟨run, hsame.trans hrun, hcase.imp_right fun ⟨hlive, p, hp, hno⟩ => ⟨hlive, p, ?_, ?_⟩⟩
      · rw [hmembers hlive]
        exact hp
      · intro hg
        have hkey : run.runId = runId := Table.key_of_find hrun
        obtain ⟨-, row, hrow, -, hrevision, -⟩ := (hinv.live runId run hrun hlive).2 p (by rw [hkey]; exact hp)
        exact hno (hl p row hrow hrevision hg)
    · exact ⟨_, hnew, Or.inl rfl⟩
  | @purged userId db h => exact hkeep (by rw [show db.runs = w.db.runs from (purge_tables h).1]) rfl
  | @registered run' rows db h =>
    refine hkeep ?_ rfl
    show db.runs.find runId = _
    rw [h.written_ok.1, if_neg]
    intro hsame
    have hnew := h.new
    rw [hsame, hrun] at hnew
    cases hnew
  | @moved members old new db hm h =>
    refine hkeep ?_ rfl
    show db.runs.find runId = _
    rw [h.find, if_neg]
    intro hsame
    have hl := h.locks
    rw [hsame] at hl hm
    exact hstopped.not_locks hinv hm hl
  | @sealed members run' manifest db hm h => exact hkeep (by rw [show db.runs = w.db.runs from by rw [h.rows]]) rfl

theorem Fallen.stays (hinv : Inv w) (h : Fallen P w runId) {events : List Event} (p : Path (Step P) w events w') :
    Fallen P w' runId :=
  (p.invariant (I := fun w => Inv w ∧ Fallen P w runId)
    (fun _ _ _ ⟨hinv, h⟩ hs => ⟨hs.effect.inv hinv, h.step hinv hs.effect⟩) ⟨hinv, h⟩).2

/-- A registered participant is one as long as the run is live. -/
theorem participant_stays (hinv : Inv w) {p : TrainingParticipantRow} (hp : p ∈ participantsOf w.db runId)
    {events : List Event} (path : Path (Step P) w events w') :
    ∃ run, w'.db.runs.find runId = some run ∧ (run.phase.Live → p ∈ participantsOf w'.db runId) := by
  have hstart : ∃ run, w.db.runs.find runId = some run ∧ (run.phase.Live → p ∈ participantsOf w.db runId) := by
    obtain ⟨hmem, hrun⟩ := mem_participantsOf.mp hp
    obtain ⟨run, hfound⟩ := hinv.owned p hmem
    rw [hrun] at hfound
    exact ⟨run, hfound, fun _ => hp⟩
  refine (path.invariant (I := fun w => Inv w ∧ ∃ run, w.db.runs.find runId = some run ∧
    (run.phase.Live → p ∈ participantsOf w.db runId)) ?_ ⟨hinv, hstart⟩).2
  rintro w e w' ⟨hinv, run, hrun, hkeep⟩ hs
  refine ⟨hs.effect.inv hinv, ?_⟩
  have hstep := hs.effect.runStep runId
  rw [hrun] at hstep
  generalize hnew : w'.db.runs.find runId = o at hstep
  have hback : run.phase.Live → p ∈ participantsOf w'.db runId := by
    intro hlive
    rw [hs.effect.members_kept hinv hrun hlive]
    exact hkeep hlive
  cases hstep with
  | same => exact ⟨run, rfl, hback⟩
  | @advanced old new phase revision registration dataset =>
    refine ⟨new, rfl, fun _ => hback ?_⟩
    cases hphase : run.phase with
    | preparing => exact Or.inl rfl
    | ready => exact Or.inr (Or.inl rfl)
    | running => exact Or.inr (Or.inr rfl)
    | invalidated =>
      rw [hphase] at phase
      cases phase
    | published =>
      rw [hphase] at phase
      cases phase
  | invalidated clock live => exact ⟨_, rfl, fun hlive => absurd hlive not_live_invalidated⟩

/-- **A participant that is out fells the run.** -/
theorem Withdrawn.fallen (hinv : Inv w) {p : TrainingParticipantRow} (hrun : w.db.runs.find runId = some run)
    (hp : run.phase.Live → p ∈ participantsOf w.db runId) (hne : run.phase ≠ .published)
    (h : Withdrawn P w p.userId) : Fallen P w runId := by
  refine ⟨run, hrun, ?_⟩
  by_cases hlive : run.phase.Live
  · -- the rows of a live run's participants all say granted, so that the ledger is ahead of them
    have hkey : run.runId = runId := Table.key_of_find hrun
    obtain ⟨hactive, row, hrow, hgranted, -⟩ := (hinv.live runId run hrun hlive).2 p (by rw [hkey]; exact hp hlive)
    refine Or.inr ⟨hlive, p, hp hlive, ?_⟩
    rcases h with ⟨i, hi, hdecision⟩ | hrows | hgone
    · rintro ⟨i', hi', hdecision', -⟩
      rw [Option.mem_def] at hi hi'
      rw [hi] at hi'
      cases hi'
      exact hdecision hdecision'
    · exact absurd hgranted (hrows row hrow)
    · exact absurd hactive hgone
  · refine Or.inl ?_
    cases hphase : run.phase with
    | preparing => exact absurd (Or.inl hphase) hlive
    | ready => exact absurd (Or.inr (Or.inl hphase)) hlive
    | running => exact absurd (Or.inr (Or.inr hphase)) hlive
    | invalidated => rfl
    | published => exact absurd hphase hne

/-! ## the laws -/

theorem Inv.laws (hinv : Inv w) : TrainingLaws P w := by
  refine ⟨fun e w' hs runId => hs.effect.runStep runId, fun e w' hs runId run hrun hlive => ⟨?_, ?_⟩,
    fun e w' hs runId ha p hp => ?_, fun e w' hs runId manifest hm => ?_, fun runId run hrun hpub => ?_,
    fun e w' hs runId run hrun hpub => ?_, fun runId p hp events w₁ path hne hout events' w₂ path' => ?_⟩
  · exact hs.effect.members_kept hinv hrun hlive
  · have hkey : run.runId = runId := Table.key_of_find hrun
    rw [← hkey]
    exact (hinv.live runId run hrun hlive).1
  · rcases hs.effect.advances ha with ⟨run, rows, hsame, hreg⟩ | ⟨members, old, new, hsame, hm, ht⟩
    · rw [← hsame] at hp
      exact requireGranted_granted (hreg.granted p ((hreg.members_self hinv).2 p hp))
    · have hl := ht.locks
      rw [hsame] at hl
      have hmembers : participantsOf w'.db runId = participantsOf w.db runId :=
        participantsOf_congr (by rw [ht.tables.1])
      rw [hmembers] at hp
      exact hl.granted hinv hm ht.live p hp
  · rcases hs.effect.checkpoint runId with hsame | ⟨members, run, manifest', hsame, -, hseal⟩
    · rw [hsame, hm]
    · have hnew := hseal.new
      rw [hsame, hm] at hnew
      cases hnew
  · obtain ⟨operationId, hashes, hop, hh, hcheckpoint⟩ := hinv.published runId run hrun hpub
    refine ⟨operationId, hashes, hop, hh, hcheckpoint, fun runId' run' hrun' hop' => ?_⟩
    have hsome : Schema.index run ≠ none := by
      show run.publicationOperationId ≠ none
      rw [hop]
      exact Option.some_ne_none _
    have hindex : Schema.index run = Schema.index run' := hop.trans hop'.symm
    have heq := Table.eq_of_index (Table.mem_of_find hrun) (Table.mem_of_find hrun') hsome hindex
    rw [← heq] at hrun'
    exact (Table.key_of_find hrun').symm.trans (Table.key_of_find hrun)
  · have hstep := hs.effect.runStep runId
    rw [hrun] at hstep
    generalize w'.db.runs.find runId = o at hstep
    cases hstep with
    | same => rfl
    | advanced phase revision registration dataset =>
      rw [hpub] at phase
      cases phase
    | invalidated clock live => exact absurd hpub (live_ne_published live)
  · have hinv₁ := run_inv hinv path
    obtain ⟨run, hrun, hstays⟩ := participant_stays hinv hp path
    have hfallen := Withdrawn.fallen hinv₁ hrun hstays (hne run hrun) hout
    exact (hfallen.stays hinv₁ path').stopped (run_inv hinv₁ path')

/-- **Training never advances on withdrawn data**: over any sequence of calls, decisions, guards, purges and
changes of accounts. -/
theorem training_laws {w₀ : World} {events : List Event} (h : w₀.Fresh) (p : Path (Step P) w₀ events w) :
    TrainingLaws P w :=
  (run_inv h.inv p).laws

end

/-! ## a registration -/

namespace Sample

def runId : Uuid := ⟨"00000000-0000-0000-0000-000000000011", by decide +kernel⟩

def server : Uuid := ⟨"00000000-0000-0000-0000-000000000012", by decide +kernel⟩

def authority : Authority where
  digests := Consent.Sample.digests
  serverInstanceId := server
  identityEpoch := 1
  lineageKeyId := "key"
  ownerTag u := u.text
  registrationSha256 _ := Consent.Sample.digest
  bindingSha256 _ := Consent.Sample.digest
  publicationSha256 _ := Consent.Sample.digest

/-- No run yet, and one owner whose grant has the first revision. -/
def world : World where
  db := ⟨Consent.Sample.granted.db, Dict.empty.set server 1, Table.empty, Table.empty, Dict.empty, Dict.empty, []⟩
  ledger := Consent.Sample.granted.ledger
  reads := []

def participants : Dict Uuid Int := Dict.empty.set Consent.Sample.owner 1

theorem ownersOf_participants : ownersOf participants = [(Consent.Sample.owner, 1)] := by
  unfold ownersOf
  exact List.mergeSort_singleton _

theorem registers : ∃ r, perform authority 5 [] world.db world.ledger
      (.register runId Consent.Sample.digest participants) = .ok r ∧
    (r.2.runs.find runId).map (fun run => (run.phase, run.revision)) = some (.preparing, 1) := by
  simp only [perform, register, ownersOf_participants]
  exact ⟨_, rfl, rfl⟩

end Sample

/-- The laws after a registration. -/
theorem training_laws_registered : ∃ w, (w.db.runs.find Sample.runId).map (fun run => (run.phase, run.revision)) =
    some (.preparing, 1) ∧ TrainingLaws Sample.authority w := by
  obtain ⟨⟨answer, db⟩, hcall, hrun⟩ := Sample.registers
  refine ⟨⟨db, Sample.world.ledger, Sample.world.reads⟩, hrun, ?_⟩
  have hfresh : Sample.world.Fresh := ⟨rfl, rfl, rfl, rfl⟩
  exact training_laws hfresh (.cons (.called (fun runId h => (by cases h)) hcall) (.nil _))

end AutPlay.Training
