import AutPlay.Discovery.Lineage
import AutPlay.Lib.Run

/-!
# Runs of acquisitions

* `claimAcquisition_lineage`, `prepareIngest_lineage`, `failAcquisition_lineage`, …   the steps of a worker;
* `AcquisitionEvent`, `acquisitionStep`     what may happen, in transactions;
* `spared`                                  no failure is reported after the hand-off;
* `lineage_runs`                            the lineage stays consistent in every such run.
-/

set_option linter.unusedSectionVars false

namespace AutPlay.Discovery

open AutPlay.Sync (Uuid)
open AutPlay.Result (bind_eq_ok)

section
variable {base : AttemptId → Option UploadSessionRow} {now : Int} {owner : Uuid} {db db' : DiscoveryDb}
  {id : CandidateId} {c : DiscoveryCandidateRow} {fence : LeaseFence} {attemptId : AttemptId}
  {attempt : AcquisitionAttemptRow}

/-! ## what the checks of a worker say -/

/-- Counting the operations again writes operations only. -/
theorem refreshBulkOperations_frame (now : Int) (id : CandidateId) (db : DiscoveryDb) :
    refreshBulkOperations now id db = { db with operations := (refreshBulkOperations now id db).operations } := by
  unfold refreshBulkOperations
  generalize (db.items.items.filter fun e => e.1.2 = id).map (fun e => e.1.1) = bulks
  induction bulks generalizing db with
  | nil => rfl
  | cons bulk bulks ih =>
    rw [List.foldl_cons]
    have hone : refreshOperation now db bulk =
        { db with operations := (refreshOperation now db bulk).operations } := by
      unfold refreshOperation
      split
      · rfl
      · split
        · rfl
        · rfl
    rw [hone]
    exact ih _

theorem Lineage.refresh (h : Lineage base db) (now : Int) (id : CandidateId) :
    Lineage base (refreshBulkOperations now id db) := by
  have hframe := refreshBulkOperations_frame now id db
  exact h.congr (by rw [hframe]) (by rw [hframe]) fun _ _ => by rw [hframe]

theorem leasedCandidate_eq_some (h : leasedCandidate db owner id fence = some c) :
    db.candidates.get? id = some c ∧ c.userId = owner ∧ c.jobId = some fence.jobId := by
  unfold leasedCandidate at h
  obtain ⟨howned, hjob⟩ := Option.filter_eq_some_iff.mp h
  obtain ⟨hc, huser⟩ := ownedCandidate_eq_some.mp howned
  exact ⟨hc, huser, of_decide_eq_true hjob⟩

/-- The attempt that a worker goes on with is active, and its candidate names it. -/
structure Working (db : DiscoveryDb) (id : CandidateId) (c : DiscoveryCandidateRow) (attemptId : AttemptId)
    (attempt : AcquisitionAttemptRow) : Prop where
  stored : db.attempts.get? attemptId = some attempt
  candidate : attempt.candidateId = id
  active : attempt.state.isActive = true
  names : Names c attemptId attempt

theorem requireCurrentAttempt_ok {f : Option LeaseFence}
    (h : requireCurrentAttempt now id c f db = .ok (attemptId, attempt)) :
    Working db id c attemptId attempt := by
  unfold requireCurrentAttempt at h
  obtain ⟨a, ha, h⟩ := bind_eq_ok.mp h
  obtain ⟨row, hrow, h⟩ := bind_eq_ok.mp h
  obtain ⟨⟨⟩, hcurrent, h⟩ := bind_eq_ok.mp h
  obtain ⟨⟨⟩, -, h⟩ := bind_eq_ok.mp h
  obtain ⟨authorization, -, h⟩ := bind_eq_ok.mp h
  obtain ⟨⟨⟩, -, h⟩ := bind_eq_ok.mp h
  obtain ⟨⟨⟩, -, h⟩ := bind_eq_ok.mp h
  obtain ⟨⟨⟩, -, h⟩ := bind_eq_ok.mp h
  obtain ⟨⟨⟩, -, h⟩ := bind_eq_ok.mp h
  cases h
  obtain ⟨hcandidate, hjob, -, hactive, hauthorization, hrevision⟩ := check_eq_ok.mp hcurrent
  exact ⟨need_eq_ok.mp hrow, hcandidate, hactive, need_eq_ok.mp ha, hjob.symm, hauthorization, hrevision⟩

/-- What a worker finds of its upload. -/
theorem Lineage.working_upload (h : Lineage base db) (hc : db.candidates.get? id = some c)
    (hw : Working db id c attemptId attempt) {u : UploadSessionRow} (hu : db.uploads.get? attemptId = some u) :
    c.acquisitionState ∈ handedOver ∧ u.sourceAcquisitionAttemptId = attemptId ∧ u.sourceCandidateId = id := by
  obtain ⟨hsource, stored, hstored, hsame⟩ := h.uploads attemptId u hu
  rw [hw.stored] at hstored
  cases hstored
  refine ⟨h.handed attemptId attempt u c hw.stored hw.active hu ?_, hsource, hsame.symm.trans hw.candidate⟩
  rw [hw.candidate]
  exact hc

/-- **A worker writes candidate and attempt.** -/
theorem Lineage.work {c' : DiscoveryCandidateRow} {attempt' : AcquisitionAttemptRow} (h : Lineage base db)
    (hc : db.candidates.get? id = some c) (hw : Working db id c attemptId attempt)
    (hcandidate : attempt'.candidateId = id)
    (hafter : attempt'.state.isActive = true → Names c' attemptId attempt' ∧ c'.acquisitionState ∈ underWay)
    (hupload : attempt'.state.isActive = true → ∀ u, db.uploads.get? attemptId = some u →
      c'.acquisitionState ∈ handedOver) : Lineage base (db.withAttempt id c' attemptId attempt') := by
  have hsame := hw.candidate
  subst hsame
  refine h.advance hc hw.stored hw.names.current hcandidate hafter (Dict.get?_set_self _ _ _)
    (fun a ha => Dict.get?_set_ne _ _ ha) rfl (fun _ _ => rfl) (fun _ hu => hu) fun u hu => ?_
  obtain ⟨-, hsource, hid⟩ := h.working_upload hc hw hu
  exact ⟨⟨hsource, hid.symm⟩, fun hactive => hupload hactive u hu⟩

/-! ## the steps of a worker -/

/-- A candidate that is ready or whose upload was handed over is put back nowhere. -/
def notPutBack (db db' : DiscoveryDb) : Prop :=
  ∀ id c c', db.candidates.get? id = some c → db'.candidates.get? id = some c' →
    (c.acquisitionState = .ready ∨ ∃ a u, c.currentAcquisitionAttemptId = some a ∧ db.uploads.get? a = some u) →
    c'.acquisitionState ∈ [AcquisitionState.acquiring, .retryWait, .failedTerminal] →
    c'.acquisitionState = c.acquisitionState

theorem notPutBack.refl : notPutBack db db := by
  intro id c c' hc hc' _ _
  rw [hc] at hc'
  cases hc'
  rfl

/-- Only one candidate was written, and it was neither ready nor handed over. -/
theorem notPutBack.of_set {c' : DiscoveryCandidateRow} (hcandidates : db'.candidates = db.candidates.set id c')
    (hc : db.candidates.get? id = some c) (hready : c.acquisitionState ≠ .ready)
    (hupload : ∀ a u, c.currentAcquisitionAttemptId = some a → db.uploads.get? a ≠ some u) :
    notPutBack db db' := by
  intro other d d' hd hd' hdone hback
  by_cases he : other = id
  · subst he
    rw [hc] at hd
    cases hd
    rcases hdone with hdone | ⟨a, u, ha, hu⟩
    · exact absurd hdone hready
    · exact absurd hu (hupload a u ha)
  · rw [hcandidates, Dict.get?_set_ne _ _ he, hd] at hd'
    cases hd'
    rfl

theorem not_ready_of_underWay {state : AcquisitionState} (h : state ∈ underWay) : state ≠ .ready := by
  rintro rfl
  exact absurd h (by decide)

theorem Lineage.working_state (h : Lineage base db) (hc : db.candidates.get? id = some c)
    (hw : Working db id c attemptId attempt) : c.acquisitionState ∈ underWay := by
  have hsame := hw.candidate
  subst hsame
  obtain ⟨c₁, hc₁, -, hstate⟩ := h.current attemptId attempt hw.stored hw.active
  rw [hc] at hc₁
  cases hc₁
  exact hstate

/-- **Claiming** keeps the lineage. -/
theorem claimAcquisition_lineage {automaticEnabled : Bool} {target : Option AcquisitionTarget}
    (h : Lineage base db)
    (hrun : claimAcquisition now owner id fence automaticEnabled db = .ok (target, db')) :
    Lineage base db' ∧ notPutBack db db' := by
  unfold claimAcquisition at hrun
  obtain ⟨⟨⟩, -, hrun⟩ := bind_eq_ok.mp hrun
  obtain ⟨c, hc, hrun⟩ := bind_eq_ok.mp hrun
  obtain ⟨⟨⟩, -, hrun⟩ := bind_eq_ok.mp hrun
  obtain ⟨⟨attemptId, attempt⟩, hattempt, hrun⟩ := bind_eq_ok.mp hrun
  obtain ⟨⟨⟩, -, hrun⟩ := bind_eq_ok.mp hrun
  obtain ⟨⟨⟩, -, hrun⟩ := bind_eq_ok.mp hrun
  split at hrun
  · cases hrun
    exact ⟨h, .refl⟩
  split at hrun
  · obtain ⟨⟨⟩, -, hrun⟩ := bind_eq_ok.mp hrun
    cases hrun
    exact ⟨h, .refl⟩
  · rename_i hready hhanded
    obtain ⟨⟨⟩, hstate, hrun⟩ := bind_eq_ok.mp hrun
    obtain ⟨-, -, hrun⟩ := bind_eq_ok.mp hrun
    cases hrun
    obtain ⟨hc, -, -⟩ := leasedCandidate_eq_some (need_eq_ok.mp hc)
    have hw := requireCurrentAttempt_ok hattempt
    refine ⟨Lineage.refresh ?_ now id, ?_⟩
    · refine h.work hc hw ?_ (fun _ => ⟨?_, ?_⟩) fun _ u hu => ?_
      · exact hw.candidate
      · exact ⟨hw.names.current, hw.names.job, hw.names.authorization, hw.names.revision⟩
      · exact List.mem_cons_of_mem _ List.mem_cons_self
      · exact absurd (h.working_upload hc hw hu).1 hhanded
    · refine notPutBack.of_set (by rw [refreshBulkOperations_frame]; rfl) hc hready fun a u ha hu => ?_
      rw [hw.names.current] at ha
      cases ha
      exact hhanded (h.working_upload hc hw hu).1

/-- **A reported failure** keeps the lineage while nothing was handed over. -/
theorem failAcquisition_lineage {errorCode : String} {terminal : Bool} (h : Lineage base db)
    (hspared : ∀ c a, db.candidates.get? id = some c → c.currentAcquisitionAttemptId = some a →
      db.uploads.get? a = none)
    (hrun : failAcquisition now owner id fence errorCode terminal db = .ok db') :
    Lineage base db' ∧ notPutBack db db' := by
  unfold failAcquisition at hrun
  obtain ⟨⟨⟩, -, hrun⟩ := bind_eq_ok.mp hrun
  obtain ⟨c, hc, hrun⟩ := bind_eq_ok.mp hrun
  obtain ⟨⟨attemptId, attempt⟩, hattempt, hrun⟩ := bind_eq_ok.mp hrun
  obtain ⟨⟨⟩, -, hrun⟩ := bind_eq_ok.mp hrun
  obtain ⟨authorization, -, hrun⟩ := bind_eq_ok.mp hrun
  obtain ⟨⟨⟩, -, hrun⟩ := bind_eq_ok.mp hrun
  cases hrun
  obtain ⟨hc, -, -⟩ := leasedCandidate_eq_some (need_eq_ok.mp hc)
  have hw := requireCurrentAttempt_ok hattempt
  have hnone := hspared c attemptId hc hw.names.current
  refine ⟨Lineage.refresh ?_ now id, ?_⟩
  · refine h.work hc hw ?_ (fun hactive => ⟨?_, ?_⟩) fun _ u hu => ?_
    · exact hw.candidate
    · exact ⟨hw.names.current, hw.names.job, hw.names.authorization, hw.names.revision⟩
    · cases terminal with
      | true => cases hactive
      | false =>
        show AcquisitionState.retryWait ∈ underWay
        decide
    · rw [hnone] at hu
      cases hu
  · refine notPutBack.of_set (by rw [refreshBulkOperations_frame]; rfl) hc
      (not_ready_of_underWay (h.working_state hc hw)) fun a u ha hu => ?_
    rw [hw.names.current] at ha
    cases ha
    rw [hnone] at hu
    cases hu

/-- What the hand-off writes. -/
structure HandedOff (db : DiscoveryDb) (id : CandidateId) (c : DiscoveryCandidateRow) (attemptId : AttemptId)
    (prepared : AcquisitionPrepared) (c' : DiscoveryCandidateRow) (upload : UploadSessionRow)
    (db' : DiscoveryDb) : Prop where
  fresh : db.uploads.get? attemptId = none
  prepared : prepared.uploadSessionId = attemptId
  source : upload.sourceAcquisitionAttemptId = attemptId ∧ upload.sourceCandidateId = id
  names : ∀ row, Names c attemptId row → Names c' attemptId row
  state : c'.acquisitionState = .ingesting
  attempts : db'.attempts = db.attempts
  candidates : db'.candidates = db.candidates.set id c'
  uploads : db'.uploads = db.uploads.set attemptId upload

theorem createIngestLocked_ok {evidence : TrackEvidence} {stagingKey : String} {identity : Option Materialized}
    {prepared : AcquisitionPrepared} {c' : DiscoveryCandidateRow}
    (h : createIngestLocked now id c attemptId evidence stagingKey identity db = .ok (prepared, c', db')) :
    ∃ upload, HandedOff db id c attemptId prepared c' upload db' := by
  unfold createIngestLocked at h
  obtain ⟨found, -, h⟩ := bind_eq_ok.mp h
  obtain ⟨⟨ingestJobId, jobs⟩, -, h⟩ := bind_eq_ok.mp h
  dsimp only at h
  split at h
  · cases h
  · rename_i hnew
    cases h
    have hfresh : db.uploads.get? attemptId = none :=
      Option.not_isSome_iff_eq_none.mp fun hhas => hnew (Or.inl hhas)
    refine ⟨⟨c.userId, id, attemptId, found.recordingId, stagingKey, some ingestJobId⟩, hfresh, rfl, ⟨rfl, rfl⟩,
      fun row hn => ⟨hn.current, hn.job, hn.authorization, hn.revision⟩, rfl, ?_, ?_, ?_⟩
    · rw [refreshBulkOperations_frame]
    · rw [refreshBulkOperations_frame]
    · rw [refreshBulkOperations_frame]

/-- The attempt has an upload, and it is under way. -/
structure Prepared (db : DiscoveryDb) (id : CandidateId) (attemptId : AttemptId) : Prop where
  upload : ∃ u, db.uploads.get? attemptId = some u ∧ u.sourceCandidateId = id
  attempt : ∃ row, db.attempts.get? attemptId = some row ∧ row.state.isActive = true

/-- **The hand-off** keeps the lineage, and its attempt has an upload then. -/
theorem prepareIngest_lineage {evidence : SearchEvidence} {stagingKey : String}
    {identity : Option Materialized} {prepared : AcquisitionPrepared} (h : Lineage base db)
    (hrun : prepareIngest now owner id fence evidence stagingKey identity db = .ok (prepared, db')) :
    Lineage base db' ∧ notPutBack db db' ∧ Prepared db' id prepared.uploadSessionId := by
  unfold prepareIngest at hrun
  obtain ⟨⟨⟩, -, hrun⟩ := bind_eq_ok.mp hrun
  obtain ⟨⟨⟩, -, hrun⟩ := bind_eq_ok.mp hrun
  obtain ⟨⟨⟩, -, hrun⟩ := bind_eq_ok.mp hrun
  obtain ⟨c, hc, hrun⟩ := bind_eq_ok.mp hrun
  obtain ⟨⟨⟩, -, hrun⟩ := bind_eq_ok.mp hrun
  obtain ⟨⟨attemptId, attempt⟩, hattempt, hrun⟩ := bind_eq_ok.mp hrun
  obtain ⟨⟨⟩, -, hrun⟩ := bind_eq_ok.mp hrun
  obtain ⟨hc, -, -⟩ := leasedCandidate_eq_some (need_eq_ok.mp hc)
  have hw := requireCurrentAttempt_ok hattempt
  have hsame := hw.candidate
  dsimp only at hrun
  split at hrun
  · rename_i uploadSessionId upload hupload
    obtain ⟨jobId, -, hrun⟩ := bind_eq_ok.mp hrun
    cases hrun
    obtain ⟨hmem, hsource⟩ := find?_of_eq_some hupload
    have hu : db.uploads.get? uploadSessionId = some upload := Dict.get?_eq_some.mpr hmem
    have hkey : uploadSessionId = attemptId :=
      (h.uploads _ _ hu).1.symm.trans (of_decide_eq_true hsource)
    subst hkey
    exact ⟨h, .refl, ⟨upload, hu, (h.working_upload hc hw hu).2.2⟩, attempt, hw.stored, hw.active⟩
  · obtain ⟨⟨prepared', ingesting, db₁⟩, hcreate, hrun⟩ := bind_eq_ok.mp hrun
    obtain ⟨-, -, hrun⟩ := bind_eq_ok.mp hrun
    cases hrun
    obtain ⟨upload, ho⟩ := createIngestLocked_ok hcreate
    subst hsame
    refine ⟨?_, ?_, ⟨upload, ?_, ho.source.2⟩, attempt, ?_, hw.active⟩
    · refine h.advance hc hw.stored hw.names.current rfl (fun _ => ⟨ho.names _ hw.names, ?_⟩)
        (by rw [ho.attempts]; exact hw.stored) (fun a _ => by rw [ho.attempts]) ho.candidates
        (fun a ha => by rw [ho.uploads, Dict.get?_set_ne _ _ ha]) (fun u hu => ?_) fun u hu => ?_
      · rw [ho.state]
        decide
      · rw [ho.fresh] at hu
        cases hu
      · rw [ho.uploads, Dict.get?_set_self] at hu
        cases hu
        refine ⟨⟨ho.source.1, ho.source.2.symm⟩, fun _ => ?_⟩
        rw [ho.state]
        decide
    · intro other d d' hd hd' _ hback
      by_cases he : other = attempt.candidateId
      · rw [he, ho.candidates, Dict.get?_set_self] at hd'
        cases hd'
        rw [ho.state] at hback
        exact absurd hback (by decide)
      · rw [ho.candidates, Dict.get?_set_ne _ _ he, hd] at hd'
        cases hd'
        rfl
    · rw [ho.prepared, ho.uploads, Dict.get?_set_self]
    · rw [ho.prepared, ho.attempts]
      exact hw.stored

/-! ## ends of attempts -/

theorem cancelAttempt_lineage {entry : AttemptId × AcquisitionAttemptRow} (h : Lineage base db)
    (hentry : ∀ old, db.attempts.get? entry.1 = some old → old.candidateId = entry.2.candidateId) :
    Lineage base (cancelAttempt now db entry) := by
  obtain ⟨attemptId, attempt⟩ := entry
  unfold cancelAttempt
  dsimp only
  split
  · refine h.finish ?_ ?_ rfl rfl fun _ _ hc _ => hc
    · rfl
    · exact hentry
  · rename_i candidate hcandidate
    refine h.finish ?_ ?_ rfl rfl fun other c hc hcurrent => ?_
    · rfl
    · exact hentry
    · by_cases he : other = attempt.candidateId
      · subst he
        rw [hcandidate] at hc
        cases hc
        show (db.candidates.set _ _).get? _ = _
        rw [Dict.get?_set_self, if_neg fun hboth => hcurrent hboth.1]
      · exact (Dict.get?_set_ne _ _ he).trans hc

/-- Cancelling keeps what the rows say of their candidates. -/
theorem cancelAttempt_candidate {entry : AttemptId × AcquisitionAttemptRow} {other : AttemptId}
    {row : AcquisitionAttemptRow} (hrow : (cancelAttempt now db entry).attempts.get? other = some row) :
    (other = entry.1 ∧ row.candidateId = entry.2.candidateId) ∨ db.attempts.get? other = some row := by
  obtain ⟨attemptId, attempt⟩ := entry
  unfold cancelAttempt at hrow
  dsimp only at hrow
  have hset : ∃ closed : AcquisitionAttemptRow, closed.candidateId = attempt.candidateId ∧
      (db.attempts.set attemptId closed).get? other = some row := by
    split at hrow
    · refine ⟨_, ?_, hrow⟩
      rfl
    · refine ⟨_, ?_, hrow⟩
      rfl
  obtain ⟨closed, hclosed, hrow⟩ := hset
  rw [Dict.get?_set] at hrow
  split at hrow
  · rename_i he
    cases hrow
    exact Or.inl ⟨he, hclosed⟩
  · exact Or.inr hrow

/-- **Cancelling the automatic work of a policy** keeps the lineage. -/
theorem cancelAutoWork_lineage {policyId : Uuid} (h : Lineage base db) :
    Lineage base (cancelAutoWork now policyId db) := by
  unfold cancelAutoWork
  dsimp only
  have hall : ∀ (entries : List (AttemptId × AcquisitionAttemptRow)) (db₁ : DiscoveryDb), Lineage base db₁ →
      (∀ entry ∈ entries, ∀ old, db₁.attempts.get? entry.1 = some old →
        old.candidateId = entry.2.candidateId) →
      (entries.map Prod.fst).Nodup → Lineage base (entries.foldl (cancelAttempt now) db₁) := by
    intro entries
    induction entries with
    | nil => exact fun _ hdb _ _ => hdb
    | cons entry entries ih =>
      intro db₁ hdb hold hnodup
      rw [List.map_cons] at hnodup
      obtain ⟨hnew, hnodup⟩ := List.nodup_cons.mp hnodup
      refine ih _ (cancelAttempt_lineage hdb (hold entry List.mem_cons_self)) (fun e he old ho => ?_) hnodup
      rcases cancelAttempt_candidate ho with ⟨hsame, -⟩ | ho
      · exact absurd (hsame ▸ List.mem_map_of_mem he) hnew
      · exact hold e (List.mem_cons_of_mem _ he) old ho
  have hentries : ∀ p : AttemptId × AcquisitionAttemptRow → Bool,
      Lineage base ((db.attempts.items.filter p).foldl (cancelAttempt now) db) := by
    intro p
    refine hall _ db h (fun entry he old ho => ?_) (db.attempts.nodup.sublist (List.filter_sublist.map _))
    have hstored : db.attempts.get? entry.1 = some entry.2 := Dict.get?_eq_some.mpr (List.mem_filter.mp he).1
    rw [hstored] at ho
    cases ho
    rfl
  exact (hentries _).congr rfl rfl fun _ _ => rfl

theorem waiting_eq_some {upload : UploadSessionRow} (h : waiting db attemptId = some (upload, c, attempt)) :
    db.candidates.get? upload.sourceCandidateId = some c ∧
      db.attempts.get? upload.sourceAcquisitionAttemptId = some attempt ∧
      c.currentAcquisitionAttemptId = some upload.sourceAcquisitionAttemptId ∧
      attempt.candidateId = upload.sourceCandidateId ∧ attempt.state.isActive = true := by
  unfold waiting at h
  obtain ⟨u, -, h⟩ := Option.bind_eq_some_iff.mp h
  obtain ⟨c₁, hc, h⟩ := Option.bind_eq_some_iff.mp h
  obtain ⟨row, hrow, h⟩ := Option.bind_eq_some_iff.mp h
  split at h
  · rename_i hfits
    cases h
    exact ⟨(ownedCandidate_eq_some.mp hc).1, hrow, hfits.1, hfits.2.1, hfits.2.2⟩
  · cases h

/-- **What the vault makes of an upload** ends the attempt. -/
theorem Lineage.settle {c' : DiscoveryCandidateRow} {attempt' : AcquisitionAttemptRow}
    {upload : UploadSessionRow} (h : Lineage base db) (hwaiting : waiting db attemptId = some (upload, c, attempt))
    (hcandidate : attempt'.candidateId = attempt.candidateId) (hended : attempt'.state.isActive = false) :
    Lineage base (db.withAttempt upload.sourceCandidateId c' upload.sourceAcquisitionAttemptId attempt') := by
  obtain ⟨hc, hattempt, hcurrent, hsame, hactive⟩ := waiting_eq_some hwaiting
  obtain ⟨c₁, hc₁, hnames, -⟩ := h.current _ attempt hattempt hactive
  rw [hsame, hc] at hc₁
  cases hc₁
  refine h.work hc ⟨hattempt, hsame, hactive, hnames⟩ (hcandidate.trans hsame) (fun ha => ?_) fun ha => ?_
  · rw [hended] at ha
    cases ha
  · rw [hended] at ha
    cases ha

theorem finalizeReady_lineage (h : Lineage base db) (hrun : finalizeReady now attemptId db = .ok db') :
    Lineage base db' := by
  unfold finalizeReady at hrun
  obtain ⟨⟨upload, c, attempt⟩, hwaiting, hrun⟩ := bind_eq_ok.mp hrun
  obtain ⟨⟨⟩, -, hrun⟩ := bind_eq_ok.mp hrun
  cases hrun
  refine Lineage.refresh (h.settle (need_eq_ok.mp hwaiting) ?_ ?_) _ _
  · rfl
  · rfl

theorem failDiscoveryCandidate_lineage {code : String} (h : Lineage base db) :
    Lineage base (failDiscoveryCandidate now attemptId code db) := by
  unfold failDiscoveryCandidate
  split
  · exact h
  · rename_i upload c attempt hwaiting
    split
    · exact h
    · refine Lineage.refresh (h.settle hwaiting ?_ ?_) _ _
      · rfl
      · rfl

end

/-! ## runs -/

/-- **What may happen**: a call of one of the operations, what the vault makes of an upload, or anything
in the other tables (leases and retries of the jobs, the provider, the catalog, policies, revocations). -/
inductive AcquisitionEvent
  | savePreview (now : Int) (owner importJobId operationId : Uuid) (resolutions : List BulkArtistResolution)
      (pages : List ProviderArtistTracks)
  | start (now : Int) (owner : Uuid) (bulk : BulkId) (operationId : Uuid)
  | startSearchAcquisition (now : Int) (owner operationId : Uuid) (evidence : SearchEvidence)
  | enqueueExplicitManualCandidate (now : Int) (owner : Uuid) (id : CandidateId) (operationId : Uuid)
      (action : ManualAction)
  | claimAcquisition (now : Int) (owner : Uuid) (id : CandidateId) (fence : LeaseFence) (automaticEnabled : Bool)
  | prepareIngest (now : Int) (owner : Uuid) (id : CandidateId) (fence : LeaseFence) (evidence : SearchEvidence)
      (stagingKey : String) (identity : Option Materialized)
  | failAcquisition (now : Int) (owner : Uuid) (id : CandidateId) (fence : LeaseFence) (errorCode : String)
      (terminal : Bool)
  | enqueueAuto (now : Int) (id : CandidateId) (policyId : Uuid)
  | cancelAutoWork (now : Int) (policyId : Uuid)
  | finalizeReady (now : Int) (attemptId : AttemptId)
  | failDiscoveryCandidate (now : Int) (attemptId : AttemptId) (code : String)
  | world (other : DiscoveryDb)

/-- The tables of a call that ended, or as they were. -/
def committed {α : Type} (r : Outcome (α × DiscoveryDb)) (db : DiscoveryDb) : DiscoveryDb :=
  match r with
  | .ok (_, db') => db'
  | .error _ => db

def acquisitionStep (normalizeText : String → String) (db : DiscoveryDb) : AcquisitionEvent → DiscoveryDb
  | .savePreview now owner importJobId operationId resolutions pages =>
    committed (savePreview normalizeText now owner importJobId operationId resolutions pages db) db
  | .start now owner bulk operationId => committed (start now owner bulk operationId db) db
  | .startSearchAcquisition now owner operationId evidence =>
    committed (startSearchAcquisition normalizeText now owner operationId evidence db) db
  | .enqueueExplicitManualCandidate now owner id operationId action =>
    (enqueueExplicitManualCandidate now owner id operationId action db).toOption.getD db
  | .claimAcquisition now owner id fence automaticEnabled =>
    committed (claimAcquisition now owner id fence automaticEnabled db) db
  | .prepareIngest now owner id fence evidence stagingKey identity =>
    committed (prepareIngest now owner id fence evidence stagingKey identity db) db
  | .failAcquisition now owner id fence errorCode terminal =>
    (failAcquisition now owner id fence errorCode terminal db).toOption.getD db
  | .enqueueAuto now id policyId => committed (enqueueAuto now id policyId db) db
  | .cancelAutoWork now policyId => cancelAutoWork now policyId db
  | .finalizeReady now attemptId => (finalizeReady now attemptId db).toOption.getD db
  | .failDiscoveryCandidate now attemptId code => failDiscoveryCandidate now attemptId code db
  | .world other =>
    { other with candidates := db.candidates, attempts := db.attempts, uploads := db.uploads }

/-- **No failure is reported after the hand-off**: the current attempt of the candidate has no upload. -/
def spared (db : DiscoveryDb) : AcquisitionEvent → Prop
  | .failAcquisition _ _ id _ _ _ => ∀ c a, db.candidates.get? id = some c →
      c.currentAcquisitionAttemptId = some a → db.uploads.get? a = none
  | _ => True

/-- The steps of the acquisition worker. -/
def AcquisitionEvent.isWorkers : AcquisitionEvent → Bool
  | .claimAcquisition .. | .prepareIngest .. | .failAcquisition .. => true
  | _ => false

section
variable {base : AttemptId → Option UploadSessionRow} {db db₀ db₁ db₂ : DiscoveryDb}
  {normalizeText : String → String}

theorem committed_keeps {α : Type} {r : Outcome (α × DiscoveryDb)} {P : DiscoveryDb → Prop} (h : P db)
    (hok : ∀ a db', r = .ok (a, db') → P db') : P (committed r db) := by
  cases r with
  | error e => exact h
  | ok s => exact hok s.1 s.2 rfl

theorem getD_keeps {r : Outcome DiscoveryDb} {P : DiscoveryDb → Prop} (h : P db)
    (hok : ∀ db', r = .ok db' → P db') : P (r.toOption.getD db) := by
  cases r with
  | error e => exact h
  | ok db' => exact hok db' rfl

/-- **Every spared step** keeps the lineage. -/
theorem acquisitionStep_lineage {e : AcquisitionEvent} (h : Lineage base db) (hs : spared db e) :
    Lineage base (acquisitionStep normalizeText db e) := by
  cases e with
  | savePreview => exact committed_keeps h fun _ _ hrun => savePreview_lineage h hrun
  | start => exact committed_keeps h fun _ _ hrun => start_lineage h hrun
  | startSearchAcquisition => exact committed_keeps h fun _ _ hrun => startSearchAcquisition_lineage h hrun
  | enqueueExplicitManualCandidate =>
    exact getD_keeps h fun _ hrun => enqueueExplicitManualCandidate_lineage h hrun
  | claimAcquisition => exact committed_keeps h fun _ _ hrun => (claimAcquisition_lineage h hrun).1
  | prepareIngest => exact committed_keeps h fun _ _ hrun => (prepareIngest_lineage h hrun).1
  | failAcquisition => exact getD_keeps h fun _ hrun => (failAcquisition_lineage h hs hrun).1
  | enqueueAuto => exact committed_keeps h fun _ _ hrun => enqueueAuto_lineage h hrun
  | cancelAutoWork => exact cancelAutoWork_lineage h
  | finalizeReady => exact getD_keeps h fun _ hrun => finalizeReady_lineage h hrun
  | failDiscoveryCandidate => exact failDiscoveryCandidate_lineage h
  | world => exact h.congr rfl rfl fun _ _ => rfl

/-- **A spared step of a worker** puts no candidate back that was ready or handed over. -/
theorem acquisitionStep_notPutBack {e : AcquisitionEvent} (h : Lineage base db) (hs : spared db e)
    (hworker : e.isWorkers = true) : notPutBack db (acquisitionStep normalizeText db e) := by
  cases e with
  | claimAcquisition => exact committed_keeps .refl fun _ _ hrun => (claimAcquisition_lineage h hrun).2
  | prepareIngest => exact committed_keeps .refl fun _ _ hrun => (prepareIngest_lineage h hrun).2.1
  | failAcquisition => exact getD_keeps .refl fun _ hrun => (failAcquisition_lineage h hs hrun).2
  | _ => cases hworker

/-- A step in which no failure is reported after the hand-off. -/
def sparedStep (normalizeText : String → String) (db : DiscoveryDb) (e : AcquisitionEvent) (db' : DiscoveryDb) :
    Prop := spared db e ∧ db' = acquisitionStep normalizeText db e

theorem Lineage.run {events : List AcquisitionEvent} (h : Lineage base db₀)
    (p : Path (sparedStep normalizeText) db₀ events db) : Lineage base db := by
  refine p.invariant ?_ h
  rintro s e _ hs ⟨hspared, rfl⟩
  exact acquisitionStep_lineage hs hspared

theorem Lineage.of_empty (hattempts : db.attempts = Dict.empty) (huploads : db.uploads = Dict.empty) :
    Lineage (fun _ => none) db := by
  refine ⟨fun a row hrow _ => ?_, fun a u hu => ?_, fun a row u c hrow _ _ _ => ?_, fun _ _ hu => by cases hu⟩
  · rw [hattempts] at hrow
    cases hrow
  · rw [huploads] at hu
    cases hu
  · rw [hattempts] at hrow
    cases hrow

/-- **The lineage is consistent**: a candidate has at most one attempt under way, and names it with its job
and its authorization; an attempt has at most one upload; and while an attempt with an upload is under way,
its candidate waits for the vault. -/
structure Consistent (db : DiscoveryDb) : Prop where
  one : ∀ a a' row row', db.attempts.get? a = some row → db.attempts.get? a' = some row' →
    row.state.isActive = true → row'.state.isActive = true → row.candidateId = row'.candidateId → a = a'
  current : ∀ a row, db.attempts.get? a = some row → row.state.isActive = true →
    ∃ c, db.candidates.get? row.candidateId = some c ∧ Names c a row
  upload : ∀ a a' u u', db.uploads.get? a = some u → db.uploads.get? a' = some u' →
    u.sourceAcquisitionAttemptId = u'.sourceAcquisitionAttemptId → a = a'
  handed : ∀ a row u c, db.attempts.get? a = some row → row.state.isActive = true →
    db.uploads.get? a = some u → db.candidates.get? row.candidateId = some c → c.acquisitionState ∈ handedOver

theorem Lineage.consistent (h : Lineage base db) : Consistent db := by
  refine ⟨fun a a' row row' hrow hrow' hactive hactive' hsame => ?_, fun a row hrow hactive => ?_,
    fun a a' u u' hu hu' hsame => ?_, h.handed⟩
  · obtain ⟨c, hc, hnames, -⟩ := h.current a row hrow hactive
    obtain ⟨c', hc', hnames', -⟩ := h.current a' row' hrow' hactive'
    rw [← hsame, hc] at hc'
    cases hc'
    exact Option.some.inj (hnames.current.symm.trans hnames'.current)
  · obtain ⟨c, hc, hnames, -⟩ := h.current a row hrow hactive
    exact ⟨c, hc, hnames⟩
  · exact (h.uploads a u hu).1.symm.trans (hsame.trans (h.uploads a' u' hu').1)

/-- **In every run that reports no failure after the hand-off** the lineage is consistent in every state,
no worker puts a candidate back that is ready or handed over, and what `prepare_ingest` returned for stays
with the vault as long as its attempt is under way. -/
theorem lineage_runs {events : List AcquisitionEvent} (hattempts : db₀.attempts = Dict.empty)
    (huploads : db₀.uploads = Dict.empty) (p : Path (sparedStep normalizeText) db₀ events db) :
    Consistent db ∧
      (∀ e : AcquisitionEvent, spared db e → e.isWorkers = true →
        notPutBack db (acquisitionStep normalizeText db e)) ∧
      ∀ now owner id fence evidence stagingKey identity prepared db₁,
        prepareIngest now owner id fence evidence stagingKey identity db = .ok (prepared, db₁) →
        ∀ later db₂, Path (sparedStep normalizeText) db₁ later db₂ →
          ∀ row c, db₂.attempts.get? prepared.uploadSessionId = some row → row.state.isActive = true →
            db₂.candidates.get? id = some c → c.acquisitionState ∈ handedOver := by
  have h := (Lineage.of_empty hattempts huploads).run p
  refine ⟨h.consistent, fun e hs hworker => acquisitionStep_notPutBack h hs hworker, ?_⟩
  intro now owner id fence evidence stagingKey identity prepared db₁ hrun later db₂ q row c hrow hactive hc
  obtain ⟨h₁, -, ⟨u, hu, hid⟩, -⟩ := prepareIngest_lineage h hrun
  -- from here on the uploads of this state are kept
  have hkept : Lineage (fun a => db₁.uploads.get? a) db₁ := { h₁ with kept := fun _ _ hu => hu }
  have h₂ := hkept.run q
  have hu₂ := h₂.kept _ u hu
  obtain ⟨-, stored, hstored, hsame⟩ := h₂.uploads _ u hu₂
  rw [hrow] at hstored
  cases hstored
  refine h₂.handed _ row u c hrow hactive hu₂ ?_
  rw [hsame, hid]
  exact hc

end

/-! ## a failure after the hand-off -/

namespace Sample

/-- The job of the candidate runs, for the `n`-th time. -/
def leased (n : Int) (db : DiscoveryDb) : DiscoveryDb :=
  { db with jobs := db.jobs.mapValues fun job =>
      { job with state := .running, attemptCount := n, leaseOwner := some "worker", leaseDeadline := some (now + 2 * hour) } }

def fence (n : Int) : LeaseFence := ⟨1, "worker", n⟩

def searchEvidence : SearchEvidence := ⟨"1", "7", (track "1").evidence, true⟩

def newEntry : Uuid := ⟨"00000000-0000-4000-8000-00000000000a", by decide +kernel⟩

/-- The identity of the track, with an entry of its own. -/
def found : Materialized :=
  ⟨{ eligible.catalog with
    libraryEntries := eligible.catalog.libraryEntries.set newEntry ⟨owner, trackRef, none⟩ }, recording, newEntry⟩

def search : List AcquisitionEvent := [.startSearchAcquisition now owner startId searchEvidence]

def afterSearch : DiscoveryDb := search.foldl (acquisitionStep id) eligible

/-- The worker claims the candidate, hands its upload over, and reports a failure. -/
def handOff : List AcquisitionEvent :=
  [.world (leased 1 afterSearch), .claimAcquisition now owner firstTrack (fence 1) false,
    .prepareIngest now owner firstTrack (fence 1) searchEvidence "staged" (some found),
    .failAcquisition now owner firstTrack (fence 1) "worker_error" false]

def failed : DiscoveryDb := handOff.foldl (acquisitionStep id) afterSearch

/-- The job runs again, and claims the candidate again. -/
def again : List AcquisitionEvent :=
  [.world (leased 2 failed), .claimAcquisition now owner firstTrack (fence 2) false]

def reclaimed : DiscoveryDb := again.foldl (acquisitionStep id) failed

end Sample

open Sample in
/-- **A failure after the hand-off**: the second `prepare_ingest` returns the upload that is there, and
leaves the candidate acquiring, although its attempt is under way. -/
theorem failure_after_handOff :
    ∃ events, Path (stepOf (acquisitionStep id)) eligible events reclaimed ∧
      ∃ prepared db', prepareIngest now owner firstTrack (fence 2) searchEvidence "again" none reclaimed =
          .ok (prepared, db') ∧
        (∃ row, db'.attempts.get? prepared.uploadSessionId = some row ∧ row.state.isActive = true) ∧
        ∃ c, db'.candidates.get? firstTrack = some c ∧
          c.currentAcquisitionAttemptId = some prepared.uploadSessionId ∧ c.acquisitionState ∉ handedOver := by
  have hpath : Path (stepOf (acquisitionStep id)) eligible (search ++ (handOff ++ again)) reclaimed := by
    have hsearch : Path (stepOf (acquisitionStep id)) eligible search afterSearch := (Path.foldl_iff _ _ _ _).mpr rfl
    have hhandOff : Path (stepOf (acquisitionStep id)) afterSearch handOff failed := (Path.foldl_iff _ _ _ _).mpr rfl
    have hagain : Path (stepOf (acquisitionStep id)) failed again reclaimed := (Path.foldl_iff _ _ _ _).mpr rfl
    exact hsearch.append (hhandOff.append hagain)
  have hprepared : ∃ r, prepareIngest now owner firstTrack (fence 2) searchEvidence "again" none reclaimed = .ok r ∧
      ((r.2.attempts.get? r.1.uploadSessionId).any fun row => row.state.isActive) = true ∧
      ((r.2.candidates.get? firstTrack).any fun c =>
        c.currentAcquisitionAttemptId = some r.1.uploadSessionId ∧ c.acquisitionState ∉ handedOver) = true := by
    refine ⟨_, rfl, ?_, ?_⟩
    · decide +kernel
    · decide +kernel
  obtain ⟨⟨prepared, db'⟩, hok, hrow, hc⟩ := hprepared
  obtain ⟨row, hrow, hactive⟩ := Option.any_eq_true _ _ |>.mp hrow
  obtain ⟨c, hc, hstate⟩ := Option.any_eq_true _ _ |>.mp hc
  exact ⟨_, hpath, prepared, db', hok, ⟨row, hrow, hactive⟩, c, hc, of_decide_eq_true hstate⟩

open Sample in
/-- A search from the empty tables. -/
theorem lineage_runs_search : Consistent afterSearch :=
  (lineage_runs rfl rfl (.cons ⟨trivial, rfl⟩ (.nil afterSearch) : Path (sparedStep id) eligible search afterSearch)).1

end AutPlay.Discovery
