import AutPlay.Discovery.Acquisition

/-!
# The lineage of acquisitions

* `Lineage`                 candidates, attempts and uploads fit together;
* `Lineage.congr`, `Lineage.requeue`, `Lineage.advance`, `Lineage.finish`   what keeps it: nothing of it
  changed, a candidate got an attempt, an attempt went on, an attempt ended;
* `…_lineage`               each operation that gives candidates attempts keeps it.
-/

set_option linter.unusedSectionVars false

namespace AutPlay.Discovery

open AutPlay.Sync (Uuid)
open AutPlay.Result (bind_eq_ok)

/-- The states of a candidate whose upload was handed over. -/
def handedOver : List AcquisitionState := [.ingesting, .materializing]

/-- The candidate names the attempt, with its job and its authorization. -/
structure Names (c : DiscoveryCandidateRow) (attemptId : AttemptId) (row : AcquisitionAttemptRow) : Prop where
  current : c.currentAcquisitionAttemptId = some attemptId
  job : c.jobId = row.jobId
  authorization : c.sourceAuthorizationId = some row.sourceAuthorizationId
  revision : c.sourceAuthorizationRevision = row.sourceAuthorizationRevision

/-- **Candidates, attempts and uploads fit together**, and the uploads of `base` are there still. -/
structure Lineage (base : AttemptId → Option UploadSessionRow) (db : DiscoveryDb) : Prop where
  current : ∀ attemptId row, db.attempts.get? attemptId = some row → row.state.isActive = true →
    ∃ c, db.candidates.get? row.candidateId = some c ∧ Names c attemptId row ∧ c.acquisitionState ∈ underWay
  uploads : ∀ attemptId upload, db.uploads.get? attemptId = some upload →
    upload.sourceAcquisitionAttemptId = attemptId ∧
      ∃ row, db.attempts.get? attemptId = some row ∧ row.candidateId = upload.sourceCandidateId
  handed : ∀ attemptId row upload c, db.attempts.get? attemptId = some row → row.state.isActive = true →
    db.uploads.get? attemptId = some upload → db.candidates.get? row.candidateId = some c →
    c.acquisitionState ∈ handedOver
  kept : ∀ attemptId upload, base attemptId = some upload → db.uploads.get? attemptId = some upload

section
variable {base : AttemptId → Option UploadSessionRow} {now : Int} {owner operationId : Uuid} {db db' : DiscoveryDb} {id : CandidateId}
  {c c' : DiscoveryCandidateRow} {attemptId : AttemptId} {row row' : AcquisitionAttemptRow}
  {authorization : Nat × SourceAuthorizationRow}

/-- An attempt of the candidate is under way. -/
def hasActive (db : DiscoveryDb) (id : CandidateId) : Prop :=
  ∃ attemptId row, db.attempts.get? attemptId = some row ∧ row.state.isActive = true ∧ row.candidateId = id

theorem inProgress_of_hasActive (h : hasActive db id) : inProgress db id := by
  obtain ⟨attemptId, row, hrow, hactive, rfl⟩ := h
  refine ⟨(attemptId, row), Dict.get?_eq_some.mp hrow, rfl, ?_⟩
  revert hactive
  show row.state.isActive = true → row.state = .queued ∨ row.state = .running
  cases row.state <;> simp [AttemptState.isActive]

/-- The active attempt of a candidate is the one it names. -/
theorem Lineage.active (h : Lineage base db) (hc : db.candidates.get? id = some c) (ha : hasActive db id) :
    ∃ attemptId row, db.attempts.get? attemptId = some row ∧ row.state.isActive = true ∧
      row.candidateId = id ∧ Names c attemptId row ∧ c.acquisitionState ∈ underWay := by
  obtain ⟨attemptId, row, hrow, hactive, rfl⟩ := ha
  obtain ⟨c', hc', hnames, hstate⟩ := h.current attemptId row hrow hactive
  rw [hc] at hc'
  cases hc'
  exact ⟨attemptId, row, hrow, hactive, rfl, hnames, hstate⟩

/-- A candidate that is not under way has no active attempt. -/
theorem Lineage.not_active (h : Lineage base db) (hc : db.candidates.get? id = some c)
    (hstate : c.acquisitionState ∉ underWay) : ¬hasActive db id := by
  intro ha
  obtain ⟨_, _, _, _, _, _, hunder⟩ := h.active hc ha
  exact hstate hunder

theorem Lineage.not_active_of_none (h : Lineage base db) (hc : db.candidates.get? id = none) : ¬hasActive db id := by
  rintro ⟨attemptId, row, hrow, hactive, rfl⟩
  obtain ⟨c, hc', -⟩ := h.current attemptId row hrow hactive
  rw [hc] at hc'
  cases hc'

/-! ## what keeps the lineage -/

/-- The candidates with active attempts stay, and the attempts and uploads too. -/
theorem Lineage.congr (h : Lineage base db) (hattempts : db'.attempts = db.attempts)
    (huploads : db'.uploads = db.uploads)
    (hcandidates : ∀ id, hasActive db id → db'.candidates.get? id = db.candidates.get? id) : Lineage base db' := by
  refine ⟨fun a r hr hactive => ?_, fun a u hu => ?_, fun a r u c hr hactive hu hc => ?_, fun a u hu => ?_⟩
  · rw [hattempts] at hr
    rw [hcandidates _ ⟨a, r, hr, hactive, rfl⟩]
    exact h.current a r hr hactive
  · rw [huploads] at hu
    rw [hattempts]
    exact h.uploads a u hu
  · rw [hattempts] at hr
    rw [huploads] at hu
    rw [hcandidates _ ⟨a, r, hr, hactive, rfl⟩] at hc
    exact h.handed a r u c hr hactive hu hc
  · rw [huploads]
    exact h.kept a u hu

/-- **A candidate without an active attempt** may become anything. -/
theorem Lineage.free (h : Lineage base db) (hattempts : db'.attempts = db.attempts)
    (huploads : db'.uploads = db.uploads) (hidle : ¬hasActive db id)
    (hcandidates : ∀ other, other ≠ id → db'.candidates.get? other = db.candidates.get? other) :
    Lineage base db' :=
  h.congr hattempts huploads fun other ha => hcandidates other fun he => hidle (he ▸ ha)

/-- **A candidate gets an attempt** that has no upload yet. -/
theorem Lineage.requeue (h : Lineage base db) (hidle : ¬hasActive db id) (hcandidate : row.candidateId = id)
    (hnames : Names c attemptId row) (hstate : c.acquisitionState ∈ underWay)
    (hupload : row.state.isActive = true → db.uploads.get? attemptId = none)
    (hold : ∀ old, db.attempts.get? attemptId = some old → old.candidateId = id)
    (hattempts : db'.attempts = db.attempts.set attemptId row)
    (hcandidates : db'.candidates = db.candidates.set id c) (huploads : db'.uploads = db.uploads) :
    Lineage base db' := by
  subst hcandidate
  have hother : ∀ a r, db'.attempts.get? a = some r → r.state.isActive = true → a ≠ attemptId →
      db.attempts.get? a = some r ∧ r.candidateId ≠ row.candidateId := by
    intro a r hr hactive hne
    rw [hattempts, Dict.get?_set_ne _ _ hne] at hr
    exact ⟨hr, fun he => hidle ⟨a, r, hr, hactive, he⟩⟩
  refine ⟨fun a r hr hactive => ?_, fun a u hu => ?_, fun a r u c₁ hr hactive hu hc => ?_, fun a u hu => ?_⟩
  · by_cases ha : a = attemptId
    · subst ha
      rw [hattempts, Dict.get?_set_self] at hr
      cases hr
      refine ⟨c, ?_, hnames, hstate⟩
      rw [hcandidates, Dict.get?_set_self]
    · obtain ⟨hr', hne⟩ := hother a r hr hactive ha
      rw [hcandidates, Dict.get?_set_ne _ _ hne]
      exact h.current a r hr' hactive
  · rw [huploads] at hu
    obtain ⟨hsource, stored, hstored, hsame⟩ := h.uploads a u hu
    refine ⟨hsource, ?_⟩
    rw [hattempts, Dict.get?_set]
    split
    · rename_i ha
      rw [ha] at hstored
      exact ⟨row, rfl, (hold stored hstored).symm.trans hsame⟩
    · exact ⟨stored, hstored, hsame⟩
  · rw [huploads] at hu
    by_cases ha : a = attemptId
    · subst ha
      rw [hattempts, Dict.get?_set_self] at hr
      cases hr
      rw [hupload hactive] at hu
      cases hu
    · obtain ⟨hr', hne⟩ := hother a r hr hactive ha
      rw [hcandidates, Dict.get?_set_ne _ _ hne] at hc
      exact h.handed a r u c₁ hr' hactive hu hc
  · rw [huploads]
    exact h.kept a u hu

/-- The current attempt is the only active one of its candidate. -/
theorem Lineage.only (h : Lineage base db) (hc : db.candidates.get? row.candidateId = some c)
    (hcurrent : c.currentAcquisitionAttemptId = some attemptId) {other : AttemptId}
    {r : AcquisitionAttemptRow} (hr : db.attempts.get? other = some r) (hactive : r.state.isActive = true)
    (hne : other ≠ attemptId) : r.candidateId ≠ row.candidateId := by
  intro he
  obtain ⟨c₁, hc₁, hnames, -⟩ := h.current other r hr hactive
  rw [he, hc] at hc₁
  cases hc₁
  have hsame := hnames.current
  rw [hcurrent] at hsame
  exact hne (Option.some.inj hsame).symm

/-- **The current attempt goes on**: both rows are written again, and an upload may come with it. -/
theorem Lineage.advance (h : Lineage base db) (hc : db.candidates.get? row.candidateId = some c)
    (hrow : db.attempts.get? attemptId = some row) (hcurrent : c.currentAcquisitionAttemptId = some attemptId)
    (hcandidate : row'.candidateId = row.candidateId)
    (hafter : row'.state.isActive = true → Names c' attemptId row' ∧ c'.acquisitionState ∈ underWay)
    (hattempt : db'.attempts.get? attemptId = some row')
    (hattempts : ∀ a, a ≠ attemptId → db'.attempts.get? a = db.attempts.get? a)
    (hcandidates : db'.candidates = db.candidates.set row.candidateId c')
    (huploads : ∀ a, a ≠ attemptId → db'.uploads.get? a = db.uploads.get? a)
    (hkept : ∀ u, db.uploads.get? attemptId = some u → db'.uploads.get? attemptId = some u)
    (hown : ∀ u, db'.uploads.get? attemptId = some u →
      (u.sourceAcquisitionAttemptId = attemptId ∧ row.candidateId = u.sourceCandidateId) ∧
        (row'.state.isActive = true → c'.acquisitionState ∈ handedOver)) : Lineage base db' := by
  have hother : ∀ a r, db'.attempts.get? a = some r → r.state.isActive = true → a ≠ attemptId →
      db.attempts.get? a = some r ∧ r.candidateId ≠ row.candidateId := by
    intro a r hr hactive hne
    rw [hattempts a hne] at hr
    exact ⟨hr, h.only hc hcurrent hr hactive hne⟩
  refine ⟨fun a r hr hactive => ?_, fun a u hu => ?_, fun a r u c₁ hr hactive hu hc₁ => ?_, fun a u hu => ?_⟩
  · by_cases ha : a = attemptId
    · subst ha
      rw [hattempt] at hr
      cases hr
      obtain ⟨hnames, hstate⟩ := hafter hactive
      refine ⟨c', ?_, hnames, hstate⟩
      rw [hcandidates, hcandidate, Dict.get?_set_self]
    · obtain ⟨hr', hne⟩ := hother a r hr hactive ha
      rw [hcandidates, Dict.get?_set_ne _ _ hne]
      exact h.current a r hr' hactive
  · by_cases ha : a = attemptId
    · subst ha
      obtain ⟨⟨hsource, hsame⟩, -⟩ := hown u hu
      exact ⟨hsource, row', hattempt, hcandidate.trans hsame⟩
    · rw [huploads a ha] at hu
      obtain ⟨hsource, stored, hstored, hsame⟩ := h.uploads a u hu
      exact ⟨hsource, stored, (hattempts a ha).trans hstored, hsame⟩
  · by_cases ha : a = attemptId
    · subst ha
      rw [hattempt] at hr
      cases hr
      rw [hcandidates, hcandidate, Dict.get?_set_self] at hc₁
      cases hc₁
      exact (hown u hu).2 hactive
    · rw [huploads a ha] at hu
      obtain ⟨hr', hne⟩ := hother a r hr hactive ha
      rw [hcandidates, Dict.get?_set_ne _ _ hne] at hc₁
      exact h.handed a r u c₁ hr' hactive hu hc₁
  · have hold := h.kept a u hu
    by_cases ha : a = attemptId
    · subst ha
      exact hkept u hold
    · exact (huploads a ha).trans hold

/-- **An attempt ends**: the candidate that names it may become anything, the others stay. -/
theorem Lineage.finish (h : Lineage base db) (hactive : row'.state.isActive = false)
    (hold : ∀ old, db.attempts.get? attemptId = some old → old.candidateId = row'.candidateId)
    (hattempts : db'.attempts = db.attempts.set attemptId row') (huploads : db'.uploads = db.uploads)
    (hcandidates : ∀ id c, db.candidates.get? id = some c → c.currentAcquisitionAttemptId ≠ some attemptId →
      db'.candidates.get? id = some c) : Lineage base db' := by
  have hother : ∀ a r, db'.attempts.get? a = some r → r.state.isActive = true →
      db.attempts.get? a = some r ∧ a ≠ attemptId := by
    intro a r hr ha
    have hne : a ≠ attemptId := by
      rintro rfl
      rw [hattempts, Dict.get?_set_self] at hr
      cases hr
      rw [hactive] at ha
      cases ha
    rw [hattempts, Dict.get?_set_ne _ _ hne] at hr
    exact ⟨hr, hne⟩
  have hstays : ∀ a r, db'.attempts.get? a = some r → r.state.isActive = true →
      ∃ c, db.candidates.get? r.candidateId = some c ∧ db'.candidates.get? r.candidateId = some c := by
    intro a r hr ha
    obtain ⟨hr', hne⟩ := hother a r hr ha
    obtain ⟨c₁, hc₁, hnames, -⟩ := h.current a r hr' ha
    refine ⟨c₁, hc₁, hcandidates _ c₁ hc₁ ?_⟩
    rw [hnames.current]
    exact fun he => hne (Option.some.inj he)
  refine ⟨fun a r hr ha => ?_, fun a u hu => ?_, fun a r u c₁ hr ha hu hc₁ => ?_, fun a u hu => ?_⟩
  · obtain ⟨c₁, hc₁, hc₁'⟩ := hstays a r hr ha
    obtain ⟨c₂, hc₂, hrest⟩ := h.current a r (hother a r hr ha).1 ha
    rw [hc₁] at hc₂
    cases hc₂
    exact ⟨c₁, hc₁', hrest⟩
  · rw [huploads] at hu
    obtain ⟨hsource, stored, hstored, hsame⟩ := h.uploads a u hu
    refine ⟨hsource, ?_⟩
    rw [hattempts, Dict.get?_set]
    split
    · rename_i ha
      rw [ha] at hstored
      exact ⟨row', rfl, (hold stored hstored).symm.trans hsame⟩
    · exact ⟨stored, hstored, hsame⟩
  · obtain ⟨c₂, hc₂, hc₂'⟩ := hstays a r hr ha
    rw [hc₂'] at hc₁
    cases hc₁
    rw [huploads] at hu
    exact h.handed a r u _ (hother a r hr ha).1 ha hu hc₂
  · rw [huploads]
    exact h.kept a u hu

/-! ## operations that give candidates attempts -/

theorem attemptFor_cases {generation : Int} {stored : Option AcquisitionAttemptRow}
    (h : attemptFor now generation id authorization stored = .ok row) :
    stored = none ∧ row = newAttempt now generation id authorization ∨
      stored = some row ∧ attemptFits row id authorization := by
  unfold attemptFor at h
  split at h
  · cases h
    exact Or.inl ⟨rfl, rfl⟩
  · obtain ⟨⟨⟩, hfits, h⟩ := bind_eq_ok.mp h
    cases h
    exact Or.inr ⟨rfl, check_eq_ok.mp hfits⟩

/-- **A manual attempt** keeps the lineage. -/
theorem Queued.lineage {generation : Int} {attempt : AcquisitionAttemptRow} {jobId : Nat}
    (hq : Queued now operationId db id c authorization db' generation attempt jobId) (h : Lineage base db) :
    Lineage base db' := by
  have hidle : ¬hasActive db id := fun ha => hq.idle (inProgress_of_hasActive ha)
  have hfacts := attemptFor_candidate hq.taken
  have hnames : Names (requeued now c (startAttempt c.userId operationId id) authorization jobId)
      (startAttempt c.userId operationId id) { attempt with jobId := some jobId } := by
    rcases attemptFor_cases hq.taken with ⟨-, rfl⟩ | ⟨-, hfits⟩
    · exact ⟨rfl, rfl, rfl, rfl⟩
    · exact ⟨rfl, rfl, congrArg some hfits.2.2.1.symm, hfits.2.2.2.1.symm⟩
  have hupload : attempt.state.isActive = true →
      db.uploads.get? (startAttempt c.userId operationId id) = none := by
    intro hactive
    rcases attemptFor_cases hq.taken with ⟨hnone, -⟩ | ⟨hsome, -⟩
    · -- an upload would have its attempt
      cases hu : db.uploads.get? (startAttempt c.userId operationId id) with
      | none => rfl
      | some upload =>
        obtain ⟨-, stored, hstored, -⟩ := h.uploads _ _ hu
        rw [hnone] at hstored
        cases hstored
    · exact absurd ⟨_, attempt, hsome, hactive, hfacts.1⟩ hidle
  have hcandidate : ({ attempt with jobId := some jobId } : AcquisitionAttemptRow).candidateId = id := hfacts.1
  exact h.requeue hidle hcandidate hnames List.mem_cons_self hupload (fun old ho => hfacts.2 old ho)
    (by rw [hq.result]) (by rw [hq.result]) (by rw [hq.result])

theorem enqueueManualAttempt_lineage (h : Lineage base db)
    (hrun : enqueueManualAttempt now id c authorization operationId db = .ok db') : Lineage base db' := by
  obtain ⟨_, _, _, hq⟩ := enqueueManualAttempt_eq_ok hrun
  exact hq.lineage h

theorem freshAttempt_new (attempts : Dict AttemptId AcquisitionAttemptRow) :
    attempts.get? (freshAttempt attempts) = none := by
  cases hget : attempts.get? (freshAttempt attempts) with
  | none => rfl
  | some row =>
    have hmem : (freshAttempt attempts).number ∈ attempts.items.map fun e => e.1.number :=
      List.mem_map.mpr ⟨_, Dict.get?_eq_some.mp hget, rfl⟩
    have hle := le_foldr_max hmem
    have hnumber : (freshAttempt attempts).number =
        (attempts.items.map fun e => e.1.number).foldr max 0 + 1 := rfl
    omega

/-- Granting writes authorizations only. -/
theorem grantAutomatic_frame (now : Int) (policyId : Uuid) (policy : ArtistPolicyRow) (db : DiscoveryDb) :
    (grantAutomatic now policyId policy db).2 =
      { db with authorizations := (grantAutomatic now policyId policy db).2.authorizations } := by
  unfold grantAutomatic
  dsimp only
  split
  · split
    · rfl
    · rfl
  · rfl

/-- **An automatic attempt** keeps the lineage. -/
theorem enqueueAuto_lineage {policyId : Uuid} {queued : Bool} (h : Lineage base db)
    (hrun : enqueueAuto now id policyId db = .ok (queued, db')) : Lineage base db' := by
  unfold enqueueAuto at hrun
  obtain ⟨candidate, hc, hrun⟩ := bind_eq_ok.mp hrun
  obtain ⟨policy, -, hrun⟩ := bind_eq_ok.mp hrun
  replace hc := need_eq_ok.mp hc
  split at hrun
  · cases hrun
    exact h
  · rename_i hstate
    obtain ⟨generation, -, hrun⟩ := bind_eq_ok.mp hrun
    have hgrant := grantAutomatic_frame now policyId policy db
    generalize grantAutomatic now policyId policy db = granted at hrun hgrant
    obtain ⟨authorization, db₁⟩ := granted
    dsimp only at hrun hgrant
    obtain ⟨⟨jobId, jobs⟩, -, hrun⟩ := bind_eq_ok.mp hrun
    cases hrun
    have hidle : ¬hasActive db id := by
      refine h.not_active hc fun hunder => hstate (Or.inr fun hnot => ?_)
      rw [hnot] at hunder
      exact absurd hunder (by decide)
    have hattempts : db₁.attempts = db.attempts := by rw [hgrant]
    have hfresh : db.attempts.get? (freshAttempt db₁.attempts) = none := by
      rw [hattempts]
      exact freshAttempt_new _
    have hcandidates : db₁.candidates = db.candidates := by rw [hgrant]
    have huploads : db₁.uploads = db.uploads := by rw [hgrant]
    have hcandidate : ({ newAttempt now generation id authorization with
      origin := .automatic
      policy := some (policyId, policy.currentRevision)
      jobId := some jobId } : AcquisitionAttemptRow).candidateId = id := rfl
    refine h.requeue (c := { requeued now candidate (freshAttempt db₁.attempts) authorization jobId with
      selectionOrigin := .automatic
      policy := some (policyId, policy.currentRevision) }) hidle hcandidate ⟨rfl, rfl, rfl, rfl⟩
      List.mem_cons_self (fun _ => ?_) (fun old ho => ?_) (by rw [← hattempts]; rfl)
      (by rw [← hcandidates]; rfl) huploads
    · cases hu : db.uploads.get? (freshAttempt db₁.attempts) with
      | none => rfl
      | some upload =>
        obtain ⟨-, stored, hstored, -⟩ := h.uploads _ _ hu
        rw [hfresh] at hstored
        cases hstored
    · rw [hfresh] at ho
      cases ho

theorem grantSourceAuthorization_lineage {artistId : Uuid} {granted : Option BulkId} (h : Lineage base db)
    (hrun : grantSourceAuthorization now owner artistId granted db = .ok (authorization, db')) : Lineage base db' := by
  have hframe := grantSourceAuthorization_frame hrun
  exact h.congr (by rw [hframe]) (by rw [hframe]) fun _ _ => by rw [hframe]

/-- **An explicit request** keeps the lineage. -/
theorem enqueueExplicitManualCandidate_lineage {action : ManualAction} (h : Lineage base db)
    (hrun : enqueueExplicitManualCandidate now owner id operationId action db = .ok db') : Lineage base db' := by
  unfold enqueueExplicitManualCandidate at hrun
  obtain ⟨⟨⟩, -, hrun⟩ := bind_eq_ok.mp hrun
  obtain ⟨candidate, -, hrun⟩ := bind_eq_ok.mp hrun
  obtain ⟨⟨⟩, -, hrun⟩ := bind_eq_ok.mp hrun
  obtain ⟨artistId, -, hrun⟩ := bind_eq_ok.mp hrun
  obtain ⟨⟨⟩, -, hrun⟩ := bind_eq_ok.mp hrun
  obtain ⟨⟨authorization, db₁⟩, hgrant, hrun⟩ := bind_eq_ok.mp hrun
  exact enqueueManualAttempt_lineage (grantSourceAuthorization_lineage h hgrant) hrun

/-- **A bulk start** keeps the lineage. -/
theorem start_lineage {bulk : BulkId} {result : BulkStartResult} (h : Lineage base db)
    (hrun : start now owner bulk operationId db = .ok (result, db')) : Lineage base db' := by
  unfold start at hrun
  obtain ⟨⟨⟩, -, hrun⟩ := bind_eq_ok.mp hrun
  obtain ⟨operation, -, hrun⟩ := bind_eq_ok.mp hrun
  obtain ⟨⟨⟩, -, hrun⟩ := bind_eq_ok.mp hrun
  split at hrun
  · obtain ⟨⟨⟩, -, hrun⟩ := bind_eq_ok.mp hrun
    cases hrun
    exact h
  · obtain ⟨-, tally, db₁, hfold, hr⟩ := startFirst_eq_ok.mp hrun
    cases hr
    have hbound : Lineage base (bound now bulk operationId operation db) := h.congr rfl rfl fun _ _ => rfl
    have hfolded : Lineage base (tally, db₁).2 := by
      refine Result.foldlM_keeps (I := fun s : Tally × DiscoveryDb => Lineage base s.2) ?_ hbound hfold
      rintro ⟨t, d⟩ ⟨t', d'⟩ candidateId - hd hstep
      cases (startCandidate_ok hstep).2 with
      | counted => exact hd
      | queued c authorization _ generation attempt jobId owned authorized isWanted queued =>
        exact queued.lineage hd
    exact hfolded.congr rfl rfl fun _ _ => rfl

/-! ## previews and searches -/

/-- A candidate that a preview found or made may be written again while it is not under way. -/
theorem candidateOf_lineage {artistId : Uuid} {track : ProviderTrack} (h : Lineage base db)
    (hrow : candidateOf now owner artistId authorization track db = .ok (id, c))
    (hcandidates : db'.candidates = db.candidates.set id c') (hattempts : db'.attempts = db.attempts)
    (huploads : db'.uploads = db.uploads) (hsame : c.acquisitionState ∈ underWay → c' = c) : Lineage base db' := by
  by_cases hunder : c.acquisitionState ∈ underWay
  · rw [hsame hunder] at hcandidates
    rcases (candidateOf_ok hrow).2 with hfound | ⟨hnone, -⟩
    · refine h.congr hattempts huploads fun other _ => ?_
      rw [hcandidates, Dict.get?_set]
      split
      · rename_i he
        rw [he, hfound]
      · rfl
    · refine h.free hattempts huploads (h.not_active_of_none hnone) fun other hne => ?_
      rw [hcandidates, Dict.get?_set_ne _ _ hne]
  · have hidle : ¬hasActive db id := by
      rcases (candidateOf_ok hrow).2 with hfound | ⟨hnone, -⟩
      · exact h.not_active hfound hunder
      · exact h.not_active_of_none hnone
    refine h.free hattempts huploads hidle fun other hne => ?_
    rw [hcandidates, Dict.get?_set_ne _ _ hne]

theorem saveTrack_lineage {bulk : BulkId} {artists : Dict String Uuid}
    {authorizations : List (String × Nat × SourceAuthorizationRow)} {s s' : Nat × DiscoveryDb}
    {entry : ProviderTrack × Nat} (h : Lineage base s.2)
    (hrun : saveTrack now owner bulk artists authorizations s entry = .ok s') : Lineage base s'.2 := by
  obtain ⟨downloadable, db⟩ := s
  obtain ⟨track, ordinal⟩ := entry
  unfold saveTrack at hrun
  obtain ⟨artistId, -, hrun⟩ := bind_eq_ok.mp hrun
  obtain ⟨authorization, -, hrun⟩ := bind_eq_ok.mp hrun
  obtain ⟨⟨candidateId, row⟩, hrow, hrun⟩ := bind_eq_ok.mp hrun
  obtain ⟨⟨⟩, -, hrun⟩ := bind_eq_ok.mp hrun
  cases hrun
  refine candidateOf_lineage h hrow rfl rfl rfl fun hunder => ?_
  unfold refreshed
  rw [if_neg]
  intro hstate
  rw [hstate] at hunder
  exact absurd hunder (by decide)

/-- **A preview** keeps the lineage. -/
theorem savePreview_lineage {normalizeText : String → String} {importJobId : Uuid}
    {resolutions : List BulkArtistResolution} {pages : List ProviderArtistTracks} {result : BulkPreviewResult}
    (h : Lineage base db)
    (hrun : savePreview normalizeText now owner importJobId operationId resolutions pages db = .ok (result, db')) :
    Lineage base db' := by
  unfold savePreview at hrun
  obtain ⟨⟨⟩, -, hrun⟩ := bind_eq_ok.mp hrun
  obtain ⟨⟨⟩, -, hrun⟩ := bind_eq_ok.mp hrun
  obtain ⟨artists, -, hrun⟩ := bind_eq_ok.mp hrun
  obtain ⟨⟨⟩, -, hrun⟩ := bind_eq_ok.mp hrun
  obtain ⟨⟨⟩, -, hrun⟩ := bind_eq_ok.mp hrun
  obtain ⟨⟨⟨bulk, operation⟩, replayed, db₁⟩, hinsert, hrun⟩ := bind_eq_ok.mp hrun
  obtain ⟨⟨⟩, -, hrun⟩ := bind_eq_ok.mp hrun
  obtain ⟨⟨⟩, -, hrun⟩ := bind_eq_ok.mp hrun
  obtain ⟨⟨authorizations, db₂⟩, hgrant, hrun⟩ := bind_eq_ok.mp hrun
  obtain ⟨⟨downloadable, db₃⟩, hsave, hrun⟩ := bind_eq_ok.mp hrun
  cases hrun
  have hinserted : Lineage base db₁ := by
    unfold insertOperation at hinsert
    split at hinsert
    · cases hinsert
      exact h
    · dsimp only at hinsert
      split at hinsert
      · cases hinsert
      · cases hinsert
        exact h.congr rfl rfl fun _ _ => rfl
  have hframe := grantAll_frame hgrant
  have hgranted : Lineage base ((0, db₂) : Nat × DiscoveryDb).2 :=
    hinserted.congr (by rw [hframe]) (by rw [hframe]) fun _ _ => by rw [hframe]
  exact Result.foldlM_keeps (I := fun s : Nat × DiscoveryDb => Lineage base s.2)
    (fun _ _ _ _ hs hstep => saveTrack_lineage hs hstep) hgranted hsave

/-- **A search acquisition** keeps the lineage. -/
theorem startSearchAcquisition_lineage {normalizeText : String → String} {evidence : SearchEvidence}
    {result : BulkStartResult} (h : Lineage base db)
    (hrun : startSearchAcquisition normalizeText now owner operationId evidence db = .ok (result, db')) :
    Lineage base db' := by
  unfold startSearchAcquisition at hrun
  obtain ⟨⟨⟩, -, hrun⟩ := bind_eq_ok.mp hrun
  obtain ⟨artistId, -, hrun⟩ := bind_eq_ok.mp hrun
  obtain ⟨⟨⟩, -, hrun⟩ := bind_eq_ok.mp hrun
  dsimp only at hrun
  split at hrun
  · obtain ⟨⟨⟩, -, hrun⟩ := bind_eq_ok.mp hrun
    cases hrun
    exact h
  split at hrun
  · cases hrun
  · obtain ⟨⟨authorization, db₁⟩, hgrant, hrun⟩ := bind_eq_ok.mp hrun
    obtain ⟨⟨candidateId, row⟩, hrow, hrun⟩ := bind_eq_ok.mp hrun
    obtain ⟨⟨⟩, -, hrun⟩ := bind_eq_ok.mp hrun
    obtain ⟨⟨operation, db₂⟩, houtcome, hrun⟩ := bind_eq_ok.mp hrun
    cases hrun
    have hinserted : ∀ row, Lineage base { db with operations := db.operations.set (.search owner operationId) row } :=
      fun _ => h.congr rfl rfl fun _ _ => rfl
    have hgranted := grantSourceAuthorization_lineage (hinserted _) hgrant
    have hsearched : Lineage base { db₁ with
        candidates := db₁.candidates.set candidateId (searched now authorization evidence.evidence row)
        items := db₁.items.set (.search owner operationId, candidateId) 0 } :=
      candidateOf_lineage hgranted hrow rfl rfl rfl fun hunder => by
        unfold searched
        rw [if_neg]
        revert hunder
        generalize row.acquisitionState = state
        revert state
        decide
    have hoperated : Lineage base db₂ := by
      unfold searchOutcome at houtcome
      split at houtcome
      · cases houtcome
        exact hsearched
      split at houtcome
      · cases houtcome
        exact hsearched
      split at houtcome
      · obtain ⟨db₃, hattempt, houtcome⟩ := bind_eq_ok.mp houtcome
        cases houtcome
        exact enqueueManualAttempt_lineage hsearched hattempt
      · cases houtcome
    exact hoperated.congr rfl rfl fun _ _ => rfl

end

end AutPlay.Discovery
