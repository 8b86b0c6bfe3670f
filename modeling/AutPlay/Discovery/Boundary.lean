import AutPlay.Discovery.Identity

/-!
# The boundaries of an acquisition

* `requireIngestBoundary`, `requireCommitAuthorization`   what the vault asks before it goes on;
* `makesEligible`        one entry of the library makes an artist eligible;
* `reachable_linked`     which artists are eligible once the candidate has its entry;
* `ownAuthority_laws`    an acquisition keeps its own authority just when it takes no sole entry over.
-/

set_option linter.unusedSectionVars false

namespace AutPlay.Discovery

open AutPlay.Sync (Uuid)
open AutPlay.Result (bind_eq_ok bind_of_ok)

/-! ## the checks -/

/-- The candidate of an attempt. -/
def attemptedCandidate (db : DiscoveryDb) (owner : Uuid) (id : CandidateId) (attemptId : AttemptId) :
    Option DiscoveryCandidateRow :=
  (ownedCandidate db owner id).filter fun candidate => candidate.currentAcquisitionAttemptId = some attemptId

/-- **`require_ingest_boundary`**. -/
def requireIngestBoundary (now : Int) (id : CandidateId) (owner : Uuid) (attemptId : AttemptId)
    (automaticEnabled : Bool) (db : DiscoveryDb) : Outcome PUnit := do
  let candidate ← need (attemptedCandidate db owner id attemptId) "source_authorization_unavailable"
  let (_, attempt) ← requireCurrentAttempt now id candidate none db
  check (attempt.origin = .automatic → automaticEnabled = true) "automation_not_active"
  requireProvider db
  requireCandidateArtist db candidate

/-- **`require_commit_authorization`**. -/
def requireCommitAuthorization (now : Int) (id : CandidateId) (owner recordingId : Uuid) (attemptId : AttemptId)
    (db : DiscoveryDb) : Outcome DiscoveryCandidateRow := do
  requireProvider db
  let candidate ← need ((attemptedCandidate db owner id attemptId).filter fun candidate =>
    candidate.recordingId = some recordingId ∧ candidate.providerId = jamendoProviderId ∧
      candidate.acquisitionState ∈ [AcquisitionState.ingesting, .materializing])
    "source_authorization_unavailable"
  let _ ← requireCurrentAttempt now id candidate none db
  requireCandidateArtist db candidate
  pure candidate

/-! ## eligible artists -/

section
variable (db : DiscoveryDb) (id : CandidateId) (owner artistId libraryEntryId : Uuid)

/-- Another candidate holds the entry back. -/
def heldBackByOthers : Prop :=
  ∃ e ∈ db.candidates.items, e.1 ≠ id ∧ e.2.libraryEntryId = some libraryEntryId ∧
    e.2.acquisitionState ≠ .ready

/-- The entry is the owner's, and stands for a track of the artist. -/
def entryCredits : Prop :=
  (∃ artist ∈ db.catalog.artists.get? artistId, artist.deletedAt = none) ∧
    ∃ entry ∈ db.catalog.libraryEntries.get? libraryEntryId, entry.userId = owner ∧ entry.removedAt = none ∧
      ∃ ref ∈ db.catalog.trackRefs.get? entry.userTrackRefId, creditedOn db owner artistId ref

/-- **The entry makes the artist eligible.** -/
def makesEligible : Prop := entryCredits db owner artistId libraryEntryId ∧ ¬heldBack db libraryEntryId

/-- It does, whatever the candidate itself is linked to. -/
def makesEligibleBut : Prop :=
  entryCredits db owner artistId libraryEntryId ∧ ¬heldBackByOthers db id libraryEntryId

end

section
variable {db db' : DiscoveryDb} {id : CandidateId} {owner artistId libraryEntryId : Uuid}
  {c c' : DiscoveryCandidateRow} {attemptId : AttemptId} {now : Int}

theorem artistReachable_iff :
    artistReachable db owner artistId ↔ ∃ libraryEntryId, makesEligible db owner artistId libraryEntryId := by
  constructor
  · rintro ⟨hartist, e, he, huser, hactive, hheld, hcredited⟩
    exact ⟨e.1, ⟨hartist, e.2, Dict.get?_eq_some.mpr he, huser, hactive, hcredited⟩, hheld⟩
  · rintro ⟨entryId, ⟨hartist, entry, hentry, huser, hactive, hcredited⟩, hheld⟩
    exact ⟨hartist, (entryId, entry), Dict.get?_eq_some.mp hentry, huser, hactive, hheld, hcredited⟩

theorem heldBack_of_others (h : heldBackByOthers db id libraryEntryId) : heldBack db libraryEntryId := by
  obtain ⟨e, he, -, hentry, hstate⟩ := h
  exact ⟨e, he, hentry, hstate⟩

theorem makesEligible.but (h : makesEligible db owner artistId libraryEntryId) :
    makesEligibleBut db id owner artistId libraryEntryId :=
  ⟨h.1, fun hheld => h.2 (heldBack_of_others hheld)⟩

/-- The candidate is linked to an entry, and is not ready. -/
structure Linked (db : DiscoveryDb) (id : CandidateId) (c' : DiscoveryCandidateRow) (libraryEntryId : Uuid)
    (db' : DiscoveryDb) : Prop where
  candidates : db'.candidates = db.candidates.set id c'
  entry : c'.libraryEntryId = some libraryEntryId
  state : c'.acquisitionState = .ingesting

/-- Once the candidate is linked, its entry is held back, and others only by other candidates. -/
theorem Linked.heldBack_iff {k : Uuid} (h : Linked db id c' libraryEntryId db') :
    heldBack db' k ↔ k = libraryEntryId ∨ heldBackByOthers db id k := by
  unfold heldBack
  rw [h.candidates]
  constructor
  · rintro ⟨e, he, hentry, hstate⟩
    have hmem := Dict.mem_set.mp (show (e.1, e.2) ∈ (db.candidates.set id c').items from he)
    split at hmem
    · rw [hmem, h.entry] at hentry
      exact Or.inl (Option.some.inj hentry).symm
    · rename_i hne
      exact Or.inr ⟨e, hmem, hne, hentry, hstate⟩
  · rintro (rfl | ⟨e, he, hne, hentry, hstate⟩)
    · refine ⟨(id, c'), Dict.mem_set.mpr ?_, h.entry, ?_⟩
      · rw [if_pos rfl]
      · rw [h.state]
        decide
    · refine ⟨e, ?_, hentry, hstate⟩
      have hmem : (e.1, e.2) ∈ (db.candidates.set id c').items := by
        rw [Dict.mem_set, if_neg hne]
        exact he
      exact hmem

theorem entryCredits_grown (h : Grown db.catalog db'.catalog libraryEntryId) {k : Uuid}
    (hk : k ≠ libraryEntryId) (hcredits : entryCredits db owner artistId k) :
    entryCredits db' owner artistId k := by
  obtain ⟨hartist, entry, hentry, huser, hactive, ref, href, hrefuser, hresolved, hlive, recordingId, hrec,
    recording, hrecording, hdeleted, hname⟩ := hcredits
  rw [← h.artists] at hartist
  exact ⟨hartist, entry, h.entries _ _ hk hentry, huser, hactive, ref, h.trackRefs _ _ href, hrefuser,
    hresolved, hlive, recordingId, hrec, recording, h.recordings _ _ hrecording, hdeleted, h.names _ hname⟩

/-- **An artist that another entry makes eligible stays eligible.** -/
theorem reachable_linked (h : Linked db id c' libraryEntryId db')
    (hgrown : Grown db.catalog db'.catalog libraryEntryId) {k : Uuid} (hk : k ≠ libraryEntryId)
    (hbut : makesEligibleBut db id owner artistId k) : artistReachable db' owner artistId := by
  refine artistReachable_iff.mpr ⟨k, entryCredits_grown hgrown hk hbut.1, fun hheld => ?_⟩
  rcases h.heldBack_iff.mp hheld with he | hothers
  · exact hk he
  · exact hbut.2 hothers

/-- Where nothing else changed, nothing else makes an artist eligible. -/
theorem reachable_of_linked (h : Linked db id c' libraryEntryId db') (hsame : db'.catalog = db.catalog)
    (hreach : artistReachable db' owner artistId) :
    ∃ k, k ≠ libraryEntryId ∧ makesEligibleBut db id owner artistId k := by
  obtain ⟨k, hcredits, hheld⟩ := artistReachable_iff.mp hreach
  have hcredits : entryCredits db owner artistId k := by
    unfold entryCredits creditedOn at hcredits ⊢
    rw [hsame] at hcredits
    exact hcredits
  refine ⟨k, fun hk => hheld (h.heldBack_iff.mpr (Or.inl hk)), hcredits, fun hothers => ?_⟩
  exact hheld (h.heldBack_iff.mpr (Or.inr hothers))

end

/-! ## the condition -/

/-- No artist is eligible by the entry that is taken over alone. -/
def SpareEntry (refs : ProviderReferences) (db : DiscoveryDb) (id : CandidateId) (owner : Uuid)
    (providerTrackId : String) : Prop :=
  ∀ k ∈ reusedEntry refs db.catalog owner providerTrackId, ∀ artistId, makesEligible db owner artistId k →
    ∃ k', k' ≠ k ∧ makesEligibleBut db id owner artistId k'

/-- **When an acquisition keeps its authority**: the candidate is the provider's, and either the attempt has no
upload yet and no sole entry is taken over, or it has one and the candidate still stands for it. -/
def KeepsAuthority (refs : ProviderReferences) (db : DiscoveryDb) (id : CandidateId) (owner : Uuid)
    (c : DiscoveryCandidateRow) (attemptId : AttemptId) : Prop :=
  c.providerId = jamendoProviderId ∧
    match uploadOf db attemptId with
    | none => SpareEntry refs db id owner c.providerTrackId
    | some upload => c.acquisitionState = .ingesting ∧ c.recordingId = some upload.2.targetRecordingId

/-- **Nobody else changes anything that the checks read.** -/
structure Undisturbed (db db' : DiscoveryDb) : Prop where
  provider : db'.provider = db.provider
  accounts : db'.accounts = db.accounts
  catalog : db'.catalog = db.catalog
  authorizations : db'.authorizations = db.authorizations
  policies : db'.policies = db.policies
  candidates : db'.candidates = db.candidates
  attempts : db'.attempts = db.attempts

/-- The authorization of the attempt has not expired. -/
def unexpired (now : Int) (db : DiscoveryDb) (attemptId : AttemptId) : Prop :=
  ∀ attempt ∈ db.attempts.get? attemptId,
    ∀ authorization ∈ db.authorizations.get? attempt.sourceAuthorizationId, now < authorization.expiresAt

instance (now : Int) (db : DiscoveryDb) (attemptId : AttemptId) : Decidable (unexpired now db attemptId) :=
  inferInstanceAs (Decidable (∀ attempt ∈ db.attempts.get? attemptId,
    ∀ authorization ∈ db.authorizations.get? attempt.sourceAuthorizationId, _))

/-! ## the steps -/

section
variable {db db' db₁ : DiscoveryDb} {id : CandidateId} {owner : Uuid} {c c' : DiscoveryCandidateRow}
  {attemptId : AttemptId} {attempt : AcquisitionAttemptRow} {now later : Int} {fence : LeaseFence}
  {evidence : SearchEvidence} {stagingKey : String} {identity : Option Materialized}
  {prepared : AcquisitionPrepared} {automaticEnabled : Bool}

theorem Undisturbed.refl : Undisturbed db db := ⟨rfl, rfl, rfl, rfl, rfl, rfl, rfl⟩

theorem Undisturbed.artistReachable_iff {artistId : Uuid} (h : Undisturbed db db') :
    artistReachable db' owner artistId ↔ artistReachable db owner artistId := by
  unfold artistReachable heldBack creditedOn
  rw [h.catalog, h.candidates]

theorem providerAvailable_congr (h : db'.provider = db.provider) :
    providerAvailable db' ↔ providerAvailable db := by
  unfold providerAvailable
  rw [h]

/-- The attempt that a worker was checked for passes again without its lease, until it expires. -/
theorem requireCurrentAttempt_again
    (h : requireCurrentAttempt now id c (some fence) db = .ok (attemptId, attempt))
    (hcalm : Undisturbed db db') (hlater : unexpired later db' attemptId) :
    requireCurrentAttempt later id c none db' = .ok (attemptId, attempt) := by
  unfold requireCurrentAttempt at h ⊢
  obtain ⟨a, ha, h⟩ := bind_eq_ok.mp h
  obtain ⟨row, hrow, h⟩ := bind_eq_ok.mp h
  obtain ⟨⟨⟩, hcurrent, h⟩ := bind_eq_ok.mp h
  obtain ⟨⟨⟩, hgeneration, h⟩ := bind_eq_ok.mp h
  obtain ⟨authorization, hauthorization, h⟩ := bind_eq_ok.mp h
  obtain ⟨⟨⟩, hsource, h⟩ := bind_eq_ok.mp h
  obtain ⟨⟨⟩, horigin, h⟩ := bind_eq_ok.mp h
  obtain ⟨⟨⟩, -, h⟩ := bind_eq_ok.mp h
  obtain ⟨⟨⟩, -, h⟩ := bind_eq_ok.mp h
  cases h
  obtain ⟨hid, hjob, -, hactive, hnamed, hrevision⟩ := check_eq_ok.mp hcurrent
  have hgeneration := check_eq_ok.mp hgeneration
  refine bind_of_ok ha ?_
  rw [hcalm.attempts]
  refine bind_of_ok hrow ?_
  refine bind_of_ok (a := ⟨⟩) (check_eq_ok.mpr ⟨hid, hjob, nofun, hactive, hnamed, hrevision⟩) ?_
  refine bind_of_ok (a := ⟨⟩) (check_eq_ok.mpr ?_) ?_
  · unfold acquisitionGeneration at hgeneration ⊢
    rw [hcalm.accounts]
    exact hgeneration
  rw [hcalm.authorizations]
  refine bind_of_ok hauthorization ?_
  refine bind_of_ok hsource ?_
  have horigin' : requireOrigin db' c attempt authorization = .ok ⟨⟩ := by
    unfold requireOrigin at horigin ⊢
    cases hkind : attempt.origin with
    | manual =>
      rw [hkind] at horigin
      exact horigin
    | automatic =>
      rw [hkind] at horigin
      refine check_eq_ok.mpr ?_
      have hfits := check_eq_ok.mp horigin
      unfold policyFits at hfits ⊢
      rw [hcalm.policies]
      exact hfits
  refine bind_of_ok horigin' ?_
  refine bind_of_ok (a := ⟨⟩) (check_eq_ok.mpr (hlater attempt ?_ authorization ?_)) ?_
  · rw [hcalm.attempts]
    exact need_eq_ok.mp hrow
  · rw [hcalm.authorizations]
    exact need_eq_ok.mp hauthorization
  exact bind_of_ok (a := ⟨⟩) rfl rfl

theorem requireCurrentAttempt_unexpired {f : Option LeaseFence}
    (h : requireCurrentAttempt now id c f db = .ok (attemptId, attempt)) : unexpired now db attemptId := by
  unfold requireCurrentAttempt at h
  obtain ⟨a, ha, h⟩ := bind_eq_ok.mp h
  obtain ⟨row, hrow, h⟩ := bind_eq_ok.mp h
  obtain ⟨⟨⟩, -, h⟩ := bind_eq_ok.mp h
  obtain ⟨⟨⟩, -, h⟩ := bind_eq_ok.mp h
  obtain ⟨authorization, hauthorization, h⟩ := bind_eq_ok.mp h
  obtain ⟨⟨⟩, -, h⟩ := bind_eq_ok.mp h
  obtain ⟨⟨⟩, -, h⟩ := bind_eq_ok.mp h
  obtain ⟨⟨⟩, hexpires, h⟩ := bind_eq_ok.mp h
  obtain ⟨⟨⟩, -, h⟩ := bind_eq_ok.mp h
  cases h
  intro row' hrow' authorization' hauthorization'
  rw [Option.mem_def, need_eq_ok.mp hrow] at hrow'
  cases hrow'
  rw [Option.mem_def, need_eq_ok.mp hauthorization] at hauthorization'
  cases hauthorization'
  exact check_eq_ok.mp hexpires

/-- The attempt of a claim has passed the gate of the operator. -/
theorem claimAcquisition_gate {claimed : Option AcquisitionTarget}
    (h : claimAcquisition now owner id fence automaticEnabled db = .ok (claimed, db₁)) :
    ∃ c₁ a row, db₁.candidates.get? id = some c₁ ∧ c₁.currentAcquisitionAttemptId = some a ∧
      db₁.attempts.get? a = some row ∧ (row.origin = .automatic → automaticEnabled = true) := by
  unfold claimAcquisition at h
  obtain ⟨⟨⟩, -, h⟩ := bind_eq_ok.mp h
  obtain ⟨c₀, hc₀, h⟩ := bind_eq_ok.mp h
  obtain ⟨⟨⟩, -, h⟩ := bind_eq_ok.mp h
  obtain ⟨⟨a, row⟩, hattempt, h⟩ := bind_eq_ok.mp h
  obtain ⟨⟨⟩, hgate, h⟩ := bind_eq_ok.mp h
  obtain ⟨⟨⟩, -, h⟩ := bind_eq_ok.mp h
  obtain ⟨hc₀, -, -⟩ := leasedCandidate_eq_some (need_eq_ok.mp hc₀)
  have hw := requireCurrentAttempt_ok hattempt
  have hgate := check_eq_ok.mp hgate
  dsimp only at h
  split at h
  · cases h
    exact ⟨c₀, a, row, hc₀, hw.names.current, hw.stored, hgate⟩
  · split at h
    · obtain ⟨⟨⟩, -, h⟩ := bind_eq_ok.mp h
      cases h
      exact ⟨c₀, a, row, hc₀, hw.names.current, hw.stored, hgate⟩
    · obtain ⟨⟨⟩, -, h⟩ := bind_eq_ok.mp h
      obtain ⟨_, -, h⟩ := bind_eq_ok.mp h
      cases h
      rw [refreshBulkOperations_frame]
      exact ⟨_, a, _, Dict.get?_set_self .., hw.names.current, Dict.get?_set_self .., hgate⟩

/-- What the hand-off of a new upload leaves. -/
structure NewUpload (db : DiscoveryDb) (id : CandidateId) (c : DiscoveryCandidateRow) (identity : Materialized)
    (c' : DiscoveryCandidateRow) (db' : DiscoveryDb) : Prop where
  linked : Linked db id c' identity.libraryEntryId db'
  catalog : db'.catalog = identity.catalog
  recording : c'.recordingId = some identity.recordingId
  user : c'.userId = c.userId
  provider : c'.providerId = c.providerId
  artist : c'.canonicalArtistId = c.canonicalArtistId
  attempt : c'.currentAcquisitionAttemptId = c.currentAcquisitionAttemptId
  sourceProvider : db'.provider = db.provider
  attempts : db'.attempts = db.attempts

theorem createIngestLocked_new
    (h : createIngestLocked now id c attemptId evidence.evidence stagingKey identity db =
      .ok (prepared, c', db')) :
    ∃ found, identity = some found ∧ prepared.recordingId = found.recordingId ∧
      NewUpload db id c found c' db' := by
  unfold createIngestLocked at h
  obtain ⟨found, hfound, h⟩ := bind_eq_ok.mp h
  obtain ⟨⟨ingestJobId, jobs⟩, -, h⟩ := bind_eq_ok.mp h
  dsimp only at h
  split at h
  · cases h
  · cases h
    refine ⟨found, need_eq_ok.mp hfound, rfl, ⟨?_, rfl, rfl⟩, ?_, rfl, rfl, rfl, rfl, rfl, ?_, ?_⟩
    · rw [refreshBulkOperations_frame]
    · rw [refreshBulkOperations_frame]
    · rw [refreshBulkOperations_frame]
    · rw [refreshBulkOperations_frame]

/-- **The ways a hand-off succeeds**: a new upload, or the one that is there. -/
structure PrepareOk (now : Int) (owner : Uuid) (id : CandidateId) (fence : LeaseFence)
    (evidence : SearchEvidence) (identity : Option Materialized) (db : DiscoveryDb)
    (c : DiscoveryCandidateRow) (attemptId : AttemptId)
    (prepared : AcquisitionPrepared) (db' : DiscoveryDb) : Prop where
  provider : providerAvailable db
  leased : leasedCandidate db owner id fence = some c
  track : evidence.providerTrackId = c.providerTrackId
  state : c.acquisitionState ∈ [AcquisitionState.acquiring, .ingesting]
  current : ∃ attempt, requireCurrentAttempt now id c (some fence) db = .ok (attemptId, attempt)
  artist : ∃ artistId ∈ c.canonicalArtistId, artistReachable db owner artistId
  outcome : (∃ upload, uploadOf db attemptId = some upload ∧
        prepared.recordingId = upload.2.targetRecordingId ∧ db' = db) ∨
      uploadOf db attemptId = none ∧ ∃ found c', identity = some found ∧
        prepared.recordingId = found.recordingId ∧ NewUpload db id c found c' db' ∧
        ∃ attempt, requireCurrentAttempt now id c' (some fence) db' = .ok (attemptId, attempt)

theorem prepareIngest_cases
    (h : prepareIngest now owner id fence evidence stagingKey identity db = .ok (prepared, db')) :
    ∃ c attemptId, PrepareOk now owner id fence evidence identity db c attemptId prepared db' := by
  unfold prepareIngest at h
  obtain ⟨⟨⟩, -, h⟩ := bind_eq_ok.mp h
  obtain ⟨⟨⟩, -, h⟩ := bind_eq_ok.mp h
  obtain ⟨⟨⟩, hprovider, h⟩ := bind_eq_ok.mp h
  obtain ⟨c, hc, h⟩ := bind_eq_ok.mp h
  obtain ⟨⟨⟩, hchecks, h⟩ := bind_eq_ok.mp h
  obtain ⟨⟨attemptId, attempt⟩, hattempt, h⟩ := bind_eq_ok.mp h
  obtain ⟨⟨⟩, hartist, h⟩ := bind_eq_ok.mp h
  have hc := need_eq_ok.mp hc
  obtain ⟨hstate, htrack, -, -⟩ := check_eq_ok.mp hchecks
  have hartist := check_eq_ok.mp hartist
  rw [(leasedCandidate_eq_some hc).2.1] at hartist
  refine ⟨c, attemptId, check_eq_ok.mp hprovider, hc, htrack, hstate, ⟨attempt, hattempt⟩, hartist, ?_⟩
  dsimp only at h
  split at h
  · rename_i uploadSessionId upload hupload
    obtain ⟨jobId, -, h⟩ := bind_eq_ok.mp h
    cases h
    exact Or.inl ⟨_, hupload, rfl, rfl⟩
  · rename_i hnone
    obtain ⟨⟨prepared', c', db₁⟩, hcreate, h⟩ := bind_eq_ok.mp h
    obtain ⟨⟨a, attempt'⟩, hagain, h⟩ := bind_eq_ok.mp h
    cases h
    obtain ⟨found, hfound, hrecording, hnew⟩ := createIngestLocked_new hcreate
    have ha : a = attemptId := by
      have hnamed := (requireCurrentAttempt_ok hagain).names.current
      rw [hnew.attempt, (requireCurrentAttempt_ok hattempt).names.current] at hnamed
      exact (Option.some.inj hnamed).symm
    subst ha
    exact Or.inr ⟨hnone, found, c', hfound, hrecording, hnew, attempt', hagain⟩

/-! ## an acquisition and its own authority -/

/-- What `_materialize_identity` gives for the candidate of a call. -/
def identityFor (ids : NewIds) (refs : ProviderReferences) (reviewed : Bool) (db : DiscoveryDb) (owner : Uuid)
    (id : CandidateId) (fence : LeaseFence) (evidence : SearchEvidence) : Option Materialized := do
  let candidate ← leasedCandidate db owner id fence
  let (identity, _) ← (materializeIdentity ids refs reviewed candidate evidence db).toOption
  some identity

theorem identityFor_eq_some {ids : NewIds} {refs : ProviderReferences} {reviewed : Bool} {found : Materialized}
    (h : identityFor ids refs reviewed db owner id fence evidence = some found)
    (hc : leasedCandidate db owner id fence = some c) :
    ∃ refs', materializeIdentity ids refs reviewed c evidence db = .ok (found, refs') := by
  unfold identityFor at h
  rw [hc, Option.bind_eq_bind, Option.bind_some] at h
  cases hm : materializeIdentity ids refs reviewed c evidence db with
  | error fault =>
    rw [hm] at h
    cases h
  | ok r =>
    rw [hm] at h
    cases h
    exact ⟨r.2, rfl⟩

/-- The later checks of the vault go through. -/
def ChecksPass (later : Int) (id : CandidateId) (owner recordingId : Uuid) (attemptId : AttemptId)
    (automaticEnabled : Bool) (db : DiscoveryDb) : Prop :=
  requireIngestBoundary later id owner attemptId automaticEnabled db = .ok ⟨⟩ ∧
    ∃ row, requireCommitAuthorization later id owner recordingId attemptId db = .ok row

/-- What the checks ask of the candidate and its artist. -/
theorem checksPass_of {recordingId artistId : Uuid} (hc : db.candidates.get? id = some c)
    (huser : c.userId = owner)
    (hcurrent : requireCurrentAttempt later id c none db = .ok (attemptId, attempt))
    (hgate : attempt.origin = .automatic → automaticEnabled = true) (hprovider : providerAvailable db)
    (hartist : artistId ∈ c.canonicalArtistId) (hreach : artistReachable db owner artistId)
    (hrecording : c.recordingId = some recordingId) (hjamendo : c.providerId = jamendoProviderId)
    (hstate : c.acquisitionState ∈ [AcquisitionState.ingesting, .materializing]) :
    ChecksPass later id owner recordingId attemptId automaticEnabled db := by
  have hattempted : attemptedCandidate db owner id attemptId = some c :=
    Option.filter_eq_some_iff.mpr ⟨ownedCandidate_eq_some.mpr ⟨hc, huser⟩,
      decide_eq_true (requireCurrentAttempt_ok hcurrent).names.current⟩
  have hcandidate : requireCandidateArtist db c = .ok ⟨⟩ := by
    refine check_eq_ok.mpr ⟨artistId, hartist, ?_⟩
    rw [huser]
    exact hreach
  refine ⟨?_, c, ?_⟩
  · unfold requireIngestBoundary
    refine bind_of_ok (need_eq_ok.mpr hattempted) ?_
    refine bind_of_ok hcurrent ?_
    refine bind_of_ok (a := ⟨⟩) (check_eq_ok.mpr hgate) ?_
    exact bind_of_ok (a := ⟨⟩) (check_eq_ok.mpr hprovider) hcandidate
  · unfold requireCommitAuthorization
    refine bind_of_ok (a := ⟨⟩) (check_eq_ok.mpr hprovider) ?_
    refine bind_of_ok (need_eq_ok.mpr (Option.filter_eq_some_iff.mpr
      ⟨hattempted, decide_eq_true ⟨hrecording, hjamendo, hstate⟩⟩)) ?_
    refine bind_of_ok hcurrent ?_
    exact bind_of_ok hcandidate rfl

/-- What the check at a commit found. -/
theorem commit_found {recordingId : Uuid} {row : DiscoveryCandidateRow}
    (h : requireCommitAuthorization later id owner recordingId attemptId db = .ok row)
    (hc : db.candidates.get? id = some c) :
    c.recordingId = some recordingId ∧ c.providerId = jamendoProviderId ∧
      c.acquisitionState ∈ [AcquisitionState.ingesting, .materializing] := by
  unfold requireCommitAuthorization at h
  obtain ⟨⟨⟩, -, h⟩ := bind_eq_ok.mp h
  obtain ⟨found, hfound, h⟩ := bind_eq_ok.mp h
  obtain ⟨hattempted, hchecks⟩ := Option.filter_eq_some_iff.mp (need_eq_ok.mp hfound)
  obtain ⟨howned, -⟩ := Option.filter_eq_some_iff.mp hattempted
  rw [(ownedCandidate_eq_some.mp howned).1] at hc
  cases hc
  exact of_decide_eq_true hchecks

/-- The candidate's own eligibility after a new upload. -/
theorem eligible_kept_iff {ids : NewIds} {refs refs' : ProviderReferences} {reviewed : Bool}
    {found : Materialized} (hm : materializeIdentity ids refs reviewed c evidence db = .ok (found, refs'))
    (huser : c.userId = owner)
    (htrack : evidence.providerTrackId = c.providerTrackId) (hnew : NewUpload db id c found c' db') :
    (∀ artistId, artistReachable db owner artistId → artistReachable db' owner artistId) ↔
      SpareEntry refs db id owner c.providerTrackId := by
  obtain ⟨hgrown, hcases⟩ := materializeIdentity_ok hm
  rw [← hnew.catalog] at hgrown
  rw [huser, htrack] at hcases
  constructor
  · intro hkept k hk artistId hmakes
    rcases hcases with ⟨hreused, hsame⟩ | ⟨hnone, -⟩
    · rw [Option.mem_def, hreused] at hk
      cases hk
      exact reachable_of_linked hnew.linked (hnew.catalog.trans hsame)
        (hkept artistId (artistReachable_iff.mpr ⟨_, hmakes⟩))
    · rw [Option.mem_def, hnone] at hk
      cases hk
  · intro hspare artistId hreach
    obtain ⟨k, hmakes⟩ := artistReachable_iff.mp hreach
    by_cases hk : k = found.libraryEntryId
    · subst hk
      rcases hcases with ⟨hreused, -⟩ | ⟨-, habsent⟩
      · obtain ⟨k', hk', hbut⟩ := hspare _ hreused artistId hmakes
        exact reachable_linked hnew.linked hgrown hk' hbut
      · obtain ⟨-, entry, hentry, -⟩ := hmakes.1
        rw [Option.mem_def, habsent] at hentry
        cases hentry
    · exact reachable_linked hnew.linked hgrown hk hmakes.but

/-- **An acquisition keeps its own authority just when it takes no sole entry over**, and its candidate still
stands for the upload where there is one already. -/
theorem ownAuthority_laws {ids : NewIds} {refs : ProviderReferences} {reviewed : Bool} {db₀ : DiscoveryDb}
    {claimedAt : Int} {claimFence : LeaseFence} {claimed : Option AcquisitionTarget}
    (hclaim : claimAcquisition claimedAt owner id claimFence automaticEnabled db₀ = .ok (claimed, db₁))
    (hcalm : Undisturbed db₁ db)
    (hprepare : prepareIngest now owner id fence evidence stagingKey
      (identityFor ids refs reviewed db owner id fence evidence) db = .ok (prepared, db')) :
    ∃ c attemptId, db.candidates.get? id = some c ∧ c.currentAcquisitionAttemptId = some attemptId ∧
      (((∀ later db₂, Undisturbed db' db₂ → unexpired later db₂ attemptId →
            ChecksPass later id owner prepared.recordingId attemptId automaticEnabled db₂) ∧
          ∀ artistId, artistReachable db owner artistId → artistReachable db' owner artistId) ↔
        KeepsAuthority refs db id owner c attemptId) := by
  obtain ⟨c, attemptId, ok⟩ := prepareIngest_cases hprepare
  obtain ⟨hc, huser, -⟩ := leasedCandidate_eq_some ok.leased
  obtain ⟨attempt, hattempt⟩ := ok.current
  have hw := requireCurrentAttempt_ok hattempt
  obtain ⟨artistId, hartist, hreach⟩ := ok.artist
  -- the gate that the claim passed
  have hgate : ∀ row, db.attempts.get? attemptId = some row → row.origin = .automatic →
      automaticEnabled = true := by
    obtain ⟨c₁, a, row, hc₁, ha, hrow, hgate⟩ := claimAcquisition_gate hclaim
    rw [← hcalm.candidates, hc] at hc₁
    cases hc₁
    rw [hw.names.current] at ha
    cases ha
    intro row' hrow'
    rw [hcalm.attempts, hrow] at hrow'
    cases hrow'
    exact hgate
  refine ⟨c, attemptId, hc, hw.names.current, ?_⟩
  unfold KeepsAuthority
  rcases ok.outcome with ⟨upload, hupload, hrecording, rfl⟩ |
    ⟨hnone, found, c', hfound, hrecording, hnew, attempt', hagain⟩
  · -- the upload that is there: nothing is written
    rw [hupload]
    constructor
    · rintro ⟨hchecks, -⟩
      obtain ⟨-, row, hcommit⟩ := hchecks now db' .refl (requireCurrentAttempt_unexpired hattempt)
      obtain ⟨hrec, hjamendo, hstate⟩ := commit_found hcommit hc
      refine ⟨hjamendo, ?_, hrec.trans (congrArg some hrecording)⟩
      have hbefore := ok.state
      simp only [List.mem_cons, List.not_mem_nil, or_false] at hbefore hstate
      rcases hbefore with h | h
      · rw [h] at hstate
        rcases hstate with h' | h' <;> cases h'
      · exact h
    · rintro ⟨hjamendo, hstate, hrec⟩
      refine ⟨fun later db₂ hcalm₂ hlater => ?_, fun _ h => h⟩
      have hcurrent := requireCurrentAttempt_again hattempt hcalm₂ hlater
      refine checksPass_of ?_ huser hcurrent (hgate attempt hw.stored)
        ((providerAvailable_congr hcalm₂.provider).mpr ok.provider) hartist
        (hcalm₂.artistReachable_iff.mpr hreach) (hrec.trans (congrArg some hrecording.symm)) hjamendo ?_
      · rw [hcalm₂.candidates]
        exact hc
      · rw [hstate]
        decide
  · -- a new upload: the candidate is linked
    rw [hnone]
    obtain ⟨refs', hm⟩ := identityFor_eq_some hfound ok.leased
    have hkept := eligible_kept_iff hm huser ok.track hnew
    have hc' : db'.candidates.get? id = some c' := by
      rw [hnew.linked.candidates]
      exact Dict.get?_set_self ..
    have hw' := requireCurrentAttempt_ok hagain
    constructor
    · rintro ⟨hchecks, hshrink⟩
      obtain ⟨-, row, hcommit⟩ := hchecks now db' .refl (requireCurrentAttempt_unexpired hagain)
      obtain ⟨-, hjamendo, -⟩ := commit_found hcommit hc'
      exact ⟨hnew.provider.symm.trans hjamendo, hkept.mp hshrink⟩
    · rintro ⟨hjamendo, hspare⟩
      have hshrink := hkept.mpr hspare
      refine ⟨fun later db₂ hcalm₂ hlater => ?_, hshrink⟩
      have hcurrent := requireCurrentAttempt_again hagain hcalm₂ hlater
      have hstored : db.attempts.get? attemptId = some attempt' := by
        rw [← hnew.attempts]
        exact hw'.stored
      have hartist' : artistId ∈ c'.canonicalArtistId := by
        rw [hnew.artist]
        exact hartist
      refine checksPass_of ?_ (hnew.user.trans huser) hcurrent (hgate attempt' hstored) ?_ hartist'
        (hcalm₂.artistReachable_iff.mpr (hshrink artistId hreach)) ?_ (hnew.provider.trans hjamendo) ?_
      · rw [hcalm₂.candidates]
        exact hc'
      · exact (providerAvailable_congr (hcalm₂.provider.trans hnew.sourceProvider)).mpr ok.provider
      · rw [hnew.recording, hrecording]
      · rw [hnew.linked.state]
        decide

end

/-! ## the only entry of an artist -/

namespace Sample

def newIds : NewIds where
  artistCredit := ⟨"00000000-0000-4000-8000-0000000000d7", by decide +kernel⟩
  recording := ⟨"00000000-0000-4000-8000-0000000000d8", by decide +kernel⟩
  userTrackRef := ⟨"00000000-0000-4000-8000-0000000000d9", by decide +kernel⟩
  libraryEntry := newEntry

/-- The provider's track is not known yet. -/
def noReferences : ProviderReferences := ⟨Dict.empty, Dict.empty⟩

/-- The provider's track is the recording that the owner has already. -/
def knownTrack : ProviderReferences := ⟨Dict.empty.set "1" (some recording), Dict.empty⟩

/-- The worker claims the candidate of the search. -/
def claim : Outcome (Option AcquisitionTarget × DiscoveryDb) :=
  claimAcquisition now owner firstTrack (fence 1) false (leased 1 afterSearch)

/-- It hands its upload over. -/
def handOver (refs : ProviderReferences) (db : DiscoveryDb) : Outcome (AcquisitionPrepared × DiscoveryDb) :=
  prepareIngest now owner firstTrack (fence 1) searchEvidence "staged"
    (identityFor newIds refs true db owner firstTrack (fence 1) searchEvidence) db

end Sample

open Sample in
/-- A new track: the later checks go through, and the artist stays eligible. -/
theorem ownAuthority_laws_new : ∃ claimed db₁ prepared db', claim = .ok (claimed, db₁) ∧
    handOver noReferences db₁ = .ok (prepared, db') ∧
    ChecksPass now firstTrack owner prepared.recordingId prepared.uploadSessionId false db' ∧
    artistReachable db' owner artist := by
  have hruns : ∃ r r', claim = .ok r ∧ handOver noReferences r.2 = .ok r' ∧
      (r.2.uploads.items = [] ∧ reusedEntry noReferences r.2.catalog owner "1" = none) ∧
      (r.2.candidates.get? firstTrack).all (fun c => c.providerId = jamendoProviderId ∧
        c.providerTrackId = "1" ∧ c.currentAcquisitionAttemptId = some r'.1.uploadSessionId) = true ∧
      artistReachable r.2 owner artist ∧ unexpired now r'.2 r'.1.uploadSessionId := by
    refine ⟨_, _, rfl, rfl, ?_, ?_, ?_⟩
    · decide +kernel
    · decide +kernel
    · decide +kernel
  obtain ⟨⟨claimed, db₁⟩, ⟨prepared, db'⟩, hclaim, hprepare, ⟨huploads, hreused⟩, hall, hreach, hlater⟩ := hruns
  obtain ⟨c, attemptId, hc, hcurrent, hiff⟩ := ownAuthority_laws hclaim .refl hprepare
  rw [hc] at hall
  obtain ⟨hjamendo, htrack, hnamed⟩ := of_decide_eq_true hall
  rw [hcurrent] at hnamed
  cases hnamed
  have hkeeps : KeepsAuthority noReferences db₁ firstTrack owner c prepared.uploadSessionId := by
    refine ⟨hjamendo, ?_⟩
    unfold uploadOf
    rw [huploads]
    show SpareEntry noReferences db₁ firstTrack owner c.providerTrackId
    rw [htrack]
    intro k hk
    rw [Option.mem_def, hreused] at hk
    cases hk
  obtain ⟨hchecks, hshrink⟩ := hiff.mpr hkeeps
  exact ⟨claimed, db₁, prepared, db', hclaim, hprepare, hchecks now db' .refl hlater, hshrink artist hreach⟩

open Sample in
/-- **The only entry of an artist is taken over**: `prepare_ingest` succeeds, the artist is not eligible any
more, and the next boundary refuses the attempt. -/
theorem sole_entry_taken_over : ∃ claimed db₁ prepared db', claim = .ok (claimed, db₁) ∧
    handOver knownTrack db₁ = .ok (prepared, db') ∧ artistReachable db₁ owner artist ∧
    ¬artistReachable db' owner artist ∧
    requireIngestBoundary now firstTrack owner prepared.uploadSessionId false db' =
      .error (.bulk "discovery_target_not_found") := by
  have hruns : ∃ r r', claim = .ok r ∧ handOver knownTrack r.2 = .ok r' ∧
      (artistReachable r.2 owner artist ∧ ¬artistReachable r'.2 owner artist) ∧
      requireIngestBoundary now firstTrack owner r'.1.uploadSessionId false r'.2 =
        .error (.bulk "discovery_target_not_found") := by
    refine ⟨_, _, rfl, rfl, ?_, ?_⟩
    · decide +kernel
    · decide +kernel
  obtain ⟨⟨claimed, db₁⟩, ⟨prepared, db'⟩, hclaim, hprepare, ⟨hbefore, hafter⟩, hrefused⟩ := hruns
  exact ⟨claimed, db₁, prepared, db', hclaim, hprepare, hbefore, hafter, hrefused⟩

end AutPlay.Discovery
