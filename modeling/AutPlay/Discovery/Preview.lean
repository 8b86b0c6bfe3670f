import AutPlay.Discovery.BulkLaws

/-!
# The preview of a bulk operation

* `grantSourceAuthorization`   the current manual authorization of an artist, or a new one;
* `saveTrack`                  the candidate of a track and its item;
* `savePreview`                the first half of a bulk operation;
* `savePreview_planned`        what it stores can be started, as far as its candidates go.
-/

set_option linter.unusedSectionVars false

namespace AutPlay.Discovery

open AutPlay.Sync (Uuid)
open AutPlay.Result (bind_eq_ok)

/-! ## arguments -/

/-- What the provider says of one track. -/
structure ProviderTrack where
  providerTrackId : String
  providerArtistId : String
  evidence : TrackEvidence
  acquisitionAllowed : Bool
  deriving DecidableEq

/-- A page of an artist holds no track of another. -/
structure ProviderArtistTracks where
  providerArtistId : String
  tracks : List ProviderTrack
  ofArtist : ∀ track ∈ tracks, track.providerArtistId = providerArtistId
  deriving DecidableEq

structure BulkArtistResolution where
  collectionName : String
  providerArtistId : Option String
  deriving DecidableEq

structure BulkPreviewResult where
  bulkOperationId : BulkId
  plannedCandidateCount : Nat
  downloadableCandidateCount : Nat
  replayed : Bool
  deriving DecidableEq

/-! ## authorizations -/

/-- The unrevoked manual authorization of an artist. -/
def currentAuthorization (db : DiscoveryDb) (owner artistId : Uuid) : Option (Nat × SourceAuthorizationRow) :=
  db.authorizations.items.find? fun e =>
    e.2.userId = owner ∧ e.2.providerId = jamendoProviderId ∧ e.2.marketScope = "GLOBAL" ∧
      e.2.canonicalArtistId = artistId ∧ e.2.purpose = .manual ∧ e.2.revokedAt = none

def lastRevision (db : DiscoveryDb) (owner artistId : Uuid) : Int :=
  ((db.authorizations.items.filter fun e =>
    e.2.userId = owner ∧ e.2.providerId = jamendoProviderId ∧ e.2.marketScope = "GLOBAL" ∧
      e.2.canonicalArtistId = artistId ∧ e.2.purpose = .manual).map fun e => e.2.revision).foldr max 0

def newAuthorization (now : Int) (owner artistId : Uuid) (bulk : Option BulkId) (revision : Int) :
    SourceAuthorizationRow where
  userId := owner
  providerId := jamendoProviderId
  canonicalArtistId := artistId
  adapterId := "autplay.jamendo.manual"
  adapterVersion := "1.0.0"
  marketScope := "GLOBAL"
  rightsCapability := "AUTHORIZED_DOWNLOAD"
  revision := revision
  policyReference := "ADR-034:a1b-manual:1"
  grantedByBulkOperationId := bulk
  purpose := .manual
  policyId := none
  policyRevision := none
  expiresAt := now + 24 * hour
  revokedAt := none
  grantedAt := now
  rowVersion := 1

/-- A new authorization, once the current one is out of the way. -/
def grantNew (now : Int) (owner artistId : Uuid) (bulk : Option BulkId) (db : DiscoveryDb) :
    (Nat × SourceAuthorizationRow) × DiscoveryDb :=
  let row := newAuthorization now owner artistId bulk (lastRevision db owner artistId + 1)
  let authorizationId := freshId db.authorizations
  ((authorizationId, row), { db with authorizations := db.authorizations.set authorizationId row })

/-- **`_grant_source_authorization`**. -/
def grantSourceAuthorization (now : Int) (owner artistId : Uuid) (bulk : Option BulkId) (db : DiscoveryDb) :
    Outcome ((Nat × SourceAuthorizationRow) × DiscoveryDb) :=
  match currentAuthorization db owner artistId with
  | some current =>
    if now < current.2.expiresAt then do
      check (authorizationFits current.2 owner artistId) "source_authorization_unavailable"
      pure (current, db)
    else
      let revoked := { current.2 with revokedAt := some now, rowVersion := current.2.rowVersion + 1 }
      .ok (grantNew now owner artistId bulk
        { db with authorizations := db.authorizations.set current.1 revoked })
  | none => .ok (grantNew now owner artistId bulk db)

/-- The authorizations of all artists, by the identifiers of the provider. -/
def grantAll (now : Int) (owner : Uuid) (bulk : BulkId) :
    List (String × Uuid) → DiscoveryDb → Outcome (List (String × Nat × SourceAuthorizationRow) × DiscoveryDb)
  | [], db => .ok ([], db)
  | (providerArtistId, artistId) :: rest, db => do
    let (authorization, db) ← grantSourceAuthorization now owner artistId (some bulk) db
    let (others, db) ← grantAll now owner bulk rest db
    pure ((providerArtistId, authorization) :: others, db)

/-! ## candidates -/

def isTrackOf (owner : Uuid) (providerTrackId : String) (row : DiscoveryCandidateRow) : Prop :=
  row.userId = owner ∧ row.providerId = jamendoProviderId ∧ row.marketScope = "GLOBAL" ∧
    row.providerTrackId = providerTrackId

instance (owner : Uuid) (providerTrackId : String) (row : DiscoveryCandidateRow) :
    Decidable (isTrackOf owner providerTrackId row) :=
  inferInstanceAs (Decidable (_ ∧ _ ∧ _ ∧ _))

def findCandidate (db : DiscoveryDb) (owner : Uuid) (providerTrackId : String) :
    Option (CandidateId × DiscoveryCandidateRow) :=
  db.candidates.items.find? fun e => isTrackOf owner providerTrackId e.2

def initialDisposition (track : ProviderTrack) : Disposition :=
  if track.acquisitionAllowed then .selectable else .unavailable

def newCandidate (now : Int) (owner artistId : Uuid) (authorization : Nat × SourceAuthorizationRow)
    (track : ProviderTrack) : DiscoveryCandidateRow where
  userId := owner
  providerId := jamendoProviderId
  canonicalArtistId := some artistId
  sourceAuthorizationId := some authorization.1
  sourceAuthorizationRevision := authorization.2.revision
  marketScope := "GLOBAL"
  providerTrackId := track.providerTrackId
  providerArtistId := track.providerArtistId
  evidence := track.evidence
  disposition := initialDisposition track
  acquisitionState := .notRequested
  selectionOrigin := .manual
  policy := none
  jobId := none
  recordingId := none
  libraryEntryId := none
  currentAcquisitionAttemptId := none
  errorCode := none
  updatedAt := now
  rowVersion := 1

/-- The candidate with what the preview saw, if nothing was asked of it yet. -/
def refreshed (now : Int) (authorization : Nat × SourceAuthorizationRow) (track : ProviderTrack)
    (row : DiscoveryCandidateRow) : DiscoveryCandidateRow :=
  if row.acquisitionState = .notRequested then
    { row with
      sourceAuthorizationId := some authorization.1
      sourceAuthorizationRevision := authorization.2.revision
      evidence := track.evidence
      disposition := initialDisposition track
      acquisitionState := .notRequested
      jobId := none
      errorCode := none
      updatedAt := now
      rowVersion := row.rowVersion + 1 }
  else row

/-- The candidate of a track: the one that is there, or a new one. -/
def candidateOf (now : Int) (owner artistId : Uuid) (authorization : Nat × SourceAuthorizationRow)
    (track : ProviderTrack) (db : DiscoveryDb) : Outcome (CandidateId × DiscoveryCandidateRow) :=
  match findCandidate db owner track.providerTrackId with
  | some found => .ok found
  | none =>
    let candidateId := CandidateId.named owner jamendoProviderId "GLOBAL" track.providerTrackId
    if db.candidates.has candidateId then .error (.integrity "discovery_candidate_pkey")
    else .ok (candidateId, newCandidate now owner artistId authorization track)

/-- The item, unless the candidate or the ordinal is taken. -/
def addItem (db : DiscoveryDb) (bulk : BulkId) (candidateId : CandidateId) (ordinal : Nat) :
    Dict (BulkId × CandidateId) Nat :=
  if db.items.has (bulk, candidateId) = true ∨ ∃ e ∈ db.items.items, e.1.1 = bulk ∧ e.2 = ordinal then db.items
  else db.items.set (bulk, candidateId) ordinal

/-- One turn of the loop of `save_preview`. -/
def saveTrack (now : Int) (owner : Uuid) (bulk : BulkId) (artists : Dict String Uuid)
    (authorizations : List (String × Nat × SourceAuthorizationRow)) (s : Nat × DiscoveryDb)
    (entry : ProviderTrack × Nat) : Outcome (Nat × DiscoveryDb) := do
  let (downloadable, db) := s
  let (track, ordinal) := entry
  let artistId ← need (artists.get? track.providerArtistId) "KeyError"
  let authorization ← need (authorizations.lookup track.providerArtistId) "KeyError"
  let (candidateId, row) ← candidateOf now owner artistId authorization track db
  check (row.providerArtistId = track.providerArtistId ∧ row.canonicalArtistId = some artistId)
    "discovery_provider_response_invalid"
  let row := refreshed now authorization track row
  let counted := if row.disposition ∈ [Disposition.selectable, .selected, .alreadyInLibrary] then 1 else 0
  pure (downloadable + counted, { db with
    candidates := db.candidates.set candidateId row
    items := addItem db bulk candidateId ordinal })

/-! ## the preview -/

section
variable (normalizeText : String → String)

/-- **`_eligible_artist_id`**. -/
def eligibleArtistId (db : DiscoveryDb) (owner : Uuid) (displayName : String) : Outcome Uuid :=
  match (db.catalog.artists.items.filter fun e =>
    e.2.normalizedName = normalizeText displayName ∧ artistReachable db owner e.1).map Prod.fst with
  | [artistId] => .ok artistId
  | _ => .error (.bulk "discovery_target_not_found")

/-- The artists of the owner, by the identifiers of the provider. -/
def canonicalByProvider (db : DiscoveryDb) (owner : Uuid) (resolutions : List BulkArtistResolution) :
    Outcome (Dict String Uuid) :=
  resolutions.foldlM (fun artists resolution =>
    match resolution.providerArtistId with
    | none => pure artists
    | some providerArtistId => do
      let artistId ← eligibleArtistId normalizeText db owner resolution.collectionName
      pure (artists.set providerArtistId artistId)) Dict.empty

def newOperation (now : Int) (owner importJobId operationId : Uuid) (request : BulkRequest)
    (artists tracks : Nat) : BulkOperationRow where
  userId := owner
  importJobId := some importJobId
  operationId := operationId
  requestSha256 := request
  startOperationId := none
  startRequestSha256 := none
  state := .preview
  selectedArtistCount := artists
  plannedCandidateCount := tracks
  queuedCount := 0
  readyCount := 0
  failedCount := 0
  createdAt := now
  updatedAt := now
  startedAt := none
  completedAt := none
  rowVersion := 1

/-- The operation of the owner under an identifier. -/
def findOperation (db : DiscoveryDb) (owner operationId : Uuid) : Option (BulkId × BulkOperationRow) :=
  db.operations.items.find? fun e => e.2.userId = owner ∧ e.2.operationId = operationId

/-- Insert the operation unless the owner has one under the identifier. -/
def insertOperation (db : DiscoveryDb) (row : BulkOperationRow) :
    Outcome ((BulkId × BulkOperationRow) × Bool × DiscoveryDb) :=
  match findOperation db row.userId row.operationId with
  | some found => .ok (found, true, db)
  | none =>
    let bulk := BulkId.preview row.userId row.operationId
    if db.operations.has bulk then .error (.integrity "bulk_operation_pkey")
    else .ok ((bulk, row), false, { db with operations := db.operations.set bulk row })

/-- **`_require_import`**. -/
def requireImport (db : DiscoveryDb) (owner importJobId : Uuid) : Outcome PUnit :=
  check (∃ row ∈ db.importJobs.get? importJobId, row.userId = owner ∧ row.format = some "TXT")
    "discovery_target_not_found"

/-- **`save_preview`**. -/
def savePreview (now : Int) (owner importJobId operationId : Uuid) (resolutions : List BulkArtistResolution)
    (pages : List ProviderArtistTracks) (db : DiscoveryDb) : Outcome (BulkPreviewResult × DiscoveryDb) := do
  requireImport db owner importJobId
  requireProvider db
  let artists ← canonicalByProvider normalizeText db owner resolutions
  let exactIds := artists.items.map Prod.fst
  check (1 ≤ exactIds.length ∧ exactIds.length ≤ 20 ∧ (∀ page ∈ pages, page.providerArtistId ∈ exactIds) ∧
    ∀ providerArtistId ∈ exactIds, providerArtistId ∈ pages.map ProviderArtistTracks.providerArtistId)
    "discovery_artist_selection_invalid"
  let tracks := pages.flatMap ProviderArtistTracks.tracks
  check (1 ≤ tracks.length ∧ tracks.length ≤ 200 ∧ (tracks.map ProviderTrack.providerTrackId).Nodup)
    "discovery_bulk_preview_invalid"
  let request := BulkRequest.bulkPreview importJobId operationId (exactIds.insertionSort fun a b => a ≤ b)
    (tracks.map ProviderTrack.providerTrackId)
  let ((bulk, operation), replayed, db) ← insertOperation db
    (newOperation now owner importJobId operationId request exactIds.length tracks.length)
  check (operation.requestSha256 = request) "operation_conflict"
  check (operation.importJobId = some importJobId) "operation_conflict"
  let (authorizations, db) ← grantAll now owner bulk artists.items db
  let (downloadable, db) ← tracks.zipIdx.foldlM (saveTrack now owner bulk artists authorizations) (0, db)
  pure (⟨bulk, operation.plannedCandidateCount, downloadable, replayed⟩, db)

end

/-! ## what a preview stores -/

theorem find?_of_eq_some {α : Type} {p : α → Bool} {xs : List α} {x : α} (h : xs.find? p = some x) :
    x ∈ xs ∧ p x = true := ⟨List.mem_of_find?_eq_some h, List.find?_some h⟩

section
variable {normalizeText : String → String} {now : Int} {owner importJobId operationId : Uuid}
  {db db' db₀ : DiscoveryDb} {bulk : BulkId}

theorem eligibleArtistId_reachable {displayName : String} {artistId : Uuid}
    (h : eligibleArtistId normalizeText db owner displayName = .ok artistId) :
    artistReachable db owner artistId := by
  unfold eligibleArtistId at h
  split at h
  · rename_i found hfound
    cases h
    have hmem : artistId ∈ (db.catalog.artists.items.filter fun e =>
        e.2.normalizedName = normalizeText displayName ∧ artistReachable db owner e.1).map Prod.fst := by
      rw [hfound]
      exact List.mem_singleton_self _
    obtain ⟨e, he, rfl⟩ := List.mem_map.mp hmem
    exact (of_decide_eq_true (List.mem_filter.mp he).2).2
  · cases h

/-- Every artist of the preview is eligible. -/
theorem canonicalByProvider_reachable {resolutions : List BulkArtistResolution} {artists : Dict String Uuid}
    (h : canonicalByProvider normalizeText db owner resolutions = .ok artists) {providerArtistId : String}
    {artistId : Uuid} (hget : artists.get? providerArtistId = some artistId) :
    artistReachable db owner artistId := by
  have fold : ∀ (resolutions : List BulkArtistResolution) (start artists : Dict String Uuid),
      (∀ key value, start.get? key = some value → artistReachable db owner value) →
      resolutions.foldlM (fun artists resolution =>
        match resolution.providerArtistId with
        | none => pure artists
        | some providerArtistId => do
          let artistId ← eligibleArtistId normalizeText db owner resolution.collectionName
          pure (artists.set providerArtistId artistId)) start = (.ok artists : Outcome _) →
      ∀ key value, artists.get? key = some value → artistReachable db owner value := by
    intro resolutions
    induction resolutions with
    | nil =>
      intro start artists hstart h
      cases h
      exact hstart
    | cons resolution resolutions ih =>
      intro start artists hstart h
      rw [List.foldlM_cons] at h
      obtain ⟨next, hnext, h⟩ := bind_eq_ok.mp h
      refine ih next artists ?_ h
      split at hnext
      · cases hnext
        exact hstart
      · obtain ⟨found, hfound, hnext⟩ := bind_eq_ok.mp hnext
        cases hnext
        intro key value hvalue
        rw [Dict.get?_set] at hvalue
        split at hvalue
        · cases hvalue
          exact eligibleArtistId_reachable hfound
        · exact hstart key value hvalue
  exact fold resolutions Dict.empty artists (fun _ _ he => by cases he) h _ _ hget

/-- Granting writes authorizations only. -/
theorem grantSourceAuthorization_frame {artistId : Uuid} {granted : Option BulkId}
    {authorization : Nat × SourceAuthorizationRow}
    (h : grantSourceAuthorization now owner artistId granted db = .ok (authorization, db')) :
    db' = { db with authorizations := db'.authorizations } := by
  unfold grantSourceAuthorization at h
  split at h
  · split at h
    · obtain ⟨⟨⟩, -, h⟩ := bind_eq_ok.mp h
      cases h
      rfl
    · cases h
      rfl
  · cases h
    rfl

theorem grantAll_frame {artists : List (String × Uuid)}
    {authorizations : List (String × Nat × SourceAuthorizationRow)}
    (h : grantAll now owner bulk artists db = .ok (authorizations, db')) :
    db' = { db with authorizations := db'.authorizations } := by
  induction artists generalizing db authorizations with
  | nil =>
    cases h
    rfl
  | cons artist artists ih =>
    obtain ⟨⟨authorization, db₁⟩, hfirst, h⟩ := bind_eq_ok.mp h
    obtain ⟨⟨others, db₂⟩, hrest, h⟩ := bind_eq_ok.mp h
    cases h
    have hone := grantSourceAuthorization_frame hfirst
    have hall := ih hrest
    rw [hone] at hall
    exact hall

/-- The items of the operation so far: one for each track that was saved, with its candidate. -/
structure Saved (owner : Uuid) (bulk : BulkId) (db₀ : DiscoveryDb) (done : List ProviderTrack)
    (db : DiscoveryDb) : Prop where
  provider : db.provider = db₀.provider
  catalog : db.catalog = db₀.catalog
  operations : db.operations = db₀.operations
  heldBack : ∀ entry, heldBack db entry ↔ heldBack db₀ entry
  items : ∀ e ∈ db.items.items, e.1.1 = bulk → e.2 < done.length ∧ ∃ row,
    db.candidates.get? e.1.2 = some row ∧ (∃ track ∈ done, isTrackOf owner track.providerTrackId row) ∧
      ∃ artistId ∈ row.canonicalArtistId, artistReachable db₀ owner artistId
  count : (db.items.items.filter fun e => e.1.1 = bulk).length = done.length

theorem refreshed_track {authorization : Nat × SourceAuthorizationRow} {track : ProviderTrack}
    {row : DiscoveryCandidateRow} {providerTrackId : String} (h : isTrackOf owner providerTrackId row) :
    isTrackOf owner providerTrackId (refreshed now authorization track row) := by
  unfold refreshed
  split
  · exact h
  · exact h

theorem refreshed_columns (now : Int) (authorization : Nat × SourceAuthorizationRow) (track : ProviderTrack)
    (row : DiscoveryCandidateRow) :
    (refreshed now authorization track row).canonicalArtistId = row.canonicalArtistId ∧
      (refreshed now authorization track row).libraryEntryId = row.libraryEntryId ∧
      (refreshed now authorization track row).acquisitionState = row.acquisitionState := by
  unfold refreshed
  split
  · rename_i hstate
    exact ⟨rfl, rfl, hstate.symm⟩
  · exact ⟨rfl, rfl, rfl⟩

/-- The candidate that a track gets is one of the track, and where it is new it is nobody's. -/
theorem candidateOf_ok {artistId : Uuid} {authorization : Nat × SourceAuthorizationRow}
    {track : ProviderTrack} {candidateId : CandidateId} {row : DiscoveryCandidateRow}
    (h : candidateOf now owner artistId authorization track db = .ok (candidateId, row)) :
    isTrackOf owner track.providerTrackId row ∧
      (db.candidates.get? candidateId = some row ∨
        db.candidates.get? candidateId = none ∧ row.libraryEntryId = none) := by
  unfold candidateOf at h
  split at h
  · rename_i found hfound
    cases h
    obtain ⟨hmem, htrack⟩ := find?_of_eq_some hfound
    exact ⟨of_decide_eq_true htrack, Or.inl (Dict.get?_eq_some.mpr hmem)⟩
  · dsimp only at h
    split at h
    · cases h
    · rename_i hnew
      cases h
      refine ⟨⟨rfl, rfl, rfl, rfl⟩, Or.inr ⟨?_, rfl⟩⟩
      exact Option.not_isSome_iff_eq_none.mp hnew

/-- **One more track**: its item is new, and the others stay. -/
theorem saveTrack_saved {artists : Dict String Uuid}
    {authorizations : List (String × Nat × SourceAuthorizationRow)} {done : List ProviderTrack}
    {track : ProviderTrack} {s s' : Nat × DiscoveryDb}
    (hartists : ∀ key artistId, artists.get? key = some artistId → artistReachable db₀ owner artistId)
    (hnew : ∀ other ∈ done, other.providerTrackId ≠ track.providerTrackId)
    (hsaved : Saved owner bulk db₀ done s.2)
    (h : saveTrack now owner bulk artists authorizations s (track, done.length) = .ok s') :
    Saved owner bulk db₀ (done ++ [track]) s'.2 := by
  obtain ⟨downloadable, db⟩ := s
  unfold saveTrack at h
  obtain ⟨artistId, hartist, h⟩ := bind_eq_ok.mp h
  obtain ⟨authorization, -, h⟩ := bind_eq_ok.mp h
  obtain ⟨⟨candidateId, row⟩, hrow, h⟩ := bind_eq_ok.mp h
  obtain ⟨⟨⟩, hcheck, h⟩ := bind_eq_ok.mp h
  cases h
  have hreachable := hartists _ _ (need_eq_ok.mp hartist)
  have hcanonical := (check_eq_ok.mp hcheck).2
  obtain ⟨htrack, hstored⟩ := candidateOf_ok hrow
  obtain ⟨hartistId, hentry, hstate⟩ := refreshed_columns now authorization track row
  have hfresh : db.items.has (bulk, candidateId) ≠ true := by
    intro hhas
    obtain ⟨ordinal, hget⟩ := Dict.has_iff.mp hhas
    obtain ⟨-, stored, hcandidate, ⟨other, hother, hsame⟩, -⟩ :=
      hsaved.items _ (Dict.get?_eq_some.mp hget) rfl
    rcases hstored with hfound | ⟨hnone, -⟩
    · rw [hfound] at hcandidate
      cases hcandidate
      exact hnew other hother (hsame.2.2.2.symm.trans htrack.2.2.2)
    · rw [hnone] at hcandidate
      cases hcandidate
  have hordinal : ¬∃ e ∈ db.items.items, e.1.1 = bulk ∧ e.2 = done.length := by
    rintro ⟨e, he, hbulk, hlast⟩
    have hlt := (hsaved.items e he hbulk).1
    omega
  have hadd : addItem db bulk candidateId done.length = db.items.set (bulk, candidateId) done.length :=
    if_neg fun h => h.elim hfresh hordinal
  have hitems : (addItem db bulk candidateId done.length).items =
      db.items.items ++ [((bulk, candidateId), done.length)] := by
    rw [hadd]
    exact Dict.items_set_of_none (Option.not_isSome_iff_eq_none.mp hfresh)
  refine ⟨hsaved.provider, hsaved.catalog, hsaved.operations, fun entry => ?_, fun e he hbulk => ?_, ?_⟩
  · rw [← hsaved.heldBack entry]
    constructor
    · rintro ⟨⟨key, value⟩, hmem, hlibrary, hready⟩
      dsimp only at hmem hlibrary hready
      rw [Dict.mem_set] at hmem
      split at hmem
      · rename_i hkey
        rw [hmem, hentry] at hlibrary
        rw [hmem, hstate] at hready
        rcases hstored with hfound | ⟨-, hnoEntry⟩
        · exact ⟨(candidateId, row), Dict.get?_eq_some.mp hfound, hlibrary, hready⟩
        · rw [hnoEntry] at hlibrary
          cases hlibrary
      · exact ⟨(key, value), hmem, hlibrary, hready⟩
    · rintro ⟨⟨key, value⟩, hmem, hlibrary, hready⟩
      by_cases hkey : key = candidateId
      · subst hkey
        have hget : db.candidates.get? key = some value := Dict.get?_eq_some.mpr hmem
        rcases hstored with hfound | ⟨hnone, -⟩
        · rw [hfound] at hget
          cases hget
          refine ⟨(key, refreshed now authorization track row), ?_, ?_, ?_⟩
          · exact Dict.mem_set.mpr (by rw [if_pos rfl])
          · exact hentry.trans hlibrary
          · show (refreshed now authorization track row).acquisitionState ≠ .ready
            rw [hstate]
            exact hready
        · rw [hnone] at hget
          cases hget
      · exact ⟨(key, value), Dict.mem_set.mpr (by rw [if_neg hkey]; exact hmem), hlibrary, hready⟩
  · rw [hitems] at he
    rcases List.mem_append.mp he with he | he
    · obtain ⟨hlt, stored, hcandidate, ⟨other, hother, hsame⟩, hartists'⟩ := hsaved.items e he hbulk
      have hne : e.1.2 ≠ candidateId := by
        intro hid
        refine hfresh (Dict.has_iff.mpr ⟨e.2, Dict.get?_eq_some.mpr ?_⟩)
        rw [← hid, ← hbulk]
        exact he
      refine ⟨?_, stored, ?_, ⟨other, List.mem_append_left _ hother, hsame⟩, hartists'⟩
      · rw [List.length_append]
        omega
      · rw [← hcandidate]
        exact Dict.get?_set_ne _ _ hne
    · rw [List.mem_singleton.mp he]
      refine ⟨?_, refreshed now authorization track row, Dict.get?_set_self _ _ _,
        ⟨track, List.mem_append_right _ List.mem_cons_self, refreshed_track htrack⟩, artistId, ?_, hreachable⟩
      · rw [List.length_append, List.length_singleton]
        omega
      · rw [hartistId]
        exact hcanonical
  · show ((addItem db bulk candidateId done.length).items.filter fun e => e.1.1 = bulk).length = _
    rw [hitems, List.filter_append, List.length_append, hsaved.count, List.length_append]
    simp

theorem saveTracks_saved {artists : Dict String Uuid}
    {authorizations : List (String × Nat × SourceAuthorizationRow)} {tracks : List ProviderTrack}
    {done : List ProviderTrack} {s s' : Nat × DiscoveryDb}
    (hartists : ∀ key artistId, artists.get? key = some artistId → artistReachable db₀ owner artistId)
    (hnodup : ((done ++ tracks).map ProviderTrack.providerTrackId).Nodup)
    (hsaved : Saved owner bulk db₀ done s.2)
    (h : (tracks.zipIdx done.length).foldlM (saveTrack now owner bulk artists authorizations) s = .ok s') :
    Saved owner bulk db₀ (done ++ tracks) s'.2 := by
  induction tracks generalizing done s with
  | nil =>
    cases h
    rw [List.append_nil]
    exact hsaved
  | cons track tracks ih =>
    rw [List.zipIdx_cons, List.foldlM_cons] at h
    obtain ⟨s₁, hfirst, h⟩ := bind_eq_ok.mp h
    have hnew : ∀ other ∈ done, other.providerTrackId ≠ track.providerTrackId := by
      intro other hother
      rw [List.map_append, List.nodup_append] at hnodup
      exact hnodup.2.2 _ (List.mem_map_of_mem hother) _ (List.mem_map_of_mem List.mem_cons_self)
    have hsaved₁ := saveTrack_saved hartists hnew hsaved hfirst
    have happend : done ++ track :: tracks = (done ++ [track]) ++ tracks := by
      rw [List.append_assoc]
      rfl
    rw [happend] at hnodup ⊢
    refine ih hnodup hsaved₁ ?_
    rw [List.length_append, List.length_singleton]
    exact h

/-- The first preview of an identifier makes its operation. -/
theorem insertOperation_first {row operation : BulkOperationRow}
    (h : insertOperation db row = .ok ((bulk, operation), false, db')) :
    operation = row ∧ db.operations.has bulk ≠ true ∧
      db' = { db with operations := db.operations.set bulk row } := by
  unfold insertOperation at h
  split at h
  · cases h
  · dsimp only at h
    split at h
    · cases h
    · rename_i hnew
      cases h
      exact ⟨rfl, hnew, rfl⟩

/-- **What a preview stores can be started**, as far as its provider, its artists and its candidates go. -/
theorem savePreview_planned {resolutions : List BulkArtistResolution} {pages : List ProviderArtistTracks}
    {result : BulkPreviewResult}
    (h : savePreview normalizeText now owner importJobId operationId resolutions pages db = .ok (result, db'))
    (hfirst : result.replayed = false)
    (hitems : ∀ e ∈ db.items.items, db.operations.has e.1.1 = true) :
    ∃ operation, Planned db' owner result.bulkOperationId operation ∧
      operation.plannedCandidateCount = result.plannedCandidateCount ∧ operation.createdAt = now := by
  unfold savePreview at h
  obtain ⟨⟨⟩, -, h⟩ := bind_eq_ok.mp h
  obtain ⟨⟨⟩, hprovider, h⟩ := bind_eq_ok.mp h
  obtain ⟨artists, hartists, h⟩ := bind_eq_ok.mp h
  obtain ⟨⟨⟩, -, h⟩ := bind_eq_ok.mp h
  obtain ⟨⟨⟩, htracks, h⟩ := bind_eq_ok.mp h
  obtain ⟨⟨⟨bulk, operation⟩, replayed, db₁⟩, hinsert, h⟩ := bind_eq_ok.mp h
  obtain ⟨⟨⟩, -, h⟩ := bind_eq_ok.mp h
  obtain ⟨⟨⟩, -, h⟩ := bind_eq_ok.mp h
  obtain ⟨⟨authorizations, db₂⟩, hgrant, h⟩ := bind_eq_ok.mp h
  obtain ⟨⟨downloadable, db₃⟩, hsave, h⟩ := bind_eq_ok.mp h
  cases h
  cases hfirst
  obtain ⟨rfl, hfresh, rfl⟩ := insertOperation_first hinsert
  have hgranted := grantAll_frame hgrant
  have hstart : Saved owner bulk db₂ [] db₂ := by
    have hnone : ∀ e ∈ db₂.items.items, e.1.1 ≠ bulk := by
      rw [hgranted]
      intro e he hbulk
      have hhas := hitems e he
      rw [hbulk] at hhas
      exact hfresh hhas
    refine ⟨rfl, rfl, rfl, fun _ => Iff.rfl, fun e he hbulk => absurd hbulk (hnone e he), ?_⟩
    rw [List.filter_eq_nil_iff.mpr fun e he => ?_]
    · rfl
    · rw [decide_eq_true_eq]
      exact hnone e he
  have hreachable : ∀ key artistId, artists.get? key = some artistId → artistReachable db₂ owner artistId := by
    intro key artistId hget
    have hsame : artistReachable db₂ owner artistId ↔ artistReachable db owner artistId :=
      artistReachable_congr (by rw [hgranted]) (fun entry => by rw [hgranted]; exact Iff.rfl) _ _
    exact hsame.mpr (canonicalByProvider_reachable hartists hget)
  have hnodup := (check_eq_ok.mp htracks).2.2
  have hsaved : Saved owner bulk db₂ ([] ++ pages.flatMap ProviderArtistTracks.tracks) (downloadable, db').2 :=
    saveTracks_saved hreachable hnodup hstart hsave
  rw [List.nil_append] at hsaved
  have howned : ∀ id ∈ plannedCandidates db' bulk, ∃ row, ownedCandidate db' owner id = some row ∧
      artistEligible db' row := by
    intro id hid
    obtain ⟨e, he, rfl⟩ := List.mem_map.mp hid
    have hmem := (List.perm_insertionSort _ _).mem_iff.mp he
    obtain ⟨hmem, hbulk⟩ := List.mem_filter.mp hmem
    obtain ⟨-, row, hrow, ⟨track, -, htrack⟩, artistId, hartist, hreach⟩ :=
      hsaved.items e hmem (of_decide_eq_true hbulk)
    refine ⟨row, ownedCandidate_eq_some.mpr ⟨hrow, htrack.1⟩, artistId, hartist, ?_⟩
    rw [htrack.1]
    exact (artistReachable_congr hsaved.catalog hsaved.heldBack _ _).mpr hreach
  refine ⟨_, ⟨ownedOperation_eq_some.mpr ⟨?_, rfl⟩, rfl, ?_, fun id hid => ?_, ?_, fun id hid c hc => ?_⟩, rfl, rfl⟩
  · show db'.operations.get? bulk = _
    rw [hsaved.operations, hgranted]
    exact Dict.get?_set_self _ _ _
  · show (plannedCandidates db' bulk).length = _
    unfold plannedCandidates
    rw [List.length_map, List.length_insertionSort]
    exact hsaved.count
  · obtain ⟨row, hrow, -⟩ := howned id hid
    exact ⟨row, hrow⟩
  · have hp := check_eq_ok.mp hprovider
    unfold providerAvailable at hp ⊢
    rw [hsaved.provider, hgranted]
    exact hp
  · obtain ⟨row, hrow, heligible⟩ := howned id hid
    rw [show ownedCandidate db' owner id = some c from hc] at hrow
    cases hrow
    exact heligible

end

/-! ## an acquired candidate beside a new one -/

namespace Sample

def owner : Uuid := ⟨"00000000-0000-4000-8000-000000000001", Eq.refl true⟩
def importJob : Uuid := ⟨"00000000-0000-4000-8000-000000000002", Eq.refl true⟩
def artist : Uuid := ⟨"00000000-0000-4000-8000-000000000003", Eq.refl true⟩
def credit : Uuid := ⟨"00000000-0000-4000-8000-000000000004", Eq.refl true⟩
def recording : Uuid := ⟨"00000000-0000-4000-8000-000000000005", by decide +kernel⟩
def trackRef : Uuid := ⟨"00000000-0000-4000-8000-000000000006", by decide +kernel⟩
def libraryEntry : Uuid := ⟨"00000000-0000-4000-8000-000000000007", by decide +kernel⟩
def previewId : Uuid := ⟨"00000000-0000-4000-8000-000000000008", by decide +kernel⟩
def startId : Uuid := ⟨"00000000-0000-4000-8000-000000000009", by decide +kernel⟩

def track (providerTrackId : String) : ProviderTrack where
  providerTrackId := providerTrackId
  providerArtistId := "7"
  evidence := ⟨"title", "artist", none, 60, "license", "share"⟩
  acquisitionAllowed := true

/-- Everything is eligible, and nothing was asked for yet. -/
def eligible : DiscoveryDb where
  provider := some ⟨true, none, "autplay.jamendo.manual", "1.0.0", ["SEARCH", "DOWNLOAD"]⟩
  accounts := Dict.empty.set owner ⟨true, none, 1⟩
  importJobs := Dict.empty.set importJob ⟨owner, some "TXT"⟩
  catalog := ⟨Dict.empty.set artist ⟨"artist", none⟩, [(credit, artist)],
    Dict.empty.set recording ⟨credit, none⟩, Dict.empty.set trackRef ⟨owner, some recording, true, none⟩,
    Dict.empty.set libraryEntry ⟨owner, trackRef, none⟩⟩
  authorizations := Dict.empty
  operations := Dict.empty
  items := Dict.empty
  candidates := Dict.empty
  attempts := Dict.empty
  uploads := Dict.empty
  policies := Dict.empty
  jobs := Dict.empty

def firstTrack : CandidateId := .named owner jamendoProviderId "GLOBAL" "1"

/-- The first track was acquired two days ago. -/
def acquired : DiscoveryDb :=
  { eligible with
    authorizations := Dict.empty.set 1 (newAuthorization 0 owner artist none 1)
    candidates := Dict.empty.set firstTrack
      { newCandidate 0 owner artist (1, newAuthorization 0 owner artist none 1) (track "1") with
        disposition := .selected
        acquisitionState := .ready } }

def now : Int := 48 * hour

/-- The preview of some tracks of the artist. -/
def preview (tracks : List ProviderTrack) (h : ∀ track ∈ tracks, track.providerArtistId = "7")
    (db : DiscoveryDb) : Outcome (BulkPreviewResult × DiscoveryDb) :=
  savePreview id now owner importJob previewId [⟨"artist", some "7"⟩] [⟨"7", tracks, h⟩] db

end Sample

open Sample in
/-- **An acquired candidate stops the others**: both tracks are previewed, and the start refuses, since
the authorization of the first one has expired. -/
theorem acquired_blocks_start :
    ∃ result db', preview [track "1", track "2"] (by decide) acquired = .ok (result, db') ∧
      result.replayed = false ∧ result.plannedCandidateCount = 2 ∧
      (∃ operation, Planned db' owner result.bulkOperationId operation ∧ now + hour < operation.createdAt + 24 * hour) ∧
      ¬startedFully (now + hour) owner result.bulkOperationId startId 2 db' := by
  have hpreview : ∃ r, preview [track "1", track "2"] (by decide) acquired = .ok r ∧
      r.1.replayed = false ∧ r.1.plannedCandidateCount = 2 ∧
      start (now + hour) owner r.1.bulkOperationId startId r.2 =
        .error (.bulk "source_authorization_unavailable") := by
    refine ⟨_, rfl, ?_⟩
    decide +kernel
  obtain ⟨⟨result, db'⟩, hpreview, hreplayed, hcount, hstart⟩ := hpreview
  refine ⟨result, db', hpreview, hreplayed, hcount, ?_, ?_⟩
  · obtain ⟨operation, hplanned, -, hcreated⟩ := savePreview_planned hpreview hreplayed (by decide +kernel)
    refine ⟨operation, hplanned, ?_⟩
    rw [hcreated]
    decide
  · rintro ⟨_, _, h, -⟩
    rw [hstart] at h
    cases h

open Sample in
/-- A track that is new, by itself. -/
theorem new_track_starts_iff :
    ∃ result db', ∃ operation : BulkOperationRow, preview [track "1"] (by decide) eligible = .ok (result, db') ∧
      (startedFully (now + hour) owner result.bulkOperationId startId operation.plannedCandidateCount db' ↔
        startUnused db' owner result.bulkOperationId startId ∧
          ∀ id ∈ plannedCandidates db' result.bulkOperationId, ∀ c ∈ ownedCandidate db' owner id,
            Startable (now + hour) owner startId db' id c) := by
  have hpreview : ∃ r, preview [track "1"] (by decide) eligible = .ok r ∧ r.1.replayed = false := ⟨_, rfl, rfl⟩
  obtain ⟨⟨result, db'⟩, hpreview, hreplayed⟩ := hpreview
  obtain ⟨operation, hplanned, -⟩ := savePreview_planned hpreview hreplayed (by decide +kernel)
  exact ⟨result, db', operation, hpreview, started_iff hplanned⟩

end AutPlay.Discovery
