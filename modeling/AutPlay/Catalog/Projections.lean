import AutPlay.Catalog.OwnerPages
import AutPlay.Sync.Rows
import Mathlib.Data.Prod.Lex

/-!
# Catalog projections

The catalog closure that one owner's resolved tracks reach: the recordings, the releases that carry
them, their credits, and the artists of the credits.

* `CatalogTables`               the tables of the closure, and the descriptions of the tracks;
* `catalogArtistProjections`    the projections, in the order of type, identifier and owner page;
* `mem_catalogValues`           which values they are;
* `nodup_catalogKeys`           no two of them are about one page.
-/

set_option linter.unusedSectionVars false

namespace AutPlay.Catalog
open Sync

/-! ## tables -/

structure RecordingRow where
  recordingId : Uuid
  artistCreditId : Uuid
  rowVersion : Int
  deletedAt : Option Int

instance : Schema RecordingRow Uuid Empty := ⟨RecordingRow.recordingId, fun _ => none⟩

structure ReleaseRow where
  releaseId : Uuid
  artistCreditId : Uuid
  rowVersion : Int
  deletedAt : Option Int

instance : Schema ReleaseRow Uuid Empty := ⟨ReleaseRow.releaseId, fun _ => none⟩

structure MediumRow where
  mediumId : Uuid
  releaseId : Uuid

instance : Schema MediumRow Uuid Empty := ⟨MediumRow.mediumId, fun _ => none⟩

structure ReleaseTrackRow where
  releaseTrackId : Uuid
  mediumId : Uuid
  recordingId : Uuid

instance : Schema ReleaseTrackRow Uuid Empty := ⟨ReleaseTrackRow.releaseTrackId, fun _ => none⟩

structure ArtistCreditRow where
  artistCreditId : Uuid
  displayName : String
  rowVersion : Int
  deletedAt : Option Int

instance : Schema ArtistCreditRow Uuid Empty := ⟨ArtistCreditRow.artistCreditId, fun _ => none⟩

structure ArtistCreditNameRow where
  artistCreditId : Uuid
  position : Int
  artistId : Uuid
  creditedName : String
  joinPhrase : String
  role : String

instance : Schema ArtistCreditNameRow (Uuid × Int) Empty :=
  ⟨fun r => (r.artistCreditId, r.position), fun _ => none⟩

structure ArtistRow where
  artistId : Uuid
  name : String
  sortName : String
  artistType : String
  disambiguation : Option String
  countryCode : Option String
  identityStatus : String
  rowVersion : Int
  deletedAt : Option Int

instance : Schema ArtistRow Uuid Empty := ⟨ArtistRow.artistId, fun _ => none⟩

/-- `library.track_metadata`; `document` and `candidates` are JSON columns. -/
structure TrackMetadataRow where
  userTrackRefId : Uuid
  revision : Int
  state : String
  errorCode : Option String
  document : Payload
  candidates : List Json
  artworkSha256 : Option String
  updatedAt : Int

instance : Schema TrackMetadataRow Uuid Empty := ⟨TrackMetadataRow.userTrackRefId, fun _ => none⟩

structure CatalogTables where
  recordings : Table RecordingRow
  releases : Table ReleaseRow
  media : Table MediumRow
  releaseTracks : Table ReleaseTrackRow
  artistCredits : Table ArtistCreditRow
  artistCreditNames : Table ArtistCreditNameRow
  artists : Table ArtistRow
  trackMetadata : Table TrackMetadataRow

/-! ## values -/

/-- The digests and texts of the standard library, and the description of an album group. -/
structure CatalogEnv where
  /-- The hexadecimal digest of a text. -/
  sha256 : String → String
  /-- `uuid5(NAMESPACE_URL, name)`. -/
  uuid5 : String → Uuid
  /-- `rfc8785.dumps`; `none` is one of its exceptions. -/
  rfc8785 : Payload → Option String
  /-- `datetime.isoformat` of an instant in UTC. -/
  isoformat : Int → String
  /-- `coherent_album_group` of a document. -/
  coherentAlbumGroup : Payload → Json

/-- What ends a publication. -/
inductive PublishError
  | notCanonical
  | payloadTooLarge
  | emptyProof
  deriving DecidableEq, Repr

/-- `_CATALOG_AGGREGATES`. -/
def catalogAggregates : List AggregateType :=
  [.artist, .artistCredit, .recordingArtistCredit, .releaseArtistCredit]

/-- `_MAX_PAYLOAD_BYTES`. -/
def maxPayloadBytes : Nat := 262144

def optionalText (s : Option String) : Json := (s.map Json.str).getD .null

section
variable (env : CatalogEnv)

/-- `_canonical_payload_bytes`. -/
def canonicalPayloadBytes (payload : Payload) : Except PublishError String :=
  match env.rfc8785 payload with
  | none => .error .notCanonical
  | some canonical =>
    if maxPayloadBytes < canonical.utf8ByteSize then .error .payloadTooLarge else .ok canonical

/-- `_iso`. -/
def iso (value : Int) : String := (env.isoformat value).replace "+00:00" "Z"

/-- `metadata_view`. -/
def metadataView (row : TrackMetadataRow) : Payload :=
  [("revision", .int row.revision),
   ("state", .str row.state),
   ("error_code", optionalText row.errorCode),
   ("fields", (row.document.lookup "fields").getD (.obj [])),
   ("provenance", (row.document.lookup "provenance").getD (.obj [])),
   ("artwork_sha256", optionalText row.artworkSha256),
   ("artwork_source", (row.document.lookup "artwork_source").getD .null),
   ("candidates", .arr row.candidates),
   ("updated_at", .str (env.isoformat row.updatedAt)),
   ("album_group_v1", env.coherentAlbumGroup row.document)]

end

/-- `CatalogArtistProjection`. -/
structure CatalogArtistProjection where
  aggregateType : AggregateType
  aggregateId : Uuid
  rowVersion : Int
  payload : Payload

/-- What a fact is about: a type, an identifier, and the owner page where the payload has one. -/
structure PageKey where
  aggregateType : AggregateType
  aggregateId : Uuid
  page : Int
  deriving DecidableEq

/-- `int(payload.get("owner_recording_page", 0))`. -/
def ownerRecordingPageOf (payload : Payload) : Int :=
  match payload.lookup "owner_recording_page" with
  | some (.int i) => i
  | _ => 0

def CatalogArtistProjection.key (v : CatalogArtistProjection) : PageKey :=
  ⟨v.aggregateType, v.aggregateId, ownerRecordingPageOf v.payload⟩

/-- The order of the projections. -/
def CatalogArtistProjection.rank (v : CatalogArtistProjection) : String ×ₗ String ×ₗ Int :=
  toLex (v.aggregateType.text, toLex (v.aggregateId.text, ownerRecordingPageOf v.payload))

section
variable (env : CatalogEnv)

def artistProjection (row : ArtistRow) : CatalogArtistProjection where
  aggregateType := .artist
  aggregateId := row.artistId
  rowVersion := row.rowVersion
  payload :=
    [("artist_id", .str row.artistId.text),
     ("name", .str row.name),
     ("sort_name", .str row.sortName),
     ("artist_type", .str row.artistType),
     ("disambiguation", optionalText row.disambiguation),
     ("country_code", optionalText row.countryCode),
     ("identity_status", .str row.identityStatus),
     ("deleted_at", optionalText (row.deletedAt.map (iso env)))]

def creditNamePayload (row : ArtistCreditNameRow) : Json :=
  .obj [("artist_id", .str row.artistId.text),
    ("position", .int row.position),
    ("credited_name", .str row.creditedName),
    ("join_phrase", .str row.joinPhrase),
    ("role", .str row.role)]

/-- The names of a credit, ordered by position. -/
def namesOf (cat : CatalogTables) (creditId : Uuid) : List ArtistCreditNameRow :=
  (cat.artistCreditNames.rows.filter (fun n => n.artistCreditId = creditId)).insertionSort
    (fun a b => a.position ≤ b.position)

def artistCreditProjection (cat : CatalogTables) (row : ArtistCreditRow) :
    CatalogArtistProjection where
  aggregateType := .artistCredit
  aggregateId := row.artistCreditId
  rowVersion := row.rowVersion
  payload :=
    [("artist_credit_id", .str row.artistCreditId.text),
     ("display_name", .str row.displayName),
     ("names", .arr ((namesOf cat row.artistCreditId).map creditNamePayload)),
     ("deleted_at", optionalText (row.deletedAt.map (iso env)))]

/-- The projections of a credit link, one for each page of its owner proof. -/
def creditLinkProjections (type : SubjectType) (subjectId creditId : Uuid) (version : Int)
    (deletedAt : Option Int) (recordingIds : List Uuid) :
    Except PublishError (List CatalogArtistProjection) :=
  match ownerRecordingPages env.sha256 recordingIds with
  | .error _ => .error .emptyProof
  | .ok pages => .ok (pages.map (fun p =>
      ⟨type.aggregateType, subjectId, version,
        creditLinkPayload type subjectId creditId p (deletedAt.map (iso env))⟩))

/-! ## the closure of an owner -/

/-- A live reference of the owner to a recording in scope. -/
def inScope (userId : Uuid) (scope : Option (List Uuid)) (ref : UserTrackRefRow) : Bool :=
  ref.userId = userId ∧ ref.deletedAt = none ∧
    ref.recordingId.any (fun id => match scope with | none => true | some ids => id ∈ ids)

/-- The recordings that the owner's references resolve to. -/
def reachedRecordings (refs : Table UserTrackRefRow) (userId : Uuid) (scope : Option (List Uuid)) :
    List Uuid :=
  ordered ((refs.rows.filter (inScope userId scope)).filterMap UserTrackRefRow.recordingId)

/-- The reached recordings that a release carries. -/
def releaseOwnerRecordings (cat : CatalogTables) (recordingIds : List Uuid) (releaseId : Uuid) :
    List Uuid :=
  (cat.releaseTracks.rows.filter (fun t => t.recordingId ∈ recordingIds ∧
    (cat.media.find t.mediumId).map MediumRow.releaseId = some releaseId)).map
      ReleaseTrackRow.recordingId

/-- The releases that carry a reached recording. -/
def reachedReleases (cat : CatalogTables) (recordingIds : List Uuid) : List ReleaseRow :=
  cat.releases.rows.filter (fun r => releaseOwnerRecordings cat recordingIds r.releaseId ≠ [])

/-- The values of the closure, in no particular order. -/
def catalogValues (cat : CatalogTables) (recordingIds : List Uuid) :
    Except PublishError (List CatalogArtistProjection) := do
  let recordings := cat.recordings.rows.filter (fun r => r.recordingId ∈ recordingIds)
  let releases := reachedReleases cat recordingIds
  let creditIds := recordings.map RecordingRow.artistCreditId ++
    releases.map ReleaseRow.artistCreditId
  let credits := cat.artistCredits.rows.filter (fun c => c.artistCreditId ∈ creditIds)
  let names := cat.artistCreditNames.rows.filter (fun n => n.artistCreditId ∈ creditIds)
  let artists := cat.artists.rows.filter
    (fun a => a.artistId ∈ names.map ArtistCreditNameRow.artistId)
  let recordingLinks ← recordings.mapM (fun r =>
    creditLinkProjections env .recording r.recordingId r.artistCreditId r.rowVersion r.deletedAt
      [r.recordingId])
  let releaseLinks ← releases.mapM (fun r =>
    creditLinkProjections env .release r.releaseId r.artistCreditId r.rowVersion r.deletedAt
      (releaseOwnerRecordings cat recordingIds r.releaseId))
  return artists.map (artistProjection env) ++ credits.map (artistCreditProjection env cat) ++
    recordingLinks.flatten ++ releaseLinks.flatten

/-- **`_catalog_artist_projections`**. -/
def catalogArtistProjections (cat : CatalogTables) (refs : Table UserTrackRefRow) (userId : Uuid)
    (scope : Option (List Uuid)) : Except PublishError (List CatalogArtistProjection) := do
  let recordingIds := reachedRecordings refs userId scope
  if recordingIds = [] then return []
  else
    let values ← catalogValues env cat recordingIds
    let _ ← values.mapM (fun v => canonicalPayloadBytes env v.payload)
    return values.insertionSort (fun a b => a.rank ≤ b.rank)

/-! ## the values one by one -/

/-- The projections of a credit link whose proof is not empty. -/
def linkValues (type : SubjectType) (subjectId creditId : Uuid) (version : Int)
    (deletedAt : Option Int) (recordingIds : List Uuid) : List CatalogArtistProjection :=
  (List.range (pageCount ownerRecordingPageSize (ordered recordingIds))).map (fun p =>
    ⟨type.aggregateType, subjectId, version, creditLinkPayload type subjectId creditId
      (ownerPage env.sha256 recordingIds p) (deletedAt.map (iso env))⟩)

def recordingLinkValues (r : RecordingRow) : List CatalogArtistProjection :=
  linkValues env .recording r.recordingId r.artistCreditId r.rowVersion r.deletedAt [r.recordingId]

def releaseLinkValues (cat : CatalogTables) (recordingIds : List Uuid) (r : ReleaseRow) :
    List CatalogArtistProjection :=
  linkValues env .release r.releaseId r.artistCreditId r.rowVersion r.deletedAt
    (releaseOwnerRecordings cat recordingIds r.releaseId)

/-- **The projections that the tables hold now** for the reached recordings. -/
structure ClosureRows (cat : CatalogTables) (recordingIds : List Uuid)
    (values : List CatalogArtistProjection) : Prop where
  split : ∃ (artists : List ArtistRow) (credits : List ArtistCreditRow),
    artists.Sublist cat.artists.rows ∧
    credits.Sublist cat.artistCredits.rows ∧
    values = artists.map (artistProjection env) ++ credits.map (artistCreditProjection env cat) ++
      (cat.recordings.rows.filter (fun r => r.recordingId ∈ recordingIds)).flatMap
        (recordingLinkValues env) ++
      (reachedReleases cat recordingIds).flatMap (releaseLinkValues env cat recordingIds)

end

section
variable {env : CatalogEnv} {cat : CatalogTables} {recordingIds : List Uuid}

theorem creditLinkProjections_ok {type : SubjectType} {subjectId creditId : Uuid} {version : Int}
    {deletedAt : Option Int} (h : recordingIds ≠ []) :
    creditLinkProjections env type subjectId creditId version deletedAt recordingIds =
      .ok (linkValues env type subjectId creditId version deletedAt recordingIds) := by
  unfold creditLinkProjections linkValues
  rw [ownerRecordingPages_ok env.sha256 h]
  show Except.ok _ = _
  rw [List.map_map]
  rfl

/-- No proof of the closure is empty. -/
theorem catalogValues_ok (env : CatalogEnv) (cat : CatalogTables) (recordingIds : List Uuid) :
    ∃ values, catalogValues env cat recordingIds = .ok values ∧
      ClosureRows env cat recordingIds values := by
  have hrec : (cat.recordings.rows.filter (fun r => r.recordingId ∈ recordingIds)).mapM (fun r =>
      creditLinkProjections env .recording r.recordingId r.artistCreditId r.rowVersion r.deletedAt
        [r.recordingId]) =
      .ok ((cat.recordings.rows.filter (fun r => r.recordingId ∈ recordingIds)).map
        (recordingLinkValues env)) :=
    Result.mapM_eq_ok_map fun r _ => creditLinkProjections_ok (List.cons_ne_nil r.recordingId [])
  have hrel : (reachedReleases cat recordingIds).mapM (fun r =>
      creditLinkProjections env .release r.releaseId r.artistCreditId r.rowVersion r.deletedAt
        (releaseOwnerRecordings cat recordingIds r.releaseId)) =
      .ok ((reachedReleases cat recordingIds).map (releaseLinkValues env cat recordingIds)) :=
    Result.mapM_eq_ok_map fun r hr =>
      creditLinkProjections_ok (of_decide_eq_true (List.mem_filter.mp hr).2)
  unfold catalogValues
  dsimp only
  rw [hrec, hrel]
  refine ⟨_, rfl, ⟨_, _, ?_, ?_, rfl⟩⟩
  · exact List.filter_sublist
  · exact List.filter_sublist

theorem map_key_linkValues {type : SubjectType} {subjectId creditId : Uuid} {version : Int}
    {deletedAt : Option Int} :
    (linkValues env type subjectId creditId version deletedAt recordingIds).map
        CatalogArtistProjection.key =
      (List.range (pageCount ownerRecordingPageSize (ordered recordingIds))).map
        (fun p : Nat => (⟨type.aggregateType, subjectId, p⟩ : PageKey)) := by
  unfold linkValues
  rw [List.map_map]
  cases type with
  | recording => rfl
  | release => rfl

/-- The pages of the links of distinct subjects are distinct. -/
theorem nodup_links {ρ : Type} {rows : List ρ} {subject : ρ → Uuid} (type : SubjectType)
    (values : ρ → List CatalogArtistProjection) (hn : (rows.map subject).Nodup)
    (hv : ∀ r, ∃ n, (values r).map CatalogArtistProjection.key =
      (List.range n).map (fun p : Nat => (⟨type.aggregateType, subject r, p⟩ : PageKey))) :
    ((rows.flatMap values).map CatalogArtistProjection.key).Nodup ∧
      ∀ k ∈ (rows.flatMap values).map CatalogArtistProjection.key,
        k.aggregateType = type.aggregateType := by
  rw [List.map_flatMap]
  refine ⟨List.nodup_flatMap.mpr ⟨fun r _ => ?_, ?_⟩, fun k hk => ?_⟩
  · obtain ⟨n, hn⟩ := hv r
    rw [hn]
    refine List.Nodup.map (fun a b h => ?_) List.nodup_range
    injection h with _ _ h
    exact Int.ofNat.inj h
  · refine (List.pairwise_map.mp hn).imp fun {r r'} hne => ?_
    intro k hk hk'
    dsimp only at hk hk'
    obtain ⟨n, hn⟩ := hv r
    obtain ⟨n', hn'⟩ := hv r'
    rw [hn] at hk
    rw [hn'] at hk'
    obtain ⟨p, -, rfl⟩ := List.mem_map.mp hk
    obtain ⟨p', -, he⟩ := List.mem_map.mp hk'
    injection he with _ he _
    exact hne he.symm
  · obtain ⟨r, -, hk⟩ := List.mem_flatMap.mp hk
    obtain ⟨n, hn⟩ := hv r
    rw [hn] at hk
    obtain ⟨p, -, rfl⟩ := List.mem_map.mp hk
    rfl

/-- **No two projections are about one page.** -/
theorem ClosureRows.nodup_keys {values : List CatalogArtistProjection}
    (h : ClosureRows env cat recordingIds values) :
    (values.map CatalogArtistProjection.key).Nodup ∧
      ∀ k ∈ values.map CatalogArtistProjection.key, k.aggregateType ∈ catalogAggregates := by
  obtain ⟨artists, credits, ha, hc, rfl⟩ := h.split
  have hartists : ((artists.map (artistProjection env)).map CatalogArtistProjection.key).Nodup := by
    rw [List.map_map]
    refine List.Nodup.of_map PageKey.aggregateId ?_
    rw [List.map_map]
    exact (ha.map _).nodup cat.artists.nodup
  have hcredits : ((credits.map (artistCreditProjection env cat)).map
      CatalogArtistProjection.key).Nodup := by
    rw [List.map_map]
    refine List.Nodup.of_map PageKey.aggregateId ?_
    rw [List.map_map]
    exact (hc.map _).nodup cat.artistCredits.nodup
  have hta : ∀ k ∈ (artists.map (artistProjection env)).map CatalogArtistProjection.key,
      k.aggregateType = .artist := by
    intro k hk
    rw [List.map_map] at hk
    obtain ⟨r, -, rfl⟩ := List.mem_map.mp hk
    rfl
  have htc : ∀ k ∈ (credits.map (artistCreditProjection env cat)).map CatalogArtistProjection.key,
      k.aggregateType = .artistCredit := by
    intro k hk
    rw [List.map_map] at hk
    obtain ⟨r, -, rfl⟩ := List.mem_map.mp hk
    rfl
  obtain ⟨hrec, htrec⟩ := nodup_links .recording (recordingLinkValues env)
    ((List.filter_sublist.map _).nodup cat.recordings.nodup)
    (fun r => ⟨_, map_key_linkValues⟩)
  obtain ⟨hrel, htrel⟩ := nodup_links .release (releaseLinkValues env cat recordingIds)
    ((List.filter_sublist.map _).nodup cat.releases.nodup)
    (fun r => ⟨_, map_key_linkValues⟩)
  have hrel' : (reachedReleases cat recordingIds) =
    cat.releases.rows.filter (fun r => releaseOwnerRecordings cat recordingIds r.releaseId ≠ []) :=
    rfl
  rw [List.map_append, List.map_append, List.map_append]
  refine ⟨List.nodup_append.mpr ⟨List.nodup_append.mpr ⟨List.nodup_append.mpr
    ⟨hartists, hcredits, ?_⟩, hrec, ?_⟩, hrel, ?_⟩, ?_⟩
  · intro k hk k' hk' he
    have := (hta k hk).symm.trans ((congrArg _ he).trans (htc k' hk'))
    cases this
  · intro k hk k' hk' he
    have h' := htrec k' hk'
    rw [← he] at h'
    rcases List.mem_append.mp hk with hk | hk
    · rw [hta k hk] at h'
      cases h'
    · rw [htc k hk] at h'
      cases h'
  · intro k hk k' hk' he
    have h' := htrel k' hk'
    rw [← he] at h'
    rcases List.mem_append.mp hk with hk | hk
    · rcases List.mem_append.mp hk with hk | hk
      · rw [hta k hk] at h'
        cases h'
      · rw [htc k hk] at h'
        cases h'
    · rw [htrec k hk] at h'
      cases h'
  · intro k hk
    rcases List.mem_append.mp hk with hk | hk
    · rcases List.mem_append.mp hk with hk | hk
      · rcases List.mem_append.mp hk with hk | hk
        · rw [hta k hk]
          decide
        · rw [htc k hk]
          decide
      · rw [htrec k hk]
        decide
    · rw [htrel k hk]
      decide

/-- What the projections of an owner are. -/
theorem catalogArtistProjections_ok {refs : Table UserTrackRefRow} {userId : Uuid}
    {scope : Option (List Uuid)} {values : List CatalogArtistProjection}
    (h : catalogArtistProjections env cat refs userId scope = .ok values) :
    (values.map CatalogArtistProjection.key).Nodup ∧
      ∀ v ∈ values, v.aggregateType ∈ catalogAggregates := by
  unfold catalogArtistProjections at h
  dsimp only at h
  by_cases he : reachedRecordings refs userId scope = []
  · rw [if_pos he] at h
    cases h
    exact ⟨List.nodup_nil, fun v hv => absurd hv List.not_mem_nil⟩
  · obtain ⟨vs, hvs, hc⟩ := catalogValues_ok env cat (reachedRecordings refs userId scope)
    obtain ⟨hn, ht⟩ := hc.nodup_keys
    rw [if_neg he, hvs, Result.ok_bind] at h
    obtain ⟨_, -, h⟩ := Result.bind_eq_ok.mp h
    cases h
    have hp := List.perm_insertionSort
      (fun a b : CatalogArtistProjection => a.rank ≤ b.rank) vs
    exact ⟨((hp.map _).nodup_iff).mpr hn,
      fun v hv => ht v.key (List.mem_map_of_mem (hp.mem_iff.mp hv))⟩

end

end AutPlay.Catalog
