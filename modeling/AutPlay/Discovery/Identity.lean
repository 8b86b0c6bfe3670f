import AutPlay.Discovery.LineageRuns

/-!
# The identity of an acquired track

* `materializeIdentity`     the recording and the library entry of a track: those that are there, or new ones;
* `reusedEntry`             the entry of the owner that it takes over;
* `materializeIdentity_ok`  what it leaves of the catalog.

`execute_create_recording_review` comes with the call: whether it goes through.
-/

set_option linter.unusedSectionVars false

namespace AutPlay.Discovery

open AutPlay.Sync (Uuid)
open AutPlay.Result (bind_eq_ok)

/-- The references of the provider by its own identifiers: the recordings of tracks, and the artists. -/
structure ProviderReferences where
  tracks : Dict String (Option Uuid)
  artists : Dict String (Option Uuid)
  deriving DecidableEq

/-- The identifiers that the database makes. -/
structure NewIds where
  artistCredit : Uuid
  recording : Uuid
  userTrackRef : Uuid
  libraryEntry : Uuid
  deriving DecidableEq

/-- The track of the owner that resolves to the recording. -/
def resolvedTrack (catalog : Catalog) (owner recordingId : Uuid) : Option (Uuid × UserTrackRefRow) :=
  (catalog.trackRefs.items.insertionSort fun e e' => e.1 ≤ e'.1).find? fun e =>
    e.2.userId = owner ∧ e.2.recordingId = some recordingId ∧ e.2.resolved = true ∧ e.2.deletedAt = none

/-- The entry of the owner for the track. -/
def activeEntry (catalog : Catalog) (owner userTrackRefId : Uuid) : Option (Uuid × LibraryEntryRow) :=
  (catalog.libraryEntries.items.insertionSort fun e e' => e.1 ≤ e'.1).find? fun e =>
    e.2.userId = owner ∧ e.2.userTrackRefId = userTrackRefId ∧ e.2.removedAt = none

/-- A new entry for the track. -/
def addEntry (ids : NewIds) (catalog : Catalog) (owner userTrackRefId : Uuid) : Outcome (Uuid × Catalog) :=
  if catalog.libraryEntries.has ids.libraryEntry = true then .error (.integrity "library_entry")
  else .ok (ids.libraryEntry, { catalog with
    libraryEntries := catalog.libraryEntries.set ids.libraryEntry ⟨owner, userTrackRefId, none⟩ })

/-- **`_active_or_new_library_entry`**. -/
def activeOrNewLibraryEntry (ids : NewIds) (catalog : Catalog) (owner userTrackRefId : Uuid) :
    Outcome (Uuid × Catalog) :=
  match activeEntry catalog owner userTrackRefId with
  | some existing => .ok (existing.1, catalog)
  | none => addEntry ids catalog owner userTrackRefId

/-- The credit, the recording and the track of the owner. -/
def createRecording (ids : NewIds) (catalog : Catalog) (owner artistId : Uuid) : Outcome Catalog :=
  if catalog.recordings.has ids.recording = true ∨ catalog.trackRefs.has ids.userTrackRef = true then
    .error (.integrity "recording")
  else .ok { catalog with
    artistCreditNames := catalog.artistCreditNames ++ [(ids.artistCredit, artistId)]
    recordings := catalog.recordings.set ids.recording ⟨ids.artistCredit, none⟩
    trackRefs := catalog.trackRefs.set ids.userTrackRef ⟨owner, some ids.recording, true, none⟩ }

/-- The recording that the reference to the track names. -/
def observedRecording (refs : ProviderReferences) (providerTrackId : String) : Option Uuid :=
  (refs.tracks.get? providerTrackId).bind id

/-- **`_materialize_identity`**. -/
def materializeIdentity (ids : NewIds) (refs : ProviderReferences) (reviewed : Bool)
    (candidate : DiscoveryCandidateRow) (evidence : SearchEvidence) (db : DiscoveryDb) :
    Outcome (Materialized × ProviderReferences) :=
  match observedRecording refs evidence.providerTrackId with
  | some recordingId => do
    let userRef ← need (resolvedTrack db.catalog candidate.userId recordingId) "identity_review_required"
    check (∃ recording ∈ db.catalog.recordings.get? recordingId, recording.deletedAt = none)
      "identity_review_required"
    let (libraryEntryId, catalog) ← activeOrNewLibraryEntry ids db.catalog candidate.userId userRef.1
    pure (⟨catalog, recordingId, libraryEntryId⟩, refs)
  | none => do
    requireCandidateArtist db candidate
    let artistId ← need candidate.canonicalArtistId "discovery_target_not_found"
    check (∀ reference ∈ refs.artists.get? evidence.providerArtistId, reference = some artistId)
      "identity_review_required"
    let catalog ← createRecording ids db.catalog candidate.userId artistId
    check (reviewed = true) "discovery_materialization_failed"
    let (libraryEntryId, catalog) ← addEntry ids catalog candidate.userId ids.userTrackRef
    pure (⟨catalog, ids.recording, libraryEntryId⟩,
      ⟨refs.tracks.set evidence.providerTrackId (some ids.recording),
        refs.artists.set evidence.providerArtistId (some artistId)⟩)

/-- The entry of the owner that is taken over. -/
def reusedEntry (refs : ProviderReferences) (catalog : Catalog) (owner : Uuid) (providerTrackId : String) :
    Option Uuid := do
  let recordingId ← observedRecording refs providerTrackId
  let userRef ← resolvedTrack catalog owner recordingId
  let entry ← activeEntry catalog owner userRef.1
  some entry.1

/-! ## what is left of the catalog -/

/-- Everything but one library entry is as it was, and more may be there. -/
structure Grown (catalog catalog' : Catalog) (libraryEntryId : Uuid) : Prop where
  artists : catalog'.artists = catalog.artists
  names : ∀ e ∈ catalog.artistCreditNames, e ∈ catalog'.artistCreditNames
  recordings : ∀ k v, catalog.recordings.get? k = some v → catalog'.recordings.get? k = some v
  trackRefs : ∀ k v, catalog.trackRefs.get? k = some v → catalog'.trackRefs.get? k = some v
  entries : ∀ k v, k ≠ libraryEntryId → catalog.libraryEntries.get? k = some v →
    catalog'.libraryEntries.get? k = some v

theorem Grown.refl {catalog : Catalog} {libraryEntryId : Uuid} : Grown catalog catalog libraryEntryId :=
  ⟨rfl, fun _ h => h, fun _ _ h => h, fun _ _ h => h, fun _ _ _ h => h⟩

/-- A key that is new takes nothing away. -/
theorem get?_set_of_new {α : Type} {d : Dict Uuid α} {k k' : Uuid} {v w : α} (hnew : ¬ d.has k = true)
    (h : d.get? k' = some w) : (d.set k v).get? k' = some w := by
  have hne : k' ≠ k := by
    rintro rfl
    exact hnew (Dict.has_iff.mpr ⟨w, h⟩)
  rw [Dict.get?_set_ne _ _ hne]
  exact h

section
variable {ids : NewIds} {catalog catalog' : Catalog} {owner artistId userTrackRefId libraryEntryId : Uuid}

theorem addEntry_ok (h : addEntry ids catalog owner userTrackRefId = .ok (libraryEntryId, catalog')) :
    Grown catalog catalog' libraryEntryId ∧ catalog.libraryEntries.get? libraryEntryId = none := by
  unfold addEntry at h
  split at h
  · cases h
  · rename_i hnew
    cases h
    have hentries {k : Uuid} {v : LibraryEntryRow} (hv : catalog.libraryEntries.get? k = some v) :=
      @get?_set_of_new _ _ _ _ ⟨owner, userTrackRefId, none⟩ _ hnew hv
    exact ⟨⟨rfl, fun _ he => he, fun _ _ hv => hv, fun _ _ hv => hv, fun _ _ _ hv => hentries hv⟩,
      Option.not_isSome_iff_eq_none.mp hnew⟩

theorem createRecording_ok (h : createRecording ids catalog owner artistId = .ok catalog') :
    Grown catalog catalog' libraryEntryId ∧ catalog'.libraryEntries = catalog.libraryEntries := by
  unfold createRecording at h
  split at h
  · cases h
  · rename_i hnew
    rw [not_or] at hnew
    cases h
    exact ⟨⟨rfl, fun _ he => List.mem_append_left _ he, fun _ _ hv => get?_set_of_new hnew.1 hv,
      fun _ _ hv => get?_set_of_new hnew.2 hv, fun _ _ _ hv => hv⟩, rfl⟩

theorem Grown.trans {catalog₁ catalog₂ catalog₃ : Catalog} (h : Grown catalog₁ catalog₂ libraryEntryId)
    (h' : Grown catalog₂ catalog₃ libraryEntryId) : Grown catalog₁ catalog₃ libraryEntryId :=
  ⟨h'.artists.trans h.artists, fun e he => h'.names e (h.names e he),
    fun k v hv => h'.recordings k v (h.recordings k v hv), fun k v hv => h'.trackRefs k v (h.trackRefs k v hv),
    fun k v hk hv => h'.entries k v hk (h.entries k v hk hv)⟩

/-- **What the identity leaves of the catalog**: it is unchanged where an entry is taken over, and otherwise
the entry is new. -/
theorem materializeIdentity_ok {refs refs' : ProviderReferences} {reviewed : Bool}
    {candidate : DiscoveryCandidateRow} {evidence : SearchEvidence} {db : DiscoveryDb} {identity : Materialized}
    (h : materializeIdentity ids refs reviewed candidate evidence db = .ok (identity, refs')) :
    Grown db.catalog identity.catalog identity.libraryEntryId ∧
      (reusedEntry refs db.catalog candidate.userId evidence.providerTrackId = some identity.libraryEntryId ∧
          identity.catalog = db.catalog ∨
        reusedEntry refs db.catalog candidate.userId evidence.providerTrackId = none ∧
          db.catalog.libraryEntries.get? identity.libraryEntryId = none) := by
  unfold materializeIdentity at h
  unfold reusedEntry
  cases hobserved : observedRecording refs evidence.providerTrackId with
  | some recordingId =>
    rw [hobserved] at h
    obtain ⟨userRef, href, h⟩ := bind_eq_ok.mp h
    obtain ⟨⟨⟩, -, h⟩ := bind_eq_ok.mp h
    obtain ⟨⟨libraryEntryId, catalog⟩, hentry, h⟩ := bind_eq_ok.mp h
    cases h
    rw [Option.bind_eq_bind, Option.bind_some, need_eq_ok.mp href]
    unfold activeOrNewLibraryEntry at hentry
    cases hactive : activeEntry db.catalog candidate.userId userRef.1 with
    | some existing =>
      rw [hactive] at hentry
      cases hentry
      refine ⟨.refl, Or.inl ⟨?_, rfl⟩⟩
      rw [Option.bind_eq_bind, Option.bind_some, hactive]
      rfl
    | none =>
      rw [hactive] at hentry
      obtain ⟨hgrown, hnone⟩ := addEntry_ok hentry
      refine ⟨hgrown, Or.inr ⟨?_, hnone⟩⟩
      rw [Option.bind_eq_bind, Option.bind_some, hactive]
      rfl
  | none =>
    rw [hobserved] at h
    obtain ⟨⟨⟩, -, h⟩ := bind_eq_ok.mp h
    obtain ⟨artistId, -, h⟩ := bind_eq_ok.mp h
    obtain ⟨⟨⟩, -, h⟩ := bind_eq_ok.mp h
    obtain ⟨catalog, hcreate, h⟩ := bind_eq_ok.mp h
    obtain ⟨⟨⟩, -, h⟩ := bind_eq_ok.mp h
    obtain ⟨⟨libraryEntryId, catalog'⟩, hentry, h⟩ := bind_eq_ok.mp h
    cases h
    obtain ⟨hgrown, hnone⟩ := addEntry_ok hentry
    obtain ⟨hgrown', hsame⟩ := createRecording_ok hcreate
    rw [hsame] at hnone
    exact ⟨hgrown'.trans hgrown, Or.inr ⟨rfl, hnone⟩⟩

end

end AutPlay.Discovery
