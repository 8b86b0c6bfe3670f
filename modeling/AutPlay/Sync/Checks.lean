import AutPlay.Sync.Push

/-!
# What the checks of a projection establish

`Checked` lists the writes that the checks of `_generic_row` lead to, one constructor for each
branch, with the facts that the branch has checked.

* `genericChecks_ok`      a projection whose checks pass is one of these;
* `genericChecks_kind`    its event type is one that the service projects.
-/

set_option linter.unusedSectionVars false

namespace AutPlay.Sync
open Result

section
variable {db : SyncDb} {p : Principal} {e : Event}

theorem requireOwner_ok {owner : Uuid} {u : Unit} :
    requireOwner owner p = .ok u ↔ owner = p.userId := by
  unfold requireOwner
  split <;> simp_all

theorem requireVersion_ok {version : Int} {base : Option PyInt} {u : Unit} :
    requireVersion version base = .ok u ↔ base.map PyInt.val = some version := by
  unfold requireVersion
  split <;> simp_all

theorem requireNoBase_ok {base : Option PyInt} {u : Unit} :
    requireNoBase base = .ok u ↔ base = none := by
  unfold requireNoBase
  split <;> simp_all

theorem requireVersionIfSent_ok {version : Int} {base : Option PyInt} {u : Unit} :
    requireVersionIfSent version base = .ok u ↔
      base = none ∨ base.map PyInt.val = some version := by
  unfold requireVersionIfSent
  split
  · simp_all
  · rw [requireVersion_ok]
    simp_all

theorem requirePresent_ok {α : Type} {o : Option α} {a : α} :
    requirePresent o = .ok a ↔ o = some a := by
  cases o <;> simp [requirePresent]

theorem requireLive_ok {deletedAt : Option Int} {u : Unit} :
    requireLive deletedAt = .ok u ↔ deletedAt = none := by
  unfold requireLive
  split <;> simp_all

theorem requireSame_ok {a b : Uuid} {u : Unit} : requireSame a b = .ok u ↔ a = b := by
  unfold requireSame
  split <;> simp_all

theorem ownedTrackRef_ok {id : Uuid} {row : UserTrackRefRow} :
    db.ownedTrackRef id p = .ok row ↔ db.trackRefs.find id = some row ∧ row.userId = p.userId := by
  unfold SyncDb.ownedTrackRef
  cases hf : db.trackRefs.find id with
  | none => simp
  | some r =>
    by_cases ho : r.userId = p.userId
    · simp only [ho, if_true, Except.ok.injEq, Option.some.injEq]
      refine ⟨fun h => ⟨h, h ▸ ho⟩, fun h => h.1⟩
    · simp only [ho, if_false, Option.some.injEq]
      refine ⟨fun h => (nomatch h), fun ⟨h, h'⟩ => absurd (h ▸ h') ho⟩

theorem ownedPlaylist_ok {id : Uuid} {row : PlaylistRow} :
    db.ownedPlaylist id p = .ok row ↔
      db.playlists.find id = some row ∧ row.ownerUserId = p.userId := by
  unfold SyncDb.ownedPlaylist
  cases hf : db.playlists.find id with
  | none => simp
  | some r =>
    by_cases ho : r.ownerUserId = p.userId
    · simp only [ho, if_true, Except.ok.injEq, Option.some.injEq]
      refine ⟨fun h => ⟨h, h ▸ ho⟩, fun h => h.1⟩
    · simp only [ho, if_false, Option.some.injEq]
      refine ⟨fun h => (nomatch h), fun ⟨h, h'⟩ => absurd (h ▸ h') ho⟩

end

/-- **The writes that the checks lead to.** -/
inductive Checked (env : Env) (db : SyncDb) (p : Principal) (e : Event) (now : Int) :
    RowWrite → Prop
  | deleteTrackRef (old : UserTrackRefRow) (hk : e.eventType = .aggregateDeleted)
      (ht : e.aggregateType = .userTrackRef) (hf : db.trackRefs.find e.aggregateId = some old)
      (ho : old.userId = p.userId) (hv : e.baseVersion.map PyInt.val = some old.rowVersion) :
      Checked env db p e now
        (.updateTrackRef { old with deletedAt := some now, rowVersion := old.rowVersion + 1 })
  | deleteLibraryEntry (old : LibraryEntryRow) (hk : e.eventType = .aggregateDeleted)
      (ht : e.aggregateType = .libraryEntry)
      (hf : db.libraryEntries.find e.aggregateId = some old)
      (ho : old.userId = p.userId) (hv : e.baseVersion.map PyInt.val = some old.rowVersion) :
      Checked env db p e now
        (.updateLibraryEntry { old with removedAt := some now, rowVersion := old.rowVersion + 1 })
  | deletePlaylist (old : PlaylistRow) (hk : e.eventType = .aggregateDeleted)
      (ht : e.aggregateType = .playlist) (hf : db.playlists.find e.aggregateId = some old)
      (ho : old.ownerUserId = p.userId) (hv : e.baseVersion.map PyInt.val = some old.rowVersion) :
      Checked env db p e now
        (.updatePlaylist { old with deletedAt := some now, rowVersion := old.rowVersion + 1 })
  | deletePlaylistEntry (old : PlaylistEntryRow) (parent : PlaylistRow)
      (hk : e.eventType = .aggregateDeleted) (ht : e.aggregateType = .playlistEntry)
      (hf : db.playlistEntries.find e.aggregateId = some old)
      (hp : db.playlists.find old.playlistId = some parent) (ho : parent.ownerUserId = p.userId)
      (hl : parent.deletedAt = none) (hv : e.baseVersion.map PyInt.val = some old.rowVersion) :
      Checked env db p e now
        (.updateEntry { old with removedAt := some now } (.keep old.positionKey))
  | createTrackRef (new : NewTrackRef) (hk : e.eventType = .userTrackRefCreated)
      (hi : new.id = e.aggregateId) (hb : e.baseVersion = none)
      (hd : e.payload.optionalInt "duration_ms" = .ok new.duration)
      (hn : e.payload.uuidOptional "library_entry_local_id" = .ok new.nestedEntryId) :
      Checked env db p e now (.insertTrackRef new)
  | patchTrackRef (old : UserTrackRefRow) (title artist album : Option String)
      (hk : e.eventType = .userTrackRefPatched)
      (hf : db.trackRefs.find e.aggregateId = some old) (ho : old.userId = p.userId)
      (hv : e.baseVersion.map PyInt.val = some old.rowVersion) :
      Checked env db p e now (.updateTrackRef { old with
        rawTitle := title, rawArtist := artist, rawAlbum := album,
        rowVersion := old.rowVersion + 1 })
  | createLibraryEntry (refId : Uuid) (ref : UserTrackRefRow) (source : LibrarySource)
      (availability : AvailabilityStatus) (hk : e.eventType = .libraryEntryUpserted)
      (hn : db.libraryEntries.find e.aggregateId = none) (hb : e.baseVersion = none)
      (hr : e.payload.uuidOptionalAlias ["user_track_ref_id", "local_user_track_ref_id"] =
        .ok (some refId))
      (hf : db.trackRefs.find refId = some ref) (ho : ref.userId = p.userId) :
      Checked env db p e now (.insertLibraryEntry
        { libraryEntryId := e.aggregateId, userId := p.userId,
          userTrackRefId := ref.userTrackRefId, source := source,
          availabilityStatus := availability, removedAt := none, rowVersion := 1 })
  | updateLibraryEntry (old : LibraryEntryRow) (removed : Option Int)
      (hk : e.eventType = .libraryEntryUpserted)
      (hf : db.libraryEntries.find e.aggregateId = some old) (ho : old.userId = p.userId)
      (hv : e.baseVersion.map PyInt.val = some old.rowVersion)
      (hr : removedAt e.payload now = .ok removed) :
      Checked env db p e now
        (.updateLibraryEntry { old with removedAt := removed, rowVersion := old.rowVersion + 1 })
  | createPreference (ref : UserTrackRefRow) (preference : Preference) (excluded : Bool)
      (hk : e.eventType = .userTrackPreferenceSet) (hr : resolveTrackRef env db p e = .ok ref)
      (hn : db.preferences.find ref.userTrackRefId = none) (hb : e.baseVersion = none) :
      Checked env db p e now (.insertPreference
        { userTrackRefId := ref.userTrackRefId, preference := preference,
          excludedFromTaste := excluded, rowVersion := 1 })
  | updatePreference (ref : UserTrackRefRow) (old : UserTrackPreferenceRow)
      (preference : Preference) (excluded : Bool)
      (hk : e.eventType = .userTrackPreferenceSet) (hr : resolveTrackRef env db p e = .ok ref)
      (hf : db.preferences.find ref.userTrackRefId = some old)
      (hv : e.baseVersion = none ∨ e.baseVersion.map PyInt.val = some old.rowVersion) :
      Checked env db p e now (.updatePreference { old with
        preference := preference, excludedFromTaste := excluded,
        rowVersion := old.rowVersion + 1 })
  | createPlaylist (name : String) (description : Option String)
      (hk : e.eventType = .playlistCreated) (hb : e.baseVersion = none) :
      Checked env db p e now (.insertPlaylist
        { playlistId := e.aggregateId, ownerUserId := p.userId, name := name,
          description := description, visibility := .privateList, playlistType := .manual,
          deletedAt := none, rowVersion := 1 })
  | patchPlaylist (old : PlaylistRow) (name : String) (description : Option String)
      (hk : e.eventType = .playlistMetadataPatched)
      (hf : db.playlists.find e.aggregateId = some old) (ho : old.ownerUserId = p.userId)
      (hv : e.baseVersion.map PyInt.val = some old.rowVersion) :
      Checked env db p e now (.updatePlaylist { old with
        name := name, description := description, rowVersion := old.rowVersion + 1 })
  | createPlaylistEntry (playlist : PlaylistRow) (refId : Uuid) (ref : UserTrackRefRow)
      (plan : PositionPlan)
      (hk : e.eventType = .playlistEntryUpserted ∨ e.eventType = .playlistEntryMoved)
      (hn : db.playlistEntries.find e.aggregateId = none) (hb : e.baseVersion = none)
      (hp : db.playlists.find playlist.playlistId = some playlist)
      (ho : playlist.ownerUserId = p.userId) (hr : db.trackRefs.find refId = some ref)
      (hro : ref.userId = p.userId)
      (hplan : positionPlan env db.playlistEntries playlist.playlistId e.payload e.aggregateId =
        .ok plan) :
      Checked env db p e now (.insertEntry
        { playlistEntryId := e.aggregateId, playlistId := playlist.playlistId,
          userTrackRefId := refId, positionKey := plan.positionKey, addedByUserId := p.userId,
          removedAt := none, rowVersion := 1 } plan)
  | movePlaylistEntry (old : PlaylistEntryRow) (playlist : PlaylistRow) (plan : PositionPlan)
      (hk : e.eventType = .playlistEntryUpserted ∨ e.eventType = .playlistEntryMoved)
      (hf : db.playlistEntries.find e.aggregateId = some old)
      (hp : db.playlists.find old.playlistId = some playlist)
      (ho : playlist.ownerUserId = p.userId)
      (hv : e.baseVersion.map PyInt.val = some old.rowVersion)
      (hplan : positionPlan env db.playlistEntries old.playlistId e.payload e.aggregateId =
        .ok plan) :
      Checked env db p e now (.updateEntry { old with positionKey := plan.positionKey } plan)

section
variable {env : Env} {db : SyncDb} {p : Principal} {e : Event} {now : Int} {w : RowWrite}

theorem deleteAggregate_ok (hk : e.eventType = .aggregateDeleted)
    (h : deleteAggregate db p e now = .ok w) : Checked env db p e now w := by
  unfold deleteAggregate at h
  split at h
  next ht =>
    cases hf : db.trackRefs.find e.aggregateId with
    | none =>
      rw [hf] at h
      cases h
    | some old =>
      rw [hf] at h
      obtain ⟨_, h₁, h⟩ := bind_eq_ok.mp h
      obtain ⟨_, h₂, h⟩ := bind_eq_ok.mp h
      cases h
      exact .deleteTrackRef old hk ht hf (requireOwner_ok.mp h₁) (requireVersion_ok.mp h₂)
  next ht =>
    cases hf : db.libraryEntries.find e.aggregateId with
    | none =>
      rw [hf] at h
      cases h
    | some old =>
      rw [hf] at h
      obtain ⟨_, h₁, h⟩ := bind_eq_ok.mp h
      obtain ⟨_, h₂, h⟩ := bind_eq_ok.mp h
      cases h
      exact .deleteLibraryEntry old hk ht hf (requireOwner_ok.mp h₁) (requireVersion_ok.mp h₂)
  next ht =>
    cases hf : db.playlists.find e.aggregateId with
    | none =>
      rw [hf] at h
      cases h
    | some old =>
      rw [hf] at h
      obtain ⟨_, h₁, h⟩ := bind_eq_ok.mp h
      obtain ⟨_, h₂, h⟩ := bind_eq_ok.mp h
      cases h
      exact .deletePlaylist old hk ht hf (requireOwner_ok.mp h₁) (requireVersion_ok.mp h₂)
  next ht =>
    cases hf : db.playlistEntries.find e.aggregateId with
    | none =>
      rw [hf] at h
      cases h
    | some old =>
      rw [hf] at h
      obtain ⟨parent, h₁, h⟩ := bind_eq_ok.mp h
      obtain ⟨_, h₂, h⟩ := bind_eq_ok.mp h
      obtain ⟨_, h₃, h⟩ := bind_eq_ok.mp h
      cases h
      obtain ⟨hp, ho⟩ := ownedPlaylist_ok.mp h₁
      exact .deletePlaylistEntry old parent hk ht hf hp ho (requireLive_ok.mp h₂)
        (requireVersion_ok.mp h₃)
  next => cases h

theorem createTrackRef_ok (hk : e.eventType = .userTrackRefCreated)
    (h : createTrackRef e = .ok w) : Checked env db p e now w := by
  obtain ⟨_, h₁, h⟩ := bind_eq_ok.mp h
  obtain ⟨title, -, h⟩ := bind_eq_ok.mp h
  obtain ⟨artist, -, h⟩ := bind_eq_ok.mp h
  obtain ⟨album, -, h⟩ := bind_eq_ok.mp h
  obtain ⟨duration, hd, h⟩ := bind_eq_ok.mp h
  obtain ⟨nested, hn, h⟩ := bind_eq_ok.mp h
  cases h
  exact .createTrackRef _ hk rfl (requireNoBase_ok.mp h₁) hd hn

theorem patchTrackRef_ok (hk : e.eventType = .userTrackRefPatched)
    (h : patchTrackRef db p e = .ok w) : Checked env db p e now w := by
  obtain ⟨old, h₁, h⟩ := bind_eq_ok.mp h
  obtain ⟨_, h₂, h⟩ := bind_eq_ok.mp h
  obtain ⟨title, -, h⟩ := bind_eq_ok.mp h
  obtain ⟨artist, -, h⟩ := bind_eq_ok.mp h
  obtain ⟨album, -, h⟩ := bind_eq_ok.mp h
  cases h
  obtain ⟨hf, ho⟩ := ownedTrackRef_ok.mp h₁
  exact .patchTrackRef old title artist album hk hf ho (requireVersion_ok.mp h₂)

theorem upsertLibraryEntry_ok (hk : e.eventType = .libraryEntryUpserted)
    (h : upsertLibraryEntry db p e now = .ok w) : Checked env db p e now w := by
  obtain ⟨refId, hr, h⟩ := bind_eq_ok.mp h
  cases hf : db.libraryEntries.find e.aggregateId with
  | none =>
    simp only [hf] at h
    obtain ⟨_, h₁, h⟩ := bind_eq_ok.mp h
    obtain ⟨id, h₂, h⟩ := bind_eq_ok.mp h
    obtain ⟨ref, h₃, h⟩ := bind_eq_ok.mp h
    obtain ⟨source, -, h⟩ := bind_eq_ok.mp h
    obtain ⟨availability, -, h⟩ := bind_eq_ok.mp h
    cases h
    obtain ⟨hrf, ho⟩ := ownedTrackRef_ok.mp h₃
    rw [requirePresent_ok.mp h₂] at hr
    exact .createLibraryEntry id ref source availability hk hf (requireNoBase_ok.mp h₁) hr hrf ho
  | some old =>
    simp only [hf] at h
    obtain ⟨_, h₁, h⟩ := bind_eq_ok.mp h
    obtain ⟨_, h₂, h⟩ := bind_eq_ok.mp h
    obtain ⟨removed, h₃, h⟩ := bind_eq_ok.mp h
    cases h
    exact .updateLibraryEntry old removed hk hf (requireOwner_ok.mp h₁) (requireVersion_ok.mp h₂) h₃

theorem setPreference_ok (hk : e.eventType = .userTrackPreferenceSet)
    (h : setPreference env db p e = .ok w) : Checked env db p e now w := by
  obtain ⟨ref, hr, h⟩ := bind_eq_ok.mp h
  obtain ⟨preference, -, h⟩ := bind_eq_ok.mp h
  obtain ⟨excluded, -, h⟩ := bind_eq_ok.mp h
  cases hf : db.preferences.find ref.userTrackRefId with
  | none =>
    simp only [hf] at h
    obtain ⟨_, h₁, h⟩ := bind_eq_ok.mp h
    cases h
    exact .createPreference ref preference excluded hk hr hf (requireNoBase_ok.mp h₁)
  | some old =>
    simp only [hf] at h
    obtain ⟨_, h₁, h⟩ := bind_eq_ok.mp h
    cases h
    exact .updatePreference ref old preference excluded hk hr hf (requireVersionIfSent_ok.mp h₁)

theorem createPlaylist_ok (hk : e.eventType = .playlistCreated)
    (h : createPlaylist p e = .ok w) : Checked env db p e now w := by
  obtain ⟨_, h₁, h⟩ := bind_eq_ok.mp h
  obtain ⟨name, -, h⟩ := bind_eq_ok.mp h
  obtain ⟨description, -, h⟩ := bind_eq_ok.mp h
  cases h
  exact .createPlaylist name description hk (requireNoBase_ok.mp h₁)

theorem patchPlaylist_ok (hk : e.eventType = .playlistMetadataPatched)
    (h : patchPlaylist db p e = .ok w) : Checked env db p e now w := by
  obtain ⟨old, h₁, h⟩ := bind_eq_ok.mp h
  obtain ⟨_, h₂, h⟩ := bind_eq_ok.mp h
  obtain ⟨name, -, h⟩ := bind_eq_ok.mp h
  obtain ⟨description, -, h⟩ := bind_eq_ok.mp h
  cases h
  obtain ⟨hf, ho⟩ := ownedPlaylist_ok.mp h₁
  exact .patchPlaylist old name description hk hf ho (requireVersion_ok.mp h₂)

theorem upsertPlaylistEntry_ok
    (hk : e.eventType = .playlistEntryUpserted ∨ e.eventType = .playlistEntryMoved)
    (h : upsertPlaylistEntry env db p e = .ok w) : Checked env db p e now w := by
  obtain ⟨named, -, h⟩ := bind_eq_ok.mp h
  obtain ⟨playlistId, -, h⟩ := bind_eq_ok.mp h
  obtain ⟨playlist, h₁, h⟩ := bind_eq_ok.mp h
  obtain ⟨hp, ho⟩ := ownedPlaylist_ok.mp h₁
  have hid : playlist.playlistId = playlistId := Table.key_of_find hp
  rw [← hid] at hp
  cases hf : db.playlistEntries.find e.aggregateId with
  | none =>
    simp only [hf] at h
    obtain ⟨_, h₂, h⟩ := bind_eq_ok.mp h
    obtain ⟨refId, -, h⟩ := bind_eq_ok.mp h
    obtain ⟨refId, -, h⟩ := bind_eq_ok.mp h
    obtain ⟨ref, h₃, h⟩ := bind_eq_ok.mp h
    obtain ⟨plan, hplan, h⟩ := bind_eq_ok.mp h
    cases h
    obtain ⟨hr, hro⟩ := ownedTrackRef_ok.mp h₃
    exact .createPlaylistEntry playlist refId ref plan hk hf (requireNoBase_ok.mp h₂) hp ho hr hro
      hplan
  | some old =>
    simp only [hf] at h
    obtain ⟨_, h₂, h⟩ := bind_eq_ok.mp h
    obtain ⟨_, h₃, h⟩ := bind_eq_ok.mp h
    obtain ⟨plan, hplan, h⟩ := bind_eq_ok.mp h
    cases h
    rw [← requireSame_ok.mp h₂] at hp hplan
    exact .movePlaylistEntry old playlist plan hk hf hp ho (requireVersion_ok.mp h₃) hplan

/-- **A projection whose checks pass is one of `Checked`.** -/
theorem genericChecks_ok (h : genericChecks env db p e now = .ok w) :
    Checked env db p e now w := by
  unfold genericChecks at h
  split at h
  next hk => exact deleteAggregate_ok hk h
  next hk => exact createTrackRef_ok hk h
  next hk => exact patchTrackRef_ok hk h
  next hk => exact upsertLibraryEntry_ok hk h
  next hk => exact setPreference_ok hk h
  next hk => exact createPlaylist_ok hk h
  next hk => exact patchPlaylist_ok hk h
  next hk => exact upsertPlaylistEntry_ok (Or.inl hk) h
  next hk => exact upsertPlaylistEntry_ok (Or.inr hk) h
  next => cases h

end

end AutPlay.Sync
