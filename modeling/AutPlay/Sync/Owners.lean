import AutPlay.Sync.Inbox
import AutPlay.Sync.Rebalance

/-!
# Owners

The triggers `enforce_library_entry_owner` and `enforce_playlist_entry_owner` look at the rows an
entry refers to.  Since no push changes the owner of a row, entries that satisfied them keep doing so
(`OwnersAgree.run`), and in a reachable database the triggers never stop an update.
-/

set_option linter.unusedSectionVars false

namespace AutPlay.Sync
open Result

/-- Every entry satisfies its owner trigger. -/
structure OwnersAgree (db : SyncDb) : Prop where
  library : ∀ r ∈ db.libraryEntries, db.libraryEntryOwnerOk r = true
  entries : EntriesOwned db

/-- Track references and playlists stay, with their owners. -/
structure KeepsOwners (db db' : SyncDb) : Prop where
  refs : ∀ id r, db.trackRefs.find id = some r →
    ∃ r', db'.trackRefs.find id = some r' ∧ r'.userId = r.userId
  playlists : ∀ id r, db.playlists.find id = some r →
    ∃ r', db'.playlists.find id = some r' ∧ r'.ownerUserId = r.ownerUserId

section
variable {db db' : SyncDb}

theorem libraryEntryOwnerOk_iff {r : LibraryEntryRow} :
    db.libraryEntryOwnerOk r = true ↔
      ∃ ref, db.trackRefs.find r.userTrackRefId = some ref ∧ ref.userId = r.userId := by
  unfold SyncDb.libraryEntryOwnerOk
  rw [decide_eq_true_iff, Option.map_eq_some_iff]

theorem entryOwnerOk_iff {r : PlaylistEntryRow} :
    db.entryOwnerOk r = true ↔
      ∃ list ref, db.playlists.find r.playlistId = some list ∧
        db.trackRefs.find r.userTrackRefId = some ref ∧ list.ownerUserId = r.addedByUserId ∧
        ref.userId = r.addedByUserId := by
  unfold SyncDb.entryOwnerOk
  simp only [decide_eq_true_eq]
  constructor
  · rintro ⟨he, ho⟩
    rw [ho] at he
    obtain ⟨list, hl, hlo⟩ := Option.map_eq_some_iff.mp ho
    obtain ⟨ref, hr, hro⟩ := Option.map_eq_some_iff.mp he.symm
    exact ⟨list, ref, hl, hr, hlo, hro⟩
  · rintro ⟨list, ref, hl, hr, hlo, hro⟩
    rw [hl, hr]
    simp [hlo, hro]

theorem KeepsOwners.of_eq (hr : db'.trackRefs = db.trackRefs) (hl : db'.playlists = db.playlists) :
    KeepsOwners db db' :=
  ⟨fun id r h => ⟨r, by rw [hr]; exact h, rfl⟩, fun id r h => ⟨r, by rw [hl]; exact h, rfl⟩⟩

theorem KeepsOwners.library (h : KeepsOwners db db') {r : LibraryEntryRow}
    (ho : db.libraryEntryOwnerOk r = true) : db'.libraryEntryOwnerOk r = true := by
  obtain ⟨ref, hf, hu⟩ := libraryEntryOwnerOk_iff.mp ho
  obtain ⟨ref', hf', hu'⟩ := h.refs _ _ hf
  exact libraryEntryOwnerOk_iff.mpr ⟨ref', hf', hu'.trans hu⟩

theorem KeepsOwners.entry (h : KeepsOwners db db') {r : PlaylistEntryRow}
    (ho : db.entryOwnerOk r = true) : db'.entryOwnerOk r = true := by
  obtain ⟨list, ref, hl, hf, hlo, hro⟩ := entryOwnerOk_iff.mp ho
  obtain ⟨list', hl', hlo'⟩ := h.playlists _ _ hl
  obtain ⟨ref', hf', hro'⟩ := h.refs _ _ hf
  exact entryOwnerOk_iff.mpr ⟨list', ref', hl', hf', hlo'.trans hlo, hro'.trans hro⟩

/-- Owners survive a step that keeps them and whose new entries have passed their trigger. -/
theorem OwnersAgree.of_keeps (ho : OwnersAgree db) (h : KeepsOwners db db')
    (hl : ∀ r ∈ db'.libraryEntries, r ∈ db.libraryEntries ∨ db'.libraryEntryOwnerOk r = true)
    (he : ∀ r ∈ db'.playlistEntries, r ∈ db.playlistEntries ∨ db'.entryOwnerOk r = true) :
    OwnersAgree db' :=
  ⟨fun r hr => (hl r hr).elim (fun hm => h.library (ho.library r hm)) id,
    fun r hr => (he r hr).elim (fun hm => h.entry (ho.entries r hm)) id⟩

/-- A step that leaves the four tables alone. -/
theorem OwnersAgree.of_eq (ho : OwnersAgree db) (hr : db'.trackRefs = db.trackRefs)
    (hp : db'.playlists = db.playlists) (hl : db'.libraryEntries = db.libraryEntries)
    (he : db'.playlistEntries = db.playlistEntries) : OwnersAgree db' :=
  ho.of_keeps (.of_eq hr hp) (fun _ h => Or.inl (hl ▸ h)) (fun _ h => Or.inl (he ▸ h))

theorem keepsOwners_insertTrackRef {r : UserTrackRefRow} (h : db.insertTrackRef r = .ok db') :
    KeepsOwners db db' := by
  obtain ⟨-, t, ht, rfl⟩ := SyncDb.insertTrackRef_ok.mp h
  refine ⟨fun id old hf => ⟨old, ?_, rfl⟩, fun id old hf => ⟨old, hf, rfl⟩⟩
  show t.find id = _
  rw [Table.find_insert ht]
  have hne : ¬ Schema.key r = id := by
    intro hc
    have := (Table.insert_ok.mp ht).1
    rw [hc, hf] at this
    cases this
  rw [if_neg hne, hf]

theorem keepsOwners_updateTrackRef {row : UserTrackRefRow} (h : db.updateTrackRef row = .ok db')
    (hu : ∀ old, db.trackRefs.find row.userTrackRefId = some old → row.userId = old.userId) :
    KeepsOwners db db' := by
  obtain ⟨t, ht, rfl⟩ := SyncDb.updateTrackRef_ok.mp h
  refine ⟨fun id old hf => ?_, fun id old hf => ⟨old, hf, rfl⟩⟩
  show ∃ r', t.find id = some r' ∧ _
  rw [Table.find_update ht, hf]
  by_cases hk : Schema.key row = id
  · rw [if_pos hk]
    exact ⟨row, rfl, hu old (by rw [show row.userTrackRefId = id from hk]; exact hf)⟩
  · rw [if_neg hk]
    exact ⟨old, rfl, rfl⟩

theorem keepsOwners_insertPlaylist {r : PlaylistRow} (h : db.insertPlaylist r = .ok db') :
    KeepsOwners db db' := by
  obtain ⟨t, ht, rfl⟩ := SyncDb.insertPlaylist_ok.mp h
  refine ⟨fun id old hf => ⟨old, hf, rfl⟩, fun id old hf => ⟨old, ?_, rfl⟩⟩
  show t.find id = _
  rw [Table.find_insert ht]
  have hne : ¬ Schema.key r = id := by
    intro hc
    have := (Table.insert_ok.mp ht).1
    rw [hc, hf] at this
    cases this
  rw [if_neg hne, hf]

theorem keepsOwners_updatePlaylist {row : PlaylistRow} (h : db.updatePlaylist row = .ok db')
    (hu : ∀ old, db.playlists.find row.playlistId = some old →
      row.ownerUserId = old.ownerUserId) : KeepsOwners db db' := by
  obtain ⟨t, ht, rfl⟩ := SyncDb.updatePlaylist_ok.mp h
  refine ⟨fun id old hf => ⟨old, hf, rfl⟩, fun id old hf => ?_⟩
  show ∃ r', t.find id = some r' ∧ _
  rw [Table.find_update ht, hf]
  by_cases hk : Schema.key row = id
  · rw [if_pos hk]
    exact ⟨row, rfl, hu old (by rw [show row.playlistId = id from hk]; exact hf)⟩
  · rw [if_neg hk]
    exact ⟨old, rfl, rfl⟩

theorem ownersAgree_insertLibraryEntry (ho : OwnersAgree db) {r : LibraryEntryRow}
    (h : db.insertLibraryEntry r = .ok db') : OwnersAgree db' := by
  obtain ⟨hr, t, ht, rfl⟩ := SyncDb.insertLibraryEntry_ok.mp h
  refine ho.of_keeps (.of_eq rfl rfl) (fun x hx => ?_) (fun x hx => Or.inl hx)
  rcases (Table.mem_insert ht).mp hx with hx | rfl
  · exact Or.inl hx
  · exact Or.inr hr

theorem ownersAgree_updateLibraryEntry (ho : OwnersAgree db) {r : LibraryEntryRow}
    (h : db.updateLibraryEntry r = .ok db') : OwnersAgree db' := by
  obtain ⟨hr, t, ht, rfl⟩ := SyncDb.updateLibraryEntry_ok.mp h
  refine ho.of_keeps (.of_eq rfl rfl) (fun x hx => ?_) (fun x hx => Or.inl hx)
  rcases (Table.mem_update ht).mp hx with ⟨hx, -⟩ | ⟨rfl, -⟩
  · exact Or.inl hx
  · exact Or.inr hr

theorem ownersAgree_insertEntry (ho : OwnersAgree db) {r : PlaylistEntryRow}
    (h : db.insertEntry r = .ok db') : OwnersAgree db' := by
  obtain ⟨hr, t, ht, rfl⟩ := SyncDb.insertEntry_ok.mp h
  refine ho.of_keeps (.of_eq rfl rfl) (fun x hx => Or.inl hx) (fun x hx => ?_)
  rcases (Table.mem_insert ht).mp hx with hx | rfl
  · exact Or.inl hx
  · exact Or.inr hr

theorem ownersAgree_updateEntry (ho : OwnersAgree db) {r : PlaylistEntryRow}
    (h : db.updateEntry r = .ok db') : OwnersAgree db' := by
  obtain ⟨hr, t, ht, rfl⟩ := SyncDb.updateEntry_ok.mp h
  refine ho.of_keeps (.of_eq rfl rfl) (fun x hx => Or.inl hx) (fun x hx => ?_)
  rcases (Table.mem_update ht).mp hx with ⟨hx, -⟩ | ⟨rfl, -⟩
  · exact Or.inl hx
  · exact Or.inr hr

theorem ownersAgree_rekeyPhase (ho : OwnersAgree db) {keys : List (Uuid × String)}
    (h : db.rekeyPhase keys = .ok db') : OwnersAgree db' := by
  induction keys generalizing db with
  | nil =>
    cases h
    exact ho
  | cons k keys ih =>
    obtain ⟨db₁, h₁, h₂⟩ := bind_eq_ok.mp h
    refine ih ⟨fun r hr => ?_, ho.entries.rekey h₁⟩ h₂
    rw [(rekey_ok h₁).1] at hr ⊢
    exact ho.library r hr

theorem ownersAgree_rebalance (ho : OwnersAgree db) {plan : PositionPlan} {id : Uuid}
    (h : db.rebalance plan id = .ok db') : OwnersAgree db' := by
  obtain ⟨db₁, h₁, h₂⟩ := bind_eq_ok.mp h
  exact ownersAgree_rekeyPhase (ownersAgree_rekeyPhase ho h₁) h₂

theorem ownersAgree_insertNested (ho : OwnersAgree db) {p : Principal} {new : NewTrackRef}
    (h : db.insertNested p new = .ok db') : OwnersAgree db' := by
  unfold SyncDb.insertNested at h
  split at h
  · cases h
    exact ho
  · split at h
    · cases h
      exact ho
    · exact ownersAgree_insertLibraryEntry ho h

theorem ownersAgree_publish (ho : OwnersAgree db) {userId : Uuid} {now : Int} {f : Publication}
    (h : db.publish userId now f = .ok db') : OwnersAgree db' := by
  obtain ⟨t, -, rfl⟩ := SyncDb.publish_ok.mp h
  exact ho.of_eq rfl rfl rfl rfl

theorem ownersAgree_publishAll (ho : OwnersAgree db) {userId : Uuid} {now : Int}
    {fs : List Publication} (h : db.publishAll userId now fs = .ok db') : OwnersAgree db' := by
  rw [(publishAll_ok h).2.1]
  exact ho.of_eq rfl rfl rfl rfl

end

section
variable {env : Env} {db db' : SyncDb} {p : Principal} {e : Event} {now : Int}

/-- The checked writes keep the owners. -/
theorem ownersAgree_run {w : RowWrite} (hc : Checked env db p e now w) {g : GenericResult}
    (ho : OwnersAgree db) (h : w.run db p = .ok g) : OwnersAgree g.db := by
  have hupdate : ∀ {row old : UserTrackRefRow} {db' : SyncDb},
      db.trackRefs.find e.aggregateId = some old → db.updateTrackRef row = .ok db' →
      row.userTrackRefId = old.userTrackRefId → row.userId = old.userId → OwnersAgree db' := by
    intro row old db' hf h hid hu
    have hk : old.userTrackRefId = e.aggregateId := Table.key_of_find hf
    have hkeeps := keepsOwners_updateTrackRef h (fun o hfo => by
      rw [hid, hk, hf] at hfo
      cases hfo
      exact hu)
    obtain ⟨t, -, rfl⟩ := SyncDb.updateTrackRef_ok.mp h
    exact ho.of_keeps hkeeps (fun r hr => Or.inl hr) (fun r hr => Or.inl hr)
  have hlist : ∀ {row old : PlaylistRow} {db' : SyncDb},
      db.playlists.find e.aggregateId = some old → db.updatePlaylist row = .ok db' →
      row.playlistId = old.playlistId → row.ownerUserId = old.ownerUserId → OwnersAgree db' := by
    intro row old db' hf h hid hu
    have hk : old.playlistId = e.aggregateId := Table.key_of_find hf
    have hkeeps := keepsOwners_updatePlaylist h (fun o hfo => by
      rw [hid, hk, hf] at hfo
      cases hfo
      exact hu)
    obtain ⟨t, -, rfl⟩ := SyncDb.updatePlaylist_ok.mp h
    exact ho.of_keeps hkeeps (fun r hr => Or.inl hr) (fun r hr => Or.inl hr)
  cases hc with
  | deleteTrackRef old hk ht hf hown hv =>
    obtain ⟨db₁, h₁, h⟩ := bind_eq_ok.mp h
    cases h
    exact hupdate hf h₁ rfl rfl
  | deleteLibraryEntry old hk ht hf hown hv =>
    obtain ⟨db₁, h₁, h⟩ := bind_eq_ok.mp h
    cases h
    exact ownersAgree_updateLibraryEntry ho h₁
  | deletePlaylist old hk ht hf hown hv =>
    obtain ⟨db₁, h₁, h⟩ := bind_eq_ok.mp h
    cases h
    exact hlist hf h₁ rfl rfl
  | deletePlaylistEntry old parent hk ht hf hp hown hl hv =>
    obtain ⟨db₁, h₁, h⟩ := bind_eq_ok.mp h
    obtain ⟨db₂, h₂, h⟩ := bind_eq_ok.mp h
    cases h
    exact ownersAgree_updateEntry (ownersAgree_rebalance ho h₁) h₂
  | createTrackRef new hk hi hb hd hn =>
    obtain ⟨d, -, h⟩ := bind_eq_ok.mp h
    obtain ⟨db₁, h₁, h⟩ := bind_eq_ok.mp h
    obtain ⟨db₂, h₂, h⟩ := bind_eq_ok.mp h
    cases h
    have hkeeps := keepsOwners_insertTrackRef h₁
    obtain ⟨-, t, -, rfl⟩ := SyncDb.insertTrackRef_ok.mp h₁
    exact ownersAgree_insertNested
      (ho.of_keeps hkeeps (fun r hr => Or.inl hr) (fun r hr => Or.inl hr)) h₂
  | patchTrackRef old title artist album hk hf hown hv =>
    obtain ⟨db₁, h₁, h⟩ := bind_eq_ok.mp h
    cases h
    exact hupdate hf h₁ rfl rfl
  | createLibraryEntry refId ref source availability hk hn hb hr hf hown =>
    obtain ⟨db₁, h₁, h⟩ := bind_eq_ok.mp h
    cases h
    exact ownersAgree_insertLibraryEntry ho h₁
  | updateLibraryEntry old removed hk hf hown hv hr =>
    obtain ⟨db₁, h₁, h⟩ := bind_eq_ok.mp h
    cases h
    exact ownersAgree_updateLibraryEntry ho h₁
  | createPreference ref preference excluded hk hr hn hb =>
    obtain ⟨db₁, h₁, h⟩ := bind_eq_ok.mp h
    cases h
    obtain ⟨t, -, rfl⟩ := SyncDb.insertPreference_ok.mp h₁
    exact ho.of_eq rfl rfl rfl rfl
  | updatePreference ref old preference excluded hk hr hf hv =>
    obtain ⟨db₁, h₁, h⟩ := bind_eq_ok.mp h
    cases h
    obtain ⟨t, -, rfl⟩ := SyncDb.updatePreference_ok.mp h₁
    exact ho.of_eq rfl rfl rfl rfl
  | createPlaylist name description hk hb =>
    obtain ⟨db₁, h₁, h⟩ := bind_eq_ok.mp h
    cases h
    have hkeeps := keepsOwners_insertPlaylist h₁
    obtain ⟨t, -, rfl⟩ := SyncDb.insertPlaylist_ok.mp h₁
    exact ho.of_keeps hkeeps (fun r hr => Or.inl hr) (fun r hr => Or.inl hr)
  | patchPlaylist old name description hk hf hown hv =>
    obtain ⟨db₁, h₁, h⟩ := bind_eq_ok.mp h
    cases h
    exact hlist hf h₁ rfl rfl
  | createPlaylistEntry playlist refId ref plan hk hn hb hp hown hr hro hplan =>
    obtain ⟨db₁, h₁, h⟩ := bind_eq_ok.mp h
    obtain ⟨db₂, h₂, h⟩ := bind_eq_ok.mp h
    cases h
    exact ownersAgree_insertEntry (ownersAgree_rebalance ho h₁) h₂
  | movePlaylistEntry old playlist plan hk hf hp hown hv hplan =>
    obtain ⟨db₁, h₁, h⟩ := bind_eq_ok.mp h
    obtain ⟨db₂, h₂, h⟩ := bind_eq_ok.mp h
    cases h
    exact ownersAgree_updateEntry (ownersAgree_rebalance ho h₁) h₂

theorem ownersAgree_applyGeneric {requestId : Uuid} {ack : Ack} (ho : OwnersAgree db)
    (h : applyGeneric env db p e now requestId = .ok (ack, db')) : OwnersAgree db' := by
  unfold applyGeneric at h
  split at h
  · cases h
    exact ho
  · split at h
    · cases h
      exact ho
    · cases h
      exact ho
    next w hw =>
      obtain ⟨g, hs, h⟩ := bind_eq_ok.mp h
      obtain ⟨g₁, h₁, hs⟩ := bind_eq_ok.mp hs
      obtain ⟨db₂, h₂, hs⟩ := bind_eq_ok.mp hs
      cases hs
      obtain ⟨db₃, h₃, h⟩ := bind_eq_ok.mp h
      obtain ⟨db₄, h₄, h⟩ := bind_eq_ok.mp h
      cases h
      have ho₁ := ownersAgree_run (genericChecks_ok hw) ho h₁
      have ho₃ := ownersAgree_publish (ownersAgree_publishAll ho₁ h₂) h₃
      unfold SyncDb.buryDeleted at h₄
      split at h₄
      · obtain ⟨t, -, rfl⟩ := SyncDb.bury_ok.mp h₄
        exact ho₃.of_eq rfl rfl rfl rfl
      · cases h₄
        exact ho₃

theorem ownersAgree_applyInteraction {requestId : Uuid} {ack : Ack} (ho : OwnersAgree db)
    (h : applyInteraction env db p e now requestId = .ok (ack, db')) : OwnersAgree db' := by
  unfold applyInteraction at h
  split at h
  · cases h
    exact ho
  next w hw =>
    obtain ⟨db₁, h₁, h⟩ := bind_eq_ok.mp h
    obtain ⟨db₂, h₂, h⟩ := bind_eq_ok.mp h
    cases h
    refine ownersAgree_publish ?_ h₂
    cases w with
    | interaction row =>
      obtain ⟨t, -, rfl⟩ := bind_pure_eq_ok.mp h₁
      exact ho.of_eq rfl rfl rfl rfl
    | listening l a =>
      obtain ⟨played, -, h₁⟩ := bind_eq_ok.mp h₁
      obtain ⟨duration, -, h₁⟩ := bind_eq_ok.mp h₁
      obtain ⟨ratio, -, h₁⟩ := bind_eq_ok.mp h₁
      split at h₁
      · obtain ⟨t, -, rfl⟩ := bind_pure_eq_ok.mp h₁
        exact ho.of_eq rfl rfl rfl rfl
      · cases h₁

theorem ownersAgree_applyEvent {requestId : Uuid} {ack : Ack} (ho : OwnersAgree db)
    (h : applyEvent env db p e now requestId = .ok (ack, db')) : OwnersAgree db' := by
  unfold applyEvent at h
  split at h
  · cases h
    exact ho
  · split at h
    · exact ownersAgree_applyInteraction ho h
    · split at h
      · exact ownersAgree_applyGeneric ho h
      · cases h
        exact ho

theorem OwnersAgree.step (ho : OwnersAgree db) (c : PushCall) : OwnersAgree (pushStep env db c) := by
  rcases pushStep_cases env db c with hs | ⟨ack, db₁, -, cursor, sequence, hn, ha, hp, hr⟩
  · rw [hs]
    exact ho
  · have ho₁ := ownersAgree_applyEvent ho ha
    rw [hp]
    exact ho₁.of_eq rfl rfl rfl rfl

/-- **No run of pushes breaks an owner trigger.** -/
theorem OwnersAgree.run (env : Env) (ho : OwnersAgree db) (cs : List PushCall) :
    OwnersAgree (cs.foldl (pushStep env) db) := by
  induction cs generalizing db with
  | nil => exact ho
  | cons c cs ih => exact ih (ho.step c)

end

end AutPlay.Sync
