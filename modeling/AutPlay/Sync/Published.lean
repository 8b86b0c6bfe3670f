import AutPlay.Sync.Rebalance

/-!
# What a generic projection publishes

One event for each entry that the write re-keys besides its own (`RowWrite.noticeRows`), then the
event of the projected row itself.  `generic_ok` reads a generic projection as three steps: the
writes, the publications in order, and the tombstone of a deletion.
-/

set_option linter.unusedSectionVars false

namespace AutPlay.Sync
open Result

/-- The other entries that a plan re-keys, as it leaves them. -/
def PositionPlan.noticeRows (plan : PositionPlan) (selfId : Uuid) : List PlaylistEntryRow :=
  (plan.changed.filter (fun r => r.playlistEntryId ≠ selfId)).map (settled plan selfId)

/-- The entries that a write re-keys besides its own. -/
def RowWrite.noticeRows : RowWrite → List PlaylistEntryRow
  | .insertEntry row plan => plan.noticeRows row.playlistEntryId
  | .updateEntry row plan => plan.noticeRows row.playlistEntryId
  | _ => []

/-- The identifiers of the events that a projection publishes: one for each re-keyed entry, and the
one of the event itself. -/
def RowWrite.publishedIds (env : Env) (e : Event) (w : RowWrite) : List Uuid :=
  w.noticeRows.map (fun r => env.uuid5 (rebalanceName e.eventId r)) ++ [e.eventId]

section
variable {env : Env} {db db' : SyncDb} {p : Principal} {e : Event} {now : Int}

theorem publishAll_append {fs gs : List Publication} {userId : Uuid} :
    db.publishAll userId now (fs ++ gs) =
      db.publishAll userId now fs >>= fun db => db.publishAll userId now gs := by
  induction fs generalizing db with
  | nil => rfl
  | cons f fs ih =>
    show (db.publish userId now f >>= fun db => db.publishAll userId now (fs ++ gs)) = _
    show _ = ((db.publish userId now f >>= fun db => db.publishAll userId now fs) >>= _)
    cases db.publish userId now f with
    | error a => rfl
    | ok db₁ => exact ih

theorem publishAll_singleton {f : Publication} {userId : Uuid} :
    db.publishAll userId now [f] = .ok db' ↔ db.publish userId now f = .ok db' := by
  show (db.publish userId now f >>= fun db => .ok db) = .ok db' ↔ _
  cases db.publish userId now f with
  | error a => exact Iff.rfl
  | ok db₁ => exact Iff.rfl

/-- The re-keyed entries are looked up where the plan has left them. -/
theorem notices_eq {plan : PositionPlan} {selfId : Uuid} {t : Table PlaylistEntryRow}
    {f : PlaylistEntryRow → Publication}
    (h : ∀ r ∈ plan.changed, r.playlistEntryId ≠ selfId →
      t.find r.playlistEntryId = some (settled plan selfId r)) :
    (plan.rebalanced selfId).filterMap (fun id => (t.find id).map f) =
      (plan.noticeRows selfId).map f := by
  unfold PositionPlan.rebalanced PositionPlan.noticeRows
  have hl : ∀ l : List PlaylistEntryRow, (∀ r ∈ l, r.playlistEntryId ≠ selfId →
      t.find r.playlistEntryId = some (settled plan selfId r)) →
      ((l.map PlaylistEntryRow.playlistEntryId).filter (· ≠ selfId)).filterMap
          (fun id => (t.find id).map f) =
        ((l.filter (fun r => r.playlistEntryId ≠ selfId)).map (settled plan selfId)).map f := by
    intro l hl
    induction l with
    | nil => rfl
    | cons r l ih =>
      have ih' := ih (fun x hx => hl x (List.mem_cons_of_mem _ hx))
      by_cases hs : r.playlistEntryId = selfId
      · simpa [hs] using ih'
      · have hr := hl r (List.mem_cons_self ..) hs
        simpa [hs, hr] using ih'
  exact hl plan.changed h

/-- The re-keyed entries of a placed entry, after its own row is written. -/
theorem rebalanced_find {playlistId selfId : Uuid} {plan : PositionPlan} {db₁ db₂ : SyncDb}
    (hp : Placed env db.playlistEntries playlistId selfId plan)
    (h₁ : db.rebalance plan selfId = .ok db₁)
    (h₂ : ∀ id, id ≠ selfId → db₂.playlistEntries.find id = db₁.playlistEntries.find id) :
    ∀ r ∈ plan.changed, r.playlistEntryId ≠ selfId →
      db₂.playlistEntries.find r.playlistEntryId = some (settled plan selfId r) := by
  intro r hr hs
  have hm : r ∈ db.playlistEntries := (hp.mem_changed.mp hr).1.1
  rw [h₂ _ hs, (rebalance_find hp h₁).2, show db.playlistEntries.find r.playlistEntryId = some r
    from Table.find_mem hm]
  rfl

theorem insertEntry_find {row : PlaylistEntryRow} (h : db.insertEntry row = .ok db') {id : Uuid}
    (hne : id ≠ row.playlistEntryId) :
    db'.playlistEntries.find id = db.playlistEntries.find id := by
  obtain ⟨-, t, ht, rfl⟩ := SyncDb.insertEntry_ok.mp h
  have hk : ¬ Schema.key row = id := fun hc => hne (Eq.symm hc)
  show t.find id = _
  rw [Table.find_insert ht, if_neg hk]

theorem updateEntry_find {row : PlaylistEntryRow} (h : db.updateEntry row = .ok db') {id : Uuid}
    (hne : id ≠ row.playlistEntryId) :
    db'.playlistEntries.find id = db.playlistEntries.find id := by
  obtain ⟨-, t, ht, rfl⟩ := SyncDb.updateEntry_ok.mp h
  have hk : ¬ Schema.key row = id := fun hc => hne (Eq.symm hc)
  show t.find id = _
  rw [Table.find_update ht, if_neg hk]

/-- The events of the re-keyed entries are about the rows as the write leaves them. -/
theorem publishRebalanced_run {w : RowWrite} (hc : Checked env db p e now w) {g : GenericResult}
    (h : w.run db p = .ok g) :
    publishRebalanced env p e now g.db g.rebalanced =
      g.db.publishAll p.userId now (w.noticeRows.map (rebalancePublication env p e)) := by
  unfold publishRebalanced
  congr 1
  cases hc with
  | deletePlaylistEntry old parent hk ht hf hp hown hl hv =>
    obtain ⟨db₁, h₁, h⟩ := bind_eq_ok.mp h
    obtain ⟨db₂, h₂, h⟩ := bind_eq_ok.mp h
    cases h
    rfl
  | createPlaylistEntry playlist refId ref plan hk hn hb hp hown hr hro hplan =>
    obtain ⟨db₁, h₁, h⟩ := bind_eq_ok.mp h
    obtain ⟨db₂, h₂, h⟩ := bind_eq_ok.mp h
    cases h
    rcases positionPlan_ok hplan with ⟨-, hk'⟩ | ⟨-, hpl⟩
    · simp only [RowWrite.noticeRows]
      rw [hk']
      rfl
    · exact notices_eq (rebalanced_find hpl h₁ (fun id hne => insertEntry_find h₂ hne))
  | movePlaylistEntry old playlist plan hk hf hp hown hv hplan =>
    obtain ⟨db₁, h₁, h⟩ := bind_eq_ok.mp h
    obtain ⟨db₂, h₂, h⟩ := bind_eq_ok.mp h
    cases h
    rcases positionPlan_ok hplan with ⟨-, hk'⟩ | ⟨-, hpl⟩
    · simp only [RowWrite.noticeRows]
      rw [hk']
      rfl
    · have hid : old.playlistEntryId = e.aggregateId := Table.key_of_find hf
      rw [← hid] at hpl
      exact notices_eq (rebalanced_find hpl h₁ (fun id hne => updateEntry_find h₂ hne))
  | createTrackRef new hk hi hb hd hn =>
    obtain ⟨d, -, h⟩ := bind_eq_ok.mp h
    obtain ⟨db₁, -, h⟩ := bind_eq_ok.mp h
    obtain ⟨db₂, -, h⟩ := bind_eq_ok.mp h
    cases h
    rfl
  | deleteTrackRef old hk ht hf hown hv =>
    obtain ⟨db₁, -, h⟩ := bind_eq_ok.mp h
    cases h
    rfl
  | deleteLibraryEntry old hk ht hf hown hv =>
    obtain ⟨db₁, -, h⟩ := bind_eq_ok.mp h
    cases h
    rfl
  | deletePlaylist old hk ht hf hown hv =>
    obtain ⟨db₁, -, h⟩ := bind_eq_ok.mp h
    cases h
    rfl
  | patchTrackRef old title artist album hk hf hown hv =>
    obtain ⟨db₁, -, h⟩ := bind_eq_ok.mp h
    cases h
    rfl
  | createLibraryEntry refId ref source availability hk hn hb hr hf hown =>
    obtain ⟨db₁, -, h⟩ := bind_eq_ok.mp h
    cases h
    rfl
  | updateLibraryEntry old removed hk hf hown hv hr =>
    obtain ⟨db₁, -, h⟩ := bind_eq_ok.mp h
    cases h
    rfl
  | createPreference ref preference excluded hk hr hn hb =>
    obtain ⟨db₁, -, h⟩ := bind_eq_ok.mp h
    cases h
    rfl
  | updatePreference ref old preference excluded hk hr hf hv =>
    obtain ⟨db₁, -, h⟩ := bind_eq_ok.mp h
    cases h
    rfl
  | createPlaylist name description hk hb =>
    obtain ⟨db₁, -, h⟩ := bind_eq_ok.mp h
    cases h
    rfl
  | patchPlaylist old name description hk hf hown hv =>
    obtain ⟨db₁, -, h⟩ := bind_eq_ok.mp h
    cases h
    rfl

/-- What a generic projection publishes, in order. -/
def RowWrite.publications (env : Env) (p : Principal) (e : Event) (w : RowWrite)
    (g : GenericResult) : List Publication :=
  w.noticeRows.map (rebalancePublication env p e) ++ [genericPublication p e g]

theorem map_eventId_publications (w : RowWrite) (g : GenericResult) :
    (w.publications env p e g).map Publication.eventId = w.publishedIds env e := by
  unfold RowWrite.publications RowWrite.publishedIds
  rw [List.map_append, List.map_map]
  rfl

/-- **A generic projection**: its writes, its publications, and the tombstone. -/
theorem generic_ok {w : RowWrite} (hc : Checked env db p e now w) {r : Ack × SyncDb} :
    (savepoint env db p e now w >>= release p e now) = .ok r ↔
      ∃ g db₁, w.run db p = .ok g ∧
        g.db.publishAll p.userId now (w.publications env p e g) = .ok db₁ ∧
        db₁.buryDeleted p e now = .ok r.2 ∧ r.1 = applied e g.rowVersion := by
  constructor
  · intro h
    obtain ⟨g', hs, h⟩ := bind_eq_ok.mp h
    obtain ⟨g, hg, hs⟩ := bind_eq_ok.mp hs
    obtain ⟨db₁, h₁, hs⟩ := bind_eq_ok.mp hs
    cases hs
    obtain ⟨db₂, h₂, h⟩ := bind_eq_ok.mp h
    obtain ⟨db₃, h₃, h⟩ := bind_eq_ok.mp h
    cases h
    rw [publishRebalanced_run hc hg] at h₁
    refine ⟨g, db₂, hg, ?_, h₃, rfl⟩
    unfold RowWrite.publications
    rw [publishAll_append]
    exact bind_eq_ok.mpr ⟨db₁, h₁, publishAll_singleton.mpr h₂⟩
  · rintro ⟨g, db₂, hg, hp, hb, ha⟩
    unfold RowWrite.publications at hp
    rw [publishAll_append] at hp
    obtain ⟨db₁, h₁, h₂⟩ := bind_eq_ok.mp hp
    rw [← publishRebalanced_run hc hg] at h₁
    refine bind_eq_ok.mpr ⟨{ g with db := db₁ },
      bind_eq_ok.mpr ⟨g, hg, bind_eq_ok.mpr ⟨db₁, h₁, rfl⟩⟩, ?_⟩
    refine bind_eq_ok.mpr ⟨db₂, publishAll_singleton.mp h₂, bind_eq_ok.mpr ⟨r.2, hb, ?_⟩⟩
    show Except.ok (applied e g.rowVersion, r.2) = _
    rw [← ha]

end

end AutPlay.Sync
