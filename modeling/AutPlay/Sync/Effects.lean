import AutPlay.Sync.Push
import Mathlib.Tactic.Ring

/-!
# What the writes change

* `SyncDb.*_ok`            each write as the table it replaces;
* `RowsOnly.run`           the writes of a projection touch the tables of rows only;
* `publishAll_ok`          published facts go to the end of the log;
* `SameJournal`            the tables of the journal (devices, cursors, inbox, idempotency) are
                           untouched, as they are by every projection;
* `applyEvent_projected`   a projection answers with a terminal outcome, never with one of the
                           five codes that turn an event away.
-/

set_option linter.unusedSectionVars false

namespace AutPlay.Sync
open Result

/-! ## the writes, one table each -/

namespace SyncDb
variable {db db' : SyncDb}

theorem insertEntry_ok {r : PlaylistEntryRow} :
    db.insertEntry r = .ok db' ↔ db.entryOwnerOk r = true ∧
      ∃ t, db.playlistEntries.insert r = .ok t ∧ db' = { db with playlistEntries := t } := by
  unfold insertEntry
  by_cases h : db.entryOwnerOk r = true
  · simp only [h, if_true, bind_pure_eq_ok, insertInto_ok, true_and]
  · simp [h]

theorem updateEntry_ok {r : PlaylistEntryRow} :
    db.updateEntry r = .ok db' ↔ db.entryOwnerOk r = true ∧
      ∃ t, db.playlistEntries.update r = .ok t ∧ db' = { db with playlistEntries := t } := by
  unfold updateEntry
  by_cases h : db.entryOwnerOk r = true
  · simp only [h, if_true, bind_pure_eq_ok, updateIn_ok, true_and]
  · simp [h]

theorem insertTrackRef_ok {r : UserTrackRefRow} :
    db.insertTrackRef r = .ok db' ↔ r.rawDurationMs.all (0 < ·) = true ∧
      ∃ t, db.trackRefs.insert r = .ok t ∧ db' = { db with trackRefs := t } := by
  unfold insertTrackRef
  by_cases h : r.rawDurationMs.all (0 < ·) = true
  · simp only [h, if_true, bind_pure_eq_ok, insertInto_ok, true_and]
  · simp [h]

theorem updateTrackRef_ok {r : UserTrackRefRow} :
    db.updateTrackRef r = .ok db' ↔
      ∃ t, db.trackRefs.update r = .ok t ∧ db' = { db with trackRefs := t } := by
  unfold updateTrackRef
  simp only [bind_pure_eq_ok, updateIn_ok]

theorem insertLibraryEntry_ok {r : LibraryEntryRow} :
    db.insertLibraryEntry r = .ok db' ↔ db.libraryEntryOwnerOk r = true ∧
      ∃ t, db.libraryEntries.insert r = .ok t ∧ db' = { db with libraryEntries := t } := by
  unfold insertLibraryEntry
  by_cases h : db.libraryEntryOwnerOk r = true
  · simp only [h, if_true, bind_pure_eq_ok, insertInto_ok, true_and]
  · simp [h]

theorem updateLibraryEntry_ok {r : LibraryEntryRow} :
    db.updateLibraryEntry r = .ok db' ↔ db.libraryEntryOwnerOk r = true ∧
      ∃ t, db.libraryEntries.update r = .ok t ∧ db' = { db with libraryEntries := t } := by
  unfold updateLibraryEntry
  by_cases h : db.libraryEntryOwnerOk r = true
  · simp only [h, if_true, bind_pure_eq_ok, updateIn_ok, true_and]
  · simp [h]

theorem insertPreference_ok {r : UserTrackPreferenceRow} :
    db.insertPreference r = .ok db' ↔
      ∃ t, db.preferences.insert r = .ok t ∧ db' = { db with preferences := t } := by
  unfold insertPreference
  simp only [bind_pure_eq_ok, insertInto_ok]

theorem updatePreference_ok {r : UserTrackPreferenceRow} :
    db.updatePreference r = .ok db' ↔
      ∃ t, db.preferences.update r = .ok t ∧ db' = { db with preferences := t } := by
  unfold updatePreference
  simp only [bind_pure_eq_ok, updateIn_ok]

theorem insertPlaylist_ok {r : PlaylistRow} :
    db.insertPlaylist r = .ok db' ↔
      ∃ t, db.playlists.insert r = .ok t ∧ db' = { db with playlists := t } := by
  unfold insertPlaylist
  simp only [bind_pure_eq_ok, insertInto_ok]

theorem updatePlaylist_ok {r : PlaylistRow} :
    db.updatePlaylist r = .ok db' ↔
      ∃ t, db.playlists.update r = .ok t ∧ db' = { db with playlists := t } := by
  unfold updatePlaylist
  simp only [bind_pure_eq_ok, updateIn_ok]

theorem publish_ok {userId : Uuid} {now : Int} {f : Publication} :
    db.publish userId now f = .ok db' ↔
      ∃ t, db.syncEvents.insert (publishedRow userId now db.nextServerSequence f) = .ok t ∧
        db' = { db with syncEvents := t, nextServerSequence := db.nextServerSequence + 1 } := by
  unfold publish
  simp only [bind_pure_eq_ok, insertInto_ok]

/-- The row that `bury` inserts. -/
def buried (p : Principal) (e : Event) (now : Int) : TombstoneRow where
  userId := p.userId
  aggregateType := e.aggregateType
  aggregateId := e.aggregateId
  deletedByEventId := e.eventId
  deletedAt := now
  retainUntil := now + retention

theorem bury_ok {p : Principal} {e : Event} {now : Int} :
    db.bury p e now = .ok db' ↔
      ∃ t, db.tombstones.insert (buried p e now) = .ok t ∧
        db' = { db with tombstones := t } := by
  unfold bury buried
  simp only [bind_pure_eq_ok, insertInto_ok]

end SyncDb

/-! ## what a projection writes -/

/-- `db'` is `db` but for the rows of the library and of the playlists. -/
def RowsOnly (db db' : SyncDb) : Prop :=
  db' = { db with
    trackRefs := db'.trackRefs, libraryEntries := db'.libraryEntries,
    preferences := db'.preferences, playlists := db'.playlists,
    playlistEntries := db'.playlistEntries }

namespace RowsOnly
variable {db db' db'' : SyncDb}

theorem refl (db : SyncDb) : RowsOnly db db := rfl

theorem trans (h : RowsOnly db db') (h' : RowsOnly db' db'') : RowsOnly db db'' := by
  unfold RowsOnly at h h'
  rw [h] at h'
  exact h'

theorem insertEntry {r : PlaylistEntryRow} (h : db.insertEntry r = .ok db') : RowsOnly db db' := by
  obtain ⟨-, t, -, rfl⟩ := SyncDb.insertEntry_ok.mp h
  rfl

theorem updateEntry {r : PlaylistEntryRow} (h : db.updateEntry r = .ok db') : RowsOnly db db' := by
  obtain ⟨-, t, -, rfl⟩ := SyncDb.updateEntry_ok.mp h
  rfl

theorem rekey {id : Uuid} {key : String} (h : db.rekey id key = .ok db') : RowsOnly db db' := by
  unfold SyncDb.rekey at h
  split at h
  · cases h
    exact refl db
  · split at h
    · cases h
      exact refl db
    · exact updateEntry h

theorem rekeyPhase {keys : List (Uuid × String)} (h : db.rekeyPhase keys = .ok db') :
    RowsOnly db db' := by
  induction keys generalizing db with
  | nil =>
    cases h
    exact refl _
  | cons k keys ih =>
    obtain ⟨db₁, h₁, h₂⟩ := bind_eq_ok.mp h
    exact (rekey h₁).trans (ih h₂)

theorem rebalance {plan : PositionPlan} {id : Uuid} (h : db.rebalance plan id = .ok db') :
    RowsOnly db db' := by
  obtain ⟨db₁, h₁, h₂⟩ := bind_eq_ok.mp h
  exact (rekeyPhase h₁).trans (rekeyPhase h₂)

theorem insertLibraryEntry {r : LibraryEntryRow} (h : db.insertLibraryEntry r = .ok db') :
    RowsOnly db db' := by
  obtain ⟨-, t, -, rfl⟩ := SyncDb.insertLibraryEntry_ok.mp h
  rfl

theorem insertNested {p : Principal} {new : NewTrackRef} (h : db.insertNested p new = .ok db') :
    RowsOnly db db' := by
  unfold SyncDb.insertNested at h
  split at h
  · cases h
    exact refl db
  · split at h
    · cases h
      exact refl db
    · exact insertLibraryEntry h

/-- **The writes of a projection touch the five tables of rows only.** -/
theorem run {p : Principal} {w : RowWrite} {g : GenericResult} (h : w.run db p = .ok g) :
    RowsOnly db g.db := by
  cases w with
  | insertTrackRef new =>
    obtain ⟨d, -, h⟩ := bind_eq_ok.mp h
    obtain ⟨db₁, h₁, h⟩ := bind_eq_ok.mp h
    obtain ⟨db₂, h₂, h⟩ := bind_eq_ok.mp h
    cases h
    obtain ⟨-, t, -, rfl⟩ := SyncDb.insertTrackRef_ok.mp h₁
    have hs : RowsOnly _ db₂ := insertNested h₂
    exact hs
  | updateTrackRef row =>
    obtain ⟨db₁, h₁, h⟩ := bind_eq_ok.mp h
    cases h
    obtain ⟨t, -, rfl⟩ := SyncDb.updateTrackRef_ok.mp h₁
    rfl
  | insertLibraryEntry row =>
    obtain ⟨db₁, h₁, h⟩ := bind_eq_ok.mp h
    cases h
    exact insertLibraryEntry h₁
  | updateLibraryEntry row =>
    obtain ⟨db₁, h₁, h⟩ := bind_eq_ok.mp h
    cases h
    obtain ⟨-, t, -, rfl⟩ := SyncDb.updateLibraryEntry_ok.mp h₁
    rfl
  | insertPreference row =>
    obtain ⟨db₁, h₁, h⟩ := bind_eq_ok.mp h
    cases h
    obtain ⟨t, -, rfl⟩ := SyncDb.insertPreference_ok.mp h₁
    rfl
  | updatePreference row =>
    obtain ⟨db₁, h₁, h⟩ := bind_eq_ok.mp h
    cases h
    obtain ⟨t, -, rfl⟩ := SyncDb.updatePreference_ok.mp h₁
    rfl
  | insertPlaylist row =>
    obtain ⟨db₁, h₁, h⟩ := bind_eq_ok.mp h
    cases h
    obtain ⟨t, -, rfl⟩ := SyncDb.insertPlaylist_ok.mp h₁
    rfl
  | updatePlaylist row =>
    obtain ⟨db₁, h₁, h⟩ := bind_eq_ok.mp h
    cases h
    obtain ⟨t, -, rfl⟩ := SyncDb.updatePlaylist_ok.mp h₁
    rfl
  | insertEntry row plan =>
    obtain ⟨db₁, h₁, h⟩ := bind_eq_ok.mp h
    obtain ⟨db₂, h₂, h⟩ := bind_eq_ok.mp h
    cases h
    exact (rebalance h₁).trans (insertEntry h₂)
  | updateEntry row plan =>
    obtain ⟨db₁, h₁, h⟩ := bind_eq_ok.mp h
    obtain ⟨db₂, h₂, h⟩ := bind_eq_ok.mp h
    cases h
    exact (rebalance h₁).trans (updateEntry h₂)

end RowsOnly

/-! ## what is published -/

/-- The rows of several facts, the first one with sequence `next`. -/
def publishedRows (userId : Uuid) (now : Int) : Int → List Publication → List SyncEventRow
  | _, [] => []
  | next, f :: rest => publishedRow userId now next f :: publishedRows userId now (next + 1) rest

section
variable {db db' : SyncDb} {userId : Uuid} {now : Int}

/-- **Publication** of several facts: their identifiers are new and distinct, and their rows go to
the end of the log. -/
theorem publishAll_ok {fs : List Publication} (h : db.publishAll userId now fs = .ok db') :
    ((fs.map Publication.eventId).Nodup ∧ ∀ f ∈ fs, db.syncEvents.find f.eventId = none) ∧
      db' = { db with
        syncEvents := db'.syncEvents, nextServerSequence := db'.nextServerSequence } ∧
      db'.nextServerSequence = db.nextServerSequence + fs.length ∧
      db'.syncEvents.rows =
        db.syncEvents.rows ++ publishedRows userId now db.nextServerSequence fs := by
  induction fs generalizing db with
  | nil =>
    cases h
    exact ⟨⟨List.nodup_nil, fun f hf => (nomatch hf)⟩, rfl, by simp, by simp [publishedRows]⟩
  | cons f fs ih =>
    obtain ⟨db₁, h₁, h₂⟩ := bind_eq_ok.mp h
    obtain ⟨t, ht, rfl⟩ := SyncDb.publish_ok.mp h₁
    obtain ⟨⟨hnd, hfr⟩, he, hn, hr⟩ := ih h₂
    have hfree : ∀ g ∈ fs, f.eventId ≠ g.eventId ∧ db.syncEvents.find g.eventId = none := by
      intro g hg
      have hgt := hfr g hg
      rw [Table.find_insert ht] at hgt
      split at hgt
      · cases hgt
      next hne => exact ⟨hne, hgt⟩
    refine ⟨⟨?_, ?_⟩, he, ?_, ?_⟩
    · rw [List.map_cons, List.nodup_cons]
      refine ⟨fun hm => ?_, hnd⟩
      obtain ⟨g, hg, hge⟩ := List.mem_map.mp hm
      exact (hfree g hg).1 hge.symm
    · intro g hg
      rcases List.mem_cons.mp hg with rfl | hg
      · exact (Table.insert_ok.mp ht).1
      · exact (hfree g hg).2
    · rw [hn, List.length_cons]
      push_cast
      ring
    · rw [hr, (Table.insert_ok.mp ht).2.2, List.append_assoc]
      rfl

end

/-! ## the journal is untouched -/

structure SameJournal (db db' : SyncDb) : Prop where
  devices : db'.devices = db.devices
  cursors : db'.cursors = db.cursors
  inbox : db'.inbox = db.inbox
  idempotency : db'.idempotency = db.idempotency

namespace SameJournal
variable {db db' db'' : SyncDb}

theorem refl (db : SyncDb) : SameJournal db db := ⟨rfl, rfl, rfl, rfl⟩

theorem trans (h : SameJournal db db') (h' : SameJournal db' db'') : SameJournal db db'' :=
  ⟨h'.devices.trans h.devices, h'.cursors.trans h.cursors, h'.inbox.trans h.inbox,
    h'.idempotency.trans h.idempotency⟩

theorem of_rowsOnly (h : RowsOnly db db') : SameJournal db db' := by
  rw [h]
  exact ⟨rfl, rfl, rfl, rfl⟩

theorem publishAll {userId : Uuid} {now : Int} {fs : List Publication}
    (h : db.publishAll userId now fs = .ok db') : SameJournal db db' := by
  rw [(publishAll_ok h).2.1]
  exact ⟨rfl, rfl, rfl, rfl⟩

theorem publish {userId : Uuid} {now : Int} {f : Publication}
    (h : db.publish userId now f = .ok db') : SameJournal db db' := by
  obtain ⟨t, -, rfl⟩ := SyncDb.publish_ok.mp h
  exact ⟨rfl, rfl, rfl, rfl⟩

theorem bury {p : Principal} {e : Event} {now : Int} (h : db.bury p e now = .ok db') :
    SameJournal db db' := by
  obtain ⟨t, -, rfl⟩ := SyncDb.bury_ok.mp h
  exact ⟨rfl, rfl, rfl, rfl⟩

theorem insertListening {p : Principal} {e : Event} {l : Listening} {a : Option Attribution}
    (h : db.insertListening p e l a = .ok db') : SameJournal db db' := by
  obtain ⟨played, -, h⟩ := bind_eq_ok.mp h
  obtain ⟨duration, -, h⟩ := bind_eq_ok.mp h
  obtain ⟨ratio, -, h⟩ := bind_eq_ok.mp h
  split at h
  · obtain ⟨t, -, rfl⟩ := bind_pure_eq_ok.mp h
    exact ⟨rfl, rfl, rfl, rfl⟩
  · cases h

theorem interaction {p : Principal} {e : Event} {w : InteractionWrite}
    (h : w.run db p e = .ok db') : SameJournal db db' := by
  cases w with
  | listening l a => exact insertListening h
  | interaction row =>
    obtain ⟨t, -, rfl⟩ := bind_pure_eq_ok.mp h
    exact ⟨rfl, rfl, rfl, rfl⟩

end SameJournal

/-! ## the answers of a projection -/

/-- The five codes that turn an event away before it is recorded. -/
def RejectCode.unrecorded : RejectCode → Bool
  | .journalResetRequired => true
  | .eventHashMismatch => true
  | .deviceSequenceReuse => true
  | .idempotencyKeyReuse => true
  | .deviceSequenceGap => true
  | _ => false

/-- The acknowledgements that a projection answers an event with. -/
inductive Answer (e : Event) (requestId : Uuid) : Ack → Prop
  | applied (version : Int) : Answer e requestId (applied e version)
  | conflicted : Answer e requestId (conflicted e)
  | rejected (code : RejectCode) (h : code.unrecorded = false) :
      Answer e requestId (rejected e code requestId false)

theorem Answer.outcome {e : Event} {requestId : Uuid} {ack : Ack} (h : Answer e requestId ack) :
    ack.outcome.Terminal := by
  cases h with
  | applied version => exact Or.inl rfl
  | conflicted => exact Or.inr (Or.inl rfl)
  | rejected code h => exact Or.inr (Or.inr rfl)

/-- What a projection leaves behind: an answer, and an untouched journal. -/
structure Projected (e : Event) (requestId : Uuid) (db : SyncDb) (r : Ack × SyncDb) : Prop where
  answer : Answer e requestId r.1
  journal : SameJournal db r.2

section
variable {env : Env} {db : SyncDb} {p : Principal} {e : Event} {now : Int} {requestId : Uuid}
  {r : Ack × SyncDb}

theorem projected_reject {code : RejectCode} (hc : code.unrecorded = false)
    (h : (.ok (rejected e code requestId false, db) : Except Abort (Ack × SyncDb)) = .ok r) :
    Projected e requestId db r := by
  cases h
  exact ⟨.rejected code hc, .refl db⟩

theorem savepoint_journal {w : RowWrite} {g : GenericResult}
    (h : savepoint env db p e now w = .ok g) : SameJournal db g.db := by
  obtain ⟨g₁, h₁, h⟩ := bind_eq_ok.mp h
  obtain ⟨db₂, h₂, h⟩ := bind_eq_ok.mp h
  cases h
  exact (SameJournal.of_rowsOnly (.run h₁)).trans (SameJournal.publishAll h₂)

theorem release_journal {g : GenericResult} (h : release p e now g = .ok r) :
    r.1 = applied e g.rowVersion ∧ SameJournal g.db r.2 := by
  obtain ⟨db₁, h₁, h⟩ := bind_eq_ok.mp h
  obtain ⟨db₂, h₂, h⟩ := bind_eq_ok.mp h
  cases h
  refine ⟨rfl, (SameJournal.publish h₁).trans ?_⟩
  unfold SyncDb.buryDeleted at h₂
  split at h₂
  · exact SameJournal.bury h₂
  · cases h₂
    exact .refl db₁

theorem applyGeneric_projected (h : applyGeneric env db p e now requestId = .ok r) :
    Projected e requestId db r := by
  unfold applyGeneric at h
  split at h
  · exact projected_reject rfl h
  · split at h
    · cases h
      exact ⟨.conflicted, .refl db⟩
    · exact projected_reject rfl h
    · obtain ⟨g, hs, h⟩ := bind_eq_ok.mp h
      obtain ⟨ha, hj⟩ := release_journal h
      exact ⟨ha ▸ .applied g.rowVersion, (savepoint_journal hs).trans hj⟩

/-- The checks of an interaction answer with none of the five codes. -/
theorem interactionChecks_unrecorded {code : RejectCode}
    (h : interactionChecks env db p e = .error code) : code.unrecorded = false := by
  have hl : ∀ a, listeningChecks env db p e a = .error code → code.unrecorded = false := by
    intro a h
    unfold listeningChecks at h
    split at h <;> cases h
    rfl
  have hi : ∀ r a, impressionChecks db p e r a = .error code → code.unrecorded = false := by
    intro r a h
    unfold impressionChecks at h
    split at h
    · cases h
      rfl
    · split at h <;> cases h
      rfl
  have hf : ∀ a, feedbackChecks db p e a = .error code → code.unrecorded = false := by
    intro a h
    unfold feedbackChecks at h
    split at h
    · cases h
      rfl
    · split at h
      · cases h
        rfl
      · split at h
        · cases h
          rfl
        · split at h <;> cases h
          rfl
  have ha : ∀ r a, attributedChecks env db p e r a = .error code → code.unrecorded = false := by
    intro r a h
    unfold attributedChecks at h
    split at h
    · exact hl a h
    · split at h
      · exact hi r a h
      · exact hf a h
  unfold interactionChecks at h
  split at h
  · cases h
    rfl
  · split at h
    · cases h
      rfl
    · split at h
      · exact ha _ _ h
      · split at h
        · cases h
          rfl
        · cases h
          rfl
        · exact ha _ _ h
      · cases h
        rfl

theorem applyInteraction_projected (h : applyInteraction env db p e now requestId = .ok r) :
    Projected e requestId db r := by
  unfold applyInteraction at h
  cases hc : interactionChecks env db p e with
  | error code =>
    rw [hc] at h
    exact projected_reject (interactionChecks_unrecorded hc) h
  | ok w =>
    rw [hc] at h
    obtain ⟨db₁, h₁, h⟩ := bind_eq_ok.mp h
    obtain ⟨db₂, h₂, h⟩ := bind_eq_ok.mp h
    cases h
    exact ⟨.applied 1, (SameJournal.interaction h₁).trans (SameJournal.publish h₂)⟩

/-- **A projection answers the event and leaves the journal alone.** -/
theorem applyEvent_projected (h : applyEvent env db p e now requestId = .ok r) :
    Projected e requestId db r := by
  unfold applyEvent at h
  split at h
  · exact projected_reject rfl h
  · split at h
    · exact applyInteraction_projected h
    · split at h
      · exact applyGeneric_projected h
      · exact projected_reject rfl h

end

end AutPlay.Sync
