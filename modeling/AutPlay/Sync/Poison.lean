import AutPlay.Sync.Owners
import AutPlay.Sync.Log

/-!
# Poison events

An event that is next in its journal is accepted unless the database refuses one of the writes its
checks lead to; then the transaction aborts, and since nothing has changed it aborts again on every
retry.  `Admissible` says of an event and a database exactly when no write is refused:

* `Writable`         the projection finds its keys and indexes free;
* `Publishable`      the identifiers of the published events and of the tombstone are free;
* `Bindable`         the columns of the inbox store the envelope.

`pushOne_admissible_iff`: in every reachable database, the next event of a journal is acknowledged
and recorded if and only if it is admissible.
-/

set_option linter.unusedSectionVars false

namespace AutPlay.Sync
open Result

/-! ## the conditions -/

/-- An integer that a `bigint` column with the check `> 0` stores. -/
def PositiveBigint (n : PyInt) : Prop := ∃ i, n = .int i ∧ 0 < i ∧ i ≤ 9223372036854775807

/-- No other active library entry of the user is on the same track reference. -/
def LibraryFree (db : SyncDb) (row : LibraryEntryRow) : Prop :=
  ∀ x ∈ db.libraryEntries, x.libraryEntryId ≠ row.libraryEntryId → x.removedAt = none →
    ¬ (x.userId = row.userId ∧ x.userTrackRefId = row.userTrackRefId)

/-- No other active entry of the playlist holds the key of the row. -/
def PositionFree (db : SyncDb) (row : PlaylistEntryRow) : Prop :=
  ∀ x ∈ db.playlistEntries, x.playlistEntryId ≠ row.playlistEntryId →
    ActiveIn row.playlistId x → x.positionKey ≠ row.positionKey

/-- The writes of a projection find their keys and indexes free. -/
def Writable (db : SyncDb) (e : Event) : RowWrite → Prop
  | .insertTrackRef new =>
    (∀ n, new.duration = some n → PositiveBigint n) ∧ db.trackRefs.find new.id = none
  | .insertLibraryEntry row => LibraryFree db row
  | .updateLibraryEntry row => row.removedAt = none → LibraryFree db row
  | .insertPlaylist row => db.playlists.find row.playlistId = none
  | .insertEntry row plan =>
    ¬ TemporaryClash plan ∧ (e.payload.get "position_key" ≠ none → PositionFree db row)
  | .updateEntry row plan =>
    ¬ TemporaryClash plan ∧
      (e.payload.get "position_key" ≠ none → row.removedAt = none → PositionFree db row)
  | _ => True

/-- The identifiers of what a projection publishes are free. -/
structure Publishable (env : Env) (db : SyncDb) (p : Principal) (e : Event) (w : RowWrite) :
    Prop where
  distinct : (w.publishedIds env e).Nodup
  fresh : ∀ id ∈ w.publishedIds env e, db.syncEvents.find id = none
  tombstone : e.eventType = .aggregateDeleted →
    db.tombstones.find (p.userId, e.aggregateType, e.aggregateId) = none

/-- The writes of an interaction are stored. -/
def InteractionWritable (db : SyncDb) (e : Event) : InteractionWrite → Prop
  | .listening l _ =>
    (∃ i, l.played.toBigint = .ok i) ∧ (∀ n, l.duration = some n → ∃ i, n.toBigint = .ok i) ∧
      (∀ n, l.ratio = some n → ∃ q, toNumeric n = .ok q) ∧
      (∀ id, l.recording = some id → id ∈ db.recordings) ∧
      db.listeningEvents.find e.eventId = none
  | .interaction row => db.interactions.find row.interactionId = none

/-- The three kinds of interaction. -/
def Event.isInteraction (e : Event) : Prop :=
  e.eventType = .listeningEventRecorded ∨ e.eventType = .recommendationImpressionRecorded ∨
    e.eventType = .recommendationFeedbackRecorded

/-- The kinds of generic event. -/
def Event.isGeneric (e : Event) : Prop :=
  ((genericEventTypes.lookup e.eventType).isSome ∨ e.eventType = .aggregateDeleted) ∧
    aggregateTypeOk e = true

/-- The projection of an event is refused by its checks, or its writes go through. -/
structure Projectable (env : Env) (db : SyncDb) (p : Principal) (e : Event) (now : Int) :
    Prop where
  interaction : e.schemaVersion.val = 1 → e.isInteraction →
    ∀ w, interactionChecks env db p e = .ok w →
      InteractionWritable db e w ∧ db.syncEvents.find e.eventId = none
  generic : e.schemaVersion.val = 1 → ¬ e.isInteraction → e.isGeneric →
    ∀ w, genericChecks env db p e now = .ok w → Writable db e w ∧ Publishable env db p e w

/-- The columns of the inbox store the envelope. -/
structure Bindable (e : Event) : Prop where
  text : e.storable = true
  sequence : ∃ i, e.deviceSequence.toBigint = .ok i
  schema : ∃ i, e.schemaVersion.toInteger = .ok i
  base : ∀ n, e.baseVersion = some n → ∃ i, n.toBigint = .ok i

/-- **No write of the event is refused.** -/
structure Admissible (env : Env) (db : SyncDb) (p : Principal) (e : Event) (now : Int) :
    Prop where
  bindable : Bindable e
  projectable : Projectable env db p e now

/-! ## the writes of a generic projection -/

theorem mapM_ok_iff {ε α β : Type} {f : α → Except ε β} {o : Option α} :
    (∃ b, o.mapM f = .ok b) ↔ ∀ a, o = some a → ∃ b, f a = .ok b := by
  cases o with
  | none => exact ⟨fun _ a h => (nomatch h), fun _ => ⟨none, rfl⟩⟩
  | some a =>
    refine ⟨fun ⟨b, h⟩ a' ha => ?_, fun h => ?_⟩
    · cases ha
      cases hf : f a with
      | ok c => exact ⟨c, rfl⟩
      | error e =>
        have : (some a).mapM f = .error e := by
          show (do let b ← f a; pure (some b)) = _
          rw [hf]
          rfl
        rw [this] at h
        cases h
    · obtain ⟨b, hb⟩ := h a rfl
      refine ⟨some b, ?_⟩
      show (do let b ← f a; pure (some b)) = _
      rw [hb]
      rfl

section
variable {env : Env} {db : SyncDb} {p : Principal} {e : Event} {now : Int}

theorem libraryTaken_iff {row : LibraryEntryRow} :
    ¬ db.libraryEntries.IndexTaken row ↔ (row.removedAt = none → LibraryFree db row) := by
  unfold Table.IndexTaken LibraryFree
  simp only [Schema.key, Schema.index]
  constructor
  · intro h hr x hx hk hxr hsame
    refine h ⟨x, hx, hk, ?_, ?_⟩
    · rw [if_pos hr]
      simp
    · rw [if_pos hr, if_pos hxr, hsame.1, hsame.2]
  · rintro h ⟨x, hx, hk, hn, hi⟩
    by_cases hr : row.removedAt = none
    · rw [if_pos hr] at hi
      split at hi
      next hxr =>
        injection hi with hi
        injection hi with h₁ h₂
        exact h hr x hx hk hxr ⟨h₁, h₂⟩
      next => cases hi
    · rw [if_neg hr] at hn
      exact hn rfl

theorem positionTaken_iff {row : PlaylistEntryRow} :
    ¬ db.playlistEntries.IndexTaken row ↔ (row.removedAt = none → PositionFree db row) := by
  rw [indexTaken_iff]
  unfold PositionFree
  constructor
  · intro h hr x hx hk ha hkey
    exact h ⟨hr, x, hx, hk, ha, hkey⟩
  · rintro h ⟨hr, x, hx, hk, ha, hkey⟩
    exact h hr x hx hk ha hkey

theorem insertLibraryEntry_isOk {row : LibraryEntryRow} (ho : db.libraryEntryOwnerOk row = true) :
    (∃ db', db.insertLibraryEntry row = .ok db') ↔
      db.libraryEntries.find row.libraryEntryId = none ∧ ¬ db.libraryEntries.IndexTaken row := by
  rw [show db.libraryEntries.find row.libraryEntryId =
    db.libraryEntries.find (Schema.key row) from rfl, ← Table.insert_isOk]
  constructor
  · rintro ⟨db', h⟩
    obtain ⟨-, t, ht, -⟩ := SyncDb.insertLibraryEntry_ok.mp h
    exact ⟨t, ht⟩
  · rintro ⟨t, ht⟩
    exact ⟨_, SyncDb.insertLibraryEntry_ok.mpr ⟨ho, t, ht, rfl⟩⟩

theorem updateLibraryEntry_isOk {row : LibraryEntryRow} (ho : db.libraryEntryOwnerOk row = true) :
    (∃ db', db.updateLibraryEntry row = .ok db') ↔ ¬ db.libraryEntries.IndexTaken row := by
  rw [← Table.update_isOk]
  constructor
  · rintro ⟨db', h⟩
    obtain ⟨-, t, ht, -⟩ := SyncDb.updateLibraryEntry_ok.mp h
    exact ⟨t, ht⟩
  · rintro ⟨t, ht⟩
    exact ⟨_, SyncDb.updateLibraryEntry_ok.mpr ⟨ho, t, ht, rfl⟩⟩

theorem insertEntry_isOk {row : PlaylistEntryRow} (ho : db.entryOwnerOk row = true) :
    (∃ db', db.insertEntry row = .ok db') ↔
      db.playlistEntries.find row.playlistEntryId = none ∧
        ¬ db.playlistEntries.IndexTaken row := by
  rw [show db.playlistEntries.find row.playlistEntryId =
    db.playlistEntries.find (Schema.key row) from rfl, ← Table.insert_isOk]
  constructor
  · rintro ⟨db', h⟩
    obtain ⟨-, t, ht, -⟩ := SyncDb.insertEntry_ok.mp h
    exact ⟨t, ht⟩
  · rintro ⟨t, ht⟩
    exact ⟨_, SyncDb.insertEntry_ok.mpr ⟨ho, t, ht, rfl⟩⟩

theorem updateEntry_isOk {row : PlaylistEntryRow} (ho : db.entryOwnerOk row = true) :
    (∃ db', db.updateEntry row = .ok db') ↔ ¬ db.playlistEntries.IndexTaken row := by
  rw [← Table.update_isOk]
  constructor
  · rintro ⟨db', h⟩
    obtain ⟨-, t, ht, -⟩ := SyncDb.updateEntry_ok.mp h
    exact ⟨t, ht⟩
  · rintro ⟨t, ht⟩
    exact ⟨_, SyncDb.updateEntry_ok.mpr ⟨ho, t, ht, rfl⟩⟩

theorem positiveBigint_iff {d : Option PyInt} :
    (∃ m, d.mapM PyInt.toBigint = .ok m ∧ m.all (0 < ·) = true) ↔
      ∀ n, d = some n → PositiveBigint n := by
  cases d with
  | none => exact ⟨fun _ n h => (nomatch h), fun _ => ⟨none, rfl, rfl⟩⟩
  | some n =>
    have hm : (some n).mapM PyInt.toBigint = n.toBigint >>= fun i => pure (some i) := rfl
    rw [hm]
    constructor
    · rintro ⟨m, h, hpos⟩ n' hn
      cases hn
      obtain ⟨i, hi, rfl⟩ := bind_pure_eq_ok.mp h
      obtain ⟨rfl, -, hle⟩ := PyInt.toBigint_ok.mp hi
      exact ⟨i, rfl, by simpa using hpos, hle⟩
    · intro h
      obtain ⟨i, rfl, hpos, hle⟩ := h n rfl
      refine ⟨some i, ?_, by simpa using hpos⟩
      rw [PyInt.toBigint_ok.mpr ⟨rfl, by omega, hle⟩]
      rfl

/-- The library entry nested in a new track reference is the only one on it. -/
theorem insertNested_isOk (ho : OwnersAgree db) {new : NewTrackRef} {durationMs : Option Int}
    {db₁ : SyncDb} (h : db.insertTrackRef (new.row p durationMs) = .ok db₁) :
    ∃ db₂, db₁.insertNested p new = .ok db₂ := by
  unfold SyncDb.insertNested
  cases hn : new.nestedEntryId with
  | none => exact ⟨db₁, rfl⟩
  | some entryId =>
    by_cases hs : (db₁.libraryEntries.find entryId).isSome
    · exact ⟨db₁, by simp [hs]⟩
    · simp only [hs]
      obtain ⟨-, t, ht, rfl⟩ := SyncDb.insertTrackRef_ok.mp h
      have hnew : t.find new.id = some (new.row p durationMs) := by
        rw [Table.find_insert ht]
        exact if_pos rfl
      refine (insertLibraryEntry_isOk (libraryEntryOwnerOk_iff.mpr ⟨_, hnew, rfl⟩)).mpr
        ⟨Option.not_isSome_iff_eq_none.mp hs, libraryTaken_iff.mpr ?_⟩
      -- an entry on the new reference would have referred to a row that was not there
      intro _ x hx _ _ hsame
      obtain ⟨ref, hf, -⟩ := libraryEntryOwnerOk_iff.mp (ho.library x hx)
      have hfree : db.trackRefs.find new.id = none := (Table.insert_ok.mp ht).1
      rw [hsame.2] at hf
      rw [show (new.entryRow p entryId).userTrackRefId = new.id from rfl, hfree] at hf
      cases hf

theorem run_insertEntry_isOk (ho : OwnersAgree db) {row : PlaylistEntryRow} {plan : PositionPlan}
    (hn : db.playlistEntries.find row.playlistEntryId = none)
    (hok : db.entryOwnerOk row = true) (hact : row.removedAt = none)
    (hkey : row.positionKey = plan.positionKey)
    (hplan : positionPlan env db.playlistEntries row.playlistId e.payload row.playlistEntryId =
      .ok plan) :
    (∃ g, (RowWrite.insertEntry row plan).run db p = .ok g) ↔
      Writable db e (.insertEntry row plan) := by
  have hrun : (∃ g, (RowWrite.insertEntry row plan).run db p = .ok g) ↔
      ∃ db₁, db.rebalance plan row.playlistEntryId = .ok db₁ ∧ ∃ db₂, db₁.insertEntry row = .ok db₂ := by
    constructor
    · rintro ⟨g, h⟩
      obtain ⟨db₁, h₁, h⟩ := bind_eq_ok.mp h
      obtain ⟨db₂, h₂, h⟩ := bind_eq_ok.mp h
      exact ⟨db₁, h₁, db₂, h₂⟩
    · rintro ⟨db₁, h₁, db₂, h₂⟩
      exact ⟨_, bind_eq_ok.mpr ⟨db₁, h₁, bind_eq_ok.mpr ⟨db₂, h₂, rfl⟩⟩⟩
  rw [hrun]
  show _ ↔ ¬ TemporaryClash plan ∧ (e.payload.get "position_key" ≠ none → PositionFree db row)
  rcases positionPlan_ok hplan with ⟨hs, hk⟩ | ⟨hs, hp⟩
  · -- the key was sent
    rw [hk, ← hkey]
    constructor
    · rintro ⟨db₁, h₁, hi⟩
      cases h₁
      refine ⟨?_, fun _ => positionTaken_iff.mp ((insertEntry_isOk hok).mp hi).2 hact⟩
      rintro ⟨x, hx, -⟩
      cases hx
    · rintro ⟨-, hf⟩
      exact ⟨db, rfl, (insertEntry_isOk hok).mpr ⟨hn, positionTaken_iff.mpr fun _ => hf hs⟩⟩
  · rw [← rebalance_isOk hp ho.entries]
    constructor
    · rintro ⟨db₁, h₁, -⟩
      exact ⟨⟨db₁, h₁⟩, fun hc => absurd hs hc⟩
    · rintro ⟨⟨db₁, h₁⟩, -⟩
      obtain ⟨he, hf⟩ := rebalance_find hp h₁
      refine ⟨db₁, h₁, (insertEntry_isOk ?_).mpr ⟨?_, placed_free hp h₁ rfl rfl hkey⟩⟩
      · rw [he]
        exact hok
      · rw [hf, hn]
        rfl

theorem run_updateEntry_isOk (env : Env) (ho : OwnersAgree db) {row : PlaylistEntryRow} {plan : PositionPlan}
    (hok : db.entryOwnerOk row = true)
    (hplan : plan = .keep row.positionKey ∧
        (row.removedAt = none → e.payload.get "position_key" ≠ none) ∨
      (e.payload.get "position_key" = none ∧ row.positionKey = plan.positionKey ∧
        Placed env db.playlistEntries row.playlistId row.playlistEntryId plan)) :
    (∃ g, (RowWrite.updateEntry row plan).run db p = .ok g) ↔
      Writable db e (.updateEntry row plan) := by
  have hrun : (∃ g, (RowWrite.updateEntry row plan).run db p = .ok g) ↔
      ∃ db₁, db.rebalance plan row.playlistEntryId = .ok db₁ ∧ ∃ db₂, db₁.updateEntry { row with
        rowVersion := ((db₁.playlistEntries.find row.playlistEntryId).getD row).rowVersion + 1 } =
          .ok db₂ := by
    constructor
    · rintro ⟨g, h⟩
      obtain ⟨db₁, h₁, h⟩ := bind_eq_ok.mp h
      obtain ⟨db₂, h₂, h⟩ := bind_eq_ok.mp h
      exact ⟨db₁, h₁, db₂, h₂⟩
    · rintro ⟨db₁, h₁, db₂, h₂⟩
      exact ⟨_, bind_eq_ok.mpr ⟨db₁, h₁, bind_eq_ok.mpr ⟨db₂, h₂, rfl⟩⟩⟩
  rw [hrun]
  show _ ↔ ¬ TemporaryClash plan ∧
    (e.payload.get "position_key" ≠ none → row.removedAt = none → PositionFree db row)
  rcases hplan with ⟨hk, hs⟩ | ⟨hs, hkey, hp⟩
  · rw [hk]
    have hfree : ∀ v, ¬ db.playlistEntries.IndexTaken { row with rowVersion := v } ↔
        (row.removedAt = none → PositionFree db row) := fun v => positionTaken_iff
    constructor
    · rintro ⟨db₁, h₁, hi⟩
      cases h₁
      refine ⟨?_, fun _ => (hfree _).mp ((updateEntry_isOk ?_).mp hi)⟩
      · rintro ⟨x, hx, -⟩
        cases hx
      · exact hok
    · rintro ⟨-, hf⟩
      refine ⟨db, rfl, (updateEntry_isOk ?_).mpr ((hfree _).mpr fun hr => hf (hs hr) hr)⟩
      exact hok
  · rw [← rebalance_isOk hp ho.entries]
    constructor
    · rintro ⟨db₁, h₁, -⟩
      exact ⟨⟨db₁, h₁⟩, fun hc => absurd hs hc⟩
    · rintro ⟨⟨db₁, h₁⟩, -⟩
      refine ⟨db₁, h₁, (updateEntry_isOk ?_).mpr (placed_free hp h₁ rfl rfl hkey)⟩
      rw [(rebalance_find hp h₁).1]
      exact hok

/-- **The writes of a projection** go through exactly when they are writable. -/
theorem run_isOk (ho : OwnersAgree db) {w : RowWrite} (hc : Checked env db p e now w) :
    (∃ g, w.run db p = .ok g) ↔ Writable db e w := by
  cases hc with
  | deleteTrackRef old hk ht hf hown hv =>
    refine ⟨fun _ => trivial, fun _ => ?_⟩
    obtain ⟨t, ht⟩ := Table.update_unindexed db.trackRefs
      { old with deletedAt := some now, rowVersion := old.rowVersion + 1 }
    exact ⟨_, bind_eq_ok.mpr ⟨_, SyncDb.updateTrackRef_ok.mpr ⟨t, ht, rfl⟩, rfl⟩⟩
  | deleteLibraryEntry old hk ht hf hown hv =>
    refine ⟨fun _ hr => (nomatch hr), fun h => ?_⟩
    have howner : db.libraryEntryOwnerOk
        { old with removedAt := some now, rowVersion := old.rowVersion + 1 } = true :=
      ho.library old (Table.mem_of_find hf)
    obtain ⟨db₁, h₁⟩ := (updateLibraryEntry_isOk howner).mpr (libraryTaken_iff.mpr h)
    exact ⟨_, bind_eq_ok.mpr ⟨db₁, h₁, rfl⟩⟩
  | deletePlaylist old hk ht hf hown hv =>
    refine ⟨fun _ => trivial, fun _ => ?_⟩
    obtain ⟨t, ht⟩ := Table.update_unindexed db.playlists
      { old with deletedAt := some now, rowVersion := old.rowVersion + 1 }
    exact ⟨_, bind_eq_ok.mpr ⟨_, SyncDb.updatePlaylist_ok.mpr ⟨t, ht, rfl⟩, rfl⟩⟩
  | deletePlaylistEntry old parent hk ht hf hp hown hl hv =>
    exact run_updateEntry_isOk env ho (ho.entries old (Table.mem_of_find hf))
      (Or.inl ⟨rfl, fun hr => (nomatch hr)⟩)
  | createTrackRef new hk hi hb hd hn =>
    constructor
    · rintro ⟨g, h⟩
      obtain ⟨m, hm, h⟩ := bind_eq_ok.mp h
      obtain ⟨db₁, h₁, -⟩ := bind_eq_ok.mp h
      obtain ⟨hpos, t, ht, -⟩ := SyncDb.insertTrackRef_ok.mp h₁
      exact ⟨positiveBigint_iff.mp ⟨m, hm, hpos⟩, (Table.insert_ok.mp ht).1⟩
    · rintro ⟨hpos, hfree⟩
      obtain ⟨m, hm, hall⟩ := positiveBigint_iff.mpr hpos
      obtain ⟨t, ht⟩ := (Table.insert_unindexed db.trackRefs (new.row p m)).mpr hfree
      have h₁ : db.insertTrackRef (new.row p m) = .ok { db with trackRefs := t } :=
        SyncDb.insertTrackRef_ok.mpr ⟨hall, t, ht, rfl⟩
      obtain ⟨db₂, h₂⟩ := insertNested_isOk ho h₁
      exact ⟨_, bind_eq_ok.mpr ⟨m, hm, bind_eq_ok.mpr ⟨_, h₁, bind_eq_ok.mpr ⟨db₂, h₂, rfl⟩⟩⟩⟩
  | patchTrackRef old title artist album hk hf hown hv =>
    refine ⟨fun _ => trivial, fun _ => ?_⟩
    obtain ⟨t, ht⟩ := Table.update_unindexed db.trackRefs { old with
      rawTitle := title, rawArtist := artist, rawAlbum := album, rowVersion := old.rowVersion + 1 }
    exact ⟨_, bind_eq_ok.mpr ⟨_, SyncDb.updateTrackRef_ok.mpr ⟨t, ht, rfl⟩, rfl⟩⟩
  | createLibraryEntry refId ref source availability hk hn hb hr hf hown =>
    have hid : ref.userTrackRefId = refId := Table.key_of_find hf
    have howner : db.libraryEntryOwnerOk
        { libraryEntryId := e.aggregateId, userId := p.userId,
          userTrackRefId := ref.userTrackRefId, source := source,
          availabilityStatus := availability, removedAt := none, rowVersion := 1 } = true :=
      libraryEntryOwnerOk_iff.mpr ⟨ref, by rw [hid]; exact hf, hown⟩
    constructor
    · rintro ⟨g, h⟩
      obtain ⟨db₁, h₁, -⟩ := bind_eq_ok.mp h
      exact libraryTaken_iff.mp ((insertLibraryEntry_isOk howner).mp ⟨db₁, h₁⟩).2 rfl
    · intro h
      obtain ⟨db₁, h₁⟩ := (insertLibraryEntry_isOk howner).mpr
        ⟨hn, libraryTaken_iff.mpr fun _ => h⟩
      exact ⟨_, bind_eq_ok.mpr ⟨db₁, h₁, rfl⟩⟩
  | updateLibraryEntry old removed hk hf hown hv hr =>
    have howner : db.libraryEntryOwnerOk
        { old with removedAt := removed, rowVersion := old.rowVersion + 1 } = true :=
      ho.library old (Table.mem_of_find hf)
    constructor
    · rintro ⟨g, h⟩
      obtain ⟨db₁, h₁, -⟩ := bind_eq_ok.mp h
      exact libraryTaken_iff.mp ((updateLibraryEntry_isOk howner).mp ⟨db₁, h₁⟩)
    · intro h
      obtain ⟨db₁, h₁⟩ := (updateLibraryEntry_isOk howner).mpr (libraryTaken_iff.mpr h)
      exact ⟨_, bind_eq_ok.mpr ⟨db₁, h₁, rfl⟩⟩
  | createPreference ref preference excluded hk hr hn hb =>
    refine ⟨fun _ => trivial, fun _ => ?_⟩
    obtain ⟨t, ht⟩ := (Table.insert_unindexed db.preferences
      { userTrackRefId := ref.userTrackRefId, preference := preference,
        excludedFromTaste := excluded, rowVersion := 1 }).mpr hn
    exact ⟨_, bind_eq_ok.mpr ⟨_, SyncDb.insertPreference_ok.mpr ⟨t, ht, rfl⟩, rfl⟩⟩
  | updatePreference ref old preference excluded hk hr hf hv =>
    refine ⟨fun _ => trivial, fun _ => ?_⟩
    obtain ⟨t, ht⟩ := Table.update_unindexed db.preferences { old with
      preference := preference, excludedFromTaste := excluded, rowVersion := old.rowVersion + 1 }
    exact ⟨_, bind_eq_ok.mpr ⟨_, SyncDb.updatePreference_ok.mpr ⟨t, ht, rfl⟩, rfl⟩⟩
  | createPlaylist name description hk hb =>
    constructor
    · rintro ⟨g, h⟩
      obtain ⟨db₁, h₁, -⟩ := bind_eq_ok.mp h
      obtain ⟨t, ht, -⟩ := SyncDb.insertPlaylist_ok.mp h₁
      exact (Table.insert_ok.mp ht).1
    · intro h
      obtain ⟨t, ht⟩ := (Table.insert_unindexed db.playlists
        { playlistId := e.aggregateId, ownerUserId := p.userId, name := name,
          description := description, visibility := .privateList, playlistType := .manual,
          deletedAt := none, rowVersion := 1 }).mpr h
      exact ⟨_, bind_eq_ok.mpr ⟨_, SyncDb.insertPlaylist_ok.mpr ⟨t, ht, rfl⟩, rfl⟩⟩
  | patchPlaylist old name description hk hf hown hv =>
    refine ⟨fun _ => trivial, fun _ => ?_⟩
    obtain ⟨t, ht⟩ := Table.update_unindexed db.playlists { old with
      name := name, description := description, rowVersion := old.rowVersion + 1 }
    exact ⟨_, bind_eq_ok.mpr ⟨_, SyncDb.updatePlaylist_ok.mpr ⟨t, ht, rfl⟩, rfl⟩⟩
  | createPlaylistEntry playlist refId ref plan hk hn hb hp hown hr hro hplan =>
    refine run_insertEntry_isOk ho hn ?_ rfl rfl hplan
    exact entryOwnerOk_iff.mpr ⟨playlist, ref, hp, hr, hown, hro⟩
  | movePlaylistEntry old playlist plan hk hf hp hown hv hplan =>
    have hid : old.playlistEntryId = e.aggregateId := Table.key_of_find hf
    refine run_updateEntry_isOk env ho (ho.entries old (Table.mem_of_find hf)) ?_
    rcases positionPlan_ok hplan with ⟨hs, hk'⟩ | ⟨hs, hpl⟩
    · exact Or.inl ⟨hk', fun _ => hs⟩
    · exact Or.inr ⟨hs, rfl, by rw [show ({ old with positionKey := plan.positionKey } :
        PlaylistEntryRow).playlistEntryId = e.aggregateId from hid]; exact hpl⟩

end

/-! ## the projection as a whole -/

section
variable {env : Env} {db db' : SyncDb} {p : Principal} {e : Event} {now : Int}

theorem publishAll_isOk {fs : List Publication} {userId : Uuid} :
    (∃ db', db.publishAll userId now fs = .ok db') ↔
      (fs.map Publication.eventId).Nodup ∧ ∀ f ∈ fs, db.syncEvents.find f.eventId = none := by
  induction fs generalizing db with
  | nil => exact ⟨fun _ => ⟨List.nodup_nil, fun f hf => (nomatch hf)⟩, fun _ => ⟨db, rfl⟩⟩
  | cons f fs ih =>
    constructor
    · rintro ⟨db', h⟩
      exact (publishAll_ok h).1
    · rintro ⟨hn, hf⟩
      obtain ⟨t, ht⟩ := (Table.insert_unindexed db.syncEvents
        (publishedRow userId now db.nextServerSequence f)).mpr (hf f (List.mem_cons_self ..))
      have h₁ : db.publish userId now f = .ok { db with
          syncEvents := t, nextServerSequence := db.nextServerSequence + 1 } :=
        SyncDb.publish_ok.mpr ⟨t, ht, rfl⟩
      rw [List.map_cons, List.nodup_cons] at hn
      have hrest : ∀ g ∈ fs, t.find g.eventId = none := by
        intro g hg
        have hne : ¬ Schema.key (publishedRow userId now db.nextServerSequence f) = g.eventId :=
          fun hc => hn.1 (List.mem_map.mpr ⟨g, hg, Eq.symm hc⟩)
        rw [Table.find_insert ht, if_neg hne]
        exact hf g (List.mem_cons_of_mem _ hg)
      obtain ⟨db', h₂⟩ : ∃ db', ({ db with
          syncEvents := t, nextServerSequence := db.nextServerSequence + 1 } : SyncDb).publishAll
            userId now fs = .ok db' := ih.mpr ⟨hn.2, hrest⟩
      exact ⟨db', bind_eq_ok.mpr ⟨_, h₁, h₂⟩⟩

theorem buryDeleted_isOk :
    (∃ db', db.buryDeleted p e now = .ok db') ↔
      (e.eventType = .aggregateDeleted →
        db.tombstones.find (p.userId, e.aggregateType, e.aggregateId) = none) := by
  unfold SyncDb.buryDeleted genericOperation
  by_cases hd : e.eventType = .aggregateDeleted
  · rw [if_pos hd, if_pos rfl]
    constructor
    · rintro ⟨db', h⟩ -
      obtain ⟨t, ht, -⟩ := SyncDb.bury_ok.mp h
      exact (Table.insert_ok.mp ht).1
    · intro h
      obtain ⟨t, ht⟩ := (Table.insert_unindexed db.tombstones (SyncDb.buried p e now)).mpr (h hd)
      exact ⟨_, SyncDb.bury_ok.mpr ⟨t, ht, rfl⟩⟩
  · rw [if_neg hd, if_neg (by decide)]
    exact ⟨fun _ hc => absurd hc hd, fun _ => ⟨db, rfl⟩⟩

/-- **A generic projection** goes through exactly when it is writable and publishable. -/
theorem generic_isOk (ho : OwnersAgree db) {w : RowWrite} (hc : Checked env db p e now w) :
    (∃ r, (savepoint env db p e now w >>= release p e now) = .ok r) ↔
      Writable db e w ∧ Publishable env db p e w := by
  have hids : ∀ g, (∀ f ∈ w.publications env p e g, db.syncEvents.find f.eventId = none) ↔
      ∀ id ∈ w.publishedIds env e, db.syncEvents.find id = none := by
    intro g
    rw [← map_eventId_publications (p := p) w g]
    simp
  constructor
  · rintro ⟨r, h⟩
    obtain ⟨g, db₁, hg, hp, hb, -⟩ := (generic_ok hc).mp h
    have hrows : RowsOnly db g.db := .run hg
    obtain ⟨hn, hf⟩ := publishAll_isOk.mp ⟨db₁, hp⟩
    have he : g.db.syncEvents = db.syncEvents := by rw [hrows]
    have ht : db₁.tombstones = db.tombstones := by rw [(publishAll_ok hp).2.1, hrows]
    rw [he] at hf
    have hbury := buryDeleted_isOk.mp ⟨r.2, hb⟩
    rw [ht] at hbury
    exact ⟨(run_isOk ho hc).mp ⟨g, hg⟩, map_eventId_publications w g ▸ hn, (hids g).mp hf, hbury⟩
  · rintro ⟨hw, hp⟩
    obtain ⟨g, hg⟩ := (run_isOk ho hc).mpr hw
    have hrows : RowsOnly db g.db := .run hg
    have he : g.db.syncEvents = db.syncEvents := by rw [hrows]
    obtain ⟨db₁, h₁⟩ := publishAll_isOk.mpr
      (show _ ∧ ∀ f ∈ w.publications env p e g, g.db.syncEvents.find f.eventId = none from
        ⟨map_eventId_publications w g ▸ hp.distinct, by rw [he]; exact (hids g).mpr hp.fresh⟩)
    have ht : db₁.tombstones = db.tombstones := by rw [(publishAll_ok h₁).2.1, hrows]
    obtain ⟨db₂, h₂⟩ := buryDeleted_isOk.mpr (by rw [ht]; exact hp.tombstone)
    exact ⟨(applied e g.rowVersion, db₂), (generic_ok hc).mpr ⟨g, db₁, hg, h₁, h₂, rfl⟩⟩

/-! ## interactions -/

/-- **The write of an interaction** is stored exactly when it is writable. -/
theorem interaction_isOk {w : InteractionWrite} (hrow : ∀ row, w = .interaction row →
    ¬ db.interactions.IndexTaken row) :
    (∃ db', w.run db p e = .ok db') ↔ InteractionWritable db e w := by
  cases w with
  | interaction row =>
    show (∃ db', (insertInto .userInteractionEvent db.interactions row >>= fun t =>
      pure { db with interactions := t }) = .ok db') ↔ _
    constructor
    · rintro ⟨db', h⟩
      obtain ⟨t, ht, -⟩ := bind_pure_eq_ok.mp h
      exact (Table.insert_ok.mp (insertInto_ok.mp ht)).1
    · intro hf
      obtain ⟨t, ht⟩ := Table.insert_isOk.mpr (show db.interactions.find (Schema.key row) = none ∧ _
        from ⟨hf, hrow row rfl⟩)
      exact ⟨_, bind_pure_eq_ok.mpr ⟨t, insertInto_ok.mpr ht, rfl⟩⟩
  | listening l a =>
    show (∃ db', db.insertListening p e l a = .ok db') ↔ _
    have hrec : l.recording.all (fun id => id ∈ db.recordings) = true ↔
        ∀ id, l.recording = some id → id ∈ db.recordings := by
      cases l.recording with
      | none => exact ⟨fun _ id h => (nomatch h), fun _ => rfl⟩
      | some id => simp
    constructor
    · rintro ⟨db', h⟩
      obtain ⟨played, h₁, h⟩ := bind_eq_ok.mp h
      obtain ⟨duration, h₂, h⟩ := bind_eq_ok.mp h
      obtain ⟨ratio, h₃, h⟩ := bind_eq_ok.mp h
      by_cases hr : l.recording.all (fun id => id ∈ db.recordings) = true
      · rw [if_pos hr] at h
        obtain ⟨t, ht, -⟩ := bind_pure_eq_ok.mp h
        exact ⟨⟨played, h₁⟩, mapM_ok_iff.mp ⟨duration, h₂⟩, mapM_ok_iff.mp ⟨ratio, h₃⟩,
          hrec.mp hr, (Table.insert_ok.mp (insertInto_ok.mp ht)).1⟩
      · rw [if_neg hr] at h
        cases h
    · rintro ⟨⟨played, h₁⟩, h₂, h₃, hr, hf⟩
      obtain ⟨duration, h₂⟩ := mapM_ok_iff.mpr h₂
      obtain ⟨ratio, h₃⟩ := mapM_ok_iff.mpr h₃
      obtain ⟨t, ht⟩ := (Table.insert_unindexed db.listeningEvents
        { listeningEventId := e.eventId, userId := p.userId, deviceId := p.deviceId,
          userTrackRefId := l.ref.userTrackRefId, recordingId := l.recording,
          startedAt := e.occurredAt, playedMs := played, trackDurationMs := duration,
          completionRatio := ratio, eventOrigin := l.origin, context := l.context,
          recommendationRequestId := a.map Attribution.requestId,
          explicitFeedback := l.feedback, excludedFromTaste := l.excluded }).mpr hf
      refine ⟨{ db with listeningEvents := t }, bind_eq_ok.mpr ⟨played, h₁, bind_eq_ok.mpr
        ⟨duration, h₂, bind_eq_ok.mpr ⟨ratio, h₃, ?_⟩⟩⟩⟩
      rw [if_pos (hrec.mpr hr)]
      exact bind_pure_eq_ok.mpr ⟨t, insertInto_ok.mpr ht, rfl⟩

/-- The presentation of a new impression is not recorded yet. -/
theorem presentation_free {row : UserInteractionEventRow}
    (h : presentationRecorded db row = false) : ¬ db.interactions.IndexTaken row := by
  rintro ⟨x, hx, -, hn, hi⟩
  have hx' := List.any_eq_false.mp h x hx
  simp only [decide_eq_true_eq] at hx'
  refine hx' ?_
  simp only [Schema.index] at hn hi
  have hsome : ∀ r : UserInteractionEventRow, presentationIndex r ≠ none →
      ∃ p q k, r.presentationId = some p ∧ r.recommendationRequestId = some q ∧
        r.sourceRank = some k ∧ presentationIndex r = some (r.userId, p, q, k) := by
    intro r hr
    unfold presentationIndex at hr ⊢
    split at hr
    next ht =>
      split at hr
      next p q k hp hq hk => exact ⟨p, q, k, hp, hq, hk, by rw [if_pos ht]⟩
      next => exact absurd rfl hr
    next => exact absurd rfl hr
  obtain ⟨p, q, k, hp, hq, hk, he⟩ := hsome row hn
  obtain ⟨p', q', k', hp', hq', hk', he'⟩ := hsome x (hi ▸ hn)
  rw [he, he'] at hi
  simp only [Option.some.injEq, Prod.mk.injEq] at hi
  obtain ⟨hu, rfl, rfl, rfl⟩ := hi
  rw [hp, hq, hk, hp', hq', hk']
  exact ⟨hu, rfl, by simp, rfl, rfl⟩

/-- An interaction that its checks let through finds the presentation index free. -/
theorem interactionChecks_free {row : UserInteractionEventRow}
    (h : interactionChecks env db p e = .ok (.interaction row)) :
    ¬ db.interactions.IndexTaken row := by
  have hl : ∀ a, listeningChecks env db p e a ≠ .ok (.interaction row) := by
    intro a h
    unfold listeningChecks at h
    split at h <;> cases h
  have hi : ∀ r a, impressionChecks db p e r a = .ok (.interaction row) →
      ¬ db.interactions.IndexTaken row := by
    intro r a h
    unfold impressionChecks at h
    split at h
    · cases h
    · split at h <;> cases h
      next hp => exact presentation_free (by simpa using hp)
  have hf : ∀ a, ¬ e.eventType = .recommendationImpressionRecorded →
      feedbackChecks db p e a = .ok (.interaction row) → ¬ db.interactions.IndexTaken row := by
    intro a ht h
    unfold feedbackChecks at h
    split at h
    · cases h
    · split at h
      · cases h
      · split at h
        · cases h
        · split at h <;> cases h
          rintro ⟨x, -, -, hn, -⟩
          exact hn (if_neg ht)
  have ha : ∀ r a, attributedChecks env db p e r a = .ok (.interaction row) →
      ¬ db.interactions.IndexTaken row := by
    intro r a h
    unfold attributedChecks at h
    split at h
    · exact absurd h (hl a)
    · split at h
      · exact hi r a h
      next ht => exact hf a ht h
  unfold interactionChecks at h
  split at h
  · cases h
  · split at h
    · cases h
    · split at h
      · exact ha _ _ h
      · split at h
        · cases h
        · cases h
        · exact ha _ _ h
      · cases h

theorem publish_isOk {userId : Uuid} {f : Publication} :
    (∃ db', db.publish userId now f = .ok db') ↔ db.syncEvents.find f.eventId = none := by
  refine Iff.trans ?_ (Table.insert_unindexed db.syncEvents
    (publishedRow userId now db.nextServerSequence f))
  constructor
  · rintro ⟨db', h⟩
    obtain ⟨t, ht, -⟩ := SyncDb.publish_ok.mp h
    exact ⟨t, ht⟩
  · rintro ⟨t, ht⟩
    exact ⟨_, SyncDb.publish_ok.mpr ⟨t, ht, rfl⟩⟩

theorem applyInteraction_isOk {requestId : Uuid} :
    (∃ r, applyInteraction env db p e now requestId = .ok r) ↔
      ∀ w, interactionChecks env db p e = .ok w →
        InteractionWritable db e w ∧ db.syncEvents.find e.eventId = none := by
  unfold applyInteraction
  cases hc : interactionChecks env db p e with
  | error code => exact ⟨fun _ w h => (nomatch h), fun _ => ⟨_, rfl⟩⟩
  | ok w =>
    have hrow : ∀ row, w = .interaction row → ¬ db.interactions.IndexTaken row := by
      intro row hw
      rw [hw] at hc
      exact interactionChecks_free hc
    constructor
    · rintro ⟨r, h⟩ w' hw
      cases hw
      obtain ⟨db₁, h₁, h⟩ := bind_eq_ok.mp h
      obtain ⟨db₂, h₂, -⟩ := bind_eq_ok.mp h
      have hf : db₁.syncEvents.find e.eventId = none :=
        publish_isOk.mp ⟨db₂, h₂⟩
      rw [(interaction_log h₁).1] at hf
      exact ⟨(interaction_isOk hrow).mp ⟨db₁, h₁⟩, hf⟩
    · intro h
      obtain ⟨hw, hf⟩ := h w rfl
      obtain ⟨db₁, h₁⟩ := (interaction_isOk hrow (p := p)).mpr hw
      rw [← (interaction_log h₁).1] at hf
      obtain ⟨db₂, h₂⟩ := publish_isOk (f := interactionPublication p e) |>.mpr hf
      exact ⟨_, bind_eq_ok.mpr ⟨db₁, h₁, bind_eq_ok.mpr ⟨db₂, h₂, rfl⟩⟩⟩

/-! ## the whole transaction -/

theorem applyGeneric_isOk (ho : OwnersAgree db) {requestId : Uuid} :
    (∃ r, applyGeneric env db p e now requestId = .ok r) ↔
      (aggregateTypeOk e = true → ∀ w, genericChecks env db p e now = .ok w →
        Writable db e w ∧ Publishable env db p e w) := by
  unfold applyGeneric
  by_cases ht : aggregateTypeOk e = false
  · rw [if_pos ht]
    exact ⟨fun _ hc => absurd hc (by simp [ht]), fun _ => ⟨_, rfl⟩⟩
  · rw [if_neg ht]
    have ht' : aggregateTypeOk e = true := by simpa using ht
    cases hc : genericChecks env db p e now with
    | error f =>
      refine ⟨fun _ _ w h => (nomatch h), fun _ => ?_⟩
      cases f <;> exact ⟨_, rfl⟩
    | ok w =>
      refine Iff.trans (generic_isOk ho (genericChecks_ok hc)) ⟨fun h _ w' hw => ?_, fun h => ?_⟩
      · cases hw
        exact h
      · exact h ht' w rfl

/-- **The projection of an event** goes through exactly when it is projectable. -/
theorem applyEvent_isOk (ho : OwnersAgree db) (requestId : Uuid) :
    (∃ r, applyEvent env db p e now requestId = .ok r) ↔ Projectable env db p e now := by
  unfold applyEvent
  by_cases hv : e.schemaVersion.val ≠ 1
  · rw [if_pos hv]
    exact ⟨fun _ => ⟨fun h => absurd h hv, fun h => absurd h hv⟩, fun _ => ⟨_, rfl⟩⟩
  · rw [if_neg hv]
    have hv' : e.schemaVersion.val = 1 := not_not.mp hv
    by_cases hi : e.isInteraction
    · have hi' := hi
      unfold Event.isInteraction at hi'
      rw [if_pos hi', applyInteraction_isOk]
      exact ⟨fun h => ⟨fun _ _ => h, fun _ hn => absurd hi hn⟩, fun h => h.interaction hv' hi⟩
    · have hi' := hi
      unfold Event.isInteraction at hi'
      rw [if_neg hi']
      by_cases hg : (genericEventTypes.lookup e.eventType).isSome ∨ e.eventType = .aggregateDeleted
      · rw [if_pos hg, applyGeneric_isOk ho]
        exact ⟨fun h => ⟨fun _ hc => absurd hc hi, fun _ _ hgen => h hgen.2⟩,
          fun h ha => h.generic hv' hi ⟨hg, ha⟩⟩
      · rw [if_neg hg]
        exact ⟨fun _ => ⟨fun _ hc => absurd hc hi, fun _ _ hgen => absurd hgen.1 hg⟩,
          fun _ => ⟨_, rfl⟩⟩

theorem insertInbox_isOk {sequence : Int} (ack : Ack) (hf : db.inbox.find e.eventId = none)
    (hs : sameSequence db p sequence = none) (hb : e.deviceSequence.toBigint = .ok sequence) :
    (∃ db', db.insertInbox p e sequence ack = .ok db') ↔ Bindable e := by
  constructor
  · rintro ⟨db', h⟩
    obtain ⟨schema, base, t, ht, h₁, h₂, -, -⟩ := insertInbox_ok h
    exact ⟨ht, ⟨sequence, hb⟩, ⟨schema, h₁⟩, mapM_ok_iff.mp ⟨base, h₂⟩⟩
  · rintro ⟨ht, -, ⟨schema, h₁⟩, h₂⟩
    obtain ⟨base, h₂⟩ := mapM_ok_iff.mpr h₂
    have hfree : ¬ db.inbox.IndexTaken (inboxRow p e sequence schema base ack) := by
      rintro ⟨x, hx, -, -, hi⟩
      injection hi with hi
      injection hi with hd hq
      have := List.find?_eq_none.mp hs x hx
      simp only [decide_eq_true_eq] at this
      exact this ⟨hd, hq⟩
    obtain ⟨t, h₃⟩ := Table.insert_isOk.mpr (show db.inbox.find _ = none ∧ _ from ⟨hf, hfree⟩)
    refine ⟨{ db with inbox := t }, ?_⟩
    unfold SyncDb.insertInbox
    rw [if_pos ht]
    exact bind_eq_ok.mpr ⟨schema, h₁, bind_eq_ok.mpr ⟨base, h₂,
      bind_pure_eq_ok.mpr ⟨t, insertInto_ok.mpr h₃, rfl⟩⟩⟩

variable {epoch : Uuid} {cursor : CursorRow} {sequence : Int}

/-- **The transaction of the next event** goes through exactly when the event is admissible. -/
theorem accept_isOk (ho : OwnersAgree db) (hn : Next db p epoch e cursor sequence)
    (hk : idempotencyRecord db p epoch e = none) (requestId : Uuid) :
    (∃ r, accept env db p epoch cursor e sequence now requestId = .ok r) ↔
      Admissible env db p e now := by
  constructor
  · rintro ⟨r, h⟩
    obtain ⟨⟨ack, db₁⟩, h₁, h⟩ := bind_eq_ok.mp h
    obtain ⟨db₂, h₂, -⟩ := bind_eq_ok.mp h
    have hj := (applyEvent_projected h₁).journal
    have hf : db₁.inbox.find e.eventId = none := by
      rw [hj.inbox]
      exact hn.fresh
    have hs : sameSequence db₁ p sequence = none := by
      unfold sameSequence
      rw [hj.inbox]
      exact hn.free
    exact ⟨(insertInbox_isOk ack hf hs hn.bound).mp ⟨db₂, h₂⟩, (applyEvent_isOk ho requestId).mp ⟨_, h₁⟩⟩
  · rintro ⟨hb, hp⟩
    obtain ⟨⟨ack, db₁⟩, h₁⟩ := (applyEvent_isOk ho requestId).mpr hp
    have hj := (applyEvent_projected h₁).journal
    have hf : db₁.inbox.find e.eventId = none := by
      rw [hj.inbox]
      exact hn.fresh
    have hs : sameSequence db₁ p sequence = none := by
      unfold sameSequence
      rw [hj.inbox]
      exact hn.free
    obtain ⟨db₂, h₂⟩ := (insertInbox_isOk ack hf hs hn.bound).mpr hb
    have hdb₂ : db₂.idempotency = db.idempotency ∧ db₂.cursors = db.cursors := by
      obtain ⟨-, -, t, -, -, -, -, rfl⟩ := insertInbox_ok h₂
      exact ⟨hj.idempotency, hj.cursors⟩
    obtain ⟨records, h₃⟩ := (Table.insert_unindexed db₂.idempotency
      { scope := idempotencyScope p epoch, idempotencyKey := e.idempotencyKey,
        requestHash := e.requestHash, responseReference := some ack }).mpr (by
          rw [hdb₂.1]
          exact hk)
    obtain ⟨cursors, h₄⟩ := Table.update_unindexed db₂.cursors
      { cursor with lastAckedDeviceSequence := sequence }
    exact ⟨_, bind_eq_ok.mpr ⟨_, h₁, bind_eq_ok.mpr ⟨db₂, h₂, bind_eq_ok.mpr
      ⟨records, insertInto_ok.mpr h₃, bind_eq_ok.mpr ⟨cursors, updateIn_ok.mpr h₄, rfl⟩⟩⟩⟩⟩

end

/-! ## no poison event -/

/-- The event is the next of a bound journal, under a new identifier and a new key. -/
structure NextExpected (db : SyncDb) (p : Principal) (epoch : Uuid) (e : Event) : Prop where
  bound : ∃ cursor, db.cursors.find p.deviceId = some cursor ∧ cursor.journalEpoch = some epoch ∧
    e.deviceSequence.val = cursor.lastAckedDeviceSequence + 1
  fresh : db.inbox.find e.eventId = none
  key : idempotencyRecord db p epoch e = none

/-- The transaction ends with a terminal acknowledgement, which is recorded, and the cursor of the
journal is one further. -/
def Acknowledged (env : Env) (db : SyncDb) (p : Principal) (epoch : Uuid) (e : Event) (now : Int)
    (requestId : Uuid) : Prop :=
  ∃ ack db', pushOne env db p epoch e now requestId = .ok (ack, db') ∧ ack.outcome.Terminal ∧
    (∃ r, db'.inbox.find e.eventId = some r ∧ r.terminalAck = some ack) ∧
    ∃ cursor cursor', db.cursors.find p.deviceId = some cursor ∧
      db'.cursors.find p.deviceId = some cursor' ∧
      cursor'.lastAckedDeviceSequence = cursor.lastAckedDeviceSequence + 1

section
variable {env : Env} {db db' : SyncDb} {p : Principal} {epoch : Uuid} {e : Event}
  {now : Int} {requestId : Uuid}

/-- The checks of `_push_one` let the next event of a journal through. -/
theorem JournalInvariant.next (hj : JournalInvariant db p epoch) (hn : NextExpected db p epoch e)
    {sequence : Int} (hb : e.deviceSequence.toBigint = .ok sequence) :
    ∃ cursor, Next db p epoch e cursor sequence := by
  obtain ⟨cursor, hf, he, hs⟩ := hn.bound
  have hval : e.deviceSequence.val = sequence := by
    rw [(PyInt.toBigint_ok.mp hb).1]
    rfl
  have hx : sequence = cursor.lastAckedDeviceSequence + 1 := hval.symm.trans hs
  refine ⟨cursor, hf, he, hn.fresh, hb, ?_, by simp [hn.key], hx⟩
  -- a row with that number would be among `1, …, last_acked_device_sequence`
  obtain ⟨cursor', hf', -, h0, hd⟩ := hj.ordered
  rw [hf] at hf'
  cases hf'
  unfold sameSequence
  rw [List.find?_eq_none]
  intro r hr
  simp only [decide_eq_true_eq]
  rintro ⟨hdev, hseq⟩
  have hm : r.deviceSequence ∈ deviceSequences db p.deviceId :=
    List.mem_map.mpr ⟨r, List.mem_filter.mpr ⟨hr, by simpa using hdev⟩, rfl⟩
  rw [hd, hseq] at hm
  obtain ⟨i, hi, hi'⟩ := List.mem_map.mp hm
  have := List.mem_range.mp hi
  omega

theorem pushOne_next {cursor : CursorRow} {sequence : Int}
    (hn : Next db p epoch e cursor sequence) (hk : idempotencyRecord db p epoch e = none) :
    pushOne env db p epoch e now requestId =
      accept env db p epoch cursor e sequence now requestId := by
  unfold pushOne
  simp only [hn.found, hn.sameEpoch, hn.fresh, hn.bound, hk, ne_eq, not_true_eq_false, if_false,
    ok_bind]
  rw [hn.free, if_neg (by simp), if_neg (not_not.mpr hn.expected)]

/-- A transaction that accepts its event acknowledges it. -/
theorem accept_acknowledged {cursor : CursorRow} {sequence : Int} {ack : Ack}
    (hn : Next db p epoch e cursor sequence) (hk : idempotencyRecord db p epoch e = none)
    (h : accept env db p epoch cursor e sequence now requestId = .ok (ack, db')) :
    Acknowledged env db p epoch e now requestId := by
  obtain ⟨db₁, h₁, -, hr⟩ := accept_ok h
  obtain ⟨schema, base, hm⟩ := mem_inbox_recorded hr
  have hrow : db'.inbox.find e.eventId = some (inboxRow p e sequence schema base ack) :=
    Table.find_mem ((hm _).mpr (Or.inr rfl))
  have hdev : Schema.key { cursor with lastAckedDeviceSequence := sequence } = p.deviceId :=
    Table.key_of_find (r := cursor) hn.found
  have hcur := Table.find_update hr.cursors p.deviceId
  rw [if_pos hdev, hn.found] at hcur
  exact ⟨ack, db', (pushOne_next hn hk).trans h, (applyEvent_projected h₁).answer.outcome,
    ⟨_, hrow, rfl⟩, cursor, _, hn.found, hcur, hn.expected⟩

theorem acknowledged_iff (ho : OwnersAgree db) (hj : JournalInvariant db p epoch)
    (hn : NextExpected db p epoch e) :
    Acknowledged env db p epoch e now requestId ↔ Admissible env db p e now := by
  constructor
  · rintro ⟨ack, db', h, -, ⟨r, hr, -⟩, -⟩
    have hnew : db' ≠ db := by
      rintro rfl
      rw [hn.fresh] at hr
      cases hr
    rcases pushOne_cases h with ⟨-, -, -, -, hs⟩ | ⟨-, -, hs, -⟩ | ⟨cursor, sequence, hnext, ha⟩
    · exact absurd hs hnew
    · exact absurd hs hnew
    · exact (accept_isOk ho hnext hn.key requestId).mp ⟨_, ha⟩
  · intro h
    obtain ⟨sequence, hb⟩ := h.bindable.sequence
    obtain ⟨cursor, hnext⟩ := hj.next hn hb
    obtain ⟨⟨ack, db'⟩, ha⟩ := (accept_isOk ho hnext hn.key requestId).mpr h
    exact accept_acknowledged hnext hn.key ha

end

namespace Sample

/-- The deletion of the playlist, pushed with a number, an identifier and an observed version. -/
def deleteList (id : Uuid) (sequence base : Int) : Event where
  eventId := id
  idempotencyKey := "delete-" ++ id.text
  deviceSequence := .int sequence
  eventType := .aggregateDeleted
  schemaVersion := .int 1
  aggregateType := .playlist
  aggregateLocalId := list
  serverProfileId := none
  aggregateId := list
  baseVersion := some (.int base)
  occurredAt := 0
  payload := []
  requestHash := id.text

/-- The playlist is created, and deleted at version 1. -/
def created : List PushCall := [push createList]
def deleted : List PushCall := [push createList, push (deleteList second 2 1)]

theorem bound_owners : OwnersAgree bound where
  library := fun r hr => absurd hr (Table.not_mem_empty r)
  entries := fun r hr => absurd hr (Table.not_mem_empty r)

theorem delete_next :
    NextExpected (created.foldl (pushStep env) bound) owner journal (deleteList second 2 1) where
  bound := ⟨⟨phone, user, 0, 1, some journal⟩, by decide, rfl, rfl⟩
  fresh := Option.isNone_iff_eq_none.mp (by decide)
  key := Option.isNone_iff_eq_none.mp (by decide)

end Sample

end AutPlay.Sync
