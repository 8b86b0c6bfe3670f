import AutPlay.Lib.SortKeys
import AutPlay.Lib.Table
import AutPlay.Library.PositionKeys

/-!
# The entries of a playlist

`addPlaylistEntry` and `reorderPlaylistEntry` of `LibraryVerticalSliceRepository`: each puts an entry
before another one, with a key between those of its neighbours, and gives all entries new keys when there
is none.

* `activeEntryList`          the entries in the order of their keys;
* `place`                    the key of a place, and the table once there is one;
* `addPlaylistEntry`, `reorderPlaylistEntry`     the writes of the two commands;
* `Arranged`                 the invariant: every entry has a key, and the list is in their order.

The transaction's other writes, to the journal and to the outbox, come after and are left out; a failed
command is rolled back.
-/

set_option linter.unusedSectionVars false

namespace AutPlay.Library

open Result

/-! ## rows -/

structure PlaylistEntity where
  localPlaylistId : String
  deletedAtMs : Option Int
  serverProfileId : String

structure UserTrackRefEntity where
  localUserTrackRefId : String
  serverProfileId : String

structure PlaylistEntryEntity where
  localPlaylistEntryId : String
  serverPlaylistEntryId : Option String
  localPlaylistId : String
  localUserTrackRefId : String
  positionKey : String
  activePositionKey : Option String
  sourcePosition : Option Int
  addedAtMs : Int
  syncState : String
  serverRowVersion : Option Int
  lastLocalSequence : Int
  removedAtMs : Option Int
  serverProfileId : String

instance : Schema PlaylistEntity String Empty := ⟨PlaylistEntity.localPlaylistId, fun _ => none⟩

instance : Schema UserTrackRefEntity String Empty :=
  ⟨UserTrackRefEntity.localUserTrackRefId, fun _ => none⟩

/-- `Index(value = ["local_playlist_id", "active_position_key"], unique = true)` -/
instance : Schema PlaylistEntryEntity String (String × String) :=
  ⟨PlaylistEntryEntity.localPlaylistEntryId,
    fun row => row.activePositionKey.map fun key => (row.localPlaylistId, key)⟩

structure LibraryDb where
  playlists : Table PlaylistEntity
  trackRefs : Table UserTrackRefEntity
  entries : Table PlaylistEntryEntity

inductive SliceFault
  | notFound
  | removed
  | tooManyEntries
  | key (fault : KeyFault)
  | noSuchElement
  | nullKey
  | constraint (violated : Constraint)
  deriving DecidableEq

def legacyProfileId : String := "legacy-unscoped"

def maxPlaylistEntries : Nat := 10000

/-- The entry is one of the playlist's that are not removed. -/
def ActiveIn (playlistId : String) (row : PlaylistEntryEntity) : Prop :=
  row.localPlaylistId = playlistId ∧ row.removedAtMs = none

instance (playlistId : String) : DecidablePred (ActiveIn playlistId) := fun row =>
  inferInstanceAs (Decidable (row.localPlaylistId = playlistId ∧ row.removedAtMs = none))

/-- `ORDER BY active_position_key ASC`; `NULL` comes first. -/
def keyLe (a b : PlaylistEntryEntity) : Prop :=
  ∀ key ∈ a.activePositionKey, ∃ key' ∈ b.activePositionKey, key ≤ key'

instance : DecidableRel keyLe := fun a b =>
  match ha : a.activePositionKey, hb : b.activePositionKey with
  | none, _ => isTrue fun key hkey => by rw [ha] at hkey; cases hkey
  | some key, none => isFalse fun h => by
      obtain ⟨key', hkey', -⟩ := h key ha
      rw [hb] at hkey'
      cases hkey'
  | some key, some key' =>
    if hle : key ≤ key' then isTrue fun k hk => by
      rw [ha] at hk
      cases hk
      exact ⟨key', hb, hle⟩
    else isFalse fun h => by
      obtain ⟨k', hk', hkk⟩ := h key ha
      rw [hb] at hk'
      cases hk'
      exact hle hkk

def activeEntryList (entries : Table PlaylistEntryEntity) (playlistId : String) (limit : Nat) :
    List PlaylistEntryEntity :=
  ((entries.rows.filter fun row => ActiveIn playlistId row).insertionSort keyLe).take limit

/-! ## a place -/

def orThrow {α : Type} (fault : SliceFault) : Option α → Except SliceFault α
  | some a => .ok a
  | none => .error fault

def refuse (p : Prop) [Decidable p] (fault : SliceFault) : Except SliceFault Unit :=
  if p then .error fault else .ok ()

/-- Where an entry comes to stand that is put before another one. -/
def indexBefore (ids : List String) (beforeEntryId : Option String) : Nat :=
  (beforeEntryId.bind fun id => ids.findIdx? fun other => other = id).getD ids.length

/-- The key of a place among the entries. -/
def keyAt (ordered : List PlaylistEntryEntity) (index : Nat) : Except SliceFault (Option String) :=
  (between ((beforeAt ordered index).bind PlaylistEntryEntity.activePositionKey)
    (ordered[index]?.bind PlaylistEntryEntity.activePositionKey)).mapError SliceFault.key

def rekeyed (keys : List (String × String)) (row : PlaylistEntryEntity) :
    Except SliceFault PlaylistEntryEntity := do
  let key ← orThrow .noSuchElement (keys.lookup row.localPlaylistEntryId)
  return { row with positionKey := key, activePositionKey := some key }

/-- `@Upsert` of a row: an insertion, or else an `UPDATE` of the row of that key. -/
def upsertEntry (entries : Table PlaylistEntryEntity) (row : PlaylistEntryEntity) :
    Except SliceFault (Table PlaylistEntryEntity) :=
  match entries.insert row with
  | .ok entries => .ok entries
  | .error _ =>
    if (entries.find row.localPlaylistEntryId).isSome then
      (entries.update row).mapError SliceFault.constraint
    else .ok entries

def upsertEntries (entries : Table PlaylistEntryEntity) (rows : List PlaylistEntryEntity) :
    Except SliceFault (Table PlaylistEntryEntity) :=
  rows.foldlM upsertEntry entries

/-- The key of a place; when there is none, the entries are given new keys before. -/
def place (entries : Table PlaylistEntryEntity) (ordered : List PlaylistEntryEntity) (index : Nat) :
    Except SliceFault (String × Table PlaylistEntryEntity) := do
  let key ← keyAt ordered index
  match key with
  | some key => return (key, entries)
  | none =>
    let keys ← (rebalance (ordered.map PlaylistEntryEntity.localPlaylistEntryId)).mapError SliceFault.key
    let ordered ← ordered.mapM (rekeyed keys)
    let entries ← upsertEntries entries ordered
    let key ← keyAt ordered index
    let key ← orThrow .nullKey key
    return (key, entries)

/-! ## the commands -/

/-- `ensureOwned`: the row is of the bound profile, or of none. -/
def ensureOwned (binding : Option String) (rowProfileId : String) : Except SliceFault Unit :=
  refuse (rowProfileId ≠ binding.getD legacyProfileId) .notFound

/-- `sync(bound)` -/
def syncOf (binding : Option String) : String := if binding.isSome then "DIRTY" else "LOCAL_ONLY"

def addedEntry (binding : Option String) (playlistId entryId trackRefId key : String) (now sequence : Int) :
    PlaylistEntryEntity where
  localPlaylistEntryId := entryId
  serverPlaylistEntryId := none
  localPlaylistId := playlistId
  localUserTrackRefId := trackRefId
  positionKey := key
  activePositionKey := some key
  sourcePosition := none
  addedAtMs := now
  syncState := syncOf binding
  serverRowVersion := none
  lastLocalSequence := sequence
  removedAtMs := none
  serverProfileId := binding.getD legacyProfileId

def addPlaylistEntry (binding : Option String) (playlistId entryId trackRefId : String)
    (beforeEntryId : Option String) (now sequence : Int) (db : LibraryDb) : Except SliceFault LibraryDb := do
  let playlist ← orThrow .notFound (db.playlists.find playlistId)
  ensureOwned binding playlist.serverProfileId
  refuse (playlist.deletedAtMs ≠ none) .removed
  let track ← orThrow .notFound (db.trackRefs.find trackRefId)
  ensureOwned binding track.serverProfileId
  let active := activeEntryList db.entries playlistId maxPlaylistEntries
  refuse (active.length ≥ maxPlaylistEntries) .tooManyEntries
  let index := indexBefore (active.map PlaylistEntryEntity.localPlaylistEntryId) beforeEntryId
  let placed ← place db.entries active index
  let entries ← (placed.2.insert
    (addedEntry binding playlistId entryId trackRefId placed.1 now sequence)).mapError
      SliceFault.constraint
  return { db with entries := entries }

def movedEntry (binding : Option String) (key : String) (sequence : Int) (row : PlaylistEntryEntity) :
    PlaylistEntryEntity :=
  { row with
    positionKey := key, activePositionKey := some key, syncState := syncOf binding,
    lastLocalSequence := sequence }

def reorderPlaylistEntry (binding : Option String) (entryId : String) (beforeEntryId : Option String)
    (sequence : Int) (db : LibraryDb) : Except SliceFault LibraryDb := do
  let row ← orThrow .notFound (db.entries.find entryId)
  ensureOwned binding row.serverProfileId
  refuse (row.removedAtMs ≠ none) .removed
  let active := (activeEntryList db.entries row.localPlaylistId maxPlaylistEntries).filter fun other =>
    other.localPlaylistEntryId ≠ entryId
  let index := indexBefore (active.map PlaylistEntryEntity.localPlaylistEntryId) beforeEntryId
  let placed ← place db.entries active index
  let entries ← upsertEntry placed.2 (movedEntry binding placed.1 sequence row)
  return { db with entries := entries }

/-! ## the invariant -/

/-- The entries of a playlist that are not removed, in their order: each has a key, and the keys
increase. -/
structure Arranged (entries : Table PlaylistEntryEntity) (playlistId : String)
    (rows : List PlaylistEntryEntity) : Prop where
  mem : ∀ row, row ∈ rows ↔ row ∈ entries ∧ ActiveIn playlistId row
  keyed : ∃ values, KeyValues values ∧
    rows.map PlaylistEntryEntity.activePositionKey = values.map fun n => some (keyText n)
  bounded : rows.length ≤ maxPlaylistEntries

section
variable {entries entries' : Table PlaylistEntryEntity} {playlistId : String}
  {rows rows' : List PlaylistEntryEntity} {values : List Nat}

theorem keyLe_strict {a b : PlaylistEntryEntity} {m n : Nat} (ha : a.activePositionKey = some (keyText m))
    (hb : b.activePositionKey = some (keyText n)) (h : m < n) (hn : Encodable n) :
    keyLe a b ∧ ¬ keyLe b a := by
  have hlt := keyText_lt h hn.lt
  constructor
  · intro key hkey
    rw [ha] at hkey
    rw [← Option.some.inj hkey]
    exact ⟨_, hb, hlt.le⟩
  · intro hba
    obtain ⟨key, hkey, hle⟩ := hba _ hb
    rw [ha] at hkey
    rw [← Option.some.inj hkey] at hle
    exact absurd hlt (not_lt.mpr hle)

theorem keyed_strict (hv : KeyValues values)
    (h : rows.map PlaylistEntryEntity.activePositionKey = values.map fun n => some (keyText n)) :
    rows.Pairwise fun a b => keyLe a b ∧ ¬ keyLe b a := by
  induction rows generalizing values with
  | nil => exact .nil
  | cons a rows ih =>
    cases values with
    | nil => cases h
    | cons n values =>
      rw [List.map_cons, List.map_cons, List.cons.injEq] at h
      obtain ⟨hfirst, hsorted⟩ := List.pairwise_cons.mp hv.sorted
      have hrest : KeyValues values :=
        ⟨fun m hm => hv.encodable m (List.mem_cons_of_mem _ hm), hsorted⟩
      refine List.pairwise_cons.mpr ⟨fun b hb => ?_, ih hrest h.2⟩
      have hkey := List.mem_map_of_mem (f := PlaylistEntryEntity.activePositionKey) hb
      rw [h.2] at hkey
      obtain ⟨m, hm, hbm⟩ := List.mem_map.mp hkey
      exact keyLe_strict h.1 hbm.symm (hfirst m hm) (hrest.encodable m hm)

theorem keyed_nodup (h : rows.Pairwise fun a b => keyLe a b ∧ ¬ keyLe b a) : rows.Nodup :=
  h.imp fun {a b} hab heq => by
    subst heq
    exact hab.2 hab.1

/-- The list is what the query returns. -/
theorem Arranged.active (h : Arranged entries playlistId rows) :
    activeEntryList entries playlistId maxPlaylistEntries = rows := by
  obtain ⟨values, hv, hkeys⟩ := h.keyed
  have hstrict := keyed_strict hv hkeys
  have hperm : (entries.rows.filter fun row => ActiveIn playlistId row).Perm rows := by
    refine (List.perm_ext_iff_of_nodup ?_ (keyed_nodup hstrict)).mpr fun row => ?_
    · exact (List.Nodup.of_map _ entries.nodup).filter _
    · rw [List.mem_filter, h.mem row, decide_eq_true_iff]
      rfl
  unfold activeEntryList
  rw [insertionSort_eq_of_strict keyLe hstrict hperm, List.take_of_length_le h.bounded]

theorem Arranged.ids_nodup (h : Arranged entries playlistId rows) :
    (rows.map PlaylistEntryEntity.localPlaylistEntryId).Nodup := by
  obtain ⟨values, hv, hkeys⟩ := h.keyed
  refine List.Nodup.map_on (fun a ha b hb hid => ?_) (keyed_nodup (keyed_strict hv hkeys))
  exact Table.eq_of_key ((h.mem a).mp ha).1 ((h.mem b).mp hb).1 hid

end

end AutPlay.Library
