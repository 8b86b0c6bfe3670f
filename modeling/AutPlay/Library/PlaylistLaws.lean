import AutPlay.Library.Playlist

/-!
# The order of a playlist

* `keyAt_keyed`        the key of a place, from the numbers of the keys;
* `upsertEntries_mem`  the table after some entries are written;
* `place_ok`           what a place is given;
* `addPlaylistEntry_ok`, `reorderPlaylistEntry_ok`     the commands keep the entries arranged, in the
                       order that was asked for;
* `position_laws`      the keys, and all runs of the commands.
-/

set_option linter.unusedSectionVars false

namespace AutPlay.Library

open Result

section
variable {entries entries' : Table PlaylistEntryEntity} {playlistId : String}
  {rows ordered : List PlaylistEntryEntity} {values : List Nat} {index : Nat}

/-! ## the key of a place -/

/-- The entries have the keys of these numbers. -/
def Keyed (rows : List PlaylistEntryEntity) (values : List Nat) : Prop :=
  rows.map PlaylistEntryEntity.activePositionKey = values.map fun n => some (keyText n)

theorem Keyed.length (h : Keyed rows values) : values.length = rows.length := by
  have hlen := congrArg List.length h
  rw [List.length_map, List.length_map] at hlen
  exact hlen.symm

theorem join_map_some (value? : Option Nat) :
    (value?.map fun n => some (keyText n)).join = value?.map keyText := by
  cases value? with
  | none => rfl
  | some n => rfl

theorem bind_key (row? : Option PlaylistEntryEntity) :
    row?.bind PlaylistEntryEntity.activePositionKey =
      (row?.map PlaylistEntryEntity.activePositionKey).join := by
  cases row? with
  | none => rfl
  | some row => rfl

theorem keyAt_keyed (h : Keyed ordered values) (hv : KeyValues values) (index : Nat) :
    keyAt ordered index = .ok (if lowerOf (beforeAt values index) + 1 < upperOf values[index]? then
      some (keyText ((lowerOf (beforeAt values index) + upperOf values[index]?) / 2)) else none) := by
  unfold keyAt
  rw [bind_key, bind_key, ← beforeAt_map, ← List.getElem?_map, h, beforeAt_map, List.getElem?_map,
    join_map_some, join_map_some, between_keyText hv.before hv.after (hv.lower_lt_upper index)]
  rfl

/-- A key that is returned goes between the others. -/
theorem KeyValues.insert_middle (hv : KeyValues values) (hi : index ≤ values.length)
    (hgap : lowerOf (beforeAt values index) + 1 < upperOf values[index]?) :
    KeyValues (values.insertIdx index ((lowerOf (beforeAt values index) + upperOf values[index]?) / 2)) :=
  hv.insert hi (by omega) (by omega)

/-! ## new keys -/

def PlaylistEntryEntity.withKey (row : PlaylistEntryEntity) (key : String) : PlaylistEntryEntity :=
  { row with positionKey := key, activePositionKey := some key }

theorem lookup_zipIdx {β : Type} (f : Nat → β) {ids : List String} {id : String} (h : id ∈ ids) (k : Nat) :
    ((ids.zipIdx k).map fun entry => (entry.1, f entry.2)).lookup id = some (f (ids.idxOf id + k)) := by
  induction ids generalizing k with
  | nil => cases h
  | cons other ids ih =>
    rw [List.zipIdx_cons, List.map_cons]
    by_cases heq : id = other
    · rw [heq, List.lookup_cons_self, List.idxOf_cons_self, Nat.zero_add]
    · have hne : (id == other) = false := beq_eq_false_iff_ne.mpr heq
      have hmem := (List.mem_cons.mp h).resolve_left heq
      rw [List.lookup_cons, hne, ih hmem (k + 1), List.idxOf_cons_ne _ (Ne.symm heq),
        Nat.succ_add, Nat.add_succ]

theorem map_idxOf {ids : List String} (h : ids.Nodup) :
    (ids.map fun id => ids.idxOf id) = List.range ids.length := by
  refine List.ext_getElem ?_ fun i hi hi' => ?_
  · rw [List.length_map, List.length_range]
  · rw [List.getElem_map, List.getElem_range]
    exact h.idxOf_getElem i (by rwa [List.length_map] at hi)

/-- The entries with evenly spaced keys. -/
def evenRow (ids : List String) (row : PlaylistEntryEntity) : PlaylistEntryEntity :=
  row.withKey (keyText (strideOf ids.length * (ids.idxOf row.localPlaylistEntryId + 1)))

def evenRows (ordered : List PlaylistEntryEntity) : List PlaylistEntryEntity :=
  ordered.map (evenRow (ordered.map PlaylistEntryEntity.localPlaylistEntryId))

theorem mapM_rekeyed (ordered : List PlaylistEntryEntity) :
    ordered.mapM (rekeyed (evenKeys (ordered.map PlaylistEntryEntity.localPlaylistEntryId))) =
      .ok (evenRows ordered) := by
  refine mapM_eq_ok_map fun row hrow => ?_
  have hlookup := lookup_zipIdx
    (fun i => keyText (strideOf (ordered.map PlaylistEntryEntity.localPlaylistEntryId).length * (i + 1)))
    (List.mem_map_of_mem (f := PlaylistEntryEntity.localPlaylistEntryId) hrow) 0
  rw [Nat.add_zero] at hlookup
  refine bind_of_ok (a := _) ?_ rfl
  unfold evenKeys
  rw [hlookup]
  rfl

theorem ids_evenRows (ordered : List PlaylistEntryEntity) :
    (evenRows ordered).map PlaylistEntryEntity.localPlaylistEntryId =
      ordered.map PlaylistEntryEntity.localPlaylistEntryId := by
  unfold evenRows
  rw [List.map_map]
  rfl

theorem keyed_evenRows (h : (ordered.map PlaylistEntryEntity.localPlaylistEntryId).Nodup) :
    Keyed (evenRows ordered) (evenly ordered.length) := by
  have hidx := map_idxOf h
  unfold Keyed evenRows evenly
  rw [List.length_map] at hidx
  rw [← hidx, List.map_map, List.map_map, List.map_map, List.map_map]
  refine List.map_congr_left fun row _ => ?_
  show some (keyText _) = some (keyText _)
  rw [List.length_map]

/-! ## the writes -/

theorem upsertEntry_ok {row : PlaylistEntryEntity}
    (hold : (entries.find row.localPlaylistEntryId).isSome = true)
    (h : upsertEntry entries row = .ok entries') : entries'.rows = Table.putRows entries.rows row := by
  unfold upsertEntry at h
  cases hins : entries.insert row with
  | ok other =>
    have hnone := (Table.insert_ok.mp hins).1
    have hnone : entries.find row.localPlaylistEntryId = none := hnone
    rw [hnone] at hold
    cases hold
  | error c =>
    rw [hins] at h
    dsimp only at h
    rw [if_pos hold, mapError_eq_ok] at h
    exact (Table.update_ok.mp h).2

theorem upsertEntry_error {row : PlaylistEntryEntity} {fault : SliceFault}
    (h : upsertEntry entries row = .error fault) : ∃ c, fault = .constraint c := by
  unfold upsertEntry at h
  split at h
  · cases h
  split at h
  · obtain ⟨c, -, rfl⟩ := mapError_eq_error.mp h
    exact ⟨c, rfl⟩
  · cases h

theorem upsertEntries_mem {ordered : List PlaylistEntryEntity}
    (hids : (ordered.map PlaylistEntryEntity.localPlaylistEntryId).Nodup)
    (hold : ∀ row ∈ ordered, (entries.find row.localPlaylistEntryId).isSome = true)
    (h : upsertEntries entries ordered = .ok entries') (x : PlaylistEntryEntity) :
    x ∈ entries' ↔ (x ∈ entries ∧
      x.localPlaylistEntryId ∉ ordered.map PlaylistEntryEntity.localPlaylistEntryId) ∨ x ∈ ordered := by
  induction ordered generalizing entries with
  | nil =>
    cases h
    simp
  | cons row ordered ih =>
    obtain ⟨hnew, hids⟩ := List.nodup_cons.mp hids
    obtain ⟨entries₁, h₁, h⟩ := bind_eq_ok.mp h
    have hsome := hold row List.mem_cons_self
    have hrows := upsertEntry_ok hsome h₁
    have hmem₁ : ∀ y, y ∈ entries₁ ↔
        (y ∈ entries ∧ y.localPlaylistEntryId ≠ row.localPlaylistEntryId) ∨ y = row := by
      intro y
      rw [Table.mem_def, hrows, Table.mem_putRows]
      obtain ⟨old, hfound⟩ := Option.isSome_iff_exists.mp hsome
      have hthere : ∃ y ∈ entries.rows, (Schema.key y : String) = Schema.key row :=
        ⟨old, Table.mem_of_find hfound, Table.key_of_find hfound⟩
      exact or_congr Iff.rfl (and_iff_left hthere)
    have hold₁ : ∀ other ∈ ordered, (entries₁.find other.localPlaylistEntryId).isSome = true := by
      intro other hother
      obtain ⟨old, hfound⟩ := Option.isSome_iff_exists.mp (hold other (List.mem_cons_of_mem _ hother))
      have hkey := Table.key_of_find hfound
      have hkey : old.localPlaylistEntryId = other.localPlaylistEntryId := hkey
      have hne : old.localPlaylistEntryId ≠ row.localPlaylistEntryId := by
        rw [hkey]
        intro heq
        exact hnew (heq ▸ List.mem_map_of_mem hother)
      have hmem := (hmem₁ old).mpr (Or.inl ⟨Table.mem_of_find hfound, hne⟩)
      rw [← hkey]
      exact Option.isSome_iff_exists.mpr ⟨old, Table.find_mem hmem⟩
    rw [ih hids hold₁ h, hmem₁, List.map_cons, List.mem_cons, List.mem_cons]
    constructor
    · rintro (⟨⟨hx, hne⟩ | rfl, hnot⟩ | hx)
      · exact Or.inl ⟨hx, fun hor => hor.elim hne hnot⟩
      · exact Or.inr (Or.inl rfl)
      · exact Or.inr (Or.inr hx)
    · rintro (⟨hx, hnot⟩ | rfl | hx)
      · obtain ⟨hne, hnot⟩ := not_or.mp hnot
        exact Or.inl ⟨Or.inl ⟨hx, hne⟩, hnot⟩
      · exact Or.inl ⟨Or.inr rfl, hnew⟩
      · exact Or.inr hx

theorem upsertEntries_error {ordered : List PlaylistEntryEntity} {fault : SliceFault}
    (h : upsertEntries entries ordered = .error fault) : ∃ c, fault = .constraint c := by
  induction ordered generalizing entries with
  | nil => cases h
  | cons row ordered ih =>
    rcases bind_eq_error.mp h with h | ⟨entries₁, -, h⟩
    · exact upsertEntry_error h
    · exact ih h

/-! ## a place is given -/

/-- What a place is given: the entries with their keys, and a number for the new key between them. -/
structure Placed (entries : Table PlaylistEntryEntity) (ordered : List PlaylistEntryEntity) (index : Nat)
    (key : String) (entries' : Table PlaylistEntryEntity) (ordered' : List PlaylistEntryEntity) : Prop where
  same : ∃ f : PlaylistEntryEntity → PlaylistEntryEntity, ordered' = ordered.map f ∧
    ∀ row, (f row).localPlaylistEntryId = row.localPlaylistEntryId ∧
      (f row).localPlaylistId = row.localPlaylistId ∧ (f row).removedAtMs = row.removedAtMs
  keyed : ∃ values n, Keyed ordered' values ∧ key = keyText n ∧ KeyValues (values.insertIdx index n)
  mem : ∀ x, x ∈ entries' ↔ (x ∈ entries ∧
    x.localPlaylistEntryId ∉ ordered.map PlaylistEntryEntity.localPlaylistEntryId) ∨ x ∈ ordered'

/-- The entries of a place: rows of the table, with keys in their order. -/
structure Placeable (entries : Table PlaylistEntryEntity) (ordered : List PlaylistEntryEntity)
    (index : Nat) : Prop where
  mem : ∀ row ∈ ordered, row ∈ entries
  keyed : ∃ values, KeyValues values ∧ Keyed ordered values
  bounded : ordered.length ≤ maxPlaylistEntries
  within : index ≤ ordered.length

theorem Placeable.ids_nodup (h : Placeable entries ordered index) :
    (ordered.map PlaylistEntryEntity.localPlaylistEntryId).Nodup := by
  obtain ⟨values, hv, hkeys⟩ := h.keyed
  refine List.Nodup.map_on (fun a ha b hb hid => ?_) (keyed_nodup (keyed_strict hv hkeys))
  exact Table.eq_of_key (h.mem a ha) (h.mem b hb) hid

theorem Placeable.found (h : Placeable entries ordered index) :
    ∀ row ∈ ordered, (entries.find row.localPlaylistEntryId).isSome = true :=
  fun row hrow => Option.isSome_iff_exists.mpr ⟨row, Table.find_mem (h.mem row hrow)⟩

/-- Nothing is written if there is a key. -/
theorem Placeable.mem_iff (h : Placeable entries ordered index) (x : PlaylistEntryEntity) :
    x ∈ entries ↔ (x ∈ entries ∧
      x.localPlaylistEntryId ∉ ordered.map PlaylistEntryEntity.localPlaylistEntryId) ∨ x ∈ ordered := by
  constructor
  · intro hx
    by_cases hid : x.localPlaylistEntryId ∈ ordered.map PlaylistEntryEntity.localPlaylistEntryId
    · obtain ⟨row, hrow, heq⟩ := List.mem_map.mp hid
      rw [Table.eq_of_key hx (h.mem row hrow) heq.symm]
      exact Or.inr hrow
    · exact Or.inl ⟨hx, hid⟩
  · rintro (⟨hx, -⟩ | hx)
    · exact hx
    · exact h.mem x hx

/-- Rebalancing writes the entries with evenly spaced keys, and finds one then. -/
theorem rebalance_place (h : Placeable entries ordered index) :
    keyAt (evenRows ordered) index = .ok (some (keyText ((lowerOf (beforeAt (evenly ordered.length) index) +
      upperOf (evenly ordered.length)[index]?) / 2))) := by
  rw [keyAt_keyed (keyed_evenRows h.ids_nodup) (keyValues_evenly h.bounded), if_pos]
  exact evenly_gap h.bounded h.within

/-- The key that is there, or one of a rebalanced list. -/
theorem place_eq (h : Placeable entries ordered index) (hv : KeyValues values)
    (hkeys : Keyed ordered values) :
    place entries ordered index =
      if lowerOf (beforeAt values index) + 1 < upperOf values[index]? then
        .ok (keyText ((lowerOf (beforeAt values index) + upperOf values[index]?) / 2), entries)
      else (upsertEntries entries (evenRows ordered)).map fun entries =>
        (keyText ((lowerOf (beforeAt (evenly ordered.length) index) +
          upperOf (evenly ordered.length)[index]?) / 2), entries) := by
  unfold place
  rw [keyAt_keyed hkeys hv]
  by_cases hgap : lowerOf (beforeAt values index) + 1 < upperOf values[index]?
  · rw [if_pos hgap, if_pos hgap]
    rfl
  · rw [if_neg hgap, if_neg hgap]
    have hlen : (ordered.map PlaylistEntryEntity.localPlaylistEntryId).length ≤ 10000 := by
      rw [List.length_map]
      exact h.bounded
    show ((rebalance _).mapError SliceFault.key >>= _) = _
    rw [rebalance_eq hlen h.ids_nodup]
    show (ordered.mapM (rekeyed _) >>= _) = _
    rw [mapM_rekeyed]
    show (upsertEntries entries (evenRows ordered) >>= _) = _
    cases upsertEntries entries (evenRows ordered) with
    | error fault => rfl
    | ok entries₁ =>
      show (keyAt (evenRows ordered) index >>= _) = _
      rw [rebalance_place h]
      rfl

theorem place_ok (h : Placeable entries ordered index) {key : String}
    (hplace : place entries ordered index = .ok (key, entries')) :
    ∃ ordered', Placed entries ordered index key entries' ordered' := by
  obtain ⟨values, hv, hkeys⟩ := h.keyed
  have hwithin : index ≤ values.length := hkeys.length ▸ h.within
  rw [place_eq h hv hkeys] at hplace
  by_cases hgap : lowerOf (beforeAt values index) + 1 < upperOf values[index]?
  · rw [if_pos hgap] at hplace
    cases hplace
    exact ⟨ordered, ⟨id, (List.map_id _).symm, fun _ => ⟨rfl, rfl, rfl⟩⟩,
      ⟨values, _, hkeys, rfl, hv.insert_middle hwithin hgap⟩, h.mem_iff⟩
  · rw [if_neg hgap] at hplace
    obtain ⟨entries₁, hupsert, hplace⟩ := map_eq_ok.mp hplace
    cases hplace
    have hids := ids_evenRows ordered
    refine ⟨evenRows ordered, ⟨_, rfl, fun _ => ⟨rfl, rfl, rfl⟩⟩,
      ⟨_, _, keyed_evenRows h.ids_nodup, rfl, ?_⟩, fun x => ?_⟩
    · have hlen : index ≤ (evenly ordered.length).length := by
        rw [length_evenly]
        exact h.within
      exact (keyValues_evenly h.bounded).insert_middle hlen (evenly_gap h.bounded h.within)
    · rw [← hids]
      refine upsertEntries_mem (by rw [hids]; exact h.ids_nodup) (fun row hrow => ?_) hupsert x
      obtain ⟨old, hold, rfl⟩ := List.mem_map.mp hrow
      exact h.found old hold

/-- **No place fails for want of a key**: a write may violate the unique index. -/
theorem place_error (h : Placeable entries ordered index) {fault : SliceFault}
    (hplace : place entries ordered index = .error fault) : ∃ c, fault = .constraint c := by
  obtain ⟨values, hv, hkeys⟩ := h.keyed
  rw [place_eq h hv hkeys] at hplace
  split at hplace
  · cases hplace
  · cases hupsert : upsertEntries entries (evenRows ordered) with
    | ok entries₁ =>
      rw [hupsert] at hplace
      cases hplace
    | error fault' =>
      rw [hupsert] at hplace
      cases hplace
      exact upsertEntries_error hupsert

/-! ## what stays arranged -/

theorem indexBefore_le (ids : List String) (before : Option String) : indexBefore ids before ≤ ids.length := by
  unfold indexBefore
  cases hfound : before.bind fun id => ids.findIdx? fun other => other = id with
  | none => exact le_rfl
  | some i =>
    obtain ⟨id, -, hidx⟩ := Option.bind_eq_some_iff.mp hfound
    obtain ⟨xs, a, ys, rfl, -, rfl⟩ := split_of_findIdx? hidx
    rw [List.length_append]
    exact Nat.le_add_right _ _

/-- The entries of a playlist among those that are kept. -/
theorem Keyed.sublist {rows' : List PlaylistEntryEntity} (hv : KeyValues values) (h : Keyed rows values)
    (hsub : rows'.Sublist rows) : ∃ values', KeyValues values' ∧ Keyed rows' values' := by
  have hkeys := hsub.map PlaylistEntryEntity.activePositionKey
  rw [h] at hkeys
  obtain ⟨values', hvalues, heq⟩ := List.sublist_map_iff.mp hkeys
  exact ⟨values', ⟨fun n hn => hv.encodable n (hvalues.subset hn), hv.sorted.sublist hvalues⟩, heq⟩

/-- The entries of another playlist. -/
theorem Arranged.other {playlistId' : String} (h : Arranged entries playlistId' rows)
    (hsame : ∀ x, ActiveIn playlistId' x → (x ∈ entries' ↔ x ∈ entries)) :
    Arranged entries' playlistId' rows := by
  refine ⟨fun row => (h.mem row).trans ?_, h.keyed, h.bounded⟩
  exact ⟨fun hr => ⟨(hsame row hr.2).mpr hr.1, hr.2⟩, fun hr => ⟨(hsame row hr.2).mp hr.1, hr.2⟩⟩

/-- A row that is put at the place. -/
theorem Placed.insert {key : String} {entries₁ : Table PlaylistEntryEntity}
    {ordered' : List PlaylistEntryEntity} (h : Placed entries ordered index key entries₁ ordered')
    (hwithin : index ≤ ordered.length) (hroom : ordered.length < maxPlaylistEntries)
    {row : PlaylistEntryEntity} (hrow : ActiveIn playlistId row) (hkey : row.activePositionKey = some key)
    (hin : ∀ x ∈ ordered, ActiveIn playlistId x)
    (hmem : ∀ x, ActiveIn playlistId x → (x ∈ entries' ↔ x ∈ ordered' ∨ x = row)) :
    Arranged entries' playlistId (ordered'.insertIdx index row) ∧
      (ordered'.insertIdx index row).map PlaylistEntryEntity.localPlaylistEntryId =
        (ordered.map PlaylistEntryEntity.localPlaylistEntryId).insertIdx index row.localPlaylistEntryId := by
  obtain ⟨f, rfl, hf⟩ := h.same
  obtain ⟨values, n, hkeyed, rfl, hvalues⟩ := h.keyed
  have hwithin' : index ≤ (ordered.map f).length := by
    rw [List.length_map]
    exact hwithin
  have hin' : ∀ x ∈ ordered.map f, ActiveIn playlistId x := by
    intro x hx
    obtain ⟨y, hy, rfl⟩ := List.mem_map.mp hx
    exact ⟨(hf y).2.1.trans (hin y hy).1, (hf y).2.2.trans (hin y hy).2⟩
  refine ⟨⟨fun x => ?_, ⟨_, hvalues, ?_⟩, ?_⟩, ?_⟩
  · rw [List.mem_insertIdx hwithin']
    constructor
    · rintro (rfl | hx)
      · exact ⟨(hmem x hrow).mpr (Or.inr rfl), hrow⟩
      · exact ⟨(hmem x (hin' x hx)).mpr (Or.inl hx), hin' x hx⟩
    · rintro ⟨hx, hactive⟩
      exact ((hmem x hactive).mp hx).symm
  · rw [List.map_insertIdx, List.map_insertIdx, hkeyed, hkey]
  · rw [List.length_insertIdx_of_le_length hwithin', List.length_map]
    exact hroom
  · rw [List.map_insertIdx, List.map_map]
    refine congrArg (fun ids : List String => ids.insertIdx index row.localPlaylistEntryId) ?_
    exact List.map_congr_left fun x _ => (hf x).1

/-! ## the commands -/

/-- The ids with one put before another, or at the end. -/
def insertBefore (ids : List String) (id : String) (beforeEntryId : Option String) : List String :=
  ids.insertIdx (indexBefore ids beforeEntryId) id

theorem refuse_ok {p : Prop} [Decidable p] {fault : SliceFault} : refuse p fault = .ok () ↔ ¬ p := by
  unfold refuse
  split
  · next h => exact ⟨nofun, fun hp => absurd h hp⟩
  · next h => exact ⟨fun _ => h, fun _ => rfl⟩

theorem orThrow_ok {α : Type} {fault : SliceFault} {a? : Option α} {a : α} :
    orThrow fault a? = .ok a ↔ a? = some a := by
  cases a? with
  | none => exact ⟨nofun, nofun⟩
  | some b => exact ⟨fun h => congrArg some (Except.ok.inj h), fun h => congrArg Except.ok (Option.some.inj h)⟩

/-- The faults of a command that could not find a key, or could not order its boundaries. -/
def SliceFault.OfKeys : SliceFault → Prop
  | .key _ => True
  | .noSuchElement => True
  | .nullKey => True
  | _ => False

theorem refuse_faults {p : Prop} [Decidable p] {fault fault' : SliceFault} (hf : ¬ fault.OfKeys)
    (h : refuse p fault = .error fault') : ¬ fault'.OfKeys := by
  unfold refuse at h
  split at h
  · cases h
    exact hf
  · cases h

theorem orThrow_faults {α : Type} {fault fault' : SliceFault} {a? : Option α} (hf : ¬ fault.OfKeys)
    (h : orThrow fault a? = .error fault') : ¬ fault'.OfKeys := by
  cases a? with
  | none =>
    cases h
    exact hf
  | some a => cases h

theorem constraint_faults {fault : SliceFault} (h : ∃ c, fault = .constraint c) : ¬ fault.OfKeys := by
  obtain ⟨c, rfl⟩ := h
  exact id

variable {db db' : LibraryDb} {binding beforeEntryId : Option String} {entryId trackRefId : String}
  {now sequence : Int} {fault : SliceFault}

theorem Arranged.placeable (h : Arranged entries playlistId rows) (hordered : ordered.Sublist rows)
    (hwithin : index ≤ ordered.length) : Placeable entries ordered index := by
  obtain ⟨values, hv, hkeys⟩ := h.keyed
  exact ⟨fun row hrow => ((h.mem row).mp (hordered.subset hrow)).1, Keyed.sublist hv hkeys hordered,
    hordered.length_le.trans h.bounded, hwithin⟩

theorem indexBefore_rows_le (rows : List PlaylistEntryEntity) (beforeEntryId : Option String) :
    indexBefore (rows.map PlaylistEntryEntity.localPlaylistEntryId) beforeEntryId ≤ rows.length := by
  have hle := indexBefore_le (rows.map PlaylistEntryEntity.localPlaylistEntryId) beforeEntryId
  rwa [List.length_map] at hle

/-- **An added entry** stands before the given one, and the rest as it did. -/
theorem addPlaylistEntry_ok (h : Arranged db.entries playlistId rows)
    (hadd : addPlaylistEntry binding playlistId entryId trackRefId beforeEntryId now sequence db = .ok db') :
    ∃ rows', Arranged db'.entries playlistId rows' ∧
      rows'.map PlaylistEntryEntity.localPlaylistEntryId =
        insertBefore (rows.map PlaylistEntryEntity.localPlaylistEntryId) entryId beforeEntryId := by
  obtain ⟨playlist, -, hadd⟩ := bind_eq_ok.mp hadd
  obtain ⟨-, -, hadd⟩ := bind_eq_ok.mp hadd
  obtain ⟨-, -, hadd⟩ := bind_eq_ok.mp hadd
  obtain ⟨track, -, hadd⟩ := bind_eq_ok.mp hadd
  obtain ⟨-, -, hadd⟩ := bind_eq_ok.mp hadd
  obtain ⟨⟨⟩, hroom, hadd⟩ := bind_eq_ok.mp hadd
  obtain ⟨⟨key, entries₁⟩, hplace, hadd⟩ := bind_eq_ok.mp hadd
  obtain ⟨entries₂, hinsert, hadd⟩ := bind_eq_ok.mp hadd
  cases hadd
  rw [h.active] at hroom hplace
  have hroom := not_le.mp (refuse_ok.mp hroom)
  have hplaceable := h.placeable (List.Sublist.refl rows) (indexBefore_rows_le rows beforeEntryId)
  obtain ⟨ordered', hplaced⟩ := place_ok hplaceable hplace
  have hmem : ∀ x, x ∈ entries₂ ↔ x ∈ entries₁ ∨
      x = addedEntry binding playlistId entryId trackRefId key now sequence :=
    fun x => Table.mem_insert (mapError_eq_ok.mp hinsert)
  have hin : ∀ x ∈ rows, ActiveIn playlistId x := fun x hx => ((h.mem x).mp hx).2
  have hactive : ∀ x, ActiveIn playlistId x → (x ∈ entries₂ ↔ x ∈ ordered' ∨
      x = addedEntry binding playlistId entryId trackRefId key now sequence) := by
    intro x hx
    rw [hmem, hplaced.mem]
    refine or_congr ⟨?_, Or.inr⟩ Iff.rfl
    rintro (⟨hin, hnot⟩ | hin)
    · exact absurd (List.mem_map_of_mem ((h.mem x).mpr ⟨hin, hx⟩)) hnot
    · exact hin
  obtain ⟨harranged, hids⟩ := hplaced.insert hplaceable.within hroom
    (show ActiveIn playlistId _ from ⟨rfl, rfl⟩) rfl hin hactive
  exact ⟨_, harranged, hids⟩

theorem addPlaylistEntry_faults (h : Arranged db.entries playlistId rows)
    (hadd : addPlaylistEntry binding playlistId entryId trackRefId beforeEntryId now sequence db =
      .error fault) : ¬ fault.OfKeys := by
  rcases bind_eq_error.mp hadd with hfail | ⟨playlist, -, hadd⟩
  · exact orThrow_faults id hfail
  rcases bind_eq_error.mp hadd with hfail | ⟨-, -, hadd⟩
  · exact refuse_faults id hfail
  rcases bind_eq_error.mp hadd with hfail | ⟨-, -, hadd⟩
  · exact refuse_faults id hfail
  rcases bind_eq_error.mp hadd with hfail | ⟨track, -, hadd⟩
  · exact orThrow_faults id hfail
  rcases bind_eq_error.mp hadd with hfail | ⟨-, -, hadd⟩
  · exact refuse_faults id hfail
  rcases bind_eq_error.mp hadd with hfail | ⟨-, -, hadd⟩
  · exact refuse_faults id hfail
  rcases bind_eq_error.mp hadd with hfail | ⟨⟨key, entries₁⟩, -, hadd⟩
  · rw [h.active] at hfail
    exact constraint_faults (place_error (h.placeable (List.Sublist.refl rows)
      (indexBefore_rows_le rows beforeEntryId)) hfail)
  rcases bind_eq_error.mp hadd with hfail | ⟨entries₂, -, hadd⟩
  · obtain ⟨c, -, rfl⟩ := mapError_eq_error.mp hfail
    exact id
  · cases hadd

/-- The entries but one. -/
def without (rows : List PlaylistEntryEntity) (entryId : String) : List PlaylistEntryEntity :=
  rows.filter fun other => other.localPlaylistEntryId ≠ entryId

theorem map_without (rows : List PlaylistEntryEntity) (entryId : String) :
    (without rows entryId).map PlaylistEntryEntity.localPlaylistEntryId =
      (rows.map PlaylistEntryEntity.localPlaylistEntryId).filter fun id => id ≠ entryId := by
  unfold without
  rw [List.filter_map]
  rfl

/-- **A moved entry** stands before the given one, and the rest as it did. -/
theorem reorderPlaylistEntry_ok {row : PlaylistEntryEntity} (hrow : db.entries.find entryId = some row)
    (h : Arranged db.entries row.localPlaylistId rows)
    (hmove : reorderPlaylistEntry binding entryId beforeEntryId sequence db = .ok db') :
    ∃ rows', Arranged db'.entries row.localPlaylistId rows' ∧
      rows'.map PlaylistEntryEntity.localPlaylistEntryId =
        insertBefore ((rows.map PlaylistEntryEntity.localPlaylistEntryId).filter fun id => id ≠ entryId)
          entryId beforeEntryId := by
  obtain ⟨row', hrow', hmove⟩ := bind_eq_ok.mp hmove
  obtain rfl : row = row' := Option.some.inj (hrow.symm.trans (orThrow_ok.mp hrow'))
  obtain ⟨-, -, hmove⟩ := bind_eq_ok.mp hmove
  obtain ⟨⟨⟩, hlive, hmove⟩ := bind_eq_ok.mp hmove
  obtain ⟨⟨key, entries₁⟩, hplace, hmove⟩ := bind_eq_ok.mp hmove
  obtain ⟨entries₂, hupsert, hmove⟩ := bind_eq_ok.mp hmove
  cases hmove
  rw [h.active] at hplace
  have hid : row.localPlaylistEntryId = entryId := Table.key_of_find hrow
  have hin : row ∈ db.entries := Table.mem_of_find hrow
  have hactive : ActiveIn row.localPlaylistId row := ⟨rfl, not_not.mp (refuse_ok.mp hlive)⟩
  have hplaceable : Placeable db.entries (without rows entryId)
      (indexBefore ((without rows entryId).map PlaylistEntryEntity.localPlaylistEntryId) beforeEntryId) :=
    h.placeable List.filter_sublist (indexBefore_rows_le _ beforeEntryId)
  obtain ⟨ordered', hplaced⟩ := place_ok hplaceable hplace
  have hfree : entryId ∉ (without rows entryId).map PlaylistEntryEntity.localPlaylistEntryId := by
    intro hmem
    obtain ⟨y, hy, heq⟩ := List.mem_map.mp hmem
    exact of_decide_eq_true (List.mem_filter.mp hy).2 heq
  have hkept : row ∈ entries₁ := (hplaced.mem row).mpr (Or.inl ⟨hin, hid ▸ hfree⟩)
  have hsome : (entries₁.find (movedEntry binding key sequence row).localPlaylistEntryId).isSome = true :=
    Option.isSome_iff_exists.mpr ⟨row, Table.find_mem hkept⟩
  have hrows := upsertEntry_ok hsome hupsert
  -- the rows after the last write
  have hmem : ∀ x, x ∈ entries₂ ↔ (x ∈ entries₁ ∧ x.localPlaylistEntryId ≠ entryId) ∨
      x = movedEntry binding key sequence row := by
    intro x
    rw [Table.mem_def, hrows, Table.mem_putRows]
    refine or_congr (and_congr Iff.rfl ?_) (and_iff_left ⟨row, hkept, rfl⟩)
    show x.localPlaylistEntryId ≠ row.localPlaylistEntryId ↔ _
    rw [hid]
  obtain ⟨f, rfl, hf⟩ := hplaced.same
  have hids : ∀ x ∈ (without rows entryId).map f, x.localPlaylistEntryId ≠ entryId := by
    intro x hx
    obtain ⟨y, hy, rfl⟩ := List.mem_map.mp hx
    rw [(hf y).1]
    exact of_decide_eq_true (List.mem_filter.mp hy).2
  have hother : ∀ x ∈ without rows entryId, ActiveIn row.localPlaylistId x :=
    fun x hx => ((h.mem x).mp (List.mem_of_mem_filter hx)).2
  have hroom : (without rows entryId).length < maxPlaylistEntries := by
    have hlt : (without rows entryId).length < rows.length := by
      refine List.length_filter_lt_length_iff_exists.mpr ⟨row, (h.mem row).mpr ⟨hin, hactive⟩, ?_⟩
      rw [hid]
      simp
    exact hlt.trans_le h.bounded
  have hafter : ∀ x, ActiveIn row.localPlaylistId x → (x ∈ entries₂ ↔
      x ∈ (without rows entryId).map f ∨ x = movedEntry binding key sequence row) := by
    intro x hx
    rw [hmem, hplaced.mem]
    refine or_congr ⟨?_, fun hx => ⟨Or.inr hx, hids x hx⟩⟩ Iff.rfl
    rintro ⟨⟨hx', hnot⟩ | hx', hne⟩
    · refine absurd (List.mem_map_of_mem (List.mem_filter.mpr ⟨(h.mem x).mpr ⟨hx', hx⟩, ?_⟩)) hnot
      exact decide_eq_true hne
    · exact hx'
  obtain ⟨harranged, hput⟩ := hplaced.insert hplaceable.within hroom
    (show ActiveIn row.localPlaylistId (movedEntry binding key sequence row) from hactive) rfl hother hafter
  refine ⟨_, harranged, hput.trans ?_⟩
  show List.insertIdx _ _ row.localPlaylistEntryId = _
  rw [hid, ← map_without]
  rfl

theorem reorderPlaylistEntry_faults
    (h : ∀ row, db.entries.find entryId = some row → ∃ rows, Arranged db.entries row.localPlaylistId rows)
    (hmove : reorderPlaylistEntry binding entryId beforeEntryId sequence db = .error fault) :
    ¬ fault.OfKeys := by
  rcases bind_eq_error.mp hmove with hfail | ⟨row, hrow, hmove⟩
  · exact orThrow_faults id hfail
  obtain ⟨rows, harranged⟩ := h row (orThrow_ok.mp hrow)
  rcases bind_eq_error.mp hmove with hfail | ⟨-, -, hmove⟩
  · exact refuse_faults id hfail
  rcases bind_eq_error.mp hmove with hfail | ⟨-, -, hmove⟩
  · exact refuse_faults id hfail
  rcases bind_eq_error.mp hmove with hfail | ⟨⟨key, entries₁⟩, -, hmove⟩
  · rw [harranged.active] at hfail
    have hsub : (without rows entryId).Sublist rows := List.filter_sublist
    exact constraint_faults (place_error (harranged.placeable hsub (indexBefore_rows_le _ beforeEntryId)) hfail)
  rcases bind_eq_error.mp hmove with hfail | ⟨entries₂, -, hmove⟩
  · exact constraint_faults (upsertEntry_error hfail)
  · cases hmove

/-! ## the other playlists -/

/-- The rows of the playlist are the same. -/
def SameIn (playlistId : String) (entries entries' : Table PlaylistEntryEntity) : Prop :=
  ∀ x, x.localPlaylistId = playlistId → (x ∈ entries' ↔ x ∈ entries)

/-- A row that is not the playlist's, with an id that none of its rows has. -/
def Foreign (playlistId : String) (entries : Table PlaylistEntryEntity) (row : PlaylistEntryEntity) : Prop :=
  row.localPlaylistId ≠ playlistId ∧
    ∀ x ∈ entries, x.localPlaylistId = playlistId → x.localPlaylistEntryId ≠ row.localPlaylistEntryId

theorem foreign_of_mem {row : PlaylistEntryEntity} (h : row ∈ entries) (hp : row.localPlaylistId ≠ playlistId) :
    Foreign playlistId entries row := by
  refine ⟨hp, fun x hx hxp hid => hp ?_⟩
  rw [← Table.eq_of_key hx h hid]
  exact hxp

/-- Only the place of the row matters, and its id. -/
theorem Foreign.of_eq {row row' : PlaylistEntryEntity} (h : Foreign playlistId entries row)
    (hid : row'.localPlaylistEntryId = row.localPlaylistEntryId)
    (hp : row'.localPlaylistId = row.localPlaylistId) : Foreign playlistId entries row' :=
  ⟨hp ▸ h.1, fun x hx hxp => hid ▸ h.2 x hx hxp⟩

theorem Foreign.same {row : PlaylistEntryEntity} (h : Foreign playlistId entries row)
    (hs : SameIn playlistId entries entries') : Foreign playlistId entries' row :=
  ⟨h.1, fun x hx hxp => h.2 x ((hs x hxp).mp hx) hxp⟩

theorem SameIn.trans {entries₁ : Table PlaylistEntryEntity} (h : SameIn playlistId entries entries₁)
    (h' : SameIn playlistId entries₁ entries') : SameIn playlistId entries entries' :=
  fun x hx => (h' x hx).trans (h x hx)

theorem insert_same {row : PlaylistEntryEntity} (hrow : row.localPlaylistId ≠ playlistId)
    (h : entries.insert row = .ok entries') : SameIn playlistId entries entries' := by
  intro x hx
  rw [Table.mem_insert h]
  refine or_iff_left fun heq => hrow ?_
  rw [← heq]
  exact hx

theorem upsertEntry_same {row : PlaylistEntryEntity} (hrow : Foreign playlistId entries row)
    (h : upsertEntry entries row = .ok entries') : SameIn playlistId entries entries' := by
  unfold upsertEntry at h
  split at h
  · next hins =>
    cases h
    exact insert_same hrow.1 hins
  split at h
  · intro x hx
    rw [Table.mem_update (mapError_eq_ok.mp h)]
    constructor
    · rintro (⟨hx', -⟩ | ⟨rfl, -⟩)
      · exact hx'
      · exact absurd hx hrow.1
    · exact fun hx' => Or.inl ⟨hx', hrow.2 x hx' hx⟩
  · cases h
    exact fun _ _ => Iff.rfl

theorem upsertEntries_same (hrows : ∀ row ∈ ordered, Foreign playlistId entries row)
    (h : upsertEntries entries ordered = .ok entries') : SameIn playlistId entries entries' := by
  induction ordered generalizing entries with
  | nil =>
    cases h
    exact fun _ _ => Iff.rfl
  | cons row ordered ih =>
    obtain ⟨entries₁, hfirst, h⟩ := bind_eq_ok.mp h
    have hsame := upsertEntry_same (hrows row List.mem_cons_self) hfirst
    exact hsame.trans (ih (fun other hother => (hrows other (List.mem_cons_of_mem _ hother)).same hsame) h)

theorem place_same {key : String} (hrows : ∀ row ∈ ordered, Foreign playlistId entries row)
    (h : place entries ordered index = .ok (key, entries')) : SameIn playlistId entries entries' := by
  obtain ⟨key?, -, h⟩ := bind_eq_ok.mp h
  cases key? with
  | some key =>
    cases h
    exact fun _ _ => Iff.rfl
  | none =>
    obtain ⟨keys, -, h⟩ := bind_eq_ok.mp h
    obtain ⟨ordered', hmap, h⟩ := bind_eq_ok.mp h
    obtain ⟨entries₁, hupsert, h⟩ := bind_eq_ok.mp h
    obtain ⟨key?, -, h⟩ := bind_eq_ok.mp h
    obtain ⟨key, -, h⟩ := bind_eq_ok.mp h
    cases h
    refine upsertEntries_same (fun row' hrow' => ?_) hupsert
    obtain ⟨row, hrow, heq⟩ := mem_of_mapM hmap hrow'
    obtain ⟨key, -, heq⟩ := bind_eq_ok.mp heq
    cases heq
    exact (hrows row hrow).of_eq rfl rfl

theorem mem_activeEntryList {limit : Nat} {row : PlaylistEntryEntity}
    (h : row ∈ activeEntryList entries playlistId limit) : row ∈ entries ∧ ActiveIn playlistId row := by
  have hrow := (List.mem_insertionSort _).mp (List.mem_of_mem_take h)
  exact ⟨List.mem_of_mem_filter hrow, of_decide_eq_true (List.mem_filter.mp hrow).2⟩

theorem addPlaylistEntry_same {other : String} (hother : other ≠ playlistId)
    (hadd : addPlaylistEntry binding other entryId trackRefId beforeEntryId now sequence db = .ok db') :
    SameIn playlistId db.entries db'.entries := by
  obtain ⟨playlist, -, hadd⟩ := bind_eq_ok.mp hadd
  obtain ⟨-, -, hadd⟩ := bind_eq_ok.mp hadd
  obtain ⟨-, -, hadd⟩ := bind_eq_ok.mp hadd
  obtain ⟨track, -, hadd⟩ := bind_eq_ok.mp hadd
  obtain ⟨-, -, hadd⟩ := bind_eq_ok.mp hadd
  obtain ⟨-, -, hadd⟩ := bind_eq_ok.mp hadd
  obtain ⟨⟨key, entries₁⟩, hplace, hadd⟩ := bind_eq_ok.mp hadd
  obtain ⟨entries₂, hinsert, hadd⟩ := bind_eq_ok.mp hadd
  cases hadd
  have hplaced : SameIn playlistId db.entries entries₁ := by
    refine place_same (fun row hrow => ?_) hplace
    obtain ⟨hin, hactive⟩ := mem_activeEntryList hrow
    exact foreign_of_mem hin (hactive.1.trans_ne hother)
  exact hplaced.trans (insert_same hother (mapError_eq_ok.mp hinsert))

theorem reorderPlaylistEntry_same {row : PlaylistEntryEntity} (hrow : db.entries.find entryId = some row)
    (hother : row.localPlaylistId ≠ playlistId)
    (hmove : reorderPlaylistEntry binding entryId beforeEntryId sequence db = .ok db') :
    SameIn playlistId db.entries db'.entries := by
  obtain ⟨row', hrow', hmove⟩ := bind_eq_ok.mp hmove
  obtain rfl : row = row' := Option.some.inj (hrow.symm.trans (orThrow_ok.mp hrow'))
  obtain ⟨-, -, hmove⟩ := bind_eq_ok.mp hmove
  obtain ⟨-, -, hmove⟩ := bind_eq_ok.mp hmove
  obtain ⟨⟨key, entries₁⟩, hplace, hmove⟩ := bind_eq_ok.mp hmove
  obtain ⟨entries₂, hupsert, hmove⟩ := bind_eq_ok.mp hmove
  cases hmove
  have hplaced : SameIn playlistId db.entries entries₁ := by
    refine place_same (fun other hmem => ?_) hplace
    obtain ⟨hin, hactive⟩ := mem_activeEntryList (List.mem_of_mem_filter hmem)
    exact foreign_of_mem hin (hactive.1.trans_ne hother)
  have hforeign := (foreign_of_mem (Table.mem_of_find hrow) hother).same hplaced
  have hmoved : Foreign playlistId entries₁ (movedEntry binding key sequence row) := hforeign.of_eq rfl rfl
  exact hplaced.trans (upsertEntry_same hmoved hupsert)

/-! ## runs -/

inductive Command
  | add (binding : Option String) (playlistId entryId trackRefId : String)
      (beforeEntryId : Option String) (now sequence : Int)
  | reorder (binding : Option String) (entryId : String) (beforeEntryId : Option String) (sequence : Int)

def Command.execute (db : LibraryDb) : Command → Except SliceFault LibraryDb
  | .add binding playlistId entryId trackRefId beforeEntryId now sequence =>
    addPlaylistEntry binding playlistId entryId trackRefId beforeEntryId now sequence db
  | .reorder binding entryId beforeEntryId sequence =>
    reorderPlaylistEntry binding entryId beforeEntryId sequence db

/-- The playlist that a command is about. -/
def Command.playlist (db : LibraryDb) : Command → Option String
  | .add _ playlistId _ _ _ _ _ => some playlistId
  | .reorder _ entryId _ _ => (db.entries.find entryId).map PlaylistEntryEntity.localPlaylistId

/-- The order that a command asks for. -/
def Command.intended (ids : List String) : Command → List String
  | .add _ _ entryId _ beforeEntryId _ _ => insertBefore ids entryId beforeEntryId
  | .reorder _ entryId beforeEntryId _ => insertBefore (ids.filter fun id => id ≠ entryId) entryId beforeEntryId

/-- The database and the intended order of a playlist after a command; a failed one is rolled back. -/
def commit (playlistId : String) (state : LibraryDb × List String) (command : Command) :
    LibraryDb × List String :=
  match command.execute state.1 with
  | .ok db => (db, if command.playlist state.1 = some playlistId then command.intended state.2 else state.2)
  | .error _ => state

/-- A playlist whose entries stand in this order. -/
def StandsIn (playlistId : String) (state : LibraryDb × List String) : Prop :=
  ∃ rows, Arranged state.1.entries playlistId rows ∧
    rows.map PlaylistEntryEntity.localPlaylistEntryId = state.2

variable {state : LibraryDb × List String} {command : Command}

theorem StandsIn.commit (h : StandsIn playlistId state) (command : Command) :
    StandsIn playlistId (commit playlistId state command) := by
  obtain ⟨rows, harranged, hids⟩ := h
  unfold Library.commit
  cases hrun : command.execute state.1 with
  | error fault => exact ⟨rows, harranged, hids⟩
  | ok db' =>
    have hown (hp : command.playlist state.1 = some playlistId) {rows' : List PlaylistEntryEntity}
        (harranged' : Arranged db'.entries playlistId rows')
        (hids' : rows'.map PlaylistEntryEntity.localPlaylistEntryId =
          command.intended (rows.map PlaylistEntryEntity.localPlaylistEntryId)) :
        StandsIn playlistId (db', if command.playlist state.1 = some playlistId then
          command.intended state.2 else state.2) := by
      rw [if_pos hp, ← hids]
      exact ⟨rows', harranged', hids'⟩
    have hother (hp : command.playlist state.1 ≠ some playlistId)
        (hsame : SameIn playlistId state.1.entries db'.entries) :
        StandsIn playlistId (db', if command.playlist state.1 = some playlistId then
          command.intended state.2 else state.2) := by
      rw [if_neg hp]
      exact ⟨rows, harranged.other fun x hx => hsame x hx.1, hids⟩
    cases command with
    | add binding p entryId trackRefId beforeEntryId now sequence =>
      by_cases hp : p = playlistId
      · subst hp
        obtain ⟨rows', harranged', hids'⟩ := addPlaylistEntry_ok harranged hrun
        exact hown rfl harranged' hids'
      · exact hother (fun heq => hp (Option.some.inj heq)) (addPlaylistEntry_same hp hrun)
    | reorder binding entryId beforeEntryId sequence =>
      obtain ⟨row, hrow, -⟩ := bind_eq_ok.mp hrun
      have hrow := orThrow_ok.mp hrow
      have hplaylist : (Command.reorder binding entryId beforeEntryId sequence).playlist state.1 =
          some row.localPlaylistId := congrArg (Option.map _) hrow
      by_cases hp : row.localPlaylistId = playlistId
      · subst hp
        obtain ⟨rows', harranged', hids'⟩ := reorderPlaylistEntry_ok hrow harranged hrun
        exact hown hplaylist harranged' hids'
      · exact hother (fun heq => hp (Option.some.inj (hplaylist.symm.trans heq)))
          (reorderPlaylistEntry_same hrow hp hrun)

theorem StandsIn.run (h : StandsIn playlistId state) (commands : List Command) :
    StandsIn playlistId (commands.foldl (Library.commit playlistId) state) := by
  induction commands generalizing state with
  | nil => exact h
  | cons command commands ih => exact ih (h.commit command)

/-- **No command on an arranged playlist fails for want of a key**, or finds its neighbours out of order. -/
theorem execute_faults (h : Arranged db.entries playlistId rows)
    (hp : ∀ other, command.playlist db = some other → other = playlistId)
    (hrun : command.execute db = .error fault) : ¬ fault.OfKeys := by
  cases command with
  | add binding p entryId trackRefId beforeEntryId now sequence =>
    obtain rfl := hp p rfl
    exact addPlaylistEntry_faults h hrun
  | reorder binding entryId beforeEntryId sequence =>
    refine reorderPlaylistEntry_faults (fun row hrow => ?_) hrun
    have hown := hp row.localPlaylistId (congrArg (Option.map _) hrow)
    rw [hown]
    exact ⟨rows, h⟩

theorem arranged_nil (h : ∀ row ∈ entries, ¬ ActiveIn playlistId row) : Arranged entries playlistId [] := by
  refine ⟨fun row => ?_, ⟨[], ⟨nofun, .nil⟩, rfl⟩, Nat.zero_le _⟩
  exact ⟨fun hr => absurd hr List.not_mem_nil, fun hr => absurd hr.2 (h row hr.1)⟩

theorem Arranged.keys (h : Arranged entries playlistId rows) :
    ∃ keys : List String, rows.map PlaylistEntryEntity.activePositionKey = keys.map some ∧
      keys.Pairwise (· < ·) := by
  obtain ⟨values, hv, hkeys⟩ := h.keyed
  refine ⟨values.map keyText, hkeys.trans List.map_map.symm, ?_⟩
  rw [List.pairwise_map]
  exact hv.sorted.imp_of_mem fun _ hn hlt => keyText_lt hlt (hv.encodable _ hn).lt

end

/-- **The position keys of a playlist**: a rebalanced list has increasing keys with room at every place,
`between` finds a key wherever there is one, and every run of the commands keeps the entries of the
playlist in the order that was asked for, and never fails for want of a key. -/
theorem position_laws :
    (∀ ids : List String, ids.length ≤ 10000 → ids.Nodup →
      ∃ keys, rebalance ids = .ok keys ∧ keys.map Prod.fst = ids ∧
        (keys.map Prod.snd).Pairwise (· < ·) ∧
        (∀ key ∈ keys.map Prod.snd, IsKey key ∧ key.toList.length = 16) ∧
        ∀ i ≤ ids.length, ∃ key, between (beforeAt (keys.map Prod.snd) i) (keys.map Prod.snd)[i]? =
          .ok (some key)) ∧
    (∀ before after : Option String, (∀ k ∈ before, IsKey k) → (∀ k ∈ after, IsKey k) →
      (∀ k ∈ before, ∀ k' ∈ after, k < k') →
      ∃ answer, between before after = .ok answer ∧
        (∀ k ∈ answer, IsKey k ∧ Between before k after) ∧
        (answer = none → ¬ ∃ k, IsKey k ∧ Between before k after)) ∧
    ∀ (playlistId : String) (start : LibraryDb) (commands : List Command),
      (∀ row ∈ start.entries, ¬ ActiveIn playlistId row) →
      ∀ db ids, commands.foldl (commit playlistId) (start, []) = (db, ids) →
        (∃ rows, ∃ keys : List String, activeEntryList db.entries playlistId maxPlaylistEntries = rows ∧
          (∀ row, row ∈ rows ↔ row ∈ db.entries ∧ ActiveIn playlistId row) ∧
          rows.map PlaylistEntryEntity.localPlaylistEntryId = ids ∧
          rows.map PlaylistEntryEntity.activePositionKey = keys.map some ∧
          keys.Pairwise (· < ·)) ∧
        ∀ command : Command, (∀ other, command.playlist db = some other → other = playlistId) →
          ∀ fault, command.execute db = .error fault → ¬ fault.OfKeys := by
  refine ⟨fun ids hlen hnodup => rebalance_laws hlen hnodup, fun before after hb ha h => between_laws hb ha h,
    fun playlistId start commands hempty db ids hrun => ?_⟩
  have hstart : StandsIn playlistId (start, []) := ⟨[], arranged_nil hempty, rfl⟩
  obtain ⟨rows, harranged, hids⟩ := hrun ▸ hstart.run commands
  obtain ⟨keys, hkeys, hsorted⟩ := harranged.keys
  exact ⟨⟨rows, keys, harranged.active, harranged.mem, hids, hkeys, hsorted⟩,
    fun command hp fault hrun => execute_faults harranged hp hrun⟩

/-! Two songs, the second put before the first. -/

namespace Sample

def start : LibraryDb where
  playlists := ⟨[⟨"playlist", none, legacyProfileId⟩], List.nodup_singleton _, by simp [Schema.index]⟩
  trackRefs := ⟨[⟨"track", legacyProfileId⟩], List.nodup_singleton _, by simp [Schema.index]⟩
  entries := ⟨[], .nil, fun _ h => absurd h List.not_mem_nil⟩

def commands : List Command :=
  [.add none "playlist" "first" "track" none 1 1, .add none "playlist" "second" "track" (some "first") 2 2]

def ran : LibraryDb × List String := commands.foldl (commit "playlist") (start, [])

theorem ran_ids : ran.2 = ["second", "first"] := by decide +kernel

end Sample

theorem position_laws_sample :
    ∃ rows, ∃ keys : List String, activeEntryList Sample.ran.1.entries "playlist" maxPlaylistEntries = rows ∧
      rows.map PlaylistEntryEntity.localPlaylistEntryId = ["second", "first"] ∧
      rows.map PlaylistEntryEntity.activePositionKey = keys.map some ∧ keys.Pairwise (· < ·) := by
  have hrun := position_laws.2.2 "playlist" Sample.start Sample.commands
    (fun _ hrow => absurd hrow List.not_mem_nil) Sample.ran.1 Sample.ran.2 rfl
  obtain ⟨⟨rows, keys, hactive, -, hids, hkeys, hsorted⟩, -⟩ := hrun
  exact ⟨rows, keys, hactive, hids.trans Sample.ran_ids, hkeys, hsorted⟩

end AutPlay.Library
