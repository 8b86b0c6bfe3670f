import AutPlay.Lib.Places
import AutPlay.Playback.QueueEditor

/-!
# What an edit of the queue keeps

* `Numbered`, `renumber`      positions from zero on, and giving them;
* `stored_written`            what is read back of the entries that an edit writes;
* `Changed`                   what each edit does to the entries, positions apart;
* `transform_made`            the lists that the edits make: the played part stays as it is;
* `edit_laws`                 an edit is stored with all of this, or nothing changed.
-/

set_option linter.unusedSectionVars false

namespace AutPlay.Playback

/-! ## positions -/

/-- The positions are `0, 1, ..` -/
def Numbered (rows : List QueueEntryEntity) : Prop :=
  ∀ (i : Nat) (row : QueueEntryEntity), rows[i]? = some row → row.position = i

/-- An entry without its position. -/
def unplaced (row : QueueEntryEntity) : QueueEntryEntity := { row with position := 0 }

section
variable {rows next : List QueueEntryEntity} {n : Nat}

theorem getElem?_renumber (rows : List QueueEntryEntity) (i : Nat) :
    (renumber rows)[i]? = rows[i]?.map (fun row => { row with position := i }) := by
  unfold renumber
  rw [List.getElem?_mapIdx]

theorem numbered_renumber (rows : List QueueEntryEntity) : Numbered (renumber rows) := by
  intro i row h
  rw [getElem?_renumber] at h
  obtain ⟨row', -, rfl⟩ := Option.map_eq_some_iff.mp h
  rfl

/-- Entries that stand where they stood keep their positions. -/
theorem renumber_take (hrows : Numbered rows) (h : next.take n = rows.take n) :
    (renumber next).take n = rows.take n := by
  refine List.ext_getElem? fun i => ?_
  rw [List.getElem?_take, List.getElem?_take]
  split
  next hi =>
    have hrow : next[i]? = rows[i]? := by
      have := congrArg (·[i]?) h
      simpa only [List.getElem?_take, if_pos hi] using this
    rw [getElem?_renumber, hrow]
    cases hget : rows[i]? with
    | none => rfl
    | some row => rw [Option.map_some, ← hrows i row hget]
  next => rfl

theorem map_renumber {β : Type} (f : QueueEntryEntity → β)
    (hf : ∀ (row : QueueEntryEntity) (p : Int), f { row with position := p } = f row) :
    (renumber rows).map f = rows.map f := by
  refine List.ext_getElem? fun i => ?_
  rw [List.getElem?_map, List.getElem?_map, getElem?_renumber]
  cases rows[i]? with
  | none => rfl
  | some row => exact congrArg some (hf row i)

theorem Numbered.sorted (h : Numbered rows) :
    rows.Pairwise (fun a b => a.position ≤ b.position) := by
  rw [List.pairwise_iff_getElem]
  intro i j hi hj hij
  rw [h i _ (List.getElem?_eq_getElem hi), h j _ (List.getElem?_eq_getElem hj)]
  omega

end

/-! ## what is written -/

theorem insertEntries_ok {entries entries' : Table QueueEntryEntity} {rows : List QueueEntryEntity}
    (h : insertEntries entries rows = .ok entries') : entries'.rows = entries.rows ++ rows := by
  induction rows generalizing entries with
  | nil =>
    cases h
    exact (List.append_nil _).symm
  | cons row rows ih =>
    obtain ⟨entries₁, hinsert, hrest⟩ := Result.bind_eq_ok.mp h
    have hrows := (Table.insert_ok.mp (Result.mapError_eq_ok.mp hinsert)).2.2
    rw [ih hrest, hrows, List.append_assoc]
    rfl

/-- The entries of a snapshot are those that were written last; other snapshots keep theirs. -/
theorem stored_written {db db' : QueueDb} {snapshotId : String} {next : List QueueEntryEntity}
    (hown : ∀ row ∈ next, row.queueSnapshotId = snapshotId) (hnext : Numbered next)
    (h : insertEntries (db.entries.eraseWhere (fun r => r.queueSnapshotId = snapshotId)) next =
      .ok db'.entries) :
    db'.stored snapshotId = next ∧ ∀ other, other ≠ snapshotId → db'.stored other = db.stored other := by
  have hrows := insertEntries_ok h
  rw [Table.eraseWhere_rows] at hrows
  unfold QueueDb.stored
  constructor
  · have hold : (db.entries.rows.filter (fun r => !decide (r.queueSnapshotId = snapshotId))).filter
        (fun r => decide (r.queueSnapshotId = snapshotId)) = [] := by
      rw [List.filter_filter, List.filter_eq_nil_iff]
      intro r _
      simp
    have hnew : next.filter (fun r => decide (r.queueSnapshotId = snapshotId)) = next :=
      List.filter_eq_self.mpr fun r hr => decide_eq_true (hown r hr)
    rw [hrows, List.filter_append, hold, hnew, List.nil_append]
    exact hnext.sorted.insertionSort_eq
  · intro other hother
    have hnew : next.filter (fun r => decide (r.queueSnapshotId = other)) = [] := by
      rw [List.filter_eq_nil_iff]
      intro r hr
      simpa [hown r hr] using hother.symm
    have hold : (db.entries.rows.filter (fun r => !decide (r.queueSnapshotId = snapshotId))).filter
        (fun r => decide (r.queueSnapshotId = other)) =
        db.entries.rows.filter (fun r => decide (r.queueSnapshotId = other)) := by
      rw [List.filter_filter]
      refine List.filter_congr fun r _ => ?_
      by_cases hr : r.queueSnapshotId = other
      · simp [hr, hother]
      · simp [hr]
    rw [hrows, List.filter_append, hold, hnew, List.append_nil]

/-! ## what the edits do -/

/-- What an edit makes of the entries `rows` with the current one at `current`. -/
def Changed (outside : Outside) (snapshotId : String) (current : Nat) (rows after : List QueueEntryEntity) :
    Call → Prop
  | .addNext entry _ => ∃ row, entry.toEntity outside snapshotId = .ok row ∧
      after = rows.take (current + 1) ++ row :: rows.drop (current + 1)
  | .addToEnd entry _ => ∃ row, entry.toEntity outside snapshotId = .ok row ∧ after = rows ++ [row]
  | .removeUpcoming entryId _ => ∃ before row rest, rows = before ++ row :: rest ∧
      row.queueEntryId = entryId ∧ current < before.length ∧ after = before ++ rest
  | .moveUpcoming entryId none _ => ∃ before row rest, rows = before ++ row :: rest ∧
      row.queueEntryId = entryId ∧ current < before.length ∧ after = before ++ rest ++ [row]
  | .moveUpcoming entryId (some beforeId) _ => ∃ before row rest left target right,
      rows = before ++ row :: rest ∧ row.queueEntryId = entryId ∧ current < before.length ∧
        before ++ rest = left ++ target :: right ∧ target.queueEntryId = beforeId ∧
          current < left.length ∧ after = left ++ row :: target :: right
  | .clearUpcoming _ => after = rows.take (current + 1)

/-- The list that an edit makes. -/
def Call.transform (outside : Outside) : Call → Transform
  | .addNext entry _ => insertNext outside entry
  | .addToEnd entry _ => appendEntry outside entry
  | .removeUpcoming entryId _ => removeEntry entryId
  | .moveUpcoming entryId beforeEntryId _ => moveEntry entryId beforeEntryId
  | .clearUpcoming _ => clearEntries

section
variable {α : Type} {p : α → Bool} {xs : List α}

theorem indexOfFirst_spec {current : Int} (hc : 0 ≤ current) (h : current ≤ indexOfFirst p xs) :
    ∃ before a rest, xs = before ++ a :: rest ∧ p a = true ∧
      indexOfFirst p xs = (before.length : Int) := by
  unfold indexOfFirst at h ⊢
  cases hfind : xs.findIdx? p with
  | none =>
    rw [hfind] at h
    change current ≤ -1 at h
    omega
  | some index =>
    obtain ⟨before, a, rest, hxs, ha, rfl⟩ := split_of_findIdx? hfind
    exact ⟨before, a, rest, hxs, ha, rfl⟩

/-- Lists that begin alike have the same first elements. -/
theorem take_append_congr {n : Nat} {ys zs : List α} (h : n ≤ xs.length) :
    (xs ++ ys).take n = (xs ++ zs).take n := by
  rw [List.take_append_of_le_length h, List.take_append_of_le_length h]

end

theorem require_ok {p : Prop} [Decidable p] {failure : Failure} {u : Unit} :
    require p failure = .ok u ↔ p := by
  unfold require
  split
  next h => exact ⟨fun _ => h, fun _ => rfl⟩
  next h => exact ⟨fun hc => (by cases hc), fun hc => absurd hc h⟩

theorem toEntity_snapshotId {outside : Outside} {entry : NewPlaybackQueueEntry} {snapshotId : String}
    {row : QueueEntryEntity} (h : entry.toEntity outside snapshotId = .ok row) :
    row.queueSnapshotId = snapshotId := by
  unfold NewPlaybackQueueEntry.toEntity at h
  obtain ⟨canonical, -, h⟩ := Result.bind_eq_ok.mp h
  obtain ⟨requestId, -, h⟩ := Result.bind_eq_ok.mp h
  obtain ⟨-, -, h⟩ := Result.bind_eq_ok.mp h
  obtain ⟨-, -, h⟩ := Result.bind_eq_ok.mp h
  cases h
  rfl

section
variable {outside : Outside} {snapshot : QueueSnapshotEntity} {rows next : List QueueEntryEntity}
  {current : Nat}

/-- The list of an edit: the part up to the current entry is the old one. -/
structure Made (outside : Outside) (snapshotId : String) (current : Nat) (rows next : List QueueEntryEntity)
    (call : Call) : Prop where
  played : next.take (current + 1) = rows.take (current + 1)
  own : ∀ row ∈ next, row.queueSnapshotId = snapshotId
  changed : Changed outside snapshotId current rows next call

theorem insertNext_made {entry : NewPlaybackQueueEntry} {expected : Option String}
    (hk : current < rows.length) (hown : ∀ row ∈ rows, row.queueSnapshotId = snapshot.queueSnapshotId)
    (h : insertNext outside entry snapshot rows current = .ok next) :
    Made outside snapshot.queueSnapshotId current rows next (.addNext entry expected) := by
  obtain ⟨row, hrow, h⟩ := Result.bind_eq_ok.mp h
  have hplace : (max 0 (min ((current : Int) + 1) rows.length)).toNat = current + 1 := by omega
  have hnext : next = rows.take (current + 1) ++ row :: rows.drop (current + 1) := by
    cases h
    rw [hplace, insertIdx_eq_take_append hk]
  refine ⟨?_, fun r hr => ?_, row, hrow, hnext⟩
  · have hle : current + 1 ≤ (rows.take (current + 1)).length := by
      rw [List.length_take]
      omega
    rw [hnext, List.take_append_of_le_length hle, List.take_take, Nat.min_self]
  · rw [hnext] at hr
    rcases List.mem_append.mp hr with h' | h'
    · exact hown r (List.mem_of_mem_take h')
    · rcases List.mem_cons.mp h' with rfl | h'
      · exact toEntity_snapshotId hrow
      · exact hown r (List.mem_of_mem_drop h')

theorem appendEntry_made {entry : NewPlaybackQueueEntry} {expected : Option String}
    (hk : current < rows.length) (hown : ∀ row ∈ rows, row.queueSnapshotId = snapshot.queueSnapshotId)
    (h : appendEntry outside entry snapshot rows current = .ok next) :
    Made outside snapshot.queueSnapshotId current rows next (.addToEnd entry expected) := by
  obtain ⟨row, hrow, h⟩ := Result.bind_eq_ok.mp h
  cases h
  refine ⟨?_, fun r hr => ?_, row, hrow, rfl⟩
  · exact List.take_append_of_le_length hk
  · rcases List.mem_append.mp hr with h' | h'
    · exact hown r h'
    · rw [List.mem_singleton.mp h']
      exact toEntity_snapshotId hrow

theorem removeEntry_made {entryId expected : String}
    (hown : ∀ row ∈ rows, row.queueSnapshotId = snapshot.queueSnapshotId)
    (h : removeEntry entryId snapshot rows current = .ok next) :
    Made outside snapshot.queueSnapshotId current rows next (.removeUpcoming entryId expected) := by
  obtain ⟨_, hafter, h⟩ := Result.bind_eq_ok.mp h
  rw [require_ok] at hafter
  obtain ⟨before, row, rest, rfl, hid, hindex⟩ := indexOfFirst_spec (by omega) (Int.le_of_lt hafter)
  rw [hindex] at hafter h
  cases h
  have hlt : current < before.length := by omega
  rw [Int.toNat_natCast, eraseIdx_append_length]
  refine ⟨take_append_congr hlt, fun r hr => hown r ?_, before, row, rest, rfl, of_decide_eq_true hid, hlt, rfl⟩
  rcases List.mem_append.mp hr with h' | h'
  · exact List.mem_append_left _ h'
  · exact List.mem_append_right _ (List.mem_cons_of_mem _ h')

theorem moveEntry_made {entryId expected : String} {beforeEntryId : Option String}
    (hown : ∀ row ∈ rows, row.queueSnapshotId = snapshot.queueSnapshotId)
    (h : moveEntry entryId beforeEntryId snapshot rows current = .ok next) :
    Made outside snapshot.queueSnapshotId current rows next
      (.moveUpcoming entryId beforeEntryId expected) := by
  obtain ⟨_, hafter, h⟩ := Result.bind_eq_ok.mp h
  rw [require_ok] at hafter
  obtain ⟨before, row, rest, rfl, hid, hindex⟩ := indexOfFirst_spec (by omega) (Int.le_of_lt hafter)
  obtain ⟨⟨moving, others⟩, hremove, h⟩ := Result.bind_eq_ok.mp h
  rw [hindex] at hafter hremove
  rw [Int.toNat_natCast] at hremove
  unfold removeAt at hremove
  rw [getElem?_append_length, eraseIdx_append_length] at hremove
  cases hremove
  obtain ⟨_, htarget, h⟩ := Result.bind_eq_ok.mp h
  rw [require_ok] at htarget
  cases h
  have hid : row.queueEntryId = entryId := of_decide_eq_true hid
  have hlt : current < before.length := by omega
  have hmem : ∀ r ∈ before ++ rest, r ∈ before ++ row :: rest := by
    intro r hr
    rcases List.mem_append.mp hr with h' | h'
    · exact List.mem_append_left _ h'
    · exact List.mem_append_right _ (List.mem_cons_of_mem _ h')
  have hrow : row.queueSnapshotId = snapshot.queueSnapshotId := hown row (by simp)
  cases beforeEntryId with
  | none =>
    have hend : ((before ++ rest).insertIdx (destinationOf (before ++ rest) none).toNat row) =
        before ++ rest ++ [row] := by
      show (before ++ rest).insertIdx (before ++ rest).length row = _
      rw [List.insertIdx_length_self]
    rw [hend]
    refine ⟨?_, fun r hr => ?_, before, row, rest, rfl, hid, hlt, rfl⟩
    · rw [List.append_assoc]
      exact take_append_congr hlt
    · rcases List.mem_append.mp hr with h' | h'
      · exact hown r (hmem r h')
      · rw [List.mem_singleton.mp h']
        exact hrow
  | some beforeId =>
    obtain ⟨left, target, right, hsplit, hbefore, hdestination⟩ :
        ∃ left target right, before ++ rest = left ++ target :: right ∧
          decide (target.queueEntryId = beforeId) = true ∧
            destinationOf (before ++ rest) (some beforeId) = (left.length : Int) :=
      indexOfFirst_spec (le_refl 0) (not_lt.mp fun hneg => htarget (Or.inr hneg))
    rw [hdestination] at htarget ⊢
    have hplace : current < left.length := by
      by_contra hle
      exact htarget (Or.inl (by omega))
    have hinsert : (before ++ rest).insertIdx (left.length : Int).toNat row =
        left ++ row :: target :: right := by
      rw [hsplit, Int.toNat_natCast, insertIdx_append_length]
    rw [hinsert]
    refine ⟨?_, fun r hr => ?_, before, row, rest, left, target, right, rfl, hid, hlt, hsplit,
      of_decide_eq_true hbefore, hplace, rfl⟩
    · calc (left ++ row :: target :: right).take (current + 1)
          = (left ++ target :: right).take (current + 1) := take_append_congr hplace
        _ = (before ++ rest).take (current + 1) := by rw [hsplit]
        _ = (before ++ row :: rest).take (current + 1) := take_append_congr hlt
    · rcases List.mem_append.mp hr with h' | h'
      · exact hown r (hmem r (hsplit ▸ List.mem_append_left _ h'))
      · rcases List.mem_cons.mp h' with rfl | h'
        · exact hrow
        · exact hown r (hmem r (hsplit ▸ List.mem_append_right _ h'))

theorem clearEntries_made {expected : String}
    (hown : ∀ row ∈ rows, row.queueSnapshotId = snapshot.queueSnapshotId)
    (h : clearEntries snapshot rows current = .ok next) :
    Made outside snapshot.queueSnapshotId current rows next (.clearUpcoming expected) := by
  cases h
  have hnat : ((current : Int) + 1).toNat = current + 1 := by omega
  rw [hnat]
  refine ⟨?_, fun r hr => hown r (List.mem_of_mem_take hr), rfl⟩
  rw [List.take_take, Nat.min_self]

/-- Every edit leaves the played part alone and does what it is asked for. -/
theorem transform_made {call : Call} (hk : current < rows.length)
    (hown : ∀ row ∈ rows, row.queueSnapshotId = snapshot.queueSnapshotId)
    (h : call.transform outside snapshot rows current = .ok next) :
    Made outside snapshot.queueSnapshotId current rows next call := by
  cases call with
  | addNext entry expected => exact insertNext_made hk hown h
  | addToEnd entry expected => exact appendEntry_made hk hown h
  | removeUpcoming entryId expected => exact removeEntry_made hown h
  | moveUpcoming entryId beforeEntryId expected => exact moveEntry_made hown h
  | clearUpcoming expected => exact clearEntries_made hown h

end

/-! ## the laws -/

/-- An active queue with its entries and the place of the current one. -/
structure Editable (db : QueueDb) (snapshot : QueueSnapshotEntity) (rows : List QueueEntryEntity)
    (current : Nat) : Prop where
  active : db.activeSnapshotOnce = some snapshot
  stored : db.stored snapshot.queueSnapshotId = rows
  numbered : Numbered rows
  bounded : rows.length ≤ maxQueueEntries
  playing : ∃ row, rows[current]? = some row ∧ snapshot.currentEntryId = some row.queueEntryId

/-- What is stored after an edit. -/
structure Edited (outside : Outside) (db db' : QueueDb) (snapshotId : String) (current : Nat)
    (rows : List QueueEntryEntity) (call : Call) : Prop where
  played : (db'.stored snapshotId).take (current + 1) = rows.take (current + 1)
  numbered : Numbered (db'.stored snapshotId)
  distinct : ((db'.stored snapshotId).map QueueEntryEntity.queueEntryId).Nodup
  bounded : (db'.stored snapshotId).length ≤ maxQueueEntries
  changed : ∃ next, Changed outside snapshotId current rows next call ∧
    (db'.stored snapshotId).map unplaced = next.map unplaced
  others : ∀ other, other ≠ snapshotId → db'.stored other = db.stored other

section
variable {outside : Outside} {db db' : QueueDb} {snapshot : QueueSnapshotEntity}
  {rows : List QueueEntryEntity} {current : Nat}

theorem stored_snapshotId {snapshotId : String} :
    ∀ row ∈ db.stored snapshotId, row.queueSnapshotId = snapshotId := by
  intro row hrow
  simpa using (List.mem_filter.mp ((List.mem_insertionSort _).mp hrow)).2

theorem stored_nodup (db : QueueDb) (snapshotId : String) :
    ((db.stored snapshotId).map QueueEntryEntity.queueEntryId).Nodup := by
  have hperm := (List.perm_insertionSort (fun a b : QueueEntryEntity => a.position ≤ b.position)
    (db.entries.rows.filter (fun r => r.queueSnapshotId = snapshotId))).map QueueEntryEntity.queueEntryId
  refine hperm.nodup_iff.mpr ((List.filter_sublist.map _).nodup ?_)
  exact db.entries.nodup

namespace Editable

theorem currentIndex (h : Editable db snapshot rows current) :
    indexOfFirst (fun r => some r.queueEntryId = snapshot.currentEntryId) rows = (current : Int) := by
  obtain ⟨row, hrow, hcurrent⟩ := h.playing
  have hnodup := stored_nodup db snapshot.queueSnapshotId
  rw [h.stored] at hnodup
  obtain ⟨before, rest, rfl, rfl⟩ := split_of_getElem? hrow
  have hfirst : ∀ r ∈ before, decide (some r.queueEntryId = snapshot.currentEntryId) = false := by
    intro r hr
    rw [List.map_append, List.nodup_append] at hnodup
    refine decide_eq_false fun heq => hnodup.2.2 _ (List.mem_map_of_mem hr) row.queueEntryId (by simp) ?_
    rw [hcurrent] at heq
    exact Option.some.inj heq
  have hfind : (before ++ row :: rest).findIdx? (fun r => some r.queueEntryId = snapshot.currentEntryId) =
      some before.length := findIdx?_append_length (decide_eq_true hcurrent.symm) hfirst
  unfold indexOfFirst
  rw [hfind]

/-- A transaction that commits has written the list of the edit. -/
theorem editSnapshot_edited (h : Editable db snapshot rows current) {call : Call}
    {expectedProfileId expectedSnapshotId : Option String}
    (hedit : editSnapshot outside db expectedProfileId expectedSnapshotId (call.transform outside)
      snapshot = .ok db') :
    Edited outside db db' snapshot.queueSnapshotId current rows call := by
  have hrows : db.entriesOf snapshot.queueSnapshotId maxQueueEntries = rows := by
    unfold QueueDb.entriesOf
    rw [h.stored, List.take_of_length_le h.bounded]
  unfold editSnapshot at hedit
  obtain ⟨_, -, hedit⟩ := Result.bind_eq_ok.mp hedit
  obtain ⟨_, -, hedit⟩ := Result.bind_eq_ok.mp hedit
  obtain ⟨_, -, hedit⟩ := Result.bind_eq_ok.mp hedit
  obtain ⟨_, -, hedit⟩ := Result.bind_eq_ok.mp hedit
  obtain ⟨_, -, hedit⟩ := Result.bind_eq_ok.mp hedit
  rw [hrows, h.currentIndex] at hedit
  obtain ⟨next, hnext, hedit⟩ := Result.bind_eq_ok.mp hedit
  obtain ⟨_, hvalid, hedit⟩ := Result.bind_eq_ok.mp hedit
  obtain ⟨_, -, hedit⟩ := Result.bind_eq_ok.mp hedit
  obtain ⟨entries, hinsert, hedit⟩ := Result.bind_eq_ok.mp hedit
  obtain ⟨snapshots, -, hedit⟩ := Result.bind_eq_ok.mp hedit
  cases hedit
  rw [require_ok] at hvalid
  obtain ⟨row, hrow, -⟩ := h.playing
  have hlt : current < rows.length := (List.getElem?_eq_some_iff.mp hrow).1
  have hmade := transform_made hlt (h.stored ▸ stored_snapshotId) hnext
  have hown : ∀ r ∈ renumber next, r.queueSnapshotId = snapshot.queueSnapshotId := by
    intro r hr
    have hmem : r.queueSnapshotId ∈ (renumber next).map QueueEntryEntity.queueSnapshotId :=
      List.mem_map_of_mem hr
    rw [map_renumber _ fun _ _ => rfl] at hmem
    obtain ⟨r', hr', heq⟩ := List.mem_map.mp hmem
    rw [← heq]
    exact hmade.own r' hr'
  obtain ⟨hstored, hothers⟩ :=
    @stored_written db { db with snapshots, entries } _ _ hown (numbered_renumber next) hinsert
  refine ⟨?_, ?_, ?_, ?_, ⟨next, hmade.changed, ?_⟩, hothers⟩
  · rw [hstored]
    exact renumber_take h.numbered hmade.played
  · rw [hstored]
    exact numbered_renumber next
  · rw [hstored, map_renumber _ fun _ _ => rfl]
    by_contra hdup
    exact hvalid (Or.inr (Or.inr hdup))
  · rw [hstored]
    unfold renumber
    rw [List.length_mapIdx]
    exact not_lt.mp fun hlong => hvalid (Or.inr (Or.inl hlong))
  · rw [hstored]
    exact map_renumber _ fun _ _ => rfl

theorem perform_eq (h : Editable db snapshot rows current) (outside : Outside)
    (expectedProfileId : Option String) (call : Call) : ∃ expectedSnapshotId, perform outside db expectedProfileId call =
      edit outside db expectedProfileId expectedSnapshotId (call.transform outside) := by
  have hadd : ∀ expectedSnapshotId entry transform,
      add outside db expectedProfileId expectedSnapshotId entry transform =
        edit outside db expectedProfileId expectedSnapshotId transform := by
    intro expectedSnapshotId entry transform
    unfold add
    rw [h.active]
  cases call with
  | addNext entry expected => exact ⟨expected, hadd _ _ _⟩
  | addToEnd entry expected => exact ⟨expected, hadd _ _ _⟩
  | removeUpcoming entryId expected => exact ⟨some expected, rfl⟩
  | moveUpcoming entryId beforeEntryId expected => exact ⟨some expected, rfl⟩
  | clearUpcoming expected => exact ⟨some expected, rfl⟩

end Editable

/-- **Queue edits**: a call that returns has stored its edit and nothing else; so has one whose only
failure is that the player could not be told, after the commit; one that throws before has changed
nothing. -/
theorem edit_laws (h : Editable db snapshot rows current) {expectedProfileId : Option String}
    {call : Call} {outcome : Except Thrown QueueEditResult}
    (hcall : perform outside db expectedProfileId call = (outcome, db')) :
    (∀ result, outcome = .ok result →
      Edited outside db db' snapshot.queueSnapshotId current rows call) ∧
    (∀ failure, outcome = .error (.transaction failure) → db' = db) ∧
    (outcome = .error .dispatch →
      Edited outside db db' snapshot.queueSnapshotId current rows call) := by
  obtain ⟨expectedSnapshotId, heq⟩ := h.perform_eq outside expectedProfileId call
  rw [heq] at hcall
  unfold edit at hcall
  rw [h.active] at hcall
  cases hedit : editSnapshot outside db expectedProfileId expectedSnapshotId (call.transform outside)
      snapshot with
  | error failure =>
    simp only [hedit] at hcall
    cases hcall
    exact ⟨fun _ hok => (by cases hok), fun _ _ => rfl, fun hd => (by cases hd)⟩
  | ok db₁ =>
    simp only [hedit] at hcall
    cases hcall
    have hedited := h.editSnapshot_edited hedit
    refine ⟨fun _ _ => hedited, fun failure herror => ?_, fun _ => hedited⟩
    split at herror
    · cases herror
    · cases herror

end

/-! ## a player that cannot be told -/

section

/-- A track of the library in two entries, the first of which plays. -/
def someEntry (queueEntryId : String) (position : Int) : QueueEntryEntity :=
  { queueEntryId
    queueSnapshotId := "queue"
    localUserTrackRefId := "track"
    position
    sourceOrigin := "SEARCH"
    recommendationRequestId := none
    sourceAudioPolicy := "ANY"
    createdAtMs := 0
    recommendationAttributionJson := none }

def someSnapshot : QueueSnapshotEntity :=
  { queueSnapshotId := "queue"
    queueType := "USER"
    sourceContextId := none
    currentEntryId := some "first"
    currentPositionMs := 0
    shuffleMode := "OFF"
    repeatMode := "OFF"
    seed := none
    generationVersion := none
    isActive := true
    activeSlot := some "ACTIVE"
    createdAtMs := 0
    updatedAtMs := 0
    serverProfileId := none
    listeningContext := "GENERAL" }

def someQueue : QueueDb where
  snapshots := ⟨[someSnapshot], by decide, by decide⟩
  entries := ⟨[someEntry "first" 0, someEntry "second" 1], by decide, by decide⟩
  trackRefs := ⟨[("track", ⟨legacyUnscopedProfile, none⟩)], by decide⟩

/-- The player's owner throws, as it may when the app is not in the foreground. -/
def untold : Outside where
  canonicalize := some
  requestId := fun _ => some none
  nowMs := 1
  random := "random"
  dispatch := fun _ => false

theorem someQueue_editable :
    Editable someQueue someSnapshot [someEntry "first" 0, someEntry "second" 1] 0 := by
  refine ⟨by decide, by decide, fun i row hrow => ?_, by decide, _, rfl, rfl⟩
  match i with
  | 0 => cases hrow; rfl
  | 1 => cases hrow; rfl

/-- The queue is cleared and the call throws. -/
theorem edit_stored_and_thrown :
    Editable someQueue someSnapshot [someEntry "first" 0, someEntry "second" 1] 0 ∧
      ∃ db', perform untold someQueue none (.clearUpcoming "queue") = (.error .dispatch, db') ∧
        db'.stored "queue" ≠ someQueue.stored "queue" :=
  ⟨someQueue_editable, _, rfl, by decide⟩

def told : Outside := { untold with dispatch := fun _ => true }

theorem edit_laws_cleared : ∃ db',
    perform told someQueue none (.clearUpcoming "queue") = (.ok ⟨"queue", false⟩, db') ∧
      Edited told someQueue db' "queue" 0 [someEntry "first" 0, someEntry "second" 1]
        (.clearUpcoming "queue") := by
  have hcall : perform told someQueue none (.clearUpcoming "queue") =
      (.ok ⟨"queue", false⟩, (perform told someQueue none (.clearUpcoming "queue")).2) := rfl
  exact ⟨_, hcall, (edit_laws someQueue_editable hcall).1 _ rfl⟩

end

end AutPlay.Playback
