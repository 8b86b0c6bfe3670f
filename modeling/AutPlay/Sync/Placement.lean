import AutPlay.Sync.Rebalance
import AutPlay.Sync.Inbox
import AutPlay.Lib.Places
import AutPlay.Lib.SortKeys

/-!
# Placing an entry of a playlist

What `_playlist_position` promises, and when it is kept.

* `target`              the order that is asked for;
* `PlacementLaws`       the keys bring it about, only wrong ones are written, and no write makes two
                        active entries of one key;
* `placementLaws_iff`   they hold unless the playlist outgrows the padding of the keys, or an entry
                        holds the temporary key of another that is to be re-keyed.

Of the collation only this is used: where two texts first differ in a digit, the digit orders them.
-/

set_option linter.unusedSectionVars false

namespace AutPlay.Sync
open Result

/-! ## what is asked for -/

/-- Texts that first differ in a digit are ordered by it. -/
def DigitsDecide (env : Env) : Prop :=
  ∀ (p s t : List Char) (c d : Char), (∀ x ∈ p, x.isDigit = true) → c.isDigit = true →
    d.isDigit = true → c < d →
      env.collate (String.ofList (p ++ c :: s)) (String.ofList (p ++ d :: t)) = true ∧
        env.collate (String.ofList (p ++ d :: t)) (String.ofList (p ++ c :: s)) = false

/-- `ORDER BY position_key, playlist_entry_id`, of identifiers with their keys. -/
def keyLe (env : Env) (a b : Uuid × String) : Prop :=
  if a.2 = b.2 then a.1 ≤ b.1 else env.collate a.2 b.2 = true

instance decidableRelKeyLe (env : Env) : DecidableRel (keyLe env) := fun a b =>
  inferInstanceAs (Decidable (if a.2 = b.2 then _ else _))

/-- The active entries but one. -/
def others (rows : List PlaylistEntryRow) (selfId : Uuid) : List PlaylistEntryRow :=
  rows.filter (fun r => r.playlistEntryId ≠ selfId)

/-- The entries in their order, with one of them moved in front of `before` or to the end. -/
def target (rows : List PlaylistEntryRow) (selfId : Uuid) : Option Uuid → List Uuid
  | none => (others rows selfId).map PlaylistEntryRow.playlistEntryId ++ [selfId]
  | some before =>
    ((others rows selfId).map PlaylistEntryRow.playlistEntryId).takeWhile (· ≠ before) ++
      selfId :: ((others rows selfId).map PlaylistEntryRow.playlistEntryId).dropWhile (· ≠ before)

/-- The key of an entry is that of its place. -/
def KeyRight (order : List Uuid) (r : PlaylistEntryRow) : Prop :=
  ∃ i, order[i]? = some r.playlistEntryId ∧ r.positionKey = positionText i r.playlistEntryId

/-- What the first flush writes for some of the entries. -/
def temporaries (written : List PlaylistEntryRow) : List (Uuid × String) :=
  written.map fun r => (r.playlistEntryId, rebalanceText r.playlistEntryId)

/-- What the second flush writes for some of the entries. -/
def PositionPlan.finals (plan : PositionPlan) (written : List PlaylistEntryRow) :
    List (Uuid × String) :=
  written.filterMap fun r =>
    (plan.desired.lookup r.playlistEntryId).map fun key => (r.playlistEntryId, key)

/-- An entry after both flushes. -/
def PositionPlan.after (plan : PositionPlan) (r : PlaylistEntryRow) : PlaylistEntryRow :=
  applyKeys (plan.finals plan.changed) (applyKeys (temporaries plan.changed) r)

/-- The moved entry and the others with the keys that they have in the end. -/
def PositionPlan.keysAfter (plan : PositionPlan) (rows : List PlaylistEntryRow) (selfId : Uuid) :
    List (Uuid × String) :=
  (selfId, plan.positionKey) ::
    (others rows selfId).map fun r => (r.playlistEntryId, (plan.after r).positionKey)

/-- No two entries have one key. -/
def KeysDistinct (rows : List PlaylistEntryRow) : Prop :=
  (rows.map PlaylistEntryRow.positionKey).Nodup

structure PlacementLaws (env : Env) (rows : List PlaylistEntryRow) (selfId : Uuid)
    (order : List Uuid) (plan : PositionPlan) : Prop where
  ordered : ((plan.keysAfter rows selfId).insertionSort (keyLe env)).map Prod.fst = order
  distinct : ((plan.keysAfter rows selfId).map Prod.snd).Nodup
  /-- A moved entry that is active ends with the key that is returned for it. -/
  moved : ∀ r ∈ rows, r.playlistEntryId = selfId → (plan.after r).positionKey = plan.positionKey
  untouched : ∀ r ∈ rows, KeyRight order r → r ∉ plan.changed ∧ plan.after r = r
  returned : (plan.rebalanced selfId).Nodup ∧ ∀ r ∈ rows, r.playlistEntryId ∈ plan.rebalanced selfId ↔
    r.playlistEntryId ≠ selfId ∧ plan.after r ≠ r
  /-- While the first flush writes the entries in some order. -/
  first : ∀ written : List PlaylistEntryRow, written.Perm plan.changed → ∀ n,
    KeysDistinct (rows.map (applyKeys (temporaries (written.take n))))
  second : ∀ written : List PlaylistEntryRow, written.Perm plan.changed → ∀ n, KeysDistinct
    ((rows.map (applyKeys (temporaries plan.changed))).map
      (applyKeys (plan.finals (written.take n))))

/-! ## padded keys -/

theorem toList_positionText (i : Nat) (id : Uuid) :
    (positionText i id).toList = (pad8 i).toList ++ (':' :: id.text.toList) := by
  unfold positionText
  rw [String.toList_append, String.toList_append, List.append_assoc]
  rfl

theorem toList_pad8 {n : Nat} (h : n < 10 ^ 8) : (pad8 n).toList = digits 8 n := by
  unfold pad8
  rw [String.toList_append, String.toList_ofList, ← String.length_toList, Nat.toList_repr]
  exact replicate_append_toDigits h

/-- A key sorts before another. -/
def KeyLt (env : Env) (a b : Uuid × String) : Prop := keyLe env a b ∧ ¬ keyLe env b a

theorem keyLt_of_collate {env : Env} {a b : Uuid × String} (h : env.collate a.2 b.2 = true)
    (hback : env.collate b.2 a.2 = false) : KeyLt env a b := by
  have hne : a.2 ≠ b.2 := by
    intro heq
    rw [heq] at h hback
    rw [h] at hback
    cases hback
  unfold KeyLt keyLe
  rw [if_neg hne, if_neg hne.symm, hback]
  exact ⟨h, Bool.false_ne_true⟩

theorem collate_of_digit {env : Env} (henv : DigitsDecide env) {k l : String} {p s t : List Char}
    {c d : Char} (hk : k.toList = p ++ c :: s) (hl : l.toList = p ++ d :: t)
    (hp : ∀ x ∈ p, x.isDigit = true) (hc : c.isDigit = true) (hd : d.isDigit = true) (hlt : c < d) :
    env.collate k l = true ∧ env.collate l k = false := by
  have h := henv p s t c d hp hc hd hlt
  rwa [← hk, ← hl, String.ofList_toList, String.ofList_toList] at h

/-- Keys are in the order of their places while the padding lasts. -/
theorem keyLt_positionText {env : Env} (henv : DigitsDecide env) {i j : Nat} (h : i < j)
    (hj : j < 10 ^ 8) (a b : Uuid) : KeyLt env (a, positionText i a) (b, positionText j b) := by
  obtain ⟨p, c, d, s, t, hi, hj', hp, hc, hd, hlt⟩ := exists_digit_lt h hj
  obtain ⟨hle, hback⟩ := collate_of_digit henv (k := positionText i a) (l := positionText j b)
    (by rw [toList_positionText, toList_pad8 (by omega), hi, List.append_assoc, List.cons_append])
    (by rw [toList_positionText, toList_pad8 hj, hj', List.append_assoc, List.cons_append])
    hp hc hd hlt
  exact keyLt_of_collate hle hback

/-- The first key without padding sorts before the last one with it. -/
theorem keyLt_overflow {env : Env} (henv : DigitsDecide env) (a b : Uuid) :
    KeyLt env (b, positionText (10 ^ 8 - 1 + 1) b) (a, positionText (10 ^ 8 - 1) a) := by
  have hlong : (pad8 (10 ^ 8 - 1 + 1)).toList = ['1', '0', '0', '0', '0', '0', '0', '0', '0'] := by decide +kernel
  have hshort : (pad8 (10 ^ 8 - 1)).toList = ['9', '9', '9', '9', '9', '9', '9', '9'] := by
    decide +kernel
  obtain ⟨hle, hback⟩ := collate_of_digit henv (k := positionText (10 ^ 8 - 1 + 1) b)
    (l := positionText (10 ^ 8 - 1) a) (p := [])
    (by rw [toList_positionText, hlong, List.cons_append, List.nil_append])
    (by rw [toList_positionText, hshort, List.cons_append, List.nil_append])
    (fun x hx => absurd hx List.not_mem_nil) (by decide) (by decide) (by decide)
  exact keyLt_of_collate hle hback

/-! ## the plan of a place -/

theorem nodup_map_of_imp {α β γ : Type*} {l : List α} {f : α → β} {g : α → γ}
    (hf : (l.map f).Nodup) (h : ∀ a ∈ l, ∀ b ∈ l, g a = g b → f a = f b) : (l.map g).Nodup :=
  (List.Nodup.of_map f hf).map_on fun a ha b hb hg =>
    List.inj_on_of_nodup_map hf ha hb (h a ha b hb hg)

theorem lookup_temporaries (written : List PlaylistEntryRow) (id : Uuid) :
    (temporaries written).lookup id =
      if id ∈ written.map PlaylistEntryRow.playlistEntryId then some (rebalanceText id) else none := by
  rw [← lookup_keyed (fun id => some (rebalanceText id)), List.filterMap_map]
  unfold temporaries
  rw [← List.filterMap_eq_map]
  rfl

theorem PositionPlan.lookup_finals (plan : PositionPlan) (written : List PlaylistEntryRow) (id : Uuid) :
    (plan.finals written).lookup id =
      if id ∈ written.map PlaylistEntryRow.playlistEntryId then plan.desired.lookup id else none := by
  rw [← lookup_keyed (fun id => plan.desired.lookup id), List.filterMap_map]
  rfl

theorem target_eq {rows : List PlaylistEntryRow} {selfId : Uuid} {before : Option Uuid} {index : Nat}
    (h : insertAt (others rows selfId) before = .ok index) :
    target rows selfId before =
      ((others rows selfId).map PlaylistEntryRow.playlistEntryId).insertIdx index selfId := by
  cases before with
  | none =>
    cases h
    rw [← List.length_map (f := PlaylistEntryRow.playlistEntryId), List.insertIdx_length_self]
    rfl
  | some b =>
    simp only [insertAt] at h
    split at h
    next index' hfind =>
      cases h
      obtain ⟨hlt, hindex⟩ := List.findIdx?_eq_some_iff_findIdx_eq.mp hfind
      have hmap : ((others rows selfId).map PlaylistEntryRow.playlistEntryId).findIdx
          (fun id => !decide (id ≠ b)) = index := by
        rw [List.findIdx_map, ← hindex]
        congr 1
        funext r
        simp
      rw [insertIdx_eq_take_append (by rw [List.length_map]; exact le_of_lt hlt), ← hmap]
      simp only [target]
      rw [List.takeWhile_eq_take_findIdx_not, List.dropWhile_eq_drop_findIdx_not]
    next => cases h

theorem insertAt_isOk {ordered : List PlaylistEntryRow} {before : Option Uuid}
    (h : ∀ id ∈ before, id ∈ ordered.map PlaylistEntryRow.playlistEntryId) :
    ∃ index, insertAt ordered before = .ok index := by
  cases before with
  | none => exact ⟨_, rfl⟩
  | some b =>
    obtain ⟨r, hr, hid⟩ := List.mem_map.mp (h b rfl)
    have hsome : (ordered.findIdx? (fun r => r.playlistEntryId = b)).isSome := by
      rw [List.findIdx?_isSome, List.any_eq_true]
      exact ⟨r, hr, decide_eq_true hid⟩
    obtain ⟨index, hindex⟩ := Option.isSome_iff_exists.mp hsome
    refine ⟨index, ?_⟩
    simp only [insertAt, hindex]

/-- The identifiers of the entries when one of them is at place `index` of the others. -/
def orderAt (rows : List PlaylistEntryRow) (selfId : Uuid) (index : Nat) : List Uuid :=
  ((others rows selfId).map PlaylistEntryRow.playlistEntryId).insertIdx index selfId

section
variable {rows : List PlaylistEntryRow} {selfId : Uuid} {index : Nat}
  (hn : (rows.map PlaylistEntryRow.playlistEntryId).Nodup)
  (hindex : index ≤ (others rows selfId).length)

include hindex in
theorem orderAt_perm : (orderAt rows selfId index).Perm
    (selfId :: (others rows selfId).map PlaylistEntryRow.playlistEntryId) :=
  List.perm_insertIdx _ _ (by rwa [List.length_map])

theorem nodup_self_others (hn : (rows.map PlaylistEntryRow.playlistEntryId).Nodup) :
    (selfId :: (others rows selfId).map PlaylistEntryRow.playlistEntryId).Nodup := by
  refine List.nodup_cons.mpr ⟨fun h => ?_, (List.filter_sublist.map _).nodup hn⟩
  obtain ⟨r, hr, hid⟩ := List.mem_map.mp h
  exact absurd hid (by simpa using (List.mem_filter.mp hr).2)

include hn hindex in
theorem orderAt_nodup : (orderAt rows selfId index).Nodup :=
  (orderAt_perm hindex).nodup_iff.mpr (nodup_self_others hn)

include hindex in
theorem length_orderAt : (orderAt rows selfId index).length = (others rows selfId).length + 1 := by
  rw [(orderAt_perm hindex).length_eq, List.length_cons, List.length_map]

include hindex in
theorem orderAt_self : (orderAt rows selfId index)[index]? = some selfId := by
  unfold orderAt
  rw [List.getElem?_insertIdx_self, if_pos (by rwa [List.length_map])]

include hn hindex in
theorem orderAt_place_unique {i j : Nat} {id : Uuid} (hi : (orderAt rows selfId index)[i]? = some id)
    (hj : (orderAt rows selfId index)[j]? = some id) : i = j := by
  obtain ⟨hlt, -⟩ := List.getElem?_eq_some_iff.mp hi
  exact (List.getElem?_inj hlt (orderAt_nodup hn hindex)).mp (hi.trans hj.symm)

include hindex in
theorem mem_orderAt {r : PlaylistEntryRow} (hr : r ∈ rows) :
    r.playlistEntryId ∈ orderAt rows selfId index := by
  rw [(orderAt_perm hindex).mem_iff]
  by_cases hs : r.playlistEntryId = selfId
  · rw [hs]
    exact List.mem_cons_self
  · exact List.mem_cons_of_mem _
      (List.mem_map_of_mem (List.mem_filter.mpr ⟨hr, decide_eq_true hs⟩))

/-- The identifiers of the slots. -/
theorem orderAt_eq_map :
    orderAt rows selfId index =
      (((others rows selfId).map some).insertIdx index
        (rows.find? (fun r => r.playlistEntryId = selfId))).map
          (fun slot => (slot.map PlaylistEntryRow.playlistEntryId).getD selfId) := by
  have hself : ((rows.find? (fun r => r.playlistEntryId = selfId)).map
      PlaylistEntryRow.playlistEntryId).getD selfId = selfId := by
    cases hf : rows.find? (fun r => r.playlistEntryId = selfId) with
    | none => rfl
    | some r => simpa using List.find?_some hf
  rw [List.map_insertIdx, hself, List.map_map]
  rfl

include hn hindex in
/-- The key that is desired for an active entry is that of its place. -/
theorem lookup_desired {r : PlaylistEntryRow} (hr : r ∈ rows) {i : Nat}
    (hi : (orderAt rows selfId index)[i]? = some r.playlistEntryId) :
    (placement rows selfId index).desired.lookup r.playlistEntryId =
      some (positionText i r.playlistEntryId) := by
  have hslot : ∃ r', (((others rows selfId).map some).insertIdx index
      (rows.find? (fun r => r.playlistEntryId = selfId)))[i]? = some (some r') ∧
        r'.playlistEntryId = r.playlistEntryId := by
    rw [orderAt_eq_map, List.getElem?_map] at hi
    obtain ⟨slot, hslot, hid⟩ := Option.map_eq_some_iff.mp hi
    cases slot with
    | some r' => exact ⟨r', hslot, hid⟩
    | none =>
      -- the slot of an active entry is not empty
      exfalso
      have hmem := List.mem_of_getElem? hslot
      rw [List.mem_insertIdx (by rwa [List.length_map])] at hmem
      rcases hmem with hnone | hmem
      · have hall := List.find?_eq_none.mp hnone.symm r hr
        exact hall (decide_eq_true hid.symm)
      · obtain ⟨r', -, hr'⟩ := List.mem_map.mp hmem
        cases hr'
  obtain ⟨r', hr', hid⟩ := hslot
  have hmem : (r.playlistEntryId, positionText i r.playlistEntryId) ∈
      (placement rows selfId index).desired := mem_desiredKeys.mpr ⟨i, r', hr', hid, rfl⟩
  have hsome : ((placement rows selfId index).desired.lookup r.playlistEntryId).isSome := by
    rw [List.lookup_isSome_iff]
    exact ⟨_, hmem, by simp⟩
  obtain ⟨key, hkey⟩ := Option.isSome_iff_exists.mp hsome
  -- any other slot of the entry would be another place of it
  obtain ⟨l₁, l₂, heq, -⟩ := List.lookup_eq_some_iff.mp hkey
  have hkeyMem : (r.playlistEntryId, key) ∈ (placement rows selfId index).desired := by
    rw [heq]
    simp
  obtain ⟨j, x, hx, hxid, rfl⟩ := mem_desiredKeys.mp hkeyMem
  have hj : (orderAt rows selfId index)[j]? = some r.playlistEntryId := by
    rw [orderAt_eq_map, List.getElem?_map]
    refine (congrArg (Option.map _) hx).trans ?_
    rw [← hxid]
    rfl
  rw [hkey, orderAt_place_unique hn hindex hj hi]

include hn hindex in
theorem mem_changed_iff {r : PlaylistEntryRow} :
    r ∈ (placement rows selfId index).changed ↔
      r ∈ rows ∧ ¬ KeyRight (orderAt rows selfId index) r := by
  show r ∈ List.filter _ _ ↔ _
  rw [List.mem_filter]
  refine and_congr_right fun hr => ?_
  obtain ⟨i, hi⟩ := List.mem_iff_getElem?.mp (mem_orderAt hindex hr)
  have hl := lookup_desired hn hindex hr hi
  have hiff : KeyRight (orderAt rows selfId index) r ↔
      (placement rows selfId index).desired.lookup r.playlistEntryId = some r.positionKey := by
    rw [hl]
    constructor
    · rintro ⟨j, hj, hkey⟩
      rw [hkey, orderAt_place_unique hn hindex hi hj]
    · intro hkey
      exact ⟨i, hi, (Option.some.inj hkey).symm⟩
  rw [hiff]
  simp [placement]

/-! ## the writes -/

theorem mem_changed_of_id (hn : (rows.map PlaylistEntryRow.playlistEntryId).Nodup)
    {written : List PlaylistEntryRow} (hsub : ∀ r ∈ written, r ∈ rows) {r : PlaylistEntryRow}
    (hr : r ∈ rows) (hid : r.playlistEntryId ∈ written.map PlaylistEntryRow.playlistEntryId) :
    r ∈ written := by
  obtain ⟨r', hr', heq⟩ := List.mem_map.mp hid
  exact List.inj_on_of_nodup_map hn (hsub r' hr') hr heq ▸ hr'

/-- The key of an entry while the first flush has written some entries. -/
theorem temporaries_key (hn : (rows.map PlaylistEntryRow.playlistEntryId).Nodup)
    {written : List PlaylistEntryRow} (hsub : ∀ r ∈ written, r ∈ rows) {r : PlaylistEntryRow}
    (hr : r ∈ rows) :
    (r ∈ written ∧ applyKeys (temporaries written) r = rekeyRow (rebalanceText r.playlistEntryId) r) ∨
      (r ∉ written ∧ applyKeys (temporaries written) r = r) := by
  unfold applyKeys
  rw [lookup_temporaries]
  by_cases hid : r.playlistEntryId ∈ written.map PlaylistEntryRow.playlistEntryId
  · rw [if_pos hid]
    exact .inl ⟨mem_changed_of_id hn hsub hr hid, rfl⟩
  · rw [if_neg hid]
    exact .inr ⟨fun h => hid (List.mem_map_of_mem h), rfl⟩

theorem changed_sub {r : PlaylistEntryRow} (hr : r ∈ (placement rows selfId index).changed) :
    r ∈ rows := (List.mem_filter.mp hr).1

include hn hindex in
/-- An entry after both flushes has the key of its place; it is written only if it had another. -/
theorem after_eq {r : PlaylistEntryRow} (hr : r ∈ rows) {i : Nat}
    (hi : (orderAt rows selfId index)[i]? = some r.playlistEntryId) :
    ((placement rows selfId index).after r).positionKey = positionText i r.playlistEntryId ∧
      (r ∉ (placement rows selfId index).changed → (placement rows selfId index).after r = r) := by
  have hl := lookup_desired hn hindex hr hi
  unfold PositionPlan.after
  have hsub : ∀ r ∈ (placement rows selfId index).changed, r ∈ rows := fun r hr => changed_sub hr
  rcases temporaries_key hn hsub hr with ⟨hmem, htemp⟩ | ⟨hmem, htemp⟩
  · refine ⟨?_, fun hnot => absurd hmem hnot⟩
    rw [htemp]
    unfold applyKeys
    rw [rekeyRow_id, PositionPlan.lookup_finals, if_pos (List.mem_map_of_mem hmem), hl]
    exact rekeyRow_positionKey _ _
  · have hsame : applyKeys ((placement rows selfId index).finals (placement rows selfId index).changed)
        r = r := by
      unfold applyKeys
      rw [PositionPlan.lookup_finals, if_neg]
      exact fun hid => hmem (mem_changed_of_id hn hsub hr hid)
    rw [htemp, hsame]
    refine ⟨?_, fun _ => rfl⟩
    by_contra hkey
    refine hmem ((mem_changed_iff hn hindex).mpr ⟨hr, fun ⟨j, hj, hright⟩ => hkey ?_⟩)
    rw [hright, orderAt_place_unique hn hindex hi hj]

include hn hindex in
theorem after_ne_iff {r : PlaylistEntryRow} (hr : r ∈ rows) :
    (placement rows selfId index).after r ≠ r ↔ r ∈ (placement rows selfId index).changed := by
  obtain ⟨i, hi⟩ := List.mem_iff_getElem?.mp (mem_orderAt hindex hr)
  obtain ⟨hkey, hsame⟩ := after_eq hn hindex hr hi
  constructor
  · intro hne
    by_contra hnot
    exact hne (hsame hnot)
  · intro hmem heq
    rw [heq] at hkey
    exact ((mem_changed_iff hn hindex).mp hmem).2 ⟨i, hi, hkey⟩

/-- Every identifier with the key of its place. -/
def slotKeys (order : List Uuid) : List (Uuid × String) :=
  order.zipIdx.map fun slot => (slot.1, positionText slot.2 slot.1)

theorem slotKeys_fst (order : List Uuid) : (slotKeys order).map Prod.fst = order := by
  unfold slotKeys
  rw [List.map_map]
  exact List.zipIdx_map_fst 0 order

theorem getElem?_slotKeys {order : List Uuid} {i : Nat} :
    (slotKeys order)[i]? = (order[i]?).map fun id => (id, positionText i id) := by
  unfold slotKeys
  rw [List.getElem?_map, List.getElem?_zipIdx, Option.map_map, Nat.zero_add]
  rfl

theorem mem_slotKeys {order : List Uuid} {id : Uuid} {key : String} :
    (id, key) ∈ slotKeys order ↔ ∃ i, order[i]? = some id ∧ key = positionText i id := by
  rw [List.mem_iff_getElem?]
  refine exists_congr fun i => ?_
  rw [getElem?_slotKeys, Option.map_eq_some_iff]
  constructor
  · rintro ⟨id', hid, heq⟩
    cases heq
    exact ⟨hid, rfl⟩
  · rintro ⟨hid, rfl⟩
    exact ⟨id, hid, rfl⟩

theorem keysAfter_fst (plan : PositionPlan) :
    (plan.keysAfter rows selfId).map Prod.fst =
      selfId :: (others rows selfId).map PlaylistEntryRow.playlistEntryId := by
  unfold PositionPlan.keysAfter
  rw [List.map_cons, List.map_map]
  rfl

include hn hindex in
theorem keysAfter_perm :
    ((placement rows selfId index).keysAfter rows selfId).Perm
      (slotKeys (orderAt rows selfId index)) := by
  have hafter : ((placement rows selfId index).keysAfter rows selfId).Nodup := by
    refine List.Nodup.of_map Prod.fst ?_
    rw [keysAfter_fst]
    exact nodup_self_others hn
  have hslots : (slotKeys (orderAt rows selfId index)).Nodup := by
    refine List.Nodup.of_map Prod.fst ?_
    rw [slotKeys_fst]
    exact orderAt_nodup hn hindex
  -- each of them has one key for an identifier
  refine (List.perm_ext_iff_of_nodup hafter hslots).mpr fun ⟨id, key⟩ => ?_
  rw [mem_slotKeys]
  unfold PositionPlan.keysAfter
  rw [List.mem_cons, List.mem_map]
  constructor
  · rintro (hself | ⟨r, hr, heq⟩)
    · cases hself
      exact ⟨index, orderAt_self hindex, rfl⟩
    · cases heq
      have hmem := (List.mem_filter.mp hr).1
      obtain ⟨i, hi⟩ := List.mem_iff_getElem?.mp (mem_orderAt hindex hmem)
      exact ⟨i, hi, (after_eq hn hindex hmem hi).1⟩
  · rintro ⟨i, hi, rfl⟩
    have hmem := (orderAt_perm hindex).mem_iff.mp (List.mem_of_getElem? hi)
    rcases List.mem_cons.mp hmem with rfl | hmem
    · left
      rw [orderAt_place_unique hn hindex hi (orderAt_self hindex)]
      rfl
    · obtain ⟨r, hr, rfl⟩ := List.mem_map.mp hmem
      exact .inr ⟨r, hr, by rw [(after_eq hn hindex (List.mem_filter.mp hr).1 hi).1]⟩

/-! ## the order -/

/-- Two lists with the same elements, each with a part of its own, are the same if their parts are. -/
theorem eq_of_perm_of_map {α β : Type*} {f : α → β} {l l' : List α} (hp : l.Perm l')
    (hf : (l.map f).Nodup) (h : l.map f = l'.map f) : l = l' := by
  refine List.ext_getElem? fun i => ?_
  have hget : (l[i]?).map f = (l'[i]?).map f := by
    rw [← List.getElem?_map, ← List.getElem?_map, h]
  cases hl : l[i]? with
  | none =>
    rw [hl] at hget
    exact (Option.map_eq_none_iff.mp hget.symm).symm
  | some a =>
    rw [hl] at hget
    obtain ⟨b, hb, hfb⟩ := Option.map_eq_some_iff.mp hget.symm
    rw [hb, List.inj_on_of_nodup_map hf (List.mem_of_getElem? hl)
      (hp.symm.subset (List.mem_of_getElem? hb)) hfb.symm]

include hn hindex in
theorem ordered_iff {env : Env} (henv : DigitsDecide env) :
    (((placement rows selfId index).keysAfter rows selfId).insertionSort (keyLe env)).map Prod.fst =
        orderAt rows selfId index ↔
      (others rows selfId).length < 10 ^ 8 := by
  have hperm := keysAfter_perm hn hindex
  have hlen := length_orderAt hindex
  constructor
  · intro hsorted
    -- sorting has brought every key to its place
    have hslots : ((placement rows selfId index).keysAfter rows selfId).insertionSort (keyLe env) =
        slotKeys (orderAt rows selfId index) := by
      refine eq_of_perm_of_map (f := Prod.fst) ((List.perm_insertionSort _ _).trans hperm) ?_ ?_
      · rw [hsorted]
        exact orderAt_nodup hn hindex
      · rw [hsorted, slotKeys_fst]
    have hchain := isChain_insertionSort (keyLe env)
      ((placement rows selfId index).keysAfter rows selfId)
    rw [hslots] at hchain
    by_contra hlong
    have hi : 10 ^ 8 - 1 < (orderAt rows selfId index).length := by omega
    have hj : 10 ^ 8 - 1 + 1 < (orderAt rows selfId index).length := by omega
    have hlast := keyLt_overflow henv (orderAt rows selfId index)[10 ^ 8 - 1]
      (orderAt rows selfId index)[10 ^ 8 - 1 + 1]
    have hstep := List.isChain_iff_getElem.mp hchain (10 ^ 8 - 1)
      (by rw [← List.length_map (f := Prod.fst), slotKeys_fst]; omega)
    have hget (i : Nat) (hi : i < (orderAt rows selfId index).length)
        (hs : i < (slotKeys (orderAt rows selfId index)).length) :
        (slotKeys (orderAt rows selfId index))[i] =
          ((orderAt rows selfId index)[i], positionText i (orderAt rows selfId index)[i]) := by
      have hslot := @getElem?_slotKeys (orderAt rows selfId index) i
      rw [List.getElem?_eq_getElem hs, List.getElem?_eq_getElem hi] at hslot
      exact Option.some.inj hslot
    rw [hget _ hi, hget _ hj] at hstep
    rcases hstep with hstep | hstep
    · exact hlast.2 hstep
    · exact hstep hlast.1
  · intro hshort
    have hstrict : (slotKeys (orderAt rows selfId index)).Pairwise
        fun a b => keyLe env a b ∧ ¬ keyLe env b a := by
      unfold slotKeys
      rw [List.pairwise_map, List.pairwise_iff_getElem]
      intro i j hi hj hlt
      rw [List.length_zipIdx] at hj
      rw [List.getElem_zipIdx, List.getElem_zipIdx]
      exact keyLt_positionText henv (by omega) (by omega) _ _
    rw [insertionSort_eq_of_strict (keyLe env) hstrict hperm, slotKeys_fst]

include hn hindex in
theorem keysAfter_distinct :
    (((placement rows selfId index).keysAfter rows selfId).map Prod.snd).Nodup := by
  refine nodup_map_of_imp (f := Prod.fst) ?_ ?_
  · rw [keysAfter_fst]
    exact nodup_self_others hn
  · rintro ⟨id, key⟩ ha ⟨id', key'⟩ hb (rfl : key = key')
    obtain ⟨i, -, rfl⟩ := mem_slotKeys.mp ((keysAfter_perm hn hindex).subset ha)
    obtain ⟨j, -, hkey⟩ := mem_slotKeys.mp ((keysAfter_perm hn hindex).subset hb)
    exact positionText_inj hkey

/-! ## the flushes -/

/-- No entry that is to be re-keyed has its temporary key taken. -/
def TemporariesFree (rows : List PlaylistEntryRow) (order : List Uuid) : Prop :=
  ∀ x ∈ rows, ∀ y ∈ rows, y.playlistEntryId ≠ x.playlistEntryId →
    y.positionKey = rebalanceText x.playlistEntryId → KeyRight order x

include hn hindex in
theorem first_iff (hkeys : KeysDistinct rows) :
    (∀ written : List PlaylistEntryRow, written.Perm (placement rows selfId index).changed →
        ∀ n, KeysDistinct (rows.map (applyKeys (temporaries (written.take n))))) ↔
      TemporariesFree rows (orderAt rows selfId index) := by
  constructor
  · intro hfirst x hx y hy hne hkey
    by_contra hwrong
    -- the entry may be written first of all
    have hmem : x ∈ (placement rows selfId index).changed :=
      (mem_changed_iff hn hindex).mpr ⟨hx, hwrong⟩
    have hdistinct := hfirst _ (List.perm_cons_erase hmem).symm 1
    have hsub : ∀ r ∈ [x], r ∈ rows := by
      intro r hr
      rwa [List.mem_singleton.mp hr]
    have hxkey : (applyKeys (temporaries [x]) x).positionKey = rebalanceText x.playlistEntryId := by
      rcases temporaries_key hn hsub hx with ⟨-, heq⟩ | ⟨hnot, -⟩
      · rw [heq, rekeyRow_positionKey]
      · exact absurd List.mem_cons_self hnot
    have hykey : (applyKeys (temporaries [x]) y).positionKey = y.positionKey := by
      rcases temporaries_key hn hsub hy with ⟨hin, -⟩ | ⟨-, heq⟩
      · rw [List.mem_singleton.mp hin] at hne
        exact absurd rfl hne
      · rw [heq]
    unfold KeysDistinct at hdistinct
    rw [List.take_succ_cons, List.take_zero, List.map_map] at hdistinct
    refine hne (congrArg PlaylistEntryRow.playlistEntryId
      (List.inj_on_of_nodup_map hdistinct hy hx ?_))
    show (applyKeys (temporaries [x]) y).positionKey = (applyKeys (temporaries [x]) x).positionKey
    rw [hxkey, hykey, hkey]
  · intro hfree written hw n
    have hsub : ∀ r ∈ written.take n, r ∈ rows := fun r hr =>
      changed_sub (hw.subset (List.mem_of_mem_take hr))
    have hwrong : ∀ r ∈ written.take n, ¬ KeyRight (orderAt rows selfId index) r := fun r hr =>
      ((mem_changed_iff hn hindex).mp (hw.subset (List.mem_of_mem_take hr))).2
    unfold KeysDistinct
    rw [List.map_map]
    refine nodup_map_of_imp hn fun x hx y hy hkey => ?_
    change (applyKeys _ x).positionKey = (applyKeys _ y).positionKey at hkey
    rcases temporaries_key hn hsub hx with ⟨hxw, hxe⟩ | ⟨hxw, hxe⟩ <;>
      rcases temporaries_key hn hsub hy with ⟨hyw, hye⟩ | ⟨hyw, hye⟩ <;>
      rw [hxe, hye] at hkey
    · rw [rekeyRow_positionKey, rekeyRow_positionKey] at hkey
      exact rebalanceText_inj hkey
    · rw [rekeyRow_positionKey] at hkey
      by_contra hne
      exact hwrong x hxw (hfree x hx y hy (fun heq => hne heq.symm) hkey.symm)
    · rw [rekeyRow_positionKey] at hkey
      by_contra hne
      exact hwrong y hyw (hfree y hy x hx hne hkey)
    · exact congrArg PlaylistEntryRow.playlistEntryId (List.inj_on_of_nodup_map hkeys hx hy hkey)

include hn hindex in
/-- While the second flush writes, every key is that of its place or the temporary one. -/
theorem second_key (written : List PlaylistEntryRow) {r : PlaylistEntryRow} (hr : r ∈ rows) :
    (∃ i, (applyKeys ((placement rows selfId index).finals written)
        (applyKeys (temporaries (placement rows selfId index).changed) r)).positionKey =
          positionText i r.playlistEntryId) ∨
      (applyKeys ((placement rows selfId index).finals written)
        (applyKeys (temporaries (placement rows selfId index).changed) r)).positionKey =
          rebalanceText r.playlistEntryId := by
  obtain ⟨i, hi⟩ := List.mem_iff_getElem?.mp (mem_orderAt hindex hr)
  have hl := lookup_desired hn hindex hr hi
  have hfinal : ∀ x : PlaylistEntryRow, x.playlistEntryId = r.playlistEntryId →
      (applyKeys ((placement rows selfId index).finals written) x).positionKey =
          positionText i r.playlistEntryId ∨
        applyKeys ((placement rows selfId index).finals written) x = x := by
    intro x hx
    unfold applyKeys
    rw [hx, PositionPlan.lookup_finals]
    by_cases hid : r.playlistEntryId ∈ written.map PlaylistEntryRow.playlistEntryId
    · rw [if_pos hid, hl]
      exact .inl (rekeyRow_positionKey _ _)
    · rw [if_neg hid]
      exact .inr rfl
  have hsub : ∀ r ∈ (placement rows selfId index).changed, r ∈ rows := fun r hr => changed_sub hr
  rcases temporaries_key hn hsub hr with ⟨hmem, htemp⟩ | ⟨hmem, htemp⟩
  · rw [htemp]
    rcases hfinal _ (rekeyRow_id _ r) with h | h
    · exact .inl ⟨i, h⟩
    · right
      rw [h, rekeyRow_positionKey]
  · left
    rw [htemp]
    rcases hfinal r rfl with h | h
    · exact ⟨i, h⟩
    · rw [h]
      by_contra hnone
      exact hmem ((mem_changed_iff hn hindex).mpr ⟨hr, fun ⟨j, _, hkey⟩ => hnone ⟨j, hkey⟩⟩)

include hn hindex in
theorem second_distinct (written : List PlaylistEntryRow) :
    KeysDistinct ((rows.map (applyKeys (temporaries (placement rows selfId index).changed))).map
      (applyKeys ((placement rows selfId index).finals written))) := by
  unfold KeysDistinct
  rw [List.map_map, List.map_map]
  refine nodup_map_of_imp hn fun x hx y hy hkey => ?_
  change (applyKeys _ (applyKeys _ x)).positionKey = (applyKeys _ (applyKeys _ y)).positionKey at hkey
  rcases second_key hn hindex written hx with ⟨i, hxk⟩ | hxk <;>
    rcases second_key hn hindex written hy with ⟨j, hyk⟩ | hyk <;> rw [hxk, hyk] at hkey
  · exact positionText_inj hkey
  · exact absurd hkey (positionText_ne_rebalanceText _ _ _)
  · exact absurd hkey.symm (positionText_ne_rebalanceText _ _ _)
  · exact rebalanceText_inj hkey

include hn hindex in
theorem placement_laws {env : Env} (henv : DigitsDecide env) (hkeys : KeysDistinct rows) :
    PlacementLaws env rows selfId (orderAt rows selfId index) (placement rows selfId index) ↔
      (others rows selfId).length < 10 ^ 8 ∧ TemporariesFree rows (orderAt rows selfId index) := by
  constructor
  · intro h
    exact ⟨(ordered_iff hn hindex henv).mp h.ordered, (first_iff hn hindex hkeys).mp h.first⟩
  · rintro ⟨hshort, hfree⟩
    have hchanged : ((placement rows selfId index).changed.map
        PlaylistEntryRow.playlistEntryId).Nodup := (List.filter_sublist.map _).nodup hn
    exact {
      ordered := (ordered_iff hn hindex henv).mpr hshort
      distinct := keysAfter_distinct hn hindex
      moved := by
        intro r hr hid
        rw [(after_eq hn hindex hr (i := index) (by rw [hid]; exact orderAt_self hindex)).1, hid]
        rfl
      untouched := by
        intro r hr hright
        have hnot : r ∉ (placement rows selfId index).changed := fun hmem =>
          ((mem_changed_iff hn hindex).mp hmem).2 hright
        obtain ⟨i, hi, -⟩ := hright
        exact ⟨hnot, (after_eq hn hindex hr hi).2 hnot⟩
      returned := by
        refine ⟨hchanged.filter _, fun r hr => ?_⟩
        unfold PositionPlan.rebalanced
        rw [List.mem_filter, after_ne_iff hn hindex hr, and_comm]
        refine and_congr (by simp) ⟨fun hid => ?_, fun hmem => List.mem_map_of_mem hmem⟩
        exact mem_changed_of_id hn (fun r hr => changed_sub hr) hr hid
      first := (first_iff hn hindex hkeys).mpr hfree
      second := fun written _ n => second_distinct hn hindex (written.take n) }

end

/-- The promises of `_playlist_position` are kept exactly while the padding of the keys lasts and no
entry that is to be re-keyed has its temporary key taken. -/
theorem placementLaws_iff {env : Env} (henv : DigitsDecide env) (entries : Table PlaylistEntryRow)
    (playlistId selfId : Uuid) {payload : Payload} {before : Option Uuid}
    (hexplicit : payload.get "position_key" = none)
    (hbefore : payload.uuidOptionalAlias
      ["before_playlist_entry_id", "before_local_playlist_entry_id"] = .ok before)
    (hmem : ∀ id ∈ before, id ∈ (others (activeEntries env entries playlistId) selfId).map
      PlaylistEntryRow.playlistEntryId) :
    ∃ plan, positionPlan env entries playlistId payload selfId = .ok plan ∧
      (PlacementLaws env (activeEntries env entries playlistId) selfId
          (target (activeEntries env entries playlistId) selfId before) plan ↔
        (others (activeEntries env entries playlistId) selfId).length < 10 ^ 8 ∧
          TemporariesFree (activeEntries env entries playlistId)
            (target (activeEntries env entries playlistId) selfId before)) := by
  obtain ⟨index, hindex⟩ := insertAt_isOk hmem
  have hplan : positionPlan env entries playlistId payload selfId =
      .ok (placement (activeEntries env entries playlistId) selfId index) := by
    unfold positionPlan
    rw [hexplicit, if_neg (by decide), hbefore]
    show (insertAt (others (activeEntries env entries playlistId) selfId) before >>= _) = _
    rw [hindex]
    rfl
  have hkeys : KeysDistinct (activeEntries env entries playlistId) := by
    refine nodup_map_of_imp (nodup_activeEntries env entries playlistId) fun x hx y hy hkey => ?_
    obtain ⟨hxm, hxa, hxr⟩ := mem_activeEntries.mp hx
    obtain ⟨hym, hya, hyr⟩ := mem_activeEntries.mp hy
    refine entries.unique x hxm y hym ?_ ?_
    · simp [Schema.index, hxr]
    · simp [Schema.index, hxr, hyr, hxa, hya, hkey]
  refine ⟨_, hplan, ?_⟩
  rw [target_eq hindex]
  exact placement_laws (nodup_activeEntries env entries playlistId) (insertAt_le hindex) henv hkeys

namespace Sample

def place (id : Uuid) (key : String) : PlaylistEntryRow :=
  ⟨id, list, request, key, user, none, 1⟩

/-- The second entry was pushed with the temporary key of the first as its explicit key. -/
def clashing : Table PlaylistEntryRow :=
  ⟨[place first "a", place second (rebalanceText first)], by decide +kernel, by decide +kernel⟩

def apart : Table PlaylistEntryRow :=
  ⟨[place first "a", place second "b"], by decide, by decide⟩

/-- Code points order digits. -/
theorem digitsDecide : DigitsDecide env := by
  intro p s t c d _ _ _ hlt
  have hlist : String.ofList (p ++ c :: s) < String.ofList (p ++ d :: t) := by
    rw [String.lt_iff, String.toList_ofList, String.toList_ofList]
    exact List.append_left_lt (List.cons_lt_cons_iff.mpr (.inl hlt))
  exact ⟨decide_eq_true (le_of_lt hlist), decide_eq_false (not_le_of_gt hlist)⟩

end Sample

/-- The first flush gives the first entry a key that the second one still holds. -/
theorem temporary_key_taken : ∃ plan,
    positionPlan Sample.env Sample.clashing Sample.list [] Sample.third = .ok plan ∧
      ¬ PlacementLaws Sample.env (activeEntries Sample.env Sample.clashing Sample.list) Sample.third
        (target (activeEntries Sample.env Sample.clashing Sample.list) Sample.third none) plan := by
  refine ⟨_, rfl, fun h => ?_⟩
  have hdistinct := h.first _ (List.Perm.refl _) 1
  unfold KeysDistinct at hdistinct
  revert hdistinct
  decide +kernel

/-- A third entry goes to the end. -/
theorem placementLaws_iff_apart : ∃ plan,
    positionPlan Sample.env Sample.apart Sample.list [] Sample.third = .ok plan ∧
      PlacementLaws Sample.env (activeEntries Sample.env Sample.apart Sample.list) Sample.third
        (target (activeEntries Sample.env Sample.apart Sample.list) Sample.third none) plan := by
  obtain ⟨plan, hplan, hiff⟩ := @placementLaws_iff _ Sample.digitsDecide Sample.apart Sample.list
    Sample.third [] none rfl rfl (fun _ h => nomatch h)
  refine ⟨plan, hplan, hiff.mpr ⟨by decide +kernel, fun x hx y hy _ hkey => ?_⟩⟩
  have hall : ∀ x ∈ activeEntries Sample.env Sample.apart Sample.list,
      ∀ y ∈ activeEntries Sample.env Sample.apart Sample.list,
        y.positionKey ≠ rebalanceText x.playlistEntryId := by decide +kernel
  exact absurd hkey (hall x hx y hy)

end AutPlay.Sync
