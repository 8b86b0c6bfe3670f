import AutPlay.Sync.Effects
import AutPlay.Sync.Checks

/-!
# Rebalancing a playlist

Re-keying writes every changed entry twice, first to the temporary key `~rebalance:<id>`.

* `positionText_inj`, `positionText_ne_rebalanceText`     keys of different entries, and keys of the
                             two phases, never coincide;
* `rekeyPhase_find`          what one phase leaves in the table;
* `temporary_isOk`           the first phase succeeds unless an entry that is written later holds the
                             temporary key of one that is written before it;
* `final_isOk`               the second phase always succeeds.
-/

set_option linter.unusedSectionVars false

namespace AutPlay.Sync
open Result

/-! ## the keys -/

theorem fitsUuidFrom_length {i : Nat} {cs : List Char} (h : fitsUuidFrom i cs = true) :
    i + cs.length = 36 := by
  induction cs generalizing i with
  | nil => simpa [fitsUuidFrom] using h
  | cons c cs ih =>
    simp only [fitsUuidFrom, Bool.and_eq_true] at h
    have := ih h.2
    simp only [List.length_cons]
    omega

theorem Uuid.length_toList (u : Uuid) : u.text.toList.length = 36 := by
  simpa using fitsUuidFrom_length u.canonical

theorem Uuid.eq_of_toList {a b : Uuid} (h : a.text.toList = b.text.toList) : a = b :=
  Uuid.text_injective (String.toList_injective h)

/-- Texts that end in identifiers coincide only if their beginnings and the identifiers do. -/
theorem append_text_inj {s t : String} {a b : Uuid} (h : s ++ a.text = t ++ b.text) :
    s = t ∧ a = b := by
  have hl : s.toList ++ a.text.toList = t.toList ++ b.text.toList := by
    rw [← String.toList_append, ← String.toList_append, h]
  have hlen : a.text.toList.length = b.text.toList.length := by
    rw [a.length_toList, b.length_toList]
  obtain ⟨hs, hu⟩ := List.append_inj' hl hlen
  exact ⟨String.toList_injective hs, Uuid.eq_of_toList hu⟩

theorem positionText_inj {i j : Nat} {a b : Uuid} (h : positionText i a = positionText j b) :
    a = b := (append_text_inj h).2

theorem rebalanceText_inj {a b : Uuid} (h : rebalanceText a = rebalanceText b) : a = b :=
  (append_text_inj h).2

theorem isDigit_of_mem_pad8 {n : Nat} {c : Char} (h : c ∈ (pad8 n).toList) : c.isDigit = true := by
  unfold pad8 at h
  rw [String.toList_append, List.mem_append, String.toList_ofList, Nat.toList_repr] at h
  rcases h with h | h
  · rw [List.eq_of_mem_replicate h]
    rfl
  · exact Nat.isDigit_of_mem_toDigits (by omega) (by omega) h

theorem positionText_ne_rebalanceText (i : Nat) (a b : Uuid) :
    positionText i a ≠ rebalanceText b := by
  intro h
  have hp : pad8 i ++ ":" = "~rebalance:" := (append_text_inj h).1
  have hl : (pad8 i).toList ++ [':'] = "~rebalance".toList ++ [':'] := by
    have := congrArg String.toList hp
    rw [String.toList_append] at this
    exact this
  have hm : '~' ∈ (pad8 i).toList := by
    rw [(List.append_inj' hl rfl).1]
    decide
  have := isDigit_of_mem_pad8 hm
  revert this
  decide

/-! ## one write -/

/-- A row with a new key; the trigger counts the write. -/
def rekeyRow (key : String) (r : PlaylistEntryRow) : PlaylistEntryRow :=
  if r.positionKey = key then r
  else { r with positionKey := key, rowVersion := r.rowVersion + 1 }

@[simp] theorem rekeyRow_id (key : String) (r : PlaylistEntryRow) :
    (rekeyRow key r).playlistEntryId = r.playlistEntryId := by
  unfold rekeyRow
  split <;> rfl

@[simp] theorem rekeyRow_playlistId (key : String) (r : PlaylistEntryRow) :
    (rekeyRow key r).playlistId = r.playlistId := by
  unfold rekeyRow
  split <;> rfl

@[simp] theorem rekeyRow_removedAt (key : String) (r : PlaylistEntryRow) :
    (rekeyRow key r).removedAt = r.removedAt := by
  unfold rekeyRow
  split <;> rfl

@[simp] theorem rekeyRow_userTrackRefId (key : String) (r : PlaylistEntryRow) :
    (rekeyRow key r).userTrackRefId = r.userTrackRefId := by
  unfold rekeyRow
  split <;> rfl

@[simp] theorem rekeyRow_positionKey (key : String) (r : PlaylistEntryRow) :
    (rekeyRow key r).positionKey = key := by
  unfold rekeyRow
  split
  next h => exact h
  next => rfl

@[simp] theorem entryOwnerOk_rekeyRow (db : SyncDb) (key : String) (r : PlaylistEntryRow) :
    db.entryOwnerOk (rekeyRow key r) = db.entryOwnerOk r := by
  unfold rekeyRow
  split <;> rfl

/-- Every row satisfies the owner trigger. -/
def EntriesOwned (db : SyncDb) : Prop := ∀ r ∈ db.playlistEntries, db.entryOwnerOk r = true

/-- An active entry of a playlist. -/
def ActiveIn (playlistId : Uuid) (r : PlaylistEntryRow) : Prop :=
  r.playlistId = playlistId ∧ r.removedAt = none

theorem indexTaken_iff {t : Table PlaylistEntryRow} {r : PlaylistEntryRow} :
    t.IndexTaken r ↔ r.removedAt = none ∧ ∃ x ∈ t, x.playlistEntryId ≠ r.playlistEntryId ∧
      ActiveIn r.playlistId x ∧ x.positionKey = r.positionKey := by
  unfold Table.IndexTaken ActiveIn
  simp only [Schema.key, Schema.index]
  constructor
  · rintro ⟨x, hx, hk, hn, hi⟩
    by_cases hr : r.removedAt = none
    · rw [if_pos hr] at hi
      split at hi
      next hxr =>
        injection hi with hi
        injection hi with h₁ h₂
        exact ⟨hr, x, hx, hk, ⟨h₁, hxr⟩, h₂⟩
      next => cases hi
    · rw [if_neg hr] at hn
      exact absurd rfl hn
  · rintro ⟨hr, x, hx, hk, ⟨h₁, hxr⟩, h₂⟩
    refine ⟨x, hx, hk, ?_, ?_⟩
    · rw [if_pos hr]
      simp
    · rw [if_pos hr, if_pos hxr, h₁, h₂]

section
variable {db db' : SyncDb} {id : Uuid} {key : String}

theorem rekey_ok (h : db.rekey id key = .ok db') :
    db' = { db with playlistEntries := db'.playlistEntries } ∧
      ∀ i, db'.playlistEntries.find i =
        if i = id then (db.playlistEntries.find i).map (rekeyRow key)
        else db.playlistEntries.find i := by
  unfold SyncDb.rekey at h
  cases hf : db.playlistEntries.find id with
  | none =>
    rw [hf] at h
    cases h
    refine ⟨rfl, fun i => ?_⟩
    by_cases hi : i = id
    · subst hi
      simp [hf]
    · rw [if_neg hi]
  | some row =>
    rw [hf] at h
    have hid : row.playlistEntryId = id := Table.key_of_find hf
    by_cases hk : row.positionKey = key
    · simp only [hk, if_true] at h
      cases h
      refine ⟨rfl, fun i => ?_⟩
      by_cases hi : i = id
      · subst hi
        simp [hf, rekeyRow, hk]
      · rw [if_neg hi]
    · simp only [hk, if_false] at h
      obtain ⟨-, t, ht, rfl⟩ := SyncDb.updateEntry_ok.mp h
      refine ⟨rfl, fun i => ?_⟩
      show t.find i = _
      rw [Table.find_update ht i]
      by_cases hi : i = id
      · subst hi
        have : Schema.key { row with positionKey := key, rowVersion := row.rowVersion + 1 } = i :=
          hid
        rw [if_pos this, if_pos rfl, hf]
        simp [rekeyRow, hk]
      · have : ¬ Schema.key { row with positionKey := key, rowVersion := row.rowVersion + 1 } = i :=
          fun hc => hi (hc.symm.trans hid)
        rw [if_neg this, if_neg hi]

/-- One write fails only on the unique index. -/
theorem rekey_isOk (ho : EntriesOwned db) :
    (∃ db', db.rekey id key = .ok db') ↔
      ∀ row, db.playlistEntries.find id = some row → row.positionKey ≠ key →
        ¬ db.playlistEntries.IndexTaken (rekeyRow key row) := by
  unfold SyncDb.rekey
  cases hf : db.playlistEntries.find id with
  | none => simp
  | some row =>
    by_cases hk : row.positionKey = key
    · simp [hk]
    · have hr : rekeyRow key row = { row with positionKey := key, rowVersion := row.rowVersion + 1 } := by
        unfold rekeyRow
        rw [if_neg hk]
      have howner : db.entryOwnerOk
          { row with positionKey := key, rowVersion := row.rowVersion + 1 } = true :=
        ho row (Table.mem_of_find hf)
      simp only [hk, if_false, Option.some.injEq]
      constructor
      · rintro ⟨db', h⟩ row' rfl _
        obtain ⟨-, t, ht, -⟩ := SyncDb.updateEntry_ok.mp h
        rw [hr]
        exact (Table.update_ok.mp ht).1
      · intro h
        have hn := h row rfl hk
        rw [hr] at hn
        obtain ⟨t, ht⟩ := Table.update_isOk.mpr hn
        exact ⟨_, SyncDb.updateEntry_ok.mpr ⟨howner, t, ht, rfl⟩⟩

theorem mem_of_rekey (h : db.rekey id key = .ok db') {r : PlaylistEntryRow}
    (hr : r ∈ db'.playlistEntries) :
    ∃ r₀ ∈ db.playlistEntries, r = if r₀.playlistEntryId = id then rekeyRow key r₀ else r₀ := by
  have hf := (rekey_ok h).2 r.playlistEntryId
  have hfr : db'.playlistEntries.find r.playlistEntryId = some r := Table.find_mem hr
  rw [hfr] at hf
  by_cases hi : r.playlistEntryId = id
  · rw [if_pos hi] at hf
    obtain ⟨r₀, h₀, he⟩ := Option.map_eq_some_iff.mp hf.symm
    refine ⟨r₀, Table.mem_of_find h₀, ?_⟩
    have hk : r₀.playlistEntryId = r.playlistEntryId := Table.key_of_find h₀
    rw [if_pos (hk.trans hi), he]
  · rw [if_neg hi] at hf
    exact ⟨r, Table.mem_of_find hf.symm, by rw [if_neg hi]⟩

theorem EntriesOwned.rekey (ho : EntriesOwned db) (h : db.rekey id key = .ok db') :
    EntriesOwned db' := by
  intro r hr
  obtain ⟨r₀, hm, rfl⟩ := mem_of_rekey h hr
  rw [(rekey_ok h).1]
  show db.entryOwnerOk _ = true
  split
  · rw [entryOwnerOk_rekeyRow]
    exact ho r₀ hm
  · exact ho r₀ hm

end

/-! ## one phase -/

/-- What a phase leaves of a row. -/
def applyKeys (keys : List (Uuid × String)) (r : PlaylistEntryRow) : PlaylistEntryRow :=
  match keys.lookup r.playlistEntryId with
  | some key => rekeyRow key r
  | none => r

@[simp] theorem applyKeys_id (keys : List (Uuid × String)) (r : PlaylistEntryRow) :
    (applyKeys keys r).playlistEntryId = r.playlistEntryId := by
  unfold applyKeys
  split <;> simp

@[simp] theorem applyKeys_playlistId (keys : List (Uuid × String)) (r : PlaylistEntryRow) :
    (applyKeys keys r).playlistId = r.playlistId := by
  unfold applyKeys
  split <;> simp

@[simp] theorem applyKeys_removedAt (keys : List (Uuid × String)) (r : PlaylistEntryRow) :
    (applyKeys keys r).removedAt = r.removedAt := by
  unfold applyKeys
  split <;> simp

@[simp] theorem applyKeys_userTrackRefId (keys : List (Uuid × String)) (r : PlaylistEntryRow) :
    (applyKeys keys r).userTrackRefId = r.userTrackRefId := by
  unfold applyKeys
  split <;> simp

section
variable {db db' : SyncDb} {keys : List (Uuid × String)}

theorem rekeyPhase_find (hn : (keys.map Prod.fst).Nodup) (h : db.rekeyPhase keys = .ok db') :
    db' = { db with playlistEntries := db'.playlistEntries } ∧
      ∀ i, db'.playlistEntries.find i = (db.playlistEntries.find i).map (applyKeys keys) := by
  induction keys generalizing db with
  | nil =>
    cases h
    refine ⟨rfl, fun i => ?_⟩
    have : applyKeys [] = id := rfl
    rw [this, Option.map_id]
    rfl
  | cons k keys ih =>
    obtain ⟨db₁, h₁, h₂⟩ := bind_eq_ok.mp h
    rw [List.map_cons, List.nodup_cons] at hn
    obtain ⟨he₁, hf₁⟩ := rekey_ok h₁
    obtain ⟨he₂, hf₂⟩ := ih hn.2 h₂
    refine ⟨?_, fun i => ?_⟩
    · rw [he₁] at he₂
      exact he₂
    · obtain ⟨a, b⟩ := k
      rw [hf₂ i, hf₁ i]
      by_cases hi : i = a
      · rw [if_pos hi, Option.map_map]
        cases hd : db.playlistEntries.find i with
        | none => rfl
        | some r =>
          have hk : r.playlistEntryId = a := (Table.key_of_find hd).trans hi
          have hl : keys.lookup a = none := by
            rw [List.lookup_eq_none_iff]
            intro q hq
            have hne : ¬ a = q.1 := by
              intro hc
              have hm : q.1 ∈ keys.map Prod.fst := List.mem_map_of_mem hq
              rw [← hc] at hm
              exact hn.1 hm
            simpa using hne
          simp [applyKeys, hk, hl]
      · rw [if_neg hi]
        cases hd : db.playlistEntries.find i with
        | none => rfl
        | some r =>
          have hk : (r.playlistEntryId == a) = false := by
            have hne : ¬ r.playlistEntryId = a := fun hc => hi ((Table.key_of_find hd).symm.trans hc)
            simpa using hne
          simp [applyKeys, List.lookup_cons, hk]

theorem EntriesOwned.rekeyPhase (ho : EntriesOwned db) (h : db.rekeyPhase keys = .ok db') :
    EntriesOwned db' := by
  induction keys generalizing db with
  | nil =>
    cases h
    exact ho
  | cons k keys ih =>
    obtain ⟨db₁, h₁, h₂⟩ := bind_eq_ok.mp h
    exact ih (ho.rekey h₁) h₂

theorem mem_of_rekeyPhase (hn : (keys.map Prod.fst).Nodup) (h : db.rekeyPhase keys = .ok db')
    {r : PlaylistEntryRow} (hr : r ∈ db'.playlistEntries) :
    ∃ r₀ ∈ db.playlistEntries, r = applyKeys keys r₀ := by
  have hf := (rekeyPhase_find hn h).2 r.playlistEntryId
  have hfr : db'.playlistEntries.find r.playlistEntryId = some r := Table.find_mem hr
  rw [hfr] at hf
  obtain ⟨r₀, h₀, he⟩ := Option.map_eq_some_iff.mp hf.symm
  exact ⟨r₀, Table.mem_of_find h₀, he.symm⟩

/-- A phase succeeds when no key that it gives is held by another active entry of the playlist, and
no two of its keys coincide. -/
theorem rekeyPhase_isOk {playlistId : Uuid} (ho : EntriesOwned db)
    (hn : (keys.map Prod.fst).Nodup)
    (hin : ∀ k ∈ keys, ∀ r, db.playlistEntries.find k.1 = some r → r.playlistId = playlistId)
    (hfree : ∀ k ∈ keys, ∀ y ∈ db.playlistEntries, ActiveIn playlistId y → y.positionKey = k.2 →
      y.playlistEntryId = k.1)
    (hdist : ∀ k ∈ keys, ∀ k' ∈ keys, k.2 = k'.2 → k.1 = k'.1) :
    ∃ db', db.rekeyPhase keys = .ok db' := by
  induction keys generalizing db with
  | nil => exact ⟨db, rfl⟩
  | cons k keys ih =>
    rw [List.map_cons, List.nodup_cons] at hn
    have hhead : ∃ db₁, db.rekey k.1 k.2 = .ok db₁ := by
      rw [rekey_isOk ho]
      intro row hf _ hc
      obtain ⟨-, y, hy, hne, hact, hkey⟩ := indexTaken_iff.mp hc
      rw [rekeyRow_playlistId, hin k (List.mem_cons_self ..) row hf] at hact
      rw [rekeyRow_positionKey] at hkey
      rw [rekeyRow_id, show row.playlistEntryId = k.1 from Table.key_of_find hf] at hne
      exact hne (hfree k (List.mem_cons_self ..) y hy hact hkey)
    obtain ⟨db₁, h₁⟩ := hhead
    have htail : ∃ db', db₁.rekeyPhase keys = .ok db' := by
      refine ih (ho.rekey h₁) hn.2 ?_ ?_ ?_
      · intro k' hk' r hf
        obtain ⟨r₀, hm, rfl⟩ := mem_of_rekey h₁ (Table.mem_of_find hf)
        have hid : r₀.playlistEntryId = k'.1 := by
          have := Table.key_of_find hf
          simp only [Schema.key] at this
          split at this
          · rw [rekeyRow_id] at this
            exact this
          · exact this
        have := hin k' (List.mem_cons_of_mem _ hk') r₀ (hid ▸ Table.find_mem hm)
        split
        · rw [rekeyRow_playlistId, this]
        · exact this
      · intro k' hk' y hy hact hkey
        obtain ⟨y₀, hm, rfl⟩ := mem_of_rekey h₁ hy
        by_cases hi : y₀.playlistEntryId = k.1
        · rw [if_pos hi, rekeyRow_positionKey] at hkey
          have := hdist k (List.mem_cons_self ..) k' (List.mem_cons_of_mem _ hk') hkey
          exact absurd (this ▸ List.mem_map_of_mem hk') hn.1
        · rw [if_neg hi] at hact hkey ⊢
          exact hfree k' (List.mem_cons_of_mem _ hk') y₀ hm hact hkey
      · intro a ha b hb
        exact hdist a (List.mem_cons_of_mem _ ha) b (List.mem_cons_of_mem _ hb)
    obtain ⟨db', h'⟩ := htail
    refine ⟨db', ?_⟩
    rw [SyncDb.rekeyPhase, h₁]
    exact h'

end

/-! ## the plan -/

theorem mem_activeEntries {env : Env} {entries : Table PlaylistEntryRow} {playlistId : Uuid}
    {r : PlaylistEntryRow} :
    r ∈ activeEntries env entries playlistId ↔ r ∈ entries ∧ ActiveIn playlistId r := by
  unfold activeEntries ActiveIn
  rw [List.mem_insertionSort, List.mem_filter]
  simp [Table.mem_def]

theorem nodup_activeEntries (env : Env) (entries : Table PlaylistEntryRow) (playlistId : Uuid) :
    ((activeEntries env entries playlistId).map PlaylistEntryRow.playlistEntryId).Nodup := by
  unfold activeEntries
  have hp := (List.perm_insertionSort (entryLe env) (entries.rows.filter
    (fun r => r.playlistId = playlistId ∧ r.removedAt = none))).map PlaylistEntryRow.playlistEntryId
  rw [hp.nodup_iff]
  exact (List.filter_sublist.map _).nodup entries.nodup

/-- The entry goes to a slot among the other active entries of the playlist. -/
def Placed (env : Env) (entries : Table PlaylistEntryRow) (playlistId selfId : Uuid)
    (plan : PositionPlan) : Prop :=
  ∃ index, index ≤ ((activeEntries env entries playlistId).filter
      (fun r => r.playlistEntryId ≠ selfId)).length ∧
    plan = placement (activeEntries env entries playlistId) selfId index

theorem insertAt_le {ordered : List PlaylistEntryRow} {before : Option Uuid} {index : Nat}
    (h : insertAt ordered before = .ok index) : index ≤ ordered.length := by
  cases before with
  | none =>
    cases h
    exact le_refl _
  | some id =>
    simp only [insertAt] at h
    cases hf : ordered.findIdx? (fun r => r.playlistEntryId = id) with
    | none =>
      rw [hf] at h
      cases h
    | some i =>
      rw [hf] at h
      cases h
      exact le_of_lt (List.findIdx?_eq_some_iff_getElem.mp hf).1

/-- A plan takes the key that was sent, or places the entry. -/
theorem positionPlan_ok {env : Env} {entries : Table PlaylistEntryRow} {playlistId selfId : Uuid}
    {payload : Payload} {plan : PositionPlan}
    (h : positionPlan env entries playlistId payload selfId = .ok plan) :
    (payload.get "position_key" ≠ none ∧ plan = .keep plan.positionKey) ∨
      (payload.get "position_key" = none ∧ Placed env entries playlistId selfId plan) := by
  unfold positionPlan at h
  by_cases hs : (payload.get "position_key").isSome
  · rw [if_pos hs] at h
    obtain ⟨key, -, rfl⟩ := bind_pure_eq_ok.mp h
    refine Or.inl ⟨fun hn => ?_, rfl⟩
    rw [hn] at hs
    cases hs
  · rw [if_neg hs] at h
    obtain ⟨before, -, h⟩ := bind_eq_ok.mp h
    obtain ⟨index, hi, rfl⟩ := bind_pure_eq_ok.mp h
    exact Or.inr ⟨by simpa using hs, index, insertAt_le hi, rfl⟩

section
variable {env : Env} {entries : Table PlaylistEntryRow} {playlistId selfId : Uuid}
  {plan : PositionPlan}

theorem mem_desiredKeys {slots : List (Option PlaylistEntryRow)} {id : Uuid} {key : String} :
    (id, key) ∈ desiredKeys slots ↔
      ∃ i r, slots[i]? = some (some r) ∧ r.playlistEntryId = id ∧ key = positionText i id := by
  unfold desiredKeys
  rw [List.mem_filterMap]
  constructor
  · rintro ⟨⟨s, i⟩, hm, hs⟩
    rw [List.mem_zipIdx_iff_getElem?] at hm
    cases s with
    | none => cases hs
    | some r =>
      cases hs
      exact ⟨i, r, hm, rfl, rfl⟩
  · rintro ⟨i, r, hm, rfl, rfl⟩
    exact ⟨(some r, i), List.mem_zipIdx_iff_getElem?.mpr hm, rfl⟩

theorem Placed.lookup (h : Placed env entries playlistId selfId plan) {r : PlaylistEntryRow}
    (hr : r ∈ entries) (ha : ActiveIn playlistId r) :
    ∃ key, plan.desired.lookup r.playlistEntryId = some key := by
  obtain ⟨index, hi, rfl⟩ := h
  have hm : r ∈ activeEntries env entries playlistId := mem_activeEntries.mpr ⟨hr, ha⟩
  -- the row has a slot of its own
  have hslot : some r ∈ (((activeEntries env entries playlistId).filter
      (fun r => r.playlistEntryId ≠ selfId)).map some).insertIdx index
      ((activeEntries env entries playlistId).find? (fun r => r.playlistEntryId = selfId)) := by
    rw [List.mem_insertIdx (by simpa using hi)]
    by_cases hs : r.playlistEntryId = selfId
    · left
      cases hf : (activeEntries env entries playlistId).find?
          (fun r => r.playlistEntryId = selfId) with
      | none =>
        have := List.find?_eq_none.mp hf r hm
        simp [hs] at this
      | some r' =>
        have hk : r'.playlistEntryId = selfId := by simpa using List.find?_some hf
        exact congrArg some (List.inj_on_of_nodup_map (nodup_activeEntries env entries playlistId)
          hm (List.mem_of_find?_eq_some hf) (hs.trans hk.symm))
    · right
      exact List.mem_map.mpr ⟨r, List.mem_filter.mpr ⟨hm, by simpa using hs⟩, rfl⟩
  obtain ⟨i, hget⟩ := List.mem_iff_getElem?.mp hslot
  have hd : (r.playlistEntryId, positionText i r.playlistEntryId) ∈
      (placement (activeEntries env entries playlistId) selfId index).desired :=
    mem_desiredKeys.mpr ⟨i, r, hget, rfl, rfl⟩
  rw [← Option.isSome_iff_exists, List.lookup_isSome_iff]
  exact ⟨_, hd, by simp⟩

theorem Placed.desired_eq (h : Placed env entries playlistId selfId plan) {id : Uuid}
    {key : String} (hl : plan.desired.lookup id = some key) : ∃ i, key = positionText i id := by
  obtain ⟨index, hi, rfl⟩ := h
  obtain ⟨l₁, l₂, he, -⟩ := List.lookup_eq_some_iff.mp hl
  have hm : (id, key) ∈ (placement (activeEntries env entries playlistId) selfId index).desired := by
    rw [he]
    simp
  obtain ⟨i, r, -, -, hk⟩ := mem_desiredKeys.mp hm
  exact ⟨i, hk⟩

theorem Placed.positionKey (h : Placed env entries playlistId selfId plan) :
    ∃ i, plan.positionKey = positionText i selfId := by
  obtain ⟨index, -, rfl⟩ := h
  exact ⟨index, rfl⟩

theorem Placed.mem_changed (h : Placed env entries playlistId selfId plan) {r : PlaylistEntryRow} :
    r ∈ plan.changed ↔ (r ∈ entries ∧ ActiveIn playlistId r) ∧
      plan.desired.lookup r.playlistEntryId ≠ some r.positionKey := by
  obtain ⟨index, -, rfl⟩ := h
  show r ∈ List.filter _ _ ↔ _
  rw [List.mem_filter, mem_activeEntries]
  simp [placement]

theorem Placed.nodup_changed (h : Placed env entries playlistId selfId plan) :
    (plan.changed.map PlaylistEntryRow.playlistEntryId).Nodup := by
  obtain ⟨index, -, rfl⟩ := h
  exact (List.filter_sublist.map _).nodup (nodup_activeEntries env entries playlistId)

theorem mem_flushOrder {id : Uuid} :
    id ∈ plan.flushOrder ↔ ∃ r ∈ plan.changed, r.playlistEntryId = id := by
  unfold PositionPlan.flushOrder
  rw [List.mem_insertionSort, List.mem_map]

theorem Placed.nodup_flushOrder (h : Placed env entries playlistId selfId plan) :
    plan.flushOrder.Nodup := by
  unfold PositionPlan.flushOrder
  rw [(List.perm_insertionSort _ _).nodup_iff]
  exact h.nodup_changed

theorem Placed.sorted_flushOrder (h : Placed env entries playlistId selfId plan) :
    plan.flushOrder.Pairwise (· < ·) := by
  have hle : plan.flushOrder.Pairwise (· ≤ ·) := List.pairwise_insertionSort _ _
  exact hle.imp₂ (fun _ _ hab hne => lt_of_le_of_ne hab hne) h.nodup_flushOrder

end

/-! ## the first phase -/

/-- An entry that the flush writes after `x` holds the temporary key of `x`. -/
def TemporaryClash (plan : PositionPlan) : Prop :=
  ∃ x ∈ plan.changed, ∃ y ∈ plan.changed,
    x.playlistEntryId < y.playlistEntryId ∧ y.positionKey = rebalanceText x.playlistEntryId

section
variable {db : SyncDb} {playlistId : Uuid} {ids : List Uuid}

theorem temporary_ok (hs : ids.Pairwise (· < ·)) (ho : EntriesOwned db)
    (hin : ∀ id ∈ ids, ∀ r, db.playlistEntries.find id = some r → r.playlistId = playlistId)
    (hheld : ∀ x ∈ ids, ∀ y ∈ db.playlistEntries, ActiveIn playlistId y →
      y.positionKey = rebalanceText x → y.playlistEntryId ∈ ids ∧ y.playlistEntryId ≤ x) :
    ∃ db', db.rekeyPhase (ids.map (fun id => (id, rebalanceText id))) = .ok db' := by
  induction ids generalizing db with
  | nil => exact ⟨db, rfl⟩
  | cons x ids ih =>
    rw [List.pairwise_cons] at hs
    have hhead : ∃ db₁, db.rekey x (rebalanceText x) = .ok db₁ := by
      rw [rekey_isOk ho]
      intro row hf _ hc
      obtain ⟨-, y, hy, hne, hact, hkey⟩ := indexTaken_iff.mp hc
      rw [rekeyRow_playlistId, hin x (List.mem_cons_self ..) row hf] at hact
      rw [rekeyRow_positionKey] at hkey
      rw [rekeyRow_id, show row.playlistEntryId = x from Table.key_of_find hf] at hne
      obtain ⟨hmem, hle⟩ := hheld x (List.mem_cons_self ..) y hy hact hkey
      rcases List.mem_cons.mp hmem with he | hmem
      · exact hne he
      · exact absurd (hs.1 _ hmem) (not_lt.mpr hle)
    obtain ⟨db₁, h₁⟩ := hhead
    have htail : ∃ db', db₁.rekeyPhase (ids.map (fun id => (id, rebalanceText id))) = .ok db' := by
      refine ih hs.2 (ho.rekey h₁) ?_ ?_
      · intro id hid r hf
        rw [(rekey_ok h₁).2 id] at hf
        have hne : ¬ id = x := fun hc => lt_irrefl x (hc ▸ hs.1 id hid)
        rw [if_neg hne] at hf
        exact hin id (List.mem_cons_of_mem _ hid) r hf
      · intro x' hx' y hy hact hkey
        obtain ⟨y₀, hm, rfl⟩ := mem_of_rekey h₁ hy
        by_cases hi : y₀.playlistEntryId = x
        · rw [if_pos hi, rekeyRow_positionKey] at hkey
          have hlt := hs.1 x' hx'
          rw [rebalanceText_inj hkey] at hlt
          exact absurd hlt (lt_irrefl _)
        · rw [if_neg hi] at hact hkey ⊢
          obtain ⟨hmem, hle⟩ := hheld x' (List.mem_cons_of_mem _ hx') y₀ hm hact hkey
          exact ⟨(List.mem_cons.mp hmem).resolve_left hi, hle⟩
    obtain ⟨db', h'⟩ := htail
    refine ⟨db', ?_⟩
    rw [List.map_cons, SyncDb.rekeyPhase, h₁]
    exact h'

theorem temporary_stuck (hs : ids.Pairwise (· < ·)) (ho : EntriesOwned db)
    (hin : ∀ id ∈ ids, ∃ r, db.playlistEntries.find id = some r ∧ ActiveIn playlistId r)
    {x : Uuid} (hx : x ∈ ids) {y : PlaylistEntryRow} (hy : y ∈ db.playlistEntries)
    (hact : ActiveIn playlistId y) (hlt : x < y.playlistEntryId)
    (hkey : y.positionKey = rebalanceText x) :
    ¬ ∃ db', db.rekeyPhase (ids.map (fun id => (id, rebalanceText id))) = .ok db' := by
  rintro ⟨db', h⟩
  induction ids generalizing db with
  | nil => cases hx
  | cons z ids ih =>
    rw [List.pairwise_cons] at hs
    obtain ⟨db₁, h₁, h₂⟩ := bind_eq_ok.mp h
    rcases List.mem_cons.mp hx with rfl | hx'
    · -- `x` is written while `y` still holds its temporary key
      obtain ⟨row, hf, hrow⟩ := hin x (List.mem_cons_self ..)
      have hid : row.playlistEntryId = x := Table.key_of_find hf
      have hne : y.playlistEntryId ≠ row.playlistEntryId := by
        rw [hid]
        exact ne_of_gt hlt
      have hrk : row.positionKey ≠ rebalanceText x := by
        intro hc
        have hti : db.playlistEntries.IndexTaken row :=
          indexTaken_iff.mpr ⟨hrow.2, y, hy, hne, hrow.1 ▸ hact, hkey.trans hc.symm⟩
        obtain ⟨x', hx'', hk', hn', hi'⟩ := hti
        exact hk' (db.playlistEntries.unique x' hx'' row (Table.mem_of_find hf) (hi' ▸ hn') hi')
      refine (rekey_isOk ho).mp ⟨db₁, h₁⟩ row hf hrk (indexTaken_iff.mpr ?_)
      refine ⟨?_, y, hy, ?_, ?_, ?_⟩
      · rw [rekeyRow_removedAt]
        exact hrow.2
      · rw [rekeyRow_id]
        exact hne
      · rw [rekeyRow_playlistId, hrow.1]
        exact hact
      · rw [rekeyRow_positionKey, hkey]
    · have hzx : z < x := hs.1 x hx'
      have hfind : ∀ i, i ≠ z → db₁.playlistEntries.find i = db.playlistEntries.find i := by
        intro i hi
        rw [(rekey_ok h₁).2 i, if_neg hi]
      refine ih hs.2 (ho.rekey h₁) ?_ hx' ?_ h₂
      · intro id hid
        rw [hfind id (fun hc => lt_irrefl z (hc ▸ hs.1 id hid))]
        exact hin id (List.mem_cons_of_mem _ hid)
      · have hyz : y.playlistEntryId ≠ z := ne_of_gt (lt_trans hzx hlt)
        have : db₁.playlistEntries.find y.playlistEntryId = some y := by
          rw [hfind _ hyz]
          exact Table.find_mem hy
        exact Table.mem_of_find this

end

section
variable {env : Env} {db : SyncDb} {playlistId selfId : Uuid} {plan : PositionPlan}

/-- An active entry that holds a key of the other kind is re-keyed. -/
theorem Placed.changed_of_rebalanceText (h : Placed env db.playlistEntries playlistId selfId plan)
    {y : PlaylistEntryRow} (hy : y ∈ db.playlistEntries) (ha : ActiveIn playlistId y) {x : Uuid}
    (hk : y.positionKey = rebalanceText x) : y ∈ plan.changed := by
  rw [h.mem_changed]
  refine ⟨⟨hy, ha⟩, fun hc => ?_⟩
  obtain ⟨i, hi⟩ := h.desired_eq hc
  exact positionText_ne_rebalanceText i _ x (hi.symm.trans hk)

/-- **The first phase** succeeds exactly when no temporary key is held by an entry that is written
later. -/
theorem temporary_isOk (h : Placed env db.playlistEntries playlistId selfId plan)
    (ho : EntriesOwned db) :
    (∃ db', db.rekeyPhase plan.temporaryKeys = .ok db') ↔ ¬ TemporaryClash plan := by
  have hactive : ∀ id ∈ plan.flushOrder, ∃ r, db.playlistEntries.find id = some r ∧
      ActiveIn playlistId r := by
    intro id hid
    obtain ⟨r, hr, rfl⟩ := mem_flushOrder.mp hid
    obtain ⟨⟨hm, ha⟩, -⟩ := h.mem_changed.mp hr
    exact ⟨r, Table.find_mem hm, ha⟩
  constructor
  · rintro hok ⟨x, hx, y, hy, hlt, hkey⟩
    obtain ⟨⟨hm, ha⟩, -⟩ := h.mem_changed.mp hy
    exact temporary_stuck h.sorted_flushOrder ho hactive (mem_flushOrder.mpr ⟨x, hx, rfl⟩) hm ha
      hlt hkey hok
  · intro hclash
    have hin : ∀ id ∈ plan.flushOrder, ∀ r, db.playlistEntries.find id = some r →
        r.playlistId = playlistId := by
      intro id hid r hf
      obtain ⟨r', hf', ha⟩ := hactive id hid
      rw [hf] at hf'
      cases hf'
      exact ha.1
    refine temporary_ok h.sorted_flushOrder ho hin ?_
    · intro x hx y hy ha hkey
      have hy' := h.changed_of_rebalanceText hy ha hkey
      obtain ⟨rx, hrx, rfl⟩ := mem_flushOrder.mp hx
      refine ⟨mem_flushOrder.mpr ⟨y, hy', rfl⟩, not_lt.mp fun hlt => ?_⟩
      exact hclash ⟨rx, hrx, y, hy', hlt, hkey⟩

end

/-! ## both phases -/

section
variable {α : Type} (f : Uuid → Option α)

theorem map_fst_keyed (l : List Uuid) :
    (l.filterMap (fun id => (f id).map (fun key => (id, key)))).map Prod.fst =
      l.filter (fun id => (f id).isSome) := by
  induction l with
  | nil => rfl
  | cons x l ih =>
    cases hx : f x with
    | none => simp [hx, ih]
    | some key => simp [hx, ih]

theorem lookup_keyed (l : List Uuid) (id : Uuid) :
    (l.filterMap (fun id => (f id).map (fun key => (id, key)))).lookup id =
      if id ∈ l then f id else none := by
  induction l with
  | nil => rfl
  | cons x l ih =>
    by_cases he : id = x
    · subst he
      cases hx : f id with
      | none => simp [hx, ih]
      | some key => simp [hx]
    · have hb : (id == x) = false := by simpa using he
      cases hx : f x with
      | none => simp [hx, ih, he]
      | some key => simp [hx, ih, he, List.lookup_cons, hb]

end

/-- What both phases leave of a row. -/
def settled (plan : PositionPlan) (selfId : Uuid) (r : PlaylistEntryRow) : PlaylistEntryRow :=
  applyKeys (plan.finalKeys selfId) (applyKeys plan.temporaryKeys r)

section
variable {env : Env} {db db' : SyncDb} {playlistId selfId : Uuid} {plan : PositionPlan}
  {r : PlaylistEntryRow}

@[simp] theorem settled_id : (settled plan selfId r).playlistEntryId = r.playlistEntryId := by
  simp [settled]

@[simp] theorem settled_playlistId : (settled plan selfId r).playlistId = r.playlistId := by
  simp [settled]

@[simp] theorem settled_removedAt : (settled plan selfId r).removedAt = r.removedAt := by
  simp [settled]

@[simp] theorem settled_userTrackRefId :
    (settled plan selfId r).userTrackRefId = r.userTrackRefId := by
  simp [settled]

theorem lookup_temporaryKeys (id : Uuid) :
    plan.temporaryKeys.lookup id =
      if id ∈ plan.flushOrder then some (rebalanceText id) else none := by
  have h := lookup_keyed (fun id => some (rebalanceText id)) plan.flushOrder id
  rw [← h]
  unfold PositionPlan.temporaryKeys
  rw [← List.filterMap_eq_map]
  rfl

theorem lookup_finalKeys (id : Uuid) :
    (plan.finalKeys selfId).lookup id =
      if id ∈ plan.flushOrder ∧ id ≠ selfId then plan.desired.lookup id else none := by
  unfold PositionPlan.finalKeys
  rw [lookup_keyed]
  simp [List.mem_filter]

theorem nodup_temporaryKeys (h : Placed env db.playlistEntries playlistId selfId plan) :
    (plan.temporaryKeys.map Prod.fst).Nodup := by
  unfold PositionPlan.temporaryKeys
  rw [List.map_map]
  have : (Prod.fst ∘ fun id : Uuid => (id, rebalanceText id)) = id := rfl
  rw [this, List.map_id]
  exact h.nodup_flushOrder

theorem nodup_finalKeys (h : Placed env db.playlistEntries playlistId selfId plan) :
    ((plan.finalKeys selfId).map Prod.fst).Nodup := by
  unfold PositionPlan.finalKeys
  rw [map_fst_keyed]
  exact (h.nodup_flushOrder.filter _).filter _

theorem not_mem_flushOrder (h : Placed env db.playlistEntries playlistId selfId plan)
    (hr : r ∈ db.playlistEntries) (hc : r ∉ plan.changed) :
    r.playlistEntryId ∉ plan.flushOrder := by
  intro hm
  obtain ⟨r', hr', hid⟩ := mem_flushOrder.mp hm
  have he : r' = r := Table.eq_of_key (h.mem_changed.mp hr').1.1 hr hid
  exact hc (he ▸ hr')

theorem settled_unchanged (h : Placed env db.playlistEntries playlistId selfId plan)
    (hr : r ∈ db.playlistEntries) (hc : r ∉ plan.changed) : settled plan selfId r = r := by
  have hn := not_mem_flushOrder h hr hc
  have ht : applyKeys plan.temporaryKeys r = r := by
    unfold applyKeys
    rw [lookup_temporaryKeys, if_neg hn]
  unfold settled
  rw [ht]
  unfold applyKeys
  rw [lookup_finalKeys, if_neg (fun hc => hn hc.1)]

theorem applyKeys_temporary (hc : r ∈ plan.changed) :
    applyKeys plan.temporaryKeys r = rekeyRow (rebalanceText r.playlistEntryId) r := by
  unfold applyKeys
  rw [lookup_temporaryKeys, if_pos (mem_flushOrder.mpr ⟨r, hc, rfl⟩)]

theorem settled_changed (hc : r ∈ plan.changed) (hs : r.playlistEntryId ≠ selfId) {key : String}
    (hk : plan.desired.lookup r.playlistEntryId = some key) :
    settled plan selfId r = rekeyRow key (rekeyRow (rebalanceText r.playlistEntryId) r) := by
  unfold settled
  rw [applyKeys_temporary hc]
  unfold applyKeys
  rw [rekeyRow_id, lookup_finalKeys, if_pos ⟨mem_flushOrder.mpr ⟨r, hc, rfl⟩, hs⟩, hk]

/-- The other active entries end with keys of the second kind. -/
theorem settled_positionKey (h : Placed env db.playlistEntries playlistId selfId plan)
    (hr : r ∈ db.playlistEntries) (ha : ActiveIn playlistId r) (hs : r.playlistEntryId ≠ selfId) :
    plan.desired.lookup r.playlistEntryId = some (settled plan selfId r).positionKey := by
  obtain ⟨key, hk⟩ := h.lookup hr ha
  by_cases hc : r ∈ plan.changed
  · rw [settled_changed hc hs hk, rekeyRow_positionKey, hk]
  · rw [settled_unchanged h hr hc]
    by_contra hn
    exact hc (h.mem_changed.mpr ⟨⟨hr, ha⟩, hn⟩)

theorem rebalance_find (h : Placed env db.playlistEntries playlistId selfId plan)
    (hok : db.rebalance plan selfId = .ok db') :
    db' = { db with playlistEntries := db'.playlistEntries } ∧
      ∀ i, db'.playlistEntries.find i = (db.playlistEntries.find i).map (settled plan selfId) := by
  obtain ⟨db₁, h₁, h₂⟩ := bind_eq_ok.mp hok
  obtain ⟨he₁, hf₁⟩ := rekeyPhase_find (nodup_temporaryKeys h) h₁
  obtain ⟨he₂, hf₂⟩ := rekeyPhase_find (nodup_finalKeys h) h₂
  refine ⟨?_, fun i => ?_⟩
  · rw [he₁] at he₂
    exact he₂
  · rw [hf₂ i, hf₁ i, Option.map_map]
    rfl

/-- **The second phase** always succeeds. -/
theorem final_isOk (h : Placed env db.playlistEntries playlistId selfId plan)
    (ho : EntriesOwned db) (h₁ : db.rekeyPhase plan.temporaryKeys = .ok db') :
    ∃ db'', db'.rekeyPhase (plan.finalKeys selfId) = .ok db'' := by
  have hkeys : ∀ k ∈ plan.finalKeys selfId, k.1 ∈ plan.flushOrder ∧
      ∃ i, k.2 = positionText i k.1 := by
    intro k hk
    unfold PositionPlan.finalKeys at hk
    obtain ⟨id, hid, he⟩ := List.mem_filterMap.mp hk
    obtain ⟨key, hl, rfl⟩ := Option.map_eq_some_iff.mp he
    exact ⟨(List.mem_filter.mp hid).1, h.desired_eq hl⟩
  have hin : ∀ k ∈ plan.finalKeys selfId, ∀ r, db'.playlistEntries.find k.1 = some r →
      r.playlistId = playlistId := by
    intro k hk r hf
    obtain ⟨r₀, hm, rfl⟩ := mem_of_rekeyPhase (nodup_temporaryKeys h) h₁ (Table.mem_of_find hf)
    obtain ⟨x, hx, hid⟩ := mem_flushOrder.mp (hkeys k hk).1
    have hk' : r₀.playlistEntryId = k.1 := by
      have := Table.key_of_find hf
      rw [← applyKeys_id plan.temporaryKeys r₀]
      exact this
    have he : x = r₀ := Table.eq_of_key (h.mem_changed.mp hx).1.1 hm (hid.trans hk'.symm)
    rw [applyKeys_playlistId, ← he]
    exact (h.mem_changed.mp hx).1.2.1
  refine rekeyPhase_isOk (ho.rekeyPhase h₁) (nodup_finalKeys h) hin ?_ ?_
  · intro k hk y hy ha hkey
    obtain ⟨y₀, hm, rfl⟩ := mem_of_rekeyPhase (nodup_temporaryKeys h) h₁ hy
    obtain ⟨i, hi⟩ := (hkeys k hk).2
    rw [hi] at hkey
    rw [applyKeys_id]
    by_cases hc : y₀ ∈ plan.changed
    · rw [applyKeys_temporary hc, rekeyRow_positionKey] at hkey
      exact absurd hkey.symm (positionText_ne_rebalanceText i _ _)
    · have hn : applyKeys plan.temporaryKeys y₀ = y₀ := by
        unfold applyKeys
        rw [lookup_temporaryKeys, if_neg (not_mem_flushOrder h hm hc)]
      rw [hn] at hkey ha
      have hd : plan.desired.lookup y₀.playlistEntryId = some y₀.positionKey := by
        by_contra hne
        exact hc (h.mem_changed.mpr ⟨⟨hm, ha⟩, hne⟩)
      obtain ⟨j, hj⟩ := h.desired_eq hd
      exact positionText_inj (hj.symm.trans hkey)
  · intro k hk k' hk' he
    obtain ⟨i, hi⟩ := (hkeys k hk).2
    obtain ⟨j, hj⟩ := (hkeys k' hk').2
    exact positionText_inj (hi.symm.trans (he.trans hj))

/-- **A rebalance fails exactly on a clash of temporary keys.** -/
theorem rebalance_isOk (h : Placed env db.playlistEntries playlistId selfId plan)
    (ho : EntriesOwned db) :
    (∃ db', db.rebalance plan selfId = .ok db') ↔ ¬ TemporaryClash plan := by
  rw [← temporary_isOk h ho]
  constructor
  · rintro ⟨db', hok⟩
    obtain ⟨db₁, h₁, -⟩ := bind_eq_ok.mp hok
    exact ⟨db₁, h₁⟩
  · rintro ⟨db₁, h₁⟩
    obtain ⟨db₂, h₂⟩ := final_isOk h ho h₁
    exact ⟨db₂, bind_eq_ok.mpr ⟨db₁, h₁, h₂⟩⟩

theorem EntriesOwned.rebalance (ho : EntriesOwned db) (h : db.rebalance plan selfId = .ok db') :
    EntriesOwned db' := by
  obtain ⟨db₁, h₁, h₂⟩ := bind_eq_ok.mp h
  exact (ho.rekeyPhase h₁).rekeyPhase h₂

/-- The key of the placed entry is free once the others are re-keyed. -/
theorem placed_free (h : Placed env db.playlistEntries playlistId selfId plan)
    (hok : db.rebalance plan selfId = .ok db') {row : PlaylistEntryRow}
    (hid : row.playlistEntryId = selfId) (hl : row.playlistId = playlistId)
    (hk : row.positionKey = plan.positionKey) : ¬ db'.playlistEntries.IndexTaken row := by
  rw [indexTaken_iff]
  rintro ⟨-, x, hx, hne, ha, hkey⟩
  have hf := (rebalance_find h hok).2 x.playlistEntryId
  have hfx : db'.playlistEntries.find x.playlistEntryId = some x := Table.find_mem hx
  rw [hfx] at hf
  obtain ⟨x₀, h₀, rfl⟩ := Option.map_eq_some_iff.mp hf.symm
  rw [settled_id, hid] at hne
  have ha₀ : ActiveIn playlistId x₀ := by
    rw [hl] at ha
    exact ⟨settled_playlistId ▸ ha.1, settled_removedAt ▸ ha.2⟩
  have hd := settled_positionKey h (Table.mem_of_find h₀) ha₀ hne
  obtain ⟨i, hi⟩ := h.desired_eq hd
  obtain ⟨j, hj⟩ := h.positionKey
  rw [hi, hk, hj] at hkey
  exact hne (positionText_inj hkey)

end

end AutPlay.Sync
