import AutPlay.Lib.Run
import AutPlay.Lib.Places
import Mathlib.Data.List.Nodup
import Mathlib.Data.List.Induction
import Mathlib.Data.List.Perm.Basic

/-!
# Reconciling the player with an edited queue

`AutPlayPlaybackService.refreshQueue` brings the player's playlist to the committed queue without
reloading the item that plays.

* `PlayerCall`          the three calls that change a playlist, with what Media3 does on each;
* `removeLoop`          from the last item down, the items that the queue does not have go;
* `addLoop`             from the first entry up, each entry is added or moved to its place;
* `removeLoop_spec`, `addLoop_spec`    where the loops lead, call by call;
* `reconcile_spec`      the playlist is the queue, and no call was out of range;
* `refreshQueue_reconciles`   the same of the whole function.
-/

set_option linter.unusedSectionVars false

namespace AutPlay.Playback

/-! ## the player -/

structure MediaItem where
  mediaId : String
  uri : String
  deriving DecidableEq

abbrev Playlist := List MediaItem

def ids (items : Playlist) : List String := items.map MediaItem.mediaId

def placeholder (queueEntryId : String) : MediaItem :=
  { mediaId := queueEntryId
    uri := "autplay-unresolved://queue/" ++ queueEntryId }

inductive PlayerCall
  | removeMediaItem (index : Nat)
  | addMediaItem (index : Nat) (item : MediaItem)
  | moveMediaItem (currentIndex newIndex : Nat)
  deriving DecidableEq

/-- A call on a playlist; `none` when an index is out of range. -/
def PlayerCall.perform (items : Playlist) : PlayerCall → Option Playlist
  | .removeMediaItem index => if index < items.length then some (items.eraseIdx index) else none
  | .addMediaItem index item => if index ≤ items.length then some (items.insertIdx index item) else none
  | .moveMediaItem currentIndex newIndex =>
    if newIndex < items.length then
      items[currentIndex]?.map (fun item => (items.eraseIdx currentIndex).insertIdx newIndex item)
    else none

/-! ## the loops -/

/-- The calls that were made, and the playlist after them; `none` is an index out of range. -/
abbrev Calls := Option (List PlayerCall × Playlist)

/-- One call before others. -/
def PlayerCall.followedBy (call : PlayerCall) (items : Playlist) (more : Playlist → Calls) : Calls :=
  (call.perform items).bind (fun items' => (more items').map (fun r => (call :: r.1, r.2)))

/-- `for (oldIndex in n - 1 downTo 0)`. -/
def removeLoop (retainedIds : List String) : Nat → Playlist → Calls
  | 0, items => some ([], items)
  | oldIndex + 1, items =>
    items[oldIndex]?.bind fun item =>
      if item.mediaId ∈ retainedIds then removeLoop retainedIds oldIndex items
      else (PlayerCall.removeMediaItem oldIndex).followedBy items (removeLoop retainedIds oldIndex)

/-- The first index from `desiredIndex` on that has the entry. -/
def existingIndex (items : Playlist) (desiredIndex : Nat) (queueEntryId : String) : Option Nat :=
  ((items.drop desiredIndex).findIdx? (fun item => item.mediaId = queueEntryId)).map (desiredIndex + ·)

/-- `queue.entries.forEachIndexed`. -/
def addLoop : Nat → List String → Playlist → Calls
  | _, [], items => some ([], items)
  | desiredIndex, queueEntryId :: entries, items =>
    match existingIndex items desiredIndex queueEntryId with
    | none =>
      (PlayerCall.addMediaItem desiredIndex (placeholder queueEntryId)).followedBy items
        (addLoop (desiredIndex + 1) entries)
    | some index =>
      if index = desiredIndex then addLoop (desiredIndex + 1) entries items
      else
        (PlayerCall.moveMediaItem index desiredIndex).followedBy items
          (addLoop (desiredIndex + 1) entries)

/-- The removals, then the additions and moves. -/
def reconcile (items : Playlist) (entries : List String) : Calls :=
  (removeLoop entries items.length items).bind fun r =>
    (addLoop 0 entries r.2).map fun r' => (r.1 ++ r'.1, r'.2)

structure RestoredQueue where
  queueSnapshotId : String
  currentEntryId : Option String
  entries : List String

/-- `refreshQueue`, as far as the playlist goes: a queue that is another one, or that plays something
else, changes nothing. -/
def refreshQueue (items : Playlist) (currentMediaItem : Option MediaItem)
    (requiredSnapshotId : Option String) (queue : Option RestoredQueue) : Calls :=
  match currentMediaItem, queue with
  | some current, some queue =>
    if some queue.queueSnapshotId ≠ requiredSnapshotId ∨ queue.currentEntryId ≠ some current.mediaId then
      some ([], items)
    else if current.mediaId ∉ queue.entries then some ([], items)
    else reconcile items queue.entries
  | _, _ => some ([], items)

/-! ## what the loops may do -/

section
variable (currentId : String)

/-- A call that is in range, does not remove the current item and adds no entry twice. -/
def Allowed (items : Playlist) : PlayerCall → Prop
  | .removeMediaItem index => ∃ h : index < items.length, (items.get ⟨index, h⟩).mediaId ≠ currentId
  | .addMediaItem index item => index ≤ items.length ∧ item.mediaId ∉ ids items
  | .moveMediaItem currentIndex newIndex => currentIndex < items.length ∧ newIndex < items.length

/-- An allowed call and the playlist after it. -/
def Step (items : Playlist) (call : PlayerCall) (items' : Playlist) : Prop :=
  Allowed currentId items call ∧ call.perform items = some items'

variable {currentId}

theorem followedBy_some {call : PlayerCall} {items items' final : Playlist} {more : Playlist → Calls}
    {calls : List PlayerCall} (h : Step currentId items call items')
    (hmore : more items' = some (calls, final)) :
    call.followedBy items more = some (call :: calls, final) := by
  unfold PlayerCall.followedBy
  rw [h.2, Option.bind_some, hmore]
  rfl

/-! ### one call -/

theorem step_remove {before after : Playlist} {item : MediaItem} (h : item.mediaId ≠ currentId) :
    Step currentId (before ++ item :: after) (.removeMediaItem before.length) (before ++ after) := by
  have hlt : before.length < (before ++ item :: after).length := by simp
  refine ⟨⟨hlt, ?_⟩, ?_⟩
  · rw [List.get_eq_getElem, List.getElem_append_right (Nat.le_refl _)]
    simpa using h
  · refine (if_pos hlt).trans ?_
    rw [eraseIdx_append_length]

theorem step_add {before after : Playlist} {item : MediaItem}
    (h : item.mediaId ∉ ids (before ++ after)) :
    Step currentId (before ++ after) (.addMediaItem before.length item) (before ++ item :: after) := by
  have hle : before.length ≤ (before ++ after).length := by simp
  refine ⟨⟨hle, h⟩, (if_pos hle).trans ?_⟩
  rw [insertIdx_append_length]

theorem step_move {before middle after : Playlist} {item : MediaItem} :
    Step currentId (before ++ (middle ++ item :: after))
      (.moveMediaItem (before.length + middle.length) before.length)
      (before ++ item :: (middle ++ after)) := by
  have hfrom : before.length + middle.length < (before ++ (middle ++ item :: after)).length := by simp
  have hto : before.length < (before ++ (middle ++ item :: after)).length := by omega
  have hget : (before ++ (middle ++ item :: after))[before.length + middle.length]? = some item := by
    simp
  have herase : (before ++ (middle ++ item :: after)).eraseIdx (before.length + middle.length) =
      before ++ (middle ++ after) := by
    rw [List.eraseIdx_append_of_length_le (Nat.le_add_right ..), Nat.add_sub_cancel_left,
      eraseIdx_append_length]
  refine ⟨⟨hfrom, hto⟩, (if_pos hto).trans ?_⟩
  rw [hget, Option.map_some, herase, insertIdx_append_length]

/-- The removals keep what the queue has, in its order. -/
theorem removeLoop_spec {retainedIds : List String} (hcurrent : currentId ∈ retainedIds)
    (before after : Playlist) :
    ∃ calls, removeLoop retainedIds before.length (before ++ after) =
        some (calls, before.filter (fun item => item.mediaId ∈ retainedIds) ++ after) ∧
      Path (Step currentId) (before ++ after) calls
        (before.filter (fun item => item.mediaId ∈ retainedIds) ++ after) := by
  induction before using List.reverseRecOn generalizing after with
  | nil => exact ⟨[], rfl, .nil _⟩
  | append_singleton before item ih =>
    have hget : (before ++ item :: after)[before.length]? = some item := by simp
    rw [List.length_append, List.append_assoc, List.singleton_append, List.filter_append]
    show ∃ calls, removeLoop retainedIds (before.length + 1) _ = _ ∧ _
    unfold removeLoop
    rw [hget, Option.bind_some]
    by_cases hin : item.mediaId ∈ retainedIds
    · obtain ⟨calls, hrun, hpath⟩ := ih (item :: after)
      rw [if_pos hin, List.filter_cons_of_pos (by simpa using hin), List.filter_nil, List.append_assoc]
      exact ⟨calls, hrun, hpath⟩
    · obtain ⟨calls, hrun, hpath⟩ := ih after
      have hstep : Step currentId (before ++ item :: after) (.removeMediaItem before.length)
          (before ++ after) := step_remove fun heq => hin (heq ▸ hcurrent)
      rw [if_neg hin, List.filter_cons_of_neg (by simpa using hin), List.filter_nil, List.append_nil]
      exact ⟨_ :: calls, followedBy_some hstep hrun, .cons hstep hpath⟩

/-! ### the second loop -/

theorem existingIndex_eq (before after : Playlist) (queueEntryId : String) :
    existingIndex (before ++ after) before.length queueEntryId =
      (after.findIdx? (fun item => item.mediaId = queueEntryId)).map (before.length + ·) := by
  unfold existingIndex
  rw [List.drop_left]

/-- The first `before.length` places are settled, and every item after them is yet to come. -/
structure Settling (entries : List String) (before after : Playlist) : Prop where
  distinct : (ids (before ++ after)).Nodup
  comes : ∀ item ∈ after, item.mediaId ∈ entries
  fresh : ∀ item ∈ before, item.mediaId ∉ entries

theorem Settling.done {before after : Playlist} (h : Settling [] before after) : after = [] :=
  List.eq_nil_iff_forall_not_mem.mpr fun item hitem => absurd (h.comes item hitem) List.not_mem_nil

/-- An entry that the player has is put in its place. -/
theorem Settling.found {queueEntryId : String} {entries : List String} {before middle after : Playlist}
    {item : MediaItem} (hnodup : (queueEntryId :: entries).Nodup) (hid : item.mediaId = queueEntryId)
    (h : Settling (queueEntryId :: entries) before (middle ++ item :: after)) :
    Settling entries (before ++ [item]) (middle ++ after) := by
  have hperm : (before ++ [item] ++ (middle ++ after)).Perm (before ++ (middle ++ item :: after)) := by
    rw [List.append_assoc, List.singleton_append]
    exact (List.perm_middle.symm).append_left before
  have hdistinct : (ids (before ++ [item] ++ (middle ++ after))).Nodup :=
    (hperm.map MediaItem.mediaId).nodup_iff.mpr h.distinct
  refine ⟨hdistinct, fun other hother => ?_, fun other hother => ?_⟩
  · have hin : other ∈ middle ++ item :: after := by
      rcases List.mem_append.mp hother with h | h
      · exact List.mem_append_left _ h
      · exact List.mem_append_right _ (List.mem_cons_of_mem _ h)
    refine (List.mem_cons.mp (h.comes other hin)).resolve_left fun heq => ?_
    unfold ids at hdistinct
    rw [List.map_append, List.nodup_append] at hdistinct
    refine hdistinct.2.2 item.mediaId ?_ other.mediaId (List.mem_map_of_mem hother) (hid.trans heq.symm)
    exact List.mem_map_of_mem (List.mem_append_right _ (List.mem_singleton_self item))
  · rcases List.mem_append.mp hother with h' | h'
    · exact fun hin => h.fresh other h' (List.mem_cons_of_mem _ hin)
    · rw [List.mem_singleton.mp h', hid]
      exact (List.nodup_cons.mp hnodup).1

/-- An entry that the player does not have is added in its place. -/
theorem Settling.added {queueEntryId : String} {entries : List String} {before after : Playlist}
    (hnodup : (queueEntryId :: entries).Nodup)
    (h : Settling (queueEntryId :: entries) before after)
    (hno : ∀ item ∈ after, item.mediaId ≠ queueEntryId) :
    queueEntryId ∉ ids (before ++ after) ∧
      Settling entries (before ++ [placeholder queueEntryId]) after := by
  have hnew : queueEntryId ∉ ids (before ++ after) := by
    intro hin
    obtain ⟨item, hitem, hid⟩ := List.mem_map.mp hin
    rcases List.mem_append.mp hitem with hb | ha
    · exact h.fresh item hb (hid ▸ List.mem_cons_self)
    · exact hno item ha hid
  refine ⟨hnew, ?_, fun item hitem => ?_, fun item hitem => ?_⟩
  · have hperm : (before ++ [placeholder queueEntryId] ++ after).Perm
        (placeholder queueEntryId :: (before ++ after)) := by
      rw [List.append_assoc, List.singleton_append]
      exact List.perm_middle
    exact (hperm.map MediaItem.mediaId).nodup_iff.mpr (List.nodup_cons.mpr ⟨hnew, h.distinct⟩)
  · exact (List.mem_cons.mp (h.comes item hitem)).resolve_left (hno item hitem)
  · rcases List.mem_append.mp hitem with h' | h'
    · exact fun hin => h.fresh item h' (List.mem_cons_of_mem _ hin)
    · rw [List.mem_singleton.mp h']
      exact (List.nodup_cons.mp hnodup).1

/-- Place by place, the playlist becomes the queue. -/
theorem addLoop_spec {entries : List String} (hnodup : entries.Nodup) (before after : Playlist)
    (h : Settling entries before after) :
    ∃ calls final, addLoop before.length entries (before ++ after) = some (calls, final) ∧
      Path (Step currentId) (before ++ after) calls final ∧ ids final = ids before ++ entries := by
  induction entries generalizing before after with
  | nil =>
    rw [h.done, List.append_nil]
    exact ⟨[], before, rfl, .nil _, (List.append_nil _).symm⟩
  | cons queueEntryId entries ih =>
    unfold addLoop
    rw [existingIndex_eq]
    -- what the rest of the loop does once the place is settled
    have hrest : ∀ (item : MediaItem) (after' : Playlist), item.mediaId = queueEntryId →
        Settling entries (before ++ [item]) after' →
        ∃ calls final, addLoop (before.length + 1) entries (before ++ item :: after') =
            some (calls, final) ∧
          Path (Step currentId) (before ++ item :: after') calls final ∧
            ids final = ids before ++ queueEntryId :: entries := by
      intro item after' hid hs
      obtain ⟨calls, final, hrun, hpath, hids⟩ := ih (List.nodup_cons.mp hnodup).2 _ _ hs
      rw [List.length_append, List.append_assoc, List.singleton_append] at hrun
      rw [List.append_assoc, List.singleton_append] at hpath
      refine ⟨calls, final, hrun, hpath, hids.trans ?_⟩
      unfold ids
      rw [List.map_append, List.append_assoc, ← hid]
      rfl
    cases hfind : after.findIdx? (fun item => item.mediaId = queueEntryId) with
    | none =>
      have hno : ∀ item ∈ after, item.mediaId ≠ queueEntryId := by
        intro item hitem
        simpa using List.findIdx?_eq_none_iff.mp hfind item hitem
      obtain ⟨hnew, hs⟩ := h.added hnodup hno
      obtain ⟨calls, final, hrun, hpath, hids⟩ := hrest (placeholder queueEntryId) after rfl hs
      have hstep : Step currentId (before ++ after)
          (.addMediaItem before.length (placeholder queueEntryId))
          (before ++ placeholder queueEntryId :: after) := step_add hnew
      exact ⟨_ :: calls, final, followedBy_some hstep hrun, .cons hstep hpath, hids⟩
    | some index =>
      obtain ⟨middle, item, after', rfl, hitem, hindex⟩ := split_of_findIdx? hfind
      have hid : item.mediaId = queueEntryId := of_decide_eq_true hitem
      have hs := h.found hnodup hid
      obtain ⟨calls, final, hrun, hpath, hids⟩ := hrest item (middle ++ after') hid hs
      rw [Option.map_some, hindex]
      show ∃ calls final, (if before.length + middle.length = before.length then _ else _) = _ ∧ _
      by_cases hplace : middle = []
      · subst hplace
        have heq : before.length + ([] : Playlist).length = before.length := rfl
        rw [if_pos heq]
        exact ⟨calls, final, hrun, hpath, hids⟩
      · have hne : before.length + middle.length ≠ before.length := by
          have := List.length_pos_of_ne_nil hplace
          omega
        have hstep : Step currentId (before ++ (middle ++ item :: after'))
            (.moveMediaItem (before.length + middle.length) before.length)
            (before ++ item :: (middle ++ after')) := step_move
        rw [if_neg hne]
        exact ⟨_ :: calls, final, followedBy_some hstep hrun, .cons hstep hpath, hids⟩

/-- **Reconciliation**: every call is in range, none removes the current item or adds an entry
twice, and at the end the playlist has the entries of the queue, in their order. -/
theorem reconcile_spec {items : Playlist} {entries : List String} (hitems : (ids items).Nodup)
    (hentries : entries.Nodup) (hcurrent : currentId ∈ entries) :
    ∃ calls final, reconcile items entries = some (calls, final) ∧
      Path (Step currentId) items calls final ∧ ids final = entries := by
  obtain ⟨removals, hremove, hpath⟩ := removeLoop_spec hcurrent items []
  rw [List.append_nil, List.append_nil] at hremove hpath
  have hs : Settling entries [] (items.filter (fun item => item.mediaId ∈ entries)) := by
    refine ⟨?_, fun item hitem => ?_, fun item hitem => absurd hitem List.not_mem_nil⟩
    · exact (List.filter_sublist.map _).nodup hitems
    · simpa using (List.mem_filter.mp hitem).2
  obtain ⟨calls, final, hadd, hpath', hids⟩ := addLoop_spec hentries _ _ hs
  refine ⟨removals ++ calls, final, ?_, hpath.append hpath', hids⟩
  unfold reconcile
  rw [hremove, Option.bind_some]
  rw [List.nil_append] at hadd
  show Option.map _ (addLoop 0 entries _) = _
  rw [show addLoop 0 entries _ = _ from hadd]
  rfl

/-- The same of `refreshQueue`, for the queue that was asked for and plays the current item. -/
theorem refreshQueue_reconciles {items : Playlist} {entries : List String} (hitems : (ids items).Nodup)
    (hentries : entries.Nodup) (hcurrent : currentId ∈ entries) :
    ∃ calls final, reconcile items entries = some (calls, final) ∧
      Path (Step currentId) items calls final ∧ ids final = entries ∧
        ∀ current snapshotId, current.mediaId = currentId →
          refreshQueue items (some current) (some snapshotId)
            (some ⟨snapshotId, some currentId, entries⟩) = some (calls, final) := by
  obtain ⟨calls, final, hrun, hpath, hids⟩ := reconcile_spec hitems hentries hcurrent
  refine ⟨calls, final, hrun, hpath, hids, fun current snapshotId hid => ?_⟩
  subst hid
  refine (if_neg ?_).trans ((if_neg (not_not.mpr hcurrent)).trans hrun)
  simp

/-- One item goes, one is added and one moves. -/
def playing : Playlist := [placeholder "a", placeholder "b", placeholder "c"]

theorem refreshQueue_reconciles_edited : ∃ calls final,
    reconcile playing ["c", "d", "b"] = some (calls, final) ∧ Path (Step "b") playing calls final ∧
      ids final = ["c", "d", "b"] := by
  obtain ⟨calls, final, hrun, hpath, hids, -⟩ :=
    @refreshQueue_reconciles "b" playing ["c", "d", "b"] (by decide) (by decide) (by decide)
  exact ⟨calls, final, hrun, hpath, hids⟩

end

end AutPlay.Playback
