import AutPlay.Sync.PullCalls
import AutPlay.Lib.Run
import Mathlib.Logic.Equiv.Nat

/-!
# Compaction is safe

* `removed_iff`           what the compaction removes;
* `reached_run`           a cursor is at the greatest sequence that its device presented;
* `compaction_laws`       a deletion is served with its tombstone until the device has acknowledged it.
-/

set_option linter.unusedSectionVars false

namespace AutPlay.Sync
open Result Follow

/-- How far a device has acknowledged the log; a device without a cursor is at the start. -/
def reached (db : SyncDb) (deviceId : Uuid) : Int :=
  ((db.cursors.find deviceId).map CursorRow.lastPulledServerSequence).getD 0

/-- A device of an owner. -/
def Enrolled (db : SyncDb) (deviceId userId : Uuid) : Prop :=
  ∃ device, db.devices.find deviceId = some device ∧ device.userId = userId

def Revoked (db : SyncDb) (deviceId : Uuid) : Prop :=
  ∃ device, db.devices.find deviceId = some device ∧ device.revokedAt ≠ none

/-- The tombstone of a deletion is there. -/
def HasTombstone (db : SyncDb) (r : SyncEventRow) : Prop :=
  ∃ t ∈ db.tombstones, t.deletedByEventId = r.eventId ∧ t.userId = r.userId

section
variable {tools : SyncTools} {db db' : SyncDb} {call : ServerCall} {deviceId userId : Uuid}

/-! ## the compaction -/

theorem unacknowledged_iff {sequence : Int} (h : 0 < sequence) :
    unacknowledged sequence (db.cursors.find deviceId) = true ↔ reached db deviceId < sequence := by
  unfold unacknowledged reached
  cases db.cursors.find deviceId with
  | none => exact iff_of_true rfl h
  | some cursor => exact decide_eq_true_iff

/-- Every device that is not revoked has acknowledged the deletion of a tombstone. -/
def AcknowledgedByAll (db : SyncDb) (t : TombstoneRow) : Prop :=
  ∃ event, db.syncEvents.find t.deletedByEventId = some event ∧
    ∀ device ∈ db.devices, device.userId = t.userId → device.revokedAt = none →
      unacknowledged event.serverSequence (db.cursors.find device.deviceId) = false

theorem pending_none_iff {sequence : Int} :
    db.devices.rows.countP (pendingDevice db userId sequence) = 0 ↔
      ∀ device ∈ db.devices, device.userId = userId → device.revokedAt = none →
        unacknowledged sequence (db.cursors.find device.deviceId) = false := by
  rw [List.countP_eq_zero]
  refine forall₂_congr fun device _ => ?_
  unfold pendingDevice
  rw [decide_eq_true_iff, not_and, not_and]
  refine imp_congr_right fun _ => imp_congr_right fun _ => ?_
  rw [Bool.not_eq_true]

theorem mem_compactTombstone {t x : TombstoneRow} :
    x ∈ (compactTombstone db t).tombstones ↔
      x ∈ db.tombstones ∧ ¬(Schema.key x = Schema.key t ∧ AcknowledgedByAll db t) := by
  unfold compactTombstone AcknowledgedByAll
  split
  next hnone =>
    refine ⟨fun h => ⟨h, ?_⟩, fun h => h.1⟩
    rintro ⟨-, event, hsome, -⟩
    rw [hnone] at hsome
    cases hsome
  next event hsome =>
    have hack : (∃ event', db.syncEvents.find t.deletedByEventId = some event' ∧
        ∀ device ∈ db.devices, device.userId = t.userId → device.revokedAt = none →
          unacknowledged event'.serverSequence (db.cursors.find device.deviceId) = false) ↔
        db.devices.rows.countP (pendingDevice db t.userId event.serverSequence) = 0 := by
      rw [pending_none_iff]
      constructor
      · rintro ⟨event', heq, hall⟩
        rw [hsome, Option.some.injEq] at heq
        rw [heq]
        exact hall
      · exact fun hall => ⟨event, hsome, hall⟩
    rw [hack]
    split
    next hzero =>
      show x ∈ (db.tombstones.erase (Schema.key t)).rows ↔ _
      unfold Table.erase
      rw [List.mem_filter, decide_eq_true_iff]
      exact and_congr_right fun _ => ⟨fun hne h => hne h.1, fun h hkey => h ⟨hkey, hzero⟩⟩
    next hzero => exact ⟨fun h => ⟨h, fun hboth => hzero hboth.2⟩, fun h => h.1⟩

/-- Whether a tombstone was acknowledged does not depend on the tombstones. -/
theorem acknowledged_congr {tombstones : Table TombstoneRow} {t : TombstoneRow} :
    AcknowledgedByAll { db with tombstones := tombstones } t ↔ AcknowledgedByAll db t := Iff.rfl

theorem mem_compacted (ts : List TombstoneRow) (db : SyncDb) {x : TombstoneRow} :
    x ∈ (ts.foldl compactTombstone db).tombstones ↔
      x ∈ db.tombstones ∧ ∀ t ∈ ts, ¬(Schema.key x = Schema.key t ∧ AcknowledgedByAll db t) := by
  induction ts generalizing db with
  | nil => exact ⟨fun h => ⟨h, fun _ ht => nomatch ht⟩, fun h => h.1⟩
  | cons t ts ih =>
    have hone : compactTombstone db t = { db with tombstones := (compactTombstone db t).tombstones } :=
      compact_same [t] db
    have hack (t' : TombstoneRow) : AcknowledgedByAll (compactTombstone db t) t' ↔ AcknowledgedByAll db t' := by
      rw [hone]
      exact acknowledged_congr
    rw [List.foldl_cons, ih, mem_compactTombstone, List.forall_mem_cons]
    simp only [hack, and_assoc]

/-- **The compaction removes** the expired tombstones that every device has acknowledged. -/
theorem removed_iff {now : Int} {x : TombstoneRow} :
    x ∈ (compactTombstones db now).tombstones ↔
      x ∈ db.tombstones ∧ ¬(x.retainUntil ≤ now ∧ AcknowledgedByAll db x) := by
  unfold compactTombstones
  rw [mem_compacted]
  refine and_congr_right fun hx => ?_
  simp only [List.mem_filter, decide_eq_true_iff]
  constructor
  · rintro h ⟨hexpired, hack⟩
    exact h x ⟨hx, hexpired⟩ ⟨rfl, hack⟩
  · rintro h t ⟨ht, hexpired⟩ ⟨hkey, hack⟩
    have heq : x = t := Table.eq_of_key hx ht hkey
    rw [← heq] at hexpired hack
    exact h ⟨hexpired, hack⟩

/-! ## what a device presented -/

/-- The sequence that an accepted pull of a device presents. -/
def presentedBy (tools : SyncTools) (db : SyncDb) (deviceId : Uuid) : ServerCall → Option Int
  | .pull p body now =>
    if p.deviceId = deviceId ∧ (pull tools.cursors db p body now).isOk = true then
      (presentedSequence tools.cursors p body.binding.journalEpoch body.cursor now).toOption
    else none
  | _ => none

/-- The sequences that a device presents in a run. -/
def presentedIn (tools : SyncTools) (deviceId : Uuid) : SyncDb → List ServerCall → List Int
  | _, [] => []
  | db, call :: calls => (presentedBy tools db deviceId call).toList ++ presentedIn tools deviceId (call.run tools db) calls

theorem presentedBy_ne_pull (h : ∀ p body now, call ≠ .pull p body now) : presentedBy tools db deviceId call = none := by
  cases call with
  | pull p body now => exact absurd rfl (h p body now)
  | _ => rfl

theorem reached_of_cursors (h : db'.cursors = db.cursors) : reached db' deviceId = reached db deviceId := by
  unfold reached
  rw [h]

theorem reached_update (deviceId : Uuid) {cursor : CursorRow} {sequence : Int} {cursors : Table CursorRow}
    (hfound : db.cursors.find cursor.deviceId = some cursor)
    (h : db.cursors.update { cursor with lastAckedDeviceSequence := sequence } = .ok cursors) :
    reached { db with cursors := cursors } deviceId = reached db deviceId := by
  unfold reached
  rw [show ({ db with cursors := cursors } : SyncDb).cursors.find deviceId = _ from Table.find_update h deviceId]
  split
  next hkey =>
    have hdevice : cursor.deviceId = deviceId := hkey
    rw [← hdevice, hfound]
    rfl
  next => rfl

theorem reached_upsert (db : SyncDb) (deviceId epoch : Uuid) {cursor : CursorRow} (h : cursor.lastPulledServerSequence = 0) :
    reached { db with cursors := db.cursors.upsert cursor fun row => { row with journalEpoch := some epoch } } deviceId =
      reached db deviceId := by
  unfold reached Table.upsert
  split
  next hnone =>
    by_cases hkey : Schema.key cursor = deviceId
    · have hnone' : db.cursors.find deviceId = none := hkey ▸ hnone
      rw [hnone']
      have hrows : (db.cursors.rows ++ [cursor]).find? (fun r => decide (Schema.key r = deviceId)) = some cursor := by
        rw [List.find?_append, show db.cursors.rows.find? (fun r => decide (Schema.key r = deviceId)) = none from hnone']
        rw [Option.none_or, List.find?_singleton, if_pos (decide_eq_true hkey)]
      unfold Table.find
      rw [hrows, Option.map_some, Option.getD_some, h]
      rfl
    · unfold Table.find
      rw [List.find?_append, List.find?_singleton, if_neg (by simpa using hkey), Option.or_none]
  next hsome =>
    rw [Table.find_updateWhere]
    cases db.cursors.find deviceId with
    | none => rfl
    | some row =>
      rw [Option.map_some, Option.map_some, Option.map_some]
      split
      · rfl
      · rfl

theorem reached_acknowledge {pulled : Uuid} {sequence : Int} (hpulled : pulled = deviceId)
    (hbound : (db.cursors.find pulled).isSome) :
    reached (db.acknowledge pulled sequence) deviceId = max (reached db deviceId) sequence := by
  subst hpulled
  obtain ⟨row, hrow⟩ := Option.isSome_iff_exists.mp hbound
  unfold reached SyncDb.acknowledge
  rw [Table.find_updateWhere, hrow]
  have hkey : row.deviceId = pulled := Table.key_of_find hrow
  rw [Option.map_some, if_pos (decide_eq_true hkey)]
  rfl

theorem reached_acknowledge_other {pulled : Uuid} {sequence : Int} (h : pulled ≠ deviceId) :
    reached (db.acknowledge pulled sequence) deviceId = reached db deviceId := by
  unfold reached SyncDb.acknowledge
  rw [Table.find_updateWhere]
  cases hrow : db.cursors.find deviceId with
  | none => rfl
  | some row =>
    have hkey : row.deviceId = deviceId := Table.key_of_find hrow
    rw [Option.map_some, if_neg]
    rw [decide_eq_true_iff, hkey]
    exact Ne.symm h

theorem bound_isSome {epoch : Uuid} {cursor : Option CursorRow} (h : boundTo epoch cursor = true) : cursor.isSome := by
  cases cursor with
  | none => cases h
  | some cursor => rfl

/-- Only a pull moves a cursor. -/
theorem Effect.reached_eq (h : Effect tools db call db') (hne : ∀ p body now, call ≠ .pull p body now) :
    reached db' deviceId = reached db deviceId := by
  cases h with
  | refused => rfl
  | pushed call told devices cursors =>
    obtain ⟨cursor, sequence, hfound, hupdate⟩ := cursors
    have hkey : cursor.deviceId = call.principal.deviceId := Table.key_of_find hfound
    rw [← hkey] at hfound
    have hreached := reached_update deviceId hfound hupdate
    rw [← hreached]
    exact reached_of_cursors rfl
  | published catalog owner refIds now h => exact reached_of_cursors h.same.cursors
  | bound p body described h =>
    obtain ⟨cursor, epoch, -, hzero, hcursors⟩ := h.cursors
    have hreached := reached_upsert db deviceId epoch hzero
    rw [← hreached]
    exact reached_of_cursors hcursors
  | pulled p body now sequence h => exact absurd rfl (hne p body now)
  | compacted now =>
    refine reached_of_cursors ?_
    unfold compactTombstones
    rw [compact_same]
  | enrolled device h => exact reached_of_cursors rfl
  | revoked deviceId now => exact reached_of_cursors rfl

/-- A call moves the cursor of a device to what the device presents, if that is further. -/
theorem reached_call (tools : SyncTools) (db : SyncDb) (call : ServerCall) (deviceId : Uuid) :
    reached (call.run tools db) deviceId =
      (presentedBy tools db deviceId call).toList.foldl max (reached db deviceId) := by
  have hother (hne : ∀ p body now, call ≠ .pull p body now) : reached (call.run tools db) deviceId =
      (presentedBy tools db deviceId call).toList.foldl max (reached db deviceId) := by
    rw [presentedBy_ne_pull hne]
    exact (call_effect tools db call).reached_eq hne
  cases call with
  | pull p body now =>
    show _ = (if p.deviceId = deviceId ∧ (AutPlay.Sync.pull tools.cursors db p body now).isOk = true then
      (presentedSequence tools.cursors p body.binding.journalEpoch body.cursor now).toOption else none).toList.foldl
        max (reached db deviceId)
    cases hpull : AutPlay.Sync.pull tools.cursors db p body now with
    | error e =>
      have hrun : ServerCall.run tools db (.pull p body now) = db := by
        show committedTo db ((AutPlay.Sync.pull tools.cursors db p body now).map Prod.snd) = db
        rw [hpull]
        rfl
      rw [hrun, if_neg fun h => Bool.noConfusion h.2]
      rfl
    | ok r =>
      obtain ⟨-, sequence, hpulls⟩ := pull_ok.mp hpull
      have hrun : ServerCall.run tools db (.pull p body now) = db.acknowledge p.deviceId sequence := by
        show committedTo db ((AutPlay.Sync.pull tools.cursors db p body now).map Prod.snd) = _
        rw [hpull]
        exact hpulls.acknowledged
      rw [hrun]
      by_cases hdevice : p.deviceId = deviceId
      · rw [if_pos ⟨hdevice, rfl⟩, hpulls.presented, reached_acknowledge hdevice (bound_isSome hpulls.bound)]
        rfl
      · rw [if_neg fun h => hdevice h.1, reached_acknowledge_other hdevice]
        rfl
  | push call => exact hother fun _ _ _ => nofun
  | publish catalog owner refIds now => exact hother fun _ _ _ => nofun
  | bind p body described => exact hother fun _ _ _ => nofun
  | compact now => exact hother fun _ _ _ => nofun
  | enrol device => exact hother fun _ _ _ => nofun
  | revoke deviceId now => exact hother fun _ _ _ => nofun

/-- **A cursor is at the greatest sequence that its device presented**, or where it was. -/
theorem reached_run (tools : SyncTools) (deviceId : Uuid) (db : SyncDb) (calls : List ServerCall) :
    reached (calls.foldl (ServerCall.run tools) db) deviceId =
      (presentedIn tools deviceId db calls).foldl max (reached db deviceId) := by
  induction calls generalizing db with
  | nil => rfl
  | cons call calls ih =>
    rw [List.foldl_cons, ih, reached_call]
    show _ = ((presentedBy tools db deviceId call).toList ++ _).foldl max (reached db deviceId)
    rw [List.foldl_append]

theorem le_foldl_max (xs : List Int) (x : Int) : x ≤ xs.foldl max x := by
  induction xs generalizing x with
  | nil => exact le_refl x
  | cons y xs ih => exact (le_max_left x y).trans (ih (max x y))

theorem reached_mono (tools : SyncTools) (db : SyncDb) (call : ServerCall) (deviceId : Uuid) :
    reached db deviceId ≤ reached (call.run tools db) deviceId := by
  rw [reached_call]
  exact le_foldl_max _ _

/-! ## the devices -/

/-- A device stays enrolled and revoked. -/
theorem Effect.device (h : Effect tools db call db') {device : DeviceRow}
    (hdevice : db.devices.find deviceId = some device) :
    ∃ device', db'.devices.find deviceId = some device' ∧ device'.userId = device.userId ∧
      (device.revokedAt ≠ none → device'.revokedAt ≠ none) := by
  have hsame (heq : db'.devices = db.devices) : ∃ device', db'.devices.find deviceId = some device' ∧
      device'.userId = device.userId ∧ (device.revokedAt ≠ none → device'.revokedAt ≠ none) := by
    rw [heq]
    exact ⟨device, hdevice, rfl, id⟩
  cases h with
  | refused => exact hsame rfl
  | pushed call told devices cursors => exact hsame devices
  | published catalog owner refIds now h => exact hsame h.same.devices
  | bound p body described h =>
    refine hsame ?_
    rw [h.rest]
  | pulled p body now sequence h => exact hsame rfl
  | compacted now =>
    refine hsame ?_
    unfold compactTombstones
    rw [compact_same]
  | @enrolled new devices h =>
    refine ⟨device, ?_, rfl, id⟩
    show devices.find deviceId = _
    rw [Table.find_insert h]
    split
    next hkey =>
      have hnone := (Table.insert_ok.mp h).1
      rw [hkey, hdevice] at hnone
      cases hnone
    next => exact hdevice
  | revoked revokedId now =>
    show ∃ device', (db.devices.updateWhere _ _).find deviceId = some device' ∧ _
    rw [Table.find_updateWhere, hdevice]
    rw [Option.map_some]
    refine ⟨_, rfl, ?_, ?_⟩
    · split
      · rfl
      · rfl
    · intro hrevoked
      rw [if_neg]
      · exact hrevoked
      · rw [decide_eq_true_iff]
        exact fun h => hrevoked h.2

theorem Enrolled.kept (h : Enrolled db deviceId userId) : Enrolled (call.run tools db) deviceId userId := by
  obtain ⟨device, hfind, rfl⟩ := h
  obtain ⟨device', hfind', huser, -⟩ := (call_effect tools db call).device hfind
  exact ⟨device', hfind', huser⟩

theorem Revoked.kept (h : Revoked db deviceId) : Revoked (call.run tools db) deviceId := by
  obtain ⟨device, hfind, hrevoked⟩ := h
  obtain ⟨device', hfind', -, hkept⟩ := (call_effect tools db call).device hfind
  exact ⟨device', hfind', hkept hrevoked⟩

/-! ## the tombstones -/

/-- **The tombstone of a deletion is there** until the device has acknowledged it, unless the device is revoked. -/
def Accounted (db : SyncDb) (deviceId : Uuid) (r : SyncEventRow) : Prop :=
  HasTombstone db r ∨ Revoked db deviceId ∨ r.serverSequence ≤ reached db deviceId

/-- A tombstone goes only where every device has acknowledged it. -/
theorem Effect.tombstone (h : Effect tools db call db') {t : TombstoneRow} (ht : t ∈ db.tombstones) :
    t ∈ db'.tombstones ∨ AcknowledgedByAll db t := by
  cases h with
  | refused => exact .inl ht
  | pushed call told devices cursors =>
    obtain ⟨fs, -, -, -, hrows⟩ := told.log
    refine .inl ?_
    rw [Table.mem_def, hrows]
    exact List.mem_append_left _ ht
  | published catalog owner refIds now h => exact .inl (h.same.tombstones ▸ ht)
  | bound p body described h =>
    refine .inl ?_
    rw [h.rest]
    exact ht
  | pulled p body now sequence h => exact .inl ht
  | compacted now =>
    by_cases hgone : t.retainUntil ≤ now ∧ AcknowledgedByAll db t
    · exact .inr hgone.2
    · exact .inl (removed_iff.mpr ⟨ht, hgone⟩)
  | enrolled device h => exact .inl ht
  | revoked deviceId now => exact .inl ht

theorem Accounted.kept (ho : LogOrdered db) (henrolled : Enrolled db deviceId userId) {r : SyncEventRow}
    (hr : r ∈ db.syncEvents) (huser : r.userId = userId) (h : Accounted db deviceId r) :
    Accounted (call.run tools db) deviceId r := by
  rcases h with ⟨t, ht, hevent, howner⟩ | hrevoked | hle
  · rcases (call_effect tools db call).tombstone ht with hkept | ⟨event, hfind, hall⟩
    · exact .inl ⟨t, hkept, hevent, howner⟩
    · -- the compaction took it: the device has acknowledged it, or is revoked
      have heq : event = r := by
        have hkey : db.syncEvents.find r.eventId = some r := Table.find_mem hr
        rw [hevent, hkey, Option.some.injEq] at hfind
        exact hfind.symm
      obtain ⟨device, hdevice, hdeviceUser⟩ := henrolled
      by_cases hactive : device.revokedAt = none
      · have hack := hall device (Table.mem_of_find hdevice) (hdeviceUser.trans (huser.symm.trans howner.symm)) hactive
        have hid : device.deviceId = deviceId := Table.key_of_find hdevice
        rw [heq, hid, ← Bool.not_eq_true, unacknowledged_iff (ho.bounds r hr).1, not_lt] at hack
        exact .inr (.inr (hack.trans (reached_mono tools db call deviceId)))
      · exact .inr (.inl (Revoked.kept ⟨device, hdevice, hactive⟩))
  · exact .inr (.inl hrevoked.kept)
  · exact .inr (.inr (hle.trans (reached_mono tools db call deviceId)))

/-- A new deletion leaves its tombstone. -/
theorem Effect.deletion (h : Effect tools db call db') {r : SyncEventRow} (hr : r ∈ db'.syncEvents)
    (hnew : r ∉ db.syncEvents) (hdelete : r.operation = .delete) : HasTombstone db' r := by
  have hsame (heq : db'.syncEvents = db.syncEvents) : HasTombstone db' r := absurd (heq ▸ hr) hnew
  cases h with
  | refused => exact hsame rfl
  | pushed call told devices cursors =>
    obtain ⟨fs, happends, hdeletes, -, hrows⟩ := told.log
    rw [Table.mem_def, happends.rows] at hr
    rcases List.mem_append.mp hr with hr | hr
    · exact absurd hr hnew
    · obtain ⟨f, hf, sequence, rfl⟩ := mem_publishedRows hr
      obtain ⟨heq, hoperation⟩ := hdeletes f hf hdelete
      refine ⟨SyncDb.buried call.principal call.event call.now, ?_, heq.symm, rfl⟩
      rw [Table.mem_def, hrows, if_pos ⟨List.ne_nil_of_mem hf, hoperation⟩]
      exact List.mem_append_right _ (List.mem_singleton_self _)
  | published catalog owner refIds now h =>
    have hupsert := h.upserts r hr hnew
    rw [hdelete] at hupsert
    cases hupsert
  | bound p body described h =>
    refine hsame ?_
    rw [h.rest]
  | pulled p body now sequence h => exact hsame rfl
  | compacted now =>
    refine hsame ?_
    unfold compactTombstones
    rw [compact_same]
  | enrolled device h => exact hsame rfl
  | revoked deviceId now => exact hsame rfl

/-- What holds along a run, of the deletions that were not there at its start. -/
structure Warned (start : SyncDb) (deviceId userId : Uuid) (db : SyncDb) : Prop where
  ordered : LogOrdered db
  enrolled : Enrolled db deviceId userId
  accounted : ∀ r ∈ db.syncEvents, r ∉ start.syncEvents → r.userId = userId → r.operation = .delete →
    Accounted db deviceId r

theorem Warned.next {start : SyncDb} (h : Warned start deviceId userId db) :
    Warned start deviceId userId (call.run tools db) := by
  refine ⟨h.ordered.grows (call_effect tools db call).log, h.enrolled.kept, fun r hr hnew huser hdelete => ?_⟩
  by_cases hold : r ∈ db.syncEvents
  · exact (h.accounted r hold hnew huser hdelete).kept h.ordered h.enrolled hold huser
  · exact .inl ((call_effect tools db call).deletion hr hold hdelete)

theorem warned_run (tools : SyncTools) (h : LogOrdered db) (henrolled : Enrolled db deviceId userId)
    (calls : List ServerCall) : Warned db deviceId userId (calls.foldl (ServerCall.run tools) db) := by
  have hstep : ∀ s call s', Warned db deviceId userId s → stepOf (ServerCall.run tools) s call s' →
      Warned db deviceId userId s' := by
    intro s call s' hs hcall
    rw [show s' = call.run tools s from hcall]
    exact hs.next
  refine Path.invariant hstep ((Path.foldl_iff (ServerCall.run tools) db _ calls).mpr rfl) ?_
  exact ⟨h, henrolled, fun r hr hnew => absurd hr hnew⟩

/-- A deletion is served with its tombstone. -/
theorem tombstoneOf_isSome {r : SyncEventRow} (hdelete : r.operation = .delete) (h : HasTombstone db r) :
    ∃ t, tombstoneOf db r = some t ∧ t.deletedByEventId = r.eventId := by
  obtain ⟨t, ht, hevent, -⟩ := h
  unfold tombstoneOf
  rw [if_pos hdelete]
  cases hfind : db.tombstones.rows.find? fun tombstone => tombstone.deletedByEventId = r.eventId with
  | none =>
    have hnone := List.find?_eq_none.mp hfind t ht
    rw [decide_eq_true_iff] at hnone
    exact absurd hevent hnone
  | some t' =>
    have hsome := List.find?_some hfind
    rw [decide_eq_true_iff] at hsome
    exact ⟨t', rfl, hsome⟩

/-- **The compaction is safe.**  In every run a cursor is at the greatest sequence that its device presented; the
compaction removes just the expired tombstones whose deletion every device has acknowledged; and a device that was
enrolled before a deletion is served its tombstone, unless it has acknowledged the deletion before. -/
theorem compaction_laws (tools : SyncTools) (db : SyncDb) (h : LogOrdered db) (deviceId userId : Uuid)
    (henrolled : Enrolled db deviceId userId) (calls : List ServerCall) :
    let db' := calls.foldl (ServerCall.run tools) db
    reached db' deviceId = (presentedIn tools deviceId db calls).foldl max (reached db deviceId) ∧
    (∀ now x, x ∈ (compactTombstones db' now).tombstones ↔
      x ∈ db'.tombstones ∧ ¬(x.retainUntil ≤ now ∧ AcknowledgedByAll db' x)) ∧
    ∀ p body now page db'', p.deviceId = deviceId → p.userId = userId → ¬Revoked db' deviceId →
      pull tools.cursors db' p body now = .ok (page, db'') →
      ∀ event ∈ page.events, event.row ∉ db.syncEvents → event.row.operation = .delete →
        (∃ t, event.tombstone = some t ∧ t.deletedByEventId = event.row.eventId) ∨
          event.row.serverSequence ≤ reached db' deviceId := by
  refine ⟨reached_run tools deviceId db calls, fun now x => removed_iff, ?_⟩
  intro p body now page db'' hdevice huser hactive hpull event hevent hnew hdelete
  obtain ⟨-, sequence, hpulls⟩ := pull_ok.mp hpull
  obtain rfl : page = _ := hpulls.page
  obtain ⟨row, hrow, rfl⟩ := List.mem_map.mp hevent
  have howned : row ∈ ownedLog (calls.foldl (ServerCall.run tools) db) p.userId := by
    have hmem := List.mem_of_mem_filter hrow
    rw [answerTo_rows] at hmem
    exact (mem_behind.mp (List.mem_of_mem_take hmem)).1
  obtain ⟨hmem, howner⟩ := List.mem_filter.mp howned
  have hwarned := warned_run tools h henrolled calls
  rcases hwarned.accounted row hmem hnew ((of_decide_eq_true howner).trans huser) hdelete with
    htombstone | hrevoked | hle
  · exact .inl (tombstoneOf_isSome hdelete htombstone)
  · exact absurd hrevoked hactive
  · exact .inr hle

end

/-! ## a playlist that is deleted -/

namespace Sample

/-- A number as digits. -/
def number (i : Int) : String := (Equiv.intEquivNat i).repr

theorem colon_not_mem_number (i : Int) : ':' ∉ (number i).toList := by
  intro h
  unfold number at h
  rw [Nat.toList_repr] at h
  exact absurd (Nat.isDigit_of_mem_toDigits (by decide) (by decide) h) (by decide)

theorem number_inj {i j : Int} (h : number i = number j) : i = j := by
  have hrepr : "" ++ ("-" ++ (Equiv.intEquivNat i).repr) = "" ++ ("-" ++ (Equiv.intEquivNat j).repr) :=
    congrArg (fun t => "" ++ ("-" ++ t)) h
  exact Equiv.intEquivNat.injective (numbered_inj hrepr).2

/-- The fields of a body, with colons between them. -/
def cursorText : CursorBody → String
  | .sync u d e s x => "sync" ++ (":" ++ (u.text ++ (":" ++ (d.text ++ (":" ++ (e.text ++ (":" ++ (number s ++
      (":" ++ number x)))))))))
  | .bootstrap n u d e o x => "bootstrap" ++ (":" ++ (n.text ++ (":" ++ (u.text ++ (":" ++ (d.text ++ (":" ++
      (e.text ++ (":" ++ (number o ++ (":" ++ number x)))))))))))

theorem cursorText_inj {b b' : CursorBody} (h : cursorText b = cursorText b') : b = b' := by
  cases b with
  | sync u d e s x =>
    cases b' with
    | sync u' d' e' s' x' =>
      obtain ⟨-, h⟩ := colon_inj (by decide) (by decide) h
      obtain ⟨hu, h⟩ := colon_inj u.colon_not_mem_text u'.colon_not_mem_text h
      obtain ⟨hd, h⟩ := colon_inj d.colon_not_mem_text d'.colon_not_mem_text h
      obtain ⟨he, h⟩ := colon_inj e.colon_not_mem_text e'.colon_not_mem_text h
      obtain ⟨hs, hx⟩ := colon_inj (colon_not_mem_number s) (colon_not_mem_number s') h
      rw [Uuid.text_injective hu, Uuid.text_injective hd, Uuid.text_injective he, number_inj hs, number_inj hx]
    | bootstrap n' u' d' e' o' x' =>
      obtain ⟨hkind, -⟩ := colon_inj (by decide) (by decide) h
      exact absurd hkind (by decide)
  | bootstrap n u d e o x =>
    cases b' with
    | sync u' d' e' s' x' =>
      obtain ⟨hkind, -⟩ := colon_inj (by decide) (by decide) h
      exact absurd hkind (by decide)
    | bootstrap n' u' d' e' o' x' =>
      obtain ⟨-, h⟩ := colon_inj (by decide) (by decide) h
      obtain ⟨hn, h⟩ := colon_inj n.colon_not_mem_text n'.colon_not_mem_text h
      obtain ⟨hu, h⟩ := colon_inj u.colon_not_mem_text u'.colon_not_mem_text h
      obtain ⟨hd, h⟩ := colon_inj d.colon_not_mem_text d'.colon_not_mem_text h
      obtain ⟨he, h⟩ := colon_inj e.colon_not_mem_text e'.colon_not_mem_text h
      obtain ⟨ho, hx⟩ := colon_inj (colon_not_mem_number o) (colon_not_mem_number o') h
      rw [Uuid.text_injective hn, Uuid.text_injective hu, Uuid.text_injective hd, Uuid.text_injective he,
        number_inj ho, number_inj hx]

open Classical in
/-- The texts of the bodies, and the bodies of these texts. -/
noncomputable def cursors : OpaqueCursor where
  text := cursorText
  verified s := if h : ∃ body, cursorText body = s then some h.choose else none
  verified_text body := by
    have h : ∃ body', cursorText body' = cursorText body := ⟨body, rfl⟩
    rw [dif_pos h]
    exact congrArg some (cursorText_inj h.choose_spec)

noncomputable def tools : SyncTools := ⟨env, Catalog.Sample.env, cursors⟩

/-- The phone is enrolled and bound. -/
def enrolled : SyncDb :=
  { bound with devices := ⟨[⟨phone, user, none⟩], by decide, by decide⟩ }

def deletion : Uuid := ⟨"00000000-0000-4000-8000-000000000f21", Eq.refl true⟩

/-- The playlist is deleted on the phone. -/
def dropList : Event :=
  { createList with
    eventId := deletion
    idempotencyKey := "delete-list"
    deviceSequence := .int 2
    eventType := .aggregateDeleted
    baseVersion := some (.int 1)
    payload := []
    requestHash := "h2" }

/-- The list is made and deleted, and the tombstone would be compacted long after. -/
def deletedCalls : List ServerCall :=
  [.push (push createList), .push (push dropList), .compact (10 * retention)]

end Sample

/-- The phone has not pulled the deletion, so that its tombstone is still there and is served. -/
theorem compaction_laws_deleted :
    ((Sample.deletedCalls.foldl (ServerCall.run Sample.tools) Sample.enrolled).syncEvents.rows.map
      SyncEventRow.operation = [.upsert, .delete]) ∧
    reached (Sample.deletedCalls.foldl (ServerCall.run Sample.tools) Sample.enrolled) Sample.phone = 0 := by
  obtain ⟨hreached, -⟩ := compaction_laws Sample.tools Sample.enrolled
    ⟨List.Pairwise.nil, fun _ h => absurd h List.not_mem_nil, Int.one_pos⟩ Sample.phone Sample.user
    ⟨⟨Sample.phone, Sample.user, none⟩, by decide, rfl⟩ Sample.deletedCalls
  refine ⟨?_, hreached.trans rfl⟩
  decide +kernel

end AutPlay.Sync
