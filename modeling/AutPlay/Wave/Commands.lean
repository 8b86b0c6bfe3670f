import AutPlay.Wave.Steps

/-!
# Steps of the host's commands and of the start gate

* `CommandEffect`, `commandEffect_ok`   what a command of the host does besides being appended;
* `commandLocked_ok`, `start_ok`        what the two operations return and leave;
* `commandLocked_step`, `start_step`    what they do to every room.
-/

set_option linter.unusedSectionVars false

namespace AutPlay.Wave
open Sync (Uuid Json Payload)

/-- **What a command of the host does** besides being appended. -/
inductive CommandEffect (db : WaveDb) (room : WaveRoom) (q : CommandRequest) (entryId : Uuid) :
    CommandKind → Nat → Payload → WaveDb → Prop
  | queue (recordingId : Uuid) (queueEntries : Table QueueEntryRow)
      (full : room.queue.length < 100) (known : recordingId ∈ db.recordings)
      (inserted : db.queueEntries.insert
        { queueEntryId := entryId, roomId := room.roomId, recordingId := recordingId,
          position := room.queue.length, removedAt := none } = .ok queueEntries) :
      CommandEffect db room q entryId .queue (q.expectedQueueVersion + 1) []
        { db with queueEntries := queueEntries }
  | skip (entry : QueueEntry) (next : room.queue[currentIndex room + 1]? = some entry) :
      CommandEffect db room q entryId .skip q.expectedQueueVersion (entryDocument entry) db
  | pauseEmpty (none : room.queue[currentIndex room]? = none) :
      CommandEffect db room q entryId .pause q.expectedQueueVersion [] db
  | pause (entry : QueueEntry) (current : room.queue[currentIndex room]? = some entry) :
      CommandEffect db room q entryId .pause q.expectedQueueVersion (entryDocument entry) db
  | seek : CommandEffect db room q entryId .seek q.expectedQueueVersion [] db
  | transfer : CommandEffect db room q entryId .transfer q.expectedQueueVersion [] db

section
variable {env : WaveEnv} {db db' : WaveDb} {room r : Uuid} {p : Principal} {now stmt : Instant}
  {value : WaveRoom} {v v' : RoomView} {q : CommandRequest} {entryId : Uuid}

theorem commandEffect_ok {kind : CommandKind} {version : Nat} {document : Payload}
    (h : commandEffect db value q entryId = .ok (kind, version, document, db')) :
    CommandEffect db value q entryId kind version document db' := by
  unfold commandEffect at h
  split at h
  · obtain ⟨u, hfull, h₁⟩ := Result.bind_eq_ok.mp h
    obtain ⟨u', hknown, h₂⟩ := Result.bind_eq_ok.mp h₁
    obtain ⟨queueEntries, hins, hend⟩ := Result.bind_eq_ok.mp h₂
    cases hend
    exact .queue _ _ (require_ok.mp hfull) (require_ok.mp hknown) (insertInto_ok.mp hins)
  · cases h
  · split at h
    · cases h
    · rename_i entry hnext
      cases h
      exact .skip entry hnext
  · split at h
    · rename_i hnone
      cases h
      exact .pauseEmpty hnone
    · rename_i entry hcurrent
      cases h
      exact .pause entry hcurrent
  · cases h
    exact .seek
  · cases h
    exact .transfer
  · cases h

/-- The kind that is written is the kind that was asked for. -/
theorem commandEffect_text {kind : CommandKind} {version : Nat} {document : Payload}
    (h : commandEffect db value q entryId = .ok (kind, version, document, db')) :
    kind.text = q.kind := by
  unfold commandEffect at h
  split at h
  · rename_i hk hrecording
    obtain ⟨u, -, h₁⟩ := Result.bind_eq_ok.mp h
    obtain ⟨u', -, h₂⟩ := Result.bind_eq_ok.mp h₁
    obtain ⟨queueEntries, -, hend⟩ := Result.bind_eq_ok.mp h₂
    cases hend
    exact hk.symm
  · cases h
  · rename_i hk
    split at h
    · cases h
    · cases h
      exact hk.symm
  · rename_i hk
    split at h
    · cases h
      exact hk.symm
    · cases h
      exact hk.symm
  · rename_i hk
    cases h
    exact hk.symm
  · rename_i hk
    cases h
    exact hk.symm
  · cases h

/-- The row of a command of the host. -/
def clientCommand (room : Uuid) (p : Principal) (q : CommandRequest) (kind : CommandKind)
    (document : Payload) (now : Instant) : CommandRow where
  roomId := room
  commandSequence := q.expectedSequence + 1
  actorUserId := p.userId
  actorDeviceId := p.deviceId
  idempotencyKey := q.idempotencyKey
  requestSha256 := q.requestHash
  expectedQueueVersion := q.expectedQueueVersion
  expectedSequence := q.expectedSequence
  commandKind := kind
  commandDocument := document
  effectiveAt := none
  createdAt := now

/-- The room row after a command of the host. -/
def commandedRow (kind : CommandKind) (version sequence : Nat) (r : RoomRow) : RoomRow :=
  { r with
    queueVersion := version
    commandSequence := sequence
    playbackState := if kind = .pause ∨ kind = .skip then .paused else r.playbackState }

/-- **A command was accepted.** -/
structure Commanded (db : WaveDb) (room : Uuid) (p : Principal) (q : CommandRequest)
    (entryId : Uuid) (now : Instant) (row : RoomRow) (value : WaveRoom) (kind : CommandKind)
    (version : Nat) (document : Payload) (db' : WaveDb) : Prop where
  visited : Visited db room p now row value (touched db room p.deviceId now)
  opened : row.state = .opened
  unlost : row.hostLostAt = none
  hostUser : row.hostUserId = p.userId
  hostDevice : row.hostDeviceId = p.deviceId
  queueVersion : row.queueVersion = q.expectedQueueVersion
  commandSequence : row.commandSequence = q.expectedSequence
  text : kind.text = q.kind
  written : ∃ db₂, CommandEffect (touched db room p.deviceId now) value q entryId kind version
    document db₂ ∧ insertCommand (db₂.updateRoom room (commandedRow kind version
      (q.expectedSequence + 1)) (fun _ => rfl) (fun _ => rfl))
        (clientCommand room p q kind document now) = .ok db'

theorem commandLocked_ok {result : CommandResult}
    (h : commandLocked db room p q entryId now = .ok (result, db')) :
    ∃ row value kind version document,
      Commanded db room p q entryId now row value kind version document db' ∧
        result = ⟨q.expectedSequence + 1, some version, false⟩ := by
  obtain ⟨⟨value, db₁⟩, hhost, h₁⟩ := Result.bind_eq_ok.mp h
  obtain ⟨u, hexpected, h₂⟩ := Result.bind_eq_ok.mp h₁
  obtain ⟨⟨kind, version, document, db₂⟩, heffect, h₃⟩ := Result.bind_eq_ok.mp h₂
  obtain ⟨db₃, hins, hend⟩ := Result.bind_eq_ok.mp h₃
  cases hend
  obtain ⟨row, hv, hopen, hlost, huser, hdevice⟩ := requireHost_ok hhost
  have hdb₁ : db₁ = touched db room p.deviceId now := hv.touched
  subst hdb₁
  obtain ⟨hversion, hsequence⟩ := require_ok.mp hexpected
  exact ⟨row, value, kind, version, document, ⟨hv, hopen, hlost, huser, hdevice,
    hv.snapshot.version.symm.trans hversion, hv.snapshot.sequence.symm.trans hsequence,
    commandEffect_text heffect, db₂, commandEffect_ok heffect, hins⟩, rfl⟩

theorem SnapshotOf.length {row : RoomRow} (h : SnapshotOf db room row value)
    (hv : db.view room = some v) : value.queue.length = v.queue.length := by
  rw [h.queue, List.length_map, ← (view_eq_some.mp hv).2.2.1]
  exact (List.length_insertionSort ..)

theorem SnapshotOf.get {row : RoomRow} (h : SnapshotOf db room row value)
    (hv : db.view room = some v) (i : Nat) :
    value.queue[i]? = (v.sorted[i]?).map fun e => ⟨e.queueEntryId, e.recordingId, e.position⟩ := by
  rw [h.queue, List.getElem?_map]
  unfold RoomView.sorted
  rw [← (view_eq_some.mp hv).2.2.1]
  rfl

/-- The service and the view agree on the current index. -/
theorem SnapshotOf.index {row : RoomRow} (h : SnapshotOf db room row value)
    (hv : db.view room = some v) : currentIndex value = v.index := by
  unfold currentIndex RoomView.index RoomView.named RoomView.sorted
  dsimp only
  rw [h.queue, h.playback, ← (view_eq_some.mp hv).2.2.1, ← (view_eq_some.mp hv).2.1,
    List.findIdx?_map]
  rfl

theorem namedEntry_entryDocument {entry : QueueEntry} {kind : CommandKind} :
    namedEntry (clientCommand room p q kind (entryDocument entry) now) =
      some entry.queueEntryId.text := by
  have hnamed : (clientCommand room p q kind (entryDocument entry) now).commandDocument.lookup
      "queue_entry_id" = some (.str entry.queueEntryId.text) := rfl
  unfold namedEntry
  rw [hnamed]

theorem namedEntry_empty {kind : CommandKind} :
    namedEntry (clientCommand room p q kind [] now) = none := rfl

/-- A SKIP names the entry after the one that is taken for the current one. -/
theorem Commanded.skip {row : RoomRow} {version : Nat} {document : Payload}
    (h : Commanded db room p q entryId now row value .skip version document db')
    (hv : db.view room = some v) :
    ∃ e, v.sorted[v.index + 1]? = some e ∧
      namedEntry (clientCommand room p q .skip document now) = some e.queueEntryId.text := by
  obtain ⟨db₂, heffect, -⟩ := h.written
  cases heffect with
  | skip entry next =>
    rw [h.visited.snapshot.index hv, h.visited.snapshot.get hv] at next
    obtain ⟨e, he, rfl⟩ := Option.map_eq_some_iff.mp next
    exact ⟨e, he, namedEntry_entryDocument⟩

/-- A PAUSE names the entry that is taken for the current one. -/
theorem Commanded.pause {row : RoomRow} {version : Nat} {document : Payload}
    (h : Commanded db room p q entryId now row value .pause version document db')
    (hv : db.view room = some v) :
    namedEntry (clientCommand room p q .pause document now) =
      (v.sorted[v.index]?).map fun e => e.queueEntryId.text := by
  have hindex := h.visited.snapshot.index hv
  have hget := h.visited.snapshot.get hv
  obtain ⟨db₂, heffect, -⟩ := h.written
  cases heffect with
  | pauseEmpty none =>
    rw [hindex, hget, Option.map_eq_none_iff] at none
    rw [namedEntry_empty, none]
    rfl
  | pause entry current =>
    rw [hindex, hget] at current
    obtain ⟨e, he, rfl⟩ := Option.map_eq_some_iff.mp current
    rw [namedEntry_entryDocument, he]
    rfl

theorem CommandEffect.kind {kind : CommandKind} {version : Nat} {document : Payload}
    (h : CommandEffect db value q entryId kind version document db') :
    kind = .pause ∨ kind = .skip ∨ kind = .seek ∨ kind = .queue ∨ kind = .transfer := by
  cases h with
  | queue => exact .inr (.inr (.inr (.inl rfl)))
  | skip => exact .inr (.inl rfl)
  | pauseEmpty => exact .inl rfl
  | pause => exact .inl rfl
  | seek => exact .inr (.inr (.inl rfl))
  | transfer => exact .inr (.inr (.inr (.inr rfl)))

/-- The command comes from the host. -/
theorem Commanded.written_client {row : RoomRow} {kind : CommandKind} {version : Nat}
    {document : Payload} (h : Commanded db room p q entryId now row value kind version document db')
    (hv : db.view room = some v) :
    Written (some (room, q)) v (clientCommand room p q kind document now) := by
  obtain ⟨db₂, heffect, -⟩ := h.written
  refine .client q rfl rfl rfl heffect.kind (fun hk => ?_) (fun hk => ?_)
  · have hkind : kind = .skip := hk
    subst hkind
    exact h.skip hv
  · have hkind : kind = .pause := hk
    subst hkind
    exact h.pause hv

theorem commandedRow_playback {kind : CommandKind} {version sequence : Nat} {row : RoomRow}
    (hk : kind = .pause ∨ kind = .skip ∨ kind = .seek ∨ kind = .queue ∨ kind = .transfer) :
    (commandedRow kind version sequence row).playbackState =
      playbackAfter kind row.playbackState := by
  rcases hk with rfl | rfl | rfl | rfl | rfl
  · rfl
  · rfl
  · rfl
  · rfl
  · rfl

/-- Only a QUEUE command changes the queue, and only that of its room. -/
theorem CommandEffect.view {kind : CommandKind} {version : Nat} {document : Payload}
    (h : CommandEffect db value q entryId kind version document db') (sequence : Nat) (hroom : value.roomId = room)
    (hv : db.view room = some v) (hlength : value.queue.length = v.queue.length)
    (hversion : v.row.queueVersion = q.expectedQueueVersion) :
    ∃ queue, db'.view room = some { v with queue := queue } ∧
      QueueStep v { v with queue := queue, row := commandedRow kind version sequence v.row } := by
  cases h with
  | queue recordingId queueEntries full known inserted =>
    exact ⟨_, view_insertEntry inserted hroom rfl hv,
      .append _ rfl hlength (hlength ▸ full) (congrArg (· + 1) hversion.symm)⟩
  | skip entry next => exact ⟨v.queue, hv, .quiet rfl hversion.symm⟩
  | pauseEmpty none => exact ⟨v.queue, hv, .quiet rfl hversion.symm⟩
  | pause entry current => exact ⟨v.queue, hv, .quiet rfl hversion.symm⟩
  | seek => exact ⟨v.queue, hv, .quiet rfl hversion.symm⟩
  | transfer => exact ⟨v.queue, hv, .quiet rfl hversion.symm⟩

theorem CommandEffect.frame {kind : CommandKind} {version : Nat} {document : Payload}
    (h : CommandEffect db value q entryId kind version document db') (hr : r ≠ value.roomId) :
    Frame db db' r := by
  cases h with
  | queue recordingId queueEntries full known inserted =>
    refine ⟨rfl, rfl, ?_, rfl, .refl _⟩
    show queueEntries.rows.filter _ = db.queueEntries.rows.filter _
    rw [Table.filter_insert inserted, if_neg (by simpa using fun h => absurd h.symm hr),
      List.append_nil]
  | skip entry next => exact .refl ..
  | pauseEmpty none => exact .refl ..
  | pause entry current => exact .refl ..
  | seek => exact .refl ..
  | transfer => exact .refl ..

/-- The members of a room after one was seen. -/
theorem participants_touch (v : RoomView) (device : Uuid) (t : Instant) :
    ({ v with members := v.members.map (touchRow room device now) } : RoomView).participants t ≤
      v.participants t :=
  participants_map_le rfl (fun _ _ hj => touchRow_isJoined hj) (.refl _)

theorem Commanded.step {row : RoomRow} {kind : CommandKind} {version : Nat} {document : Payload}
    (h : Commanded db room p q entryId now row value kind version document db') (r : Uuid) :
    StepAt (some (room, q)) now db db' r := by
  obtain ⟨db₂, heffect, hins⟩ := h.written
  by_cases hr : r = room
  · subst hr
    have hview := h.visited.view
    have hlength := h.visited.snapshot.length hview
    obtain ⟨queue, hview₂, hqueue⟩ := heffect.view (q.expectedSequence + 1)
      h.visited.snapshot.roomId (view_touched p.deviceId hview) hlength h.queueVersion
    have hview₃ := view_insertCommand hins rfl (view_updateRoom (commandedRow kind version
      (q.expectedSequence + 1)) (fun _ => rfl) (fun _ => rfl) hview₂)
    refine .stepped _ _ hview hview₃ ⟨?_, ?_, ?_, ?_, ?_⟩
    · refine .append _ rfl (congrArg (· + 1) h.commandSequence.symm)
        (congrArg (· + 1) h.commandSequence.symm) (commandedRow_playback heffect.kind)
        (h.written_client hview)
    · cases hqueue with
      | quiet queue version => exact .quiet queue version
      | append e queue position room version => exact .append e queue position room version
    · exact .same rfl rfl rfl rfl
    · exact fun hh hl => (hh hl).map rfl (fun m => touchRow_deviceId ..)
        (fun m => touchRow_role ..) (fun m _ hj => (touchRow_status ..).trans hj) rfl
    · exact fun t _ h8 => (participants_touch _ p.deviceId t).trans h8
  · have hroom : r ≠ value.roomId := fun he => hr (he.trans h.visited.snapshot.roomId)
    exact (((frame_touched db p.deviceId now hr).trans (heffect.frame hroom)).trans
      (frame_updateRoom _ _ _ _ hr)).trans (frame_insertCommand hins hr) |>.stepAt

theorem commandLocked_step {result : CommandResult}
    (h : commandLocked db room p q entryId now = .ok (result, db')) (r : Uuid) :
    StepAt (some (room, q)) now db db' r := by
  obtain ⟨row, value, kind, version, document, hc, -⟩ := commandLocked_ok h
  exact hc.step r

end

/-! ## the start gate -/

section
variable {env : WaveEnv} {db db' : WaveDb} {room r : Uuid} {p : Principal} {now : Instant}
  {value : WaveRoom} {v v' : RoomView} {q : StartRequest} {asked : Option (Uuid × CommandRequest)}

/-- The row that the start gate appends. -/
def startCommand (env : WaveEnv) (room : Uuid) (p : Principal) (q : StartRequest)
    (lead : Option Int) (now : Instant) : CommandRow where
  roomId := room
  commandSequence := q.expectedSequence + 1
  actorUserId := p.userId
  actorDeviceId := p.deviceId
  idempotencyKey := startKey (q.expectedSequence + 1)
  requestSha256 := env.sha256 (room.text ++ ":" ++ (q.expectedSequence + 1).repr)
  expectedQueueVersion := q.expectedQueueVersion
  expectedSequence := q.expectedSequence
  commandKind := if lead.isSome then .play else .startAborted
  commandDocument := [("queue_entry_id", .str q.queueEntryId.text),
    ("recording_id", .str q.recordingId.text),
    ("effective_at", ((lead.map fun ms => now + milliseconds ms).map
      fun t => Json.str (env.isoformat t)).getD .null)]
  effectiveAt := lead.map fun ms => now + milliseconds ms
  createdAt := now

/-- The room row after the start gate. -/
def startedRow (q : StartRequest) (lead : Option Int) (now : Instant) (r : RoomRow) : RoomRow :=
  { r with
    commandSequence := q.expectedSequence + 1
    playbackState := if lead.isSome then .playing else .paused
    timelineEffectiveAt := lead.map fun ms => now + milliseconds ms }

/-- **The start gate was asked.** -/
structure Started (env : WaveEnv) (db : WaveDb) (room : Uuid) (p : Principal) (q : StartRequest)
    (now : Instant) (row : RoomRow) (value : WaveRoom) (lead : Option Int) (db' : WaveDb) :
    Prop where
  visited : Visited db room p now row value (touched db room p.deviceId now)
  opened : row.state = .opened
  unlost : row.hostLostAt = none
  hostUser : row.hostUserId = p.userId
  hostDevice : row.hostDeviceId = p.deviceId
  queueVersion : row.queueVersion = q.expectedQueueVersion
  commandSequence : row.commandSequence = q.expectedSequence
  gate : lead = startLead (touched db room p.deviceId now) room q now
  written : insertCommand ((touched db room p.deviceId now).updateRoom room (startedRow q lead now)
    (fun _ => rfl) (fun _ => rfl)) (startCommand env room p q lead now) = .ok db'

theorem start_ok {result : StartResult} (h : start env db room p q now = .ok (result, db')) :
    ∃ row value lead, Started env db room p q now row value lead db' ∧
      result = ⟨q.expectedSequence + 1, if lead.isSome then .playing else .paused, lead.isSome,
        lead.map fun ms => now + milliseconds ms⟩ := by
  obtain ⟨⟨value, db₁⟩, hhost, h₁⟩ := Result.bind_eq_ok.mp h
  obtain ⟨u, hexpected, h₂⟩ := Result.bind_eq_ok.mp h₁
  obtain ⟨db₂, hins, hend⟩ := Result.bind_eq_ok.mp h₂
  cases hend
  obtain ⟨row, hv, hopen, hlost, huser, hdevice⟩ := requireHost_ok hhost
  have hdb₁ : db₁ = touched db room p.deviceId now := hv.touched
  subst hdb₁
  obtain ⟨hversion, hsequence⟩ := require_ok.mp hexpected
  exact ⟨row, value, _, ⟨hv, hopen, hlost, huser, hdevice,
    hv.snapshot.version.symm.trans hversion, hv.snapshot.sequence.symm.trans hsequence, rfl, hins⟩,
    rfl⟩

theorem startLead_entry {lead : Int} (h : startLead db room q now = some lead) :
    ∃ e ∈ db.liveQueue room, e.queueEntryId = q.queueEntryId := by
  unfold startLead at h
  dsimp only at h
  split at h
  · rename_i hgate
    obtain ⟨e, he, hroom, hid, -, hlive⟩ := hgate.1.1
    exact ⟨e, List.mem_filter.mpr ⟨he, decide_eq_true ⟨hroom, hlive⟩⟩, hid⟩
  · cases h

theorem namedEntry_startCommand (lead : Option Int) :
    namedEntry (startCommand env room p q lead now) = some q.queueEntryId.text := by
  have hnamed : (startCommand env room p q lead now).commandDocument.lookup "queue_entry_id" =
      some (.str q.queueEntryId.text) := rfl
  unfold namedEntry
  rw [hnamed]

/-- The command comes from the start gate. -/
theorem Started.written_start {row : RoomRow} {lead : Option Int}
    (h : Started env db room p q now row value lead db') (hv : db.view room = some v) :
    Written asked v (startCommand env room p q lead now) := by
  have hseq : row = v.row := Option.some.inj (h.visited.found.symm.trans (view_eq_some.mp hv).1)
  subst hseq
  refine .start q.queueEntryId ?_ ?_ (namedEntry_startCommand lead) fun hk => ?_
  · cases lead with
    | none => exact Or.inr rfl
    | some ms => exact Or.inl rfl
  · show startKey (q.expectedSequence + 1) = _
    rw [h.commandSequence]
  · cases hlead : lead with
    | none =>
      subst hlead
      cases hk
    | some ms =>
      have hentry := startLead_entry (h.gate.symm.trans hlead)
      rw [← (view_eq_some.mp hv).2.2.1]
      exact hentry

theorem Started.step {row : RoomRow} {lead : Option Int}
    (h : Started env db room p q now row value lead db') (r : Uuid) : StepAt asked now db db' r := by
  by_cases hr : r = room
  · subst hr
    have hview := h.visited.view
    have hview₂ := view_insertCommand h.written rfl (view_updateRoom (startedRow q lead now)
      (fun _ => rfl) (fun _ => rfl) (view_touched p.deviceId hview))
    refine .stepped _ _ hview hview₂ (.mapped ?_ (.same rfl rfl rfl rfl) rfl rfl rfl
      (fun m hj => touchRow_isJoined hj) (.refl _) fun hh hl => ?_)
    · refine .append _ rfl (congrArg (· + 1) h.commandSequence.symm)
        (congrArg (· + 1) h.commandSequence.symm) ?_ (h.written_start hview)
      cases lead with
      | none => rfl
      | some ms => rfl
    · exact (hh hl).map rfl (fun m => touchRow_deviceId ..) (fun m => touchRow_role ..)
        (fun m _ hj => (touchRow_status ..).trans hj) rfl
  · exact ((frame_touched db p.deviceId now hr).trans (frame_updateRoom _ _ _ _ hr)).trans
      (frame_insertCommand h.written hr) |>.stepAt

theorem start_step {result : StartResult} (h : start env db room p q now = .ok (result, db'))
    (r : Uuid) : StepAt asked now db db' r := by
  obtain ⟨row, value, lead, hs, -⟩ := start_ok h
  exact hs.step r

end

end AutPlay.Wave
