import AutPlay.Wave.System

/-!
# What holds of every room

* `RoomInv`          the invariant of a room, on its view;
* `RoomInv.step`     a transaction keeps it;
* `RowRun`           what a run does to the epoch, the host and the state of a room;
* `room_invariant`   both, for every room of every run.
-/

set_option linter.unusedSectionVars false

namespace AutPlay.Wave
open Sync (Uuid Json Payload)

/-! ## the latest playback command -/

section
variable {cs : List CommandRow} {c : CommandRow}

theorem latestPlayback_snoc (hnew : ∀ c' ∈ cs, c'.commandSequence < c.commandSequence) :
    latestPlayback (cs ++ [c]) = if c.commandKind.playback then some c else latestPlayback cs := by
  unfold latestPlayback
  rw [List.filter_append]
  by_cases hp : c.commandKind.playback = true
  · have hone : [c].filter (fun c => c.commandKind.playback) = [c] := List.filter_eq_self.mpr
      fun c' hc' => by rw [List.mem_singleton.mp hc']; exact hp
    rw [hone, List.argmax_concat, if_pos hp]
    cases hm : (cs.filter fun c => c.commandKind.playback).argmax CommandRow.commandSequence with
    | none => rfl
    | some m =>
      have hmem : m ∈ cs := List.mem_of_mem_filter (List.argmax_mem (Option.mem_def.mpr hm))
      exact if_pos (hnew m hmem)
  · have hnone : [c].filter (fun c => c.commandKind.playback) = [] := List.filter_eq_nil_iff.mpr
      fun c' hc' => by rw [List.mem_singleton.mp hc']; exact hp
    rw [hnone, List.append_nil, if_neg hp]

theorem latestPlayback_mem (h : latestPlayback cs = some c) :
    c ∈ cs ∧ c.commandKind.playback = true := by
  have hm := List.argmax_mem (Option.mem_def.mpr h)
  exact ⟨List.mem_of_mem_filter hm, (List.mem_filter.mp hm).2⟩

end

/-! ## the invariant of a room -/

/-- **What holds of a room**, at an instant that the clock has reached. -/
structure RoomInv (clock : Instant) (v : RoomView) : Prop where
  numbers : v.commands.map CommandRow.commandSequence = List.range' 1 v.commands.length
  sequence : v.row.commandSequence = v.commands.length
  positions : v.queue.map QueueEntryRow.position = List.range v.queue.length
  room : v.queue.length ≤ 100
  queueVersion : v.row.queueVersion = 1 + v.queue.length
  hosted : v.Live → v.Hosted
  participants : ∀ t, clock ≤ t → v.participants t ≤ 8
  playing : v.row.playbackState = .playing ↔
    (latestPlayback v.commands).map CommandRow.commandKind = some .play

section
variable {clock now : Instant} {v v' : RoomView} {c : CommandRow} {p : Principal}
  {asked : Option (Uuid × CommandRequest)}

theorem RoomInv.lt_next (h : RoomInv clock v) (hc : c ∈ v.commands) :
    c.commandSequence < v.row.commandSequence + 1 := by
  have hm : c.commandSequence ∈ v.commands.map CommandRow.commandSequence :=
    List.mem_map_of_mem hc
  rw [h.numbers, List.mem_range'_1] at hm
  rw [h.sequence]
  omega

/-- The kinds that leave the playback state alone are those that are not selected. -/
theorem playbackAfter_eq_playing (kind : CommandKind) (s : PlaybackState) :
    playbackAfter kind s = .playing ↔ if kind.playback then kind = .play else s = .playing := by
  cases kind with
  | play => exact ⟨fun _ => rfl, fun _ => rfl⟩
  | pause => exact ⟨nofun, nofun⟩
  | skip => exact ⟨nofun, nofun⟩
  | startAborted => exact ⟨nofun, nofun⟩
  | close => exact ⟨nofun, nofun⟩
  | expire => exact ⟨nofun, nofun⟩
  | seek => exact Iff.rfl
  | queue => exact Iff.rfl
  | transfer => exact Iff.rfl
  | leave => exact Iff.rfl

/-- The log after a step. -/
theorem RoomInv.log (h : RoomInv clock v) (s : LogStep asked v v') :
    v'.commands.map CommandRow.commandSequence = List.range' 1 v'.commands.length ∧
      v'.row.commandSequence = v'.commands.length ∧
      (v'.row.playbackState = .playing ↔
        (latestPlayback v'.commands).map CommandRow.commandKind = some .play) := by
  cases s with
  | quiet commands sequence playback =>
    rw [commands, sequence, playback]
    exact ⟨h.numbers, h.sequence, h.playing⟩
  | append c commands number sequence playback written =>
    rw [commands, sequence, playback, playbackAfter_eq_playing, latestPlayback_snoc fun c' hc' => by
      rw [number]; exact h.lt_next hc']
    refine ⟨?_, ?_, ?_⟩
    · rw [List.map_append, h.numbers, List.length_append, List.length_singleton,
        List.range'_1_concat]
      rw [h.sequence] at number
      rw [List.map_singleton, number, Nat.add_comm 1]
    · rw [h.sequence, List.length_append, List.length_singleton]
    · split
      · rw [Option.map_some, Option.some_inj]
      · exact h.playing

theorem RoomInv.queue (h : RoomInv clock v) (s : QueueStep v v') :
    v'.queue.map QueueEntryRow.position = List.range v'.queue.length ∧ v'.queue.length ≤ 100 ∧
      v'.row.queueVersion = 1 + v'.queue.length := by
  cases s with
  | quiet queue version =>
    rw [queue, version]
    exact ⟨h.positions, h.room, h.queueVersion⟩
  | append e queue position room version =>
    rw [queue, version, h.queueVersion, List.length_append, List.length_singleton]
    refine ⟨?_, by omega, by omega⟩
    rw [List.map_append, h.positions, List.map_singleton, position, List.range_succ]

/-- **A transaction keeps the invariant of a room.** -/
theorem RoomInv.step (h : RoomInv clock v) (hle : clock ≤ now) (s : RoomStep asked now v v') :
    RoomInv now v' := by
  obtain ⟨hnumbers, hsequence, hplaying⟩ := h.log s.log
  obtain ⟨hpositions, hroom, hversion⟩ := h.queue s.queue
  exact ⟨hnumbers, hsequence, hpositions, hroom, hversion, s.hosted h.hosted,
    fun t ht => s.participants t ht (h.participants t (hle.trans ht)), hplaying⟩

theorem Initial.inv (h : Initial p v) : RoomInv clock v := by
  obtain ⟨m, hm, hdevice, hrole, hstatus⟩ := h.member
  refine ⟨?_, ?_, ?_, ?_, ?_, fun _ => ⟨fun m' hm' => ?_, m, ?_, hdevice, hstatus⟩,
    fun t _ => ?_, ?_⟩
  · rw [h.commands]
    rfl
  · rw [h.commands, h.sequence]
    rfl
  · rw [h.queue]
    rfl
  · rw [h.queue]
    exact Nat.zero_le _
  · rw [h.queue, h.version]
    rfl
  · rw [hm] at hm'
    rw [List.mem_singleton.mp hm']
    exact ⟨fun _ => hdevice, fun _ => hrole⟩
  · rw [hm]
    exact List.mem_singleton_self m
  · unfold RoomView.participants
    rw [hm, h.guests]
    have hone : [m].countP MemberRow.isJoined ≤ 1 := List.countP_le_length
    exact Nat.le_trans hone (by decide)
  · rw [h.playback, h.commands]
    exact ⟨nofun, nofun⟩

end

/-! ## what a run does to a row -/

/-- What a run does to the epoch, the host and the state of a room. -/
structure RowRun (row row' : RoomRow) : Prop where
  epoch : row.roomEpoch ≤ row'.roomEpoch
  host : row'.hostDeviceId ≠ row.hostDeviceId → row.roomEpoch < row'.roomEpoch
  closed : row.state = .closed → row'.state = .closed
  expired : row.state = .expired → row'.state = .expired

theorem RowRun.refl (row : RoomRow) : RowRun row row :=
  ⟨Nat.le_refl _, fun h => absurd rfl h, id, id⟩

theorem RowRun.trans {row row' row'' : RoomRow} (h : RowRun row row') (h' : RowRun row' row'') :
    RowRun row row'' := by
  refine ⟨h.epoch.trans h'.epoch, fun hne => ?_, h'.closed ∘ h.closed, h'.expired ∘ h.expired⟩
  by_cases he : row'.hostDeviceId = row.hostDeviceId
  · exact Nat.lt_of_le_of_lt h.epoch (h'.host (he ▸ hne))
  · exact Nat.lt_of_lt_of_le (h.host he) h'.epoch

theorem RowStep.run {row row' : RoomRow} (h : RowStep row row') : RowRun row row' := by
  refine ⟨h.epoch, fun hne => h.host.resolve_left hne, fun hs => ?_, fun hs => ?_⟩
  · rw [h.terminal (Or.inl hs), hs]
  · rw [h.terminal (Or.inr hs), hs]

/-! ## runs -/

/-- **What holds of every state that is reached**: rooms that do not exist are blank, the others
keep their invariant. -/
structure SystemInv (s : System) : Prop where
  blank : ∀ r, s.db.view r = none → s.db.Blank r
  room : ∀ r v, s.db.view r = some v → RoomInv s.clock v

section
variable {env : WaveEnv} {s s' : System} {e : Event} {es : List Event} {r : Uuid}

theorem SystemInv.step (h : SystemInv s) (hs : Step env s e s') : SystemInv s' := by
  constructor
  · intro r hnone
    obtain ⟨-, hat⟩ := hs.at r
    cases hat with
    | absent before after blank => exact blank (h.blank r before)
    | created p v before after initial => cases hnone.symm.trans after
    | stepped v v' before after step => cases hnone.symm.trans after
  · intro r v hv
    obtain ⟨hle, hat⟩ := hs.at r
    cases hat with
    | absent before after blank => cases hv.symm.trans after
    | created p v' before after initial =>
      cases hv.symm.trans after
      exact (initial (h.blank r before)).inv
    | stepped v₀ v' before after step =>
      cases hv.symm.trans after
      exact (h.room r v₀ before).step hle step

theorem Fresh.inv (h : Fresh s.db) : SystemInv s := by
  refine ⟨fun r _ => ⟨?_, ?_, ?_, ?_⟩, fun r v hv => ?_⟩
  · unfold WaveDb.commandsOf
    rw [h.commands]
    rfl
  · unfold WaveDb.liveQueue
    rw [h.queueEntries]
    rfl
  · unfold WaveDb.membersOf
    rw [h.members]
    rfl
  · unfold WaveDb.guestsOf
    rw [h.guestSessions]
    rfl
  · have hrow := (view_eq_some.mp hv).1
    rw [h.rooms] at hrow
    cases hrow

theorem systemInv_run (h : SystemInv s) (run : Path (Step env) s es s') : SystemInv s' :=
  run.invariant (I := SystemInv) (fun _ _ _ hi hs => hi.step hs) h

/-- A room stays, and its row moves on. -/
theorem Step.row {v : RoomView} (hs : Step env s e s') (hv : s.db.view r = some v) :
    ∃ v', s'.db.view r = some v' ∧ RoomStep e.asked s'.clock v v' := by
  obtain ⟨-, hat⟩ := hs.at r
  cases hat with
  | absent before after blank => cases hv.symm.trans before
  | created p v' before after initial => cases hv.symm.trans before
  | stepped v₀ v' before after step =>
    cases hv.symm.trans before
    exact ⟨v', after, step⟩

theorem rowRun {v : RoomView} (run : Path (Step env) s es s') (hv : s.db.view r = some v) :
    ∃ v', s'.db.view r = some v' ∧ RowRun v.row v'.row := by
  induction run generalizing v with
  | nil s => exact ⟨v, hv, .refl _⟩
  | cons hs run ih =>
    obtain ⟨v₁, hv₁, step⟩ := hs.row hv
    obtain ⟨v', hv', hrun⟩ := ih hv₁
    exact ⟨v', hv', step.row.run.trans hrun⟩

end

/-- **The laws of a room.** -/
structure RoomLaws (s : System) (room : Uuid) (row : RoomRow) : Prop where
  numbers : (s.db.commandsOf room).map CommandRow.commandSequence =
    List.range' 1 row.commandSequence
  positions : (s.db.liveQueue room).map QueueEntryRow.position =
    List.range (s.db.liveQueue room).length
  length : (s.db.liveQueue room).length ≤ 100
  queueVersion : row.queueVersion = 1 + (s.db.liveQueue room).length
  host : row.state = .opened ∨ row.state = .orphaned →
    ∃ m ∈ s.db.membersOf room, m.role = .host ∧ m.deviceId = row.hostDeviceId ∧
      m.status = .joined ∧ ∀ m' ∈ s.db.membersOf room, m'.role = .host → m' = m
  participants : ∀ t, s.clock ≤ t → participantCount s.db room t ≤ 8
  playing : row.playbackState = .playing ↔
    (playbackCommand s.db room).map CommandRow.commandKind = some .play

theorem RoomInv.laws {s : System} {room : Uuid} {v : RoomView} (h : RoomInv s.clock v)
    (hv : s.db.view room = some v) : RoomLaws s room v.row := by
  obtain ⟨hrow, hc, hq, hm, hg⟩ := view_eq_some.mp hv
  refine ⟨?_, ?_, ?_, ?_, fun hl => ?_, fun t ht => ?_, ?_⟩
  · rw [hc, h.sequence]
    exact h.numbers
  · rw [hq]
    exact h.positions
  · rw [hq]
    exact h.room
  · rw [hq]
    exact h.queueVersion
  · rw [hm]
    have hh := h.hosted hl
    obtain ⟨m, hmem, hdevice, hstatus⟩ := hh.joined
    refine ⟨m, hmem, (hh.role m hmem).mpr hdevice, hdevice, hstatus, fun m' hm' hrole => ?_⟩
    exact List.inj_on_of_nodup_map (members_nodup hv) hm' hmem
      (((hh.role m' hm').mp hrole).trans hdevice.symm)
  · have h8 := h.participants t ht
    unfold RoomView.participants at h8
    unfold participantCount
    rw [hm, hg]
    exact h8
  · unfold playbackCommand
    rw [hc]
    exact h.playing

/-- **Every room of every run keeps its laws**, its epoch never decreases and grows when its host
changes, and it never leaves CLOSED or EXPIRED. -/
theorem room_invariant {env : WaveEnv} {s₀ s s' : System} {es es' : List Event} {room : Uuid}
    {row : RoomRow} (fresh : Fresh s₀.db) (run : Path (Step env) s₀ es s)
    (found : s.db.rooms.find room = some row) (run' : Path (Step env) s es' s') :
    RoomLaws s room row ∧
      ∃ row', s'.db.rooms.find room = some row' ∧ RowRun row row' := by
  have hv : s.db.view room = some ⟨row, _, _, _, _⟩ :=
    view_eq_some.mpr ⟨found, rfl, rfl, rfl, rfl⟩
  obtain ⟨v', hv', hrun⟩ := rowRun run' hv
  exact ⟨((systemInv_run fresh.inv run).room room _ hv).laws hv, v'.row, (view_eq_some.mp hv').1,
    hrun⟩

/-- A room is created, and a friend joins it. -/
def Sample.lifetime : List (Op × Instant × Instant) :=
  [(.create host roomId "WAVE42" [friendUser], 0, 0), (.join "WAVE42" friend, seconds 1, seconds 1)]

theorem room_invariant_joined :
    ∃ row, (Sample.reached Sample.lifetime).db.rooms.find Sample.roomId = some row ∧
      RoomLaws (Sample.reached Sample.lifetime) Sample.roomId row := by
  obtain ⟨row, found⟩ : ∃ row,
      (Sample.reached Sample.lifetime).db.rooms.find Sample.roomId = some row :=
    Option.isSome_iff_exists.mp (by decide +kernel)
  exact ⟨row, found, (room_invariant Sample.fresh (Sample.path_reached (by decide +kernel)) found
    (.nil _)).1⟩

end AutPlay.Wave
