import AutPlay.Wave.Guest
import Mathlib.Data.List.Count

/-!
# What a transaction does to a room

A `RoomView` is what the tables hold about one room.  Each write of the services changes the views
in one place; `RoomStep` lists what a whole transaction can do to a view, and every law about rooms
is read off from it.

* `Frame`           the room is left alone;
* `view_updateRoom`, `view_insertCommand`, `view_updateMembers`, …   the writes, on views;
* `Written`         where an appended command comes from;
* `RoomStep`        what a transaction does to a room;
* `StepAt`          the same for a room that may not exist yet.
-/

set_option linter.unusedSectionVars false

namespace AutPlay.Wave
open Sync (Uuid Json Payload)
open Table (mem_def)

/-- What the tables hold about a room. -/
structure RoomView where
  row : RoomRow
  commands : List CommandRow
  queue : List QueueEntryRow
  members : List MemberRow
  guests : List GuestSessionRow

namespace WaveDb

/-- The live entries of a room, as they were inserted. -/
def liveQueue (db : WaveDb) (room : Uuid) : List QueueEntryRow :=
  db.queueEntries.rows.filter (fun q => q.roomId = room ∧ q.removedAt = none)

def view (db : WaveDb) (room : Uuid) : Option RoomView :=
  (db.rooms.find room).map fun row =>
    ⟨row, db.commandsOf room, db.liveQueue room, db.membersOf room, db.guestsOf room⟩

/-- Nothing refers to the room. -/
structure Blank (db : WaveDb) (room : Uuid) : Prop where
  commands : db.commandsOf room = []
  queue : db.liveQueue room = []
  members : db.membersOf room = []
  guests : db.guestsOf room = []

end WaveDb

/-! ## guests that only become fewer -/

section
variable {gs gs' gs'' : List GuestSessionRow} {db db' : WaveDb}

/-- At every instant no more guests are present. -/
structure Fewer (gs gs' : List GuestSessionRow) : Prop where
  present : ∀ t, gs'.countP (GuestSessionRow.isPresent t) ≤ gs.countP (GuestSessionRow.isPresent t)
  empty : gs = [] → gs' = []

theorem Fewer.refl (gs : List GuestSessionRow) : Fewer gs gs := ⟨fun _ => Nat.le_refl _, id⟩

theorem Fewer.trans (h : Fewer gs gs') (h' : Fewer gs' gs'') : Fewer gs gs'' :=
  ⟨fun t => (h'.present t).trans (h.present t), fun he => h'.empty (h.empty he)⟩

theorem Fewer.map (f : GuestSessionRow → GuestSessionRow)
    (h : ∀ t g, (f g).isPresent t = true → g.isPresent t = true) : Fewer gs (gs.map f) := by
  refine ⟨fun t => ?_, fun he => by rw [he]; rfl⟩
  rw [List.countP_map]
  exact List.countP_mono_left fun g _ hg => h t g hg

theorem Fewer.filter (p : GuestSessionRow → Bool) : Fewer gs (gs.filter p) := by
  refine ⟨fun t => ?_, fun he => by rw [he]; rfl⟩
  exact List.Sublist.countP_le List.filter_sublist

/-- Retiring the sessions of an invitation. -/
theorem fewer_retireSessions (sessions : Table GuestSessionRow) (old new : GuestInvitationRow)
    (stmt : Instant) (room : Uuid) :
    Fewer (sessions.rows.filter (fun g => g.roomId = room))
      ((WaveDb.retireSessions sessions old new stmt).rows.filter (fun g => g.roomId = room)) := by
  unfold WaveDb.retireSessions
  split
  · exact .refl _
  · rename_i state hstate
    split
    · exact .refl _
    · rw [Table.filter_updateWhere]
      · refine .map _ fun t g hg => ?_
        split at hg
        · rename_i hp
          have hne : state ≠ .active := by
            rintro rfl
            cases hnew : new.state with
            | pending => rw [hnew] at hstate; cases hstate
            | depleted => rw [hnew] at hstate; cases hstate
            | revoked => rw [hnew] at hstate; cases hstate
            | expired => rw [hnew] at hstate; cases hstate
            | roomClosed => rw [hnew] at hstate; cases hstate
          exact absurd (of_decide_eq_true hg).1 hne
        · exact hg
      · exact fun _ => rfl

theorem fewer_retireSessions_foldl (is : List GuestInvitationRow)
    (f : GuestInvitationRow → GuestInvitationRow) (stmt : Instant) (room : Uuid)
    (sessions : Table GuestSessionRow) :
    Fewer (sessions.rows.filter (fun g => g.roomId = room))
      ((is.foldl (fun sessions i => WaveDb.retireSessions sessions i (f i) stmt) sessions).rows.filter
        (fun g => g.roomId = room)) := by
  induction is generalizing sessions with
  | nil => exact .refl _
  | cons i is ih => exact (fewer_retireSessions sessions i (f i) stmt room).trans (ih _)

end

/-! ## the writes -/

theorem key_touched (now : Instant) (m : MemberRow) :
    Schema.key { m with lastPresentAt := some now } = Schema.key m := rfl

theorem index_touched (now : Instant) (m : MemberRow) :
    Schema.index { m with lastPresentAt := some now } = Schema.index m := rfl

/-- The database after a member was seen. -/
def touched (db : WaveDb) (room device : Uuid) (now : Instant) : WaveDb :=
  { db with
    members := db.members.updateWhere (fun m => m.roomId = room ∧ m.deviceId = device)
      (fun m => { m with lastPresentAt := some now }) (key_touched now) (index_touched now) }

section
variable {db db' : WaveDb} {room device : Uuid} {p : Principal} {now : Instant}

theorem touchMember_ok :
    touchMember db room device now = .ok db' ↔
      (∀ m ∈ db.members.rows, m.roomId = room → m.deviceId = device → m.joinedAt ≤ now) ∧
        db' = touched db room device now := by
  unfold touchMember
  rw [Result.bind_eq_ok]
  constructor
  · rintro ⟨u, hu, h⟩
    cases h
    exact ⟨require_ok.mp hu, rfl⟩
  · rintro ⟨hu, rfl⟩
    exact ⟨(), require_ok.mpr hu, rfl⟩

theorem insertCommand_ok {c : CommandRow} :
    insertCommand db c = .ok db' ↔
      (1 ≤ c.idempotencyKey.length ∧ c.idempotencyKey.length ≤ 128 ∧
        1 ≤ c.expectedQueueVersion) ∧
      ∃ commands, db.commands.insert c = .ok commands ∧ db' = { db with commands := commands } := by
  unfold insertCommand
  rw [Result.bind_eq_ok]
  constructor
  · rintro ⟨u, hu, h⟩
    obtain ⟨commands, hc, h⟩ := Result.bind_eq_ok.mp h
    cases h
    exact ⟨require_ok.mp hu, commands, insertInto_ok.mp hc, rfl⟩
  · rintro ⟨hu, commands, hc, rfl⟩
    exact ⟨(), require_ok.mpr hu, Result.bind_eq_ok.mpr ⟨commands, insertInto_ok.mpr hc, rfl⟩⟩

end

/-! ## the frame of a room -/

section
variable {db db' db'' : WaveDb} {r room : Uuid}

/-- A transaction leaves the room alone, but for guests that it retires. -/
structure Frame (db db' : WaveDb) (r : Uuid) : Prop where
  row : db'.rooms.find r = db.rooms.find r
  commands : db'.commandsOf r = db.commandsOf r
  queue : db'.liveQueue r = db.liveQueue r
  members : db'.membersOf r = db.membersOf r
  guests : Fewer (db.guestsOf r) (db'.guestsOf r)

theorem Frame.refl (db : WaveDb) (r : Uuid) : Frame db db r :=
  ⟨rfl, rfl, rfl, rfl, .refl _⟩

theorem Frame.trans (h : Frame db db' r) (h' : Frame db' db'' r) : Frame db db'' r :=
  ⟨h'.row.trans h.row, h'.commands.trans h.commands, h'.queue.trans h.queue,
    h'.members.trans h.members, h.guests.trans h'.guests⟩

theorem Frame.blank (h : Frame db db' r) (hb : db.Blank r) : db'.Blank r :=
  ⟨h.commands.trans hb.commands, h.queue.trans hb.queue, h.members.trans hb.members,
    h.guests.empty hb.guests⟩

theorem frame_updateInvitations (db : WaveDb) (p : GuestInvitationRow → Bool)
    (f : GuestInvitationRow → GuestInvitationRow) (hk hd) (stmt : Instant) (r : Uuid) :
    Frame db (db.updateInvitations p f hk hd stmt) r :=
  ⟨rfl, rfl, rfl, rfl, fewer_retireSessions_foldl _ f stmt r db.guestSessions⟩

theorem frame_retireRoom (db : WaveDb) (new : RoomRow) (stmt : Instant) (r : Uuid) :
    Frame db (db.retireRoom new stmt) r := by
  unfold WaveDb.retireRoom
  split
  · exact frame_updateInvitations ..
  · exact .refl ..

theorem find_updateRoom (db : WaveDb) (room : Uuid) (f : RoomRow → RoomRow) (hk hd) (r : Uuid) :
    (db.updateRoom room f hk hd).rooms.find r =
      (db.rooms.find r).map fun row => if r = room then f row else row := by
  show (db.rooms.updateWhere _ f hk fun r => congrArg some (hd r)).find r = _
  rw [Table.find_updateWhere]
  cases hr : db.rooms.find r with
  | none => rfl
  | some row =>
    have hkey : row.roomId = r := Table.key_of_find hr
    show some (if decide (row.roomId = room) = true then f row else row) = some _
    rw [hkey]
    simp

theorem frame_updateRoom (db : WaveDb) (f : RoomRow → RoomRow) (hk hd) (hr : r ≠ room) :
    Frame db (db.updateRoom room f hk hd) r := by
  refine ⟨?_, rfl, rfl, rfl, .refl _⟩
  rw [find_updateRoom]
  cases db.rooms.find r with
  | none => rfl
  | some row => exact congrArg some (if_neg hr)

theorem frame_updateRoomState (db : WaveDb) (f : RoomRow → RoomRow) (stmt : Instant) (hk hd)
    (hr : r ≠ room) : Frame db (db.updateRoomState room f stmt hk hd) r := by
  unfold WaveDb.updateRoomState
  split
  · exact .refl ..
  · exact (frame_updateRoom db f hk hd hr).trans (frame_retireRoom ..)

/-- An update of members of another room. -/
theorem frame_updateMembers (db : WaveDb) (p : MemberRow → Bool) (f : MemberRow → MemberRow)
    (hk hi) (hp : ∀ m, p m = true → m.roomId ≠ r) :
    Frame db { db with members := db.members.updateWhere p f hk hi } r := by
  refine ⟨rfl, rfl, rfl, ?_, .refl _⟩
  show (db.members.updateWhere p f hk hi).rows.filter _ = db.members.rows.filter _
  rw [Table.filter_updateWhere]
  · refine (List.map_congr_left fun m hm => ?_).trans (List.map_id' _)
    have hroom : m.roomId = r := of_decide_eq_true (List.mem_filter.mp hm).2
    exact if_neg fun hpm => hp m hpm hroom
  · exact fun m => congrArg (fun k : Uuid × Uuid => decide (k.1 = r)) (hk m)

theorem frame_touched (db : WaveDb) (device : Uuid) (now : Instant) (hr : r ≠ room) :
    Frame db (touched db room device now) r :=
  frame_updateMembers db _ _ _ _ fun _ hm => (of_decide_eq_true hm).1 ▸ hr.symm

theorem frame_insertCommand {c : CommandRow} (h : insertCommand db c = .ok db')
    (hr : r ≠ c.roomId) : Frame db db' r := by
  obtain ⟨-, commands, hi, rfl⟩ := (insertCommand_ok).mp h
  refine ⟨rfl, ?_, rfl, rfl, .refl _⟩
  show commands.rows.filter _ = db.commands.rows.filter _
  rw [Table.filter_insert hi, if_neg (by simpa using hr.symm), List.append_nil]

end

/-! ## the writes, on the view of their room -/

section
variable {db db' : WaveDb} {room : Uuid} {v : RoomView}

theorem view_eq_some :
    db.view room = some v ↔ db.rooms.find room = some v.row ∧ db.commandsOf room = v.commands ∧
      db.liveQueue room = v.queue ∧ db.membersOf room = v.members ∧
      db.guestsOf room = v.guests := by
  unfold WaveDb.view
  rw [Option.map_eq_some_iff]
  constructor
  · rintro ⟨row, hrow, rfl⟩
    exact ⟨hrow, rfl, rfl, rfl, rfl⟩
  · rintro ⟨hrow, hc, hq, hm, hg⟩
    refine ⟨v.row, hrow, ?_⟩
    rw [hc, hq, hm, hg]

theorem view_eq_none : db.view room = none ↔ db.rooms.find room = none := by
  unfold WaveDb.view
  rw [Option.map_eq_none_iff]

theorem view_roomId (h : db.view room = some v) : v.row.roomId = room :=
  Table.key_of_find ((view_eq_some).mp h).1

theorem view_updateRoom (f : RoomRow → RoomRow) (hk hd) (h : db.view room = some v) :
    (db.updateRoom room f hk hd).view room = some { v with row := f v.row } := by
  obtain ⟨hrow, hc, hq, hm, hg⟩ := (view_eq_some).mp h
  refine (view_eq_some).mpr ⟨?_, hc, hq, hm, hg⟩
  rw [find_updateRoom, hrow]
  exact congrArg some (if_pos rfl)

/-- What retiring guests changes. -/
theorem view_retireRoom (new : RoomRow) (stmt : Instant) (h : db.view room = some v) :
    ∃ guests, Fewer v.guests guests ∧
      (db.retireRoom new stmt).view room = some { v with guests := guests } := by
  obtain ⟨hrow, hc, hq, hm, hg⟩ := (view_eq_some).mp h
  have hf := frame_retireRoom db new stmt room
  refine ⟨(db.retireRoom new stmt).guestsOf room, ?_, (view_eq_some).mpr ⟨hf.row.trans hrow,
    hf.commands.trans hc, hf.queue.trans hq, hf.members.trans hm, rfl⟩⟩
  rw [← hg]
  exact hf.guests

theorem view_updateRoomState (f : RoomRow → RoomRow) (stmt : Instant) (hk hd)
    (h : db.view room = some v) :
    ∃ guests, Fewer v.guests guests ∧ (db.updateRoomState room f stmt hk hd).view room =
      some { v with row := f v.row, guests := guests } := by
  unfold WaveDb.updateRoomState
  rw [((view_eq_some).mp h).1]
  exact view_retireRoom (f v.row) stmt (view_updateRoom f hk hd h)

theorem view_updateMembers (p : MemberRow → Bool) (f : MemberRow → MemberRow) (hk hi)
    (h : db.view room = some v) :
    ({ db with members := db.members.updateWhere p f hk hi } : WaveDb).view room =
      some { v with members := v.members.map fun m => if p m then f m else m } := by
  obtain ⟨hrow, hc, hq, hm, hg⟩ := (view_eq_some).mp h
  refine (view_eq_some).mpr ⟨hrow, hc, hq, ?_, hg⟩
  show (db.members.updateWhere p f hk hi).rows.filter _ = _
  rw [Table.filter_updateWhere]
  · exact congrArg _ hm
  · exact fun m => congrArg (fun k : Uuid × Uuid => decide (k.1 = room)) (hk m)

theorem view_insertMember {m : MemberRow} {members : Table MemberRow}
    (hi : db.members.insert m = .ok members) (hm : m.roomId = room) (h : db.view room = some v) :
    ({ db with members := members } : WaveDb).view room =
      some { v with members := v.members ++ [m] } := by
  obtain ⟨hrow, hc, hq, hmem, hg⟩ := (view_eq_some).mp h
  refine (view_eq_some).mpr ⟨hrow, hc, hq, ?_, hg⟩
  show members.rows.filter _ = _
  rw [Table.filter_insert hi, if_pos (by simpa using hm)]
  exact congrArg (· ++ [m]) hmem

theorem view_insertCommand {c : CommandRow} (hins : insertCommand db c = .ok db')
    (hc : c.roomId = room) (h : db.view room = some v) :
    db'.view room = some { v with commands := v.commands ++ [c] } := by
  obtain ⟨-, commands, hi, rfl⟩ := (insertCommand_ok).mp hins
  obtain ⟨hrow, hcom, hq, hm, hg⟩ := (view_eq_some).mp h
  refine (view_eq_some).mpr ⟨hrow, ?_, hq, hm, hg⟩
  show commands.rows.filter _ = _
  rw [Table.filter_insert hi, if_pos (by simpa using hc)]
  exact congrArg (· ++ [c]) hcom

theorem view_insertEntry {e : QueueEntryRow} {queueEntries : Table QueueEntryRow}
    (hi : db.queueEntries.insert e = .ok queueEntries) (he : e.roomId = room)
    (hlive : e.removedAt = none) (h : db.view room = some v) :
    ({ db with queueEntries := queueEntries } : WaveDb).view room =
      some { v with queue := v.queue ++ [e] } := by
  obtain ⟨hrow, hc, hq, hm, hg⟩ := (view_eq_some).mp h
  refine (view_eq_some).mpr ⟨hrow, hc, ?_, hm, hg⟩
  show queueEntries.rows.filter _ = _
  rw [Table.filter_insert hi, if_pos (by simp [he, hlive])]
  exact congrArg (· ++ [e]) hq

end

/-! ## steps -/

/-- The playback state after a command. -/
def playbackAfter : CommandKind → PlaybackState → PlaybackState
  | .play, _ => .playing
  | .pause, _ | .skip, _ | .startAborted, _ | .close, _ | .expire, _ => .paused
  | .seek, s | .queue, s | .transfer, s | .leave, s => s

namespace RoomView

/-- The queue, `ORDER BY position`. -/
def sorted (v : RoomView) : List QueueEntryRow :=
  v.queue.insertionSort (fun a b => a.position ≤ b.position)

/-- The entry that the latest playback command names. -/
def named (v : RoomView) : Option String := (latestPlayback v.commands).bind namedEntry

/-- The index that PAUSE and SKIP take for the current one. -/
def index (v : RoomView) : Nat :=
  (v.sorted.findIdx? fun e => some e.queueEntryId.text = v.named).getD 0

/-- Joined members plus the guests present at an instant. -/
def participants (v : RoomView) (t : Instant) : Nat :=
  v.members.countP MemberRow.isJoined + v.guests.countP (GuestSessionRow.isPresent t)

def Live (v : RoomView) : Prop := v.row.state = .opened ∨ v.row.state = .orphaned

/-- **The host of a live room**: its member row has the role, it alone, and is joined. -/
structure Hosted (v : RoomView) : Prop where
  role : ∀ m ∈ v.members, m.role = .host ↔ m.deviceId = v.row.hostDeviceId
  joined : ∃ m ∈ v.members, m.deviceId = v.row.hostDeviceId ∧ m.status = .joined

end RoomView

/-- **Where an appended command comes from**: a lifecycle operation, the start gate, or a request of
the host, with its room. -/
inductive Written (asked : Option (Uuid × CommandRequest)) (v : RoomView) (c : CommandRow) : Prop
  | lifecycle
      (kind : c.commandKind = .pause ∨ c.commandKind = .transfer ∨ c.commandKind = .close ∨
        c.commandKind = .leave ∨ c.commandKind = .expire)
      (key : c.idempotencyKey = lifecycleKey c.commandKind (v.row.commandSequence + 1))
      (names : namedEntry c = none)
  | start (entry : Uuid)
      (kind : c.commandKind = .play ∨ c.commandKind = .startAborted)
      (key : c.idempotencyKey = startKey (v.row.commandSequence + 1))
      (names : namedEntry c = some entry.text)
      (live : c.commandKind = .play → ∃ e ∈ v.queue, e.queueEntryId = entry)
  | client (q : CommandRequest) (request : asked = some (c.roomId, q))
      (key : c.idempotencyKey = q.idempotencyKey) (hash : c.requestSha256 = q.requestHash)
      (kind : c.commandKind = .pause ∨ c.commandKind = .skip ∨ c.commandKind = .seek ∨
        c.commandKind = .queue ∨ c.commandKind = .transfer)
      (skip : c.commandKind = .skip → ∃ e, v.sorted[v.index + 1]? = some e ∧
        namedEntry c = some e.queueEntryId.text)
      (pause : c.commandKind = .pause →
        namedEntry c = (v.sorted[v.index]?).map fun e => e.queueEntryId.text)

/-- The log of a room stands still, or grows by one command. -/
inductive LogStep (asked : Option (Uuid × CommandRequest)) (v v' : RoomView) : Prop
  | quiet (commands : v'.commands = v.commands)
      (sequence : v'.row.commandSequence = v.row.commandSequence)
      (playback : v'.row.playbackState = v.row.playbackState)
  | append (c : CommandRow) (commands : v'.commands = v.commands ++ [c])
      (number : c.commandSequence = v.row.commandSequence + 1)
      (sequence : v'.row.commandSequence = v.row.commandSequence + 1)
      (playback : v'.row.playbackState = playbackAfter c.commandKind v.row.playbackState)
      (written : Written asked v c)

inductive QueueStep (v v' : RoomView) : Prop
  | quiet (queue : v'.queue = v.queue) (version : v'.row.queueVersion = v.row.queueVersion)
  | append (e : QueueEntryRow) (queue : v'.queue = v.queue ++ [e])
      (position : e.position = v.queue.length) (room : v.queue.length < 100)
      (version : v'.row.queueVersion = v.row.queueVersion + 1)

/-- What may happen to the epoch, the host and the state of a room. -/
structure RowStep (row row' : RoomRow) : Prop where
  epoch : row.roomEpoch ≤ row'.roomEpoch
  host : row'.hostDeviceId = row.hostDeviceId ∨ row.roomEpoch < row'.roomEpoch
  reopened : row'.state = .opened → row'.roomEpoch = row.roomEpoch → row.state = .opened
  terminal : row.state = .closed ∨ row.state = .expired → row'.state = row.state
  expiry : row'.expiresAt = row.expiresAt

/-- **What a transaction does to a room.** -/
structure RoomStep (asked : Option (Uuid × CommandRequest)) (now : Instant) (v v' : RoomView) :
    Prop where
  log : LogStep asked v v'
  queue : QueueStep v v'
  row : RowStep v.row v'.row
  hosted : (v.Live → v.Hosted) → v'.Live → v'.Hosted
  participants : ∀ t, now ≤ t → v.participants t ≤ 8 → v'.participants t ≤ 8

/-- A new room. -/
structure Initial (p : Principal) (v : RoomView) : Prop where
  commands : v.commands = []
  queue : v.queue = []
  guests : v.guests = []
  member : ∃ m, v.members = [m] ∧ m.deviceId = v.row.hostDeviceId ∧ m.role = .host ∧
    m.status = .joined
  sequence : v.row.commandSequence = 0
  version : v.row.queueVersion = 1
  playback : v.row.playbackState = .idle

/-- What a transaction does to a room that may not exist yet. -/
inductive StepAt (asked : Option (Uuid × CommandRequest)) (now : Instant) (db db' : WaveDb)
    (room : Uuid) : Prop
  | absent (before : db.view room = none) (after : db'.view room = none)
      (blank : db.Blank room → db'.Blank room)
  | created (p : Principal) (v : RoomView) (before : db.view room = none)
      (after : db'.view room = some v) (initial : db.Blank room → Initial p v)
  | stepped (v v' : RoomView) (before : db.view room = some v) (after : db'.view room = some v')
      (step : RoomStep asked now v v')

end AutPlay.Wave
