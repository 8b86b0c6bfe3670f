import AutPlay.Wave.Keys

/-!
# Clashes of keys

* `Appends`           the command that a transaction of the server gets to append, with its room;
* `leave_violates`, `close_violates`, …   the transactions, one by one;
* `server_keys_iff`   one of them violates the index exactly if a host used its key before.
-/

set_option linter.unusedSectionVars false

namespace AutPlay.Wave
open Sync (Uuid Json Payload)

/-- The transactions that append a command with a key of the server. -/
def Op.isServer : Op → Bool
  | .leave .. | .close .. | .transferHost .. | .recoverHost .. | .expireDue .. | .start .. => true
  | _ => false

/-- The host of a room is present. -/
def HostPresent (db : WaveDb) (row : RoomRow) (room : Uuid) (now : Instant) : Prop :=
  ∃ m ∈ db.members.rows, m.roomId = room ∧ m.deviceId = row.hostDeviceId ∧ m.status = .joined ∧
    m.seenSince (now - seconds 30) = true

/-- The member that a host hands the room to. -/
def transferTarget (db : WaveDb) (room device targetDevice : Uuid) (now : Instant) :
    Option MemberRow :=
  (db.members.find (room, targetDevice)).filter fun m =>
    m.deviceId ≠ device ∧ m.status = .joined ∧ m.seenSince (now - seconds 30) = true ∧
    ((db.devices.find m.deviceId).any fun d => d.userId = m.userId ∧ d.revokedAt = none) = true

/-- **A transaction is authorised and gets to append** a command with a key of the server. -/
inductive Appends (env : WaveEnv) (db : WaveDb) (now stmt : Instant) : Op → Uuid → String → Prop
  | leave {room : Uuid} {p : Principal} {value : WaveRoom} {db₁ : WaveDb} {row : RoomRow}
      (seen : readSnapshot db room p now = .ok (value, db₁))
      (found : db.rooms.find room = some row)
      (allowed : ¬ (p.deviceId = row.hostDeviceId ∧
        1 < (db₁.membersOf room).countP MemberRow.isJoined)) :
      Appends env db now stmt (.leave room p) room (lifecycleKey
        (if p.deviceId = row.hostDeviceId then .close else .leave) (row.commandSequence + 1))
  | close {room : Uuid} {p : Principal} {value : WaveRoom} {db₁ : WaveDb} {row : RoomRow}
      (host : requireHost db room p now = .ok (value, db₁))
      (found : db.rooms.find room = some row) :
      Appends env db now stmt (.close room p) room (lifecycleKey .close (row.commandSequence + 1))
  | transferHost {room targetDevice : Uuid} {p : Principal} {value : WaveRoom} {db₁ : WaveDb}
      {row : RoomRow} {target : MemberRow} (host : requireHost db room p now = .ok (value, db₁))
      (found : db.rooms.find room = some row)
      (member : transferTarget db₁ room p.deviceId targetDevice now = some target) :
      Appends env db now stmt (.transferHost room p targetDevice) room
        (lifecycleKey .transfer (row.commandSequence + 1))
  | returned {room : Uuid} {row : RoomRow} (found : db.rooms.find room = some row)
      (live : row.state = .opened ∨ row.state = .orphaned) (present : HostPresent db row room now)
      (lost : row.hostLostAt.isSome = true ∨ row.state = .orphaned) :
      Appends env db now stmt (.recoverHost room) room
        (lifecycleKey .transfer (row.commandSequence + 1))
  | orphaned {room : Uuid} {row : RoomRow} (found : db.rooms.find room = some row)
      (live : row.state = .opened) (absent : ¬ HostPresent db row room now)
      (elapsed : row.hostLostAt.getD now + seconds 30 ≤ now)
      (nobody : electHost db room now = none) :
      Appends env db now stmt (.recoverHost room) room
        (lifecycleKey .pause (row.commandSequence + 1))
  | promoted {room : Uuid} {row : RoomRow} {winner : MemberRow}
      (found : db.rooms.find room = some row) (live : row.state = .opened ∨ row.state = .orphaned)
      (absent : ¬ HostPresent db row room now)
      (elapsed : row.hostLostAt.getD now + seconds 30 ≤ now)
      (elected : electHost db room now = some winner) :
      Appends env db now stmt (.recoverHost room) room
        (lifecycleKey .transfer (row.commandSequence + 1))
  | expireDue {limit : Int} {before after : List RoomRow} {row : RoomRow} {db₁ : WaveDb}
      (bounded : 1 ≤ limit ∧ limit ≤ 100)
      (due : dueRooms db now limit.toNat = before ++ row :: after)
      (expired : before.foldlM (expireRoom env now stmt) db = .ok db₁) :
      Appends env db now stmt (.expireDue limit) row.roomId
        (lifecycleKey .expire (row.commandSequence + 1))
  | start {room : Uuid} {p : Principal} {q : StartRequest} {value : WaveRoom} {db₁ : WaveDb}
      {row : RoomRow} (host : requireHost db room p now = .ok (value, db₁))
      (found : db.rooms.find room = some row)
      (expected : value.version = q.expectedQueueVersion ∧
        value.commandSequence = q.expectedSequence) :
      Appends env db now stmt (.start room p q) room (startKey (row.commandSequence + 1))

section
variable {env : WaveEnv} {db db' : WaveDb} {es : List Event} {room : Uuid} {p : Principal}
  {now stmt : Instant} {row row' : RoomRow} {value : WaveRoom}

/-- What the checks of a member leave: the row, and the same log. -/
theorem Visited.found_touched (h : Visited db room p now row value db') :
    db'.rooms.find room = some row ∧ db'.commandsOf room = db.commandsOf room := by
  rw [h.touched]
  exact ⟨h.found, rfl⟩

theorem leave_violates
    (hn : ∀ row, db.rooms.find room = some row → NextKeys es (db.commandsOf room) room row) :
    leave env db room p now stmt = .error keyTaken ↔
      ∃ key, Appends env db now stmt (.leave room p) room key ∧ HostUsed es room key := by
  unfold leave
  rw [Result.bind_eq_error_of_ne readSnapshot_ne]
  constructor
  · rintro ⟨⟨value, db₁⟩, hsnap, h₁⟩
    obtain ⟨row, hv⟩ := readSnapshot_ok hsnap
    obtain ⟨hfound, hcommands⟩ := hv.found_touched
    obtain ⟨row', hrow', h₂⟩ := (Result.bind_eq_error_of_ne (one_ne _)).mp h₁
    cases (one_ok.mp hrow').symm.trans hfound
    obtain ⟨u, hallowed, h₃⟩ := (Result.bind_eq_error_of_ne (require_ne (by decide))).mp h₂
    refine ⟨_, .leave hsnap hv.found (require_ok.mp hallowed), ?_⟩
    rcases Result.bind_eq_error.mp h₃ with happ | ⟨db₂, -, hend⟩
    · exact (appendLifecycleCommand_violates _ _ _ _ _ (hn row hv.found) hcommands hfound rfl
        rfl).mp happ
    · dsimp only at hend
      split at hend
      · cases hend
      · cases hend
  · rintro ⟨key, happends, hused⟩
    cases happends with
    | leave seen found allowed =>
      obtain ⟨row', hv⟩ := readSnapshot_ok seen
      obtain ⟨hfound, hcommands⟩ := hv.found_touched
      cases hv.found.symm.trans found
      refine ⟨_, seen, ?_⟩
      refine (Result.bind_eq_error_of_ne (one_ne _)).mpr ⟨_, one_ok.mpr hfound, ?_⟩
      refine (Result.bind_eq_error_of_ne (require_ne (by decide))).mpr
        ⟨(), require_ok.mpr allowed, ?_⟩
      exact Result.bind_eq_error.mpr (Or.inl
        ((appendLifecycleCommand_violates _ _ _ _ _ (hn _ found) hcommands hfound rfl rfl).mpr hused))

theorem close_violates
    (hn : ∀ row, db.rooms.find room = some row → NextKeys es (db.commandsOf room) room row) :
    close env db room p now stmt = .error keyTaken ↔
      ∃ key, Appends env db now stmt (.close room p) room key ∧ HostUsed es room key := by
  unfold close
  rw [Result.bind_eq_error_of_ne requireHost_ne]
  constructor
  · rintro ⟨⟨value, db₁⟩, hhost, h₁⟩
    obtain ⟨row, hv, -⟩ := requireHost_ok hhost
    obtain ⟨hfound, hcommands⟩ := hv.found_touched
    refine ⟨_, .close hhost hv.found, ?_⟩
    rcases Result.bind_eq_error.mp h₁ with happ | ⟨db₂, -, hend⟩
    · exact (appendLifecycleCommand_violates _ _ _ _ _ (hn row hv.found) hcommands hfound rfl
        rfl).mp happ
    · cases hend
  · rintro ⟨key, happends, hused⟩
    cases happends with
    | close host found =>
      obtain ⟨row', hv, -⟩ := requireHost_ok host
      obtain ⟨hfound, hcommands⟩ := hv.found_touched
      cases hv.found.symm.trans found
      exact ⟨_, host, Result.bind_eq_error.mpr (Or.inl
        ((appendLifecycleCommand_violates _ _ _ _ _ (hn _ found) hcommands hfound rfl rfl).mpr hused))⟩

theorem transferHost_violates {target : Uuid}
    (hn : ∀ row, db.rooms.find room = some row → NextKeys es (db.commandsOf room) room row) :
    transferHost env db room p target now = .error keyTaken ↔
      ∃ key, Appends env db now stmt (.transferHost room p target) room key ∧
        HostUsed es room key := by
  unfold transferHost
  rw [Result.bind_eq_error_of_ne requireHost_ne]
  constructor
  · rintro ⟨⟨value, db₁⟩, hhost, h₁⟩
    obtain ⟨row, hv, -⟩ := requireHost_ok hhost
    obtain ⟨hfound, hcommands⟩ := hv.found_touched
    dsimp only at h₁
    split at h₁
    · cases h₁
    · rename_i m hm
      refine ⟨_, .transferHost hhost hv.found hm, ?_⟩
      rcases Result.bind_eq_error.mp h₁ with happ | ⟨db₂, -, hend⟩
      · exact (appendLifecycleCommand_violates _ _ _ _ _ (hn row hv.found) hcommands hfound rfl
        rfl).mp happ
      · cases hend
  · rintro ⟨key, happends, hused⟩
    cases happends with
    | transferHost host found member =>
      obtain ⟨row', hv, -⟩ := requireHost_ok host
      obtain ⟨hfound, hcommands⟩ := hv.found_touched
      cases hv.found.symm.trans found
      refine ⟨_, host, ?_⟩
      unfold transferTarget at member
      dsimp only
      rw [member]
      exact Result.bind_eq_error.mpr (Or.inl
        ((appendLifecycleCommand_violates _ _ _ _ _ (hn _ found) hcommands hfound rfl rfl).mpr hused))

theorem start_violates {q : StartRequest}
    (hn : ∀ row, db.rooms.find room = some row → NextKeys es (db.commandsOf room) room row) :
    start env db room p q now = .error keyTaken ↔
      ∃ key, Appends env db now stmt (.start room p q) room key ∧ HostUsed es room key := by
  -- the start gate appends its command itself
  have hviolates : ∀ row value db₁ lead, Visited db room p now row value db₁ →
      value.version = q.expectedQueueVersion ∧ value.commandSequence = q.expectedSequence →
      (insertCommand (db₁.updateRoom room (startedRow q lead now) (fun _ => rfl) (fun _ => rfl))
        (startCommand env room p q lead now) = .error keyTaken ↔
          HostUsed es room (startKey (row.commandSequence + 1))) := by
    intro row value db₁ lead hv hexpected
    have hnext := hn row hv.found
    have hsequence : q.expectedSequence = row.commandSequence :=
      hexpected.2.symm.trans hv.snapshot.sequence
    have hversion : q.expectedQueueVersion = row.queueVersion :=
      hexpected.1.symm.trans hv.snapshot.version
    rw [← hnext.taken _ (Or.inl rfl), ← hsequence, ← hv.found_touched.2]
    refine insertCommand_violates _ (startCommand env room p q lead now) (fun c hc => ?_) ?_
    · show c.commandSequence ≠ q.expectedSequence + 1
      rw [hsequence]
      exact hnext.free c (hv.found_touched.2 ▸ hc)
    · show 1 ≤ q.expectedQueueVersion
      rw [hversion]
      exact hnext.version
  unfold start
  rw [Result.bind_eq_error_of_ne requireHost_ne]
  constructor
  · rintro ⟨⟨value, db₁⟩, hhost, h₁⟩
    obtain ⟨row, hv, -⟩ := requireHost_ok hhost
    obtain ⟨u, hexpected, h₂⟩ := (Result.bind_eq_error_of_ne (require_ne (by decide))).mp h₁
    refine ⟨_, .start hhost hv.found (require_ok.mp hexpected), ?_⟩
    rcases Result.bind_eq_error.mp h₂ with hins | ⟨db₂, -, hend⟩
    · exact (hviolates row value db₁ _ hv (require_ok.mp hexpected)).mp hins
    · cases hend
  · rintro ⟨key, happends, hused⟩
    cases happends with
    | start host found expected =>
      obtain ⟨row', hv, -⟩ := requireHost_ok host
      cases hv.found.symm.trans found
      refine ⟨_, host, (Result.bind_eq_error_of_ne (require_ne (by decide))).mpr
        ⟨(), require_ok.mpr expected, ?_⟩⟩
      exact Result.bind_eq_error.mpr (Or.inl ((hviolates _ _ _ _ hv expected).mpr hused))

/-! Recovery: each of its three endings appends one command. -/

theorem hostReturned_violates (hn : NextKeys es (db.commandsOf room) room row)
    (found : db.rooms.find room = some row) :
    hostReturned env db row now stmt = .error keyTaken ↔
      (row.hostLostAt.isSome = true ∨ row.state = .orphaned) ∧
        HostUsed es room (lifecycleKey .transfer (row.commandSequence + 1)) := by
  have hroom : row.roomId = room := Table.key_of_find found
  unfold hostReturned
  rw [hroom]
  split
  · rename_i hlost
    rw [← appendLifecycleCommand_violates env row.hostUserId row.hostDeviceId
      [("recovered", .bool true)] now hn rfl found rfl rfl]
    constructor
    · intro h
      rcases Result.bind_eq_error.mp h with happ | ⟨db₁, -, hend⟩
      · exact ⟨hlost, happ⟩
      · cases hend
    · rintro ⟨-, happ⟩
      exact Result.bind_eq_error.mpr (Or.inl happ)
  · rename_i hkept
    exact ⟨(fun h => by cases h), fun h => absurd h.1 hkept⟩

theorem orphanRoom_violates {cs : List CommandRow} (hn : NextKeys es cs room row)
    (found : db.rooms.find room = some row') (hc : db.commandsOf room = cs)
    (hroom : row.roomId = room)
    (hs : row'.commandSequence = row.commandSequence) (hv : row'.queueVersion = row.queueVersion) :
    orphanRoom env db row now stmt = .error keyTaken ↔
      row.state ≠ .orphaned ∧
        HostUsed es room (lifecycleKey .pause (row.commandSequence + 1)) := by
  unfold orphanRoom
  rw [hroom]
  split
  · rename_i horphaned
    exact ⟨(fun h => by cases h), fun h => absurd horphaned h.1⟩
  · rename_i hopen
    rw [← appendLifecycleCommand_violates env row.hostUserId row.hostDeviceId
      [("reason", .str "host_unavailable")] now hn hc found hs hv]
    constructor
    · intro h
      rcases Result.bind_eq_error.mp h with happ | ⟨db₁, -, hend⟩
      · exact ⟨hopen, happ⟩
      · cases hend
    · rintro ⟨-, happ⟩
      exact Result.bind_eq_error.mpr (Or.inl happ)

theorem promote_violates {winner : MemberRow} {cs : List CommandRow} (hn : NextKeys es cs room row)
    (found : db.rooms.find room = some row') (hc : db.commandsOf room = cs)
    (hroom : row.roomId = room)
    (hs : row'.commandSequence = row.commandSequence) (hv : row'.queueVersion = row.queueVersion) :
    promote env db row winner now stmt = .error keyTaken ↔
      HostUsed es room (lifecycleKey .transfer (row.commandSequence + 1)) := by
  unfold promote
  rw [hroom, ← appendLifecycleCommand_violates env row.hostUserId row.hostDeviceId
    [("target_device_id", .str winner.deviceId.text), ("automatic", .bool true)] now hn hc found
    hs hv]
  constructor
  · intro h
    rcases Result.bind_eq_error.mp h with happ | ⟨db₁, -, hend⟩
    · exact happ
    · cases hend
  · intro happ
    exact Result.bind_eq_error.mpr (Or.inl happ)

theorem recoverHost_violates
    (hn : ∀ row, db.rooms.find room = some row → NextKeys es (db.commandsOf room) room row) :
    recoverHost env db room now stmt = .error keyTaken ↔
      ∃ key, Appends env db now stmt (.recoverHost room) room key ∧ HostUsed es room key := by
  -- the loss of the host is noted before a member is elected
  have hnoted : ∀ row : RoomRow, db.rooms.find room = some row →
      (db.updateRoom room fun r => { r with hostLostAt := some (r.hostLostAt.getD now) }).rooms.find
        room = some { row with hostLostAt := some (row.hostLostAt.getD now) } := by
    intro row hrow
    rw [find_updateRoom, hrow]
    exact congrArg some (if_pos rfl)
  unfold recoverHost
  rw [Result.bind_eq_error_of_ne (one_ne _)]
  constructor
  · rintro ⟨row, hrow, h₁⟩
    obtain ⟨found, hlive⟩ := Option.filter_eq_some_iff.mp (one_ok.mp hrow)
    have live := of_decide_eq_true hlive
    have hroom : row.roomId = room := Table.key_of_find found
    split at h₁
    · rename_i hpresent
      obtain ⟨hlost, hused⟩ := (hostReturned_violates (hn row found) found).mp h₁
      exact ⟨_, .returned found live hpresent hlost, hused⟩
    · rename_i habsent
      dsimp only at h₁
      split at h₁
      · cases h₁
      · rename_i helapsed
        have elapsed := not_lt.mp helapsed
        split at h₁
        · rename_i hnobody
          obtain ⟨hopen, hused⟩ :=
            (orphanRoom_violates (hn row found) (hnoted row found) rfl hroom rfl rfl).mp h₁
          exact ⟨_, .orphaned found (live.resolve_right hopen) habsent elapsed hnobody, hused⟩
        · rename_i winner helected
          exact ⟨_, .promoted found live habsent elapsed helected,
            (promote_violates (hn row found) (hnoted row found) rfl hroom rfl rfl).mp h₁⟩
  · rintro ⟨key, happends, hused⟩
    cases happends with
    | returned found live present lost =>
      refine ⟨_, one_ok.mpr (Option.filter_eq_some_iff.mpr ⟨found, decide_eq_true live⟩), ?_⟩
      rw [if_pos (show ∃ m ∈ db.members.rows, _ from present)]
      exact (hostReturned_violates (hn _ found) found).mpr ⟨lost, hused⟩
    | orphaned found live absent elapsed nobody =>
      refine ⟨_, one_ok.mpr (Option.filter_eq_some_iff.mpr
        ⟨found, decide_eq_true (Or.inl live)⟩), ?_⟩
      rw [if_neg (show ¬ ∃ m ∈ db.members.rows, _ from absent)]
      dsimp only
      rw [if_neg (not_lt.mpr elapsed), show electHost (db.updateRoom room _) room now = none from nobody]
      refine (orphanRoom_violates (hn _ found) (hnoted _ found) rfl (Table.key_of_find found)
        rfl rfl).mpr ⟨fun ho => ?_, hused⟩
      cases live.symm.trans ho
    | promoted found live absent elapsed elected =>
      refine ⟨_, one_ok.mpr (Option.filter_eq_some_iff.mpr ⟨found, decide_eq_true live⟩), ?_⟩
      rw [if_neg (show ¬ ∃ m ∈ db.members.rows, _ from absent)]
      dsimp only
      rw [if_neg (not_lt.mpr elapsed),
        show electHost (db.updateRoom room _) room now = some _ from elected]
      exact (promote_violates (hn _ found) (hnoted _ found) rfl (Table.key_of_find found) rfl
        rfl).mpr
        hused

/-! Expiry: the rooms before the first one whose key is taken are expired, and rolled back. -/

theorem expireRoom_violates (hn : NextKeys es (db.commandsOf row.roomId) row.roomId row)
    (found : db'.rooms.find row.roomId = some row)
    (hc : db'.commandsOf row.roomId = db.commandsOf row.roomId) :
    expireRoom env now stmt db' row = .error keyTaken ↔
      HostUsed es row.roomId (lifecycleKey .expire (row.commandSequence + 1)) := by
  rw [← appendLifecycleCommand_violates env row.hostUserId row.hostDeviceId [] now hn hc found
    rfl rfl]
  constructor
  · intro h
    rcases Result.bind_eq_error.mp h with happ | ⟨db₁, -, hend⟩
    · exact happ
    · cases hend
  · intro happ
    exact Result.bind_eq_error.mpr (Or.inl happ)

theorem expireDue_violates {limit : Int}
    (hn : ∀ room row, db.rooms.find room = some row → NextKeys es (db.commandsOf room) room row) :
    expireDue env db now limit stmt = .error keyTaken ↔
      ∃ room key, Appends env db now stmt (.expireDue limit) room key ∧ HostUsed es room key := by
  have hroom : ∀ (before : List RoomRow) row after db₁,
      dueRooms db now limit.toNat = before ++ row :: after →
      before.foldlM (expireRoom env now stmt) db = .ok db₁ →
      (expireRoom env now stmt db₁ row = .error keyTaken ↔
        HostUsed es row.roomId (lifecycleKey .expire (row.commandSequence + 1))) := by
    intro before row after db₁ hdue hbefore
    have hmem : row ∈ dueRooms db now limit.toNat := by
      rw [hdue]
      exact List.mem_append_right _ List.mem_cons_self
    have found : db.rooms.find row.roomId = some row := Table.find_mem (mem_dueRooms hmem).1
    have hnodup := dueRooms_nodup db now limit.toNat
    rw [hdue, List.map_append, List.nodup_append] at hnodup
    have hframe : Frame db db₁ row.roomId := by
      refine expireRooms_frame (fun x hx he => ?_) hbefore
      exact hnodup.2.2 x.roomId (List.mem_map_of_mem hx) row.roomId
        (List.mem_map_of_mem List.mem_cons_self) he.symm
    exact expireRoom_violates (hn _ row found) (hframe.row.trans found) hframe.commands
  unfold expireDue
  rw [Result.bind_eq_error_of_ne (require_ne (by decide))]
  constructor
  · rintro ⟨u, hbounded, h₁⟩
    rcases Result.bind_eq_error.mp h₁ with hfold | ⟨db₁, -, hend⟩
    · obtain ⟨before, row, after, db₁, hdue, hbefore, hrow⟩ := Result.foldlM_eq_error.mp hfold
      exact ⟨_, _, .expireDue (require_ok.mp hbounded) hdue hbefore,
        (hroom before row after db₁ hdue hbefore).mp hrow⟩
    · cases hend
  · rintro ⟨room, key, happends, hused⟩
    cases happends with
    | expireDue bounded due expired =>
      refine ⟨(), require_ok.mpr bounded, Result.bind_eq_error.mpr (Or.inl ?_)⟩
      exact Result.foldlM_eq_error.mpr ⟨_, _, _, _, due, expired,
        (hroom _ _ _ _ due expired).mpr hused⟩

end

theorem map_snd_error {α β : Type} {x : Except WaveError (α × β)} {e : WaveError} :
    x.map Prod.snd = .error e ↔ x = .error e := by
  cases x with
  | error e' =>
    refine ⟨fun h => ?_, fun h => ?_⟩
    · cases h
      rfl
    · cases h
      rfl
  | ok y => exact ⟨nofun, nofun⟩

/-- **A transaction of the server violates the index of the keys exactly if** it is authorised, and
gets to append a command whose key a host of the room used for a request before. -/
theorem server_keys_iff {env : WaveEnv} {s₀ s : System} {es : List Event} (fresh : Fresh s₀.db)
    (run : Path (Step env) s₀ es s) (op : Op) (server : op.isServer = true) (now stmt : Instant) :
    op.run env s.db now stmt = .error keyTaken ↔
      ∃ room key, Appends env s.db now stmt op room key ∧ HostUsed es room key := by
  have hn : ∀ room row, s.db.rooms.find room = some row →
      NextKeys es (s.db.commandsOf room) room row := fun room row found => nextKeys fresh run found
  have hone : ∀ room, (∀ room' key, Appends env s.db now stmt op room' key → room' = room) →
      (op.run env s.db now stmt = .error keyTaken ↔
        ∃ key, Appends env s.db now stmt op room key ∧ HostUsed es room key) →
      (op.run env s.db now stmt = .error keyTaken ↔
        ∃ room key, Appends env s.db now stmt op room key ∧ HostUsed es room key) := by
    intro room hroom h
    rw [h]
    constructor
    · rintro ⟨key, happends, hused⟩
      exact ⟨room, key, happends, hused⟩
    · rintro ⟨room', key, happends, hused⟩
      cases hroom room' key happends
      exact ⟨key, happends, hused⟩
  cases op with
  | leave room p =>
    refine hone room (fun room' key h => ?_) (leave_violates (hn room))
    cases h
    rfl
  | close room p =>
    refine hone room (fun room' key h => ?_) (close_violates (hn room))
    cases h
    rfl
  | transferHost room p targetDevice =>
    refine hone room (fun room' key h => ?_) (transferHost_violates (hn room))
    cases h
    rfl
  | recoverHost room =>
    refine hone room (fun room' key h => ?_) ?_
    · cases h with
      | returned => rfl
      | orphaned => rfl
      | promoted => rfl
    · exact (map_snd_error).trans (recoverHost_violates (hn room))
  | expireDue limit => exact (map_snd_error).trans (expireDue_violates hn)
  | start room p q =>
    refine hone room (fun room' key h => ?_) ((map_snd_error).trans (start_violates (hn room)))
    cases h
    rfl
  | _ => cases server

/-- Two rooms; the host of one uses the key that its expiry is going to have. -/
def Sample.clash : List (Op × Instant × Instant) :=
  [(.create host roomId "WAVE42" [], 0, 0), (.create friend otherRoomId "WAVE43" [], 0, 0),
   (.command roomId host ⟨"SEEK", "lifecycle-expire-2", "cbd345d6a2815fa88d1022650386d07488f45c6c5c3d72da1ca380f0808bb15f", 1, 0, none⟩ entryOne,
     seconds 1, seconds 1)]

theorem server_keys_iff_clash :
    (Op.expireDue 100).run Sample.env (Sample.reached Sample.clash).db (seconds 21600)
        (seconds 21600) = .error keyTaken ↔
      ∃ room key, Appends Sample.env (Sample.reached Sample.clash).db (seconds 21600)
        (seconds 21600) (.expireDue 100) room key ∧
          HostUsed (Sample.clash.map fun o => .commit o.1 o.2.1 o.2.2) room key :=
  server_keys_iff Sample.fresh (Sample.path_reached (by decide +kernel)) (.expireDue 100) rfl _ _

/-- **One key keeps both rooms from expiring**: the batch fails, and the other room stays due. -/
theorem clash_poisons_expiry :
    ∃ es s row, Path (Step Sample.env) ⟨Sample.db, 0⟩ es s ∧
      s.db.rooms.find Sample.otherRoomId = some row ∧ row.state = .opened ∧
      row.expiresAt ≤ seconds 21600 ∧
      (Op.expireDue 100).run Sample.env s.db (seconds 21600) (seconds 21600) = .error keyTaken := by
  obtain ⟨row, found⟩ : ∃ row,
      (Sample.reached Sample.clash).db.rooms.find Sample.otherRoomId = some row :=
    Option.isSome_iff_exists.mp (by decide +kernel)
  have hrow : ((Sample.reached Sample.clash).db.rooms.find Sample.otherRoomId).all
      (fun row => row.state = .opened ∧ row.expiresAt ≤ seconds 21600) = true := by decide +kernel
  rw [found] at hrow
  obtain ⟨hopen, hdue⟩ := of_decide_eq_true hrow
  exact ⟨_, _, row, Sample.path_reached (by decide +kernel), found, hopen, hdue, rfl⟩

end AutPlay.Wave
