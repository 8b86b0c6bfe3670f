import AutPlay.Wave.View

/-!
# Parts of the steps of a room

* `readSnapshot_ok`, `requireHost_ok`, `appendLifecycleCommand_ok`   what the shared parts return;
* `Alike`            nothing changes but presence and guests that went;
* `RoomStep.before`, `RoomStep.after`   a step with such a change in front of it or behind it;
* `RoomStep.mapped`, `RoomStep.closing`, `RoomStep.handover`   the kinds of a step.
-/

set_option linter.unusedSectionVars false

namespace AutPlay.Wave
open Sync (Uuid Json Payload)
open Table (mem_def)

/-! ## the shared parts -/

/-- What a snapshot says about its room. -/
structure SnapshotOf (db : WaveDb) (room : Uuid) (row : RoomRow) (value : WaveRoom) : Prop where
  roomId : value.roomId = room
  hostUserId : value.hostUserId = row.hostUserId
  hostLostAt : value.hostLostAt = row.hostLostAt
  state : value.state = row.state
  version : value.version = row.queueVersion
  sequence : value.commandSequence = row.commandSequence
  queue : value.queue = (db.queueOf room).map fun q => ⟨q.queueEntryId, q.recordingId, q.position⟩
  playback : value.playbackCommand = playbackCommand db room

/-- A snapshot was taken of a usable room by a joined member. -/
structure Visited (db : WaveDb) (room : Uuid) (p : Principal) (now : Instant) (row : RoomRow)
    (value : WaveRoom) (db' : WaveDb) : Prop where
  found : db.rooms.find room = some row
  unexpired : now < row.expiresAt
  live : row.state = .opened ∨ row.state = .orphaned
  member : ∃ m ∈ db.members.rows, m.roomId = room ∧ m.userId = p.userId ∧
    m.deviceId = p.deviceId ∧ m.status = .joined
  touched : db' = touched db room p.deviceId now
  snapshot : SnapshotOf db room row value

section
variable {env : WaveEnv} {db db' : WaveDb} {room : Uuid} {p : Principal} {now stmt : Instant}
  {value : WaveRoom} {v : RoomView}

theorem requireMember_ok (h : requireMember db room p now = .ok db') :
    (∃ m ∈ db.members.rows, m.roomId = room ∧ m.userId = p.userId ∧ m.deviceId = p.deviceId ∧
      m.status = .joined) ∧ db' = touched db room p.deviceId now := by
  obtain ⟨u, hu, h⟩ := Result.bind_eq_ok.mp h
  exact ⟨require_ok.mp hu, (touchMember_ok.mp h).2⟩

theorem readSnapshot_ok (h : readSnapshot db room p now = .ok (value, db')) :
    ∃ row, Visited db room p now row value db' := by
  obtain ⟨row, hrow, h⟩ := Result.bind_eq_ok.mp h
  obtain ⟨db₁, hmember, h⟩ := Result.bind_eq_ok.mp h
  obtain ⟨self, -, h⟩ := Result.bind_eq_ok.mp h
  obtain ⟨hfound, hlive⟩ := Option.filter_eq_some_iff.mp (one_ok.mp hrow)
  obtain ⟨hjoined, rfl⟩ := requireMember_ok hmember
  obtain ⟨hunexpired, hclosed, hexpired⟩ := of_decide_eq_true hlive
  cases h
  refine ⟨row, hfound, hunexpired, ?_, hjoined, rfl, ⟨Table.key_of_find hfound, rfl, rfl, rfl, rfl,
    rfl, rfl, rfl⟩⟩
  cases hs : row.state with
  | opened => exact Or.inl rfl
  | orphaned => exact Or.inr rfl
  | closed => exact absurd hs hclosed
  | expired => exact absurd hs hexpired

theorem requireHost_ok (h : requireHost db room p now = .ok (value, db')) :
    ∃ row, Visited db room p now row value db' ∧ row.state = .opened ∧ row.hostLostAt = none ∧
      row.hostUserId = p.userId ∧ row.hostDeviceId = p.deviceId := by
  obtain ⟨⟨value₁, db₁⟩, hsnap, h⟩ := Result.bind_eq_ok.mp h
  obtain ⟨row₁, hrow, h⟩ := Result.bind_eq_ok.mp h
  obtain ⟨u, hu, h⟩ := Result.bind_eq_ok.mp h
  cases h
  obtain ⟨row, hv⟩ := readSnapshot_ok hsnap
  have hfound := one_ok.mp hrow
  rw [hv.touched] at hfound
  have hsame : row₁ = row := Option.some.inj (hfound.symm.trans hv.found)
  subst hsame
  obtain ⟨huser, hdevice, hlost, hstate⟩ := require_ok.mp hu
  exact ⟨row₁, hv, hv.snapshot.state.symm.trans hstate, hv.snapshot.hostLostAt.symm.trans hlost,
    hv.snapshot.hostUserId.symm.trans huser, hdevice⟩

/-- What the check of the host refuses with. -/
inductive Refused : WaveError → Prop
  | noResultFound : Refused .noResultFound
  | waveForbidden : Refused .waveForbidden
  | check : Refused (.check .member)

theorem readSnapshot_error {e : WaveError} (h : readSnapshot db room p now = .error e) :
    Refused e := by
  rcases Result.bind_eq_error.mp h with hrow | ⟨row, -, h₁⟩
  · rw [one_error hrow]
    exact .noResultFound
  rcases Result.bind_eq_error.mp h₁ with hmember | ⟨db₁, -, h₂⟩
  · rcases Result.bind_eq_error.mp hmember with hjoined | ⟨u, -, htouch⟩
    · rw [← (require_error.mp hjoined).2]
      exact .waveForbidden
    · rcases Result.bind_eq_error.mp htouch with hcheck | ⟨u, -, hend⟩
      · rw [← (require_error.mp hcheck).2]
        exact .check
      · cases hend
  rcases Result.bind_eq_error.mp h₂ with hself | ⟨self, -, hend⟩
  · rw [one_error hself]
    exact .noResultFound
  · cases hend

theorem requireHost_error {e : WaveError} (h : requireHost db room p now = .error e) :
    Refused e := by
  rcases Result.bind_eq_error.mp h with hsnap | ⟨⟨value, db₁⟩, -, h₁⟩
  · exact readSnapshot_error hsnap
  rcases Result.bind_eq_error.mp h₁ with hrow | ⟨row, -, h₂⟩
  · rw [one_error hrow]
    exact .noResultFound
  rcases Result.bind_eq_error.mp h₂ with hhost | ⟨u, -, hend⟩
  · rw [← (require_error.mp hhost).2]
    exact .waveForbidden
  · cases hend

theorem appendLifecycleCommand_ok {user device : Uuid} {kind : CommandKind} {document : Payload} :
    appendLifecycleCommand env db room user device kind document now = .ok db' ↔
      ∃ row db₁, db.rooms.find room = some row ∧
        insertCommand db (lifecycleCommand env row user device kind document now) = .ok db₁ ∧
        db' = db₁.updateRoom room fun r => { r with commandSequence := row.commandSequence + 1 } := by
  unfold appendLifecycleCommand
  rw [Result.bind_eq_ok]
  constructor
  · rintro ⟨row, hrow, h⟩
    obtain ⟨db₁, hins, h⟩ := Result.bind_eq_ok.mp h
    cases h
    exact ⟨row, db₁, one_ok.mp hrow, hins, rfl⟩
  · rintro ⟨row, db₁, hrow, hins, rfl⟩
    exact ⟨row, one_ok.mpr hrow, Result.bind_eq_ok.mpr ⟨db₁, hins, rfl⟩⟩

theorem view_appendLifecycleCommand {user device : Uuid} {kind : CommandKind} {document : Payload}
    (h : appendLifecycleCommand env db room user device kind document now = .ok db')
    (hv : db.view room = some v) :
    db'.view room = some { v with
      row := { v.row with commandSequence := v.row.commandSequence + 1 }
      commands := v.commands ++ [lifecycleCommand env v.row user device kind document now] } := by
  obtain ⟨row, db₁, hrow, hins, rfl⟩ := (appendLifecycleCommand_ok).mp h
  have hsame : row = v.row := Option.some.inj (hrow.symm.trans (view_eq_some.mp hv).1)
  subst hsame
  exact view_updateRoom _ _ _ (view_insertCommand hins (view_roomId hv) hv)

theorem frame_appendLifecycleCommand {user device r : Uuid} {kind : CommandKind}
    {document : Payload}
    (h : appendLifecycleCommand env db room user device kind document now = .ok db')
    (hr : r ≠ room) : Frame db db' r := by
  obtain ⟨row, db₁, hrow, hins, rfl⟩ := (appendLifecycleCommand_ok).mp h
  have hroom : row.roomId = room := Table.key_of_find hrow
  exact (frame_insertCommand hins (by rw [show (lifecycleCommand env row user device kind document
    now).roomId = row.roomId from rfl, hroom]; exact hr)).trans (frame_updateRoom _ _ _ _ hr)

/-- A member row after its device was seen. -/
def touchRow (room device : Uuid) (now : Instant) (m : MemberRow) : MemberRow :=
  if decide (m.roomId = room ∧ m.deviceId = device) = true then { m with lastPresentAt := some now }
  else m

@[simp] theorem touchRow_deviceId (device : Uuid) (m : MemberRow) :
    (touchRow room device now m).deviceId = m.deviceId := by
  unfold touchRow
  split
  · rfl
  · rfl

@[simp] theorem touchRow_role (device : Uuid) (m : MemberRow) :
    (touchRow room device now m).role = m.role := by
  unfold touchRow
  split
  · rfl
  · rfl

@[simp] theorem touchRow_status (device : Uuid) (m : MemberRow) :
    (touchRow room device now m).status = m.status := by
  unfold touchRow
  split
  · rfl
  · rfl

@[simp] theorem touchRow_roomId (device : Uuid) (m : MemberRow) :
    (touchRow room device now m).roomId = m.roomId := by
  unfold touchRow
  split
  · rfl
  · rfl

theorem mem_touched {device : Uuid} {m : MemberRow} :
    m ∈ (touched db room device now).members ↔ ∃ m₀ ∈ db.members, m = touchRow room device now m₀ :=
  Table.mem_updateWhere (by intro _; rfl) (by intro _; rfl)

theorem view_touched (device : Uuid) (hv : db.view room = some v) :
    (touched db room device now).view room =
      some { v with members := v.members.map (touchRow room device now) } :=
  view_updateMembers _ _ _ _ hv

end

/-! ## kinds of steps -/

section
variable {v v' : RoomView} {now t : Instant} {f : MemberRow → MemberRow}
  {asked : Option (Uuid × CommandRequest)}

theorem RowStep.refl (row : RoomRow) : RowStep row row :=
  ⟨Nat.le_refl _, Or.inl rfl, fun h _ => h, fun _ => rfl, rfl⟩

/-- A write to other columns. -/
theorem RowStep.same {row row' : RoomRow} (epoch : row'.roomEpoch = row.roomEpoch)
    (host : row'.hostDeviceId = row.hostDeviceId) (state : row'.state = row.state)
    (expiry : row'.expiresAt = row.expiresAt) : RowStep row row' :=
  ⟨epoch ▸ Nat.le_refl _, Or.inl host, fun h _ => state ▸ h, fun _ => state, expiry⟩

/-- A live room is left in another state than OPEN. -/
theorem RowStep.leaving {row row' : RoomRow} (live : row.state = .opened ∨ row.state = .orphaned)
    (epoch : row'.roomEpoch = row.roomEpoch) (host : row'.hostDeviceId = row.hostDeviceId)
    (state : row'.state ≠ .opened) (expiry : row'.expiresAt = row.expiresAt) : RowStep row row' := by
  refine ⟨epoch ▸ Nat.le_refl _, Or.inl host, fun h _ => absurd h state, fun h => ?_, expiry⟩
  rcases live with hl | hl
  · rw [hl] at h
    rcases h with h | h
    · cases h
    · cases h
  · rw [hl] at h
    rcases h with h | h
    · cases h
    · cases h

/-- A live room begins a new epoch. -/
theorem RowStep.renewed {row row' : RoomRow} (live : row.state = .opened ∨ row.state = .orphaned)
    (epoch : row'.roomEpoch = row.roomEpoch + 1) (expiry : row'.expiresAt = row.expiresAt) :
    RowStep row row' := by
  refine ⟨by omega, Or.inr (by omega), fun _ h => by omega, fun h => ?_, expiry⟩
  rcases live with hl | hl
  · rw [hl] at h
    rcases h with h | h
    · cases h
    · cases h
  · rw [hl] at h
    rcases h with h | h
    · cases h
    · cases h

theorem RoomView.Hosted.map (h : v.Hosted) (hm : v'.members = v.members.map f)
    (hdevice : ∀ m, (f m).deviceId = m.deviceId) (hrole : ∀ m, (f m).role = m.role)
    (hjoined : ∀ m, m.deviceId = v.row.hostDeviceId → m.status = .joined → (f m).status = .joined)
    (hhost : v'.row.hostDeviceId = v.row.hostDeviceId) : v'.Hosted := by
  constructor
  · intro m' hm'
    rw [hm] at hm'
    obtain ⟨m, hmem, rfl⟩ := List.mem_map.mp hm'
    rw [hrole, hdevice, hhost]
    exact h.role m hmem
  · obtain ⟨m, hmem, hdev, hst⟩ := h.joined
    refine ⟨f m, ?_, (hdevice m).trans (hdev.trans hhost.symm), hjoined m hdev hst⟩
    rw [hm]
    exact List.mem_map_of_mem hmem

/-- The roles are written anew for a joined device. -/
theorem RoomView.Hosted.handover {device : Uuid}
    (hm : v'.members = v.members.map f) (hdevice : ∀ m, (f m).deviceId = m.deviceId)
    (hrole : ∀ m ∈ v.members, (f m).role = .host ↔ m.deviceId = device)
    (hstatus : ∀ m, (f m).status = m.status)
    (hjoined : ∃ m ∈ v.members, m.deviceId = device ∧ m.status = .joined)
    (hhost : v'.row.hostDeviceId = device) : v'.Hosted := by
  constructor
  · intro m' hm'
    rw [hm] at hm'
    obtain ⟨m, hmem, rfl⟩ := List.mem_map.mp hm'
    rw [hdevice, hhost]
    exact hrole m hmem
  · obtain ⟨m, hmem, hdev, hst⟩ := hjoined
    refine ⟨f m, ?_, (hdevice m).trans (hdev.trans hhost.symm), (hstatus m).trans hst⟩
    rw [hm]
    exact List.mem_map_of_mem hmem

theorem participants_map_le (hm : v'.members = v.members.map f)
    (hjoined : ∀ m ∈ v.members, (f m).isJoined = true → m.isJoined = true)
    (hg : Fewer v.guests v'.guests) : v'.participants t ≤ v.participants t := by
  have hmembers : v'.members.countP MemberRow.isJoined ≤ v.members.countP MemberRow.isJoined := by
    rw [hm, List.countP_map]
    exact List.countP_mono_left fun m hmem => hjoined m hmem
  have hguests := hg.present t
  unfold RoomView.participants
  omega

/-- Nothing changes but presence. -/
theorem RoomStep.quiet (hrow : RowStep v.row v'.row)
    (hsequence : v'.row.commandSequence = v.row.commandSequence)
    (hplayback : v'.row.playbackState = v.row.playbackState)
    (hversion : v'.row.queueVersion = v.row.queueVersion)
    (hhost : v'.row.hostDeviceId = v.row.hostDeviceId) (hlive : v'.Live → v.Live)
    (hcommands : v'.commands = v.commands) (hqueue : v'.queue = v.queue)
    (hm : v'.members = v.members.map f) (hdevice : ∀ m, (f m).deviceId = m.deviceId)
    (hrole : ∀ m, (f m).role = m.role) (hstatus : ∀ m, (f m).status = m.status)
    (hg : Fewer v.guests v'.guests) : RoomStep asked now v v' where
  log := .quiet hcommands hsequence hplayback
  queue := .quiet hqueue hversion
  row := hrow
  hosted := fun h hl => (h (hlive hl)).map hm hdevice hrole
    (fun m _ hj => (hstatus m).trans hj) hhost
  participants := fun t _ h8 => by
    refine (participants_map_le (t := t) hm (fun m _ hj => ?_) hg).trans h8
    unfold MemberRow.isJoined at hj ⊢
    rw [← hstatus m]
    exact hj

/-- Member rows with the same devices, roles and statuses. -/
def SameMembers (ms ms' : List MemberRow) : Prop :=
  ∃ f : MemberRow → MemberRow, ms' = ms.map f ∧
    ∀ m, (f m).deviceId = m.deviceId ∧ (f m).role = m.role ∧ (f m).status = m.status

theorem SameMembers.refl (ms : List MemberRow) : SameMembers ms ms :=
  ⟨id, (List.map_id _).symm, fun _ => ⟨rfl, rfl, rfl⟩⟩

theorem SameMembers.touch {room device : Uuid} (ms : List MemberRow) :
    SameMembers ms (ms.map (touchRow room device now)) :=
  ⟨_, rfl, fun _ => ⟨touchRow_deviceId .., touchRow_role .., touchRow_status ..⟩⟩

/-- Two views that differ in nothing a step is about, but for guests that went. -/
structure Alike (v v' : RoomView) : Prop where
  commands : v'.commands = v.commands
  queue : v'.queue = v.queue
  members : SameMembers v.members v'.members
  guests : Fewer v.guests v'.guests
  sequence : v'.row.commandSequence = v.row.commandSequence
  playback : v'.row.playbackState = v.row.playbackState
  version : v'.row.queueVersion = v.row.queueVersion
  host : v'.row.hostDeviceId = v.row.hostDeviceId
  state : v'.row.state = v.row.state
  epoch : v'.row.roomEpoch = v.row.roomEpoch
  expiry : v'.row.expiresAt = v.row.expiresAt

theorem Alike.sorted (h : Alike v v') : v'.sorted = v.sorted := by
  unfold RoomView.sorted
  rw [h.queue]

theorem Alike.index (h : Alike v v') : v'.index = v.index := by
  unfold RoomView.index RoomView.named
  rw [h.sorted, h.commands]

theorem Alike.live (h : Alike v v') : v'.Live ↔ v.Live := by
  unfold RoomView.Live
  rw [h.state]

theorem Alike.hosted (h : Alike v v') : v'.Hosted ↔ v.Hosted := by
  obtain ⟨f, hm, hf⟩ := h.members
  constructor
  · intro hh
    constructor
    · intro m hmem
      have hrole := hh.role (f m) (hm ▸ List.mem_map_of_mem hmem)
      rwa [(hf m).1, (hf m).2.1, h.host] at hrole
    · obtain ⟨m', hmem', hd, hs⟩ := hh.joined
      rw [hm] at hmem'
      obtain ⟨m, hmem, rfl⟩ := List.mem_map.mp hmem'
      exact ⟨m, hmem, (hf m).1.symm.trans (hd.trans h.host), (hf m).2.2.symm.trans hs⟩
  · intro hh
    exact hh.map hm (fun m => (hf m).1) (fun m => (hf m).2.1) (fun m _ hj => (hf m).2.2.trans hj)
      h.host

theorem Alike.participants (h : Alike v v') : v'.participants t ≤ v.participants t := by
  obtain ⟨f, hm, hf⟩ := h.members
  refine participants_map_le hm (fun m _ hj => ?_) h.guests
  unfold MemberRow.isJoined at hj ⊢
  rw [← (hf m).2.2]
  exact hj

theorem Written.alike {c : CommandRow} (h : Alike v v') (hw : Written asked v' c) : Written asked v c := by
  cases hw with
  | lifecycle kind key names => exact .lifecycle kind (h.sequence ▸ key) names
  | start entry kind key names live =>
    exact .start entry kind (h.sequence ▸ key) names (h.queue ▸ live)
  | client q request key hash kind skip pause =>
    rw [h.sorted, h.index] at skip pause
    exact .client q request key hash kind skip pause

theorem RoomStep.before {v₁ : RoomView} (h : Alike v v₁) (s : RoomStep asked now v₁ v') :
    RoomStep asked now v v' where
  log := by
    cases s.log with
    | quiet commands sequence playback =>
      exact .quiet (commands.trans h.commands) (sequence.trans h.sequence)
        (playback.trans h.playback)
    | append c commands number sequence playback written =>
      rw [h.sequence] at number sequence
      rw [h.playback] at playback
      rw [h.commands] at commands
      exact .append c commands number sequence playback (written.alike h)
  queue := by
    cases s.queue with
    | quiet queue version => exact .quiet (queue.trans h.queue) (version.trans h.version)
    | append e queue position room version =>
      rw [h.queue] at queue position room
      rw [h.version] at version
      exact .append e queue position room version
  row := by
    obtain ⟨epoch, host, reopened, terminal, expiry⟩ := s.row
    rw [h.epoch] at epoch host reopened
    rw [h.host] at host
    rw [h.state] at reopened terminal
    exact ⟨epoch, host, reopened, terminal, expiry.trans h.expiry⟩
  hosted := fun hh => s.hosted fun hl => h.hosted.mpr (hh (h.live.mp hl))
  participants := fun t ht h8 => s.participants t ht (h.participants.trans h8)

theorem RoomStep.after {v₁ : RoomView} (s : RoomStep asked now v v₁) (h : Alike v₁ v') :
    RoomStep asked now v v' where
  log := by
    cases s.log with
    | quiet commands sequence playback =>
      exact .quiet (h.commands.trans commands) (h.sequence.trans sequence)
        (h.playback.trans playback)
    | append c commands number sequence playback written =>
      exact .append c (h.commands.trans commands) number (h.sequence.trans sequence)
        (h.playback.trans playback) written
  queue := by
    cases s.queue with
    | quiet queue version => exact .quiet (h.queue.trans queue) (h.version.trans version)
    | append e queue position room version =>
      exact .append e (h.queue.trans queue) position room (h.version.trans version)
  row := by
    obtain ⟨epoch, host, reopened, terminal, expiry⟩ := s.row
    rw [← h.epoch] at epoch host reopened
    rw [← h.host] at host
    rw [← h.state] at reopened terminal
    exact ⟨epoch, host, reopened, terminal, h.expiry.trans expiry⟩
  hosted := fun hh hl => h.hosted.mpr (s.hosted hh (h.live.mp hl))
  participants := fun t ht h8 => h.participants.trans (s.participants t ht h8)

theorem Alike.step (h : Alike v v') : RoomStep asked now v v' where
  log := .quiet h.commands h.sequence h.playback
  queue := .quiet h.queue h.version
  row := .same h.epoch h.host h.state h.expiry
  hosted := fun hh hl => h.hosted.mpr (hh (h.live.mp hl))
  participants := fun _ _ h8 => h.participants.trans h8

theorem Frame.alike {db db' : WaveDb} {r : Uuid} (h : Frame db db' r) (hv : db.view r = some v) :
    ∃ v', db'.view r = some v' ∧ Alike v v' := by
  obtain ⟨hrow, hc, hq, hm, hg⟩ := view_eq_some.mp hv
  refine ⟨{ v with guests := db'.guestsOf r }, view_eq_some.mpr ⟨h.row.trans hrow,
    h.commands.trans hc, h.queue.trans hq, h.members.trans hm, rfl⟩, ?_⟩
  exact ⟨rfl, rfl, .refl _, hg ▸ h.guests, rfl, rfl, rfl, rfl, rfl, rfl, rfl⟩

/-- A room that is only left alone first. -/
theorem StepAt.before {db db₁ db' : WaveDb} {r : Uuid} (h : Frame db db₁ r)
    (s : StepAt asked now db₁ db' r) : StepAt asked now db db' r := by
  have hnone : db₁.view r = none → db.view r = none := fun hn =>
    view_eq_none.mpr (h.row.symm.trans (view_eq_none.mp hn))
  cases s with
  | absent before after blank => exact .absent (hnone before) after fun hb => blank (h.blank hb)
  | created p v before after initial =>
    exact .created p v (hnone before) after fun hb => initial (h.blank hb)
  | stepped v₁ v' before after step =>
    cases hv : db.view r with
    | none =>
      have := view_eq_none.mpr (h.row.trans (view_eq_none.mp hv))
      rw [this] at before
      cases before
    | some v =>
      obtain ⟨v₂, hv₂, ha⟩ := h.alike hv
      have hsame : v₂ = v₁ := Option.some.inj (hv₂.symm.trans before)
      subst hsame
      exact .stepped v v' hv after (step.before ha)

/-- A room that is only left alone afterwards. -/
theorem StepAt.after {db db₁ db' : WaveDb} {r : Uuid} (s : StepAt asked now db db₁ r)
    (h : Frame db₁ db' r) : StepAt asked now db db' r := by
  cases s with
  | absent before after blank =>
    exact .absent before (view_eq_none.mpr (h.row.trans (view_eq_none.mp after)))
      fun hb => h.blank (blank hb)
  | created p v before after initial =>
    obtain ⟨hrow, hc, hq, hm, hg⟩ := view_eq_some.mp after
    refine .created p { v with guests := db'.guestsOf r } before (view_eq_some.mpr
      ⟨h.row.trans hrow, h.commands.trans hc, h.queue.trans hq, h.members.trans hm, rfl⟩) fun hb => ?_
    have hi := initial hb
    exact ⟨hi.commands, hi.queue, h.guests.empty (hg.trans hi.guests), hi.member, hi.sequence,
      hi.version, hi.playback⟩
  | stepped v v₁ before after step =>
    obtain ⟨v', hv', ha⟩ := h.alike after
    exact .stepped v v' before hv' (step.after ha)

theorem Frame.stepAt {db db' : WaveDb} {r : Uuid} (h : Frame db db' r) : StepAt asked now db db' r := by
  cases hv : db.view r with
  | none =>
    exact .absent hv (view_eq_none.mpr (h.row.trans (view_eq_none.mp hv))) h.blank
  | some v =>
    obtain ⟨hrow, hc, hq, hm, hg⟩ := view_eq_some.mp hv
    refine .stepped v { v with guests := db'.guestsOf r } hv (view_eq_some.mpr ⟨h.row.trans hrow,
      h.commands.trans hc, h.queue.trans hq, h.members.trans hm, rfl⟩) ?_
    exact .quiet (f := id) (.refl _) rfl rfl rfl rfl id rfl rfl (List.map_id _).symm (fun _ => rfl)
      (fun _ => rfl) (fun _ => rfl) (hg ▸ h.guests)

end

/-! ## rows of members, and lifecycle commands -/

/-- The kinds that the server appends itself. -/
def CommandKind.isLifecycle : CommandKind → Bool
  | .pause | .transfer | .close | .leave | .expire => true
  | .play | .seek | .skip | .queue | .startAborted => false

/-- A member row after its device left. -/
def leftRow (room device : Uuid) (now : Instant) (m : MemberRow) : MemberRow :=
  if decide (m.roomId = room ∧ m.deviceId = device) = true then
    { m with status := .left, leftAt := some now }
  else m

/-- A member row after a device became the host. -/
def roleRow (room device : Uuid) (m : MemberRow) : MemberRow :=
  if decide (m.roomId = room) = true then
    { m with role := if m.deviceId = device then .host else .member }
  else m

section
variable {env : WaveEnv} {db db' : WaveDb} {room r : Uuid} {p : Principal} {now stmt : Instant}
  {value : WaveRoom} {v v' : RoomView} {asked : Option (Uuid × CommandRequest)}

theorem leftRow_deviceId (device : Uuid) (m : MemberRow) :
    (leftRow room device now m).deviceId = m.deviceId := by
  unfold leftRow
  split
  · rfl
  · rfl

theorem leftRow_role (device : Uuid) (m : MemberRow) :
    (leftRow room device now m).role = m.role := by
  unfold leftRow
  split
  · rfl
  · rfl

theorem leftRow_isJoined {device : Uuid} {m : MemberRow}
    (h : (leftRow room device now m).isJoined = true) : m.isJoined = true := by
  unfold leftRow at h
  split at h
  · cases h
  · exact h

theorem roleRow_deviceId (device : Uuid) (m : MemberRow) :
    (roleRow room device m).deviceId = m.deviceId := by
  unfold roleRow
  split
  · rfl
  · rfl

theorem roleRow_status (device : Uuid) (m : MemberRow) :
    (roleRow room device m).status = m.status := by
  unfold roleRow
  split
  · rfl
  · rfl

theorem roleRow_role {device : Uuid} {m : MemberRow} (hm : m.roomId = room) :
    (roleRow room device m).role = .host ↔ m.deviceId = device := by
  unfold roleRow
  rw [if_pos (decide_eq_true hm)]
  show (if m.deviceId = device then MemberRole.host else MemberRole.member) = .host ↔ _
  split
  · rename_i hd
    exact ⟨fun _ => hd, fun _ => rfl⟩
  · rename_i hd
    refine ⟨fun h => ?_, fun h => absurd h hd⟩
    cases h

theorem touchRow_isJoined {device : Uuid} {m : MemberRow}
    (h : (touchRow room device now m).isJoined = true) : m.isJoined = true := by
  unfold MemberRow.isJoined at h ⊢
  rwa [touchRow_status] at h

theorem view_setLeft (device : Uuid) (now : Instant) (hv : db.view room = some v) :
    (setLeft db room device now).view room =
      some { v with members := v.members.map (leftRow room device now) } :=
  view_updateMembers _ _ _ _ hv

theorem frame_setLeft (db : WaveDb) (device : Uuid) (now : Instant) (hr : r ≠ room) :
    Frame db (setLeft db room device now) r :=
  frame_updateMembers db _ _ _ _ fun _ hm => (of_decide_eq_true hm).1 ▸ hr.symm

theorem view_setHostRole (device : Uuid) (hv : db.view room = some v) :
    (setHostRole db room device).view room =
      some { v with members := v.members.map (roleRow room device) } :=
  view_updateMembers _ _ _ _ hv

theorem frame_setHostRole (db : WaveDb) (device : Uuid) (hr : r ≠ room) :
    Frame db (setHostRole db room device) r :=
  frame_updateMembers db _ _ _ _ fun _ hm => of_decide_eq_true hm ▸ hr.symm

theorem written_lifecycle {row : RoomRow} {user device : Uuid} {kind : CommandKind}
    {document : Payload} (hk : kind.isLifecycle = true)
    (hd : document.lookup "queue_entry_id" = none) (hrow : row = v.row) :
    Written asked v (lifecycleCommand env row user device kind document now) := by
  subst hrow
  refine .lifecycle ?_ rfl ?_
  · show kind = _ ∨ kind = _ ∨ kind = _ ∨ kind = _ ∨ kind = _
    cases kind with
    | pause => exact Or.inl rfl
    | transfer => exact Or.inr (Or.inl rfl)
    | close => exact Or.inr (Or.inr (Or.inl rfl))
    | leave => exact Or.inr (Or.inr (Or.inr (Or.inl rfl)))
    | expire => exact Or.inr (Or.inr (Or.inr (Or.inr rfl)))
    | play => cases hk
    | seek => cases hk
    | skip => cases hk
    | queue => cases hk
    | startAborted => cases hk
  · show namedEntry (lifecycleCommand env v.row user device kind document now) = none
    have hnone : (lifecycleCommand env v.row user device kind document now).commandDocument.lookup
        "queue_entry_id" = none := hd
    unfold namedEntry
    rw [hnone]

/-- A lifecycle command in the log. -/
theorem LogStep.lifecycle {user device : Uuid} {kind : CommandKind} {document : Payload}
    (hk : kind.isLifecycle = true) (hd : document.lookup "queue_entry_id" = none)
    (hc : v'.commands = v.commands ++ [lifecycleCommand env v.row user device kind document now])
    (hs : v'.row.commandSequence = v.row.commandSequence + 1)
    (hp : v'.row.playbackState = playbackAfter kind v.row.playbackState) : LogStep asked v v' :=
  .append _ hc rfl hs hp (written_lifecycle hk hd rfl)

/-- Nobody joins, and the queue stays. -/
theorem RoomStep.mapped {f : MemberRow → MemberRow} (hlog : LogStep asked v v')
    (hrow : RowStep v.row v'.row) (hversion : v'.row.queueVersion = v.row.queueVersion)
    (hqueue : v'.queue = v.queue) (hm : v'.members = v.members.map f)
    (hjoined : ∀ m, (f m).isJoined = true → m.isJoined = true) (hg : Fewer v.guests v'.guests)
    (hosted : (v.Live → v.Hosted) → v'.Live → v'.Hosted) : RoomStep asked now v v' where
  log := hlog
  queue := .quiet hqueue hversion
  row := hrow
  hosted := hosted
  participants := fun _ _ h8 => (participants_map_le hm (fun m _ => hjoined m) hg).trans h8

/-- A live room is closed or expires. -/
theorem RoomStep.closing {f : MemberRow → MemberRow} (hlog : LogStep asked v v')
    (hrow : RowStep v.row v'.row) (hstate : v'.row.state = .closed ∨ v'.row.state = .expired)
    (hversion : v'.row.queueVersion = v.row.queueVersion) (hqueue : v'.queue = v.queue)
    (hm : v'.members = v.members.map f) (hjoined : ∀ m, (f m).isJoined = true → m.isJoined = true)
    (hg : Fewer v.guests v'.guests) : RoomStep asked now v v' := by
  refine .mapped hlog hrow hversion hqueue hm hjoined hg fun _ hl => ?_
  rcases hstate with hs | hs
  · rcases hl with hl | hl
    · cases hs.symm.trans hl
    · cases hs.symm.trans hl
  · rcases hl with hl | hl
    · cases hs.symm.trans hl
    · cases hs.symm.trans hl

theorem Visited.view {row : RoomRow} {db₁ : WaveDb} (h : Visited db room p now row value db₁) :
    db.view room = some ⟨row, db.commandsOf room, db.liveQueue room, db.membersOf room,
      db.guestsOf room⟩ :=
  view_eq_some.mpr ⟨h.found, rfl, rfl, rfl, rfl⟩

theorem mem_membersOf {m : MemberRow} : m ∈ db.membersOf room ↔ m ∈ db.members ∧ m.roomId = room := by
  unfold WaveDb.membersOf
  rw [List.mem_filter]
  exact and_congr Iff.rfl decide_eq_true_iff

/-- A live room passes to a joined device, in a new epoch. -/
theorem RoomStep.handover {f : MemberRow → MemberRow} (device : Uuid) (hlog : LogStep asked v v')
    (hrow : RowStep v.row v'.row) (hhost : v'.row.hostDeviceId = device)
    (hversion : v'.row.queueVersion = v.row.queueVersion) (hqueue : v'.queue = v.queue)
    (hm : v'.members = v.members.map f) (hdevice : ∀ m, (f m).deviceId = m.deviceId)
    (hrole : ∀ m ∈ v.members, (f m).role = .host ↔ m.deviceId = device)
    (hstatus : ∀ m, (f m).status = m.status)
    (hjoined : ∃ m ∈ v.members, m.deviceId = device ∧ m.status = .joined)
    (hg : Fewer v.guests v'.guests) : RoomStep asked now v v' := by
  refine .mapped hlog hrow hversion hqueue hm (fun m hj => ?_) hg
    fun _ _ => .handover hm hdevice hrole hstatus hjoined hhost
  unfold MemberRow.isJoined at hj ⊢
  rw [← hstatus m]
  exact hj

end

end AutPlay.Wave
