import AutPlay.Wave.Steps

/-!
# Steps of the lifecycle operations

Leaving, closing, handing over, recovering and expiring a room: each does to every room what `StepAt`
lists.
-/

set_option linter.unusedSectionVars false

namespace AutPlay.Wave
open Sync (Uuid Json Payload)
open Table (mem_def)

section
variable {env : WaveEnv} {db db' : WaveDb} {room r : Uuid} {p : Principal} {now stmt : Instant}
  {value : WaveRoom} {v v' : RoomView} {asked : Option (Uuid × CommandRequest)}

theorem leave_step (h : leave env db room p now stmt = .ok db') (r : Uuid) :
    StepAt asked now db db' r := by
  obtain ⟨⟨value, db₁⟩, hsnap, h₁⟩ := Result.bind_eq_ok.mp h
  obtain ⟨row₁, hrow₁, h₂⟩ := Result.bind_eq_ok.mp h₁
  obtain ⟨u, -, h₃⟩ := Result.bind_eq_ok.mp h₂
  obtain ⟨db₂, happ, hend⟩ := Result.bind_eq_ok.mp h₃
  obtain ⟨row, hv⟩ := readSnapshot_ok hsnap
  have hdb₁ : db₁ = touched db room p.deviceId now := hv.touched
  subst hdb₁
  have hsame : row₁ = row := Option.some.inj ((one_ok.mp hrow₁).symm.trans hv.found)
  subst hsame
  by_cases hr : r = room
  · subst hr
    have hview : db.view r = some ⟨row₁, db.commandsOf r, db.liveQueue r, db.membersOf r,
      db.guestsOf r⟩ := view_eq_some.mpr ⟨hv.found, rfl, rfl, rfl, rfl⟩
    have hview₂ := view_setLeft p.deviceId now
      (view_appendLifecycleCommand happ (view_touched p.deviceId hview))
    by_cases hhost : p.deviceId = row₁.hostDeviceId
    · -- the host closes the room
      simp only [if_pos hhost, if_true] at happ hend hview₂
      cases hend
      obtain ⟨guests, hg, hview₃⟩ := view_updateRoomState (closeRoom now) stmt (fun _ => rfl)
        (fun _ => rfl) hview₂
      refine .stepped _ _ hview hview₃ (.closing (f := leftRow r p.deviceId now ∘
        touchRow r p.deviceId now) (.lifecycle rfl rfl rfl rfl rfl)
        (.leaving hv.live rfl rfl (fun hs => by cases hs) rfl) (Or.inl rfl) rfl rfl
        (List.map_map ..) (fun m hj => touchRow_isJoined (leftRow_isJoined hj)) hg)
    · simp only [if_neg hhost, reduceCtorEq, if_false] at happ hend hview₂
      cases hend
      refine .stepped _ _ hview hview₂ (.mapped (f := leftRow r p.deviceId now ∘
        touchRow r p.deviceId now) (.lifecycle rfl rfl rfl rfl rfl) (.same rfl rfl rfl rfl) rfl rfl
        (List.map_map ..) (fun m hj => touchRow_isJoined (leftRow_isJoined hj)) (.refl _)
        fun hh hl => (hh hl).map (List.map_map ..) (fun m => ?_) (fun m => ?_)
          (fun m hd hj => ?_) rfl)
      · exact (leftRow_deviceId ..).trans (touchRow_deviceId ..)
      · exact (leftRow_role ..).trans (touchRow_role ..)
      · show (leftRow r p.deviceId now (touchRow r p.deviceId now m)).status = .joined
        unfold leftRow
        rw [if_neg fun hp => ?_, touchRow_status]
        · exact hj
        · have hdev := (of_decide_eq_true hp).2
          rw [touchRow_deviceId] at hdev
          exact hhost (hdev.symm.trans hd)
  · have hf := ((frame_touched db p.deviceId now hr).trans
      (frame_appendLifecycleCommand happ hr)).trans (frame_setLeft db₂ p.deviceId now hr)
    by_cases hhost : p.deviceId = row₁.hostDeviceId
    · simp only [if_pos hhost, if_true] at happ hend
      cases hend
      exact (hf.trans (frame_updateRoomState _ _ _ _ _ hr)).stepAt
    · simp only [if_neg hhost, reduceCtorEq, if_false] at happ hend
      cases hend
      exact hf.stepAt

theorem close_step (h : close env db room p now stmt = .ok db') (r : Uuid) :
    StepAt asked now db db' r := by
  obtain ⟨⟨value, db₁⟩, hhost, h₁⟩ := Result.bind_eq_ok.mp h
  obtain ⟨db₂, happ, hend⟩ := Result.bind_eq_ok.mp h₁
  cases hend
  obtain ⟨row, hv, hopen, -⟩ := requireHost_ok hhost
  have hdb₁ : db₁ = touched db room p.deviceId now := hv.touched
  subst hdb₁
  by_cases hr : r = room
  · subst hr
    obtain ⟨guests, hg, hview⟩ := view_updateRoomState (closeRoom now) stmt (fun _ => rfl)
      (fun _ => rfl) (view_appendLifecycleCommand happ (view_touched p.deviceId hv.view))
    exact .stepped _ _ hv.view hview (.closing (.lifecycle rfl rfl rfl rfl rfl)
      (.leaving hv.live rfl rfl (fun hs => by cases hs) rfl) (Or.inl rfl) rfl rfl rfl
      (fun m hj => touchRow_isJoined hj) hg)
  · exact (((frame_touched db p.deviceId now hr).trans
      (frame_appendLifecycleCommand happ hr)).trans (frame_updateRoomState _ _ _ _ _ hr)).stepAt

theorem transferHost_step {target : Uuid} (h : transferHost env db room p target now = .ok db')
    (r : Uuid) : StepAt asked now db db' r := by
  obtain ⟨⟨value, db₁⟩, hhost, h₁⟩ := Result.bind_eq_ok.mp h
  obtain ⟨row, hv, hopen, -⟩ := requireHost_ok hhost
  have hdb₁ : db₁ = touched db room p.deviceId now := hv.touched
  subst hdb₁
  dsimp only at h₁
  split at h₁
  · cases h₁
  · rename_i m hm
    obtain ⟨db₂, happ, hend⟩ := Result.bind_eq_ok.mp h₁
    cases hend
    by_cases hr : r = room
    · subst hr
      have hview := view_setHostRole target (view_updateRoom (fun row => { row with
        hostUserId := m.userId, hostDeviceId := target, roomEpoch := row.roomEpoch + 1 })
        (fun _ => rfl) (fun _ => rfl)
        (view_appendLifecycleCommand happ (view_touched p.deviceId hv.view)))
      obtain ⟨hfind, hm⟩ := Option.filter_eq_some_iff.mp hm
      obtain ⟨-, hjoined, -, -⟩ := of_decide_eq_true hm
      have hkey : (m.roomId, m.deviceId) = (r, target) := Table.key_of_find hfind
      obtain ⟨m₀, hm₀, rfl⟩ := mem_touched.mp (Table.mem_of_find hfind)
      refine .stepped _ _ hv.view hview (.handover (f := roleRow r target ∘
        touchRow r p.deviceId now) target (.lifecycle rfl rfl rfl rfl rfl)
        (.renewed hv.live rfl rfl) rfl rfl rfl (List.map_map ..) (fun m => ?_)
        (fun m hmem => ?_) (fun m => ?_) ⟨m₀, ?_, ?_, ?_⟩ (.refl _))
      · exact (roleRow_deviceId ..).trans (touchRow_deviceId ..)
      · show (roleRow r target (touchRow r p.deviceId now m)).role = .host ↔ _
        rw [roleRow_role ((touchRow_roomId ..).trans (mem_membersOf.mp hmem).2), touchRow_deviceId]
      · exact (roleRow_status ..).trans (touchRow_status ..)
      · exact mem_membersOf.mpr ⟨hm₀, (touchRow_roomId ..).symm.trans (congrArg Prod.fst hkey)⟩
      · exact (touchRow_deviceId ..).symm.trans (congrArg Prod.snd hkey)
      · exact (touchRow_status ..).symm.trans hjoined
    · exact (((frame_touched db p.deviceId now hr).trans
        (frame_appendLifecycleCommand happ hr)).trans (frame_updateRoom _ _ _ _ hr)).trans
        (frame_setHostRole _ _ hr) |>.stepAt

/-! Recovery: the host is back, nobody can take over, or a member is elected. -/

theorem electHost_some {m : MemberRow} (h : electHost db room now = some m) :
    m ∈ db.membersOf room ∧ m.status = .joined := by
  have hm : m ∈ _ := List.mem_of_mem_head? (Option.mem_def.mpr h)
  have hf := (List.mem_insertionSort _).mp hm
  obtain ⟨hmem, hp⟩ := List.mem_filter.mp hf
  exact ⟨hmem, (of_decide_eq_true hp).1⟩

theorem hostReturned_step {row : RoomRow} {o : Option Uuid} (hv : db.view room = some v)
    (hrow : row.roomId = room) (hlive : v.Live)
    (h : hostReturned env db row now stmt = .ok (o, db')) :
    ∃ v', db'.view room = some v' ∧ RoomStep asked now v v' := by
  unfold hostReturned at h
  split at h
  · obtain ⟨db₁, happ, hend⟩ := Result.bind_eq_ok.mp h
    cases hend
    rw [hrow] at happ ⊢
    obtain ⟨guests, hg, hview⟩ := view_updateRoomState (fun r => { r with
      hostLostAt := none, state := .opened, roomEpoch := r.roomEpoch + 1 }) stmt (fun _ => rfl)
      (fun _ => rfl) (view_appendLifecycleCommand happ hv)
    refine ⟨_, hview, .mapped (f := id) (.lifecycle rfl rfl rfl rfl rfl) (.renewed hlive rfl rfl)
      rfl rfl (List.map_id _).symm (fun _ => id) hg fun hh _ => (hh hlive).map (f := id)
        (List.map_id _).symm (fun _ => rfl) (fun _ => rfl) (fun _ _ => id) rfl⟩
  · cases h
    exact ⟨v, hv, .quiet (f := id) (.refl _) rfl rfl rfl rfl id rfl rfl (List.map_id _).symm
      (fun _ => rfl) (fun _ => rfl) (fun _ => rfl) (.refl _)⟩

theorem hostReturned_frame {row : RoomRow} {o : Option Uuid} (hr : r ≠ row.roomId)
    (h : hostReturned env db row now stmt = .ok (o, db')) : Frame db db' r := by
  unfold hostReturned at h
  split at h
  · obtain ⟨db₁, happ, hend⟩ := Result.bind_eq_ok.mp h
    cases hend
    exact (frame_appendLifecycleCommand happ hr).trans (frame_updateRoomState _ _ _ _ _ hr)
  · cases h
    exact .refl ..

theorem orphanRoom_step {row : RoomRow} {o : Option Uuid} (hv : db.view room = some v)
    (hrow : row.roomId = room) (hlive : v.Live)
    (h : orphanRoom env db row now stmt = .ok (o, db')) :
    ∃ v', db'.view room = some v' ∧ RoomStep asked now v v' := by
  unfold orphanRoom at h
  split at h
  · cases h
    exact ⟨v, hv, .quiet (f := id) (.refl _) rfl rfl rfl rfl id rfl rfl (List.map_id _).symm
      (fun _ => rfl) (fun _ => rfl) (fun _ => rfl) (.refl _)⟩
  · obtain ⟨db₁, happ, hend⟩ := Result.bind_eq_ok.mp h
    cases hend
    rw [hrow] at happ ⊢
    obtain ⟨guests, hg, hview⟩ := view_updateRoomState (fun r => { r with
      state := .orphaned, playbackState := .paused }) stmt (fun _ => rfl) (fun _ => rfl)
      (view_appendLifecycleCommand happ hv)
    refine ⟨_, hview, .mapped (f := id) (.lifecycle rfl rfl rfl rfl rfl)
      (.leaving hlive rfl rfl (fun hs => by cases hs) rfl) rfl rfl (List.map_id _).symm
      (fun _ => id) hg fun hh _ => (hh hlive).map (f := id) (List.map_id _).symm (fun _ => rfl)
        (fun _ => rfl) (fun _ _ => id) rfl⟩

theorem orphanRoom_frame {row : RoomRow} {o : Option Uuid} (hr : r ≠ row.roomId)
    (h : orphanRoom env db row now stmt = .ok (o, db')) : Frame db db' r := by
  unfold orphanRoom at h
  split at h
  · cases h
    exact .refl ..
  · obtain ⟨db₁, happ, hend⟩ := Result.bind_eq_ok.mp h
    cases hend
    exact (frame_appendLifecycleCommand happ hr).trans (frame_updateRoomState _ _ _ _ _ hr)

theorem promote_step {row : RoomRow} {winner : MemberRow} {o : Option Uuid}
    (hv : db.view room = some v) (hrow : row.roomId = room) (hlive : v.Live)
    (hw : winner ∈ v.members ∧ winner.status = .joined)
    (h : promote env db row winner now stmt = .ok (o, db')) :
    ∃ v', db'.view room = some v' ∧ RoomStep asked now v v' := by
  obtain ⟨db₁, happ, hend⟩ := Result.bind_eq_ok.mp h
  cases hend
  rw [hrow] at happ ⊢
  obtain ⟨guests, hg, hview⟩ := view_updateRoomState (fun r => { r with
    hostUserId := winner.userId, hostDeviceId := winner.deviceId, hostLostAt := none,
    state := .opened, roomEpoch := r.roomEpoch + 1 }) stmt (fun _ => rfl) (fun _ => rfl)
    (view_appendLifecycleCommand happ hv)
  have hmembers : ∀ m ∈ v.members, m.roomId = room := by
    intro m hm
    rw [← (view_eq_some.mp hv).2.2.2.1] at hm
    exact (mem_membersOf.mp hm).2
  exact ⟨_, view_setHostRole winner.deviceId hview, .handover (f := roleRow room winner.deviceId)
    winner.deviceId (.lifecycle rfl rfl rfl rfl rfl) (.renewed hlive rfl rfl) rfl rfl rfl
    rfl (fun m => roleRow_deviceId ..) (fun m hm => roleRow_role (hmembers m hm))
    (fun m => roleRow_status ..) ⟨winner, hw.1, rfl, hw.2⟩ hg⟩

theorem promote_frame {row : RoomRow} {winner : MemberRow} {o : Option Uuid} (hr : r ≠ row.roomId)
    (h : promote env db row winner now stmt = .ok (o, db')) : Frame db db' r := by
  obtain ⟨db₁, happ, hend⟩ := Result.bind_eq_ok.mp h
  cases hend
  exact ((frame_appendLifecycleCommand happ hr).trans (frame_updateRoomState _ _ _ _ _ hr)).trans
    (frame_setHostRole _ _ hr)

/-- The loss of a host is noted. -/
theorem alike_hostLost (f : RoomRow → Option Instant) (v : RoomView) :
    Alike v { v with row := { v.row with hostLostAt := f v.row } } :=
  ⟨rfl, rfl, .refl _, .refl _, rfl, rfl, rfl, rfl, rfl, rfl, rfl⟩

theorem recoverHost_step {o : Option Uuid} (h : recoverHost env db room now stmt = .ok (o, db'))
    (r : Uuid) : StepAt asked now db db' r := by
  obtain ⟨row, hone, h₁⟩ := Result.bind_eq_ok.mp h
  obtain ⟨hfound, hstate⟩ := Option.filter_eq_some_iff.mp (one_ok.mp hone)
  have hlive := of_decide_eq_true hstate
  have hkey : row.roomId = room := Table.key_of_find hfound
  have hview : db.view room = some ⟨row, db.commandsOf room, db.liveQueue room, db.membersOf room,
    db.guestsOf room⟩ := view_eq_some.mpr ⟨hfound, rfl, rfl, rfl, rfl⟩
  split at h₁
  · by_cases hr : r = room
    · subst hr
      obtain ⟨v', hv', hstep⟩ := hostReturned_step hview hkey hlive h₁
      exact .stepped _ _ hview hv' hstep
    · exact (hostReturned_frame (by rwa [hkey]) h₁).stepAt
  · have hlost := view_updateRoom (fun r => { r with hostLostAt := some (r.hostLostAt.getD now) })
      (fun _ => rfl) (fun _ => rfl) hview
    have halike := alike_hostLost (fun r => some (r.hostLostAt.getD now))
      ⟨row, db.commandsOf room, db.liveQueue room, db.membersOf room, db.guestsOf room⟩
    dsimp only at h₁
    split at h₁
    · cases h₁
      by_cases hr : r = room
      · subst hr
        refine .stepped _ _ hview hlost (.before halike ?_)
        exact .quiet (f := id) (.refl _) rfl rfl rfl rfl id rfl rfl (List.map_id _).symm
          (fun _ => rfl) (fun _ => rfl) (fun _ => rfl) (.refl _)
      · exact (frame_updateRoom _ _ _ _ hr).stepAt
    · split at h₁
      · by_cases hr : r = room
        · subst hr
          obtain ⟨v', hv', hstep⟩ := orphanRoom_step hlost hkey hlive h₁
          exact .stepped _ _ hview hv' (.before halike hstep)
        · exact ((frame_updateRoom _ _ _ _ hr).trans (orphanRoom_frame (by rwa [hkey]) h₁)).stepAt
      · rename_i winner hwinner
        by_cases hr : r = room
        · subst hr
          obtain ⟨v', hv', hstep⟩ := promote_step hlost hkey hlive (electHost_some hwinner) h₁
          exact .stepped _ _ hview hv' (.before halike hstep)
        · exact ((frame_updateRoom _ _ _ _ hr).trans (promote_frame (by rwa [hkey]) h₁)).stepAt

/-! Expiry: each due room once. -/

theorem expireRoom_frame {row : RoomRow} (hr : r ≠ row.roomId)
    (h : expireRoom env now stmt db row = .ok db') : Frame db db' r := by
  obtain ⟨db₁, happ, hend⟩ := Result.bind_eq_ok.mp h
  cases hend
  exact (frame_appendLifecycleCommand happ hr).trans (frame_updateRoomState _ _ _ _ _ hr)

theorem expireRoom_step {row : RoomRow} (hv : db.view row.roomId = some v) (hlive : v.Live)
    (h : expireRoom env now stmt db row = .ok db') :
    ∃ v', db'.view row.roomId = some v' ∧ RoomStep asked now v v' := by
  obtain ⟨db₁, happ, hend⟩ := Result.bind_eq_ok.mp h
  cases hend
  obtain ⟨guests, hg, hview⟩ := view_updateRoomState (fun r => { r with
    state := .expired, playbackState := .paused, closedAt := some now }) stmt (fun _ => rfl)
    (fun _ => rfl) (view_appendLifecycleCommand happ hv)
  exact ⟨_, hview, .closing (f := id) (.lifecycle rfl rfl rfl rfl rfl)
    (.leaving hlive rfl rfl (fun hs => by cases hs) rfl) (Or.inr rfl) rfl rfl (List.map_id _).symm
    (fun _ => id) hg⟩

theorem expireRooms_frame {due : List RoomRow} (hr : ∀ row ∈ due, r ≠ row.roomId)
    (h : due.foldlM (expireRoom env now stmt) db = .ok db') : Frame db db' r := by
  induction due generalizing db with
  | nil =>
    cases h
    exact .refl ..
  | cons row due ih =>
    rw [List.foldlM_cons] at h
    obtain ⟨db₁, h₁, h₂⟩ := Result.bind_eq_ok.mp h
    exact (expireRoom_frame (hr row (List.mem_cons_self ..)) h₁).trans
      (ih (fun x hx => hr x (List.mem_cons_of_mem _ hx)) h₂)

theorem expireRooms_step {due : List RoomRow} (hd : (due.map RoomRow.roomId).Nodup)
    (hlive : ∀ row ∈ due, db.rooms.find row.roomId = some row ∧
      (row.state = .opened ∨ row.state = .orphaned))
    (h : due.foldlM (expireRoom env now stmt) db = .ok db') (r : Uuid) : StepAt asked now db db' r := by
  induction due generalizing db with
  | nil =>
    cases h
    exact (Frame.refl ..).stepAt
  | cons row due ih =>
    rw [List.map_cons, List.nodup_cons] at hd
    rw [List.foldlM_cons] at h
    obtain ⟨db₁, h₁, h₂⟩ := Result.bind_eq_ok.mp h
    obtain ⟨hfound, hstate⟩ := hlive row (List.mem_cons_self ..)
    have hne : ∀ x ∈ due, x.roomId ≠ row.roomId := fun x hx he =>
      hd.1 (he ▸ List.mem_map_of_mem hx)
    by_cases hr : r = row.roomId
    · subst hr
      have hview : db.view row.roomId = some ⟨row, db.commandsOf _, db.liveQueue _, db.membersOf _,
        db.guestsOf _⟩ := view_eq_some.mpr ⟨hfound, rfl, rfl, rfl, rfl⟩
      obtain ⟨v₁, hv₁, hstep⟩ := expireRoom_step hview hstate h₁
      obtain ⟨v', hv', ha⟩ := (expireRooms_frame (fun x hx => (hne x hx).symm) h₂).alike hv₁
      exact .stepped _ _ hview hv' (hstep.after ha)
    · refine .before (expireRoom_frame hr h₁) (ih hd.2 (fun x hx => ?_) h₂)
      obtain ⟨hf, hs⟩ := hlive x (List.mem_cons_of_mem _ hx)
      exact ⟨(expireRoom_frame (hne x hx) h₁).row.trans hf, hs⟩

theorem mem_dueRooms {limit : Nat} {row : RoomRow} (h : row ∈ dueRooms db now limit) :
    row ∈ db.rooms ∧ (row.state = .opened ∨ row.state = .orphaned) ∧ row.expiresAt ≤ now := by
  have hm := (List.mem_insertionSort _).mp (List.mem_of_mem_take h)
  obtain ⟨hmem, hp⟩ := List.mem_filter.mp hm
  exact ⟨hmem, of_decide_eq_true hp⟩

theorem dueRooms_nodup (db : WaveDb) (now : Instant) (limit : Nat) :
    ((dueRooms db now limit).map RoomRow.roomId).Nodup := by
  unfold dueRooms
  refine ((List.take_sublist ..).map RoomRow.roomId).nodup ?_
  rw [((List.perm_insertionSort _ _).map RoomRow.roomId).nodup_iff]
  exact (List.filter_sublist.map _).nodup db.rooms.nodup

theorem expireDue_step {limit : Int} {n : Nat} (h : expireDue env db now limit stmt = .ok (n, db'))
    (r : Uuid) : StepAt asked now db db' r := by
  obtain ⟨u, -, h₁⟩ := Result.bind_eq_ok.mp h
  obtain ⟨db₁, hfold, hend⟩ := Result.bind_eq_ok.mp h₁
  cases hend
  refine expireRooms_step (dueRooms_nodup ..) (fun row hrow => ?_) hfold r
  obtain ⟨hmem, hstate, -⟩ := mem_dueRooms hrow
  exact ⟨Table.find_mem hmem, hstate⟩

end

end AutPlay.Wave
