import AutPlay.Wave.Guest
import AutPlay.Wave.Steps

/-!
# Steps of those who come in

A room is created, and devices come in: by its code, or by an invitation.

* `Admission`            a device among the members of a room;
* `join_step`, `acceptInvitation_step`, `create_step`   what these do to every room;
* `preflight_step`, `timing_step`   the reports of a member.
-/

set_option linter.unusedSectionVars false

namespace AutPlay.Wave
open Sync (Uuid Json Payload)
open Table (mem_def)

/-! ## admissions -/

/-- **A device is admitted**: by a new row, or by the row that it has. -/
inductive Admission (d : Uuid) (ms ms' : List MemberRow) : Prop
  | inserted (m : MemberRow) (members : ms' = ms ++ [m]) (device : m.deviceId = d)
      (role : m.role = .member) (new : ∀ m' ∈ ms, m'.deviceId ≠ d)
  | updated (f : MemberRow → MemberRow) (members : ms' = ms.map f)
      (device : ∀ m, (f m).deviceId = m.deviceId) (role : ∀ m, (f m).role = m.role)
      (joined : ∀ m ∈ ms, m.deviceId = d → (f m).status = .joined)
      (other : ∀ m, m.deviceId ≠ d → f m = m)

section
variable {d : Uuid} {v v' : RoomView} {ms ms' : List MemberRow} {now t : Instant}
  {asked : Option (Uuid × CommandRequest)}

theorem Admission.hosted (h : Admission d v.members v'.members)
    (hhost : v'.row.hostDeviceId = v.row.hostDeviceId) (hh : v.Hosted) : v'.Hosted := by
  obtain ⟨hm, hmem, hdev, hst⟩ := hh.joined
  cases h with
  | inserted m members device role new =>
    have hne : m.deviceId ≠ v.row.hostDeviceId := by
      intro he
      exact new hm hmem (hdev.trans (he.symm.trans device))
    constructor
    · intro m' hm'
      rw [members] at hm'
      rw [hhost]
      rcases List.mem_append.mp hm' with hold | hnew
      · exact hh.role m' hold
      · rw [List.mem_singleton.mp hnew, role]
        refine ⟨fun hr => ?_, fun he => absurd he hne⟩
        cases hr
    · refine ⟨hm, ?_, hdev.trans hhost.symm, hst⟩
      rw [members]
      exact List.mem_append_left _ hmem
  | updated f members device role joined other =>
    constructor
    · intro m' hm'
      rw [members] at hm'
      obtain ⟨m, hmem', rfl⟩ := List.mem_map.mp hm'
      rw [role, device, hhost]
      exact hh.role m hmem'
    · refine ⟨f hm, ?_, (device hm).trans (hdev.trans hhost.symm), ?_⟩
      · rw [members]
        exact List.mem_map_of_mem hmem
      · by_cases he : hm.deviceId = d
        · exact joined hm hmem he
        · rw [other hm he]
          exact hst

theorem Admission.countP_le (h : Admission d ms ms')
    (hn : (ms.map MemberRow.deviceId).Nodup) :
    ms'.countP MemberRow.isJoined ≤ ms.countP MemberRow.isJoined + 1 := by
  cases h with
  | inserted m members device role new =>
    rw [members, List.countP_append]
    have hone : [m].countP MemberRow.isJoined ≤ 1 := List.countP_le_length
    omega
  | updated f members device role joined other =>
    rw [members]
    exact Table.countP_map_le_succ hn fun m _ hm => other m hm

theorem Admission.countP_joined (h : Admission d ms ms')
    (hn : (ms.map MemberRow.deviceId).Nodup)
    (hj : ∃ m ∈ ms, m.deviceId = d ∧ m.status = .joined) :
    ms'.countP MemberRow.isJoined ≤ ms.countP MemberRow.isJoined := by
  obtain ⟨m₀, hm₀, hd₀, hs₀⟩ := hj
  cases h with
  | inserted m members device role new => exact absurd hd₀ (new m₀ hm₀)
  | updated f members device role joined other =>
    rw [members, List.countP_map]
    refine List.countP_mono_left fun m hm hfm => ?_
    by_cases he : m.deviceId = d
    · have hsame : m = m₀ := List.inj_on_of_nodup_map hn hm hm₀ (he.trans hd₀.symm)
      rw [hsame]
      exact decide_eq_true hs₀
    · rw [Function.comp_apply, other m he] at hfm
      exact hfm

theorem GuestSessionRow.isPresent_mono {g : GuestSessionRow} (ht : now ≤ t)
    (h : g.isPresent t = true) : g.isPresent now = true := by
  obtain ⟨hs, he⟩ := of_decide_eq_true h
  exact decide_eq_true ⟨hs, lt_of_le_of_lt ht he⟩

theorem RoomView.participants_mono (v : RoomView) (ht : now ≤ t) :
    v.participants t ≤ v.participants now := by
  have hg : v.guests.countP (GuestSessionRow.isPresent t) ≤
      v.guests.countP (GuestSessionRow.isPresent now) :=
    List.countP_mono_left fun g _ hg => g.isPresent_mono ht hg
  unfold RoomView.participants
  omega

/-- An admission under the gate of a join. -/
theorem Admission.step (v' : RoomView) (h : Admission d v.members v'.members)
    (hrow : v'.row = v.row) (hc : v'.commands = v.commands) (hq : v'.queue = v.queue)
    (hg : v'.guests = v.guests) (hn : (v.members.map MemberRow.deviceId).Nodup)
    (hgate : (∃ m ∈ v.members, m.deviceId = d ∧ m.status = .joined) ∨ v.participants now < 8) :
    RoomStep asked now v v' where
  log := .quiet hc (congrArg _ hrow) (congrArg _ hrow)
  queue := .quiet hq (congrArg _ hrow)
  row := .same (congrArg _ hrow) (congrArg _ hrow) (congrArg _ hrow) (congrArg _ hrow)
  hosted := by
    intro hh hl
    refine h.hosted (congrArg _ hrow) (hh ?_)
    unfold RoomView.Live at hl ⊢
    rwa [hrow] at hl
  participants := by
    intro t ht h8
    have hm := v.participants_mono ht
    unfold RoomView.participants at h8 hm hgate ⊢
    rw [hg]
    rcases hgate with hj | hfree
    · have hcount := h.countP_joined hn hj
      omega
    · have hcount := h.countP_le hn
      omega

end

section
variable {env : WaveEnv} {db db' : WaveDb} {room r : Uuid} {p : Principal} {now stmt : Instant}
  {value : WaveRoom} {v v' : RoomView} {asked : Option (Uuid × CommandRequest)}

theorem members_nodup (hv : db.view room = some v) :
    (v.members.map MemberRow.deviceId).Nodup := by
  rw [← (view_eq_some.mp hv).2.2.2.1]
  refine List.Nodup.map_on (fun m hm m' hm' hd => ?_)
    (List.Nodup.sublist List.filter_sublist (List.Nodup.of_map _ db.members.nodup))
  have hroom := (mem_membersOf.mp hm).2
  have hroom' := (mem_membersOf.mp hm').2
  exact Table.eq_of_key (mem_membersOf.mp hm).1 (mem_membersOf.mp hm').1
    (Prod.ext (hroom.trans hroom'.symm) hd)

theorem alike_touched (v : RoomView) (device : Uuid) (now : Instant) :
    Alike v { v with members := v.members.map (touchRow room device now) } :=
  ⟨rfl, rfl, .touch _, .refl _, rfl, rfl, rfl, rfl, rfl, rfl, rfl⟩

theorem mem_viewMembers (hv : db.view room = some v) {m : MemberRow} :
    m ∈ v.members ↔ m ∈ db.members ∧ m.roomId = room := by
  rw [← (view_eq_some.mp hv).2.2.2.1]
  exact mem_membersOf

/-- A row of a device that has none. -/
theorem admission_insert {m : MemberRow} {members : Table MemberRow} (hv : db.view room = some v)
    (hi : db.members.insert m = .ok members) (hm : m.roomId = room) (hrole : m.role = .member) :
    ∃ ms', ({ db with members := members } : WaveDb).view room = some { v with members := ms' } ∧
      Admission m.deviceId v.members ms' := by
  refine ⟨_, view_insertMember hi hm hv, .inserted m rfl rfl hrole fun m' hm' hd => ?_⟩
  obtain ⟨hmem, hroom⟩ := (mem_viewMembers hv).mp hm'
  exact Table.find_none.mp (Table.insert_ok.mp hi).1 m' hmem (Prod.ext (hroom.trans hm.symm) hd)

/-- The row that a device has. -/
theorem admission_update {d : Uuid} (f : MemberRow → MemberRow) (hk hi)
    (hv : db.view room = some v) (hrole : ∀ m, (f m).role = m.role)
    (hdevice : ∀ m, (f m).deviceId = m.deviceId) (hstatus : ∀ m, (f m).status = .joined) :
    ∃ ms', ({ db with
        members := db.members.updateWhere (fun m => m.roomId = room ∧ m.deviceId = d) f hk hi } :
          WaveDb).view room = some { v with members := ms' } ∧ Admission d v.members ms' := by
  refine ⟨_, view_updateMembers _ f hk hi hv, .updated _ rfl (fun m => ?_) (fun m => ?_)
    (fun m hm hd => ?_) fun m hd => ?_⟩
  · split
    · exact hdevice m
    · rfl
  · split
    · exact hrole m
    · rfl
  · rw [if_pos (decide_eq_true ⟨((mem_viewMembers hv).mp hm).2, hd⟩)]
    exact hstatus m
  · exact if_neg fun hp => hd (of_decide_eq_true hp).2

theorem frame_insertMember {m : MemberRow} {members : Table MemberRow}
    (hi : db.members.insert m = .ok members) (hr : r ≠ m.roomId) :
    Frame db { db with members := members } r := by
  refine ⟨rfl, rfl, rfl, ?_, .refl _⟩
  show members.rows.filter _ = db.members.rows.filter _
  rw [Table.filter_insert hi, if_neg (by simpa using hr.symm), List.append_nil]

theorem joinMember_admission (h : joinMember db room p now = .ok db') (hv : db.view room = some v) :
    ∃ ms', db'.view room = some { v with members := ms' } ∧
      Admission p.deviceId v.members ms' := by
  unfold joinMember at h
  split at h
  · obtain ⟨members, hi, hend⟩ := Result.bind_eq_ok.mp h
    cases hend
    exact admission_insert hv (insertInto_ok.mp hi) rfl rfl
  · obtain ⟨u, -, hend⟩ := Result.bind_eq_ok.mp h
    cases hend
    exact admission_update _ _ _ hv (fun _ => rfl) (fun _ => rfl) (fun _ => rfl)

theorem joinMember_frame (h : joinMember db room p now = .ok db') (hr : r ≠ room) :
    Frame db db' r := by
  unfold joinMember at h
  split at h
  · obtain ⟨members, hi, hend⟩ := Result.bind_eq_ok.mp h
    cases hend
    exact frame_insertMember (insertInto_ok.mp hi) hr
  · obtain ⟨u, -, hend⟩ := Result.bind_eq_ok.mp h
    cases hend
    exact frame_updateMembers db _ _ _ _ fun _ hm => (of_decide_eq_true hm).1 ▸ hr.symm

theorem acceptMember_admission (h : acceptMember db room p now = .ok db')
    (hv : db.view room = some v) :
    ∃ ms', db'.view room = some { v with members := ms' } ∧
      Admission p.deviceId v.members ms' := by
  unfold acceptMember at h
  split at h
  · obtain ⟨members, hi, hend⟩ := Result.bind_eq_ok.mp h
    cases hend
    exact admission_insert hv (insertInto_ok.mp hi) rfl rfl
  · obtain ⟨u, -, hend⟩ := Result.bind_eq_ok.mp h
    cases hend
    exact admission_update _ _ _ hv (fun _ => rfl) (fun _ => rfl) (fun _ => rfl)

theorem acceptMember_frame (h : acceptMember db room p now = .ok db') (hr : r ≠ room) :
    Frame db db' r := by
  unfold acceptMember at h
  split at h
  · obtain ⟨members, hi, hend⟩ := Result.bind_eq_ok.mp h
    cases hend
    exact frame_insertMember (insertInto_ok.mp hi) hr
  · obtain ⟨u, -, hend⟩ := Result.bind_eq_ok.mp h
    cases hend
    exact frame_updateMembers db _ _ _ _ fun _ hm => (of_decide_eq_true hm).1 ▸ hr.symm

theorem join_step {code : String} (h : join env db code p now = .ok (value, db')) (r : Uuid) :
    StepAt asked now db db' r := by
  obtain ⟨row, hrow, h₁⟩ := Result.bind_eq_ok.mp h
  obtain ⟨u, hgate, h₂⟩ := Result.bind_eq_ok.mp h₁
  have hfound : db.rooms.find row.roomId = some row :=
    Table.find_mem (List.mem_of_find?_eq_some (one_ok.mp hrow))
  have hview : db.view row.roomId = some ⟨row, db.commandsOf row.roomId, db.liveQueue row.roomId,
    db.membersOf row.roomId, db.guestsOf row.roomId⟩ := view_eq_some.mpr ⟨hfound, rfl, rfl, rfl, rfl⟩
  dsimp only at h₂
  split at h₂
  · obtain ⟨db₁, hjoin, h₃⟩ := Result.bind_eq_ok.mp h₂
    obtain ⟨u', -, hsnap⟩ := Result.bind_eq_ok.mp h₃
    obtain ⟨row₁, hv⟩ := readSnapshot_ok hsnap
    have hdb' := hv.touched
    subst hdb'
    by_cases hr : r = row.roomId
    · subst hr
      obtain ⟨ms', hview₁, hadm⟩ := joinMember_admission hjoin hview
      have hstep : RoomStep asked now _ _ := hadm.step ⟨row, db.commandsOf row.roomId,
        db.liveQueue row.roomId, ms', db.guestsOf row.roomId⟩ rfl rfl rfl rfl (members_nodup hview)
        ((require_ok.mp hgate).imp (fun hj => ?_) id)
      · exact .stepped _ _ hview (view_touched p.deviceId hview₁)
          (hstep.after (alike_touched _ p.deviceId now))
      · obtain ⟨m, hm, hroom, hd, hs⟩ := hj
        exact ⟨m, mem_membersOf.mpr ⟨hm, hroom⟩, hd, hs⟩
    · exact ((joinMember_frame hjoin hr).trans (frame_touched db₁ p.deviceId now hr)).stepAt
  · obtain ⟨db₁, hsame, h₃⟩ := Result.bind_eq_ok.mp h₂
    cases hsame
    obtain ⟨u', -, hsnap⟩ := Result.bind_eq_ok.mp h₃
    obtain ⟨row₁, hv⟩ := readSnapshot_ok hsnap
    have hdb' := hv.touched
    subst hdb'
    by_cases hr : r = row.roomId
    · subst hr
      exact .stepped _ _ hview (view_touched p.deviceId hview)
        (alike_touched _ p.deviceId now).step
    · exact (frame_touched db p.deviceId now hr).stepAt

/-- Nothing that the view of a room reads is written. -/
theorem Frame.of_tables (r : Uuid) (rooms : db'.rooms = db.rooms)
    (commands : db'.commands = db.commands)
    (queue : db'.queueEntries = db.queueEntries)
    (members : db'.members = db.members)
    (guests : db'.guestSessions = db.guestSessions) : Frame db db' r := by
  refine ⟨by rw [rooms], ?_, ?_, ?_, ?_⟩
  · unfold WaveDb.commandsOf
    rw [commands]
  · unfold WaveDb.liveQueue
    rw [queue]
  · unfold WaveDb.membersOf
    rw [members]
  · unfold WaveDb.guestsOf
    rw [guests]
    exact .refl _

theorem acceptInvitation_step {invitationId operationId : Uuid} {facts : SocialFacts}
    {result : Except SocialCode Payload}
    (h : acceptInvitation env db p invitationId operationId facts now = .ok (result, db'))
    (r : Uuid) : StepAt asked now db db' r := by
  obtain ⟨u₁, -, h₁⟩ := Result.bind_eq_ok.mp h
  obtain ⟨u₂, -, h₂⟩ := Result.bind_eq_ok.mp h₁
  split at h₂
  · obtain ⟨u₃, -, hend⟩ := Result.bind_eq_ok.mp h₂
    cases hend
    exact (Frame.refl db r).stepAt
  · split at h₂
    · cases h₂
    · rename_i invite hinvite
      obtain ⟨u₃, -, h₃⟩ := Result.bind_eq_ok.mp h₂
      split at h₃
      · cases h₃
      · rename_i row hrow
        obtain ⟨u₄, -, h₄⟩ := Result.bind_eq_ok.mp h₃
        obtain ⟨u₅, -, h₅⟩ := Result.bind_eq_ok.mp h₄
        obtain ⟨u₆, -, h₆⟩ := Result.bind_eq_ok.mp h₅
        obtain ⟨u₇, -, h₇⟩ := Result.bind_eq_ok.mp h₆
        have hid : row.roomId = invite.roomId := Table.key_of_find hrow
        split at h₇
        · cases h₇
          refine Frame.stepAt ?_
          exact .of_tables r rfl rfl rfl rfl rfl
        · rename_i hfree
          obtain ⟨db₁, hacc, h₈⟩ := Result.bind_eq_ok.mp h₇
          obtain ⟨receipts, -, hend⟩ := Result.bind_eq_ok.mp h₈
          cases hend
          by_cases hr : r = row.roomId
          · subst hr
            have hview : db.view row.roomId = some ⟨row, db.commandsOf row.roomId,
                db.liveQueue row.roomId, db.membersOf row.roomId, db.guestsOf row.roomId⟩ :=
              view_eq_some.mpr ⟨by rw [hid]; exact hrow, rfl, rfl, rfl, rfl⟩
            obtain ⟨ms', hview₁, hadm⟩ := acceptMember_admission hacc hview
            exact .stepped _ _ hview hview₁ (hadm.step ⟨row, _, _, ms', _⟩ rfl rfl rfl rfl
              (members_nodup hview) (Or.inr (Nat.lt_of_not_le hfree)))
          · refine Frame.stepAt ((acceptMember_frame hacc hr).trans ?_)
            exact .of_tables r rfl rfl rfl rfl rfl

theorem create_step {roomId : Uuid} {code : String} {allowUsers : List Uuid}
    (h : create env db p roomId code allowUsers now = .ok db') (r : Uuid) :
    StepAt asked now db db' r := by
  obtain ⟨rooms, hrooms, h₁⟩ := Result.bind_eq_ok.mp h
  obtain ⟨members, hmembers, h₂⟩ := Result.bind_eq_ok.mp h₁
  obtain ⟨u, -, h₃⟩ := Result.bind_eq_ok.mp h₂
  obtain ⟨allowed, -, hend⟩ := Result.bind_eq_ok.mp h₃
  cases hend
  have hrooms := insertInto_ok.mp hrooms
  have hmembers := insertInto_ok.mp hmembers
  have hfind := Table.find_insert hrooms r
  have hfilter := Table.filter_insert hmembers (fun m => decide (m.roomId = r))
  by_cases hr : r = roomId
  · subst hr
    refine .created p ⟨_, _, _, _, _⟩ (view_eq_none.mpr (Table.insert_ok.mp hrooms).1)
      (view_eq_some.mpr ⟨hfind.trans (if_pos rfl), rfl, rfl, rfl, rfl⟩) fun hb => ?_
    rw [show db.members.rows.filter (fun m => decide (m.roomId = r)) = [] from hb.members,
      if_pos (decide_eq_true rfl), List.nil_append] at hfilter
    exact ⟨hb.commands, hb.queue, hb.guests, ⟨_, hfilter, rfl, rfl, rfl⟩, rfl, rfl, rfl⟩
  · refine Frame.stepAt ⟨hfind.trans (if_neg fun he => hr he.symm), rfl, rfl, ?_, .refl _⟩
    refine hfilter.trans ?_
    rw [if_neg (by simpa using fun he => hr he.symm), List.append_nil]
    rfl

theorem touched_step (db : WaveDb) (room device : Uuid) (now : Instant) (r : Uuid) :
    StepAt asked now db (touched db room device now) r := by
  by_cases hr : r = room
  · subst hr
    cases hv : db.view r with
    | none =>
      have hnone : db.rooms.find r = none := view_eq_none.mp hv
      refine .absent hv (view_eq_none.mpr ?_) fun hb => ⟨hb.commands, hb.queue, ?_, hb.guests⟩
      · exact hnone
      · refine List.filter_eq_nil_iff.mpr fun m hm hroom => ?_
        obtain ⟨m₀, hm₀, rfl⟩ := mem_touched.mp hm
        have hmem : m₀ ∈ db.membersOf r :=
          mem_membersOf.mpr ⟨hm₀, (touchRow_roomId ..).symm.trans (of_decide_eq_true hroom)⟩
        rw [hb.members] at hmem
        cases hmem
    | some v => exact .stepped _ _ hv (view_touched device hv) (alike_touched _ device now).step
  · exact (frame_touched db device now hr).stepAt

theorem preflight_step {queueEntryId recordingId : Uuid} {queueVersion : Nat}
    {availability : Availability} {finalReady : Bool}
    (h : preflight db room p queueEntryId recordingId queueVersion availability finalReady now =
      .ok db') (r : Uuid) : StepAt asked now db db' r := by
  obtain ⟨db₁, hmember, h₁⟩ := Result.bind_eq_ok.mp h
  obtain ⟨u, -, hend⟩ := Result.bind_eq_ok.mp h₁
  cases hend
  obtain ⟨-, rfl⟩ := requireMember_ok hmember
  exact (touched_step db room p.deviceId now r).after (.of_tables r rfl rfl rfl rfl rfl)

theorem timing_step {t : TimingRequest} (h : timing db room p t now = .ok db') (r : Uuid) :
    StepAt asked now db db' r := by
  obtain ⟨db₁, hmember, h₁⟩ := Result.bind_eq_ok.mp h
  obtain ⟨u, -, hend⟩ := Result.bind_eq_ok.mp h₁
  cases hend
  obtain ⟨-, rfl⟩ := requireMember_ok hmember
  exact (touched_step db room p.deviceId now r).after (.of_tables r rfl rfl rfl rfl rfl)

theorem readSnapshot_step (h : readSnapshot db room p now = .ok (value, db')) (r : Uuid) :
    StepAt asked now db db' r := by
  obtain ⟨row, hv⟩ := readSnapshot_ok h
  rw [hv.touched]
  exact touched_step db room p.deviceId now r

end

end AutPlay.Wave
