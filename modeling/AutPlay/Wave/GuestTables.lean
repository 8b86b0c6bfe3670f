import AutPlay.Wave.System

/-!
# The tables of guests

What every transaction, but `issue` and `redeem`, leaves of invitations, sessions and receipts, and
of the accounts behind them.

* `InvitationMove`, `SessionMove`   a row is retired, and nothing else about it changes;
* `AuthorityMove`                   what was revoked stays revoked;
* `Kept`                            a transaction retires guests at most;
* `Op.kept`                         all but the two that let guests in do no more.
-/

set_option linter.unusedSectionVars false

namespace AutPlay.Wave
open Sync (Uuid Json Payload)
open Table (mem_def)

/-- An invitation keeps its terms, and a retired one stays retired. -/
structure InvitationMove (i i' : GuestInvitationRow) : Prop where
  invitationId : i'.invitationId = i.invitationId
  roomId : i'.roomId = i.roomId
  roomEpoch : i'.roomEpoch = i.roomEpoch
  hostUserId : i'.hostUserId = i.hostUserId
  hostDeviceId : i'.hostDeviceId = i.hostDeviceId
  hostSessionId : i'.hostSessionId = i.hostSessionId
  maxUses : i'.maxUses = i.maxUses
  consumedUses : i'.consumedUses = i.consumedUses
  expiresAt : i'.expiresAt = i.expiresAt
  createdAt : i'.createdAt = i.createdAt
  pending : i'.state = .pending → i.state = .pending
  live : i'.isLive = true → i.isLive = true

/-- A session keeps its terms, and an ended one stays ended. -/
structure SessionMove (g g' : GuestSessionRow) : Prop where
  guestSessionId : g'.guestSessionId = g.guestSessionId
  invitationId : g'.invitationId = g.invitationId
  roomId : g'.roomId = g.roomId
  roomEpoch : g'.roomEpoch = g.roomEpoch
  accessSecretSha256 : g'.accessSecretSha256 = g.accessSecretSha256
  expiresAt : g'.expiresAt = g.expiresAt
  active : g'.state = .active → g.state = .active

theorem InvitationMove.refl (i : GuestInvitationRow) : InvitationMove i i :=
  ⟨rfl, rfl, rfl, rfl, rfl, rfl, rfl, rfl, rfl, rfl, id, id⟩

theorem InvitationMove.trans {i i' i'' : GuestInvitationRow} (h : InvitationMove i i')
    (h' : InvitationMove i' i'') : InvitationMove i i'' :=
  ⟨h'.invitationId.trans h.invitationId, h'.roomId.trans h.roomId, h'.roomEpoch.trans h.roomEpoch,
    h'.hostUserId.trans h.hostUserId, h'.hostDeviceId.trans h.hostDeviceId,
    h'.hostSessionId.trans h.hostSessionId, h'.maxUses.trans h.maxUses,
    h'.consumedUses.trans h.consumedUses, h'.expiresAt.trans h.expiresAt,
    h'.createdAt.trans h.createdAt, h.pending ∘ h'.pending, h.live ∘ h'.live⟩

/-- An invitation that is given an end. -/
theorem InvitationMove.retired (i : GuestInvitationRow) {state : InvitationState}
    (revokedAt terminalAt : Option Instant) (reason : Option String)
    (h : state = .revoked ∨ state = .expired ∨ state = .roomClosed) :
    InvitationMove i { i with
      state := state, revokedAt := revokedAt, terminalAt := terminalAt, terminalReason := reason } := by
  refine ⟨rfl, rfl, rfl, rfl, rfl, rfl, rfl, rfl, rfl, rfl, fun hp => ?_, fun hl => ?_⟩
  · have hstate : state = .pending := hp
    rcases h with rfl | rfl | rfl
    · cases hstate
    · cases hstate
    · cases hstate
  · have hstate : state = .pending ∨ state = .depleted := of_decide_eq_true hl
    rcases h with rfl | rfl | rfl
    · rcases hstate with h | h <;> cases h
    · rcases hstate with h | h <;> cases h
    · rcases hstate with h | h <;> cases h

theorem SessionMove.refl (g : GuestSessionRow) : SessionMove g g :=
  ⟨rfl, rfl, rfl, rfl, rfl, rfl, id⟩

theorem SessionMove.trans {g g' g'' : GuestSessionRow} (h : SessionMove g g')
    (h' : SessionMove g' g'') : SessionMove g g'' :=
  ⟨h'.guestSessionId.trans h.guestSessionId, h'.invitationId.trans h.invitationId,
    h'.roomId.trans h.roomId, h'.roomEpoch.trans h.roomEpoch,
    h'.accessSecretSha256.trans h.accessSecretSha256, h'.expiresAt.trans h.expiresAt,
    h.active ∘ h'.active⟩

/-- Every session of an account that is not usable is revoked. -/
def WaveDb.AccountsClosed (db : WaveDb) : Prop :=
  ∀ a ∈ db.accounts, ¬(a.active = true ∧ a.deletedAt = none) →
    ∀ u ∈ db.sessions, u.userId = a.userId → u.revokedAt ≠ none

/-- What was revoked stays revoked. -/
structure AuthorityMove (db db' : WaveDb) : Prop where
  devices : ∀ d ∈ db.devices, ∃ d' ∈ db'.devices, d'.deviceId = d.deviceId ∧
    (d.revokedAt ≠ none → d'.revokedAt ≠ none)
  sessions : ∀ u ∈ db.sessions, ∃ u' ∈ db'.sessions, u'.sessionId = u.sessionId ∧
    u'.userId = u.userId ∧ u'.expiresAt = u.expiresAt ∧ (u.revokedAt ≠ none → u'.revokedAt ≠ none)
  closed : db.AccountsClosed → db'.AccountsClosed

/-- **A transaction retires guests at most.** -/
structure Kept (now : Instant) (db db' : WaveDb) : Prop where
  invitations : ∀ i' ∈ db'.guestInvitations, ∃ i ∈ db.guestInvitations, InvitationMove i i'
  sessions : ∀ g' ∈ db'.guestSessions, ∃ g ∈ db.guestSessions, SessionMove g g'
  referenced : ∀ i ∈ db.guestInvitations, (∃ g' ∈ db'.guestSessions,
    g'.invitationId = i.invitationId) → ∃ i' ∈ db'.guestInvitations, i'.invitationId = i.invitationId
  receipts : ∀ r ∈ db.guestReceipts, now < r.expiresAt → r ∈ db'.guestReceipts
  authority : AuthorityMove db db'

section
variable {env : WaveEnv} {db db' db'' : WaveDb} {room : Uuid} {p : Principal} {now stmt : Instant}

theorem AuthorityMove.refl (db : WaveDb) : AuthorityMove db db :=
  ⟨fun d hd => ⟨d, hd, rfl, id⟩, fun u hu => ⟨u, hu, rfl, rfl, rfl, id⟩, id⟩

theorem AuthorityMove.trans (h : AuthorityMove db db') (h' : AuthorityMove db' db'') :
    AuthorityMove db db'' := by
  refine ⟨fun d hd => ?_, fun u hu => ?_, h'.closed ∘ h.closed⟩
  · obtain ⟨d', hd', hid, hr⟩ := h.devices d hd
    obtain ⟨d'', hd'', hid', hr'⟩ := h'.devices d' hd'
    exact ⟨d'', hd'', hid'.trans hid, hr' ∘ hr⟩
  · obtain ⟨u', hu', hid, huser, hexp, hr⟩ := h.sessions u hu
    obtain ⟨u'', hu'', hid', huser', hexp', hr'⟩ := h'.sessions u' hu'
    exact ⟨u'', hu'', hid'.trans hid, huser'.trans huser, hexp'.trans hexp, hr' ∘ hr⟩

theorem AuthorityMove.of_tables (accounts : db'.accounts = db.accounts)
    (devices : db'.devices = db.devices) (sessions : db'.sessions = db.sessions) :
    AuthorityMove db db' := by
  refine ⟨fun d hd => ⟨d, devices ▸ hd, rfl, id⟩, fun u hu => ⟨u, sessions ▸ hu, rfl, rfl, rfl, id⟩,
    fun h => ?_⟩
  unfold WaveDb.AccountsClosed
  rw [accounts, sessions]
  exact h

theorem Kept.refl (now : Instant) (db : WaveDb) : Kept now db db :=
  ⟨fun i hi => ⟨i, hi, .refl i⟩, fun g hg => ⟨g, hg, .refl g⟩, fun i hi _ => ⟨i, hi, rfl⟩,
    fun _ hr _ => hr, .refl db⟩

theorem Kept.trans (h : Kept now db db') (h' : Kept now db' db'') : Kept now db db'' := by
  refine ⟨fun i'' hi'' => ?_, fun g'' hg'' => ?_, fun i hi ⟨g'', hg'', hk⟩ => ?_,
    fun r hr hlive => h'.receipts r (h.receipts r hr hlive) hlive, h.authority.trans h'.authority⟩
  · obtain ⟨i', hi', hm'⟩ := h'.invitations i'' hi''
    obtain ⟨i, hi, hm⟩ := h.invitations i' hi'
    exact ⟨i, hi, hm.trans hm'⟩
  · obtain ⟨g', hg', hm'⟩ := h'.sessions g'' hg''
    obtain ⟨g, hg, hm⟩ := h.sessions g' hg'
    exact ⟨g, hg, hm.trans hm'⟩
  · obtain ⟨g', hg', hm'⟩ := h'.sessions g'' hg''
    obtain ⟨i', hi', hid⟩ := h.referenced i hi ⟨g', hg', hm'.invitationId.symm.trans hk⟩
    obtain ⟨i'', hi'', hid'⟩ := h'.referenced i' hi' ⟨g'', hg'', hk.trans hid.symm⟩
    exact ⟨i'', hi'', hid'.trans hid⟩

/-- None of the tables is written. -/
theorem Kept.of_tables (now : Instant)
    (invitations : db'.guestInvitations = db.guestInvitations)
    (sessions : db'.guestSessions = db.guestSessions)
    (receipts : db'.guestReceipts = db.guestReceipts)
    (accounts : db'.accounts = db.accounts)
    (devices : db'.devices = db.devices)
    (userSessions : db'.sessions = db.sessions) : Kept now db db' :=
  ⟨fun i hi => ⟨i, invitations ▸ hi, .refl i⟩, fun g hg => ⟨g, sessions ▸ hg, .refl g⟩,
    fun i hi _ => ⟨i, invitations ▸ hi, rfl⟩, fun _ hr _ => receipts ▸ hr,
    .of_tables accounts devices userSessions⟩

/-! ## the triggers -/

theorem retireSessions_move (sessions : Table GuestSessionRow) (old new : GuestInvitationRow)
    (stmt : Instant) : ∀ g' ∈ WaveDb.retireSessions sessions old new stmt,
      ∃ g ∈ sessions, SessionMove g g' := by
  intro g' hg'
  unfold WaveDb.retireSessions at hg'
  split at hg'
  · exact ⟨g', hg', .refl g'⟩
  · rename_i state hstate
    split at hg'
    · exact ⟨g', hg', .refl g'⟩
    · have hne : state ≠ .active := by
        rintro rfl
        cases hnew : new.state with
        | pending => rw [hnew] at hstate; cases hstate
        | depleted => rw [hnew] at hstate; cases hstate
        | revoked => rw [hnew] at hstate; cases hstate
        | expired => rw [hnew] at hstate; cases hstate
        | roomClosed => rw [hnew] at hstate; cases hstate
      obtain ⟨g, hg, rfl⟩ := List.mem_map.mp hg'
      refine ⟨g, hg, ?_⟩
      split
      · exact ⟨rfl, rfl, rfl, rfl, rfl, rfl, fun h => absurd h hne⟩
      · exact .refl g

theorem retireSessions_foldl_move (is : List GuestInvitationRow)
    (f : GuestInvitationRow → GuestInvitationRow) (stmt : Instant) (sessions : Table GuestSessionRow) :
    ∀ g' ∈ is.foldl (fun sessions i => WaveDb.retireSessions sessions i (f i) stmt) sessions,
      ∃ g ∈ sessions, SessionMove g g' := by
  induction is generalizing sessions with
  | nil => exact fun g hg => ⟨g, hg, .refl g⟩
  | cons i is ih =>
    intro g'' hg''
    obtain ⟨g', hg', hm'⟩ := ih _ g'' hg''
    obtain ⟨g, hg, hm⟩ := retireSessions_move sessions i (f i) stmt g' hg'
    exact ⟨g, hg, hm.trans hm'⟩

/-- Retired invitations, with the trigger that retires their sessions. -/
theorem kept_updateInvitations (db : WaveDb) (q : GuestInvitationRow → Bool)
    (f : GuestInvitationRow → GuestInvitationRow) (hk hd) (stmt : Instant)
    (hf : ∀ i, InvitationMove i (f i)) : Kept now db (db.updateInvitations q f hk hd stmt) := by
  refine ⟨fun i' hi' => ?_, retireSessions_foldl_move _ f stmt db.guestSessions, fun i hi _ => ?_,
    fun r hr _ => hr, .of_tables rfl rfl rfl⟩
  · obtain ⟨i, hi, rfl⟩ := List.mem_map.mp hi'
    refine ⟨i, hi, ?_⟩
    split
    · exact hf i
    · exact .refl i
  · refine ⟨_, List.mem_map_of_mem hi, ?_⟩
    split
    · exact hk i
    · rfl

theorem kept_updateRoomState (db : WaveDb) (f : RoomRow → RoomRow) (stmt : Instant) (hk hd) :
    Kept now db (db.updateRoomState room f stmt hk hd) := by
  unfold WaveDb.updateRoomState
  split
  · exact .refl now db
  · rename_i old hold
    have hroom : Kept now db (db.updateRoom room f hk hd) := .of_tables now rfl rfl rfl rfl rfl rfl
    refine hroom.trans ?_
    unfold WaveDb.retireRoom
    split
    · refine kept_updateInvitations _ _ _ _ _ _ fun i => ?_
      refine .retired i i.revokedAt _ _ ?_
      split
      · exact Or.inr (Or.inr rfl)
      · exact Or.inr (Or.inl rfl)
    · exact .refl ..

/-- An update of guests that ends some of them. -/
theorem kept_updateGuests (db : WaveDb) (q : GuestSessionRow → Bool)
    (f : GuestSessionRow → GuestSessionRow) (hk hs) (hf : ∀ g, SessionMove g (f g)) :
    Kept now db { db with guestSessions := db.guestSessions.updateWhere q f hk hs } := by
  refine ⟨fun i hi => ⟨i, hi, .refl i⟩, fun g' hg' => ?_, fun i hi _ => ⟨i, hi, rfl⟩,
    fun _ hr _ => hr, .of_tables rfl rfl rfl⟩
  obtain ⟨g, hg, rfl⟩ := List.mem_map.mp hg'
  refine ⟨g, hg, ?_⟩
  split
  · exact hf g
  · exact .refl g

/-! ## the transactions of members -/

theorem kept_appendLifecycleCommand {user device : Uuid} {kind : CommandKind} {document : Payload}
    (h : appendLifecycleCommand env db room user device kind document now = .ok db') :
    Kept now db db' := by
  obtain ⟨row, db₁, -, hins, rfl⟩ := appendLifecycleCommand_ok.mp h
  obtain ⟨-, commands, -, rfl⟩ := insertCommand_ok.mp hins
  exact .of_tables now rfl rfl rfl rfl rfl rfl

theorem kept_readSnapshot {value : WaveRoom} (h : readSnapshot db room p now = .ok (value, db')) :
    Kept now db db' := by
  obtain ⟨row, hv⟩ := readSnapshot_ok h
  rw [hv.touched]
  exact .of_tables now rfl rfl rfl rfl rfl rfl

theorem kept_requireHost {value : WaveRoom} (h : requireHost db room p now = .ok (value, db')) :
    Kept now db db' := by
  obtain ⟨row, hv, -⟩ := requireHost_ok h
  rw [hv.touched]
  exact .of_tables now rfl rfl rfl rfl rfl rfl

theorem kept_create {roomId : Uuid} {code : String} {allowUsers : List Uuid}
    (h : create env db p roomId code allowUsers now = .ok db') : Kept now db db' := by
  obtain ⟨rooms, -, h₁⟩ := Result.bind_eq_ok.mp h
  obtain ⟨members, -, h₂⟩ := Result.bind_eq_ok.mp h₁
  obtain ⟨u, -, h₃⟩ := Result.bind_eq_ok.mp h₂
  obtain ⟨allowed, -, hend⟩ := Result.bind_eq_ok.mp h₃
  cases hend
  exact .of_tables now rfl rfl rfl rfl rfl rfl

theorem kept_joinMember (h : joinMember db room p now = .ok db') : Kept now db db' := by
  unfold joinMember at h
  split at h
  · obtain ⟨members, -, hend⟩ := Result.bind_eq_ok.mp h
    cases hend
    exact .of_tables now rfl rfl rfl rfl rfl rfl
  · obtain ⟨u, -, hend⟩ := Result.bind_eq_ok.mp h
    cases hend
    exact .of_tables now rfl rfl rfl rfl rfl rfl

theorem kept_join {code : String} {value : WaveRoom} (h : join env db code p now = .ok (value, db')) :
    Kept now db db' := by
  obtain ⟨row, -, h₁⟩ := Result.bind_eq_ok.mp h
  obtain ⟨u, -, h₂⟩ := Result.bind_eq_ok.mp h₁
  dsimp only at h₂
  split at h₂
  · obtain ⟨db₁, hjoin, h₃⟩ := Result.bind_eq_ok.mp h₂
    obtain ⟨u', -, hsnap⟩ := Result.bind_eq_ok.mp h₃
    exact (kept_joinMember hjoin).trans (kept_readSnapshot hsnap)
  · obtain ⟨db₁, hsame, h₃⟩ := Result.bind_eq_ok.mp h₂
    cases hsame
    obtain ⟨u', -, hsnap⟩ := Result.bind_eq_ok.mp h₃
    exact kept_readSnapshot hsnap

theorem kept_leave (h : leave env db room p now stmt = .ok db') : Kept now db db' := by
  obtain ⟨⟨value, db₁⟩, hsnap, h₁⟩ := Result.bind_eq_ok.mp h
  obtain ⟨row, -, h₂⟩ := Result.bind_eq_ok.mp h₁
  obtain ⟨u, -, h₃⟩ := Result.bind_eq_ok.mp h₂
  obtain ⟨db₂, happ, hend⟩ := Result.bind_eq_ok.mp h₃
  have hleft : Kept now db (setLeft db₂ room p.deviceId now) :=
    ((kept_readSnapshot hsnap).trans (kept_appendLifecycleCommand happ)).trans (.of_tables now rfl rfl rfl rfl rfl rfl)
  dsimp only at hend
  split at hend
  · cases hend
    exact hleft.trans (kept_updateRoomState ..)
  · cases hend
    exact hleft

theorem kept_close (h : close env db room p now stmt = .ok db') : Kept now db db' := by
  obtain ⟨⟨value, db₁⟩, hhost, h₁⟩ := Result.bind_eq_ok.mp h
  obtain ⟨db₂, happ, hend⟩ := Result.bind_eq_ok.mp h₁
  cases hend
  exact ((kept_requireHost hhost).trans (kept_appendLifecycleCommand happ)).trans
    (kept_updateRoomState ..)

theorem kept_transferHost {target : Uuid} (h : transferHost env db room p target now = .ok db') :
    Kept now db db' := by
  obtain ⟨⟨value, db₁⟩, hhost, h₁⟩ := Result.bind_eq_ok.mp h
  dsimp only at h₁
  split at h₁
  · cases h₁
  · obtain ⟨db₂, happ, hend⟩ := Result.bind_eq_ok.mp h₁
    cases hend
    exact ((kept_requireHost hhost).trans (kept_appendLifecycleCommand happ)).trans (.of_tables now rfl rfl rfl rfl rfl rfl)

theorem kept_hostReturned {row : RoomRow} {o : Option Uuid}
    (h : hostReturned env db row now stmt = .ok (o, db')) : Kept now db db' := by
  unfold hostReturned at h
  split at h
  · obtain ⟨db₁, happ, hend⟩ := Result.bind_eq_ok.mp h
    cases hend
    exact (kept_appendLifecycleCommand happ).trans (kept_updateRoomState ..)
  · cases h
    exact .refl ..

theorem kept_orphanRoom {row : RoomRow} {o : Option Uuid}
    (h : orphanRoom env db row now stmt = .ok (o, db')) : Kept now db db' := by
  unfold orphanRoom at h
  split at h
  · cases h
    exact .refl ..
  · obtain ⟨db₁, happ, hend⟩ := Result.bind_eq_ok.mp h
    cases hend
    exact (kept_appendLifecycleCommand happ).trans (kept_updateRoomState ..)

theorem kept_promote {row : RoomRow} {winner : MemberRow} {o : Option Uuid}
    (h : promote env db row winner now stmt = .ok (o, db')) : Kept now db db' := by
  obtain ⟨db₁, happ, hend⟩ := Result.bind_eq_ok.mp h
  cases hend
  exact ((kept_appendLifecycleCommand happ).trans (kept_updateRoomState ..)).trans (.of_tables now rfl rfl rfl rfl rfl rfl)

theorem kept_recoverHost {o : Option Uuid} (h : recoverHost env db room now stmt = .ok (o, db')) :
    Kept now db db' := by
  obtain ⟨row, -, h₁⟩ := Result.bind_eq_ok.mp h
  split at h₁
  · exact kept_hostReturned h₁
  · have hlost : Kept now db (db.updateRoom room
        (fun r => { r with hostLostAt := some (r.hostLostAt.getD now) })
        (fun _ => rfl) (fun _ => rfl)) := .of_tables now rfl rfl rfl rfl rfl rfl
    dsimp only at h₁
    split at h₁
    · cases h₁
      exact hlost
    · split at h₁
      · exact hlost.trans (kept_orphanRoom h₁)
      · exact hlost.trans (kept_promote h₁)

theorem kept_expireRooms {due : List RoomRow} (h : due.foldlM (expireRoom env now stmt) db = .ok db') :
    Kept now db db' := by
  induction due generalizing db with
  | nil =>
    cases h
    exact .refl ..
  | cons row due ih =>
    rw [List.foldlM_cons] at h
    obtain ⟨db₁, h₁, h₂⟩ := Result.bind_eq_ok.mp h
    obtain ⟨db₂, happ, hend⟩ := Result.bind_eq_ok.mp h₁
    cases hend
    exact ((kept_appendLifecycleCommand happ).trans (kept_updateRoomState ..)).trans (ih h₂)

theorem kept_commandLocked {q : CommandRequest} {entryId : Uuid} {result : CommandResult}
    (h : commandLocked db room p q entryId now = .ok (result, db')) : Kept now db db' := by
  obtain ⟨row, value, kind, version, document, hc, -⟩ := commandLocked_ok h
  obtain ⟨db₂, heffect, hins⟩ := hc.written
  obtain ⟨-, commands, -, rfl⟩ := insertCommand_ok.mp hins
  have hmid : Kept now db db₂ := by
    cases heffect with
    | queue recordingId queueEntries full known inserted => exact .of_tables now rfl rfl rfl rfl rfl rfl
    | skip entry next => exact .of_tables now rfl rfl rfl rfl rfl rfl
    | pauseEmpty none => exact .of_tables now rfl rfl rfl rfl rfl rfl
    | pause entry current => exact .of_tables now rfl rfl rfl rfl rfl rfl
    | seek => exact .of_tables now rfl rfl rfl rfl rfl rfl
    | transfer => exact .of_tables now rfl rfl rfl rfl rfl rfl
  exact hmid.trans (.of_tables now rfl rfl rfl rfl rfl rfl)

theorem kept_start {q : StartRequest} {result : StartResult}
    (h : start env db room p q now = .ok (result, db')) : Kept now db db' := by
  obtain ⟨row, value, lead, hs, -⟩ := start_ok h
  obtain ⟨-, commands, -, rfl⟩ := insertCommand_ok.mp hs.written
  exact .of_tables now rfl rfl rfl rfl rfl rfl

theorem kept_acceptMember (h : acceptMember db room p now = .ok db') : Kept now db db' := by
  unfold acceptMember at h
  split at h
  · obtain ⟨members, -, hend⟩ := Result.bind_eq_ok.mp h
    cases hend
    exact .of_tables now rfl rfl rfl rfl rfl rfl
  · obtain ⟨u, -, hend⟩ := Result.bind_eq_ok.mp h
    cases hend
    exact .of_tables now rfl rfl rfl rfl rfl rfl

theorem kept_acceptInvitation {invitationId operationId : Uuid} {facts : SocialFacts}
    {result : Except SocialCode Payload}
    (h : acceptInvitation env db p invitationId operationId facts now = .ok (result, db')) :
    Kept now db db' := by
  obtain ⟨u₁, -, h₁⟩ := Result.bind_eq_ok.mp h
  obtain ⟨u₂, -, h₂⟩ := Result.bind_eq_ok.mp h₁
  split at h₂
  · obtain ⟨u₃, -, hend⟩ := Result.bind_eq_ok.mp h₂
    cases hend
    exact .refl ..
  · split at h₂
    · cases h₂
    · obtain ⟨u₃, -, h₃⟩ := Result.bind_eq_ok.mp h₂
      split at h₃
      · cases h₃
      · obtain ⟨u₄, -, h₄⟩ := Result.bind_eq_ok.mp h₃
        obtain ⟨u₅, -, h₅⟩ := Result.bind_eq_ok.mp h₄
        obtain ⟨u₆, -, h₆⟩ := Result.bind_eq_ok.mp h₅
        obtain ⟨u₇, -, h₇⟩ := Result.bind_eq_ok.mp h₆
        split at h₇
        · cases h₇
          exact .of_tables now rfl rfl rfl rfl rfl rfl
        · obtain ⟨db₁, hacc, h₈⟩ := Result.bind_eq_ok.mp h₇
          obtain ⟨receipts, -, hend⟩ := Result.bind_eq_ok.mp h₈
          cases hend
          exact (kept_acceptMember hacc).trans (.of_tables now rfl rfl rfl rfl rfl rfl)

/-! ## the transactions of guests -/

theorem kept_guestSeen (db : WaveDb) (session : Uuid) (now : Instant) :
    Kept now db (guestSeen db session now) := by
  apply kept_updateGuests
  exact fun g => ⟨rfl, rfl, rfl, rfl, rfl, rfl, id⟩

theorem kept_guest {accessHash : Digest} {action : GuestAction} {principal : GuestPrincipal}
    (h : guest db accessHash room action now = .ok (principal, db')) : Kept now db db' := by
  obtain ⟨row, invitation, roomRow, -, -, rfl⟩ := guest_ok.mp h
  exact kept_guestSeen db row.guestSessionId now

theorem kept_guestAction {bearer : String} {action : GuestAction} {principal : GuestPrincipal}
    (h : guestAction env db bearer room action now = .ok (principal, db')) : Kept now db db' := by
  obtain ⟨accessHash, -, h₁⟩ := Result.bind_eq_ok.mp h
  exact kept_guest h₁

theorem kept_insertReceipt {receipt : GuestOperationReceiptRow}
    (h : insertReceipt db receipt = .ok db') : Kept now db db' := by
  obtain ⟨receipts, hi, rfl⟩ := insertReceipt_ok.mp h
  exact ⟨fun i hi => ⟨i, hi, .refl i⟩, fun g hg => ⟨g, hg, .refl g⟩, fun i hi _ => ⟨i, hi, rfl⟩,
    fun r hr _ => (Table.mem_insert hi).mpr (Or.inl hr), .of_tables rfl rfl rfl⟩

theorem kept_guestLeave {bearer : String} {operationId : Uuid} {result : Payload}
    (h : guestLeave env db bearer room operationId now = .ok (result, db')) : Kept now db db' := by
  obtain ⟨accessHash, -, h₁⟩ := Result.bind_eq_ok.mp h
  dsimp only at h₁
  split at h₁
  · cases h₁
  · split at h₁
    · obtain ⟨u, -, hend⟩ := Result.bind_eq_ok.mp h₁
      cases hend
      exact .refl ..
    · rename_i row hrow _ hnone
      obtain ⟨⟨principal, db₁⟩, hguest, h₂⟩ := Result.bind_eq_ok.mp h₁
      obtain ⟨db₂, hreceipt, hend⟩ := Result.bind_eq_ok.mp h₂
      cases hend
      have hgone : Kept now db₁ (guestGone db₁ row.guestSessionId now) := by
        apply kept_updateGuests
        exact fun g => ⟨rfl, rfl, rfl, rfl, rfl, rfl, nofun⟩
      exact ((kept_guest hguest).trans hgone).trans (kept_insertReceipt hreceipt)

theorem kept_rate {scope : RateScope} {subject : Digest} {limit : Nat}
    (h : rate env db scope subject limit now = .ok db') : Kept now db db' := by
  obtain ⟨windows, rfl⟩ := rate_ok h
  exact .of_tables now rfl rfl rfl rfl rfl rfl

theorem kept_revoke {invitationId operationId : Uuid} {result : Payload}
    (h : revoke env db p invitationId operationId now stmt = .ok (result, db')) :
    Kept now db db' := by
  unfold revoke at h
  dsimp only at h
  split at h
  · cases h
  · obtain ⟨row, -, h₁⟩ := Result.bind_eq_ok.mp h
    split at h₁
    · obtain ⟨replayed, -, hend⟩ := Result.bind_eq_ok.mp h₁
      cases hend
      exact .refl ..
    · obtain ⟨u, -, h₂⟩ := Result.bind_eq_ok.mp h₁
      obtain ⟨db₁, hreceipt, hend⟩ := Result.bind_eq_ok.mp h₂
      cases hend
      refine Kept.trans ?_ (kept_insertReceipt hreceipt)
      split
      · exact kept_updateInvitations _ _ _ _ _ _ fun i => .retired i _ _ _ (Or.inl rfl)
      · exact .refl ..

theorem kept_documentReplay {receipt : GuestOperationReceiptRow} {d : Redemption}
    {result : Payload} (h : documentReplay db receipt d room now = .ok (result, db')) :
    Kept now db db' := by
  obtain ⟨u₁, -, h₁⟩ := Result.bind_eq_ok.mp h
  obtain ⟨u₂, -, h₂⟩ := Result.bind_eq_ok.mp h₁
  obtain ⟨⟨principal, db₁⟩, hguest, h₃⟩ := Result.bind_eq_ok.mp h₂
  obtain ⟨u₃, -, hend⟩ := Result.bind_eq_ok.mp h₃
  cases hend
  exact kept_guest hguest

theorem kept_redeemFirst {q : RedeemRequest} {d : Redemption} {result : Option Payload}
    (h : redeemFirst env db q d now = .ok (result, db')) : Kept now db db' := by
  unfold redeemFirst at h
  split at h
  · obtain ⟨⟨replayed, db₁⟩, hreplay, hend⟩ := Result.bind_eq_ok.mp h
    cases hend
    exact kept_documentReplay hreplay
  · obtain ⟨db₁, hrate₁, h₁⟩ := Result.bind_eq_ok.mp h
    obtain ⟨db₂, hrate₂, hend⟩ := Result.bind_eq_ok.mp h₁
    cases hend
    exact (kept_rate hrate₁).trans (kept_rate hrate₂)

/-! ## cleanup -/

theorem kept_expireInvitations (db : WaveDb) (limit : Nat) :
    Kept now db (expireInvitations db now limit stmt) := by
  apply kept_updateInvitations
  · exact fun _ => rfl
  · exact fun i => .retired i _ _ _ (Or.inr (Or.inl rfl))

theorem kept_expireSessions (db : WaveDb) (limit : Nat) :
    Kept now db (expireSessions db now limit) := by
  apply kept_updateGuests
  exact fun g => ⟨rfl, rfl, rfl, rfl, rfl, rfl, nofun⟩

/-- A receipt that has not run out is not purged. -/
theorem kept_purgeReports (db : WaveDb) (limit : Nat) :
    Kept now db (purgeReports db now limit) := by
  refine ⟨fun i hi => ⟨i, hi, .refl i⟩, fun g hg => ⟨g, hg, .refl g⟩, fun i hi _ => ⟨i, hi, rfl⟩,
    fun r hr hlive => Table.mem_eraseWhere.mpr ⟨hr, decide_eq_false fun hdue => ?_⟩,
    .of_tables rfl rfl rfl⟩
  have hm := (List.mem_insertionSort _).mp (List.mem_of_mem_take hdue)
  exact absurd (of_decide_eq_true (List.mem_filter.mp hm).2) (not_le.mpr hlive)

theorem kept_purgeSessions {limit : Nat} (h : purgeSessions db now limit = .ok db') :
    Kept now db db' := by
  obtain ⟨u, -, hend⟩ := Result.bind_eq_ok.mp h
  cases hend
  exact ⟨fun i hi => ⟨i, hi, .refl i⟩,
    fun g hg => ⟨g, (Table.mem_eraseWhere.mp hg).1, .refl g⟩, fun i hi _ => ⟨i, hi, rfl⟩,
    fun _ hr _ => hr, .of_tables rfl rfl rfl⟩

/-- An invitation with a session is not purged. -/
theorem kept_purgeInvitations (db : WaveDb) (limit : Nat) :
    Kept now db (purgeInvitations db now limit) := by
  refine ⟨fun i hi => ⟨i, (Table.mem_eraseWhere.mp hi).1, .refl i⟩, fun g hg => ⟨g, hg, .refl g⟩,
    fun i hi ⟨g, hg, hk⟩ => ⟨i, Table.mem_eraseWhere.mpr ⟨hi, decide_eq_false fun hdue => ?_⟩, rfl⟩,
    fun _ hr _ => hr, .of_tables rfl rfl rfl⟩
  obtain ⟨i', hi', hid⟩ := List.mem_map.mp hdue
  have hm := (List.mem_insertionSort _).mp (List.mem_of_mem_take hi')
  obtain ⟨-, -, hunused, -⟩ := of_decide_eq_true (List.mem_filter.mp hm).2
  have hne := of_decide_eq_true (List.all_eq_true.mp hunused g hg)
  exact hne (hk.trans hid.symm)

theorem kept_cleanup {limit : Int} (h : cleanup db now limit stmt = .ok db') : Kept now db db' := by
  obtain ⟨u, -, h₁⟩ := Result.bind_eq_ok.mp h
  obtain ⟨db₁, hpurge, hend⟩ := Result.bind_eq_ok.mp h₁
  cases hend
  exact ((((kept_expireInvitations ..).trans (kept_expireSessions ..)).trans
    (kept_purgeReports ..)).trans (kept_purgeSessions hpurge)).trans (kept_purgeInvitations ..)

/-! ## the issuing host -/

theorem kept_authority (invitations : db'.guestInvitations = db.guestInvitations)
    (sessions : db'.guestSessions = db.guestSessions)
    (receipts : db'.guestReceipts = db.guestReceipts) (h : AuthorityMove db db') :
    Kept now db db' :=
  ⟨fun i hi => ⟨i, invitations ▸ hi, .refl i⟩, fun g hg => ⟨g, sessions ▸ hg, .refl g⟩,
    fun i hi _ => ⟨i, invitations ▸ hi, rfl⟩, fun _ hr _ => receipts ▸ hr, h⟩

theorem kept_hostGone (db : WaveDb) (q : GuestInvitationRow → Bool) (reason : String)
    (stmt : Instant) (hk hd) :
    Kept now db (db.updateInvitations q (hostGone reason stmt) hk hd stmt) :=
  kept_updateInvitations _ _ _ _ _ _ fun i => .retired i _ _ _ (Or.inl rfl)

theorem kept_revokeDevice (db : WaveDb) (device : Uuid) (revokedAt stmt : Instant) :
    Kept now db (revokeDevice db device revokedAt stmt) := by
  unfold revokeDevice
  split
  · exact .refl ..
  · refine Kept.trans ?_ (kept_hostGone ..)
    refine kept_authority rfl rfl rfl
      ⟨fun d hd => ?_, fun u hu => ⟨u, hu, rfl, rfl, rfl, id⟩, id⟩
    refine ⟨_, List.mem_map_of_mem hd, ?_⟩
    split
    · exact ⟨rfl, fun _ => nofun⟩
    · exact ⟨rfl, id⟩

/-- The sessions of a condition are revoked. -/
theorem authority_updateSessions (db : WaveDb) (q : UserSessionRow → Bool) (revokedAt : Instant) :
    AuthorityMove db { db with
      sessions := db.sessions.updateWhere q (fun s => { s with revokedAt := some revokedAt })
        (fun _ => rfl) (fun _ => rfl) } := by
  refine ⟨fun d hd => ⟨d, hd, rfl, id⟩, fun u hu => ?_, fun hclosed a ha hgone u' hu' huser => ?_⟩
  · refine ⟨_, List.mem_map_of_mem hu, ?_⟩
    split
    · exact ⟨rfl, rfl, rfl, fun _ => nofun⟩
    · exact ⟨rfl, rfl, rfl, id⟩
  · obtain ⟨u, hu, rfl⟩ := List.mem_map.mp hu'
    by_cases hq : q u = true
    · rw [if_pos hq]
      exact nofun
    · rw [if_neg hq] at huser ⊢
      exact hclosed a ha hgone u hu huser

theorem kept_revokeSession (db : WaveDb) (session : Uuid) (revokedAt stmt : Instant) :
    Kept now db (revokeSession db session revokedAt stmt) := by
  unfold revokeSession
  split
  · exact .refl ..
  · refine Kept.trans ?_ (kept_hostGone ..)
    exact kept_authority rfl rfl rfl (authority_updateSessions db _ revokedAt)

/-- An account is closed with its sessions, or becomes usable. -/
theorem kept_setAccount (db : WaveDb) (user : Uuid) (active : Bool) (deletedAt : Option Instant)
    (now stmt : Instant) : Kept now db (setAccount db user active deletedAt now stmt) := by
  unfold setAccount
  dsimp only
  split
  · exact .refl ..
  · split
    · rename_i husable
      refine kept_authority rfl rfl rfl ⟨fun d hd => ⟨d, hd, rfl, id⟩,
        fun u hu => ⟨u, hu, rfl, rfl, rfl, id⟩, fun hclosed a' ha' hgone u hu huser => ?_⟩
      obtain ⟨a, ha, rfl⟩ := List.mem_map.mp ha'
      by_cases hid : decide (a.userId = user) = true
      · rw [if_pos hid] at hgone
        exact absurd husable hgone
      · rw [if_neg hid] at hgone huser
        exact hclosed a ha hgone u hu huser
    · refine Kept.trans ?_ (kept_hostGone ..)
      refine kept_authority rfl rfl rfl ⟨fun d hd => ⟨d, hd, rfl, id⟩,
        (authority_updateSessions db _ now).sessions, fun hclosed a' ha' hgone u' hu' huser => ?_⟩
      obtain ⟨a, ha, rfl⟩ := List.mem_map.mp ha'
      obtain ⟨u, hu, rfl⟩ := List.mem_map.mp hu'
      by_cases hq : decide (u.userId = user ∧ u.revokedAt = none) = true
      · rw [if_pos hq]
        intro hnone
        cases hnone
      · rw [if_neg hq] at huser ⊢
        by_cases hid : decide (a.userId = user) = true
        · rw [if_pos hid] at huser
          exact fun hnone => hq (decide_eq_true ⟨huser.trans (of_decide_eq_true hid), hnone⟩)
        · rw [if_neg hid] at hgone huser
          exact hclosed a ha hgone u hu huser

theorem Outside.kept (h : Outside db db') : Kept now db db' := by
  refine kept_authority h.guestInvitations h.guestSessions h.guestReceipts
    ⟨fun d hd => ?_, fun u hu => ?_, fun hclosed a ha hgone u hu huser => ?_⟩
  · obtain ⟨name, hfind⟩ := h.devices _ d (Table.find_mem hd)
    exact ⟨_, Table.mem_of_find hfind, rfl, id⟩
  · exact ⟨u, Table.mem_of_find (h.sessions _ u (Table.find_mem hu)), rfl, rfl, rfl, id⟩
  · have hold : a ∈ db.accounts := (h.registered a ha).resolve_right hgone
    rcases h.signedIn u hu with hu | husable
    · exact hclosed a hold hgone u hu huser
    · have hfind : db'.accounts.find a.userId = some a := Table.find_mem ha
      unfold accountUsable at husable
      rw [huser, hfind] at husable
      exact absurd (of_decide_eq_true husable) hgone

/-! ## every transaction -/

/-- The transactions that add an invitation or a session. -/
def Op.admits : Op → Bool
  | .issue .. => true
  | .redeemSecond .. => true
  | _ => false

/-- **All transactions but two retire guests at most.** -/
theorem Op.kept {op : Op} (h : op.run env db now stmt = .ok db') (hop : op.admits = false) :
    Kept now db db' := by
  cases op with
  | create p roomId code allowUsers => exact kept_create h
  | join code p =>
    obtain ⟨value, h⟩ := map_snd_ok h
    exact kept_join h
  | snapshot room p =>
    obtain ⟨value, h⟩ := map_snd_ok h
    exact kept_readSnapshot h
  | catchUp room p =>
    obtain ⟨-, rfl⟩ := requireMember_ok h
    exact .of_tables now rfl rfl rfl rfl rfl rfl
  | leave room p => exact kept_leave h
  | close room p => exact kept_close h
  | transferHost room p targetDevice => exact kept_transferHost h
  | recoverHost room =>
    obtain ⟨host, h⟩ := map_snd_ok h
    exact kept_recoverHost h
  | expireDue limit =>
    obtain ⟨count, h⟩ := map_snd_ok h
    obtain ⟨u, -, h₁⟩ := Result.bind_eq_ok.mp h
    obtain ⟨db₁, hfold, hend⟩ := Result.bind_eq_ok.mp h₁
    cases hend
    exact kept_expireRooms hfold
  | command room p q entryId =>
    obtain ⟨result, h⟩ := map_snd_ok h
    exact kept_commandLocked h
  | preflight room p queueEntryId recordingId queueVersion availability finalReady =>
    obtain ⟨db₁, hmember, h₁⟩ := Result.bind_eq_ok.mp h
    obtain ⟨u, -, hend⟩ := Result.bind_eq_ok.mp h₁
    cases hend
    obtain ⟨-, rfl⟩ := requireMember_ok hmember
    exact .of_tables now rfl rfl rfl rfl rfl rfl
  | timing room p t =>
    obtain ⟨db₁, hmember, h₁⟩ := Result.bind_eq_ok.mp h
    obtain ⟨u, -, hend⟩ := Result.bind_eq_ok.mp h₁
    cases hend
    obtain ⟨-, rfl⟩ := requireMember_ok hmember
    exact .of_tables now rfl rfl rfl rfl rfl rfl
  | start room p q =>
    obtain ⟨result, h⟩ := map_snd_ok h
    exact kept_start h
  | issue p q invitationId => cases hop
  | revoke p invitationId operationId =>
    obtain ⟨result, h⟩ := map_snd_ok h
    exact kept_revoke h
  | guestAction bearer room action =>
    obtain ⟨principal, h⟩ := map_snd_ok h
    exact kept_guestAction h
  | guestPreflight bearer room queueEntryId recordingId queueVersion availability finalReady =>
    obtain ⟨⟨principal, db₁⟩, hguest, h₁⟩ := Result.bind_eq_ok.mp h
    obtain ⟨u, -, hend⟩ := Result.bind_eq_ok.mp h₁
    cases hend
    exact (kept_guestAction hguest).trans (.of_tables now rfl rfl rfl rfl rfl rfl)
  | guestTiming bearer room t =>
    obtain ⟨u, -, h₁⟩ := Result.bind_eq_ok.mp h
    obtain ⟨⟨principal, db₁⟩, hguest, hend⟩ := Result.bind_eq_ok.mp h₁
    cases hend
    exact (kept_guestAction hguest).trans (.of_tables now rfl rfl rfl rfl rfl rfl)
  | guestLeave bearer room operationId =>
    obtain ⟨result, h⟩ := map_snd_ok h
    exact kept_guestLeave h
  | redeemFirst q =>
    obtain ⟨d, -, h₁⟩ := Result.bind_eq_ok.mp h
    obtain ⟨⟨result, db₁⟩, hfirst, hend⟩ := Result.bind_eq_ok.mp h₁
    cases hend
    exact kept_redeemFirst hfirst
  | redeemSecond q guestSessionId => cases hop
  | cleanup limit => exact kept_cleanup h
  | revokeDevice device revokedAt =>
    cases h
    exact kept_revokeDevice db device revokedAt stmt
  | revokeSession session revokedAt =>
    cases h
    exact kept_revokeSession db session revokedAt stmt
  | setAccount user active deletedAt =>
    cases h
    exact kept_setAccount db user active deletedAt now stmt
  | acceptInvitation p invitationId operationId facts =>
    obtain ⟨result, h⟩ := map_snd_ok h
    exact kept_acceptInvitation h

end

end AutPlay.Wave
