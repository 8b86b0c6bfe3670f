import AutPlay.Wave.GuestTables
import AutPlay.Wave.Invariant

/-!
# Invitations and their guests

* `tally`, `GuestStep`     runs that count the sessions of every invitation;
* `GuestEffect`            what a transaction does to the tables of guests;
* `GuestInv`               uses, spans and terms, in every state of a run.
-/

set_option linter.unusedSectionVars false

namespace AutPlay.Wave
open Sync (Uuid Json Payload)
open Table (mem_def)

/-! ## runs that count -/

/-- The sessions of an invitation, counted from the time it is issued. -/
def tally (db db' : WaveDb) (uses : Uuid → Nat) (k : Uuid) : Nat :=
  if (db.guestInvitations.find k).isNone then 0
  else uses k + db'.guestSessions.rows.countP fun g =>
    g.invitationId = k ∧ (db.guestSessions.find g.guestSessionId).isNone = true

/-- A state, and how many sessions were created from every invitation. -/
structure Tally where
  system : System
  uses : Uuid → Nat

/-- A host issues invitations under a session that signed in before. -/
def Authenticated (db : WaveDb) (e : Event) : Prop :=
  ∀ p q invitationId now stmt, e = .commit (.issue p q invitationId) now stmt →
    ∃ u ∈ db.sessions, u.sessionId = p.sessionId ∧ u.userId = p.userId

def GuestStep (env : WaveEnv) (t : Tally) (e : Event) (t' : Tally) : Prop :=
  Step env t.system e t'.system ∧ Authenticated t.system.db e ∧
    t'.uses = tally t.system.db t'.system.db t.uses

/-- The id that a transaction draws for a session. -/
def Event.drawn : Event → Option Uuid
  | .commit (.redeemSecond _ guestSessionId) _ _ => some guestSessionId
  | _ => none

/-! ## the two transactions that let guests in -/

section
variable {env : WaveEnv} {db db' : WaveDb} {p : Principal} {now : Instant}

/-- The row that `issue` inserts. -/
def issuedRow (p : Principal) (q : IssueRequest) (invitationId : Uuid) (secret : Digest)
    (room : RoomRow) (now : Instant) : GuestInvitationRow where
  invitationId := invitationId
  roomId := q.roomId
  roomEpoch := room.roomEpoch
  hostUserId := p.userId
  hostDeviceId := p.deviceId
  hostSessionId := p.sessionId
  documentSecretSha256 := secret
  allowedActions := guestActions
  state := .pending
  maxUses := q.maxUses
  consumedUses := 0
  expiresAt := min (now + seconds q.ttlSeconds) room.expiresAt
  revokedAt := none
  terminalAt := none
  terminalReason := none
  createdAt := now

/-- **An invitation is issued.** -/
structure Issued (db : WaveDb) (p : Principal) (q : IssueRequest) (invitationId : Uuid)
    (now : Instant) (secret : Digest) (room : RoomRow) (db' : WaveDb) : Prop where
  found : db.rooms.find q.roomId = some room
  ttl : q.ttlSeconds ≤ 21600
  uses : 1 ≤ q.maxUses
  written : ∃ windows invitations receipt receipts,
    db.guestInvitations.insert (issuedRow p q invitationId secret room now) = .ok invitations ∧
    db.guestReceipts.insert receipt = .ok receipts ∧
    db' = { db with
      guestRateWindows := windows, guestInvitations := invitations, guestReceipts := receipts }

theorem hostRoom_ok {room : Uuid} {allowTerminal : Bool} {row : RoomRow}
    (h : hostRoom db p room now allowTerminal = .ok row) : db.rooms.find room = some row := by
  unfold hostRoom at h
  split at h
  · cases h
  · rename_i row' hrow
    obtain ⟨u, -, hend⟩ := Result.bind_eq_ok.mp h
    cases hend
    exact (Option.filter_eq_some_iff.mp hrow).1

theorem issue_ok {q : IssueRequest} {invitationId : Uuid} {result : Payload}
    (h : issue env db p q invitationId now = .ok (result, db')) :
    db' = db ∨ ∃ secret room, Issued db p q invitationId now secret room db' := by
  obtain ⟨secret, -, h₁⟩ := Result.bind_eq_ok.mp h
  obtain ⟨u₁, hbounds, h₂⟩ := Result.bind_eq_ok.mp h₁
  obtain ⟨room, hroom, h₃⟩ := Result.bind_eq_ok.mp h₂
  split at h₃
  · obtain ⟨replayed, -, hend⟩ := Result.bind_eq_ok.mp h₃
    cases hend
    exact Or.inl rfl
  · obtain ⟨db₁, hrate, h₄⟩ := Result.bind_eq_ok.mp h₃
    obtain ⟨u₂, -, h₅⟩ := Result.bind_eq_ok.mp h₄
    obtain ⟨u₃, -, h₆⟩ := Result.bind_eq_ok.mp h₅
    obtain ⟨invitations, hinv, h₇⟩ := Result.bind_eq_ok.mp h₆
    obtain ⟨db₂, hreceipt, hend⟩ := Result.bind_eq_ok.mp h₇
    cases hend
    obtain ⟨windows, rfl⟩ := rate_ok hrate
    obtain ⟨receipts, hreceipts, rfl⟩ := insertReceipt_ok.mp hreceipt
    obtain ⟨-, httl, huses, -⟩ := require_ok.mp hbounds
    exact Or.inr ⟨secret, room, hostRoom_ok hroom, httl, huses, windows, invitations, _, receipts,
      insertInto_ok.mp hinv, hreceipts, rfl⟩

theorem redeemSecond_ok {q : RedeemRequest} {d : Redemption} {guestSessionId : Uuid}
    {result : Payload} (h : redeemSecond env db q d guestSessionId now = .ok (result, db')) :
    Kept now db db' ∨ ∃ invitation row, db.guestInvitations.find q.invitationId = some invitation ∧
      invitation.roomId = q.roomId ∧ Minted env db q d invitation guestSessionId now row db' := by
  unfold redeemSecond at h
  split at h
  · exact Or.inl (kept_documentReplay h)
  · split at h
    · cases h
    · rename_i invitation hinv
      obtain ⟨row, hm, -⟩ := mint_ok h
      obtain ⟨hfind, hp⟩ := Option.filter_eq_some_iff.mp hinv
      exact Or.inr ⟨invitation, row, hfind, (of_decide_eq_true hp).1, hm⟩

/-- **What a transaction does to the tables of guests.** -/
inductive GuestEffect (env : WaveEnv) (db : WaveDb) (now : Instant) (e : Event) (db' : WaveDb) : Prop
  | kept (h : Kept now db db')
  | issued {p : Principal} {q : IssueRequest} {invitationId : Uuid} {secret : Digest}
      {room : RoomRow} {stmt : Instant} (event : e = .commit (.issue p q invitationId) now stmt)
      (h : Issued db p q invitationId now secret room db')
  | minted {q : RedeemRequest} {d : Redemption} {guestSessionId : Uuid}
      {invitation : GuestInvitationRow} {row : RoomRow} {stmt : Instant}
      (event : e = .commit (.redeemSecond q guestSessionId) now stmt)
      (issued : db.guestInvitations.find q.invitationId = some invitation)
      (room : invitation.roomId = q.roomId)
      (h : Minted env db q d invitation guestSessionId now row db')

theorem Step.guestEffect {s s' : System} {e : Event} (h : Step env s e s') :
    GuestEffect env s.db s'.clock e s'.db := by
  cases h with
  | outside db' other => exact .kept other.kept
  | commit op now stmt db' time ok =>
    cases hop : op.admits with
    | false => exact .kept (op.kept ok hop)
    | true =>
      cases op with
      | issue p q invitationId =>
        obtain ⟨result, h⟩ := map_snd_ok ok
        rcases issue_ok h with rfl | ⟨secret, room, hissued⟩
        · exact .kept (.refl ..)
        · exact .issued rfl hissued
      | redeemSecond q guestSessionId =>
        obtain ⟨d, -, h₁⟩ := Result.bind_eq_ok.mp ok
        obtain ⟨⟨result, db₁⟩, hsecond, hend⟩ := Result.bind_eq_ok.mp h₁
        cases hend
        rcases redeemSecond_ok hsecond with hkept | ⟨invitation, row, hinv, hroom, hm⟩
        · exact .kept hkept
        · exact .minted rfl hinv hroom hm
      | _ => cases hop

theorem Issued.authority {q : IssueRequest} {invitationId : Uuid} {secret : Digest} {room : RoomRow}
    (h : Issued db p q invitationId now secret room db') : AuthorityMove db db' := by
  obtain ⟨windows, invitations, receipt, receipts, -, -, rfl⟩ := h.written
  exact .of_tables rfl rfl rfl

theorem Minted.authority {q : RedeemRequest} {d : Redemption} {invitation : GuestInvitationRow}
    {guestSessionId : Uuid} {row : RoomRow}
    (h : Minted env db q d invitation guestSessionId now row db') : AuthorityMove db db' := by
  obtain ⟨sessions, receipts, -, -, rfl⟩ := h.written
  exact .of_tables rfl rfl rfl

theorem GuestEffect.authority {e : Event} (h : GuestEffect env db now e db') :
    AuthorityMove db db' := by
  cases h with
  | kept h => exact h.authority
  | issued event h => exact h.authority
  | minted event issued room h => exact h.authority

/-! ## sessions that are counted -/

variable {uses : Uuid → Nat} {k : Uuid}

theorem tally_none (h : db.guestInvitations.find k = none) : tally db db' uses k = 0 := by
  unfold tally
  rw [h]
  rfl

theorem tally_some {i : GuestInvitationRow} (h : i ∈ db.guestInvitations) :
    tally db db' uses i.invitationId =
      uses i.invitationId + db'.guestSessions.rows.countP fun g =>
        g.invitationId = i.invitationId ∧
          (db.guestSessions.find g.guestSessionId).isNone = true := by
  have hfind : db.guestInvitations.find i.invitationId = some i := Table.find_mem h
  unfold tally
  rw [hfind]
  rfl

/-- No session comes in. -/
theorem tally_same {i : GuestInvitationRow} (h : i ∈ db.guestInvitations)
    (hold : ∀ g' ∈ db'.guestSessions, ∃ g ∈ db.guestSessions, SessionMove g g') :
    tally db db' uses i.invitationId = uses i.invitationId := by
  rw [tally_some h, List.countP_eq_zero.mpr, Nat.add_zero]
  intro g' hg' hnew
  obtain ⟨g, hg, hm⟩ := hold g' hg'
  have hfind : db.guestSessions.find g'.guestSessionId = some g := by
    rw [hm.guestSessionId]
    exact Table.find_mem hg
  have hnone := (of_decide_eq_true hnew).2
  rw [hfind] at hnone
  cases hnone

/-- One session comes in. -/
theorem tally_insert {i : GuestInvitationRow} {g : GuestSessionRow} (h : i ∈ db.guestInvitations)
    (hins : db.guestSessions.insert g = .ok db'.guestSessions) :
    tally db db' uses i.invitationId =
      uses i.invitationId + if g.invitationId = i.invitationId then 1 else 0 := by
  rw [tally_some h]
  congr 1
  exact Table.countP_insert_new hins fun g => g.invitationId = i.invitationId

end

/-! ## uses, spans and terms -/

/-- **What holds of an invitation** from which `n` sessions were created. -/
structure InvitationInv (s : System) (n : Nat) (i : GuestInvitationRow) : Prop where
  uses : i.consumedUses = n
  bound : i.consumedUses ≤ i.maxUses
  pending : i.state = .pending → i.consumedUses < i.maxUses
  created : i.createdAt ≤ s.clock
  span : i.expiresAt ≤ i.createdAt + seconds 21600
  room : ∃ row, s.db.rooms.find i.roomId = some row ∧ i.roomEpoch ≤ row.roomEpoch ∧
    i.expiresAt ≤ row.expiresAt
  issuer : ∃ u ∈ s.db.sessions, u.sessionId = i.hostSessionId ∧ u.userId = i.hostUserId

/-- A session has the terms of its invitation. -/
structure Bound (g : GuestSessionRow) (i : GuestInvitationRow) : Prop where
  invitationId : i.invitationId = g.invitationId
  roomId : i.roomId = g.roomId
  roomEpoch : i.roomEpoch = g.roomEpoch
  expiresAt : g.expiresAt ≤ i.expiresAt

/-- **What holds of all invitations and sessions.** -/
structure GuestInv (t : Tally) : Prop where
  closed : t.system.db.AccountsClosed
  invitations : ∀ i ∈ t.system.db.guestInvitations,
    InvitationInv t.system (t.uses i.invitationId) i
  sessions : ∀ g ∈ t.system.db.guestSessions, ∃ i ∈ t.system.db.guestInvitations, Bound g i

section
variable {env : WaveEnv} {s s' : System} {t t' : Tally} {e : Event} {n : Nat}
  {i i' : GuestInvitationRow} {g g' : GuestSessionRow} {room : Uuid}

theorem Step.clock (h : Step env s e s') : s.clock ≤ s'.clock := by
  cases h with
  | commit op now stmt db' time ok => exact time
  | outside db' other => exact le_refl _

/-- A room stays, and its row moves on. -/
theorem Step.found {row : RoomRow} (h : Step env s e s') (hrow : s.db.rooms.find room = some row) :
    ∃ row', s'.db.rooms.find room = some row' ∧ RowStep row row' := by
  have hv : s.db.view room = some ⟨row, _, _, _, _⟩ :=
    view_eq_some.mpr ⟨hrow, rfl, rfl, rfl, rfl⟩
  obtain ⟨v', hv', step⟩ := h.row hv
  exact ⟨v'.row, (view_eq_some.mp hv').1, step.row⟩

/-- A step, on an invitation that keeps its terms. -/
theorem InvitationInv.move (h : InvitationInv s n i) (hs : Step env s e s')
    (hm : InvitationMove i i') : InvitationInv s' n i' := by
  refine ⟨?_, ?_, fun hp => ?_, ?_, ?_, ?_, ?_⟩
  · rw [hm.consumedUses]
    exact h.uses
  · rw [hm.consumedUses, hm.maxUses]
    exact h.bound
  · rw [hm.consumedUses, hm.maxUses]
    exact h.pending (hm.pending hp)
  · rw [hm.createdAt]
    exact h.created.trans hs.clock
  · rw [hm.createdAt, hm.expiresAt]
    exact h.span
  · obtain ⟨row, hrow, hepoch, hexp⟩ := h.room
    obtain ⟨row', hrow', hstep⟩ := hs.found hrow
    refine ⟨row', ?_, ?_, ?_⟩
    · rw [hm.roomId]
      exact hrow'
    · rw [hm.roomEpoch]
      exact hepoch.trans hstep.epoch
    · rw [hm.expiresAt, hstep.expiry]
      exact hexp
  · obtain ⟨u, hu, hid, huser⟩ := h.issuer
    obtain ⟨u', hu', hid', huser', -, -⟩ := hs.guestEffect.authority.sessions u hu
    refine ⟨u', hu', ?_, ?_⟩
    · rw [hm.hostSessionId]
      exact hid'.trans hid
    · rw [hm.hostUserId]
      exact huser'.trans huser

/-- One more use of a pending invitation. -/
theorem InvitationInv.consume {now : Instant} (h : InvitationInv s n i) (hp : i.state = .pending) :
    InvitationInv s (n + 1) (consumeUse now i) := by
  have hlt := h.pending hp
  unfold consumeUse
  split
  · rename_i hlast
    refine ⟨?_, ?_, nofun, h.created, h.span, h.room, h.issuer⟩
    · show i.consumedUses + 1 = n + 1
      rw [h.uses]
    · exact hlt
  · rename_i hmore
    refine ⟨?_, hlt, fun _ => ?_, h.created, h.span, h.room, h.issuer⟩
    · show i.consumedUses + 1 = n + 1
      rw [h.uses]
    · show i.consumedUses + 1 < i.maxUses
      omega

theorem Bound.move (h : Bound g i) (hg : SessionMove g g') (hi : InvitationMove i i') :
    Bound g' i' := by
  refine ⟨?_, ?_, ?_, ?_⟩
  · rw [hi.invitationId, hg.invitationId]
    exact h.invitationId
  · rw [hi.roomId, hg.roomId]
    exact h.roomId
  · rw [hi.roomEpoch, hg.roomEpoch]
    exact h.roomEpoch
  · rw [hg.expiresAt, hi.expiresAt]
    exact h.expiresAt

/-- A use changes none of the terms. -/
theorem Bound.consume {now : Instant} (h : Bound g i) : Bound g (consumeUse now i) := by
  unfold consumeUse
  split
  · exact ⟨h.invitationId, h.roomId, h.roomEpoch, h.expiresAt⟩
  · exact ⟨h.invitationId, h.roomId, h.roomEpoch, h.expiresAt⟩

/-- A step that lets nobody in. -/
theorem GuestInv.kept (h : GuestInv t) (hs : GuestStep env t e t')
    (hk : Kept t'.system.clock t.system.db t'.system.db) : GuestInv t' := by
  obtain ⟨hstep, -, huses⟩ := hs
  refine ⟨hk.authority.closed h.closed, fun i' hi' => ?_, fun g' hg' => ?_⟩
  · obtain ⟨i, hi, hm⟩ := hk.invitations i' hi'
    rw [huses, hm.invitationId, tally_same hi fun g' hg' => hk.sessions g' hg']
    exact (h.invitations i hi).move hstep hm
  · obtain ⟨g, hg, hgm⟩ := hk.sessions g' hg'
    obtain ⟨i, hi, hb⟩ := h.sessions g hg
    obtain ⟨i', hi', hid⟩ := hk.referenced i hi
      ⟨g', hg', hgm.invitationId.trans hb.invitationId.symm⟩
    obtain ⟨i₀, hi₀, him⟩ := hk.invitations i' hi'
    -- The invitation that is still there is the one that the session had before.
    have heq : i₀ = i := Table.eq_of_key hi₀ hi (him.invitationId.symm.trans hid)
    subst heq
    exact ⟨i', hi', hb.move hgm him⟩

/-- A step that issues an invitation. -/
theorem GuestInv.issued {p : Principal} {q : IssueRequest} {invitationId : Uuid} {secret : Digest}
    {row : RoomRow} {stmt : Instant} (h : GuestInv t) (hs : GuestStep env t e t')
    (event : e = .commit (.issue p q invitationId) t'.system.clock stmt)
    (hi : Issued t.system.db p q invitationId t'.system.clock secret row t'.system.db) :
    GuestInv t' := by
  obtain ⟨hstep, hauth, huses⟩ := hs
  obtain ⟨windows, invitations, receipt, receipts, hins, -, hdb⟩ := hi.written
  have hinv : t'.system.db.guestInvitations = invitations := by rw [hdb]
  have hses : t'.system.db.guestSessions = t.system.db.guestSessions := by rw [hdb]
  refine ⟨hi.authority.closed h.closed, fun i' hi' => ?_, fun g hg => ?_⟩
  · rw [hinv] at hi'
    rcases (Table.mem_insert hins).mp hi' with hold | rfl
    · rw [huses, tally_same hold fun g hg => ⟨g, hses ▸ hg, .refl g⟩]
      exact (h.invitations i' hold).move hstep (.refl i')
    · have hroom : ∃ row', t'.system.db.rooms.find q.roomId = some row' ∧ RowStep row row' :=
        hstep.found hi.found
      obtain ⟨row', hrow', hmove⟩ := hroom
      obtain ⟨u, hu, hid, huser⟩ := hauth p q invitationId _ stmt event
      obtain ⟨u', hu', hid', huser', -, -⟩ := hi.authority.sessions u hu
      have hnone : t.system.db.guestInvitations.find invitationId = none :=
        (Table.insert_ok.mp hins).1
      have hzero : t'.uses invitationId = 0 := by
        rw [huses]
        exact tally_none hnone
      show InvitationInv t'.system (t'.uses invitationId) _
      rw [hzero]
      refine ⟨rfl, Nat.zero_le _, fun _ => hi.uses, le_refl _, ?_,
        ⟨row', hrow', hmove.epoch, ?_⟩, ⟨u', hu', hid'.trans hid, huser'.trans huser⟩⟩
      · have httl : seconds q.ttlSeconds ≤ seconds 21600 := Int.mul_le_mul_of_nonneg_right hi.ttl
          (by decide)
        exact (min_le_left _ _).trans (Int.add_le_add_left httl _)
      · rw [hmove.expiry]
        exact min_le_right _ _
  · rw [hses] at hg
    obtain ⟨i, hi, hb⟩ := h.sessions g hg
    exact ⟨i, by rw [hinv]; exact (Table.mem_insert hins).mpr (Or.inl hi), hb⟩

/-- A step that lets a guest in. -/
theorem GuestInv.minted {q : RedeemRequest} {d : Redemption} {guestSessionId : Uuid} {row : RoomRow}
    (h : GuestInv t) (hs : GuestStep env t e t')
    (hfind : t.system.db.guestInvitations.find q.invitationId = some i) (hroom : i.roomId = q.roomId)
    (hm : Minted env t.system.db q d i guestSessionId t'.system.clock row t'.system.db) :
    GuestInv t' := by
  obtain ⟨hstep, -, huses⟩ := hs
  obtain ⟨sessions, receipts, hins, -, hdb⟩ := hm.written
  have hses : t'.system.db.guestSessions = sessions := by rw [hdb]
  have hkey : i.invitationId = q.invitationId := Table.key_of_find hfind
  -- An invitation of before, as it is now.
  have hnow : ∀ j ∈ t.system.db.guestInvitations,
      (if decide (j.invitationId = q.invitationId) then consumeUse t'.system.clock j else j) ∈
        t'.system.db.guestInvitations := by
    intro j hj
    rw [hdb]
    exact List.mem_map.mpr ⟨j, hj, rfl⟩
  refine ⟨hm.authority.closed h.closed, fun i' hi' => ?_, fun g' hg' => ?_⟩
  · rw [hdb] at hi'
    obtain ⟨j, hj, rfl⟩ := List.mem_map.mp hi'
    have hjinv := (h.invitations j hj).move hstep (.refl j)
    by_cases hid : j.invitationId = q.invitationId
    · have hji : j = i := Table.eq_of_key hj (Table.mem_of_find hfind) (hid.trans hkey.symm)
      rw [if_pos (decide_eq_true hid), consumeUse_invitationId, huses,
        tally_insert hj (hses ▸ hins), if_pos]
      · refine hjinv.consume ?_
        rw [hji]
        exact hm.pending
      · exact hid.symm
    · rw [if_neg (by simpa using hid), huses, tally_insert hj (hses ▸ hins), if_neg]
      · exact hjinv
      · exact fun hq => hid hq.symm
  · rw [hses] at hg'
    rcases (Table.mem_insert hins).mp hg' with hold | rfl
    · obtain ⟨j, hj, hb⟩ := h.sessions g' hold
      refine ⟨_, hnow j hj, ?_⟩
      split
      · exact hb.consume
      · exact hb
    · have hi : i ∈ t.system.db.guestInvitations := Table.mem_of_find hfind
      refine ⟨_, hnow i hi, ?_⟩
      rw [if_pos (decide_eq_true hkey)]
      exact Bound.consume ⟨hkey, hroom, hm.epoch.symm, min_le_left _ _⟩

/-- **A step keeps what holds of all invitations and sessions.** -/
theorem GuestInv.step (h : GuestInv t) (hs : GuestStep env t e t') : GuestInv t' := by
  cases hs.1.guestEffect with
  | kept hk => exact h.kept hs hk
  | issued event hi => exact h.issued hs event hi
  | minted event issued room hm => exact h.minted hs issued room hm

theorem guestInv_run {es : List Event} (h : GuestInv t) (run : Path (GuestStep env) t es t') :
    GuestInv t' :=
  run.invariant (fun _ _ _ hi hs => hi.step hs) h

theorem Fresh.guestInv {uses : Uuid → Nat} (h : Fresh s.db) (closed : s.db.AccountsClosed) :
    GuestInv ⟨s, uses⟩ := by
  refine ⟨closed, fun i hi => ?_, fun g hg => ?_⟩
  · have hmem : i ∈ s.db.guestInvitations := hi
    rw [h.guestInvitations] at hmem
    exact absurd hmem (Table.not_mem_empty i)
  · have hmem : g ∈ s.db.guestSessions := hg
    rw [h.guestSessions] at hmem
    exact absurd hmem (Table.not_mem_empty g)

end

end AutPlay.Wave
