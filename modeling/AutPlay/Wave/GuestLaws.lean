import AutPlay.Wave.Invitations

/-!
# The laws of invitations

* `Cut`, `Ended`       a guest whose authority is gone, and stays so;
* `Barred`             the ways in which it goes;
* `Replayable`         a redemption that can be replayed;
* `invitation_laws`    what holds of every run.
-/

set_option linter.unusedSectionVars false

namespace AutPlay.Wave
open Sync (Uuid Json Payload)
open Table (mem_def)

/-! ## authority that is gone -/

/-- An invitation that lets nobody act. -/
inductive Cut (s : System) (i : GuestInvitationRow) : Prop
  | retired (h : i.isLive = false)
  | expired (h : i.expiresAt ≤ s.clock)
  | room (row : RoomRow) (found : s.db.rooms.find i.roomId = some row)
      (h : row.state ≠ .opened ∨ i.roomEpoch < row.roomEpoch) (epoch : i.roomEpoch ≤ row.roomEpoch)
  | device (d : DeviceRow) (found : d ∈ s.db.devices) (id : d.deviceId = i.hostDeviceId)
      (h : d.revokedAt ≠ none)
  | session (u : UserSessionRow) (found : u ∈ s.db.sessions) (id : u.sessionId = i.hostSessionId)
      (h : u.revokedAt ≠ none ∨ u.expiresAt ≤ s.clock)

/-- A guest that has left, or whose invitation lets nobody act. -/
def Ended (s : System) (k : Uuid) : Prop :=
  ∀ g ∈ s.db.guestSessions, g.guestSessionId = k → g.state = .active →
    ∀ i ∈ s.db.guestInvitations, i.invitationId = g.invitationId → Cut s i

/-- **The authority of a guest is gone**: it left; its invitation was revoked or expired; its room
left `OPEN` or has another epoch; the account, the device or the session of the host that issued the
invitation was revoked or expired. -/
inductive Barred (s : System) (g : GuestSessionRow) : Prop
  | left (h : g.state = .left)
  | invitation (i : GuestInvitationRow) (found : s.db.guestInvitations.find g.invitationId = some i)
      (h : i.state = .revoked ∨ i.state = .expired ∨ i.state = .roomClosed ∨ i.expiresAt ≤ s.clock)
  | room (row : RoomRow) (found : s.db.rooms.find g.roomId = some row)
      (h : row.state ≠ .opened ∨ row.roomEpoch ≠ g.roomEpoch)
  | account (i : GuestInvitationRow) (a : UserAccountRow)
      (found : s.db.guestInvitations.find g.invitationId = some i)
      (account : s.db.accounts.find i.hostUserId = some a)
      (h : ¬(a.active = true ∧ a.deletedAt = none))
  | device (i : GuestInvitationRow) (d : DeviceRow)
      (found : s.db.guestInvitations.find g.invitationId = some i)
      (device : s.db.devices.find i.hostDeviceId = some d) (h : d.revokedAt ≠ none)
  | session (i : GuestInvitationRow) (u : UserSessionRow)
      (found : s.db.guestInvitations.find g.invitationId = some i)
      (session : s.db.sessions.find i.hostSessionId = some u)
      (h : u.revokedAt ≠ none ∨ u.expiresAt ≤ s.clock)

section
variable {env : WaveEnv} {s s' : System} {t t' : Tally} {e : Event} {i i' : GuestInvitationRow}
  {g : GuestSessionRow} {k room : Uuid}

theorem isLive_of_state {state : InvitationState} (h : i.state = state) (hp : state ≠ .pending)
    (hd : state ≠ .depleted) : i.isLive = false := by
  apply decide_eq_false
  rw [h]
  exact not_or.mpr ⟨hp, hd⟩

/-- What a step leaves of an invitation, a use of it included. -/
structure TermsMove (i i' : GuestInvitationRow) : Prop where
  invitationId : i'.invitationId = i.invitationId
  roomId : i'.roomId = i.roomId
  roomEpoch : i'.roomEpoch = i.roomEpoch
  hostDeviceId : i'.hostDeviceId = i.hostDeviceId
  hostSessionId : i'.hostSessionId = i.hostSessionId
  expiresAt : i'.expiresAt = i.expiresAt
  live : i'.isLive = true → i.isLive = true

theorem InvitationMove.terms (h : InvitationMove i i') : TermsMove i i' :=
  ⟨h.invitationId, h.roomId, h.roomEpoch, h.hostDeviceId, h.hostSessionId, h.expiresAt, h.live⟩

theorem TermsMove.consume (now : Instant) (h : i.state = .pending) :
    TermsMove i (consumeUse now i) := by
  have hlive : i.isLive = true := decide_eq_true (Or.inl h)
  unfold consumeUse
  split
  · exact ⟨rfl, rfl, rfl, rfl, rfl, rfl, fun _ => hlive⟩
  · exact ⟨rfl, rfl, rfl, rfl, rfl, rfl, fun _ => hlive⟩

/-- **What is cut stays cut.** -/
theorem Cut.step (h : Cut s i) (hs : Step env s e s') (hm : TermsMove i i') : Cut s' i' := by
  cases h with
  | retired h =>
    refine .retired (Bool.eq_false_iff.mpr fun hlive => ?_)
    rw [hm.live hlive] at h
    cases h
  | expired h =>
    refine .expired ?_
    rw [hm.expiresAt]
    exact h.trans hs.clock
  | room row found h epoch =>
    obtain ⟨row', hrow', hstep⟩ := hs.found found
    refine .room row' (by rw [hm.roomId]; exact hrow') ?_ (by
      rw [hm.roomEpoch]; exact epoch.trans hstep.epoch)
    rw [hm.roomEpoch]
    rcases h with hclosed | hlt
    · -- A room that opens again has a new epoch.
      by_cases hopen : row'.state = .opened
      · refine Or.inr (lt_of_le_of_lt epoch (lt_of_le_of_ne hstep.epoch fun heq => ?_))
        exact hclosed (hstep.reopened hopen heq.symm)
      · exact Or.inl hopen
    · exact Or.inr (lt_of_lt_of_le hlt hstep.epoch)
  | device d found id h =>
    obtain ⟨d', hd', hid, hr⟩ := hs.guestEffect.authority.devices d found
    exact .device d' hd' ((hid.trans id).trans hm.hostDeviceId.symm) (hr h)
  | session u found id h =>
    obtain ⟨u', hu', hid, -, hexp, hr⟩ := hs.guestEffect.authority.sessions u found
    refine .session u' hu' ((hid.trans id).trans hm.hostSessionId.symm) ?_
    rcases h with hrevoked | hexpired
    · exact Or.inl (hr hrevoked)
    · rw [hexp]
      exact Or.inr (hexpired.trans hs.clock)

/-- Where the invitations of a step come from. -/
theorem GuestEffect.invitations {db db' : WaveDb} {now : Instant} (h : GuestEffect env db now e db')
    (hi' : i' ∈ db'.guestInvitations) :
    (∃ i ∈ db.guestInvitations, TermsMove i i') ∨
      db.guestInvitations.find i'.invitationId = none := by
  cases h with
  | kept hk =>
    obtain ⟨i, hi, hm⟩ := hk.invitations i' hi'
    exact Or.inl ⟨i, hi, hm.terms⟩
  | issued event hi =>
    obtain ⟨windows, invitations, receipt, receipts, hins, -, rfl⟩ := hi.written
    rcases (Table.mem_insert hins).mp hi' with hold | rfl
    · exact Or.inl ⟨i', hold, (InvitationMove.refl i').terms⟩
    · exact Or.inr (Table.insert_ok.mp hins).1
  | @minted q d gs invitation row stmt event issued room hm =>
    obtain ⟨sessions, receipts, hins, -, rfl⟩ := hm.written
    obtain ⟨i, hi, rfl⟩ := List.mem_map.mp hi'
    refine Or.inl ⟨i, hi, ?_⟩
    by_cases hid : i.invitationId = q.invitationId
    · have heq : i = invitation := Table.eq_of_key hi (Table.mem_of_find issued)
        (hid.trans (Table.key_of_find issued).symm)
      rw [if_pos (decide_eq_true hid)]
      exact .consume now (heq ▸ hm.pending)
    · rw [if_neg (by simpa using hid)]
      exact (InvitationMove.refl i).terms

/-- Where the sessions of a step come from. -/
theorem GuestEffect.sessions {db db' : WaveDb} {now : Instant} {g' : GuestSessionRow}
    (h : GuestEffect env db now e db') (hg' : g' ∈ db'.guestSessions) :
    (∃ g ∈ db.guestSessions, SessionMove g g') ∨ e.drawn = some g'.guestSessionId := by
  cases h with
  | kept hk => exact Or.inl (hk.sessions g' hg')
  | issued event hi =>
    obtain ⟨windows, invitations, receipt, receipts, -, -, rfl⟩ := hi.written
    exact Or.inl ⟨g', hg', .refl g'⟩
  | minted event issued room hm =>
    obtain ⟨sessions, receipts, hins, -, rfl⟩ := hm.written
    rcases (Table.mem_insert hins).mp hg' with hold | rfl
    · exact Or.inl ⟨g', hold, .refl g'⟩
    · rw [event]
      exact Or.inr rfl

/-- **A guest that has ended stays so**, unless its id is drawn again. -/
theorem Ended.step (h : Ended t.system k) (hi : GuestInv t) (hs : GuestStep env t e t')
    (hdraw : e.drawn ≠ some k) : Ended t'.system k := by
  intro g' hg' hk hactive i' hi' hid
  rcases hs.1.guestEffect.sessions hg' with ⟨g, hg, hm⟩ | hdrawn
  · obtain ⟨j, hj, hb⟩ := hi.sessions g hg
    have hjid : j.invitationId = i'.invitationId :=
      hb.invitationId.trans (hm.invitationId.symm.trans hid.symm)
    rcases hs.1.guestEffect.invitations hi' with ⟨i, hi, hmove⟩ | hnone
    · refine Cut.step (h g hg (hm.guestSessionId.symm.trans hk) (hm.active hactive) i hi ?_) hs.1
        hmove
      exact hmove.invitationId.symm.trans (hid.trans hm.invitationId)
    · exact absurd hjid (Table.find_none.mp hnone j hj)
  · exact absurd (hdrawn.trans (congrArg some hk)) hdraw

theorem ended_run {es : List Event} (h : Ended t.system k) (hi : GuestInv t)
    (run : Path (GuestStep env) t es t') (hdraw : ∀ e ∈ es, e.drawn ≠ some k) :
    Ended t'.system k :=
  (run.invariant_on (I := fun t => Ended t.system k ∧ GuestInv t)
    (P := fun e => e.drawn ≠ some k) (fun _ _ _ hd h hs => ⟨h.1.step h.2 hs hd, h.2.step hs⟩) hdraw
    ⟨h, hi⟩).1

theorem Barred.ended (h : Barred t.system g) (hi : GuestInv t)
    (hg : g ∈ t.system.db.guestSessions) : Ended t.system g.guestSessionId := by
  intro g' hg' hk hactive i hmem hid
  have hsame : g' = g := Table.eq_of_key hg' hg hk
  subst hsame
  have hfind : t.system.db.guestInvitations.find g'.invitationId = some i :=
    Table.find_some.mpr ⟨hmem, hid⟩
  obtain ⟨j, hj, hb⟩ := hi.sessions g' hg
  have hji : j = i := Table.eq_of_key hj hmem (hb.invitationId.trans hid.symm)
  subst hji
  have hinv := hi.invitations j hj
  cases h with
  | left h => cases h.symm.trans hactive
  | invitation j' found h =>
    cases hfind.symm.trans found
    rcases h with h | h | h | h
    · exact .retired (isLive_of_state h (by decide) (by decide))
    · exact .retired (isLive_of_state h (by decide) (by decide))
    · exact .retired (isLive_of_state h (by decide) (by decide))
    · exact .expired h
  | room row found h =>
    rw [← hb.roomId] at found
    obtain ⟨row', hrow', hle, -⟩ := hinv.room
    cases hrow'.symm.trans found
    refine .room row found ?_ hle
    rcases h with h | h
    · exact Or.inl h
    · exact Or.inr (lt_of_le_of_ne hle fun heq => h (heq.symm.trans hb.roomEpoch))
  | account j' a found account h =>
    cases hfind.symm.trans found
    -- The account was closed with all its sessions, the issuing one among them.
    obtain ⟨u, hu, hsession, huser⟩ := hinv.issuer
    refine .session u hu hsession (Or.inl (hi.closed a (Table.mem_of_find account) h u hu ?_))
    exact huser.trans (Table.key_of_find account).symm
  | device j' d found device h =>
    cases hfind.symm.trans found
    exact .device d (Table.mem_of_find device) (Table.key_of_find device) h
  | session j' u found session h =>
    cases hfind.symm.trans found
    exact .session u (Table.mem_of_find session) (Table.key_of_find session) h

theorem hostActive_device {db : WaveDb} {now : Instant} {d : DeviceRow}
    (h : hostActive db i now = true) (hd : d ∈ db.devices) (hid : d.deviceId = i.hostDeviceId) :
    d.revokedAt = none := by
  obtain ⟨hleft, -⟩ := Bool.and_eq_true_iff.mp h
  obtain ⟨-, hdevice⟩ := Bool.and_eq_true_iff.mp hleft
  have hfind : db.devices.find i.hostDeviceId = some d := Table.find_some.mpr ⟨hd, hid⟩
  rw [hfind] at hdevice
  exact (of_decide_eq_true hdevice).2

theorem hostActive_session {db : WaveDb} {now : Instant} {u : UserSessionRow}
    (h : hostActive db i now = true) (hu : u ∈ db.sessions) (hid : u.sessionId = i.hostSessionId) :
    u.revokedAt = none ∧ now < u.expiresAt := by
  obtain ⟨-, hsession⟩ := Bool.and_eq_true_iff.mp h
  have hfind : db.sessions.find i.hostSessionId = some u := Table.find_some.mpr ⟨hu, hid⟩
  rw [hfind] at hsession
  exact (of_decide_eq_true hsession).2.2

/-- **A guest that has ended is granted nothing.** -/
theorem Ended.not_granted {accessHash : Digest} {action : GuestAction} {now : Instant}
    {row : GuestSessionRow} {roomRow : RoomRow} (h : Ended t.system row.guestSessionId)
    (hi : GuestInv t) (hle : t.system.clock ≤ now)
    (hg : Granted t.system.db accessHash room action now row i roomRow) : False := by
  have hrow : row ∈ t.system.db.guestSessions := List.mem_of_find?_eq_some hg.session
  have hmem : i ∈ t.system.db.guestInvitations := Table.mem_of_find hg.issued
  have hid : i.invitationId = row.invitationId := Table.key_of_find hg.issued
  cases h row hrow rfl hg.active i hmem hid with
  | retired h => exact absurd hg.live (of_decide_eq_false h)
  | expired h => exact absurd hg.invitationUnexpired (not_lt.mpr (h.trans hle))
  | room row' found h epoch =>
    obtain ⟨j, hj, hb⟩ := hi.sessions row hrow
    have hji : j = i := Table.eq_of_key hj hmem (hb.invitationId.trans hid.symm)
    subst hji
    rw [hb.roomId, hg.inRoom] at found
    cases hg.found.symm.trans found
    rcases h with hclosed | hlt
    · exact hclosed hg.opened
    · exact absurd hg.invitationEpoch (Nat.ne_of_lt hlt)
  | device d found id h => exact h (hostActive_device hg.host found id)
  | session u found id h =>
    obtain ⟨hnone, hlt⟩ := hostActive_session hg.host found id
    rcases h with hrevoked | hexpired
    · exact hrevoked hnone
    · exact absurd hlt (not_lt.mpr (hexpired.trans hle))

end

/-! ## replays -/

/-- **What a redemption leaves to be replayed**: its receipt for 30 days, and a session that ends
within 6 hours. -/
structure Replayable (s : System) (q : RedeemRequest) (d : Redemption) (k : Uuid) (result : Payload)
    (now : Instant) : Prop where
  receipt : s.clock < now + receiptLifetime →
    redeemReceipt q d k result now ∈ s.db.guestReceipts
  session : ∀ g ∈ s.db.guestSessions, g.guestSessionId = k → g.expiresAt ≤ now + seconds 21600

section
variable {env : WaveEnv} {db db' : WaveDb} {t t' : Tally} {e : Event} {q q' : RedeemRequest}
  {d d' : Redemption} {k k' : Uuid} {result : Payload} {now now' stmt : Instant}

/-- A redemption without a receipt lets a guest in. -/
theorem redeemSecond_first (hnone : db.guestReceipts.find q.operationId = none)
    (h : redeemSecond env db q d k now = .ok (result, db')) :
    ∃ invitation row, db.guestInvitations.find q.invitationId = some invitation ∧
      Minted env db q d invitation k now row db' ∧
      result = redeemResult env q (guestSessionRow q d invitation row k now) := by
  unfold redeemSecond at h
  rw [hnone] at h
  split at h
  · rename_i hsome
    cases hsome
  · split at h
    · cases h
    · rename_i invitation hinv
      obtain ⟨row, hm, hresult⟩ := mint_ok h
      exact ⟨invitation, row, (Option.filter_eq_some_iff.mp hinv).1, hm, hresult⟩

/-- A receipt that has not run out stays. -/
theorem GuestEffect.receipts {r : GuestOperationReceiptRow} (h : GuestEffect env db now e db')
    (hr : r ∈ db.guestReceipts) (hlive : now < r.expiresAt) : r ∈ db'.guestReceipts := by
  cases h with
  | kept hk => exact hk.receipts r hr hlive
  | issued event hi =>
    obtain ⟨windows, invitations, receipt, receipts, -, hins, rfl⟩ := hi.written
    exact (Table.mem_insert hins).mpr (Or.inl hr)
  | minted event issued room hm =>
    obtain ⟨sessions, receipts, -, hins, rfl⟩ := hm.written
    exact (Table.mem_insert hins).mpr (Or.inl hr)

theorem Replayable.step (h : Replayable t.system q d k result now) (hs : GuestStep env t e t')
    (hdraw : e.drawn ≠ some k) : Replayable t'.system q d k result now := by
  refine ⟨fun hlive => ?_, fun g' hg' hk => ?_⟩
  · have hbefore := h.receipt (lt_of_le_of_lt hs.1.clock hlive)
    exact hs.1.guestEffect.receipts hbefore hlive
  · rcases hs.1.guestEffect.sessions hg' with ⟨g, hg, hm⟩ | hdrawn
    · rw [hm.expiresAt]
      exact h.session g hg (hm.guestSessionId.symm.trans hk)
    · exact absurd (hdrawn.trans (congrArg some hk)) hdraw

theorem replayable_run {es : List Event} (h : Replayable t.system q d k result now)
    (run : Path (GuestStep env) t es t') (hdraw : ∀ e ∈ es, e.drawn ≠ some k) :
    Replayable t'.system q d k result now :=
  run.invariant_on (I := fun t => Replayable t.system q d k result now)
    (P := fun e => e.drawn ≠ some k) (fun _ _ _ hd h hs => h.step hs hd) hdraw h

/-- A redemption can be replayed. -/
theorem Minted.replayable {s : System} {invitation : GuestInvitationRow} {row : RoomRow} {n : Nat}
    (h : Minted env s.db q d invitation k now row db') (hle : s.clock ≤ now)
    (hi : InvitationInv s n invitation) :
    Replayable ⟨db', now⟩ q d k (redeemResult env q (guestSessionRow q d invitation row k now))
      now := by
  obtain ⟨sessions, receipts, hins, hreceipt, rfl⟩ := h.written
  refine ⟨fun _ => (Table.mem_insert hreceipt).mpr (Or.inr rfl), fun g hg hk => ?_⟩
  rcases (Table.mem_insert hins).mp hg with hold | rfl
  · exact absurd hk (Table.find_none.mp (Table.insert_ok.mp hins).1 g hold)
  · calc min invitation.expiresAt row.expiresAt
      _ ≤ invitation.expiresAt := min_le_left _ _
      _ ≤ invitation.createdAt + seconds 21600 := hi.span
      _ ≤ now + seconds 21600 := Int.add_le_add_right (hi.created.trans hle) _

/-- A replay of another request. -/
theorem documentReplay_conflict {receipt : GuestOperationReceiptRow} {room : Uuid}
    (h : receipt.resultRoomId ≠ some room ∨ receipt.requestSha256 ≠ d.requestHash) :
    documentReplay db receipt d room now = .error (.guest .operationConflict) := by
  refine Result.bind_eq_error.mpr (Or.inl (require_error.mpr ⟨?_, rfl⟩))
  rintro ⟨-, -, hroom, -, hrequest⟩
  rcases h with h | h
  · exact h hroom
  · exact h hrequest

/-- A replay of the same request, with a session that is still usable. -/
theorem documentReplay_same {principal : GuestPrincipal} {room : Uuid}
    (hroom : q.roomId = room) (h : guest db d.accessHash room .roomSnapshot now' = .ok (principal, db'))
    (hk : principal.guestSessionId = k) :
    documentReplay db (redeemReceipt q d k result now) d room now' = .ok (result, db') := by
  refine Result.bind_eq_ok.mpr ⟨(), require_ok.mpr ⟨rfl, rfl, congrArg some hroom, rfl, rfl⟩, ?_⟩
  refine Result.bind_eq_ok.mpr ⟨(), require_ok.mpr rfl, ?_⟩
  refine Result.bind_eq_ok.mpr ⟨(principal, db'), h, ?_⟩
  exact Result.bind_eq_ok.mpr ⟨(), require_ok.mpr (congrArg some hk), rfl⟩

/-- Both transactions of a redemption replay a receipt. -/
theorem redeem_replay (env : WaveEnv) (d : Redemption) (k : Uuid) (now : Instant)
    {receipt : GuestOperationReceiptRow}
    (h : db.guestReceipts.find q.operationId = some receipt) :
    redeemFirst env db q d now = (documentReplay db receipt d q.roomId now).map
      (fun r => (some r.1, r.2)) ∧
      redeemSecond env db q d k now = documentReplay db receipt d q.roomId now := by
  unfold redeemFirst redeemSecond
  rw [h]
  refine ⟨?_, rfl⟩
  show (documentReplay db receipt d q.roomId now >>= _) = _
  cases documentReplay db receipt d q.roomId now with
  | error e => rfl
  | ok r => rfl

end

/-! ## the laws -/

/-- **The laws of invitations**, in one state. -/
structure InvitationLaws (t : Tally) : Prop where
  uses : ∀ i ∈ t.system.db.guestInvitations,
    i.consumedUses = t.uses i.invitationId ∧ i.consumedUses ≤ i.maxUses
  expiries : ∀ g ∈ t.system.db.guestSessions,
    (∃ i, t.system.db.guestInvitations.find g.invitationId = some i ∧ g.expiresAt ≤ i.expiresAt) ∧
      ∃ row, t.system.db.rooms.find g.roomId = some row ∧ g.expiresAt ≤ row.expiresAt

/-- No guest action of a session succeeds from now on. -/
def Denied (db : WaveDb) (clock : Instant) (k : Uuid) : Prop :=
  ∀ accessHash room action now principal db', clock ≤ now →
    guest db accessHash room action now = .ok (principal, db') → principal.guestSessionId ≠ k

/-- **The replays of a redemption**, in one state.  Requests are told apart by their digest; a
request that cannot be read has none. -/
structure Replays (env : WaveEnv) (s : System) (q : RedeemRequest) (d : Redemption) (k : Uuid)
    (result : Payload) (now : Instant) : Prop where
  same : ∀ q' now' principal db' drawn, s.clock ≤ now' → q'.operationId = q.operationId →
    q'.roomId = q.roomId → guest s.db d.accessHash q.roomId .roomSnapshot now' = .ok (principal, db') →
    principal.guestSessionId = k →
      redeemFirst env s.db q' d now' = .ok (some result, db') ∧
      redeemSecond env s.db q' d drawn now' = .ok (result, db') ∧
      db' = guestSeen s.db k now'
  other : ∀ q' d' now' drawn, s.clock < now + receiptLifetime → q'.operationId = q.operationId →
    q'.roomId ≠ q.roomId ∨ d'.requestHash ≠ d.requestHash →
      redeemFirst env s.db q' d' now' = .error (.guest .operationConflict) ∧
      redeemSecond env s.db q' d' drawn now' = .error (.guest .operationConflict)

section
variable {env : WaveEnv} {s : System} {t t' : Tally} {q q' : RedeemRequest} {d d' : Redemption}
  {k drawn : Uuid} {result : Payload} {now now' : Instant}

theorem GuestInv.laws (h : GuestInv t) : InvitationLaws t := by
  refine ⟨fun i hi => ⟨(h.invitations i hi).uses, (h.invitations i hi).bound⟩, fun g hg => ?_⟩
  obtain ⟨i, hi, hb⟩ := h.sessions g hg
  obtain ⟨row, hrow, -, hexp⟩ := (h.invitations i hi).room
  refine ⟨⟨i, Table.find_some.mpr ⟨hi, hb.invitationId⟩, hb.expiresAt⟩, row, ?_, ?_⟩
  · rw [← hb.roomId]
    exact hrow
  · exact hb.expiresAt.trans hexp

theorem Ended.denied (h : Ended t.system k) (hi : GuestInv t) :
    Denied t.system.db t.system.clock k := by
  intro accessHash room action now principal db' hle hok hk
  obtain ⟨row, invitation, roomRow, hg, rfl, -⟩ := guest_ok.mp hok
  subst hk
  exact h.not_granted hi hle hg

theorem Replayable.find (h : Replayable s q d k result now)
    (hlive : s.clock < now + receiptLifetime) (hop : q'.operationId = q.operationId) :
    s.db.guestReceipts.find q'.operationId = some (redeemReceipt q d k result now) :=
  Table.find_some.mpr ⟨h.receipt hlive, hop.symm⟩

theorem Replayable.replays (h : Replayable s q d k result now) : Replays env s q d k result now := by
  constructor
  · intro q' now' principal db' drawn hle hop hroom hguest hk
    obtain ⟨row, invitation, roomRow, hg, rfl, hdb⟩ := guest_ok.mp hguest
    have hrow : row ∈ s.db.guestSessions := List.mem_of_find?_eq_some hg.session
    -- A session that is usable ends long before the receipt.
    have hlive : s.clock < now + receiptLifetime :=
      calc s.clock
        _ ≤ now' := hle
        _ < row.expiresAt := hg.unexpired
        _ ≤ now + seconds 21600 := h.session row hrow hk
        _ ≤ now + receiptLifetime := Int.add_le_add_left (by decide) now
    obtain ⟨hfirst, hsecond⟩ := redeem_replay env d drawn now' (h.find hlive hop)
    have hsame : documentReplay s.db (redeemReceipt q d k result now) d q'.roomId now' =
        .ok (result, db') := documentReplay_same hroom.symm (hroom ▸ hguest) hk
    refine ⟨?_, ?_, ?_⟩
    · rw [hfirst, hsame]
      rfl
    · rw [hsecond, hsame]
    · rw [hdb, ← hk]
      rfl
  · intro q' d' now' drawn hlive hop hother
    obtain ⟨hfirst, hsecond⟩ := redeem_replay env d' drawn now' (h.find hlive hop)
    have hconflict : documentReplay s.db (redeemReceipt q d k result now) d' q'.roomId now' =
        .error (.guest .operationConflict) := by
      refine documentReplay_conflict (hother.imp (fun hroom heq => ?_) fun hhash heq => ?_)
      · exact hroom (Option.some.inj heq).symm
      · exact hhash heq.symm
    refine ⟨?_, ?_⟩
    · rw [hfirst, hconflict]
      rfl
    · rw [hsecond, hconflict]

end

/-- **Invitations are not used too often and do not outlive their authority**: in every state of
every run the uses are the sessions that were created, no more than the maximum, and no session
outlives its invitation or its room; a guest whose authority is gone is denied from then on; and a
redemption that was carried out is only replayed. -/
theorem invitation_laws {env : WaveEnv} {s₀ : System} {t : Tally} {es : List Event}
    (fresh : Fresh s₀.db) (closed : s₀.db.AccountsClosed)
    (run : Path (GuestStep env) ⟨s₀, fun _ => 0⟩ es t) :
    InvitationLaws t ∧
      (∀ g ∈ t.system.db.guestSessions, Barred t.system g → ∀ es' t',
        Path (GuestStep env) t es' t' → (∀ e ∈ es', e.drawn ≠ some g.guestSessionId) →
          Denied t'.system.db t'.system.clock g.guestSessionId) ∧
      ∀ q d k now stmt t₁, readRedemption env q = .ok d →
        t.system.db.guestReceipts.find q.operationId = none →
        GuestStep env t (.commit (.redeemSecond q k) now stmt) t₁ →
          ∃ result, redeemSecond env t.system.db q d k now = .ok (result, t₁.system.db) ∧
            ∀ es' t', Path (GuestStep env) t₁ es' t' → (∀ e ∈ es', e.drawn ≠ some k) →
              Replays env t'.system q d k result now := by
  have hinv : GuestInv t := guestInv_run (fresh.guestInv closed) run
  refine ⟨hinv.laws, fun g hg hbarred es' t' run' hdraw => ?_,
    fun q d k now stmt ⟨s₁, uses₁⟩ hread hnone hstep => ?_⟩
  · have hended := ended_run (hbarred.ended hinv hg) hinv run' hdraw
    exact hended.denied (guestInv_run hinv run')
  · obtain ⟨hs, -, -⟩ := hstep
    cases hs with
    | commit op now stmt db₁ time ok =>
      obtain ⟨d', hread', h₁⟩ := Result.bind_eq_ok.mp ok
      cases hread.symm.trans hread'
      obtain ⟨⟨result, db₂⟩, hsecond, hend⟩ := Result.bind_eq_ok.mp h₁
      cases hend
      refine ⟨result, hsecond, fun es' t' run' hdraw => ?_⟩
      obtain ⟨invitation, row, hfind, hm, rfl⟩ := redeemSecond_first hnone hsecond
      have hi := hinv.invitations invitation (Table.mem_of_find hfind)
      exact (replayable_run (hm.replayable time hi) run' hdraw).replays

/-- A run whose invitations all come from one host that is signed in. -/
theorem guestStep_run {env : WaveEnv} {s s' : System} {es : List Event} {p : Principal}
    {uses : Uuid → Nat} (run : Path (Step env) s es s')
    (signedIn : ∃ u ∈ s.db.sessions, u.sessionId = p.sessionId ∧ u.userId = p.userId)
    (only : ∀ q invitationId now stmt p', .commit (.issue p' q invitationId) now stmt ∈ es → p' = p) :
    ∃ uses', Path (GuestStep env) ⟨s, uses⟩ es ⟨s', uses'⟩ := by
  induction run generalizing uses with
  | nil s => exact ⟨uses, .nil _⟩
  | @cons s s₁ s' e es hs run ih =>
    obtain ⟨u, hu, hid, huser⟩ := signedIn
    obtain ⟨u', hu', hid', huser', -, -⟩ := hs.guestEffect.authority.sessions u hu
    obtain ⟨uses', hpath⟩ : ∃ uses', Path (GuestStep env) ⟨s₁, tally s.db s₁.db uses⟩ es ⟨s', uses'⟩ :=
      ih ⟨u', hu', hid'.trans hid, huser'.trans huser⟩
        fun q k now stmt p' hmem => only q k now stmt p' (List.mem_cons_of_mem _ hmem)
    refine ⟨uses', .cons ⟨hs, fun p' q k now stmt he => ?_, rfl⟩ hpath⟩
    rw [only q k now stmt p' (he ▸ List.mem_cons_self ..)]
    exact ⟨u, hu, hid, huser⟩

namespace Sample

def invitationId : Uuid := ⟨"00000000-0000-4000-8000-00000000a001", by decide⟩
def guestSessionId : Uuid := ⟨"00000000-0000-4000-8000-00000000a002", by decide⟩
def issueId : Uuid := ⟨"00000000-0000-4000-8000-00000000a003", by decide⟩
def redeemId : Uuid := ⟨"00000000-0000-4000-8000-00000000a004", by decide⟩
def revokeId : Uuid := ⟨"00000000-0000-4000-8000-00000000a005", by decide⟩
def documentBearer : String := "AAAAAAAAAAAAAAAAAAAAAAAAAAAAAAAAAAAAAAAAAAA"
def sessionBearer : String := "AAAAAAAAAAAAAAAAAAAAAAAAAAAAAAAAAAAAAAAAAAE"
def documentSecret : Digest := "66687aadf862bd776c8fc18b8e9f8e20089714856ee233b3902a591d0d5f2925"
def accessSecret : Digest := "ec4916dd28fc4c10d78e287ca5d9cc51ee1ae73cbfde08c6b37324cbfaac8bc5"

def invite : IssueRequest := ⟨roomId, issueId, documentBearer, 3600, 1⟩

def ann : RedeemRequest :=
  ⟨invitationId, roomId, redeemId, documentBearer, sessionBearer, "Ann", "source"⟩

/-- The digests of the bearers and the requests that the runs below hash. -/
def requestDigests : List (Payload × Digest) :=
  [(issueDocument documentSecret invite,
      "c541371afe9775ba1415a943ecae1ee1cdaa28fbbfed51e9298cb4a59ccf9bfb"),
   (redeemDocument ann documentSecret accessSecret "Ann",
      "15c65ff31c411a3f3dda6f43b5dbc3bce2e1d742471e0c081a4fe8109a69c09d"),
   ([("invitation_id", .str invitationId.text)],
      "6bfbf5389f81b5c57e06214b4cb9fec5fd9b0993ea415b8d7572624412768341")]

def guestEnv : WaveEnv :=
  { env with
    bearerSha256 := fun bearer =>
      ([(documentBearer, documentSecret), (sessionBearer, accessSecret)].lookup bearer).getD ""
    canonicalSha256 := fun document => (requestDigests.lookup document).getD "" }

/-- A host invites a guest. -/
def invited : List (Op × Instant × Instant) :=
  [(.create host roomId "WAVE42" [], 0, 0), (.issue host invite invitationId, seconds 1, seconds 1)]

/-- A guest has tried to come in. -/
def attempted : List (Op × Instant × Instant) :=
  invited ++ [(.redeemFirst ann, seconds 2, seconds 2)]

/-- The guest comes in. -/
def redeemed : List (Op × Instant × Instant) :=
  attempted ++ [(.redeemSecond ann guestSessionId, seconds 2, seconds 2)]

/-- The host revokes the invitation. -/
def revoked : List (Op × Instant × Instant) :=
  redeemed ++ [(.revoke host invitationId revokeId, seconds 3, seconds 3)]

/-- The state that a list of transactions of guests reaches. -/
def guestReached (ops : List (Op × Instant × Instant)) : System :=
  (play guestEnv ⟨db, 0⟩ ops).getD ⟨db, 0⟩

theorem accountsClosed : db.AccountsClosed := by
  intro a ha hgone
  have hall : db.accounts.rows.all fun a => a.active = true ∧ a.deletedAt = none := by decide
  exact absurd (of_decide_eq_true (List.all_eq_true.mp hall a ha)) hgone

theorem guest_path {ops : List (Op × Instant × Instant)}
    (h : (play guestEnv ⟨db, 0⟩ ops).isSome = true)
    (only : ∀ o ∈ ops, ∀ p q k, o.1 = .issue p q k → p = host) :
    ∃ uses, Path (GuestStep guestEnv) ⟨⟨db, 0⟩, fun _ => 0⟩
      (ops.map fun o => .commit o.1 o.2.1 o.2.2) ⟨guestReached ops, uses⟩ := by
  obtain ⟨s, hs⟩ := Option.isSome_iff_exists.mp h
  have hreached : guestReached ops = s := by
    unfold guestReached
    rw [hs]
    rfl
  rw [hreached]
  have signedIn : ⟨hostSession, hostUser, hostDevice, seconds 86400, none⟩ ∈ db.sessions.rows := by
    decide
  refine guestStep_run (play_path hs) ⟨_, signedIn, rfl, rfl⟩ (p := host)
    fun q k now stmt p hmem => ?_
  obtain ⟨o, ho, heq⟩ := List.mem_map.mp hmem
  injection heq with hop
  exact only o ho p q k hop

theorem only_host {ops : List (Op × Instant × Instant)}
    (h : ops.all (fun o => match o.1 with
      | .issue p _ _ => p = host
      | _ => true) = true) : ∀ o ∈ ops, ∀ p q k, o.1 = .issue p q k → p = host := by
  intro o ho p q k hop
  have hone := List.all_eq_true.mp h o ho
  rw [hop] at hone
  exact of_decide_eq_true hone

end Sample

/-- A guest comes in, and is denied once the invitation is revoked; the redemption can be replayed. -/
theorem invitation_laws_revoked :
    (∃ uses g, InvitationLaws ⟨Sample.guestReached Sample.revoked, uses⟩ ∧
      g ∈ (Sample.guestReached Sample.revoked).db.guestSessions ∧
      Denied (Sample.guestReached Sample.revoked).db (seconds 3) g.guestSessionId) ∧
    ∃ d result db', readRedemption Sample.guestEnv Sample.ann = .ok d ∧
      Replays Sample.guestEnv ⟨db', seconds 2⟩ Sample.ann d Sample.guestSessionId result
        (seconds 2) := by
  constructor
  · have hplay : (play Sample.guestEnv ⟨Sample.db, 0⟩ Sample.revoked).isSome = true := by
      decide +kernel
    obtain ⟨uses, run⟩ := Sample.guest_path hplay (Sample.only_host (by decide +kernel))
    obtain ⟨hlaws, hbarred, -⟩ := invitation_laws Sample.fresh Sample.accountsClosed run
    obtain ⟨g, hg⟩ : ∃ g, (Sample.guestReached Sample.revoked).db.guestSessions.find
        Sample.guestSessionId = some g := Option.isSome_iff_exists.mp (by decide +kernel)
    have hmem := Table.mem_of_find hg
    obtain ⟨i, hi, -⟩ := (hlaws.expiries g hmem).1
    have hstate : ((Sample.guestReached Sample.revoked).db.guestSessions.find
        Sample.guestSessionId).all (fun g => ((Sample.guestReached
          Sample.revoked).db.guestInvitations.find g.invitationId).all
            fun i => i.state = .revoked) = true := by
      decide +kernel
    rw [hg, Option.all_some, hi, Option.all_some] at hstate
    have hdenied := hbarred g hmem (.invitation i hi (Or.inl (of_decide_eq_true hstate))) [] _
      (.nil _) fun e he => absurd he List.not_mem_nil
    exact ⟨uses, g, hlaws, hmem, hdenied⟩
  · have hplay : (play Sample.guestEnv ⟨Sample.db, 0⟩ Sample.attempted).isSome = true := by
      decide +kernel
    obtain ⟨uses, run⟩ := Sample.guest_path hplay (Sample.only_host (by decide +kernel))
    obtain ⟨-, -, hreplays⟩ := invitation_laws Sample.fresh Sample.accountsClosed run
    obtain ⟨d, hread⟩ : ∃ d, readRedemption Sample.guestEnv Sample.ann = .ok d := ⟨_, rfl⟩
    obtain ⟨db', hok⟩ : ∃ db', (Op.redeemSecond Sample.ann Sample.guestSessionId).run Sample.guestEnv
        (Sample.guestReached Sample.attempted).db (seconds 2) (seconds 2) = .ok db' := ⟨_, rfl⟩
    have hnone : (Sample.guestReached Sample.attempted).db.guestReceipts.find Sample.redeemId = none :=
      Option.isNone_iff_eq_none.mp (by decide +kernel)
    have hclock : (Sample.guestReached Sample.attempted).clock ≤ seconds 2 := by decide +kernel
    have hstep : GuestStep Sample.guestEnv ⟨Sample.guestReached Sample.attempted, uses⟩
        (.commit (.redeemSecond Sample.ann Sample.guestSessionId) (seconds 2) (seconds 2))
        ⟨⟨db', seconds 2⟩, tally (Sample.guestReached Sample.attempted).db db' uses⟩ := by
      refine ⟨.commit _ _ _ db' hclock hok, ?_, rfl⟩
      intro p q k now stmt he
      cases he
    obtain ⟨result, -, hall⟩ := hreplays Sample.ann d _ _ _ _ hread hnone hstep
    exact ⟨d, result, db', hread, hall [] _ (.nil _) fun e he => absurd he List.not_mem_nil⟩

/-- A replay with a display name that is not valid is not refused with `operation_conflict`. -/
theorem malformed_replay :
    (∃ es uses, Path (GuestStep Sample.guestEnv) ⟨⟨Sample.db, 0⟩, fun _ => 0⟩ es
      ⟨Sample.guestReached Sample.redeemed, uses⟩) ∧
    (∃ receipt, (Sample.guestReached Sample.redeemed).db.guestReceipts.find Sample.redeemId =
      some receipt ∧ receipt.action = .redeem) ∧
    (∃ r, guest (Sample.guestReached Sample.redeemed).db Sample.accessSecret Sample.roomId
      .roomSnapshot (seconds 3) = .ok r) ∧
    redeem Sample.guestEnv (Sample.guestReached Sample.redeemed).db
      { Sample.ann with displayName := "" } Sample.guestSessionId (seconds 3) =
        .error (.guest .guestInvalid) := by
  have hplay : (play Sample.guestEnv ⟨Sample.db, 0⟩ Sample.redeemed).isSome = true := by
    decide +kernel
  obtain ⟨uses, run⟩ := Sample.guest_path hplay (Sample.only_host (by decide +kernel))
  exact ⟨⟨_, uses, run⟩, ⟨_, rfl, rfl⟩, ⟨_, rfl⟩, rfl⟩

end AutPlay.Wave
