import AutPlay.Wave.Joining

/-!
# Steps of guests

* `Granted`, `guest_ok`    what every guest action passes, and what it leaves;
* `mint_step`              a new guest in a room;
* `issue_frame`, `revoke_frame`, `guestLeave_frame`, `cleanup_frame`, `revokeDevice_frame`, …
                           what leaves every room alone, but for guests that go.
-/

set_option linter.unusedSectionVars false

namespace AutPlay.Wave
open Sync (Uuid Json Payload)
open Table (mem_def)

section
variable {env : WaveEnv} {db db' : WaveDb} {room r : Uuid} {p : Principal} {now stmt : Instant}
  {accessHash : Digest} {action : GuestAction} {principal : GuestPrincipal}
  {asked : Option (Uuid × CommandRequest)}

/-! ## guest actions -/

/-- **A guest action is granted.** -/
structure Granted (db : WaveDb) (accessHash : Digest) (room : Uuid) (action : GuestAction)
    (now : Instant) (row : GuestSessionRow) (invitation : GuestInvitationRow)
    (roomRow : RoomRow) : Prop where
  session : sessionOf db accessHash = some row
  inRoom : row.roomId = room
  issued : db.guestInvitations.find row.invitationId = some invitation
  unexpired : now < row.expiresAt
  invitationUnexpired : now < invitation.expiresAt
  live : invitation.state = .pending ∨ invitation.state = .depleted
  host : hostActive db invitation now = true
  active : row.state = .active
  found : db.rooms.find room = some roomRow
  roomUnexpired : now < roomRow.expiresAt
  opened : roomRow.state = .opened
  sessionEpoch : row.roomEpoch = roomRow.roomEpoch
  invitationEpoch : invitation.roomEpoch = roomRow.roomEpoch
  allowed : action ∈ row.allowedActions
  created : row.createdAt ≤ now

def principalOf (row : GuestSessionRow) : GuestPrincipal :=
  ⟨row.guestSessionId, row.invitationId, row.roomId, row.roomEpoch, row.allowedActions,
    row.expiresAt⟩

theorem key_guestSeen (now : Instant) (s : GuestSessionRow) :
    Schema.key { s with lastPresentAt := some now } = Schema.key s := rfl

theorem index_guestSeen (now : Instant) (s : GuestSessionRow) :
    Schema.index { s with lastPresentAt := some now } = Schema.index s := rfl

/-- The database after a guest was seen. -/
def guestSeen (db : WaveDb) (session : Uuid) (now : Instant) : WaveDb :=
  { db with
    guestSessions := db.guestSessions.updateWhere (fun s => s.guestSessionId = session)
      (fun s => { s with lastPresentAt := some now }) (key_guestSeen now) (index_guestSeen now) }

theorem openRoom_ok {row : RoomRow} :
    openRoom db room now = .ok row ↔
      db.rooms.find room = some row ∧ now < row.expiresAt ∧ row.state = .opened := by
  unfold openRoom
  constructor
  · intro h
    split at h
    · cases h
    · rename_i row' hrow
      obtain ⟨u, hlive, h₁⟩ := Result.bind_eq_ok.mp h
      obtain ⟨u', hopen, hend⟩ := Result.bind_eq_ok.mp h₁
      cases hend
      exact ⟨hrow, (require_ok.mp hlive).2, require_ok.mp hopen⟩
  · rintro ⟨hrow, hlive, hopen⟩
    rw [hrow]
    refine Result.bind_eq_ok.mpr ⟨(), require_ok.mpr ⟨?_, hlive⟩, ?_⟩
    · rw [hopen]
      exact fun h => by cases h
    · exact Result.bind_eq_ok.mpr ⟨(), require_ok.mpr hopen, rfl⟩

theorem guest_ok :
    guest db accessHash room action now = .ok (principal, db') ↔
      ∃ row invitation roomRow, Granted db accessHash room action now row invitation roomRow ∧
        principal = principalOf row ∧ db' = guestSeen db row.guestSessionId now := by
  unfold guest
  constructor
  · intro h
    split at h
    · cases h
    · rename_i row hsession
      obtain ⟨u₁, hroom, h₁⟩ := Result.bind_eq_ok.mp h
      split at h₁
      · cases h₁
      · rename_i invitation hinv
        obtain ⟨u₂, hexp, h₂⟩ := Result.bind_eq_ok.mp h₁
        obtain ⟨u₃, hlive, h₃⟩ := Result.bind_eq_ok.mp h₂
        obtain ⟨u₄, hhost, h₄⟩ := Result.bind_eq_ok.mp h₃
        obtain ⟨u₅, hactive, h₅⟩ := Result.bind_eq_ok.mp h₄
        obtain ⟨roomRow, hopen, h₆⟩ := Result.bind_eq_ok.mp h₅
        obtain ⟨u₆, hepoch, h₇⟩ := Result.bind_eq_ok.mp h₆
        obtain ⟨u₇, hallowed, h₈⟩ := Result.bind_eq_ok.mp h₇
        obtain ⟨u₈, hcreated, hend⟩ := Result.bind_eq_ok.mp h₈
        cases hend
        have hopen := (openRoom_ok).mp hopen
        have hexp := require_ok.mp hexp
        have hepoch := require_ok.mp hepoch
        exact ⟨row, invitation, roomRow, ⟨hsession, require_ok.mp hroom, hinv, hexp.1, hexp.2,
          require_ok.mp hlive, require_ok.mp hhost, require_ok.mp hactive, hopen.1, hopen.2.1,
          hopen.2.2, hepoch.1, hepoch.2, require_ok.mp hallowed, require_ok.mp hcreated⟩, rfl, rfl⟩
  · rintro ⟨row, invitation, roomRow, h, rfl, rfl⟩
    rw [h.session]
    refine Result.bind_eq_ok.mpr ⟨(), require_ok.mpr h.inRoom, ?_⟩
    rw [h.issued]
    refine Result.bind_eq_ok.mpr ⟨(), require_ok.mpr ⟨h.unexpired, h.invitationUnexpired⟩, ?_⟩
    refine Result.bind_eq_ok.mpr ⟨(), require_ok.mpr h.live, ?_⟩
    refine Result.bind_eq_ok.mpr ⟨(), require_ok.mpr h.host, ?_⟩
    refine Result.bind_eq_ok.mpr ⟨(), require_ok.mpr h.active, ?_⟩
    refine Result.bind_eq_ok.mpr ⟨roomRow,
      (openRoom_ok).mpr ⟨h.found, h.roomUnexpired, h.opened⟩, ?_⟩
    refine Result.bind_eq_ok.mpr ⟨(), require_ok.mpr ⟨h.sessionEpoch, h.invitationEpoch⟩, ?_⟩
    refine Result.bind_eq_ok.mpr ⟨(), require_ok.mpr h.allowed, ?_⟩
    exact Result.bind_eq_ok.mpr ⟨(), require_ok.mpr h.created, rfl⟩

/-- An update of guests by which none becomes present. -/
theorem frame_updateGuests (db : WaveDb) (q : GuestSessionRow → Bool)
    (f : GuestSessionRow → GuestSessionRow) (hk hi) (hroom : ∀ g, (f g).roomId = g.roomId)
    (hf : ∀ t g, (f g).isPresent t = true → g.isPresent t = true) (r : Uuid) :
    Frame db { db with guestSessions := db.guestSessions.updateWhere q f hk hi } r := by
  refine ⟨rfl, rfl, rfl, rfl, ?_⟩
  show Fewer _ ((db.guestSessions.updateWhere q f hk hi).rows.filter _)
  rw [Table.filter_updateWhere]
  · refine .map _ fun t g hg => ?_
    split at hg
    · exact hf t g hg
    · exact hg
  · intro g
    rw [hroom]

theorem frame_guestSeen (db : WaveDb) (session : Uuid) (now : Instant) (r : Uuid) :
    Frame db (guestSeen db session now) r := by
  apply frame_updateGuests
  · exact fun _ => rfl
  · exact fun _ _ => id

theorem guest_frame (h : guest db accessHash room action now = .ok (principal, db')) (r : Uuid) :
    Frame db db' r := by
  obtain ⟨row, invitation, roomRow, -, -, rfl⟩ := (guest_ok).mp h
  exact frame_guestSeen db row.guestSessionId now r

theorem guestAction_frame {bearer : String}
    (h : guestAction env db bearer room action now = .ok (principal, db')) (r : Uuid) :
    Frame db db' r := by
  obtain ⟨accessHash, -, h₁⟩ := Result.bind_eq_ok.mp h
  exact guest_frame h₁ r

theorem guestPreflight_frame {bearer : String} {queueEntryId recordingId : Uuid}
    {queueVersion : Nat} {availability : Availability} {finalReady : Bool}
    (h : guestPreflight env db bearer room queueEntryId recordingId queueVersion availability
      finalReady now = .ok db') (r : Uuid) : Frame db db' r := by
  obtain ⟨⟨principal, db₁⟩, hguest, h₁⟩ := Result.bind_eq_ok.mp h
  obtain ⟨u, -, hend⟩ := Result.bind_eq_ok.mp h₁
  cases hend
  exact (guestAction_frame hguest r).trans (.of_tables r rfl rfl rfl rfl rfl)

theorem guestTiming_frame {bearer : String} {t : TimingRequest}
    (h : guestTiming env db bearer room t now = .ok db') (r : Uuid) : Frame db db' r := by
  obtain ⟨u, -, h₁⟩ := Result.bind_eq_ok.mp h
  obtain ⟨⟨principal, db₁⟩, hguest, hend⟩ := Result.bind_eq_ok.mp h₁
  cases hend
  exact (guestAction_frame hguest r).trans (.of_tables r rfl rfl rfl rfl rfl)

theorem insertReceipt_ok {receipt : GuestOperationReceiptRow} :
    insertReceipt db receipt = .ok db' ↔ ∃ receipts, db.guestReceipts.insert receipt = .ok receipts ∧
      db' = { db with guestReceipts := receipts } := by
  unfold insertReceipt
  rw [Result.bind_eq_ok]
  constructor
  · rintro ⟨receipts, hi, hend⟩
    cases hend
    exact ⟨receipts, insertInto_ok.mp hi, rfl⟩
  · rintro ⟨receipts, hi, rfl⟩
    exact ⟨receipts, insertInto_ok.mpr hi, rfl⟩

theorem insertReceipt_frame {receipt : GuestOperationReceiptRow}
    (h : insertReceipt db receipt = .ok db') (r : Uuid) : Frame db db' r := by
  obtain ⟨receipts, -, rfl⟩ := (insertReceipt_ok).mp h
  exact .of_tables r rfl rfl rfl rfl rfl

def guestGoneRow (now : Instant) (s : GuestSessionRow) : GuestSessionRow :=
  { s with
    state := .left, leftAt := some now, terminalAt := some now,
    terminalReason := some "GUEST_LEFT" }

theorem key_guestGoneRow (now : Instant) (s : GuestSessionRow) :
    Schema.key (guestGoneRow now s) = Schema.key s := rfl

theorem index_guestGoneRow (now : Instant) (s : GuestSessionRow) :
    Schema.index (guestGoneRow now s) = Schema.index s := rfl

/-- The database after a guest left. -/
def guestGone (db : WaveDb) (session : Uuid) (now : Instant) : WaveDb :=
  { db with
    guestSessions := db.guestSessions.updateWhere (fun s => s.guestSessionId = session)
      (guestGoneRow now) (key_guestGoneRow now) (index_guestGoneRow now) }

theorem frame_guestGone (db : WaveDb) (session : Uuid) (now : Instant) (r : Uuid) :
    Frame db (guestGone db session now) r := by
  apply frame_updateGuests
  · exact fun _ => rfl
  · intro t g hg
    cases (of_decide_eq_true hg).1

theorem guestLeave_frame {bearer : String} {operationId : Uuid} {result : Payload}
    (h : guestLeave env db bearer room operationId now = .ok (result, db')) (r : Uuid) :
    Frame db db' r := by
  obtain ⟨accessHash, -, h₁⟩ := Result.bind_eq_ok.mp h
  dsimp only at h₁
  split at h₁
  · cases h₁
  · rename_i row hrow
    split at h₁
    · obtain ⟨u, -, hend⟩ := Result.bind_eq_ok.mp h₁
      cases hend
      exact .refl ..
    · obtain ⟨⟨principal, db₁⟩, hguest, h₂⟩ := Result.bind_eq_ok.mp h₁
      obtain ⟨db₂, hreceipt, hend⟩ := Result.bind_eq_ok.mp h₂
      cases hend
      exact ((guest_frame hguest r).trans (frame_guestGone db₁ row.guestSessionId now r)).trans
        (insertReceipt_frame hreceipt r)

/-! ## invitations -/

theorem rate_ok {scope : RateScope} {subject : Digest} {limit : Nat}
    (h : rate env db scope subject limit now = .ok db') :
    ∃ windows, db' = { db with guestRateWindows := windows } := by
  unfold rate at h
  dsimp only at h
  split at h
  · obtain ⟨windows, -, hend⟩ := Result.bind_eq_ok.mp h
    cases hend
    exact ⟨_, rfl⟩
  · split at h
    · cases h
      exact ⟨_, rfl⟩
    · obtain ⟨u, -, hend⟩ := Result.bind_eq_ok.mp h
      cases hend
      exact ⟨_, rfl⟩

theorem rate_frame {scope : RateScope} {subject : Digest} {limit : Nat}
    (h : rate env db scope subject limit now = .ok db') (r : Uuid) : Frame db db' r := by
  obtain ⟨windows, rfl⟩ := rate_ok h
  exact .of_tables r rfl rfl rfl rfl rfl

theorem issue_frame {q : IssueRequest} {invitationId : Uuid} {result : Payload}
    (h : issue env db p q invitationId now = .ok (result, db')) (r : Uuid) : Frame db db' r := by
  obtain ⟨secret, -, h₁⟩ := Result.bind_eq_ok.mp h
  obtain ⟨u₁, -, h₂⟩ := Result.bind_eq_ok.mp h₁
  obtain ⟨row, -, h₃⟩ := Result.bind_eq_ok.mp h₂
  split at h₃
  · obtain ⟨replayed, -, hend⟩ := Result.bind_eq_ok.mp h₃
    cases hend
    exact .refl ..
  · obtain ⟨db₁, hrate, h₄⟩ := Result.bind_eq_ok.mp h₃
    obtain ⟨u₂, -, h₅⟩ := Result.bind_eq_ok.mp h₄
    obtain ⟨u₃, -, h₆⟩ := Result.bind_eq_ok.mp h₅
    obtain ⟨invitations, -, h₇⟩ := Result.bind_eq_ok.mp h₆
    obtain ⟨db₂, hreceipt, hend⟩ := Result.bind_eq_ok.mp h₇
    cases hend
    refine ((rate_frame hrate r).trans ?_).trans (insertReceipt_frame hreceipt r)
    exact .of_tables r rfl rfl rfl rfl rfl

theorem revoke_frame {invitationId operationId : Uuid} {result : Payload}
    (h : revoke env db p invitationId operationId now stmt = .ok (result, db')) (r : Uuid) :
    Frame db db' r := by
  unfold revoke at h
  dsimp only at h
  split at h
  · cases h
  · rename_i invitation hinv
    obtain ⟨row, -, h₁⟩ := Result.bind_eq_ok.mp h
    split at h₁
    · obtain ⟨replayed, -, hend⟩ := Result.bind_eq_ok.mp h₁
      cases hend
      exact .refl ..
    · obtain ⟨u, -, h₂⟩ := Result.bind_eq_ok.mp h₁
      obtain ⟨db₁, hreceipt, hend⟩ := Result.bind_eq_ok.mp h₂
      cases hend
      refine Frame.trans ?_ (insertReceipt_frame hreceipt r)
      split
      · exact frame_updateInvitations ..
      · exact .refl ..

/-! ## redemption -/

theorem documentReplay_frame {receipt : GuestOperationReceiptRow} {q : Redemption}
    {result : Payload} (h : documentReplay db receipt q room now = .ok (result, db')) (r : Uuid) :
    Frame db db' r := by
  obtain ⟨u₁, -, h₁⟩ := Result.bind_eq_ok.mp h
  obtain ⟨u₂, -, h₂⟩ := Result.bind_eq_ok.mp h₁
  obtain ⟨⟨principal, db₁⟩, hguest, h₃⟩ := Result.bind_eq_ok.mp h₂
  obtain ⟨u₃, -, hend⟩ := Result.bind_eq_ok.mp h₃
  cases hend
  exact guest_frame hguest r

theorem redeemFirst_frame {q : RedeemRequest} {d : Redemption} {result : Option Payload}
    (h : redeemFirst env db q d now = .ok (result, db')) (r : Uuid) : Frame db db' r := by
  unfold redeemFirst at h
  split at h
  · obtain ⟨⟨replayed, db₁⟩, hreplay, hend⟩ := Result.bind_eq_ok.mp h
    cases hend
    exact documentReplay_frame hreplay r
  · obtain ⟨db₁, hrate₁, h₁⟩ := Result.bind_eq_ok.mp h
    obtain ⟨db₂, hrate₂, hend⟩ := Result.bind_eq_ok.mp h₁
    cases hend
    exact (rate_frame hrate₁ r).trans (rate_frame hrate₂ r)

/-- The receipt of a redemption. -/
def redeemReceipt (q : RedeemRequest) (d : Redemption) (guestSessionId : Uuid) (result : Payload)
    (now : Instant) : GuestOperationReceiptRow where
  operationId := q.operationId
  actorKind := .document
  actorUserId := none
  actorDeviceId := none
  actorSecretSha256 := some d.documentHash
  actorGuestSessionId := none
  action := .redeem
  requestSha256 := d.requestHash
  resultInvitationId := some q.invitationId
  resultGuestSessionId := some guestSessionId
  resultRoomId := some q.roomId
  result := result
  expiresAt := now + receiptLifetime
  createdAt := now

/-- **A guest comes in.** -/
structure Minted (env : WaveEnv) (db : WaveDb) (q : RedeemRequest) (d : Redemption)
    (invitation : GuestInvitationRow) (guestSessionId : Uuid) (now : Instant) (row : RoomRow)
    (db' : WaveDb) : Prop where
  unexpired : now < invitation.expiresAt
  pending : invitation.state = .pending
  found : db.rooms.find q.roomId = some row
  roomUnexpired : now < row.expiresAt
  opened : row.state = .opened
  epoch : row.roomEpoch = invitation.roomEpoch
  free : participantCount db q.roomId now < 8
  fresh : sessionOf db d.accessHash = none
  written : ∃ sessions receipts,
    db.guestSessions.insert (guestSessionRow q d invitation row guestSessionId now) = .ok sessions ∧
    db.guestReceipts.insert (redeemReceipt q d guestSessionId (redeemResult env q
      (guestSessionRow q d invitation row guestSessionId now)) now) = .ok receipts ∧
    db' = { db with
      guestSessions := sessions
      guestInvitations := db.guestInvitations.updateWhere
        (fun i => i.invitationId = q.invitationId) (consumeUse now) (consumeUse_invitationId now)
        (fun i => congrArg some (consumeUse_secret now i))
      guestReceipts := receipts }

theorem mint_ok {q : RedeemRequest} {d : Redemption} {invitation : GuestInvitationRow}
    {guestSessionId : Uuid} {result : Payload}
    (h : mint env db q d invitation guestSessionId now = .ok (result, db')) :
    ∃ row, Minted env db q d invitation guestSessionId now row db' ∧
      result = redeemResult env q (guestSessionRow q d invitation row guestSessionId now) := by
  obtain ⟨u₁, hexp, h₁⟩ := Result.bind_eq_ok.mp h
  obtain ⟨u₂, hpending, h₂⟩ := Result.bind_eq_ok.mp h₁
  obtain ⟨row, hopen, h₃⟩ := Result.bind_eq_ok.mp h₂
  obtain ⟨u₃, hepoch, h₄⟩ := Result.bind_eq_ok.mp h₃
  obtain ⟨u₄, hfree, h₅⟩ := Result.bind_eq_ok.mp h₄
  obtain ⟨u₅, hfresh, h₆⟩ := Result.bind_eq_ok.mp h₅
  obtain ⟨sessions, hsessions, h₇⟩ := Result.bind_eq_ok.mp h₆
  obtain ⟨db₁, hreceipt, hend⟩ := Result.bind_eq_ok.mp h₇
  cases hend
  obtain ⟨receipts, hr, rfl⟩ := (insertReceipt_ok).mp hreceipt
  have hopen := (openRoom_ok).mp hopen
  exact ⟨row, ⟨require_ok.mp hexp, require_ok.mp hpending, hopen.1, hopen.2.1, hopen.2.2,
    require_ok.mp hepoch, require_ok.mp hfree, require_ok.mp hfresh, sessions, receipts,
    insertInto_ok.mp hsessions, hr, rfl⟩, rfl⟩

theorem Minted.step {q : RedeemRequest} {d : Redemption} {invitation : GuestInvitationRow}
    {guestSessionId : Uuid} {row : RoomRow}
    (h : Minted env db q d invitation guestSessionId now row db') (r : Uuid) :
    StepAt asked now db db' r := by
  obtain ⟨sessions, receipts, hs, hr, rfl⟩ := h.written
  have hfilter := Table.filter_insert hs (fun g => decide (g.roomId = r))
  rw [show (guestSessionRow q d invitation row guestSessionId now).roomId = q.roomId from rfl]
    at hfilter
  by_cases hroom : q.roomId = r
  · subst hroom
    rw [if_pos (decide_eq_true rfl)] at hfilter
    have hfree := h.free
    refine .stepped ⟨row, _, _, _, _⟩ ⟨row, _, _, _, _⟩
      (view_eq_some.mpr ⟨h.found, rfl, rfl, rfl, rfl⟩)
      (view_eq_some.mpr ⟨h.found, rfl, rfl, rfl, hfilter⟩)
      ⟨.quiet rfl rfl rfl, .quiet rfl rfl, .refl _, fun hh hl => ?_, fun t ht h8 => ?_⟩
    · exact (hh hl).map (List.map_id _).symm (fun _ => rfl) (fun _ => rfl) (fun _ _ => id) rfl
    · have hone : [guestSessionRow q d invitation row guestSessionId now].countP
          (GuestSessionRow.isPresent t) ≤ 1 := List.countP_le_length
      have hmono : (db.guestsOf q.roomId).countP (GuestSessionRow.isPresent t) ≤
          (db.guestsOf q.roomId).countP (GuestSessionRow.isPresent now) :=
        List.countP_mono_left fun g _ hg => g.isPresent_mono ht hg
      unfold participantCount at hfree
      unfold RoomView.participants
      rw [List.countP_append]
      show (db.membersOf q.roomId).countP _ + ((db.guestsOf q.roomId).countP _ + _) ≤ 8
      omega
  · rw [if_neg (by simpa using hroom), List.append_nil] at hfilter
    refine Frame.stepAt ⟨rfl, rfl, rfl, rfl, ?_⟩
    show Fewer _ (sessions.rows.filter _)
    rw [hfilter]
    exact .refl _

theorem redeemSecond_step {q : RedeemRequest} {d : Redemption} {guestSessionId : Uuid}
    {result : Payload} (h : redeemSecond env db q d guestSessionId now = .ok (result, db'))
    (r : Uuid) : StepAt asked now db db' r := by
  unfold redeemSecond at h
  split at h
  · exact (documentReplay_frame h r).stepAt
  · split at h
    · cases h
    · rename_i invitation hinv
      obtain ⟨row, hm, -⟩ := mint_ok h
      exact hm.step r

/-! ## what retires guests -/

theorem frame_expireSessions (db : WaveDb) (now : Instant) (limit : Nat) (r : Uuid) :
    Frame db (expireSessions db now limit) r := by
  apply frame_updateGuests
  · exact fun _ => rfl
  · intro t g hg
    cases (of_decide_eq_true hg).1

theorem purgeSessions_frame {limit : Nat} (h : purgeSessions db now limit = .ok db') (r : Uuid) :
    Frame db db' r := by
  obtain ⟨u, -, hend⟩ := Result.bind_eq_ok.mp h
  cases hend
  refine ⟨rfl, rfl, rfl, rfl, ?_⟩
  show Fewer (db.guestSessions.rows.filter _) ((db.guestSessions.eraseWhere _).rows.filter _)
  rw [Table.eraseWhere_rows, List.filter_comm]
  exact .filter _

theorem cleanup_frame {limit : Int} (h : cleanup db now limit stmt = .ok db') (r : Uuid) :
    Frame db db' r := by
  obtain ⟨u, -, h₁⟩ := Result.bind_eq_ok.mp h
  obtain ⟨db₁, hpurge, hend⟩ := Result.bind_eq_ok.mp h₁
  cases hend
  have hexpire : Frame db (expireInvitations db now limit.toNat stmt) r := by
    apply frame_updateInvitations
    exact fun _ => rfl
  refine (((hexpire.trans (frame_expireSessions _ now limit.toNat r)).trans ?_).trans
    (purgeSessions_frame hpurge r)).trans ?_
  · exact .of_tables r rfl rfl rfl rfl rfl
  · exact .of_tables r rfl rfl rfl rfl rfl

theorem revokeDevice_frame (db : WaveDb) (device : Uuid) (revokedAt stmt : Instant) (r : Uuid) :
    Frame db (revokeDevice db device revokedAt stmt) r := by
  unfold revokeDevice
  split
  · exact .refl ..
  · refine Frame.trans ?_ (frame_updateInvitations ..)
    exact .of_tables r rfl rfl rfl rfl rfl

theorem revokeSession_frame (db : WaveDb) (session : Uuid) (revokedAt stmt : Instant) (r : Uuid) :
    Frame db (revokeSession db session revokedAt stmt) r := by
  unfold revokeSession
  split
  · exact .refl ..
  · refine Frame.trans ?_ (frame_updateInvitations ..)
    exact .of_tables r rfl rfl rfl rfl rfl

theorem setAccount_frame (db : WaveDb) (user : Uuid) (active : Bool) (deletedAt : Option Instant)
    (now stmt : Instant) (r : Uuid) :
    Frame db (setAccount db user active deletedAt now stmt) r := by
  unfold setAccount
  dsimp only
  split
  · exact .refl ..
  · split
    · exact .of_tables r rfl rfl rfl rfl rfl
    · refine Frame.trans ?_ (frame_updateInvitations ..)
      exact .of_tables r rfl rfl rfl rfl rfl

end

end AutPlay.Wave
