import AutPlay.Lib.Run
import AutPlay.Wave.Commands
import AutPlay.Wave.GuestSteps
import AutPlay.Wave.Lifecycle

/-!
# Runs of the room service

Transactions of any devices and guests, one after another, each at a time no earlier than the last.

* `Op`, `Op.run`      the transactions;
* `Op.step`           what any of them does to every room;
* `Step`, `Fresh`     runs, from a database without rooms;
* `RoomInv`           what holds of every room that is reached.
-/

set_option linter.unusedSectionVars false

namespace AutPlay.Wave
open Sync (Uuid Json Payload)

/-- **The transactions**: those that only read are the ones that note the presence of their caller.
`command` is its second phase, the first one writes nothing. -/
inductive Op
  | create (p : Principal) (roomId : Uuid) (code : String) (allowUsers : List Uuid)
  | join (code : String) (p : Principal)
  | snapshot (room : Uuid) (p : Principal)
  | catchUp (room : Uuid) (p : Principal)
  | leave (room : Uuid) (p : Principal)
  | close (room : Uuid) (p : Principal)
  | transferHost (room : Uuid) (p : Principal) (targetDevice : Uuid)
  | recoverHost (room : Uuid)
  | expireDue (limit : Int)
  | command (room : Uuid) (p : Principal) (q : CommandRequest) (entryId : Uuid)
  | preflight (room : Uuid) (p : Principal) (queueEntryId recordingId : Uuid) (queueVersion : Nat)
      (availability : Availability) (finalReady : Bool)
  | timing (room : Uuid) (p : Principal) (t : TimingRequest)
  | start (room : Uuid) (p : Principal) (q : StartRequest)
  | issue (p : Principal) (q : IssueRequest) (invitationId : Uuid)
  | revoke (p : Principal) (invitationId operationId : Uuid)
  | guestAction (bearer : String) (room : Uuid) (action : GuestAction)
  | guestPreflight (bearer : String) (room queueEntryId recordingId : Uuid) (queueVersion : Nat)
      (availability : Availability) (finalReady : Bool)
  | guestTiming (bearer : String) (room : Uuid) (t : TimingRequest)
  | guestLeave (bearer : String) (room operationId : Uuid)
  | redeemFirst (q : RedeemRequest)
  | redeemSecond (q : RedeemRequest) (guestSessionId : Uuid)
  | cleanup (limit : Int)
  | revokeDevice (device : Uuid) (revokedAt : Instant)
  | revokeSession (session : Uuid) (revokedAt : Instant)
  | setAccount (user : Uuid) (active : Bool) (deletedAt : Option Instant)
  | acceptInvitation (p : Principal) (invitationId operationId : Uuid) (facts : SocialFacts)

/-- The database that a transaction commits. -/
def Op.run (env : WaveEnv) (db : WaveDb) (now stmt : Instant) : Op → Except WaveError WaveDb
  | .create p roomId code allowUsers => Wave.create env db p roomId code allowUsers now
  | .join code p => (Wave.join env db code p now).map Prod.snd
  | .snapshot room p => (readSnapshot db room p now).map Prod.snd
  | .catchUp room p => requireMember db room p now
  | .leave room p => Wave.leave env db room p now stmt
  | .close room p => Wave.close env db room p now stmt
  | .transferHost room p targetDevice => Wave.transferHost env db room p targetDevice now
  | .recoverHost room => (Wave.recoverHost env db room now stmt).map Prod.snd
  | .expireDue limit => (Wave.expireDue env db now limit stmt).map Prod.snd
  | .command room p q entryId => (commandLocked db room p q entryId now).map Prod.snd
  | .preflight room p queueEntryId recordingId queueVersion availability finalReady =>
    Wave.preflight db room p queueEntryId recordingId queueVersion availability finalReady now
  | .timing room p t => Wave.timing db room p t now
  | .start room p q => (Wave.start env db room p q now).map Prod.snd
  | .issue p q invitationId => (Wave.issue env db p q invitationId now).map Prod.snd
  | .revoke p invitationId operationId =>
    (Wave.revoke env db p invitationId operationId now stmt).map Prod.snd
  | .guestAction bearer room action =>
    (Wave.guestAction env db bearer room action now).map Prod.snd
  | .guestPreflight bearer room queueEntryId recordingId queueVersion availability finalReady =>
    Wave.guestPreflight env db bearer room queueEntryId recordingId queueVersion availability
      finalReady now
  | .guestTiming bearer room t => Wave.guestTiming env db bearer room t now
  | .guestLeave bearer room operationId =>
    (Wave.guestLeave env db bearer room operationId now).map Prod.snd
  | .redeemFirst q => do
    let r ← readRedemption env q
    let (_, db) ← Wave.redeemFirst env db q r now
    return db
  | .redeemSecond q guestSessionId => do
    let r ← readRedemption env q
    let (_, db) ← Wave.redeemSecond env db q r guestSessionId now
    return db
  | .cleanup limit => Wave.cleanup db now limit stmt
  | .revokeDevice device revokedAt => .ok (Wave.revokeDevice db device revokedAt stmt)
  | .revokeSession session revokedAt => .ok (Wave.revokeSession db session revokedAt stmt)
  | .setAccount user active deletedAt => .ok (Wave.setAccount db user active deletedAt now stmt)
  | .acceptInvitation p invitationId operationId facts =>
    (Wave.acceptInvitation env db p invitationId operationId facts now).map Prod.snd

theorem map_snd_ok {α β : Type} {x : Except WaveError (α × β)} {b : β}
    (h : x.map Prod.snd = .ok b) : ∃ a, x = .ok (a, b) := by
  cases x with
  | error e => cases h
  | ok y =>
    cases h
    exact ⟨y.1, rfl⟩

section
variable {env : WaveEnv} {db db' : WaveDb} {now stmt : Instant}

/-- The request of the host that a transaction carries out, with its room. -/
def Op.asked : Op → Option (Uuid × CommandRequest)
  | .command room _ q _ => some (room, q)
  | _ => none

/-- **What a transaction does to every room.** -/
theorem Op.step {op : Op} (h : op.run env db now stmt = .ok db') (r : Uuid) :
    StepAt op.asked now db db' r := by
  cases op with
  | create p roomId code allowUsers => exact create_step h r
  | join code p =>
    obtain ⟨value, h⟩ := map_snd_ok h
    exact join_step h r
  | snapshot room p =>
    obtain ⟨value, h⟩ := map_snd_ok h
    exact readSnapshot_step h r
  | catchUp room p =>
    obtain ⟨-, rfl⟩ := requireMember_ok h
    exact touched_step db room p.deviceId now r
  | leave room p => exact leave_step h r
  | close room p => exact close_step h r
  | transferHost room p targetDevice => exact transferHost_step h r
  | recoverHost room =>
    obtain ⟨host, h⟩ := map_snd_ok h
    exact recoverHost_step h r
  | expireDue limit =>
    obtain ⟨count, h⟩ := map_snd_ok h
    exact expireDue_step h r
  | command room p q entryId =>
    obtain ⟨result, h⟩ := map_snd_ok h
    exact commandLocked_step h r
  | preflight room p queueEntryId recordingId queueVersion availability finalReady =>
    exact preflight_step h r
  | timing room p t => exact timing_step h r
  | start room p q =>
    obtain ⟨result, h⟩ := map_snd_ok h
    exact start_step h r
  | issue p q invitationId =>
    obtain ⟨result, h⟩ := map_snd_ok h
    exact (issue_frame h r).stepAt
  | revoke p invitationId operationId =>
    obtain ⟨result, h⟩ := map_snd_ok h
    exact (revoke_frame h r).stepAt
  | guestAction bearer room action =>
    obtain ⟨principal, h⟩ := map_snd_ok h
    exact (guestAction_frame h r).stepAt
  | guestPreflight bearer room queueEntryId recordingId queueVersion availability finalReady =>
    exact (guestPreflight_frame h r).stepAt
  | guestTiming bearer room t => exact (guestTiming_frame h r).stepAt
  | guestLeave bearer room operationId =>
    obtain ⟨result, h⟩ := map_snd_ok h
    exact (guestLeave_frame h r).stepAt
  | redeemFirst q =>
    obtain ⟨d, -, h₁⟩ := Result.bind_eq_ok.mp h
    obtain ⟨⟨result, db₁⟩, hfirst, hend⟩ := Result.bind_eq_ok.mp h₁
    cases hend
    exact (redeemFirst_frame hfirst r).stepAt
  | redeemSecond q guestSessionId =>
    obtain ⟨d, -, h₁⟩ := Result.bind_eq_ok.mp h
    obtain ⟨⟨result, db₁⟩, hsecond, hend⟩ := Result.bind_eq_ok.mp h₁
    cases hend
    exact redeemSecond_step hsecond r
  | cleanup limit => exact (cleanup_frame h r).stepAt
  | revokeDevice device revokedAt =>
    cases h
    exact (revokeDevice_frame db device revokedAt stmt r).stepAt
  | revokeSession session revokedAt =>
    cases h
    exact (revokeSession_frame db session revokedAt stmt r).stepAt
  | setAccount user active deletedAt =>
    cases h
    exact (setAccount_frame db user active deletedAt now stmt r).stepAt
  | acceptInvitation p invitationId operationId facts =>
    obtain ⟨result, h⟩ := map_snd_ok h
    exact acceptInvitation_step h r

end

/-! ## runs -/

/-- **What other services do**: accounts, devices, sessions and friend invitations come into being, a
new account usable, and a new session only of a usable account.  Nothing that exists is revoked in
passing: that is `revokeDevice`, `revokeSession`, `setAccount`. -/
structure Outside (db db' : WaveDb) : Prop where
  rooms : db'.rooms = db.rooms
  members : db'.members = db.members
  allowed : db'.allowed = db.allowed
  queueEntries : db'.queueEntries = db.queueEntries
  commands : db'.commands = db.commands
  preflights : db'.preflights = db.preflights
  timingReports : db'.timingReports = db.timingReports
  guestInvitations : db'.guestInvitations = db.guestInvitations
  guestSessions : db'.guestSessions = db.guestSessions
  guestReceipts : db'.guestReceipts = db.guestReceipts
  guestPreflights : db'.guestPreflights = db.guestPreflights
  guestTimingReports : db'.guestTimingReports = db.guestTimingReports
  guestRateWindows : db'.guestRateWindows = db.guestRateWindows
  accounts : ∀ k row, db.accounts.find k = some row → db'.accounts.find k = some row
  devices : ∀ k row, db.devices.find k = some row →
    ∃ name, db'.devices.find k = some { row with deviceName := name }
  sessions : ∀ k row, db.sessions.find k = some row → db'.sessions.find k = some row
  registered : ∀ row ∈ db'.accounts, row ∈ db.accounts ∨ (row.active = true ∧ row.deletedAt = none)
  signedIn : ∀ row ∈ db'.sessions, row ∈ db.sessions ∨ accountUsable db' row.userId = true

structure System where
  db : WaveDb
  clock : Instant

inductive Event
  | commit (op : Op) (now stmt : Instant)
  | outside

def Event.asked : Event → Option (Uuid × CommandRequest)
  | .commit op _ _ => op.asked
  | .outside => none

/-- A transaction commits, no earlier than the last one; or another service does something. -/
inductive Step (env : WaveEnv) : System → Event → System → Prop
  | commit {s : System} (op : Op) (now stmt : Instant) (db' : WaveDb) (time : s.clock ≤ now)
      (ok : op.run env s.db now stmt = .ok db') : Step env s (.commit op now stmt) ⟨db', now⟩
  | outside {s : System} (db' : WaveDb) (other : Outside s.db db') :
      Step env s .outside ⟨db', s.clock⟩

/-- No room was ever created. -/
structure Fresh (db : WaveDb) : Prop where
  rooms : db.rooms = .empty
  members : db.members = .empty
  allowed : db.allowed = .empty
  queueEntries : db.queueEntries = .empty
  commands : db.commands = .empty
  preflights : db.preflights = .empty
  timingReports : db.timingReports = .empty
  guestInvitations : db.guestInvitations = .empty
  guestSessions : db.guestSessions = .empty
  guestReceipts : db.guestReceipts = .empty
  guestPreflights : db.guestPreflights = .empty
  guestTimingReports : db.guestTimingReports = .empty

theorem Outside.frame {db db' : WaveDb} (h : Outside db db') (r : Uuid) : Frame db db' r :=
  .of_tables r h.rooms h.commands h.queueEntries h.members h.guestSessions

/-- A step, on the view of every room. -/
theorem Step.at {env : WaveEnv} {s s' : System} {e : Event} (h : Step env s e s') (r : Uuid) :
    s.clock ≤ s'.clock ∧ StepAt e.asked s'.clock s.db s'.db r := by
  cases h with
  | commit op now stmt db' time ok => exact ⟨time, op.step ok r⟩
  | outside db' other => exact ⟨le_refl _, (other.frame r).stepAt⟩

/-! ## runs that are given by their transactions -/

/-- The transactions of a list, each with its time and the time of the database. -/
def play (env : WaveEnv) (s : System) : List (Op × Instant × Instant) → Option System
  | [] => some s
  | (op, now, stmt) :: rest =>
    if s.clock ≤ now then
      match op.run env s.db now stmt with
      | .ok db' => play env ⟨db', now⟩ rest
      | .error _ => none
    else none

theorem play_path {env : WaveEnv} {s s' : System} {ops : List (Op × Instant × Instant)}
    (h : play env s ops = some s') :
    Path (Step env) s (ops.map fun o => .commit o.1 o.2.1 o.2.2) s' := by
  induction ops generalizing s with
  | nil =>
    cases h
    exact .nil _
  | cons o ops ih =>
    obtain ⟨op, now, stmt⟩ := o
    unfold play at h
    split at h
    · rename_i hle
      split at h
      · rename_i db' hok
        exact .cons (.commit op now stmt db' hle hok) (ih h)
      · cases h
    · cases h

/-! A small server: two accounts with a device each, and two recordings. -/

namespace Sample

def roomId : Uuid := ⟨"00000000-0000-4000-8000-0000000000a1", Eq.refl true⟩
def otherRoomId : Uuid := ⟨"00000000-0000-4000-8000-0000000000a2", Eq.refl true⟩
def hostUser : Uuid := ⟨"00000000-0000-4000-8000-0000000000b1", by decide⟩
def hostDevice : Uuid := ⟨"00000000-0000-4000-8000-0000000000c1", Eq.refl true⟩
def hostSession : Uuid := ⟨"00000000-0000-4000-8000-0000000000d1", Eq.refl true⟩
def friendUser : Uuid := ⟨"00000000-0000-4000-8000-0000000000b2", by decide⟩
def friendDevice : Uuid := ⟨"00000000-0000-4000-8000-0000000000c2", by decide⟩
def friendSession : Uuid := ⟨"00000000-0000-4000-8000-0000000000d2", Eq.refl true⟩
def songOne : Uuid := ⟨"00000000-0000-4000-8000-0000000000e1", Eq.refl true⟩
def songTwo : Uuid := ⟨"00000000-0000-4000-8000-0000000000e2", Eq.refl true⟩
def entryOne : Uuid := ⟨"00000000-0000-4000-8000-0000000000f1", by decide⟩
def entryTwo : Uuid := ⟨"00000000-0000-4000-8000-0000000000f2", by decide⟩

def host : Principal := ⟨hostUser, hostDevice, hostSession⟩
def friend : Principal := ⟨friendUser, friendDevice, friendSession⟩

/-- A table of rows that are there from the start. -/
def rowsOf {ρ κ ι : Type} [Schema ρ κ ι] [DecidableEq κ] [DecidableEq ι] (rows : List ρ) : Table ρ :=
  rows.foldl (fun t r => (t.insert r).toOption.getD t) .empty

def db : WaveDb where
  rooms := .empty
  members := .empty
  allowed := .empty
  queueEntries := .empty
  commands := .empty
  preflights := .empty
  timingReports := .empty
  guestInvitations := .empty
  guestSessions := .empty
  guestReceipts := .empty
  guestPreflights := .empty
  guestTimingReports := .empty
  guestRateWindows := .empty
  accounts := rowsOf [⟨hostUser, true, none⟩, ⟨friendUser, true, none⟩]
  devices := rowsOf [⟨hostDevice, hostUser, "phone", none⟩, ⟨friendDevice, friendUser, "tablet", none⟩]
  sessions := rowsOf [⟨hostSession, hostUser, hostDevice, seconds 86400, none⟩,
    ⟨friendSession, friendUser, friendDevice, seconds 86400, none⟩]
  friendInvitations := .empty
  socialReceipts := .empty
  recordings := [songOne, songTwo]

/-- The digests of the texts that the runs below hash. -/
def digests : List (String × Digest) :=
  [("WAVE42", "af47ba8e23632997a48cfefaf382f54b86f435827d6d52242f8566e2d71bbe79"),
   ("WAVE43", "3034ecca4c212ae65ed66e636c1bc2cc267dd80cc8aaef310793a06a613dd416")]

def env : WaveEnv where
  sha256 := fun text => (digests.lookup text).getD ""
  upper := fun text => String.ofList (text.toList.map Char.toUpper)
  dumps := fun document => if document = [] then "\x7b\x7d" else ""
  isoformat := fun _ => ""
  iso8601 := fun _ => ""
  canonicalSha256 := fun _ => ""
  bearerSha256 := id
  rateKey := fun _ digest => digest
  nfkc := id
  isSpace := fun c => c = ' '
  isControl := fun c => c.toNat < 32

theorem fresh : Fresh db := ⟨rfl, rfl, rfl, rfl, rfl, rfl, rfl, rfl, rfl, rfl, rfl, rfl⟩

/-- The state that a list of transactions reaches. -/
def reached (ops : List (Op × Instant × Instant)) : System := (play env ⟨db, 0⟩ ops).getD ⟨db, 0⟩

theorem path_reached {ops : List (Op × Instant × Instant)}
    (h : (play env ⟨db, 0⟩ ops).isSome = true) :
    Path (Step env) ⟨db, 0⟩ (ops.map fun o => .commit o.1 o.2.1 o.2.2) (reached ops) := by
  refine play_path ?_
  unfold reached
  obtain ⟨s, hs⟩ := Option.isSome_iff_exists.mp h
  rw [hs]
  rfl

end Sample

end AutPlay.Wave
