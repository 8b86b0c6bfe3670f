import Mathlib.Data.List.Nodup
import AutPlay.Lib.Run
import AutPlay.PublicAccess.Service

/-!
# The laws of invitations

* `World`, `Event`, `Step`   the transactions of the calls, and the other services, in any order;
* `Inv`, `run_inv`           what holds of every reachable world;
* `InvitationLaws`           the laws of a world;
* `public_invitation_laws`          they hold in every run.

`registered` and `applied` are what has been registered, and which operations took effect: the tables forget
a registration when its receipt is cleaned up.
-/

set_option linter.unusedSectionVars false

namespace AutPlay.PublicAccess

open AutPlay.Sync (Uuid)
open AutPlay.Auth (Principal)
open AutPlay.Result

/-! ## worlds -/

/-- What a registration has written, and the request and the server that it was for. -/
structure Registration where
  receipt : AccountRegistrationReceiptRow
  body : RedeemBody
  server : ServerInstanceRow

structure World where
  db : Db
  clock : Int
  registered : List Registration
  applied : List Uuid

inductive Event
  | issueGated (now clock : Int) (actor : Principal)
  | created (now clock : Int) (actor : Principal) (body : CreateBody) (invitationId : Uuid) (secret : String)
  | lifecycled (now clock : Int) (cancels : Bool) (actor : Principal) (targetId : Uuid) (body : LifecycleBody)
  | redeemGated (now clock : Int) (invitationId : Uuid) (source : Option String)
  | redeemed (now clock : Int) (body : RedeemBody) (fresh : Fresh)
  | cleaned (now clock : Int) (limit : Nat) (free : Uuid → Bool)
  | others (clock : Int) (server : Option ServerInstanceRow) (accounts : Table UserAccountRow)
      (devices : Table DeviceRow) (sessions : Table UserSessionRow)

/-- The operations after one, which takes effect unless it is known. -/
def applies (w : World) (operationId : Uuid) : List Uuid :=
  if (w.db.operations.find operationId).isSome then w.applied else operationId :: w.applied

/-- The registrations after a redemption. -/
def registers (w : World) (server : ServerInstanceRow) (receipt : AccountRegistrationReceiptRow) (body : RedeemBody) :
    List Registration :=
  if (w.db.receipts.find body.registrationId).isSome then w.registered else ⟨receipt, body, server⟩ :: w.registered

section
variable (P : Authority)

/-- One transaction; one that fails leaves nothing.  The clock does not go back, and a call has read it before. -/
inductive Step : World → Event → World → Prop
  | issueGated {w : World} {now clock : Int} {actor : Principal} {exceeded : Bool} {db : Db} (ht : w.clock ≤ clock)
      (hn : now ≤ clock) (h : issueGate P now clock actor w.db = .ok (exceeded, db)) :
      Step w (.issueGated now clock actor) ⟨db, clock, w.registered, w.applied⟩
  | created {w : World} {now clock : Int} {actor : Principal} {body : CreateBody} {invitationId : Uuid}
      {secret : String} {issued : Issued} {db : Db} (ht : w.clock ≤ clock) (hn : now ≤ clock)
      (h : createApply P now clock actor body invitationId secret w.db = .ok (issued, db)) :
      Step w (.created now clock actor body invitationId secret)
        ⟨db, clock, w.registered, applies w body.operationId⟩
  | lifecycled {w : World} {now clock : Int} {cancels : Bool} {actor : Principal} {targetId : Uuid}
      {body : LifecycleBody} {result : Lifecycle} {db : Db} (ht : w.clock ≤ clock) (hn : now ≤ clock)
      (h : lifecycle P now clock cancels actor targetId body w.db = .ok (result, db)) :
      Step w (.lifecycled now clock cancels actor targetId body)
        ⟨db, clock, w.registered, applies w body.operationId⟩
  | redeemGated {w : World} {now clock : Int} {invitationId : Uuid} {source : Option String} (ht : w.clock ≤ clock)
      (hn : now ≤ clock) :
      Step w (.redeemGated now clock invitationId source)
        ⟨(redeemGates P now invitationId source w.db).2, clock, w.registered, w.applied⟩
  | redeemed {w : World} {now clock : Int} {body : RedeemBody} {fresh : Fresh} {c : Checked}
      {server : ServerInstanceRow} {response : RegistrationResponse} {db : Db} (ht : w.clock ≤ clock)
      (hn : now ≤ clock) (hc : checkRequest P body = .ok c) (hs : w.db.server = some server)
      (h : redeemApply P now clock body fresh w.db = .ok (response, db)) :
      Step w (.redeemed now clock body fresh)
        ⟨db, clock, registers w server (newReceipt now body c fresh) body, w.applied⟩
  | cleaned {w : World} {now clock : Int} {limit : Nat} {free : Uuid → Bool} (ht : w.clock ≤ clock)
      (hn : now ≤ clock) :
      Step w (.cleaned now clock limit free) ⟨cleanup now limit free w.db, clock, w.registered, w.applied⟩
  /-- Accounts, devices and sessions are other services' business too. -/
  | others {w : World} {clock : Int} {server : Option ServerInstanceRow} {accounts : Table UserAccountRow}
      {devices : Table DeviceRow} {sessions : Table UserSessionRow} (ht : w.clock ≤ clock) :
      Step w (.others clock server accounts devices sessions)
        ⟨{ w.db with server := server, accounts := accounts, devices := devices, sessions := sessions }, clock,
          w.registered, w.applied⟩

end

/-! ## the laws -/

def activeInvitations (db : Db) (now : Int) : Nat := db.invitations.rows.countP fun i => IsActive now i

def activeAccounts (db : Db) : Nat := db.accounts.rows.countP fun a => a.status = "ACTIVE"

/-- The invitation of a registration: it was redeemed with its secret, before its expiry, and never cancelled, for
the account and the server that the request names and signs. -/
structure Redeemed (P : Authority) (c : Registration) (i : AccountInvitationRow) : Prop where
  consumed : i.consumedAt = some c.receipt.createdAt
  cancelled : i.cancelledAt = none
  secret : i.secretSha256 = P.secretSha256 c.body.invitationSecret
  time : c.receipt.createdAt < i.expiresAt
  signed : P.verify c.body.devicePublicKeySpki (P.requestSha256 c.body) c.body.deviceSignature = true
  server : MatchesServer c.body c.server i.displayName

/-- An answer to the holder of a receipt: its own account, device and session, which are live. -/
structure Answers (clock : Int) (db : Db) (receipt : AccountRegistrationReceiptRow) (r : RegistrationResponse) :
    Prop where
  same : r.userId = receipt.userId ∧ r.deviceId = receipt.deviceId ∧ r.sessionId = receipt.sessionId ∧
    r.registrationId = receipt.registrationId ∧ r.bindingCommitId = receipt.bindingCommitId
  live : ∃ account device s, db.accounts.find receipt.userId = some account ∧
    db.devices.find receipt.deviceId = some device ∧ db.sessions.find receipt.sessionId = some s ∧
      IsLive clock receipt account device s

/-- A request is the one of a receipt. -/
def SameRequest (c : Checked) (receipt : AccountRegistrationReceiptRow) : Prop :=
  receipt.requestSha256 = c.requestHash ∧ receipt.invitationSecretSha256 = c.secretHash ∧
    receipt.deviceKeyThumbprintSha256 = c.thumb

/-- The identifiers of the accounts, the devices and the sessions, and some more. -/
structure Adds (users devices sessions : List Uuid) (db db' : Db) : Prop where
  accounts : db'.accounts.rows.map (·.userId) = db.accounts.rows.map (·.userId) ++ users
  devices : db'.devices.rows.map (·.deviceId) = db.devices.rows.map (·.deviceId) ++ devices
  sessions : db'.sessions.rows.map (·.sessionId) = db.sessions.rows.map (·.sessionId) ++ sessions

/-- The event is another service's. -/
def Event.IsOther : Event → Prop
  | .others .. => True
  | _ => False

/-- **The laws of invitations** in a world. -/
structure InvitationLaws (P : Authority) (w : World) : Prop where
  /-- At most five invitations are active. -/
  active : ∀ now, w.clock ≤ now → activeInvitations w.db now ≤ 5
  /-- A redemption takes the active accounts to twenty at most. -/
  accounts : ∀ now clock body fresh r, redeemApply P now clock body fresh w.db = .ok r →
    activeAccounts r.2 ≤ activeAccounts w.db ∨ activeAccounts r.2 ≤ 20
  /-- A call adds an account, a device and a session with a registration of theirs, and none without. -/
  adds : ∀ e w', Step P w e w' → ¬ e.IsOther →
    (w'.registered = w.registered ∧ Adds [] [] [] w.db w'.db) ∨ ∃ c, w'.registered = c :: w.registered ∧
      Adds [c.receipt.userId] [c.receipt.deviceId] [c.receipt.sessionId] w.db w'.db
  /-- No invitation has two registrations. -/
  single : (w.registered.map (·.receipt.invitationId)).Nodup
  registered : ∀ c ∈ w.registered, ∃ i, w.db.invitations.find c.receipt.invitationId = some i ∧ Redeemed P c i
  /-- A receipt is of a registration. -/
  receipts : ∀ r ∈ w.db.receipts.rows, ∃ c ∈ w.registered, c.receipt = r
  /-- A repeat is answered when account, device and session are live, and changes nothing. -/
  repeated : ∀ now clock body fresh c receipt, checkRequest P body = .ok c →
    w.db.receipts.find body.registrationId = some receipt → SameRequest c receipt →
      (∀ r, redeemApply P now clock body fresh w.db = .ok r → r.2 = w.db ∧ Answers clock w.db receipt r.1) ∧
        (∀ server account device s, w.db.server = some server → w.db.accounts.find receipt.userId = some account →
          w.db.devices.find receipt.deviceId = some device → w.db.sessions.find receipt.sessionId = some s →
            IsLive clock receipt account device s → ∃ r, redeemApply P now clock body fresh w.db = .ok r)
  /-- Another request under a registration is refused. -/
  conflict : ∀ now clock body fresh c receipt, checkRequest P body = .ok c → w.db.server ≠ none →
    w.db.receipts.find body.registrationId = some receipt → ¬ SameRequest c receipt →
      redeemApply P now clock body fresh w.db = .error .registrationConflict
  /-- Without its receipt, a registration is never made again. -/
  final : ∀ c ∈ w.registered, ∀ now clock body fresh r, body.invitationId = c.receipt.invitationId →
    w.db.receipts.find body.registrationId = none → redeemApply P now clock body fresh w.db ≠ .ok r
  /-- An operation takes effect once. -/
  once : w.applied.Nodup ∧ ∀ operationId, operationId ∈ w.applied ↔ (w.db.operations.find operationId).isSome = true
  /-- A repeated creation is the same command, and changes nothing. -/
  createAgain : ∀ now clock actor body invitationId secret row r, w.db.operations.find body.operationId = some row →
    createApply P now clock actor body invitationId secret w.db = .ok r →
      r.2 = w.db ∧ (row.actorUserId = actor.userId ∧ row.action = .create ∧ row.commandSha256 = P.createSha256 body) ∧
        ∃ i, w.db.invitations.find row.targetId = some i ∧ r.1 = .replayed i
  /-- A repeated cancellation or disabling is the same command, and gets the same result. -/
  lifecycleAgain : ∀ now clock cancels actor targetId body row r, w.db.operations.find body.operationId = some row →
    lifecycle P now clock cancels actor targetId body w.db = .ok r →
      r.2 = w.db ∧ (row.actorUserId = actor.userId ∧ row.commandSha256 = P.lifecycleSha256 body ∧
        row.targetId = targetId) ∧ row.resultJson = some r.1

section
variable {P : Authority} {db db' : Db} {w w' : World} {now clock : Int} {body : RedeemBody} {c : Checked}
  {fresh : Fresh} {actor : Principal} {receipt : AccountRegistrationReceiptRow}

theorem stored_ok {α : Type} {row : Except Constraint α} {a : α} : stored row = .ok a ↔ row = .ok a := mapError_eq_ok

/-! ## what each transaction does -/

theorem Adds.same (haccounts : db'.accounts = db.accounts) (hdevices : db'.devices = db.devices)
    (hsessions : db'.sessions = db.sessions) : Adds [] [] [] db db' :=
  ⟨by rw [haccounts, List.append_nil], by rw [hdevices, List.append_nil], by rw [hsessions, List.append_nil]⟩

/-- The tables that only these calls write. -/
structure SameTables (db db' : Db) : Prop where
  invitations : db'.invitations = db.invitations
  receipts : db'.receipts = db.receipts
  operations : db'.operations = db.operations

theorem redeemGates_same (now : Int) (invitationId : Uuid) (source : Option String) (db : Db) :
    SameTables db (redeemGates P now invitationId source db).2 := by
  cases source with
  | none => exact ⟨rfl, rfl, rfl⟩
  | some s => exact ⟨rfl, rfl, rfl⟩

theorem redeemGates_adds (now : Int) (invitationId : Uuid) (source : Option String) (db : Db) :
    Adds [] [] [] db (redeemGates P now invitationId source db).2 := by
  cases source with
  | none => exact .same rfl rfl rfl
  | some s => exact .same rfl rfl rfl

theorem issueGate_same {exceeded : Bool} (h : issueGate P now clock actor db = .ok (exceeded, db')) :
    SameTables db db' ∧ Adds [] [] [] db db' := by
  obtain ⟨server, -, h⟩ := bind_eq_ok.mp h
  cases h
  exact ⟨⟨rfl, rfl, rfl⟩, .same rfl rfl rfl⟩

/-- An invitation that is issued. -/
structure Issues (P : Authority) (now : Int) (body : CreateBody) (db : Db) (row : AccountInvitationRow) (db' : Db) :
    Prop where
  new : db.operations.find body.operationId = none
  room : activeInvitations db now < 5
  invitations : db.invitations.insert row = .ok db'.invitations
  fresh : row.consumedAt = none
  receipts : db'.receipts = db.receipts
  operations : ∃ o, o.operationId = body.operationId ∧ db.operations.insert o = .ok db'.operations
  adds : Adds [] [] [] db db'

theorem createApply_ok {cbody : CreateBody} {invitationId : Uuid} {secret : String} {issued : Issued}
    (h : createApply P now clock actor cbody invitationId secret db = .ok (issued, db')) :
    (∃ row i, db.operations.find cbody.operationId = some row ∧ db' = db ∧
      (row.actorUserId = actor.userId ∧ row.action = .create ∧ row.commandSha256 = P.createSha256 cbody) ∧
        db.invitations.find row.targetId = some i ∧ issued = .replayed i) ∨
      ∃ row, Issues P now cbody db row db' := by
  obtain ⟨server, -, h⟩ := bind_eq_ok.mp h
  split at h
  · rename_i existing hexisting
    obtain ⟨⟨⟩, hexact, h⟩ := bind_eq_ok.mp h
    obtain ⟨i, hi, h⟩ := bind_eq_ok.mp h
    have hexact := require_ok.mp hexact
    cases h
    exact Or.inl ⟨existing, i, hexisting, rfl, ⟨hexact.1, hexact.2.1, hexact.2.2.1⟩, found_ok.mp hi, rfl⟩
  · rename_i hnew
    obtain ⟨⟨⟩, hroom, h⟩ := bind_eq_ok.mp h
    obtain ⟨⟨⟩, -, h⟩ := bind_eq_ok.mp h
    obtain ⟨invitations, hinvitations, h⟩ := bind_eq_ok.mp h
    obtain ⟨operations, hoperations, h⟩ := bind_eq_ok.mp h
    cases h
    exact Or.inr ⟨_, hnew, require_ok.mp hroom, stored_ok.mp hinvitations, rfl, rfl, ⟨_, rfl, stored_ok.mp hoperations⟩,
      .same rfl rfl rfl⟩

/-- A lifecycle command that takes effect. -/
structure Ends (db : Db) (operationId : Uuid) (db' : Db) : Prop where
  new : db.operations.find operationId = none
  invitations : db'.invitations = db.invitations ∨
    ∃ now row, db.invitations.find row.invitationId = some row ∧
      db.invitations.update (cancelRow now row) = .ok db'.invitations
  receipts : db'.receipts = db.receipts
  operations : ∃ o, o.operationId = operationId ∧ db.operations.insert o = .ok db'.operations
  adds : Adds [] [] [] db db'

/-- Revoking sessions keeps them. -/
theorem revoked_ids (sessions : Table UserSessionRow) (p : UserSessionRow → Bool) (now : Int) :
    (sessions.updateWhere p fun s => { s with revokedAt := some now }).rows.map (fun s => s.sessionId) =
      sessions.rows.map fun s => s.sessionId := by
  rw [Table.updateWhere_rows, List.map_map]
  refine List.map_congr_left fun s _ => ?_
  show UserSessionRow.sessionId (if p s then { s with revokedAt := some now } else s) = s.sessionId
  split
  · rfl
  · rfl

theorem lifecycle_ok {cancels : Bool} {targetId : Uuid} {lbody : LifecycleBody} {result : Lifecycle}
    (h : lifecycle P now clock cancels actor targetId lbody db = .ok (result, db')) :
    (∃ row, db.operations.find lbody.operationId = some row ∧ db' = db ∧
      (row.actorUserId = actor.userId ∧ row.commandSha256 = P.lifecycleSha256 lbody ∧ row.targetId = targetId) ∧
        row.resultJson = some result) ∨ Ends db lbody.operationId db' := by
  obtain ⟨server, -, h⟩ := bind_eq_ok.mp h
  split at h
  · rename_i existing hexisting
    obtain ⟨⟨⟩, hexact, h⟩ := bind_eq_ok.mp h
    obtain ⟨stored, hstored, h⟩ := bind_eq_ok.mp h
    have hexact := require_ok.mp hexact
    cases h
    exact Or.inl ⟨existing, hexisting, rfl, ⟨hexact.1, hexact.2.2.1, hexact.2.2.2 targetId rfl⟩, found_ok.mp hstored⟩
  · rename_i hnew
    obtain ⟨⟨outcome, db₁⟩, hr, h⟩ := bind_eq_ok.mp h
    obtain ⟨operations, hoperations, h⟩ := bind_eq_ok.mp h
    have hoperations := stored_ok.mp hoperations
    cases h
    cases cancels with
    | true =>
      obtain ⟨row, hrow, hr⟩ := bind_eq_ok.mp hr
      obtain ⟨⟨⟩, -, hr⟩ := bind_eq_ok.mp hr
      obtain ⟨invitations, hinvitations, hr⟩ := bind_eq_ok.mp hr
      cases hr
      have hrow := found_ok.mp hrow
      have hkey : row.invitationId = targetId := Table.key_of_find hrow
      exact Or.inr ⟨hnew, Or.inr ⟨now, row, by rw [hkey]; exact hrow, stored_ok.mp hinvitations⟩, rfl,
        ⟨_, rfl, hoperations⟩, .same rfl rfl rfl⟩
    | false =>
      obtain ⟨link, -, hr⟩ := bind_eq_ok.mp hr
      obtain ⟨account, -, hr⟩ := bind_eq_ok.mp hr
      obtain ⟨⟨⟩, -, hr⟩ := bind_eq_ok.mp hr
      split at hr
      · obtain ⟨accounts, haccounts, hr⟩ := bind_eq_ok.mp hr
        have haccounts := stored_ok.mp haccounts
        cases hr
        refine Or.inr ⟨hnew, Or.inl rfl, rfl, ⟨_, rfl, hoperations⟩, ?_, (List.append_nil _).symm, ?_⟩
        · show accounts.rows.map (·.userId) = _
          rw [List.append_nil, (Table.update_ok.mp haccounts).2]
          exact Table.map_key_putRows _ _
        · rw [List.append_nil]
          exact revoked_ids db.sessions _ now
      · cases hr
        exact Or.inr ⟨hnew, Or.inl rfl, rfl, ⟨_, rfl, hoperations⟩, .same rfl rfl rfl⟩

theorem registrationResponse_ok {tokenId : Uuid} {server : ServerInstanceRow} {replayed : Bool}
    {r : RegistrationResponse} (h : registrationResponse P clock tokenId receipt server replayed db = .ok r) :
    Answers clock db receipt r := by
  obtain ⟨account, ha, h⟩ := bind_eq_ok.mp h
  obtain ⟨device, hd, h⟩ := bind_eq_ok.mp h
  obtain ⟨s, hs, h⟩ := bind_eq_ok.mp h
  obtain ⟨⟨⟩, hlive, h⟩ := bind_eq_ok.mp h
  have ha := found_ok.mp ha
  have hd := found_ok.mp hd
  have hs := found_ok.mp hs
  cases h
  exact ⟨⟨Table.key_of_find ha, Table.key_of_find hd, Table.key_of_find hs, rfl, rfl⟩, account, device, s, ha, hd, hs,
    require_ok.mp hlive⟩

theorem registrationResponse_live (tokenId : Uuid) (server : ServerInstanceRow) (replayed : Bool)
    {account : UserAccountRow} {device : DeviceRow} {s : UserSessionRow}
    (ha : db.accounts.find receipt.userId = some account) (hd : db.devices.find receipt.deviceId = some device)
    (hs : db.sessions.find receipt.sessionId = some s) (hlive : IsLive clock receipt account device s) :
    ∃ r, registrationResponse P clock tokenId receipt server replayed db = .ok r := by
  refine ⟨_, bind_eq_ok.mpr ⟨account, found_ok.mpr ha, bind_eq_ok.mpr ⟨device, found_ok.mpr hd, bind_eq_ok.mpr ⟨s,
    found_ok.mpr hs, bind_eq_ok.mpr ⟨(), require_ok.mpr hlive, rfl⟩⟩⟩⟩⟩

/-- A registration: its invitation, and what it has written. -/
structure Registers (P : Authority) (now : Int) (body : RedeemBody) (c : Checked) (fresh : Fresh)
    (server : ServerInstanceRow) (db : Db) (invitation : AccountInvitationRow) (db' : Db) : Prop where
  sought : db.invitations.find body.invitationId = some invitation
  secret : invitation.secretSha256 = c.secretHash
  active : IsActive now invitation
  fits : MatchesServer body server invitation.displayName
  room : activeAccounts db < 20
  consumed : db.invitations.update { invitation with consumedAt := some now } = .ok db'.invitations
  receipts : db.receipts.insert (newReceipt now body c fresh) = .ok db'.receipts
  operations : db'.operations = db.operations
  accounts : ∃ account, db.accounts.insert account = .ok db'.accounts
  adds : Adds [fresh.userId] [fresh.deviceId] [fresh.sessionId] db db'

theorem redeemNew_ok {server : ServerInstanceRow} {response : RegistrationResponse}
    (h : redeemNew P now clock body c fresh server db = .ok (response, db')) :
    ∃ invitation, Registers P now body c fresh server db invitation db' := by
  obtain ⟨invitation, hi, h⟩ := bind_eq_ok.mp h
  obtain ⟨⟨⟩, hactive, h⟩ := bind_eq_ok.mp h
  obtain ⟨⟨⟩, hmatches, h⟩ := bind_eq_ok.mp h
  obtain ⟨⟨⟩, hroom, h⟩ := bind_eq_ok.mp h
  obtain ⟨db₁, hr, h⟩ := bind_eq_ok.mp h
  obtain ⟨answer, -, h⟩ := bind_eq_ok.mp h
  cases h
  obtain ⟨accounts, haccounts, hr⟩ := bind_eq_ok.mp hr
  obtain ⟨⟨⟩, -, hr⟩ := bind_eq_ok.mp hr
  obtain ⟨devices, hdevices, hr⟩ := bind_eq_ok.mp hr
  obtain ⟨sessions, hsessions, hr⟩ := bind_eq_ok.mp hr
  obtain ⟨invitations, hinvitations, hr⟩ := bind_eq_ok.mp hr
  obtain ⟨links, -, hr⟩ := bind_eq_ok.mp hr
  obtain ⟨receipts, hreceipts, hr⟩ := bind_eq_ok.mp hr
  have hactive := require_ok.mp hactive
  have haccounts := stored_ok.mp haccounts
  have hdevices := stored_ok.mp hdevices
  have hsessions := stored_ok.mp hsessions
  have hinvitations := stored_ok.mp hinvitations
  have hreceipts := stored_ok.mp hreceipts
  cases hr
  refine ⟨invitation, found_ok.mp hi, hactive.1, hactive.2, require_ok.mp hmatches, require_ok.mp hroom, hinvitations,
    hreceipts, rfl, ⟨_, haccounts⟩, ?_, ?_, ?_⟩
  · show accounts.rows.map (·.userId) = _
    rw [(Table.insert_ok.mp haccounts).2.2, List.map_append]
    rfl
  · show devices.rows.map (·.deviceId) = _
    rw [(Table.insert_ok.mp hdevices).2.2, List.map_append]
    rfl
  · show sessions.rows.map (·.sessionId) = _
    rw [(Table.insert_ok.mp hsessions).2.2, List.map_append]
    rfl

/-- **What a redemption does**: it answers a receipt, or it registers. -/
theorem redeemApply_ok {response : RegistrationResponse} (hc : checkRequest P body = .ok c)
    (h : redeemApply P now clock body fresh db = .ok (response, db')) : ∃ server, db.server = some server ∧
      ((∃ receipt, db.receipts.find body.registrationId = some receipt ∧ db' = db ∧ SameRequest c receipt ∧
        Answers clock db receipt response) ∨
      db.receipts.find body.registrationId = none ∧
        ∃ invitation, Registers P now body c fresh server db invitation db') := by
  obtain ⟨c', hc', h⟩ := bind_eq_ok.mp h
  rw [hc] at hc'
  cases hc'
  obtain ⟨server, hserver, h⟩ := bind_eq_ok.mp h
  refine ⟨server, found_ok.mp hserver, ?_⟩
  split at h
  · rename_i receipt hreceipt
    obtain ⟨⟨⟩, hsame, h⟩ := bind_eq_ok.mp h
    obtain ⟨answer, hanswer, h⟩ := bind_eq_ok.mp h
    have hsame := require_ok.mp hsame
    cases h
    exact Or.inl ⟨receipt, hreceipt, rfl, hsame, registrationResponse_ok hanswer⟩
  · rename_i hnone
    exact Or.inr ⟨hnone, redeemNew_ok h⟩

theorem checkRequest_of_redeem {r : RegistrationResponse × Db} (h : redeemApply P now clock body fresh db = .ok r) :
    ∃ c, checkRequest P body = .ok c := by
  obtain ⟨c, hc, -⟩ := bind_eq_ok.mp h
  exact ⟨c, hc⟩

theorem checkRequest_ok (h : checkRequest P body = .ok c) :
    c.secretHash = P.secretSha256 body.invitationSecret ∧
      P.verify body.devicePublicKeySpki (P.requestSha256 body) body.deviceSignature = true := by
  obtain ⟨⟨⟩, -, h⟩ := bind_eq_ok.mp h
  obtain ⟨thumb, -, h⟩ := bind_eq_ok.mp h
  obtain ⟨⟨⟩, -, h⟩ := bind_eq_ok.mp h
  obtain ⟨⟨⟩, hverify, h⟩ := bind_eq_ok.mp h
  obtain ⟨⟨⟩, -, h⟩ := bind_eq_ok.mp h
  cases h
  exact ⟨rfl, require_ok.mp hverify⟩

/-- What a cleanup leaves of the invitations, the receipts and the operations. -/
theorem cleanup_ok (now : Int) (limit : Nat) (free : Uuid → Bool) (db : Db) :
    (∃ p, (cleanup now limit free db).invitations = db.invitations.eraseWhere p ∧
      ∀ i ∈ db.invitations.rows, p i = true → i.consumedAt = none) ∧
      (∃ p, (cleanup now limit free db).receipts = db.receipts.eraseWhere p) ∧
        (cleanup now limit free db).operations = db.operations := by
  refine ⟨⟨_, rfl, fun i hi hp => ?_⟩, ⟨_, rfl⟩, rfl⟩
  have hp := List.contains_iff_mem.mp hp
  obtain ⟨i', hi', hkey⟩ := List.mem_map.mp hp
  have hi' := List.mem_mergeSort.mp (List.mem_of_mem_take hi')
  obtain ⟨hmem, hpurgeable⟩ := List.mem_filter.mp hi'
  have heq : i' = i := Table.eq_of_key hmem hi hkey
  rw [heq, Bool.and_eq_true] at hpurgeable
  exact (of_decide_eq_true hpurgeable.1).1

end

/-! ## the invariant -/

/-- What holds of every reachable world. -/
structure Inv (P : Authority) (w : World) : Prop where
  active : ∀ now, w.clock ≤ now → activeInvitations w.db now ≤ 5
  single : (w.registered.map (·.receipt.invitationId)).Nodup
  registered : ∀ c ∈ w.registered, ∃ i, w.db.invitations.find c.receipt.invitationId = some i ∧ Redeemed P c i
  receipts : ∀ r ∈ w.db.receipts.rows, ∃ c ∈ w.registered, c.receipt = r
  once : w.applied.Nodup ∧ ∀ operationId, operationId ∈ w.applied ↔ (w.db.operations.find operationId).isSome = true

section
variable {P : Authority} {db : Db} {w w' : World} {now clock : Int} {body : RedeemBody} {c : Checked}
  {fresh : Fresh}

/-- Invitations expire. -/
theorem activeInvitations_le (db : Db) {now now' : Int} (h : now ≤ now') :
    activeInvitations db now' ≤ activeInvitations db now := by
  refine List.countP_mono_left fun i _ hi => ?_
  obtain ⟨hcancelled, hconsumed, hexpires⟩ := of_decide_eq_true hi
  exact decide_eq_true ⟨hcancelled, hconsumed, Int.lt_of_le_of_lt h hexpires⟩

theorem SameTables.inv (hinv : Inv P w) (h : SameTables w.db db) (ht : w.clock ≤ clock) :
    Inv P ⟨db, clock, w.registered, w.applied⟩ := by
  refine ⟨fun t hle => ?_, hinv.single, ?_, ?_, hinv.once.1, ?_⟩
  · show db.invitations.rows.countP _ ≤ 5
    rw [h.invitations]
    exact hinv.active t (Int.le_trans ht hle)
  · show ∀ c ∈ w.registered, ∃ i, db.invitations.find _ = some i ∧ _
    rw [h.invitations]
    exact hinv.registered
  · show ∀ r ∈ db.receipts.rows, _
    rw [h.receipts]
    exact hinv.receipts
  · show ∀ o, o ∈ w.applied ↔ (db.operations.find o).isSome = true
    rw [h.operations]
    exact hinv.once.2

/-- A known operation changes nothing. -/
theorem applies_known {operationId : Uuid} {row : AccountProvisioningOperationReceiptRow}
    (h : w.db.operations.find operationId = some row) : applies w operationId = w.applied :=
  if_pos (by rw [h]; rfl)

/-- A new operation takes effect, once. -/
theorem applies_new {operationId : Uuid} {o : AccountProvisioningOperationReceiptRow}
    {operations : Table AccountProvisioningOperationReceiptRow} (hinv : Inv P w)
    (hnew : w.db.operations.find operationId = none) (ho : o.operationId = operationId)
    (h : w.db.operations.insert o = .ok operations) :
    (applies w operationId).Nodup ∧
      ∀ operationId', operationId' ∈ applies w operationId ↔ (operations.find operationId').isSome = true := by
  have happlies : applies w operationId = operationId :: w.applied := if_neg (by rw [hnew]; exact Bool.noConfusion)
  rw [happlies]
  refine ⟨List.nodup_cons.mpr ⟨fun hmem => ?_, hinv.once.1⟩, fun operationId' => ?_⟩
  · have hsome := (hinv.once.2 operationId).mp hmem
    rw [hnew] at hsome
    cases hsome
  · have hfind : operations.find operationId' = if o.operationId = operationId' then some o
        else w.db.operations.find operationId' := Table.find_insert h operationId'
    rw [hfind, ho, List.mem_cons]
    split
    · rename_i hsame
      exact ⟨fun _ => rfl, fun _ => Or.inl hsame.symm⟩
    · rename_i hne
      rw [hinv.once.2]
      exact or_iff_right fun heq => hne heq.symm

theorem Issues.inv {cbody : CreateBody} {row : AccountInvitationRow} (hinv : Inv P w)
    (h : Issues P now cbody w.db row db) (hn : now ≤ clock) :
    Inv P ⟨db, clock, w.registered, applies w cbody.operationId⟩ := by
  obtain ⟨hfree, -, hrows⟩ := Table.insert_ok.mp h.invitations
  obtain ⟨o, ho, hoperations⟩ := h.operations
  refine ⟨fun t hle => ?_, hinv.single, fun c hc => ?_, ?_, applies_new hinv h.new ho hoperations⟩
  · have hbefore := activeInvitations_le w.db (Int.le_trans hn hle)
    have hroom := h.room
    have hone : ([row].countP fun i => IsActive t i) ≤ 1 := List.countP_le_length
    show db.invitations.rows.countP _ ≤ 5
    rw [hrows, List.countP_append]
    show activeInvitations w.db t + _ ≤ 5
    omega
  · obtain ⟨i, hi, hredeemed⟩ := hinv.registered c hc
    refine ⟨i, ?_, hredeemed⟩
    have hfind : db.invitations.find c.receipt.invitationId = if row.invitationId = c.receipt.invitationId then some row
        else w.db.invitations.find c.receipt.invitationId := Table.find_insert h.invitations _
    show db.invitations.find _ = _
    rw [hfind, if_neg, hi]
    intro hsame
    have hfree : w.db.invitations.find row.invitationId = none := hfree
    rw [hsame, hi] at hfree
    cases hfree
  · show ∀ r ∈ db.receipts.rows, _
    rw [h.receipts]
    exact hinv.receipts

/-- A cancelled row is not active, and a consumed one is left alone. -/
theorem cancelRow_cases (now : Int) (row : AccountInvitationRow) :
    (∀ t, ¬ IsActive t (cancelRow now row)) ∧ (row.consumedAt ≠ none → cancelRow now row = row) := by
  unfold cancelRow
  split
  · rename_i hopen
    exact ⟨fun t h => Option.some_ne_none _ h.1, fun hne => absurd hopen.2 hne⟩
  · rename_i hclosed
    exact ⟨fun t h => hclosed ⟨h.1, h.2.1⟩, fun _ => rfl⟩

/-- An invitation that is replaced by one of its key. -/
theorem find_replaced {invitations : Table AccountInvitationRow} {row row' : AccountInvitationRow}
    (h : w.db.invitations.update row' = .ok invitations) (hkey : row'.invitationId = row.invitationId)
    (hrow : w.db.invitations.find row.invitationId = some row) (id : Uuid) :
    invitations.find id = if row.invitationId = id then some row' else w.db.invitations.find id := by
  have hfind : invitations.find id = if row'.invitationId = id then (w.db.invitations.find id).map (fun _ => row')
      else w.db.invitations.find id := Table.find_update h id
  rw [hfind, hkey]
  split
  · rename_i hsame
    rw [← hsame, hrow]
    rfl
  · rfl

theorem Ends.inv {operationId : Uuid} (hinv : Inv P w) (h : Ends w.db operationId db) (ht : w.clock ≤ clock) :
    Inv P ⟨db, clock, w.registered, applies w operationId⟩ := by
  obtain ⟨o, ho, hoperations⟩ := h.operations
  have hinvitations : (∀ t, activeInvitations db t ≤ activeInvitations w.db t) ∧
      ∀ c ∈ w.registered, ∃ i, db.invitations.find c.receipt.invitationId = some i ∧ Redeemed P c i := by
    rcases h.invitations with hsame | ⟨now, row, hrow, hupdate⟩
    · unfold activeInvitations
      rw [hsame]
      exact ⟨fun t => Nat.le_refl _, hinv.registered⟩
    · obtain ⟨hinactive, hkept⟩ := cancelRow_cases now row
      have hkey : (cancelRow now row).invitationId = row.invitationId := by
        unfold cancelRow
        split
        · rfl
        · rfl
      refine ⟨fun t => Table.countP_update hupdate (decide_eq_false (hinactive t)), fun c hc => ?_⟩
      obtain ⟨i, hi, hredeemed⟩ := hinv.registered c hc
      refine ⟨i, ?_, hredeemed⟩
      rw [find_replaced hupdate hkey hrow]
      split
      · rename_i hsame
        rw [← hsame, hrow] at hi
        cases hi
        rw [hkept]
        rw [hredeemed.consumed]
        exact Option.some_ne_none _
      · exact hi
  refine ⟨fun t hle => Nat.le_trans (hinvitations.1 t) (hinv.active t (Int.le_trans ht hle)), hinv.single,
    hinvitations.2, ?_, applies_new hinv h.new ho hoperations⟩
  show ∀ r ∈ db.receipts.rows, _
  rw [h.receipts]
  exact hinv.receipts

/-- The invitation of a registration was not redeemed before. -/
theorem Registers.new {server : ServerInstanceRow} {invitation : AccountInvitationRow} (hinv : Inv P w)
    (h : Registers P now body c fresh server w.db invitation db) :
    ∀ c' ∈ w.registered, c'.receipt.invitationId ≠ body.invitationId := by
  intro c' hc' hsame
  obtain ⟨i, hi, hredeemed⟩ := hinv.registered c' hc'
  rw [hsame, h.sought] at hi
  cases hi
  have hconsumed := hredeemed.consumed
  rw [h.active.2.1] at hconsumed
  cases hconsumed

theorem Registers.inv {server : ServerInstanceRow} {invitation : AccountInvitationRow} (hinv : Inv P w)
    (hc : checkRequest P body = .ok c) (h : Registers P now body c fresh server w.db invitation db)
    (ht : w.clock ≤ clock) :
    Inv P ⟨db, clock, ⟨newReceipt now body c fresh, body, server⟩ :: w.registered, w.applied⟩ := by
  obtain ⟨hsecret, hsigned⟩ := checkRequest_ok hc
  have hkey : invitation.invitationId = body.invitationId := Table.key_of_find h.sought
  have hfound : w.db.invitations.find invitation.invitationId = some invitation := by rw [hkey]; exact h.sought
  have hsame : AccountInvitationRow.invitationId { invitation with consumedAt := some now } =
    invitation.invitationId := rfl
  have hfind := find_replaced h.consumed hsame hfound
  refine ⟨fun t hle => ?_, ?_, fun c' hc' => ?_, fun r hr => ?_, hinv.once.1, ?_⟩
  · refine Nat.le_trans (Table.countP_update h.consumed (decide_eq_false ?_)) (hinv.active t (Int.le_trans ht hle))
    exact fun hactive => Option.some_ne_none _ hactive.2.1
  · refine List.nodup_cons.mpr ⟨fun hmem => ?_, hinv.single⟩
    obtain ⟨c', hc', hsame⟩ := List.mem_map.mp hmem
    exact h.new hinv c' hc' hsame
  · rcases List.mem_cons.mp hc' with rfl | hc'
    · refine ⟨{ invitation with consumedAt := some now }, ?_, rfl, h.active.1, ?_, h.active.2.2, hsigned, h.fits⟩
      · exact (hfind _).trans (if_pos hkey)
      · exact h.secret.trans hsecret
    · obtain ⟨i, hi, hredeemed⟩ := hinv.registered c' hc'
      refine ⟨i, ?_, hredeemed⟩
      refine (hfind _).trans ((if_neg ?_).trans hi)
      rw [hkey]
      exact fun hsame => h.new hinv c' hc' hsame.symm
  · have hr : r ∈ db.receipts.rows := hr
    rw [(Table.insert_ok.mp h.receipts).2.2] at hr
    rcases List.mem_append.mp hr with hr | hr
    · obtain ⟨c', hc', hsame⟩ := hinv.receipts r hr
      exact ⟨c', List.mem_cons_of_mem _ hc', hsame⟩
    · exact ⟨_, List.mem_cons_self, (List.mem_singleton.mp hr).symm⟩
  · show ∀ o, o ∈ w.applied ↔ (db.operations.find o).isSome = true
    rw [h.operations]
    exact hinv.once.2

theorem cleanup_inv (hinv : Inv P w) (limit : Nat) (free : Uuid → Bool) (ht : w.clock ≤ clock) :
    Inv P ⟨cleanup now limit free w.db, clock, w.registered, w.applied⟩ := by
  obtain ⟨⟨p, hinvitations, hfree⟩, ⟨q, hreceipts⟩, hoperations⟩ := cleanup_ok now limit free w.db
  refine ⟨fun t hle => ?_, hinv.single, fun c hc => ?_, fun r hr => ?_, hinv.once.1, ?_⟩
  · refine Nat.le_trans ?_ (hinv.active t (Int.le_trans ht hle))
    show (cleanup now limit free w.db).invitations.rows.countP _ ≤ _
    rw [hinvitations, Table.eraseWhere_rows]
    exact List.filter_sublist.countP_le
  · obtain ⟨i, hi, hredeemed⟩ := hinv.registered c hc
    refine ⟨i, ?_, hredeemed⟩
    show (cleanup now limit free w.db).invitations.find _ = _
    rw [hinvitations, Table.find_eraseWhere, hi, Option.filter_some, if_pos]
    cases hp : p i with
    | false => rfl
    | true =>
      have hconsumed := hfree i (Table.mem_of_find hi) hp
      rw [hredeemed.consumed] at hconsumed
      cases hconsumed
  · have hr : r ∈ (cleanup now limit free w.db).receipts.rows := hr
    rw [hreceipts] at hr
    exact hinv.receipts r (Table.mem_eraseWhere.mp hr).1
  · show ∀ o, o ∈ w.applied ↔ ((cleanup now limit free w.db).operations.find o).isSome = true
    rw [hoperations]
    exact hinv.once.2

theorem step_inv {e : Event} (hinv : Inv P w) (h : Step P w e w') : Inv P w' := by
  cases h with
  | issueGated ht hn h => exact (issueGate_same h).1.inv hinv ht
  | created ht hn h =>
    rcases createApply_ok h with ⟨row, i, hrow, rfl, -⟩ | ⟨row, hissues⟩
    · rw [applies_known hrow]
      exact SameTables.inv hinv ⟨rfl, rfl, rfl⟩ ht
    · exact hissues.inv hinv hn
  | lifecycled ht hn h =>
    rcases lifecycle_ok h with ⟨row, hrow, rfl, -⟩ | hends
    · rw [applies_known hrow]
      exact SameTables.inv hinv ⟨rfl, rfl, rfl⟩ ht
    · exact hends.inv hinv ht
  | redeemGated ht hn => exact (redeemGates_same _ _ _ _).inv hinv ht
  | redeemed ht hn hc hs h =>
    obtain ⟨server, hserver, ⟨receipt, hreceipt, rfl, -⟩ | ⟨hnone, invitation, hregisters⟩⟩ := redeemApply_ok hc h
    · unfold registers
      rw [if_pos (by rw [hreceipt]; rfl)]
      exact SameTables.inv hinv ⟨rfl, rfl, rfl⟩ ht
    · rw [hs] at hserver
      cases hserver
      unfold registers
      rw [if_neg (by rw [hnone]; exact Bool.noConfusion)]
      exact hregisters.inv hinv hc ht
  | cleaned ht hn => exact cleanup_inv hinv _ _ ht
  | others ht => exact SameTables.inv hinv ⟨rfl, rfl, rfl⟩ ht

/-- **The invariant holds in every run.** -/
theorem run_inv {events : List Event} (hinv : Inv P w) (p : Path (Step P) w events w') : Inv P w' :=
  p.invariant (fun _ _ _ hinv hs => step_inv hinv hs) hinv

/-- Nothing issued and nothing registered yet. -/
structure World.Untouched (w : World) : Prop where
  invitations : w.db.invitations.rows = []
  receipts : w.db.receipts.rows = []
  operations : w.db.operations.rows = []
  registered : w.registered = []
  applied : w.applied = []

theorem World.Untouched.inv (h : w.Untouched) : Inv P w := by
  refine ⟨fun t _ => ?_, ?_, fun c hc => ?_, fun r hr => ?_, ?_, fun o => ?_⟩
  · unfold activeInvitations
    rw [h.invitations]
    exact Nat.zero_le _
  · rw [h.registered]
    exact List.nodup_nil
  · rw [h.registered] at hc
    cases hc
  · rw [h.receipts] at hr
    cases hr
  · rw [h.applied]
    exact List.nodup_nil
  · have hnone : w.db.operations.find o = none := by
      refine Table.find_none.mpr fun r hr => ?_
      rw [Table.mem_def, h.operations] at hr
      cases hr
    rw [h.applied, hnone]
    exact ⟨fun h => (by cases h), fun h => (by cases h)⟩

/-! ## the laws -/

theorem Step.adds {e : Event} (h : Step P w e w') (hown : ¬ e.IsOther) :
    (w'.registered = w.registered ∧ Adds [] [] [] w.db w'.db) ∨ ∃ c, w'.registered = c :: w.registered ∧
      Adds [c.receipt.userId] [c.receipt.deviceId] [c.receipt.sessionId] w.db w'.db := by
  cases h with
  | issueGated ht hn h => exact Or.inl ⟨rfl, (issueGate_same h).2⟩
  | created ht hn h =>
    rcases createApply_ok h with ⟨row, i, hrow, rfl, -⟩ | ⟨row, hissues⟩
    · exact Or.inl ⟨rfl, .same rfl rfl rfl⟩
    · exact Or.inl ⟨rfl, hissues.adds⟩
  | lifecycled ht hn h =>
    rcases lifecycle_ok h with ⟨row, hrow, rfl, -⟩ | hends
    · exact Or.inl ⟨rfl, .same rfl rfl rfl⟩
    · exact Or.inl ⟨rfl, hends.adds⟩
  | redeemGated ht hn => exact Or.inl ⟨rfl, redeemGates_adds _ _ _ _⟩
  | redeemed ht hn hc hs h =>
    obtain ⟨server, -, ⟨receipt, hreceipt, rfl, -⟩ | ⟨hnone, invitation, hregisters⟩⟩ := redeemApply_ok hc h
    · exact Or.inl ⟨if_pos (by rw [hreceipt]; rfl), .same rfl rfl rfl⟩
    · exact Or.inr ⟨_, if_neg (by rw [hnone]; exact Bool.noConfusion), hregisters.adds⟩
  | cleaned ht hn => exact Or.inl ⟨rfl, .same rfl rfl rfl⟩
  | others ht => exact absurd trivial hown

theorem activeAccounts_redeem {r : RegistrationResponse × Db}
    (h : redeemApply P now clock body fresh w.db = .ok r) :
    activeAccounts r.2 ≤ activeAccounts w.db ∨ activeAccounts r.2 ≤ 20 := by
  obtain ⟨c, hc⟩ := checkRequest_of_redeem h
  obtain ⟨server, -, ⟨receipt, -, hsame, -⟩ | ⟨-, invitation, hregisters⟩⟩ := redeemApply_ok hc h
  · rw [hsame]
    exact Or.inl (Nat.le_refl _)
  · obtain ⟨account, haccount⟩ := hregisters.accounts
    have hroom := hregisters.room
    have hone : ([account].countP fun a => a.status = "ACTIVE") ≤ 1 := List.countP_le_length
    refine Or.inr ?_
    unfold activeAccounts at hroom ⊢
    rw [(Table.insert_ok.mp haccount).2.2, List.countP_append]
    omega

theorem Inv.laws (hinv : Inv P w) : InvitationLaws P w := by
  refine ⟨hinv.active, fun now clock body fresh r h => activeAccounts_redeem h, fun e w' hs hown => hs.adds hown,
    hinv.single, hinv.registered, hinv.receipts, fun now clock body fresh c receipt hc hreceipt hsame => ⟨fun r h => ?_, ?_⟩,
    fun now clock body fresh c receipt hc hserver hreceipt hother => ?_,
    fun c' hc' now clock body fresh r hbody hnone h => ?_, hinv.once,
    fun now clock actor cbody invitationId secret row r hrow h => ?_,
    fun now clock cancels actor targetId lbody row r hrow h => ?_⟩
  · obtain ⟨server, -, ⟨receipt', hreceipt', hdb, -, hanswers⟩ | ⟨hnone, -⟩⟩ := redeemApply_ok hc h
    · rw [hreceipt] at hreceipt'
      cases hreceipt'
      exact ⟨hdb, hanswers⟩
    · rw [hreceipt] at hnone
      cases hnone
  · intro server account device s hserver ha hd hs hlive
    obtain ⟨r, hr⟩ := registrationResponse_live (P := P) fresh.tokenId server true ha hd hs hlive
    refine ⟨(r, w.db), bind_eq_ok.mpr ⟨c, hc, bind_eq_ok.mpr ⟨server, found_ok.mpr hserver, ?_⟩⟩⟩
    rw [hreceipt]
    exact bind_eq_ok.mpr ⟨(), require_ok.mpr hsame, bind_eq_ok.mpr ⟨r, hr, rfl⟩⟩
  · obtain ⟨server, hserver⟩ := Option.ne_none_iff_exists'.mp hserver
    unfold redeemApply
    rw [hc, hserver]
    refine bind_eq_error.mpr (Or.inr ⟨c, rfl, bind_eq_error.mpr (Or.inr ⟨server, rfl, ?_⟩)⟩)
    rw [hreceipt]
    refine bind_eq_error.mpr (Or.inl ?_)
    exact if_neg hother
  · obtain ⟨c, hc⟩ := checkRequest_of_redeem h
    obtain ⟨server, -, ⟨receipt, hreceipt, -⟩ | ⟨-, invitation, hregisters⟩⟩ := redeemApply_ok hc h
    · rw [hnone] at hreceipt
      cases hreceipt
    · exact hregisters.new hinv c' hc' hbody.symm
  · rcases createApply_ok h with ⟨row', i, hrow', hdb, hexact, hi, hissued⟩ | ⟨row', hissues⟩
    · rw [hrow] at hrow'
      cases hrow'
      exact ⟨hdb, hexact, i, hi, hissued⟩
    · have hnew := hissues.new
      rw [hrow] at hnew
      cases hnew
  · rcases lifecycle_ok h with ⟨row', hrow', hdb, hexact, hresult⟩ | hends
    · rw [hrow] at hrow'
      cases hrow'
      exact ⟨hdb, hexact, hresult⟩
    · have hnew := hends.new
      rw [hrow] at hnew
      cases hnew

/-- **Invitations register at most one account each**: over any sequence of the calls' transactions, and
whatever the other services do to accounts, devices and sessions. -/
theorem public_invitation_laws {w₀ : World} {events : List Event} (h : w₀.Untouched) (p : Path (Step P) w₀ events w) :
    InvitationLaws P w :=
  (run_inv h.inv p).laws

end

/-! ## a registration -/

namespace Sample

def owner : Uuid := ⟨"00000000-0000-0000-0000-000000000001", Eq.refl true⟩

def device : Uuid := ⟨"00000000-0000-0000-0000-000000000002", Eq.refl true⟩

def session : Uuid := ⟨"00000000-0000-0000-0000-000000000003", Eq.refl true⟩

def operation : Uuid := ⟨"00000000-0000-0000-0000-000000000004", Eq.refl true⟩

def invitation : Uuid := ⟨"00000000-0000-0000-0000-000000000005", by decide +kernel⟩

def guest : Uuid := ⟨"00000000-0000-0000-0000-000000000006", by decide +kernel⟩

def registration : Uuid := ⟨"00000000-0000-0000-0000-000000000007", by decide +kernel⟩

def authority : Authority where
  createSha256 b := b.accountDisplayName
  lifecycleSha256 b := b.other
  requestSha256 b := b.invitationSecret ++ b.deviceName
  secretSha256 s := s
  keyThumbprint spki := some spki
  verify _ request signature := request == signature
  isDigest _ := true
  accessToken _ token _ _ := token.text
  accessTtl := minutes 15
  deviceLimit := 5
  rateKey scope material := scope ++ material

def principal : Principal := ⟨owner, device, session, .owner⟩

def server : ServerInstanceRow := ⟨owner, 1, "thumb", "https://api", "https://stream"⟩

/-- A server with its owner, and nothing else. -/
def db : Db where
  server := some server
  accounts := ⟨[⟨owner, "owner", .owner, "ACTIVE", none, 0⟩], List.nodup_singleton _, by decide⟩
  devices := ⟨[⟨device, owner, "phone", "1", "spki", "spki", none⟩], List.nodup_singleton _, by decide⟩
  sessions := ⟨[⟨session, owner, device, "refresh", days 1, none⟩], List.nodup_singleton _, by
    intro r hr r' hr' _ _
    rw [List.mem_singleton.mp hr, List.mem_singleton.mp hr']⟩
  invitations := Table.empty
  receipts := Table.empty
  links := Table.empty
  operations := Table.empty
  windows := Dict.empty

def world : World := ⟨db, 0, [], []⟩

def createBody : CreateBody := ⟨operation, "guest", 3600⟩

def redeemBody : RedeemBody :=
  ⟨invitation, registration, operation, "secret", "secretphone", "key", "key", "secretphone", "next", "phone", "1", owner, 1,
    "thumb", "https://api", "https://stream", "guest"⟩

def fresh : Fresh := ⟨guest, guest, guest, registration⟩

theorem registers : ∃ issued db₁ c response db₂,
    createApply authority 1 1 principal createBody invitation "secret" db = .ok (issued, db₁) ∧
      checkRequest authority redeemBody = .ok c ∧ db₁.server = some server ∧
        redeemApply authority 2 2 redeemBody fresh db₁ = .ok (response, db₂) ∧ response.userId = guest ∧
          (db₁.receipts.find registration).isSome = false :=
  ⟨_, _, _, _, _, rfl, rfl, rfl, rfl, rfl, rfl⟩

end Sample

/-- The laws after one registration. -/
theorem public_invitation_laws_registered : ∃ w, w.registered.map (·.receipt.userId) = [Sample.guest] ∧
    InvitationLaws Sample.authority w := by
  obtain ⟨issued, db₁, c, response, db₂, hcreate, hc, hserver, hredeem, -, hnone⟩ := Sample.registers
  have hfresh : Sample.world.Untouched := ⟨rfl, rfl, rfl, rfl, rfl⟩
  have h₁ : Step Sample.authority Sample.world
      (.created 1 1 Sample.principal Sample.createBody Sample.invitation "secret")
      ⟨db₁, 1, [], applies Sample.world Sample.operation⟩ := .created (by decide) (Int.le_refl 1) hcreate
  have h₂ : Step Sample.authority ⟨db₁, 1, [], applies Sample.world Sample.operation⟩
      (.redeemed 2 2 Sample.redeemBody Sample.fresh)
      ⟨db₂, 2, registers ⟨db₁, 1, [], applies Sample.world Sample.operation⟩ Sample.server
        (newReceipt 2 Sample.redeemBody c Sample.fresh) Sample.redeemBody, applies Sample.world Sample.operation⟩ :=
    .redeemed (show (1 : Int) ≤ 2 by decide) (Int.le_refl 2) hc hserver hredeem
  refine ⟨_, ?_, public_invitation_laws hfresh (.cons h₁ (.cons h₂ (.nil _)))⟩
  show (registers _ _ _ _).map _ = _
  unfold registers
  rw [if_neg]
  · rfl
  · exact fun h => Bool.noConfusion (hnone.symm.trans h)

end AutPlay.PublicAccess
