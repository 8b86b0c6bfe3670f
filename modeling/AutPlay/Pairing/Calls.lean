import AutPlay.Lib.Run
import AutPlay.Pairing.Service

/-!
# What each pairing call does

* `save_find`            a saved ceremony is found, every other one is as it was;
* `Bound`                an exchange that creates a device and a session;
* `InContext`            what `_context` leaves;
* `start_ok`, …, `exchange_ok`   the two outcomes of each call: a repeat, or one change.
-/

set_option linter.unusedSectionVars false

namespace AutPlay.Pairing

open AutPlay.Sync (Uuid)
open Result

/-! ## writes -/

theorem orIntegrity_eq_ok {α : Type} {x : Except Constraint α} {a : α} :
    orIntegrity x = .ok a ↔ x = .ok a := mapError_eq_ok

section
variable {db db' : Db} {ceremony : SelfDevicePairing}

theorem save_ok (h : save db ceremony = .ok db') :
    (∀ k, db'.ceremonies.find k =
        if ceremony.ceremonyId = k then some ceremony else db.ceremonies.find k) ∧
      db' = { db with ceremonies := db'.ceremonies } := by
  unfold save at h
  obtain ⟨ceremonies, hc, h⟩ := bind_eq_ok.mp h
  cases h
  refine ⟨fun k => ?_, rfl⟩
  show ceremonies.find k = _
  have hc := orIntegrity_eq_ok.mp hc
  unfold saveRow at hc
  by_cases hn : db.ceremonies.find ceremony.ceremonyId = none
  · rw [if_pos hn] at hc
    exact Table.find_insert hc k
  · rw [if_neg hn] at hc
    rw [Table.find_update hc k]
    show (if ceremony.ceremonyId = k then _ else _) = _
    by_cases hk : ceremony.ceremonyId = k
    · rw [if_pos hk, if_pos hk]
      subst hk
      obtain ⟨old, ho⟩ := Option.ne_none_iff_exists'.mp hn
      rw [ho]
      rfl
    · rw [if_neg hk, if_neg hk]

theorem saveCommand_ok {command : PairingCommand} (h : saveCommand db command = .ok db') :
    (∀ k, db'.commands.find k =
        if command.operationId = k then some command else db.commands.find k) ∧
      db' = { db with commands := db'.commands } := by
  unfold saveCommand at h
  obtain ⟨commands, hc, h⟩ := bind_eq_ok.mp h
  cases h
  exact ⟨Table.find_insert (orIntegrity_eq_ok.mp hc), rfl⟩

end

/-! ## checks -/

section
variable {db : Db} {now : Int}

theorem lockAccount_ok {userId : Uuid} {account : PairingAccount}
    (h : lockAccount db userId = .ok account) :
    ∃ row, db.account userId = some row ∧ row.status = "ACTIVE" ∧ row.deletedAt = none ∧
      account = pairingAccount row := by
  unfold lockAccount at h
  obtain ⟨row, hrow, h⟩ := bind_eq_ok.mp h
  obtain ⟨⟨⟩, hactive, h⟩ := bind_eq_ok.mp h
  obtain ⟨hs, hd⟩ := requireOk_eq_ok.mp hactive
  cases h
  exact ⟨row, orRaise_eq_ok.mp hrow, hs, hd, rfl⟩

theorem live_ok {ceremony : SelfDevicePairing} (h : live ceremony now = .ok ()) :
    ceremony.state ≠ .cancelled ∧ ceremony.state ≠ .rejected ∧
      (ceremony.state ≠ .exchanged → now < ceremony.expiresAt) := by
  unfold live at h
  obtain ⟨⟨deadline, hdeadline, hnow⟩, hc, hr⟩ := requireOk_eq_ok.mp h
  refine ⟨hc, hr, fun he => ?_⟩
  rw [if_neg he] at hdeadline
  have heq : ceremony.expiresAt = deadline := Option.some.inj hdeadline
  rw [heq]
  exact hnow

/-- What `_context` leaves: the row, its account in the same authority generation, and a live ceremony
unless terminal ones are wanted. -/
structure InContext (db : Db) (ceremonyId : Uuid) (now : Int) (terminal : Bool)
    (ceremony : SelfDevicePairing) (account : PairingAccount) : Prop where
  find : db.ceremonies.find ceremonyId = some ceremony
  owner : lockAccount db ceremony.userId = .ok account
  generation : ceremony.authorityGeneration = account.authorityGeneration
  live : terminal = false ∨ ceremony.state = .exchanged → Pairing.live ceremony now = .ok ()

theorem InContext.key {ceremonyId : Uuid} {terminal : Bool} {ceremony : SelfDevicePairing}
    {account : PairingAccount} (h : InContext db ceremonyId now terminal ceremony account) :
    ceremony.ceremonyId = ceremonyId :=
  Table.key_of_find h.find

theorem context_ok {ceremonyId : Uuid} {terminal : Bool} {ceremony : SelfDevicePairing}
    {account : PairingAccount} (h : context db ceremonyId now terminal = .ok (ceremony, account)) :
    InContext db ceremonyId now terminal ceremony account := by
  unfold context at h
  obtain ⟨found, hfound, h⟩ := bind_eq_ok.mp h
  obtain ⟨identity, -, h⟩ := bind_eq_ok.mp h
  obtain ⟨owner, howner, h⟩ := bind_eq_ok.mp h
  obtain ⟨⟨⟩, hsame, h⟩ := bind_eq_ok.mp h
  obtain ⟨⟨⟩, hlive, h⟩ := bind_eq_ok.mp h
  cases h
  refine ⟨orRaise_eq_ok.mp hfound, howner, (requireOk_eq_ok.mp hsame).1, fun hl => ?_⟩
  unfold liveOrRetained at hlive
  rwa [if_pos hl] at hlive

variable {service : Service}

theorem newPhone_ok {kind secret signature : String} {ceremony : SelfDevicePairing} {common : Common}
    {claimId : Uuid} {claimSha requestSha : Sha256Hex} {claim : Request ClaimBody}
    (h : newPhone service kind ceremony secret common claimId claimSha requestSha signature = .ok claim) :
    ceremony.claimDocument = some claim ∧ ceremony.claimId = some claimId ∧
      claimSha = claim.requestSha256 ∧
      service.crypto.secretHash secret = some claim.body.pollSecretSha256 ∧
      verifyProof service.crypto kind requestSha signature claim.body = .ok () := by
  unfold newPhone at h
  obtain ⟨⟨⟩, -, h⟩ := bind_eq_ok.mp h
  obtain ⟨found, hfound, h⟩ := bind_eq_ok.mp h
  obtain ⟨⟨⟩, hids, h⟩ := bind_eq_ok.mp h
  obtain ⟨⟨⟩, hsecret, h⟩ := bind_eq_ok.mp h
  obtain ⟨⟨⟩, hproof, h⟩ := bind_eq_ok.mp h
  cases h
  obtain ⟨hid, hsha⟩ := requireOk_eq_ok.mp hids
  exact ⟨orRaise_eq_ok.mp hfound, hid, hsha, requireOk_eq_ok.mp hsecret, hproof⟩

theorem sourceOk_ok {ceremony : SelfDevicePairing} {actor : Principal}
    (h : sourceOk db ceremony actor now = .ok ()) :
    ceremony.userId = actor.userId ∧ ceremony.sourceDeviceId = actor.deviceId ∧
      actorFamily db actor now = .ok ceremony.sourceFamilyId := by
  unfold sourceOk at h
  obtain ⟨⟨⟩, hactor, h⟩ := bind_eq_ok.mp h
  obtain ⟨family, hfamily, h⟩ := bind_eq_ok.mp h
  obtain ⟨hu, hd⟩ := requireOk_eq_ok.mp hactor
  have hsame : family = ceremony.sourceFamilyId := requireOk_eq_ok.mp h
  exact ⟨hu, hd, hsame ▸ hfamily⟩

end

/-! ## the calls -/

section
variable {service : Service} {db db' : Db} {now : Int} {status : Status}

theorem parseRequest_ok {crypto : Crypto} {kind : Body} {sha : Sha256Hex}
    (h : parseRequest crypto kind sha = .ok ()) : crypto.canonicalSha256 kind = sha :=
  (requireOk_eq_ok.mp h).2

theorem start_ok {actor : Principal} {request : Request StartBody}
    (h : service.start actor request now db = .ok (status, db')) :
    (∀ row ∈ db.ceremonies.rows, row.startOperationId = request.body.operationId →
        row.ceremonyId = request.body.common.ceremonyId) ∧
      ∃ account, lockAccount db actor.userId = .ok account ∧
        ((∃ existing, db.ceremonies.find request.body.common.ceremonyId = some existing ∧
            existing.startDocument = request ∧ status = statusOf service existing account true none ∧
            db' = db) ∨
          (db.ceremonies.find request.body.common.ceremonyId = none ∧
            ∃ identity family saved, actorFamily db actor now = .ok family ∧
              save db (openCeremony request identity account actor family now) = .ok saved ∧
              db' = saved.record (openCeremony request identity account actor family now)
                "self_pairing.started" request.body.operationId now)) := by
  unfold Service.start at h
  obtain ⟨⟨⟩, -, h⟩ := bind_eq_ok.mp h
  obtain ⟨identity, -, h⟩ := bind_eq_ok.mp h
  obtain ⟨account, haccount, h⟩ := bind_eq_ok.mp h
  obtain ⟨family, hfamily, h⟩ := bind_eq_ok.mp h
  obtain ⟨⟨⟩, -, h⟩ := bind_eq_ok.mp h
  obtain ⟨⟨⟩, hunique, h⟩ := bind_eq_ok.mp h
  refine ⟨fun row hrow he => requireOk_eq_ok.mp hunique row hrow (congrArg some he), account, haccount, ?_⟩
  cases hf : db.ceremonies.find request.body.common.ceremonyId with
  | some existing =>
    rw [hf] at h
    dsimp only at h
    unfold startAgain at h
    obtain ⟨⟨⟩, hsame, h⟩ := bind_eq_ok.mp h
    obtain ⟨⟨⟩, -, h⟩ := bind_eq_ok.mp h
    cases h
    exact Or.inl ⟨existing, rfl, (requireOk_eq_ok.mp hsame).2.2.2.2, rfl, rfl⟩
  | none =>
    rw [hf] at h
    dsimp only at h
    unfold startNew at h
    obtain ⟨⟨⟩, -, h⟩ := bind_eq_ok.mp h
    obtain ⟨⟨⟩, -, h⟩ := bind_eq_ok.mp h
    obtain ⟨⟨⟩, -, h⟩ := bind_eq_ok.mp h
    obtain ⟨saved, hsaved, h⟩ := bind_eq_ok.mp h
    cases h
    exact Or.inr ⟨rfl, identity, family, saved, hfamily, hsaved, rfl⟩

theorem claim_ok {secret : String} {signed : Signed ClaimBody}
    (h : service.claim secret signed now db = .ok (status, db')) :
    ∃ ceremony account,
      InContext db signed.document.body.common.ceremonyId now false ceremony account ∧
        (∀ row ∈ db.ceremonies.rows, row.claimId = some signed.document.body.claimId →
          row.ceremonyId = ceremony.ceremonyId) ∧
        ((ceremony.claimDocument = some signed.document ∧
            status = statusOf service ceremony account false none ∧ db' = db) ∨
          (ceremony.claimDocument = none ∧ ceremony.state = .opened ∧
            ∃ saved, save db (claimedBy ceremony signed.document) = .ok saved ∧
              db' = saved.record (claimedBy ceremony signed.document) "self_pairing.claimed"
                signed.document.body.claimId now)) := by
  unfold Service.claim at h
  dsimp only at h
  obtain ⟨⟨⟩, -, h⟩ := bind_eq_ok.mp h
  obtain ⟨⟨⟩, -, h⟩ := bind_eq_ok.mp h
  obtain ⟨⟨ceremony, account⟩, hcontext, h⟩ := bind_eq_ok.mp h
  obtain ⟨⟨⟩, -, h⟩ := bind_eq_ok.mp h
  obtain ⟨⟨⟩, -, h⟩ := bind_eq_ok.mp h
  obtain ⟨⟨⟩, -, h⟩ := bind_eq_ok.mp h
  obtain ⟨⟨⟩, hunique, h⟩ := bind_eq_ok.mp h
  refine ⟨ceremony, account, context_ok hcontext, requireOk_eq_ok.mp hunique, ?_⟩
  cases hc : ceremony.claimDocument with
  | some recorded =>
    rw [hc] at h
    dsimp only at h
    unfold claimAgain at h
    obtain ⟨⟨⟩, hsame, h⟩ := bind_eq_ok.mp h
    cases h
    have hr : recorded = signed.document := requireOk_eq_ok.mp hsame
    exact Or.inl ⟨congrArg some hr, rfl, rfl⟩
  | none =>
    rw [hc] at h
    dsimp only at h
    unfold claimNew at h
    obtain ⟨⟨⟩, -, h⟩ := bind_eq_ok.mp h
    obtain ⟨⟨⟩, hstate, h⟩ := bind_eq_ok.mp h
    obtain ⟨⟨⟩, -, h⟩ := bind_eq_ok.mp h
    obtain ⟨saved, hsaved, h⟩ := bind_eq_ok.mp h
    cases h
    exact Or.inr ⟨rfl, requireOk_eq_ok.mp hstate, saved, hsaved, rfl⟩

theorem poll_ok {secret : String} {signed : Signed PollBody}
    (h : service.poll secret signed now db = .ok (status, db')) :
    ∃ ceremony account,
      InContext db signed.document.body.common.ceremonyId now true ceremony account ∧
        save db (polledAt ceremony now) = .ok db' := by
  unfold Service.poll at h
  dsimp only at h
  obtain ⟨⟨⟩, -, h⟩ := bind_eq_ok.mp h
  obtain ⟨⟨⟩, -, h⟩ := bind_eq_ok.mp h
  obtain ⟨⟨ceremony, account⟩, hcontext, h⟩ := bind_eq_ok.mp h
  obtain ⟨⟨⟩, -, h⟩ := bind_eq_ok.mp h
  obtain ⟨⟨⟩, -, h⟩ := bind_eq_ok.mp h
  obtain ⟨⟨⟩, -, h⟩ := bind_eq_ok.mp h
  obtain ⟨saved, hsaved, h⟩ := bind_eq_ok.mp h
  cases h
  exact ⟨ceremony, account, context_ok hcontext, hsaved⟩

/-- The three changes that a decision makes. -/
inductive Decided (service : Service) (ceremony : SelfDevicePairing) (body : DecisionBody) :
    SelfDevicePairing → Prop
  | approve (action : body.action = .approve) (state : ceremony.state = .claimed)
      (code : body.comparisonCode = comparisonCode service ceremony)
      (shown : (comparisonCode service ceremony).isSome) :
      Decided service ceremony body
        { ceremony with
          state := .approved
          approvalOperationId := some body.operationId
          revision := ceremony.revision + 1 }
  | reject (action : body.action = .reject) (state : ceremony.state = .claimed) :
      Decided service ceremony body
        { ceremony with state := .rejected, revision := ceremony.revision + 1 }
  | cancel (action : body.action = .cancel) :
      Decided service ceremony body
        { ceremony with state := .cancelled, revision := ceremony.revision + 1 }

theorem decided_ok {ceremony next : SelfDevicePairing} {body : DecisionBody}
    (h : decided service ceremony body = .ok next) : Decided service ceremony body next := by
  unfold decided at h
  cases ha : body.action with
  | approve =>
    rw [ha] at h
    obtain ⟨⟨⟩, hstate, h⟩ := bind_eq_ok.mp h
    obtain ⟨code, hcode, h⟩ := bind_eq_ok.mp h
    obtain ⟨⟨⟩, hsame, h⟩ := bind_eq_ok.mp h
    cases h
    have hcode := orRaise_eq_ok.mp hcode
    refine .approve ha (requireOk_eq_ok.mp hstate) ?_ ?_
    · rw [hcode]
      exact requireOk_eq_ok.mp hsame
    · rw [hcode]
      rfl
  | reject =>
    rw [ha] at h
    obtain ⟨⟨⟩, hstate, h⟩ := bind_eq_ok.mp h
    cases h
    exact .reject ha (requireOk_eq_ok.mp hstate).1
  | cancel =>
    rw [ha] at h
    obtain ⟨⟨⟩, -, h⟩ := bind_eq_ok.mp h
    cases h
    exact .cancel ha

/-- The row of `self_pairing_command` for a decision. -/
def commandOf (actor : Principal) (request : Request DecisionBody) (ceremony : SelfDevicePairing)
    (result : Status) (now : Int) : PairingCommand :=
  { operationId := request.body.operationId
    ceremonyId := ceremony.ceremonyId
    userId := actor.userId
    deviceId := actor.deviceId
    familyId := ceremony.sourceFamilyId
    requestHash := request.requestSha256
    result := result
    createdAt := now }

theorem decide_ok {actor : Principal} {request : Request DecisionBody}
    (h : service.decide actor request now db = .ok (status, db')) :
    service.crypto.canonicalSha256 (.decision request.body) = request.requestSha256 ∧
      ∃ ceremony account,
        InContext db request.body.common.ceremonyId now true ceremony account ∧
          ceremony.userId = actor.userId ∧ ceremony.sourceDeviceId = actor.deviceId ∧
          actorFamily db actor now = .ok ceremony.sourceFamilyId ∧
          ((∃ previous, db.commands.find request.body.operationId = some previous ∧
              previous.ceremonyId = ceremony.ceremonyId ∧
              previous.requestHash = request.requestSha256 ∧ status = previous.result ∧ db' = db) ∨
            (db.commands.find request.body.operationId = none ∧ live ceremony now = .ok () ∧
              request.body.claimId = ceremony.claimId ∧
              request.body.claimRequestSha256 = ceremony.claimDocument.map Request.requestSha256 ∧
              ceremony.state ≠ .exchanged ∧
              ∃ next saved commanded, Decided service ceremony request.body next ∧
                save db next = .ok saved ∧
                saveCommand saved (commandOf actor request ceremony status now) = .ok commanded ∧
                db' = commanded.record next request.body.action.audited request.body.operationId
                  now)) := by
  unfold Service.decide at h
  obtain ⟨⟨⟩, hparse, h⟩ := bind_eq_ok.mp h
  obtain ⟨⟨ceremony, account⟩, hcontext, h⟩ := bind_eq_ok.mp h
  obtain ⟨⟨⟩, -, h⟩ := bind_eq_ok.mp h
  obtain ⟨⟨⟩, hsource, h⟩ := bind_eq_ok.mp h
  obtain ⟨hu, hd, hfamily⟩ := sourceOk_ok hsource
  refine ⟨parseRequest_ok hparse, ceremony, account, context_ok hcontext, hu, hd, hfamily, ?_⟩
  cases hf : db.commands.find request.body.operationId with
  | some previous =>
    rw [hf] at h
    dsimp only at h
    unfold decideAgain at h
    obtain ⟨⟨⟩, hsame, h⟩ := bind_eq_ok.mp h
    obtain ⟨hc, -, -, -, hhash⟩ := requireOk_eq_ok.mp hsame
    cases h
    exact Or.inl ⟨previous, rfl, hc, hhash, rfl, rfl⟩
  | none =>
    rw [hf] at h
    dsimp only at h
    unfold decideNew at h
    obtain ⟨⟨⟩, hlive, h⟩ := bind_eq_ok.mp h
    obtain ⟨⟨⟩, -, h⟩ := bind_eq_ok.mp h
    obtain ⟨⟨⟩, -, h⟩ := bind_eq_ok.mp h
    obtain ⟨⟨⟩, hclaim, h⟩ := bind_eq_ok.mp h
    obtain ⟨next, hnext, h⟩ := bind_eq_ok.mp h
    dsimp only at h
    obtain ⟨⟨⟩, -, h⟩ := bind_eq_ok.mp h
    obtain ⟨saved, hsaved, h⟩ := bind_eq_ok.mp h
    obtain ⟨commanded, hcommand, h⟩ := bind_eq_ok.mp h
    cases h
    obtain ⟨hid, hsha, hne⟩ := requireOk_eq_ok.mp hclaim
    exact Or.inr ⟨rfl, hlive, hid, hsha, hne, next, saved, commanded, decided_ok hnext, hsaved, hcommand, rfl⟩

/-- **An exchange that binds a phone**: what it checks, and the two rows that it adds. -/
structure Bound (service : Service) (db : Db) (ceremony : SelfDevicePairing)
    (request : Request ExchangeBody) (drawn : Drawn) (now : Int) (db' : Db) : Prop where
  source : requireSource db ceremony now = .ok ()
  rows : ∃ claim key devices sessions saved,
    ceremony.claimDocument = some claim ∧
      service.crypto.publicKey claim.body.devicePublicKeySpkiB64 = some key ∧
      db.devices.insert (boundDevice ceremony claim.body key drawn now) = .ok devices ∧
      db.sessions.insert (boundSession ceremony request.body drawn now) = .ok sessions ∧
      save { db with devices := devices, sessions := sessions }
        (exchangedBy ceremony request ⟨drawn.deviceId, drawn.sessionId, now + 90 * day⟩) = .ok saved ∧
      db' = saved.record (exchangedBy ceremony request ⟨drawn.deviceId, drawn.sessionId, now + 90 * day⟩)
        "self_pairing.exchanged" request.body.exchangeId now

theorem createBinding_ok {crypto : Crypto} {ceremony : SelfDevicePairing} {claim : ClaimBody}
    {exchange : ExchangeBody} {drawn : Drawn} {binding : PairingBinding}
    (h : createBinding db crypto ceremony claim exchange drawn now = .ok (binding, db')) :
    binding = ⟨drawn.deviceId, drawn.sessionId, now + 90 * day⟩ ∧
      ∃ key devices sessions, crypto.publicKey claim.devicePublicKeySpkiB64 = some key ∧
        db.devices.insert (boundDevice ceremony claim key drawn now) = .ok devices ∧
        db.sessions.insert (boundSession ceremony exchange drawn now) = .ok sessions ∧
        db' = { db with devices := devices, sessions := sessions } := by
  unfold createBinding at h
  obtain ⟨⟨⟩, -, h⟩ := bind_eq_ok.mp h
  obtain ⟨⟨⟩, -, h⟩ := bind_eq_ok.mp h
  obtain ⟨⟨⟩, -, h⟩ := bind_eq_ok.mp h
  obtain ⟨⟨⟩, -, h⟩ := bind_eq_ok.mp h
  obtain ⟨key, hkey, h⟩ := bind_eq_ok.mp h
  obtain ⟨devices, hdevices, h⟩ := bind_eq_ok.mp h
  obtain ⟨sessions, hsessions, h⟩ := bind_eq_ok.mp h
  cases h
  exact ⟨rfl, key, devices, sessions, orRaise_eq_ok.mp hkey, orIntegrity_eq_ok.mp hdevices,
    orIntegrity_eq_ok.mp hsessions, rfl⟩

theorem exchangeResponse_ok {ceremony : SelfDevicePairing} {account : PairingAccount}
    {binding : PairingBinding} {tokenId : Uuid} {replayed : Bool} {response : ExchangeResponse}
    (h : exchangeResponse service ceremony account binding tokenId now replayed = .ok response) :
    response.userId = account.userId ∧ response.deviceId = binding.deviceId ∧
      response.sessionId = binding.sessionId ∧ response.replayed = replayed ∧
      some response.receiptExpiresAt = ceremony.receiptExpiresAt := by
  unfold exchangeResponse at h
  obtain ⟨document, -, h⟩ := bind_eq_ok.mp h
  obtain ⟨receipt, hreceipt, h⟩ := bind_eq_ok.mp h
  cases h
  exact ⟨rfl, rfl, rfl, rfl, (orRaise_eq_ok.mp hreceipt).symm⟩

theorem activeBinding_ok {ceremony : SelfDevicePairing} {binding : PairingBinding}
    (h : activeBinding db ceremony now = .ok binding) :
    ceremony.resultDeviceId = some binding.deviceId ∧
      ceremony.resultSessionId = some binding.sessionId := by
  unfold activeBinding at h
  obtain ⟨deviceId, hdevice, h⟩ := bind_eq_ok.mp h
  obtain ⟨sessionId, hsession, h⟩ := bind_eq_ok.mp h
  obtain ⟨⟨⟩, -, h⟩ := bind_eq_ok.mp h
  obtain ⟨row, hrow, h⟩ := bind_eq_ok.mp h
  obtain ⟨⟨⟩, hok, h⟩ := bind_eq_ok.mp h
  cases h
  have hid : row.sessionId = sessionId := Table.key_of_find (orRaise_eq_ok.mp hrow)
  constructor
  · show _ = some row.deviceId
    rw [orRaise_eq_ok.mp hdevice, (requireOk_eq_ok.mp hok).2.1]
  · show _ = some row.sessionId
    rw [orRaise_eq_ok.mp hsession, hid]

theorem exchange_ok {secret : String} {signed : Signed ExchangeBody} {drawn : Drawn}
    {response : ExchangeResponse}
    (h : service.exchange secret signed drawn now db = .ok (response, db')) :
    ∃ ceremony account,
      InContext db signed.document.body.common.ceremonyId now false ceremony account ∧
        signed.document.body.confirmedAccountId = account.userId ∧
        response.userId = account.userId ∧
        ceremony.approvalOperationId = some signed.document.body.approvalOperationId ∧
        (∀ row ∈ db.ceremonies.rows, row.exchangeId = some signed.document.body.exchangeId →
          row.ceremonyId = ceremony.ceremonyId) ∧
        ((ceremony.state = .exchanged ∧ ceremony.exchangeDocument = some signed.document ∧
            ceremony.resultDeviceId = some response.deviceId ∧
            ceremony.resultSessionId = some response.sessionId ∧
            ceremony.receiptExpiresAt = some response.receiptExpiresAt ∧
            response.replayed = true ∧ db' = db) ∨
          (ceremony.state = .approved ∧ response.deviceId = drawn.deviceId ∧
            response.sessionId = drawn.sessionId ∧ response.replayed = false ∧
            response.receiptExpiresAt = now + 90 * day + 5 * 60 * 1000000 ∧
            Bound service db ceremony signed.document drawn now db')) := by
  unfold Service.exchange at h
  dsimp only at h
  obtain ⟨⟨⟩, -, h⟩ := bind_eq_ok.mp h
  obtain ⟨⟨ceremony, account⟩, hcontext, h⟩ := bind_eq_ok.mp h
  obtain ⟨claim, hclaim, h⟩ := bind_eq_ok.mp h
  obtain ⟨⟨⟩, hconfirmed, h⟩ := bind_eq_ok.mp h
  obtain ⟨⟨⟩, hunique, h⟩ := bind_eq_ok.mp h
  obtain ⟨hc, ha⟩ := requireOk_eq_ok.mp hconfirmed
  dsimp only at h ha
  by_cases hs : ceremony.state = .exchanged
  · rw [if_pos hs] at h
    unfold exchangeAgain at h
    obtain ⟨⟨⟩, hsame, h⟩ := bind_eq_ok.mp h
    obtain ⟨binding, hbinding, h⟩ := bind_eq_ok.mp h
    obtain ⟨answer, hanswer, h⟩ := bind_eq_ok.mp h
    cases h
    obtain ⟨hrd, hrs⟩ := activeBinding_ok hbinding
    obtain ⟨hau, had, has, har, hreceipt⟩ := exchangeResponse_ok hanswer
    refine ⟨ceremony, account, context_ok hcontext, hc, hau, ha, requireOk_eq_ok.mp hunique,
      Or.inl ⟨hs, requireOk_eq_ok.mp hsame, ?_, ?_, hreceipt.symm, har, rfl⟩⟩
    · rw [hrd, had]
    · rw [hrs, has]
  · rw [if_neg hs] at h
    unfold exchangeNew at h
    obtain ⟨⟨⟩, hstate, h⟩ := bind_eq_ok.mp h
    obtain ⟨⟨⟩, -, h⟩ := bind_eq_ok.mp h
    obtain ⟨⟨⟩, hsource, h⟩ := bind_eq_ok.mp h
    obtain ⟨⟨binding, bound⟩, hbinding, h⟩ := bind_eq_ok.mp h
    obtain ⟨⟨⟩, -, h⟩ := bind_eq_ok.mp h
    dsimp only at h
    obtain ⟨saved, hsaved, h⟩ := bind_eq_ok.mp h
    obtain ⟨answer, hanswer, h⟩ := bind_eq_ok.mp h
    cases h
    obtain ⟨rfl, key, devices, sessions, hkey, hdevices, hsessions, rfl⟩ := createBinding_ok hbinding
    obtain ⟨hau, had, has, har, hreceipt⟩ := exchangeResponse_ok hanswer
    exact ⟨ceremony, account, context_ok hcontext, hc, hau, ha, requireOk_eq_ok.mp hunique,
      Or.inr ⟨requireOk_eq_ok.mp hstate, had, has, har, Option.some.inj hreceipt, hsource, claim, key,
        devices, sessions, saved, (newPhone_ok hclaim).1, hkey, hdevices, hsessions, hsaved, rfl⟩⟩

end

end AutPlay.Pairing
