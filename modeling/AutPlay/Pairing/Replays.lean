import AutPlay.Pairing.Laws

/-!
# Repeated documents

While the row of a ceremony exists:

* `start_again`, `claim_again`   the recorded document leaves everything as it is and returns the current
                                 status; no other document is accepted for its identifiers;
* `decide_again`                 a recorded decision returns its recorded result;
* `exchange_again`               a recorded exchange returns the device and the session it created;
* `PairingLaws`                  these and the laws of the ceremonies together.
-/

set_option linter.unusedSectionVars false

namespace AutPlay.Pairing

open AutPlay.Sync (Uuid)
open Result

section
variable {service : Service} {base db s s' t t' : Db} {labels between : List Label}

/-- An accepted start is recorded. -/
theorem start_recorded {actor : Principal} {request : Request StartBody} {now : Int} {status : Status}
    (h : service.start actor request now s = .ok (status, s')) :
    ∃ c, s'.ceremonies.find request.body.common.ceremonyId = some c ∧ c.startDocument = request := by
  obtain ⟨-, account, -, ⟨existing, hf, hsame, -, rfl⟩ | ⟨hn, identity, family, saved, -, hsave, rfl⟩⟩ :=
    start_ok h
  · exact ⟨existing, hf, hsame⟩
  · refine ⟨openCeremony request identity account actor family now, ?_, rfl⟩
    show saved.ceremonies.find _ = _
    rw [(save_ok hsave).1]
    exact if_pos rfl

/-- **Start**: for the identifiers of a recorded ceremony only its own document is accepted; it changes
nothing and returns the status. -/
theorem start_again {actor actor' : Principal} {request request' : Request StartBody} {now now' : Int}
    {status status' : Status} (hshape : AllShaped t)
    (h : service.start actor request now s = .ok (status, s'))
    (p : Path (Retained service request.body.common.ceremonyId) s' between t)
    (h' : service.start actor' request' now' t = .ok (status', t'))
    (hid : request'.body.common.ceremonyId = request.body.common.ceremonyId ∨
      request'.body.operationId = request.body.operationId) :
    request' = request ∧ t' = t ∧ ∃ c account,
      t.ceremonies.find request.body.common.ceremonyId = some c ∧
        status' = statusOf service c account true none := by
  obtain ⟨c₀, hc₀, hd₀⟩ := start_recorded h
  obtain ⟨c, hc, hl⟩ := path_later p hc₀
  have hdoc : c.startDocument = request := hl.startDocument.trans hd₀
  obtain ⟨hunique, account, -, hrest⟩ := start_ok h'
  have hkey : request'.body.common.ceremonyId = request.body.common.ceremonyId := by
    rcases hid with hid | hid
    · exact hid
    · have hop : c.startOperationId = request'.body.operationId := by
        rw [← (hshape _ c hc).operationId, hdoc, hid]
      rw [← hunique c (Table.mem_of_find hc) hop]
      exact Table.key_of_find hc
  rcases hrest with ⟨existing, hf, hsame, hst, rfl⟩ | ⟨hn, -⟩
  · rw [hkey, hc] at hf
    cases hf
    exact ⟨hsame.symm.trans hdoc, rfl, c, account, hc, hst⟩
  · rw [hkey, hc] at hn
    cases hn

/-- An accepted claim is recorded. -/
theorem claim_recorded {secret : String} {signed : Signed ClaimBody} {now : Int} {status : Status}
    (h : service.claim secret signed now s = .ok (status, s')) :
    ∃ c, s'.ceremonies.find signed.document.body.common.ceremonyId = some c ∧
      c.claimDocument = some signed.document := by
  obtain ⟨c, account, hc, -, ⟨hsame, -, rfl⟩ | ⟨-, -, saved, hsave, rfl⟩⟩ := claim_ok h
  · exact ⟨c, hc.find, hsame⟩
  · refine ⟨claimedBy c signed.document, ?_, rfl⟩
    show saved.ceremonies.find _ = _
    rw [(save_ok hsave).1]
    exact if_pos hc.key

/-- **Claim**: for a claimed ceremony, and for a claim's identifier, only the recorded document is
accepted, with any valid signature. -/
theorem claim_again {secret secret' : String} {signed signed' : Signed ClaimBody} {now now' : Int}
    {status status' : Status} (hshape : AllShaped t)
    (h : service.claim secret signed now s = .ok (status, s'))
    (p : Path (Retained service signed.document.body.common.ceremonyId) s' between t)
    (h' : service.claim secret' signed' now' t = .ok (status', t'))
    (hid : signed'.document.body.common.ceremonyId = signed.document.body.common.ceremonyId ∨
      signed'.document.body.claimId = signed.document.body.claimId) :
    signed'.document = signed.document ∧ t' = t ∧ ∃ c account,
      t.ceremonies.find signed.document.body.common.ceremonyId = some c ∧
        status' = statusOf service c account false none := by
  obtain ⟨c₀, hc₀, hd₀⟩ := claim_recorded h
  obtain ⟨c, hc, hl⟩ := path_later p hc₀
  have hdoc := (hl.claim _ hd₀).1
  obtain ⟨d, account, hd, hunique, hrest⟩ := claim_ok h'
  have hkey : signed'.document.body.common.ceremonyId = signed.document.body.common.ceremonyId := by
    rcases hid with hid | hid
    · exact hid
    · have hcid : c.claimId = some signed'.document.body.claimId := by
        rw [(hshape _ c hc).claimId, hdoc, Option.map_some, hid]
      have hsame := hunique c (Table.mem_of_find hc) hcid
      exact hd.key.symm.trans (hsame.symm.trans (Table.key_of_find hc))
  have hfind := hd.find
  rw [hkey, hc] at hfind
  cases hfind
  rcases hrest with ⟨hsame, hst, rfl⟩ | ⟨hnone, -⟩
  · exact ⟨Option.some.inj (hsame.symm.trans hdoc), rfl, c, account, hc, hst⟩
  · rw [hdoc] at hnone
    cases hnone

/-- An accepted decision is recorded, with what it returned. -/
theorem decide_recorded {actor : Principal} {request : Request DecisionBody} {now : Int}
    {status : Status} (h : service.decide actor request now s = .ok (status, s')) :
    ∃ command, s'.commands.find request.body.operationId = some command ∧
      command.ceremonyId = request.body.common.ceremonyId ∧
      command.requestHash = request.requestSha256 ∧ command.result = status := by
  obtain ⟨-, c, account, hc, -, -, -, ⟨previous, hf, hk, hhash, rfl, rfl⟩ |
    ⟨hnone, hlive, -, -, hne, next, saved, commanded, hd, hsave, hcommand, rfl⟩⟩ := decide_ok h
  · exact ⟨previous, hf, hk.trans hc.key, hhash, rfl⟩
  · refine ⟨commandOf actor request c status now, ?_, hc.key, rfl, rfl⟩
    show commanded.commands.find _ = _
    rw [(saveCommand_ok hcommand).1]
    exact if_pos rfl

/-- **Decision**: for a recorded operation only its own document is accepted; it changes nothing and
returns the recorded result.  Documents are compared by their digests. -/
theorem decide_again {actor actor' : Principal} {request request' : Request DecisionBody}
    {now now' : Int} {status status' : Status}
    (h : service.decide actor request now s = .ok (status, s'))
    (p : Path (Retained service request.body.common.ceremonyId) s' between t)
    (h' : service.decide actor' request' now' t = .ok (status', t'))
    (hid : request'.body.operationId = request.body.operationId) :
    request'.requestSha256 = request.requestSha256 ∧
      service.crypto.canonicalSha256 (.decision request'.body) =
        service.crypto.canonicalSha256 (.decision request.body) ∧
      t' = t ∧ status' = status := by
  obtain ⟨command, hf, hk, hhash, hresult⟩ := decide_recorded h
  have hft := path_command (hk.symm ▸ p) hf
  have hparsed := (decide_ok h).1
  obtain ⟨hparsed', c, account, hc, -, -, -, hrest⟩ := decide_ok h'
  rw [hid, hft] at hrest
  rcases hrest with ⟨previous, he, -, hsame, hst, rfl⟩ | ⟨hnone, -⟩
  · cases he
    have hsha : request'.requestSha256 = request.requestSha256 := hsame.symm.trans hhash
    exact ⟨hsha, hparsed'.trans (hsha.trans hparsed.symm), rfl, hst.trans hresult⟩
  · cases hnone

/-- An accepted exchange is recorded, with the binding that it returned. -/
theorem exchange_recorded {secret : String} {signed : Signed ExchangeBody} {drawn : Drawn} {now : Int}
    {response : ExchangeResponse}
    (h : service.exchange secret signed drawn now s = .ok (response, s')) :
    ∃ c, s'.ceremonies.find signed.document.body.common.ceremonyId = some c ∧ c.state = .exchanged ∧
      c.exchangeDocument = some signed.document ∧ c.resultDeviceId = some response.deviceId ∧
      c.resultSessionId = some response.sessionId ∧
      c.receiptExpiresAt = some response.receiptExpiresAt := by
  obtain ⟨c, account, hc, -, -, -, -, ⟨hst, hdoc, hdev, hses, hreceipt, -, rfl⟩ |
    ⟨-, hdev, hses, -, hreceipt, hb⟩⟩ := exchange_ok h
  · exact ⟨c, hc.find, hst, hdoc, hdev, hses, hreceipt⟩
  · obtain ⟨claim, key, devices, sessions, saved, -, -, -, -, hsave, rfl⟩ := hb.rows
    refine ⟨exchangedBy c signed.document ⟨drawn.deviceId, drawn.sessionId, now + 90 * day⟩, ?_, rfl, rfl,
      congrArg some hdev.symm, congrArg some hses.symm, congrArg some hreceipt.symm⟩
    show saved.ceremonies.find _ = _
    rw [(save_ok hsave).1]
    exact if_pos hc.key

/-- **Exchange**: for an exchanged ceremony, and for an exchange's identifier, only the recorded document
is accepted; it changes nothing and returns the same device and session. -/
theorem exchange_again {secret secret' : String} {signed signed' : Signed ExchangeBody}
    {drawn drawn' : Drawn} {now now' : Int} {response response' : ExchangeResponse}
    (hshape : AllShaped t) (h : service.exchange secret signed drawn now s = .ok (response, s'))
    (p : Path (Retained service signed.document.body.common.ceremonyId) s' between t)
    (h' : service.exchange secret' signed' drawn' now' t = .ok (response', t'))
    (hid : signed'.document.body.common.ceremonyId = signed.document.body.common.ceremonyId ∨
      signed'.document.body.exchangeId = signed.document.body.exchangeId) :
    signed'.document = signed.document ∧ t' = t ∧ response'.replayed = true ∧
      response'.deviceId = response.deviceId ∧ response'.sessionId = response.sessionId ∧
      response'.receiptExpiresAt = response.receiptExpiresAt := by
  obtain ⟨c₀, hc₀, hst₀, hdoc₀, hdev₀, hses₀, hreceipt₀⟩ := exchange_recorded h
  obtain ⟨c, hc, hl⟩ := path_later p hc₀
  obtain ⟨hst, hdoc, hdev, hses, hreceipt⟩ := hl.exchanged hst₀
  obtain ⟨d, account, hd, -, -, -, hunique, hrest⟩ := exchange_ok h'
  have hkey : signed'.document.body.common.ceremonyId = signed.document.body.common.ceremonyId := by
    rcases hid with hid | hid
    · exact hid
    · have hcid : c.exchangeId = some signed'.document.body.exchangeId := by
        rw [(hshape _ c hc).exchangeId, hdoc, hdoc₀, Option.map_some, hid]
      have hsame := hunique c (Table.mem_of_find hc) hcid
      exact hd.key.symm.trans (hsame.symm.trans (Table.key_of_find hc))
  have hfind := hd.find
  rw [hkey, hc] at hfind
  cases hfind
  rcases hrest with ⟨-, hdoc', hdev', hses', hreceipt', hrep, rfl⟩ | ⟨hst', -⟩
  · refine ⟨Option.some.inj (hdoc'.symm.trans (hdoc.trans hdoc₀)), rfl, hrep, ?_, ?_, ?_⟩
    · exact Option.some.inj (hdev'.symm.trans (hdev.trans hdev₀))
    · exact Option.some.inj (hses'.symm.trans (hses.trans hses₀))
    · exact Option.some.inj (hreceipt'.symm.trans (hreceipt.trans hreceipt₀))
  · rw [hst] at hst'
    cases hst'

end

/-! ## the laws together -/

/-- The laws of self-pairing at the end of a run from a database without ceremonies. -/
structure PairingLaws (service : Service) (base : Db) (labels : List Label) (db : Db) : Prop where
  /-- Every step moves every ceremony along its life. -/
  moves : ∀ label db', Step service db label db' → ∀ k,
    Moves (db.ceremonies.find k) (db'.ceremonies.find k)
  /-- A call that raises changes nothing. -/
  refused : ∀ call e db', Step service db (.served call (.error e)) db' → db' = db
  /-- Devices and sessions come from an exchange only, and then with everything that `Binding` says. -/
  binds : ∀ (call : Call) outcome db', call.run service db = .ok (outcome, db') →
    (db'.devices = db.devices ∧ db'.sessions = db.sessions) ∨
      ∃ secret signed drawn now response c, call = .exchange secret signed drawn now ∧
        outcome = .binding response ∧ response.replayed = false ∧
        Binding service base labels db signed now response db' c
  /-- At most one binding while a ceremony has its row, and none once it is over. -/
  once : ∀ k between db', Path (Retained service k) db between db' →
    (bindings k between).length ≤ 1 ∧
      ∀ c, db.ceremonies.find k = some c → c.state.isPending = false → bindings k between = []
  start : ∀ actor actor' request request' now now' status status' db' between t t',
    service.start actor request now db = .ok (status, db') →
    Path (Retained service request.body.common.ceremonyId) db' between t →
    service.start actor' request' now' t = .ok (status', t') →
    (request'.body.common.ceremonyId = request.body.common.ceremonyId ∨
      request'.body.operationId = request.body.operationId) →
    request' = request ∧ t' = t ∧ ∃ c account,
      t.ceremonies.find request.body.common.ceremonyId = some c ∧
        status' = statusOf service c account true none
  claim : ∀ secret secret' signed signed' now now' status status' db' between t t',
    service.claim secret signed now db = .ok (status, db') →
    Path (Retained service signed.document.body.common.ceremonyId) db' between t →
    service.claim secret' signed' now' t = .ok (status', t') →
    (signed'.document.body.common.ceremonyId = signed.document.body.common.ceremonyId ∨
      signed'.document.body.claimId = signed.document.body.claimId) →
    signed'.document = signed.document ∧ t' = t ∧ ∃ c account,
      t.ceremonies.find signed.document.body.common.ceremonyId = some c ∧
        status' = statusOf service c account false none
  /-- The digests of two decisions stand for the documents. -/
  decide : ∀ actor actor' request request' now now' status status' db' between t t',
    service.decide actor request now db = .ok (status, db') →
    Path (Retained service request.body.common.ceremonyId) db' between t →
    service.decide actor' request' now' t = .ok (status', t') →
    request'.body.operationId = request.body.operationId →
    (service.crypto.canonicalSha256 (.decision request'.body) =
      service.crypto.canonicalSha256 (.decision request.body) → request'.body = request.body) →
    request' = request ∧ t' = t ∧ status' = status
  exchange : ∀ secret secret' signed signed' drawn drawn' now now' response response' db' between t t',
    service.exchange secret signed drawn now db = .ok (response, db') →
    Path (Retained service signed.document.body.common.ceremonyId) db' between t →
    service.exchange secret' signed' drawn' now' t = .ok (response', t') →
    (signed'.document.body.common.ceremonyId = signed.document.body.common.ceremonyId ∨
      signed'.document.body.exchangeId = signed.document.body.exchangeId) →
    signed'.document = signed.document ∧ t' = t ∧ response'.replayed = true ∧
      response'.deviceId = response.deviceId ∧ response'.sessionId = response.sessionId ∧
      response'.receiptExpiresAt = response.receiptExpiresAt

/-- A retained path is a path. -/
theorem Retained.path {service : Service} {k : Uuid} {db db' : Db} {labels : List Label}
    (p : Path (Retained service k) db labels db') : Path (Step service) db labels db' :=
  p.mono fun _ _ _ h => h.1

/-- The outcome of a call, and the database after it. -/
def serve (service : Service) (db : Db) (call : Call) : Label × Db :=
  match call.run service db with
  | .ok (outcome, db') => (.served call (.ok outcome), db')
  | .error e => (.served call (.error e), db)

theorem serve_step (service : Service) (db : Db) (call : Call) :
    Step service db (serve service db call).1 (serve service db call).2 := by
  unfold serve
  cases h : call.run service db with
  | ok r => exact .returned h
  | error e => exact .raised h

namespace Sample

def sha : Sha256Hex :=
  ⟨"0000000000000000000000000000000000000000000000000000000000000000", by decide +kernel⟩

def id1 : Uuid := ⟨"00000000-0000-0000-0000-000000000001", Eq.refl true⟩

def id2 : Uuid := ⟨"00000000-0000-0000-0000-000000000002", Eq.refl true⟩

def expected : Expected := ⟨id1, 1, sha, "https://api", "https://stream"⟩

/-- Digests that are all alike, and a clock that reads every text as the start of 1970. -/
def service : Service where
  crypto :=
    { canonicalSha256 := fun _ => sha
      secretHash := fun _ => some sha
      publicKey := fun _ => some ⟨[], sha⟩
      verifyP1363 := fun _ _ _ _ => true
      instant := fun _ => some 0
      sas := fun _ _ _ _ _ => "000000000000" }
  accessTtl := 60 * 1000000
  issueAccess := fun _ _ _ _ _ => ""
  fits := fun _ => true
  resultFits := fun _ => true

def actor : Principal := ⟨id1, id1, id1⟩

/-- One account with one phone and one session. -/
def base : Db where
  identity := fun _ => some expected
  account := fun _ => some ⟨id1, 1, "", .owner, "ACTIVE", none⟩
  keyBlocked := fun _ _ => false
  deviceLimit := fun _ => some 5
  devices := ⟨[⟨id1, id1, "phone", "ANDROID", "1", none, none, none, 0⟩], by decide +kernel,
    by decide +kernel⟩
  sessions := ⟨[⟨id1, id1, id1, sha, 0, 1000000, none, none, 0, "V2"⟩], by decide +kernel,
    by decide +kernel⟩
  ceremonies := Table.empty
  commands := Table.empty
  audit := []

def common : Common := ⟨"v1", 1, id1, "1970-01-01T00:00:00Z", expected⟩

def startRequest : Request StartBody := ⟨⟨common, id1, sha⟩, sha⟩

def cancelRequest : Request DecisionBody := ⟨⟨common, id2, .cancel, 1, none, none, none⟩, sha⟩

def started : Db := (serve service (Db.initial base) (.start actor startRequest 0)).2

def cancelled : Db := (serve service started (.decide actor cancelRequest 0)).2

end Sample

end AutPlay.Pairing
