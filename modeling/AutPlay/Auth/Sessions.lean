import AutPlay.Lib.Table
import AutPlay.Lib.Run
import AutPlay.Sync.Uuid

/-!
# Refresh rotation on the server

* rows              accounts, devices and sessions;
* `rotateRefresh`   one call with a refresh token, in one transaction;
* `RotateOk`        what a call can do to the sessions;
* `ChainsOk`        the chains of sessions that rotate into each other, in every run.

The digest of a token, the access tokens and the fresh values are the service's parameters.
Resource permits that end with a session are not part of this model.
-/

set_option linter.unusedSectionVars false

namespace AutPlay.Auth

open AutPlay.Sync (Uuid)

abbrev Digest := List UInt8

inductive AccountRole
  | owner
  | admin
  | user
  deriving DecidableEq

inductive SessionMode
  | legacy
  | v2
  deriving DecidableEq

/-! ## rows -/

structure UserAccountRow where
  userId : Uuid
  role : AccountRole
  status : String
  deletedAt : Option Int

structure DeviceRow where
  userId : Uuid
  deviceId : Uuid
  revokedAt : Option Int

structure UserSessionRow where
  sessionId : Uuid
  userId : Uuid
  deviceId : Uuid
  refreshTokenHash : Digest
  issuedAt : Int
  expiresAt : Int
  revokedAt : Option Int
  lastRotatedAt : Int
  sessionMode : SessionMode
  deriving DecidableEq

/-- The primary key, and `user_session_refresh_token_hash_key`. -/
instance : Schema UserSessionRow Uuid Digest where
  key := UserSessionRow.sessionId
  index row := some row.refreshTokenHash

structure AuditRecord where
  occurredAt : Int
  actorType : String
  actorUserId : Uuid
  actorDeviceId : Uuid
  action : String
  targetType : String
  targetId : Uuid
  requestId : Option Uuid
  reasonCode : Option String

def findAccount (accounts : List UserAccountRow) (userId : Uuid) : Option UserAccountRow :=
  accounts.find? fun account => account.userId = userId

def findDevice (devices : List DeviceRow) (userId deviceId : Uuid) : Option DeviceRow :=
  devices.find? fun device => device.userId = userId ∧ device.deviceId = deviceId

/-- The tables; a session belongs to an account and to a device of that account. -/
structure AuthDb where
  accounts : List UserAccountRow
  devices : List DeviceRow
  sessions : Table UserSessionRow
  audit : List AuditRecord
  owned : ∀ session ∈ sessions, (findAccount accounts session.userId).isSome = true ∧
    (findDevice devices session.userId session.deviceId).isSome = true

/-! ## the repository -/

structure AuthSessionState where
  sessionId : Uuid
  userId : Uuid
  deviceId : Uuid
  role : AccountRole
  accountStatus : String
  accountDeletedAt : Option Int
  deviceRevokedAt : Option Int
  issuedAt : Int
  expiresAt : Int
  revokedAt : Option Int
  sessionMode : SessionMode

def AuthSessionState.isActiveAt (state : AuthSessionState) (instant : Int) : Bool :=
  decide (state.accountStatus = "ACTIVE") && state.accountDeletedAt.isNone &&
    state.deviceRevokedAt.isNone && state.revokedAt.isNone && decide (instant < state.expiresAt)

def findHash (sessions : Table UserSessionRow) (hash : Digest) : Option UserSessionRow :=
  sessions.rows.find? fun session => session.refreshTokenHash = hash

def sessionState (session : UserSessionRow) (account : UserAccountRow) (device : DeviceRow) :
    AuthSessionState :=
  { sessionId := session.sessionId
    userId := session.userId
    deviceId := session.deviceId
    role := account.role
    accountStatus := account.status
    accountDeletedAt := account.deletedAt
    deviceRevokedAt := device.revokedAt
    issuedAt := session.issuedAt
    expiresAt := session.expiresAt
    revokedAt := session.revokedAt
    sessionMode := session.sessionMode }

def getSessionByRefreshHashForUpdate (hash : Digest) (db : AuthDb) : Option AuthSessionState :=
  (findHash db.sessions hash).bind fun session =>
    (findAccount db.accounts session.userId).bind fun account =>
      (findDevice db.devices session.userId session.deviceId).map fun device =>
        sessionState session account device

def revoke (revokedAt : Int) (session : UserSessionRow) : UserSessionRow :=
  { session with revokedAt := some revokedAt }

/-- `UPDATE` of the unrevoked sessions of a condition. -/
def AuthDb.revokeWhere (db : AuthDb) (condition : UserSessionRow → Bool) (revokedAt : Int) : AuthDb :=
  { db with
    sessions :=
      db.sessions.updateWhere (fun session => condition session && session.revokedAt.isNone)
        (revoke revokedAt)
    owned := by
      intro session hs
      obtain ⟨old, ho, rfl⟩ := (Table.mem_updateWhere _ _).mp hs
      have howned := db.owned old ho
      split
      · exact howned
      · exact howned }

def AuthDb.revokeSession (db : AuthDb) (sessionId : Uuid) (revokedAt : Int) : AuthDb :=
  db.revokeWhere (fun session => session.sessionId = sessionId) revokedAt

def AuthDb.revokeActiveSessionsForDevice (db : AuthDb) (userId deviceId : Uuid) (revokedAt : Int) :
    AuthDb :=
  db.revokeWhere (fun session => session.userId = userId ∧ session.deviceId = deviceId) revokedAt

def AuthDb.addAuditEvent (db : AuthDb) (record : AuditRecord) : AuthDb :=
  { db with audit := db.audit ++ [record] }

structure NewSession where
  sessionId : Uuid
  userId : Uuid
  deviceId : Uuid
  refreshTokenHash : Digest
  issuedAt : Int
  expiresAt : Int

def newSessionRow (session : NewSession) : UserSessionRow :=
  { sessionId := session.sessionId
    userId := session.userId
    deviceId := session.deviceId
    refreshTokenHash := session.refreshTokenHash
    issuedAt := session.issuedAt
    expiresAt := session.expiresAt
    revokedAt := none
    lastRotatedAt := session.issuedAt
    sessionMode := .legacy }

/-- The insertion with its foreign keys; `none` is an `IntegrityError`. -/
def AuthDb.createSession (db : AuthDb) (session : NewSession) : Option AuthDb :=
  match h : db.sessions.insert (newSessionRow session) with
  | .error _ => none
  | .ok sessions =>
    if hown : (findAccount db.accounts session.userId).isSome = true ∧
        (findDevice db.devices session.userId session.deviceId).isSome = true then
      some { db with
        sessions := sessions
        owned := by
          intro row hr
          rcases (Table.mem_insert h).mp hr with hr | rfl
          · exact db.owned row hr
          · exact hown }
    else none

/-! ## the service -/

structure Principal where
  userId : Uuid
  deviceId : Uuid
  sessionId : Uuid
  role : AccountRole

/-- The codecs and the settings of the service. -/
structure AuthService where
  digest : String → Option Digest
  accessTokenTtl : Int
  issueAccess : Principal → Uuid → Int → Int → String

/-- What `issue` returns: the digest of the token is the one it carries. -/
structure RefreshCredential (service : AuthService) where
  token : String
  sha256 : Digest
  digest_token : service.digest token = some sha256

structure TokenPair where
  accessToken : String
  refreshToken : String
  accessExpiresAt : Int
  refreshExpiresAt : Int
  userId : Uuid
  deviceId : Uuid
  sessionId : Uuid

inductive AuthError
  | invalidRefreshToken
  | refreshTokenReplay
  | integrityError
  deriving DecidableEq

/-- One call: the clock, the fresh values and the caller's input. -/
structure RotateCall (service : AuthService) where
  now : Int
  newSessionId : Uuid
  tokenId : Uuid
  replacement : RefreshCredential service
  requestId : Option Uuid
  refreshToken : String

def auditActorType (role : AccountRole) : String :=
  if role = .owner ∨ role = .admin then "ADMIN" else "USER"

def auditOf (stored : AuthSessionState) (now : Int) (requestId : Option Uuid) (action : String)
    (targetId : Uuid) (reasonCode : Option String) : AuditRecord :=
  { occurredAt := now
    actorType := auditActorType stored.role
    actorUserId := stored.userId
    actorDeviceId := stored.deviceId
    action := action
    targetType := "USER_SESSION"
    targetId := targetId
    requestId := requestId
    reasonCode := reasonCode }

variable {service : AuthService}

def issuePair (call : RotateCall service) (principal : Principal) (refreshExpiresAt : Int) :
    TokenPair :=
  { accessToken :=
      service.issueAccess principal call.tokenId call.now (call.now + service.accessTokenTtl)
    refreshToken := call.replacement.token
    accessExpiresAt := call.now + service.accessTokenTtl
    refreshExpiresAt := refreshExpiresAt
    userId := principal.userId
    deviceId := principal.deviceId
    sessionId := principal.sessionId }

/-- The branch of a revoked generation: all sessions of the device end, and the error follows the
commit. -/
def refuseReplay (call : RotateCall service) (stored : AuthSessionState) (db : AuthDb) :
    Except AuthError TokenPair × AuthDb :=
  (.error .refreshTokenReplay,
    (db.revokeActiveSessionsForDevice stored.userId stored.deviceId call.now).addAuditEvent
      (auditOf stored call.now call.requestId "auth.refresh_replay_detected" stored.sessionId
        (some "KNOWN_REVOKED_GENERATION")))

def refuseInactive (call : RotateCall service) (stored : AuthSessionState) (db : AuthDb) :
    Except AuthError TokenPair × AuthDb :=
  (.error .invalidRefreshToken,
    (db.revokeSession stored.sessionId call.now).addAuditEvent
      (auditOf stored call.now call.requestId "auth.refresh_rejected" stored.sessionId
        (some "INACTIVE_SESSION")))

/-- The branch of an active session: its successor keeps the absolute expiry. -/
def rotateActive (call : RotateCall service) (stored : AuthSessionState) (db : AuthDb) :
    Except AuthError TokenPair × AuthDb :=
  match (db.revokeSession stored.sessionId call.now).createSession
      { sessionId := call.newSessionId
        userId := stored.userId
        deviceId := stored.deviceId
        refreshTokenHash := call.replacement.sha256
        issuedAt := call.now
        expiresAt := stored.expiresAt } with
  | none => (.error .integrityError, db)
  | some created =>
    (.ok (issuePair call ⟨stored.userId, stored.deviceId, call.newSessionId, stored.role⟩
        stored.expiresAt),
      created.addAuditEvent
        (auditOf stored call.now call.requestId "auth.refresh_rotated" call.newSessionId none))

/-- `AuthService.rotate_refresh` -/
def rotateRefresh (call : RotateCall service) (db : AuthDb) : Except AuthError TokenPair × AuthDb :=
  match service.digest call.refreshToken with
  | none => (.error .invalidRefreshToken, db)
  | some digest =>
    match getSessionByRefreshHashForUpdate digest db with
    | none => (.error .invalidRefreshToken, db)
    | some stored =>
      if stored.sessionMode ≠ .legacy then (.error .invalidRefreshToken, db)
      else if stored.revokedAt.isSome then refuseReplay call stored db
      else if stored.isActiveAt call.now then rotateActive call stored db
      else refuseInactive call stored db

/-! ## lookups -/

theorem findHash_some {sessions : Table UserSessionRow} {hash : Digest} {session : UserSessionRow} :
    findHash sessions hash = some session ↔ session ∈ sessions ∧ session.refreshTokenHash = hash := by
  unfold findHash
  constructor
  · intro h
    exact ⟨List.mem_of_find?_eq_some h, by simpa using List.find?_some h⟩
  · rintro ⟨hm, rfl⟩
    cases hf : sessions.rows.find? fun other => other.refreshTokenHash = session.refreshTokenHash with
    | none => exact absurd (decide_eq_true rfl) (List.find?_eq_none.mp hf session hm)
    | some other =>
      have hom : other ∈ sessions := List.mem_of_find?_eq_some hf
      have hoh : other.refreshTokenHash = session.refreshTokenHash :=
        by simpa using List.find?_some hf
      exact congrArg some (Table.eq_of_index hom hm nofun (congrArg some hoh))

theorem getSession_some {hash : Digest} {db : AuthDb} {stored : AuthSessionState} :
    getSessionByRefreshHashForUpdate hash db = some stored ↔
      ∃ session ∈ db.sessions, session.refreshTokenHash = hash ∧
        ∃ account device, findAccount db.accounts session.userId = some account ∧
          findDevice db.devices session.userId session.deviceId = some device ∧
          stored = sessionState session account device := by
  unfold getSessionByRefreshHashForUpdate
  simp only [Option.bind_eq_some_iff, Option.map_eq_some_iff, findHash_some]
  constructor
  · rintro ⟨session, ⟨hm, hh⟩, account, ha, device, hd, rfl⟩
    exact ⟨session, hm, hh, account, device, ha, hd, rfl⟩
  · rintro ⟨session, hm, hh, account, device, ha, hd, rfl⟩
    exact ⟨session, ⟨hm, hh⟩, account, ha, device, hd, rfl⟩

/-- The session of a hash is found: its account and its device are there. -/
theorem getSession_of_mem {db : AuthDb} {session : UserSessionRow} (h : session ∈ db.sessions) :
    ∃ account device, getSessionByRefreshHashForUpdate session.refreshTokenHash db =
      some (sessionState session account device) := by
  obtain ⟨ha, hd⟩ := db.owned session h
  obtain ⟨account, ha⟩ := Option.isSome_iff_exists.mp ha
  obtain ⟨device, hd⟩ := Option.isSome_iff_exists.mp hd
  exact ⟨account, device, getSession_some.mpr ⟨session, h, rfl, account, device, ha, hd, rfl⟩⟩

/-! ## what a call can do -/

/-- Revoking, by the condition it is made for. -/
theorem mem_revokeWhere {db : AuthDb} {condition : UserSessionRow → Bool} {revokedAt : Int}
    {session : UserSessionRow} :
    session ∈ (db.revokeWhere condition revokedAt).sessions ↔ ∃ old ∈ db.sessions,
      session = if condition old && old.revokedAt.isNone then revoke revokedAt old else old :=
  Table.mem_updateWhere (f := revoke revokedAt) (fun _ => rfl) fun _ => rfl

/-- **The outcomes of a call.** -/
inductive RotateOk (call : RotateCall service) (db : AuthDb) :
    Except AuthError TokenPair × AuthDb → Prop
  /-- Refused, and nothing changed. -/
  | refused (error : AuthError) (other : error ≠ .refreshTokenReplay)
      (unseen : ∀ session ∈ db.sessions,
        service.digest call.refreshToken = some session.refreshTokenHash →
        session.sessionMode = .legacy → session.revokedAt = none) :
      RotateOk call db (.error error, db)
  /-- A revoked generation. -/
  | replay (session : UserSessionRow) (stored : session ∈ db.sessions) (after : AuthDb)
      (hash : service.digest call.refreshToken = some session.refreshTokenHash)
      (revoked : session.revokedAt ≠ none)
      (sessions : after.sessions =
        (db.revokeActiveSessionsForDevice session.userId session.deviceId call.now).sessions) :
      RotateOk call db (.error .refreshTokenReplay, after)
  /-- A session that was not revoked, of an account or device that is no longer active. -/
  | inactive (session : UserSessionRow) (stored : session ∈ db.sessions) (after : AuthDb)
      (hash : service.digest call.refreshToken = some session.refreshTokenHash)
      (unrevoked : session.revokedAt = none)
      (sessions : after.sessions = (db.revokeSession session.sessionId call.now).sessions) :
      RotateOk call db (.error .invalidRefreshToken, after)
  /-- A rotation. -/
  | rotated (session : UserSessionRow) (stored : session ∈ db.sessions) (after : AuthDb)
      (pair : TokenPair) (successor : UserSessionRow)
      (hash : service.digest call.refreshToken = some session.refreshTokenHash)
      (unrevoked : session.revokedAt = none)
      (issued : pair.refreshToken = call.replacement.token ∧ pair.sessionId = successor.sessionId)
      (row : successor = newSessionRow
        { sessionId := call.newSessionId, userId := session.userId, deviceId := session.deviceId,
          refreshTokenHash := call.replacement.sha256, issuedAt := call.now,
          expiresAt := session.expiresAt })
      (inserted : (db.revokeSession session.sessionId call.now).sessions.insert successor =
        .ok after.sessions) :
      RotateOk call db (.ok pair, after)

theorem createSession_some {db after : AuthDb} {session : NewSession}
    (h : db.createSession session = some after) :
    db.sessions.insert (newSessionRow session) = .ok after.sessions := by
  unfold AuthDb.createSession at h
  split at h
  · cases h
  · rename_i sessions hi
    split at h
    · cases h
      exact hi
    · cases h

theorem rotateRefresh_ok (call : RotateCall service) (db : AuthDb) :
    RotateOk call db (rotateRefresh call db) := by
  unfold rotateRefresh
  cases hd : service.digest call.refreshToken with
  | none =>
    refine .refused .invalidRefreshToken nofun ?_
    intro session _ hh
    cases hd.symm.trans hh
  | some digest =>
    dsimp only
    cases hg : getSessionByRefreshHashForUpdate digest db with
    | none =>
      refine .refused .invalidRefreshToken nofun ?_
      intro session hs hh
      cases hd.symm.trans hh
      obtain ⟨account, device, hsome⟩ := getSession_of_mem hs
      exact absurd (hg.symm.trans hsome) nofun
    | some stored =>
      obtain ⟨session, hs, rfl, account, device, ha, hdev, rfl⟩ := getSession_some.mp hg
      dsimp only
      split
      · rename_i hmode
        refine .refused .invalidRefreshToken nofun ?_
        intro other ho hh hl
        have hsame : other = session :=
          Table.eq_of_index ho hs nofun (hh.symm.trans hd)
        subst hsame
        exact absurd hl hmode
      · split
        · rename_i hrev
          exact .replay session hs _ hd (Option.isSome_iff_ne_none.mp hrev) rfl
        · rename_i hrev
          have hnone : session.revokedAt = none := Option.not_isSome_iff_eq_none.mp hrev
          split
          · unfold rotateActive
            cases hc : (db.revokeSession session.sessionId call.now).createSession
                { sessionId := call.newSessionId, userId := session.userId
                  deviceId := session.deviceId, refreshTokenHash := call.replacement.sha256
                  issuedAt := call.now, expiresAt := session.expiresAt } with
            | none =>
              dsimp only [sessionState]
              rw [hc]
              refine .refused .integrityError nofun ?_
              intro other ho hh _
              have hsame : other = session :=
                Table.eq_of_index ho hs nofun (hh.symm.trans hd)
              rw [hsame]
              exact hnone
            | some created =>
              dsimp only [sessionState]
              rw [hc]
              have hins := createSession_some hc
              exact .rotated session hs _ _ _ hd hnone ⟨rfl, rfl⟩ rfl hins
          · exact .inactive session hs _ hd hnone rfl

/-! ## revoked sessions -/

section revoked
variable {db : AuthDb} {condition : UserSessionRow → Bool} {revokedAt : Int}
  {session : UserSessionRow}

/-- What revoking keeps of a row. -/
theorem mem_revokeWhere_of (hm : session ∈ (db.revokeWhere condition revokedAt).sessions) :
    ∃ old ∈ db.sessions, session.sessionId = old.sessionId ∧ session.userId = old.userId ∧
      session.deviceId = old.deviceId ∧ session.refreshTokenHash = old.refreshTokenHash ∧
      session.expiresAt = old.expiresAt ∧ session.sessionMode = old.sessionMode ∧
      (session.revokedAt = none → old.revokedAt = none ∧ condition old = false) := by
  obtain ⟨old, ho, rfl⟩ := mem_revokeWhere.mp hm
  refine ⟨old, ho, ?_⟩
  split
  · exact ⟨rfl, rfl, rfl, rfl, rfl, rfl, nofun⟩
  · rename_i hkeep
    refine ⟨rfl, rfl, rfl, rfl, rfl, rfl, ?_⟩
    intro hnone
    rw [hnone, Option.isNone_none, Bool.and_true] at hkeep
    exact ⟨hnone, Bool.eq_false_of_not_eq_true hkeep⟩

/-- A row that the condition does not hold of stays as it is. -/
theorem mem_revokeWhere_other (h : session ∈ db.sessions)
    (hc : condition session = false) : session ∈ (db.revokeWhere condition revokedAt).sessions := by
  refine mem_revokeWhere.mpr ⟨session, h, ?_⟩
  rw [hc, Bool.false_and, if_neg Bool.false_ne_true]

end revoked

/-! ## chains -/

/-- The state of a run: the tables, and where each session's chain began. -/
structure ChainState where
  db : AuthDb
  root : Uuid → Uuid

/-- The root of a new session is the root of the session it replaces. -/
def extendRoot (call : RotateCall service) (db : AuthDb) (root : Uuid → Uuid) :
    Except AuthError TokenPair → Uuid → Uuid
  | .error _ => root
  | .ok pair => fun sessionId =>
    if sessionId = pair.sessionId then
      match (service.digest call.refreshToken).bind (findHash db.sessions) with
      | none => root sessionId
      | some session => root session.sessionId
    else root sessionId

def chainStep (state : ChainState) (call : RotateCall service) : ChainState :=
  { db := (rotateRefresh call state.db).2
    root := extendRoot call state.db state.root (rotateRefresh call state.db).1 }

/-- **The chains**, of the sessions that a run began with. -/
structure ChainsOk (start : AuthDb) (state : ChainState) : Prop where
  rooted : ∀ session ∈ state.db.sessions, ∃ first ∈ start.sessions,
    first.sessionId = state.root session.sessionId ∧ session.expiresAt = first.expiresAt
  one : ∀ a ∈ state.db.sessions, ∀ b ∈ state.db.sessions,
    state.root a.sessionId = state.root b.sessionId → a.revokedAt = none → b.revokedAt = none →
    a = b

theorem chainsOk_start (start : AuthDb) : ChainsOk start ⟨start, id⟩ where
  rooted session h := ⟨session, h, rfl, rfl⟩
  one _ ha _ hb h _ _ := Table.eq_of_key ha hb h

/-- Revoking keeps the chains. -/
theorem ChainsOk.revokeWhere {start : AuthDb} {state : ChainState} (h : ChainsOk start state)
    {after : AuthDb} {condition : UserSessionRow → Bool} {revokedAt : Int}
    (hs : after.sessions = (state.db.revokeWhere condition revokedAt).sessions) :
    ChainsOk start ⟨after, state.root⟩ where
  rooted := by
    intro session hm
    change session ∈ after.sessions at hm
    rw [hs] at hm
    obtain ⟨old, ho, hid, _, _, _, hexp, _, _⟩ := mem_revokeWhere_of hm
    obtain ⟨first, hf, hroot, he⟩ := h.rooted old ho
    refine ⟨first, hf, ?_, hexp.trans he⟩
    rw [hid]
    exact hroot
  one := by
    intro a ha b hb hroot hna hnb
    change a ∈ after.sessions at ha
    change b ∈ after.sessions at hb
    have hkey : a.sessionId = b.sessionId := by
      rw [hs] at ha hb
      obtain ⟨oldA, hoA, hidA, _, _, _, _, _, hrevA⟩ := mem_revokeWhere_of ha
      obtain ⟨oldB, hoB, hidB, _, _, _, _, _, hrevB⟩ := mem_revokeWhere_of hb
      change state.root a.sessionId = state.root b.sessionId at hroot
      rw [hidA, hidB] at hroot
      rw [hidA, hidB, h.one oldA hoA oldB hoB hroot (hrevA hna).1 (hrevB hnb).1]
    exact Table.eq_of_key ha hb hkey

theorem extendRoot_ok {call : RotateCall service} {db : AuthDb} (root : Uuid → Uuid)
    (pair : TokenPair) {session : UserSessionRow} (hs : session ∈ db.sessions)
    (hash : service.digest call.refreshToken = some session.refreshTokenHash) (sessionId : Uuid) :
    extendRoot call db root (.ok pair) sessionId =
      if sessionId = pair.sessionId then root session.sessionId else root sessionId := by
  unfold extendRoot
  rw [hash, Option.bind_some, findHash_some.mpr ⟨hs, rfl⟩]

/-- **A call keeps the chains.** -/
theorem ChainsOk.step {start : AuthDb} {state : ChainState} (h : ChainsOk start state)
    (call : RotateCall service) : ChainsOk start (chainStep state call) := by
  have hok := rotateRefresh_ok call state.db
  unfold chainStep
  generalize rotateRefresh call state.db = outcome at hok ⊢
  cases hok with
  | refused => exact h
  | replay session _ after _ _ hs => exact h.revokeWhere hs
  | inactive session _ after _ _ hs => exact h.revokeWhere hs
  | rotated session hsession after pair successor hash unrevoked issued row inserted =>
    have hrev : ChainsOk start
        ⟨state.db.revokeSession session.sessionId call.now, state.root⟩ := h.revokeWhere rfl
    have hroot := extendRoot_ok state.root pair hsession hash
    have hfree : ∀ old ∈ (state.db.revokeSession session.sessionId call.now).sessions,
        old.sessionId ≠ successor.sessionId :=
      Table.find_none.mp (Table.insert_ok.mp inserted).1
    have hrootOld : ∀ old ∈ (state.db.revokeSession session.sessionId call.now).sessions,
        extendRoot call state.db state.root (.ok pair) old.sessionId = state.root old.sessionId := by
      intro old ho
      rw [hroot, if_neg (issued.2 ▸ hfree old ho)]
    have hrootNew : extendRoot call state.db state.root (.ok pair) successor.sessionId =
        state.root session.sessionId := by
      rw [hroot, if_pos issued.2.symm]
    -- the session that was replaced was the unrevoked one of its chain
    have hgone : ∀ old ∈ (state.db.revokeSession session.sessionId call.now).sessions,
        old.revokedAt = none → state.root old.sessionId ≠ state.root session.sessionId := by
      intro old ho hnone hsame
      obtain ⟨before, hb, hid, _, _, _, _, _, hrevoked⟩ := mem_revokeWhere_of ho
      rw [hid] at hsame
      have heq := h.one before hb session hsession hsame (hrevoked hnone).1 unrevoked
      have hc := (hrevoked hnone).2
      rw [heq] at hc
      simp at hc
    constructor
    · intro x hx
      rcases (Table.mem_insert inserted).mp hx with hx | rfl
      · obtain ⟨first, hf, hid, he⟩ := hrev.rooted x hx
        exact ⟨first, hf, hid.trans (hrootOld x hx).symm, he⟩
      · obtain ⟨first, hf, hid, he⟩ := h.rooted session hsession
        refine ⟨first, hf, hid.trans hrootNew.symm, ?_⟩
        rw [row]
        exact he
    · intro a ha b hb hsame hna hnb
      rcases (Table.mem_insert inserted).mp ha with ha | rfl <;>
        rcases (Table.mem_insert inserted).mp hb with hb | rfl
      · change extendRoot call state.db state.root (.ok pair) a.sessionId = _ at hsame
        change _ = extendRoot call state.db state.root (.ok pair) b.sessionId at hsame
        rw [hrootOld a ha, hrootOld b hb] at hsame
        exact hrev.one a ha b hb hsame hna hnb
      · exact absurd ((hrootOld a ha).symm.trans (hsame.trans hrootNew)) (hgone a ha hna)
      · exact absurd ((hrootOld b hb).symm.trans (hsame.symm.trans hrootNew)) (hgone b hb hnb)
      · rfl

/-- **Every sequence of calls keeps the chains.** -/
theorem chainsOk_run (start : AuthDb) (calls : List (RotateCall service)) :
    ChainsOk start (calls.foldl chainStep ⟨start, id⟩) := by
  refine Path.invariant (I := ChainsOk start) ?_
    ((Path.foldl_iff chainStep ⟨start, id⟩ _ calls).mpr rfl) (chainsOk_start start)
  intro state call after h hs
  cases hs
  exact h.step call

/-- **A revoked generation ends every session of its device**, in the tables the call leaves. -/
theorem rotateRefresh_replay (call : RotateCall service) (db : AuthDb) {session : UserSessionRow}
    (hs : session ∈ db.sessions)
    (hash : service.digest call.refreshToken = some session.refreshTokenHash)
    (legacy : session.sessionMode = .legacy) (revoked : session.revokedAt ≠ none) :
    (rotateRefresh call db).1 = .error .refreshTokenReplay ∧
      ∀ other ∈ (rotateRefresh call db).2.sessions, other.userId = session.userId →
        other.deviceId = session.deviceId → other.revokedAt ≠ none := by
  have hok := rotateRefresh_ok call db
  generalize rotateRefresh call db = outcome at hok ⊢
  have hsame : ∀ found ∈ db.sessions,
      service.digest call.refreshToken = some found.refreshTokenHash → found = session := by
    intro found hf hh
    exact Table.eq_of_index hf hs nofun (hh.symm.trans hash)
  cases hok with
  | refused error other unseen => exact absurd (unseen session hs hash legacy) revoked
  | replay found hfound after hh _ hsessions =>
    cases hsame found hfound hh
    refine ⟨rfl, ?_⟩
    intro other ho hu hd hnone
    change other ∈ after.sessions at ho
    rw [hsessions] at ho
    obtain ⟨old, _, _, hou, hod, _, _, _, hkeep⟩ := mem_revokeWhere_of ho
    have hc := (hkeep hnone).2
    rw [← hou, ← hod, hu, hd] at hc
    simp at hc
  | inactive found hfound after hh unrevoked _ =>
    cases hsame found hfound hh
    exact absurd unrevoked revoked
  | rotated found hfound after pair successor hh unrevoked _ _ _ =>
    cases hsame found hfound hh
    exact absurd unrevoked revoked

end AutPlay.Auth
