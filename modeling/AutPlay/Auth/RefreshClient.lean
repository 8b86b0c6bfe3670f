import AutPlay.Auth.Sessions
import Mathlib.Logic.Relation

/-!
# Refresh rotation between the client and the server

* `Stage`          where the caller that holds the profile's mutex stands in `refreshCurrent`;
* `WorldStep`      a step of the client, of the network or of the server; a crash;
* `Honest`         no token that the client can still post was posted, and its session lives;
* `legacy_refresh` what holds in every run, and of every sequence of server calls.

Any number of callers run: at most one of them is inside the mutex, and the others only read the
stored envelope. A post is one call of the HTTP client.
-/

set_option linter.unusedSectionVars false

namespace AutPlay.Auth

open AutPlay.Sync (Uuid)

/-! ## the client -/

structure SessionCredentialEnvelope where
  accessToken : String
  refreshToken : Option String
  generation : Int
  refreshPending : Bool
  bindingCommitId : Option String

/-- What the clock and the settings say when a caller enters: whether an account deletion vetoes
the profile, and which access tokens expire soon. -/
structure Surroundings where
  vetoed : Bool
  expiring : String → Bool

inductive Entry
  | sessionRequired
  | access (current : SessionCredentialEnvelope)
  | refresh (current : SessionCredentialEnvelope) (refreshToken : String)

/-- The checks of `refreshCurrent` under the mutex, up to the first `beforeRequest`. -/
def enter (around : Surroundings) (rejectedGeneration : Int) :
    Option SessionCredentialEnvelope → Entry
  | none => .sessionRequired
  | some current =>
    if around.vetoed then .sessionRequired
    else if current.refreshPending then .sessionRequired
    else if current.bindingCommitId.isSome then .sessionRequired
    else if current.generation ≠ rejectedGeneration ∧ around.expiring current.accessToken = false then
      .access current
    else
      match current.refreshToken with
      | none => .sessionRequired
      | some refreshToken => .refresh current refreshToken

/-- Inside the mutex. -/
inductive Stage
  /-- at the first `beforeRequest` -/
  | guarding (current : SessionCredentialEnvelope) (refreshToken : String)
  /-- writing the pending mark -/
  | marking (current : SessionCredentialEnvelope) (refreshToken : String)
  /-- the mark is stored; at the second `beforeRequest`, then at the post -/
  | marked (current : SessionCredentialEnvelope) (refreshToken : String)
  | posting (current : SessionCredentialEnvelope) (refreshToken : String)
  /-- writing the usable envelope back -/
  | restoring (current : SessionCredentialEnvelope)
  | waiting (call : Nat) (generation : Int)
  | storing (rotated : SessionCredentialEnvelope)

def pendingOf (current : SessionCredentialEnvelope) : SessionCredentialEnvelope :=
  { current with refreshPending := true }

/-- The envelope that `rotate` builds from a response. -/
def rotatedOf (pair : TokenPair) (generation : Int) : SessionCredentialEnvelope :=
  { accessToken := pair.accessToken
    refreshToken := some pair.refreshToken
    generation := generation + 1
    refreshPending := false
    bindingCommitId := none }

/-! ## the world -/

/-- The preferences in memory and on disk, the holder of the mutex, the network and the server.
`posted` and `answered` record what was posted and what the server said. -/
structure World where
  memory : Option SessionCredentialEnvelope
  disk : Option SessionCredentialEnvelope
  inside : Option Stage
  calls : Nat
  requests : List (Nat × String)
  replies : List (Nat × TokenPair)
  db : AuthDb
  posted : List String
  answered : List (String × Except AuthError TokenPair)

/-- A write that failed may have reached the memory, the disk, both or neither. -/
def World.tried (w : World) (value : SessionCredentialEnvelope) (memory disk : Bool) : World :=
  { w with
    memory := if memory then some value else w.memory
    disk := if disk then some value else w.disk }

def World.written (w : World) (value : SessionCredentialEnvelope) : World := w.tried value true true

def World.at (w : World) (stage : Option Stage) : World := { w with inside := stage }

def World.post (w : World) (generation : Int) (refreshToken : String) : World :=
  { w with
    inside := some (.waiting w.calls generation)
    calls := w.calls + 1
    requests := w.requests ++ [(w.calls, refreshToken)]
    posted := w.posted ++ [refreshToken] }

def replyOf (call : Nat) : Except AuthError TokenPair → List (Nat × TokenPair)
  | .error _ => []
  | .ok pair => [(call, pair)]

variable {service : AuthService}

def World.serve (w : World) (call : Nat) (c : RotateCall service) : World :=
  { w with
    requests := w.requests.filter fun request => request.1 ≠ call
    replies := w.replies ++ replyOf call (rotateRefresh c w.db).1
    db := (rotateRefresh c w.db).2
    answered := w.answered ++ [(c.refreshToken, (rotateRefresh c w.db).1)] }

inductive WorldStep (service : AuthService) : World → World → Prop
  | enter (w : World) (around : Surroundings) (rejected : Int) (current refreshToken)
      (free : w.inside = none)
      (checked : enter around rejected w.memory = .refresh current refreshToken) :
      WorldStep service w (w.at (some (.guarding current refreshToken)))
  /-- `beforeRequest` throws, or the caller is cancelled there -/
  | guardFails (w : World) (current refreshToken)
      (at_stage : w.inside = some (.guarding current refreshToken)) :
      WorldStep service w (w.at none)
  | guarded (w : World) (current refreshToken)
      (at_stage : w.inside = some (.guarding current refreshToken)) :
      WorldStep service w (w.at (some (.marking current refreshToken)))
  | mark (w : World) (current refreshToken)
      (at_stage : w.inside = some (.marking current refreshToken)) :
      WorldStep service w ((w.written (pendingOf current)).at (some (.marked current refreshToken)))
  | markFails (w : World) (current refreshToken) (memory disk : Bool)
      (at_stage : w.inside = some (.marking current refreshToken)) :
      WorldStep service w
        ((w.tried (pendingOf current) memory disk).at (some (.restoring current)))
  | secondGuardFails (w : World) (current refreshToken)
      (at_stage : w.inside = some (.marked current refreshToken)) :
      WorldStep service w (w.at (some (.restoring current)))
  | secondGuarded (w : World) (current refreshToken)
      (at_stage : w.inside = some (.marked current refreshToken)) :
      WorldStep service w (w.at (some (.posting current refreshToken)))
  /-- The write of `NonCancellable`, whether it succeeds or not; the error goes on. -/
  | restore (w : World) (current) (memory disk : Bool)
      (at_stage : w.inside = some (.restoring current)) :
      WorldStep service w ((w.tried current memory disk).at none)
  /-- cancelled on the way to the network -/
  | postFails (w : World) (current refreshToken)
      (at_stage : w.inside = some (.posting current refreshToken)) :
      WorldStep service w (w.at none)
  | post (w : World) (current refreshToken)
      (at_stage : w.inside = some (.posting current refreshToken)) :
      WorldStep service w (w.post current.generation refreshToken)
  | lose (w : World) (call : Nat) :
      WorldStep service w
        { w with requests := w.requests.filter fun request => request.1 ≠ call }
  | serve (w : World) (call : Nat) (c : RotateCall service)
      (sent : (call, c.refreshToken) ∈ w.requests) :
      WorldStep service w (w.serve call c)
  | receive (w : World) (call : Nat) (generation : Int) (pair : TokenPair)
      (at_stage : w.inside = some (.waiting call generation)) (reply : (call, pair) ∈ w.replies) :
      WorldStep service w (w.at (some (.storing (rotatedOf pair generation))))
  /-- an error response, a lost response, a malformed one or a cancellation -/
  | receiveFails (w : World) (call : Nat) (generation : Int)
      (at_stage : w.inside = some (.waiting call generation)) :
      WorldStep service w (w.at none)
  /-- The write of the rotated envelope, whether it succeeds or not. -/
  | store (w : World) (rotated) (memory disk : Bool)
      (at_stage : w.inside = some (.storing rotated)) :
      WorldStep service w ((w.tried rotated memory disk).at none)
  /-- The process dies: what is on disk is what the next one reads. -/
  | crash (w : World) :
      WorldStep service w { w with memory := w.disk, inside := none }

/-! ## what the client can still post -/

/-- The envelope still offers this token. -/
def Offers (refreshToken : String) (envelope : SessionCredentialEnvelope) : Prop :=
  envelope.refreshPending = false ∧ envelope.refreshToken = some refreshToken

def Holds (w : World) (refreshToken : String) : Stage → Prop
  | .guarding current token => token = refreshToken ∨ Offers refreshToken current
  | .marking current token => token = refreshToken ∨ Offers refreshToken current
  | .marked current token => token = refreshToken ∨ Offers refreshToken current
  | .posting _ token => token = refreshToken
  | .restoring current => Offers refreshToken current
  | .waiting call _ => ∃ pair, (call, pair) ∈ w.replies ∧ pair.refreshToken = refreshToken
  | .storing rotated => Offers refreshToken rotated

/-- The client may post this token later on. -/
def Live (w : World) (refreshToken : String) : Prop :=
  (∃ envelope, w.memory = some envelope ∧ Offers refreshToken envelope) ∨
    (∃ envelope, w.disk = some envelope ∧ Offers refreshToken envelope) ∨
      ∃ stage, w.inside = some stage ∧ Holds w refreshToken stage

/-- The token of a session that was not revoked. -/
def Current (service : AuthService) (db : AuthDb) (refreshToken : String) : Prop :=
  ∃ session ∈ db.sessions, service.digest refreshToken = some session.refreshTokenHash ∧
    session.revokedAt = none

def Known (service : AuthService) (db : AuthDb) (refreshToken : String) : Prop :=
  ∃ session ∈ db.sessions, service.digest refreshToken = some session.refreshTokenHash

structure Honest (service : AuthService) (w : World) : Prop where
  live : ∀ token, Live w token → Current service w.db token ∧
    service.digest token ∉ w.posted.map service.digest
  sent : ∀ request ∈ w.requests, request.2 ∈ w.posted ∧ Current service w.db request.2 ∧
    request.1 < w.calls
  apart : (w.requests.map fun request => service.digest request.2).Nodup
  replied : ∀ reply ∈ w.replies, reply.1 < w.calls
  known : ∀ token ∈ w.posted, Known service w.db token
  distinct : (w.posted.map service.digest).Nodup
  answers : ∀ answer ∈ w.answered, ∀ e, answer.2 = .error e → e ≠ .refreshTokenReplay
  /-- Between the mark and the post nothing but the mark is stored. -/
  sealed : ∀ current token, w.inside = some (.posting current token) ∨
    w.inside = some (.marked current token) →
    w.memory = some (pendingOf current) ∧ w.disk = some (pendingOf current)

/-! ## the client's own steps -/

theorem not_offers_pending (token : String) (current : SessionCredentialEnvelope) :
    ¬ Offers token (pendingOf current) := by
  intro h
  cases h.1

theorem offers_rotated {token : String} {pair : TokenPair} {generation : Int}
    (h : Offers token (rotatedOf pair generation)) : pair.refreshToken = token :=
  Option.some.inj h.2

/-- What `enter` lets through, the store still offers. -/
theorem enter_refresh {around : Surroundings} {rejected : Int}
    {stored : Option SessionCredentialEnvelope} {current : SessionCredentialEnvelope}
    {refreshToken : String} (h : enter around rejected stored = .refresh current refreshToken) :
    stored = some current ∧ Offers refreshToken current := by
  unfold enter at h
  split at h
  · cases h
  · rename_i envelope
    split at h
    · cases h
    · split at h
      · cases h
      · rename_i hpending
        split at h
        · cases h
        · split at h
          · cases h
          · split at h
            · cases h
            · rename_i token htoken
              cases h
              exact ⟨rfl, Bool.eq_false_of_not_eq_true hpending, htoken⟩

section steps
variable {w : World}

/-- A step of the client that makes nothing new postable. -/
theorem Honest.move (h : Honest service w) {memory disk : Option SessionCredentialEnvelope}
    {inside : Option Stage}
    (hm : ∀ envelope, memory = some envelope → ∀ token, Offers token envelope → Live w token)
    (hd : ∀ envelope, disk = some envelope → ∀ token, Offers token envelope → Live w token)
    (hs : ∀ stage, inside = some stage → ∀ token, Holds w token stage → Live w token)
    (hseal : ∀ current token, inside = some (.posting current token) ∨
      inside = some (.marked current token) →
      memory = some (pendingOf current) ∧ disk = some (pendingOf current)) :
    Honest service { w with memory := memory, disk := disk, inside := inside } where
  live := by
    intro token hl
    apply h.live
    rcases hl with ⟨envelope, he, ho⟩ | ⟨envelope, he, ho⟩ | ⟨stage, he, hh⟩
    · exact hm envelope he token ho
    · exact hd envelope he token ho
    · apply hs stage he
      cases stage <;> exact hh
  sent := h.sent
  apart := h.apart
  replied := h.replied
  known := h.known
  distinct := h.distinct
  answers := h.answers
  sealed := hseal

theorem live_memory {envelope : SessionCredentialEnvelope} (hm : w.memory = some envelope)
    (token : String) (ho : Offers token envelope) : Live w token :=
  Or.inl ⟨envelope, hm, ho⟩

theorem live_disk {envelope : SessionCredentialEnvelope} (hd : w.disk = some envelope)
    (token : String) (ho : Offers token envelope) : Live w token :=
  Or.inr (Or.inl ⟨envelope, hd, ho⟩)

theorem live_inside {stage : Stage} (hs : w.inside = some stage) (token : String)
    (hh : Holds w token stage) : Live w token :=
  Or.inr (Or.inr ⟨stage, hs, hh⟩)

/-- The next stage holds no more than the store and the last stage. -/
theorem Honest.advance (h : Honest service w) {inside : Option Stage}
    (hs : ∀ stage, inside = some stage → ∀ token, Holds w token stage → Live w token)
    (hseal : ∀ current token, inside = some (.posting current token) ∨
      inside = some (.marked current token) →
      w.memory = some (pendingOf current) ∧ w.disk = some (pendingOf current)) :
    Honest service (w.at inside) :=
  h.move (fun _ hm => live_memory hm) (fun _ hd => live_disk hd) hs hseal

theorem Honest.leave (h : Honest service w) : Honest service (w.at none) :=
  h.advance nofun (by rintro _ _ (hs | hs) <;> cases hs)

/-- A write, whether it succeeds or not, of an envelope that offers nothing new. -/
theorem Honest.tries (h : Honest service w) (value : SessionCredentialEnvelope) (memory disk : Bool)
    {inside : Option Stage} (hv : ∀ token, Offers token value → Live w token)
    (hs : ∀ stage, inside = some stage → ∀ token, Holds w token stage → Live w token)
    (hseal : ∀ current token, inside ≠ some (.posting current token) ∧
      inside ≠ some (.marked current token)) :
    Honest service ((w.tried value memory disk).at inside) := by
  refine h.move ?_ ?_ hs ?_
  · intro envelope hm token ho
    cases memory with
    | false => exact @live_memory w _ hm token ho
    | true =>
      cases hm
      exact hv token ho
  · intro envelope hd token ho
    cases disk with
    | false => exact @live_disk w _ hd token ho
    | true =>
      cases hd
      exact hv token ho
  · rintro current token (hp | hp)
    · exact absurd hp (hseal current token).1
    · exact absurd hp (hseal current token).2

/-- **The post**: the token leaves the client's hands for good. -/
theorem Honest.post (h : Honest service w) {current : SessionCredentialEnvelope}
    {refreshToken : String} (at_stage : w.inside = some (.posting current refreshToken)) :
    Honest service (w.post current.generation refreshToken) := by
  obtain ⟨hmemory, hdisk⟩ := h.sealed current refreshToken (Or.inl at_stage)
  obtain ⟨hcurrent, hfresh⟩ := h.live refreshToken (live_inside at_stage _ rfl)
  constructor
  · rintro token (⟨envelope, he, ho⟩ | ⟨envelope, he, ho⟩ | ⟨stage, he, hh⟩)
    · cases hmemory.symm.trans he
      exact absurd ho (not_offers_pending token current)
    · cases hdisk.symm.trans he
      exact absurd ho (not_offers_pending token current)
    · cases he
      obtain ⟨pair, hp, _⟩ := hh
      exact absurd (h.replied _ hp) (lt_irrefl _)
  · intro request hr
    show request.2 ∈ w.posted ++ [refreshToken] ∧ Current service w.db request.2 ∧
      request.1 < w.calls + 1
    rcases List.mem_append.mp hr with hr | hr
    · obtain ⟨hp, hc, hlt⟩ := h.sent request hr
      exact ⟨List.mem_append_left _ hp, hc, Nat.lt_succ_of_lt hlt⟩
    · cases List.mem_singleton.mp hr
      exact ⟨List.mem_append_right _ List.mem_cons_self, hcurrent, Nat.lt_succ_self _⟩
  · show ((w.requests ++ [(w.calls, refreshToken)]).map fun request => service.digest request.2).Nodup
    rw [List.map_append, List.nodup_append]
    refine ⟨h.apart, List.nodup_singleton _, ?_⟩
    intro a ha b hb hab
    obtain ⟨request, hr, rfl⟩ := List.mem_map.mp ha
    rw [List.map_singleton, List.mem_singleton] at hb
    apply hfresh
    rw [← show service.digest request.2 = service.digest refreshToken from hab.trans hb]
    exact List.mem_map_of_mem (h.sent request hr).1
  · intro reply hr
    exact Nat.lt_succ_of_lt (h.replied reply hr)
  · intro token ht
    rcases List.mem_append.mp ht with ht | ht
    · exact h.known token ht
    · cases List.mem_singleton.mp ht
      obtain ⟨session, hs, hd, _⟩ := hcurrent
      exact ⟨session, hs, hd⟩
  · show ((w.posted ++ [refreshToken]).map service.digest).Nodup
    rw [List.map_append, List.nodup_append]
    refine ⟨h.distinct, List.nodup_singleton _, ?_⟩
    intro a ha b hb hab
    rw [List.map_singleton, List.mem_singleton] at hb
    apply hfresh
    rw [← hb, ← hab]
    exact ha
  · exact h.answers
  · rintro other token (hp | hp) <;> cases hp

end steps

/-! ## the server's answer -/

section revoking
variable {db : AuthDb} {revoked : UserSessionRow} (now : Int)

/-- Revoking one session leaves the tokens of the others current. -/
theorem Current.revokeSession {token : String} (h : Current service db token)
    (hr : revoked ∈ db.sessions) (hne : service.digest token ≠ some revoked.refreshTokenHash) :
    Current service (db.revokeSession revoked.sessionId now) token := by
  obtain ⟨session, hs, hd, hnone⟩ := h
  refine ⟨session, mem_revokeWhere_other hs ?_, hd, hnone⟩
  apply decide_eq_false
  intro hid
  rw [Table.eq_of_key hs hr hid] at hd
  exact hne hd

theorem Known.revokeSession {token : String} (h : Known service db token) (sessionId : Uuid) :
    Known service (db.revokeSession sessionId now) token := by
  obtain ⟨session, hs, hd⟩ := h
  refine ⟨if _ then revoke now session else session, mem_revokeWhere.mpr ⟨session, hs, rfl⟩, ?_⟩
  split
  · exact hd
  · exact hd

end revoking

/-- What the server's tables and its answer must be like for the client's run to go on. -/
structure AnswerOk (service : AuthService) (w : World) (token : String)
    (outcome : Except AuthError TokenPair × AuthDb) : Prop where
  current : ∀ other, Current service w.db other → service.digest other ≠ service.digest token →
    Current service outcome.2 other
  known : ∀ other, Known service w.db other → Known service outcome.2 other
  issued : ∀ pair, outcome.1 = .ok pair → Current service outcome.2 pair.refreshToken ∧
    ∀ other, Known service w.db other → service.digest other ≠ service.digest pair.refreshToken
  noReplay : ∀ e, outcome.1 = .error e → e ≠ .refreshTokenReplay

/-- **A current token is rotated or refused, and never taken for a replay.** -/
theorem answerOk (w : World) (c : RotateCall service) (h : Current service w.db c.refreshToken) :
    AnswerOk service w c.refreshToken (rotateRefresh c w.db) := by
  have hok := rotateRefresh_ok c w.db
  obtain ⟨session, hs, hdigest, hnone⟩ := h
  have hsame : ∀ found ∈ w.db.sessions,
      service.digest c.refreshToken = some found.refreshTokenHash → found = session := by
    intro found hf hh
    exact Table.eq_of_index hf hs nofun (hh.symm.trans hdigest)
  generalize rotateRefresh c w.db = outcome at hok ⊢
  cases hok with
  | refused error other unseen =>
    refine ⟨fun _ hc _ => hc, fun _ hk => hk, nofun, ?_⟩
    intro e he
    cases he
    exact other
  | replay found hf after hash hrevoked _ =>
    cases hsame found hf hash
    exact absurd hnone hrevoked
  | inactive found hf after hash unrevoked hsessions =>
    refine ⟨?_, ?_, nofun, ?_⟩
    · intro other hc hne
      rw [hash] at hne
      obtain ⟨row, hrow, hd, hn⟩ := hc.revokeSession c.now hf hne
      exact ⟨row, hsessions ▸ hrow, hd, hn⟩
    · intro other hk
      obtain ⟨row, hrow, hd⟩ := hk.revokeSession c.now found.sessionId
      exact ⟨row, hsessions ▸ hrow, hd⟩
    · intro e he
      cases he
      exact nofun
  | rotated found hf after pair successor hash unrevoked issued row inserted =>
    have hmem : ∀ {x}, x ∈ after.sessions ↔
        x ∈ (w.db.revokeSession found.sessionId c.now).sessions ∨ x = successor :=
      Table.mem_insert inserted
    have hnew : service.digest pair.refreshToken = some successor.refreshTokenHash := by
      rw [issued.1, c.replacement.digest_token, row]
      rfl
    refine ⟨?_, ?_, ?_, nofun⟩
    · intro other hc hne
      rw [hash] at hne
      obtain ⟨x, hx, hd, hn⟩ := hc.revokeSession c.now hf hne
      exact ⟨x, hmem.mpr (Or.inl hx), hd, hn⟩
    · intro other hk
      obtain ⟨x, hx, hd⟩ := hk.revokeSession c.now found.sessionId
      exact ⟨x, hmem.mpr (Or.inl hx), hd⟩
    · intro pair' hp
      cases hp
      refine ⟨⟨successor, hmem.mpr (Or.inr rfl), hnew, ?_⟩, ?_⟩
      · rw [row]
        rfl
      · intro other hk heq
        obtain ⟨x, hx, hd⟩ := hk.revokeSession c.now found.sessionId
        obtain ⟨hfree, hindex, _⟩ := Table.insert_ok.mp inserted
        apply hindex
        exact ⟨x, hx, Table.find_none.mp hfree x hx, nofun, hd.symm.trans (heq.trans hnew)⟩

theorem mem_replyOf {call : Nat} {result : Except AuthError TokenPair} {reply : Nat × TokenPair}
    (h : reply ∈ replyOf call result) : reply.1 = call ∧ result = .ok reply.2 := by
  cases result with
  | error e => cases h
  | ok pair =>
    cases List.mem_singleton.mp h
    exact ⟨rfl, rfl⟩

/-- **The server's step.** -/
theorem Honest.serve {w : World} (h : Honest service w) {call : Nat} {c : RotateCall service}
    (sent : (call, c.refreshToken) ∈ w.requests) : Honest service (w.serve call c) := by
  obtain ⟨hposted, hcurrent, hcall⟩ := h.sent _ sent
  have hans := answerOk w c hcurrent
  constructor
  · intro token hl
    have hold : Live w token ∨ ∃ pair, (rotateRefresh c w.db).1 = .ok pair ∧
        pair.refreshToken = token := by
      rcases hl with hl | hl | ⟨stage, he, hh⟩
      · exact Or.inl (Or.inl hl)
      · exact Or.inl (Or.inr (Or.inl hl))
      · cases stage with
        | waiting waited generation =>
          obtain ⟨pair, hp, ht⟩ := hh
          rcases List.mem_append.mp hp with hp | hp
          · exact Or.inl (@live_inside w _ he token ⟨pair, hp, ht⟩)
          · exact Or.inr ⟨pair, (mem_replyOf hp).2, ht⟩
        | guarding => exact Or.inl (@live_inside w _ he token hh)
        | marking => exact Or.inl (@live_inside w _ he token hh)
        | marked => exact Or.inl (@live_inside w _ he token hh)
        | posting => exact Or.inl (@live_inside w _ he token hh)
        | restoring => exact Or.inl (@live_inside w _ he token hh)
        | storing => exact Or.inl (@live_inside w _ he token hh)
    rcases hold with hl | ⟨pair, hp, rfl⟩
    · obtain ⟨hc, hfresh⟩ := h.live token hl
      refine ⟨hans.current token hc ?_, hfresh⟩
      intro heq
      exact hfresh (heq ▸ List.mem_map_of_mem hposted)
    · obtain ⟨hc, hnew⟩ := hans.issued pair hp
      refine ⟨hc, ?_⟩
      intro hm
      obtain ⟨other, ho, heq⟩ := List.mem_map.mp hm
      exact hnew other (h.known other ho) heq
  · intro request hr
    obtain ⟨hm, hne⟩ := List.mem_filter.mp hr
    obtain ⟨hp, hc, hlt⟩ := h.sent request hm
    refine ⟨hp, hans.current _ hc ?_, hlt⟩
    intro heq
    have hreq := List.inj_on_of_nodup_map h.apart hm sent heq
    rw [hreq] at hne
    simp at hne
  · exact h.apart.sublist (List.filter_sublist.map _)
  · intro reply hr
    rcases List.mem_append.mp hr with hr | hr
    · exact h.replied reply hr
    · rw [(mem_replyOf hr).1]
      exact hcall
  · intro token ht
    exact hans.known token (h.known token ht)
  · exact h.distinct
  · intro answer ha e he
    rcases List.mem_append.mp ha with ha | ha
    · exact h.answers answer ha e he
    · cases List.mem_singleton.mp ha
      exact hans.noReplay e he
  · exact h.sealed

theorem Honest.lose {w : World} (h : Honest service w) (call : Nat) :
    Honest service { w with requests := w.requests.filter fun request => request.1 ≠ call } where
  live := by
    intro token hl
    apply h.live
    rcases hl with hl | hl | ⟨stage, he, hh⟩
    · exact Or.inl hl
    · exact Or.inr (Or.inl hl)
    · refine live_inside he token ?_
      cases stage <;> exact hh
  sent request hr := h.sent request (List.mem_of_mem_filter hr)
  apart := h.apart.sublist (List.filter_sublist.map _)
  replied := h.replied
  known := h.known
  distinct := h.distinct
  answers := h.answers
  sealed := h.sealed

/-- **Every step keeps the client honest.** -/
theorem Honest.step {w w' : World} (h : Honest service w) (step : WorldStep service w w') :
    Honest service w' := by
  cases step with
  | enter around rejected current refreshToken free checked =>
    obtain ⟨hmemory, hoffers⟩ := enter_refresh checked
    refine h.advance ?_ (by rintro _ _ (hs | hs) <;> cases hs)
    rintro _ ⟨⟩ token (rfl | ho)
    · exact live_memory hmemory refreshToken hoffers
    · exact live_memory hmemory token ho
  | guardFails current refreshToken at_stage => exact h.leave
  | guarded current refreshToken at_stage =>
    refine h.advance ?_ (by rintro _ _ (hs | hs) <;> cases hs)
    rintro _ ⟨⟩ token hh
    exact live_inside at_stage token hh
  | mark current refreshToken at_stage =>
    refine h.move ?_ ?_ ?_ ?_
    · rintro _ ⟨⟩ token ho
      exact absurd ho (not_offers_pending token current)
    · rintro _ ⟨⟩ token ho
      exact absurd ho (not_offers_pending token current)
    · rintro _ ⟨⟩ token hh
      exact live_inside at_stage token hh
    · rintro _ _ (hs | hs) <;> cases hs
      exact ⟨rfl, rfl⟩
  | markFails current refreshToken memory disk at_stage =>
    refine h.tries _ memory disk ?_ ?_ fun _ _ => ⟨nofun, nofun⟩
    · intro token ho
      exact absurd ho (not_offers_pending token current)
    · rintro _ ⟨⟩ token hh
      exact live_inside at_stage token (Or.inr hh)
  | secondGuardFails current refreshToken at_stage =>
    refine h.advance ?_ (by rintro _ _ (hs | hs) <;> cases hs)
    rintro _ ⟨⟩ token hh
    exact live_inside at_stage token (Or.inr hh)
  | secondGuarded current refreshToken at_stage =>
    refine h.advance ?_ ?_
    · rintro _ ⟨⟩ token hh
      exact live_inside at_stage token (Or.inl hh)
    · rintro _ _ (hs | hs) <;> cases hs
      exact h.sealed current refreshToken (Or.inr at_stage)
  | restore current memory disk at_stage =>
    refine h.tries _ memory disk ?_ nofun fun _ _ => ⟨nofun, nofun⟩
    intro token ho
    exact live_inside at_stage token ho
  | postFails current refreshToken at_stage => exact h.leave
  | post current refreshToken at_stage => exact h.post at_stage
  | lose call => exact h.lose call
  | serve call c sent => exact h.serve sent
  | receive call generation pair at_stage reply =>
    refine h.advance ?_ (by rintro _ _ (hs | hs) <;> cases hs)
    rintro _ ⟨⟩ token hh
    exact live_inside at_stage token ⟨pair, reply, offers_rotated hh⟩
  | receiveFails call generation at_stage => exact h.leave
  | store rotated memory disk at_stage =>
    refine h.tries _ memory disk ?_ nofun fun _ _ => ⟨nofun, nofun⟩
    intro token ho
    exact live_inside at_stage token ho
  | crash =>
    refine h.move ?_ ?_ nofun (by rintro _ _ (hs | hs) <;> cases hs)
    · intro envelope hd token ho
      exact live_disk hd token ho
    · intro envelope hd token ho
      exact live_disk hd token ho

/-! ## runs -/

/-- A process starts: nothing was posted, and a usable envelope belongs to a session that lives. -/
structure Begins (service : AuthService) (w : World) : Prop where
  loaded : w.memory = w.disk
  outside : w.inside = none
  quiet : w.requests = [] ∧ w.replies = [] ∧ w.posted = [] ∧ w.answered = []
  usable : ∀ envelope, w.disk = some envelope → ∀ token, Offers token envelope →
    Current service w.db token

theorem Begins.honest {w : World} (h : Begins service w) : Honest service w := by
  obtain ⟨hrequests, hreplies, hposted, hanswered⟩ := h.quiet
  constructor
  · intro token hl
    rw [hposted]
    refine ⟨?_, List.not_mem_nil⟩
    rcases hl with ⟨envelope, he, ho⟩ | ⟨envelope, he, ho⟩ | ⟨stage, he, _⟩
    · exact h.usable envelope (h.loaded ▸ he) token ho
    · exact h.usable envelope he token ho
    · cases h.outside.symm.trans he
  · rw [hrequests]
    exact nofun
  · rw [hrequests]
    exact List.nodup_nil
  · rw [hreplies]
    exact nofun
  · rw [hposted]
    exact nofun
  · rw [hposted]
    exact List.nodup_nil
  · rw [hanswered]
    exact nofun
  · rintro current token (hs | hs) <;> cases h.outside.symm.trans hs

/-- **Every run from there keeps the client honest.** -/
theorem Honest.run {start w : World} (h : Honest service start)
    (reached : Relation.ReflTransGen (WorldStep service) start w) : Honest service w := by
  induction reached with
  | refl => exact h
  | tail _ step ih => exact ih.step step

/-- **Legacy refresh rotation.** In every run of the client each token is posted once, for a session
that was not revoked, and the server never takes it for a replay. After any calls of the server each
chain has one unrevoked session at most and its first expiry, and a revoked generation ends every
session of its device although the call answers with an error. -/
theorem legacy_refresh (service : AuthService) (start w : World) (begins : Begins service start)
    (reached : Relation.ReflTransGen (WorldStep service) start w)
    (first : AuthDb) (calls : List (RotateCall service)) :
    (w.posted.Nodup ∧
      (∀ request ∈ w.requests, ∀ session ∈ w.db.sessions,
        service.digest request.2 = some session.refreshTokenHash → session.revokedAt = none) ∧
      ∀ answer ∈ w.answered, answer.2.isOk = true ∨
        ∃ e, answer.2 = .error e ∧ e ≠ .refreshTokenReplay) ∧
    ChainsOk first (calls.foldl chainStep ⟨first, id⟩) ∧
    ∀ (call : RotateCall service), ∀ session ∈ (calls.foldl chainStep ⟨first, id⟩).db.sessions,
      service.digest call.refreshToken = some session.refreshTokenHash →
      session.sessionMode = .legacy → session.revokedAt ≠ none →
      (rotateRefresh call (calls.foldl chainStep ⟨first, id⟩).db).1 = .error .refreshTokenReplay ∧
      ∀ other ∈ (rotateRefresh call (calls.foldl chainStep ⟨first, id⟩).db).2.sessions,
        other.userId = session.userId → other.deviceId = session.deviceId →
        other.revokedAt ≠ none := by
  have hhonest := begins.honest.run reached
  refine ⟨⟨hhonest.distinct.of_map _, ?_, ?_⟩, chainsOk_run first calls, ?_⟩
  · intro request hr session hs hd
    obtain ⟨_, ⟨other, ho, hdo, hnone⟩, _⟩ := hhonest.sent request hr
    rw [Table.eq_of_index hs ho nofun (hd.symm.trans hdo)]
    exact hnone
  · intro answer ha
    cases hres : answer.2 with
    | ok pair => exact Or.inl rfl
    | error e => exact Or.inr ⟨e, rfl, hhonest.answers answer ha e hres⟩
  · intro call session hs hash legacy revoked
    exact rotateRefresh_replay call _ hs hash legacy revoked

/-! ## one rotation -/

/-- The tokens of 32 zero bytes and of 32 one bytes. -/
def zeroToken : String := "AAAAAAAAAAAAAAAAAAAAAAAAAAAAAAAAAAAAAAAAAAA"
def oneToken : String := "AQEBAQEBAQEBAQEBAQEBAQEBAQEBAQEBAQEBAQEBAQE"

def zeroDigest : Digest :=
  [15, 0, 115, 133, 182, 249, 212, 183, 238, 178, 116, 134, 5, 175, 225, 169, 132, 160, 163, 191,
  163, 240, 20, 208, 158, 42, 120, 76, 233, 229, 205, 26]

def oneDigest : Digest :=
  [86, 213, 250, 115, 51, 246, 215, 71, 219, 66, 194, 57, 64, 126, 93, 164, 195, 47, 76, 121,
  243, 93, 9, 43, 19, 79, 211, 90, 64, 45, 156, 92]

def exampleService : AuthService :=
  { digest := fun token =>
      if token = zeroToken then some zeroDigest
      else if token = oneToken then some oneDigest
      else none
    accessTokenTtl := 900
    issueAccess := fun _ _ _ _ => "header.claims.signature" }

def exampleUser : Uuid := ⟨"00000000-0000-4000-8000-000000000001", rfl⟩
def exampleDevice : Uuid := ⟨"00000000-0000-4000-8000-000000000002", rfl⟩
def exampleSession : Uuid := ⟨"00000000-0000-4000-8000-000000000003", rfl⟩
def successorSession : Uuid := ⟨"00000000-0000-4000-8000-000000000004", rfl⟩

def sessionRow (sessionId : Uuid) (hash : Digest) (revokedAt : Option Int) (mode : SessionMode) :
    UserSessionRow :=
  { sessionId := sessionId, userId := exampleUser, deviceId := exampleDevice,
    refreshTokenHash := hash, issuedAt := 0, expiresAt := 1000, revokedAt := revokedAt,
    lastRotatedAt := 0, sessionMode := mode }

def exampleAccount : UserAccountRow :=
  { userId := exampleUser, role := .user, status := "ACTIVE", deletedAt := none }

def exampleDeviceRow : DeviceRow :=
  { userId := exampleUser, deviceId := exampleDevice, revokedAt := none }

/-- One account with one device and its sessions. -/
def dbOf (sessions : Table UserSessionRow)
    (owned : ∀ session ∈ sessions.rows, session.userId = exampleUser ∧
      session.deviceId = exampleDevice) : AuthDb :=
  { accounts := [exampleAccount]
    devices := [exampleDeviceRow]
    sessions := sessions
    audit := []
    owned := by
      intro session hs
      obtain ⟨hu, hd⟩ := owned session hs
      rw [hu, hd]
      exact ⟨rfl, rfl⟩ }

def oneSession : AuthDb :=
  dbOf ⟨[sessionRow exampleSession zeroDigest none .legacy], by decide +kernel, by decide +kernel⟩
    (by decide +kernel)

def exampleEnvelope : SessionCredentialEnvelope :=
  { accessToken := "header.claims.signature", refreshToken := some zeroToken, generation := 0,
    refreshPending := false, bindingCommitId := none }

def exampleStart : World :=
  { memory := some exampleEnvelope, disk := some exampleEnvelope, inside := none, calls := 0,
    requests := [], replies := [], db := oneSession, posted := [], answered := [] }

theorem exampleStart_begins : Begins exampleService exampleStart where
  loaded := rfl
  outside := rfl
  quiet := ⟨rfl, rfl, rfl, rfl⟩
  usable := by
    intro envelope he token ho
    cases he
    cases ho.2
    exact ⟨_, List.mem_cons_self, rfl, rfl⟩

def exampleCall (refreshToken : String) : RotateCall exampleService :=
  { now := 10, newSessionId := successorSession, tokenId := exampleUser,
    replacement := ⟨oneToken, oneDigest, by decide +kernel⟩, requestId := none,
    refreshToken := refreshToken }

/-- The mark is stored and the token is posted; the server rotates; the process dies. -/
def examplePosted : World :=
  { memory := some (pendingOf exampleEnvelope), disk := some (pendingOf exampleEnvelope),
    inside := some (.waiting 0 0), calls := 1, requests := [(0, zeroToken)], replies := [],
    db := oneSession, posted := [zeroToken], answered := [] }

theorem exampleStart_reaches : Relation.ReflTransGen (WorldStep exampleService) exampleStart
    (examplePosted.serve 0 (exampleCall zeroToken)) := by
  refine .tail (.tail (.tail (.tail (.tail (.single
    (.enter _ ⟨false, fun _ => true⟩ 0 exampleEnvelope zeroToken rfl rfl))
    (.guarded _ exampleEnvelope zeroToken rfl)) (.mark _ exampleEnvelope zeroToken rfl))
    (.secondGuarded _ exampleEnvelope zeroToken rfl)) (.post _ exampleEnvelope zeroToken rfl))
    (.serve _ 0 (exampleCall zeroToken) List.mem_cons_self)

theorem legacy_refresh_one_rotation :
    ((examplePosted.serve 0 (exampleCall zeroToken)).posted.Nodup ∧
      (∀ request ∈ (examplePosted.serve 0 (exampleCall zeroToken)).requests,
        ∀ session ∈ (examplePosted.serve 0 (exampleCall zeroToken)).db.sessions,
          exampleService.digest request.2 = some session.refreshTokenHash →
          session.revokedAt = none) ∧
      ∀ answer ∈ (examplePosted.serve 0 (exampleCall zeroToken)).answered, answer.2.isOk = true ∨
        ∃ e, answer.2 = .error e ∧ e ≠ .refreshTokenReplay) ∧
    ChainsOk oneSession ([exampleCall zeroToken].foldl chainStep ⟨oneSession, id⟩) :=
  have h := legacy_refresh exampleService exampleStart _ exampleStart_begins exampleStart_reaches
    oneSession [exampleCall zeroToken]
  ⟨h.1, h.2.1⟩

-- the server answered with a pair
example : (rotateRefresh (exampleCall zeroToken) oneSession).1.isOk = true := by decide +kernel

/-- A device with a revoked session of the pairing protocol and one that lives. -/
def pairedDb : AuthDb :=
  dbOf ⟨[sessionRow exampleSession zeroDigest (some 5) .v2,
      sessionRow successorSession oneDigest none .v2], by decide +kernel, by decide +kernel⟩
    (by decide +kernel)

/-- A revoked generation of the pairing protocol is refused without ending the device's sessions. -/
theorem paired_generation_kept : ¬ ∀ (call : RotateCall exampleService),
    ∀ session ∈ pairedDb.sessions,
      exampleService.digest call.refreshToken = some session.refreshTokenHash →
      session.revokedAt ≠ none →
      ∀ other ∈ (rotateRefresh call pairedDb).2.sessions, other.userId = session.userId →
        other.deviceId = session.deviceId → other.revokedAt ≠ none := by
  intro h
  exact h (exampleCall zeroToken) (sessionRow exampleSession zeroDigest (some 5) .v2)
    List.mem_cons_self rfl nofun (sessionRow successorSession oneDigest none .v2)
    (List.mem_cons_of_mem _ List.mem_cons_self) rfl rfl rfl

end AutPlay.Auth
