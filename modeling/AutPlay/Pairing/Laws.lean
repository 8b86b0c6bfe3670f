import AutPlay.Pairing.Lifecycle

/-!
# Laws of self-pairing

* `ApprovedIn`        the source device approved this claim, earlier in the run;
* `bindings`          the devices and sessions that a run created for a ceremony;
* `Binding`           everything that holds of an exchange that creates them;
* `StartAgain`, …     what a repeated document does;
* `PairingLaws`       all of it, of every run.
-/

set_option linter.unusedSectionVars false

namespace AutPlay.Pairing

open AutPlay.Sync (Uuid)
open Result

/-! ## approvals -/

/-- **In the run so far** the source device approved the claim of `c`: in its session family and
authority generation, before the ceremony expired, with the claim's identifier, digest and code. -/
def ApprovedIn (service : Service) (base : Db) (labels : List Label) (c : SelfDevicePairing) : Prop :=
  ∃ before after actor request now s s' outcome account claimed,
    labels = before ++ .served (.decide actor request now) (.ok outcome) :: after ∧
      Path (Step service) (Db.initial base) before s ∧
      (Call.decide actor request now).run service s = .ok (outcome, s') ∧
      request.body.action = .approve ∧ c.approvalOperationId = some request.body.operationId ∧
      actor.userId = c.userId ∧ actor.deviceId = c.sourceDeviceId ∧
      actorFamily s actor now = .ok c.sourceFamilyId ∧
      lockAccount s c.userId = .ok account ∧ account.authorityGeneration = c.authorityGeneration ∧
      now < c.expiresAt ∧
      s.ceremonies.find c.ceremonyId = some claimed ∧ claimed.state = .claimed ∧
      claimed.claimDocument = c.claimDocument ∧ claimed.claimId = c.claimId ∧
      request.body.claimId = c.claimId ∧
      request.body.claimRequestSha256 = c.claimDocument.map Request.requestSha256 ∧
      c.claimDocument ≠ none ∧ request.body.comparisonCode = comparisonCode service c

section
variable {service : Service} {base db db' : Db} {labels : List Label}

theorem ApprovedIn.snoc {c : SelfDevicePairing} {label : Label}
    (h : ApprovedIn service base labels c) : ApprovedIn service base (labels ++ [label]) c := by
  obtain ⟨before, after, actor, request, now, s, s', outcome, account, claimed, hl, h⟩ := h
  refine ⟨before, after ++ [label], actor, request, now, s, s', outcome, account, claimed, ?_, h⟩
  rw [hl, List.append_assoc]
  rfl

/-- An approval counts for the ceremony with the same start, claim and approval. -/
theorem ApprovedIn.congr {c c' : SelfDevicePairing} (h : ApprovedIn service base labels c)
    (hl : Later c c') (hs : c'.serverInstanceId = c.serverInstanceId)
    (ha : c'.approvalOperationId = c.approvalOperationId) : ApprovedIn service base labels c' := by
  obtain ⟨before, after, actor, request, now, s, s', outcome, account, claimed, hlabels, hp, hr, haction,
    hop, hu, hd, hf, hacc, hg, ht, hfind, hst, hdoc, hid, hrid, hrsha, hne, hcode⟩ := h
  obtain ⟨d, hcd⟩ := Option.ne_none_iff_exists'.mp hne
  obtain ⟨hcd', hci⟩ := hl.claim d hcd
  have hsame : c'.claimDocument = c.claimDocument := hcd'.trans hcd.symm
  have hcodes : comparisonCode service c' = comparisonCode service c := by
    unfold comparisonCode
    rw [hsame, hs, hl.startDocument, hl.ceremonyId]
  refine ⟨before, after, actor, request, now, s, s', outcome, account, claimed, hlabels, hp, hr, haction,
    ?_, ?_, ?_, ?_, ?_, ?_, ?_, ?_, hst, ?_, ?_, ?_, ?_, ?_, ?_⟩
  · rw [ha, hop]
  · rw [hl.userId, hu]
  · rw [hl.sourceDeviceId, hd]
  · rw [hl.sourceFamilyId, hf]
  · rw [hl.userId, hacc]
  · rw [hl.generation, hg]
  · rw [hl.expiresAt]
    exact ht
  · rw [hl.ceremonyId, hfind]
  · rw [hsame, hdoc]
  · rw [hci, hid]
  · rw [hci, hrid]
  · rw [hsame, hrsha]
  · rw [hsame]
    exact hne
  · rw [hcodes, hcode]

/-- A step that leaves an approved ceremony either approved it or found it approved. -/
theorem approve_or_before {label : Label} {k : Uuid} {c' : SelfDevicePairing}
    (h : Step service db label db') (hc' : db'.ceremonies.find k = some c')
    (hs : c'.state = .approved ∨ c'.state = .exchanged) :
    (∃ c, db.ceremonies.find k = some c ∧ (c.state = .approved ∨ c.state = .exchanged) ∧
        Later c c' ∧ c'.serverInstanceId = c.serverInstanceId ∧
        c'.approvalOperationId = c.approvalOperationId) ∨
      ∃ c operationId, db.ceremonies.find k = some c ∧ c.state = .claimed ∧
        c' = { c with
          state := .approved
          approvalOperationId := some operationId
          revision := c.revision + 1 } := by
  have hm := step_moves h k
  rw [hc'] at hm
  cases hf : db.ceremonies.find k with
  | none =>
    rw [hf] at hm
    cases hm with
    | opened _ new =>
      rw [new.state] at hs
      rcases hs with hs | hs
      · cases hs
      · cases hs
  | some c =>
    rw [hf] at hm
    cases hm with
    | stay => exact Or.inl ⟨c', rfl, hs, Later.refl c', rfl, rfl⟩
    | advance ha =>
      have hl := ha.later
      cases ha with
      | poll now => exact Or.inl ⟨c, rfl, hs, hl, rfl, rfl⟩
      | claim request state unclaimed =>
        rcases hs with hs | hs
        · cases hs
        · cases hs
      | approve operationId state => exact Or.inr ⟨c, operationId, rfl, state, rfl⟩
      | reject state =>
        rcases hs with hs | hs
        · cases hs
        · cases hs
      | cancel state =>
        rcases hs with hs | hs
        · cases hs
        · cases hs
      | exchange request binding state => exact Or.inl ⟨c, rfl, Or.inl state, hl, rfl, rfl⟩

/-- The row of an identifier after a write. -/
theorem find_after_save {new c' : SelfDevicePairing} {saved : Db} {k : Uuid} (hs : save db new = .ok saved)
    (hd : db'.ceremonies = saved.ceremonies) (h' : db'.ceremonies.find k = some c') :
    (new.ceremonyId = k ∧ c' = new) ∨ db.ceremonies.find k = some c' := by
  rw [hd, (save_ok hs).1 k] at h'
  by_cases hk : new.ceremonyId = k
  · rw [if_pos hk] at h'
    exact Or.inl ⟨hk, (Option.some.inj h').symm⟩
  · rw [if_neg hk] at h'
    exact Or.inr h'

/-- **Only a decision of the source approves a claim.** -/
theorem run_approves {call : Call} {outcome : Outcome} {k : Uuid} {c c' : SelfDevicePairing}
    (h : call.run service db = .ok (outcome, db')) (hc : db.ceremonies.find k = some c)
    (hs : c.state = .claimed) (hc' : db'.ceremonies.find k = some c') (hs' : c'.state = .approved) :
    ∃ actor request now account, call = .decide actor request now ∧
      request.body.common.ceremonyId = k ∧ request.body.action = .approve ∧
      actor.userId = c.userId ∧ actor.deviceId = c.sourceDeviceId ∧
      actorFamily db actor now = .ok c.sourceFamilyId ∧ lockAccount db c.userId = .ok account ∧
      account.authorityGeneration = c.authorityGeneration ∧ now < c.expiresAt ∧
      request.body.claimId = c.claimId ∧
      request.body.claimRequestSha256 = c.claimDocument.map Request.requestSha256 ∧
      c.claimDocument ≠ none ∧ request.body.comparisonCode = comparisonCode service c ∧
      c' = { c with
        state := .approved
        approvalOperationId := some request.body.operationId
        revision := c.revision + 1 } := by
  have hr := run_ok h
  -- what is as it was is still claimed
  have hsame : db.ceremonies.find k ≠ some c' := by
    intro he
    rw [hc] at he
    rw [← Option.some.inj he, hs] at hs'
    cases hs'
  cases call with
  | start actor request now =>
    obtain ⟨s, hcall, -⟩ := hr
    obtain ⟨-, account, -, ⟨existing, -, -, -, rfl⟩ | ⟨hn, identity, family, saved, -, hsave, rfl⟩⟩ :=
      start_ok hcall
    · exact absurd hc' hsame
    · rcases find_after_save hsave rfl hc' with ⟨-, rfl⟩ | he
      · cases hs'
      · exact absurd he hsame
  | claim secret signed now =>
    obtain ⟨s, hcall, -⟩ := hr
    obtain ⟨d, account, hd, -, ⟨-, -, rfl⟩ | ⟨hnone, hstate, saved, hsave, rfl⟩⟩ := claim_ok hcall
    · exact absurd hc' hsame
    · rcases find_after_save hsave rfl hc' with ⟨-, rfl⟩ | he
      · cases hs'
      · exact absurd he hsame
  | poll secret signed now =>
    obtain ⟨s, hp, -⟩ := hr
    obtain ⟨d, account, hd, hsave⟩ := poll_ok hp
    rcases find_after_save hsave rfl hc' with ⟨hk, rfl⟩ | he
    · -- a poll leaves the state as it is
      have hdk : d.ceremonyId = k := hk
      have hfd : db.ceremonies.find k = some d := hdk ▸ hd.key ▸ hd.find
      rw [hc] at hfd
      have hst : d.state = .approved := hs'
      rw [← Option.some.inj hfd, hs] at hst
      cases hst
    · exact absurd he hsame
  | decide actor request now =>
    obtain ⟨s, hd, -⟩ := hr
    obtain ⟨-, d, account, hctx, hu, hdev, hfamily, ⟨previous, -, -, -, -, rfl⟩ |
      ⟨hnone, hlive, hid, hsha, hne, next, saved, commanded, hdecided, hsave, hcommand, rfl⟩⟩ :=
      decide_ok hd
    · exact absurd hc' hsame
    · have hceremonies : commanded.ceremonies = saved.ceremonies := by
        rw [(saveCommand_ok hcommand).2]
      rcases find_after_save hsave hceremonies hc' with ⟨hk, rfl⟩ | he
      · have hp := isPending_of_live hlive hne
        have hdk : d.ceremonyId = k := (hdecided.advance hp).ceremonyId ▸ hk
        have hfd : db.ceremonies.find k = some d := hdk ▸ hctx.key ▸ hctx.find
        rw [hc] at hfd
        cases hfd
        cases hdecided with
        | approve action state code shown =>
          refine ⟨actor, request, now, account, rfl, hctx.key.symm.trans hdk, action, hu.symm, hdev.symm,
            hfamily, hctx.owner, hctx.generation.symm, (live_ok hlive).2.2 hne, hid, hsha, ?_, code, rfl⟩
          intro hnoclaim
          unfold comparisonCode at shown
          rw [hnoclaim] at shown
          cases shown
        | reject action state => cases hs'
        | cancel action => cases hs'
      · exact absurd he hsame
  | exchange secret signed drawn now =>
    obtain ⟨r, hx, -⟩ := hr
    obtain ⟨d, account, hd, -, -, -, -, ⟨-, -, -, -, -, -, rfl⟩ | ⟨hstate, -, -, -, -, hb⟩⟩ :=
      exchange_ok hx
    · exact absurd hc' hsame
    · obtain ⟨claim, key, devices, sessions, saved, -, -, -, -, hsave, rfl⟩ := hb.rows
      rcases find_after_save hsave rfl hc' with ⟨-, rfl⟩ | he
      · cases hs'
      · exact absurd he hsame
  | cleanup now limit locked =>
    obtain ⟨n, hcall, -⟩ := hr
    rw [cleanup_ok hcall] at hc'
    have hf : ((db.ceremonies.eraseWhere _).find k) = some c' := hc'
    rw [Table.find_eraseWhere, hc, Option.filter_some] at hf
    split at hf
    · rw [← Option.some.inj hf, hs] at hs'
      cases hs'
    · cases hf

/-- Every approved ceremony of a run was approved in it. -/
def AllApproved (service : Service) (base : Db) (labels : List Label) (db : Db) : Prop :=
  ∀ k c, db.ceremonies.find k = some c → (c.state = .approved ∨ c.state = .exchanged) →
    ApprovedIn service base labels c

theorem step_approved {label : Label} (p : Path (Step service) (Db.initial base) labels db)
    (h : AllApproved service base labels db) (hs : Step service db label db') :
    AllApproved service base (labels ++ [label]) db' := by
  intro k c' hc' hst
  rcases approve_or_before hs hc' hst with ⟨c, hc, hcs, hl, hserver, happroval⟩ |
    ⟨c, operationId, hc, hcs, rfl⟩
  · exact ((h k c hc hcs).congr hl hserver happroval).snoc
  · cases hs with
    | @returned _ call outcome hr =>
      obtain ⟨actor, request, now, account, rfl, hk, haction, hu, hd, hf, hacc, hg, ht, hid, hsha, hne,
        hcode, hsame⟩ := run_approves hr hc hcs hc' rfl
      have hop : some operationId = some request.body.operationId :=
        congrArg SelfDevicePairing.approvalOperationId hsame
      have hck : c.ceremonyId = k := Table.key_of_find hc
      have hcc : db.ceremonies.find c.ceremonyId = some c := hck.symm ▸ hc
      exact ⟨labels, [], actor, request, now, db, db', outcome, account, c, rfl, p, hr, haction, hop, hu,
        hd, hf, hacc, hg, ht, hcc, hcs, rfl, rfl, hid, hsha, hne, hcode⟩
    | raised hr =>
      rw [hc] at hc'
      have hstate := congrArg (fun o => o.map SelfDevicePairing.state) hc'
      rw [Option.map_some, hcs] at hstate
      cases hstate
    | outside ho =>
      obtain ⟨purged, recovered, hceremonies, -⟩ := ho.rows
      rw [hceremonies, find_cancelRecovered] at hc'
      have hf : (db.removeWhere purged).ceremonies.find k = (db.ceremonies.find k).filter _ :=
        Table.find_eraseWhere k
      rw [hf, hc, Option.filter_some] at hc'
      -- what the rest of the system leaves is claimed or cancelled
      split at hc'
      · rw [Option.map_some] at hc'
        have hstate := congrArg (fun o => o.map SelfDevicePairing.state) hc'
        dsimp only [Option.map_some] at hstate
        split at hstate
        · cases hstate
        · rw [hcs] at hstate
          cases hstate
      · cases hc'

theorem reachable_approved (p : Path (Step service) (Db.initial base) labels db) :
    AllApproved service base labels db := by
  have hstart : Path (Step service) (Db.initial base) [] (Db.initial base) ∧
      AllApproved service base [] (Db.initial base) :=
    ⟨.nil _, fun k c hc _ => (Option.some_ne_none _ hc.symm).elim⟩
  have hrun := p.history
    (I := fun as s => Path (Step service) (Db.initial base) as s ∧ AllApproved service base as s)
    (fun as s a s' h hs => ⟨h.1.snoc hs, step_approved h.1 h.2 hs⟩) hstart
  exact hrun.2

end

/-! ## bindings -/

/-- The device and the session that a call created for a ceremony. -/
def Label.binding (k : Uuid) : Label → Option (Uuid × Uuid)
  | .served (.exchange _ signed _ _) (.ok (.binding response)) =>
    if signed.document.body.common.ceremonyId = k ∧ response.replayed = false then
      some (response.deviceId, response.sessionId)
    else none
  | _ => none

def bindings (k : Uuid) (labels : List Label) : List (Uuid × Uuid) := labels.filterMap (Label.binding k)

/-- **An exchange that creates**: the ceremony was approved in the run and is not expired, its account
is in the generation of its start, its source still has a session, and what is created is one phone with
the key of the recorded claim and one session of it, for the ceremony's account. -/
structure Binding (service : Service) (base : Db) (labels : List Label) (db : Db)
    (signed : Signed ExchangeBody) (now : Int) (response : ExchangeResponse) (db' : Db)
    (c : SelfDevicePairing) : Prop where
  find : db.ceremonies.find signed.document.body.common.ceremonyId = some c
  state : c.state = .approved
  unexpired : now < c.expiresAt
  approved : ApprovedIn service base labels c
  account : ∃ account, lockAccount db c.userId = .ok account ∧
    account.authorityGeneration = c.authorityGeneration ∧ response.userId = account.userId
  source : requireSource db c now = .ok ()
  created : ∃ claim key device session, c.claimDocument = some claim ∧
    service.crypto.publicKey claim.body.devicePublicKeySpkiB64 = some key ∧
    device.userId = c.userId ∧ device.deviceId = response.deviceId ∧
    device.publicKey = some key.der ∧ device.deviceName = claim.body.deviceName ∧
    device.publicKeyThumbprintSha256 = some claim.body.deviceKeyThumbprintSha256 ∧
    session.userId = c.userId ∧ session.deviceId = response.deviceId ∧
    session.sessionId = response.sessionId ∧
    session.refreshTokenHash = signed.document.body.nextRefreshTokenSha256 ∧
    db'.devices.rows = db.devices.rows ++ [device] ∧ db'.sessions.rows = db.sessions.rows ++ [session]
  recorded : ∃ c', db'.ceremonies.find signed.document.body.common.ceremonyId = some c' ∧
    c'.state = .exchanged ∧ c'.revision = c.revision + 1 ∧
    c'.exchangeDocument = some signed.document ∧ c'.resultDeviceId = some response.deviceId ∧
    c'.resultSessionId = some response.sessionId ∧
    c'.receiptExpiresAt = some response.receiptExpiresAt

section
variable {service : Service} {base db db' : Db} {labels : List Label}

theorem exchange_binding {secret : String} {signed : Signed ExchangeBody} {drawn : Drawn} {now : Int}
    {response : ExchangeResponse} (p : Path (Step service) (Db.initial base) labels db)
    (h : service.exchange secret signed drawn now db = .ok (response, db')) :
    (response.replayed = true ∧ db' = db ∧ ∃ c,
        db.ceremonies.find signed.document.body.common.ceremonyId = some c ∧ c.state = .exchanged) ∨
      (response.replayed = false ∧ ∃ c, Binding service base labels db signed now response db' c) := by
  obtain ⟨c, account, hc, -, hru, -, -, ⟨hstate, -, -, -, -, hrep, rfl⟩ |
    ⟨hstate, hdev, hses, hrep, hreceipt, hb⟩⟩ := exchange_ok h
  · exact Or.inl ⟨hrep, rfl, c, hc.find, hstate⟩
  · refine Or.inr ⟨hrep, c, ?_⟩
    obtain ⟨claim, key, devices, sessions, saved, hclaim, hkey, hdevices, hsessions, hsave, rfl⟩ := hb.rows
    have hlive := hc.live (Or.inl rfl)
    have hne : c.state ≠ .exchanged := by
      rw [hstate]
      exact fun he => State.noConfusion he
    have hother : saved.devices = devices ∧ saved.sessions = sessions := by
      rw [(save_ok hsave).2]
      exact ⟨rfl, rfl⟩
    refine ⟨hc.find, hstate, (live_ok hlive).2.2 hne, reachable_approved p _ c hc.find (Or.inl hstate),
      ⟨account, hc.owner, hc.generation.symm, hru⟩, hb.source,
      ⟨claim, key, boundDevice c claim.body key drawn now, boundSession c signed.document.body drawn now,
        hclaim, hkey, rfl, hdev.symm, rfl, rfl, rfl, rfl, hdev.symm, hses.symm, rfl, ?_, ?_⟩,
      ⟨exchangedBy c signed.document ⟨drawn.deviceId, drawn.sessionId, now + 90 * day⟩, ?_, rfl, rfl, rfl,
        congrArg some hdev.symm, congrArg some hses.symm, congrArg some hreceipt.symm⟩⟩
    · show saved.devices.rows = _
      rw [hother.1]
      exact (Table.insert_ok.mp hdevices).2.2
    · show saved.sessions.rows = _
      rw [hother.2]
      exact (Table.insert_ok.mp hsessions).2.2
    · show saved.ceremonies.find _ = _
      rw [(save_ok hsave).1]
      exact if_pos hc.key

/-- Only an exchange creates devices and sessions. -/
theorem run_creates {call : Call} {outcome : Outcome}
    (p : Path (Step service) (Db.initial base) labels db)
    (h : call.run service db = .ok (outcome, db')) :
    (db'.devices = db.devices ∧ db'.sessions = db.sessions) ∨
      ∃ secret signed drawn now response c, call = .exchange secret signed drawn now ∧
        outcome = .binding response ∧ response.replayed = false ∧
        Binding service base labels db signed now response db' c := by
  have hr := run_ok h
  cases call with
  | start actor request now =>
    obtain ⟨s, hs, -⟩ := hr
    obtain ⟨-, account, -, ⟨existing, -, -, -, rfl⟩ | ⟨hn, identity, family, saved, -, hsave, rfl⟩⟩ :=
      start_ok hs
    · exact Or.inl ⟨rfl, rfl⟩
    · refine Or.inl ?_
      show saved.devices = _ ∧ saved.sessions = _
      rw [(save_ok hsave).2]
      exact ⟨rfl, rfl⟩
  | claim secret signed now =>
    obtain ⟨s, hs, -⟩ := hr
    obtain ⟨c, account, hc, -, ⟨-, -, rfl⟩ | ⟨hnone, hstate, saved, hsave, rfl⟩⟩ := claim_ok hs
    · exact Or.inl ⟨rfl, rfl⟩
    · refine Or.inl ?_
      show saved.devices = _ ∧ saved.sessions = _
      rw [(save_ok hsave).2]
      exact ⟨rfl, rfl⟩
  | poll secret signed now =>
    obtain ⟨s, hs, -⟩ := hr
    obtain ⟨c, account, hc, hsave⟩ := poll_ok hs
    refine Or.inl ?_
    rw [(save_ok hsave).2]
    exact ⟨rfl, rfl⟩
  | decide actor request now =>
    obtain ⟨s, hs, -⟩ := hr
    obtain ⟨-, c, account, hc, -, -, -, ⟨previous, -, -, -, -, rfl⟩ |
      ⟨-, hlive, -, -, hne, next, saved, commanded, hd, hsave, hcommand, rfl⟩⟩ := decide_ok hs
    · exact Or.inl ⟨rfl, rfl⟩
    · refine Or.inl ?_
      show commanded.devices = _ ∧ commanded.sessions = _
      rw [(saveCommand_ok hcommand).2, (save_ok hsave).2]
      exact ⟨rfl, rfl⟩
  | exchange secret signed drawn now =>
    obtain ⟨r, hx, rfl⟩ := hr
    rcases exchange_binding p hx with ⟨-, rfl, -⟩ | ⟨hrep, c, hb⟩
    · exact Or.inl ⟨rfl, rfl⟩
    · exact Or.inr ⟨secret, signed, drawn, now, r, c, rfl, rfl, hrep, hb⟩
  | cleanup now limit locked =>
    obtain ⟨n, hs, -⟩ := hr
    rw [cleanup_ok hs]
    exact Or.inl ⟨rfl, rfl⟩

end

/-! ## at most one binding -/

section
variable {service : Service} {db db' : Db} {k : Uuid}

/-- A step that binds takes an approved ceremony to an exchanged one with that binding. -/
theorem step_binding {label : Label} {b : Uuid × Uuid} (h : Step service db label db')
    (hb : label.binding k = some b) :
    (∃ c, db.ceremonies.find k = some c ∧ c.state = .approved) ∧
      ∃ c', db'.ceremonies.find k = some c' ∧ c'.state = .exchanged ∧
        c'.resultDeviceId = some b.1 ∧ c'.resultSessionId = some b.2 := by
  cases h with
  | outside h => cases hb
  | raised h =>
    unfold Label.binding at hb
    split at hb
    · rename_i heq
      cases heq
    · cases hb
  | @returned _ call outcome h =>
    have hr := run_ok h
    unfold Label.binding at hb
    split at hb
    · rename_i secret signed drawn now response heq
      cases heq
      by_cases hk : signed.document.body.common.ceremonyId = k ∧ response.replayed = false
      · rw [if_pos hk] at hb
        cases hb
        obtain ⟨r, hx, he⟩ := hr
        cases he
        obtain ⟨c, account, hc, -, -, -, -, ⟨-, -, -, -, -, hrep, -⟩ |
          ⟨hstate, hdev, hses, -, -, hbound⟩⟩ := exchange_ok hx
        · rw [hk.2] at hrep
          cases hrep
        · obtain ⟨claim, key, devices, sessions, saved, -, -, -, -, hsave, rfl⟩ := hbound.rows
          have hfind : c.ceremonyId = k := hc.key.trans hk.1
          refine ⟨⟨c, hk.1 ▸ hc.find, hstate⟩,
            exchangedBy c signed.document ⟨drawn.deviceId, drawn.sessionId, now + 90 * day⟩, ?_, rfl,
            congrArg some hdev.symm, congrArg some hses.symm⟩
          · show saved.ceremonies.find k = _
            rw [(save_ok hsave).1 k]
            exact if_pos hfind
      · rw [if_neg hk] at hb
        cases hb
    · cases hb

/-- **At most one binding** while the row of the ceremony exists, none once it is over, and the row
names the one there is. -/
theorem bindings_le_one {labels : List Label} (p : Path (Retained service k) db labels db') :
    (bindings k labels).length ≤ 1 ∧
      (∀ c, db.ceremonies.find k = some c → c.state.isPending = false → bindings k labels = []) ∧
      ∀ b ∈ bindings k labels, ∃ c', db'.ceremonies.find k = some c' ∧ c'.state = .exchanged ∧
        c'.resultDeviceId = some b.1 ∧ c'.resultSessionId = some b.2 := by
  induction p with
  | nil db => exact ⟨Nat.zero_le _, fun _ _ _ => rfl, fun b hb => absurd hb List.not_mem_nil⟩
  | @cons s s₁ s₂ label labels hs p ih =>
    obtain ⟨hlen, hover, hnames⟩ := ih
    unfold bindings at hlen hover hnames ⊢
    cases hb : label.binding k with
    | none =>
      rw [List.filterMap_cons_none hb]
      refine ⟨hlen, fun c hc ho => ?_, hnames⟩
      obtain ⟨c₁, hc₁, hl⟩ := retained_later hs hc
      refine hover c₁ hc₁ ?_
      rw [(hl.finished ho).1]
      exact ho
    | some b =>
      obtain ⟨⟨c, hc, hst⟩, c₁, hc₁, hst₁, hdev, hses⟩ := step_binding hs.1 hb
      have hnil : labels.filterMap (Label.binding k) = [] := by
        refine hover c₁ hc₁ ?_
        rw [hst₁]
        rfl
      rw [List.filterMap_cons_some hb, hnil]
      refine ⟨Nat.le_refl _, fun d hd ho => ?_, fun b' hb' => ?_⟩
      · rw [hc] at hd
        rw [← Option.some.inj hd, hst] at ho
        cases ho
      · obtain ⟨c₂, hc₂, hl⟩ := path_later p hc₁
        obtain ⟨hst₂, -, hdev₂, hses₂, -⟩ := hl.exchanged hst₁
        rw [List.mem_singleton.mp hb']
        exact ⟨c₂, hc₂, hst₂, hdev₂.trans hdev, hses₂.trans hses⟩

end

end AutPlay.Pairing
