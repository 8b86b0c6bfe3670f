import AutPlay.Pairing.Calls

/-!
# The life of a pairing ceremony

* `Advance`, `Moves`   one change of a ceremony, and what one step does to an identifier;
* `Step`               a call of the service, or a change by another part of the system;
* `step_moves`         every step moves every ceremony so;
* `Shaped`             what every ceremony of a run looks like;
* `Later`              what a ceremony keeps for as long as its row exists;
* `step_command`       a recorded decision stays with its ceremony.

Other parts of the system change accounts, devices and sessions as they like.  Of the ceremonies, a
recovery of the account cancels the pending ones, and a purge removes rows.
-/

set_option linter.unusedSectionVars false

namespace AutPlay.Pairing

open AutPlay.Sync (Uuid)
open Result

/-! ## one change -/

def cancelledBy (ceremony : SelfDevicePairing) : SelfDevicePairing :=
  { ceremony with state := .cancelled, revision := ceremony.revision + 1 }

/-- One change of a ceremony; all but a poll add one to its revision. -/
inductive Advance : SelfDevicePairing → SelfDevicePairing → Prop
  | poll (c : SelfDevicePairing) (now : Int) : Advance c (polledAt c now)
  | claim (c : SelfDevicePairing) (request : Request ClaimBody) (state : c.state = .opened)
      (unclaimed : c.claimDocument = none) : Advance c (claimedBy c request)
  | approve (c : SelfDevicePairing) (operationId : Uuid) (state : c.state = .claimed) :
      Advance c
        { c with
          state := .approved
          approvalOperationId := some operationId
          revision := c.revision + 1 }
  | reject (c : SelfDevicePairing) (state : c.state = .claimed) :
      Advance c { c with state := .rejected, revision := c.revision + 1 }
  | cancel (c : SelfDevicePairing) (state : c.state.isPending = true) : Advance c (cancelledBy c)
  | exchange (c : SelfDevicePairing) (request : Request ExchangeBody) (binding : PairingBinding)
      (state : c.state = .approved) : Advance c (exchangedBy c request binding)

/-- A ceremony as `start` makes it. -/
structure IsNew (c : SelfDevicePairing) : Prop where
  state : c.state = .opened
  revision : c.revision = 1
  ceremonyId : c.startDocument.body.common.ceremonyId = c.ceremonyId
  operationId : c.startDocument.body.operationId = c.startOperationId
  expiresAt : c.expiresAt = c.createdAt + 15 * 60 * 1000000
  claimId : c.claimId = none
  claimDocument : c.claimDocument = none
  exchangeId : c.exchangeId = none
  exchangeDocument : c.exchangeDocument = none
  resultDeviceId : c.resultDeviceId = none
  resultSessionId : c.resultSessionId = none

/-- What one step does to the ceremony of an identifier. -/
inductive Moves : Option SelfDevicePairing → Option SelfDevicePairing → Prop
  | stay (o : Option SelfDevicePairing) : Moves o o
  | opened (c : SelfDevicePairing) (new : IsNew c) : Moves none (some c)
  | advance {c c' : SelfDevicePairing} (h : Advance c c') : Moves (some c) (some c')
  | removed (c : SelfDevicePairing) : Moves (some c) none

theorem isNew_openCeremony (request : Request StartBody) (identity : Expected)
    (account : PairingAccount) (actor : Principal) (family : Uuid) (now : Int) :
    IsNew (openCeremony request identity account actor family now) :=
  ⟨rfl, rfl, rfl, rfl, rfl, rfl, rfl, rfl, rfl, rfl, rfl⟩

section
variable {service : Service} {db db' saved : Db} {c c' : SelfDevicePairing} {k : Uuid}

theorem Decided.advance {body : DecisionBody} (h : Decided service c body c')
    (hp : c.state.isPending = true) : Advance c c' := by
  cases h with
  | approve action state code shown => exact .approve c body.operationId state
  | reject action state => exact .reject c state
  | cancel action => exact .cancel c hp

theorem isPending_of_live {now : Int} (h : live c now = .ok ()) (he : c.state ≠ .exchanged) :
    c.state.isPending = true := by
  obtain ⟨hc, hr, -⟩ := live_ok h
  cases hs : c.state with
  | opened => rfl
  | claimed => rfl
  | approved => rfl
  | exchanged => exact absurd hs he
  | cancelled => exact absurd hs hc
  | rejected => exact absurd hs hr

theorem moves_save_new (hs : save db c = .ok saved) (hf : db.ceremonies.find c.ceremonyId = none)
    (hn : IsNew c) (hd : db'.ceremonies = saved.ceremonies) :
    Moves (db.ceremonies.find k) (db'.ceremonies.find k) := by
  rw [hd, (save_ok hs).1 k]
  by_cases hk : c.ceremonyId = k
  · rw [if_pos hk, ← hk, hf]
    exact .opened c hn
  · rw [if_neg hk]
    exact .stay _

theorem moves_save (hs : save db c' = .ok saved) (hf : db.ceremonies.find c.ceremonyId = some c)
    (ha : Advance c c') (hk' : c'.ceremonyId = c.ceremonyId) (hd : db'.ceremonies = saved.ceremonies) :
    Moves (db.ceremonies.find k) (db'.ceremonies.find k) := by
  rw [hd, (save_ok hs).1 k]
  by_cases hk : c'.ceremonyId = k
  · rw [if_pos hk, ← hk, hk', hf]
    exact .advance ha
  · rw [if_neg hk]
    exact .stay _

theorem Advance.ceremonyId (h : Advance c c') : c'.ceremonyId = c.ceremonyId := by
  cases h with
  | poll now => rfl
  | claim request state unclaimed => rfl
  | approve operationId state => rfl
  | reject state => rfl
  | cancel state => rfl
  | exchange request binding state => rfl

theorem moves_removeWhere {p : SelfDevicePairing → Bool} :
    Moves (db.ceremonies.find k) ((db.removeWhere p).ceremonies.find k) := by
  show Moves _ ((db.ceremonies.eraseWhere p).find k)
  rw [Table.find_eraseWhere]
  cases hf : db.ceremonies.find k with
  | none => exact .stay _
  | some c =>
    rw [Option.filter_some]
    split
    · exact .stay _
    · exact .removed c

end

/-! ## steps -/

/-- A recovery cancels the pending ceremonies of its account. -/
def cancelRecovered (ceremonies : Table SelfDevicePairing) (recovered : Uuid → Bool) :
    Table SelfDevicePairing :=
  ceremonies.updateWhere (fun c => recovered c.userId && c.state.isPending) cancelledBy
    (fun _ => rfl) (fun _ => rfl)

theorem find_cancelRecovered (ceremonies : Table SelfDevicePairing) (recovered : Uuid → Bool)
    (k : Uuid) : (cancelRecovered ceremonies recovered).find k =
      (ceremonies.find k).map fun c =>
        if (recovered c.userId && c.state.isPending) = true then cancelledBy c else c :=
  Table.find_updateWhere k

/-- A change by another part of the system: purged ceremonies go, those of recovered accounts are
cancelled while they are pending. -/
structure Outside (db db' : Db) : Prop where
  rows : ∃ (purged : SelfDevicePairing → Bool) (recovered : Uuid → Bool),
    db'.ceremonies = cancelRecovered (db.removeWhere purged).ceremonies recovered ∧
    db'.commands = (db.removeWhere purged).commands

/-- A call with its outcome, or a change by another part of the system. -/
inductive Label
  | served (call : Call) (outcome : Except SelfPairingError Outcome)
  | outside

/-- A call that raises changes nothing. -/
inductive Step (service : Service) : Db → Label → Db → Prop
  | returned {db db' : Db} {call : Call} {outcome : Outcome}
      (h : call.run service db = .ok (outcome, db')) : Step service db (.served call (.ok outcome)) db'
  | raised {db : Db} {call : Call} {e : SelfPairingError} (h : call.run service db = .error e) :
      Step service db (.served call (.error e)) db
  | outside {db db' : Db} (h : Outside db db') : Step service db .outside db'

/-- A database without ceremonies. -/
def Db.initial (base : Db) : Db := { base with ceremonies := Table.empty, commands := Table.empty }

section
variable {service : Service} {db db' : Db}

/-- A call that returns ran its part of the service. -/
theorem run_ok {call : Call} {outcome : Outcome} (h : call.run service db = .ok (outcome, db')) :
    match call with
    | .start actor request now =>
      ∃ s, service.start actor request now db = .ok (s, db') ∧ outcome = .status s
    | .claim secret signed now =>
      ∃ s, service.claim secret signed now db = .ok (s, db') ∧ outcome = .status s
    | .poll secret signed now =>
      ∃ s, service.poll secret signed now db = .ok (s, db') ∧ outcome = .status s
    | .decide actor request now =>
      ∃ s, service.decide actor request now db = .ok (s, db') ∧ outcome = .status s
    | .exchange secret signed drawn now =>
      ∃ r, service.exchange secret signed drawn now db = .ok (r, db') ∧ outcome = .binding r
    | .cleanup now limit locked =>
      ∃ n, Service.cleanup now limit locked db = .ok (n, db') ∧ outcome = .removed n := by
  cases call with
  | start actor request now =>
    obtain ⟨⟨s, db''⟩, hr, he⟩ := map_eq_ok.mp h
    cases he
    exact ⟨s, hr, rfl⟩
  | claim secret signed now =>
    obtain ⟨⟨s, db''⟩, hr, he⟩ := map_eq_ok.mp h
    cases he
    exact ⟨s, hr, rfl⟩
  | poll secret signed now =>
    obtain ⟨⟨s, db''⟩, hr, he⟩ := map_eq_ok.mp h
    cases he
    exact ⟨s, hr, rfl⟩
  | decide actor request now =>
    obtain ⟨⟨s, db''⟩, hr, he⟩ := map_eq_ok.mp h
    cases he
    exact ⟨s, hr, rfl⟩
  | exchange secret signed drawn now =>
    obtain ⟨⟨r, db''⟩, hr, he⟩ := map_eq_ok.mp h
    cases he
    exact ⟨r, hr, rfl⟩
  | cleanup now limit locked =>
    obtain ⟨⟨n, db''⟩, hr, he⟩ := map_eq_ok.mp h
    cases he
    exact ⟨n, hr, rfl⟩

theorem cleanup_ok {now : Int} {limit n : Nat} {locked : List Uuid}
    (h : Service.cleanup now limit locked db = .ok (n, db')) :
    db' = db.removeWhere fun row => (cleanupIds db now limit locked).contains row.ceremonyId := by
  unfold Service.cleanup at h
  obtain ⟨⟨⟩, -, h⟩ := bind_eq_ok.mp h
  cases h
  rfl

theorem run_moves {call : Call} {outcome : Outcome} (h : call.run service db = .ok (outcome, db'))
    (k : Uuid) : Moves (db.ceremonies.find k) (db'.ceremonies.find k) := by
  have hr := run_ok h
  cases call with
  | start actor request now =>
    obtain ⟨s, hs, -⟩ := hr
    obtain ⟨-, account, -, ⟨existing, -, -, -, rfl⟩ | ⟨hn, identity, family, saved, -, hsave, rfl⟩⟩ :=
      start_ok hs
    · exact .stay _
    · exact moves_save_new hsave hn (isNew_openCeremony ..) rfl
  | claim secret signed now =>
    obtain ⟨s, hs, -⟩ := hr
    obtain ⟨c, account, hc, -, ⟨-, -, rfl⟩ | ⟨hnone, hstate, saved, hsave, rfl⟩⟩ := claim_ok hs
    · exact .stay _
    · exact moves_save hsave (hc.key ▸ hc.find) (.claim c _ hstate hnone) rfl rfl
  | poll secret signed now =>
    obtain ⟨s, hs, -⟩ := hr
    obtain ⟨c, account, hc, hsave⟩ := poll_ok hs
    exact moves_save hsave (hc.key ▸ hc.find) (.poll c now) rfl rfl
  | decide actor request now =>
    obtain ⟨s, hs, -⟩ := hr
    obtain ⟨-, c, account, hc, -, -, -, ⟨previous, -, -, -, -, rfl⟩ |
      ⟨-, hlive, -, -, hne, next, saved, commanded, hd, hsave, hcommand, rfl⟩⟩ := decide_ok hs
    · exact .stay _
    · have ha := hd.advance (isPending_of_live hlive hne)
      refine moves_save hsave (hc.key ▸ hc.find) ha ha.ceremonyId ?_
      show commanded.ceremonies = _
      rw [(saveCommand_ok hcommand).2]
  | exchange secret signed drawn now =>
    obtain ⟨r, hx, -⟩ := hr
    obtain ⟨c, account, hc, -, -, -, -, ⟨-, -, -, -, -, -, rfl⟩ | ⟨hstate, -, -, -, -, hb⟩⟩ :=
      exchange_ok hx
    · exact .stay _
    · obtain ⟨claim, key, devices, sessions, saved, -, -, -, -, hsave, rfl⟩ := hb.rows
      have hf : db.ceremonies.find c.ceremonyId = some c := hc.key ▸ hc.find
      have hceremonies : saved.ceremonies = saved.ceremonies := rfl
      have hmoves := moves_save (k := k) hsave hf (.exchange c _ _ hstate) rfl hceremonies
      exact hmoves
  | cleanup now limit locked =>
    obtain ⟨n, hs, -⟩ := hr
    rw [cleanup_ok hs]
    exact moves_removeWhere

theorem outside_moves (h : Outside db db') (k : Uuid) :
    Moves (db.ceremonies.find k) (db'.ceremonies.find k) := by
  obtain ⟨purged, recovered, hc, -⟩ := h.rows
  rw [hc, find_cancelRecovered]
  show Moves _ (((db.ceremonies.eraseWhere purged).find k).map _)
  rw [Table.find_eraseWhere]
  cases hf : db.ceremonies.find k with
  | none => exact .stay _
  | some c =>
    rw [Option.filter_some]
    by_cases hp : (!purged c) = true
    · rw [if_pos hp, Option.map_some]
      by_cases hr : (recovered c.userId && c.state.isPending) = true
      · rw [if_pos hr]
        exact .advance (.cancel c (Bool.and_eq_true_iff.mp hr).2)
      · rw [if_neg hr]
        exact .stay _
    · rw [if_neg hp]
      exact .removed c

/-- **Every step moves every ceremony along its life**: it opens, is claimed, approved and exchanged,
or ends rejected or cancelled, or is removed. -/
theorem step_moves {label : Label} (h : Step service db label db') (k : Uuid) :
    Moves (db.ceremonies.find k) (db'.ceremonies.find k) := by
  cases h with
  | returned h => exact run_moves h k
  | raised h => exact .stay _
  | outside h => exact outside_moves h k

end

/-! ## the shape of a ceremony -/

structure Shaped (c : SelfDevicePairing) : Prop where
  ceremonyId : c.startDocument.body.common.ceremonyId = c.ceremonyId
  operationId : c.startDocument.body.operationId = c.startOperationId
  claimId : c.claimId = c.claimDocument.map fun d => d.body.claimId
  exchangeId : c.exchangeId = c.exchangeDocument.map fun d => d.body.exchangeId
  unclaimed : c.state = .opened → c.claimDocument = none

theorem IsNew.shaped {c : SelfDevicePairing} (h : IsNew c) : Shaped c where
  ceremonyId := h.ceremonyId
  operationId := h.operationId
  claimId := by
    rw [h.claimId, h.claimDocument]
    rfl
  exchangeId := by
    rw [h.exchangeId, h.exchangeDocument]
    rfl
  unclaimed := fun _ => h.claimDocument

theorem Advance.shaped {c c' : SelfDevicePairing} (ha : Advance c c') (h : Shaped c) : Shaped c' := by
  cases ha with
  | poll now => exact ⟨h.ceremonyId, h.operationId, h.claimId, h.exchangeId, h.unclaimed⟩
  | claim request state unclaimed =>
    exact ⟨h.ceremonyId, h.operationId, rfl, h.exchangeId, fun hs => State.noConfusion hs⟩
  | approve operationId state =>
    exact ⟨h.ceremonyId, h.operationId, h.claimId, h.exchangeId, fun hs => State.noConfusion hs⟩
  | reject state =>
    exact ⟨h.ceremonyId, h.operationId, h.claimId, h.exchangeId, fun hs => State.noConfusion hs⟩
  | cancel state =>
    exact ⟨h.ceremonyId, h.operationId, h.claimId, h.exchangeId, fun hs => State.noConfusion hs⟩
  | exchange request binding state =>
    exact ⟨h.ceremonyId, h.operationId, h.claimId, rfl, fun hs => State.noConfusion hs⟩

def AllShaped (db : Db) : Prop := ∀ k c, db.ceremonies.find k = some c → Shaped c

theorem step_shaped {service : Service} {db db' : Db} {label : Label} (h : AllShaped db)
    (hs : Step service db label db') : AllShaped db' := by
  intro k c hc
  have hm := step_moves hs k
  rw [hc] at hm
  cases hf : db.ceremonies.find k with
  | none =>
    rw [hf] at hm
    cases hm with
    | opened _ new => exact new.shaped
  | some old =>
    rw [hf] at hm
    cases hm with
    | stay => exact h k c hf
    | advance ha => exact ha.shaped (h k old hf)

theorem reachable_shaped {service : Service} {base db : Db} {labels : List Label}
    (p : Path (Step service) (Db.initial base) labels db) : AllShaped db :=
  p.invariant (I := AllShaped) (fun _ _ _ => step_shaped) fun _ _ h => (Option.some_ne_none _ h.symm).elim

/-! ## what stays -/

/-- What a ceremony keeps: who started it and when, the claim once it is recorded, and all of it once
it is over. -/
structure Later (c c' : SelfDevicePairing) : Prop where
  ceremonyId : c'.ceremonyId = c.ceremonyId
  userId : c'.userId = c.userId
  generation : c'.authorityGeneration = c.authorityGeneration
  sourceDeviceId : c'.sourceDeviceId = c.sourceDeviceId
  sourceFamilyId : c'.sourceFamilyId = c.sourceFamilyId
  startDocument : c'.startDocument = c.startDocument
  expiresAt : c'.expiresAt = c.expiresAt
  claim : ∀ d, c.claimDocument = some d → c'.claimDocument = some d ∧ c'.claimId = c.claimId
  exchanged : c.state = .exchanged → c'.state = .exchanged ∧
    c'.exchangeDocument = c.exchangeDocument ∧ c'.resultDeviceId = c.resultDeviceId ∧
      c'.resultSessionId = c.resultSessionId ∧ c'.receiptExpiresAt = c.receiptExpiresAt
  finished : c.state.isPending = false → c'.state = c.state ∧ c'.revision = c.revision
  revision : c.revision ≤ c'.revision

theorem Later.refl (c : SelfDevicePairing) : Later c c :=
  ⟨rfl, rfl, rfl, rfl, rfl, rfl, rfl, fun _ h => ⟨h, rfl⟩, fun h => ⟨h, rfl, rfl, rfl, rfl⟩,
    fun _ => ⟨rfl, rfl⟩, Nat.le_refl _⟩

theorem Later.trans {a b c : SelfDevicePairing} (h : Later a b) (h' : Later b c) : Later a c where
  ceremonyId := h'.ceremonyId.trans h.ceremonyId
  userId := h'.userId.trans h.userId
  generation := h'.generation.trans h.generation
  sourceDeviceId := h'.sourceDeviceId.trans h.sourceDeviceId
  sourceFamilyId := h'.sourceFamilyId.trans h.sourceFamilyId
  startDocument := h'.startDocument.trans h.startDocument
  expiresAt := h'.expiresAt.trans h.expiresAt
  claim := by
    intro d hd
    obtain ⟨hb, hbi⟩ := h.claim d hd
    obtain ⟨hc, hci⟩ := h'.claim d hb
    exact ⟨hc, hci.trans hbi⟩
  exchanged := by
    intro he
    obtain ⟨hs, hd, hr, hx, ht⟩ := h.exchanged he
    obtain ⟨hs', hd', hr', hx', ht'⟩ := h'.exchanged hs
    exact ⟨hs', hd'.trans hd, hr'.trans hr, hx'.trans hx, ht'.trans ht⟩
  finished := by
    intro ho
    obtain ⟨hs, hr⟩ := h.finished ho
    obtain ⟨hs', hr'⟩ := h'.finished (hs ▸ ho)
    exact ⟨hs'.trans hs, hr'.trans hr⟩
  revision := h.revision.trans h'.revision

/-- A change of a pending ceremony that leaves its start and its claim as they are. -/
theorem Later.of_pending {c c' : SelfDevicePairing} (hp : c.state.isPending = true)
    (hid : c'.ceremonyId = c.ceremonyId) (hu : c'.userId = c.userId)
    (hg : c'.authorityGeneration = c.authorityGeneration)
    (hd : c'.sourceDeviceId = c.sourceDeviceId) (hf : c'.sourceFamilyId = c.sourceFamilyId)
    (hs : c'.startDocument = c.startDocument) (ht : c'.expiresAt = c.expiresAt)
    (hc : ∀ d, c.claimDocument = some d → c'.claimDocument = some d ∧ c'.claimId = c.claimId)
    (hr : c'.revision = c.revision + 1) : Later c c' := by
  refine ⟨hid, hu, hg, hd, hf, hs, ht, hc, fun he => ?_, fun ho => ?_, ?_⟩
  · rw [he] at hp
    exact Bool.noConfusion hp
  · rw [ho] at hp
    exact Bool.noConfusion hp
  · omega

theorem Advance.later {c c' : SelfDevicePairing} (h : Advance c c') : Later c c' := by
  cases h with
  | poll now =>
    exact ⟨rfl, rfl, rfl, rfl, rfl, rfl, rfl, fun _ h => ⟨h, rfl⟩, fun h => ⟨h, rfl, rfl, rfl, rfl⟩,
      fun _ => ⟨rfl, rfl⟩, Nat.le_refl _⟩
  | claim request state unclaimed =>
    have hp : c.state.isPending = true := by rw [state]; rfl
    refine .of_pending hp rfl rfl rfl rfl rfl rfl rfl (fun d hd => ?_) rfl
    rw [unclaimed] at hd
    cases hd
  | approve operationId state =>
    have hp : c.state.isPending = true := by rw [state]; rfl
    exact .of_pending hp rfl rfl rfl rfl rfl rfl rfl (fun _ h => ⟨h, rfl⟩) rfl
  | reject state =>
    have hp : c.state.isPending = true := by rw [state]; rfl
    exact .of_pending hp rfl rfl rfl rfl rfl rfl rfl (fun _ h => ⟨h, rfl⟩) rfl
  | cancel state => exact .of_pending state rfl rfl rfl rfl rfl rfl rfl (fun _ h => ⟨h, rfl⟩) rfl
  | exchange request binding state =>
    have hp : c.state.isPending = true := by rw [state]; rfl
    exact .of_pending hp rfl rfl rfl rfl rfl rfl rfl (fun _ h => ⟨h, rfl⟩) rfl

/-- A step at whose end the ceremony still has its row. -/
def Retained (service : Service) (k : Uuid) (db : Db) (label : Label) (db' : Db) : Prop :=
  Step service db label db' ∧ ∃ c, db'.ceremonies.find k = some c

section
variable {service : Service} {db db' : Db} {k : Uuid} {c : SelfDevicePairing}

theorem retained_later {label : Label} (h : Retained service k db label db')
    (hc : db.ceremonies.find k = some c) : ∃ c', db'.ceremonies.find k = some c' ∧ Later c c' := by
  obtain ⟨hs, c', hc'⟩ := h
  refine ⟨c', hc', ?_⟩
  have hm := step_moves hs k
  rw [hc, hc'] at hm
  cases hm with
  | stay => exact Later.refl c
  | advance ha => exact ha.later

theorem path_later {labels : List Label} (p : Path (Retained service k) db labels db')
    (hc : db.ceremonies.find k = some c) : ∃ c', db'.ceremonies.find k = some c' ∧ Later c c' := by
  induction p generalizing c with
  | nil db => exact ⟨c, hc, Later.refl c⟩
  | cons hs p ih =>
    obtain ⟨c₁, hc₁, h₁⟩ := retained_later hs hc
    obtain ⟨c₂, hc₂, h₂⟩ := ih hc₁
    exact ⟨c₂, hc₂, h₁.trans h₂⟩

/-! ## recorded decisions -/

theorem command_removeWhere {p : SelfDevicePairing → Bool} {operationId : Uuid} {command : PairingCommand}
    (hf : db.commands.find operationId = some command)
    (hk : (db.removeWhere p).ceremonies.find command.ceremonyId ≠ none) :
    (db.removeWhere p).commands.find operationId = some command := by
  show (db.commands.eraseWhere _).find operationId = _
  rw [Table.find_eraseWhere, hf, Option.filter_some]
  refine if_pos ?_
  have hk : (db.ceremonies.eraseWhere p).find command.ceremonyId ≠ none := hk
  rw [Table.find_eraseWhere] at hk
  show (!(db.ceremonies.find command.ceremonyId).any p) = true
  cases ho : db.ceremonies.find command.ceremonyId with
  | none => rfl
  | some c =>
    rw [ho, Option.filter_some] at hk
    show (!p c) = true
    by_contra hp
    rw [if_neg hp] at hk
    exact hk rfl

theorem run_command {call : Call} {outcome : Outcome} {operationId : Uuid} {command : PairingCommand}
    (h : call.run service db = .ok (outcome, db')) (hf : db.commands.find operationId = some command)
    (hk : db'.ceremonies.find command.ceremonyId ≠ none) :
    db'.commands.find operationId = some command := by
  have hr := run_ok h
  cases call with
  | start actor request now =>
    obtain ⟨s, hs, -⟩ := hr
    obtain ⟨-, account, -, ⟨existing, -, -, -, rfl⟩ | ⟨hn, identity, family, saved, -, hsave, rfl⟩⟩ :=
      start_ok hs
    · exact hf
    · show saved.commands.find operationId = _
      rw [(save_ok hsave).2]
      exact hf
  | claim secret signed now =>
    obtain ⟨s, hs, -⟩ := hr
    obtain ⟨c, account, hc, -, ⟨-, -, rfl⟩ | ⟨hnone, hstate, saved, hsave, rfl⟩⟩ := claim_ok hs
    · exact hf
    · show saved.commands.find operationId = _
      rw [(save_ok hsave).2]
      exact hf
  | poll secret signed now =>
    obtain ⟨s, hs, -⟩ := hr
    obtain ⟨c, account, hc, hsave⟩ := poll_ok hs
    rw [(save_ok hsave).2]
    exact hf
  | decide actor request now =>
    obtain ⟨s, hs, -⟩ := hr
    obtain ⟨-, c, account, hc, -, -, -, ⟨previous, -, -, -, -, rfl⟩ |
      ⟨hnone, hlive, -, -, hne, next, saved, commanded, hd, hsave, hcommand, rfl⟩⟩ := decide_ok hs
    · exact hf
    · show commanded.commands.find operationId = _
      have hsaved : saved.commands = db.commands := by rw [(save_ok hsave).2]
      rw [(saveCommand_ok hcommand).1 operationId, hsaved]
      show (if request.body.operationId = operationId then _ else _) = _
      by_cases ho : request.body.operationId = operationId
      · rw [ho, hf] at hnone
        cases hnone
      · rw [if_neg ho]
        exact hf
  | exchange secret signed drawn now =>
    obtain ⟨r, hx, -⟩ := hr
    obtain ⟨c, account, hc, -, -, -, -, ⟨-, -, -, -, -, -, rfl⟩ | ⟨hstate, -, -, -, -, hb⟩⟩ :=
      exchange_ok hx
    · exact hf
    · obtain ⟨claim, key, devices, sessions, saved, -, -, -, -, hsave, rfl⟩ := hb.rows
      show saved.commands.find operationId = _
      rw [(save_ok hsave).2]
      exact hf
  | cleanup now limit locked =>
    obtain ⟨n, hs, -⟩ := hr
    rw [cleanup_ok hs] at hk ⊢
    exact command_removeWhere hf hk

theorem step_command {label : Label} {operationId : Uuid} {command : PairingCommand}
    (h : Step service db label db') (hf : db.commands.find operationId = some command)
    (hk : db'.ceremonies.find command.ceremonyId ≠ none) :
    db'.commands.find operationId = some command := by
  cases h with
  | returned h => exact run_command h hf hk
  | raised h => exact hf
  | outside h =>
    obtain ⟨purged, recovered, hc, hcommands⟩ := h.rows
    rw [hcommands]
    refine command_removeWhere hf fun hn => hk ?_
    rw [hc, find_cancelRecovered, hn]
    rfl

theorem path_command {labels : List Label} {operationId : Uuid} {command : PairingCommand}
    (p : Path (Retained service command.ceremonyId) db labels db')
    (hf : db.commands.find operationId = some command) :
    db'.commands.find operationId = some command := by
  induction p with
  | nil db => exact hf
  | cons hs p ih =>
    obtain ⟨hstep, c, hc⟩ := hs
    refine ih (step_command hstep hf ?_)
    rw [hc]
    exact Option.some_ne_none c

end

end AutPlay.Pairing
