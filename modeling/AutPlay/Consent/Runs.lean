import AutPlay.Consent.Service

/-!
# Runs of the consent service

* `World`, `Step`       the two stores and the backups; commits, losses, restores and batches of the guard;
* `Decides`             what a decision that writes has checked, and what it wrote;
* `Inv`, `run_inv`      what holds of every reachable world.

Revisions are reused, but every two of them cost one event of the ledger, which is how they stay far
below their bound.
-/

set_option linter.unusedSectionVars false

namespace AutPlay.Consent

open AutPlay.Sync (Uuid)
open AutPlay.Auth (UserAccountRow DeviceRow UserSessionRow Principal)
open AutPlay.Evidence
open AutPlay.Result

/-! ## the ledger -/

/-- A revision, and one more for a grant, which has yet to be retired. -/
def weight (decision : ConsentDecision) (revision : Int) : Int :=
  revision + if decision = .granted then 1 else 0

theorem weight_of_ne {decision : ConsentDecision} {revision : Int} (h : decision ≠ .granted) :
    weight decision revision = revision := by
  unfold weight
  rw [if_neg h, Int.add_zero]

theorem revision_le_weight (decision : ConsentDecision) (revision : Int) :
    revision ≤ weight decision revision ∧ weight decision revision ≤ revision + 1 := by
  unfold weight
  split
  · omega
  · omega

/-- What the ledger keeps: its keys, the reserved places, and revisions that its length bounds. -/
structure LedgerOk (ledger : Ledger) : Prop where
  keyed : ConsentKeyed ledger.history
  reserved : ConsentReserved ledger.history ledger.count
  bounded : ∀ operation i, ledger.history.operations.get? operation = some i →
    weight i.decision i.revision ≤ 2 * ledger.count

namespace Ledger

section
variable {ledger ledger' : Ledger} {intent : TrainingConsentIntent}

theorem record_eq_some (h : ledger.record intent = some ledger') :
    (ledger' = ledger ∧ ledger.history.operations.get? intent.operationId = some intent) ∨
      (ledger.history.operations.get? intent.operationId = none ∧ ValidIntent intent ∧
        ledger' = ⟨withIntent ledger.history intent, ledger.count + 1⟩ ∧
          ConsentReserved ledger'.history ledger'.count) := by
  obtain ⟨⟨o, b⟩, hp, h⟩ := Option.bind_eq_some_iff.mp h
  obtain ⟨rfl, ⟨rfl, hget⟩ | ⟨rfl, hnew, -⟩⟩ := recordConsent_eq_some hp
  · cases h
    exact Or.inl ⟨rfl, hget⟩
  · obtain ⟨history, ha, h⟩ := Option.map_eq_some_iff.mp h
    have hreserved := consentReserved_step hp ha
    obtain ⟨hvalid, -, rfl⟩ := applyConsent_eq_some ha
    cases h
    exact Or.inr ⟨hnew, hvalid, rfl, hreserved⟩

/-- What a recorded intent changes is the latest one of its owner. -/
theorem record_latest (h : ledger.record intent = some ledger') {tag : String} (ht : tag ≠ intent.ownerTag) :
    ledger'.history.latest.get? tag = ledger.history.latest.get? tag := by
  rcases record_eq_some h with ⟨rfl, -⟩ | ⟨-, -, rfl, -⟩
  · rfl
  · exact Dict.get?_set_ne ledger.history.latest intent ht

theorem record_count (h : ledger.record intent = some ledger') : ledger.count ≤ ledger'.count := by
  rcases record_eq_some h with ⟨rfl, -⟩ | ⟨-, -, rfl, -⟩
  · exact Nat.le_refl _
  · exact Nat.le_succ _

/-- An operation of the ledger stays, and a new one is the recorded intent. -/
theorem record_operations (h : ledger.record intent = some ledger') {operation : Uuid}
    {i : TrainingConsentIntent} (hi : ledger'.history.operations.get? operation = some i) :
    ledger.history.operations.get? operation = some i ∨ i = intent := by
  rcases record_eq_some h with ⟨rfl, -⟩ | ⟨-, -, rfl, -⟩
  · exact Or.inl hi
  · have hi : (ledger.history.operations.set intent.operationId intent).get? operation = some i := hi
    rw [Dict.get?_set] at hi
    split at hi
    · cases hi
      exact Or.inr rfl
    · exact Or.inl hi

/-- **A recorded intent keeps the ledger**, and is bounded by its length. -/
theorem record_ok (hok : LedgerOk ledger) (h : ledger.record intent = some ledger')
    (hweight : weight intent.decision intent.revision ≤ 2 * ledger.count + 2) :
    LedgerOk ledger' ∧ weight intent.decision intent.revision ≤ 2 * ledger'.count := by
  rcases record_eq_some h with ⟨rfl, hget⟩ | ⟨hnew, hvalid, rfl, hreserved⟩
  · exact ⟨hok, hok.bounded _ _ hget⟩
  · have hle : weight intent.decision intent.revision ≤ 2 * ((ledger.count + 1 : Nat) : Int) := by
      omega
    refine ⟨⟨?_, hreserved, ?_⟩, hle⟩
    · have ha : applyConsent ledger.history (consentEvent 0 zero intent) =
          some (withIntent ledger.history intent) := if_pos ⟨rfl, hvalid, hnew⟩
      exact consentKeyed_apply hok.keyed ha
    · intro operation i hi
      rcases record_operations h hi with hi | rfl
      · have hold := hok.bounded operation i hi
        show weight i.decision i.revision ≤ 2 * ((ledger.count + 1 : Nat) : Int)
        omega
      · exact hle

/-- **The ledger's call is the call on its chain**: what the file says afterwards is what was recorded. -/
theorem record_of_call {L : ConsentLedger} {f f' : Chain.File String} {b : TrainingConsentIntent} {d : String}
    (hread : Chain.Scheme.read (consentScheme L) f = some (ledger.history, ledger.count, d))
    (hcall : Chain.Scheme.call (consentScheme L) (recordConsent intent) f = some (b, f')) :
    ∃ ledger' d', b = intent ∧ ledger.record intent = some ledger' ∧
      Chain.Scheme.read (consentScheme L) f' = some (ledger'.history, ledger'.count, d') := by
  obtain ⟨h, n, d₁, hr, hcase⟩ := Chain.Scheme.call_eq_some hcall
  rw [hread] at hr
  cases hr
  rcases hcase with ⟨hp, rfl⟩ | ⟨e, h', hp, ha, -, hr'⟩
  · obtain ⟨rfl, ⟨-, hget⟩ | ⟨ho, -⟩⟩ := recordConsent_eq_some hp
    · refine ⟨ledger, d, rfl, ?_, hread⟩
      unfold record recordConsent
      rw [hget]
      dsimp only
      rw [if_neg (not_not_intro rfl)]
      rfl
    · cases ho
  · obtain ⟨rfl, ⟨ho, -⟩ | ⟨he, hnew, hroom⟩⟩ := recordConsent_eq_some hp
    · cases ho
    cases he
    obtain ⟨hvalid, -, rfl⟩ := applyConsent_eq_some ha
    have ha' : applyConsent ledger.history (consentEvent ledger.count zero b) =
        some (withIntent ledger.history b) := if_pos ⟨rfl, hvalid, hnew⟩
    refine ⟨⟨withIntent ledger.history b, ledger.count + 1⟩, _, rfl, ?_, hr'⟩
    unfold record recordConsent
    rw [hnew]
    dsimp only
    rw [if_neg (Int.not_lt.mpr hroom)]
    show (applyConsent ledger.history (consentEvent ledger.count zero b)).map _ = _
    rw [ha']
    rfl

end

end Ledger

/-! ## worlds -/

/-- The database and the ledger, and every state of the database that may come back. -/
structure World where
  db : Db
  ledger : Ledger
  past : List Db

def World.initial (db : Db) : World :=
  ⟨{ db with consents := Dict.empty, operations := Dict.empty }, ⟨⟨Dict.empty, Dict.empty⟩, 0⟩,
    [{ db with consents := Dict.empty, operations := Dict.empty }]⟩

inductive Label
  | decided (now : Int) (principal : Principal) (body : Body)
  | lost (now : Int) (principal : Principal) (body : Body)
  | guarded (fresh : Fresh) (users : List Uuid)
  | guardLost (fresh : Fresh) (users : List Uuid)
  | restored
  | changed

/-- Every policy is of an account. -/
def Owned (db : Db) : Prop := ∀ u row, db.consents.get? u = some row → (db.accounts.get? u).isSome = true

/-- Rows of policies and receipts are erased with their account at most. -/
structure Erases (db db' : Db) : Prop where
  owned : Owned db'
  consents : ∀ u row, db'.consents.get? u = some row → db.consents.get? u = some row
  operations : ∀ o row, db'.operations.get? o = some row → db.operations.get? o = some row

section
variable (S : Digests)

inductive Step : World → Label → World → Prop
  | decided {w : World} {now : Int} {principal : Principal} {body : Body} {a : Attempt}
      (h : decide S now principal body w.db w.ledger = a) :
      Step w (.decided now principal body) ⟨a.db, a.ledger, a.db :: w.past⟩
  | lost {w : World} {now : Int} {principal : Principal} {body : Body} {a : Attempt}
      (h : decide S now principal body w.db w.ledger = a) :
      Step w (.lost now principal body) ⟨w.db, a.ledger, w.past⟩
  | guarded {w : World} {fresh : Fresh} {users : List Uuid} {db : Db} {ledger : Ledger}
      (hu : ∀ u ∈ users, (w.db.accounts.get? u).isSome = true) (h : guardBatch S fresh users w.db w.ledger = some (db, ledger)) :
      Step w (.guarded fresh users) ⟨db, ledger, db :: w.past⟩
  | guardLost {w : World} {fresh : Fresh} {users : List Uuid} {db : Db} {ledger : Ledger}
      (hu : ∀ u ∈ users, (w.db.accounts.get? u).isSome = true) (h : guardBatch S fresh users w.db w.ledger = some (db, ledger)) :
      Step w (.guardLost fresh users) ⟨w.db, ledger, w.past⟩
  | restored {w : World} {db : Db} (h : db ∈ w.past) : Step w .restored ⟨db, w.ledger, w.past⟩
  /-- Accounts, devices and sessions are other services' business. -/
  | changed {w : World} {db : Db} (h : Erases w.db db) : Step w .changed ⟨db, w.ledger, db :: w.past⟩

end

/-! ## deciding -/

/-- What a decision that writes has checked, and its ledger. -/
structure Decides (S : Digests) (now : Int) (principal : Principal) (body : Body) (db : Db) (ledger : Ledger)
    (c : Command) (applied : ConsentDecision) (intent : TrainingConsentIntent) (ledger' : Ledger) : Prop where
  command : checkBody S principal body = .ok c
  actor : checkActor db now principal = .ok ()
  fresh : db.operations.get? c.operation = none
  applied_eq : applied = appliedDecision c.decision (db.consents.get? principal.userId)
  decision : intent.decision = applied
  revision : intent.revision = currentRevision (db.consents.get? principal.userId) + 1
  owner : intent.ownerTag = S.ownerTag principal.userId
  device : intent.actorTag = some (S.actorTag principal.deviceId)
  current : c.decision = .granted → currentRevision (db.consents.get? principal.userId) = c.revision
  recorded : (ledger' = ledger ∧ ledger.history.operations.get? c.operation = some intent) ∨
    ledger.record intent = some ledger'

section
variable {S : Digests} {now : Int} {principal : Principal} {body : Body} {db : Db} {ledger ledger' : Ledger}
  {c : Command}

theorem checkActor_ok (h : checkActor db now principal = .ok ()) :
    ∃ account, lockAccount db principal.userId = .ok account ∧ IsActor db now principal account := by
  obtain ⟨account, ha, h⟩ := bind_eq_ok.mp h
  exact ⟨account, ha, require_ok.mp h⟩

theorem lockAccount_ok {userId : Uuid} {account : UserAccountRow} (h : lockAccount db userId = .ok account) :
    db.accounts.get? userId = some account ∧ account.status = "ACTIVE" ∧ account.deletedAt = none := by
  unfold lockAccount at h
  split at h
  · cases h
  · rename_i row hrow
    split at h
    · cases h
    · rename_i hactive
      cases h
      rw [not_or, not_not, not_not] at hactive
      exact ⟨hrow, hactive⟩

theorem checkBody_ok (h : checkBody S principal body = .ok c) :
    body.accountId = some principal.userId ∧ body.operationId = some c.operation ∧
      body.expectedRevision = some c.revision ∧ body.decision = some c.decision ∧
        c.requestHash = S.bodySha256 body := by
  have helim : ∀ {α : Type} {o : Option α} {x : α},
      o.elim (.error .invalid : Except Error α) .ok = .ok x → o = some x := by
    intro α o x hx
    cases o with
    | none => cases hx
    | some y =>
      cases hx
      rfl
  obtain ⟨⟨⟩, -, h⟩ := bind_eq_ok.mp h
  obtain ⟨account, haccount, h⟩ := bind_eq_ok.mp h
  obtain ⟨⟨⟩, hsame, h⟩ := bind_eq_ok.mp h
  obtain ⟨operation, hoperation, h⟩ := bind_eq_ok.mp h
  obtain ⟨revision, hrevision, h⟩ := bind_eq_ok.mp h
  obtain ⟨policy, -, h⟩ := bind_eq_ok.mp h
  obtain ⟨decision, hdecision, h⟩ := bind_eq_ok.mp h
  obtain ⟨⟨⟩, -, h⟩ := bind_eq_ok.mp h
  have hsame := require_ok.mp hsame
  cases h
  refine ⟨?_, helim hoperation, helim hrevision, helim hdecision, rfl⟩
  rw [helim haccount, hsame]

/-- The plan of a decision without a receipt. -/
theorem planNew_ok {p : Plan} (h : planNew S now principal c db ledger.history = .ok p) :
    ∃ applied intent known, p = .perform applied intent known ∧
      applied = appliedDecision c.decision (db.consents.get? principal.userId) ∧
      (c.decision = .granted → currentRevision (db.consents.get? principal.userId) = c.revision) ∧
      ((known = true ∧ ledger.history.operations.get? c.operation = some intent ∧ intent.decision = applied ∧
          intent.revision = currentRevision (db.consents.get? principal.userId) + 1) ∨
        known = false ∧ ledger.history.operations.get? c.operation = none ∧
          currentRevision (db.consents.get? principal.userId) < maxRevision ∧
            (c.decision = .granted → currentRevision (db.consents.get? principal.userId) < maxRevision - 1) ∧
              intent = ⟨S.ownerTag principal.userId, c.operation, some (S.actorTag principal.deviceId),
                c.requestHash, S.viewSha256 (view principal.userId (db.consents.get? principal.userId)), applied,
                  currentRevision (db.consents.get? principal.userId) + 1, now⟩) := by
  unfold planNew at h
  dsimp only at h
  obtain ⟨⟨⟩, hlatest, h⟩ := bind_eq_ok.mp h
  obtain ⟨⟨⟩, hrevision, h⟩ := bind_eq_ok.mp h
  obtain ⟨⟨⟩, -, h⟩ := bind_eq_ok.mp h
  obtain ⟨⟨⟩, hsame, h⟩ := bind_eq_ok.mp h
  have hlatest := require_ok.mp hlatest
  have hrevision := require_ok.mp hrevision
  have hsame := require_ok.mp hsame
  cases h
  refine ⟨_, _, _, rfl, rfl, fun hg => (hrevision.2 hg).1, ?_⟩
  cases hk : ledger.history.operations.get? c.operation with
  | some i => exact Or.inl ⟨rfl, rfl, hsame i hk, (hlatest i hk).2.1⟩
  | none => exact Or.inr ⟨rfl, rfl, hrevision.1, fun hg => (hrevision.2 hg).2, rfl⟩

/-- A repeat answers. -/
theorem replay_ok {receipt : TrainingConsentOperationRow} {p : Plan}
    (h : replay S principal c db ledger.history receipt = .ok p) : ∃ r, p = .answer r := by
  obtain ⟨⟨⟩, -, h⟩ := bind_eq_ok.mp h
  obtain ⟨⟨⟩, -, h⟩ := bind_eq_ok.mp h
  obtain ⟨⟨⟩, -, h⟩ := bind_eq_ok.mp h
  cases h
  exact ⟨_, rfl⟩

/-- **What a decision does**: nothing, or it records its intent and commits its rows. -/
theorem decide_cases (a : Attempt) (h : decide S now principal body db ledger = a) :
    (a.ledger = ledger ∧ a.db = db) ∨
      ∃ c applied intent ledger', Decides S now principal body db ledger c applied intent ledger' ∧
        a = commitRows principal intent applied db ledger' := by
  unfold decide at h
  cases hp : planDecide S now principal body db ledger with
  | error e =>
    rw [hp] at h
    subst h
    exact Or.inl ⟨rfl, rfl⟩
  | ok p =>
    obtain ⟨c, hc, hplan⟩ := bind_eq_ok.mp hp
    obtain ⟨⟨⟩, hactor, hplan⟩ := bind_eq_ok.mp hplan
    obtain ⟨⟨⟩, hknown, hplan⟩ := bind_eq_ok.mp hplan
    have hknown := require_ok.mp hknown
    cases hr : db.operations.get? c.operation with
    | some receipt =>
      rw [hr] at hplan
      obtain ⟨r, rfl⟩ := replay_ok hplan
      rw [hp] at h
      subst h
      exact Or.inl ⟨rfl, rfl⟩
    | none =>
      rw [hr] at hplan
      obtain ⟨applied, intent, known, rfl, happlied, hcurrent, hcase⟩ := planNew_ok hplan
      rw [hp] at h
      rcases hcase with ⟨rfl, hget, hdecision, hrevision⟩ | ⟨rfl, hnone, -, -, hintent⟩
      · obtain ⟨howner, hdevice, -⟩ := hknown intent hget
        exact Or.inr ⟨c, applied, intent, ledger,
          ⟨hc, hactor, hr, happlied, hdecision, hrevision, howner, hdevice, hcurrent, Or.inl ⟨rfl, hget⟩⟩,
            h.symm⟩
      · dsimp only at h
        cases hrec : ledger.record intent with
        | none =>
          rw [hrec] at h
          subst h
          exact Or.inl ⟨rfl, rfl⟩
        | some ledger' =>
          rw [hrec] at h
          subst hintent
          exact Or.inr ⟨c, applied, _, ledger',
            ⟨hc, hactor, hr, happlied, rfl, rfl, rfl, rfl, hcurrent, Or.inr hrec⟩, h.symm⟩

/-- The rows of a decision: none, or the policy and its receipt. -/
theorem commitRows_cases (principal : Principal) (db : Db) (ledger : Ledger) (intent : TrainingConsentIntent) (applied : ConsentDecision) :
    (commitRows principal intent applied db ledger).ledger = ledger ∧
      ((commitRows principal intent applied db ledger).db = db ∨
        ∃ row receipt, row.decision = applied ∧
          row.revision = currentRevision (db.consents.get? principal.userId) + 1 ∧
            (commitRows principal intent applied db ledger).db =
              { db with
                consents := db.consents.set principal.userId row
                operations := db.operations.set intent.operationId receipt }) := by
  unfold commitRows
  dsimp only
  split
  · exact ⟨rfl, Or.inl rfl⟩
  · rename_i row hrow
    refine ⟨rfl, Or.inr ⟨row, _, ?_, ?_, rfl⟩⟩
    · unfold nextRow at hrow
      split at hrow
      · cases hrow
        rfl
      · split at hrow
        · cases hrow
          rfl
        · cases hrow
    · unfold nextRow at hrow
      split at hrow
      · rename_i hnone
        cases hrow
        rw [hnone]
        rfl
      · rename_i r hsome
        split at hrow
        · cases hrow
          rw [hsome]
          rfl
        · cases hrow

end

/-! ## the guard -/

section
variable {S : Digests} {fresh : Fresh} {policies : Dict Uuid TrainingConsentRow}
  {history : TrainingConsentHistory} {s s' : Db × Ledger} {u : Uuid} {row : Option TrainingConsentRow}
  {latest : Option TrainingConsentIntent}

theorem retiredRow_some {now : Int} {row' : TrainingConsentRow} (h : retiredRow row now = some row') :
    row'.decision ≠ .granted ∧ row'.revision = currentRevision row + 1 ∧
      (row = none ∨ currentRevision row < maxRevision) := by
  unfold retiredRow at h
  split at h
  · cases h
    exact ⟨fun h => ConsentDecision.noConfusion h, rfl, Or.inl rfl⟩
  · rename_i r
    split at h
    · rename_i hr
      cases h
      exact ⟨fun h => ConsentDecision.noConfusion h, rfl, Or.inr hr⟩
    · cases h

theorem retiredRow_none {now : Int} (h : retiredRow row now = none) :
    ∃ r, row = some r ∧ maxRevision ≤ r.revision := by
  unfold retiredRow at h
  split at h
  · cases h
  · rename_i r
    split at h
    · cases h
    · rename_i hr
      exact ⟨r, rfl, Int.not_lt.mp hr⟩

/-- What retiring does: a barrier unless the ledger has a refusal, and a private row. -/
structure Retires (S : Digests) (fresh : Fresh) (u : Uuid) (row : Option TrainingConsentRow)
    (latest : Option TrainingConsentIntent) (s s' : Db × Ledger) (decision : ConsentDecision) (now : Int) :
    Prop where
  decision_ne : decision ≠ .granted
  ledger : ((∀ i ∈ latest, i.decision = .granted) ∧ s.2.record (barrier S fresh u row decision now) = some s'.2) ∨
    (∃ i ∈ latest, i.decision ≠ .granted) ∧ s'.2 = s.2
  rows : (∃ row', retiredRow row now = some row' ∧ s'.1 = { s.1 with consents := s.1.consents.set u row' }) ∨
    retiredRow row now = none ∧ s'.1 = s.1

theorem retire_some (h : retire S fresh u row latest s = some s') :
    ∃ decision now, Retires S fresh u row latest s s' decision now := by
  unfold retire at h
  dsimp only at h
  obtain ⟨ledger', hl, h⟩ := Option.map_eq_some_iff.mp h
  refine ⟨if row = none then .denied else .withdrawn,
    row.elim (fresh.now u) fun r => max (fresh.now u) r.changedAt, ?_, ?_, ?_⟩
  · split
    · exact fun h => ConsentDecision.noConfusion h
    · exact fun h => ConsentDecision.noConfusion h
  · split at hl
    · rename_i hgrant
      cases h
      exact Or.inl ⟨hgrant, hl⟩
    · rename_i hgrant
      cases hl
      cases h
      simp only [not_forall] at hgrant
      obtain ⟨i, hi, hne⟩ := hgrant
      exact Or.inr ⟨⟨i, hi, hne⟩, rfl⟩
  · cases h
    dsimp only
    split
    · rename_i row' hrow
      exact Or.inl ⟨row', hrow, rfl⟩
    · rename_i hrow
      exact Or.inr ⟨hrow, rfl⟩

/-- **What one account of a batch comes to.** -/
theorem guardAccount_cases (h : guardAccount S fresh policies history s u = some s') :
    (s' = s ∧ ∀ r, policies.get? u = some r → r.decision = .granted → ProvenGrant S s.1 u r history) ∨
      ((policies.get? u = none → history.latest.get? (S.ownerTag u) ≠ none) ∧
        (∀ r, policies.get? u = some r → r.decision ≠ .granted →
          ∃ i ∈ history.latest.get? (S.ownerTag u), i.decision = .granted) ∧
        ∃ decision now, Retires S fresh u (policies.get? u) (history.latest.get? (S.ownerTag u)) s s' decision now) := by
  unfold guardAccount at h
  dsimp only at h
  split at h
  · rename_i hstays
    cases h
    refine Or.inl ⟨rfl, fun r hr hgranted => ?_⟩
    obtain ⟨-, r', hr', -, hproven⟩ := hstays
    rw [hr] at hr'
    cases hr'
    exact hproven
  · split at h
    · rename_i hprivate
      cases h
      refine Or.inl ⟨rfl, fun r hr hgranted => ?_⟩
      obtain ⟨⟨r', hr', hne⟩, -⟩ := hprivate
      rw [hr] at hr'
      cases hr'
      exact absurd hgranted hne
    · rename_i hprivate
      split at h
      · rename_i hnone
        cases h
        refine Or.inl ⟨rfl, fun r hr _ => ?_⟩
        rw [hnone.1] at hr
        cases hr
      · rename_i hnone
        refine Or.inr ⟨fun hrow hlatest => hnone ⟨hrow, hlatest⟩, fun r hr hne => ?_, retire_some h⟩
        by_contra hno
        refine hprivate ⟨⟨r, hr, hne⟩, fun i hi hgranted => hno ⟨i, hi, hgranted⟩⟩

end

/-! ## the invariant -/

/-- The revisions of the policies are bounded by the length of the ledger. -/
def RowsOk (count : Nat) (db : Db) : Prop :=
  ∀ u row, db.consents.get? u = some row → 0 ≤ row.revision ∧ weight row.decision row.revision ≤ 2 * count

theorem RowsOk.mono {count count' : Nat} {db : Db} (h : RowsOk count db) (hle : count ≤ count') :
    RowsOk count' db := by
  intro u row hrow
  obtain ⟨hpos, hold⟩ := h u row hrow
  exact ⟨hpos, by omega⟩

theorem RowsOk.current {count : Nat} {db : Db} (h : RowsOk count db) (u : Uuid) :
    0 ≤ currentRevision (db.consents.get? u) ∧ currentRevision (db.consents.get? u) ≤ 2 * count := by
  cases hrow : db.consents.get? u with
  | none =>
    show (0 : Int) ≤ 0 ∧ (0 : Int) ≤ 2 * count
    omega
  | some row =>
    obtain ⟨hpos, hold⟩ := h u row hrow
    have hle := (revision_le_weight row.decision row.revision).1
    show 0 ≤ row.revision ∧ row.revision ≤ 2 * count
    omega

/-- Every grant of the ledger was made on a device of its owner. -/
def Authored (S : Digests) (past : List Db) (ledger : Ledger) : Prop :=
  ∀ operation i, ledger.history.operations.get? operation = some i → i.decision = .granted →
    ∃ u d db device, db ∈ past ∧ db.devices.get? d = some device ∧ device.userId = u ∧
      i.ownerTag = S.ownerTag u ∧ i.actorTag = some (S.actorTag d)

structure Inv (S : Digests) (w : World) : Prop where
  current : w.db ∈ w.past
  ledger : LedgerOk w.ledger
  rows : ∀ db ∈ w.past, RowsOk w.ledger.count db
  owned : ∀ db ∈ w.past, Owned db
  authored : Authored S w.past w.ledger

theorem Authored.mono {S : Digests} {past past' : List Db} {ledger : Ledger} (h : Authored S past ledger)
    (hsub : ∀ db ∈ past, db ∈ past') : Authored S past' ledger := by
  intro operation i hi hgranted
  obtain ⟨u, d, db, device, hdb, hrest⟩ := h operation i hi hgranted
  exact ⟨u, d, db, device, hsub db hdb, hrest⟩

section
variable {S : Digests} {fresh : Fresh} {past : List Db} {db : Db} {ledger : Ledger} {s s' : Db × Ledger}
  {users : List Uuid} {u : Uuid}

/-- What a batch keeps, since it read the rows and the history. -/
structure BatchOk (S : Digests) (past : List Db) (db : Db) (ledger : Ledger) (s : Db × Ledger) : Prop where
  kept : LedgerOk s.2
  rows : RowsOk s.2.count s.1
  owned : Owned s.1
  authored : Authored S past s.2
  count : ledger.count ≤ s.2.count
  accounts : s.1.accounts = db.accounts

/-- Retiring keeps the ledger, and its new revision is bounded. -/
theorem retires_ledger {decision : ConsentDecision} {now : Int} (hdb : RowsOk ledger.count db)
    (hledger : LedgerOk ledger) (hok : BatchOk S past db ledger s)
    (hrow : ∀ r, db.consents.get? u = some r → r.decision ≠ .granted →
      ∃ i ∈ ledger.history.latest.get? (S.ownerTag u), i.decision = .granted)
    (h : Retires S fresh u (db.consents.get? u) (ledger.history.latest.get? (S.ownerTag u)) s s' decision now) :
    LedgerOk s'.2 ∧ Authored S past s'.2 ∧ s.2.count ≤ s'.2.count ∧
      ((db.consents.get? u = none ∨ currentRevision (db.consents.get? u) < maxRevision) →
        currentRevision (db.consents.get? u) + 1 ≤ 2 * s'.2.count) := by
  obtain ⟨-, hcur⟩ := hdb.current u
  have hcount := hok.count
  have hmax : (0 : Int) < maxRevision := by decide
  rcases h.ledger with ⟨-, hrec⟩ | ⟨⟨i, hi, hne⟩, hsame⟩
  · have hweight : weight decision (barrier S fresh u (db.consents.get? u) decision now).revision =
        (barrier S fresh u (db.consents.get? u) decision now).revision := weight_of_ne h.decision_ne
    have hrevision : (barrier S fresh u (db.consents.get? u) decision now).revision =
      min (currentRevision (db.consents.get? u) + 1) maxRevision := rfl
    obtain ⟨hok', hbound⟩ := Ledger.record_ok hok.kept hrec (by
      show weight decision _ ≤ _
      rw [hweight, hrevision]
      omega)
    refine ⟨hok', ?_, Ledger.record_count hrec, fun hfits => ?_⟩
    · intro operation i hi hgranted
      rcases Ledger.record_operations hrec hi with hi | rfl
      · exact hok.authored operation i hi hgranted
      · exact absurd hgranted h.decision_ne
    · have hbound : weight decision (barrier S fresh u (db.consents.get? u) decision now).revision ≤
        2 * s'.2.count := hbound
      rw [hweight, hrevision] at hbound
      rcases hfits with hnone | hlt
      · rw [hnone] at hbound ⊢
        have hzero : currentRevision none = 0 := rfl
        have hone : (1 : Int) ≤ maxRevision := by decide
        omega
      · omega
  · -- the ledger has a refusal already, so that the row has a grant to retire, or there is none
    rw [hsame]
    refine ⟨hok.kept, hok.authored, Nat.le_refl _, fun _ => ?_⟩
    obtain ⟨hkey, hop⟩ := hledger.keyed.latest _ i hi
    cases hr : db.consents.get? u with
    | none =>
      have hvalid := (hledger.keyed.operations _ i hop).2
      have hone : 1 ≤ i.revision := hvalid.2.2.2.2.2.1
      have hbound := hledger.bounded _ i hop
      have hle := (revision_le_weight i.decision i.revision).1
      show (0 : Int) + 1 ≤ 2 * s.2.count
      omega
    | some r =>
      by_cases hg : r.decision = .granted
      · have hold := hdb u r hr
        unfold weight at hold
        rw [if_pos hg] at hold
        show r.revision + 1 ≤ 2 * s.2.count
        omega
      · obtain ⟨i', hi', hgranted⟩ := hrow r hr hg
        rw [Option.mem_def.mp hi] at hi'
        cases hi'
        exact absurd hgranted hne

theorem guardAccount_ok (hdb : RowsOk ledger.count db) (hledger : LedgerOk ledger)
    (hu : (db.accounts.get? u).isSome = true) (hok : BatchOk S past db ledger s)
    (h : guardAccount S fresh db.consents ledger.history s u = some s') : BatchOk S past db ledger s' := by
  rcases guardAccount_cases h with ⟨rfl, -⟩ | ⟨-, hrow, decision, now, hret⟩
  · exact hok
  · obtain ⟨hledger', hauthored, hcount, hbound⟩ := retires_ledger hdb hledger hok hrow hret
    have hcount' := hok.count.trans hcount
    rcases hret.rows with ⟨row', hrow', hrows⟩ | ⟨-, hsame⟩
    · obtain ⟨hne, hrevision, hfits⟩ := retiredRow_some hrow'
      refine ⟨hledger', ?_, ?_, hauthored, hcount', by rw [hrows]; exact hok.accounts⟩
      · intro u' row hget
        rw [hrows] at hget
        have hget : (s.1.consents.set u row').get? u' = some row := hget
        rw [Dict.get?_set] at hget
        split at hget
        · cases hget
          obtain ⟨hpos, -⟩ := hdb.current u
          rw [weight_of_ne hne, hrevision]
          exact ⟨by omega, hbound hfits⟩
        · exact (hok.rows.mono hcount) u' row hget
      · intro u' row hget
        rw [hrows] at hget ⊢
        have hget : (s.1.consents.set u row').get? u' = some row := hget
        rw [Dict.get?_set] at hget
        split at hget
        · rename_i hu'
          show (s.1.accounts.get? u').isSome = true
          rw [hu', hok.accounts]
          exact hu
        · exact hok.owned u' row hget
    · refine ⟨hledger', ?_, ?_, hauthored, hcount', by rw [hsame]; exact hok.accounts⟩
      · rw [hsame]
        exact hok.rows.mono hcount
      · rw [hsame]
        exact hok.owned

theorem guardBatch_ok (hdb : RowsOk ledger.count db) (hledger : LedgerOk ledger)
    (hu : ∀ u ∈ users, (db.accounts.get? u).isSome = true) (hok : BatchOk S past db ledger s)
    (h : users.foldlM (guardAccount S fresh db.consents ledger.history) s = some s') :
    BatchOk S past db ledger s' := by
  induction users generalizing s with
  | nil =>
    cases h
    exact hok
  | cons u users ih =>
    rw [List.foldlM_cons] at h
    obtain ⟨s₁, h₁, h⟩ := Option.bind_eq_some_iff.mp h
    exact ih (fun u hu' => hu u (List.mem_cons_of_mem _ hu'))
      (guardAccount_ok hdb hledger (hu u List.mem_cons_self) hok h₁) h

/-- A decision keeps the ledger and the rows. -/
theorem decides_ok {now : Int} {principal : Principal} {body : Body} {c : Command} {applied : ConsentDecision}
    {intent : TrainingConsentIntent} {ledger' : Ledger} (hledger : LedgerOk ledger)
    (hrows : RowsOk ledger.count db) (hmem : db ∈ past) (hauthored : Authored S past ledger)
    (h : Decides S now principal body db ledger c applied intent ledger') :
    LedgerOk ledger' ∧ Authored S past ledger' ∧ ledger.count ≤ ledger'.count ∧
      weight intent.decision intent.revision ≤ 2 * ledger'.count := by
  obtain ⟨-, hcur⟩ := hrows.current principal.userId
  have hle := (revision_le_weight intent.decision intent.revision).2
  have hrevision := h.revision
  rcases h.recorded with ⟨rfl, hget⟩ | hrec
  · exact ⟨hledger, hauthored, Nat.le_refl _, hledger.bounded _ _ hget⟩
  · obtain ⟨hok', hbound⟩ := Ledger.record_ok hledger hrec (by omega)
    refine ⟨hok', ?_, Ledger.record_count hrec, hbound⟩
    intro operation i hi hgranted
    rcases Ledger.record_operations hrec hi with hi | rfl
    · exact hauthored operation i hi hgranted
    · obtain ⟨account, -, -, ⟨device, hdevice, hown, -⟩, -⟩ := checkActor_ok h.actor
      exact ⟨principal.userId, principal.deviceId, db, device, hmem, hdevice, hown, h.owner, h.device⟩

/-- The ledger of an attempt, and the rows if they are committed. -/
theorem decide_ok {now : Int} {principal : Principal} {body : Body} {w : World} (hinv : Inv S w) {a : Attempt}
    (h : decide S now principal body w.db w.ledger = a) :
    LedgerOk a.ledger ∧ Authored S w.past a.ledger ∧ w.ledger.count ≤ a.ledger.count ∧
      RowsOk a.ledger.count a.db ∧ Owned a.db := by
  have hrows := hinv.rows w.db hinv.current
  have howned := hinv.owned w.db hinv.current
  rcases decide_cases a h with ⟨hl, hd⟩ | ⟨c, applied, intent, ledger', hdec, rfl⟩
  · rw [hl, hd]
    exact ⟨hinv.ledger, hinv.authored, Nat.le_refl _, hrows, howned⟩
  · obtain ⟨hledger', hauthored, hcount, hbound⟩ := decides_ok hinv.ledger hrows hinv.current hinv.authored hdec
    obtain ⟨hl, hcase⟩ := commitRows_cases principal w.db ledger' intent applied
    rw [hl]
    refine ⟨hledger', hauthored, hcount, ?_⟩
    rcases hcase with hd | ⟨row, receipt, hdecision, hrevision, hd⟩
    · rw [hd]
      exact ⟨hrows.mono hcount, howned⟩
    · rw [hd]
      refine ⟨fun u' row' hget => ?_, fun u' row' hget => ?_⟩
      · have hget : (w.db.consents.set principal.userId row).get? u' = some row' := hget
        rw [Dict.get?_set] at hget
        split at hget
        · cases hget
          obtain ⟨hpos, -⟩ := hrows.current principal.userId
          refine ⟨by omega, ?_⟩
          rw [hdecision, hrevision, ← hdec.revision, ← hdec.decision]
          exact hbound
        · exact (hrows.mono hcount) u' row' hget
      · have hget : (w.db.consents.set principal.userId row).get? u' = some row' := hget
        rw [Dict.get?_set] at hget
        split at hget
        · rename_i hu'
          obtain ⟨account, hlock, -⟩ := checkActor_ok hdec.actor
          show (w.db.accounts.get? u').isSome = true
          rw [hu', (lockAccount_ok hlock).1]
          rfl
        · exact howned u' row' hget

theorem step_inv {w w' : World} {label : Label} (hinv : Inv S w) (h : Step S w label w') : Inv S w' := by
  have hrows := hinv.rows w.db hinv.current
  have howned := hinv.owned w.db hinv.current
  have hbatch : BatchOk S w.past w.db w.ledger (w.db, w.ledger) :=
    ⟨hinv.ledger, hrows, howned, hinv.authored, Nat.le_refl _, rfl⟩
  cases h with
  | decided h =>
    obtain ⟨hledger, hauthored, hcount, hrows', howned'⟩ := decide_ok hinv h
    refine ⟨List.mem_cons_self, hledger, fun db hdb => ?_, fun db hdb => ?_,
      hauthored.mono fun db hdb => List.mem_cons_of_mem _ hdb⟩
    · rcases List.mem_cons.mp hdb with rfl | hdb
      · exact hrows'
      · exact (hinv.rows db hdb).mono hcount
    · rcases List.mem_cons.mp hdb with rfl | hdb
      · exact howned'
      · exact hinv.owned db hdb
  | lost h =>
    obtain ⟨hledger, hauthored, hcount, -⟩ := decide_ok hinv h
    exact ⟨hinv.current, hledger, fun db hdb => (hinv.rows db hdb).mono hcount, hinv.owned, hauthored⟩
  | guarded hu h =>
    have hok := guardBatch_ok hrows hinv.ledger hu hbatch h
    refine ⟨List.mem_cons_self, hok.kept, fun db hdb => ?_, fun db hdb => ?_,
      hok.authored.mono fun db hdb => List.mem_cons_of_mem _ hdb⟩
    · rcases List.mem_cons.mp hdb with rfl | hdb
      · exact hok.rows
      · exact (hinv.rows db hdb).mono hok.count
    · rcases List.mem_cons.mp hdb with rfl | hdb
      · exact hok.owned
      · exact hinv.owned db hdb
  | guardLost hu h =>
    have hok := guardBatch_ok hrows hinv.ledger hu hbatch h
    exact ⟨hinv.current, hok.kept, fun db hdb => (hinv.rows db hdb).mono hok.count, hinv.owned, hok.authored⟩
  | restored h => exact ⟨h, hinv.ledger, hinv.rows, hinv.owned, hinv.authored⟩
  | changed h =>
    refine ⟨List.mem_cons_self, hinv.ledger, fun db hdb => ?_, fun db hdb => ?_,
      hinv.authored.mono fun db hdb => List.mem_cons_of_mem _ hdb⟩
    · rcases List.mem_cons.mp hdb with rfl | hdb
      · exact fun u row hrow => hrows u row (h.consents u row hrow)
      · exact hinv.rows db hdb
    · rcases List.mem_cons.mp hdb with rfl | hdb
      · exact h.owned
      · exact hinv.owned db hdb

theorem initial_inv (db : Db) : Inv S (World.initial db) := by
  refine ⟨List.mem_singleton.mpr rfl, ⟨⟨?_, ?_⟩, Nat.zero_le _, ?_⟩, ?_, ?_, ?_⟩
  · exact fun id x hx => (by cases hx)
  · exact fun tag x hx => (by cases hx)
  · exact fun operation i hi => (by cases hi)
  · intro db' hdb u row hrow
    rw [List.mem_singleton.mp hdb] at hrow
    cases hrow
  · intro db' hdb u row hrow
    rw [List.mem_singleton.mp hdb] at hrow
    cases hrow
  · exact fun operation i hi => (by cases hi)

/-- **The invariant holds in every run.** -/
theorem run_inv {w : World} {labels : List Label} (p : Path (Step S) (World.initial db) labels w) : Inv S w :=
  p.invariant (fun _ _ _ hinv hs => step_inv hinv hs) (initial_inv db)

/-- Revisions are far below their bound. -/
theorem Inv.revision_lt {w : World} (h : Inv S w) (u : Uuid) :
    currentRevision (w.db.consents.get? u) < maxRevision - 1 := by
  obtain ⟨-, hcur⟩ := (h.rows w.db h.current).current u
  have hcount : w.ledger.count ≤ maxEvents := by
    have hreserved := h.ledger.reserved
    unfold ConsentReserved at hreserved
    omega
  have hsmall : 2 * (maxEvents : Int) < maxRevision - 1 := by decide
  omega

end

end AutPlay.Consent
