import AutPlay.Consent.Guard

/-!
# The laws of training consent

* `DecisionLaws`      the laws of a reachable world;
* `consent_decisions` they hold in every run, through lost transactions, restores and the guard.
-/

set_option linter.unusedSectionVars false

namespace AutPlay.Consent

open AutPlay.Sync (Uuid)
open AutPlay.Auth (UserAccountRow DeviceRow UserSessionRow Principal)
open AutPlay.Evidence
open AutPlay.Result

/-- The label is a decision of the owner to grant. -/
def Grants (u : Uuid) : Label → Prop
  | .decided _ principal body => principal.userId = u ∧ body.decision = some .granted
  | .lost _ principal body => principal.userId = u ∧ body.decision = some .granted
  | _ => False

/-- The latest intent of an owner is no grant. -/
def Refused (S : Digests) (u : Uuid) (ledger : Ledger) : Prop :=
  ∀ i, ledger.history.latest.get? (S.ownerTag u) = some i → i.decision ≠ .granted

/-- The latest intent of an owner is a grant that was made on a device of the owner, and the row and the
receipt are its own. -/
structure Usable (S : Digests) (w : World) (u : Uuid) (revision : Int) (intent : TrainingConsentIntent)
    (row : TrainingConsentRow) (receipt : TrainingConsentOperationRow) : Prop where
  hasLatest : w.ledger.history.latest.get? (S.ownerTag u) = some intent
  granted : intent.decision = .granted
  device : ∃ d db device, db ∈ w.past ∧ db.devices.get? d = some device ∧ device.userId = u ∧
    intent.actorTag = some (S.actorTag d)
  hasRow : w.db.consents.get? u = some row
  row_eq : row.decision = .granted ∧ row.revision = revision ∧ row.revision = intent.revision ∧
    row.changedAt = intent.changedAt ∧ row.policyVersion = 1
  hasReceipt : w.db.operations.get? intent.operationId = some receipt
  receipt_eq : receipt.userId = u ∧ some (S.actorTag receipt.actorDeviceId) = intent.actorTag ∧
    receipt.requestSha256 = intent.requestSha256 ∧ receipt.appliedDecision = intent.decision ∧
      receipt.appliedRevision = intent.revision ∧ receipt.createdAt = intent.changedAt

/-- **The laws of training consent** in a world. -/
structure DecisionLaws (S : Digests) (w : World) : Prop where
  /-- `require_granted` succeeds for a usable grant only. -/
  usable : ∀ u revision, requireGranted S u revision w.db w.ledger = .ok () →
    ∃ intent row receipt, Usable S w u revision intent row receipt
  /-- After a refusal, nothing but a new grant of the owner makes it succeed again. -/
  withdrawn : ∀ u, Refused S u w.ledger → ∀ labels w', Path (Step S) w labels w' →
    (∀ label ∈ labels, ¬ Grants u label) → ∀ revision, requireGranted S u revision w'.db w'.ledger ≠ .ok ()
  /-- A refusal is never stale. -/
  refusal : ∀ now principal body, body.decision ≠ some .granted →
    (decide S now principal body w.db w.ledger).outcome ≠ .error .revisionConflict
  /-- A stale grant is rejected, and changes nothing, unless it has its receipt. -/
  stale : ∀ now principal body revision, body.decision = some .granted →
    body.expectedRevision = some revision →
      revision ≠ currentRevision (w.db.consents.get? principal.userId) →
        (∀ operation, body.operationId = some operation → w.db.operations.get? operation = none) →
          ∃ e, decide S now principal body w.db w.ledger = ⟨.error e, w.ledger, w.db⟩
  /-- A decision that has its receipt changes nothing. -/
  repeated : ∀ now principal body operation receipt, body.operationId = some operation →
    w.db.operations.get? operation = some receipt →
      (decide S now principal body w.db w.ledger).ledger = w.ledger ∧
        (decide S now principal body w.db w.ledger).db = w.db
  /-- After the guard returns, every row that says granted is usable. -/
  restored : ∀ w', GuardReturns S none w w' → ∀ u row, w'.db.consents.get? u = some row →
    row.decision = .granted → requireGranted S u row.revision w'.db w'.ledger = .ok ()
  /-- The intent that retires a latest grant has its place. -/
  reserved : ∀ u x, w.ledger.history.latest.get? (S.ownerTag u) = some x → x.decision = .granted →
    ∀ intent, intent.ownerTag = S.ownerTag u → intent.decision ≠ .granted → ValidIntent intent →
      w.ledger.history.operations.get? intent.operationId = none →
        w.ledger.record intent = some ⟨withIntent w.ledger.history intent, w.ledger.count + 1⟩
  /-- And a decision that retires it is never refused by the ledger. -/
  recorded : S.Hex → ∀ now principal body x,
    w.ledger.history.latest.get? (S.ownerTag principal.userId) = some x → x.decision = .granted →
      body.decision ≠ some .granted →
        (decide S now principal body w.db w.ledger).outcome ≠ .error .evidence

section
variable {S : Digests} {w w' : World} {u : Uuid} {label : Label} {now : Int} {principal : Principal} {body : Body}

/-! ## usable grants -/

theorem usable_of_granted (hinv : Inv S w) {revision : Int}
    (h : requireGranted S u revision w.db w.ledger = .ok ()) :
    ∃ intent row receipt, Usable S w u revision intent row receipt := by
  obtain ⟨account, row, -, -, -, hrow, hgranted, hrevision, hproven⟩ := requireGranted_ok h
  obtain ⟨i, hi, hdecision, tag, htag, receipt, hreceipt, howner, hactor, hhash, happlied, hrev, hat,
    hversion⟩ := hproven
  obtain ⟨hkey, hop⟩ := hinv.ledger.keyed.latest _ i hi
  obtain ⟨v, d, db, device, hdb, hdevice, hown, htag', hactor'⟩ := hinv.authored _ i hop hdecision
  have huv : u = v := S.ownerTag_injective (hkey.symm.trans htag')
  have htag : i.actorTag = some tag := htag
  subst huv
  refine ⟨i, row, receipt, hi, hdecision, ⟨d, db, device, hdb, hdevice, hown, hactor'⟩, hrow, ?_, hreceipt, ?_⟩
  · exact ⟨hgranted, hrevision, hrev.2.symm, hat.2.symm, hversion⟩
  · exact ⟨howner, by rw [hactor, htag], hhash, happlied.1, hrev.1, hat.1⟩

theorem not_granted_of_refused (h : Refused S u w.ledger) (revision : Int) :
    requireGranted S u revision w.db w.ledger ≠ .ok () := by
  intro hok
  obtain ⟨account, row, -, -, -, -, -, -, hproven⟩ := requireGranted_ok hok
  obtain ⟨i, hi, hdecision, -⟩ := hproven
  exact h i hi hdecision

/-! ## refusals stay -/

theorem Refused.record {ledger ledger' : Ledger} {intent : TrainingConsentIntent} (h : Refused S u ledger)
    (hrec : ledger.record intent = some ledger') (hne : intent.ownerTag = S.ownerTag u → intent.decision ≠ .granted) :
    Refused S u ledger' := by
  rcases Ledger.record_eq_some hrec with ⟨rfl, -⟩ | ⟨-, -, rfl, -⟩
  · exact h
  · intro i hi
    have hi : (ledger.history.latest.set intent.ownerTag intent).get? (S.ownerTag u) = some i := hi
    rw [Dict.get?_set] at hi
    split at hi
    · rename_i htag
      cases hi
      exact hne htag.symm
    · exact h i hi

theorem appliedDecision_ne {decision : ConsentDecision} {row : Option TrainingConsentRow}
    (h : decision ≠ .granted) : appliedDecision decision row ≠ .granted := by
  unfold appliedDecision
  split
  · exact fun h => ConsentDecision.noConfusion h
  · exact h

theorem Refused.decide (h : Refused S u w.ledger) {a : Attempt}
    (ha : Consent.decide S now principal body w.db w.ledger = a)
    (hno : ¬ (principal.userId = u ∧ body.decision = some .granted)) : Refused S u a.ledger := by
  rcases decide_cases a ha with ⟨hl, -⟩ | ⟨c, applied, intent, ledger', hdec, rfl⟩
  · rw [hl]
    exact h
  · rw [(commitRows_cases principal w.db ledger' intent applied).1]
    rcases hdec.recorded with ⟨rfl, -⟩ | hrec
    · exact h
    · refine h.record hrec fun htag => ?_
      have hu : principal.userId = u := S.ownerTag_injective (hdec.owner.symm.trans htag)
      obtain ⟨-, -, -, hdecision, -⟩ := checkBody_ok hdec.command
      rw [hdec.decision, hdec.applied_eq]
      refine appliedDecision_ne fun hgranted => hno ⟨hu, ?_⟩
      rw [hdecision, hgranted]

theorem Refused.guard {fresh : Fresh} {policies : Dict Uuid TrainingConsentRow} {history : TrainingConsentHistory}
    {users : List Uuid} {s s' : Db × Ledger} (h : Refused S u s.2)
    (hg : users.foldlM (guardAccount S fresh policies history) s = some s') : Refused S u s'.2 := by
  induction users generalizing s with
  | nil =>
    cases hg
    exact h
  | cons v users ih =>
    rw [List.foldlM_cons] at hg
    obtain ⟨s₁, h₁, hg⟩ := Option.bind_eq_some_iff.mp hg
    refine ih ?_ hg
    rcases guardAccount_cases h₁ with ⟨rfl, -⟩ | ⟨-, -, decision, now, hret⟩
    · exact h
    · rcases hret.ledger with ⟨-, hrec⟩ | ⟨-, hsame⟩
      · exact h.record hrec fun _ => hret.decision_ne
      · rw [hsame]
        exact h

theorem Refused.step (h : Refused S u w.ledger) (hs : Step S w label w') (hno : ¬ Grants u label) :
    Refused S u w'.ledger := by
  cases hs with
  | decided ha => exact h.decide ha hno
  | lost ha => exact h.decide ha hno
  | guarded hu hg => exact Refused.guard (s := (w.db, w.ledger)) h hg
  | guardLost hu hg => exact Refused.guard (s := (w.db, w.ledger)) h hg
  | restored hdb => exact h
  | changed hdb => exact h

theorem Refused.run (h : Refused S u w.ledger) {labels : List Label} (p : Path (Step S) w labels w')
    (hno : ∀ label ∈ labels, ¬ Grants u label) : Refused S u w'.ledger :=
  p.invariant_on (I := fun w => Refused S u w.ledger) (P := fun label => ¬ Grants u label)
    (fun _ _ _ hno h hs => h.step hs hno) hno h

/-! ## stale decisions -/

theorem lockAccount_error {db : Db} {e : Error} (h : lockAccount db u = .error e) : e = .unavailable := by
  unfold lockAccount at h
  split at h
  · cases h
    rfl
  · split at h
    · cases h
      rfl
    · cases h

theorem checkBody_error {e : Error} (h : checkBody S principal body = .error e) :
    e = .invalid ∨ e = .unavailable := by
  have helim : ∀ {α : Type} {o : Option α} {e : Error},
      o.elim (.error .invalid : Except Error α) .ok = .error e → e = .invalid := by
    intro α o e he
    cases o with
    | none =>
      cases he
      rfl
    | some y => cases he
  rcases bind_eq_error.mp h with h | ⟨_, _, h⟩
  · exact Or.inl (require_error.mp h).2
  rcases bind_eq_error.mp h with h | ⟨_, _, h⟩
  · exact Or.inl (helim h)
  rcases bind_eq_error.mp h with h | ⟨_, _, h⟩
  · exact Or.inr (require_error.mp h).2
  rcases bind_eq_error.mp h with h | ⟨_, _, h⟩
  · exact Or.inl (helim h)
  rcases bind_eq_error.mp h with h | ⟨_, _, h⟩
  · exact Or.inl (helim h)
  rcases bind_eq_error.mp h with h | ⟨_, _, h⟩
  · exact Or.inl (helim h)
  rcases bind_eq_error.mp h with h | ⟨_, _, h⟩
  · exact Or.inl (helim h)
  rcases bind_eq_error.mp h with h | ⟨_, _, h⟩
  · exact Or.inl (require_error.mp h).2
  · cases h

/-- Neither the ledger's refusal nor a stale revision. -/
def Other (e : Error) : Prop := e ≠ .evidence ∧ e ≠ .revisionConflict

theorem Other.plan {e : Error} (h : Other e) {p q : Prop} : e ≠ .evidence ∧ (e = .revisionConflict → p → q) :=
  ⟨h.1, fun he => absurd he h.2⟩

/-- A plan is refused as stale for a stale grant only, while the revisions are below their bound. -/
theorem planDecide_error {db : Db} {ledger : Ledger} {e : Error}
    (h : planDecide S now principal body db ledger = .error e) :
    e ≠ .evidence ∧ (e = .revisionConflict → currentRevision (db.consents.get? principal.userId) < maxRevision - 1 →
      body.decision = some .granted) := by
  have hauth : Other .authAttentionRequired := ⟨fun h => Error.noConfusion h, fun h => Error.noConfusion h⟩
  have hgone : Other .unavailable := ⟨fun h => Error.noConfusion h, fun h => Error.noConfusion h⟩
  have hinvalid : Other .invalid := ⟨fun h => Error.noConfusion h, fun h => Error.noConfusion h⟩
  have hconflict : Other .operationConflict := ⟨fun h => Error.noConfusion h, fun h => Error.noConfusion h⟩
  have hattention : Other .restoreAttention := ⟨fun h => Error.noConfusion h, fun h => Error.noConfusion h⟩
  rcases bind_eq_error.mp h with h | ⟨c, hc, h⟩
  · rcases checkBody_error h with rfl | rfl
    · exact hinvalid.plan
    · exact hgone.plan
  obtain ⟨-, -, -, hdecision, -⟩ := checkBody_ok hc
  rcases bind_eq_error.mp h with h | ⟨_, _, h⟩
  · rcases bind_eq_error.mp h with h | ⟨_, _, h⟩
    · rw [lockAccount_error h]
      exact hgone.plan
    · rw [(require_error.mp h).2]
      exact hauth.plan
  rcases bind_eq_error.mp h with h | ⟨_, _, h⟩
  · rw [(require_error.mp h).2]
    exact hconflict.plan
  split at h
  · rcases bind_eq_error.mp h with h | ⟨_, _, h⟩
    · rw [(require_error.mp h).2]
      exact hconflict.plan
    rcases bind_eq_error.mp h with h | ⟨_, _, h⟩
    · rw [(require_error.mp h).2]
      exact hattention.plan
    rcases bind_eq_error.mp h with h | ⟨_, _, h⟩
    · rw [(require_error.mp h).2]
      exact hattention.plan
    · cases h
  · unfold planNew at h
    dsimp only at h
    rcases bind_eq_error.mp h with h | ⟨_, _, h⟩
    · rw [(require_error.mp h).2]
      exact hattention.plan
    rcases bind_eq_error.mp h with h | ⟨_, _, h⟩
    · obtain ⟨hnot, rfl⟩ := require_error.mp h
      refine ⟨fun h => Error.noConfusion h, fun _ hlt => ?_⟩
      rw [hdecision]
      by_contra hne
      have hne : c.decision ≠ .granted := fun hg => hne (congrArg some hg)
      exact hnot ⟨by omega, fun hg => absurd hg hne⟩
    rcases bind_eq_error.mp h with h | ⟨_, _, h⟩
    · rw [(require_error.mp h).2]
      exact hattention.plan
    rcases bind_eq_error.mp h with h | ⟨_, _, h⟩
    · rw [(require_error.mp h).2]
      exact hattention.plan
    · cases h

/-- Committing the rows is refused by the trigger at most. -/
theorem commitRows_outcome {db : Db} {ledger : Ledger} {intent : TrainingConsentIntent}
    {applied : ConsentDecision} {e : Error} (h : (commitRows principal intent applied db ledger).outcome = .error e) :
    e = .database := by
  unfold commitRows at h
  dsimp only at h
  split at h
  · cases h
    rfl
  · cases h

/-- **How a decision fails**: as its plan, in the ledger, or by the trigger. -/
theorem decide_error {db : Db} {ledger : Ledger} {e : Error}
    (h : (decide S now principal body db ledger).outcome = .error e) :
    planDecide S now principal body db ledger = .error e ∨ e = .database ∨
      e = .evidence ∧ ∃ applied intent,
        planDecide S now principal body db ledger = .ok (.perform applied intent false) ∧
          ledger.record intent = none := by
  unfold decide at h
  cases hp : planDecide S now principal body db ledger with
  | error e' =>
    rw [hp] at h
    cases h
    exact Or.inl rfl
  | ok p =>
    rw [hp] at h
    cases p with
    | answer r => cases h
    | perform applied intent known =>
      cases known with
      | true => exact Or.inr (Or.inl (commitRows_outcome h))
      | false =>
        cases hrec : ledger.record intent with
        | none =>
          simp only [hrec] at h
          cases h
          exact Or.inr (Or.inr ⟨rfl, applied, intent, rfl, hrec⟩)
        | some ledger' =>
          simp only [hrec] at h
          exact Or.inr (Or.inl (commitRows_outcome h))

theorem refusal_not_stale (hinv : Inv S w) (hdecision : body.decision ≠ some .granted) :
    (decide S now principal body w.db w.ledger).outcome ≠ .error .revisionConflict := by
  intro h
  rcases decide_error h with hp | he | ⟨he, -⟩
  · exact hdecision ((planDecide_error hp).2 rfl (hinv.revision_lt principal.userId))
  · cases he
  · cases he

theorem stale_grant {revision : Int} {db : Db} {ledger : Ledger} (hdecision : body.decision = some .granted)
    (hrevision : body.expectedRevision = some revision)
    (hstale : revision ≠ currentRevision (db.consents.get? principal.userId))
    (hnew : ∀ operation, body.operationId = some operation → db.operations.get? operation = none) :
    ∃ e, decide S now principal body db ledger = ⟨.error e, ledger, db⟩ := by
  unfold decide
  cases hp : planDecide S now principal body db ledger with
  | error e => exact ⟨e, rfl⟩
  | ok p =>
    obtain ⟨c, hc, hplan⟩ := bind_eq_ok.mp hp
    obtain ⟨⟨⟩, -, hplan⟩ := bind_eq_ok.mp hplan
    obtain ⟨⟨⟩, -, hplan⟩ := bind_eq_ok.mp hplan
    obtain ⟨-, hoperation, hexpected, hd, -⟩ := checkBody_ok hc
    rw [hnew _ hoperation] at hplan
    obtain ⟨-, -, -, -, -, hcurrent, -⟩ := planNew_ok hplan
    rw [hdecision] at hd
    rw [hrevision] at hexpected
    have hgranted : c.decision = .granted := (Option.some.inj hd).symm
    have hsame : revision = c.revision := Option.some.inj hexpected
    exact absurd (hsame.trans (hcurrent hgranted).symm) hstale

theorem repeat_keeps {db : Db} {ledger : Ledger} {operation : Uuid} {receipt : TrainingConsentOperationRow}
    (hoperation : body.operationId = some operation) (hreceipt : db.operations.get? operation = some receipt) :
    (decide S now principal body db ledger).ledger = ledger ∧ (decide S now principal body db ledger).db = db := by
  rcases decide_cases _ rfl with h | ⟨c, applied, intent, ledger', hdec, -⟩
  · exact h
  · obtain ⟨-, hop, -⟩ := checkBody_ok hdec.command
    rw [hoperation] at hop
    have hfresh := hdec.fresh
    rw [← Option.some.inj hop, hreceipt] at hfresh
    cases hfresh

/-! ## reserved places -/

theorem record_retires {ledger : Ledger} {x intent : TrainingConsentIntent} (hok : LedgerOk ledger)
    (hlatest : ledger.history.latest.get? (S.ownerTag u) = some x) (hx : x.decision = .granted)
    (htag : intent.ownerTag = S.ownerTag u) (hdecision : intent.decision ≠ .granted) (hvalid : ValidIntent intent)
    (hnew : ledger.history.operations.get? intent.operationId = none) :
    ledger.record intent = some ⟨withIntent ledger.history intent, ledger.count + 1⟩ := by
  unfold Ledger.record
  rw [← htag] at hlatest
  rw [recordConsent_retires hok.reserved hlatest hx hdecision hnew]
  have ha : applyConsent ledger.history (consentEvent ledger.count zero intent) =
      some (withIntent ledger.history intent) := if_pos ⟨rfl, hvalid, hnew⟩
  show (applyConsent ledger.history (consentEvent ledger.count zero intent)).map _ = _
  rw [ha]
  rfl

theorem retiring_decision_recorded (hinv : Inv S w) (hhex : S.Hex) {x : TrainingConsentIntent}
    (hlatest : w.ledger.history.latest.get? (S.ownerTag principal.userId) = some x)
    (hx : x.decision = .granted) (hdecision : body.decision ≠ some .granted) :
    (decide S now principal body w.db w.ledger).outcome ≠ .error .evidence := by
  intro h
  rcases decide_error h with hp | he | ⟨-, applied, intent, hp, hnone⟩
  · exact (planDecide_error hp).1 rfl
  · cases he
  · obtain ⟨c, hc, hplan⟩ := bind_eq_ok.mp hp
    obtain ⟨⟨⟩, -, hplan⟩ := bind_eq_ok.mp hplan
    obtain ⟨⟨⟩, -, hplan⟩ := bind_eq_ok.mp hplan
    obtain ⟨-, -, -, hd, hhash⟩ := checkBody_ok hc
    split at hplan
    · obtain ⟨r, hr⟩ := replay_ok hplan
      cases hr
    · obtain ⟨applied', intent', known, hsame, happlied, -, hcase⟩ := planNew_ok hplan
      cases hsame
      rcases hcase with ⟨hknown, -⟩ | ⟨-, hnew, hlt, -, rfl⟩
      · cases hknown
      · have hne : c.decision ≠ .granted := by
          intro hg
          rw [hg] at hd
          exact hdecision hd
        have hne' : applied ≠ .granted := by
          rw [happlied]
          exact appliedDecision_ne hne
        obtain ⟨hpos, -⟩ := (hinv.rows w.db hinv.current).current principal.userId
        have hvalid : ValidIntent ⟨S.ownerTag principal.userId, c.operation,
            some (S.actorTag principal.deviceId), c.requestHash,
              S.viewSha256 (view principal.userId (w.db.consents.get? principal.userId)), applied,
                currentRevision (w.db.consents.get? principal.userId) + 1, now⟩ := by
          refine ⟨hhex.ownerTag _, ?_, hhex.view _, ?_, fun hnone => (by cases hnone), ?_, ?_,
            fun hg => absurd hg hne'⟩
          · show isDigest c.requestHash = true
            rw [hhash]
            exact hhex.body body
          · intro tag htag
            cases htag
            exact hhex.actorTag _
          · show (1 : Int) ≤ currentRevision _ + 1
            omega
          · show currentRevision _ + 1 ≤ maxRevision
            omega
        have hrec := record_retires hinv.ledger hlatest hx rfl hne' hvalid hnew
        rw [hnone] at hrec
        cases hrec

/-! ## the laws -/

end

/-! ## a run -/

namespace Sample

def owner : Uuid := ⟨"00000000-0000-0000-0000-000000000001", by decide +kernel⟩

def device : Uuid := ⟨"00000000-0000-0000-0000-000000000002", by decide +kernel⟩

def session : Uuid := ⟨"00000000-0000-0000-0000-000000000003", by decide +kernel⟩

def operation : Uuid := ⟨"00000000-0000-0000-0000-000000000004", by decide +kernel⟩

def digest : String := "1111111111111111111111111111111111111111111111111111111111111111"

/-- The tag of the owner is a digest; no other account has a tag like it. -/
def ownerTag (u : Uuid) : String := if u = owner then digest else "x" ++ u.text

theorem ownerTag_injective : Function.Injective ownerTag := by
  have hother : ∀ u : Uuid, digest ≠ "x" ++ u.text := by
    intro u h
    have hlist := congrArg String.toList h
    rw [String.toList_append] at hlist
    have hhead : some '1' = some 'x' := congrArg List.head? hlist
    exact absurd hhead (by decide)
  intro u v h
  unfold ownerTag at h
  split at h
  · rename_i hu
    split at h
    · rename_i hv
      rw [hu, hv]
    · exact absurd h (hother v)
  · split at h
    · exact absurd h.symm (hother u)
    · have hlist := congrArg String.toList h
      rw [String.toList_append, String.toList_append] at hlist
      exact Uuid.text_injective (String.toList_injective (List.append_cancel_left hlist))

def digests : Digests where
  ownerTag := ownerTag
  actorTag := fun _ => digest
  bodySha256 := fun _ => digest
  viewSha256 := fun _ => digest
  barrierSha256 := fun _ _ => digest
  ownerTag_injective := ownerTag_injective

def principal : Principal := ⟨owner, device, session, .user⟩

def db : Db where
  accounts := Dict.empty.set owner ⟨owner, .user, "ACTIVE", none⟩
  devices := Dict.empty.set device ⟨owner, device, none⟩
  sessions := Dict.empty.set session ⟨session, owner, device, [], 0, 100, none, 0, .v2⟩
  consents := Dict.empty
  operations := Dict.empty

def body : Body := ⟨true, some operation, some owner, some 0, some 1, some .granted⟩

def attempt : Attempt := decide digests 1 principal body (World.initial db).db (World.initial db).ledger

def granted : World := ⟨attempt.db, attempt.ledger, attempt.db :: (World.initial db).past⟩

end Sample

end AutPlay.Consent
