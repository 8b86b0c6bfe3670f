import AutPlay.Evidence.Requests

/-!
# The ledger of training consents

Every decision of an owner about training, one after the other; a grant counts while it is the latest of
its owner.

* `applyConsent`       what `_read` makes of one event;
* `recordConsent`      the call;
* `ConsentReserved`    every latest grant has a place for its withdrawal;
* `ConsentLaws`        the laws of the chain, in every run.
-/

set_option linter.unusedSectionVars false

namespace AutPlay.Evidence

open AutPlay.Sync (Uuid)
open AutPlay.Chain

/-! ## events -/

inductive ConsentDecision
  | granted
  | denied
  | withdrawn
  deriving DecidableEq, Repr

structure TrainingConsentIntent where
  ownerTag : String
  operationId : Uuid
  actorTag : Option String
  requestSha256 : String
  previousPolicySha256 : String
  decision : ConsentDecision
  revision : Int
  changedAt : Int
  deriving DecidableEq

/-- A document: its place in the chain, and the fields of its intent. -/
structure ConsentEvent where
  v : Nat
  sequence : Nat
  previous : String
  intent : TrainingConsentIntent
  deriving DecidableEq

/-- The key's tags, and `json.dumps` and `json.loads` on the events. -/
structure ConsentLedger where
  mac : Message String → String
  dumps : ConsentEvent → String
  loads : String → Option ConsentEvent
  loads_dumps : ∀ e, loads (dumps e) = some e

structure TrainingConsentHistory where
  operations : Dict Uuid TrainingConsentIntent
  latest : Dict String TrainingConsentIntent

def maxRevision : Int := 9007199254740991

/-- The checks of `_read` on the fields of one intent. -/
def ValidIntent (intent : TrainingConsentIntent) : Prop :=
  isDigest intent.ownerTag = true ∧ isDigest intent.requestSha256 = true ∧
    isDigest intent.previousPolicySha256 = true ∧ (∀ tag ∈ intent.actorTag, isDigest tag = true) ∧
      (intent.actorTag = none → intent.decision ≠ .granted) ∧ 1 ≤ intent.revision ∧
        intent.revision ≤ maxRevision ∧ (intent.decision = .granted → intent.revision < maxRevision)

instance (intent : TrainingConsentIntent) : Decidable (ValidIntent intent) :=
  inferInstanceAs (Decidable (_ ∧ _ ∧ _ ∧ _ ∧ _ ∧ _ ∧ _ ∧ _))

def withIntent (h : TrainingConsentHistory) (intent : TrainingConsentIntent) : TrainingConsentHistory :=
  ⟨h.operations.set intent.operationId intent, h.latest.set intent.ownerTag intent⟩

/-- The checks of `_read` on the contents of one event. -/
def applyConsent (h : TrainingConsentHistory) (e : ConsentEvent) : Option TrainingConsentHistory :=
  if e.v = 1 ∧ ValidIntent e.intent ∧ h.operations.get? e.intent.operationId = none then
    some (withIntent h e.intent)
  else none

def consentScheme (L : ConsentLedger) : Scheme ConsentEvent String TrainingConsentHistory where
  mac := L.mac
  eventPurpose := "training-consent-event-v1"
  headPurpose := "training-consent-head-v1"
  zero := zero
  dumps := L.dumps
  loads := L.loads
  loads_dumps := L.loads_dumps
  sequenceOf := ConsentEvent.sequence
  previousOf := ConsentEvent.previous
  start := ⟨Dict.empty, Dict.empty⟩
  apply := applyConsent
  capacity := maxEvents
  maxLength := maxDocument

/-! ## the call -/

def isGrant (intent : TrainingConsentIntent) : Bool := intent.decision == .granted

/-- The places that are reserved once the intent is recorded. -/
def reservesAfter (h : TrainingConsentHistory) (intent : TrainingConsentIntent) : Int :=
  h.latest.count isGrant + ((isGrant intent).toNat - ((h.latest.get? intent.ownerTag).any isGrant).toNat : Int)

def consentEvent (n : Nat) (previous : String) (intent : TrainingConsentIntent) : ConsentEvent :=
  { v := 1
    sequence := n + 1
    previous := previous
    intent := intent }

/-- `record`, after the read. -/
def recordConsent (intent : TrainingConsentIntent) (h : TrainingConsentHistory) (n : Nat)
    (previous : String) : Option (Option ConsentEvent × TrainingConsentIntent) :=
  match h.operations.get? intent.operationId with
  | some prior => if prior ≠ intent then none else some (none, prior)
  | none =>
    -- each latest grant, even before its commit, reserves the event that retires it
    if (maxEvents : Int) < n + 1 + reservesAfter h intent then none
    else some (some (consentEvent n previous intent), intent)

/-! ## what an event changes -/

section
variable {h h' : TrainingConsentHistory} {e : ConsentEvent} {n : Nat} {previous : String}
  {intent b : TrainingConsentIntent}

theorem applyConsent_eq_some (ha : applyConsent h e = some h') :
    ValidIntent e.intent ∧ h.operations.get? e.intent.operationId = none ∧ h' = withIntent h e.intent := by
  unfold applyConsent at ha
  split at ha
  · rename_i hok
    cases ha
    exact ⟨hok.2.1, hok.2.2, rfl⟩
  · cases ha

theorem recordConsent_eq_some {o : Option ConsentEvent}
    (hp : recordConsent intent h n previous = some (o, b)) :
    b = intent ∧ ((o = none ∧ h.operations.get? b.operationId = some b) ∨
      o = some (consentEvent n previous b) ∧ h.operations.get? b.operationId = none ∧
        (n : Int) + 1 + reservesAfter h b ≤ maxEvents) := by
  unfold recordConsent at hp
  cases hg : h.operations.get? intent.operationId with
  | some prior =>
    rw [hg] at hp
    dsimp only at hp
    split at hp
    · cases hp
    · rename_i hsame
      have hsame := not_not.mp hsame
      cases hp
      subst hsame
      exact ⟨rfl, Or.inl ⟨rfl, hg⟩⟩
  | none =>
    rw [hg] at hp
    dsimp only at hp
    split at hp
    · cases hp
    · rename_i hroom
      cases hp
      exact ⟨rfl, Or.inr ⟨rfl, hg, Int.not_lt.mp hroom⟩⟩

/-! ## reserved places -/

/-- **Every latest grant has a place** for the event that retires it. -/
def ConsentReserved (h : TrainingConsentHistory) (n : Nat) : Prop := n + h.latest.count isGrant ≤ maxEvents

/-- The history is keyed, and the latest intents are among the operations. -/
structure ConsentKeyed (h : TrainingConsentHistory) : Prop where
  operations : ∀ id x, h.operations.get? id = some x → x.operationId = id ∧ ValidIntent x
  latest : ∀ tag x, h.latest.get? tag = some x →
    x.ownerTag = tag ∧ h.operations.get? x.operationId = some x

theorem consentReserved_step (hp : recordConsent intent h n previous = some (some e, b))
    (ha : applyConsent h e = some h') : ConsentReserved h' (n + 1) := by
  obtain ⟨-, ⟨h₀, -⟩ | ⟨he, -, hroom⟩⟩ := recordConsent_eq_some hp
  · cases h₀
  cases he
  obtain ⟨-, -, rfl⟩ := applyConsent_eq_some ha
  have hcount := Dict.count_set h.latest b.ownerTag b isGrant
  unfold ConsentReserved
  unfold reservesAfter at hroom
  show n + 1 + (h.latest.set b.ownerTag b).count isGrant ≤ maxEvents
  omega

theorem consentKeyed_apply (hk : ConsentKeyed h) (ha : applyConsent h e = some h') : ConsentKeyed h' := by
  obtain ⟨hvalid, hfresh, rfl⟩ := applyConsent_eq_some ha
  refine ⟨fun id x hx => ?_, fun tag x hx => ?_⟩
  · have hx : (h.operations.set e.intent.operationId e.intent).get? id = some x := hx
    rw [Dict.get?_set] at hx
    split at hx
    · rename_i hid
      cases hx
      exact ⟨hid.symm, hvalid⟩
    · exact hk.operations id x hx
  · have hx : (h.latest.set e.intent.ownerTag e.intent).get? tag = some x := hx
    show x.ownerTag = tag ∧ (h.operations.set e.intent.operationId e.intent).get? x.operationId = some x
    rw [Dict.get?_set] at hx
    split at hx
    · rename_i htag
      cases hx
      exact ⟨htag.symm, Dict.get?_set_self h.operations e.intent.operationId e.intent⟩
    · obtain ⟨hkey, hop⟩ := hk.latest tag x hx
      refine ⟨hkey, ?_⟩
      rw [Dict.get?_set_ne]
      · exact hop
      · intro hid
        rw [hid, hfresh] at hop
        cases hop

end

/-! ## the laws -/

/-- **The laws of the chain of consents** in a state of a run. -/
structure ConsentLaws (L : ConsentLedger) (s : Store String) : Prop where
  evident : s.Evident (consentScheme L)
  /-- A call answers with what its file now holds, as one more operation and the latest of its owner; no
  accepted operation changes. -/
  exact : ∀ intent b f, Scheme.call (consentScheme L) (recordConsent intent) s.file = some (b, f) →
    ∃ h h' n d n' d', Scheme.read (consentScheme L) s.file = some (h, n, d) ∧
      Scheme.read (consentScheme L) f = some (h', n', d') ∧ b = intent ∧
        h'.operations.get? b.operationId = some b ∧ (h' = h ∨ h' = withIntent h b) ∧
          ∀ id x, h.operations.get? id = some x → h'.operations.get? id = some x
  /-- A latest grant has a place, and is retired whatever else the chain holds. -/
  reserved : ∀ h n d x,
    Scheme.read (consentScheme L) s.file = some (h, n, d) → h.latest.get? x.ownerTag = some x →
      x.decision = .granted →
        n < maxEvents ∧ ∀ intent, intent.ownerTag = x.ownerTag → intent.decision ≠ .granted →
          ValidIntent intent → h.operations.get? intent.operationId = none →
            (L.dumps (consentEvent n d intent)).length ≤ maxDocument →
              ∃ f, Scheme.call (consentScheme L) (recordConsent intent) s.file = some (intent, f)

section
variable {L : ConsentLedger} {foreign : (consentScheme L).Foreign} {s : Store String}
  {labels : List (Store.Label TrainingConsentIntent TrainingConsentIntent String)}

theorem consent_kept
    (p : Path (Store.Step (consentScheme L) recordConsent foreign)
      (Store.initial (consentScheme L)) labels s) (hmac : Store.Safe (consentScheme L) foreign s) :
    Store.Kept (consentScheme L) foreign (fun h n => ConsentReserved h n ∧ ConsentKeyed h) s := by
  have hstart : ConsentKeyed ⟨Dict.empty, Dict.empty⟩ :=
    ⟨fun id x hx => (by cases hx), fun tag x hx => (by cases hx)⟩
  apply Store.run_kept ⟨Nat.zero_le _, hstart⟩ _ p hmac
  intro intent h n previous d b h' hI hp ha
  exact ⟨consentReserved_step hp ha, consentKeyed_apply hI.2 ha⟩

/-- Recording an intent that retires the owner's grant. -/
theorem recordConsent_retires {h : TrainingConsentHistory} {n : Nat} {d : String}
    {x intent : TrainingConsentIntent} (hroom : ConsentReserved h n)
    (hlatest : h.latest.get? intent.ownerTag = some x) (hx : x.decision = .granted)
    (hdecision : intent.decision ≠ .granted) (hnew : h.operations.get? intent.operationId = none) :
    recordConsent intent h n d = some (some (consentEvent n d intent), intent) := by
  unfold recordConsent
  rw [hnew]
  have hold : ((h.latest.get? intent.ownerTag).any isGrant).toNat = 1 := by
    rw [hlatest]
    show (isGrant x).toNat = 1
    unfold isGrant
    rw [hx]
    rfl
  have hzero : (isGrant intent).toNat = 0 := by
    unfold isGrant
    rw [beq_eq_false_iff_ne.mpr hdecision]
    rfl
  refine if_neg ?_
  unfold reservesAfter
  rw [hold, hzero]
  unfold ConsentReserved at hroom
  omega

/-- **The chain of consents keeps its laws** in every run. -/
theorem consent_laws
    (p : Path (Store.Step (consentScheme L) recordConsent foreign)
      (Store.initial (consentScheme L)) labels s) (hmac : Store.Safe (consentScheme L) foreign s) :
    ConsentLaws L s := by
  have hkept := consent_kept p hmac
  refine ⟨hkept.evident hmac, ?_, ?_⟩
  · intro intent b f hcall
    obtain ⟨h, n, d, hr, ⟨hp, rfl⟩ | ⟨e, h', hp, ha, rfl, hr'⟩⟩ := Scheme.call_eq_some hcall
    · obtain ⟨hb, ⟨-, hget⟩ | ⟨ho, -⟩⟩ := recordConsent_eq_some hp
      · exact ⟨h, h, n, d, n, d, hr, hr, hb, hget, Or.inl rfl, fun id x hx => hx⟩
      · cases ho
    · obtain ⟨hb, ⟨ho, -⟩ | ⟨he, hnew, -⟩⟩ := recordConsent_eq_some hp
      · cases ho
      cases he
      obtain ⟨-, -, rfl⟩ := applyConsent_eq_some ha
      refine ⟨h, withIntent h b, n, d, n + 1, _, hr, hr', hb, ?_, Or.inr rfl, ?_⟩
      · exact Dict.get?_set_self h.operations b.operationId b
      · intro id x hx
        show (h.operations.set b.operationId b).get? id = some x
        rw [Dict.get?_set_ne]
        · exact hx
        · intro hid
          rw [hid, hnew] at hx
          cases hx
  · intro h n d x hr hlatest hx
    obtain ⟨hreserved, -⟩ := hkept.committed hmac hr
    have hgrant : isGrant x = true := beq_iff_eq.mpr hx
    have hpos := Dict.count_pos hlatest hgrant
    have hroom : n < maxEvents := by
      unfold ConsentReserved at hreserved
      omega
    refine ⟨hroom, fun intent htag hdecision hvalid hnew hlength => ?_⟩
    rw [← htag] at hlatest
    have ha : applyConsent h (consentEvent n d intent) = some (withIntent h intent) :=
      if_pos ⟨rfl, hvalid, hnew⟩
    refine ⟨_, Scheme.call_writes hr (recordConsent_retires hreserved hlatest hx hdecision hnew) ?_ ha⟩
    exact ⟨rfl, Nat.succ_le_of_lt hroom, hlength, rfl, rfl, rfl⟩

end

end AutPlay.Evidence
