import Mathlib.Data.Countable.Basic
import Mathlib.Data.List.Basic
import Mathlib.Logic.Equiv.List
import AutPlay.Evidence.Consent

/-!
# The evidence ledgers

The three chains together: each is a prefix that shows tampering, and none rejects what it wrote.
-/

set_option linter.unusedSectionVars false

namespace AutPlay.Evidence

open AutPlay.Sync (Uuid)
open AutPlay.Chain

section
variable {D : DeletionLedger} {R : RequestLedger} {C : ConsentLedger}
  {foreignD : (deletionScheme D).Foreign} {foreignR : (requestScheme R).Foreign}
  {foreignC : (consentScheme C).Foreign} {d r c : Store String}
  {labelsD : List (Store.Label DeletionCall DeletionEvidence String)}
  {labelsR : List (Store.Label (DeletionRequestEvidence × Bool) DeletionRequestEvidence String)}
  {labelsC : List (Store.Label TrainingConsentIntent TrainingConsentIntent String)}

/-- **The evidence ledgers are prefixes that show tampering, and never reject their own writes**, in every
run of calls and of an adversary who puts the files together from their past. -/
theorem ledgers_keep_laws
    (deletions : Path (Store.Step (deletionScheme D) (deletionPlan D) foreignD)
      (Store.initial (deletionScheme D)) labelsD d)
    (requests : Path (Store.Step (requestScheme R) requestRecord foreignR)
      (Store.initial (requestScheme R)) labelsR r)
    (consents : Path (Store.Step (consentScheme C) recordConsent foreignC)
      (Store.initial (consentScheme C)) labelsC c)
    (macD : Store.Safe (deletionScheme D) foreignD d) (macR : Store.Safe (requestScheme R) foreignR r)
    (macC : Store.Safe (consentScheme C) foreignC c) :
    DeletionLaws D d ∧ RequestLaws R r ∧ ConsentLaws C c :=
  ⟨deletion_laws deletions macD, request_laws requests macR, consent_laws consents macC⟩

end

/-! ## one run of each -/

namespace Sample

/-- Tags by a table of the messages that are tagged. -/
def mac (messages : List (Message String)) (m : Message String) : String :=
  String.ofList (List.replicate (messages.idxOf m) '1')

theorem mac_noForgery (messages : List (Message String)) :
    NoForgery (mac messages) (fun m => m ∈ messages) := by
  intro m m' hm h
  unfold mac at h
  have hlist := congrArg String.toList h
  rw [String.toList_ofList, String.toList_ofList] at hlist
  have hidx := congrArg List.length hlist
  rw [List.length_replicate, List.length_replicate] at hidx
  exact (((List.idxOf_inj hm).mp hidx.symm)).symm

section
variable {δ : Type} [DecidableEq δ] [Countable δ]

/-- The text of one event is short; those of the others tell them apart. -/
noncomputable def dumps (first d : δ) : String :=
  if d = first then "0" else String.ofList (List.replicate ((exists_injective_nat δ).choose d) '1')

theorem dumps_injective (first : δ) : Function.Injective (dumps first) := by
  intro a b h
  have hshort : ∀ n, "0" ≠ String.ofList (List.replicate n '1') := by
    intro n hn
    have hlist := congrArg String.toList hn
    rw [String.toList_ofList, String.toList_ofList] at hlist
    have hmem : '0' ∈ List.replicate n '1' := by
      rw [← hlist]
      exact List.mem_singleton.mpr rfl
    exact absurd (List.eq_of_mem_replicate hmem) (by decide)
  unfold dumps at h
  split at h
  · rename_i ha
    split at h
    · rename_i hb
      rw [ha, hb]
    · exact absurd h (hshort _)
  · split at h
    · exact absurd h.symm (hshort _)
    · have hlist := congrArg String.toList h
      rw [String.toList_ofList, String.toList_ofList] at hlist
      have hlength := congrArg List.length hlist
      rw [List.length_replicate, List.length_replicate] at hlength
      exact (exists_injective_nat δ).choose_spec hlength

open Classical in
noncomputable def loads (first : δ) (text : String) : Option δ :=
  if h : ∃ d, dumps first d = text then some h.choose else none

theorem loads_dumps (first d : δ) : loads first (dumps first d) = some d := by
  unfold loads
  have h : ∃ d', dumps first d' = dumps first d := ⟨d, rfl⟩
  rw [dif_pos h]
  exact congrArg some (dumps_injective first h.choose_spec)

end

section
variable {δ ρ α β : Type}

/-- What the owner signs who writes one entry, with tags by the table. -/
def messages (eventPurpose headPurpose : String) : List (Message String) :=
  [.head headPurpose 0 zero, .event eventPurpose "0", .head headPurpose 1 "1"]

/-- No other chain has the key. -/
def alone (S : Scheme δ String ρ) : S.Foreign := ⟨fun _ => False, fun _ _ h => h⟩

/-- One entry was written; then the file was put back. -/
def restored (S : Scheme δ String ρ) (d : δ) : Store String := ⟨S.empty, [S.extend S.empty 0 d, S.empty]⟩

/-- A first call writes its entry; then the adversary drops it. -/
theorem restored_run {S : Scheme δ String ρ} {plan : α → ρ → Nat → String → Option (Option δ × β)} {a : α}
    {b : β} {d : δ} {r : ρ} (hp : plan a S.start 0 S.zero = some (some d, b))
    (hf : S.Fits 0 S.zero (S.entryOf 0 d) d) (ha : S.apply S.start d = some r) :
    Path (Store.Step S plan (alone S)) (Store.initial S) [.served a b, .tampered] (restored S d) := by
  have hserved : Store.Step S plan (alone S) (Store.initial S) (.served a b)
      ⟨S.extend S.empty 0 d, [S.extend S.empty 0 d, S.empty]⟩ :=
    .served (Scheme.call_writes Scheme.read_empty hp hf ha)
  refine .cons hserved (.cons (.tampered fun h hh => ?_) (.nil _))
  refine ⟨.head S.headPurpose h.sequence h.digest, Or.inl ⟨S.empty, ?_, Or.inr ⟨h, hh, rfl⟩⟩, ?_⟩
  · exact List.mem_cons_of_mem _ (List.mem_singleton.mpr rfl)
  · rw [List.mem_singleton.mp hh]
    rfl

/-- The tags of that run are made by the table. -/
theorem restored_safe {S : Scheme δ String ρ} {d : δ}
    (hmac : S.mac = mac (messages S.eventPurpose S.headPurpose)) (hzero : S.zero = zero)
    (htext : S.dumps d = "0") (htag : S.eventMac "0" = "1") :
    Store.Safe S (alone S) (restored S d) := by
  intro m m' hm h
  rw [hmac] at h
  refine mac_noForgery (messages S.eventPurpose S.headPurpose) m m' ?_ h
  rcases hm with ⟨g, hg, hgm⟩ | hfalse
  · rcases List.mem_cons.mp hg with rfl | hg
    · rcases hgm with ⟨e, he, rfl⟩ | ⟨h', hh', rfl⟩
      · rw [List.mem_singleton.mp he]
        show Message.event S.eventPurpose (S.dumps d) ∈ _
        rw [htext]
        exact List.mem_cons_of_mem _ List.mem_cons_self
      · rw [List.mem_singleton.mp hh']
        show Message.head S.headPurpose 1 (S.eventMac (S.dumps d)) ∈ _
        rw [htext, htag]
        exact List.mem_cons_of_mem _ (List.mem_cons_of_mem _ List.mem_cons_self)
    · rw [List.mem_singleton.mp hg] at hgm
      rcases hgm with ⟨e, he, -⟩ | ⟨h', hh', rfl⟩
      · cases he
      · rw [List.mem_singleton.mp hh']
        show Message.head S.headPurpose 0 S.zero ∈ _
        rw [hzero]
        exact List.mem_cons_self
  · exact hfalse.elim

end

/-! ### the three chains -/

instance countableChar : Countable Char :=
  Function.Injective.countable (f := Char.toNat) fun _ _ h => Char.toNat_inj.mp h

instance countableString : Countable String :=
  Function.Injective.countable (f := String.toList) fun _ _ h => String.toList_injective h

instance countableUuid : Countable Uuid := Uuid.text_injective.countable

instance countableDeletionEvent : Countable DeletionEvent :=
  Function.Injective.countable
    (f := fun e : DeletionEvent => (e.v, e.sequence, e.previous, e.kind == .prepared, e.ownerTag, e.requestId,
      e.at_, e.removedRows)) (by
    intro e e' h
    cases e with
    | mk v sequence previous kind ownerTag requestId at_ removedRows =>
      cases e' with
      | mk v' sequence' previous' kind' ownerTag' requestId' at_' removedRows' =>
        simp only [Prod.mk.injEq] at h
        obtain ⟨rfl, rfl, rfl, hkind, rfl, rfl, rfl, rfl⟩ := h
        cases kind <;> cases kind' <;> first | rfl | cases hkind)

instance countableRequestEvent : Countable RequestEvent :=
  Function.Injective.countable
    (f := fun e : RequestEvent => ((e.v, e.sequence, e.previous),
      (e.item.ownerTag, e.item.requestId, e.item.requestSha256, e.item.receiptSha256,
        e.item.decision == .attempted, e.item.decidedAt),
      e.item.cancelOperationId, e.item.cancelRequestSha256, e.item.cancelledAt)) (by
    intro e e' h
    rcases e with ⟨v, sequence, previous, ⟨tag, id, sha, receipt, decision, decidedAt, c, csha, cat⟩⟩
    rcases e' with ⟨v', sequence', previous', ⟨tag', id', sha', receipt', decision', decidedAt', c', csha', cat'⟩⟩
    simp only [Prod.mk.injEq] at h
    obtain ⟨⟨rfl, rfl, rfl⟩, ⟨rfl, rfl, rfl, rfl, hdecision, rfl⟩, rfl, rfl, rfl⟩ := h
    cases decision <;> cases decision' <;> first | rfl | cases hdecision)

instance countableConsentEvent : Countable ConsentEvent :=
  Function.Injective.countable
    (f := fun e : ConsentEvent => ((e.v, e.sequence, e.previous),
      (e.intent.ownerTag, e.intent.operationId, e.intent.actorTag, e.intent.requestSha256,
        e.intent.previousPolicySha256, e.intent.decision == .granted, e.intent.decision == .denied),
      e.intent.revision, e.intent.changedAt)) (by
    intro e e' h
    rcases e with ⟨v, sequence, previous, ⟨tag, id, actor, sha, policy, decision, revision, at_⟩⟩
    rcases e' with ⟨v', sequence', previous', ⟨tag', id', actor', sha', policy', decision', revision', at_'⟩⟩
    simp only [Prod.mk.injEq] at h
    obtain ⟨⟨rfl, rfl, rfl⟩, ⟨rfl, rfl, rfl, rfl, rfl, hgranted, hdenied⟩, rfl, rfl⟩ := h
    cases decision <;> cases decision' <;>
      first | rfl | exact absurd hgranted (by decide) | exact absurd hdenied (by decide))

def userId : Uuid := ⟨"00000000-0000-0000-0000-000000000001", Eq.refl true⟩

def digest : String := "1111111111111111111111111111111111111111111111111111111111111111"

def prepared : DeletionEvent := preparedEvent 0 zero digest userId 5

noncomputable def deletionLedger : DeletionLedger where
  mac := mac (messages "privacy-ledger-event-v1" "privacy-ledger-head-v1")
  ownerTag := fun _ => digest
  dumps := dumps prepared
  loads := loads prepared
  loads_dumps := loads_dumps prepared

def attempt : DeletionRequestEvidence := ⟨digest, userId, digest, digest, .attempted, 5, none, none, none⟩

noncomputable def requestLedger : RequestLedger where
  mac := mac (messages "privacy-request-event-v1" "privacy-request-head-v1")
  dumps := dumps (requestEvent 0 zero attempt)
  loads := loads (requestEvent 0 zero attempt)
  loads_dumps := loads_dumps (requestEvent 0 zero attempt)

def grant : TrainingConsentIntent := ⟨digest, userId, some digest, digest, digest, .granted, 1, 5⟩

noncomputable def consentLedger : ConsentLedger where
  mac := mac (messages "training-consent-event-v1" "training-consent-head-v1")
  dumps := dumps (consentEvent 0 zero grant)
  loads := loads (consentEvent 0 zero grant)
  loads_dumps := loads_dumps (consentEvent 0 zero grant)

theorem dumps_first {δ : Type} [DecidableEq δ] [Countable δ] (first : δ) : dumps first first = "0" := by
  unfold dumps
  exact if_pos rfl

theorem fits_first {δ ρ : Type} {S : Scheme δ String ρ} {d : δ} (htext : S.dumps d = "0")
    (hcapacity : 1 ≤ S.capacity) (hlength : 1 ≤ S.maxLength) (hseq : S.sequenceOf d = 1)
    (hprev : S.previousOf d = S.zero) : S.Fits 0 S.zero (S.entryOf 0 d) d := by
  refine ⟨rfl, hcapacity, ?_, rfl, hseq, hprev⟩
  show (S.dumps d).length ≤ S.maxLength
  rw [htext]
  exact hlength

end Sample

/-- The laws after one event of each chain was written, and dropped by the adversary. -/
theorem ledgers_keep_laws_restored :
    DeletionLaws Sample.deletionLedger (Sample.restored (deletionScheme Sample.deletionLedger) Sample.prepared) ∧
      RequestLaws Sample.requestLedger
        (Sample.restored (requestScheme Sample.requestLedger) (requestEvent 0 zero Sample.attempt)) ∧
      ConsentLaws Sample.consentLedger
        (Sample.restored (consentScheme Sample.consentLedger) (consentEvent 0 zero Sample.grant)) := by
  have textD : Sample.deletionLedger.dumps Sample.prepared = "0" := Sample.dumps_first Sample.prepared
  have textR : Sample.requestLedger.dumps (requestEvent 0 zero Sample.attempt) = "0" :=
    Sample.dumps_first (requestEvent 0 zero Sample.attempt)
  have textC : Sample.consentLedger.dumps (consentEvent 0 zero Sample.grant) = "0" :=
    Sample.dumps_first (consentEvent 0 zero Sample.grant)
  have planD : deletionPlan Sample.deletionLedger (.prepare Sample.userId Sample.userId 5 true) Dict.empty 0 zero =
    some (some Sample.prepared, ⟨Sample.digest, Sample.userId, 5, none, none⟩) := rfl
  have planR : requestRecord (Sample.attempt, true) ⟨Dict.empty, []⟩ 0 zero =
    some (some (requestEvent 0 zero Sample.attempt), Sample.attempt) := rfl
  have planC : recordConsent Sample.grant ⟨Dict.empty, Dict.empty⟩ 0 zero =
    some (some (consentEvent 0 zero Sample.grant), Sample.grant) := rfl
  have deletions := Sample.restored_run (S := deletionScheme Sample.deletionLedger) planD
    (Sample.fits_first textD (by decide) (by decide) rfl rfl) rfl
  have requests := Sample.restored_run (S := requestScheme Sample.requestLedger) planR
    (Sample.fits_first textR (by decide) (by decide) rfl rfl) rfl
  have consents := Sample.restored_run (S := consentScheme Sample.consentLedger) planC
    (Sample.fits_first textC (by decide) (by decide) rfl rfl) rfl
  exact ledgers_keep_laws deletions requests consents
    (Sample.restored_safe rfl rfl textD (by decide)) (Sample.restored_safe rfl rfl textR (by decide))
    (Sample.restored_safe rfl rfl textC (by decide))

end AutPlay.Evidence
