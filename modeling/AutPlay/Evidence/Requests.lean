import AutPlay.Evidence.Deletion

/-!
# The ledger of deletion requests

The decisions on deletion requests: an attempt may be cancelled once, within thirty days; a sealed
request stays sealed.

* `applyRequest`       what `_request_read` makes of one event;
* `requestRecord`      the call;
* `RequestReserved`    every uncancelled attempt has a place for its cancellation;
* `RequestLaws`        the laws of the chain, in every run.
-/

set_option linter.unusedSectionVars false

namespace AutPlay.Evidence

open AutPlay.Sync (Uuid)
open AutPlay.Chain

/-! ## events -/

inductive RequestDecision
  | attempted
  | sealed_
  deriving DecidableEq, Repr

structure DeletionRequestEvidence where
  ownerTag : String
  requestId : Uuid
  requestSha256 : String
  receiptSha256 : String
  decision : RequestDecision
  decidedAt : Int
  cancelOperationId : Option Uuid
  cancelRequestSha256 : Option String
  cancelledAt : Option Int
  deriving DecidableEq

/-- A document: its place in the chain, and the fields of its evidence. -/
structure RequestEvent where
  v : Nat
  sequence : Nat
  previous : String
  item : DeletionRequestEvidence
  deriving DecidableEq

/-- The key's tags, and `json.dumps` and `json.loads` on the events. -/
structure RequestLedger where
  mac : Message String → String
  dumps : RequestEvent → String
  loads : String → Option RequestEvent
  loads_dumps : ∀ e, loads (dumps e) = some e

/-- `records` and `cancel_operations` -/
structure RequestHistory where
  records : Dict Uuid DeletionRequestEvidence
  cancelOperations : List Uuid

/-- `timedelta(days=30)` -/
def cancelWindow : Int := 30 * 86400 * 1000000

/-- The evidence of the attempt that was cancelled. -/
def uncancelled (item : DeletionRequestEvidence) : DeletionRequestEvidence :=
  { item with cancelOperationId := none, cancelRequestSha256 := none, cancelledAt := none }

/-- The fields of an event that name no cancellation. -/
def WellFormed (item : DeletionRequestEvidence) : Prop :=
  isDigest item.ownerTag = true ∧ isDigest item.requestSha256 = true ∧
    isDigest item.receiptSha256 = true ∧ item.receiptSha256 ≠ zero

instance (item : DeletionRequestEvidence) : Decidable (WellFormed item) :=
  inferInstanceAs (Decidable (_ ∧ _ ∧ _ ∧ _))

/-- The checks on a cancellation with the identifier `c`. -/
def Cancels (h : RequestHistory) (item : DeletionRequestEvidence) (c : Uuid) : Prop :=
  item.decision = .attempted ∧ (∃ sha ∈ item.cancelRequestSha256, isDigest sha = true) ∧
    (∃ t ∈ item.cancelledAt, item.decidedAt ≤ t ∧ t < item.decidedAt + cancelWindow) ∧
      c ≠ item.requestId ∧ h.records.get? c = none ∧ c ∉ h.cancelOperations

instance (h : RequestHistory) (item : DeletionRequestEvidence) (c : Uuid) : Decidable (Cancels h item c) :=
  inferInstanceAs (Decidable (_ ∧ _ ∧ _ ∧ _ ∧ _ ∧ _))

/-- An event that decides: the first of its operation. -/
def decideEvent (h : RequestHistory) (item : DeletionRequestEvidence) : Option RequestHistory :=
  if item.cancelRequestSha256 = none ∧ item.cancelledAt = none ∧ h.records.get? item.requestId = none then
    some { h with records := h.records.set item.requestId item }
  else none

/-- An event that cancels: the second of an attempt, with the same evidence. -/
def cancelEvent (h : RequestHistory) (item : DeletionRequestEvidence) (c : Uuid) : Option RequestHistory :=
  if Cancels h item c ∧ ∃ prior ∈ h.records.get? item.requestId,
      prior.decision = .attempted ∧ prior.cancelOperationId = none ∧ uncancelled item = prior then
    some ⟨h.records.set item.requestId item, c :: h.cancelOperations⟩
  else none

/-- The checks of `_request_read` on the contents of one event. -/
def applyRequest (h : RequestHistory) (e : RequestEvent) : Option RequestHistory :=
  if e.v = 1 ∧ WellFormed e.item ∧ e.item.requestId ∉ h.cancelOperations then
    match e.item.cancelOperationId with
    | none => decideEvent h e.item
    | some c => cancelEvent h e.item c
  else none

def requestScheme (L : RequestLedger) : Scheme RequestEvent String RequestHistory where
  mac := L.mac
  eventPurpose := "privacy-request-event-v1"
  headPurpose := "privacy-request-head-v1"
  zero := zero
  dumps := L.dumps
  loads := L.loads
  loads_dumps := L.loads_dumps
  sequenceOf := RequestEvent.sequence
  previousOf := RequestEvent.previous
  start := ⟨Dict.empty, []⟩
  apply := applyRequest
  capacity := maxEvents
  maxLength := maxDocument

/-! ## the call -/

/-- An attempt that may still be cancelled. -/
def isOpen (item : DeletionRequestEvidence) : Bool :=
  item.decision == .attempted && item.cancelOperationId.isNone

/-- The places that are reserved once the evidence is recorded. -/
def reservesWith (h : RequestHistory) (evidence : DeletionRequestEvidence) : Int :=
  if h.records.get? evidence.requestId = none then
    h.records.count isOpen + (evidence.decision == .attempted).toNat
  else if evidence.cancelOperationId ≠ none then h.records.count isOpen - 1
  else h.records.count isOpen

def requestEvent (n : Nat) (previous : String) (evidence : DeletionRequestEvidence) : RequestEvent :=
  { v := 1
    sequence := n + 1
    previous := previous
    item := evidence }

/-- `request_record`, after the reads; `deletions` is whether the other chain of the file is accepted. -/
def requestRecord (call : DeletionRequestEvidence × Bool) (h : RequestHistory) (n : Nat)
    (previous : String) : Option (Option RequestEvent × DeletionRequestEvidence) :=
  if call.2 = false then none
  else if h.records.get? call.1.requestId = some call.1 then some (none, call.1)
  else if (maxEvents : Int) < n + 1 + reservesWith h call.1 then none
  else some (some (requestEvent n previous call.1), call.1)

/-! ## what an event changes -/

section
variable {h h' : RequestHistory} {e : RequestEvent} {n : Nat} {previous : String}
  {call : DeletionRequestEvidence × Bool} {b : DeletionRequestEvidence}

theorem applyRequest_eq_some (ha : applyRequest h e = some h') :
    WellFormed e.item ∧ e.item.requestId ∉ h.cancelOperations ∧
      ((e.item.cancelOperationId = none ∧ h.records.get? e.item.requestId = none ∧
          h' = { h with records := h.records.set e.item.requestId e.item }) ∨
        ∃ c prior, e.item.cancelOperationId = some c ∧ Cancels h e.item c ∧
          h.records.get? e.item.requestId = some prior ∧ prior.decision = .attempted ∧
            prior.cancelOperationId = none ∧ uncancelled e.item = prior ∧
              h' = ⟨h.records.set e.item.requestId e.item, c :: h.cancelOperations⟩) := by
  unfold applyRequest at ha
  split at ha
  · rename_i hok
    refine ⟨hok.2.1, hok.2.2, ?_⟩
    cases hc : e.item.cancelOperationId with
    | none =>
      rw [hc] at ha
      dsimp only at ha
      unfold decideEvent at ha
      split at ha
      · rename_i hdecide
        cases ha
        exact Or.inl ⟨rfl, hdecide.2.2, rfl⟩
      · cases ha
    | some c =>
      rw [hc] at ha
      dsimp only at ha
      unfold cancelEvent at ha
      split at ha
      · rename_i hcancel
        obtain ⟨hcancels, prior, hprior, hattempted, hopen, hsame⟩ := hcancel
        cases ha
        exact Or.inr ⟨c, prior, rfl, hcancels, hprior, hattempted, hopen, hsame, rfl⟩
      · cases ha
  · cases ha

/-- What an event applies is the record of its operation, and all else stays. -/
theorem applyRequest_records (ha : applyRequest h e = some h') :
    h'.records = h.records.set e.item.requestId e.item := by
  rcases applyRequest_eq_some ha with ⟨-, -, ⟨-, -, rfl⟩ | ⟨c, prior, -, -, -, -, -, -, rfl⟩⟩
  · rfl
  · rfl

/-- `x`, or its cancellation in time. -/
def Cancelled (x y : DeletionRequestEvidence) : Prop :=
  y = x ∨ x.decision = .attempted ∧ x.cancelOperationId = none ∧ ∃ c sha t,
    x.decidedAt ≤ t ∧ t < x.decidedAt + cancelWindow ∧
      y = { x with cancelOperationId := some c, cancelRequestSha256 := some sha, cancelledAt := some t }

/-- **An accepted record changes by its cancellation only.** -/
theorem applyRequest_keeps (ha : applyRequest h e = some h') {id : Uuid} {x : DeletionRequestEvidence}
    (hx : h.records.get? id = some x) : ∃ y, h'.records.get? id = some y ∧ Cancelled x y := by
  rw [applyRequest_records ha, Dict.get?_set]
  by_cases hid : id = e.item.requestId
  · rw [if_pos hid]
    subst hid
    refine ⟨e.item, rfl, ?_⟩
    rcases applyRequest_eq_some ha with ⟨-, -, ⟨-, hnone, -⟩ | ⟨c, prior, hc, hcancels, hprior, hattempted,
      hopen, hsame, -⟩⟩
    · rw [hnone] at hx
      cases hx
    · rw [hprior] at hx
      cases hx
      obtain ⟨-, ⟨sha, hsha, -⟩, ⟨t, ht, hle, hlt⟩, -⟩ := hcancels
      subst hsame
      refine Or.inr ⟨hattempted, rfl, c, sha, t, hle, hlt, ?_⟩
      show e.item = { e.item with cancelOperationId := some c, cancelRequestSha256 := some sha, cancelledAt := some t }
      rw [← hc, ← Option.mem_def.mp hsha, ← Option.mem_def.mp ht]
  · rw [if_neg hid]
    exact ⟨x, hx, Or.inl rfl⟩

theorem requestRecord_eq_some {o : Option RequestEvent} (hp : requestRecord call h n previous = some (o, b)) :
    b = call.1 ∧ ((o = none ∧ h.records.get? b.requestId = some b) ∨
      o = some (requestEvent n previous b) ∧ (n : Int) + 1 + reservesWith h b ≤ maxEvents) := by
  unfold requestRecord at hp
  split at hp
  · cases hp
  · split at hp
    · rename_i hsame
      cases hp
      exact ⟨rfl, Or.inl ⟨rfl, hsame⟩⟩
    · split at hp
      · cases hp
      · rename_i hroom
        cases hp
        exact ⟨rfl, Or.inr ⟨rfl, Int.not_lt.mp hroom⟩⟩

/-! ## reserved places -/

/-- **Every attempt that may be cancelled has a place** for the event of its cancellation. -/
def RequestReserved (h : RequestHistory) (n : Nat) : Prop := n + h.records.count isOpen ≤ maxEvents

/-- Records carry their key, are well formed, and have not been used as cancellations. -/
def RequestKeyed (h : RequestHistory) : Prop :=
  ∀ id x, h.records.get? id = some x →
    x.requestId = id ∧ WellFormed x ∧ id ∉ h.cancelOperations ∧
      (x.cancelOperationId = none → uncancelled x = x)

theorem isOpen_iff {x : DeletionRequestEvidence} :
    isOpen x = true ↔ x.decision = .attempted ∧ x.cancelOperationId = none := by
  unfold isOpen
  rw [Bool.and_eq_true, beq_iff_eq, Option.isNone_iff_eq_none]

theorem requestReserved_step (hp : requestRecord call h n previous = some (some e, b))
    (ha : applyRequest h e = some h') : RequestReserved h' (n + 1) := by
  obtain ⟨-, ⟨h₀, -⟩ | ⟨he, hroom⟩⟩ := requestRecord_eq_some hp
  · cases h₀
  cases he
  have hcount := Dict.count_set h.records b.requestId b isOpen
  unfold RequestReserved
  rw [applyRequest_records ha]
  show n + 1 + (h.records.set b.requestId b).count isOpen ≤ maxEvents
  unfold reservesWith at hroom
  rcases applyRequest_eq_some ha with ⟨-, -, ⟨hc, hnone, -⟩ | ⟨c, prior, hc, -, hprior, hattempted, hopen, -, -⟩⟩
  · have hnone : h.records.get? b.requestId = none := hnone
    have hc : b.cancelOperationId = none := hc
    have hzero : ((h.records.get? b.requestId).any isOpen).toNat = 0 := by rw [hnone]; rfl
    have hnew : (isOpen b).toNat = (b.decision == .attempted).toNat := by
      unfold isOpen
      rw [hc, Option.isNone_none, Bool.and_true]
    rw [if_pos hnone] at hroom
    rw [hzero, hnew] at hcount
    omega
  · have hprior : h.records.get? b.requestId = some prior := hprior
    have hc : b.cancelOperationId = some c := hc
    have hone : ((h.records.get? b.requestId).any isOpen).toNat = 1 := by
      rw [hprior]
      show (isOpen prior).toNat = 1
      rw [isOpen_iff.mpr ⟨hattempted, hopen⟩]
      rfl
    have hzero : (isOpen b).toNat = 0 := by
      unfold isOpen
      rw [hc, Option.isNone_some, Bool.and_false]
      rfl
    rw [if_neg (by rw [hprior]; exact Option.some_ne_none prior),
      if_pos (by rw [hc]; exact Option.some_ne_none c)] at hroom
    rw [hone, hzero] at hcount
    omega

theorem requestKeyed_apply (hk : RequestKeyed h) (ha : applyRequest h e = some h') : RequestKeyed h' := by
  intro id x hx
  rw [applyRequest_records ha, Dict.get?_set] at hx
  obtain ⟨hwell, hfresh, hcase⟩ := applyRequest_eq_some ha
  by_cases hid : id = e.item.requestId
  · rw [if_pos hid] at hx
    cases hx
    subst hid
    refine ⟨rfl, hwell, ?_, ?_⟩
    · rcases hcase with ⟨-, -, rfl⟩ | ⟨c, prior, -, hcancels, -, -, -, -, rfl⟩
      · exact hfresh
      · exact List.not_mem_cons_of_ne_of_not_mem (Ne.symm hcancels.2.2.2.1) hfresh
    · intro hnone
      have hdecide : ∃ h'', decideEvent h e.item = some h'' := by
        unfold applyRequest at ha
        split at ha
        · rw [hnone] at ha
          exact ⟨h', ha⟩
        · cases ha
      obtain ⟨h'', hdecide⟩ := hdecide
      unfold decideEvent at hdecide
      split at hdecide
      · rename_i hok
        unfold uncancelled
        rw [← hnone, ← hok.1, ← hok.2.1]
      · cases hdecide
  · rw [if_neg hid] at hx
    obtain ⟨hkey, hwf, hnot, huncancelled⟩ := hk id x hx
    refine ⟨hkey, hwf, ?_, huncancelled⟩
    rcases hcase with ⟨-, -, rfl⟩ | ⟨c, prior, -, hcancels, -, -, -, -, rfl⟩
    · exact hnot
    · refine List.not_mem_cons_of_ne_of_not_mem (fun hc => ?_) hnot
      -- a cancellation is no operation on record
      rw [hc, hcancels.2.2.2.2.1] at hx
      cases hx

end

/-! ## the laws -/

/-- **The laws of the chain of requests** in a state of a run. -/
structure RequestLaws (L : RequestLedger) (s : Store String) : Prop where
  evident : s.Evident (requestScheme L)
  /-- A call answers with what its file now holds; all else is as it was, and a record changes by its
  cancellation only. -/
  exact : ∀ call b f, Scheme.call (requestScheme L) (requestRecord call) s.file = some (b, f) →
    ∃ h h' n d n' d', Scheme.read (requestScheme L) s.file = some (h, n, d) ∧
      Scheme.read (requestScheme L) f = some (h', n', d') ∧ b = call.1 ∧
        h'.records.get? b.requestId = some b ∧
          (∀ id, id ≠ b.requestId → h'.records.get? id = h.records.get? id) ∧
            ∀ id x, h.records.get? id = some x → ∃ y, h'.records.get? id = some y ∧ Cancelled x y
  /-- An uncancelled attempt has a place, and is cancelled whatever else the chain holds. -/
  reserved : ∀ h n d id x,
    Scheme.read (requestScheme L) s.file = some (h, n, d) → h.records.get? id = some x →
      x.decision = .attempted → x.cancelOperationId = none →
        n < maxEvents ∧ ∀ c sha t, isDigest sha = true → x.decidedAt ≤ t → t < x.decidedAt + cancelWindow →
          c ≠ id → h.records.get? c = none → c ∉ h.cancelOperations → ∀ y,
            y = { x with cancelOperationId := some c, cancelRequestSha256 := some sha, cancelledAt := some t } →
              (L.dumps (requestEvent n d y)).length ≤ maxDocument →
                ∃ f, Scheme.call (requestScheme L) (requestRecord (y, true)) s.file = some (y, f)

section
variable {L : RequestLedger} {foreign : (requestScheme L).Foreign} {s : Store String}
  {labels : List (Store.Label (DeletionRequestEvidence × Bool) DeletionRequestEvidence String)}

theorem request_kept
    (p : Path (Store.Step (requestScheme L) requestRecord foreign)
      (Store.initial (requestScheme L)) labels s) (hmac : Store.Safe (requestScheme L) foreign s) :
    Store.Kept (requestScheme L) foreign (fun h n => RequestReserved h n ∧ RequestKeyed h) s := by
  have hstart : RequestKeyed ⟨Dict.empty, []⟩ := fun id x hx => by cases hx
  apply Store.run_kept ⟨Nat.zero_le _, hstart⟩ _ p hmac
  intro call h n previous d b h' hI hp ha
  exact ⟨requestReserved_step hp ha, requestKeyed_apply hI.2 ha⟩

/-- **The chain of requests keeps its laws** in every run. -/
theorem request_laws
    (p : Path (Store.Step (requestScheme L) requestRecord foreign)
      (Store.initial (requestScheme L)) labels s) (hmac : Store.Safe (requestScheme L) foreign s) :
    RequestLaws L s := by
  have hkept := request_kept p hmac
  refine ⟨hkept.evident hmac, ?_, ?_⟩
  · intro call b f hcall
    obtain ⟨h, n, d, hr, ⟨hp, rfl⟩ | ⟨e, h', hp, ha, rfl, hr'⟩⟩ := Scheme.call_eq_some hcall
    · obtain ⟨hb, ⟨-, hget⟩ | ⟨ho, -⟩⟩ := requestRecord_eq_some hp
      · exact ⟨h, h, n, d, n, d, hr, hr, hb, hget, fun _ _ => rfl, fun id x hx => ⟨x, hx, Or.inl rfl⟩⟩
      · cases ho
    · obtain ⟨hb, ⟨ho, -⟩ | ⟨he, -⟩⟩ := requestRecord_eq_some hp
      · cases ho
      cases he
      have hset := applyRequest_records ha
      refine ⟨h, h', n, d, n + 1, _, hr, hr', hb, ?_, ?_, ?_⟩
      · rw [hset]
        exact Dict.get?_set_self h.records b.requestId b
      · intro id hid
        rw [hset]
        exact Dict.get?_set_ne h.records b hid
      · intro id x hx
        exact applyRequest_keeps ha hx
  · intro h n d id x hr hx hattempted hopen
    obtain ⟨hreserved, hkeyed⟩ := hkept.committed hmac hr
    obtain ⟨hkey, hwf, hnot, hclear⟩ := hkeyed id x hx
    have hpos := Dict.count_pos hx (isOpen_iff.mpr ⟨hattempted, hopen⟩)
    unfold RequestReserved at hreserved
    refine ⟨by omega, fun c sha t hsha hle hlt hc hnone hfresh y hy hlength => ?_⟩
    have hid : y.requestId = id := by rw [hy]; exact hkey
    have hcancel : y.cancelOperationId = some c := by rw [hy]
    have hget : h.records.get? y.requestId = some x := by rw [hid]; exact hx
    have ha : applyRequest h (requestEvent n d y) =
        some ⟨h.records.set y.requestId y, c :: h.cancelOperations⟩ := by
      have hwell : WellFormed y := by
        rw [hy]
        exact hwf
      have hfresh' : y.requestId ∉ h.cancelOperations := by
        rw [hid]
        exact hnot
      have hcancels : Cancels h y c := by
        rw [hy]
        exact ⟨hattempted, ⟨sha, rfl, hsha⟩, ⟨t, rfl, hle, hlt⟩, by rw [hkey]; exact hc, hnone, hfresh⟩
      have hsame : uncancelled y = x := by
        rw [hy]
        exact hclear hopen
      unfold applyRequest
      rw [if_pos ⟨rfl, hwell, hfresh'⟩]
      dsimp only [requestEvent]
      rw [hcancel]
      exact if_pos ⟨hcancels, x, hget, hattempted, hopen, hsame⟩
    refine ⟨_, Scheme.call_writes hr ?_ ?_ ha⟩
    · have hne : x ≠ y := by
        intro hxy
        rw [hxy, hcancel] at hopen
        cases hopen
      unfold requestRecord
      rw [if_neg (fun hfalse => Bool.noConfusion hfalse), if_neg, if_neg]
      · unfold reservesWith
        rw [if_neg (by rw [hget]; exact Option.some_ne_none x),
          if_pos (by rw [hcancel]; exact Option.some_ne_none c)]
        omega
      · show h.records.get? y.requestId ≠ some y
        rw [hget]
        exact fun heq => hne (Option.some.inj heq)
    · have hroom : n + 1 ≤ maxEvents := by omega
      exact ⟨rfl, hroom, hlength, rfl, rfl, rfl⟩

end

end AutPlay.Evidence
