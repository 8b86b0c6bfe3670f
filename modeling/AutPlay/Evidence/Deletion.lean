import Mathlib.Algebra.Group.Int.Defs
import AutPlay.Lib.Chain
import AutPlay.Lib.Dict
import AutPlay.Sync.Uuid

/-!
# The ledger of deletions

The events of account deletions: an intent is prepared, and completed once.

* `applyDeletion`       what `_read` makes of one event;
* `prepare`, `complete` the two calls;
* `Reserved`            every prepared deletion has a place for its completion;
* `DeletionLaws`        the laws of the chain, in every run.

The tags of the key and the JSON library are parameters.  `datetime` values are microseconds; the texts
of the events spell them canonically.
-/

set_option linter.unusedSectionVars false

namespace AutPlay.Evidence

open AutPlay.Sync (Uuid isHexLower)
open AutPlay.Chain

/-- `[0-9a-f]{64}` -/
def isDigest (s : String) : Bool := s.length == 64 && s.toList.all isHexLower

/-- `_ZERO` -/
def zero : String := "0000000000000000000000000000000000000000000000000000000000000000"

/-- `_MAX_EVENTS` -/
def maxEvents : Nat := 200000

def maxDocument : Nat := 2048

/-! ## events -/

inductive DeletionKind
  | prepared
  | completed
  deriving DecidableEq, Repr

structure DeletionEvent where
  v : Nat
  sequence : Nat
  previous : String
  kind : DeletionKind
  ownerTag : String
  requestId : Uuid
  at_ : Int
  removedRows : Option Int
  deriving DecidableEq

structure DeletionEvidence where
  ownerTag : String
  requestId : Uuid
  acceptedAt : Int
  completedAt : Option Int
  removedRows : Option Int
  deriving DecidableEq

/-- The key's tags, and `json.dumps` and `json.loads` on the events. -/
structure DeletionLedger where
  mac : Message String → String
  ownerTag : Uuid → String
  dumps : DeletionEvent → String
  loads : String → Option DeletionEvent
  loads_dumps : ∀ e, loads (dumps e) = some e

abbrev DeletionRecords := Dict String DeletionEvidence

/-- A first event of an owner. -/
def prepareEvent (records : DeletionRecords) (e : DeletionEvent) : Option DeletionRecords :=
  if e.removedRows = none then
    some (records.set e.ownerTag ⟨e.ownerTag, e.requestId, e.at_, none, none⟩)
  else none

def completed (prior : DeletionEvidence) (e : DeletionEvent) : DeletionEvidence :=
  { prior with completedAt := some e.at_, removedRows := e.removedRows }

/-- The second event of an owner, of the same request. -/
def completeEvent (records : DeletionRecords) (prior : DeletionEvidence) (e : DeletionEvent) :
    Option DeletionRecords :=
  if prior.requestId = e.requestId ∧ prior.completedAt = none ∧ prior.acceptedAt ≤ e.at_ ∧
      ∃ rows ∈ e.removedRows, 0 ≤ rows ∧ rows ≤ 2 ^ 63 - 1 then
    some (records.set e.ownerTag (completed prior e))
  else none

/-- The checks of `_read` on the contents of one event. -/
def applyDeletion (records : DeletionRecords) (e : DeletionEvent) : Option DeletionRecords :=
  if e.v = 1 ∧ isDigest e.ownerTag = true then
    match e.kind, records.get? e.ownerTag with
    | .prepared, none => prepareEvent records e
    | .completed, some prior => completeEvent records prior e
    | .prepared, some _ => none
    | .completed, none => none
  else none

def deletionScheme (L : DeletionLedger) : Scheme DeletionEvent String DeletionRecords where
  mac := L.mac
  eventPurpose := "privacy-ledger-event-v1"
  headPurpose := "privacy-ledger-head-v1"
  zero := zero
  dumps := L.dumps
  loads := L.loads
  loads_dumps := L.loads_dumps
  sequenceOf := DeletionEvent.sequence
  previousOf := DeletionEvent.previous
  start := Dict.empty
  apply := applyDeletion
  capacity := maxEvents
  maxLength := maxDocument

/-! ## calls -/

def isPending (e : DeletionEvidence) : Bool := e.completedAt.isNone

/-- The arguments of a call; `requests` is whether the other chain of the file is accepted. -/
inductive DeletionCall
  | prepare (userId requestId : Uuid) (acceptedAt : Int) (requests : Bool)
  | complete (ownerTag : String) (requestId : Uuid) (completedAt : Int) (removedRows : Int)
      (requests : Bool)

def preparedEvent (n : Nat) (previous tag : String) (requestId : Uuid) (acceptedAt : Int) : DeletionEvent :=
  { v := 1
    sequence := n + 1
    previous := previous
    kind := .prepared
    ownerTag := tag
    requestId := requestId
    at_ := acceptedAt
    removedRows := none }

def completedEvent (n : Nat) (previous tag : String) (requestId : Uuid) (completedAt removedRows : Int) :
    DeletionEvent :=
  { v := 1
    sequence := n + 1
    previous := previous
    kind := .completed
    ownerTag := tag
    requestId := requestId
    at_ := completedAt
    removedRows := some removedRows }

/-- `_append` -/
def appendEvent {δ β : Type} (n : Nat) (e : δ) (answer : β) : Option (Option δ × β) :=
  if maxEvents ≤ n then none else some (some e, answer)

section
variable (L : DeletionLedger)

/-- `prepare`, after the reads; `none` is `DeletionEvidenceError`. -/
def planPrepare (userId requestId : Uuid) (acceptedAt : Int) (records : DeletionRecords) (n : Nat)
    (previous : String) : Option (Option DeletionEvent × DeletionEvidence) :=
  match records.get? (L.ownerTag userId) with
  | some prior =>
    if prior.requestId ≠ requestId ∨ prior.acceptedAt ≠ acceptedAt then none else some (none, prior)
  | none =>
    -- an accepted intent reserves the event of its completion
    if maxEvents < n + records.count isPending + 2 then none
    else
      appendEvent n (preparedEvent n previous (L.ownerTag userId) requestId acceptedAt)
        ⟨L.ownerTag userId, requestId, acceptedAt, none, none⟩

/-- `complete`, after the reads. -/
def planComplete (tag : String) (requestId : Uuid) (completedAt removedRows : Int)
    (records : DeletionRecords) (n : Nat) (previous : String) :
    Option (Option DeletionEvent × DeletionEvidence) :=
  match records.get? tag with
  | none => none
  | some prior =>
    if prior.requestId ≠ requestId then none
    else if prior.completedAt.isSome then some (none, prior)
    else
      appendEvent n (completedEvent n previous tag requestId completedAt removedRows)
        { prior with completedAt := some completedAt, removedRows := some removedRows }

def deletionPlan (call : DeletionCall) (records : DeletionRecords) (n : Nat) (previous : String) :
    Option (Option DeletionEvent × DeletionEvidence) :=
  match call with
  | .prepare userId requestId acceptedAt requests =>
    if requests then planPrepare L userId requestId acceptedAt records n previous else none
  | .complete tag requestId completedAt removedRows requests =>
    if requests then planComplete tag requestId completedAt removedRows records n previous else none

end

/-! ## what an event changes -/

section
variable {records records' : DeletionRecords} {e : DeletionEvent} {n : Nat} {previous : String}

theorem applyDeletion_eq_some (h : applyDeletion records e = some records') :
    (e.kind = .prepared ∧ records.get? e.ownerTag = none ∧
        records' = records.set e.ownerTag ⟨e.ownerTag, e.requestId, e.at_, none, none⟩) ∨
      ∃ prior, e.kind = .completed ∧ records.get? e.ownerTag = some prior ∧
        prior.requestId = e.requestId ∧ prior.completedAt = none ∧ prior.acceptedAt ≤ e.at_ ∧
          records' = records.set e.ownerTag (completed prior e) := by
  unfold applyDeletion at h
  split at h
  · cases hk : e.kind with
    | prepared =>
      cases hg : records.get? e.ownerTag with
      | none =>
        rw [hk, hg] at h
        dsimp only at h
        unfold prepareEvent at h
        split at h
        · cases h
          exact Or.inl ⟨rfl, rfl, rfl⟩
        · cases h
      | some prior =>
        rw [hk, hg] at h
        cases h
    | completed =>
      cases hg : records.get? e.ownerTag with
      | none =>
        rw [hk, hg] at h
        cases h
      | some prior =>
        rw [hk, hg] at h
        dsimp only at h
        unfold completeEvent at h
        split at h
        · rename_i hok
          cases h
          exact Or.inr ⟨prior, rfl, rfl, hok.1, hok.2.1, hok.2.2.1, rfl⟩
        · cases h
  · cases h

/-- **An accepted record changes by its completion only.** -/
theorem applyDeletion_keeps (h : applyDeletion records e = some records') {tag : String}
    {x : DeletionEvidence} (hx : records.get? tag = some x) :
    records'.get? tag = some x ∨
      (x.completedAt = none ∧ ∃ at_ rows, x.acceptedAt ≤ at_ ∧
        records'.get? tag = some { x with completedAt := some at_, removedRows := rows }) := by
  rcases applyDeletion_eq_some h with ⟨-, hnone, rfl⟩ | ⟨prior, -, hprior, -, hpending, hat, rfl⟩
  · rw [Dict.get?_set]
    split
    · rename_i ht
      rw [ht, hnone] at hx
      cases hx
    · exact Or.inl hx
  · rw [Dict.get?_set]
    split
    · rename_i ht
      rw [ht, hprior] at hx
      cases hx
      exact Or.inr ⟨hpending, e.at_, e.removedRows, hat, rfl⟩
    · exact Or.inl hx

/-! ## reserved places -/

/-- **Every prepared deletion has a place** for the event of its completion. -/
def Reserved (records : DeletionRecords) (n : Nat) : Prop := n + records.count isPending ≤ maxEvents

theorem reserved_start : Reserved Dict.empty 0 := Nat.zero_le _

theorem appendEvent_eq_some {δ β : Type} {e d : δ} {a b : β}
    (h : appendEvent n e a = some (some d, b)) : n < maxEvents ∧ d = e ∧ b = a := by
  unfold appendEvent at h
  split at h
  · cases h
  · rename_i hn
    cases h
    exact ⟨Nat.not_le.mp hn, rfl, rfl⟩

theorem plan_event {L : DeletionLedger} {call : DeletionCall} {b : DeletionEvidence}
    (h : deletionPlan L call records n previous = some (some e, b)) :
    (∃ userId requestId acceptedAt requests,
        call = .prepare userId requestId acceptedAt requests ∧
          records.get? (L.ownerTag userId) = none ∧ n + records.count isPending + 2 ≤ maxEvents ∧
          e = preparedEvent n previous (L.ownerTag userId) requestId acceptedAt ∧
          b = ⟨L.ownerTag userId, requestId, acceptedAt, none, none⟩) ∨
      ∃ tag requestId completedAt removedRows requests prior,
        call = .complete tag requestId completedAt removedRows requests ∧
          records.get? tag = some prior ∧ prior.completedAt = none ∧
          e = completedEvent n previous tag requestId completedAt removedRows ∧
          b = { prior with completedAt := some completedAt, removedRows := some removedRows } := by
  cases call with
  | prepare userId requestId acceptedAt requests =>
    unfold deletionPlan at h
    dsimp only at h
    split at h
    · unfold planPrepare at h
      cases hg : records.get? (L.ownerTag userId) with
      | some prior =>
        rw [hg] at h
        dsimp only at h
        split at h
        · cases h
        · cases h
      | none =>
        rw [hg] at h
        dsimp only at h
        split at h
        · cases h
        · rename_i hroom
          obtain ⟨-, rfl, rfl⟩ := appendEvent_eq_some h
          exact Or.inl ⟨userId, requestId, acceptedAt, requests, rfl, hg, Nat.not_lt.mp hroom, rfl, rfl⟩
    · cases h
  | complete tag requestId completedAt removedRows requests =>
    unfold deletionPlan at h
    dsimp only at h
    split at h
    · unfold planComplete at h
      cases hg : records.get? tag with
      | none =>
        rw [hg] at h
        cases h
      | some prior =>
        rw [hg] at h
        dsimp only at h
        split at h
        · cases h
        · split at h
          · cases h
          · rename_i hpending
            obtain ⟨-, rfl, rfl⟩ := appendEvent_eq_some h
            have hnone : prior.completedAt = none := by
              cases hc : prior.completedAt with
              | none => rfl
              | some t =>
                rw [hc] at hpending
                exact absurd rfl hpending
            exact Or.inr ⟨tag, requestId, completedAt, removedRows, requests, prior, rfl, hg, hnone, rfl, rfl⟩
    · cases h

theorem reserved_step {L : DeletionLedger} {call : DeletionCall} {b : DeletionEvidence}
    (hI : Reserved records n) (hp : deletionPlan L call records n previous = some (some e, b))
    (ha : applyDeletion records e = some records') : Reserved records' (n + 1) := by
  unfold Reserved at hI ⊢
  rcases plan_event hp with ⟨userId, requestId, acceptedAt, -, -, hnone, hroom, rfl, -⟩ |
    ⟨tag, requestId, completedAt, removedRows, -, prior, -, hprior, hpending, rfl, -⟩
  · rcases applyDeletion_eq_some ha with ⟨-, -, rfl⟩ | ⟨prior, hk, -⟩
    · have hcount := Dict.count_set records (L.ownerTag userId)
        ⟨L.ownerTag userId, requestId, acceptedAt, none, none⟩ isPending
      rw [hnone] at hcount
      have hone : (isPending ⟨L.ownerTag userId, requestId, acceptedAt, none, none⟩).toNat = 1 := rfl
      rw [hone] at hcount
      show n + 1 + (records.set (L.ownerTag userId) ⟨L.ownerTag userId, requestId, acceptedAt, none, none⟩).count
        isPending ≤ maxEvents
      have hzero : ((none : Option DeletionEvidence).any isPending).toNat = 0 := rfl
      omega
    · cases hk
  · rcases applyDeletion_eq_some ha with ⟨hk, -⟩ | ⟨prior', -, hprior', -, -, -, rfl⟩
    · cases hk
    · have hprior'' : records.get? tag = some prior' := hprior'
      rw [hprior] at hprior''
      cases hprior''
      have hcount := Dict.count_set records tag
        (completed prior (completedEvent n previous tag requestId completedAt removedRows)) isPending
      have hone : ((records.get? tag).any isPending).toNat = 1 := by
        rw [hprior]
        show (isPending prior).toNat = 1
        unfold isPending
        rw [hpending]
        rfl
      have hzero : (isPending (completed prior
          (completedEvent n previous tag requestId completedAt removedRows))).toNat = 0 := rfl
      rw [hone, hzero] at hcount
      show n + 1 + (records.set tag (completed prior
        (completedEvent n previous tag requestId completedAt removedRows))).count isPending ≤ maxEvents
      omega

end

/-! ## the laws -/

/-- Records carry their key, the tag of an owner. -/
def Keyed (records : DeletionRecords) : Prop :=
  ∀ tag x, records.get? tag = some x → x.ownerTag = tag ∧ isDigest tag = true

theorem isDigest_of_apply {records records' : DeletionRecords} {e : DeletionEvent}
    (h : applyDeletion records e = some records') : isDigest e.ownerTag = true := by
  unfold applyDeletion at h
  split at h
  · rename_i hok
    exact hok.2
  · cases h

theorem keyed_apply {records records' : DeletionRecords} {e : DeletionEvent} (h : Keyed records)
    (ha : applyDeletion records e = some records') : Keyed records' := by
  intro tag x hx
  have hdigest := isDigest_of_apply ha
  rcases applyDeletion_eq_some ha with ⟨-, -, rfl⟩ | ⟨prior, -, hprior, -, -, -, rfl⟩
  · rw [Dict.get?_set] at hx
    split at hx
    · rename_i ht
      cases hx
      subst ht
      exact ⟨rfl, hdigest⟩
    · exact h tag x hx
  · rw [Dict.get?_set] at hx
    split at hx
    · rename_i ht
      cases hx
      subst ht
      exact h e.ownerTag prior hprior
    · exact h tag x hx

/-- An event that is written is the answer's record. -/
theorem written_record {L : DeletionLedger} {call : DeletionCall} {r r' : DeletionRecords} {n : Nat}
    {previous : String} {e : DeletionEvent} {b : DeletionEvidence} (hkeyed : Keyed r)
    (hp : deletionPlan L call r n previous = some (some e, b)) (ha : applyDeletion r e = some r') :
    r' = r.set b.ownerTag b := by
  rcases plan_event hp with ⟨userId, requestId, acceptedAt, -, -, -, -, rfl, rfl⟩ |
    ⟨tag, requestId, completedAt, removedRows, -, prior, -, hprior, -, rfl, rfl⟩
  · rcases applyDeletion_eq_some ha with ⟨-, -, rfl⟩ | ⟨prior, hk, -⟩
    · rfl
    · cases hk
  · rcases applyDeletion_eq_some ha with ⟨hk, -⟩ | ⟨prior', -, hprior', -, -, -, rfl⟩
    · cases hk
    · have htag : prior.ownerTag = tag := (hkeyed tag prior hprior).1
      have heq : prior' = prior := Option.some.inj (Eq.trans (Eq.symm hprior') hprior)
      subst heq
      have hset : ∀ x, r.set tag x = r.set prior'.ownerTag x := fun x => by rw [htag]
      exact hset _

/-- A call that writes nothing answers with a record. -/
theorem answered_record {L : DeletionLedger} {call : DeletionCall} {r : DeletionRecords} {n : Nat}
    {previous : String} {b : DeletionEvidence} (hkeyed : Keyed r)
    (hp : deletionPlan L call r n previous = some (none, b)) : r.get? b.ownerTag = some b := by
  have hkey : ∀ tag, r.get? tag = some b → r.get? b.ownerTag = some b := by
    intro tag h
    rw [(hkeyed tag b h).1]
    exact h
  have happend : ∀ (e : DeletionEvent) a, appendEvent n e a ≠ some (none, b) := by
    intro e a h
    unfold appendEvent at h
    split at h
    · cases h
    · cases h
  cases call with
  | prepare userId requestId acceptedAt requests =>
    unfold deletionPlan planPrepare at hp
    dsimp only at hp
    split at hp
    · split at hp
      · rename_i prior hprior
        split at hp
        · cases hp
        · cases hp
          exact hkey _ hprior
      · split at hp
        · cases hp
        · exact absurd hp (happend _ _)
    · cases hp
  | complete tag requestId completedAt removedRows requests =>
    unfold deletionPlan planComplete at hp
    dsimp only at hp
    split at hp
    · split at hp
      · cases hp
      · rename_i prior hprior
        split at hp
        · cases hp
        · split at hp
          · cases hp
            exact hkey _ hprior
          · exact absurd hp (happend _ _)
    · cases hp

/-- `x`, or its completion. -/
def Completes (x y : DeletionEvidence) : Prop :=
  y = x ∨ x.completedAt = none ∧ ∃ at_ rows, x.acceptedAt ≤ at_ ∧
    y = { x with completedAt := some at_, removedRows := rows }

/-- **The laws of the deletion chain** in a state of a run. -/
structure DeletionLaws (L : DeletionLedger) (s : Store String) : Prop where
  evident : s.Evident (deletionScheme L)
  /-- A call answers with what its file now holds; all else is as it was, and a record changes by its
  completion only. -/
  exact : ∀ call b f, Scheme.call (deletionScheme L) (deletionPlan L call) s.file = some (b, f) →
    ∃ r r' n d n' d', Scheme.read (deletionScheme L) s.file = some (r, n, d) ∧
      Scheme.read (deletionScheme L) f = some (r', n', d') ∧ r'.get? b.ownerTag = some b ∧
        (∀ tag, tag ≠ b.ownerTag → r'.get? tag = r.get? tag) ∧
          ∀ tag x, r.get? tag = some x → ∃ y, r'.get? tag = some y ∧ Completes x y
  /-- A prepared deletion has a place, and is completed whatever else the chain holds. -/
  reserved : ∀ r n d tag x,
    Scheme.read (deletionScheme L) s.file = some (r, n, d) → r.get? tag = some x → x.completedAt = none →
      n < maxEvents ∧ ∀ completedAt removedRows, x.acceptedAt ≤ completedAt → 0 ≤ removedRows →
        removedRows ≤ 2 ^ 63 - 1 →
          (L.dumps (completedEvent n d tag x.requestId completedAt removedRows)).length ≤ maxDocument →
            ∃ f, Scheme.call (deletionScheme L)
              (deletionPlan L (.complete tag x.requestId completedAt removedRows true)) s.file =
                some ({ x with completedAt := some completedAt, removedRows := some removedRows }, f)

section
variable {L : DeletionLedger} {foreign : (deletionScheme L).Foreign} {s : Store String}
  {labels : List (Store.Label DeletionCall DeletionEvidence String)}

theorem deletion_kept
    (p : Path (Store.Step (deletionScheme L) (deletionPlan L) foreign)
      (Store.initial (deletionScheme L)) labels s) (hmac : Store.Safe (deletionScheme L) foreign s) :
    Store.Kept (deletionScheme L) foreign (fun r n => Reserved r n ∧ Keyed r) s := by
  have hstart : Keyed Dict.empty := fun tag x h => by cases h
  apply Store.run_kept ⟨reserved_start, hstart⟩ _ p hmac
  intro call r n previous d b r' hI hp ha
  exact ⟨reserved_step hI.1 hp ha, keyed_apply hI.2 ha⟩

/-- **The chain of deletions keeps its laws** in every run. -/
theorem deletion_laws
    (p : Path (Store.Step (deletionScheme L) (deletionPlan L) foreign)
      (Store.initial (deletionScheme L)) labels s) (hmac : Store.Safe (deletionScheme L) foreign s) :
    DeletionLaws L s := by
  have hkept := deletion_kept p hmac
  refine ⟨hkept.evident hmac, ?_, ?_⟩
  · intro call b f h
    obtain ⟨r, n, d, hr, ⟨hp, rfl⟩ | ⟨e, r', hp, ha, rfl, hr'⟩⟩ := Scheme.call_eq_some h
    · have hkeyed := (hkept.committed hmac hr).2
      exact ⟨r, r, n, d, n, d, hr, hr, answered_record hkeyed hp, fun _ _ => rfl,
        fun tag x hx => ⟨x, hx, Or.inl rfl⟩⟩
    · have hkeyed := (hkept.committed hmac hr).2
      have hset : r' = r.set b.ownerTag b := written_record hkeyed hp ha
      refine ⟨r, r', n, d, n + 1, _, hr, hr', ?_, ?_, ?_⟩
      · rw [hset]
        exact Dict.get?_set_self r b.ownerTag b
      · intro tag ht
        rw [hset]
        exact Dict.get?_set_ne r b ht
      · intro tag x hx
        rcases applyDeletion_keeps ha hx with hx' | ⟨hpending, at_, rows, hat, hx'⟩
        · exact ⟨x, hx', Or.inl rfl⟩
        · exact ⟨_, hx', Or.inr ⟨hpending, at_, rows, hat, rfl⟩⟩
  · intro r n d tag x hr hx hpending
    obtain ⟨hreserved, hkeyed⟩ := hkept.committed hmac hr
    have hroom : n < maxEvents := by
      have hpos := Dict.count_pos hx (p := isPending) (by unfold isPending; rw [hpending]; rfl)
      unfold Reserved at hreserved
      omega
    refine ⟨hroom, fun completedAt removedRows hat hrows hmax hlength => ?_⟩
    have ha : applyDeletion r (completedEvent n d tag x.requestId completedAt removedRows) =
        some (r.set tag (completed x (completedEvent n d tag x.requestId completedAt removedRows))) := by
      unfold applyDeletion
      rw [if_pos ⟨rfl, (hkeyed tag x hx).2⟩]
      dsimp only [completedEvent]
      rw [hx]
      exact if_pos ⟨rfl, hpending, hat, removedRows, rfl, hrows, hmax⟩
    refine ⟨_, Scheme.call_writes hr ?_ ?_ ha⟩
    · show planComplete tag x.requestId completedAt removedRows r n d = _
      unfold planComplete
      rw [hx]
      show (if x.requestId ≠ x.requestId then none else _) = _
      rw [if_neg (not_not_intro rfl), hpending, if_neg (by decide)]
      exact if_neg (Nat.not_le.mpr hroom)
    · exact ⟨rfl, Nat.succ_le_of_lt hroom, hlength, rfl, rfl, rfl⟩

end

end AutPlay.Evidence
