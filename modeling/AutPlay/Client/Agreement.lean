import AutPlay.Client.Journal
import AutPlay.Sync.Inbox

/-!
# Journal agreement

One device and its server, in any interleaving: the device journals, its workers select, lease, send
and settle, requests and responses are lost, cut, late or repeated, and the server runs one
transaction at a time, of this device or of another.

* `World.act`               one action;
* `Ages`, `RowOk`           what a statement of the DAO does to the attempts of a row, and what holds
                            of a row;
* `Agrees`                  the invariant of the device and its server;
* `terminal_acknowledged`   in every reachable state an event that is terminal on the device is
                            behind the acknowledged sequence of the server, or the device has given
                            it up after its eight attempts.
-/

set_option linter.unusedSectionVars false

namespace AutPlay.Client
open Sync

/-! ## one device and its server -/

/-- A push request: its lease and the candidates it sends. -/
structure Request where
  token : Uuid
  leased : List JournalEvent

/-- The journal of a device, its server, and all that is or was on its way between them.  Nothing is
taken out of `snapshots`, `requests` and `responses`: a worker may act on what it has read at any
later time. -/
structure World where
  rows : List JournalEvent
  nextDeviceSequence : Nat
  /-- Every event that was ever journaled. -/
  appended : List Event
  /-- The candidates that workers have selected. -/
  snapshots : List (List JournalEvent)
  requests : List Request
  /-- The acknowledgements that the server has sent. -/
  responses : List Ack
  server : SyncDb

def World.start (server : SyncDb) : World := ⟨[], 1, [], [], [], [], server⟩

inductive Action
  /-- A local intent is journaled, under a new identifier and key. -/
  | append (e : Event)
  | recoverExpired (nowMs : Int)
  | recoverUnbound
  /-- A worker selects its candidates. -/
  | select (nowMs : Int)
  /-- It leases those of snapshot `i`. -/
  | lease (i : Nat) (token : Uuid) (nowMs : Int)
  /-- The server runs the transaction of event `j` of request `i`. -/
  | serve (i j : Nat) (now : Int) (requestId : Uuid)
  /-- The server runs a transaction of another device. -/
  | other (c : PushCall)
  /-- Request `i` is answered with the acknowledgements of those numbers. -/
  | settle (i : Nat) (acks : List Nat) (adoptable : JournalEvent → SyncAck → Bool) (nowMs : Int)
  | networkFailed (i : Nat) (nowMs : Int)
  | sessionRequired (i : Nat)
  /-- Request `i` is cancelled, or blocked by its policy. -/
  | release (i : Nat)
  | compact (eventIds : List Uuid)

section
variable (env : Env) (p : Principal) (epoch : Uuid)

/-- **One action**; `none` when it is not possible. -/
def World.act (w : World) : Action → Option World
  | .append e =>
    if e.deviceSequence = .int w.nextDeviceSequence ∧
        (∀ a ∈ w.appended, a.eventId ≠ e.eventId ∧ a.idempotencyKey ≠ e.idempotencyKey) ∧
        (w.server.inbox.find e.eventId).isNone then
      some { w with
        rows := w.rows ++ [.new e], nextDeviceSequence := w.nextDeviceSequence + 1,
        appended := w.appended ++ [e] }
    else none
  | .recoverExpired nowMs => some { w with rows := recoverExpiredLeases w.rows nowMs }
  | .recoverUnbound => some { w with rows := recoverUnboundJournal w.rows }
  | .select nowMs =>
    some { w with snapshots := w.snapshots ++ [nextPending w.rows nowMs pushBatchLimit] }
  | .lease i token nowMs => do
    let candidates ← w.snapshots[i]?
    let (leased, rows) := leaseWhile token (nowMs + leaseMs) w.rows candidates
    return { w with rows := rows, requests := w.requests ++ [⟨token, leased⟩] }
  | .serve i j now requestId => do
    let request ← w.requests[i]?
    let event ← request.leased[j]?
    match pushOne env w.server p epoch event.event now requestId with
    | .ok (ack, server) =>
      return { w with server := server, responses := w.responses ++ [ack] }
    | .error _ => return w
  | .other c =>
    if c.principal.deviceId ≠ p.deviceId ∧ ∀ a ∈ w.appended, a.eventId ≠ c.event.eventId then
      some { w with server := pushStep env w.server c }
    else none
  | .settle i acks adoptable nowMs => do
    let request ← w.requests[i]?
    let response := (acks.filterMap (fun k => w.responses[k]?)).map SyncAck.ofAck
    return { w with
      rows := settle adoptable w.rows request.leased request.token response nowMs }
  | .networkFailed i nowMs => do
    let request ← w.requests[i]?
    return { w with rows := networkFailed w.rows request.leased request.token nowMs }
  | .sessionRequired i => do
    let request ← w.requests[i]?
    return { w with rows := sessionRequired w.rows request.leased request.token }
  | .release i => do
    let request ← w.requests[i]?
    return { w with rows := releaseCancelledLease w.rows request.token }
  | .compact eventIds => some { w with rows := deleteTerminal w.rows eventIds }

end

/-! ## the attempts of a row -/

/-- The attempts that are behind a row; the one under way does not count. -/
def JournalEvent.floor (r : JournalEvent) : Nat :=
  if r.state = .sending then r.attemptCount - 1 else r.attemptCount

/-- Every row of `rows'` was there, with no more attempts behind it. -/
def Ages (rows rows' : List JournalEvent) : Prop :=
  ∀ r' ∈ rows', ∃ r ∈ rows, r'.event = r.event ∧ r.floor ≤ r'.floor

/-- The candidate was read no later than now. -/
def Floor (rows : List JournalEvent) (s : JournalEvent) : Prop :=
  ∀ r ∈ rows, r.event.eventId = s.event.eventId → s.attemptCount ≤ r.floor

theorem Ages.refl (rows : List JournalEvent) : Ages rows rows :=
  fun r hr => ⟨r, hr, rfl, le_refl _⟩

theorem Ages.trans {a b c : List JournalEvent} (h : Ages a b) (h' : Ages b c) : Ages a c := by
  intro r hr
  obtain ⟨r₁, h₁, he, hf⟩ := h' r hr
  obtain ⟨r₀, h₀, he', hf'⟩ := h r₁ h₁
  exact ⟨r₀, h₀, he.trans he', hf'.trans hf⟩

theorem Floor.ages {rows rows' : List JournalEvent} {s : JournalEvent} (hs : Floor rows s)
    (h : Ages rows rows') : Floor rows' s := by
  intro r' hr' hid
  obtain ⟨r, hr, he, hf⟩ := h r' hr'
  rw [he] at hid
  exact (hs r hr hid).trans hf

/-! ## the rows -/

/-- The server has recorded the event. -/
def Recorded (db : SyncDb) (eventId : Uuid) : Prop := (db.inbox.find eventId).isSome = true

/-- **What holds of a row.** -/
structure RowOk (db : SyncDb) (r : JournalEvent) : Prop where
  leased : r.state = .sending → 1 ≤ r.attemptCount
  settled : r.state = .acked ∨ r.state = .conflict → Recorded db r.event.eventId
  givenUp : r.state = .deadLetter → Recorded db r.event.eventId ∨ maxAttempts ≤ r.attemptCount
  code : r.state = .deadLetter → r.lastErrorCode ≠ some (.server .journalResetRequired)

def eventIds (rows : List JournalEvent) : List Uuid := rows.map (fun r => r.event.eventId)

/-- `rows'` are `rows` some time later. -/
structure Later (db : SyncDb) (rows rows' : List JournalEvent) : Prop where
  ages : Ages rows rows'
  ids : (eventIds rows').Sublist (eventIds rows)
  ok : ∀ r ∈ rows', RowOk db r

theorem Later.refl {db : SyncDb} {rows : List JournalEvent} (hok : ∀ r ∈ rows, RowOk db r) :
    Later db rows rows := ⟨.refl rows, .refl _, hok⟩

theorem Later.trans {db : SyncDb} {a b c : List JournalEvent} (h : Later db a b)
    (h' : Later db b c) : Later db a c :=
  ⟨h.ages.trans h'.ages, h'.ids.trans h.ids, h'.ok⟩

section
variable {db : SyncDb} {rows : List JournalEvent}

theorem RowOk.pending {r : JournalEvent} (h : r.state = .pending) : RowOk db r where
  leased := fun hc => by rw [h] at hc; cases hc
  settled := fun hc => by rw [h] at hc; rcases hc with hc | hc <;> cases hc
  givenUp := fun hc => by rw [h] at hc; cases hc
  code := fun hc => by rw [h] at hc; cases hc

/-- **Updates**: those that keep the event and the attempts behind the row. -/
theorem Later.updateWhere (hok : ∀ r ∈ rows, RowOk db r) {cond : JournalEvent → Bool}
    {set : JournalEvent → JournalEvent}
    (h : ∀ r ∈ rows, cond r = true →
      (set r).event = r.event ∧ r.floor ≤ (set r).floor ∧ RowOk db (set r)) :
    Later db rows (updateWhere rows cond set) := by
  have hrow : ∀ r ∈ rows, ∀ r', r' = (if cond r then set r else r) →
      r'.event = r.event ∧ r.floor ≤ r'.floor ∧ RowOk db r' := by
    intro r hr r' hr'
    by_cases hc : cond r = true
    · rw [if_pos hc] at hr'
      rw [hr']
      exact h r hr hc
    · rw [if_neg hc] at hr'
      rw [hr']
      exact ⟨rfl, le_refl _, hok r hr⟩
  have hids : eventIds (Client.updateWhere rows cond set) = eventIds rows := by
    unfold eventIds Client.updateWhere
    rw [List.map_map]
    refine List.map_congr_left fun r hr => ?_
    show (if cond r then set r else r).event.eventId = _
    rw [(hrow r hr _ rfl).1]
  refine ⟨fun r' hr' => ?_, hids ▸ .refl _, fun r' hr' => ?_⟩
  · obtain ⟨r, hr, he⟩ := List.mem_map.mp hr'
    have hs := hrow r hr r' he.symm
    exact ⟨r, hr, hs.1, hs.2.1⟩
  · obtain ⟨r, hr, he⟩ := List.mem_map.mp hr'
    exact (hrow r hr r' he.symm).2.2

theorem floor_sending {r : JournalEvent} (h : r.state = .sending) :
    r.floor = r.attemptCount - 1 := if_pos h

theorem floor_rest {r : JournalEvent} (h : r.state ≠ .sending) : r.floor = r.attemptCount :=
  if_neg h

theorem Later.recoverExpired (hok : ∀ r ∈ rows, RowOk db r) (nowMs : Int) :
    Later db rows (recoverExpiredLeases rows nowMs) := by
  refine .updateWhere hok fun r hr hc => ⟨rfl, ?_, .pending rfl⟩
  simp only [decide_eq_true_eq] at hc
  have hs : r.floor = r.attemptCount - 1 := floor_sending hc.1
  have hp : ({ r with state := .pending, leaseToken := none, leaseExpiresAtMs := none } :
    JournalEvent).floor = r.attemptCount := floor_rest (fun h => nomatch h)
  omega

theorem Later.recoverUnbound (hok : ∀ r ∈ rows, RowOk db r) :
    Later db rows (recoverUnboundJournal rows) := by
  refine .updateWhere hok fun r hr hc => ?_
  simp only [decide_eq_true_eq] at hc
  exact absurd hc.2 ((hok r hr).code hc.1)

theorem lease_later (hok : ∀ r ∈ rows, RowOk db r) {id token : Uuid} {expiresAtMs : Int}
    {rows' : List JournalEvent} (h : lease rows id token expiresAtMs = some rows') :
    Later db rows rows' := by
  unfold lease at h
  simp only at h
  split at h
  · injection h with h
    rw [← h]
    refine .updateWhere hok fun r hr hc => ⟨rfl, ?_, ?_⟩
    · simp only [decide_eq_true_eq] at hc
      have hp : r.floor = r.attemptCount := floor_rest (by rw [hc.2]; decide)
      have hs : ({ r with
          state := .sending, leaseToken := some token, leaseExpiresAtMs := some expiresAtMs,
          attemptCount := r.attemptCount + 1 } : JournalEvent).floor = r.attemptCount + 1 - 1 :=
        floor_sending rfl
      omega
    · exact ⟨fun _ => Nat.le_add_left 1 _, fun hc => hc.elim (fun h => nomatch h)
        (fun h => nomatch h), fun hc => (nomatch hc), fun hc => (nomatch hc)⟩
  · cases h

theorem leaseWhile_later (hok : ∀ r ∈ rows, RowOk db r) (token : Uuid) (expiresAtMs : Int)
    (candidates : List JournalEvent) :
    Later db rows (leaseWhile token expiresAtMs rows candidates).2 := by
  induction candidates generalizing rows with
  | nil => exact .refl hok
  | cons c cs ih =>
    unfold leaseWhile
    cases hl : lease rows c.event.eventId token expiresAtMs with
    | none => exact .refl hok
    | some rows' =>
      have h₁ : Later db rows rows' := lease_later hok hl
      exact h₁.trans (ih h₁.ok)

theorem leaseWhile_sub (token : Uuid) (expiresAtMs : Int) (candidates : List JournalEvent) :
    ∀ s ∈ (leaseWhile token expiresAtMs rows candidates).1, s ∈ candidates := by
  induction candidates generalizing rows with
  | nil => exact fun s hs => hs
  | cons c cs ih =>
    intro s hs
    unfold leaseWhile at hs
    cases hl : lease rows c.event.eventId token expiresAtMs with
    | none =>
      rw [hl] at hs
      cases hs
    | some rows' =>
      rw [hl] at hs
      rcases List.mem_cons.mp hs with rfl | hs
      · exact List.mem_cons_self ..
      · exact List.mem_cons_of_mem _ (ih s hs)

/-- Rows that leave a lease, by any of the statements that end it. -/
theorem Later.ended (hok : ∀ r ∈ rows, RowOk db r) {cond : JournalEvent → Bool} {token : Uuid}
    {set : JournalEvent → JournalEvent} (hc : ∀ r, cond r = true → r.leasedBy token = true)
    (h : ∀ r ∈ rows, cond r = true → (set r).event = r.event ∧ (set r).state ≠ .sending ∧
      r.attemptCount - 1 ≤ (set r).attemptCount ∧ RowOk db (set r)) :
    Later db rows (Client.updateWhere rows cond set) := by
  refine .updateWhere hok fun r hr hcr => ?_
  obtain ⟨he, hs, ha, ho⟩ := h r hr hcr
  have hl := hc r hcr
  simp only [JournalEvent.leasedBy, decide_eq_true_eq] at hl
  refine ⟨he, ?_, ho⟩
  rw [floor_sending hl.1, floor_rest hs]
  exact ha

theorem leasedBy_of_and {id token : Uuid} (r : JournalEvent)
    (h : decide (r.event.eventId = id ∧ r.leasedBy token = true) = true) :
    r.leasedBy token = true := (of_decide_eq_true h).2

theorem acknowledge_later (hok : ∀ r ∈ rows, RowOk db r) {id token : Uuid} (nowMs : Int)
    (h : Recorded db id) : Later db rows (acknowledge rows id token nowMs) := by
  refine .ended hok leasedBy_of_and fun r hr hc => ⟨rfl, fun h => (nomatch h), by simp, ?_⟩
  have hid : r.event.eventId = id := (of_decide_eq_true hc).1
  exact ⟨fun hc => (nomatch hc), fun _ => hid ▸ h, fun hc => (nomatch hc), fun hc => (nomatch hc)⟩

/-- The end of an attempt; one that gives up is at its eighth. -/
theorem finishAttempt_later (hok : ∀ r ∈ rows, RowOk db r) {id token : Uuid}
    {state : JournalState} {next : Option Int} {code : Option ErrorCode}
    (hs : state ≠ .sending) (hset : state = .acked ∨ state = .conflict → Recorded db id)
    (hdead : state = .deadLetter → Recorded db id ∨
      ∀ r ∈ rows, r.event.eventId = id → r.leasedBy token = true → maxAttempts ≤ r.attemptCount)
    (hcode : state = .deadLetter → code ≠ some (.server .journalResetRequired)) :
    Later db rows (finishAttempt rows id token state next code) := by
  refine .ended hok leasedBy_of_and fun r hr hc => ⟨rfl, hs, by simp, ?_⟩
  obtain ⟨hid, hl⟩ := of_decide_eq_true hc
  refine ⟨fun hc => absurd hc hs, fun hc => hid ▸ hset hc, fun hc => ?_, hcode⟩
  rcases hdead hc with h | h
  · exact Or.inl (hid ▸ h)
  · exact Or.inr (h r hr hid hl)

theorem released_later (hok : ∀ r ∈ rows, RowOk db r) {cond : JournalEvent → Bool} {token : Uuid}
    (hc : ∀ r, cond r = true → r.leasedBy token = true) (code : Option ErrorCode) :
    Later db rows (updateWhere rows cond (JournalEvent.released code)) :=
  .ended hok hc fun _ _ _ => ⟨rfl, fun h => (nomatch h), le_refl _, .pending rfl⟩

theorem deleteTerminal_later (hok : ∀ r ∈ rows, RowOk db r) (ids : List Uuid) :
    Later db rows (deleteTerminal rows ids) :=
  ⟨fun r hr => ⟨r, (List.mem_filter.mp hr).1, rfl, le_refl _⟩, List.filter_sublist.map _,
    fun r hr => hok r (List.mem_filter.mp hr).1⟩

/-- **A retry** gives up only a row with eight attempts. -/
theorem retry_later (hok : ∀ r ∈ rows, RowOk db r) {s : JournalEvent} (hf : Floor rows s)
    (token : Uuid) {code : ErrorCode} (hcode : code ≠ .server .journalResetRequired)
    (retryAfterMs : Option Int) (nowMs : Int) :
    Later db rows (retry rows s token code retryAfterMs nowMs) := by
  have hstate : (afterRetry s.attemptCount retryAfterMs).state =
      if maxAttempts ≤ s.attemptCount + 1 then .deadLetter else .pending := rfl
  refine finishAttempt_later hok ?_ ?_ ?_ ?_
  · rw [hstate]
    split <;> exact fun h => (nomatch h)
  · rw [hstate]
    split <;> exact fun h => by rcases h with h | h <;> cases h
  · rw [hstate]
    split
    next hmax =>
      refine fun _ => Or.inr fun r hr hid hl => ?_
      -- the candidate was read before the lease that is being ended
      have hfloor : s.attemptCount ≤ r.floor := hf r hr hid
      have hsend : r.state = .sending := by
        simp only [JournalEvent.leasedBy, decide_eq_true_eq] at hl
        exact hl.1
      have hone : 1 ≤ r.attemptCount := (hok r hr).leased hsend
      rw [floor_sending hsend] at hfloor
      omega
    next => exact fun h => (nomatch h)
  · exact fun _ h => hcode (Option.some.inj h)

/-- A transaction that treats one candidate after another. -/
theorem foldl_later {f : List JournalEvent → JournalEvent → List JournalEvent}
    {leased : List JournalEvent}
    (hf : ∀ rows s, s ∈ leased → Floor rows s → (∀ r ∈ rows, RowOk db r) →
      Later db rows (f rows s))
    (hok : ∀ r ∈ rows, RowOk db r) (hs : ∀ s ∈ leased, Floor rows s) :
    Later db rows (leased.foldl f rows) := by
  induction leased generalizing rows with
  | nil => exact .refl hok
  | cons s leased ih =>
    have h₁ : Later db rows (f rows s) :=
      hf rows s (List.mem_cons_self ..) (hs s (List.mem_cons_self ..)) hok
    have h₂ := ih (fun rows x hx => hf rows x (List.mem_cons_of_mem _ hx)) h₁.ok
      (fun x hx => (hs x (List.mem_cons_of_mem _ hx)).ages h₁.ages)
    exact h₁.trans h₂

end

/-! ## acknowledgements -/

/-- An acknowledgement that the server has not recorded: the journal is to be bound again, or an
earlier event is to be sent first. -/
def Unrecorded (a : Ack) : Prop :=
  a.outcome = .rejected ∧ (a.error.map ErrorBody.code = some .journalResetRequired ∨
    a.error.map ErrorBody.retryable = some true ∧
      a.error.map ErrorBody.code = some .deviceSequenceGap)

section
variable {db : SyncDb} {rows : List JournalEvent}

/-- **The acknowledgement of one event** ends its row only if the server has recorded it. -/
theorem settleOne_later (hok : ∀ r ∈ rows, RowOk db r) {s : JournalEvent} (hf : Floor rows s)
    {adoptable : JournalEvent → SyncAck → Bool} {response : List Ack} {token : Uuid} {nowMs : Int}
    (hr : ∀ a ∈ response, a.eventId = s.event.eventId →
      Unrecorded a ∨ Recorded db s.event.eventId)
    (hreset : ∀ a ∈ response, a.error.map ErrorBody.code ≠ some .journalResetRequired) :
    Later db rows
      (settleOne adoptable (response.map SyncAck.ofAck) token nowMs rows s) := by
  unfold settleOne
  split
  · exact retry_later hok hf token (by decide) none nowMs
  next ack hack =>
    have hm : ack ∈ response.map SyncAck.ofAck :=
      List.mem_reverse.mp (List.mem_of_find?_eq_some hack)
    obtain ⟨a, ha, rfl⟩ := List.mem_map.mp hm
    have hid : a.eventId = s.event.eventId := by
      have := List.find?_some hack
      exact of_decide_eq_true this
    have hcode : (SyncAck.ofAck a).errorCode ≠ some .journalResetRequired := hreset a ha
    have hserver : ∀ d, d ≠ ErrorCode.server .journalResetRequired →
        ((SyncAck.ofAck a).errorCode.map ErrorCode.server).getD d ≠
          .server .journalResetRequired := by
      intro d hd
      cases hc : (SyncAck.ofAck a).errorCode with
      | none => exact hd
      | some c =>
        rw [hc] at hcode
        exact fun h => hcode (congrArg some (ErrorCode.server.inj h))
    split
    · exact retry_later hok hf token (by decide) none nowMs
    · rcases hr a ha hid with ⟨ho, hu⟩ | hrec
      · -- only a gap is left, and it asks for a retry
        obtain ⟨hretry, -⟩ := hu.resolve_left (hreset a ha)
        have he : (SyncAck.ofAck a).effective = .known .rejected := by
          unfold SyncAck.effective
          have : (SyncAck.ofAck a).outcome = .known .rejected := congrArg WireOutcome.known ho
          rw [this, if_neg (by decide)]
        have hy : (SyncAck.ofAck a).retryable = true := by
          show (a.error.map ErrorBody.retryable).getD false = true
          rw [hretry]
          rfl
        rw [he]
        simp only [hy, Bool.true_eq_false, if_false]
        exact retry_later hok hf token (hserver _ (by decide)) _ nowMs
      · split
        · exact acknowledge_later hok nowMs hrec
        · exact acknowledge_later hok nowMs hrec
        · exact finishAttempt_later hok (by decide) (fun _ => hrec) (fun h => (nomatch h))
            (fun h => (nomatch h))
        · split
          · refine finishAttempt_later hok (by decide) (fun _ => hrec) (fun _ => Or.inl hrec)
              (fun _ hc => ?_)
            obtain ⟨c, hc', he⟩ := Option.map_eq_some_iff.mp hc
            rw [ErrorCode.server.inj he] at hc'
            exact hcode hc'
          · exact retry_later hok hf token (hserver _ (by decide)) _ nowMs
        · exact retry_later hok hf token (by decide) none nowMs

theorem settle_later (hok : ∀ r ∈ rows, RowOk db r) {leased : List JournalEvent}
    (hf : ∀ s ∈ leased, Floor rows s) {adoptable : JournalEvent → SyncAck → Bool}
    {response : List Ack} {token : Uuid} {nowMs : Int}
    (hr : ∀ a ∈ response, ∀ s ∈ leased, a.eventId = s.event.eventId →
      Unrecorded a ∨ Recorded db s.event.eventId) :
    Later db rows (settle adoptable rows leased token (response.map SyncAck.ofAck) nowMs) := by
  unfold settle
  split
  · exact released_later hok (fun _ h => h) none
  next hreset =>
    refine foldl_later (fun rows s hs hfs hok => ?_) hok hf
    refine settleOne_later hok hfs (fun a ha => hr a ha s hs) fun a ha hc => hreset ?_
    exact List.any_eq_true.mpr ⟨_, List.mem_map_of_mem ha, decide_eq_true hc⟩

end

/-! ## the invariant -/

/-- The inbox row is the one of an event of this journal. -/
def Sent (p : Principal) (appended : List Event) (r : InboxRow) : Prop :=
  ∃ e ∈ appended, r.eventId = e.eventId ∧ r.deviceId = p.deviceId ∧
    r.requestHash = e.requestHash ∧ r.deviceSequence = e.deviceSequence.val

/-- A candidate that a worker holds. -/
def Held (w : World) (s : JournalEvent) : Prop := s.event ∈ w.appended ∧ Floor w.rows s

/-- **The invariant of a device and its server.** -/
structure Agrees (p : Principal) (epoch : Uuid) (w : World) : Prop where
  journal : JournalInvariant w.server p epoch
  numbered : ∀ e ∈ w.appended, ∃ n : Nat, e.deviceSequence = .int n ∧ n < w.nextDeviceSequence
  distinct : ∀ a ∈ w.appended, ∀ b ∈ w.appended, a.eventId = b.eventId ∨
    a.idempotencyKey = b.idempotencyKey ∨ a.deviceSequence.val = b.deviceSequence.val → a = b
  inbox : ∀ r ∈ w.server.inbox, (r.deviceId = p.deviceId ∨ ∃ e ∈ w.appended,
    r.eventId = e.eventId) → Sent p w.appended r
  records : ∀ s ∈ w.server.idempotency, s.scope = idempotencyScope p epoch →
    ∃ e ∈ w.appended, s.idempotencyKey = e.idempotencyKey ∧ Recorded w.server e.eventId
  rows : ∀ r ∈ w.rows, r.event ∈ w.appended
  ids : (eventIds w.rows).Nodup
  ok : ∀ r ∈ w.rows, RowOk w.server r
  snapshots : ∀ c ∈ w.snapshots, ∀ s ∈ c, Held w s
  requests : ∀ q ∈ w.requests, ∀ s ∈ q.leased, Held w s
  responses : ∀ a ∈ w.responses, ∃ e ∈ w.appended, a.eventId = e.eventId ∧
    (Unrecorded a ∨ Recorded w.server e.eventId)

theorem Agrees.start {server : SyncDb} {p : Principal} {epoch : Uuid}
    (h : FreshlyBound server p epoch) : Agrees p epoch (.start server) where
  journal := h.invariant
  numbered := fun e he => (nomatch he)
  distinct := fun a ha => (nomatch ha)
  inbox := fun r hr hd => by
    rcases hd with hd | ⟨e, he, -⟩
    · exact absurd hd (h.inbox r hr)
    · cases he
  records := fun s hs hd => absurd hd (h.idempotency s hs)
  rows := fun r hr => (nomatch hr)
  ids := List.nodup_nil
  ok := fun r hr => (nomatch hr)
  snapshots := fun c hc => (nomatch hc)
  requests := fun q hq => (nomatch hq)
  responses := fun a ha => (nomatch ha)

section
variable {env : Env} {p : Principal} {epoch : Uuid} {w : World}

/-! ## steps of the device -/

/-- A statement of the DAO. -/
theorem Agrees.later (h : Agrees p epoch w) {rows : List JournalEvent}
    (hl : Later w.server w.rows rows) : Agrees p epoch { w with rows := rows } where
  journal := h.journal
  numbered := h.numbered
  distinct := h.distinct
  inbox := h.inbox
  records := h.records
  rows := fun r hr => by
    obtain ⟨r₀, h₀, he, -⟩ := hl.ages r hr
    rw [he]
    exact h.rows r₀ h₀
  ids := hl.ids.nodup h.ids
  ok := hl.ok
  snapshots := fun c hc s hs => ⟨(h.snapshots c hc s hs).1, (h.snapshots c hc s hs).2.ages hl.ages⟩
  requests := fun q hq s hs => ⟨(h.requests q hq s hs).1, (h.requests q hq s hs).2.ages hl.ages⟩
  responses := h.responses

/-- A worker reads rows. -/
theorem Agrees.select (h : Agrees p epoch w) (nowMs : Int) :
    Agrees p epoch { w with
      snapshots := w.snapshots ++ [nextPending w.rows nowMs pushBatchLimit] } := by
  refine { h with snapshots := fun c hc s hs => ?_, requests := h.requests }
  rcases List.mem_append.mp hc with hc | hc
  · exact h.snapshots c hc s hs
  rw [List.mem_singleton.mp hc] at hs
  have hm := List.mem_of_mem_take hs
  rw [List.mem_insertionSort] at hm
  obtain ⟨hrow, hp⟩ := List.mem_filter.mp hm
  simp only [decide_eq_true_eq] at hp
  refine ⟨h.rows s hrow, fun r hr hid => ?_⟩
  have he : r = s := List.inj_on_of_nodup_map h.ids hr hrow hid
  have hne : s.state ≠ .sending := by
    rw [hp.1]
    decide
  rw [he, floor_rest hne]

/-- It leases its candidates. -/
theorem Agrees.lease (h : Agrees p epoch w) {candidates : List JournalEvent}
    (hc : candidates ∈ w.snapshots) (token : Uuid) (nowMs : Int) :
    Agrees p epoch { w with
      rows := (leaseWhile token nowMs w.rows candidates).2,
      requests := w.requests ++ [⟨token, (leaseWhile token nowMs w.rows candidates).1⟩] } := by
  have hl : Later w.server w.rows (leaseWhile token nowMs w.rows candidates).2 :=
    leaseWhile_later h.ok token nowMs candidates
  have h' := h.later hl
  refine { h' with requests := fun q hq s hs => ?_ }
  rcases List.mem_append.mp hq with hq | hq
  · exact h'.requests q hq s hs
  rw [List.mem_singleton.mp hq] at hs
  exact h'.snapshots candidates hc s (leaseWhile_sub token nowMs candidates s hs)

/-- A local intent is journaled. -/
theorem Agrees.append (h : Agrees p epoch w) {e : Event}
    (hs : e.deviceSequence = .int w.nextDeviceSequence)
    (hne : ∀ a ∈ w.appended, a.eventId ≠ e.eventId ∧ a.idempotencyKey ≠ e.idempotencyKey)
    (hin : w.server.inbox.find e.eventId = none) :
    Agrees p epoch { w with
      rows := w.rows ++ [.new e], nextDeviceSequence := w.nextDeviceSequence + 1,
      appended := w.appended ++ [e] } := by
  have hmem : ∀ {a}, a ∈ w.appended → a ∈ w.appended ++ [e] := fun ha =>
    List.mem_append.mpr (Or.inl ha)
  have hlast : e ∈ w.appended ++ [e] := List.mem_append.mpr (Or.inr (List.mem_singleton.mpr rfl))
  have hseq : ∀ a ∈ w.appended, a.deviceSequence.val ≠ e.deviceSequence.val := by
    intro a ha
    obtain ⟨n, hn, hlt⟩ := h.numbered a ha
    rw [hn, hs, PyInt.val_int, PyInt.val_int]
    omega
  have hheld : ∀ s, Held w s → Held { w with
      rows := w.rows ++ [.new e], nextDeviceSequence := w.nextDeviceSequence + 1,
      appended := w.appended ++ [e] } s := by
    rintro s ⟨hm, hf⟩
    refine ⟨hmem hm, fun r hr hid => ?_⟩
    rcases List.mem_append.mp hr with hr | hr
    · exact hf r hr hid
    · rw [List.mem_singleton.mp hr] at hid
      exact absurd hid.symm (hne s.event hm).1
  refine ⟨h.journal, fun a ha => ?_, fun a ha b hb hab => ?_, fun r hr hd => ?_,
    fun s hs hd => ?_, fun r hr => ?_, ?_, fun r hr => ?_, fun c hc s hs => ?_,
    fun q hq s hs => ?_, fun a ha => ?_⟩
  · rcases List.mem_append.mp ha with ha | ha
    · obtain ⟨n, hn, hlt⟩ := h.numbered a ha
      exact ⟨n, hn, Nat.lt_succ_of_lt hlt⟩
    · rw [List.mem_singleton.mp ha]
      exact ⟨_, hs, Nat.lt_succ_self _⟩
  · rcases List.mem_append.mp ha with ha | ha <;> rcases List.mem_append.mp hb with hb | hb
    · exact h.distinct a ha b hb hab
    · rw [List.mem_singleton.mp hb] at hab
      rcases hab with hab | hab | hab
      · exact absurd hab (hne a ha).1
      · exact absurd hab (hne a ha).2
      · exact absurd hab (hseq a ha)
    · rw [List.mem_singleton.mp ha] at hab
      rcases hab with hab | hab | hab
      · exact absurd hab.symm (hne b hb).1
      · exact absurd hab.symm (hne b hb).2
      · exact absurd hab.symm (hseq b hb)
    · rw [List.mem_singleton.mp ha, List.mem_singleton.mp hb]
  · have hold : r.deviceId = p.deviceId ∨ ∃ e ∈ w.appended, r.eventId = e.eventId := by
      rcases hd with hd | ⟨a, ha, hid⟩
      · exact Or.inl hd
      · rcases List.mem_append.mp ha with ha | ha
        · exact Or.inr ⟨a, ha, hid⟩
        · rw [List.mem_singleton.mp ha] at hid
          exact absurd hid (Table.find_none.mp hin r hr)
    obtain ⟨a, ha, hrest⟩ := h.inbox r hr hold
    exact ⟨a, hmem ha, hrest⟩
  · obtain ⟨a, ha, hrest⟩ := h.records s hs hd
    exact ⟨a, hmem ha, hrest⟩
  · rcases List.mem_append.mp hr with hr | hr
    · exact hmem (h.rows r hr)
    · rw [List.mem_singleton.mp hr]
      exact hlast
  · show ((w.rows ++ [JournalEvent.new e]).map _).Nodup
    rw [List.map_append, List.nodup_append]
    refine ⟨h.ids, by simp, fun a ha b hb => ?_⟩
    obtain ⟨r, hr, rfl⟩ := List.mem_map.mp ha
    rw [show b = e.eventId by simpa [JournalEvent.new] using hb]
    exact (hne r.event (h.rows r hr)).1
  · rcases List.mem_append.mp hr with hr | hr
    · exact h.ok r hr
    · rw [List.mem_singleton.mp hr]
      exact .pending rfl
  · exact hheld s (h.snapshots c hc s hs)
  · exact hheld s (h.requests q hq s hs)
  · obtain ⟨a', ha', hrest⟩ := h.responses a ha
    exact ⟨a', hmem ha', hrest⟩

/-! ## steps of the server -/

theorem Recorded.step {db : SyncDb} {id : Uuid} (h : Recorded db id) (c : PushCall) :
    Recorded (pushStep env db c) id := by
  obtain ⟨r, hr⟩ := Option.isSome_iff_exists.mp h
  have hm : r ∈ (pushStep env db c).inbox := mem_inbox_step (Table.mem_of_find hr)
  have hf : (pushStep env db c).inbox.find r.eventId = some r := Table.find_mem hm
  rw [show r.eventId = id from Table.key_of_find hr] at hf
  exact Option.isSome_iff_exists.mpr ⟨r, hf⟩

/-- **A transaction of the server**, of this device on one of its events or of another device. -/
theorem Agrees.server (h : Agrees p epoch w) (c : PushCall)
    (hc : (c.principal = p ∧ c.epoch = epoch ∧ c.event ∈ w.appended) ∨
      (c.principal.deviceId ≠ p.deviceId ∧ ∀ a ∈ w.appended, a.eventId ≠ c.event.eventId)) :
    Agrees p epoch { w with server := pushStep env w.server c } := by
  have hok : ∀ r, RowOk w.server r → RowOk (pushStep env w.server c) r := fun r hr =>
    ⟨hr.leased, fun hs => (hr.settled hs).step c,
      fun hs => (hr.givenUp hs).imp (fun hx => hx.step c) id, hr.code⟩
  have hresp : ∀ a ∈ w.responses, ∃ e ∈ w.appended, a.eventId = e.eventId ∧
      (Unrecorded a ∨ Recorded (pushStep env w.server c) e.eventId) := by
    intro a ha
    obtain ⟨e, he, hid, hr⟩ := h.responses a ha
    exact ⟨e, he, hid, hr.imp id (fun hx => hx.step c)⟩
  refine ⟨h.journal.step, h.numbered, h.distinct, fun r hr hd => ?_, fun s hs hd => ?_, h.rows,
    h.ids, fun r hr => hok r (h.ok r hr), h.snapshots, h.requests, hresp⟩
  · rcases pushStep_cases env w.server c with hst | ⟨ack, db₁, -, cursor, sequence, hn, -, -, hrec⟩
    · rw [hst] at hr
      exact h.inbox r hr hd
    · obtain ⟨schema, base, hm⟩ := mem_inbox_recorded hrec
      rcases (hm r).mp hr with hr | rfl
      · exact h.inbox r hr hd
      · rcases hc with ⟨hp, -, he⟩ | ⟨hp, he⟩
        · refine ⟨c.event, he, rfl, congrArg Principal.deviceId hp, rfl, ?_⟩
          show sequence = _
          rw [(PyInt.toBigint_ok.mp hn.bound).1]
          rfl
        · rcases hd with hd | ⟨a, ha, hid⟩
          · exact absurd hd hp
          · exact absurd hid.symm (he a ha)
  · rcases pushStep_cases env w.server c with hst | ⟨ack, db₁, -, cursor, sequence, hn, -, -, hrec⟩
    · rw [hst] at hs
      obtain ⟨e, he, hk, hr⟩ := h.records s hs hd
      exact ⟨e, he, hk, hr.step c⟩
    · rw [Table.mem_def, hrec.idempotency, List.mem_append, List.mem_singleton] at hs
      rcases hs with hs | rfl
      · obtain ⟨e, he, hk, hr⟩ := h.records s hs hd
        exact ⟨e, he, hk, hr.step c⟩
      · rcases hc with ⟨-, -, he⟩ | ⟨hp, -⟩
        · obtain ⟨schema, base, hm⟩ := mem_inbox_recorded hrec
          refine ⟨c.event, he, rfl, Option.isSome_iff_exists.mpr ⟨_, Table.find_mem
            ((hm _).mpr (Or.inr rfl))⟩⟩
        · exact absurd (congrArg IdempotencyScope.deviceId hd) hp

/-- **What the server answers** to an event of the journal: it has recorded it, or asks for the
journal to be bound again, or for an earlier event. -/
theorem Agrees.answer (h : Agrees p epoch w) {e : Event} (he : e ∈ w.appended) {now : Int}
    {requestId : Uuid} {ack : Ack} {db : SyncDb}
    (hr : pushOne env w.server p epoch e now requestId = .ok (ack, db)) :
    ack.eventId = e.eventId ∧ (Unrecorded ack ∨ Recorded db e.eventId) := by
  rcases pushOne_cases hr with ⟨code, retryable, ht, rfl, rfl⟩ | ⟨stored, rfl, rfl, hs⟩ |
    ⟨cursor, sequence, hn, ha⟩
  · refine ⟨rfl, ?_⟩
    cases ht with
    | unbound => exact Or.inl ⟨rfl, Or.inl rfl⟩
    | gap => exact Or.inl ⟨rfl, Or.inr ⟨rfl, rfl⟩⟩
    | hash r hf hh =>
      -- the row of an event of this journal has its hash
      have hid : r.eventId = e.eventId := Table.key_of_find hf
      obtain ⟨a, ha, hia, -, hha, -⟩ := h.inbox r (Table.mem_of_find hf) (Or.inr ⟨e, he, hid⟩)
      have : a = e := h.distinct a ha e he (Or.inl (hia.symm.trans hid))
      rw [this] at hha
      exact absurd hha hh
    | sequence n r hi hb hf =>
      -- the row of that number is the one of the event itself
      have hm : r ∈ w.server.inbox := List.mem_of_find?_eq_some hf
      have hp := List.find?_some hf
      simp only [decide_eq_true_eq] at hp
      obtain ⟨a, ha, hia, -, -, hsa⟩ := h.inbox r hm (Or.inl hp.1)
      have hn : e.deviceSequence.val = n := by
        rw [(PyInt.toBigint_ok.mp hb).1]
        rfl
      have : a = e := h.distinct a ha e he (Or.inr (Or.inr (hsa.symm.trans (hp.2.trans hn.symm))))
      rw [this] at hia
      exact absurd hia (Table.find_none.mp hi r hm)
    | key s hi hf hh =>
      obtain ⟨hm, hk⟩ := Table.find_some.mp hf
      obtain ⟨hscope, hkey⟩ := Prod.mk.inj hk
      obtain ⟨a, ha, hka, hra⟩ := h.records s hm hscope
      have : a = e := h.distinct a ha e he (Or.inr (Or.inl (hka.symm.trans hkey)))
      rw [this] at hra
      unfold Recorded at hra
      rw [hi] at hra
      cases hra
  · refine ⟨rfl, Or.inr ?_⟩
    rcases hs with ⟨r, hm, hid, -⟩ | ⟨s, hi, hf, -⟩
    · exact Option.isSome_iff_exists.mpr ⟨r, Table.find_some.mpr ⟨hm, hid⟩⟩
    · obtain ⟨hm, hk⟩ := Table.find_some.mp hf
      obtain ⟨hscope, hkey⟩ := Prod.mk.inj hk
      obtain ⟨a, ha, hka, hra⟩ := h.records s hm hscope
      have : a = e := h.distinct a ha e he (Or.inr (Or.inl (hka.symm.trans hkey)))
      rw [this] at hra
      exact hra
  · obtain ⟨db₁, h₁, -, hrec⟩ := accept_ok ha
    obtain ⟨schema, base, hm⟩ := mem_inbox_recorded hrec
    refine ⟨?_, Or.inr (Option.isSome_iff_exists.mpr ⟨_, Table.find_mem
      ((hm _).mpr (Or.inr rfl))⟩)⟩
    cases (applyEvent_projected h₁).answer <;> rfl

/-! ## runs -/

/-- **Every action keeps the agreement.** -/
theorem Agrees.act (h : Agrees p epoch w) {a : Action} {w' : World}
    (ha : w.act env p epoch a = some w') : Agrees p epoch w' := by
  cases a with
  | append e =>
    obtain ⟨hc, ha⟩ := Option.ite_none_right_eq_some.mp ha
    cases ha
    exact h.append hc.1 hc.2.1 (Option.isNone_iff_eq_none.mp hc.2.2)
  | recoverExpired nowMs =>
    cases ha
    exact h.later (.recoverExpired h.ok nowMs)
  | recoverUnbound =>
    cases ha
    exact h.later (.recoverUnbound h.ok)
  | select nowMs =>
    cases ha
    exact h.select nowMs
  | lease i token nowMs =>
    obtain ⟨candidates, hc, ha⟩ := Option.bind_eq_some_iff.mp ha
    cases ha
    exact h.lease (List.mem_of_getElem? hc) token (nowMs + leaseMs)
  | serve i j now requestId =>
    obtain ⟨request, hq, ha⟩ := Option.bind_eq_some_iff.mp ha
    obtain ⟨event, he, ha⟩ := Option.bind_eq_some_iff.mp ha
    have hm : event.event ∈ w.appended :=
      (h.requests request (List.mem_of_getElem? hq) event (List.mem_of_getElem? he)).1
    cases hr : pushOne env w.server p epoch event.event now requestId with
    | error f =>
      rw [hr] at ha
      cases ha
      exact h
    | ok r =>
      obtain ⟨ack, db⟩ := r
      rw [hr] at ha
      cases ha
      have hdb : pushStep env w.server ⟨p, epoch, event.event, now, requestId⟩ = db := by
        unfold pushStep PushCall.result
        rw [hr]
        rfl
      have hs : Agrees p epoch { w with
          server := pushStep env w.server ⟨p, epoch, event.event, now, requestId⟩ } :=
        h.server _ (Or.inl ⟨rfl, rfl, hm⟩)
      rw [hdb] at hs
      refine { hs with responses := fun a ha => ?_ }
      rcases List.mem_append.mp ha with ha | ha
      · exact hs.responses a ha
      · rw [List.mem_singleton.mp ha]
        exact ⟨event.event, hm, h.answer hm hr⟩
  | other c =>
    obtain ⟨hc, ha⟩ := Option.ite_none_right_eq_some.mp ha
    cases ha
    exact h.server c (Or.inr hc)
  | settle i acks adoptable nowMs =>
    obtain ⟨request, hq, ha⟩ := Option.bind_eq_some_iff.mp ha
    cases ha
    have hheld := h.requests request (List.mem_of_getElem? hq)
    refine h.later (settle_later h.ok (fun s hs => (hheld s hs).2) fun a ha s hs hid => ?_)
    obtain ⟨k, -, hk⟩ := List.mem_filterMap.mp ha
    obtain ⟨e, he, hide, hr⟩ := h.responses a (List.mem_of_getElem? hk)
    have hse : e = s.event := h.distinct e he s.event (hheld s hs).1 (Or.inl (hide.symm.trans hid))
    rw [hse] at hr
    exact hr
  | networkFailed i nowMs =>
    obtain ⟨request, hq, ha⟩ := Option.bind_eq_some_iff.mp ha
    cases ha
    have hheld := h.requests request (List.mem_of_getElem? hq)
    exact h.later (foldl_later (fun rows s _ hf hok => retry_later hok hf _ (by decide) none nowMs)
      h.ok (fun s hs => (hheld s hs).2))
  | sessionRequired i =>
    obtain ⟨request, hq, ha⟩ := Option.bind_eq_some_iff.mp ha
    cases ha
    have hheld := h.requests request (List.mem_of_getElem? hq)
    exact h.later (foldl_later
      (fun rows s _ _ hok => released_later hok leasedBy_of_and (some .sessionRequired))
      h.ok (fun s hs => (hheld s hs).2))
  | release i =>
    obtain ⟨request, hq, ha⟩ := Option.bind_eq_some_iff.mp ha
    cases ha
    exact h.later (released_later h.ok (fun _ hx => hx) none)
  | compact ids =>
    cases ha
    exact h.later (deleteTerminal_later h.ok ids)

theorem Agrees.run (h : Agrees p epoch w) {actions : List Action} {w' : World}
    (hr : actions.foldlM (World.act env p epoch) w = some w') : Agrees p epoch w' := by
  induction actions generalizing w with
  | nil =>
    cases hr
    exact h
  | cons a actions ih =>
    obtain ⟨w₁, h₁, hr⟩ := Option.bind_eq_some_iff.mp hr
    exact ih (h.act h₁) hr

/-- What the server has recorded of a journal is behind its acknowledged sequence. -/
theorem Agrees.behind (h : Agrees p epoch w) {e : Event} (he : e ∈ w.appended)
    (hr : Recorded w.server e.eventId) :
    ∃ cursor, w.server.cursors.find p.deviceId = some cursor ∧
      e.deviceSequence.val ≤ cursor.lastAckedDeviceSequence := by
  obtain ⟨r, hf⟩ := Option.isSome_iff_exists.mp hr
  have hid : r.eventId = e.eventId := Table.key_of_find hf
  have hm : r ∈ w.server.inbox := Table.mem_of_find hf
  obtain ⟨a, ha, hia, hdev, -, hseq⟩ := h.inbox r hm (Or.inr ⟨e, he, hid⟩)
  have hae : a = e := h.distinct a ha e he (Or.inl (hia.symm.trans hid))
  rw [hae] at hseq
  obtain ⟨cursor, hc, -, h0, hd⟩ := h.journal.ordered
  refine ⟨cursor, hc, ?_⟩
  have hin : r.deviceSequence ∈ deviceSequences w.server p.deviceId :=
    List.mem_map.mpr ⟨r, List.mem_filter.mpr ⟨hm, by simpa using hdev⟩, rfl⟩
  rw [hd, hseq] at hin
  obtain ⟨i, hi, hi'⟩ := List.mem_map.mp hin
  have := List.mem_range.mp hi
  omega

end

/-- **Journal agreement.**  In every reachable state of a device and its server, an event that is
terminal on the device is behind the acknowledged sequence of the server, or it was given up after
its eight attempts. -/
theorem terminal_acknowledged (env : Env) (p : Principal) (epoch : Uuid) (server : SyncDb)
    (h : FreshlyBound server p epoch) (actions : List Action) (w : World)
    (hr : actions.foldlM (World.act env p epoch) (.start server) = some w) (r : JournalEvent)
    (hm : r ∈ w.rows) (ht : r.state.Terminal) :
    (∃ cursor, w.server.cursors.find p.deviceId = some cursor ∧
        r.deviceSequence ≤ cursor.lastAckedDeviceSequence) ∨
      (r.state = .deadLetter ∧ maxAttempts ≤ r.attemptCount) := by
  have ha : Agrees p epoch w := (Agrees.start h).run hr
  have hrow := ha.ok r hm
  rcases ht with ht | ht | ht
  · exact Or.inl (ha.behind (ha.rows r hm) (hrow.settled (Or.inl ht)))
  · exact Or.inl (ha.behind (ha.rows r hm) (hrow.settled (Or.inr ht)))
  · exact (hrow.givenUp ht).imp (fun hrec => ha.behind (ha.rows r hm) hrec) (fun h8 => ⟨ht, h8⟩)

namespace Sample
open Sync.Sample

/-- One event is journaled, sent, applied and acknowledged. -/
def delivered : List Action :=
  [.append createList, .select 0, .lease 0 request 0, .serve 0 0 0 request,
    .settle 0 [0] (fun _ _ => true) 0]

/-- One event is journaled, and eight requests fail on the network. -/
def givenUp : List Action :=
  .append createList :: (List.range 8).flatMap (fun i : Nat =>
    [.select (i * 3600000), .lease i request (i * 3600000), .networkFailed i (i * 3600000)])

def run (actions : List Action) : Option World :=
  actions.foldlM (World.act env owner journal) (.start bound)

end Sample

theorem terminal_acknowledged_delivered :
    ∃ w, Sample.run Sample.delivered = some w ∧ ∃ r ∈ w.rows, r.state.Terminal ∧
      ((∃ cursor, w.server.cursors.find Sync.Sample.owner.deviceId = some cursor ∧
          r.deviceSequence ≤ cursor.lastAckedDeviceSequence) ∨
        (r.state = .deadLetter ∧ maxAttempts ≤ r.attemptCount)) := by
  have hw : ((Sample.run Sample.delivered).map (fun w =>
      w.rows.any (fun r => r.state.Terminal))) = some true := by decide
  obtain ⟨w, hr, hany⟩ := Option.map_eq_some_iff.mp hw
  obtain ⟨r, hm, ht⟩ := List.any_eq_true.mp hany
  have ht' : r.state.Terminal := of_decide_eq_true ht
  exact ⟨w, hr, r, hm, ht', terminal_acknowledged Sync.Sample.env Sync.Sample.owner
    Sync.Sample.journal Sync.Sample.bound Sync.Sample.bound_fresh Sample.delivered w hr r hm ht'⟩

/-- An event that the device has given up while the server still expects it. -/
theorem given_up_unacknowledged :
    ¬ ∀ actions w, Sample.run actions = some w → ∀ r ∈ w.rows, r.state.Terminal →
      ∃ cursor, w.server.cursors.find Sync.Sample.owner.deviceId = some cursor ∧
        r.deviceSequence ≤ cursor.lastAckedDeviceSequence := by
  intro h
  have hw : ((Sample.run Sample.givenUp).map (fun w => w.rows.any (fun r =>
      decide r.state.Terminal && (w.server.cursors.find Sync.Sample.owner.deviceId).all
        (fun c => decide (¬ r.deviceSequence ≤ c.lastAckedDeviceSequence))))) = some true := by
    decide
  obtain ⟨w, hr, hany⟩ := Option.map_eq_some_iff.mp hw
  obtain ⟨r, hm, hb⟩ := List.any_eq_true.mp hany
  rw [Bool.and_eq_true] at hb
  obtain ⟨cursor, hc, hle⟩ := h _ w hr r hm (of_decide_eq_true hb.1)
  rw [hc] at hb
  exact of_decide_eq_true hb.2 hle

end AutPlay.Client
