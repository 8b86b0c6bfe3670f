import AutPlay.Lib.Run
import AutPlay.Sync.Effects

/-!
# The ordered inbox

A device journal is one ordered stream: `_push_one` accepts an event exactly when five checks against
the cursor, the inbox and the idempotency records pass (`Next`), and otherwise leaves the database
as it is.

* `pushOne_cases`        what a transaction can do;
* `JournalInvariant`     the inbox of a device is `1, …, last_acked_device_sequence`, each row with
                         its terminal acknowledgement, each idempotency record with its row;
* `push_calls`           a batch is a run of `pushStep`;
* `inbox_exactly_once`   every run of transactions, of any devices in any order, records and projects
                         each event at most once.
-/

set_option linter.unusedSectionVars false

namespace AutPlay.Sync
open Result

/-- One transaction of a push request. -/
structure PushCall where
  principal : Principal
  epoch : Uuid
  event : Event
  now : Int
  requestId : Uuid

/-- The outcome of the transaction. -/
def PushCall.result (env : Env) (db : SyncDb) (c : PushCall) : Except Abort (Ack × SyncDb) :=
  pushOne env db c.principal c.epoch c.event c.now c.requestId

/-- The database after the transaction, committed or rolled back. -/
def pushStep (env : Env) (db : SyncDb) (c : PushCall) : SyncDb := commit db (c.result env db)

/-- The checks that let an event into the inbox: the journal is bound, the event, its sequence
number and its idempotency key are unknown, and it is the next one. -/
structure Next (db : SyncDb) (p : Principal) (epoch : Uuid) (e : Event) (cursor : CursorRow)
    (sequence : Int) : Prop where
  found : db.cursors.find p.deviceId = some cursor
  sameEpoch : cursor.journalEpoch = some epoch
  fresh : db.inbox.find e.eventId = none
  bound : e.deviceSequence.toBigint = .ok sequence
  free : sameSequence db p sequence = none
  key : ∀ record, idempotencyRecord db p epoch e = some record → record.responseReference = none
  expected : sequence = cursor.lastAckedDeviceSequence + 1

/-- What the acceptance of an event records besides its projection. -/
structure Recorded (db db' : SyncDb) (p : Principal) (epoch : Uuid) (cursor : CursorRow)
    (e : Event) (sequence : Int) (ack : Ack) : Prop where
  inbox : ∃ schemaVersion base, db'.inbox.rows =
    db.inbox.rows ++ [inboxRow p e sequence schemaVersion base ack]
  idempotency : db'.idempotency.rows = db.idempotency.rows ++
    [⟨idempotencyScope p epoch, e.idempotencyKey, e.requestHash, some ack⟩]
  cursors : db.cursors.update { cursor with lastAckedDeviceSequence := sequence } = .ok db'.cursors

/-- `db'` is `db` but for the journal. -/
def SameProjections (db db' : SyncDb) : Prop :=
  db' = { db with inbox := db'.inbox, idempotency := db'.idempotency, cursors := db'.cursors }

/-- Why an event is turned away, with the code and whether to send it again. -/
inductive TurnedAway (db : SyncDb) (p : Principal) (epoch : Uuid) (e : Event) :
    RejectCode → Bool → Prop
  | unbound : TurnedAway db p epoch e .journalResetRequired false
  | hash (r : InboxRow) (h : db.inbox.find e.eventId = some r)
      (hh : r.requestHash ≠ e.requestHash) : TurnedAway db p epoch e .eventHashMismatch false
  | sequence (n : Int) (r : InboxRow) (hi : db.inbox.find e.eventId = none)
      (hb : e.deviceSequence.toBigint = .ok n) (h : sameSequence db p n = some r) :
      TurnedAway db p epoch e .deviceSequenceReuse false
  | key (s : IdempotencyRow) (hi : db.inbox.find e.eventId = none)
      (h : idempotencyRecord db p epoch e = some s) (hh : s.requestHash ≠ e.requestHash) :
      TurnedAway db p epoch e .idempotencyKeyReuse false
  | gap : TurnedAway db p epoch e .deviceSequenceGap true

section
variable {env : Env} {db db' : SyncDb} {p : Principal} {epoch : Uuid} {e : Event} {now : Int}
  {requestId : Uuid} {ack : Ack} {cursor : CursorRow} {sequence : Int}

theorem insertInbox_ok (h : db.insertInbox p e sequence ack = .ok db') :
    ∃ schemaVersion base t, e.storable = true ∧ e.schemaVersion.toInteger = .ok schemaVersion ∧
      e.baseVersion.mapM PyInt.toBigint = .ok base ∧
      db.inbox.insert (inboxRow p e sequence schemaVersion base ack) = .ok t ∧
      db' = { db with inbox := t } := by
  unfold SyncDb.insertInbox at h
  by_cases hs : e.storable = true
  · simp only [hs, if_true] at h
    obtain ⟨schemaVersion, h₁, h⟩ := bind_eq_ok.mp h
    obtain ⟨base, h₂, h⟩ := bind_eq_ok.mp h
    obtain ⟨t, h₃, h⟩ := bind_pure_eq_ok.mp h
    exact ⟨schemaVersion, base, t, hs, h₁, h₂, insertInto_ok.mp h₃, h⟩
  · simp only [hs] at h
    cases h

/-- The acceptance of an event: its projection, then its records. -/
theorem accept_ok (h : accept env db p epoch cursor e sequence now requestId = .ok (ack, db')) :
    ∃ db₁, applyEvent env db p e now requestId = .ok (ack, db₁) ∧
      SameProjections db₁ db' ∧ Recorded db db' p epoch cursor e sequence ack := by
  obtain ⟨⟨ack₁, db₁⟩, h₁, h⟩ := bind_eq_ok.mp h
  obtain ⟨db₂, h₂, h⟩ := bind_eq_ok.mp h
  obtain ⟨records, h₃, h⟩ := bind_eq_ok.mp h
  obtain ⟨cursors, h₄, h⟩ := bind_eq_ok.mp h
  cases h
  have hj := (applyEvent_projected h₁).journal
  obtain ⟨schemaVersion, base, t, -, -, -, hi, rfl⟩ := insertInbox_ok h₂
  refine ⟨db₁, h₁, rfl, ⟨⟨schemaVersion, base, ?_⟩, ?_, ?_⟩⟩
  · show t.rows = _
    rw [(Table.insert_ok.mp hi).2.2, hj.inbox]
  · have hr := (Table.insert_ok.mp (insertInto_ok.mp h₃)).2.2
    simp only at hr
    rw [hr, hj.idempotency]
  · have hc := updateIn_ok.mp h₄
    rw [show _ = db.cursors from hj.cursors] at hc
    exact hc

/-- **What a transaction can do**: turn the event away, replay a stored acknowledgement, or accept
the event.  Only the last one changes the database. -/
theorem pushOne_cases (h : pushOne env db p epoch e now requestId = .ok (ack, db')) :
    (∃ code retryable, TurnedAway db p epoch e code retryable ∧
      ack = rejected e code requestId retryable ∧ db' = db) ∨
    (∃ stored, ack = duplicate stored e ∧ db' = db ∧
      ((∃ r ∈ db.inbox, r.eventId = e.eventId ∧ r.requestHash = e.requestHash ∧
          r.terminalAck = some stored) ∨
        ∃ s, db.inbox.find e.eventId = none ∧ idempotencyRecord db p epoch e = some s ∧
          s.requestHash = e.requestHash ∧ s.responseReference = some stored)) ∨
    (∃ cursor sequence, Next db p epoch e cursor sequence ∧
      accept env db p epoch cursor e sequence now requestId = .ok (ack, db')) := by
  unfold pushOne at h
  simp only at h
  cases hc : db.cursors.find p.deviceId with
  | none =>
    rw [hc] at h
    cases h
    exact Or.inl ⟨.journalResetRequired, false, .unbound, rfl, rfl⟩
  | some cursor =>
    rw [hc] at h
    simp only at h
    by_cases he : cursor.journalEpoch = some epoch
    · simp only [he, ne_eq, not_true_eq_false, if_false] at h
      cases hi : db.inbox.find e.eventId with
      | some existing =>
        obtain ⟨hm, hk⟩ := Table.find_some.mp hi
        rw [hi] at h
        simp only at h
        by_cases hh : existing.requestHash = e.requestHash
        · simp only [hh, not_true_eq_false, if_false] at h
          cases ht : existing.terminalAck with
          | none =>
            rw [ht] at h
            cases h
          | some stored =>
            rw [ht] at h
            cases h
            exact Or.inr (Or.inl ⟨stored, rfl, rfl, Or.inl ⟨existing, hm, hk, hh, ht⟩⟩)
        · simp only [hh, not_false_eq_true, if_true] at h
          cases h
          exact Or.inl ⟨.eventHashMismatch, false, .hash existing hi hh, rfl, rfl⟩
      | none =>
        rw [hi] at h
        obtain ⟨sequence, hb, h⟩ := bind_eq_ok.mp h
        by_cases hs : (sameSequence db p sequence).isSome
        · simp only [hs, if_true] at h
          cases h
          obtain ⟨r, hr⟩ := Option.isSome_iff_exists.mp hs
          exact Or.inl ⟨.deviceSequenceReuse, false, .sequence sequence r hi hb hr, rfl, rfl⟩
        · simp only [hs] at h
          have hfree : sameSequence db p sequence = none := by simpa using hs
          have hnext : ∀ (hkey : ∀ record, idempotencyRecord db p epoch e = some record →
              record.responseReference = none),
              (if sequence ≠ cursor.lastAckedDeviceSequence + 1 then
                .ok (rejected e .deviceSequenceGap requestId true, db)
              else accept env db p epoch cursor e sequence now requestId) = .ok (ack, db') →
              (∃ code retryable, TurnedAway db p epoch e code retryable ∧
                ack = rejected e code requestId retryable ∧ db' = db) ∨
              (∃ cursor sequence, Next db p epoch e cursor sequence ∧
                accept env db p epoch cursor e sequence now requestId = .ok (ack, db')) := by
            intro hkey h
            by_cases hx : sequence = cursor.lastAckedDeviceSequence + 1
            · rw [if_neg (not_not.mpr hx)] at h
              exact Or.inr ⟨cursor, sequence, ⟨hc, he, hi, hb, hfree, hkey, hx⟩, h⟩
            · rw [if_pos hx] at h
              cases h
              exact Or.inl ⟨.deviceSequenceGap, true, .gap, rfl, rfl⟩
          cases hr : idempotencyRecord db p epoch e with
          | none =>
            rw [hr] at h
            have hkey : ∀ record, idempotencyRecord db p epoch e = some record →
                record.responseReference = none := by simp [hr]
            rcases hnext hkey h with h | h
            · exact Or.inl h
            · exact Or.inr (Or.inr h)
          | some record =>
            rw [hr] at h
            simp only [Bool.false_eq_true, if_false] at h
            by_cases hh : record.requestHash = e.requestHash
            · simp only [hh, not_true_eq_false, if_false] at h
              cases ht : record.responseReference with
              | some stored =>
                rw [ht] at h
                cases h
                exact Or.inr (Or.inl ⟨stored, rfl, rfl, Or.inr ⟨record, rfl, rfl, hh, ht⟩⟩)
              | none =>
                rw [ht] at h
                have hkey : ∀ record', idempotencyRecord db p epoch e = some record' →
                    record'.responseReference = none := by
                  intro record' h'
                  rw [hr] at h'
                  cases h'
                  exact ht
                rcases hnext hkey h with h | h
                · exact Or.inl h
                · exact Or.inr (Or.inr h)
            · simp only [hh, not_false_eq_true, if_true] at h
              cases h
              exact Or.inl ⟨.idempotencyKeyReuse, false, .key record hi hr hh, rfl, rfl⟩
    · simp only [he, ne_eq, not_false_eq_true, if_true] at h
      cases h
      exact Or.inl ⟨.journalResetRequired, false, .unbound, rfl, rfl⟩

end

/-! ## the invariant of a journal -/

/-- The sequence numbers `1, …, n`. -/
def upTo (n : Int) : List Int := (List.range n.toNat).map (fun i : Nat => (i : Int) + 1)

theorem upTo_succ {n : Int} (h : 0 ≤ n) : upTo (n + 1) = upTo n ++ [n + 1] := by
  unfold upTo
  have hn : (n + 1).toNat = n.toNat + 1 := by omega
  rw [hn, List.range_succ, List.map_append, List.map_singleton]
  congr 2
  omega

/-- The sequence numbers that a device has in the inbox, in the order they were recorded. -/
def deviceSequences (db : SyncDb) (deviceId : Uuid) : List Int :=
  (db.inbox.rows.filter (fun r => r.deviceId = deviceId)).map InboxRow.deviceSequence

/-- **The invariant of a journal** that is bound to `epoch`. -/
structure JournalInvariant (db : SyncDb) (p : Principal) (epoch : Uuid) : Prop where
  ordered : ∃ cursor, db.cursors.find p.deviceId = some cursor ∧
    cursor.journalEpoch = some epoch ∧ 0 ≤ cursor.lastAckedDeviceSequence ∧
    deviceSequences db p.deviceId = upTo cursor.lastAckedDeviceSequence
  recorded : ∀ r ∈ db.inbox, r.deviceId = p.deviceId →
    ∃ ack, r.terminalAck = some ack ∧ ack.outcome = r.applyStatus ∧ r.applyStatus.Terminal
  replayable : ∀ s ∈ db.idempotency, s.scope = idempotencyScope p epoch →
    ∃ r ∈ db.inbox, r.deviceId = p.deviceId ∧ r.requestHash = s.requestHash ∧
      r.terminalAck = s.responseReference

/-- A device that is bound and has not pushed yet. -/
structure FreshlyBound (db : SyncDb) (p : Principal) (epoch : Uuid) : Prop where
  cursor : ∃ cursor, db.cursors.find p.deviceId = some cursor ∧
    cursor.journalEpoch = some epoch ∧ cursor.lastAckedDeviceSequence = 0
  inbox : ∀ r ∈ db.inbox, r.deviceId ≠ p.deviceId
  idempotency : ∀ s ∈ db.idempotency, s.scope ≠ idempotencyScope p epoch

theorem FreshlyBound.invariant {db : SyncDb} {p : Principal} {epoch : Uuid}
    (h : FreshlyBound db p epoch) : JournalInvariant db p epoch := by
  obtain ⟨cursor, hf, he, hz⟩ := h.cursor
  have hn : db.inbox.rows.filter (fun r => r.deviceId = p.deviceId) = [] := by
    rw [List.filter_eq_nil_iff]
    intro r hr
    simpa using h.inbox r hr
  refine ⟨⟨cursor, hf, he, by omega, ?_⟩, ?_, ?_⟩
  · unfold deviceSequences
    rw [hn, hz]
    rfl
  · intro r hr hd
    exact absurd hd (h.inbox r hr)
  · intro s hs hd
    exact absurd hd (h.idempotency s hs)

section
variable {env : Env} {db db' : SyncDb} {p : Principal} {epoch : Uuid} {c : PushCall}

theorem mem_inbox_recorded {q : Principal} {epoch' : Uuid} {cursor : CursorRow} {e : Event}
    {sequence : Int} {ack : Ack} (h : Recorded db db' q epoch' cursor e sequence ack) :
    ∃ schemaVersion base, ∀ r, r ∈ db'.inbox ↔
      r ∈ db.inbox ∨ r = inboxRow q e sequence schemaVersion base ack := by
  obtain ⟨schemaVersion, base, hr⟩ := h.inbox
  refine ⟨schemaVersion, base, fun r => ?_⟩
  rw [Table.mem_def, hr, List.mem_append, List.mem_singleton]
  rfl

/-- The acceptance of an event keeps the invariant of every journal. -/
theorem JournalInvariant.recorded_step (h : JournalInvariant db p epoch) {q : Principal}
    {epoch' : Uuid} {e : Event} {cursor : CursorRow} {sequence : Int} {ack : Ack}
    (hnext : Next db q epoch' e cursor sequence) (hack : ack.outcome.Terminal)
    (hr : Recorded db db' q epoch' cursor e sequence ack) : JournalInvariant db' p epoch := by
  obtain ⟨own, hf, he, h0, hd⟩ := h.ordered
  obtain ⟨schemaVersion, base, hrows⟩ := hr.inbox
  have hmem : ∀ r, r ∈ db'.inbox ↔
      r ∈ db.inbox ∨ r = inboxRow q e sequence schemaVersion base ack := by
    intro r
    rw [Table.mem_def, hrows, List.mem_append, List.mem_singleton]
    rfl
  have hkey : cursor.deviceId = q.deviceId := Table.key_of_find hnext.found
  refine ⟨?_, ?_, ?_⟩
  · have hfind := Table.find_update hr.cursors p.deviceId
    by_cases hq : q.deviceId = p.deviceId
    · have hown : cursor = own := by
        have hc := hnext.found
        rw [hq, hf] at hc
        exact (Option.some.inj hc).symm
      subst hown
      have hs : Schema.key { cursor with lastAckedDeviceSequence := sequence } = p.deviceId :=
        hkey.trans hq
      rw [if_pos hs, hf] at hfind
      have hx := hnext.expected
      refine ⟨_, hfind, he, by simp only; omega, ?_⟩
      simp only
      unfold deviceSequences at hd ⊢
      rw [hrows, List.filter_append, List.map_append, hd, hx, upTo_succ h0]
      simp [inboxRow, hq]
    · have hs : ¬ Schema.key { cursor with lastAckedDeviceSequence := sequence } = p.deviceId :=
        fun hc => hq (hkey.symm.trans hc)
      rw [if_neg hs, hf] at hfind
      refine ⟨own, hfind, he, h0, ?_⟩
      unfold deviceSequences at hd ⊢
      rw [hrows, List.filter_append, List.map_append, hd]
      simp [inboxRow, hq]
  · intro r hm hdev
    rcases (hmem r).mp hm with hm | rfl
    · exact h.recorded r hm hdev
    · exact ⟨ack, rfl, rfl, hack⟩
  · intro s hs hscope
    rw [Table.mem_def, hr.idempotency, List.mem_append, List.mem_singleton] at hs
    rcases hs with hs | rfl
    · obtain ⟨r, hm, hrest⟩ := h.replayable s hs hscope
      exact ⟨r, (hmem r).mpr (Or.inl hm), hrest⟩
    · have hq : q.deviceId = p.deviceId := congrArg IdempotencyScope.deviceId hscope
      exact ⟨_, (hmem _).mpr (Or.inr rfl), hq, rfl, rfl⟩

/-- The transaction of `c` accepts its event: the event is projected and recorded. -/
def Accepts (env : Env) (db : SyncDb) (c : PushCall) (ack : Ack) (db₁ db' : SyncDb) : Prop :=
  ∃ cursor sequence,
    Next db c.principal c.epoch c.event cursor sequence ∧
      applyEvent env db c.principal c.event c.now c.requestId = .ok (ack, db₁) ∧
      SameProjections db₁ db' ∧ Recorded db db' c.principal c.epoch cursor c.event sequence ack

/-- A transaction changes nothing, or accepts its event. -/
theorem pushStep_cases (env : Env) (db : SyncDb) (c : PushCall) :
    pushStep env db c = db ∨ ∃ ack db₁, c.result env db = .ok (ack, pushStep env db c) ∧
      Accepts env db c ack db₁ (pushStep env db c) := by
  unfold pushStep
  cases hr : c.result env db with
  | error f => exact Or.inl rfl
  | ok r =>
    obtain ⟨ack, db'⟩ := r
    show db' = db ∨ _
    rcases pushOne_cases hr with ⟨_, _, _, _, h⟩ | ⟨_, _, h, _⟩ | ⟨cursor, sequence, hn, ha⟩
    · exact Or.inl h
    · exact Or.inl h
    · obtain ⟨db₁, h₁, hp, hrec⟩ := accept_ok ha
      exact Or.inr ⟨ack, db₁, rfl, cursor, sequence, hn, h₁, hp, hrec⟩

theorem JournalInvariant.step (h : JournalInvariant db p epoch) :
    JournalInvariant (pushStep env db c) p epoch := by
  rcases pushStep_cases env db c with hs | ⟨ack, db₁, -, cursor, sequence, hn, ha, -, hr⟩
  · rw [hs]
    exact h
  · exact h.recorded_step hn (applyEvent_projected ha).answer.outcome hr

theorem JournalInvariant.run (env : Env) (h : JournalInvariant db p epoch) (cs : List PushCall) :
    JournalInvariant (cs.foldl (pushStep env) db) p epoch := by
  have hstep : ∀ s c s', JournalInvariant s p epoch → stepOf (pushStep env) s c s' →
      JournalInvariant s' p epoch := by
    intro s c s' hs hstep
    rw [show s' = pushStep env s c from hstep]
    exact hs.step
  exact Path.invariant hstep ((Path.foldl_iff (pushStep env) db _ cs).mpr rfl) h

/-- Inbox rows are never taken back. -/
theorem mem_inbox_step {r : InboxRow} (h : r ∈ db.inbox) : r ∈ (pushStep env db c).inbox := by
  rcases pushStep_cases env db c with hs | ⟨ack, db₁, -, cursor, sequence, hn, ha, -, hr⟩
  · rw [hs]
    exact h
  · obtain ⟨schemaVersion, base, hm⟩ := mem_inbox_recorded hr
    exact (hm r).mpr (Or.inl h)

theorem mem_inbox_run (env : Env) {r : InboxRow} (h : r ∈ db.inbox) (cs : List PushCall) :
    r ∈ (cs.foldl (pushStep env) db).inbox := by
  induction cs generalizing db with
  | nil => exact h
  | cons c cs ih => exact ih (mem_inbox_step h)

end

/-! ## batches -/

/-- **A batch is a run**: it leaves the database where the transactions of the events it got to
leave it, one after another. -/
theorem push_calls (env : Env) (p : Principal) (epoch : Uuid) (now : Int) (requestId : Uuid)
    (db : SyncDb) (batch : List (Option Event)) :
    ∃ done : List Event, done.map some <+: batch ∧
      (push env p epoch now requestId db batch).2 =
        (done.map (fun e => ⟨p, epoch, e, now, requestId⟩)).foldl (pushStep env) db := by
  induction batch generalizing db with
  | nil => exact ⟨[], List.nil_prefix, rfl⟩
  | cons item rest ih =>
    cases item with
    | none => exact ⟨[], List.nil_prefix, rfl⟩
    | some e =>
      cases hr : pushOne env db p epoch e now requestId with
      | error f =>
        refine ⟨[], List.nil_prefix, ?_⟩
        unfold push
        rw [hr]
        rfl
      | ok r =>
        obtain ⟨ack, db'⟩ := r
        obtain ⟨done, hp, hd⟩ := ih db'
        refine ⟨e :: done, ?_, ?_⟩
        · simpa using hp
        · have hs : pushStep env db ⟨p, epoch, e, now, requestId⟩ = db' := by
            unfold pushStep PushCall.result
            rw [hr]
            rfl
          rw [List.map_cons, List.foldl_cons, hs, ← hd]
          rw [push, hr]

/-! ## exactly once -/

/-- What holds of the inbox of a device after the transactions `calls`. -/
structure ExactlyOnce (env : Env) (db₀ : SyncDb) (calls : List PushCall) (p : Principal)
    (epoch : Uuid) : Prop where
  /-- The sequence numbers are `1, …, last_acked_device_sequence`. -/
  sequences : ∃ cursor, (calls.foldl (pushStep env) db₀).cursors.find p.deviceId = some cursor ∧
    deviceSequences (calls.foldl (pushStep env) db₀) p.deviceId =
      upTo cursor.lastAckedDeviceSequence
  /-- An event has at most one row. -/
  oneRow : ((calls.foldl (pushStep env) db₀).inbox.rows.map InboxRow.eventId).Nodup
  /-- Each transaction changed nothing, or projected its event and created its row. -/
  steps : ∀ before c after, calls = before ++ c :: after →
    pushStep env (before.foldl (pushStep env) db₀) c = before.foldl (pushStep env) db₀ ∨
    ∃ ack db₁, Accepts env (before.foldl (pushStep env) db₀) c ack db₁
        ((before ++ [c]).foldl (pushStep env) db₀) ∧
      (before.foldl (pushStep env) db₀).inbox.find c.event.eventId = none ∧
      ((before ++ [c]).foldl (pushStep env) db₀).inbox.find c.event.eventId ≠ none
  /-- No two transactions projected the same event. -/
  projectedOnce : ∀ before c between c' after ack ack' db₁ db₁' db' db'',
    calls = before ++ c :: (between ++ c' :: after) →
    Accepts env (before.foldl (pushStep env) db₀) c ack db₁ db' →
    db' = (before ++ [c]).foldl (pushStep env) db₀ →
    Accepts env ((before ++ c :: between).foldl (pushStep env) db₀) c' ack' db₁' db'' →
    c.event.eventId ≠ c'.event.eventId
  /-- A recorded event that is pushed again is answered with the outcome of its first push. -/
  replayed : ∀ r ∈ (calls.foldl (pushStep env) db₀).inbox, r.deviceId = p.deviceId →
    ∀ e now requestId, e.eventId = r.eventId → e.requestHash = r.requestHash →
      ∃ ack, pushOne env (calls.foldl (pushStep env) db₀) p epoch e now requestId =
          .ok (ack, calls.foldl (pushStep env) db₀) ∧
        ack.outcome = .duplicate ∧ ack.originalOutcome = some r.applyStatus ∧
        r.applyStatus.Terminal
  /-- The five codes leave the database as it was. -/
  turnedAway : ∀ q epoch' e now requestId ack db' body,
    pushOne env (calls.foldl (pushStep env) db₀) q epoch' e now requestId = .ok (ack, db') →
    ack.error = some body → body.code.unrecorded = true →
    db' = calls.foldl (pushStep env) db₀

section
variable {env : Env} {db : SyncDb} {p : Principal} {epoch : Uuid}

theorem Accepts.find {c : PushCall} {ack : Ack} {db₁ db' : SyncDb}
    (h : Accepts env db c ack db₁ db') :
    db.inbox.find c.event.eventId = none ∧ db'.inbox.find c.event.eventId ≠ none := by
  obtain ⟨cursor, sequence, hn, -, -, hr⟩ := h
  obtain ⟨schemaVersion, base, hm⟩ := mem_inbox_recorded hr
  refine ⟨hn.fresh, fun hnone => ?_⟩
  exact Table.find_none.mp hnone _ ((hm _).mpr (Or.inr rfl)) rfl

theorem JournalInvariant.replay (h : JournalInvariant db p epoch) {r : InboxRow}
    (hr : r ∈ db.inbox) (hd : r.deviceId = p.deviceId) {e : Event} (now : Int) (requestId : Uuid)
    (hi : e.eventId = r.eventId) (hh : e.requestHash = r.requestHash) :
    ∃ ack, pushOne env db p epoch e now requestId = .ok (ack, db) ∧ ack.outcome = .duplicate ∧
      ack.originalOutcome = some r.applyStatus ∧ r.applyStatus.Terminal := by
  obtain ⟨cursor, hf, he, -, -⟩ := h.ordered
  obtain ⟨stored, hs, ho, ht⟩ := h.recorded r hr hd
  have hfind : db.inbox.find e.eventId = some r := by
    rw [hi]
    exact Table.find_mem hr
  refine ⟨duplicate stored e, ?_, rfl, ?_, ht⟩
  · unfold pushOne
    simp only [hf, he, ne_eq, not_true_eq_false, if_false, hfind, hh, hs]
  · show some stored.outcome = _
    rw [ho]

/-- An answer that was recorded never carries one of the five codes. -/
theorem Answer.code {e : Event} {requestId : Uuid} {ack : Ack} (h : Answer e requestId ack)
    {body : ErrorBody} (hb : ack.error = some body) : body.code.unrecorded = false := by
  cases h with
  | applied version => cases hb
  | conflicted => cases hb
  | rejected code hc =>
    cases hb
    exact hc

theorem turned_away {e : Event} {now : Int} {requestId : Uuid} {ack : Ack} {db' : SyncDb}
    {body : ErrorBody} (h : pushOne env db p epoch e now requestId = .ok (ack, db'))
    (hb : ack.error = some body) (hc : body.code.unrecorded = true) : db' = db := by
  rcases pushOne_cases h with ⟨_, _, _, _, h⟩ | ⟨_, _, h, _⟩ | ⟨cursor, sequence, -, ha⟩
  · exact h
  · exact h
  · obtain ⟨db₁, h₁, -⟩ := accept_ok ha
    have := (applyEvent_projected h₁).answer.code hb
    rw [hc] at this
    cases this

end

/-- **Exactly-once ordered inbox.**  After any transactions of any devices, in any order, the inbox
of a device that was freshly bound at the start is ordered and has projected each event once. -/
theorem inbox_exactly_once (env : Env) (db₀ : SyncDb) (p : Principal) (epoch : Uuid)
    (h : FreshlyBound db₀ p epoch) (calls : List PushCall) :
    ExactlyOnce env db₀ calls p epoch where
  sequences := by
    obtain ⟨cursor, hf, -, -, hd⟩ := (h.invariant.run env calls).ordered
    exact ⟨cursor, hf, hd⟩
  oneRow := (calls.foldl (pushStep env) db₀).inbox.nodup
  steps := by
    intro before c after _
    rw [List.foldl_append, List.foldl_cons, List.foldl_nil]
    rcases pushStep_cases env (before.foldl (pushStep env) db₀) c with hs | ⟨ack, db₁, -, ha⟩
    · exact Or.inl hs
    · exact Or.inr ⟨ack, db₁, ha, ha.find⟩
  projectedOnce := by
    intro before c between c' after ack ack' db₁ db₁' db' db'' _ ha hdb ha' hid
    -- the row that the first projection created is still there at the second one
    obtain ⟨r, hr⟩ := Option.ne_none_iff_exists'.mp ha.find.2
    have hm := mem_inbox_run env (Table.mem_of_find hr) between
    rw [hdb, List.foldl_append, List.foldl_cons, List.foldl_nil, ← List.foldl_cons,
      ← List.foldl_append] at hm
    have hk : r.eventId = c'.event.eventId := (Table.key_of_find hr).trans hid
    exact Table.find_none.mp ha'.find.1 r hm hk
  replayed := fun r hr hd e now requestId hi hh =>
    (h.invariant.run env calls).replay hr hd now requestId hi hh
  turnedAway := fun q epoch' e now requestId ack db' body hp hb hc => turned_away hp hb hc

/-! ## a small world -/

namespace Sample

def user : Uuid := ⟨"00000000-0000-4000-8000-000000000001", Eq.refl true⟩
def phone : Uuid := ⟨"00000000-0000-4000-8000-000000000002", Eq.refl true⟩
def tablet : Uuid := ⟨"00000000-0000-4000-8000-000000000003", Eq.refl true⟩
def journal : Uuid := ⟨"00000000-0000-4000-8000-000000000004", Eq.refl true⟩
def request : Uuid := ⟨"00000000-0000-4000-8000-000000000005", Eq.refl true⟩
def first : Uuid := ⟨"00000000-0000-4000-8000-00000000000a", Eq.refl true⟩
def second : Uuid := ⟨"00000000-0000-4000-8000-00000000000b", by decide⟩
def third : Uuid := ⟨"00000000-0000-4000-8000-00000000000c", by decide⟩
def list : Uuid := ⟨"00000000-0000-4000-8000-0000000000a1", by decide⟩

/-- Binary collation, and name UUIDs that a run of one list never looks at. -/
def env : Env := ⟨fun a b => decide (a ≤ b), fun _ => user, fun _ => user⟩

def owner : Principal := ⟨user, phone⟩

/-- The phone is bound and has pushed nothing. -/
def bound : SyncDb :=
  { SyncDb.empty with
    cursors := ⟨[⟨phone, user, 0, 0, some journal⟩], by decide, by decide⟩ }

/-- A playlist created on the phone. -/
def createList : Event where
  eventId := first
  idempotencyKey := "create-list"
  deviceSequence := .int 1
  eventType := .playlistCreated
  schemaVersion := .int 1
  aggregateType := .playlist
  aggregateLocalId := list
  serverProfileId := none
  aggregateId := list
  baseVersion := none
  occurredAt := 0
  payload := [("name", .str "Road")]
  requestHash := "h1"

def push (e : Event) : PushCall := ⟨owner, journal, e, 0, request⟩

theorem bound_fresh : FreshlyBound bound owner journal where
  cursor := ⟨⟨phone, user, 0, 0, some journal⟩, by decide, rfl, rfl⟩
  inbox := fun r hr => absurd hr (Table.not_mem_empty r)
  idempotency := fun s hs => absurd hs (Table.not_mem_empty s)

end Sample

/-- The same event twice: the second push is a replay. -/
theorem inbox_exactly_once_replayed :
    ExactlyOnce Sample.env Sample.bound [Sample.push Sample.createList, Sample.push Sample.createList]
      Sample.owner Sample.journal ∧
    deviceSequences ([Sample.push Sample.createList, Sample.push Sample.createList].foldl
      (pushStep Sample.env) Sample.bound) Sample.phone = [1] :=
  ⟨inbox_exactly_once Sample.env Sample.bound Sample.owner Sample.journal Sample.bound_fresh _,
    by decide⟩

end AutPlay.Sync
