import AutPlay.Wave.Keys
import Mathlib.Logic.Function.Basic

/-!
# Deliveries of a command

`command` looks its key up before it holds the lock of the room row, and reads the row after it.
Other transactions commit between the two.

* `DeliveryStep`        deliveries in their two phases, between other transactions;
* `DeliveryInv`         what an answer says about the commands of the room;
* `AnsweredRight`       what a step owes to the twins of a delivery;
* `deliveries_iff`      a step owes nothing exactly if its delivery is not overtaken.
-/

set_option linter.unusedSectionVars false

namespace AutPlay.Wave
open Sync (Uuid Json Payload)
open Table (mem_def)

/-- What is passed to `command`. -/
structure Delivery where
  room : Uuid
  principal : Principal
  request : CommandRequest
  entryId : Uuid
  now : Instant

/-- Where a delivery stands: it has not begun, it found no earlier command and waits for the lock of
the room row, or it has its answer. -/
inductive Status
  | ready
  | waiting
  | returned (answer : Except WaveError CommandResult)

/-- The database, and where every delivery stands. -/
structure Deliveries (ι : Type*) where
  db : WaveDb
  status : ι → Status

inductive DeliveryEvent (ι : Type*)
  | lookup (d : ι)
  | lock (d : ι)
  | other (op : Op)
  | outside

/-- Where a delivery stands after its first phase. -/
def lookedUp (db : WaveDb) (d : Delivery) : Status :=
  match commandLookup db d.room d.request with
  | .ok none => .waiting
  | .ok (some prior) => .returned (.ok prior)
  | .error e => .returned (.error e)

/-- Where it stands after its second phase, and the database; a refused one is rolled back. -/
def locked (db : WaveDb) (d : Delivery) : Status × WaveDb :=
  match commandLocked db d.room d.principal d.request d.entryId d.now with
  | .ok (result, db') => (.returned (.ok result), db')
  | .error e => (.returned (.error e), db)

section
variable {ι : Type*} [DecidableEq ι] (env : WaveEnv) (sent : ι → Delivery)

/-- **One step**: a phase of a delivery, or another transaction, at any time. -/
inductive DeliveryStep : Deliveries ι → DeliveryEvent ι → Deliveries ι → Prop
  | lookup {s : Deliveries ι} (d : ι) (ready : s.status d = .ready) :
      DeliveryStep s (.lookup d)
        ⟨s.db, Function.update s.status d (lookedUp s.db (sent d))⟩
  | lock {s : Deliveries ι} (d : ι) (waiting : s.status d = .waiting) :
      DeliveryStep s (.lock d) ⟨(locked s.db (sent d)).2,
        Function.update s.status d (locked s.db (sent d)).1⟩
  | other {s : Deliveries ι} (op : Op) (now stmt : Instant) (db' : WaveDb)
      (server : op.asked = none) (ok : op.run env s.db now stmt = .ok db') :
      DeliveryStep s (.other op) ⟨db', s.status⟩
  | outside {s : Deliveries ι} (db' : WaveDb) (other : Outside s.db db') :
      DeliveryStep s .outside ⟨db', s.status⟩

/-- Two deliveries of one request: its key, its hash and the versions it expects. -/
def Twins (d d' : Delivery) : Prop := d.room = d'.room ∧ d.request = d'.request

/-- A delivery of the same request has committed, with that sequence number. -/
def TwinCommitted (s : Deliveries ι) (d : ι) (sequence : Nat) : Prop :=
  ∃ d' version, Twins (sent d) (sent d') ∧
    s.status d' = .returned (.ok ⟨sequence, some version, false⟩)

/-- A conflict, or a violated key. -/
def Conflicting (e : WaveError) : Prop :=
  e = .waveConflict ∨ ∃ table constraint, e = .violation table constraint

/-- **What a step owes to the twins of a delivery**: a delivery that begins after the first commit is
answered with its sequence, and one that gets the lock after it is not refused for a conflict. -/
def AnsweredRight (s : Deliveries ι) (e : DeliveryEvent ι) (s' : Deliveries ι) : Prop :=
  match e with
  | .lookup d => ∀ n, TwinCommitted sent s d n →
      ∃ result, s'.status d = .returned (.ok result) ∧ result.sequence = n
  | .lock d => ∀ n, TwinCommitted sent s d n →
      ∀ e, s'.status d = .returned (.error e) → ¬Conflicting e
  | .other _ => True
  | .outside => True

/-- **A delivery is overtaken**: it gets the lock when a twin has committed since its lookup, and its
caller still hosts the room. -/
def Overtaken (s : Deliveries ι) (e : DeliveryEvent ι) : Prop :=
  match e with
  | .lock d => (∃ n, TwinCommitted sent s d n) ∧
      ∃ r, requireHost s.db (sent d).room (sent d).principal (sent d).now = .ok r
  | _ => False

end

/-! ## the log of a room -/

section
variable {asked : Option (Uuid × CommandRequest)} {now : Instant} {db db' : WaveDb} {room : Uuid}

/-- The log of a room does not run ahead of its row. -/
structure LogInv (db : WaveDb) (room : Uuid) : Prop where
  blank : db.view room = none → db.Blank room
  bounded : ∀ v, db.view room = some v → ∀ c ∈ v.commands,
    c.commandSequence ≤ v.row.commandSequence

theorem StepAt.logInv (h : StepAt asked now db db' room) (hi : LogInv db room) :
    LogInv db' room := by
  cases h with
  | absent before after blank =>
    refine ⟨fun _ => blank (hi.blank before), fun v hv => ?_⟩
    rw [after] at hv
    cases hv
  | created p v before after initial =>
    refine ⟨fun hnone => ?_, fun v' hv' c hc => ?_⟩
    · rw [after] at hnone
      cases hnone
    · cases after.symm.trans hv'
      rw [(initial (hi.blank before)).commands] at hc
      cases hc
  | stepped v v' before after step =>
    refine ⟨fun hnone => ?_, fun v'' hv'' c hc => ?_⟩
    · rw [after] at hnone
      cases hnone
    · cases after.symm.trans hv''
      cases step.log with
      | quiet commands sequence playback =>
        rw [commands] at hc
        rw [sequence]
        exact hi.bounded v before c hc
      | append c' commands number sequence playback written =>
        rw [commands] at hc
        rw [sequence]
        rcases List.mem_append.mp hc with hc | hc
        · exact (hi.bounded v before c hc).trans (Nat.le_succ _)
        · rw [List.mem_singleton.mp hc, number]

theorem StepAt.commands_mono {c : CommandRow} (h : StepAt asked now db db' room)
    (hi : LogInv db room) (hc : c ∈ db.commandsOf room) : c ∈ db'.commandsOf room := by
  rcases h.commands hi.blank with ⟨-, hnone⟩ | ⟨v, v', hv, hv', hlog⟩
  · rw [hnone] at hc
    cases hc
  · rw [(view_eq_some.mp hv).2.1] at hc
    rw [(view_eq_some.mp hv').2.1]
    exact hlog.mono hc

/-- The unique index leaves a room one command for a key. -/
theorem command_of_key {c c' : CommandRow} (hc : c ∈ db.commandsOf room)
    (hc' : c' ∈ db.commandsOf room) (h : c.idempotencyKey = c'.idempotencyKey) : c = c' := by
  obtain ⟨hmem, hroom⟩ := List.mem_filter.mp hc
  obtain ⟨hmem', hroom'⟩ := List.mem_filter.mp hc'
  have hindex : some (c.roomId, c.idempotencyKey) = some (c'.roomId, c'.idempotencyKey) := by
    rw [h, of_decide_eq_true hroom, of_decide_eq_true hroom']
  exact Table.eq_of_index hmem hmem' nofun hindex

end

/-! ## the two phases -/

section
variable {db : WaveDb} {d : Delivery} {c : CommandRow} {result : CommandResult}

/-- An answer of the first phase is the sequence number of a command of the key and the hash. -/
theorem lookedUp_ok (h : lookedUp db d = .returned (.ok result)) :
    ∃ c ∈ db.commandsOf d.room, c.idempotencyKey = d.request.idempotencyKey ∧
      c.requestSha256 = d.request.requestHash ∧ result = ⟨c.commandSequence, none, true⟩ := by
  unfold lookedUp commandLookup at h
  cases hfind : db.commands.rows.find? fun c =>
      c.roomId = d.room ∧ c.idempotencyKey = d.request.idempotencyKey with
  | none =>
    rw [hfind] at h
    cases h
  | some prior =>
    rw [hfind] at h
    have hfound := List.find?_some hfind
    obtain ⟨hroom, hkey⟩ := of_decide_eq_true hfound
    by_cases hhash : prior.requestSha256 = d.request.requestHash
    · simp only [if_pos hhash] at h
      cases h
      exact ⟨prior, List.mem_filter.mpr ⟨List.mem_of_find?_eq_some hfind, decide_eq_true hroom⟩,
        hkey, hhash, rfl⟩
    · simp only [if_neg hhash] at h
      cases h

/-- The first phase finds a committed command. -/
theorem lookedUp_committed (hc : c ∈ db.commandsOf d.room)
    (hkey : c.idempotencyKey = d.request.idempotencyKey)
    (hhash : c.requestSha256 = d.request.requestHash) :
    lookedUp db d = .returned (.ok ⟨c.commandSequence, none, true⟩) := by
  unfold lookedUp commandLookup
  obtain ⟨hmem, hroom⟩ := List.mem_filter.mp hc
  cases hfind : db.commands.rows.find? fun c =>
      c.roomId = d.room ∧ c.idempotencyKey = d.request.idempotencyKey with
  | none =>
    have hnot := List.find?_eq_none.mp hfind c hmem
    exact absurd (decide_eq_true ⟨of_decide_eq_true hroom, hkey⟩) hnot
  | some prior =>
    have hfound := List.find?_some hfind
    obtain ⟨hroom', hkey'⟩ := of_decide_eq_true hfound
    have hsame : prior = c := command_of_key (List.mem_filter.mpr
      ⟨List.mem_of_find?_eq_some hfind, decide_eq_true hroom'⟩) hc (hkey'.trans hkey.symm)
    subst hsame
    simp only [if_pos hhash]

/-- What the second phase appends is its answer. -/
theorem commandLocked_appends {db' : WaveDb}
    (h : commandLocked db d.room d.principal d.request d.entryId d.now = .ok (result, db')) :
    ∃ c ∈ db'.commandsOf d.room, c.idempotencyKey = d.request.idempotencyKey ∧
      c.requestSha256 = d.request.requestHash ∧ c.commandSequence = result.sequence ∧
      result.sequence = d.request.expectedSequence + 1 := by
  obtain ⟨row, value, kind, version, document, hc, rfl⟩ := commandLocked_ok h
  obtain ⟨db₂, -, hins⟩ := hc.written
  obtain ⟨-, commands, hi, rfl⟩ := insertCommand_ok.mp hins
  refine ⟨clientCommand d.room d.principal d.request kind document d.now, ?_, rfl, rfl, rfl, rfl⟩
  exact List.mem_filter.mpr ⟨(Table.mem_insert hi).mpr (Or.inr rfl), decide_eq_true rfl⟩

/-- Behind its room, the second phase is refused, and by a conflict exactly if its caller is the host. -/
theorem commandLocked_behind {v : RoomView} (hv : db.view d.room = some v)
    (hbehind : d.request.expectedSequence < v.row.commandSequence) :
    ∃ e, commandLocked db d.room d.principal d.request d.entryId d.now = .error e ∧
      (Conflicting e ↔ ∃ r, requireHost db d.room d.principal d.now = .ok r) := by
  cases hhost : requireHost db d.room d.principal d.now with
  | error e =>
    refine ⟨e, Result.bind_eq_error.mpr (Or.inl hhost), fun hconflict => ?_, fun ⟨r, hr⟩ => ?_⟩
    · rcases hconflict with rfl | ⟨table, constraint, rfl⟩
      · cases requireHost_error hhost
      · cases requireHost_error hhost
    · cases hr
  | ok r =>
    obtain ⟨value, db₁⟩ := r
    obtain ⟨row, hvisited, -⟩ := requireHost_ok hhost
    have hrow : row = v.row :=
      Option.some.inj (hvisited.found.symm.trans (view_eq_some.mp hv).1)
    subst hrow
    refine ⟨.waveConflict, Result.bind_eq_error.mpr (Or.inr ⟨(value, db₁), hhost, ?_⟩),
      fun _ => ⟨_, rfl⟩, fun _ => Or.inl rfl⟩
    refine Result.bind_eq_error.mpr (Or.inl (require_error.mpr ⟨fun hexpected => ?_, rfl⟩))
    have hsequence : v.row.commandSequence = d.request.expectedSequence :=
      hvisited.snapshot.sequence.symm.trans hexpected.2
    omega

end

/-! ## runs -/

section
variable {ι : Type*} [DecidableEq ι] {env : WaveEnv} {sent : ι → Delivery} {s s' : Deliveries ι}
  {e : DeliveryEvent ι} {d : ι}

/-- A command of a delivery's room, for its request. -/
structure Recorded (db : WaveDb) (d : Delivery) (sequence : Nat) (c : CommandRow) : Prop where
  mem : c ∈ db.commandsOf d.room
  key : c.idempotencyKey = d.request.idempotencyKey
  hash : c.requestSha256 = d.request.requestHash
  number : c.commandSequence = sequence

/-- **What an answer says**: there is a command for its request, and a first one is the command that
the request expected to be. -/
structure DeliveryInv (sent : ι → Delivery) (s : Deliveries ι) : Prop where
  log : ∀ room, LogInv s.db room
  answered : ∀ d result, s.status d = .returned (.ok result) →
    (∃ c, Recorded s.db (sent d) result.sequence c) ∧
      (result.idempotent = false → result.sequence = (sent d).request.expectedSequence + 1)

/-- What a step does to the rooms. -/
theorem DeliveryStep.at (hs : DeliveryStep env sent s e s') (room : Uuid) :
    ∃ asked now, StepAt asked now s.db s'.db room := by
  cases hs with
  | lookup d ready => exact ⟨none, 0, (Frame.refl s.db room).stepAt⟩
  | lock d waiting =>
    show ∃ asked now, StepAt asked now s.db (locked s.db (sent d)).2 room
    unfold locked
    split
    · rename_i result db' hok
      exact ⟨_, _, commandLocked_step hok room⟩
    · exact ⟨none, 0, (Frame.refl s.db room).stepAt⟩
  | other op now stmt db' server ok => exact ⟨_, _, op.step ok room⟩
  | outside db' other => exact ⟨none, 0, (other.frame room).stepAt⟩

/-- An answer that a step gives. -/
theorem DeliveryStep.answered (hs : DeliveryStep env sent s e s') {result : CommandResult}
    (h : s'.status d = .returned (.ok result)) :
    s.status d = .returned (.ok result) ∨ (∃ c, Recorded s'.db (sent d) result.sequence c) ∧
      (result.idempotent = false → result.sequence = (sent d).request.expectedSequence + 1) := by
  cases hs with
  | lookup d' ready =>
    by_cases hd : d = d'
    · subst hd
      obtain ⟨c, hc, hkey, hhash, rfl⟩ := lookedUp_ok ((Function.update_self ..).symm.trans h)
      exact Or.inr ⟨⟨c, hc, hkey, hhash, rfl⟩, nofun⟩
    · exact Or.inl ((Function.update_of_ne hd ..).symm.trans h)
  | lock d' waiting =>
    by_cases hd : d = d'
    · subst hd
      have hanswer : (locked s.db (sent d)).1 = .returned (.ok result) :=
        (Function.update_self ..).symm.trans h
      show _ ∨ (∃ c, Recorded (locked s.db (sent d)).2 (sent d) result.sequence c) ∧ _
      unfold locked at hanswer ⊢
      split at hanswer
      · rename_i result' db' hok
        cases hanswer
        obtain ⟨c, hc, hkey, hhash, hnumber, hexpected⟩ := commandLocked_appends hok
        exact Or.inr ⟨⟨c, hc, hkey, hhash, hnumber⟩, fun _ => hexpected⟩
      · cases hanswer
    · exact Or.inl ((Function.update_of_ne hd ..).symm.trans h)
  | other op now stmt db' server ok => exact Or.inl h
  | outside db' other => exact Or.inl h

theorem DeliveryInv.step (h : DeliveryInv sent s) (hs : DeliveryStep env sent s e s') :
    DeliveryInv sent s' := by
  constructor
  · intro room
    obtain ⟨asked, now, hat⟩ := hs.at room
    exact hat.logInv (h.log room)
  · intro d result hd
    rcases hs.answered hd with hold | hnew
    · obtain ⟨⟨c, hc⟩, hexpected⟩ := h.answered d result hold
      obtain ⟨asked, now, hat⟩ := hs.at (sent d).room
      exact ⟨⟨c, hat.commands_mono (h.log _) hc.mem, hc.key, hc.hash, hc.number⟩, hexpected⟩
    · exact hnew

theorem Fresh.deliveryInv (h : Fresh s.db) (hready : ∀ d, s.status d = .ready) :
    DeliveryInv sent s := by
  constructor
  · intro room
    refine ⟨(h.inv (s := ⟨s.db, 0⟩)).blank room, fun v hv => ?_⟩
    have hfound := (view_eq_some.mp hv).1
    rw [h.rooms] at hfound
    cases hfound
  · intro d result hd
    rw [hready d] at hd
    cases hd

/-- The command that a twin got recorded. -/
theorem DeliveryInv.committed (h : DeliveryInv sent s) {n : Nat} (ht : TwinCommitted sent s d n) :
    (∃ c, Recorded s.db (sent d) n c) ∧ n = (sent d).request.expectedSequence + 1 := by
  obtain ⟨d', version, ⟨hroom, hrequest⟩, hd'⟩ := ht
  obtain ⟨⟨c, hc⟩, hexpected⟩ := h.answered d' _ hd'
  refine ⟨⟨c, ?_, ?_, ?_, hc.number⟩, ?_⟩
  · exact hroom ▸ hc.mem
  · exact hrequest ▸ hc.key
  · exact hrequest ▸ hc.hash
  · exact hrequest ▸ hexpected rfl

/-- **A step owes nothing exactly if its delivery is not overtaken.** -/
theorem DeliveryInv.answeredRight_iff (h : DeliveryInv sent s)
    (hs : DeliveryStep env sent s e s') : AnsweredRight sent s e s' ↔ ¬Overtaken sent s e := by
  cases hs with
  | lookup d ready =>
    refine ⟨fun _ => id, fun _ n hn => ?_⟩
    obtain ⟨⟨c, hc⟩, -⟩ := h.committed hn
    refine ⟨_, (Function.update_self ..).trans (lookedUp_committed hc.mem hc.key hc.hash), ?_⟩
    exact hc.number
  | lock d waiting =>
    have hstatus : Function.update s.status d (locked s.db (sent d)).1 d =
        (locked s.db (sent d)).1 := Function.update_self ..
    -- behind a twin, the second phase is refused, by a conflict exactly if the caller is the host
    have hbehind : ∀ n, TwinCommitted sent s d n → ∃ e,
        (locked s.db (sent d)).1 = .returned (.error e) ∧ (Conflicting e ↔
          ∃ r, requireHost s.db (sent d).room (sent d).principal (sent d).now = .ok r) := by
      intro n hn
      obtain ⟨⟨c, hc⟩, hexpected⟩ := h.committed hn
      cases hv : s.db.view (sent d).room with
      | none =>
        have hnone := hc.mem
        rw [((h.log _).blank hv).commands] at hnone
        cases hnone
      | some v =>
        have hle := (h.log _).bounded v hv c ((view_eq_some.mp hv).2.1 ▸ hc.mem)
        rw [hc.number, hexpected] at hle
        obtain ⟨e, herror, hconflict⟩ := commandLocked_behind hv (Nat.lt_of_succ_le hle)
        refine ⟨e, ?_, hconflict⟩
        unfold locked
        rw [herror]
    constructor
    · rintro hright ⟨⟨n, hn⟩, hhost⟩
      obtain ⟨e, he, hconflict⟩ := hbehind n hn
      exact hright n hn e (hstatus.trans he) (hconflict.mpr hhost)
    · intro hnot n hn e he hconflict
      obtain ⟨e', he', hconflict'⟩ := hbehind n hn
      cases he'.symm.trans (hstatus.symm.trans he)
      exact hnot ⟨⟨n, hn⟩, hconflict'.mp hconflict⟩
  | other op now stmt db' server ok => exact ⟨fun _ => id, fun _ => trivial⟩
  | outside db' other => exact ⟨fun _ => id, fun _ => trivial⟩

end

/-- **The deliveries of a request are answered right exactly in the runs in which none is overtaken.**
In every run, a room has one command for a key, and every answer is the number of the one command of
its key and its hash. -/
theorem deliveries_iff {ι : Type*} [DecidableEq ι] {env : WaveEnv} {sent : ι → Delivery}
    {s₀ s : Deliveries ι} {es : List (DeliveryEvent ι)} (fresh : Fresh s₀.db)
    (ready : ∀ d, s₀.status d = .ready) (run : Path (DeliveryStep env sent) s₀ es s) :
    (∀ room, ∀ c ∈ s.db.commandsOf room, ∀ c' ∈ s.db.commandsOf room,
      c.idempotencyKey = c'.idempotencyKey → c = c') ∧
    (∀ d result, s.status d = .returned (.ok result) →
      ∃ c, Recorded s.db (sent d) result.sequence c) ∧
    ∀ es' s',
      Path (fun s e s' => DeliveryStep env sent s e s' ∧ AnsweredRight sent s e s') s es' s' ↔
        Path (fun s e s' => DeliveryStep env sent s e s' ∧ ¬Overtaken sent s e) s es' s' := by
  have hi : DeliveryInv sent s :=
    run.invariant (fun _ _ _ h hs => h.step hs) (fresh.deliveryInv ready)
  refine ⟨fun room c hc c' hc' => command_of_key hc hc',
    fun d result hd => (hi.answered d result hd).1, fun es' s' => ?_⟩
  exact Path.restrict_iff (fun _ _ _ h hs => DeliveryInv.step h hs)
    (fun _ _ _ h hs => h.answeredRight_iff hs) hi

/-! The host sends a PAUSE, and sends it again before the answer is there. -/

namespace Sample

def pauses (again : Bool) : Delivery where
  room := roomId
  principal := host
  request := ⟨"PAUSE", "p-1", "7d087a2e212c110e851c7b6fdc2853a41e7db1690beef7a9c11b3a26ee77e853", 1,
    0, none⟩
  entryId := roomId
  now := if again then seconds 2 else seconds 1

/-- The room is open, and nothing was sent. -/
def unsent : Deliveries Bool := ⟨db, fun _ => .ready⟩

def createRoom : Op := .create host roomId "WAVE42" []

def withRoom : WaveDb := (createRoom.run env db 0 0).toOption.getD db

theorem createRoom_ok : createRoom.run env db 0 0 = .ok withRoom := by
  have hok : (createRoom.run env db 0 0).toOption.isSome = true := by decide +kernel
  unfold withRoom
  cases hrun : createRoom.run env db 0 0 with
  | error e =>
    rw [hrun] at hok
    cases hok
  | ok db' => rfl

/-- Both deliveries find no earlier command. -/
def bothWaiting : Deliveries Bool :=
  ⟨withRoom, Function.update (Function.update (fun _ => .ready) false
    (lookedUp withRoom (pauses false))) true (lookedUp withRoom (pauses true))⟩

/-- The first one commits. -/
def oneCommitted : Deliveries Bool :=
  ⟨(locked withRoom (pauses false)).2,
    Function.update bothWaiting.status false (locked withRoom (pauses false)).1⟩

theorem overtaking : Path (DeliveryStep env pauses) unsent
    [.other createRoom, .lookup false, .lookup true, .lock false] oneCommitted :=
  .cons (.other createRoom 0 0 withRoom rfl createRoom_ok)
    (.cons (.lookup false rfl) (.cons (.lookup true rfl) (.cons (.lock false rfl) (.nil _))))

end Sample

/-- **The second delivery of a PAUSE is refused as a conflict**, although the first one was committed. -/
theorem overtaken_conflict :
    Path (DeliveryStep Sample.env Sample.pauses) Sample.unsent
        [.other Sample.createRoom, .lookup false, .lookup true, .lock false] Sample.oneCommitted ∧
      TwinCommitted Sample.pauses Sample.oneCommitted true 1 ∧
      ∃ s', DeliveryStep Sample.env Sample.pauses Sample.oneCommitted (.lock true) s' ∧
        s'.status true = .returned (.error .waveConflict) :=
  ⟨Sample.overtaking, ⟨false, 1, ⟨rfl, rfl⟩, rfl⟩, _, .lock true rfl, rfl⟩

theorem deliveries_iff_overtaken :
    ¬∃ s', Path (fun s e s' => DeliveryStep Sample.env Sample.pauses s e s' ∧
      AnsweredRight Sample.pauses s e s') Sample.oneCommitted [.lock true] s' := by
  rintro ⟨s', hright⟩
  obtain ⟨-, -, hiff⟩ := deliveries_iff Sample.fresh (fun _ => rfl) Sample.overtaking
  cases (hiff _ _).mp hright with
  | cons hstep _ => exact hstep.2 ⟨⟨1, false, 1, ⟨rfl, rfl⟩, rfl⟩, _, rfl⟩

end AutPlay.Wave
