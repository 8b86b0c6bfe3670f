import AutPlay.Wave.Invariant
import AutPlay.Lib.Text

/-!
# Keys of commands

The server makes its own keys, `start-N` and `lifecycle-KIND-N`, in the same column as the keys that
hosts choose, under one unique index.

* `ServerKey.inj`        a key of the server belongs to one sequence number;
* `KeyInv`               where the keys of a room come from;
* `Appends`              the command that a transaction of the server gets to append;
* `server_keys_iff`      it violates the index exactly if a host used its key before.
-/

set_option linter.unusedSectionVars false

namespace AutPlay.Wave
open Sync (Uuid Json Payload)
open Table (mem_def)

/-! ## keys of the server -/

/-- A key that the server makes for a sequence number. -/
def ServerKey (n : Nat) (key : String) : Prop :=
  key = startKey n ∨ ∃ kind, key = lifecycleKey kind n

theorem ServerKey.numbered {n : Nat} {key : String} (h : ServerKey n key) :
    ∃ name : String, key = name ++ ("-" ++ n.repr) := by
  rcases h with rfl | ⟨kind, rfl⟩
  · refine ⟨"start", ?_⟩
    unfold startKey
    rw [← String.append_assoc]
    rfl
  · refine ⟨"lifecycle-" ++ kind.lower, ?_⟩
    unfold lifecycleKey
    rw [String.append_assoc]

theorem ServerKey.inj {n n' : Nat} {key : String} (h : ServerKey n key) (h' : ServerKey n' key) :
    n = n' := by
  obtain ⟨name, rfl⟩ := h.numbered
  obtain ⟨name', he⟩ := h'.numbered
  exact (numbered_inj he).2

/-- A host used the key for a command of the room. -/
def HostUsed (es : List Event) (room : Uuid) (key : String) : Prop :=
  ∃ e ∈ es, ∃ q, e.asked = some (room, q) ∧ q.idempotencyKey = key

/-- **Where the keys of a room come from**: the server, or an earlier request of the host. -/
structure KeyInv (es : List Event) (s : System) : Prop where
  made : ∀ room, ∀ c ∈ s.db.commandsOf room,
    ServerKey c.commandSequence c.idempotencyKey ∨ HostUsed es room c.idempotencyKey
  used : ∀ room key, HostUsed es room key →
    (1 ≤ key.length ∧ key.length ≤ 128) ∧ ∃ c ∈ s.db.commandsOf room, c.idempotencyKey = key

section
variable {env : WaveEnv} {db db' : WaveDb} {s s' : System} {e : Event} {es : List Event}
  {room r : Uuid} {p : Principal} {q : CommandRequest} {now stmt : Instant} {v v' : RoomView}
  {asked : Option (Uuid × CommandRequest)} {c : CommandRow}

theorem commandLocked_key {entryId : Uuid} {result : CommandResult}
    (h : commandLocked db room p q entryId now = .ok (result, db')) :
    (1 ≤ q.idempotencyKey.length ∧ q.idempotencyKey.length ≤ 128) ∧
      ∃ c ∈ db'.commandsOf room, c.idempotencyKey = q.idempotencyKey := by
  obtain ⟨row, value, kind, version, document, hc, -⟩ := commandLocked_ok h
  obtain ⟨db₂, -, hins⟩ := hc.written
  obtain ⟨hlength, commands, hi, rfl⟩ := insertCommand_ok.mp hins
  refine ⟨⟨hlength.1, hlength.2.1⟩, clientCommand room p q kind document now, ?_, rfl⟩
  exact List.mem_filter.mpr ⟨(Table.mem_insert hi).mpr (Or.inr rfl), decide_eq_true rfl⟩

theorem Op.key_of_asked {op : Op} (h : op.run env db now stmt = .ok db')
    (ha : op.asked = some (room, q)) :
    (1 ≤ q.idempotencyKey.length ∧ q.idempotencyKey.length ≤ 128) ∧
      ∃ c ∈ db'.commandsOf room, c.idempotencyKey = q.idempotencyKey := by
  cases op with
  | command room' p q' entryId =>
    obtain ⟨result, h⟩ := map_snd_ok h
    cases ha
    exact commandLocked_key h
  | _ => cases ha

theorem LogStep.mono (h : LogStep asked v v') (hc : c ∈ v.commands) : c ∈ v'.commands := by
  cases h with
  | quiet commands sequence playback => exact commands ▸ hc
  | append c' commands number sequence playback written =>
    rw [commands]
    exact List.mem_append_left _ hc

/-- The commands of a room before and after a transaction. -/
theorem StepAt.commands (h : StepAt asked now db db' room)
    (hb : db.view room = none → db.Blank room) :
    db'.commandsOf room = [] ∧ db.commandsOf room = [] ∨
      ∃ v v', db.view room = some v ∧ db'.view room = some v' ∧ LogStep asked v v' := by
  cases h with
  | absent before after blank =>
    exact Or.inl ⟨(blank (hb before)).commands, (hb before).commands⟩
  | created p v before after initial =>
    exact Or.inl ⟨(view_eq_some.mp after).2.1.trans (initial (hb before)).commands,
      (hb before).commands⟩
  | stepped v v' before after step => exact Or.inr ⟨v, v', before, after, step.log⟩

theorem Step.commands (hi : SystemInv s) (hs : Step env s e s') (room : Uuid) :
    s'.db.commandsOf room = [] ∧ s.db.commandsOf room = [] ∨
      ∃ v v', s.db.view room = some v ∧ s'.db.view room = some v' ∧
        LogStep e.asked v v' :=
  (hs.at room).2.commands (hi.blank room)

theorem Step.commands_mono (hi : SystemInv s) (hs : Step env s e s')
    (hc : c ∈ s.db.commandsOf room) : c ∈ s'.db.commandsOf room := by
  rcases hs.commands hi room with ⟨-, hnone⟩ | ⟨v, v', hv, hv', hlog⟩
  · rw [hnone] at hc
    cases hc
  · rw [(view_eq_some.mp hv).2.1] at hc
    rw [(view_eq_some.mp hv').2.1]
    exact hlog.mono hc

theorem HostUsed.snoc {key : String} (h : HostUsed es room key) : HostUsed (es ++ [e]) room key := by
  obtain ⟨e', he', hq⟩ := h
  exact ⟨e', List.mem_append_left _ he', hq⟩

/-- What a written command says about its key. -/
theorem Written.key (h : Written asked v c) (hn : c.commandSequence = v.row.commandSequence + 1) :
    ServerKey c.commandSequence c.idempotencyKey ∨
      ∃ q, asked = some (c.roomId, q) ∧ q.idempotencyKey = c.idempotencyKey := by
  cases h with
  | lifecycle kind key names => exact Or.inl (Or.inr ⟨_, hn ▸ key⟩)
  | start entry kind key names live => exact Or.inl (Or.inl (hn ▸ key))
  | client q request key hash kind skip pause => exact Or.inr ⟨q, request, key.symm⟩

theorem KeyInv.step (h : KeyInv es s) (hi : SystemInv s) (hs : Step env s e s') :
    KeyInv (es ++ [e]) s' := by
  constructor
  · intro room c hc
    have hold : c ∈ s.db.commandsOf room →
        ServerKey c.commandSequence c.idempotencyKey ∨ HostUsed (es ++ [e]) room c.idempotencyKey :=
      fun hc => (h.made room c hc).imp id HostUsed.snoc
    rcases hs.commands hi room with ⟨hnone, -⟩ | ⟨v, v', hv, hv', hlog⟩
    · rw [hnone] at hc
      cases hc
    · cases hlog with
      | quiet commands sequence playback =>
        refine hold ?_
        rwa [(view_eq_some.mp hv).2.1, ← commands, ← (view_eq_some.mp hv').2.1]
      | append c' commands number sequence playback written =>
        have hroom : c.roomId = room := of_decide_eq_true (List.mem_filter.mp hc).2
        rw [(view_eq_some.mp hv').2.1, commands] at hc
        rcases List.mem_append.mp hc with hc | hc
        · refine hold ?_
          rwa [(view_eq_some.mp hv).2.1]
        · rw [List.mem_singleton.mp hc] at hroom ⊢
          refine (written.key number).imp id fun ⟨q, hq, hkey⟩ => ?_
          exact ⟨e, List.mem_append_right _ (List.mem_singleton_self e), q, hroom ▸ hq, hkey⟩
  · rintro room key ⟨e', he', q, ha, rfl⟩
    rcases List.mem_append.mp he' with he' | he'
    · obtain ⟨hlength, c, hc, hkey⟩ := h.used room _ ⟨e', he', q, ha, rfl⟩
      exact ⟨hlength, c, hs.commands_mono hi hc, hkey⟩
    · rw [List.mem_singleton.mp he'] at ha
      cases hs with
      | commit op now stmt db' time ok => exact op.key_of_asked ok ha
      | outside db' other => cases ha

theorem Fresh.keyInv (h : Fresh s.db) : KeyInv [] s := by
  constructor
  · intro room c hc
    unfold WaveDb.commandsOf at hc
    rw [h.commands] at hc
    cases hc
  · rintro room key ⟨e, he, -⟩
    cases he

theorem keyInv_run (fresh : Fresh s.db) (run : Path (Step env) s es s') :
    SystemInv s' ∧ KeyInv es s' := by
  have hnil : SystemInv s ∧ KeyInv [] s := ⟨fresh.inv, fresh.keyInv⟩
  exact run.history (I := fun es s => SystemInv s ∧ KeyInv es s)
    (fun es s e s' h hs => ⟨h.1.step hs, h.2.step h.1 hs⟩) hnil

end

/-! ## the violation of the index -/

/-- `uq_wave_command_idempotency` is violated. -/
def keyTaken : WaveError := .violation .command .uniqueIndex

/-- The next sequence number of a room is free, and the keys that the server makes for it are taken
exactly if the host used them. -/
structure NextKeys (es : List Event) (cs : List CommandRow) (room : Uuid) (row : RoomRow) :
    Prop where
  free : ∀ c ∈ cs, c.commandSequence ≠ row.commandSequence + 1
  version : 1 ≤ row.queueVersion
  taken : ∀ key, ServerKey (row.commandSequence + 1) key →
    (((1 ≤ key.length ∧ key.length ≤ 128) ∧ ∃ c ∈ cs, c.idempotencyKey = key) ↔
      HostUsed es room key)

theorem nextKeys {env : WaveEnv} {s s' : System} {es : List Event} {room : Uuid} {row : RoomRow}
    (fresh : Fresh s.db) (run : Path (Step env) s es s')
    (found : s'.db.rooms.find room = some row) :
    NextKeys es (s'.db.commandsOf room) room row := by
  obtain ⟨hi, hk⟩ := keyInv_run fresh run
  have hr := hi.room room ⟨row, _, _, _, _⟩ (view_eq_some.mpr ⟨found, rfl, rfl, rfl, rfl⟩)
  refine ⟨fun c hc => Nat.ne_of_lt (hr.lt_next hc), ?_, fun key hs => ⟨fun ⟨_, c, hc, hkey⟩ => ?_,
    hk.used room key⟩⟩
  · have hversion : row.queueVersion = 1 + _ := hr.queueVersion
    rw [hversion]
    exact Nat.le_add_right 1 _
  · subst hkey
    refine (hk.made room c hc).resolve_left fun hm => ?_
    exact absurd (hm.inj hs) (Nat.ne_of_lt (hr.lt_next hc))

section
variable {env : WaveEnv} {db db' : WaveDb} {es : List Event} {room : Uuid} {p : Principal}
  {now stmt : Instant} {row row' : RoomRow} {kind : CommandKind}

theorem require_ne {c : Prop} [Decidable c] {e e' : WaveError} (h : e ≠ e') :
    require c e ≠ .error e' :=
  fun he => h (require_error.mp he).2

theorem one_ne {α : Type} (o : Option α) : one o ≠ .error keyTaken := by
  cases o with
  | none => exact fun h => by cases h
  | some a => exact fun h => by cases h

theorem readSnapshot_ne : readSnapshot db room p now ≠ .error keyTaken := by
  intro h
  cases readSnapshot_error h

theorem requireHost_ne : requireHost db room p now ≠ .error keyTaken := by
  intro h
  cases requireHost_error h

theorem insertCommand_violates (db : WaveDb) (c : CommandRow)
    (hfree : ∀ c' ∈ db.commandsOf c.roomId, c'.commandSequence ≠ c.commandSequence)
    (hversion : 1 ≤ c.expectedQueueVersion) :
    insertCommand db c = .error keyTaken ↔
      (1 ≤ c.idempotencyKey.length ∧ c.idempotencyKey.length ≤ 128) ∧
        ∃ c' ∈ db.commandsOf c.roomId, c'.idempotencyKey = c.idempotencyKey := by
  have hmem : ∀ c', c' ∈ db.commandsOf c.roomId ↔ c' ∈ db.commands ∧ c'.roomId = c.roomId := by
    intro c'
    unfold WaveDb.commandsOf
    rw [List.mem_filter]
    exact and_congr Iff.rfl decide_eq_true_iff
  have hinsert : insertInto .command db.commands c = .error keyTaken ↔
      ∃ c' ∈ db.commandsOf c.roomId, c'.idempotencyKey = c.idempotencyKey := by
    unfold insertInto keyTaken
    rw [Result.mapError_eq_error]
    constructor
    · rintro ⟨k, hk, he⟩
      cases he
      obtain ⟨-, x, hx, -, -, hi⟩ := Table.insert_eq_uniqueIndex.mp hk
      have hi : (x.roomId, x.idempotencyKey) = (c.roomId, c.idempotencyKey) := Option.some.inj hi
      exact ⟨x, (hmem x).mpr ⟨hx, congrArg Prod.fst hi⟩, congrArg Prod.snd hi⟩
    · rintro ⟨x, hx, hkey⟩
      obtain ⟨hx', hroom⟩ := (hmem x).mp hx
      refine ⟨_, Table.insert_eq_uniqueIndex.mpr ⟨?_, x, hx', fun hk => ?_, nofun, ?_⟩, rfl⟩
      · refine Table.find_none.mpr fun y hy hk => ?_
        have hk : (y.roomId, y.commandSequence) = (c.roomId, c.commandSequence) := hk
        exact hfree y ((hmem y).mpr ⟨hy, congrArg Prod.fst hk⟩) (congrArg Prod.snd hk)
      · exact hfree x hx (congrArg Prod.snd hk)
      · exact congrArg some (Prod.ext hroom hkey)
  unfold insertCommand
  rw [Result.bind_eq_error_of_ne (require_ne (by decide))]
  constructor
  · rintro ⟨u, hu, h⟩
    obtain ⟨h₁, h₂, -⟩ := require_ok.mp hu
    rcases Result.bind_eq_error.mp h with h | ⟨commands, -, hend⟩
    · exact ⟨⟨h₁, h₂⟩, hinsert.mp h⟩
    · cases hend
  · rintro ⟨⟨h₁, h₂⟩, h⟩
    exact ⟨(), require_ok.mpr ⟨h₁, h₂, hversion⟩, Result.bind_eq_error.mpr (Or.inl (hinsert.mpr h))⟩

/-- A lifecycle command violates the index exactly if the host used its key. -/
theorem appendLifecycleCommand_violates (env : WaveEnv) {cs : List CommandRow} (user device : Uuid)
    (document : Payload) (now : Instant) (h : NextKeys es cs room row) (hc : db.commandsOf room = cs)
    (hrow : db.rooms.find room = some row') (hs : row'.commandSequence = row.commandSequence)
    (hv : row'.queueVersion = row.queueVersion) :
    appendLifecycleCommand env db room user device kind document now = .error keyTaken ↔
      HostUsed es room (lifecycleKey kind (row.commandSequence + 1)) := by
  subst hc
  have hroom : row'.roomId = room := Table.key_of_find hrow
  have hviolates := insertCommand_violates db
    (lifecycleCommand env row' user device kind document now)
    (by
      intro c' hc'
      rw [show (lifecycleCommand env row' user device kind document now).roomId = room from hroom]
        at hc'
      rw [show (lifecycleCommand env row' user device kind document now).commandSequence =
        row.commandSequence + 1 from congrArg (· + 1) hs]
      exact h.free c' hc')
    (by
      rw [show (lifecycleCommand env row' user device kind document now).expectedQueueVersion =
        row.queueVersion from hv]
      exact h.version)
  rw [show (lifecycleCommand env row' user device kind document now).roomId = room from hroom,
    show (lifecycleCommand env row' user device kind document now).idempotencyKey =
      lifecycleKey kind (row.commandSequence + 1) from congrArg (fun n => lifecycleKey kind (n + 1)) hs]
    at hviolates
  rw [← h.taken _ (Or.inr ⟨kind, rfl⟩), ← hviolates]
  unfold appendLifecycleCommand
  rw [hrow, Result.bind_eq_error_of_ne (one_ne _)]
  constructor
  · rintro ⟨row₁, hrow₁, happ⟩
    cases hrow₁
    rcases Result.bind_eq_error.mp happ with he | ⟨db₁, -, hend⟩
    · exact he
    · cases hend
  · intro he
    exact ⟨row', rfl, Result.bind_eq_error.mpr (Or.inl he)⟩

end

end AutPlay.Wave
