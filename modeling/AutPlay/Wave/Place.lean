import AutPlay.Wave.Invariant

/-!
# The place in the queue

Where the room is in its queue is not stored: PAUSE and SKIP derive it from the latest playback
command.  `RoomView.current` says what the place is, over the whole log.

* `RoomView.current`     the live entry that the latest playback command named, aborted starts apart;
* `RoomView.taken`       the entry that PAUSE and SKIP take for it;
* `Displaced`            an unnamed pause or an aborted start came in between, and it matters;
* `place_kept_iff`       PAUSE and SKIP name the right entry exactly if the room is not displaced.
-/

set_option linter.unusedSectionVars false

namespace AutPlay.Wave
open Sync (Uuid Json Payload)

namespace RoomView

/-- The live entry of a text. -/
def entry (v : RoomView) (id : String) : Option QueueEntryRow :=
  v.sorted.find? fun e => e.queueEntryId.text = id

/-- The live entry that a command names. -/
def entryOf (v : RoomView) (c : CommandRow) : Option QueueEntryRow := (namedEntry c).bind v.entry

/-- The command says where the room is. -/
def places (v : RoomView) (c : CommandRow) : Bool :=
  c.commandKind.playback && c.commandKind != .startAborted && (v.entryOf c).isSome

/-- The latest command that says where the room is. -/
def placing (v : RoomView) : Option CommandRow :=
  (v.commands.filter v.places).argmax CommandRow.commandSequence

/-- **The current entry**: the live one that the latest playback command named, other than an aborted
start; the first one when none did. -/
def current (v : RoomView) : Option QueueEntryRow := (v.placing.bind v.entryOf).or v.sorted.head?

/-- The entry that PAUSE and SKIP take for the current one. -/
def taken (v : RoomView) : Option QueueEntryRow :=
  ((latestPlayback v.commands).bind v.entryOf).or v.sorted.head?

end RoomView

/-- **The room lost its place**: the latest playback command is an aborted start, or names no entry,
and the entry that it names, or the first one, is not the current one. -/
def Displaced (v : RoomView) : Prop :=
  ∃ c, latestPlayback v.commands = some c ∧
    (c.commandKind = .startAborted ∨ namedEntry c = none) ∧
    (v.entryOf c).or v.sorted.head? ≠ v.current

/-- A command names the entry after the current one, in the order of the queue. -/
def NamesNext (v : RoomView) (c : CommandRow) : Prop :=
  ∃ i e e', v.current = some e ∧ v.sorted[i]? = some e ∧ v.sorted[i + 1]? = some e' ∧
    namedEntry c = some e'.queueEntryId.text

/-- A command names the current entry. -/
def NamesCurrent (v : RoomView) (c : CommandRow) : Prop :=
  ∃ e, v.current = some e ∧ namedEntry c = some e.queueEntryId.text

/-! ## entries and indices -/

section
variable {v v' : RoomView} {c : CommandRow} {e : QueueEntryRow}
  {asked : Option (Uuid × CommandRequest)} {now : Instant}

/-- **Playback commands name live entries**, if they name any: aborted starts apart. -/
def NamesLive (v : RoomView) : Prop :=
  ∀ c ∈ v.commands, c.commandKind.playback = true → c.commandKind ≠ .startAborted →
    ∀ id, namedEntry c = some id → ∃ e ∈ v.queue, e.queueEntryId.text = id

theorem mem_sorted : e ∈ v.sorted ↔ e ∈ v.queue := List.mem_insertionSort _

theorem Written.live (h : Written asked v c) (hp : c.commandKind.playback = true)
    (ha : c.commandKind ≠ .startAborted) {id : String} (hid : namedEntry c = some id) :
    ∃ e ∈ v.queue, e.queueEntryId.text = id := by
  cases h with
  | lifecycle kind key names =>
    rw [names] at hid
    cases hid
  | start entry kind key names live =>
    obtain ⟨e, he, hentry⟩ := live (kind.resolve_right ha)
    refine ⟨e, he, ?_⟩
    rw [names] at hid
    rw [hentry]
    exact Option.some.inj hid
  | client q request key hash kind skip pause =>
    rcases kind with hk | hk | hk | hk | hk
    · have hpause := pause hk
      rw [hid] at hpause
      obtain ⟨e, he, hentry⟩ := Option.map_eq_some_iff.mp hpause.symm
      exact ⟨e, (mem_sorted).mp (List.mem_of_getElem? he), hentry⟩
    · obtain ⟨e, he, hentry⟩ := skip hk
      refine ⟨e, (mem_sorted).mp (List.mem_of_getElem? he), ?_⟩
      rw [hid] at hentry
      exact (Option.some.inj hentry).symm
    · rw [hk] at hp
      cases hp
    · rw [hk] at hp
      cases hp
    · rw [hk] at hp
      cases hp

theorem QueueStep.mono (h : QueueStep v v') (he : e ∈ v.queue) : e ∈ v'.queue := by
  cases h with
  | quiet queue version => exact queue ▸ he
  | append e' queue position room version =>
    rw [queue]
    exact List.mem_append_left _ he

theorem NamesLive.step (h : NamesLive v) (s : RoomStep asked now v v') : NamesLive v' := by
  intro c hc hp ha id hid
  have hlive : ∃ e ∈ v.queue, e.queueEntryId.text = id := by
    cases s.log with
    | quiet commands sequence playback => exact h c (commands ▸ hc) hp ha id hid
    | append c' commands number sequence playback written =>
      rw [commands] at hc
      rcases List.mem_append.mp hc with hold | hnew
      · exact h c hold hp ha id hid
      · rw [List.mem_singleton.mp hnew] at hp ha hid
        exact written.live hp ha hid
  obtain ⟨e, he, hentry⟩ := hlive
  exact ⟨e, s.queue.mono he, hentry⟩

theorem find?_eq_getElem?_findIdx? {α : Type*} (l : List α) (p : α → Bool) :
    l.find? p = (l.findIdx? p).bind (l[·]?) := by
  induction l with
  | nil => rfl
  | cons a l ih =>
    rw [List.find?_cons, List.findIdx?_cons]
    by_cases ha : p a = true
    · rw [ha]
      rfl
    · rw [Bool.eq_false_iff.mpr ha, ih]
      cases l.findIdx? p with
      | none => rfl
      | some i => rfl

/-- The index that PAUSE and SKIP take is that of the entry they take. -/
theorem getElem?_index (v : RoomView) : v.sorted[v.index]? = v.taken := by
  have hfind : (latestPlayback v.commands).bind v.entryOf =
      v.sorted.find? fun e => some e.queueEntryId.text = v.named := by
    unfold RoomView.named RoomView.entryOf RoomView.entry
    cases latestPlayback v.commands with
    | none => exact (List.find?_eq_none.mpr fun e _ => by simp).symm
    | some c =>
      show (namedEntry c).bind _ = v.sorted.find? fun e => some e.queueEntryId.text = namedEntry c
      cases namedEntry c with
      | none => exact (List.find?_eq_none.mpr fun e _ => by simp).symm
      | some id => simp
  unfold RoomView.index RoomView.taken
  rw [hfind, find?_eq_getElem?_findIdx?]
  cases hi : v.sorted.findIdx? fun e => decide (some e.queueEntryId.text = v.named) with
  | none =>
    show v.sorted[0]? = _
    rw [Option.bind_none, Option.none_or, List.head?_eq_getElem?]
  | some i =>
    obtain ⟨hlt, -⟩ := List.findIdx?_eq_some_iff_getElem.mp hi
    rw [Option.getD_some, Option.bind_some, List.getElem?_eq_getElem hlt]
    rfl

/-- A playback command that names a live entry says where the room is. -/
theorem placing_of_latest (hn : (v.commands.map CommandRow.commandSequence).Nodup)
    (hl : NamesLive v) (hc : latestPlayback v.commands = some c)
    (ha : c.commandKind ≠ .startAborted) {id : String} (hid : namedEntry c = some id) :
    v.placing = some c := by
  obtain ⟨hmem, hp⟩ := latestPlayback_mem hc
  have hplaces : v.places c = true := by
    obtain ⟨e, he, hentry⟩ := hl c hmem hp ha id hid
    have hsome : (v.entryOf c).isSome = true := by
      unfold RoomView.entryOf RoomView.entry
      rw [hid, Option.bind_some, List.find?_isSome]
      exact ⟨e, (mem_sorted).mpr he, decide_eq_true hentry⟩
    unfold RoomView.places
    rw [hp, hsome, bne_iff_ne.mpr ha]
    rfl
  have hin : c ∈ v.commands.filter v.places := List.mem_filter.mpr ⟨hmem, hplaces⟩
  cases hplacing : v.placing with
  | none =>
    have hempty := List.argmax_eq_none.mp hplacing
    rw [hempty] at hin
    cases hin
  | some m =>
    have hm : m ∈ v.commands.filter v.places := List.argmax_mem (Option.mem_def.mpr hplacing)
    have hle : c.commandSequence ≤ m.commandSequence :=
      List.le_of_mem_argmax hin (Option.mem_def.mpr hplacing)
    have hmp : m.commandKind.playback = true := by
      have hpm := (List.mem_filter.mp hm).2
      unfold RoomView.places at hpm
      rw [Bool.and_eq_true, Bool.and_eq_true] at hpm
      exact hpm.1.1
    have hge : m.commandSequence ≤ c.commandSequence :=
      List.le_of_mem_argmax (List.mem_filter.mpr ⟨List.mem_of_mem_filter hm, hmp⟩)
        (Option.mem_def.mpr hc)
    exact congrArg some (List.inj_on_of_nodup_map hn (List.mem_of_mem_filter hm) hmem
      (Nat.le_antisymm hge hle))

/-- **PAUSE and SKIP take the current entry exactly if the room is not displaced.** -/
theorem taken_eq_current_iff (hn : (v.commands.map CommandRow.commandSequence).Nodup)
    (hl : NamesLive v) : v.taken = v.current ↔ ¬ Displaced v := by
  unfold RoomView.taken
  constructor
  · rintro h ⟨c, hc, -, hne⟩
    rw [hc] at h
    exact hne h
  · intro h
    cases hc : latestPlayback v.commands with
    | none =>
      -- no playback command at all: both are the first entry
      have hnone : v.placing = none := by
        refine List.argmax_eq_none.mpr (List.filter_eq_nil_iff.mpr fun c hm hp => ?_)
        unfold RoomView.places at hp
        rw [Bool.and_eq_true, Bool.and_eq_true] at hp
        exact List.filter_eq_nil_iff.mp (List.argmax_eq_none.mp hc) c hm hp.1.1
      unfold RoomView.current
      rw [hnone]
    | some c =>
      by_cases hx : c.commandKind = .startAborted ∨ namedEntry c = none
      · exact of_not_not fun hne => h ⟨c, hc, hx, hne⟩
      · obtain ⟨ha, hnamed⟩ := not_or.mp hx
        obtain ⟨id, hid⟩ := Option.ne_none_iff_exists'.mp hnamed
        unfold RoomView.current
        rw [placing_of_latest hn hl hc ha hid]

end

/-! ## accepted commands -/

section
variable {env : WaveEnv} {db db' : WaveDb} {s s' : System} {e : Event} {es : List Event}
  {room : Uuid} {p : Principal} {q : CommandRequest} {entryId : Uuid} {now : Instant}
  {v : RoomView} {c : CommandRow}

/-- No two entries of a queue have the same text. -/
theorem sorted_nodup (hv : db.view room = some v) :
    (v.sorted.map fun e => e.queueEntryId.text).Nodup := by
  have hq : (v.queue.map QueueEntryRow.queueEntryId).Nodup := by
    rw [← (view_eq_some.mp hv).2.2.1]
    exact (List.filter_sublist.map _).nodup db.queueEntries.nodup
  have hs : (v.sorted.map QueueEntryRow.queueEntryId).Nodup :=
    ((List.perm_insertionSort _ v.queue).map QueueEntryRow.queueEntryId).nodup_iff.mpr hq
  have ht := hs.map Uuid.text_injective
  rwa [List.map_map] at ht

theorem current_mem {x : QueueEntryRow} (h : v.current = some x) : x ∈ v.sorted := by
  unfold RoomView.current at h
  rcases Option.or_eq_some_iff.mp h with hp | ⟨-, hh⟩
  · obtain ⟨c, -, hc⟩ := Option.bind_eq_some_iff.mp hp
    obtain ⟨id, -, hid⟩ := Option.bind_eq_some_iff.mp hc
    exact List.mem_of_find?_eq_some hid
  · exact List.mem_of_mem_head? (Option.mem_def.mpr hh)

/-- A SKIP names the entry after the one that it takes for the current one. -/
theorem namesNext_iff (hn : (v.sorted.map fun e => e.queueEntryId.text).Nodup)
    (hc : ∃ x, v.sorted[v.index + 1]? = some x ∧ namedEntry c = some x.queueEntryId.text) :
    NamesNext v c ↔ v.taken = v.current := by
  obtain ⟨x, hx, hnamed⟩ := hc
  obtain ⟨hlt, hget⟩ := List.getElem?_eq_some_iff.mp hx
  have htaken : v.taken = some v.sorted[v.index] := by
    rw [← getElem?_index, List.getElem?_eq_getElem (Nat.lt_of_succ_lt hlt)]
  constructor
  · rintro ⟨i, e, e', hcurrent, hi, hnext, hname⟩
    have hsame : e'.queueEntryId.text = x.queueEntryId.text :=
      Option.some.inj (hname.symm.trans hnamed)
    have hindex : i + 1 = v.index + 1 := by
      obtain ⟨hlt', hget'⟩ := List.getElem?_eq_some_iff.mp hnext
      have hi : i + 1 < (v.sorted.map fun e => e.queueEntryId.text).length := by
        rwa [List.length_map]
      have hj : v.index + 1 < (v.sorted.map fun e => e.queueEntryId.text).length := by
        rwa [List.length_map]
      have hnames : (v.sorted.map fun e => e.queueEntryId.text)[i + 1] =
          (v.sorted.map fun e => e.queueEntryId.text)[v.index + 1] := by
        rw [List.getElem_map, List.getElem_map, hget, hget']
        exact hsame
      exact hn.getElem_inj_iff.mp hnames
    have hi' : i = v.index := Nat.succ.inj hindex
    rw [hcurrent, ← hi, hi', getElem?_index]
  · intro h
    refine ⟨v.index, v.sorted[v.index], x, h ▸ htaken, ?_, hx, hnamed⟩
    rw [getElem?_index, htaken]

/-- A PAUSE names the entry that it takes for the current one. -/
theorem namesCurrent_iff (hn : (v.sorted.map fun e => e.queueEntryId.text).Nodup)
    (hq : v.queue ≠ []) (hc : namedEntry c = (v.sorted[v.index]?).map fun e => e.queueEntryId.text) :
    NamesCurrent v c ↔ v.taken = v.current := by
  rw [getElem?_index] at hc
  constructor
  · rintro ⟨x, hcurrent, hnamed⟩
    rw [hc] at hnamed
    obtain ⟨y, hy, htext⟩ := Option.map_eq_some_iff.mp hnamed
    have hmem : y ∈ v.sorted := by
      rw [← getElem?_index] at hy
      exact List.mem_of_getElem? hy
    rw [hy, hcurrent, List.inj_on_of_nodup_map hn hmem (current_mem hcurrent) htext]
  · intro h
    obtain ⟨x, hx⟩ : ∃ x, v.current = some x := by
      refine Option.isSome_iff_exists.mp ?_
      unfold RoomView.current
      rw [Option.isSome_or, Bool.or_eq_true]
      refine Or.inr ?_
      obtain ⟨y, hy⟩ := List.exists_mem_of_ne_nil _ hq
      rw [← mem_sorted] at hy
      cases hs : v.sorted with
      | nil =>
        rw [hs] at hy
        cases hy
      | cons z zs => rfl
    refine ⟨x, hx, ?_⟩
    rw [hc, h, hx]
    rfl

/-- What an accepted command appends. -/
theorem Commanded.appended {row : RoomRow} {value : WaveRoom} {kind : CommandKind} {version : Nat}
    {document : Payload}
    (h : Commanded db room p q entryId now row value kind version document db') :
    db'.commandsOf room = db.commandsOf room ++ [clientCommand room p q kind document now] := by
  obtain ⟨db₂, heffect, hins⟩ := h.written
  obtain ⟨-, commands, hi, rfl⟩ := insertCommand_ok.mp hins
  have hsame : db₂.commands = db.commands := by
    cases heffect with
    | queue => rfl
    | skip => rfl
    | pauseEmpty => rfl
    | pause => rfl
    | seek => rfl
    | transfer => rfl
  refine (Table.filter_insert hi _).trans ?_
  rw [if_pos (decide_eq_true (show (clientCommand room p q kind document now).roomId = room from rfl))]
  show db₂.commands.rows.filter _ ++ _ = _
  rw [hsame]
  rfl

theorem namesLive_run (fresh : Fresh s.db) (run : Path (Step env) s es s') :
    SystemInv s' ∧ ∀ r v, s'.db.view r = some v → NamesLive v := by
  refine run.invariant (I := fun s => SystemInv s ∧ ∀ r v, s.db.view r = some v → NamesLive v)
    (fun s e s' h hs => ⟨h.1.step hs, fun r v hv => ?_⟩) ⟨fresh.inv, fun r v hv => ?_⟩
  · obtain ⟨-, hat⟩ := hs.at r
    cases hat with
    | absent before after blank => cases hv.symm.trans after
    | created p v' before after initial =>
      cases hv.symm.trans after
      intro c hc
      rw [(initial (h.1.blank r before)).commands] at hc
      cases hc
    | stepped v₀ v' before after step =>
      cases hv.symm.trans after
      exact (h.2 r v₀ before).step step
  · have hrow := (view_eq_some.mp hv).1
    rw [fresh.rooms] at hrow
    cases hrow

end

/-- Two entries, a SKIP to the second one, a host that is lost and comes back. -/
def Sample.hostLost : List (Op × Instant × Instant) :=
  [(.create host roomId "WAVE42" [], 0, 0),
   (.command roomId host ⟨"QUEUE", "q-1", "c75de8c1b7c3ae5252091267a736a9bf57001d80e82668b3cb3cd09e2f6a43cb", 1, 0, some songOne⟩ entryOne, seconds 1, seconds 1),
   (.command roomId host ⟨"QUEUE", "q-2", "bee98bf120e8906382754c6be52860ac5dbc65a1ca4dbee7576267d8fd3367e1", 2, 1, some songTwo⟩ entryTwo, seconds 2, seconds 2),
   (.command roomId host ⟨"SKIP", "s-3", "41242b9fae56fad4e6e77dfe33cb18d1c3fc583f988cf25ef9f2d9be0d440bbb", 3, 2, none⟩ roomId, seconds 3, seconds 3),
   (.recoverHost roomId, seconds 40, seconds 40), (.recoverHost roomId, seconds 70, seconds 70),
   (.snapshot roomId host, seconds 71, seconds 71), (.recoverHost roomId, seconds 72, seconds 72)]

/-- The host pauses. -/
def Sample.pause : Except WaveError (CommandResult × WaveDb) :=
  commandLocked (reached hostLost).db roomId host ⟨"PAUSE", "p-6", "7d087a2e212c110e851c7b6fdc2853a41e7db1690beef7a9c11b3a26ee77e853", 3, 5, none⟩ roomId
    (seconds 73)

end AutPlay.Wave
