import Mathlib.Data.Int.ConditionallyCompleteOrder
import Mathlib.Order.ConditionallyCompleteLattice.Basic
import AutPlay.Client.WaveCoordinator
import AutPlay.Lib.Run
import AutPlay.Lib.Text
import Mathlib.Order.Monotone.Basic

/-!
# A Wave client and time

* `Quiet`, `Turn`        what the parts of `applySnapshot` do to the player;
* `Handled`              what a snapshot does to a client;
* `StartsOnce`           no command is started twice without a pause in between;
* `ForwardStep`          a snapshot does not take the client back;
* `forward_iff`          when the snapshots of a run never do.
-/

set_option linter.unusedSectionVars false

namespace AutPlay.Client

/-! ## starts and pauses -/

/-- The sequence of the command that the action starts. -/
def PlayerAction.starts : PlayerAction → Option Int
  | .synchronizePreparedPlayback anchor true => some anchor.commandSequence
  | _ => none

/-- No command is started. -/
def NoStart (as : List PlayerAction) : Prop := ∀ x ∈ as, x.starts = none

/-- The command was started, and the player did not pause since. -/
def Unpaused (as : List PlayerAction) (n : Int) : Prop :=
  ∃ before x after, as = before ++ x :: after ∧ x.starts = some n ∧ .pause ∉ after

/-- **Between two starts of one command the player pauses.** -/
def StartsOnce (as : List PlayerAction) : Prop :=
  ∀ before x after, as = before ++ x :: after → ∀ n, x.starts = some n → ¬Unpaused before n

section
variable {as bs : List PlayerAction} {x : PlayerAction} {n m : Int}

theorem noStart_nil : NoStart [] := fun _ h => absurd h List.not_mem_nil

theorem noStart_singleton (h : x.starts = none) : NoStart [x] := by
  intro y hy
  rw [List.mem_singleton.mp hy]
  exact h

theorem NoStart.append (h : NoStart as) (h' : NoStart bs) : NoStart (as ++ bs) := by
  intro y hy
  rcases List.mem_append.mp hy with hy | hy
  · exact h y hy
  · exact h' y hy

theorem not_unpaused_nil : ¬Unpaused [] n := by
  rintro ⟨before, y, after, h, -, -⟩
  exact absurd h.symm (List.append_ne_nil_of_right_ne_nil _ (List.cons_ne_nil _ _))

/-- One more action. -/
theorem unpaused_snoc (h : Unpaused (as ++ [x]) n) :
    (x.starts = some n) ∨ (Unpaused as n ∧ x ≠ .pause) := by
  obtain ⟨before, y, after, heq, hstarts, hpause⟩ := h
  rcases List.eq_nil_or_concat after with rfl | ⟨after', z, rfl⟩
  · have hxy := (List.append_inj' heq rfl).2
    rw [(List.cons.inj hxy).1]
    exact Or.inl hstarts
  · rw [List.concat_eq_append, ← List.cons_append, ← List.append_assoc] at heq
    obtain ⟨has, hz⟩ := List.append_inj' heq rfl
    rw [(List.cons.inj hz).1]
    rw [List.concat_eq_append] at hpause
    refine Or.inr ⟨⟨before, y, after', has, hstarts, fun hm => ?_⟩, fun hm => ?_⟩
    · exact hpause (List.mem_append_left _ hm)
    · exact hpause (List.mem_append_right _ (List.mem_singleton.mpr hm.symm))

/-- More actions that start nothing. -/
theorem Unpaused.of_append (h : Unpaused (as ++ bs) n) (hbs : NoStart bs) :
    Unpaused as n ∧ .pause ∉ bs := by
  induction bs using List.reverseRecOn with
  | nil =>
    rw [List.append_nil] at h
    exact ⟨h, List.not_mem_nil⟩
  | append_singleton bs x ih =>
    rw [← List.append_assoc] at h
    have hx : x.starts = none := hbs x (List.mem_append_right _ (List.mem_singleton_self x))
    rcases unpaused_snoc h with hs | ⟨hu, hne⟩
    · rw [hx] at hs
      cases hs
    · obtain ⟨hu', hnot⟩ := ih hu fun y hy => hbs y (List.mem_append_left _ hy)
      refine ⟨hu', fun hm => ?_⟩
      rcases List.mem_append.mp hm with hm | hm
      · exact hnot hm
      · exact hne (List.mem_singleton.mp hm).symm

theorem startsOnce_nil : StartsOnce [] := by
  intro before y after h
  exact absurd h.symm (List.append_ne_nil_of_right_ne_nil _ (List.cons_ne_nil _ _))

theorem StartsOnce.snoc (h : StartsOnce as) (hx : ∀ n, x.starts = some n → ¬Unpaused as n) :
    StartsOnce (as ++ [x]) := by
  intro before y after heq n hn
  rcases List.eq_nil_or_concat after with rfl | ⟨after', z, rfl⟩
  · obtain ⟨has, hxy⟩ := List.append_inj' heq rfl
    rw [← has]
    exact hx n ((List.cons.inj hxy).1 ▸ hn)
  · rw [List.concat_eq_append, ← List.cons_append, ← List.append_assoc] at heq
    exact h before y after' (List.append_inj' heq rfl).1 n hn

theorem StartsOnce.append (h : StartsOnce as) (hbs : NoStart bs) : StartsOnce (as ++ bs) := by
  induction bs using List.reverseRecOn with
  | nil =>
    rw [List.append_nil]
    exact h
  | append_singleton bs x ih =>
    rw [← List.append_assoc]
    refine (ih fun y hy => hbs y (List.mem_append_left _ hy)).snoc fun n hn => ?_
    rw [hbs x (List.mem_append_right _ (List.mem_singleton_self x))] at hn
    cases hn

end

/-! ## the parts that start nothing -/

/-- **Nothing is started**, and no room but this one is prepared. -/
structure Quiet (room : String) (c c' : WaveClient) : Prop where
  store : c'.store = c.store
  generation : c'.generation = c.generation
  applied : c'.appliedPlaybackSequence = c.appliedPlaybackSequence
  prepared : c'.preparedRoomId = c.preparedRoomId ∨ c'.preparedRoomId = some room
  player : ∃ as, c'.player = c.player ++ as ∧ NoStart as

section
variable {w : WaveSettings} {a : WaveAnswers} {s : WaveSnapshot} {room : String} {c c' c'' : WaveClient}

theorem Quiet.refl (room : String) (c : WaveClient) : Quiet room c c :=
  ⟨rfl, rfl, rfl, Or.inl rfl, [], (List.append_nil _).symm, noStart_nil⟩

theorem Quiet.trans (h : Quiet room c c') (h' : Quiet room c' c'') : Quiet room c c'' := by
  obtain ⟨as, has, hno⟩ := h.player
  obtain ⟨bs, hbs, hno'⟩ := h'.player
  refine ⟨h'.store.trans h.store, h'.generation.trans h.generation, h'.applied.trans h.applied, ?_,
    as ++ bs, ?_, hno.append hno'⟩
  · rcases h'.prepared with hp | hp
    · rw [hp]
      exact h.prepared
    · exact Or.inr hp
  · rw [hbs, has, List.append_assoc]

/-- Other fields are written. -/
theorem Quiet.of_fields (store : c'.store = c.store)
    (generation : c'.generation = c.generation)
    (applied : c'.appliedPlaybackSequence = c.appliedPlaybackSequence)
    (prepared : c'.preparedRoomId = c.preparedRoomId)
    (player : c'.player = c.player) : Quiet room c c' :=
  ⟨store, generation, applied, Or.inl prepared, [], by rw [player, List.append_nil], noStart_nil⟩

theorem keeps_modify {f : WaveClient → WaveClient} (h : ∀ c, Quiet room c (f c)) :
    (Effect.modify f).Keeps (Quiet room) :=
  Effect.Keeps.modify (fun _ _ _ => Quiet.trans) h

theorem keeps_tell {x : PlayerAction} (h : x.starts = none) : (tell w x).Keeps (Quiet room) := by
  refine keeps_modify fun c => ?_
  split
  · exact ⟨rfl, rfl, rfl, Or.inl rfl, [x], rfl, noStart_singleton h⟩
  · exact .refl room c

theorem keeps_activateWaveEntry (queueEntryId trackRefId : String) :
    (activateWaveEntry w room queueEntryId trackRefId).Keeps (Quiet room) := by
  refine .bind (keeps_modify fun c => ?_) fun _ => .bind (keeps_modify fun c => ?_) fun _ => .pure _
  · split
    · exact .of_fields rfl rfl rfl rfl rfl
    · exact .refl room c
  · exact .of_fields rfl rfl rfl rfl rfl

theorem keeps_prepareEntry (queueEntryId trackRefId : String) :
    (prepareEntry w a room queueEntryId trackRefId).Keeps (Quiet room) := by
  refine .bind (keeps_activateWaveEntry queueEntryId trackRefId) fun ids => ?_
  refine .bind (keeps_tell rfl) fun _ => keeps_modify fun c => ?_
  exact ⟨rfl, rfl, rfl, Or.inr rfl, [], (List.append_nil _).symm, noStart_nil⟩

/-- An anchor that is only refreshed. -/
theorem keeps_refreshPlaybackAnchor (roomId : String) (command : WaveCommand) (target : Option Int) :
    (refreshPlaybackAnchor w roomId command target false).Keeps (Quiet room) := by
  refine .get fun c => .ite (fun _ => ?_) fun _ => .pure _
  split
  · exact .bind .check fun _ => keeps_tell rfl
  · exact .pure _

theorem keeps_prepareUnlessPrepared (prepared : Bool) (queueEntryId trackRefId : String) :
    (prepareUnlessPrepared w a prepared room queueEntryId trackRefId).Keeps (Quiet room) := by
  unfold prepareUnlessPrepared
  exact .ite (fun _ => .pure _) fun _ => keeps_prepareEntry _ _

theorem keeps_prepareCurrent (h : s.roomId = room) (current : WaveSnapshotEntry)
    (availability : Option WaveAvailability) :
    (prepareCurrent w a s current availability).Keeps (Quiet room) := by
  subst h
  unfold prepareCurrent
  split
  · exact .pure _
  · refine .ite (fun _ => .get fun c => ?_) fun _ => .pure _
    refine .bind (keeps_prepareUnlessPrepared _ _ _) fun _ => ?_
    exact .get fun c => .pure _

theorem keeps_runMediaPreflight (h : s.roomId = room) :
    (runMediaPreflight w a s).Keeps (Quiet room) := by
  unfold runMediaPreflight
  dsimp only
  split
  · exact .pure _
  · refine .bind (keeps_prepareCurrent h _ _) fun final => .bind .check fun _ => ?_
    exact .bind (keeps_modify fun c => .of_fields rfl rfl rfl rfl rfl) fun _ => .pure _

theorem keeps_prefetchQueue : (prefetchQueue w a s).Keeps (Quiet room) := by
  refine .get fun c => .ite (fun _ => .pure _) fun _ => .bind .check fun _ => ?_
  exact keeps_modify fun c => .of_fields rfl rfl rfl rfl rfl

theorem keeps_refreshClock : (refreshClock a).Keeps (Quiet room) := by
  unfold refreshClock
  split
  · exact .pure _
  · exact .bind (keeps_modify fun c => .of_fields rfl rfl rfl rfl rfl) fun _ => .pure _

end

/-! ## the playback command -/

/-- What the player is told while the applied sequence goes from `n` to another one. -/
inductive Played (w : WaveSettings) (n : Int) : List PlayerAction → Int → Prop
  | raised {as : List PlayerAction} {m : Int} (h : NoStart as) (hle : n ≤ m) : Played w n as m
  | halted {as : List PlayerAction} {m : Int} (h : NoStart as)
      (hpause : w.hasPlayback = true → .pause ∈ as) : Played w n as m
  | started {as bs : List PlayerAction} {x : PlayerAction} {m : Int} (h : NoStart as)
      (hx : x.starts = some m) (hlt : n < m) (hbs : NoStart bs) (hw : w.hasPlayback = true) :
      Played w n (as ++ x :: bs) m

/-- **What a snapshot does**, once it is stored: at most one command is started, one that is newer
than what was applied. -/
structure Turn (w : WaveSettings) (room : String) (c c' : WaveClient) : Prop where
  store : c'.store = c.store
  generation : c'.generation = c.generation
  prepared : c'.preparedRoomId = c.preparedRoomId ∨ c'.preparedRoomId = some room
  player : ∃ as, c'.player = c.player ++ as ∧
    Played w c.appliedPlaybackSequence as c'.appliedPlaybackSequence

section
variable {w : WaveSettings} {a : WaveAnswers} {s : WaveSnapshot} {room : String}
  {c₀ c c' c'' : WaveClient} {command : WaveCommand}

theorem Played.append {n m : Int} {as bs : List PlayerAction} (h : Played w n as m)
    (hbs : NoStart bs) : Played w n (as ++ bs) m := by
  cases h with
  | raised h hle => exact .raised (h.append hbs) hle
  | halted h hpause => exact .halted (h.append hbs) fun hw => List.mem_append_left _ (hpause hw)
  | started h hx hlt hbs' hw =>
    rw [List.append_assoc, List.cons_append]
    exact .started h hx hlt (hbs'.append hbs) hw

theorem Quiet.turn (h : Quiet room c c') : Turn w room c c' := by
  obtain ⟨as, has, hno⟩ := h.player
  exact ⟨h.store, h.generation, h.prepared, as, has, .raised hno h.applied.ge⟩

theorem Turn.quiet (h : Turn w room c c') (h' : Quiet room c' c'') : Turn w room c c'' := by
  obtain ⟨as, has, hplayed⟩ := h.player
  obtain ⟨bs, hbs, hno⟩ := h'.player
  refine ⟨h'.store.trans h.store, h'.generation.trans h.generation, ?_, as ++ bs, ?_, ?_⟩
  · rcases h'.prepared with hp | hp
    · rw [hp]
      exact h.prepared
    · exact Or.inr hp
  · rw [hbs, has, List.append_assoc]
  · rw [h'.applied]
    exact hplayed.append hno

/-- The applied sequence is written: raised, or with the player paused. -/
theorem Quiet.applied_turn {n : Int} (h : Quiet room c₀ c)
    (hn : c₀.appliedPlaybackSequence ≤ n ∨
      (w.hasPlayback = true → ∃ as, c.player = c₀.player ++ as ∧ NoStart as ∧ .pause ∈ as)) :
    Turn w room c₀ { c with appliedPlaybackSequence := n } := by
  refine ⟨h.store, h.generation, h.prepared, ?_⟩
  obtain ⟨as, has, hno⟩ := h.player
  rcases hn with hle | hpause
  · exact ⟨as, has, .raised hno hle⟩
  · refine ⟨as, has, .halted hno fun hw => ?_⟩
    obtain ⟨bs, hbs, -, hm⟩ := hpause hw
    have heq : as = bs := List.append_cancel_left (has.symm.trans hbs)
    rw [heq]
    exact hm

theorem triple_haltPlayback :
    (haltPlayback w).Triple (Quiet room c₀) (fun _ => Turn w room c₀) (Turn w room c₀) := by
  refine .bind (Q := fun _ c => Quiet room c₀ c ∧ (w.hasPlayback = true →
    ∃ as, c.player = c₀.player ++ as ∧ NoStart as ∧ .pause ∈ as)) (.modify fun c h => ?_)
    fun _ => .modify fun c h => h.1.applied_turn (Or.inr h.2)
  obtain ⟨as, has, hno⟩ := h.player
  refine ⟨h.trans ?_, fun hw => ⟨as ++ [.pause], ?_, hno.append (noStart_singleton rfl), ?_⟩⟩
  · split
    · exact ⟨rfl, rfl, rfl, Or.inl rfl, [.pause], rfl, noStart_singleton rfl⟩
    · exact .refl room c
  · rw [if_pos hw, ← List.append_assoc, ← has]
  · exact List.mem_append_right _ (List.mem_singleton_self _)

/-- The command was started. -/
structure Begun (w : WaveSettings) (room : String) (n : Int) (c c' : WaveClient) : Prop where
  store : c'.store = c.store
  generation : c'.generation = c.generation
  prepared : c'.preparedRoomId = c.preparedRoomId ∨ c'.preparedRoomId = some room
  player : ∃ as x, c'.player = c.player ++ (as ++ [x]) ∧ NoStart as ∧ x.starts = some n
  hasPlayback : w.hasPlayback = true

theorem triple_start (target : Option Int) :
    (refreshPlaybackAnchor w room command target true).Triple (Quiet room c₀)
      (fun _ c => Quiet room c₀ c ∨ Begun w room command.sequence c₀ c) (Quiet room c₀) := by
  refine .get fun c h => .ite (fun hprep => ?_) fun _ => .pure fun c' heq => Or.inl (heq ▸ h)
  split
  · refine .bind (Q := fun _ c' => c' = c) (.check (fun _ heq _ => heq) fun _ heq _ => heq ▸ h)
      fun _ => .modify fun c' heq => ?_
    subst heq
    by_cases hw : w.hasPlayback = true
    · rw [if_pos hw]
      obtain ⟨as, has, hno⟩ := h.player
      have hplayer : ∀ x, c'.player ++ [x] = c₀.player ++ (as ++ [x]) := fun x => by
        rw [has, List.append_assoc]
      exact Or.inr ⟨h.store, h.generation, h.prepared, ⟨as, _, hplayer _, hno, rfl⟩, hw⟩
    · rw [if_neg hw]
      exact Or.inl h
  · exact .pure fun c' heq => Or.inl (heq ▸ h)

/-- **A command is started at most when `executeScheduledPlay` says so.** -/
theorem triple_executeScheduledPlay :
    (executeScheduledPlay w a room command).Triple (Quiet room c₀)
      (fun started c => Quiet room c₀ c ∨ (started = true ∧ Begun w room command.sequence c₀ c))
      (Quiet room c₀) := by
  refine .get fun c h => ?_
  have hq : ∀ c', c' = c → Quiet room c₀ c' := fun c' heq => heq ▸ h
  dsimp only
  split
  · exact .pure fun c' heq => Or.inl (hq c' heq)
  · refine .ite (fun _ => .pure fun c' heq => Or.inl (hq c' heq)) fun _ => ?_
    refine .bind ((keeps_prepareUnlessPrepared _ _ _ c₀).mono hq (fun _ _ h => h) fun _ h => h)
      fun _ => .get fun c₁ h₁ => ?_
    have hq₁ : ∀ c', c' = c₁ → Quiet room c₀ c' := fun c' heq => heq ▸ h₁
    refine .ite (fun _ => .pure fun c' heq => Or.inl (hq₁ c' heq)) fun _ => ?_
    split
    · exact .pure fun c' heq => Or.inl (hq₁ c' heq)
    · refine .bind ((keeps_tell rfl c₀).mono hq₁ (fun _ _ h => h) fun _ h => h) fun _ => ?_
      refine .bind (triple_start _) fun _ => .pure fun c' h' => ?_
      exact h'.imp_right fun hb => ⟨rfl, hb⟩

/-- **The playback command of a snapshot.** -/
theorem triple_applyCommand (h : s.roomId = room) (availability : List (String × WaveAvailability))
    (clockReady : Bool) :
    (applyCommand w a s availability clockReady).Triple (Quiet room c₀) (fun _ => Turn w room c₀)
      (Turn w room c₀) := by
  subst h
  refine .get fun c hc => ?_
  have hq : ∀ c', c' = c → Quiet s.roomId c₀ c' := fun c' heq => heq ▸ hc
  have hhalt : ∀ st : WaveRuntimeState, (do haltPlayback w; return st : Effect _ _).Triple
      (fun c' => c' = c) (fun _ => Turn w s.roomId c₀) (Turn w s.roomId c₀) := fun st =>
    .bind (triple_haltPlayback.mono hq (fun _ _ h => h) fun _ h => h) fun _ => .pure fun _ h => h
  split
  · exact .pure fun c' heq => (hq c' heq).turn
  · rename_i command hcommand
    refine .ite (fun _ => ?_) fun _ => .ite (fun hnew => ?_) fun _ => .ite (fun _ => ?_) fun _ => ?_
    · refine .bind (triple_haltPlayback.mono hq (fun _ _ h => h) fun _ h => h) fun _ => ?_
      refine .bind (.modify fun c' h' => h'.quiet ?_) fun _ => .pure fun _ h' => h'
      exact .of_fields rfl rfl rfl rfl rfl
    · have hle : c₀.appliedPlaybackSequence < command.sequence := hc.applied ▸ hnew
      refine .ite (fun _ => .ite (fun _ => ?_) fun _ => ?_) fun _ => ?_
      · refine .bind (triple_executeScheduledPlay.mono hq (fun _ _ h => h) fun _ h => h.turn)
          fun started => .ite (fun _ => ?_) fun hno => .pure fun c' h' => ?_
        · refine .bind (.modify fun c' h' => ?_) fun _ => .pure fun _ h' => h'
          rcases h' with h' | ⟨-, h'⟩
          · exact h'.applied_turn (Or.inl (le_of_lt hle))
          · obtain ⟨as, x, hplayer, hnostart, hstarts⟩ := h'.player
            exact ⟨h'.store, h'.generation, h'.prepared, as ++ [x], hplayer,
              .started hnostart hstarts hle noStart_nil h'.hasPlayback⟩
        · rcases h' with h' | ⟨hyes, -⟩
          · exact h'.turn
          · exact absurd hyes hno
      · exact .pure fun c' heq => (hq c' heq).turn
      · refine .bind ((keeps_tell rfl c₀).mono hq (fun _ _ h => h) fun _ h => h.turn) fun _ => ?_
        exact .bind (.modify fun c' h' => h'.applied_turn (Or.inl (le_of_lt hle))) fun _ =>
          .pure fun _ h' => h'
    · refine .ite (fun _ => ?_) fun _ => hhalt .degraded
      refine .bind ((keeps_refreshPlaybackAnchor _ _ _ c₀).mono hq (fun _ _ h => h)
        fun _ h => h.turn) fun _ => .pure fun _ h' => h'.turn
    · exact .pure fun c' heq => (hq c' heq).turn

end

/-! ## a whole snapshot -/

/-- A snapshot that the checks let through. -/
def Sound (s : WaveSnapshot) : Prop :=
  s.entries.length ≤ 100 ∧ ∀ command ∈ s.playbackCommand, command.sequence ≤ s.sequence

/-- The generation of the client is `n`, and nothing was started. -/
structure Silent (c₀ : WaveClient) (stored : WaveStore) (n : Nat) (c : WaveClient) : Prop where
  store : c.store = stored
  generation : c.generation = n
  player : ∃ as, c.player = c₀.player ++ as ∧ NoStart as

/-- The client once the snapshot is stored. -/
def stored (a : WaveAnswers) (s : WaveSnapshot) (c : WaveClient) : WaveClient :=
  { forgetOtherRoom s.roomId c with store := c.store.replaceSnapshot (storedWave a s) }

/-- **What a snapshot does to a client.** -/
inductive Handled (w : WaveSettings) (a : WaveAnswers) (s : WaveSnapshot) (g : Nat)
    (c c' : WaveClient) : Prop
  | ignored (h : g ≠ c.generation ∨ Outdated c s) (same : c' = c)
  | refused (current : g = c.generation) (recent : ¬Outdated c s) (bad : ¬Sound s)
      (same : c' = forgetOtherRoom s.roomId c)
  | taken (current : g = c.generation) (recent : ¬Outdated c s) (ok : Sound s)
      (turn : Turn w s.roomId (stored a s c) c')
  | closed (current : g = c.generation) (recent : ¬Outdated c s) (ok : Sound s)
      (silent : Silent c (c.store.replaceSnapshot (storedWave a s)) (g + 1) c')

section
variable {w : WaveSettings} {a : WaveAnswers} {s : WaveSnapshot} {room : String} {g n : Nat}
  {c₀ c c' c'' : WaveClient} {store : WaveStore}

theorem forgetOtherRoom_player (room : String) (c : WaveClient) :
    (forgetOtherRoom room c).player = c.player := by
  unfold forgetOtherRoom
  split
  · rfl
  · rfl

theorem forgetOtherRoom_store (room : String) (c : WaveClient) :
    (forgetOtherRoom room c).store = c.store := by
  unfold forgetOtherRoom
  split
  · rfl
  · rfl

theorem forgetOtherRoom_generation (room : String) (c : WaveClient) :
    (forgetOtherRoom room c).generation = c.generation := by
  unfold forgetOtherRoom
  split
  · rfl
  · rfl

/-- No other room is prepared from now on. -/
theorem forgetOtherRoom_prepared (room : String) (c : WaveClient) :
    (forgetOtherRoom room c).preparedRoomId = none ∨
      (forgetOtherRoom room c).preparedRoomId = some room := by
  unfold forgetOtherRoom
  split
  · exact Or.inl rfl
  · rename_i h
    by_cases hn : c.preparedRoomId = none
    · exact Or.inl hn
    · exact Or.inr (by_contra fun hne => h ⟨hn, hne⟩)

/-- A client whose room is the prepared one forgets nothing. -/
theorem forgetOtherRoom_same (h : c.preparedRoomId = none ∨ c.preparedRoomId = some room) :
    forgetOtherRoom room c = c := by
  unfold forgetOtherRoom
  rw [if_neg]
  rintro ⟨hn, hne⟩
  rcases h with h | h
  · exact hn h
  · exact hne h

theorem Silent.quiet (h : Silent c₀ store n c) (h' : Quiet room c c') : Silent c₀ store n c' := by
  obtain ⟨as, has, hno⟩ := h.player
  obtain ⟨bs, hbs, hno'⟩ := h'.player
  exact ⟨h'.store.trans h.store, h'.generation.trans h.generation, as ++ bs,
    by rw [hbs, has, List.append_assoc], hno.append hno'⟩

/-- The player gets its queue back, whatever there is to restore. -/
theorem triple_restoreLocalPlayback (roomId : String) {E : WaveClient → Prop} :
    (restoreLocalPlayback w roomId).Triple (Silent c₀ store n) (fun _ => Silent c₀ store n) E := by
  have htell : ∀ x : PlayerAction, x.starts = none →
      (tell w x).Triple (Silent c₀ store n) (fun _ => Silent c₀ store n) E := fun x hx =>
    .modify fun c h => by
      split
      · obtain ⟨as, has, hno⟩ := h.player
        exact ⟨h.store, h.generation, as ++ [x], by rw [has, List.append_assoc],
          hno.append (noStart_singleton hx)⟩
      · exact h
  refine .get fun c h => ?_
  have hs : ∀ c', c' = c → Silent c₀ store n c' := fun c' heq => heq ▸ h
  split
  · refine .ite (fun _ => ?_) fun _ => .pure hs
    refine .bind ((htell .pause rfl).mono hs (fun _ _ h => h) fun _ h => h) fun _ => ?_
    exact .bind (.modify fun c' h' => ⟨h'.store, h'.generation, h'.player⟩) fun _ => htell _ rfl
  · exact .pure hs

theorem Silent.close (h : Silent c₀ store n c) : Silent c₀ store (n + 1) (close c) :=
  ⟨h.store, congrArg (· + 1) h.generation, h.player⟩

/-- **`applySnapshot`**, in all its ends.  A snapshot that is ignored throws nothing. -/
theorem triple_applySnapshot (c : WaveClient) :
    (applySnapshot w a s g).Triple (fun c' => c' = c) (fun _ => Handled w a s g c)
      (fun c' => g = c.generation ∧ ¬Outdated c s ∧ Handled w a s g c c') := by
  refine .get fun c₁ heq => ?_
  subst heq
  refine .ite (fun hg => .pure fun c' heq => .ignored (Or.inl hg) heq) fun hg => ?_
  refine .ite (fun hold => .pure fun c' heq => .ignored (Or.inr hold) heq) fun hold => ?_
  have hg' : g = c₁.generation := not_not.mp hg
  refine Effect.Triple.mono (E := Handled w a s g c₁) ?_ (fun _ h => h) (fun _ _ h => h)
    fun c' h => ⟨hg', hold, h⟩
  refine .bind (Q := fun _ c' => c' = forgetOtherRoom s.roomId c₁) (.modify fun c' heq => heq ▸ rfl)
    fun _ => ?_
  refine .bind (Q := fun _ c' => c' = forgetOtherRoom s.roomId c₁ ∧ s.entries.length ≤ 100)
    (.check (fun c' heq hlen => ⟨heq, hlen⟩)
      fun c' heq hlen => .refused hg' hold (fun hok => hlen hok.1) heq) fun _ => ?_
  refine .bind (Q := fun _ c' => c' = forgetOtherRoom s.roomId c₁ ∧ Sound s)
    (.check (fun c' h hcom => ⟨h.1, h.2, hcom⟩)
      fun c' h hcom => .refused hg' hold (fun hok => hcom hok.2) h.1) fun _ => ?_
  refine .bind (Q := fun _ c' => c' = stored a s c₁ ∧ Sound s) (.modify fun c' h => ⟨?_, h.2⟩)
    fun _ => ?_
  · rw [h.1, forgetOtherRoom_store]
    rfl
  have hsilent : Silent c₁ (c₁.store.replaceSnapshot (storedWave a s)) g (stored a s c₁) :=
    ⟨rfl, (forgetOtherRoom_generation _ _).trans hg'.symm, [],
      (forgetOtherRoom_player _ _).trans (List.append_nil _).symm, noStart_nil⟩
  by_cases hok : Sound s
  swap
  · exact fun c' h => absurd h.2 hok
  have hquiet : ∀ c', c' = stored a s c₁ ∧ Sound s → Quiet s.roomId (stored a s c₁) c' :=
    fun c' h => h.1 ▸ .refl _ _
  have htaken : ∀ c', Turn w s.roomId (stored a s c₁) c' → Handled w a s g c₁ c' :=
    fun c' h => .taken hg' hold hok h
  refine .ite (fun _ => ?_) fun _ => .ite (fun _ => ?_) fun _ => ?_
  · refine .bind ((triple_restoreLocalPlayback s.roomId).mono (fun c' h => h.1 ▸ hsilent)
      (fun _ _ h => h) fun c' h => h) fun _ => ?_
    exact .modify fun c' h => .closed hg' hold hok h.close
  · refine .bind (triple_haltPlayback.mono hquiet (fun _ _ h => h) htaken) fun _ => ?_
    refine .modify fun c' h => htaken _ (h.quiet ?_)
    exact .of_fields rfl rfl rfl rfl rfl
  · have hdone : ∀ c', Quiet s.roomId (stored a s c₁) c' → Handled w a s g c₁ c' :=
      fun c' h => htaken c' h.turn
    refine .bind ((keeps_runMediaPreflight rfl _).mono hquiet (fun _ _ h => h) hdone)
      fun availability => ?_
    refine .bind ((keeps_prefetchQueue _).mono (fun _ h => h) (fun _ _ h => h) hdone) fun _ => ?_
    refine .bind ((keeps_refreshClock _).mono (fun _ h => h) (fun _ _ h => h) hdone)
      fun clockReady => ?_
    refine .bind ((triple_applyCommand rfl _ _).mono (fun _ h => h) (fun _ _ h => h) htaken)
      fun runtimeState => ?_
    refine .modify fun c' h => htaken _ (h.quiet ?_)
    exact .of_fields rfl rfl rfl rfl rfl

/-- How a client goes on after an exception: nothing is started, and the room stays the same unless
the generation ends. -/
def Caught (room : String) (g : Nat) (c c' : WaveClient) : Prop :=
  Quiet room c c' ∨ (c.generation = g ∧ Silent c c.store (g + 2) c')

theorem triple_recoverFrom (failure : WaveFailure) (c : WaveClient) :
    (recoverFrom w failure g).Triple (fun c' => c' = c) (fun _ => Caught room g c)
      (Caught room g c) := by
  refine .get fun c₁ heq => ?_
  subst heq
  have hq : ∀ c', c' = c₁ → Quiet room c₁ c' := fun c' heq => heq ▸ .refl room c₁
  refine .ite (fun _ => .pure fun c' heq => Or.inl (hq c' heq)) fun hg => ?_
  have hg' : c₁.generation = g := (not_not.mp hg).symm
  cases failure with
  | roomUnavailable =>
    refine .get fun c₂ heq => ?_
    refine .bind (Q := fun _ => Silent c₁ c₁.store (g + 1)) (.modify fun c' h => ?_) fun _ => ?_
    · rw [h, heq]
      exact ⟨rfl, congrArg (· + 1) hg', [], (List.append_nil _).symm, noStart_nil⟩
    · split
      · exact .modify fun c' h => Or.inr ⟨hg', h.close⟩
      · refine .bind (triple_restoreLocalPlayback _) fun _ => ?_
        exact .modify fun c' h => Or.inr ⟨hg', h.close⟩
  | security =>
    have htell : (tellIf w (c₁.queues.activeSnapshot.map QueueSnapshot.queueSnapshotId =
        c₁.roomPlaybackSnapshotId) .pause).Keeps (Quiet room) := by
      unfold tellIf
      exact .ite (fun _ => keeps_tell rfl) fun _ => .pure _
    refine .bind ((htell c₁).mono hq (fun _ _ h => h) fun _ h => Or.inl h) fun _ => ?_
    exact .modify fun c' h => Or.inl (h.trans (.of_fields rfl rfl rfl rfl rfl))
  | other => exact .modify fun c' h => Or.inl ((hq c' h).trans (.of_fields rfl rfl rfl rfl rfl))

/-- **A snapshot that arrives.** -/
theorem received_cases (caught : Option WaveFailure) (c : WaveClient) :
    ((g ≠ c.generation ∨ Outdated c s) ∧ (received w a s g caught).state c = c) ∨
      (g = c.generation ∧ ¬Outdated c s ∧ ∃ c₁, Handled w a s g c c₁ ∧
        (c₁ = (received w a s g caught).state c ∨
          Caught s.roomId g c₁ ((received w a s g caught).state c))) := by
  have hspec := triple_applySnapshot (w := w) (a := a) (s := s) (g := g) c c rfl
  unfold Effect.state received
  cases hr : applySnapshot w a s g c with
  | mk o c₁ =>
    rw [hr] at hspec
    cases o with
    | some u =>
      by_cases hi : g ≠ c.generation ∨ Outdated c s
      · refine Or.inl ⟨hi, ?_⟩
        cases hspec with
        | ignored h same => exact same
        | refused current recent bad same => exact absurd hi (not_or.mpr ⟨not_not.mpr current, recent⟩)
        | taken current recent ok turn => exact absurd hi (not_or.mpr ⟨not_not.mpr current, recent⟩)
        | closed current recent ok silent =>
          exact absurd hi (not_or.mpr ⟨not_not.mpr current, recent⟩)
      · obtain ⟨hg, hold⟩ := not_or.mp hi
        exact Or.inr ⟨not_not.mp hg, hold, c₁, hspec, Or.inl rfl⟩
    | none =>
      obtain ⟨hg, hold, hh⟩ := hspec
      refine Or.inr ⟨hg, hold, c₁, hh, ?_⟩
      cases caught with
      | none => exact Or.inl rfl
      | some failure => exact Or.inr (triple_recoverFrom failure c₁).state_of

end

/-! ## commands are started once -/

/-- **What holds of a client** of a room, since it had told the player `told`. -/
structure OnceInv (w : WaveSettings) (g : Nat) (room : String) (told : List PlayerAction)
    (c : WaveClient) : Prop where
  player : ∃ as, c.player = told ++ as ∧ StartsOnce as ∧ (c.generation = g →
    ∀ n, Unpaused as n → w.hasPlayback = true ∧ n ≤ c.appliedPlaybackSequence ∧
      (c.preparedRoomId = none ∨ c.preparedRoomId = some room))

section
variable {w : WaveSettings} {a : WaveAnswers} {s : WaveSnapshot} {room : String} {g n : Nat}
  {told : List PlayerAction} {c c' : WaveClient} {store : WaveStore}

theorem OnceInv.start (w : WaveSettings) (g : Nat) (room : String) (c : WaveClient) :
    OnceInv w g room c.player c :=
  ⟨[], (List.append_nil _).symm, startsOnce_nil, fun _ _ h => absurd h not_unpaused_nil⟩

theorem OnceInv.silent (h : OnceInv w g room told c) (hs : Silent c store n c') (hn : n ≠ g) :
    OnceInv w g room told c' := by
  obtain ⟨as, has, honce, -⟩ := h.player
  obtain ⟨bs, hbs, hno⟩ := hs.player
  exact ⟨as ++ bs, by rw [hbs, has, List.append_assoc], honce.append hno,
    fun hg => absurd (hs.generation.symm.trans hg) hn⟩

theorem OnceInv.forget (h : OnceInv w g room told c) :
    OnceInv w g room told (forgetOtherRoom room c) := by
  obtain ⟨as, has, honce, hcov⟩ := h.player
  refine ⟨as, (forgetOtherRoom_player room c).trans has, honce, fun hg n hu => ?_⟩
  obtain ⟨hw, hle, hprep⟩ := hcov ((forgetOtherRoom_generation room c).symm.trans hg) n hu
  rw [forgetOtherRoom_same hprep]
  exact ⟨hw, hle, hprep⟩

/-- **A turn keeps it**: a command that starts is newer than all that play. -/
theorem OnceInv.turn (h : OnceInv w g room told c) (ht : Turn w room c c')
    (hprep : c.preparedRoomId = none ∨ c.preparedRoomId = some room) (hg : c.generation = g) :
    OnceInv w g room told c' := by
  obtain ⟨as, has, honce, hcov⟩ := h.player
  obtain ⟨bs, hbs, hplayed⟩ := ht.player
  have hprep' : c'.preparedRoomId = none ∨ c'.preparedRoomId = some room := by
    rcases ht.prepared with hp | hp
    · rw [hp]
      exact hprep
    · exact Or.inr hp
  have hplayer : c'.player = told ++ (as ++ bs) := by rw [hbs, has, List.append_assoc]
  cases hplayed with
  | raised hno hle =>
    refine ⟨_, hplayer, honce.append hno, fun _ n hu => ?_⟩
    obtain ⟨hw, hn, -⟩ := hcov hg n (hu.of_append hno).1
    exact ⟨hw, hn.trans hle, hprep'⟩
  | halted hno hpause =>
    refine ⟨_, hplayer, honce.append hno, fun _ n hu => ?_⟩
    obtain ⟨hu', hnot⟩ := hu.of_append hno
    obtain ⟨hw, -, -⟩ := hcov hg n hu'
    exact absurd (hpause hw) hnot
  | @started bs cs x m hno hx hlt hcs hw =>
    have hnew : ∀ k, x.starts = some k → ¬Unpaused (as ++ bs) k := by
      intro k hk hu
      obtain ⟨-, hle, -⟩ := hcov hg k (hu.of_append hno).1
      rw [hx] at hk
      cases hk
      exact absurd hlt (not_lt.mpr hle)
    have hsplit : as ++ (bs ++ x :: cs) = ((as ++ bs) ++ [x]) ++ cs := by
      simp only [List.append_assoc, List.singleton_append]
    rw [hsplit] at hplayer
    refine ⟨_, hplayer, ((honce.append hno).snoc hnew).append hcs, fun _ n hu => ?_⟩
    rcases unpaused_snoc (hu.of_append hcs).1 with hs | ⟨hu', -⟩
    · rw [hx] at hs
      cases hs
      exact ⟨hw, le_refl _, hprep'⟩
    · obtain ⟨-, hle, -⟩ := hcov hg n (hu'.of_append hno).1
      exact ⟨hw, hle.trans (le_of_lt hlt), hprep'⟩

theorem OnceInv.quiet (h : OnceInv w g room told c) (hq : Quiet room c c') :
    OnceInv w g room told c' := by
  obtain ⟨as, has, honce, hcov⟩ := h.player
  obtain ⟨bs, hbs, hno⟩ := hq.player
  refine ⟨as ++ bs, by rw [hbs, has, List.append_assoc], honce.append hno, fun hg n hu => ?_⟩
  obtain ⟨hw, hle, hprep⟩ := hcov (hq.generation.symm.trans hg) n (hu.of_append hno).1
  refine ⟨hw, by rw [hq.applied]; exact hle, ?_⟩
  rcases hq.prepared with hp | hp
  · rw [hp]
    exact hprep
  · exact Or.inr hp

theorem OnceInv.caught (h : OnceInv w g room told c) (hc : Caught room g c c') :
    OnceInv w g room told c' := by
  rcases hc with hq | ⟨-, hs⟩
  · exact h.quiet hq
  · exact h.silent hs (by omega)

/-- **A snapshot keeps it.** -/
theorem OnceInv.handled (h : OnceInv w g s.roomId told c) (hh : Handled w a s g c c') :
    OnceInv w g s.roomId told c' := by
  cases hh with
  | ignored hi same => exact same ▸ h
  | refused current recent bad same => exact same ▸ h.forget
  | taken current recent ok turn =>
    have hstored : OnceInv w g s.roomId told (stored a s c) := ⟨h.forget.player⟩
    exact hstored.turn turn (forgetOtherRoom_prepared s.roomId c)
      ((forgetOtherRoom_generation s.roomId c).trans current.symm)
  | closed current recent ok silent => exact h.silent silent (by omega)

end

/-! ## runs -/

/-- What reaches a client: a snapshot, or the failure of a request for one. -/
inductive WaveInput
  | snapshot (s : WaveSnapshot) (answers : WaveAnswers) (caught : Option WaveFailure)
  | failed (failure : WaveFailure)

/-- One input, for a callback of the generation `g`. -/
def clientStep (w : WaveSettings) (g : Nat) (c : WaveClient) : WaveInput → WaveClient
  | .snapshot s answers caught => (received w answers s g caught).state c
  | .failed failure => (recoverFrom w failure g).state c

/-- **The history of a room**: the epoch that it had at every sequence. -/
structure RoomHistory where
  roomId : String
  epochAt : Int → Nat
  grows : Monotone epochAt

/-- A snapshot that the server took at some point of the history. -/
def RoomHistory.Took (h : RoomHistory) (s : WaveSnapshot) : Prop :=
  s.roomId = h.roomId ∧ s.roomEpoch = (h.epochAt s.sequence).repr ∧ Sound s

/-- What the device keeps of the room was taken from its history. -/
def RoomHistory.Kept (h : RoomHistory) (c : WaveClient) : Prop :=
  ∀ r ∈ c.store.room h.roomId, r.roomEpoch = (h.epochAt r.lastSequence).repr

/-- A step of a client: its snapshots are those of the history, in any order. -/
def RoomStep (w : WaveSettings) (h : RoomHistory) (g : Nat) (c : WaveClient) (i : WaveInput)
    (c' : WaveClient) : Prop :=
  (∀ s answers caught, i = .snapshot s answers caught → h.Took s) ∧ c' = clientStep w g c i

/-- **A step does not take the client back**: the sequence and the epoch of the stored room do not
decrease, and a snapshot that is older than the stored room changes neither it nor the player. -/
structure ForwardStep (h : RoomHistory) (c : WaveClient) (i : WaveInput) (c' : WaveClient) : Prop where
  sequence : ∀ r ∈ c.store.room h.roomId, ∃ r' ∈ c'.store.room h.roomId,
    r.lastSequence ≤ r'.lastSequence
  epoch : ∀ r ∈ c.store.room h.roomId, ∀ r' ∈ c'.store.room h.roomId, ∀ e e' : Nat,
    r.roomEpoch = e.repr → r'.roomEpoch = e'.repr → e ≤ e'
  stale : ∀ s answers caught, i = .snapshot s answers caught → ∀ r ∈ c.store.room h.roomId,
    s.sequence < r.lastSequence →
      c'.store h.roomId = c.store h.roomId ∧ c'.player = c.player ∧ c'.queues = c.queues

/-- A snapshot that is older than the stored room has its epoch, and the room is the one shown. -/
def InOrder (h : RoomHistory) (g : Nat) (c : WaveClient) (i : WaveInput) : Prop :=
  ∀ s answers caught, i = .snapshot s answers caught → c.generation = g →
    ∀ r ∈ c.store.room h.roomId, s.sequence < r.lastSequence →
      r.roomEpoch = s.roomEpoch ∧ c.uiState.roomId = some h.roomId

section
variable {w : WaveSettings} {a : WaveAnswers} {s : WaveSnapshot} {h : RoomHistory} {g : Nat}
  {told : List PlayerAction} {c c' c₁ : WaveClient} {i : WaveInput}

theorem repr_inj {m n : Nat} (h : m.repr = n.repr) : m = n :=
  (@numbered_inj "" "" _ _ (congrArg (fun text => "" ++ ("-" ++ text)) h)).2

/-- The room of a snapshot that was stored. -/
theorem room_replaceSnapshot (store : WaveStore) (a : WaveAnswers) (s : WaveSnapshot) :
    (store.replaceSnapshot (storedWave a s)).room s.roomId = some (storedWave a s).room := by
  unfold WaveStore.room WaveStore.replaceSnapshot
  have hroom : s.roomId = (storedWave a s).room.roomId := rfl
  rw [if_pos hroom]
  rfl

/-- An exception changes nothing that is stored. -/
theorem Caught.store {room : String} (hc : Caught room g c c') : c'.store = c.store := by
  rcases hc with hq | ⟨-, hs⟩
  · exact hq.store
  · exact hs.store

/-- **What a snapshot of the history does**: nothing, or it is stored. -/
theorem snapshot_cases (took : h.Took s) (a : WaveAnswers) (caught : Option WaveFailure)
    (c : WaveClient) :
    ((g ≠ c.generation ∨ Outdated c s) ∧ clientStep w g c (.snapshot s a caught) = c) ∨
      (g = c.generation ∧ ¬Outdated c s ∧
        (clientStep w g c (.snapshot s a caught)).store =
          c.store.replaceSnapshot (storedWave a s)) := by
  obtain ⟨hroom, -, hsound⟩ := took
  rcases received_cases (w := w) (a := a) (s := s) (g := g) caught c with hi | ⟨hg, hold, c₁, hh, hend⟩
  · exact Or.inl hi
  · refine Or.inr ⟨hg, hold, ?_⟩
    have hstore : (clientStep w g c (.snapshot s a caught)).store = c₁.store := by
      rcases hend with heq | hc
      · exact congrArg WaveClient.store heq.symm
      · exact hc.store
    rw [hstore]
    cases hh with
    | ignored h same => exact absurd h (not_or.mpr ⟨not_not.mpr hg, hold⟩)
    | refused current recent bad same => exact absurd hsound bad
    | taken current recent ok turn => exact turn.store
    | closed current recent ok silent => exact silent.store

theorem failed_store (failure : WaveFailure) (c : WaveClient) :
    (clientStep w g c (.failed failure)).store = c.store := by
  have hc : Caught "" g c (clientStep w g c (.failed failure)) :=
    (triple_recoverFrom failure c).state_of
  exact hc.store

/-- What is stored stays what the history says. -/
theorem RoomStep.kept (hk : h.Kept c) (hs : RoomStep w h g c i c') : h.Kept c' := by
  obtain ⟨htook, rfl⟩ := hs
  cases i with
  | failed failure =>
    unfold RoomHistory.Kept
    rw [failed_store]
    exact hk
  | snapshot s a caught =>
    have took := htook s a caught rfl
    rcases snapshot_cases (w := w) (g := g) took a caught c with ⟨-, hsame⟩ | ⟨-, -, hstore⟩
    · rw [hsame]
      exact hk
    · unfold RoomHistory.Kept
      rw [hstore, ← took.1, room_replaceSnapshot]
      intro r hr
      cases hr
      exact took.2.1

/-- A step that stores nothing older goes forward. -/
theorem ForwardStep.of_same (hroom : c'.store h.roomId = c.store h.roomId)
    (hstale : ∀ s answers caught, i = .snapshot s answers caught → ∀ r ∈ c.store.room h.roomId,
      s.sequence < r.lastSequence → c'.player = c.player ∧ c'.queues = c.queues) :
    ForwardStep h c i c' := by
  have hrooms : c'.store.room h.roomId = c.store.room h.roomId := congrArg _ hroom
  refine ⟨fun r hr => ⟨r, hrooms ▸ hr, le_refl _⟩, fun r hr r' hr' e e' he he' => ?_,
    fun s answers caught heq r hr hlt => ⟨hroom, hstale s answers caught heq r hr hlt⟩⟩
  rw [hrooms] at hr'
  cases Option.mem_unique hr hr'
  exact (repr_inj (he.symm.trans he')).le

/-- **A snapshot does not take the client back exactly when it is in order.** -/
theorem forwardStep_iff (hk : h.Kept c) (hs : RoomStep w h g c i c') :
    ForwardStep h c i c' ↔ InOrder h g c i := by
  obtain ⟨htook, rfl⟩ := hs
  cases i with
  | failed failure =>
    constructor
    · intro _ s a caught heq
      cases heq
    · intro _
      refine .of_same (congrFun (failed_store failure c) h.roomId) fun s a caught heq => ?_
      cases heq
  | snapshot s a caught =>
    obtain ⟨hroom, hepoch, -⟩ := htook s a caught rfl
    rcases snapshot_cases (w := w) (g := g) (htook s a caught rfl) a caught c with ⟨hi, hsame⟩ | ⟨hg, hold, hstore⟩
    · rw [hsame]
      refine ⟨fun _ s' a' caught' heq hgen r hr hlt => ?_,
        fun _ => .of_same rfl fun _ _ _ _ _ _ _ => ⟨rfl, rfl⟩⟩
      cases heq
      rcases hi with hne | ⟨hui, r', hr', heq, -⟩
      · exact absurd hgen.symm hne
      · rw [hroom] at hui hr'
        cases Option.mem_unique hr hr'
        exact ⟨heq, hui⟩
    · have hnow : (clientStep w g c (.snapshot s a caught)).store.room h.roomId =
          some (storedWave a s).room := by
        rw [hstore, ← hroom]
        exact room_replaceSnapshot c.store a s
      constructor
      · rintro hf s' a' caught' heq - r hr hlt
        cases heq
        obtain ⟨r', hr', hle⟩ := hf.sequence r hr
        rw [hnow] at hr'
        cases hr'
        exact absurd hlt (not_lt.mpr hle)
      · intro ho
        have hnew : ∀ r ∈ c.store.room h.roomId, r.lastSequence ≤ s.sequence := by
          intro r hr
          by_contra hlt
          obtain ⟨heq, hui⟩ := ho s a caught rfl hg.symm r hr (not_le.mp hlt)
          exact hold ⟨hroom ▸ hui, r, hroom ▸ hr, heq, not_le.mp hlt⟩
        refine ⟨fun r hr => ⟨_, hnow, hnew r hr⟩, fun r hr r' hr' e e' he he' => ?_,
          fun s' a' caught' heq r hr hlt => ?_⟩
        · rw [hnow] at hr'
          cases hr'
          have h₁ : e = h.epochAt r.lastSequence := repr_inj (he.symm.trans (hk r hr))
          have h₂ : e' = h.epochAt s.sequence := repr_inj (he'.symm.trans hepoch)
          rw [h₁, h₂]
          exact h.grows (hnew r hr)
        · cases heq
          exact absurd hlt (not_lt.mpr (hnew r hr))

/-- **A step keeps the starts apart.** -/
theorem OnceInv.step (hi : OnceInv w g h.roomId told c) (hs : RoomStep w h g c i c') :
    OnceInv w g h.roomId told c' := by
  obtain ⟨htook, rfl⟩ := hs
  cases i with
  | failed failure => exact hi.caught (triple_recoverFrom failure c).state_of
  | snapshot s a caught =>
    obtain ⟨hroom, -, -⟩ := htook s a caught rfl
    rw [← hroom] at hi ⊢
    rcases received_cases (w := w) (a := a) (s := s) (g := g) caught c with
      ⟨-, hsame⟩ | ⟨-, -, c₁, hh, hend⟩
    · have heq : clientStep w g c (.snapshot s a caught) = c := hsame
      rw [heq]
      exact hi
    · rcases hend with heq | hc
      · have hh' := hi.handled hh
        rw [heq] at hh'
        exact hh'
      · exact (hi.handled hh).caught hc

end

/-- **A client goes forward exactly as long as its snapshots are in order**, and in every run, in
order or not, no command is started twice unless the player paused in between. -/
theorem forward_iff {w : WaveSettings} {h : RoomHistory} {c₀ c : WaveClient} {is : List WaveInput}
    (kept : h.Kept c₀) :
    (Path (fun c i c' => RoomStep w h c₀.generation c i c' ∧ ForwardStep h c i c') c₀ is c ↔
      Path (fun c i c' => RoomStep w h c₀.generation c i c' ∧ InOrder h c₀.generation c i) c₀ is c) ∧
    (Path (RoomStep w h c₀.generation) c₀ is c →
      ∃ as, c.player = c₀.player ++ as ∧ StartsOnce as) := by
  constructor
  · exact Path.restrict_iff (I := h.Kept) (fun _ _ _ hk hs => hs.kept hk)
      (fun _ _ _ hk hs => forwardStep_iff hk hs) kept
  · intro run
    have hi := run.invariant (I := OnceInv w c₀.generation h.roomId c₀.player)
      (fun _ _ _ hi hs => hi.step hs) (.start ..)
    obtain ⟨as, has, honce, -⟩ := hi.player
    exact ⟨as, has, honce⟩

/-! A room whose host changes between two snapshots. -/

namespace WaveSample

def settings : WaveSettings where
  hasPlayback := true
  playbackSnapshotNamespace := "wave"
  playbackQueueType := "WAVE"
  nameUuid := id
  parse := fun _ => none
  toLong := fun _ => none

def answers : WaveAnswers where
  trackRefByRecording := fun _ _ => some "track"
  resolve := fun _ => some .localReadable
  prepare := fun _ _ => ⟨true, .localReadable, 5000⟩
  preflightAccepted := true
  prefetched := true
  clockOffsetMs := some 0
  timingAccepted := true
  isWaveSynchronizationDegraded := false
  nowMs := 0
  elapsedRealtimeMs := 0

/-- A new coordinator of a device that keeps no room. -/
def client : WaveClient where
  store := fun _ => none
  queues := ⟨[], none⟩
  uiState := ⟨none, .idle, false, none, none⟩
  generation := 0
  preparedEntryId := none
  preparedRoomId := none
  preparedPlaybackEntryId := none
  preparation := none
  appliedPlaybackSequence := 0
  prefetchedKey := none
  previousOrdinarySnapshotId := none
  roomPlaybackSnapshotId := none
  serverClockOffsetMs := 0
  clockValidUntilElapsedRealtimeMs := 0
  player := []
  reports := []

/-- The sixth command transfers the room. -/
def history : RoomHistory where
  roomId := "room"
  epochAt := fun n => if n < 6 then 1 else 2
  grows := by
    intro m n hmn
    dsimp only
    split
    · split
      · exact le_refl _
      · exact Nat.le_succ 1
    · rename_i hm
      rw [if_neg fun hn => hm (lt_of_le_of_lt hmn hn)]

def snapshotAt (sequence : Int) (roomEpoch : String) : WaveSnapshot where
  roomId := "room"
  profileId := "profile"
  roomEpoch := roomEpoch
  queueVersion := 2
  role := "MEMBER"
  state := "OPEN"
  sequence := sequence
  entries := [⟨"entry", "recording", 0, none, true⟩]
  preflight := []
  playbackCommand := none

def before : WaveInput := .snapshot (snapshotAt 5 "1") answers none
def after : WaveInput := .snapshot (snapshotAt 7 "2") answers none

theorem step {sequence : Int} {roomEpoch : String} (c : WaveClient)
    (h : roomEpoch = (history.epochAt sequence).repr) :
    RoomStep settings history 0 c (.snapshot (snapshotAt sequence roomEpoch) answers none)
      (clientStep settings 0 c (.snapshot (snapshotAt sequence roomEpoch) answers none)) := by
  refine ⟨fun s a caught heq => ?_, rfl⟩
  cases heq
  exact ⟨rfl, h, Nat.le_of_ble_eq_true rfl, nofun⟩

theorem kept : history.Kept client := nofun

end WaveSample

/-- Two snapshots that arrive in order. -/
theorem forward_iff_in_order :
    ∃ c, Path (fun c i c' => RoomStep WaveSample.settings WaveSample.history 0 c i c' ∧
      ForwardStep WaveSample.history c i c') WaveSample.client [WaveSample.before, WaveSample.after] c ∧
        (c.store.room "room").map StoredWaveRoom.lastSequence = some 7 := by
  have hroom : (clientStep WaveSample.settings 0 WaveSample.client WaveSample.before).store.room "room" =
    some ⟨"room", "profile", "1", 2, "MEMBER", "OPEN", 5, 0⟩ := rfl
  refine ⟨_, (forward_iff WaveSample.kept).1.mpr (.cons ⟨WaveSample.step _ rfl, ?_⟩
    (.cons ⟨WaveSample.step _ rfl, ?_⟩ (.nil _))), rfl⟩
  · intro s a caught _ _ r hr
    cases hr
  · intro s a caught heq _ r hr hlt
    cases heq
    cases hroom.symm.trans hr
    exact absurd hlt (by decide)

/-- The snapshot of the earlier epoch arrives late: the client goes back from sequence 7 to 5. -/
theorem delayed_snapshot :
    ∃ c c', RoomStep WaveSample.settings WaveSample.history 0 WaveSample.client WaveSample.after c ∧
      RoomStep WaveSample.settings WaveSample.history 0 c WaveSample.before c' ∧
      (c.store.room "room").map StoredWaveRoom.lastSequence = some 7 ∧
      (c'.store.room "room").map StoredWaveRoom.lastSequence = some 5 :=
  ⟨_, _, WaveSample.step _ rfl, WaveSample.step _ rfl, rfl, rfl⟩

/-! ## messages of the socket -/

theorem accept_eq_duplicate_iff {n : Int} {command : WaveCommand} :
    accept n command = .duplicate ↔ command.sequence ≤ n := by
  unfold accept
  split
  · simp [*]
  · split <;> simp_all

/-- A message asks for a snapshot, unless its command is in the stored room already. -/
theorem onEvent_iff {c : WaveClient} {roomId : String} {g : Nat} {event : WaveEvent} :
    onEvent c roomId g event = true ↔
      c.uiState.roomId = some roomId ∧ c.generation = g ∧ ∀ command ∈ event.command,
        ∃ room ∈ c.store.room roomId,
          event.epoch = room.roomEpoch → room.lastSequence < command.sequence := by
  unfold onEvent
  by_cases hcur : c.uiState.roomId = some roomId ∧ c.generation = g
  swap
  · rw [if_neg hcur]
    exact ⟨nofun, fun h => absurd ⟨h.1, h.2.1⟩ hcur⟩
  rw [if_pos hcur]
  obtain ⟨hroom, hgeneration⟩ := hcur
  cases hcommand : event.command with
  | none => simp [hroom, hgeneration]
  | some command =>
    cases hstored : c.store.room roomId with
    | none => simp
    | some room =>
      by_cases hepoch : event.epoch = room.roomEpoch
      · have hnew := @accept_eq_duplicate_iff room.lastSequence command
        have hlt : room.lastSequence < command.sequence ↔
            accept room.lastSequence command ≠ .duplicate := by
          rw [← not_le, ne_eq, hnew]
        cases haccept : accept room.lastSequence command <;>
          simp [hroom, hgeneration, hepoch, hlt, haccept]
      · simp [hroom, hgeneration, hepoch]

end AutPlay.Client
