import AutPlay.Sync.Inbox
import AutPlay.Sync.Published

/-!
# The event log

The log of `sync.sync_event` only grows, at its end, along `server_sequence`.

* `LogOrdered`      the invariant: the sequences ascend and lie below the next one;
* `LogGrows`        what every transaction does to the log;
* `Told`            what a push leaves in the log and among the tombstones (`told_push`).
-/

set_option linter.unusedSectionVars false

namespace AutPlay.Sync
open Result

/-- The sequences of the log ascend, from one on, below the next one. -/
structure LogOrdered (db : SyncDb) : Prop where
  ascending : db.syncEvents.rows.Pairwise (fun a b => a.serverSequence < b.serverSequence)
  bounds : ∀ r ∈ db.syncEvents, 0 < r.serverSequence ∧ r.serverSequence < db.nextServerSequence
  next : 0 < db.nextServerSequence

/-- The log is longer by some ascending rows with sequences from the next one on. -/
structure LogGrows (db db' : SyncDb) : Prop where
  rows : ∃ new, db'.syncEvents.rows = db.syncEvents.rows ++ new ∧
    new.Pairwise (fun a b => a.serverSequence < b.serverSequence) ∧
    ∀ r ∈ new, db.nextServerSequence ≤ r.serverSequence ∧
      r.serverSequence < db'.nextServerSequence
  next : db.nextServerSequence ≤ db'.nextServerSequence

section
variable {db db' db'' : SyncDb}

theorem logOrdered_empty : LogOrdered .empty where
  ascending := List.Pairwise.nil
  bounds := fun _ h => absurd h List.not_mem_nil
  next := Int.one_pos

namespace LogGrows

theorem of_eq (hr : db'.syncEvents = db.syncEvents)
    (hn : db'.nextServerSequence = db.nextServerSequence) : LogGrows db db' where
  rows := ⟨[], by rw [hr, List.append_nil], List.Pairwise.nil, fun _ h => absurd h List.not_mem_nil⟩
  next := Int.le_of_eq hn.symm

theorem refl (db : SyncDb) : LogGrows db db := of_eq rfl rfl

theorem trans (h : LogGrows db db') (h' : LogGrows db' db'') : LogGrows db db'' := by
  obtain ⟨new, hr, hp, hb⟩ := h.rows
  obtain ⟨new', hr', hp', hb'⟩ := h'.rows
  refine ⟨⟨new ++ new', ?_, ?_, ?_⟩, le_trans h.next h'.next⟩
  · rw [hr', hr, List.append_assoc]
  · refine List.pairwise_append.mpr ⟨hp, hp', fun a ha b hbm => ?_⟩
    have h₁ := (hb a ha).2
    have h₂ := (hb' b hbm).1
    omega
  · intro r hr
    have h₁ := h.next
    have h₂ := h'.next
    rcases List.mem_append.mp hr with hr | hr
    · have h₃ := hb r hr
      omega
    · have h₃ := hb' r hr
      omega

theorem mem (h : LogGrows db db') {r : SyncEventRow} (hr : r ∈ db.syncEvents) :
    r ∈ db'.syncEvents := by
  obtain ⟨new, he, -⟩ := h.rows
  rw [Table.mem_def, he]
  exact List.mem_append_left _ hr

end LogGrows

theorem LogOrdered.grows (ho : LogOrdered db) (h : LogGrows db db') : LogOrdered db' := by
  obtain ⟨new, hr, hp, hb⟩ := h.rows
  have hn := h.next
  have hpos := ho.next
  refine ⟨?_, fun r hm => ?_, by omega⟩
  · rw [hr]
    refine List.pairwise_append.mpr ⟨ho.ascending, hp, fun a ha b hbm => ?_⟩
    have h₁ := (ho.bounds a ha).2
    have h₂ := (hb b hbm).1
    omega
  · rw [Table.mem_def, hr] at hm
    rcases List.mem_append.mp hm with hm | hm
    · have h₁ := ho.bounds r hm
      omega
    · have h₁ := hb r hm
      omega

end

/-! ## publications -/

section
variable {db db' : SyncDb} {userId : Uuid} {now : Int}

theorem publishedRows_bounds (userId : Uuid) (now : Int) (fs : List Publication) (next : Int) :
    (publishedRows userId now next fs).Pairwise (fun a b => a.serverSequence < b.serverSequence) ∧
      ∀ r ∈ publishedRows userId now next fs,
        next ≤ r.serverSequence ∧ r.serverSequence < next + fs.length := by
  induction fs generalizing next with
  | nil => exact ⟨List.Pairwise.nil, fun r hr => absurd hr List.not_mem_nil⟩
  | cons f fs ih =>
    obtain ⟨hp, hb⟩ := ih (next + 1)
    refine ⟨List.pairwise_cons.mpr ⟨fun r hr => ?_, hp⟩, fun r hr => ?_⟩
    · have h := (hb r hr).1
      show next < r.serverSequence
      omega
    · rw [List.length_cons]
      rcases List.mem_cons.mp hr with rfl | hr
      · show next ≤ next ∧ next < next + ((fs.length + 1 : Nat) : Int)
        omega
      · have h := hb r hr
        omega

/-- The rows of the facts `fs` are appended to the log. -/
structure Appends (userId : Uuid) (now : Int) (fs : List Publication) (db db' : SyncDb) :
    Prop where
  rows : db'.syncEvents.rows =
    db.syncEvents.rows ++ publishedRows userId now db.nextServerSequence fs
  next : db'.nextServerSequence = db.nextServerSequence + fs.length

theorem Appends.grows {fs : List Publication} (h : Appends userId now fs db db') :
    LogGrows db db' := by
  obtain ⟨hp, hb⟩ := publishedRows_bounds userId now fs db.nextServerSequence
  have hn := h.next
  refine ⟨⟨_, h.rows, hp, fun r hm => ?_⟩, by omega⟩
  have := hb r hm
  omega

theorem mem_publishedRows {fs : List Publication} {next : Int} {r : SyncEventRow}
    (h : r ∈ publishedRows userId now next fs) :
    ∃ f ∈ fs, ∃ sequence, r = publishedRow userId now sequence f := by
  induction fs generalizing next with
  | nil => exact absurd h List.not_mem_nil
  | cons f fs ih =>
    rcases List.mem_cons.mp h with rfl | h
    · exact ⟨f, List.mem_cons_self .., next, rfl⟩
    · obtain ⟨g, hg, hr⟩ := ih h
      exact ⟨g, List.mem_cons_of_mem _ hg, hr⟩

theorem publishedRows_mem (userId : Uuid) (now : Int) {fs : List Publication} (next : Int)
    {f : Publication} (h : f ∈ fs) :
    ∃ sequence, publishedRow userId now sequence f ∈ publishedRows userId now next fs := by
  induction fs generalizing next with
  | nil => exact absurd h List.not_mem_nil
  | cons g fs ih =>
    rcases List.mem_cons.mp h with rfl | h
    · exact ⟨next, List.mem_cons_self ..⟩
    · obtain ⟨sequence, hs⟩ : ∃ sequence, publishedRow userId now sequence f ∈
          publishedRows userId now (next + 1) fs := ih (next + 1) h
      exact ⟨sequence, List.mem_cons_of_mem _ hs⟩

end

/-! ## pushes -/

/-- **What an event leaves in the log and among the tombstones**: a `DELETE` leaves one of each. -/
structure Told (p : Principal) (e : Event) (now : Int) (db db' : SyncDb) : Prop where
  log : ∃ fs, Appends p.userId now fs db db' ∧
    (∀ f ∈ fs, f.operation = .delete → f.eventId = e.eventId ∧ genericOperation e = .delete) ∧
    (fs = [] ∨ ∃ f ∈ fs, f.eventId = e.eventId) ∧
    db'.tombstones.rows = db.tombstones.rows ++
      (if fs ≠ [] ∧ genericOperation e = .delete then [SyncDb.buried p e now] else [])

section
variable {env : Env} {db db' : SyncDb} {p : Principal} {e : Event} {now : Int} {requestId : Uuid}
  {r : Ack × SyncDb}

theorem Told.refl (p : Principal) (e : Event) (now : Int) (db : SyncDb) : Told p e now db db where
  log := ⟨[], ⟨(List.append_nil _).symm, by simp⟩, fun f hf => absurd hf List.not_mem_nil,
    Or.inl rfl, by simp⟩

theorem publishAll_appends {fs : List Publication} {userId : Uuid}
    (h : db.publishAll userId now fs = .ok db') :
    Appends userId now fs db db' ∧ db'.tombstones = db.tombstones := by
  obtain ⟨-, he, hn, hr⟩ := publishAll_ok h
  refine ⟨⟨hr, hn⟩, ?_⟩
  rw [he]

/-- The write of an interaction leaves the log alone. -/
theorem interaction_log {w : InteractionWrite} (h : w.run db p e = .ok db') :
    db'.syncEvents = db.syncEvents ∧ db'.nextServerSequence = db.nextServerSequence ∧
      db'.tombstones = db.tombstones := by
  cases w with
  | interaction row =>
    obtain ⟨t, -, rfl⟩ := bind_pure_eq_ok.mp h
    exact ⟨rfl, rfl, rfl⟩
  | listening l a =>
    obtain ⟨played, -, h⟩ := bind_eq_ok.mp h
    obtain ⟨duration, -, h⟩ := bind_eq_ok.mp h
    obtain ⟨ratio, -, h⟩ := bind_eq_ok.mp h
    split at h
    · obtain ⟨t, -, rfl⟩ := bind_pure_eq_ok.mp h
      exact ⟨rfl, rfl, rfl⟩
    · cases h

theorem told_applyGeneric (h : applyGeneric env db p e now requestId = .ok r) :
    Told p e now db r.2 := by
  unfold applyGeneric at h
  split at h
  · cases h
    exact .refl p e now db
  split at h
  · cases h
    exact .refl p e now db
  · cases h
    exact .refl p e now db
  next w hw =>
    have hc := genericChecks_ok hw
    obtain ⟨g, db₁, hg, hp, hb, -⟩ := (generic_ok hc).mp h
    have hrows : RowsOnly db g.db := .run hg
    obtain ⟨⟨hr, hn⟩, ht⟩ := publishAll_appends hp
    have hlog : g.db.syncEvents = db.syncEvents ∧ g.db.nextServerSequence = db.nextServerSequence ∧
        g.db.tombstones = db.tombstones := by
      rw [hrows]
      exact ⟨rfl, rfl, rfl⟩
    rw [hlog.1, hlog.2.1] at hr
    rw [hlog.2.1] at hn
    rw [hlog.2.2] at ht
    have hne : w.publications env p e g ≠ [] := List.append_ne_nil_of_right_ne_nil _ (List.cons_ne_nil _ _)
    have hself : ∃ f ∈ w.publications env p e g, f.eventId = e.eventId :=
      ⟨genericPublication p e g, List.mem_append_right _ (List.mem_singleton.mpr rfl), rfl⟩
    have hdel : ∀ f ∈ w.publications env p e g, f.operation = .delete →
        f.eventId = e.eventId ∧ genericOperation e = .delete := by
      intro f hf ho
      rcases List.mem_append.mp hf with hf | hf
      · obtain ⟨row, -, rfl⟩ := List.mem_map.mp hf
        cases ho
      · rw [List.mem_singleton.mp hf] at ho ⊢
        exact ⟨rfl, ho⟩
    unfold SyncDb.buryDeleted at hb
    by_cases hd : genericOperation e = .delete
    · rw [if_pos hd] at hb
      obtain ⟨t, hi, hb⟩ := SyncDb.bury_ok.mp hb
      rw [hb]
      refine ⟨_, ⟨hr, hn⟩, hdel, Or.inr hself, ?_⟩
      rw [if_pos ⟨hne, hd⟩, ← ht]
      exact (Table.insert_ok.mp hi).2.2
    · rw [if_neg hd] at hb
      cases hb
      refine ⟨_, ⟨hr, hn⟩, hdel, Or.inr hself, ?_⟩
      rw [if_neg fun h => hd h.2, List.append_nil, ht]

theorem told_applyInteraction (hk : e.eventType ≠ .aggregateDeleted)
    (h : applyInteraction env db p e now requestId = .ok r) : Told p e now db r.2 := by
  have hop : genericOperation e ≠ .delete := by
    unfold genericOperation
    rw [if_neg hk]
    exact fun h => nomatch h
  unfold applyInteraction at h
  split at h
  · cases h
    exact .refl p e now db
  next w hw =>
    obtain ⟨db₁, h₁, h⟩ := bind_eq_ok.mp h
    obtain ⟨db₂, h₂, h⟩ := bind_eq_ok.mp h
    cases h
    obtain ⟨⟨hr, hn⟩, ht⟩ := publishAll_appends (publishAll_singleton.mpr h₂)
    obtain ⟨hs, hn', ht'⟩ := interaction_log h₁
    rw [hs, hn'] at hr
    rw [hn'] at hn
    refine ⟨_, ⟨hr, hn⟩, fun f hf ho => ?_, Or.inr ⟨_, List.mem_singleton.mpr rfl, rfl⟩, ?_⟩
    · rw [List.mem_singleton.mp hf] at ho
      cases ho
    · rw [if_neg fun h => hop h.2, List.append_nil, ht, ht']

theorem told_applyEvent (h : applyEvent env db p e now requestId = .ok r) :
    Told p e now db r.2 := by
  unfold applyEvent at h
  split at h
  · cases h
    exact .refl p e now db
  split at h
  next hk =>
    refine told_applyInteraction (fun hd => ?_) h
    rw [hd] at hk
    exact absurd hk (by decide)
  split at h
  · exact told_applyGeneric h
  · cases h
    exact .refl p e now db

/-- A push leaves what its event leaves. -/
theorem told_push (c : PushCall) :
    Told c.principal c.event c.now db (pushStep env db c) := by
  rcases pushStep_cases env db c with hs | ⟨ack, db₁, -, cursor, sequence, hn, ha, hp, hr⟩
  · rw [hs]
    exact .refl _ _ _ db
  · have ht := told_applyEvent ha
    unfold SameProjections at hp
    obtain ⟨fs, ⟨hrows, hnext⟩, hdel, hself, htomb⟩ := ht.log
    have h₁ : (pushStep env db c).syncEvents = db₁.syncEvents := by rw [hp]
    have h₂ : (pushStep env db c).nextServerSequence = db₁.nextServerSequence := by rw [hp]
    have h₃ : (pushStep env db c).tombstones = db₁.tombstones := by rw [hp]
    refine ⟨fs, ⟨?_, ?_⟩, hdel, hself, ?_⟩
    · rw [h₁]
      exact hrows
    · rw [h₂]
      exact hnext
    · rw [h₃]
      exact htomb

end

end AutPlay.Sync
