import AutPlay.Metadata.Survival
import Mathlib.Data.List.Chain

/-!
# User edits over whole runs

* `Numbered`            sound descriptions and consecutive revisions, in every reachable state;
* `NoKeyError`          no transaction looks up a key that is not there;
* `user_edits_survive`  the laws of a reachable state, and of whatever follows it.
-/

set_option linter.unusedSectionVars false

namespace AutPlay.Metadata
open Sync (Uuid)
open Jobs (LeaseFence)
open MetadataDocument

/-! ## the numbering of the revisions -/

/-- **The invariant.** -/
structure Numbered (s : State) : Prop where
  sound : ∀ row, s.row = some row → row.description.Sound
  positive : ∀ row, s.row = some row → 1 ≤ row.revision
  consecutive : s.revisions.IsChain fun a b => b.revision = a.revision + 1
  newest : ∀ r, s.revisions.getLast? = some r →
    ∃ row, s.row = some row ∧ row.revision = r.revision
  first : ∀ r, s.revisions.head? = some r → r.revision = 1 ∨ r.revision = 2
  staged : s.revisions = [] → ∀ row, s.row = some row → row.revision = 1

theorem numbered_initial : Numbered State.initial where
  sound _ h := by cases h
  positive _ h := by cases h
  consecutive := List.IsChain.nil
  newest _ h := by cases h
  first _ h := by cases h
  staged _ _ h := by cases h

section
variable {digests : Digests} {world : World} {s s' : State} {changes : String → Prop}

/-- The revision that a rewriting starts from. -/
theorem Start.revision {blank : Int} {old : TrackMetadataRow} (h : Start s blank old)
    (hs : Numbered s) : 1 ≤ old.revision ∨ s.row = none ∧ old.revision = blank := by
  cases hrow : s.row with
  | none => exact Or.inr ⟨rfl, (h.empty hrow).2⟩
  | some row =>
    rw [h.stored row hrow]
    exact Or.inl (hs.positive row hrow)

theorem Numbered.rewritten {old new : TrackMetadataRow} (hs : Numbered s) (start : Start s 1 old)
    (kept : Kept changes old new) (hrev : new.revision = old.revision) :
    Numbered ⟨some new, s.revisions⟩ where
  sound row h := by
    cases h
    exact kept.sound (start.sound hs.sound)
  positive row h := by
    cases h
    have hold := start.revision hs
    omega
  consecutive := hs.consecutive
  newest r h := by
    obtain ⟨row, hrow, hr⟩ := hs.newest r h
    refine ⟨new, rfl, ?_⟩
    rw [hrev, start.stored row hrow]
    exact hr
  first := hs.first
  staged hnil row h := by
    cases h
    rw [hrev]
    cases hrow : s.row with
    | none => exact (start.empty hrow).2
    | some row =>
      rw [start.stored row hrow]
      exact hs.staged hnil row hrow

/-- A rewriting of a published row keeps its revision. -/
theorem revision_of_published {old new : TrackMetadataRow} (hs : Numbered s)
    (start : Start s 0 old) (kept : Kept changes old new) {r : TrackMetadataRevisionRow}
    (hr : s.revisions.getLast? = some r) : new.revision = r.revision := by
  obtain ⟨row, hrow, hrev⟩ := hs.newest r hr
  have hstored := start.stored row hrow
  have hpos := hs.positive row hrow
  rw [← hstored] at hpos hrev
  have hkept := kept.revision
  omega

theorem Numbered.published {old new : TrackMetadataRow} {operationId : Option Uuid}
    {digest : Option (List UInt8)} (hs : Numbered s) (start : Start s 0 old)
    (kept : Kept changes old new) : Numbered (publishedState world s new operationId digest) where
  sound row h := by
    cases h
    exact kept.sound (start.sound hs.sound)
  positive row h := by
    cases h
    have hold := start.revision hs
    have hkept := kept.revision
    show 1 ≤ new.revision + 1
    omega
  consecutive := by
    rw [publishedState, List.isChain_append]
    refine ⟨hs.consecutive, List.IsChain.singleton _, ?_⟩
    intro r hr r' hr'
    cases hr'
    rw [← revision_of_published hs start kept hr]
  newest r h := by
    rw [publishedState, List.getLast?_append] at h
    cases h
    exact ⟨_, rfl, rfl⟩
  first r h := by
    cases hrev : s.revisions with
    | nil =>
      rw [publishedState, hrev] at h
      cases h
      have hkept := kept.revision
      show new.revision + 1 = 1 ∨ new.revision + 1 = 2
      cases hrow : s.row with
      | none =>
        have hblank := (start.empty hrow).2
        omega
      | some row =>
        have hone := hs.staged hrev row hrow
        rw [← start.stored row hrow] at hone
        omega
    | cons r' rest =>
      rw [publishedState, hrev] at h
      cases h
      exact hs.first r (by rw [hrev]; rfl)
  staged hnil := by
    rw [publishedState] at hnil
    exact absurd hnil (List.append_ne_nil_of_right_ne_nil _ (List.cons_ne_nil _ _))

theorem Numbered.outcome (hs : Numbered s) (h : Outcome world s changes s') : Numbered s' := by
  cases h with
  | unchanged => exact hs
  | rewritten start kept hrev => exact hs.rewritten start kept hrev
  | published start kept => exact hs.published start kept

/-- A transaction, or its failure. -/
theorem next_outcome (hs : Numbered s) (label : World × Action) :
    Outcome label.1 s label.2.edits (next digests s label) := by
  unfold next
  split
  · rename_i s' h
    exact apply_outcome hs.sound h
  · exact .unchanged

theorem Numbered.next (hs : Numbered s) (label : World × Action) :
    Numbered (next digests s label) :=
  hs.outcome (next_outcome hs label)

end

/-! ## keys that are there -/

/-- The computation raises no `KeyError`. -/
def NoKeyError {α : Type} (x : Except MetadataError α) : Prop := ∀ name, x ≠ .error (.key name)

section
variable {α β : Type}

theorem NoKeyError.ok (a : α) : NoKeyError (.ok a) := fun _ => nofun

theorem NoKeyError.bind {x : Except MetadataError α} {f : α → Except MetadataError β}
    (hx : NoKeyError x) (hf : ∀ a, x = .ok a → NoKeyError (f a)) : NoKeyError (x >>= f) := by
  intro name h
  rcases Result.bind_eq_error.mp h with h | ⟨a, ha, h⟩
  · exact hx name h
  · exact hf a ha name h

theorem NoKeyError.require {p : Prop} [Decidable p] {error : MetadataError}
    (h : ∀ name, error ≠ .key name) : NoKeyError (require p error) := by
  intro name hreq
  unfold Metadata.require at hreq
  split at hreq
  · cases hreq
  · cases hreq
    exact h name rfl

theorem NoKeyError.mapError {ε : Type} {x : Except ε α} {f : ε → MetadataError}
    (h : ∀ e name, f e ≠ .key name) : NoKeyError (x.mapError f) := by
  intro name hmap
  obtain ⟨e, _, he⟩ := Result.mapError_eq_error.mp hmap
  exact h e name he

end

section
variable {digests : Digests} {world : World} {s : State}

theorem noKeyError_flush (row : TrackMetadataRow) : NoKeyError (flush world row) := by
  unfold flush
  exact .require fun _ => nofun

theorem noKeyError_enqueue (row : TrackMetadataRow) (selection : Option Candidate) :
    NoKeyError (enqueue world row selection) := by
  unfold enqueue
  apply (noKeyError_flush _).bind
  intro _ _
  split
  · exact .ok _
  · exact fun _ => nofun

theorem noKeyError_publish (row : TrackMetadataRow) (operationId : Option Uuid)
    (digest : Option (List UInt8)) : NoKeyError (publish world s row operationId digest) := by
  unfold publish
  apply (noKeyError_flush _).bind
  intro _ _
  refine NoKeyError.bind (.require fun _ => nofun) ?_
  intro _ _
  exact .ok _

theorem noKeyError_acceptedRow (normalized : Option SourceMetadata) :
    NoKeyError (acceptedRow world s normalized) := by
  unfold acceptedRow
  dsimp only
  split
  · exact noKeyError_enqueue _ _
  · exact .ok _

theorem noKeyError_acceptAcquisition (operationId : Uuid) (normalized : Option SourceMetadata) :
    NoKeyError (acceptAcquisition digests world s operationId normalized) := by
  unfold acceptAcquisition
  refine NoKeyError.bind (.require fun _ => nofun) ?_
  intro _ _
  refine NoKeyError.bind (.require fun _ => nofun) ?_
  intro _ _
  refine NoKeyError.bind (.require fun _ => nofun) ?_
  intro _ _
  refine NoKeyError.bind (.require fun _ => nofun) ?_
  intro _ _
  split
  · refine NoKeyError.bind (.require fun _ => nofun) ?_
    intro _ _
    exact .ok _
  · apply (noKeyError_acceptedRow normalized).bind
    intro row _
    apply (noKeyError_publish row _ _).bind
    intro _ _
    exact .ok _

theorem noKeyError_stageAcquisition (executionId acquisitionId : Uuid)
    (normalized : Option SourceMetadata) :
    NoKeyError (stageAcquisition world s executionId acquisitionId normalized) := by
  unfold stageAcquisition
  refine NoKeyError.bind (.require fun _ h => by cases h) ?_
  intro _ _
  refine NoKeyError.bind (.require fun _ h => by cases h) ?_
  intro _ _
  dsimp only
  split
  · refine NoKeyError.bind (.require fun _ h => by cases h) ?_
    intro _ _
    exact .ok _
  · apply (noKeyError_flush _).bind
    intro _ _
    exact .ok _

theorem noKeyError_documentFrom (row : TrackMetadataRow) : NoKeyError (documentFrom row) := by
  unfold documentFrom
  split
  · exact .ok _
  · exact fun _ => nofun

theorem noKeyError_commandRow (c : Command) (validated : Dict String MetadataValue) :
    NoKeyError (commandRow world s c validated) := by
  unfold commandRow
  dsimp only
  split
  · unfold editedRow
    apply (noKeyError_documentFrom _).bind
    intro _ _
    refine NoKeyError.bind (.mapError fun _ _ => nofun) ?_
    intro _ _
    exact .ok _
  · unfold refreshedRow
    split
    · split
      · exact fun _ => nofun
      · exact noKeyError_enqueue _ _
    · exact noKeyError_enqueue _ _

theorem noKeyError_command (c : Command) : NoKeyError (command digests world s c) := by
  unfold command
  refine NoKeyError.bind (.require fun _ => nofun) ?_
  intro _ _
  refine NoKeyError.bind (.mapError fun _ _ => nofun) ?_
  intro validated _
  refine NoKeyError.bind (.require fun _ => nofun) ?_
  intro _ _
  split
  · refine NoKeyError.bind (.require fun _ => nofun) ?_
    intro _ _
    exact .ok _
  · refine NoKeyError.bind (.require fun _ => nofun) ?_
    intro _ _
    apply (noKeyError_commandRow c validated).bind
    intro row _
    apply (noKeyError_publish row _ _).bind
    intro _ _
    exact .ok _

theorem noKeyError_reconcileFinished : NoKeyError (reconcileFinished digests world s) := by
  unfold reconcileFinished
  split
  · exact .ok _
  · split
    · exact .ok _
    · split
      · exact noKeyError_publish _ _ _
      · exact .ok _

theorem noKeyError_enqueueMissing : NoKeyError (enqueueMissing world s) := by
  unfold enqueueMissing
  split
  · exact .ok _
  · split
    · split
      · exact .ok _
      · dsimp only
        split
        · apply (noKeyError_flush _).bind
          intro _ _
          exact .ok _
        · apply (noKeyError_enqueue _ _).bind
          intro row _
          exact noKeyError_publish row _ _
    · apply (noKeyError_enqueue _ _).bind
      intro row _
      exact noKeyError_publish row _ _

/-- In a sound description each field has its evidence. -/
theorem noKeyError_onlyUser {previous : MetadataDocument} (h : previous.Sound) :
    NoKeyError (onlyUser previous) := by
  unfold onlyUser
  split
  · rename_i e he
    have hmissing := List.find?_some he
    have hin : previous.fields.has e.1 = true := by
      rw [Dict.has_iff]
      exact ⟨e.2, Dict.get?_eq_some.mpr (List.mem_of_find?_eq_some he)⟩
    rw [← h.sameKeys e.1, hin] at hmissing
    cases hmissing
  · exact .ok _

theorem noKeyError_retainGenres {row : TrackMetadataRow} (h : row.description.Sound)
    (previous : MetadataDocument) : NoKeyError (retainGenres row previous) := by
  unfold retainGenres
  rw [documentFrom_sound h]
  dsimp only [bind, Except.bind]
  split
  · exact .ok _
  · rename_i genres hgenres
    split
    · rename_i hproof
      have hkeys := h.sameKeys "genres"
      unfold Dict.has at hkeys
      rw [hgenres, hproof] at hkeys
      cases hkeys
    · exact .ok _

theorem noKeyError_mergeBase {row : TrackMetadataRow} (h : row.description.Sound)
    (result : WorkerResult) (evidence : FieldEvidence) (fields : Dict String MetadataValue) :
    NoKeyError (mergeBase digests row result evidence fields) := by
  unfold mergeBase
  rw [documentFrom_sound h]
  dsimp only [bind, Except.bind]
  split
  · apply NoKeyError.bind
    · apply noKeyError_onlyUser
      split
      · exact h.restrict
      · exact h
    · intro chosen _
      split
      · exact .ok _
      · exact noKeyError_retainGenres h chosen
  · exact .ok _

theorem noKeyError_mergedRow {row : TrackMetadataRow} (h : row.description.Sound)
    (result : WorkerResult) : NoKeyError (mergedRow digests row result) := by
  unfold mergedRow
  split
  · apply (noKeyError_mergeBase h result _ _).bind
    intro _ _
    refine NoKeyError.bind (.mapError fun _ _ => nofun) ?_
    intro _ _
    split
    · exact .ok _
    · exact .ok _
  · exact .ok _

theorem noKeyError_applyWorker (hs : ∀ row, s.row = some row → row.description.Sound)
    (generation : Int) (fence : LeaseFence) (result : WorkerResult) :
    NoKeyError (applyWorker digests world s generation fence result) := by
  unfold applyWorker
  apply NoKeyError.bind
  · unfold lockedJob
    split
    · split
      · split
        · exact .ok _
        · exact fun _ => nofun
      · exact fun _ => nofun
    · exact fun _ => nofun
  · intro row hrow
    have hstored := (lockedJob_eq_ok hrow).1
    refine NoKeyError.bind (.require fun _ => nofun) ?_
    intro _ _
    apply (@noKeyError_mergedRow digests (marked row result) (hs row hstored) result).bind
    intro merged _
    exact noKeyError_publish _ _ _

/-- **No transaction raises a `KeyError`.** -/
theorem noKeyError_apply (hs : Numbered s) (a : Action) : NoKeyError (apply digests world s a) := by
  have hmap {γ δ : Type} {x : Except MetadataError γ} {f : γ → δ} (h : NoKeyError x) :
      NoKeyError (x.map f) := by
    intro name he
    cases x with
    | ok v => cases he
    | error e =>
      cases he
      exact h name rfl
  unfold apply
  cases a with
  | acceptAcquisition operationId normalized =>
    exact hmap (noKeyError_acceptAcquisition operationId normalized)
  | stageAcquisition executionId acquisitionId normalized =>
    exact noKeyError_stageAcquisition executionId acquisitionId normalized
  | command c => exact hmap (noKeyError_command c)
  | reconcileFinished => exact noKeyError_reconcileFinished
  | enqueueMissing => exact noKeyError_enqueueMissing
  | applyWorker generation fence result =>
    exact noKeyError_applyWorker hs.sound generation fence result

end

/-! ## whole runs -/

/-- What `get` shows as the revision. -/
def shownRevision (s : State) : Int := (s.row.map TrackMetadataRow.revision).getD 0

section
variable (digests : Digests)

/-- One label, under which no user edit of the field is taken. -/
def Leaves (key : String) (s : State) (label : World × Action) (s' : State) : Prop :=
  s' = next digests s label ∧ (label.2.edits key → s' = s)

/-- **The laws of a state**, and of what may follow it. -/
structure Survives (s : State) : Prop where
  /-- The user's edit of a field, a blank one too, stands until another edit of it is taken. -/
  userField : ∀ labels s' row key, Path (Leaves digests key) s labels s' →
    s.row = some row → row.description.UserLocked key →
    ∃ row', s'.row = some row' ∧ Same key row.description row'.description
  sameKeys : ∀ row key, s.row = some row →
    row.description.fields.has key = row.description.provenance.has key
  noKeyError : ∀ world a, NoKeyError (apply digests world s a)
  /-- The revision rows are numbered one after the other, from 1 or 2 to the row's revision. -/
  consecutive : s.revisions.IsChain fun a b => b.revision = a.revision + 1
  first : ∀ r, s.revisions.head? = some r → r.revision = 1 ∨ r.revision = 2
  newest : ∀ r, s.revisions.getLast? = some r → shownRevision s = r.revision
  /-- A transaction publishes nothing, or one revision. -/
  published : ∀ label,
    (next digests s label).revisions = s.revisions ∧
      (s.revisions ≠ [] → shownRevision (next digests s label) = shownRevision s) ∨
    ∃ r row, (next digests s label).revisions = s.revisions ++ [r] ∧
      (next digests s label).row = some row ∧ r.revision = row.revision ∧
      r.snapshot = metadataView row ∧ (s.revisions ≠ [] → row.revision = shownRevision s + 1)
  /-- Generations never fall, and each new job has a higher one. -/
  generations : ∀ labels s' row, Path (stepOf (next digests)) s labels s' → s.row = some row →
    ∃ row', s'.row = some row' ∧ row.generation ≤ row'.generation ∧
      (row'.jobId = row.jobId ∨ row.generation < row'.generation)
  /-- A worker's result is taken for the generation and the evidence that it was made for. -/
  lateResult : ∀ world generation fence result s',
    apply digests world s (.applyWorker generation fence result) = .ok s' →
    ∃ row, s.row = some row ∧ row.generation = generation ∧
      ∀ sha, result.expectedAcquisitionSha256 = some sha →
        acquisitionSha256 digests row.document = sha
  /-- A command that was taken is answered as before and changes nothing. -/
  repeated : ∀ world c view s' labels s'' world', command digests world s c = .ok (view, s') →
    Path (stepOf (next digests)) s' labels s'' → world'.refOwned = true →
    command digests world' s'' c = .ok (view, s'')

end

section
variable {digests : Digests} {s s' : State}

/-- A taken step keeps the user's field, unless it is an edit of it. -/
theorem outcome_user_field {world : World} {changes : String → Prop} {key : String}
    {row : TrackMetadataRow} (hs : Numbered s) (hrow : s.row = some row)
    (hlocked : row.description.UserLocked key) (hkey : ¬ changes key)
    (h : Outcome world s changes s') :
    ∃ row', s'.row = some row' ∧ Same key row.description row'.description := by
  cases h with
  | unchanged => exact ⟨row, hrow, .refl key _⟩
  | @rewritten old new start kept _ =>
    have hold := start.stored row hrow
    subst hold
    exact ⟨new, rfl, kept.user (hs.sound old hrow) key hkey hlocked⟩
  | @published old new _ _ start kept =>
    have hold := start.stored row hrow
    subst hold
    exact ⟨published world new, rfl, kept.user (hs.sound old hrow) key hkey hlocked⟩

theorem path_user_field {key : String} {labels : List (World × Action)}
    (p : Path (Leaves digests key) s labels s') (hs : Numbered s) {row : TrackMetadataRow}
    (hrow : s.row = some row) (hlocked : row.description.UserLocked key) :
    ∃ row', s'.row = some row' ∧ Same key row.description row'.description := by
  induction p generalizing row with
  | nil s => exact ⟨row, hrow, .refl key _⟩
  | @cons s mid s' label labels hstep p ih =>
    have hnext := hstep.1
    subst hnext
    have hmid : ∃ row', (next digests s label).row = some row' ∧
        Same key row.description row'.description := by
      by_cases hkey : label.2.edits key
      · rw [hstep.2 hkey]
        exact ⟨row, hrow, .refl key _⟩
      · exact outcome_user_field hs hrow hlocked hkey (next_outcome hs label)
    obtain ⟨row', hrow', hsame⟩ := hmid
    obtain ⟨row'', hrow'', hsame'⟩ := ih (hs.next label) hrow' (hlocked.of_same hsame)
    exact ⟨row'', hrow'', hsame.trans hsame'⟩

theorem path_generations {labels : List (World × Action)}
    (p : Path (stepOf (next digests)) s labels s') (hs : Numbered s) {row : TrackMetadataRow}
    (hrow : s.row = some row) :
    ∃ row', s'.row = some row' ∧ row.generation ≤ row'.generation ∧
      (row'.jobId = row.jobId ∨ row.generation < row'.generation) := by
  induction p generalizing row with
  | nil s => exact ⟨row, hrow, le_refl _, Or.inl rfl⟩
  | @cons s mid s' label labels hstep p ih =>
    have hnext : mid = next digests s label := hstep
    subst hnext
    have hmid : ∃ row', (next digests s label).row = some row' ∧
        row.generation ≤ row'.generation ∧
        (row'.jobId = row.jobId ∨ row.generation < row'.generation) := by
      have hout := @next_outcome digests s hs label
      generalize next digests s label = mid at hout ⊢
      cases hout with
      | unchanged => exact ⟨row, hrow, le_refl _, Or.inl rfl⟩
      | @rewritten old new start kept _ =>
        rw [← start.stored row hrow]
        exact ⟨new, rfl, kept.generation, kept.job⟩
      | @published old new _ _ start kept =>
        rw [← start.stored row hrow]
        exact ⟨published label.1 new, rfl, kept.generation, kept.job⟩
    obtain ⟨row', hrow', hle, hjob⟩ := hmid
    obtain ⟨row'', hrow'', hle', hjob'⟩ := ih (hs.next label) hrow'
    refine ⟨row'', hrow'', hle.trans hle', ?_⟩
    rcases hjob' with hjob' | hjob'
    · rcases hjob with hjob | hjob
      · exact Or.inl (hjob'.trans hjob)
      · right
        omega
    · right
      omega

/-- Receipts are never lost. -/
theorem receipt_next (hs : Numbered s) {operationId : Uuid} {r : TrackMetadataRevisionRow}
    (h : receipt s operationId = some r) (label : World × Action) :
    receipt (next digests s label) operationId = some r := by
  have hout := @next_outcome digests s hs label
  generalize next digests s label = s' at hout ⊢
  cases hout with
  | unchanged => exact h
  | rewritten start kept _ => exact h
  | published start kept =>
    unfold receipt publishedState at *
    rw [List.find?_append, h]
    rfl

theorem path_receipt {labels : List (World × Action)}
    (p : Path (stepOf (next digests)) s labels s') (hs : Numbered s) {operationId : Uuid}
    {r : TrackMetadataRevisionRow} (h : receipt s operationId = some r) :
    receipt s' operationId = some r := by
  have hboth := p.invariant (I := fun s => Numbered s ∧ receipt s operationId = some r)
    (fun s label s' hI hstep => by
      have hnext : s' = next digests s label := hstep
      subst hnext
      exact ⟨hI.1.next label, receipt_next hI.1 hI.2 label⟩) ⟨hs, h⟩
  exact hboth.2

/-- A command that was taken has left its receipt. -/
theorem command_receipt {world : World} {c : Command} {view : Option MetadataView}
    (hs : Numbered s) (h : command digests world s c = .ok (view, s')) :
    Numbered s' ∧ ∃ validated old, validateFields c.fields true = .ok validated ∧
      c.action ∈ ["REFRESH", "EDIT", "SELECT"] ∧ receipt s' c.operationId = some old ∧
      old.requestSha256 = some (digests.request
        (.command c.action validated c.candidateId c.expectedRevision)) ∧
      view = some old.snapshot := by
  obtain ⟨validated, hfields, haction, hcase⟩ := command_cases hs.sound h
  rcases hcase with ⟨old, hold, hdigest, hview, rfl⟩ | ⟨hnone, row, hkept, hview, rfl⟩
  · exact ⟨hs, validated, old, hfields, haction, hold, hdigest, hview⟩
  · refine ⟨hs.published start_fresh hkept, validated, ⟨row.revision + 1,
      metadataView (published world row), some c.operationId, _⟩, hfields, haction, ?_, rfl, hview⟩
    unfold receipt publishedState at *
    rw [List.find?_append, hnone, List.find?_cons_of_pos (by simp)]
    rfl

theorem command_again {world : World} {c : Command} {validated : Dict String MetadataValue}
    {old : TrackMetadataRevisionRow} (hfields : validateFields c.fields true = .ok validated)
    (haction : c.action ∈ ["REFRESH", "EDIT", "SELECT"])
    (hold : receipt s c.operationId = some old)
    (hdigest : old.requestSha256 = some (digests.request
      (.command c.action validated c.candidateId c.expectedRevision)))
    (howned : world.refOwned = true) :
    command digests world s c = .ok (some old.snapshot, s) := by
  unfold command
  rw [require_pos haction, hfields, require_pos howned, hold]
  show (require _ _ >>= fun _ => _) = _
  rw [require_pos hdigest]
  rfl

theorem numbered_survives (hs : Numbered s) : Survives digests s where
  userField labels s' row key p hrow hlocked := path_user_field p hs hrow hlocked
  sameKeys row key hrow := (hs.sound row hrow).sameKeys key
  noKeyError world a := noKeyError_apply hs a
  consecutive := hs.consecutive
  first := hs.first
  newest r hr := by
    obtain ⟨row, hrow, hrev⟩ := hs.newest r hr
    unfold shownRevision
    rw [hrow]
    exact hrev
  published label := by
    have shown_of {blank : Int} {old : TrackMetadataRow} (start : Start s blank old)
        (hne : s.revisions ≠ []) : shownRevision s = old.revision ∧ 1 ≤ old.revision := by
      obtain ⟨row, hrow, _⟩ := hs.newest _ (List.getLast?_eq_getLast_of_ne_nil hne)
      unfold shownRevision
      rw [hrow, start.stored row hrow]
      exact ⟨rfl, hs.positive row hrow⟩
    have hout := @next_outcome digests s hs label
    generalize next digests s label = s' at hout ⊢
    cases hout with
    | unchanged => exact Or.inl ⟨rfl, fun _ => rfl⟩
    | @rewritten old new start kept hrev =>
      refine Or.inl ⟨rfl, ?_⟩
      intro hne
      rw [(shown_of start hne).1]
      exact hrev
    | @published old new _ _ start kept =>
      refine Or.inr ⟨_, published label.1 new, rfl, rfl, rfl, rfl, ?_⟩
      intro hne
      have hshown := shown_of start hne
      have hkept := kept.revision
      show new.revision + 1 = _
      omega
  generations labels s' row p hrow := path_generations p hs hrow
  lateResult world generation fence result s' h := by
    obtain ⟨row, _, hrow, hgeneration, hsha, _, _⟩ :=
      @applyWorker_cases digests world s s' (fun _ => False) _ _ _ hs.sound h
    exact ⟨row, hrow, hgeneration, hsha⟩
  repeated world c view s' labels s'' world' h p howned := by
    obtain ⟨hs', validated, old, hfields, haction, hold, hdigest, hview⟩ := command_receipt hs h
    rw [hview]
    exact command_again hfields haction (path_receipt p hs' hold) hdigest howned

end

/-- **User edits survive everything automatic**, in every run of the service on a track. -/
theorem user_edits_survive (digests : Digests) (labels : List (World × Action)) (s : State)
    (p : Path (stepOf (next digests)) State.initial labels s) : Survives digests s := by
  have hs : Numbered s := p.invariant (fun s label s' h hstep => by
    have hnext : s' = next digests s label := hstep
    subst hnext
    exact h.next label) numbered_initial
  exact numbered_survives hs

/-! ## a new track -/

def newTrackId : Uuid := ⟨"00000000-0000-4000-8000-000000000001", Eq.refl true⟩

def firstJobId : Uuid := ⟨"00000000-0000-4000-8000-000000000002", Eq.refl true⟩

def zeroDigests : Digests where
  request _ := []
  acquisition _ := ""

/-- An active account with the track in its library. -/
def newTrackWorld : World where
  refId := newTrackId
  now := 0
  nowIso := "2026-01-01T00:00:00+00:00"
  refOwned := true
  refPresent := true
  refDeleted := false
  entry := some true
  accountActive := true
  authorityGeneration := 1
  playbackVariant := none
  canonicalVariant := none
  readyAcquisition _ := none
  job _ := none
  enqueuedJob := some firstJobId
  stagingAllowed := true
  executionAllowed := true
  fits _ := true

/-- The user leaves the album blank. -/
def blankAlbum : Command where
  operationId := newTrackId
  expectedRevision := 0
  action := "EDIT"
  fields := ⟨[("album", .null)], List.nodup_singleton _⟩
  candidateId := none

def refresh : Command where
  operationId := newTrackId
  expectedRevision := 0
  action := "REFRESH"
  fields := .empty
  candidateId := none

theorem user_edits_survive_blank_album :
    let s := next zeroDigests State.initial (newTrackWorld, .command blankAlbum)
    shownRevision s = 1 ∧ Survives zeroDigests s :=
  ⟨rfl, user_edits_survive zeroDigests [(newTrackWorld, .command blankAlbum)] _
    (.cons rfl (.nil _))⟩

/-- The first revision of a new track may be 2: the queue needs a row of revision 1 before the
publication counts it up. -/
theorem first_refresh_shows_two :
    ¬ ∀ (digests : Digests) (world : World) (c : Command) (view : Option MetadataView)
      (s : State), command digests world State.initial c = .ok (view, s) →
        shownRevision s = shownRevision State.initial + 1 := by
  intro h
  have hrun : ∃ view s, command zeroDigests newTrackWorld State.initial refresh = .ok (view, s) ∧
      shownRevision s = 2 := ⟨_, _, rfl, rfl⟩
  obtain ⟨view, s, hcommand, hshown⟩ := hrun
  have hone := h zeroDigests newTrackWorld refresh view s hcommand
  rw [hshown] at hone
  cases hone

end AutPlay.Metadata
