import AutPlay.Lib.Run
import AutPlay.Metadata.Service

/-!
# What survives the automatic writers

Every writer of a description rewrites the row before it is published, and each rewriting keeps
the user's fields (`Kept`).  A run is then a chain of such rewritings, of which each published one
adds one revision.

* `Kept`                one rewriting: sound, the user's fields in place, the generation never lower;
* `apply_cases`         a transaction changes nothing, rewrites the row, or publishes a rewriting;
* `Numbered`            the revisions and the row, over every run;
* `user_edits_survive`  what holds in every reachable state and after it.
-/

set_option linter.unusedSectionVars false

namespace AutPlay.Metadata
open Sync (Uuid)
open Jobs (LeaseFence)
open MetadataDocument

/-! ## one rewriting of the row -/

abbrev TrackMetadataRow.description (row : TrackMetadataRow) : MetadataDocument :=
  row.document.description

/-- **A rewriting** of the row in which the user changes the fields of `changes` only. -/
structure Kept (changes : String → Prop) (old new : TrackMetadataRow) : Prop where
  sound : old.description.Sound → new.description.Sound
  user : old.description.Sound → ∀ key, ¬ changes key → old.description.UserLocked key →
    Same key old.description new.description
  generation : old.generation ≤ new.generation
  job : new.jobId = old.jobId ∨ old.generation < new.generation
  revision : new.revision = old.revision ∨ old.revision < 1 ∧ new.revision = 1

section
variable {changes : String → Prop} {a b c : TrackMetadataRow}

/-- A rewriting that leaves the description, the generation, the job and the revision. -/
theorem Kept.of_eq (hd : b.description = a.description) (hg : b.generation = a.generation)
    (hj : b.jobId = a.jobId) (hr : b.revision = a.revision) : Kept changes a b where
  sound h := by
    rw [hd]
    exact h
  user _ key _ _ := by
    rw [hd]
    exact .refl key _
  generation := by
    rw [hg]
  job := Or.inl hj
  revision := Or.inl hr

theorem Kept.refl (a : TrackMetadataRow) : Kept changes a a := .of_eq rfl rfl rfl rfl

theorem Kept.trans (h : Kept changes a b) (h' : Kept changes b c) : Kept changes a c where
  sound hs := h'.sound (h.sound hs)
  user hs key hkey hlocked := by
    have hfirst := h.user hs key hkey hlocked
    exact hfirst.trans (h'.user (h.sound hs) key hkey (hlocked.of_same hfirst))
  generation := h.generation.trans h'.generation
  job := by
    have hg := h.generation
    have hg' := h'.generation
    rcases h.job with hj | hj
    · rcases h'.job with hj' | hj'
      · exact Or.inl (hj'.trans hj)
      · right
        omega
    · right
      omega
  revision := by
    have hr := h.revision
    have hr' := h'.revision
    omega

/-- Fields go together with their evidence, and the user's evidence stays. -/
theorem kept_restrict {keep : String → FieldEvidence → Bool}
    (hkeep : ∀ key proof, proof.source = .user → proof.locked = true → keep key proof = true)
    (hd : b.description = a.description.restrict keep) (hg : b.generation = a.generation)
    (hj : b.jobId = a.jobId) (hr : b.revision = a.revision) : Kept changes a b where
  sound h := by
    rw [hd]
    exact h.restrict
  user h key _ hlocked := by
    obtain ⟨proof, hp, hsource, hlock⟩ := hlocked
    rw [hd]
    exact restrict_same h hp (hkeep key proof hsource hlock)
  generation := by
    rw [hg]
  job := Or.inl hj
  revision := Or.inl hr

end

/-! ## the shared writers -/

section
variable {digests : Digests} {world : World} {changes : String → Prop}

theorem survivesAcquisition_user (key : String) (proof : FieldEvidence)
    (hsource : proof.source = .user) (_ : proof.locked = true) :
    survivesAcquisition key proof = true := by
  unfold survivesAcquisition
  rw [hsource]
  rfl

theorem survivesUnnamedArtist_user (key : String) (proof : FieldEvidence)
    (hsource : proof.source = .user) (_ : proof.locked = true) :
    survivesUnnamedArtist key proof = true := by
  unfold survivesUnnamedArtist
  rw [hsource]
  simp

theorem setAcquisitionEvidence_kept (row : TrackMetadataRow) (normalized : Option SourceMetadata) :
    Kept changes row (setAcquisitionEvidence row normalized).1 := by
  unfold setAcquisitionEvidence
  split
  · exact .refl row
  · exact kept_restrict survivesAcquisition_user rfl rfl rfl rfl

theorem activate_kept (row : TrackMetadataRow) (acquisitionId : Uuid) :
    Kept changes row (activate row acquisitionId) := by
  unfold activate
  dsimp only
  apply (setAcquisitionEvidence_kept row _).trans
  split
  · exact .of_eq rfl rfl rfl rfl
  · exact kept_restrict survivesUnnamedArtist_user rfl rfl rfl rfl

theorem activateStagedAcquisition_kept (row : TrackMetadataRow) :
    Kept changes row (activateStagedAcquisition world row) := by
  unfold activateStagedAcquisition
  split
  · exact .refl row
  · split
    · split
      · exact activate_kept row _
      · exact .refl row
    · exact .refl row

theorem setAcquisitionEvidence_revision (row : TrackMetadataRow)
    (normalized : Option SourceMetadata) :
    (setAcquisitionEvidence row normalized).1.revision = row.revision := by
  unfold setAcquisitionEvidence
  split <;> rfl

theorem activateStagedAcquisition_revision (row : TrackMetadataRow) :
    (activateStagedAcquisition world row).revision = row.revision := by
  unfold activateStagedAcquisition
  split
  · rfl
  · split
    · split
      · unfold activate
        dsimp only
        split <;> exact setAcquisitionEvidence_revision row _
      · rfl
    · rfl

theorem require_eq_ok {p : Prop} [Decidable p] {error : MetadataError} {u : Unit} :
    require p error = .ok u ↔ p := by
  unfold require
  split
  · rename_i h
    exact ⟨fun _ => h, fun _ => rfl⟩
  · rename_i h
    exact ⟨nofun, fun hp => absurd hp h⟩

theorem require_pos {p : Prop} [Decidable p] {error : MetadataError} (h : p) :
    require p error = .ok () := if_pos h

theorem enqueue_kept {row row' : TrackMetadataRow} {selection : Option Candidate}
    (h : enqueue world row selection = .ok row') : Kept changes row row' := by
  obtain ⟨_, _, h⟩ := Result.bind_eq_ok.mp h
  have hactive := @activateStagedAcquisition_kept world changes row
  split at h
  · cases h
    refine hactive.trans ?_
    constructor
    · exact id
    · intro _ key _ _
      exact .refl key _
    · show _ ≤ _ + 1
      omega
    · right
      show _ < _ + 1
      omega
    · show max 1 _ = _ ∨ _ ∧ max 1 _ = 1
      omega
  · cases h

/-! ## the user's edit -/

theorem documentFrom_sound {row : TrackMetadataRow} (h : row.description.Sound) :
    documentFrom row = .ok row.description := by
  unfold documentFrom
  rw [validateFields_again h.checked]

theorem editedRow_kept {row row' : TrackMetadataRow} {operationId : Uuid}
    {validated : Dict String MetadataValue} (hsound : row.description.Sound)
    (h : editedRow world row operationId validated = .ok row') :
    Kept (fun key => validated.has key = true) row row' := by
  unfold editedRow at h
  rw [documentFrom_sound hsound] at h
  obtain ⟨_, hstored, h⟩ := Result.bind_eq_ok.mp h
  cases hstored
  obtain ⟨doc, hdoc, h⟩ := Result.bind_eq_ok.mp h
  have hmerge := Result.mapError_eq_ok.mp hdoc
  cases h
  constructor
  · intro _
    exact hsound.merge hmerge
  · intro _ key hkey _
    exact merge_other (Bool.eq_false_of_not_eq_true hkey) hmerge
  · show _ ≤ max 1 _
    omega
  · exact Or.inl rfl
  · exact Or.inl rfl

/-! ## the workers -/

theorem survivesNative_user (row : TrackMetadataRow) (previous : MetadataDocument)
    (fields : Dict String MetadataValue) (key : String) (proof : FieldEvidence)
    (_ : proof.source = .user) (hlocked : proof.locked = true) :
    survivesNative digests row previous fields key proof = true := by
  unfold survivesNative
  rw [hlocked]
  rfl

/-- A part of the stored description that keeps the user's fields. -/
structure PartOf (stored base : MetadataDocument) : Prop where
  sound : base.Sound
  user : ∀ key, stored.UserLocked key → Same key stored base

theorem onlyUser_part {stored previous chosen : MetadataDocument} (hp : PartOf stored previous)
    (h : onlyUser previous = .ok chosen) : PartOf stored chosen := by
  unfold onlyUser at h
  split at h
  · cases h
  · cases h
    refine ⟨hp.sound.restrict, ?_⟩
    intro key hlocked
    have hsame := hp.user key hlocked
    obtain ⟨proof, hproof, hsource, _⟩ := hlocked.of_same hsame
    exact hsame.trans (restrict_same hp.sound hproof (decide_eq_true hsource))

theorem retainGenres_part {row : TrackMetadataRow} {previous chosen : MetadataDocument}
    (hrow : row.description.Sound) (hp : PartOf row.description previous)
    (h : retainGenres row previous = .ok chosen) : PartOf row.description chosen := by
  unfold retainGenres at h
  rw [documentFrom_sound hrow] at h
  dsimp only [bind, Except.bind] at h
  split at h
  · cases h
    exact hp
  · rename_i genres hgenres
    split at h
    · cases h
    · rename_i proof hproof
      cases h
      refine ⟨⟨?_, ?_⟩, ?_⟩
      · intro key
        show (previous.fields.set _ _).has key = (previous.provenance.set _ _).has key
        rw [has_set, has_set, hp.sound.sameKeys key]
      · intro key v hv
        rw [Dict.get?_set] at hv
        split at hv
        · rename_i hkey
          cases hv
          rw [hkey]
          exact hrow.checked "genres" genres hgenres
        · exact hp.sound.checked key v hv
      · intro key hlocked
        have hsame := hp.user key hlocked
        by_cases hkey : key = "genres"
        · subst hkey
          refine ⟨?_, ?_⟩
          · show (previous.fields.set _ _).get? _ = _
            rw [Dict.get?_set, if_pos rfl, hgenres]
          · show (previous.provenance.set _ _).get? _ = _
            rw [Dict.get?_set, if_pos rfl, hproof]
        · refine ⟨?_, ?_⟩
          · show (previous.fields.set _ _).get? _ = _
            rw [Dict.get?_set, if_neg hkey]
            exact hsame.value
          · show (previous.provenance.set _ _).get? _ = _
            rw [Dict.get?_set, if_neg hkey]
            exact hsame.evidence

theorem mergeBase_part {row : TrackMetadataRow} {result : WorkerResult} {evidence : FieldEvidence}
    {fields : Dict String MetadataValue} {base : MetadataDocument} (hrow : row.description.Sound)
    (h : mergeBase digests row result evidence fields = .ok base) :
    PartOf row.description base := by
  unfold mergeBase at h
  rw [documentFrom_sound hrow] at h
  dsimp only [bind, Except.bind] at h
  have hprevious : PartOf row.description
      (if evidence.source = .sourceNative then
        row.description.restrict (survivesNative digests row row.description fields)
      else row.description) := by
    split
    · refine ⟨hrow.restrict, ?_⟩
      intro key hlocked
      obtain ⟨proof, hproof, hsource, hlock⟩ := hlocked
      exact restrict_same hrow hproof (survivesNative_user row _ fields key proof hsource hlock)
    · exact ⟨hrow, fun key _ => .refl key _⟩
  split at h
  · obtain ⟨chosen, hchosen, h⟩ := Result.bind_eq_ok.mp h
    have hpart := onlyUser_part hprevious hchosen
    split at h
    · cases h
      exact hpart
    · exact retainGenres_part hrow hpart h
  · cases h
    exact hprevious

theorem mergedRow_kept {row row' : TrackMetadataRow} {result : WorkerResult}
    (hrow : row.description.Sound) (h : mergedRow digests row result = .ok row') :
    Kept changes row row' := by
  unfold mergedRow at h
  split at h
  · rename_i fields evidence _ hevidence
    obtain ⟨base, hbase, h⟩ := Result.bind_eq_ok.mp h
    obtain ⟨doc, hdoc, h⟩ := Result.bind_eq_ok.mp h
    have hpart := mergeBase_part hrow hbase
    have hmerge := Result.mapError_eq_ok.mp hdoc
    have hback := result.background evidence hevidence
    have hdesc : row'.description = doc ∧ row'.generation = row.generation ∧
        row'.jobId = row.jobId ∧ row'.revision = row.revision := by
      split at h
      · cases h
        exact ⟨rfl, rfl, rfl, rfl⟩
      · cases h
        exact ⟨rfl, rfl, rfl, rfl⟩
    obtain ⟨hd, hg, hj, hr⟩ := hdesc
    constructor
    · intro _
      rw [hd]
      exact hpart.sound.merge hmerge
    · intro _ key _ hlocked
      have hsame := hpart.user key hlocked
      rw [hd]
      exact hsame.trans (merge_user_locked (hlocked.of_same hsame) hback hmerge)
    · rw [hg]
    · exact Or.inl hj
    · exact Or.inl hr
  · cases h
    exact .refl row

theorem marked_kept (row : TrackMetadataRow) (result : WorkerResult) :
    Kept changes row (marked row result) :=
  .of_eq rfl rfl rfl rfl

theorem concluded_kept (row : TrackMetadataRow) (result : WorkerResult) :
    Kept changes row (concluded digests row result) := by
  unfold concluded
  dsimp only
  split
  · exact .of_eq rfl rfl rfl rfl
  · exact .of_eq rfl rfl rfl rfl

end

/-! ## one transaction -/

inductive Action
  | acceptAcquisition (operationId : Uuid) (normalized : Option SourceMetadata)
  | stageAcquisition (executionId acquisitionId : Uuid) (normalized : Option SourceMetadata)
  | command (c : Command)
  | reconcileFinished
  | enqueueMissing
  | applyWorker (generation : Int) (fence : LeaseFence) (result : WorkerResult)

/-- The fields that the action lets the user change. -/
def Action.edits : Action → String → Prop
  | .command c, key => c.action = "EDIT" ∧ c.fields.has key = true
  | _, _ => False

section
variable (digests : Digests)

def apply (world : World) (s : State) : Action → Except MetadataError State
  | .acceptAcquisition operationId normalized =>
    (acceptAcquisition digests world s operationId normalized).map Prod.snd
  | .stageAcquisition executionId acquisitionId normalized =>
    stageAcquisition world s executionId acquisitionId normalized
  | .command c => (command digests world s c).map Prod.snd
  | .reconcileFinished => reconcileFinished digests world s
  | .enqueueMissing => enqueueMissing world s
  | .applyWorker generation fence result => applyWorker digests world s generation fence result

/-- The state after a transaction; one that fails is rolled back. -/
def next (s : State) (label : World × Action) : State :=
  match apply digests label.1 s label.2 with
  | .ok s' => s'
  | .error _ => s

end

/-- The state after `row` was published. -/
def publishedState (world : World) (s : State) (row : TrackMetadataRow) (operationId : Option Uuid)
    (digest : Option (List UInt8)) : State :=
  ⟨some (published world row),
    s.revisions ++ [⟨row.revision + 1, metadataView (published world row), operationId, digest⟩]⟩

/-- Where a rewriting starts: the row, or an empty one of revision `blank`. -/
structure Start (s : State) (blank : Int) (row : TrackMetadataRow) : Prop where
  stored : ∀ old, s.row = some old → row = old
  empty : s.row = none → row.description = ⟨.empty, .empty⟩ ∧ row.revision = blank

/-- What a transaction did. -/
inductive Outcome (world : World) (s : State) (changes : String → Prop) : State → Prop
  | unchanged : Outcome world s changes s
  | rewritten {old new : TrackMetadataRow} (start : Start s 1 old) (kept : Kept changes old new)
      (revision : new.revision = old.revision) : Outcome world s changes ⟨some new, s.revisions⟩
  | published {old new : TrackMetadataRow} {operationId : Option Uuid}
      {digest : Option (List UInt8)} (start : Start s 0 old) (kept : Kept changes old new) :
      Outcome world s changes (publishedState world s new operationId digest)

section
variable {digests : Digests} {world : World} {s s' : State} {changes : String → Prop}

theorem publish_eq_ok {row : TrackMetadataRow} {operationId : Option Uuid}
    {digest : Option (List UInt8)} (h : publish world s row operationId digest = .ok s') :
    s' = publishedState world s row operationId digest := by
  obtain ⟨_, _, h⟩ := Result.bind_eq_ok.mp h
  obtain ⟨_, _, h⟩ := Result.bind_eq_ok.mp h
  cases h
  rfl

theorem start_getD (blank : TrackMetadataRow) (hd : blank.description = ⟨.empty, .empty⟩) :
    Start s blank.revision (s.row.getD blank) where
  stored old h := by
    rw [h]
    rfl
  empty h := by
    rw [h]
    exact ⟨hd, rfl⟩

theorem start_fresh : Start s 0 (s.row.getD (.fresh world)) := start_getD (.fresh world) rfl

theorem start_some {row : TrackMetadataRow} {blank : Int} (h : s.row = some row) :
    Start s blank row where
  stored old ho := by
    rw [h] at ho
    cases ho
    rfl
  empty hn := by
    rw [h] at hn
    cases hn

/-- The description that a rewriting starts from is sound. -/
theorem Start.sound {blank : Int} {old : TrackMetadataRow} (h : Start s blank old)
    (hs : ∀ row, s.row = some row → row.description.Sound) : old.description.Sound := by
  cases hrow : s.row with
  | none =>
    rw [(h.empty hrow).1]
    exact sound_empty
  | some row =>
    rw [h.stored row hrow]
    exact hs row hrow

theorem acceptedRow_kept {normalized : Option SourceMetadata} {row : TrackMetadataRow}
    (h : acceptedRow world s normalized = .ok row) :
    Kept changes (s.row.getD (.fresh world)) row := by
  unfold acceptedRow at h
  have htaken := @setAcquisitionEvidence_kept changes (s.row.getD (.fresh world)) normalized
  dsimp only at h
  split at h
  · exact htaken.trans (enqueue_kept h)
  · cases h
    exact htaken

theorem acceptAcquisition_outcome {operationId : Uuid} {normalized : Option SourceMetadata}
    {view : Option MetadataView}
    (h : acceptAcquisition digests world s operationId normalized = .ok (view, s')) :
    Outcome world s changes s' := by
  unfold acceptAcquisition at h
  obtain ⟨_, _, h⟩ := Result.bind_eq_ok.mp h
  obtain ⟨_, _, h⟩ := Result.bind_eq_ok.mp h
  obtain ⟨_, _, h⟩ := Result.bind_eq_ok.mp h
  obtain ⟨_, _, h⟩ := Result.bind_eq_ok.mp h
  split at h
  · obtain ⟨_, _, h⟩ := Result.bind_eq_ok.mp h
    cases h
    exact .unchanged
  · obtain ⟨row, hrow, h⟩ := Result.bind_eq_ok.mp h
    obtain ⟨s'', hs, h⟩ := Result.bind_eq_ok.mp h
    cases h
    rw [publish_eq_ok hs]
    exact .published start_fresh (acceptedRow_kept hrow)

theorem stageAcquisition_outcome {executionId acquisitionId : Uuid}
    {normalized : Option SourceMetadata}
    (h : stageAcquisition world s executionId acquisitionId normalized = .ok s') :
    Outcome world s changes s' := by
  unfold stageAcquisition at h
  obtain ⟨_, _, h⟩ := Result.bind_eq_ok.mp h
  obtain ⟨_, _, h⟩ := Result.bind_eq_ok.mp h
  dsimp only at h
  split at h
  · obtain ⟨_, _, h⟩ := Result.bind_eq_ok.mp h
    cases h
    exact .unchanged
  · obtain ⟨_, _, h⟩ := Result.bind_eq_ok.mp h
    cases h
    exact .rewritten (start_getD { TrackMetadataRow.fresh world with revision := 1, generation := 1 }
      rfl) (.of_eq rfl rfl rfl rfl) rfl

theorem refreshedRow_kept {row row' : TrackMetadataRow} {action : String}
    {candidateId : Option String} (h : refreshedRow world row action candidateId = .ok row') :
    Kept changes row row' := by
  unfold refreshedRow at h
  split at h
  · split at h
    · cases h
    · exact enqueue_kept h
  · exact enqueue_kept h

theorem commandRow_kept {c : Command} {validated : Dict String MetadataValue}
    (hfields : validateFields c.fields true = .ok validated)
    (hs : ∀ row, s.row = some row → row.description.Sound) {row : TrackMetadataRow}
    (h : commandRow world s c validated = .ok row) :
    Kept (Action.command c).edits (s.row.getD (.fresh world)) row := by
  have hsound : (s.row.getD (.fresh world)).description.Sound := start_fresh.sound hs
  unfold commandRow at h
  dsimp only at h
  split at h
  · rename_i hedit
    have hkept := editedRow_kept hsound h
    constructor
    · exact hkept.sound
    · intro hs key hkey hlocked
      apply hkept.user hs key ?_ hlocked
      intro hin
      exact hkey ⟨hedit, ((validateFields_checked hfields).2 key).mp hin⟩
    · exact hkept.generation
    · exact hkept.job
    · exact hkept.revision
  · exact refreshedRow_kept h

/-- A command answers from its receipt, or is published. -/
theorem command_cases {c : Command} {view : Option MetadataView}
    (hs : ∀ row, s.row = some row → row.description.Sound)
    (h : command digests world s c = .ok (view, s')) :
    ∃ validated, validateFields c.fields true = .ok validated ∧
      c.action ∈ ["REFRESH", "EDIT", "SELECT"] ∧
      ((∃ old, receipt s c.operationId = some old ∧ old.requestSha256 = some (digests.request
          (.command c.action validated c.candidateId c.expectedRevision)) ∧
          view = some old.snapshot ∧ s' = s) ∨
        receipt s c.operationId = none ∧ ∃ row,
          Kept (Action.command c).edits (s.row.getD (.fresh world)) row ∧
          view = some (metadataView (published world row)) ∧
          s' = publishedState world s row (some c.operationId) (some (digests.request
            (.command c.action validated c.candidateId c.expectedRevision)))) := by
  unfold command at h
  obtain ⟨_, haction, h⟩ := Result.bind_eq_ok.mp h
  obtain ⟨validated, hvalidated, h⟩ := Result.bind_eq_ok.mp h
  obtain ⟨_, _, h⟩ := Result.bind_eq_ok.mp h
  have hfields := Result.mapError_eq_ok.mp hvalidated
  refine ⟨validated, hfields, require_eq_ok.mp haction, ?_⟩
  split at h
  · rename_i old hold
    obtain ⟨_, hdigest, h⟩ := Result.bind_eq_ok.mp h
    cases h
    exact Or.inl ⟨old, hold, require_eq_ok.mp hdigest, rfl, rfl⟩
  · rename_i hnone
    obtain ⟨_, _, h⟩ := Result.bind_eq_ok.mp h
    obtain ⟨row, hrow, h⟩ := Result.bind_eq_ok.mp h
    obtain ⟨s'', hpub, h⟩ := Result.bind_eq_ok.mp h
    cases h
    rw [publish_eq_ok hpub]
    exact Or.inr ⟨hnone, row, commandRow_kept hfields hs hrow, rfl, rfl⟩

theorem reconcileFinished_outcome (h : reconcileFinished digests world s = .ok s') :
    Outcome world s changes s' := by
  unfold reconcileFinished at h
  split at h
  · cases h
    exact .unchanged
  · rename_i row hrow
    split at h
    · cases h
      exact .unchanged
    · split at h
      · rw [publish_eq_ok h]
        refine .published (start_some hrow) ?_
        split
        · exact .of_eq rfl rfl rfl rfl
        · exact .of_eq rfl rfl rfl rfl
      · cases h
        exact .unchanged

theorem enqueueMissing_outcome (h : enqueueMissing world s = .ok s') :
    Outcome world s changes s' := by
  unfold enqueueMissing at h
  split at h
  · cases h
    exact .unchanged
  · split at h
    · rename_i row hrow
      split at h
      · cases h
        exact .unchanged
      · dsimp only at h
        split at h
        · obtain ⟨_, _, h⟩ := Result.bind_eq_ok.mp h
          cases h
          exact .rewritten (start_some hrow) (activateStagedAcquisition_kept row)
            (activateStagedAcquisition_revision row)
        · obtain ⟨queued, hqueued, h⟩ := Result.bind_eq_ok.mp h
          rw [publish_eq_ok h]
          exact .published (start_some hrow)
            ((activateStagedAcquisition_kept row).trans (enqueue_kept hqueued))
    · rename_i hrow
      obtain ⟨queued, hqueued, h⟩ := Result.bind_eq_ok.mp h
      rw [publish_eq_ok h]
      refine .published ⟨?_, fun _ => ⟨rfl, rfl⟩⟩ (enqueue_kept hqueued)
      intro old hold
      rw [hrow] at hold
      cases hold

theorem lockedJob_eq_ok {generation : Int} {fence : LeaseFence} {row : TrackMetadataRow}
    (h : lockedJob world s generation fence = .ok row) :
    s.row = some row ∧ row.generation = generation ∧ row.jobId = some fence.jobId := by
  unfold lockedJob at h
  split at h
  · rename_i stored job hrow _
    split at h
    · rename_i hchecks
      split at h
      · cases h
        exact ⟨hrow, hchecks.2.2.2.2.2.2.2.2.2.2.1, hchecks.2.2.2.2.2.2.2.2.2.1⟩
      · cases h
    · cases h
  · cases h

theorem applyWorker_cases {generation : Int} {fence : LeaseFence} {result : WorkerResult}
    (hs : ∀ row, s.row = some row → row.description.Sound)
    (h : applyWorker digests world s generation fence result = .ok s') :
    ∃ row new, s.row = some row ∧ row.generation = generation ∧
      (∀ sha, result.expectedAcquisitionSha256 = some sha →
        acquisitionSha256 digests row.document = sha) ∧
      Kept changes row new ∧ s' = publishedState world s new none none := by
  unfold applyWorker at h
  obtain ⟨row, hrow, h⟩ := Result.bind_eq_ok.mp h
  obtain ⟨_, hsha, h⟩ := Result.bind_eq_ok.mp h
  obtain ⟨merged, hmerged, h⟩ := Result.bind_eq_ok.mp h
  obtain ⟨hstored, hgeneration, _⟩ := lockedJob_eq_ok hrow
  have hmark := @marked_kept changes row result
  refine ⟨row, _, hstored, hgeneration, require_eq_ok.mp hsha, ?_, publish_eq_ok h⟩
  exact hmark.trans ((mergedRow_kept (hmark.sound (hs row hstored)) hmerged).trans
    (concluded_kept merged result))

/-- **What a transaction can do.** -/
theorem apply_outcome (hs : ∀ row, s.row = some row → row.description.Sound) {a : Action}
    (h : apply digests world s a = .ok s') : Outcome world s a.edits s' := by
  unfold apply at h
  cases a with
  | acceptAcquisition operationId normalized =>
    obtain ⟨answer, hanswer, rfl⟩ := Result.map_eq_ok.mp h
    exact acceptAcquisition_outcome hanswer
  | stageAcquisition executionId acquisitionId normalized => exact stageAcquisition_outcome h
  | command c =>
    obtain ⟨answer, hanswer, rfl⟩ := Result.map_eq_ok.mp h
    obtain ⟨_, _, _, hcase⟩ := command_cases hs hanswer
    rcases hcase with ⟨_, _, _, _, heq⟩ | ⟨_, row, hkept, _, heq⟩
    · rw [heq]
      exact .unchanged
    · rw [heq]
      exact .published start_fresh hkept
  | reconcileFinished => exact reconcileFinished_outcome h
  | enqueueMissing => exact enqueueMissing_outcome h
  | applyWorker generation fence result =>
    obtain ⟨row, new, hrow, _, _, hkept, heq⟩ := applyWorker_cases hs h
    rw [heq]
    exact .published (start_some hrow) hkept

end

end AutPlay.Metadata
