import AutPlay.Sync.Value
import Mathlib.Data.List.Sort
import Mathlib.Data.List.Nodup

/-!
# Values of the Sona-Lite shadow recommender

The frozen dataclasses of the domain; each carries what its `__post_init__` checks, and `make` is the
constructor that checks it.
-/

set_option linter.unusedSectionVars false

namespace AutPlay.Sona

open AutPlay.Sync (Uuid)

def codebookSize : Int := 32000
def maxHistoryEvents : Nat := 512
def maxCandidates : Nat := 1024
def maxSeed : Int := 2 ^ 53 - 1
def maxGeneratedCandidates : Nat := 128

inductive SonaAction
  | unknown
  | organicListen
  | recommendationListen
  | completion
  | shortSkip
  | like
  | dislike
  | exclude
  | recommendationSelected
  | recommendationDismissed
  deriving DecidableEq

/-- `int(action)`. -/
def SonaAction.code : SonaAction → Int
  | .unknown => 0
  | .organicListen => 1
  | .recommendationListen => 2
  | .completion => 3
  | .shortSkip => 4
  | .like => 5
  | .dislike => 6
  | .exclude => 7
  | .recommendationSelected => 8
  | .recommendationDismissed => 9

def SonaAction.all : List SonaAction :=
  [.unknown, .organicListen, .recommendationListen, .completion, .shortSkip, .like, .dislike,
    .exclude, .recommendationSelected, .recommendationDismissed]

/-- `SonaAction(value)`. -/
def SonaAction.ofCode (value : Int) : Except String SonaAction :=
  match SonaAction.all.find? (fun action => action.code = value) with
  | some action => .ok action
  | none => .error (toString value ++ " is not a valid SonaAction")

inductive SonaOrigin
  | unknown
  | explicit
  | organic
  | sourceQueue
  | recommendation
  | exclusion
  deriving DecidableEq

/-- `int(origin)`. -/
def SonaOrigin.code : SonaOrigin → Int
  | .unknown => 0
  | .explicit => 1
  | .organic => 2
  | .sourceQueue => 3
  | .recommendation => 4
  | .exclusion => 5

def SonaOrigin.all : List SonaOrigin :=
  [.unknown, .explicit, .organic, .sourceQueue, .recommendation, .exclusion]

/-- `SonaOrigin(value)`. -/
def SonaOrigin.ofCode (value : Int) : Except String SonaOrigin :=
  match SonaOrigin.all.find? (fun origin => origin.code = value) with
  | some origin => .ok origin
  | none => .error (toString value ++ " is not a valid SonaOrigin")

theorem SonaAction.ofCode_code (action : SonaAction) : ofCode action.code = .ok action := by
  cases action <;> rfl

theorem SonaOrigin.ofCode_code (origin : SonaOrigin) : ofCode origin.code = .ok origin := by
  cases origin <;> rfl

theorem SonaAction.code_of_ofCode {value : Int} {action : SonaAction} (h : ofCode value = .ok action) :
    action.code = value := by
  unfold ofCode at h
  split at h
  next found hfound =>
    cases h
    simpa using List.find?_some hfound
  next => cases h

theorem SonaOrigin.code_of_ofCode {value : Int} {origin : SonaOrigin} (h : ofCode value = .ok origin) :
    origin.code = value := by
  unfold ofCode at h
  split at h
  next found hfound =>
    cases h
    simpa using List.find?_some hfound
  next => cases h

/-- A level of a Semantic ID. -/
def inCodebook (value : Int) : Prop := 0 ≤ value ∧ value < codebookSize

instance : DecidablePred inCodebook := fun _ => inferInstanceAs (Decidable (_ ∧ _))

@[ext] structure SonaSemanticId where
  level1 : Int
  level2 : Int
  level3 : Int
  bounded : inCodebook level1 ∧ inCodebook level2 ∧ inCodebook level3
  deriving DecidableEq

def SonaSemanticId.make (level1 level2 level3 : Int) : Except String SonaSemanticId :=
  if h : inCodebook level1 ∧ inCodebook level2 ∧ inCodebook level3 then .ok ⟨level1, level2, level3, h⟩
  else .error "Sona Semantic ID is outside the codebook"

structure SonaHistoryEvent where
  evidenceId : Uuid
  recordingId : Uuid
  semanticId : SonaSemanticId
  action : SonaAction
  origin : SonaOrigin
  ageBucket : Int
  effectiveAtMs : Int
  serverSequence : Int
  aged : 0 ≤ ageBucket ∧ ageBucket ≤ 63
  timed : 0 ≤ effectiveAtMs ∧ 1 ≤ serverSequence
  deriving DecidableEq

def SonaHistoryEvent.make (evidenceId recordingId : Uuid) (semanticId : SonaSemanticId)
    (action : SonaAction) (origin : SonaOrigin) (ageBucket effectiveAtMs serverSequence : Int) :
    Except String SonaHistoryEvent :=
  if aged : 0 ≤ ageBucket ∧ ageBucket ≤ 63 then
    if timed : 0 ≤ effectiveAtMs ∧ 1 ≤ serverSequence then
      .ok ⟨evidenceId, recordingId, semanticId, action, origin, ageBucket, effectiveAtMs,
        serverSequence, aged, timed⟩
    else .error "Sona event time or sequence is invalid"
  else .error "Sona event age bucket is outside the vocabulary"

structure SonaCandidate where
  recordingId : Uuid
  semanticId : SonaSemanticId
  deriving DecidableEq

/-- The order of `(effective_at_ms, server_sequence, evidence_id.hex)`. -/
def eventLe (a b : SonaHistoryEvent) : Prop :=
  a.effectiveAtMs < b.effectiveAtMs ∨ a.effectiveAtMs = b.effectiveAtMs ∧
    (a.serverSequence < b.serverSequence ∨ a.serverSequence = b.serverSequence ∧
      a.evidenceId ≤ b.evidenceId)

instance decidableRelEventLe : DecidableRel eventLe := fun _ _ =>
  inferInstanceAs (Decidable (_ ∨ _ ∧ (_ ∨ _ ∧ _)))

/-- 64 characters of lower case hexadecimal. -/
def isSha256 (digest : String) : Bool :=
  digest.length = 64 && digest.toList.all fun c => c ∈ "0123456789abcdef".toList

structure SonaInferenceRequest where
  ownerUserId : Uuid
  temporalSnapshotId : Uuid
  baselineSnapshotId : Uuid
  cutoffAtMs : Int
  interactionWatermark : Int
  tokenizerSha256 : String
  modelManifestSha256 : String
  seed : Int
  history : List SonaHistoryEvent
  candidates : List SonaCandidate
  requestSha256 : String
  hashed : isSha256 tokenizerSha256 = true ∧ isSha256 modelManifestSha256 = true ∧
    isSha256 requestSha256 = true
  seeded : 0 ≤ cutoffAtMs ∧ 0 ≤ interactionWatermark ∧ 0 ≤ seed ∧ seed ≤ maxSeed
  historyBounded : history.length ≤ maxHistoryEvents
  candidatesBounded : 1 ≤ candidates.length ∧ candidates.length ≤ maxCandidates
  chronological : history.Pairwise eventLe
  contained : ∀ event ∈ history, event.serverSequence ≤ interactionWatermark ∧
    event.effectiveAtMs ≤ cutoffAtMs
  distinct : (candidates.map SonaCandidate.recordingId).Nodup

def SonaInferenceRequest.make (ownerUserId temporalSnapshotId baselineSnapshotId : Uuid)
    (cutoffAtMs interactionWatermark : Int) (tokenizerSha256 modelManifestSha256 : String) (seed : Int)
    (history : List SonaHistoryEvent) (candidates : List SonaCandidate) (requestSha256 : String) :
    Except String SonaInferenceRequest :=
  if hashed : isSha256 tokenizerSha256 = true ∧ isSha256 modelManifestSha256 = true ∧
      isSha256 requestSha256 = true then
    if seeded : 0 ≤ cutoffAtMs ∧ 0 ≤ interactionWatermark ∧ 0 ≤ seed ∧ seed ≤ maxSeed then
      if historyBounded : history.length ≤ maxHistoryEvents then
        if candidatesBounded : 1 ≤ candidates.length ∧ candidates.length ≤ maxCandidates then
          if chronological : history.Pairwise eventLe then
            if contained : ∀ event ∈ history, event.serverSequence ≤ interactionWatermark ∧
                event.effectiveAtMs ≤ cutoffAtMs then
              if distinct : (candidates.map SonaCandidate.recordingId).Nodup then
                .ok ⟨ownerUserId, temporalSnapshotId, baselineSnapshotId, cutoffAtMs,
                  interactionWatermark, tokenizerSha256, modelManifestSha256, seed, history,
                  candidates, requestSha256, hashed, seeded, historyBounded, candidatesBounded,
                  chronological, contained, distinct⟩
              else .error "Sona candidates contain duplicate recordings"
            else .error "Sona history escapes the snapshot boundary"
          else .error "Sona history is not chronologically stable"
        else .error "Sona candidate set exceeds the accepted bound"
      else .error "Sona history exceeds the accepted bound"
    else .error "Sona request watermark or seed is invalid"
  else .error "Sona request hash is invalid"

/-- Floats are finite and compared by their values. -/
structure SonaGeneratedCandidate where
  semanticId : SonaSemanticId
  logProbability : ℚ
  deriving DecidableEq

structure SonaRankedCandidate where
  recordingId : Uuid
  completion : ℚ
  like : ℚ
  skip : ℚ
  pairwise : ℚ
  combinedScore : ℚ
  deriving DecidableEq

def SonaRankedCandidate.headScores (ranked : SonaRankedCandidate) : List ℚ :=
  [ranked.completion, ranked.like, ranked.skip, ranked.pairwise]

/-- The order of `(-combined_score, recording_id.hex)`. -/
def rankedLe (a b : SonaRankedCandidate) : Prop :=
  b.combinedScore < a.combinedScore ∨ a.combinedScore = b.combinedScore ∧ a.recordingId ≤ b.recordingId

instance decidableRelRankedLe : DecidableRel rankedLe := fun _ _ =>
  inferInstanceAs (Decidable (_ ∨ _ ∧ _))

structure SonaInferenceOutput where
  requestSha256 : String
  generated : List SonaGeneratedCandidate
  ranked : List SonaRankedCandidate
  hashed : isSha256 requestSha256 = true
  generatedBounded : generated.length ≤ maxGeneratedCandidates
  rankedBounded : ranked.length ≤ maxCandidates
  distinct : (ranked.map SonaRankedCandidate.recordingId).Nodup
  ordered : ranked.Pairwise rankedLe

def SonaInferenceOutput.make (requestSha256 : String) (generated : List SonaGeneratedCandidate)
    (ranked : List SonaRankedCandidate) : Except String SonaInferenceOutput :=
  if hashed : isSha256 requestSha256 = true then
    if generatedBounded : generated.length ≤ maxGeneratedCandidates then
      if rankedBounded : ranked.length ≤ maxCandidates then
        if distinct : (ranked.map SonaRankedCandidate.recordingId).Nodup then
          if ordered : ranked.Pairwise rankedLe then
            .ok ⟨requestSha256, generated, ranked, hashed, generatedBounded, rankedBounded, distinct,
              ordered⟩
          else .error "Sona ranking output is not deterministically ordered"
        else .error "Sona ranking output contains duplicate recordings"
      else .error "Sona ranking output exceeds the accepted bound"
    else .error "Sona generation output exceeds the accepted bound"
  else .error "Sona hash is invalid"

/-! ## what the constructors check -/

theorem SonaSemanticId.make_ok {level1 level2 level3 : Int} {sid : SonaSemanticId} :
    make level1 level2 level3 = .ok sid ↔
      sid.level1 = level1 ∧ sid.level2 = level2 ∧ sid.level3 = level3 := by
  unfold make
  constructor
  · intro h
    split at h
    · cases h
      exact ⟨rfl, rfl, rfl⟩
    · cases h
  · rintro ⟨rfl, rfl, rfl⟩
    rw [dif_pos sid.bounded]

theorem SonaHistoryEvent.make_self (event : SonaHistoryEvent) :
    make event.evidenceId event.recordingId event.semanticId event.action event.origin event.ageBucket
      event.effectiveAtMs event.serverSequence = .ok event := by
  unfold make
  rw [dif_pos event.aged, dif_pos event.timed]

theorem SonaHistoryEvent.make_ok {evidenceId recordingId : Uuid} {semanticId : SonaSemanticId}
    {action : SonaAction} {origin : SonaOrigin} {ageBucket effectiveAtMs serverSequence : Int}
    {event : SonaHistoryEvent}
    (h : make evidenceId recordingId semanticId action origin ageBucket effectiveAtMs serverSequence =
      .ok event) :
    event.evidenceId = evidenceId ∧ event.recordingId = recordingId ∧ event.semanticId = semanticId ∧
      event.action = action ∧ event.origin = origin ∧ event.ageBucket = ageBucket ∧
      event.effectiveAtMs = effectiveAtMs ∧ event.serverSequence = serverSequence := by
  unfold make at h
  split at h
  · split at h
    · cases h
      exact ⟨rfl, rfl, rfl, rfl, rfl, rfl, rfl, rfl⟩
    · cases h
  · cases h

theorem SonaInferenceRequest.make_self (r : SonaInferenceRequest) :
    make r.ownerUserId r.temporalSnapshotId r.baselineSnapshotId r.cutoffAtMs r.interactionWatermark
      r.tokenizerSha256 r.modelManifestSha256 r.seed r.history r.candidates r.requestSha256 = .ok r := by
  unfold make
  rw [dif_pos r.hashed, dif_pos r.seeded, dif_pos r.historyBounded, dif_pos r.candidatesBounded,
    dif_pos r.chronological, dif_pos r.contained, dif_pos r.distinct]

theorem SonaInferenceRequest.make_ok {ownerUserId temporalSnapshotId baselineSnapshotId : Uuid}
    {cutoffAtMs interactionWatermark : Int} {tokenizerSha256 modelManifestSha256 : String} {seed : Int}
    {history : List SonaHistoryEvent} {candidates : List SonaCandidate} {requestSha256 : String}
    {r : SonaInferenceRequest}
    (h : make ownerUserId temporalSnapshotId baselineSnapshotId cutoffAtMs interactionWatermark
      tokenizerSha256 modelManifestSha256 seed history candidates requestSha256 = .ok r) :
    r.ownerUserId = ownerUserId ∧ r.temporalSnapshotId = temporalSnapshotId ∧
      r.baselineSnapshotId = baselineSnapshotId ∧ r.cutoffAtMs = cutoffAtMs ∧
      r.interactionWatermark = interactionWatermark ∧ r.tokenizerSha256 = tokenizerSha256 ∧
      r.modelManifestSha256 = modelManifestSha256 ∧ r.seed = seed ∧ r.history = history ∧
      r.candidates = candidates ∧ r.requestSha256 = requestSha256 := by
  unfold make at h
  repeat' split at h
  all_goals cases h
  exact ⟨rfl, rfl, rfl, rfl, rfl, rfl, rfl, rfl, rfl, rfl, rfl⟩

theorem SonaInferenceOutput.make_self (o : SonaInferenceOutput) :
    make o.requestSha256 o.generated o.ranked = .ok o := by
  unfold make
  rw [dif_pos o.hashed, dif_pos o.generatedBounded, dif_pos o.rankedBounded, dif_pos o.distinct,
    dif_pos o.ordered]

theorem SonaInferenceOutput.make_ok {requestSha256 : String} {generated : List SonaGeneratedCandidate}
    {ranked : List SonaRankedCandidate} {o : SonaInferenceOutput}
    (h : make requestSha256 generated ranked = .ok o) :
    o.requestSha256 = requestSha256 ∧ o.generated = generated ∧ o.ranked = ranked := by
  unfold make at h
  repeat' split at h
  all_goals cases h
  exact ⟨rfl, rfl, rfl⟩

end AutPlay.Sona
