import AutPlay.Sync.Uuid
import AutPlay.Lib.Greedy
import Mathlib.Data.Prod.Lex
import Mathlib.Algebra.Order.Field.Basic
import Mathlib.Algebra.Order.Group.Abs

/-!
# The temporal taste profile

* values                    evidence, the policy and the profile;
* `eligibleDeduplicated`    the evidence of an owner up to a cutoff and a watermark;
* `causalWeights`           masses, shared out within a causal group;
* `currentEpisodeIds`       the events of the running episode;
* `projectTemporalProfile`  maturity and one state for each dimension.

Arithmetic is exact over an ordered field; `pow` is a parameter.
-/

set_option linter.unusedSectionVars false

namespace AutPlay.Recommend

open AutPlay.Sync (Uuid)

/-! ## values -/

inductive DimensionKind
  | canonicalArtistId
  | canonicalReleaseId
  | boundedMetadataToken
  deriving DecidableEq

def DimensionKind.text : DimensionKind → String
  | .canonicalArtistId => "CANONICAL_ARTIST_ID"
  | .canonicalReleaseId => "CANONICAL_RELEASE_ID"
  | .boundedMetadataToken => "BOUNDED_METADATA_TOKEN"

inductive Horizon
  | episode
  | h12
  | h24
  | d3
  | d7
  deriving DecidableEq

/-- The members of `Horizon`, in their order. -/
def Horizon.all : List Horizon := [.episode, .h12, .h24, .d3, .d7]

inductive OriginLane
  | explicit
  | organic
  | sourceQueue
  | recommendation
  | exclusion
  deriving DecidableEq

inductive TemporalSignal
  | explicitLike
  | explicitDislike
  | excludeFromTaste
  | finalizedOrganicListen
  | finalizedRecommendationListen
  | recommendationSelected
  | recommendationDismissed
  | finalizedCompletion
  | finalizedShortListenSkip
  deriving DecidableEq

inductive TimeClassification
  | trustedEventTime
  | delayedWithinPolicy
  | futureSkewClamped
  | pastSkewRecentDisabled
  | receiptTimeOnly
  | localUnsyncedTime
  deriving DecidableEq

structure TemporalDimension where
  kind : DimensionKind
  key : String
  key_length : 1 ≤ key.length ∧ key.length ≤ 200
  deriving DecidableEq

def isLowerSha256 (text : String) : Bool :=
  text.length == 64 && text.toList.all fun c => c ∈ "0123456789abcdef".toList

variable {K : Type} [Field K] [LinearOrder K]

/-- One normalized evidence document; the fields below `recommendationSourceRank` are the checks of
its constructor. -/
structure TemporalEvidence (K : Type) [Field K] [LinearOrder K] where
  evidenceId : Uuid
  sourceEventId : Uuid
  ownerUserId : Uuid
  serverProfileId : Uuid
  deviceId : Uuid
  deviceSequence : Int
  serverSequence : Option Int
  sourceEventType : String
  signal : TemporalSignal
  derivationKey : String
  recordingId : Uuid
  dimensions : List TemporalDimension
  occurredAtMs : Int
  receivedAtMs : Int
  effectiveAtMs : Int
  timeClassification : TimeClassification
  originLane : OriginLane
  signedStrength : K
  qualityWeight : K
  excludedFromTaste : Bool
  sourceRequestSha256 : String
  recommendationRequestId : Option Uuid
  impressionEventId : Option Uuid
  recommendationSourceRank : Option Int
  sequences_positive : 1 ≤ deviceSequence ∧ ∀ n ∈ serverSequence, 1 ≤ n
  dimensions_bounded : 1 ≤ dimensions.length ∧ dimensions.length ≤ 32 ∧ dimensions.Nodup
  times_nonneg : 0 ≤ occurredAtMs ∧ 0 ≤ receivedAtMs ∧ 0 ≤ effectiveAtMs
  strength_bounded : -1 ≤ signedStrength ∧ signedStrength ≤ 1
  quality_bounded : 0 ≤ qualityWeight ∧ qualityWeight ≤ 1
  sha256_form : isLowerSha256 sourceRequestSha256 = true
  references_complete : recommendationRequestId.isSome = impressionEventId.isSome ∧
    impressionEventId.isSome = recommendationSourceRank.isSome
  recommendation_referenced : originLane = .recommendation → recommendationRequestId.isSome = true
  rank_range : ∀ n ∈ recommendationSourceRank, 1 ≤ n ∧ n ≤ 1000
  synced : timeClassification = .localUnsyncedTime ↔ serverSequence = none
  deriving DecidableEq

def TemporalEvidence.recentEligible (event : TemporalEvidence K) : Bool :=
  decide (event.timeClassification ≠ .pastSkewRecentDisabled)

inductive MaturityTerm
  | effectiveSignalMass
  | trackAndArtistCoverage
  | observationSpan
  | recency
  | consistency
  | organicShare
  deriving DecidableEq

/-- What the projection reads of its policy; the weight tables are complete. -/
structure AdaptiveFeaturePolicy (K : Type) where
  key : String
  version : String
  contentSha256 : String
  episodeInactivityGapMs : Int
  activeViewWeights : Horizon → K
  horizonWindowMs : List (Horizon × Int)
  originWeights : OriginLane → K
  dailyFatigueDecay : K
  skipGain : K
  completionRecovery : K
  maturityTermWeights : List (MaturityTerm × K)
  effectiveMassSaturation : K
  trackCoverageSaturation : K
  artistCoverageSaturation : K
  observationSpanSaturationMs : K
  recencyHalfLifeMs : K
  minimumPlasticity : K
  maximumPlasticity : K
  recentInterestCap : K
  momentumCap : K
  fatigueCap : K
  totalAbsoluteCap : K

structure HorizonValue (K : Type) where
  score : K
  confidence : K
  evidenceMass : K

structure MaturityState (K : Type) where
  score : K
  effectiveSignalMass : K
  trackCoverage : Nat
  artistCoverage : Nat
  observationSpanMs : Int
  recencyAgeMs : Int
  recency : K
  consistency : K
  organicShare : K
  plasticityMultiplier : K

structure AdaptiveDimensionState (K : Type) where
  dimension : TemporalDimension
  longTerm : HorizonValue K
  recent : List (Horizon × HorizonValue K)
  persistence : K
  momentum : K
  fatigue : K
  recentAdjustment : K
  sourceEventIds : List Uuid

structure AdaptiveProfile (K : Type) where
  ownerUserId : Uuid
  cutoffAtMs : Int
  interactionWatermark : Int
  featurePolicyKey : String
  featurePolicyVersion : String
  featurePolicySha256 : String
  maturity : MaturityState K
  dimensions : List (AdaptiveDimensionState K)
  sourceEventIds : List Uuid

/-- `TemporalProjectionError`, by its text. -/
inductive TemporalProjectionError
  | negativeCutoffOrWatermark
  | sourceEventLimit
  | crossOwnerEvidence
  | requestHashConflict
  | identityConflict
  | dimensionLimit
  deriving DecidableEq

/-! ## eligible evidence -/

/-- `by_id` and `source_hashes`, as the loop fills them. -/
structure Seen (K : Type) [Field K] [LinearOrder K] where
  byId : List (TemporalEvidence K)
  sourceHashes : List (Uuid × String)

/-- `source_hashes.setdefault(id, hash)` -/
def setDefaultHash (hashes : List (Uuid × String)) (sourceEventId : Uuid) (hash : String) :
    String × List (Uuid × String) :=
  match hashes.find? fun entry => entry.1 = sourceEventId with
  | some entry => (entry.2, hashes)
  | none => (hash, hashes ++ [(sourceEventId, hash)])

/-- `by_id.setdefault(event.evidence_id, event)` -/
def setDefaultEvent (byId : List (TemporalEvidence K)) (event : TemporalEvidence K) :
    TemporalEvidence K × List (TemporalEvidence K) :=
  match byId.find? fun prior => prior.evidenceId = event.evidenceId with
  | some prior => (prior, byId)
  | none => (event, byId ++ [event])

def see (ownerUserId : Uuid) (seen : Seen K) (event : TemporalEvidence K) :
    Except TemporalProjectionError (Seen K) :=
  if event.ownerUserId ≠ ownerUserId then .error .crossOwnerEvidence
  else
    let hashes := setDefaultHash seen.sourceHashes event.sourceEventId event.sourceRequestSha256
    if hashes.1 ≠ event.sourceRequestSha256 then .error .requestHashConflict
    else
      let prior := setDefaultEvent seen.byId event
      if prior.1 ≠ event then .error .identityConflict
      else .ok { byId := prior.2, sourceHashes := hashes.2 }

def selected (cutoffAtMs interactionWatermark : Int) (event : TemporalEvidence K) : Bool :=
  match event.serverSequence with
  | none => false
  | some serverSequence =>
    decide (event.receivedAtMs ≤ cutoffAtMs) && decide (serverSequence ≤ interactionWatermark)

/-- `(effective_at_ms, received_at_ms, server_sequence, evidence_id.hex)` -/
def evidenceKey (event : TemporalEvidence K) : ℤ ×ₗ ℤ ×ₗ ℤ ×ₗ Uuid :=
  toLex (event.effectiveAtMs, toLex (event.receivedAtMs,
    toLex (event.serverSequence.getD 0, event.evidenceId)))

def evidenceBefore (a b : TemporalEvidence K) : Prop := evidenceKey a ≤ evidenceKey b

instance : DecidableRel (evidenceBefore (K := K)) := fun a b =>
  inferInstanceAs (Decidable (evidenceKey a ≤ evidenceKey b))

def eligibleDeduplicated (ownerUserId : Uuid) (cutoffAtMs interactionWatermark : Int)
    (evidence : List (TemporalEvidence K)) :
    Except TemporalProjectionError (List (TemporalEvidence K)) :=
  (evidence.foldlM (see ownerUserId) ⟨[], []⟩).map fun seen =>
    (seen.byId.filter (selected cutoffAtMs interactionWatermark)).insertionSort evidenceBefore

/-! ## causal groups -/

inductive CausalKey
  | recommendation (requestId : Uuid) (impressionEventId : Option Uuid) (sourceRank : Option Int)
      (recordingId : Uuid)
  | listening (sourceEventId : Uuid)
  | source (sourceEventId : Uuid)
  deriving DecidableEq

def causalKey (event : TemporalEvidence K) : CausalKey :=
  match event.recommendationRequestId with
  | some requestId =>
    .recommendation requestId event.impressionEventId event.recommendationSourceRank
      event.recordingId
  | none =>
    if event.sourceEventType = "LISTENING_EVENT_RECORDED" then .listening event.sourceEventId
    else .source event.sourceEventId

/-- The keys of a dictionary that gets these keys in turn. -/
def keysInOrder {κ : Type} [DecidableEq κ] (keys : List κ) : List κ :=
  keys.foldl (fun seen key => if key ∈ seen then seen else seen ++ [key]) []

structure WeightedEvidence (K : Type) [Field K] [LinearOrder K] where
  event : TemporalEvidence K
  signedMass : K

def denominator (group : List (TemporalEvidence K)) : K :=
  max 1 (group.map fun event => |event.signedStrength|).sum

def signedMass (policy : AdaptiveFeaturePolicy K) (group : List (TemporalEvidence K))
    (event : TemporalEvidence K) : K :=
  event.signedStrength / denominator group * event.qualityWeight *
    policy.originWeights event.originLane

def causalGroup (evidence : List (TemporalEvidence K)) (key : CausalKey) :
    List (TemporalEvidence K) :=
  evidence.filter fun event => causalKey event = key

def weightedBefore (a b : WeightedEvidence K) : Prop := evidenceBefore a.event b.event

instance : DecidableRel (weightedBefore (K := K)) := fun a b =>
  inferInstanceAs (Decidable (evidenceBefore a.event b.event))

def causalWeights (policy : AdaptiveFeaturePolicy K) (evidence : List (TemporalEvidence K)) :
    List (WeightedEvidence K) :=
  ((keysInOrder (evidence.map causalKey)).flatMap fun key =>
    (causalGroup evidence key).map fun event =>
      ⟨event, signedMass policy (causalGroup evidence key) event⟩).insertionSort weightedBefore

/-! ## the running episode -/

/-- The events behind the newest one that the gaps still join, newest first. -/
def chainBack (gapMs : Int) : TemporalEvidence K → List (TemporalEvidence K) →
    List (TemporalEvidence K)
  | newest, [] => [newest]
  | newest, earlier :: rest =>
    if gapMs < newest.effectiveAtMs - earlier.effectiveAtMs then [newest]
    else newest :: chainBack gapMs earlier rest

def currentEpisodeIds (policy : AdaptiveFeaturePolicy K) (cutoffAtMs : Int)
    (weighted : List (WeightedEvidence K)) : List Uuid :=
  let recent := (weighted.filter fun value =>
    value.event.recentEligible && decide (value.event.effectiveAtMs ≤ cutoffAtMs)).map
      WeightedEvidence.event
  match recent.reverse with
  | [] => []
  | newest :: earlier =>
    if policy.episodeInactivityGapMs < cutoffAtMs - newest.effectiveAtMs then []
    else (chainBack policy.episodeInactivityGapMs newest earlier).map TemporalEvidence.evidenceId

/-! ## one dimension -/

def clamp (value lower upper : K) : K := min upper (max lower value)

structure Mass (K : Type) where
  positive : K
  negative : K

def Mass.zero : Mass K := ⟨0, 0⟩

def Mass.add (mass : Mass K) (value : K) : Mass K :=
  if 0 ≤ value then { mass with positive := mass.positive + value }
  else { mass with negative := mass.negative + -value }

def Mass.total (mass : Mass K) : K := mass.positive + mass.negative

def Mass.value (mass : Mass K) : HorizonValue K :=
  if mass.total = 0 then ⟨0, 0, 0⟩
  else
    { score := (mass.positive - mass.negative) / mass.total
      confidence := mass.total / (mass.total + 1) *
        (1 - 2 * min mass.positive mass.negative / mass.total)
      evidenceMass := mass.total }

def durableSignals : List TemporalSignal :=
  [.explicitLike, .finalizedOrganicListen, .finalizedRecommendationListen, .finalizedCompletion]

def fatigueSignals : List TemporalSignal := [.recommendationDismissed, .finalizedShortListenSkip]

def activeViews (policy : AdaptiveFeaturePolicy K) (episodeIds : List Uuid) (cutoffAtMs : Int)
    (event : TemporalEvidence K) : List Horizon :=
  if event.recentEligible = false then []
  else
    (if event.evidenceId ∈ episodeIds then [Horizon.episode] else []) ++
      ((policy.horizonWindowMs.filter fun window =>
        decide (0 ≤ cutoffAtMs - event.effectiveAtMs) &&
          decide (cutoffAtMs - event.effectiveAtMs ≤ window.2)).map Prod.fst)

/-- The values of `normalized_view_coefficients`. -/
def normalizedViewCoefficients (policy : AdaptiveFeaturePolicy K) (active : List Horizon) : List K :=
  let distinct := keysInOrder active
  let denominator := (distinct.map policy.activeViewWeights).sum
  if denominator ≤ 0 then []
  else distinct.map fun horizon => policy.activeViewWeights horizon / denominator

/-- The variables of the loop of `_project_dimension`. -/
structure Projection (K : Type) where
  longTerm : Mass K
  horizons : Horizon → Mass K
  fused : Mass K
  fatigue : K
  fatigueAtMs : Int
  references : List Uuid

def addHorizons (horizons : Horizon → Mass K) (active : List Horizon) (mass : K) :
    Horizon → Mass K :=
  active.foldl
    (fun horizons horizon => fun other =>
      if other = horizon then (horizons other).add mass else horizons other) horizons

def days (pow : K → K → K) (policy : AdaptiveFeaturePolicy K) (fromMs toMs : Int) : K :=
  pow policy.dailyFatigueDecay (max 0 (((toMs - fromMs : Int) : K) / 86400000))

def project (pow : K → K → K) (policy : AdaptiveFeaturePolicy K) (episodeIds : List Uuid)
    (cutoffAtMs : Int) (state : Projection K) (value : WeightedEvidence K) : Projection K :=
  let event := value.event
  let active := activeViews policy episodeIds cutoffAtMs event
  let decayed := state.fatigue * days pow policy state.fatigueAtMs event.effectiveAtMs
  let moved :=
    if event.signal ∈ fatigueSignals then decayed + |value.signedMass| * policy.skipGain
    else if event.signal = .finalizedCompletion then
      decayed - |value.signedMass| * policy.completionRecovery
    else decayed
  { longTerm :=
      if event.signal ∈ durableSignals then state.longTerm.add value.signedMass
      else state.longTerm
    horizons := addHorizons state.horizons active value.signedMass
    fused := (normalizedViewCoefficients policy active).foldl
      (fun fused coefficient => fused.add (value.signedMass * coefficient)) state.fused
    fatigue := clamp moved 0 1
    fatigueAtMs := max state.fatigueAtMs event.effectiveAtMs
    references :=
      if event.evidenceId ∈ state.references then state.references
      else state.references ++ [event.evidenceId] }

/-- `references[-64:]` -/
def lastReferences (references : List Uuid) : List Uuid := references.drop (references.length - 64)

def finishDimension (pow : K → K → K) (policy : AdaptiveFeaturePolicy K) (cutoffAtMs : Int)
    (plasticity : K) (dimension : TemporalDimension) (state : Projection K) :
    AdaptiveDimensionState K :=
  let fatigue := clamp (state.fatigue * days pow policy state.fatigueAtMs cutoffAtMs) 0 1
  let recent := Horizon.all.map fun horizon => (horizon, (state.horizons horizon).value)
  let momentum :=
    clamp ((state.horizons .episode).value.score - (state.horizons .d7).value.score) (-1) 1
  let observed := (recent.map Prod.snd).filter fun value => decide (0 < value.evidenceMass)
  let persistence : K :=
    if observed = [] then 0
    else (observed.map HorizonValue.confidence).sum / observed.length
  let fused := state.fused.value
  let components : List K :=
    [clamp (fused.score * fused.confidence * plasticity) (-policy.recentInterestCap)
        policy.recentInterestCap,
      momentum * policy.momentumCap, -fatigue * policy.fatigueCap]
  let absolute := (components.map fun value => |value|).sum
  let scaled :=
    if policy.totalAbsoluteCap < absolute then
      components.map fun value => value * (policy.totalAbsoluteCap / absolute)
    else components
  { dimension := dimension
    longTerm := state.longTerm.value
    recent := recent
    persistence := clamp persistence 0 1
    momentum := momentum
    fatigue := fatigue
    recentAdjustment := clamp scaled.sum (-1) 1
    sourceEventIds := lastReferences state.references }

def projectDimension (pow : K → K → K) (policy : AdaptiveFeaturePolicy K) (episodeIds : List Uuid)
    (cutoffAtMs : Int) (plasticity : K) (dimension : TemporalDimension)
    (weighted : List (WeightedEvidence K)) : AdaptiveDimensionState K :=
  let start : Projection K :=
    { longTerm := .zero
      horizons := fun _ => .zero
      fused := .zero
      fatigue := 0
      fatigueAtMs := (weighted.head?.map fun value => value.event.effectiveAtMs).getD cutoffAtMs
      references := [] }
  finishDimension pow policy cutoffAtMs plasticity dimension
    (weighted.foldl (project pow policy episodeIds cutoffAtMs) start)

/-! ## maturity -/

def maturityFromObservation (pow : K → K → K) (policy : AdaptiveFeaturePolicy K)
    (effectiveSignalMass : K) (trackCoverage artistCoverage : Nat)
    (observationSpanMs recencyAgeMs : Int) (consistency organicShare : K) : MaturityState K :=
  let recency := pow (1 / 2) ((recencyAgeMs : K) / policy.recencyHalfLifeMs)
  let coverage := (clamp (trackCoverage / policy.trackCoverageSaturation) 0 1 +
    clamp (artistCoverage / policy.artistCoverageSaturation) 0 1) / 2
  let component : MaturityTerm → K
    | .effectiveSignalMass => clamp (effectiveSignalMass / policy.effectiveMassSaturation) 0 1
    | .trackAndArtistCoverage => coverage
    | .observationSpan => clamp (observationSpanMs / policy.observationSpanSaturationMs) 0 1
    | .recency => recency
    | .consistency => clamp consistency 0 1
    | .organicShare => clamp organicShare 0 1
  let maturity := (policy.maturityTermWeights.map fun term => term.2 * component term.1).sum
  { score := maturity
    effectiveSignalMass := effectiveSignalMass
    trackCoverage := trackCoverage
    artistCoverage := artistCoverage
    observationSpanMs := observationSpanMs
    recencyAgeMs := recencyAgeMs
    recency := recency
    consistency := clamp consistency 0 1
    organicShare := clamp organicShare 0 1
    plasticityMultiplier :=
      policy.maximumPlasticity - maturity * (policy.maximumPlasticity - policy.minimumPlasticity) }

def included (weighted : List (WeightedEvidence K)) : List (WeightedEvidence K) :=
  weighted.filter fun value => !value.event.excludedFromTaste

def maturityOf (pow : K → K → K) (policy : AdaptiveFeaturePolicy K) (cutoffAtMs : Int)
    (weighted : List (WeightedEvidence K)) : MaturityState K :=
  let contributing := (included weighted).filter fun value => decide (value.signedMass ≠ 0)
  let totalMass := (contributing.map fun value => |value.signedMass|).sum
  let positive := (contributing.map fun value => max 0 value.signedMass).sum
  let negative := (contributing.map fun value => max 0 (-value.signedMass)).sum
  let contradiction : K := if totalMass = 0 then 0 else 2 * min positive negative / totalMass
  let organicMass := ((contributing.filter fun value => value.event.originLane = .organic).map
    fun value => |value.signedMass|).sum
  let times := contributing.map fun value => value.event.effectiveAtMs
  let latest := times.max?.getD cutoffAtMs
  let artistKeys := ((contributing.flatMap fun value => value.event.dimensions).filter
    fun dimension => dimension.kind = .canonicalArtistId).map TemporalDimension.key
  maturityFromObservation pow policy totalMass
    (keysInOrder (contributing.map fun value => value.event.recordingId)).length
    (keysInOrder artistKeys).length
    (times.max?.getD 0 - times.min?.getD 0)
    (max 0 (cutoffAtMs - latest)) (1 - contradiction)
    (if totalMass = 0 then 0 else organicMass / totalMass)

/-! ## the profile -/

def dimensionBefore (a b : TemporalDimension) : Prop :=
  a.kind.text < b.kind.text ∨ a.kind.text = b.kind.text ∧ a.key ≤ b.key

instance : DecidableRel dimensionBefore := fun _ _ => inferInstanceAs (Decidable (_ ∨ _ ∧ _))

/-- The keys of `dimension_events`; the values of a key are the included events with it. -/
def dimensionKeys (weighted : List (WeightedEvidence K)) : List TemporalDimension :=
  keysInOrder ((included weighted).flatMap fun value => value.event.dimensions)

def dimensionEvents (weighted : List (WeightedEvidence K)) (dimension : TemporalDimension) :
    List (WeightedEvidence K) :=
  (included weighted).filter fun value => dimension ∈ value.event.dimensions

def projectTemporalProfile (pow : K → K → K) (policy : AdaptiveFeaturePolicy K) (ownerUserId : Uuid)
    (cutoffAtMs interactionWatermark : Int) (evidence : List (TemporalEvidence K)) :
    Except TemporalProjectionError (AdaptiveProfile K) :=
  if cutoffAtMs < 0 ∨ interactionWatermark < 0 then .error .negativeCutoffOrWatermark
  else if 10000 < evidence.length then .error .sourceEventLimit
  else
    (eligibleDeduplicated ownerUserId cutoffAtMs interactionWatermark evidence).bind fun eligible =>
      let weighted := causalWeights policy eligible
      let episodeIds := currentEpisodeIds policy cutoffAtMs weighted
      if 512 < (dimensionKeys weighted).length then .error .dimensionLimit
      else
        let maturity := maturityOf pow policy cutoffAtMs weighted
        .ok
          { ownerUserId := ownerUserId
            cutoffAtMs := cutoffAtMs
            interactionWatermark := interactionWatermark
            featurePolicyKey := policy.key
            featurePolicyVersion := policy.version
            featurePolicySha256 := policy.contentSha256
            maturity := maturity
            dimensions := ((dimensionKeys weighted).insertionSort dimensionBefore).map fun dimension =>
              projectDimension pow policy episodeIds cutoffAtMs maturity.plasticityMultiplier
                dimension (dimensionEvents weighted dimension)
            sourceEventIds := weighted.map fun value => value.event.evidenceId }

end AutPlay.Recommend
