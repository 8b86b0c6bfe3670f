import AutPlay.Sync.Value
import AutPlay.Lib.Greedy
import Mathlib.Data.Finset.Card
import Mathlib.Data.Finset.Dedup
import Mathlib.Data.Rat.Defs

/-!
# The recommendation pipeline

* `PyFloat`      what the pipeline asks of `float`, and of `int` turned into one;
* values         the query, the snapshot, candidates and the pipeline definition;
* generators     five of them, each a row for some of the tracks, sorted and cut to a budget;
* `compose`, `applyFilter`, `score`, `candidatePool`, `rerank`, `run`.

`sha256` is a parameter: the digest of the UTF-8 bytes of a text.
-/

set_option linter.unusedSectionVars false

namespace AutPlay.Recommend

open AutPlay.Sync (Uuid Json Payload)

/-- The finite values of `float`. Comparison is a total preorder: `0.0` and `-0.0` are two values.
The integers of a snapshot are 64-bit columns, all of which convert. -/
class PyFloat (F : Type) extends Preorder F, Add F, Sub F, Mul F, Div F where
  total : ∀ a b : F, a ≤ b ∨ b ≤ a
  decideLE : DecidableRel (fun a b : F => a ≤ b)
  /-- a literal -/
  lit : ℚ → F
  ofInt : Int → F
  /-- `a / b` of two integers -/
  quotient : Int → Int → F
  /-- `round(x, 8)` -/
  round8 : F → F

variable {F : Type} [PyFloat F]

instance decidableLE : DecidableRel (fun a b : F => a ≤ b) := PyFloat.decideLE

open PyFloat (lit ofInt quotient round8)

/-! ## values -/

def supportedContexts : List String :=
  ["GENERAL", "WORKOUT", "CYCLING", "WORK", "SLEEP", "PARTY"]

inductive RecommendationSurface
  | recommendations
  | home
  | offlinePack
  deriving DecidableEq

structure RecommendationQuery (F : Type) [PyFloat F] where
  userId : Uuid
  surface : RecommendationSurface
  context : String
  limit : Int
  exploration : F
  seed : Int
  schemaVersion : Int
  canonicalizationVersion : Int
  shadow : Bool
  context_supported : context ∈ supportedContexts
  limit_range : 1 ≤ limit ∧ limit ≤ 100
  exploration_range : (lit 0 : F) ≤ exploration ∧ exploration ≤ lit 1
  version_one : schemaVersion = 1 ∧ canonicalizationVersion = 1

structure SnapshotTrack where
  recordingId : Uuid
  userTrackRefId : Option Uuid
  artistKey : String
  releaseKey : Option String
  metadataTokens : List String
  availability : String
  authorized : Bool
  identityStatus : String
  preference : String
  excluded : Bool
  playCount : Int
  organicPlayCount : Int
  recommendedPlayCount : Int
  lastPlayedAtMs : Option Int
  addedAtMs : Int
  releaseDateOrdinal : Option Int
  deriving DecidableEq

structure RecommendationInputSnapshot where
  tracks : List SnapshotTrack
  distinct : (tracks.map SnapshotTrack.recordingId).Nodup

structure CandidateContribution (F : Type) where
  sourceKey : String
  sourceVersion : String
  sourceRank : Nat
  rawScore : F
  provenance : Payload

structure Candidate (F : Type) where
  track : SnapshotTrack
  contributions : List (CandidateContribution F)

def Candidate.recordingId (candidate : Candidate F) : Uuid := candidate.track.recordingId

structure ScoredCandidate (F : Type) where
  candidate : Candidate F
  score : F
  reasonCodes : List String

def ScoredCandidate.recordingId (item : ScoredCandidate F) : Uuid := item.candidate.recordingId

structure RankedRecommendation (F : Type) where
  recordingId : Uuid
  sourceRank : Nat
  score : F
  reasonCode : String
  reasonCodes : List String
  contributions : List (CandidateContribution F)
  artistKey : String
  releaseKey : Option String
  sectionKey : String

structure PipelineDefinition where
  generatorBudgets : List (String × Int)
  maxArtistRepeat : Int
  maxReleaseRepeat : Int

/-! ## the representation of the user -/

structure BaselineUserRepresentation where
  likedArtists : Finset String
  listenedArtists : Finset String
  likedTokens : Finset String

def prepare (tracks : List SnapshotTrack) : BaselineUserRepresentation :=
  let liked := tracks.filter fun track => track.preference = "LIKED"
  let listened := tracks.filter fun track => 0 < track.organicPlayCount
  { likedArtists := (liked.map SnapshotTrack.artistKey).toFinset
    listenedArtists := (listened.map SnapshotTrack.artistKey).toFinset
    likedTokens := (liked.flatMap SnapshotTrack.metadataTokens).toFinset }

/-! ## generators -/

/-- `max(values, default=0)` -/
def maxDefault (values : List Int) : Int := values.max?.getD 0

/-- `max(a, b)` and `min(a, b)` of floats: the first of the two when they are equal. -/
def pyMax (a b : F) : F := if b ≤ a then a else b
def pyMin (a b : F) : F := if a ≤ b then a else b

/-- `values[:limit]` -/
def pySlice {α : Type} (values : List α) (limit : Int) : List α :=
  if 0 ≤ limit then values.take limit.toNat else values.take (values.length - limit.natAbs)

/-- A track with its raw score and its provenance. -/
abbrev Row (F : Type) := SnapshotTrack × F × Payload

/-- The key `(-score, recording_id.hex)`. -/
def rowBefore (a b : Row F) : Prop :=
  ¬ a.2.1 ≤ b.2.1 ∨ b.2.1 ≤ a.2.1 ∧ a.1.recordingId ≤ b.1.recordingId

instance : DecidableRel (rowBefore (F := F)) := fun _ _ => inferInstanceAs (Decidable (_ ∨ _ ∧ _))

def candidateOf (key : String) (row : Row F × Nat) : Candidate F :=
  { track := row.1.1
    contributions := [{ sourceKey := key
                        sourceVersion := "1"
                        sourceRank := row.2
                        rawScore := round8 row.1.2.1
                        provenance := row.1.2.2 }] }

/-- `_BaseGenerator._batch` -/
def batch (key : String) (rows : List (Row F)) (limit : Int) : List (Candidate F) :=
  ((pySlice (rows.insertionSort rowBefore) limit).zipIdx 1).map (candidateOf key)

/-- The comprehension every generator is: a row for some of the tracks. -/
def rowsOf (row : SnapshotTrack → Option (F × Payload)) (tracks : List SnapshotTrack) :
    List (Row F) :=
  tracks.filterMap fun track => (row track).map fun r => (track, r)

def preferenceRow (track : SnapshotTrack) : Option (F × Payload) :=
  if track.preference = "LIKED" then
    some (lit 1 + lit 0.05 * ofInt (min track.playCount 5), [("preference", .str "LIKE")])
  else none

def historyRow (query : RecommendationQuery F) (nowAnchor : Int) (track : SnapshotTrack) :
    Option (F × Payload) :=
  if track.organicPlayCount ≤ 0 then none
  else
    let ageDays : F :=
      match track.lastPlayedAtMs with
      | none => lit 365
      | some lastPlayed => pyMax (lit 0) (quotient (nowAnchor - lastPlayed) 86400000)
    let forgotten := pyMin (ageDays / lit 180) (lit 1)
    let organicWeight : F := if query.context = "GENERAL" then lit 0.9 else lit 0.8
    some (organicWeight + lit 0.15 * forgotten,
      [("organic_play_count", .int track.organicPlayCount),
        ("recommended_play_count_ignored_for_affinity", .int track.recommendedPlayCount),
        ("forgotten", .bool (decide (lit 0.5 ≤ forgotten)))])

/-- A truth value as the integer it is. -/
def boolInt (b : Bool) : Int := if b then 1 else 0

/-- An optional value of the snapshot as JSON. -/
def optional {α : Type} (json : α → Json) : Option α → Json
  | none => .null
  | some a => json a

def artistReleaseMetadataRow (prepared : BaselineUserRepresentation) (track : SnapshotTrack) :
    Option (F × Payload) :=
  let artistMatch := decide (track.artistKey ∈ prepared.likedArtists)
  let historyArtist := decide (track.artistKey ∈ prepared.listenedArtists)
  let tokenOverlap := (track.metadataTokens.toFinset ∩ prepared.likedTokens).card
  if ¬ (artistMatch = true ∨ historyArtist = true ∨ tokenOverlap ≠ 0) then none
  else
    some (lit 0.55 + lit 0.3 * ofInt (boolInt artistMatch) +
        lit 0.1 * ofInt (boolInt historyArtist) + lit 0.02 * ofInt tokenOverlap,
      [("artist_affinity", .bool (artistMatch || historyArtist)),
        ("metadata_token_overlap", .int tokenOverlap),
        ("release_key", optional .str track.releaseKey)])

def freshnessRow (prepared : BaselineUserRepresentation) (newestRelease : Int)
    (track : SnapshotTrack) : Option (F × Payload) :=
  let affinityArtists := prepared.likedArtists ∪ prepared.listenedArtists
  if affinityArtists = ∅ ∨ track.artistKey ∈ affinityArtists then
    let recency : F :=
      if newestRelease = 0 then lit 1
      else
        pyMax (lit 0)
          (lit 1 - ofInt (newestRelease - track.releaseDateOrdinal.getD 0) / lit 730)
    some (lit 0.4 + lit 0.6 * recency,
      [("release_date_ordinal", optional .int track.releaseDateOrdinal),
        ("artist_affinity", .bool (decide (track.artistKey ∈ affinityArtists))),
        ("cold_start_fallback", .bool (decide (affinityArtists = ∅)))])
  else none

/-- `int.from_bytes(_, "big")` -/
def fromBytes (bytes : List UInt8) : Nat := bytes.foldl (fun n byte => n * 256 + byte.toNat) 0

/-- `f"{seed}:{recording_id}"` -/
def seedText (query : RecommendationQuery F) (recordingId : Uuid) : String :=
  toString query.seed ++ ":" ++ recordingId.text

def explorationScore (sha256 : String → List UInt8) (query : RecommendationQuery F)
    (track : SnapshotTrack) : F :=
  ofInt (fromBytes ((sha256 (seedText query track.recordingId)).take 8)) / ofInt (2 ^ 64 - 1)

def explorationRow (sha256 : String → List UInt8) (query : RecommendationQuery F)
    (track : SnapshotTrack) : Option (F × Payload) :=
  if track.preference ≠ "LIKED" ∨ ¬ query.exploration ≤ lit 0 then
    some (explorationScore sha256 query track,
      [("seeded", .bool true), ("previously_unplayed", .bool (decide (track.playCount = 0)))])
  else none

/-- The rows of the configured generator of a key; the generators' table has no other key. -/
def generatorRow (sha256 : String → List UInt8) (query : RecommendationQuery F)
    (tracks : List SnapshotTrack) : String → Option (SnapshotTrack → Option (F × Payload))
  | "preferences" => some preferenceRow
  | "history" => some (historyRow query (maxDefault (tracks.map SnapshotTrack.addedAtMs)))
  | "artist_release_metadata" => some (artistReleaseMetadataRow (prepare tracks))
  | "freshness" =>
    some (freshnessRow (prepare tracks)
      (maxDefault (tracks.map fun track => track.releaseDateOrdinal.getD 0)))
  | "exploration" => some (explorationRow sha256 query)
  | _ => none

/-- `self._generators.get(key).generate(...)`; `none` is a key without a generator. -/
def generate (sha256 : String → List UInt8) (query : RecommendationQuery F)
    (tracks : List SnapshotTrack) (key : String) (budget : Int) : Option (List (Candidate F)) :=
  (generatorRow sha256 query tracks key).map fun row => batch key (rowsOf row tracks) budget

/-! ## the pool -/

/-- `tracks` and `contributions` of the composer; the key of a track is its own recording. -/
structure Pool (F : Type) where
  tracks : List SnapshotTrack
  contributions : Uuid → List (CandidateContribution F)

def Pool.add (pool : Pool F) (candidate : Candidate F) : Pool F :=
  { tracks :=
      if candidate.recordingId ∈ pool.tracks.map SnapshotTrack.recordingId then pool.tracks
      else pool.tracks ++ [candidate.track]
    contributions := fun recordingId =>
      if recordingId = candidate.recordingId then
        pool.contributions recordingId ++ candidate.contributions
      else pool.contributions recordingId }

def collect (batches : List (List (Candidate F))) : Pool F :=
  batches.foldl (fun pool candidates => candidates.foldl Pool.add pool) ⟨[], fun _ => []⟩

def trackBefore (a b : SnapshotTrack) : Prop := a.recordingId ≤ b.recordingId

instance : DecidableRel trackBefore := fun a b =>
  inferInstanceAs (Decidable (a.recordingId ≤ b.recordingId))

/-- `DeterministicCandidatePoolComposer.compose` -/
def compose (batches : List (List (Candidate F))) : List (Candidate F) :=
  ((collect batches).tracks.insertionSort trackBefore).map fun track =>
    { track := track, contributions := (collect batches).contributions track.recordingId }

/-! ## the mandatory filter -/

def onlineAvailability : List String := ["LOCAL", "VAULT", "EXTERNAL"]
def offlineAvailability : List String := ["LOCAL"]

def allowed (surface : RecommendationSurface) : List String :=
  if surface = .offlinePack then offlineAvailability else onlineAvailability

def passes (surface : RecommendationSurface) (track : SnapshotTrack) : Bool :=
  track.authorized && decide (track.availability ∈ allowed surface) &&
    decide (track.identityStatus = "ACTIVE") && decide (track.preference ≠ "DISLIKED") &&
    !track.excluded

/-- `MandatoryRecommendationFilter.apply` -/
def applyFilter (query : RecommendationQuery F) (candidates : List (Candidate F)) :
    List (Candidate F) :=
  candidates.filter fun candidate => passes query.surface candidate.track

/-! ## ranking -/

def sourceWeight : String → F
  | "preferences" => lit 1
  | "history" => lit 0.6
  | "artist_release_metadata" => lit 0.8
  | "freshness" => lit 0.5
  | "exploration" => lit 0.35
  | _ => lit 0

def sourceReason : String → Option String
  | "preferences" => some "LIKED_TRACK"
  | "history" => some "LISTENING_HISTORY"
  | "artist_release_metadata" => some "RELATED_ARTIST_RELEASE_METADATA"
  | "freshness" => some "FRESH_CATALOG_ITEM"
  | "exploration" => some "CONTROLLED_EXPLORATION"
  | _ => none

def addReason (reasons : List String) : Option String → List String
  | none => reasons
  | some reason => if reason ∈ reasons then reasons else reasons ++ [reason]

/-- One contribution of the loop of `score`: the total and the reasons so far. -/
def weigh (query : RecommendationQuery F) (soFar : F × List String)
    (contribution : CandidateContribution F) : F × List String :=
  let weight : F :=
    if contribution.sourceKey = "exploration" then
      sourceWeight contribution.sourceKey * query.exploration
    else sourceWeight contribution.sourceKey
  (soFar.1 + weight * contribution.rawScore,
    addReason soFar.2 (sourceReason contribution.sourceKey))

def scoreCandidate (query : RecommendationQuery F) (candidate : Candidate F) : ScoredCandidate F :=
  let weighed := candidate.contributions.foldl (weigh query) (lit 0, [])
  let repeatPenalty : F := ofInt (min candidate.track.playCount 20) * lit 0.0125
  { candidate := candidate
    score := round8 (weighed.1 - repeatPenalty)
    reasonCodes :=
      if repeatPenalty ≤ lit 0 ∧ lit 0 ≤ repeatPenalty then weighed.2
      else weighed.2 ++ ["REPEAT_SUPPRESSED"] }

/-- `DeterministicHeuristicRanker.score` -/
def score (query : RecommendationQuery F) (candidates : List (Candidate F)) :
    List (ScoredCandidate F) :=
  candidates.map (scoreCandidate query)

def hexDigit (n : Nat) : Char := "0123456789abcdef".toList.getD n '0'

/-- `hexdigest()`: two digits a byte. -/
def hexdigest (digest : List UInt8) : List Char :=
  digest.flatMap fun byte => [hexDigit (byte.toNat / 16), hexDigit (byte.toNat % 16)]

def tieBreak (sha256 : String → List UInt8) (query : RecommendationQuery F)
    (item : ScoredCandidate F) : List Char :=
  hexdigest (sha256 (seedText query item.recordingId))

/-- The key `(-score, sha256(f"{seed}:{recording_id}").hexdigest())`. -/
def itemBefore (sha256 : String → List UInt8) (query : RecommendationQuery F)
    (a b : ScoredCandidate F) : Prop :=
  ¬ a.score ≤ b.score ∨ b.score ≤ a.score ∧ tieBreak sha256 query a ≤ tieBreak sha256 query b

instance (sha256 : String → List UInt8) (query : RecommendationQuery F) :
    DecidableRel (itemBefore sha256 query) :=
  fun _ _ => inferInstanceAs (Decidable (_ ∨ _ ∧ _))

/-- `ReplayInputUnavailable` -/
inductive RecommendationError
  | replayInputUnavailable
  deriving DecidableEq

/-- The batches of the generators, in the order of the budgets. -/
def generateAll (sha256 : String → List UInt8) (query : RecommendationQuery F)
    (tracks : List SnapshotTrack) :
    List (String × Int) → Except RecommendationError (List (List (Candidate F)))
  | [] => .ok []
  | (key, budget) :: rest =>
    match generate sha256 query tracks key budget with
    | none => .error .replayInputUnavailable
    | some candidates =>
      (generateAll sha256 query tracks rest).map fun batches => candidates :: batches

/-- `RecommendationPipelineRunner.candidate_pool` -/
def candidatePool (sha256 : String → List UInt8) (query : RecommendationQuery F)
    (snapshot : RecommendationInputSnapshot) (pipeline : PipelineDefinition) :
    Except RecommendationError (List (ScoredCandidate F)) :=
  (generateAll sha256 query snapshot.tracks pipeline.generatorBudgets).map fun batches =>
    (score query (applyFilter query (compose batches))).insertionSort (itemBefore sha256 query)

/-! ## the reranker -/

/-- `Counter`, and `counter[key] += 1` -/
abbrev Counter := String → Int

def Counter.increment (counter : Counter) (key : String) : Counter :=
  fun other => if other = key then counter other + 1 else counter other

def releaseFull (releaseCounts : Counter) (maxReleaseRepeat : Int) : Option String → Bool
  | none => false
  | some release => decide (maxReleaseRepeat ≤ releaseCounts release)

def countRelease (releaseCounts : Counter) : Option String → Counter
  | none => releaseCounts
  | some release => releaseCounts.increment release

/-- The loop over the ordered items. -/
def diversify (pipeline : PipelineDefinition) (limit : Int) :
    Counter → Counter → List (ScoredCandidate F) → List (ScoredCandidate F) →
      List (ScoredCandidate F)
  | _, _, selected, [] => selected
  | artistCounts, releaseCounts, selected, item :: rest =>
    let track := item.candidate.track
    if pipeline.maxArtistRepeat ≤ artistCounts track.artistKey then
      diversify pipeline limit artistCounts releaseCounts selected rest
    else if releaseFull releaseCounts pipeline.maxReleaseRepeat track.releaseKey then
      diversify pipeline limit artistCounts releaseCounts selected rest
    else if ((selected ++ [item]).length : Int) = limit then selected ++ [item]
    else
      diversify pipeline limit (artistCounts.increment track.artistKey)
        (countRelease releaseCounts track.releaseKey) (selected ++ [item]) rest

def ranked (item : ScoredCandidate F × Nat) : RankedRecommendation F :=
  { recordingId := item.1.recordingId
    sourceRank := item.2
    score := item.1.score
    reasonCode := item.1.reasonCodes.headD "BASELINE_AFFINITY"
    reasonCodes := if item.1.reasonCodes = [] then ["BASELINE_AFFINITY"] else item.1.reasonCodes
    contributions := item.1.candidate.contributions
    artistKey := item.1.candidate.track.artistKey
    releaseKey := item.1.candidate.track.releaseKey
    sectionKey := "recommendations" }

/-- `DeterministicDiversityReranker.rerank` -/
def rerank (sha256 : String → List UInt8) (query : RecommendationQuery F)
    (candidates : List (ScoredCandidate F)) (limit : Int) (pipeline : PipelineDefinition) :
    List (RankedRecommendation F) :=
  let ordered := candidates.insertionSort (itemBefore sha256 query)
  ((diversify pipeline limit (fun _ => 0) (fun _ => 0) [] ordered).zipIdx 1).map ranked

/-- `RecommendationPipelineRunner.run` -/
def run (sha256 : String → List UInt8) (query : RecommendationQuery F)
    (snapshot : RecommendationInputSnapshot) (pipeline : PipelineDefinition) :
    Except RecommendationError (List (RankedRecommendation F)) :=
  (candidatePool sha256 query snapshot pipeline).map fun scored =>
    rerank sha256 query scored query.limit pipeline

end AutPlay.Recommend
