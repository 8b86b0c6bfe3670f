import AutPlay.Lib.Dict
import AutPlay.Sync.Uuid
import Mathlib.Data.List.Sort
import Mathlib.Data.Rat.Floor

/-!
# Matching an imported track with the catalog

`evaluate_identity` of the import matcher.

* `TextTools`              what the standard library does: `re`, `unicodedata`, `difflib`, `math.exp`;
* `generateCandidates`     the entries that are close enough, by recording id;
* `score`                  one entry against the query;
* `evaluateIdentity`       generate, cut off at the limit, score and sort.

Arithmetic is exact.
-/

set_option linter.unusedSectionVars false

namespace AutPlay.Imports

open AutPlay.Sync (Uuid)

/-! ## values -/

structure FingerprintEvidence where
  algorithm : String
  algorithmVersion : String
  valueHash : String
  coverage : ℚ
  named : algorithm ≠ "" ∧ algorithmVersion ≠ "" ∧ valueHash ≠ ""
  bounded : 0 ≤ coverage ∧ coverage ≤ 1
  deriving DecidableEq

structure IdentityTrack where
  title : String
  artists : List String
  album : Option String
  durationMs : Option Int
  versionMarkers : List String
  identifiers : Dict String String
  fingerprint : Option FingerprintEvidence
  verifiedVaultSha256 : Option String
  named : title ≠ "" ∧ artists ≠ []
  positive : ∀ ms ∈ durationMs, 0 < ms
  deriving DecidableEq

structure CatalogCandidate where
  recordingId : Uuid
  title : String
  artists : List String
  album : Option String
  durationMs : Option Int
  versionMarkers : List String
  identifiers : Dict String String
  fingerprint : Option FingerprintEvidence
  verifiedVaultSha256 : Option String
  origins : List String
  deriving DecidableEq

inductive EvidenceTier
  | t0
  | t1
  | t2
  | t3
  | t4
  deriving DecidableEq

/-- A feature with its value; `present` tells whether there was something to compare. -/
structure FeatureScore where
  feature : String
  value : Option ℚ
  present : Bool
  deriving DecidableEq

structure ScoredCandidate where
  recordingId : Uuid
  rawScore : ℚ
  confidence : ℚ
  evidenceTier : EvidenceTier
  featureScores : List FeatureScore
  hardConflicts : List String
  candidateOrigins : List String
  deriving DecidableEq

inductive MatchState
  | noMatch
  | reviewRequired
  | integrityConflict
  deriving DecidableEq

inductive EvidenceMode
  | metadataOnly
  | audioAvailable
  | deterministicBytes
  deriving DecidableEq

structure Explanation where
  reasonCodes : List String
  autoMatchEnabled : Bool
  topRecordingId : Option Uuid
  topConfidence : Option ℚ
  top2Confidence : Option ℚ
  margin : Option ℚ
  deriving DecidableEq

structure MatchEvaluation where
  state : MatchState
  candidates : List ScoredCandidate
  margin : Option ℚ
  explanation : Explanation
  evidenceMode : EvidenceMode
  deriving DecidableEq

def maxCandidates : Int := 100
def reviewThreshold : ℚ := 3 / 4
def marginThreshold : ℚ := 2 / 25

/-! ## texts -/

inductive Marker
  | radioEdit
  | instrumental
  | karaoke
  | rehearsal
  | remaster
  | acoustic
  | extended
  | remix
  | live
  | demo
  | cover
  | mono
  | stereo
  | edit
  deriving DecidableEq

/-- `_MARKERS`, in its order. -/
def Marker.all : List Marker :=
  [.radioEdit, .instrumental, .karaoke, .rehearsal, .remaster, .acoustic, .extended, .remix, .live,
    .demo, .cover, .mono, .stereo, .edit]

def Marker.category : Marker → String
  | .radioEdit => "RADIO_EDIT"
  | .instrumental => "INSTRUMENTAL"
  | .karaoke => "KARAOKE"
  | .rehearsal => "REHEARSAL"
  | .remaster => "REMASTER"
  | .acoustic => "ACOUSTIC"
  | .extended => "EXTENDED"
  | .remix => "REMIX"
  | .live => "LIVE"
  | .demo => "DEMO"
  | .cover => "COVER"
  | .mono => "MONO"
  | .stereo => "STEREO"
  | .edit => "EDIT"

structure TextTools where
  /-- `pattern.search(value)`, of the pattern of a marker. -/
  search : Marker → String → Bool
  /-- `pattern.sub(" ", value)`. -/
  sub : Marker → String → String
  /-- `unicodedata.normalize("NFKC", value).casefold()`. -/
  fold : String → String
  /-- `[^\w]+` and `\s+`, each replaced by a blank, and `strip`. -/
  subPunctuation : String → String
  subSpace : String → String
  strip : String → String
  /-- `SequenceMatcher(None, a, b).ratio()`. -/
  ratio : String → String → ℚ
  /-- `math.exp`. -/
  exp : ℚ → ℚ

namespace TextTools
variable (tools : TextTools)

def normalizeText (value : String) : String :=
  tools.strip (tools.subSpace (tools.subPunctuation (tools.fold value)))

def normalizedBaseTitle (value : String) : String :=
  tools.normalizeText (Marker.all.foldl (fun base marker => tools.sub marker base) value)

/-- One marker: what was found so far and what is left of the text. -/
def findMarker (soFar : List String × String) (marker : Marker) : List String × String :=
  if tools.search marker soFar.2 then (soFar.1 ++ [marker.category], tools.sub marker soFar.2)
  else soFar

def extractVersionMarkers (value : String) : List String :=
  (Marker.all.foldl tools.findMarker ([], value)).1

end TextTools

/-! ## generation -/

/-- `max(values, default=0.0)`. -/
def maxOrZero (values : List ℚ) : ℚ := values.max?.getD 0

section
variable (tools : TextTools) (query : IdentityTrack) (candidate : CatalogCandidate)

/-- An identifier in common. -/
def identifierMatch : Bool :=
  query.identifiers.items.any (fun item => decide (item ∈ candidate.identifiers.items))

/-- The query has a verified digest, and the candidate has the same. -/
def shaMatch : Bool :=
  match query.verifiedVaultSha256 with
  | some digest => decide (digest ≠ "") && decide (candidate.verifiedVaultSha256 = some digest)
  | none => false

/-- Two fingerprints of one algorithm and version. -/
def comparable (a b : FingerprintEvidence) : Bool :=
  decide (a.algorithm = b.algorithm) && decide (a.algorithmVersion = b.algorithmVersion)

def fingerprintCompatible : Bool :=
  match query.fingerprint, candidate.fingerprint with
  | some a, some b => comparable a b
  | _, _ => false

def titleRatio : ℚ :=
  tools.ratio (tools.normalizedBaseTitle query.title) (tools.normalizedBaseTitle candidate.title)

/-- `_generate_candidates` takes the artists of the query as a set, `_score` as they are. -/
def artistRatio (queryArtists : List String) : ℚ :=
  maxOrZero (queryArtists.flatMap fun left =>
    candidate.artists.map fun right => tools.ratio left (tools.normalizeText right))

def generated : Bool :=
  identifierMatch query candidate || shaMatch query candidate || fingerprintCompatible query candidate ||
    (decide (11 / 20 ≤ titleRatio tools query candidate) &&
      decide (9 / 20 ≤ artistRatio tools candidate (query.artists.map tools.normalizeText).dedup))

end

def idBefore (a b : CatalogCandidate) : Prop := a.recordingId ≤ b.recordingId

instance : DecidableRel idBefore := fun a b => inferInstanceAs (Decidable (a.recordingId ≤ b.recordingId))

def generateCandidates (tools : TextTools) (query : IdentityTrack) (catalog : List CatalogCandidate) :
    List CatalogCandidate :=
  (catalog.filter (generated tools query)).insertionSort idBefore

/-! ## scoring -/

def editGroup : List String := ["EDIT", "RADIO_EDIT"]

/-- `_version_conflicts`. -/
def versionConflicts (query candidate : List String) : List String :=
  (["LIVE", "REMIX", "INSTRUMENTAL", "KARAOKE", "COVER"].filter
      (fun marker => decide (marker ∈ query) != decide (marker ∈ candidate))).map ("VERSION_" ++ ·) ++
    (if query.any (· ∈ editGroup) != candidate.any (· ∈ editGroup) then ["VERSION_EDIT"] else []) ++
    (if "MONO" ∈ query ∧ "STEREO" ∈ candidate ∨ "STEREO" ∈ query ∧ "MONO" ∈ candidate then
      ["VERSION_CHANNEL_MIX"] else []) ++
    (if decide ("REMASTER" ∈ query) != decide ("REMASTER" ∈ candidate) then
      ["VERSION_REMASTER_REVIEW"] else [])

/-- `round(value, 6)`: half to even. -/
def roundSix (q : ℚ) : ℚ :=
  let floor : Int := (q * 10 ^ 6).floor
  let rest : ℚ := q * 10 ^ 6 - floor
  let nearest : Int := if rest < 1 / 2 then floor else if 1 / 2 < rest then floor + 1
    else if floor % 2 = 0 then floor else floor + 1
  nearest / 10 ^ 6

/-- `query.version_markers or extract_version_markers(query.title)`. -/
def markersOf (tools : TextTools) (versionMarkers : List String) (title : String) : List String :=
  if versionMarkers = [] then tools.extractVersionMarkers title else versionMarkers

/-- `sorted(set(texts))`. -/
def sortedSet (texts : List String) : List String := texts.dedup.insertionSort (· ≤ ·)

/-- Fingerprints compared: similarity, coverage, and the conflict that they bring. -/
structure FingerprintScore where
  similarity : Option ℚ
  coverage : Option ℚ
  conflicts : List String

def fingerprintScore : Option FingerprintEvidence → Option FingerprintEvidence → FingerprintScore
  | some a, some b =>
    if comparable a b then
      let coverage := min a.coverage b.coverage
      let similarity : ℚ := if a.valueHash = b.valueHash then 1 else 0
      { similarity := some similarity
        coverage := some coverage
        conflicts := if similarity = 0 ∧ 4 / 5 ≤ coverage then ["FINGERPRINT_MISMATCH"] else [] }
    else { similarity := none, coverage := none, conflicts := ["FINGERPRINT_VERSION_CONFLICT"] }
  | _, _ => { similarity := none, coverage := none, conflicts := [] }

/-- What the metadata say, from 0 to 1. -/
def metadataScore (title artist : ℚ) (duration : Option ℚ) (conflicts : List String) : ℚ :=
  let compatibility : ℚ := if conflicts = [] then 1 else 0
  match duration with
  | some duration => (title * (23 / 50) + artist * (17 / 50) + duration * (3 / 25) + compatibility * (2 / 25)) / 1
  | none => (title * (23 / 50) + artist * (17 / 50) + compatibility * (2 / 25)) / (22 / 25)

/-- The weighted mean of the groups that are there. -/
def weightedMean (groups : List (ℚ × ℚ)) : ℚ :=
  (groups.map fun g => g.1 * g.2).sum / (groups.map Prod.snd).sum

section
variable (tools : TextTools) (query : IdentityTrack) (candidate : CatalogCandidate)

/-- `math.exp(-abs(query - candidate) / 3_000)`. -/
def durationScore : Option ℚ :=
  match query.durationMs, candidate.durationMs with
  | some a, some b => some (tools.exp (-(|a - b| : Int) / 3000))
  | _, _ => none

def conflictsOf : List String :=
  versionConflicts (markersOf tools query.versionMarkers query.title)
      (markersOf tools candidate.versionMarkers candidate.title) ++
    (fingerprintScore query.fingerprint candidate.fingerprint).conflicts

def audioScore : Option ℚ :=
  match (fingerprintScore query.fingerprint candidate.fingerprint).similarity,
      (fingerprintScore query.fingerprint candidate.fingerprint).coverage with
  | some similarity, some coverage => some (41 / 50 * similarity + 9 / 50 * coverage)
  | _, _ => none

def ofBool (b : Bool) : ℚ := if b then 1 else 0

/-- The groups of evidence that are there, with their weights. -/
def groupValues : List (ℚ × ℚ) :=
  [(metadataScore (titleRatio tools query candidate)
      (artistRatio tools candidate (query.artists.map tools.normalizeText))
      (durationScore tools query candidate) (conflictsOf tools query candidate), (17 / 50 : ℚ))] ++
    (if identifierMatch query candidate then [((1 : ℚ), (6 / 25 : ℚ))] else []) ++
    (match audioScore query candidate with
      | some audio => [(audio, 9 / 25)]
      | none => [])

def rawScore : ℚ :=
  if shaMatch query candidate then 1
  else
    let penalty : ℚ := if conflictsOf tools query candidate = [] then 0 else 7 / 10
    roundSix (min 1 (max 0 (weightedMean (groupValues tools query candidate) - penalty)))

def evidenceTier : EvidenceTier :=
  if shaMatch query candidate then .t4
  else if (fingerprintScore query.fingerprint candidate.fingerprint).similarity ≠ none then .t3
  else if identifierMatch query candidate then .t2
  else if 9 / 10 ≤ titleRatio tools query candidate ∧
      9 / 10 ≤ artistRatio tools candidate (query.artists.map tools.normalizeText) ∧
      durationScore tools query candidate ≠ none then .t1
  else .t0

def featureScores : List FeatureScore :=
  let duration := durationScore tools query candidate
  let similarity := (fingerprintScore query.fingerprint candidate.fingerprint).similarity
  [⟨"title_similarity", some (roundSix (titleRatio tools query candidate)), true⟩,
    ⟨"artist_similarity",
      some (roundSix (artistRatio tools candidate (query.artists.map tools.normalizeText))), true⟩,
    ⟨"duration_similarity", duration.map roundSix, duration.isSome⟩,
    ⟨"identifier_exact", some (ofBool (identifierMatch query candidate)),
      decide (query.identifiers.items ≠ [])⟩,
    ⟨"sha256_exact", some (ofBool (shaMatch query candidate)), query.verifiedVaultSha256.isSome⟩,
    ⟨"fingerprint_similarity", similarity, similarity.isSome⟩,
    ⟨"version_compatibility", some (if conflictsOf tools query candidate = [] then 1 else 0), true⟩]

def score : ScoredCandidate :=
  { recordingId := candidate.recordingId
    rawScore := rawScore tools query candidate
    confidence := rawScore tools query candidate
    evidenceTier := evidenceTier tools query candidate
    featureScores := featureScores tools query candidate
    hardConflicts := sortedSet (conflictsOf tools query candidate)
    candidateOrigins := sortedSet candidate.origins }

end

/-- `_score_order`. -/
def scoreBefore (a b : ScoredCandidate) : Prop :=
  b.confidence < a.confidence ∨ a.confidence = b.confidence ∧ a.recordingId ≤ b.recordingId

instance : DecidableRel scoreBefore := fun _ _ => inferInstanceAs (Decidable (_ ∨ _ ∧ _))

/-! ## the evaluation -/

def integrityConflicts : List String :=
  ["FINGERPRINT_MISMATCH", "EXTERNAL_TARGET_CONFLICT", "SHA_AMBIGUITY"]

def marginOf (top : ScoredCandidate) (others : List ScoredCandidate) : Option ℚ :=
  others.head?.map fun second => roundSix (max 0 (top.confidence - second.confidence))

def reasonsOf (top : ScoredCandidate) (margin : Option ℚ) : List String :=
  ["AUTO_MATCH_DISABLED"] ++ (if top.hardConflicts ≠ [] then ["HARD_CONFLICT"] else []) ++
    (if margin.any (· < marginThreshold) then ["TOP_TWO_MARGIN"] else []) ++
    (if top.confidence < reviewThreshold then ["BELOW_REVIEW_THRESHOLD"] else [])

/-- What is said of the sorted candidates. -/
def explain : List ScoredCandidate → MatchEvaluation
  | [] =>
    { state := .noMatch
      candidates := []
      margin := none
      explanation := ⟨["NO_CANDIDATES"], false, none, none, none, none⟩
      evidenceMode := .metadataOnly }
  | top :: others =>
    let margin := marginOf top others
    { state := if top.hardConflicts.any (· ∈ integrityConflicts) then .integrityConflict
        else .reviewRequired
      candidates := top :: others
      margin := margin
      explanation := ⟨reasonsOf top margin, false, some top.recordingId, some top.confidence,
        others.head?.map ScoredCandidate.confidence, margin⟩
      evidenceMode := if top.evidenceTier = .t4 then .deterministicBytes
        else if top.evidenceTier = .t3 then .audioAvailable else .metadataOnly }

/-- `none` is the `ValueError` of a limit out of range. -/
def evaluateIdentity (tools : TextTools) (query : IdentityTrack) (catalog : List CatalogCandidate)
    (candidateLimit : Int) : Option MatchEvaluation :=
  if 1 ≤ candidateLimit ∧ candidateLimit ≤ maxCandidates then
    let kept := (generateCandidates tools query catalog).take candidateLimit.toNat
    some (explain ((kept.map (score tools query)).insertionSort scoreBefore))
  else none

end AutPlay.Imports
