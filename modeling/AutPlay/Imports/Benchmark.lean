import AutPlay.Imports.Identity

/-!
# The benchmark of the matcher

`run_benchmark` of the import matcher: what would have been matched, against what is known.

* `counterfactualPrediction`   the recording that an automatic match would take;
* `bucketOf`                   the four ways in which that can be right or wrong;
* `runBenchmark`               the report.

The digest of the dataset is left out; its document may not exist, and then nothing is reported.
-/

set_option linter.unusedSectionVars false

namespace AutPlay.Imports

open AutPlay.Sync (Uuid)

structure BenchmarkCase where
  caseId : String
  errorSlice : String
  query : IdentityTrack
  candidates : List CatalogCandidate
  expectedRecordingId : Option Uuid
  deriving DecidableEq

inductive Bucket
  | trueNegative
  | falsePositive
  | truePositive
  | falseNegative
  deriving DecidableEq

def Bucket.name : Bucket → String
  | .trueNegative => "true_negative"
  | .falsePositive => "false_positive"
  | .truePositive => "true_positive"
  | .falseNegative => "false_negative"

/-- `Counter`. -/
abbrev Counter := Dict Bucket Nat

/-- `counter[bucket]`; what is not there counts nothing. -/
def Counter.get (counter : Counter) (bucket : Bucket) : Nat := (counter.get? bucket).getD 0

def Counter.increment (counter : Counter) (bucket : Bucket) : Counter :=
  counter.set bucket (counter.get bucket + 1)

structure BenchmarkReport where
  datasetId : String
  datasetVersion : String
  truePositive : Nat
  falsePositive : Nat
  trueNegative : Nat
  falseNegative : Nat
  precision : ℚ
  recallRate : ℚ
  errorSlices : List (String × List (Bucket × Nat))
  autoMatchEligible : Bool
  gateReasons : List String

/-- `_counterfactual_prediction`. -/
def counterfactualPrediction (result : MatchEvaluation) : Option Uuid :=
  match result.candidates with
  | [] => none
  | top :: _ =>
    if top.hardConflicts ≠ [] ∨ top.confidence < reviewThreshold then none
    else if result.margin.any (· < marginThreshold) then none
    else some top.recordingId

/-- What is predicted for a case. -/
def predicted (tools : TextTools) (case : BenchmarkCase) : Option Uuid :=
  (evaluateIdentity tools case.query case.candidates maxCandidates).bind counterfactualPrediction

def bucketOf (expected predicted : Option Uuid) : Bucket :=
  if expected = none ∧ predicted = none then .trueNegative
  else if expected = none then .falsePositive
  else if predicted = expected then .truePositive
  else .falseNegative

/-- The counts while the cases are gone through. -/
structure Tally where
  tp : Nat
  fp : Nat
  tn : Nat
  fn : Nat
  slices : Dict String Counter

def Tally.zero : Tally := ⟨0, 0, 0, 0, .empty⟩

/-- The count of a bucket. -/
def Tally.of (t : Tally) : Bucket → Nat
  | .trueNegative => t.tn
  | .falsePositive => t.fp
  | .truePositive => t.tp
  | .falseNegative => t.fn

/-- `slices.setdefault(name, Counter())[bucket] += 1`. -/
def countSlice (slices : Dict String Counter) (name : String) (bucket : Bucket) : Dict String Counter :=
  slices.set name (((slices.get? name).getD .empty).increment bucket)

/-- One case. -/
def Tally.add (tools : TextTools) (t : Tally) (case : BenchmarkCase) : Tally :=
  let bucket := bucketOf case.expectedRecordingId (predicted tools case)
  let t := { t with slices := countSlice t.slices case.errorSlice bucket }
  match bucket with
  | .trueNegative => { t with tn := t.tn + 1 }
  | .falsePositive => { t with fp := t.fp + 1 }
  | .truePositive => { t with tp := t.tp + 1 }
  | .falseNegative => { t with fn := t.fn + 1 }

def tally (tools : TextTools) (cases : List BenchmarkCase) : Tally :=
  cases.foldl (Tally.add tools) .zero

/-- `part / whole if whole else 0.0`. -/
def ratio (part whole : Nat) : ℚ := if whole ≠ 0 then part / whole else 0

/-- RFC 8785 prints integers up to `2 ^ 53 - 1`. -/
def printable (durationMs : Option Int) : Bool := durationMs.all (· ≤ 2 ^ 53 - 1)

/-- The document of a candidate exists: it is made as that of a track. -/
def documented (candidate : CatalogCandidate) : Bool :=
  decide (candidate.title ≠ "" ∧ candidate.artists ≠ []) &&
    candidate.durationMs.all (fun ms => decide (0 < ms)) && printable candidate.durationMs

def sortedSlices (slices : Dict String Counter) : List (String × List (Bucket × Nat)) :=
  (slices.items.map fun slice =>
    (slice.1, slice.2.items.insertionSort (fun a b => a.1.name ≤ b.1.name))).insertionSort
      (fun a b => a.1 ≤ b.1)

def gateReasonsOf (t : Tally) : List String :=
  ["AUTO_MATCH_DISABLED"] ++ (if t.tp + t.fn < 5000 then ["INSUFFICIENT_POSITIVES"] else []) ++
    (if t.tn + t.fp < 10000 then ["INSUFFICIENT_HARD_NEGATIVES"] else [])

/-- `none` is an exception. -/
def runBenchmark (tools : TextTools) (cases : List BenchmarkCase) (datasetId datasetVersion : String) :
    Option BenchmarkReport :=
  if 1 ≤ datasetId.length ∧ datasetId.length ≤ 200 ∧ 1 ≤ datasetVersion.length ∧
      datasetVersion.length ≤ 100 then
    if cases.all (fun case => printable case.query.durationMs && case.candidates.all documented) then
      let t := tally tools cases
      some
        { datasetId
          datasetVersion
          truePositive := t.tp
          falsePositive := t.fp
          trueNegative := t.tn
          falseNegative := t.fn
          precision := roundSix (ratio t.tp (t.tp + t.fp))
          recallRate := roundSix (ratio t.tp (t.tp + t.fn))
          errorSlices := sortedSlices t.slices
          autoMatchEligible := false
          gateReasons := gateReasonsOf t }
    else none
  else none

end AutPlay.Imports
