import AutPlay.Imports.Benchmark
import AutPlay.Imports.IdentityLaws
import Mathlib.Tactic.FieldSimp
import Mathlib.Tactic.Linarith
import Mathlib.Algebra.Order.Field.Basic

/-!
# What the benchmark reports

* `tally_of`, `tally_slices`     every count is the number of cases of its bucket;
* `TrueReport`                   the counts partition the cases, and both ratios are what they say;
* `trueReport_iff`               they are unless a wrong recording is predicted for one of several
                                 recordings that are expected.
-/

set_option linter.unusedSectionVars false

namespace AutPlay.Imports

open AutPlay.Sync (Uuid)

/-! ## counting -/

theorem countP_add {α : Type*} {p q r : α → Bool} {l : List α}
    (h : ∀ a ∈ l, (p a).toNat + (q a).toNat = (r a).toNat) :
    l.countP p + l.countP q = l.countP r := by
  induction l with
  | nil => rfl
  | cons a l ih =>
    have hrest := ih fun b hb => h b (List.mem_cons_of_mem _ hb)
    have hfirst := h a List.mem_cons_self
    rw [List.countP_cons, List.countP_cons, List.countP_cons]
    cases hp : p a <;> cases hq : q a <;> cases hr : r a <;>
      simp only [hp, hq, hr, Bool.toNat_true, Bool.toNat_false] at hfirst <;>
      simp only [if_true, if_false, Bool.false_eq_true] <;> omega

theorem get_increment (counter : Counter) (b bucket : Bucket) :
    (counter.increment bucket).get b = counter.get b + (decide (bucket = b)).toNat := by
  unfold Counter.increment Counter.get
  by_cases hb : b = bucket
  · subst hb
    rw [Dict.get?_set_self]
    simp
  · rw [Dict.get?_set_ne _ _ hb, decide_eq_false fun heq => hb heq.symm]
    rfl

/-- The counts of a bucket over all slices. -/
def sliceSum (slices : Dict String Counter) (bucket : Bucket) : Nat :=
  slices.sum fun counter => counter.get bucket

theorem sliceSum_countSlice (slices : Dict String Counter) (name : String) (b bucket : Bucket) :
    sliceSum (countSlice slices name bucket) b = sliceSum slices b + (decide (bucket = b)).toNat := by
  have hset := Dict.sum_set slices name (((slices.get? name).getD .empty).increment bucket)
    (fun counter => counter.get b)
  have hold : ((slices.get? name).map fun counter => counter.get b).getD 0 =
      ((slices.get? name).getD .empty).get b := by
    cases slices.get? name <;> rfl
  simp only [get_increment, hold] at hset
  unfold sliceSum countSlice
  omega

section
variable (tools : TextTools)

def caseBucket (case : BenchmarkCase) : Bucket :=
  bucketOf case.expectedRecordingId (predicted tools case)

theorem add_of (t : Tally) (case : BenchmarkCase) (b : Bucket) :
    (t.add tools case).of b = t.of b + (decide (caseBucket tools case = b)).toNat ∧
      (t.add tools case).slices = countSlice t.slices case.errorSlice (caseBucket tools case) := by
  unfold Tally.add caseBucket
  generalize bucketOf case.expectedRecordingId (predicted tools case) = bucket
  cases bucket <;> cases b <;> exact ⟨rfl, rfl⟩

/-- What a count is after more cases. -/
theorem foldl_add_of (cases : List BenchmarkCase) (t : Tally) (b : Bucket) :
    (cases.foldl (Tally.add tools) t).of b =
        t.of b + cases.countP (fun case => caseBucket tools case = b) ∧
      sliceSum (cases.foldl (Tally.add tools) t).slices b =
        sliceSum t.slices b + cases.countP (fun case => caseBucket tools case = b) := by
  induction cases generalizing t with
  | nil => exact ⟨rfl, rfl⟩
  | cons case cases ih =>
    obtain ⟨hof, hslices⟩ := ih (t.add tools case)
    obtain ⟨hstep, hslice⟩ := add_of tools t case b
    have hcount : (case :: cases).countP (fun case => caseBucket tools case = b) =
        cases.countP (fun case => caseBucket tools case = b) +
          (decide (caseBucket tools case = b)).toNat := by
      rw [List.countP_cons]
      cases decide (caseBucket tools case = b) <;> rfl
    rw [hslice, sliceSum_countSlice] at hslices
    rw [List.foldl_cons, hof, hslices, hstep, hcount]
    constructor <;> omega

theorem tally_of (cases : List BenchmarkCase) (b : Bucket) :
    (tally tools cases).of b = cases.countP (fun case => caseBucket tools case = b) := by
  have hcount := (foldl_add_of tools cases .zero b).1
  have hzero : Tally.zero.of b = 0 := by
    cases b <;> rfl
  rw [hzero, Nat.zero_add] at hcount
  exact hcount

theorem tally_slices (cases : List BenchmarkCase) (b : Bucket) :
    sliceSum (tally tools cases).slices b = cases.countP (fun case => caseBucket tools case = b) := by
  have hcount := (foldl_add_of tools cases .zero b).2
  have hzero : sliceSum Tally.zero.slices b = 0 := rfl
  rw [hzero, Nat.zero_add] at hcount
  exact hcount

end

/-! ## the slices of the report -/

/-- The counts of a bucket in a report, over all of its slices. -/
def sliceTotal (slices : List (String × List (Bucket × Nat))) (b : Bucket) : Nat :=
  (slices.map fun slice => ((slice.2.filter fun e => decide (e.1 = b)).map Prod.snd).sum).sum

theorem counter_get (items : List (Bucket × Nat)) (hn : (items.map Prod.fst).Nodup) (b : Bucket) :
    ((items.filter fun e => decide (e.1 = b)).map Prod.snd).sum =
      ((items.find? fun e => decide (e.1 = b)).map Prod.snd).getD 0 := by
  induction items with
  | nil => rfl
  | cons e items ih =>
    obtain ⟨hnew, hn'⟩ := List.nodup_cons.mp hn
    by_cases he : e.1 = b
    · have hnone : items.filter (fun e => decide (e.1 = b)) = [] := by
        rw [List.filter_eq_nil_iff]
        intro e' he' hb
        exact hnew (List.mem_map.mpr ⟨e', he', (of_decide_eq_true hb).trans he.symm⟩)
      rw [List.filter_cons_of_pos (by simpa using he), hnone, List.find?_cons_of_pos (by simpa using he)]
      rfl
    · rw [List.filter_cons_of_neg (by simpa using he), List.find?_cons_of_neg (by simpa using he)]
      exact ih hn'

theorem sliceTotal_sortedSlices (slices : Dict String Counter) (b : Bucket) :
    sliceTotal (sortedSlices slices) b = sliceSum slices b := by
  unfold sliceTotal sortedSlices sliceSum Dict.sum
  have houter := ((List.perm_insertionSort (fun a b : String × List (Bucket × Nat) => a.1 ≤ b.1)
    (slices.items.map fun slice =>
      (slice.1, slice.2.items.insertionSort (fun a b => a.1.name ≤ b.1.name)))).map
        fun slice => ((slice.2.filter fun e => decide (e.1 = b)).map Prod.snd).sum).sum_eq
  rw [houter, List.map_map]
  congr 1
  refine List.map_congr_left fun slice _ => ?_
  have hinner := (((List.perm_insertionSort (fun a b : Bucket × Nat => a.1.name ≤ b.1.name)
    slice.2.items).filter fun e => decide (e.1 = b)).map Prod.snd).sum_eq
  show ((List.filter _ (slice.2.items.insertionSort _)).map Prod.snd).sum = _
  rw [hinner, counter_get _ slice.2.nodup]
  rfl

/-! ## both ratios -/

section
variable (tools : TextTools) (cases : List BenchmarkCase)

/-- A recording is expected. -/
def expects (case : BenchmarkCase) : Bool := case.expectedRecordingId.isSome

/-- A recording is predicted. -/
def predicts (case : BenchmarkCase) : Bool := (predicted tools case).isSome

/-- The recording that is expected is predicted. -/
def correct (case : BenchmarkCase) : Bool :=
  expects case && decide (predicted tools case = case.expectedRecordingId)

/-- Of the two recordings, the predicted one is not the expected one. -/
def mistaken (case : BenchmarkCase) : Bool :=
  expects case && predicts tools case && !correct tools case

/-- The precision before it is rounded. -/
def exactPrecision : ℚ :=
  ratio (tally tools cases).tp ((tally tools cases).tp + (tally tools cases).fp)

/-- The recall before it is rounded. -/
def exactRecall : ℚ :=
  ratio (tally tools cases).tp ((tally tools cases).tp + (tally tools cases).fn)

/-- The counts partition the cases, over all and over the slices, and both ratios are what they say. -/
structure TrueReport (report : BenchmarkReport) : Prop where
  partition : report.truePositive + report.falsePositive + report.trueNegative + report.falseNegative =
    cases.length
  slices : sliceTotal report.errorSlices .truePositive = report.truePositive ∧
    sliceTotal report.errorSlices .falsePositive = report.falsePositive ∧
    sliceTotal report.errorSlices .trueNegative = report.trueNegative ∧
    sliceTotal report.errorSlices .falseNegative = report.falseNegative
  rounded : report.precision = roundSix (exactPrecision tools cases) ∧
    report.recallRate = roundSix (exactRecall tools cases)
  recallRate : exactRecall tools cases = ratio (cases.countP (correct tools)) (cases.countP expects)
  precision : exactPrecision tools cases =
    ratio (cases.countP (correct tools)) (cases.countP (predicts tools))
  /-- A wrong recording lowers the precision that there is without it. -/
  lowers : ∀ before case after, cases = before ++ case :: after → predicts tools case →
    ¬ correct tools case → 0 < exactPrecision tools (before ++ after) →
      exactPrecision tools cases < exactPrecision tools (before ++ after)

theorem caseBucket_cases (case : BenchmarkCase) :
    (caseBucket tools case = .trueNegative ∧ expects case = false ∧ predicts tools case = false ∧
        correct tools case = false) ∨
      (caseBucket tools case = .falsePositive ∧ expects case = false ∧ predicts tools case = true ∧
        correct tools case = false) ∨
      (caseBucket tools case = .truePositive ∧ expects case = true ∧ predicts tools case = true ∧
        correct tools case = true) ∨
      (caseBucket tools case = .falseNegative ∧ expects case = true ∧ correct tools case = false) := by
  unfold caseBucket bucketOf correct expects predicts
  cases hexpected : case.expectedRecordingId with
  | none =>
    cases predicted tools case with
    | none => exact .inl ⟨by simp, rfl, rfl, by simp⟩
    | some p => exact .inr (.inl ⟨by simp, rfl, rfl, by simp⟩)
  | some e =>
    by_cases hp : predicted tools case = some e
    · rw [hp]
      exact .inr (.inr (.inl ⟨by simp, rfl, rfl, by simp⟩))
    · exact .inr (.inr (.inr ⟨by simp [hp], rfl, by simp [hp]⟩))

theorem tp_eq : (tally tools cases).tp = cases.countP (correct tools) := by
  refine (tally_of tools cases .truePositive).trans (List.countP_congr fun case _ => ?_)
  obtain ⟨hb, h⟩ | ⟨hb, h⟩ | ⟨hb, h⟩ | ⟨hb, h⟩ := caseBucket_cases tools case <;> simp [hb, h]

theorem tp_add_fn : (tally tools cases).tp + (tally tools cases).fn = cases.countP expects := by
  have htp := tally_of tools cases .truePositive
  have hfn := tally_of tools cases .falseNegative
  change (tally tools cases).tp = _ at htp
  change (tally tools cases).fn = _ at hfn
  rw [htp, hfn]
  refine countP_add fun case _ => ?_
  obtain ⟨hb, h⟩ | ⟨hb, h⟩ | ⟨hb, h⟩ | ⟨hb, h⟩ := caseBucket_cases tools case <;> simp [hb, h]

/-- Who is predicted for, and mistaken, is in neither count. -/
theorem tp_add_fp : (tally tools cases).tp + (tally tools cases).fp + cases.countP (mistaken tools) =
    cases.countP (predicts tools) := by
  have htp := tally_of tools cases .truePositive
  have hfp := tally_of tools cases .falsePositive
  change (tally tools cases).tp = _ at htp
  change (tally tools cases).fp = _ at hfp
  have hpredicted : cases.countP (fun case => caseBucket tools case = .truePositive) +
      cases.countP (fun case => caseBucket tools case = .falsePositive) =
        cases.countP (fun case => predicts tools case && !mistaken tools case) := by
    refine countP_add fun case _ => ?_
    unfold mistaken
    obtain ⟨hb, h⟩ | ⟨hb, h⟩ | ⟨hb, h⟩ | ⟨hb, h⟩ := caseBucket_cases tools case <;> simp [hb, h]
  rw [htp, hfp, hpredicted]
  refine countP_add fun case _ => ?_
  unfold mistaken
  cases expects case <;> cases predicts tools case <;> cases correct tools case <;> rfl

theorem counts_partition : (tally tools cases).tp + (tally tools cases).fp + (tally tools cases).tn +
    (tally tools cases).fn = cases.length := by
  have hcount : ∀ b, (tally tools cases).of b = _ := tally_of tools cases
  have htp := hcount .truePositive
  have hfp := hcount .falsePositive
  have htn := hcount .trueNegative
  have hfn := hcount .falseNegative
  have hpos : cases.countP (fun case => caseBucket tools case = .truePositive) +
      cases.countP (fun case => caseBucket tools case = .falsePositive) =
        cases.countP (fun case => caseBucket tools case = .truePositive ∨
          caseBucket tools case = .falsePositive) := by
    refine countP_add fun case _ => ?_
    obtain ⟨hb, -⟩ | ⟨hb, -⟩ | ⟨hb, -⟩ | ⟨hb, -⟩ := caseBucket_cases tools case <;> simp [hb]
  have hneg : cases.countP (fun case => caseBucket tools case = .trueNegative) +
      cases.countP (fun case => caseBucket tools case = .falseNegative) =
        cases.countP (fun case => caseBucket tools case = .trueNegative ∨
          caseBucket tools case = .falseNegative) := by
    refine countP_add fun case _ => ?_
    obtain ⟨hb, -⟩ | ⟨hb, -⟩ | ⟨hb, -⟩ | ⟨hb, -⟩ := caseBucket_cases tools case <;> simp [hb]
  have hall : cases.countP (fun case => caseBucket tools case = .truePositive ∨
      caseBucket tools case = .falsePositive) +
      cases.countP (fun case => caseBucket tools case = .trueNegative ∨
        caseBucket tools case = .falseNegative) = cases.countP fun _ => true := by
    refine countP_add fun case _ => ?_
    obtain ⟨hb, -⟩ | ⟨hb, -⟩ | ⟨hb, -⟩ | ⟨hb, -⟩ := caseBucket_cases tools case <;> simp [hb]
  rw [List.countP_true] at hall
  change (tally tools cases).tp = _ at htp
  change (tally tools cases).fp = _ at hfp
  change (tally tools cases).tn = _ at htn
  change (tally tools cases).fn = _ at hfn
  omega

end

theorem ratio_pos {part whole : Nat} (h : 0 < ratio part whole) : 0 < part := by
  rcases Nat.eq_zero_or_pos part with rfl | hpart
  · unfold ratio at h
    split at h <;> simp at h
  · exact hpart

/-- The same part of more is less. -/
theorem ratio_lt {part whole more : Nat} (hpart : 0 < part) (hwhole : 0 < whole) (hmore : whole < more) :
    ratio part more < ratio part whole := by
  unfold ratio
  rw [if_pos (by omega), if_pos (by omega)]
  have hp : (0 : ℚ) < part := by exact_mod_cast hpart
  have hw : (0 : ℚ) < whole := by exact_mod_cast hwhole
  have hm : (whole : ℚ) < more := by exact_mod_cast hmore
  exact div_lt_div_of_pos_left hp hw hm

theorem ratio_zero (whole : Nat) : ratio 0 whole = 0 := by
  unfold ratio
  split <;> simp

section
variable {tools : TextTools} {cases : List BenchmarkCase}

theorem runBenchmark_some {datasetId datasetVersion : String} {report : BenchmarkReport}
    (h : runBenchmark tools cases datasetId datasetVersion = some report) :
    report.truePositive = (tally tools cases).tp ∧ report.falsePositive = (tally tools cases).fp ∧
      report.trueNegative = (tally tools cases).tn ∧ report.falseNegative = (tally tools cases).fn ∧
      report.precision = roundSix (exactPrecision tools cases) ∧
      report.recallRate = roundSix (exactRecall tools cases) ∧
      report.errorSlices = sortedSlices (tally tools cases).slices := by
  unfold runBenchmark at h
  split at h
  · split at h
    · obtain rfl := Option.some.inj h
      exact ⟨rfl, rfl, rfl, rfl, rfl, rfl, rfl⟩
    · cases h
  · cases h

/-- Without a mistake the precision is that of the predictions; where nothing is right it is nothing. -/
theorem exactPrecision_eq (h : cases.countP (mistaken tools) = 0 ∨ cases.countP (correct tools) = 0) :
    exactPrecision tools cases =
      ratio (cases.countP (correct tools)) (cases.countP (predicts tools)) := by
  unfold exactPrecision
  have hsum := tp_add_fp tools cases
  rw [tp_eq] at hsum ⊢
  rcases h with h | h
  · rw [h, Nat.add_zero] at hsum
    rw [hsum]
  · rw [h, ratio_zero, ratio_zero]

theorem exactPrecision_lt {before after : List BenchmarkCase} {case : BenchmarkCase}
    (h : (before ++ case :: after).countP (mistaken tools) = 0 ∨
      (before ++ case :: after).countP (correct tools) = 0)
    (hpredicts : predicts tools case = true) (hwrong : correct tools case = false)
    (hpos : 0 < exactPrecision tools (before ++ after)) :
    exactPrecision tools (before ++ case :: after) < exactPrecision tools (before ++ after) := by
  have hcorrect : (before ++ case :: after).countP (correct tools) =
      (before ++ after).countP (correct tools) := by
    rw [List.countP_append, List.countP_append, List.countP_cons, hwrong]
    rfl
  have hpredicted : (before ++ case :: after).countP (predicts tools) =
      (before ++ after).countP (predicts tools) + 1 := by
    rw [List.countP_append, List.countP_append, List.countP_cons, hpredicts]
    rfl
  have hsome : 0 < (before ++ after).countP (correct tools) := by
    rw [← tp_eq]
    exact ratio_pos hpos
  have hmistaken : (before ++ case :: after).countP (mistaken tools) = 0 := by
    rcases h with h | h
    · exact h
    · rw [hcorrect] at h
      omega
  have hwithout : (before ++ after).countP (mistaken tools) = 0 := by
    rw [List.countP_append, List.countP_cons] at hmistaken
    rw [List.countP_append]
    omega
  have hsum := tp_add_fp tools (before ++ after)
  rw [tp_eq] at hsum
  rw [exactPrecision_eq h, exactPrecision_eq (.inl hwithout), hcorrect, hpredicted]
  exact ratio_lt hsome (by omega) (Nat.lt_succ_self _)

/-- The report is true unless a wrong recording is predicted where another is expected, with some
recording predicted correctly. -/
theorem trueReport_iff {datasetId datasetVersion : String} {report : BenchmarkReport}
    (h : runBenchmark tools cases datasetId datasetVersion = some report) :
    TrueReport tools cases report ↔
      (∀ case ∈ cases, ∀ expected ∈ case.expectedRecordingId, ∀ recording ∈ predicted tools case,
          recording = expected) ∨
        ∀ case ∈ cases, case.expectedRecordingId ≠ none →
          predicted tools case ≠ case.expectedRecordingId := by
  obtain ⟨htp, hfp, htn, hfn, hprecision, hrecall, hslices⟩ := runBenchmark_some h
  have hcond : ((∀ case ∈ cases, ∀ expected ∈ case.expectedRecordingId,
      ∀ recording ∈ predicted tools case, recording = expected) ∨
        ∀ case ∈ cases, case.expectedRecordingId ≠ none →
          predicted tools case ≠ case.expectedRecordingId) ↔
      cases.countP (mistaken tools) = 0 ∨ cases.countP (correct tools) = 0 := by
    rw [List.countP_eq_zero, List.countP_eq_zero]
    refine or_congr (forall₂_congr fun case _ => ?_) (forall₂_congr fun case _ => ?_)
    · unfold mistaken correct expects predicts
      cases case.expectedRecordingId <;> cases predicted tools case <;> simp
    · unfold correct expects
      cases case.expectedRecordingId <;> simp
  rw [hcond]
  constructor
  · intro htrue
    rcases Nat.eq_zero_or_pos (cases.countP (correct tools)) with hnone | hsome
    · exact .inr hnone
    · refine .inl (Nat.eq_zero_of_not_pos fun hmistaken => ?_)
      have hsum := tp_add_fp tools cases
      have heq := htrue.precision
      unfold exactPrecision at heq
      rw [tp_eq] at hsum heq
      exact (ratio_lt hsome (by omega : 0 < cases.countP (correct tools) + (tally tools cases).fp)
        (by omega : _ < cases.countP (predicts tools))).ne heq.symm
  · intro hfine
    have hsum (b : Bucket) : sliceTotal report.errorSlices b = (tally tools cases).of b := by
      rw [hslices, sliceTotal_sortedSlices, tally_slices, tally_of]
    exact {
      partition := by
        rw [htp, hfp, htn, hfn]
        exact counts_partition tools cases
      slices := ⟨(hsum _).trans htp.symm, (hsum _).trans hfp.symm, (hsum _).trans htn.symm,
        (hsum _).trans hfn.symm⟩
      rounded := ⟨hprecision, hrecall⟩
      recallRate := by
        unfold exactRecall
        rw [tp_add_fn, tp_eq]
      precision := exactPrecision_eq hfine
      lowers := by
        rintro before case after rfl hpredicts hwrong hpos
        exact exactPrecision_lt hfine hpredicts (Bool.eq_false_iff.mpr hwrong) hpos }

end

namespace Sample

/-- The catalog holds one recording with the bytes of the query. -/
def case (expected : Option Uuid) : BenchmarkCase where
  caseId := "case"
  errorSlice := "slice"
  query := query
  candidates := [{ entry secondId (some "digest") with versionMarkers := ["LIVE"] }]
  expectedRecordingId := expected

end Sample

theorem mistake_not_counted : ∃ report,
    runBenchmark Sample.tools [Sample.case (some Sample.secondId), Sample.case (some Sample.firstId)]
      "dataset" "1" = some report ∧ report.precision = roundSix 1 ∧
      ¬ TrueReport Sample.tools
        [Sample.case (some Sample.secondId), Sample.case (some Sample.firstId)] report := by
  have hone : exactPrecision Sample.tools
      [Sample.case (some Sample.secondId), Sample.case (some Sample.firstId)] = 1 := by decide +kernel
  refine ⟨_, rfl, congrArg roundSix hone, fun htrue => ?_⟩
  have heq := htrue.precision
  revert heq
  decide +kernel

/-- An unwanted recording is counted. -/
theorem trueReport_iff_unwanted : ∃ report,
    runBenchmark Sample.tools [Sample.case (some Sample.secondId), Sample.case none]
      "dataset" "1" = some report ∧
      TrueReport Sample.tools [Sample.case (some Sample.secondId), Sample.case none] report := by
  refine ⟨_, rfl, (@trueReport_iff _ _ "dataset" "1" _ rfl).mpr (.inl ?_)⟩
  decide +kernel

end AutPlay.Imports
