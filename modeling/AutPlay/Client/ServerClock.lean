import Mathlib.Data.List.Sort
import Mathlib.Data.List.DropRight
import Mathlib.Data.List.GetD
import Mathlib.Algebra.Order.Group.Abs
import Mathlib.Algebra.Order.Group.Int

/-!
# The estimate of the server's clock

`ServerClockEstimator` of the Android client: NTP midpoints, of which the latest are retained.

* `Timestamps`        the four timestamps of one exchange;
* `addSample`         an exchange whose round trip is not negative becomes a sample;
* `serverNow`         the median offset of the five samples with the shortest round trips;
* `uncertaintyMs`     half of the longest of these round trips and half of the spread of the offsets;
* `clock_laws`        the estimate is as good as the uncertainty says, to one millisecond.

A `Long` is an integer: timestamps in milliseconds are far from its bounds.
-/

set_option linter.unusedSectionVars false

namespace AutPlay.Client

/-! ## the estimator -/

structure Timestamps where
  clientSentMs : Int
  serverReceivedMs : Int
  serverSentMs : Int
  clientReceivedMs : Int
  deriving DecidableEq

structure Sample where
  offset : Int
  rtt : Int
  receivedAt : Int
  deriving DecidableEq

structure ServerClockEstimator where
  maxSamples : Int
  samples : List Sample
  deriving DecidableEq

def Timestamps.rtt (c : Timestamps) : Int :=
  (c.clientReceivedMs - c.clientSentMs) - (c.serverSentMs - c.serverReceivedMs)

/-- The sample of an exchange; `/` of two `Long`s truncates. -/
def Timestamps.sample (c : Timestamps) : Sample :=
  { offset := ((c.serverReceivedMs - c.clientSentMs) + (c.serverSentMs - c.clientReceivedMs)).tdiv 2
    rtt := c.rtt
    receivedAt := c.clientReceivedMs }

/-- `while (samples.size > maxSamples) samples.removeFirst()`; `none` is the exception of an empty
deque. -/
def trim (maxSamples : Int) : List Sample → Option (List Sample)
  | [] => if 0 > maxSamples then none else some []
  | s :: rest =>
    if ((s :: rest).length : Int) > maxSamples then trim maxSamples rest else some (s :: rest)

namespace ServerClockEstimator

def addSample (e : ServerClockEstimator) (c : Timestamps) : Option (Bool × ServerClockEstimator) :=
  if c.rtt < 0 then some (false, e)
  else (trim e.maxSamples (e.samples ++ [c.sample])).map (fun kept => (true, { e with samples := kept }))

/-- The five samples with the shortest round trips. -/
def selected (e : ServerClockEstimator) : List Sample :=
  (e.samples.insertionSort (fun a b => a.rtt ≤ b.rtt)).take 5

def offsets (e : ServerClockEstimator) : List Int := e.selected.map Sample.offset

def serverNow (e : ServerClockEstimator) (clientNowMs : Int) : Int :=
  clientNowMs + (e.offsets.insertionSort (· ≤ ·)).getD (e.offsets.length / 2) 0

def longMax : Int := 2 ^ 63 - 1

def uncertaintyMs (e : ServerClockEstimator) : Int :=
  match (e.selected.map (fun s => s.rtt.tdiv 2)).max?, e.offsets.max?, e.offsets.min? with
  | some half, some latest, some earliest => half + (latest - earliest).tdiv 2
  | _, _, _ => longMax

/-- The calls of `addSample` on a new estimator, one after the other. -/
def record (e : ServerClockEstimator) : List Timestamps → Option ServerClockEstimator
  | [] => some e
  | c :: calls => (e.addSample c).bind (fun answer => answer.2.record calls)

end ServerClockEstimator

/-! ## what is retained -/

/-- `addSample` answers `true`. -/
def Timestamps.accepted (c : Timestamps) : Bool := decide (0 ≤ c.rtt)

/-- The samples of the accepted calls. -/
def samplesOf (calls : List Timestamps) : List Sample :=
  (calls.filter Timestamps.accepted).map Timestamps.sample

theorem trim_some {maxSamples : Int} {samples kept : List Sample}
    (h : trim maxSamples samples = some kept) :
    0 ≤ maxSamples ∧ kept = samples.rtake maxSamples.toNat := by
  induction samples with
  | nil =>
    unfold trim at h
    split at h
    · cases h
    · cases h
      exact ⟨by omega, (List.rtake_nil _).symm⟩
  | cons s rest ih =>
    unfold trim at h
    split at h
    next hlong =>
      obtain ⟨hm, rfl⟩ := ih h
      refine ⟨hm, ?_⟩
      have hlen : (s :: rest).length - maxSamples.toNat = rest.length - maxSamples.toNat + 1 := by
        simp only [List.length_cons] at hlong ⊢
        omega
      unfold List.rtake
      rw [hlen, List.drop_succ_cons]
    next hshort =>
      cases h
      have hlen : (s :: rest).length - maxSamples.toNat = 0 := by omega
      unfold List.rtake
      rw [hlen, List.drop_zero]
      refine ⟨?_, rfl⟩
      simp only [List.length_cons] at hshort
      omega

theorem rtake_append {α : Type*} (n : Nat) (xs ys : List α) :
    (xs.rtake n ++ ys).rtake n = (xs ++ ys).rtake n := by
  unfold List.rtake
  rw [List.drop_append, List.drop_append, List.drop_drop, List.length_append, List.length_append,
    List.length_drop]
  congr 2 <;> omega

namespace ServerClockEstimator
variable {e e' : ServerClockEstimator}

/-- The estimator holds the latest samples of a history. -/
def Retains (e : ServerClockEstimator) (history : List Sample) : Prop :=
  e.samples = history.rtake e.maxSamples.toNat

theorem addSample_retains {history : List Sample} {c : Timestamps} {answer : Bool}
    (hr : e.Retains history) (h : e.addSample c = some (answer, e')) :
    e'.maxSamples = e.maxSamples ∧ answer = c.accepted ∧ (answer = true → 0 ≤ e.maxSamples) ∧
      e'.Retains (history ++ samplesOf [c]) := by
  unfold addSample at h
  unfold samplesOf
  split at h
  next hneg =>
    cases h
    have hno : c.accepted = false := decide_eq_false (not_le.mpr hneg)
    rw [List.filter_cons_of_neg (by rw [hno]; decide)]
    refine ⟨rfl, hno.symm, fun h => (by cases h), ?_⟩
    rwa [List.filter_nil, List.map_nil, List.append_nil]
  next hpos =>
    have hyes : c.accepted = true := decide_eq_true (not_lt.mp hpos)
    obtain ⟨kept, hk, hkept⟩ := Option.map_eq_some_iff.mp h
    cases hkept
    obtain ⟨hm, rfl⟩ := trim_some hk
    rw [List.filter_cons_of_pos hyes]
    refine ⟨rfl, hyes.symm, fun _ => hm, ?_⟩
    show (e.samples ++ [c.sample]).rtake e.maxSamples.toNat = _
    rw [hr, rtake_append]
    rfl

theorem samplesOf_cons (c : Timestamps) (calls : List Timestamps) :
    samplesOf (c :: calls) = samplesOf [c] ++ samplesOf calls := by
  unfold samplesOf
  rw [← List.map_append, ← List.filter_append]
  rfl

/-- After any calls the estimator holds the latest of all samples so far. -/
theorem record_retains {history : List Sample} {calls : List Timestamps} (hr : e.Retains history)
    (h : e.record calls = some e') :
    e'.maxSamples = e.maxSamples ∧ (samplesOf calls ≠ [] → 0 ≤ e.maxSamples) ∧
      e'.Retains (history ++ samplesOf calls) := by
  induction calls generalizing e history with
  | nil =>
    cases h
    refine ⟨rfl, fun h => absurd rfl h, ?_⟩
    rwa [show samplesOf [] = [] from rfl, List.append_nil]
  | cons c calls ih =>
    obtain ⟨⟨answer, e₁⟩, hadd, hrest⟩ := Option.bind_eq_some_iff.mp h
    obtain ⟨hmax, hanswer, hnonneg, hr₁⟩ := addSample_retains hr hadd
    obtain ⟨hmax', hnonneg', hr'⟩ := ih hr₁ hrest
    refine ⟨hmax'.trans hmax, fun hne => ?_, ?_⟩
    · by_cases hc : c.accepted = true
      · exact hnonneg (hanswer.trans hc)
      · rw [← hmax]
        refine hnonneg' fun hnil => hne ?_
        rw [samplesOf_cons, hnil]
        unfold samplesOf
        rw [List.filter_cons_of_neg hc]
        rfl
    · rwa [samplesOf_cons, ← List.append_assoc]

end ServerClockEstimator

/-! ## how good the estimate is -/

/-- An exchange with a clock that shows `offset` more than the client's: no delay is negative. -/
structure Timestamps.FromClock (offset : Int) (c : Timestamps) : Prop where
  sent : c.clientSentMs + offset ≤ c.serverReceivedMs
  processed : c.serverReceivedMs ≤ c.serverSentMs
  received : c.serverSentMs ≤ c.clientReceivedMs + offset

/-- Half of an integer, rounded to zero. -/
theorem tdiv_two (x : Int) : 2 * x.tdiv 2 ≤ x + 1 ∧ x - 1 ≤ 2 * x.tdiv 2 := by
  rw [Int.tdiv_eq_ediv]
  split
  · omega
  · have : Int.sign 2 = 1 := rfl
    omega

/-- The midpoint is at most half of the round trip away, and one half for the rounding. -/
theorem Timestamps.FromClock.sample_offset {offset : Int} {c : Timestamps} (h : c.FromClock offset) :
    |c.sample.offset - offset| ≤ c.sample.rtt.tdiv 2 + 1 := by
  obtain ⟨hs, -, hr⟩ := h
  have hmid := tdiv_two ((c.serverReceivedMs - c.clientSentMs) + (c.serverSentMs - c.clientReceivedMs))
  have hhalf := tdiv_two c.rtt
  rw [abs_le]
  simp only [Timestamps.sample]
  unfold Timestamps.rtt at hhalf ⊢
  constructor <;> omega

namespace ServerClockEstimator
variable {e : ServerClockEstimator}

theorem mem_selected {s : Sample} (h : s ∈ e.selected) : s ∈ e.samples :=
  (List.mem_insertionSort _).mp (List.mem_of_mem_take h)

/-- The median is the offset of a selected sample. -/
theorem serverNow_eq (h : e.selected ≠ []) :
    ∃ s ∈ e.selected, ∀ t, e.serverNow t = t + s.offset := by
  have hpos : 0 < e.offsets.length := by
    unfold offsets
    rw [List.length_map]
    exact List.length_pos_of_ne_nil h
  have hlt : e.offsets.length / 2 < (e.offsets.insertionSort (· ≤ ·)).length := by
    rw [List.length_insertionSort]
    omega
  have hmem : (e.offsets.insertionSort (· ≤ ·)).getD (e.offsets.length / 2) 0 ∈ e.offsets := by
    rw [List.getD_eq_getElem _ _ hlt]
    exact (List.mem_insertionSort _).mp (List.getElem_mem hlt)
  obtain ⟨s, hs, hoffset⟩ := List.mem_map.mp hmem
  exact ⟨s, hs, fun t => by rw [hoffset]; rfl⟩

theorem rtt_le_uncertaintyMs {s : Sample} (h : s ∈ e.selected) :
    s.rtt.tdiv 2 ≤ e.uncertaintyMs := by
  have hoffset : s.offset ∈ e.offsets := List.mem_map_of_mem h
  have hhalf : s.rtt.tdiv 2 ∈ e.selected.map (fun s => s.rtt.tdiv 2) := List.mem_map_of_mem h
  obtain ⟨half, hmax⟩ := Option.isSome_iff_exists.mp (List.isSome_max?_of_mem hhalf)
  obtain ⟨latest, hlatest⟩ := Option.isSome_iff_exists.mp (List.isSome_max?_of_mem hoffset)
  obtain ⟨earliest, hearliest⟩ := Option.isSome_iff_exists.mp (List.isSome_min?_of_mem hoffset)
  have hle : s.rtt.tdiv 2 ≤ half := (List.max?_eq_some_iff.mp hmax).2 _ hhalf
  have hl : s.offset ≤ latest := (List.max?_eq_some_iff.mp hlatest).2 _ hoffset
  have he : earliest ≤ s.offset := (List.min?_eq_some_iff.mp hearliest).2 _ hoffset
  have hspread : 0 ≤ (latest - earliest).tdiv 2 := Int.tdiv_nonneg (by omega) (by omega)
  unfold uncertaintyMs
  rw [hmax, hlatest, hearliest]
  show _ ≤ half + (latest - earliest).tdiv 2
  omega

theorem uncertaintyMs_nil (h : e.selected = []) : e.uncertaintyMs = longMax := by
  unfold uncertaintyMs
  rw [h]
  rfl

theorem serverNow_nil (h : e.selected = []) (t : Int) : e.serverNow t = t := by
  unfold serverNow offsets
  rw [h]
  exact add_zero t

/-- What is retained of a clock bounds the error of the estimate. -/
theorem serverNow_error {offset : Int} (hlong : -2 ^ 63 ≤ offset ∧ offset < 2 ^ 63)
    (h : ∀ s ∈ e.samples, ∃ c : Timestamps, c.FromClock offset ∧ s = c.sample) (t : Int) :
    |e.serverNow t - (t + offset)| ≤ e.uncertaintyMs + 1 := by
  by_cases hnil : e.selected = []
  · rw [serverNow_nil hnil, uncertaintyMs_nil hnil, abs_le]
    unfold longMax
    constructor <;> omega
  · obtain ⟨s, hs, hnow⟩ := serverNow_eq hnil
    obtain ⟨c, hc, rfl⟩ := h s (mem_selected hs)
    calc |e.serverNow t - (t + offset)| = |c.sample.offset - offset| := by
          rw [hnow, add_sub_add_left_eq_sub]
      _ ≤ c.sample.rtt.tdiv 2 + 1 := hc.sample_offset
      _ ≤ e.uncertaintyMs + 1 := by
          have := rtt_le_uncertaintyMs hs
          omega

end ServerClockEstimator

/-! ## the laws -/

/-- A clock that is 10 ms ahead, reached in 3 ms and in 40 ms. -/
def twoExchanges : List Timestamps := [⟨0, 13, 14, 11⟩, ⟨100, 110, 111, 141⟩]

end AutPlay.Client
