import Mathlib.Data.Rat.Defs
import Mathlib.Algebra.Order.Group.Abs
import Mathlib.Algebra.Order.Group.Int
import Mathlib.Algebra.Order.Ring.Rat
import AutPlay.Lib.Run

/-!
# The drift of a wave's playback

`DriftCorrector`, `WaveDriftMonitor` and what `synchronizeWavePlayback` of the Android client does
with their decisions.

* `DriftCorrector.correct`   one correction: a seek, a change of speed, the end of one, or nothing;
* `correct_cases`            what a correction can be;
* `WaveDriftMonitor.sample`  which samples are corrected;
* `WaveSync.step`            the player after a decision, or after the job that resets the speed;
* `drift_laws`               the laws of all runs.

A `Long` is an integer: positions and milliseconds since boot are far from its bounds. A speed is the
rational number its `Float` stands for.
-/

set_option linter.unusedSectionVars false

namespace AutPlay.Client

/-! ## the corrector -/

inductive DriftAction where
  | none
  | speed (multiplier : ℚ)
  | seek (positionMs : Int)
  deriving DecidableEq

structure DriftCorrector where
  speedActive : Bool := false
  lastSeekAtMs : Int := -2 ^ 62
  lastDirectionAtMs : Int := -2 ^ 62
  direction : Int := 0
  mediumCount : Nat := 0
  settledCount : Nat := 0
  speedStartedAtMs : Option Int := Option.none
  deriving DecidableEq

def slower : ℚ := 98 / 100
def faster : ℚ := 102 / 100

/-- The multiplier of a direction. -/
def multiplierOf (direction : Int) : ℚ := if direction < 0 then slower else faster

namespace DriftCorrector

def stopped (c : DriftCorrector) : DriftCorrector :=
  { c with speedActive := false, speedStartedAtMs := Option.none }

/-- `speedActive` for five seconds; `none` is the exception of `requireNotNull`. -/
def expired (c : DriftCorrector) (nowMs : Int) : Option Bool :=
  if c.speedActive then c.speedStartedAtMs.map fun startedAt => decide (5000 ≤ nowMs - startedAt)
  else some false

/-- The command of a direction. -/
def steer (c : DriftCorrector) (nextDirection nowMs : Int) : DriftAction × DriftCorrector :=
  (.speed (multiplierOf nextDirection),
    { c with
      lastDirectionAtMs := if c.direction ≠ nextDirection then nowMs else c.lastDirectionAtMs
      direction := nextDirection
      speedStartedAtMs := if c.speedActive then c.speedStartedAtMs else some nowMs
      speedActive := true })

/-- The direction against a drift. -/
def opposite (driftMs : Int) : Int := if driftMs > 0 then -1 else 1

def counted (c : DriftCorrector) (driftMs : Int) : DriftCorrector :=
  { c with mediumCount := if |driftMs| ≤ 250 then c.mediumCount + 1 else 3 }

/-- What is done about a drift once the speed has settled. -/
def adjust (c : DriftCorrector) (driftMs expectedPositionMs nowMs : Int) : DriftAction × DriftCorrector :=
  if |driftMs| ≤ 80 then (.none, { c with mediumCount := 0 })
  else
    let nextDirection := opposite driftMs
    let counted := c.counted driftMs
    if (|driftMs| > 250 ∨ counted.mediumCount ≥ 3) ∧ nowMs - c.lastSeekAtMs ≥ 10000 then
      (.seek (max expectedPositionMs 0),
        { counted.stopped with lastSeekAtMs := nowMs, mediumCount := 0 })
    else if |driftMs| > 250 ∨
        (c.direction ≠ 0 ∧ c.direction ≠ nextDirection ∧ nowMs - c.lastDirectionAtMs < 6000) then
      (.none, counted)
    else counted.steer nextDirection nowMs

def settle (c : DriftCorrector) (driftMs expectedPositionMs nowMs : Int) : DriftAction × DriftCorrector :=
  if c.speedActive ∧ |driftMs| ≤ 40 then
    let settled := { c with settledCount := c.settledCount + 1 }
    if settled.settledCount ≥ 2 then (.speed 1, settled.stopped)
    else settled.adjust driftMs expectedPositionMs nowMs
  else { c with settledCount := 0 }.adjust driftMs expectedPositionMs nowMs

def correct (c : DriftCorrector) (driftMs expectedPositionMs nowMs : Int) :
    Option (DriftAction × DriftCorrector) :=
  (c.expired nowMs).map fun expired =>
    if expired then (.speed 1, { c.stopped with settledCount := 0 })
    else c.settle driftMs expectedPositionMs nowMs

/-- What an action changes, besides the counts. -/
inductive Corrects (c : DriftCorrector) (expectedPositionMs nowMs : Int) :
    DriftAction → DriftCorrector → Prop
  | ignore (c' : DriftCorrector) (hactive : c'.speedActive = c.speedActive)
      (hseek : c'.lastSeekAtMs = c.lastSeekAtMs)
      (hturn : c'.lastDirectionAtMs = c.lastDirectionAtMs) (hdir : c'.direction = c.direction)
      (hstart : c'.speedStartedAtMs = c.speedStartedAtMs)
      (hopen : ∀ startedAt ∈ c.speedStartedAtMs, c.speedActive = true → nowMs - startedAt < 5000) :
      Corrects c expectedPositionMs nowMs .none c'
  | stop (c' : DriftCorrector) (hactive : c'.speedActive = false)
      (hseek : c'.lastSeekAtMs = c.lastSeekAtMs)
      (hturn : c'.lastDirectionAtMs = c.lastDirectionAtMs) (hdir : c'.direction = c.direction) :
      Corrects c expectedPositionMs nowMs (.speed 1) c'
  | seek (c' : DriftCorrector) (hactive : c'.speedActive = false) (hseek : c'.lastSeekAtMs = nowMs)
      (hturn : c'.lastDirectionAtMs = c.lastDirectionAtMs) (hdir : c'.direction = c.direction)
      (hcool : 10000 ≤ nowMs - c.lastSeekAtMs) :
      Corrects c expectedPositionMs nowMs (.seek (max expectedPositionMs 0)) c'
  | steer (nextDirection : Int) (c' : DriftCorrector) (hnext : nextDirection = -1 ∨ nextDirection = 1)
      (hactive : c'.speedActive = true) (hseek : c'.lastSeekAtMs = c.lastSeekAtMs)
      (hturn : c'.lastDirectionAtMs = if c.direction ≠ nextDirection then nowMs else c.lastDirectionAtMs)
      (hdir : c'.direction = nextDirection)
      (hstart : c'.speedStartedAtMs = if c.speedActive then c.speedStartedAtMs else some nowMs)
      (hwait : c.direction = 0 ∨ c.direction = nextDirection ∨ 6000 ≤ nowMs - c.lastDirectionAtMs)
      (hopen : ∀ startedAt ∈ c.speedStartedAtMs, c.speedActive = true → nowMs - startedAt < 5000) :
      Corrects c expectedPositionMs nowMs (.speed (multiplierOf nextDirection)) c'

variable {c c' : DriftCorrector} {driftMs expectedPositionMs nowMs : Int} {a : DriftAction}

theorem adjust_cases (hopen : ∀ startedAt ∈ c.speedStartedAtMs, c.speedActive = true →
    nowMs - startedAt < 5000) (h : c.adjust driftMs expectedPositionMs nowMs = (a, c')) :
    Corrects c expectedPositionMs nowMs a c' := by
  unfold adjust at h
  split at h
  · cases h
    exact .ignore _ rfl rfl rfl rfl rfl hopen
  dsimp only at h
  split at h
  · next hseek =>
    cases h
    exact .seek _ rfl rfl rfl rfl hseek.2
  split at h
  · cases h
    exact .ignore _ rfl rfl rfl rfl rfl hopen
  · next hfree =>
    cases h
    refine .steer _ _ ?_ rfl rfl rfl rfl rfl ?_ hopen
    · unfold opposite
      split
      · exact Or.inl rfl
      · exact Or.inr rfl
    · by_contra hno
      obtain ⟨hzero, hother, hsoon⟩ := (not_or.mp hno).imp id not_or.mp
      exact hfree (Or.inr ⟨hzero, hother, not_le.mp hsoon⟩)

theorem settle_cases (hopen : ∀ startedAt ∈ c.speedStartedAtMs, c.speedActive = true →
    nowMs - startedAt < 5000) (h : c.settle driftMs expectedPositionMs nowMs = (a, c')) :
    Corrects c expectedPositionMs nowMs a c' := by
  -- the counts do not matter for what is allowed
  have hadjust : ∀ n, { c with settledCount := n }.adjust driftMs expectedPositionMs nowMs = (a, c') →
      Corrects c expectedPositionMs nowMs a c' := by
    intro n h
    cases adjust_cases (c := { c with settledCount := n }) hopen h with
    | ignore _ h1 h2 h3 h4 h5 h6 => exact .ignore _ h1 h2 h3 h4 h5 h6
    | stop _ h1 h2 h3 h4 => exact .stop _ h1 h2 h3 h4
    | seek _ h1 h2 h3 h4 h5 => exact .seek _ h1 h2 h3 h4 h5
    | steer _ _ h1 h2 h3 h4 h5 h6 h7 h8 => exact .steer _ _ h1 h2 h3 h4 h5 h6 h7 h8
  unfold settle at h
  split at h
  · dsimp only at h
    split at h
    · cases h
      exact .stop _ rfl rfl rfl rfl
    · exact hadjust _ h
  · exact hadjust _ h

/-- What a correction can be. -/
theorem correct_cases (h : c.correct driftMs expectedPositionMs nowMs = some (a, c')) :
    Corrects c expectedPositionMs nowMs a c' := by
  obtain ⟨expired, hexpired, h⟩ := Option.map_eq_some_iff.mp h
  cases expired with
  | true =>
    cases h
    exact .stop _ rfl rfl rfl rfl
  | false =>
    refine settle_cases (fun startedAt hstart hactive => ?_) h
    unfold DriftCorrector.expired at hexpired
    rw [if_pos hactive, Option.mem_def.mp hstart] at hexpired
    have hlate := of_decide_eq_false (Option.some.inj hexpired)
    exact not_le.mp hlate

end DriftCorrector

/-! ## the monitor -/

inductive WaveDriftDecision where
  | wait
  | degraded
  | correct (action : DriftAction)
  deriving DecidableEq

structure DriftSample where
  nowMs : Int
  startAtMs : Int
  validUntilMs : Int
  positionMs : Int
  playing : Bool
  buffering : Bool
  deriving DecidableEq

structure WaveDriftMonitor where
  corrector : DriftCorrector := {}
  lastSampleAtMs : Int := -2 ^ 62
  deriving DecidableEq

def DriftSample.expected (s : DriftSample) : Int := max (s.nowMs - s.startAtMs) 0

def WaveDriftMonitor.sample (m : WaveDriftMonitor) (s : DriftSample) :
    Option (WaveDriftDecision × WaveDriftMonitor) :=
  if s.nowMs ≥ s.validUntilMs ∨ s.buffering then some (.degraded, m)
  else if s.nowMs < s.startAtMs ∨ !s.playing ∨ s.nowMs - m.lastSampleAtMs < 2000 then some (.wait, m)
  else
    let drift := s.positionMs - s.expected
    if |drift| > 1000 then some (.degraded, { m with lastSampleAtMs := s.nowMs })
    else (m.corrector.correct drift s.expected s.nowMs).map fun answer =>
      (.correct answer.1, { corrector := answer.2, lastSampleAtMs := s.nowMs })

/-- The samples that are corrected. -/
structure Corrected (s : DriftSample) : Prop where
  leased : s.nowMs < s.validUntilMs
  ready : s.buffering = false
  started : s.startAtMs ≤ s.nowMs
  playing : s.playing = true
  near : |s.positionMs - (s.nowMs - s.startAtMs)| ≤ 1000

theorem sample_cases {m m' : WaveDriftMonitor} {s : DriftSample} {d : WaveDriftDecision}
    (h : m.sample s = some (d, m')) :
    (d = .wait ∧ m' = m) ∨ (d = .degraded ∧ m'.corrector = m.corrector) ∨
      ∃ a, d = .correct a ∧ Corrected s ∧
        DriftCorrector.Corrects m.corrector s.expected s.nowMs a m'.corrector := by
  unfold WaveDriftMonitor.sample at h
  split at h
  · cases h
    exact Or.inr (Or.inl ⟨rfl, rfl⟩)
  next hlease =>
  split at h
  · cases h
    exact Or.inl ⟨rfl, rfl⟩
  next hready =>
  dsimp only at h
  split at h
  · cases h
    exact Or.inr (Or.inl ⟨rfl, rfl⟩)
  next hnear =>
  obtain ⟨⟨a, c'⟩, hcorrect, h⟩ := Option.map_eq_some_iff.mp h
  cases h
  obtain ⟨hleased, hbuffering⟩ := not_or.mp hlease
  obtain ⟨hstarted, hplaying⟩ := not_or.mp hready
  have hexpected : s.expected = s.nowMs - s.startAtMs := max_eq_left (by omega)
  refine Or.inr (Or.inr ⟨a, rfl, ⟨not_le.mp hleased, eq_false_of_ne_true hbuffering, not_lt.mp hstarted,
    ?_, ?_⟩, DriftCorrector.correct_cases hcorrect⟩)
  · by_contra hpaused
    exact hplaying (Or.inl (by simpa using hpaused))
  · rw [← hexpected]
    exact not_lt.mp hnear

/-! ## the player -/

/-- The player's speed, and whether the job that resets it after five seconds is pending. -/
structure WaveSync where
  monitor : WaveDriftMonitor := {}
  speed : ℚ := 1
  resetPending : Bool := false

/-- What happens to a wave's playback. -/
inductive DriftEvent where
  | sampled (s : DriftSample) (d : WaveDriftDecision)
  | speedReset

namespace WaveSync

/-- What `synchronizeWavePlayback` does with a decision. -/
def apply (w : WaveSync) : WaveDriftDecision → WaveSync
  | .wait => w
  | .degraded => { w with speed := 1, resetPending := false }
  | .correct .none => w
  | .correct (.seek _) => { w with speed := 1, resetPending := false }
  | .correct (.speed multiplier) =>
    { w with speed := multiplier, resetPending := decide (multiplier ≠ 1) }

inductive Step : WaveSync → DriftEvent → WaveSync → Prop
  | sampled {w : WaveSync} {s : DriftSample} {d : WaveDriftDecision} {m : WaveDriftMonitor}
      (h : w.monitor.sample s = some (d, m)) : Step w (.sampled s d) ({ w with monitor := m }.apply d)
  | speedReset {w : WaveSync} (h : w.resetPending = true) :
      Step w .speedReset { w with speed := 1, resetPending := false }

end WaveSync

/-! ## what a run shows -/

def sampleTime : DriftEvent → Option Int
  | .sampled s _ => some s.nowMs
  | .speedReset => none

def seekTime : DriftEvent → Option Int
  | .sampled s (.correct (.seek _)) => some s.nowMs
  | _ => none

/-- A speed command that is not the normal speed, with its time. -/
def command : DriftEvent → Option (Int × ℚ)
  | .sampled s (.correct (.speed multiplier)) =>
    if multiplier = 1 then none else some (s.nowMs, multiplier)
  | _ => none

/-- The times of the commands in another direction than the command before. -/
def turnsFrom (last : Option ℚ) : List (Int × ℚ) → List Int
  | [] => []
  | c :: commands =>
    if last = some c.2 then turnsFrom last commands else c.1 :: turnsFrom (some c.2) commands

def turns (events : List DriftEvent) : List Int := turnsFrom none (events.filterMap command)

/-- The time of the first command since the normal speed. -/
def burstAfter (burst : Option Int) : DriftEvent → Option Int
  | .sampled _ .wait => burst
  | .sampled _ .degraded => none
  | .sampled _ (.correct .none) => burst
  | .sampled _ (.correct (.seek _)) => none
  | .sampled s (.correct (.speed multiplier)) =>
    if multiplier = 1 then none else burst.or (some s.nowMs)
  | .speedReset => none

def burstStart (events : List DriftEvent) : Option Int := events.foldl burstAfter none

/-! ## the steps -/

section
variable {w w' : WaveSync} {e : DriftEvent} {events : List DriftEvent}

@[simp] theorem WaveSync.apply_monitor (w : WaveSync) (d : WaveDriftDecision) :
    (w.apply d).monitor = w.monitor := by
  unfold WaveSync.apply
  split <;> rfl

/-- The corrector is left alone, or corrects a sample. -/
theorem WaveSync.step_cases (h : WaveSync.Step w e w') :
    (seekTime e = none ∧ command e = none ∧ w'.monitor.corrector = w.monitor.corrector) ∨
      ∃ s a, e = .sampled s (.correct a) ∧ Corrected s ∧
        DriftCorrector.Corrects w.monitor.corrector s.expected s.nowMs a w'.monitor.corrector := by
  cases h with
  | speedReset => exact Or.inl ⟨rfl, rfl, rfl⟩
  | sampled h =>
    rw [WaveSync.apply_monitor]
    obtain ⟨rfl, rfl⟩ | ⟨rfl, hsame⟩ | ⟨a, rfl, hs, ha⟩ := sample_cases h
    · exact Or.inl ⟨rfl, rfl, rfl⟩
    · exact Or.inl ⟨rfl, rfl, hsame⟩
    · exact Or.inr ⟨_, a, rfl, hs, ha⟩

theorem multiplierOf_ne_one (direction : Int) : multiplierOf direction ≠ 1 := by
  unfold multiplierOf
  split
  · decide +kernel
  · decide +kernel

theorem multiplierOf_inj {d d' : Int} (hd : d = -1 ∨ d = 1) (hd' : d' = -1 ∨ d' = 1)
    (h : multiplierOf d = multiplierOf d') : d = d' := by
  rcases hd with rfl | rfl <;> rcases hd' with rfl | rfl
  · rfl
  · exact absurd h (by decide +kernel)
  · exact absurd h (by decide +kernel)
  · rfl

theorem command_multiplierOf (s : DriftSample) (direction : Int) :
    command (.sampled s (.correct (.speed (multiplierOf direction)))) =
      some (s.nowMs, multiplierOf direction) := if_neg (multiplierOf_ne_one direction)

theorem seeks_apart (p : Path WaveSync.Step w events w') :
    (∀ t ∈ events.filterMap seekTime, 10000 ≤ t - w.monitor.corrector.lastSeekAtMs) ∧
      (events.filterMap seekTime).Pairwise fun t t' => 10000 ≤ t' - t := by
  induction p with
  | nil => exact ⟨fun t ht => absurd ht List.not_mem_nil, .nil⟩
  | cons h p ih =>
    obtain ⟨hall, hpair⟩ := ih
    obtain ⟨hnone, -, hsame⟩ | ⟨s, a, rfl, -, hc⟩ := WaveSync.step_cases h
    · rw [List.filterMap_cons_none hnone, ← hsame]
      exact ⟨hall, hpair⟩
    cases hc with
    | ignore _ _ hseek =>
      rw [hseek] at hall
      exact ⟨hall, hpair⟩
    | stop _ _ hseek =>
      rw [hseek] at hall
      exact ⟨hall, hpair⟩
    | steer _ _ _ _ hseek =>
      rw [hseek] at hall
      exact ⟨hall, hpair⟩
    | seek _ _ hseek _ _ hcool =>
      rw [hseek] at hall
      rw [List.filterMap_cons_some (f := seekTime) (b := s.nowMs) rfl]
      refine ⟨fun t ht => ?_, List.pairwise_cons.mpr ⟨hall, hpair⟩⟩
      rcases List.mem_cons.mp ht with rfl | ht
      · exact hcool
      · have := hall t ht
        omega

/-- The last command's multiplier. -/
def lastMultiplier (c : DriftCorrector) : Option ℚ :=
  if c.direction = 0 then none else some (multiplierOf c.direction)

theorem lastMultiplier_of_dir {c c' : DriftCorrector} (h : c'.direction = c.direction) :
    lastMultiplier c' = lastMultiplier c := by
  unfold lastMultiplier
  rw [h]

/-- The direction is that of a command, or none was given. -/
def Directed (c : DriftCorrector) : Prop := c.direction = 0 ∨ c.direction = -1 ∨ c.direction = 1

/-- The turns to come are six seconds after the last one and after each other. -/
def TurnsApart (c : DriftCorrector) (commands : List (Int × ℚ)) : Prop :=
  (c.direction ≠ 0 → ∀ t ∈ turnsFrom (lastMultiplier c) commands, 6000 ≤ t - c.lastDirectionAtMs) ∧
    (turnsFrom (lastMultiplier c) commands).Pairwise fun t t' => 6000 ≤ t' - t

theorem turns_apart (p : Path WaveSync.Step w events w') (hdir : Directed w.monitor.corrector) :
    TurnsApart w.monitor.corrector (events.filterMap command) := by
  induction p with
  | nil => exact ⟨fun _ t ht => absurd ht List.not_mem_nil, .nil⟩
  | @cons w w₁ w' e events h p ih =>
    -- an event without a command changes neither the direction nor its time
    have hkeep : command e = none → w₁.monitor.corrector.direction = w.monitor.corrector.direction →
        w₁.monitor.corrector.lastDirectionAtMs = w.monitor.corrector.lastDirectionAtMs →
        TurnsApart w.monitor.corrector ((e :: events).filterMap command) := by
      intro hnone hd hturn
      have hdir' : Directed w₁.monitor.corrector := by
        unfold Directed
        rw [hd]
        exact hdir
      have ih := ih hdir'
      unfold TurnsApart at ih
      rw [lastMultiplier_of_dir hd, hd, hturn] at ih
      rw [List.filterMap_cons_none hnone]
      exact ih
    obtain ⟨-, hnone, hsame⟩ | ⟨s, a, rfl, -, hc⟩ := WaveSync.step_cases h
    · exact hkeep hnone (by rw [hsame]) (by rw [hsame])
    generalize hc' : w₁.monitor.corrector = c' at hc
    cases hc with
    | ignore _ _ _ hturn hd => exact hkeep rfl (by rw [hc', hd]) (by rw [hc', hturn])
    | stop _ _ _ hturn hd => exact hkeep rfl (by rw [hc', hd]) (by rw [hc', hturn])
    | seek _ _ _ hturn hd => exact hkeep rfl (by rw [hc', hd]) (by rw [hc', hturn])
    | steer next _ hnext _ _ hturn hd _ hwait =>
      rw [hc'] at ih
      have hnonzero : next ≠ 0 := by omega
      have hdir' : Directed c' := Or.inr (hd ▸ hnext)
      have hlast : lastMultiplier c' = some (multiplierOf next) := by
        unfold lastMultiplier
        rw [hd, if_neg hnonzero]
      obtain ⟨hall, hpair⟩ := ih hdir'
      have hall := hall (hd ▸ hnonzero)
      rw [hlast] at hall hpair
      rw [List.filterMap_cons_some (command_multiplierOf s next)]
      unfold TurnsApart turnsFrom
      by_cases hsame : lastMultiplier w.monitor.corrector = some (multiplierOf next)
      · -- the command goes on in its direction
        have hold : w.monitor.corrector.direction = next := by
          unfold lastMultiplier at hsame
          split at hsame
          · cases hsame
          · next hzero =>
            exact multiplierOf_inj (hdir.resolve_left hzero) hnext (Option.some.inj hsame)
        rw [if_neg (not_not.mpr hold)] at hturn
        rw [if_pos hsame, hsame, ← hturn]
        exact ⟨fun _ => hall, hpair⟩
      · have hother : w.monitor.corrector.direction ≠ next := by
          rintro hold
          refine hsame ?_
          unfold lastMultiplier
          rw [hold, if_neg hnonzero]
        rw [if_pos hother] at hturn
        rw [hturn] at hall
        rw [if_neg hsame]
        refine ⟨fun hzero t ht => ?_, List.pairwise_cons.mpr ⟨hall, hpair⟩⟩
        have hgap := (hwait.resolve_left hzero).resolve_left hother
        rcases List.mem_cons.mp ht with rfl | ht
        · exact hgap
        · have := hall t ht
          omega

/-! ## the speed -/

/-- The speed is the normal one outside of a burst, which the corrector knows to have started. -/
structure SpeedKept (events : List DriftEvent) (w : WaveSync) : Prop where
  normal : w.monitor.corrector.speedActive = false → w.speed = 1
  burst : w.speed = 1 ↔ burstStart events = none
  started : w.monitor.corrector.speedActive = true →
    ∃ startedAt ∈ events.filterMap sampleTime, w.monitor.corrector.speedStartedAtMs = some startedAt
  before : ∀ burst ∈ burstStart events, ∀ startedAt ∈ w.monitor.corrector.speedStartedAtMs,
    startedAt ≤ burst

theorem burstStart_snoc (events : List DriftEvent) (e : DriftEvent) :
    burstStart (events ++ [e]) = burstAfter (burstStart events) e := by
  unfold burstStart
  rw [List.foldl_append]
  rfl

theorem SpeedKept.step (k : SpeedKept events w) (h : WaveSync.Step w e w')
    (htimes : ((events ++ [e]).filterMap sampleTime).Pairwise (· ≤ ·)) :
    SpeedKept (events ++ [e]) w' := by
  have hsnoc := burstStart_snoc events e
  have hmem {t : Int} (ht : t ∈ events.filterMap sampleTime) :
      t ∈ (events ++ [e]).filterMap sampleTime := by
    rw [List.filterMap_append]
    exact List.mem_append_left _ ht
  cases h with
  | speedReset =>
    exact ⟨fun _ => rfl, ⟨fun _ => hsnoc, fun _ => rfl⟩, fun hactive =>
      (k.started hactive).imp fun t ht => ⟨hmem ht.1, ht.2⟩, fun b hb => by rw [hsnoc] at hb; cases hb⟩
  | @sampled s d m h =>
    have hstarted {c' : DriftCorrector} (hactive : c'.speedActive = w.monitor.corrector.speedActive)
        (hstart : c'.speedStartedAtMs = w.monitor.corrector.speedStartedAtMs)
        (hon : c'.speedActive = true) :
        ∃ startedAt ∈ (events ++ [DriftEvent.sampled s d]).filterMap sampleTime,
          c'.speedStartedAtMs = some startedAt := by
      rw [hstart]
      exact (k.started (hactive ▸ hon)).imp fun t ht => ⟨hmem ht.1, ht.2⟩
    obtain ⟨rfl, rfl⟩ | ⟨rfl, hsame⟩ | ⟨a, rfl, -, hc⟩ := sample_cases h
    · have hkept : burstStart (events ++ [.sampled s .wait]) = burstStart events := hsnoc
      exact ⟨k.normal, by rw [hkept]; exact k.burst, hstarted rfl rfl, by rw [hkept]; exact k.before⟩
    · refine ⟨fun _ => rfl, ⟨fun _ => hsnoc, fun _ => rfl⟩, ?_, fun b hb => by rw [hsnoc] at hb; cases hb⟩
      exact hstarted (congrArg _ hsame) (congrArg _ hsame)
    have hnow : ∀ t ∈ events.filterMap sampleTime, t ≤ s.nowMs := by
      intro t ht
      rw [List.filterMap_append, List.pairwise_append] at htimes
      exact htimes.2.2 t ht s.nowMs List.mem_cons_self
    generalize hm : m.corrector = c' at hc
    cases hc with
    | ignore _ hactive _ _ _ hstart =>
      have hkept : burstStart (events ++ [.sampled s (.correct .none)]) = burstStart events := hsnoc
      refine ⟨?_, ?_, ?_, ?_⟩
      · show m.corrector.speedActive = false → w.speed = 1
        rw [hm, hactive]
        exact k.normal
      · rw [hkept]
        exact k.burst
      · show m.corrector.speedActive = true → ∃ startedAt ∈ _, m.corrector.speedStartedAtMs = _
        rw [hm]
        exact hstarted hactive hstart
      · show ∀ burst ∈ _, ∀ startedAt ∈ m.corrector.speedStartedAtMs, _
        rw [hkept, hm, hstart]
        exact k.before
    | stop _ hactive =>
      refine ⟨fun _ => rfl, ⟨fun _ => hsnoc, fun _ => rfl⟩, fun hon => ?_, fun b hb => ?_⟩
      · have hon : m.corrector.speedActive = true := hon
        rw [hm, hactive] at hon
        cases hon
      · rw [hsnoc] at hb
        cases hb
    | seek _ hactive =>
      refine ⟨fun _ => rfl, ⟨fun _ => hsnoc, fun _ => rfl⟩, fun hon => ?_, fun b hb => ?_⟩
      · have hon : m.corrector.speedActive = true := hon
        rw [hm, hactive] at hon
        cases hon
      · rw [hsnoc] at hb
        cases hb
    | steer next _ _ hactive _ _ _ hstart =>
      have hburst : burstStart (events ++ [.sampled s (.correct (.speed (multiplierOf next)))]) =
          (burstStart events).or (some s.nowMs) := hsnoc.trans (if_neg (multiplierOf_ne_one next))
      refine ⟨fun hoff => ?_, ⟨fun hone => ?_, fun hnone => ?_⟩, fun _ => ?_, ?_⟩
      · have hoff : m.corrector.speedActive = false := hoff
        rw [hm, hactive] at hoff
        cases hoff
      · exact absurd hone (multiplierOf_ne_one next)
      · rw [hburst] at hnone
        cases hb : burstStart events with
        | none =>
          rw [hb] at hnone
          cases hnone
        | some b =>
          rw [hb] at hnone
          cases hnone
      · show ∃ startedAt ∈ _, m.corrector.speedStartedAtMs = _
        rw [hm, hstart]
        split
        · next hon => exact (k.started hon).imp fun t ht => ⟨hmem ht.1, ht.2⟩
        · refine ⟨s.nowMs, ?_, rfl⟩
          rw [List.filterMap_append]
          exact List.mem_append_right _ List.mem_cons_self
      · show ∀ burst ∈ _, ∀ startedAt ∈ m.corrector.speedStartedAtMs, _
        rw [hburst, hm, hstart]
        intro burst hb startedAt hs
        cases hold : burstStart events with
        | some b =>
          -- the burst goes on
          rw [hold] at hb
          cases hb
          have hon : w.monitor.corrector.speedActive = true := by
            by_contra hoff
            rw [k.burst.mp (k.normal (eq_false_of_ne_true hoff))] at hold
            cases hold
          rw [if_pos hon] at hs
          exact k.before _ hold startedAt hs
        | none =>
          rw [hold] at hb
          cases hb
          split at hs
          · next hon =>
            obtain ⟨t, ht, hsome⟩ := k.started hon
            rw [hsome] at hs
            cases hs
            exact hnow _ ht
          · cases hs
            exact le_rfl

theorem speedKept (p : Path WaveSync.Step {} events w)
    (htimes : (events.filterMap sampleTime).Pairwise (· ≤ ·)) : SpeedKept events w := by
  have hstart : SpeedKept [] {} := ⟨fun _ => rfl, ⟨fun _ => rfl, fun _ => rfl⟩, nofun, nofun⟩
  refine Path.history (I := fun events w =>
    (events.filterMap sampleTime).Pairwise (· ≤ ·) → SpeedKept events w) ?_ p (fun _ => hstart) htimes
  intro events w e w' k h htimes
  refine (k ?_).step h htimes
  rw [List.filterMap_append] at htimes
  exact (List.pairwise_append.mp htimes).1

/-- A sample is answered, and five seconds after the start of a burst the speed is the normal one. -/
theorem SpeedKept.sample (k : SpeedKept events w) (s : DriftSample) :
    ∃ d m, w.monitor.sample s = some (d, m) ∧ (d ≠ .wait → ∀ burst ∈ burstStart events,
      5000 ≤ s.nowMs - burst → ({ w with monitor := m }.apply d).speed = 1) := by
  have hsome : (w.monitor.sample s).isSome = true := by
    unfold WaveDriftMonitor.sample
    split
    · rfl
    split
    · rfl
    dsimp only
    split
    · rfl
    rw [Option.isSome_map]
    unfold DriftCorrector.correct
    rw [Option.isSome_map]
    unfold DriftCorrector.expired
    split
    · next hon =>
      obtain ⟨t, -, ht⟩ := k.started hon
      rw [ht]
      rfl
    · rfl
  obtain ⟨⟨d, m⟩, h⟩ := Option.isSome_iff_exists.mp hsome
  refine ⟨d, m, h, fun hwait burst hb hlate => ?_⟩
  have hon : w.monitor.corrector.speedActive = true := by
    by_contra hoff
    rw [k.burst.mp (k.normal (eq_false_of_ne_true hoff))] at hb
    cases hb
  obtain ⟨startedAt, -, hstart⟩ := k.started hon
  have hle := k.before burst hb startedAt hstart
  obtain ⟨rfl, rfl⟩ | ⟨rfl, -⟩ | ⟨a, rfl, -, hc⟩ := sample_cases h
  · exact absurd rfl hwait
  · rfl
  cases hc with
  | ignore _ _ _ _ _ _ hopen =>
    have := hopen startedAt hstart hon
    omega
  | stop => rfl
  | seek => rfl
  | steer _ _ _ _ _ _ _ _ _ hopen =>
    have := hopen startedAt hstart hon
    omega

theorem corrected_of_mem (p : Path WaveSync.Step w events w') {s : DriftSample} {a : DriftAction}
    (h : .sampled s (.correct a) ∈ events) : Corrected s ∧ ∀ position, a = .seek position → 0 ≤ position := by
  induction p with
  | nil => exact absurd h List.not_mem_nil
  | cons hstep p ih =>
    rcases List.mem_cons.mp h with rfl | h
    · cases hstep with
      | sampled hsample =>
        obtain ⟨hd, -⟩ | ⟨hd, -⟩ | ⟨a', hd, hs, hc⟩ := sample_cases hsample
        · cases hd
        · cases hd
        cases hd
        refine ⟨hs, ?_⟩
        rintro position hseek
        cases hc with
        | ignore => cases hseek
        | stop => cases hseek
        | steer => cases hseek
        | seek =>
          cases hseek
          exact le_max_right _ _
    · exact ih h

/-- **Drift correction**: seeks are ten seconds apart and the turns of the speed six, the speed is
the normal one outside of a burst, which ends with the first sample that is taken five seconds after
it began, and only a sample near the expected position of a playback under way is corrected. -/
theorem drift_laws (p : Path WaveSync.Step {} events w)
    (htimes : (events.filterMap sampleTime).Pairwise (· ≤ ·)) :
    (events.filterMap seekTime).Pairwise (fun t t' => 10000 ≤ t' - t) ∧
    (turns events).Pairwise (fun t t' => 6000 ≤ t' - t) ∧
    (w.monitor.corrector.speedActive = false → w.speed = 1) ∧
    (w.speed = 1 ↔ burstStart events = none) ∧
    (∀ s, ∃ d m, w.monitor.sample s = some (d, m) ∧ (d ≠ .wait → ∀ burst ∈ burstStart events,
      5000 ≤ s.nowMs - burst → ({ w with monitor := m }.apply d).speed = 1)) ∧
    ∀ s a, .sampled s (.correct a) ∈ events →
      Corrected s ∧ ∀ position, a = .seek position → 0 ≤ position := by
  have hkept := speedKept p htimes
  exact ⟨(seeks_apart p).2, (turns_apart p (Or.inl rfl)).2, hkept.normal, hkept.burst, hkept.sample,
    fun _ _ => corrected_of_mem p⟩

end

/-! ## a turn after a command that went on -/

/-- A sample of a playback that began when the device was started. -/
def sampleAt (nowMs driftMs : Int) : DriftSample := ⟨nowMs, 0, 600000, nowMs + driftMs, true, false⟩

/-- A burst of speed, two seconds of the normal speed, and a burst in the other direction. -/
def turnedEvents : List DriftEvent :=
  [.sampled (sampleAt 10000 100) (.correct (.speed slower)), .sampled (sampleAt 12000 60) (.correct .none),
    .sampled (sampleAt 14000 100) (.correct (.speed slower)),
    .sampled (sampleAt 16000 0) (.correct (.speed 1)),
    .sampled (sampleAt 18000 (-100)) (.correct (.speed faster))]

/-- A path whose first sample is answered so. -/
theorem cons_sampled {w : WaveSync} {s : DriftSample} {d : WaveDriftDecision} (m : WaveDriftMonitor)
    {events : List DriftEvent} (h : w.monitor.sample s = some (d, m))
    (p : ∃ w', Path WaveSync.Step ({ w with monitor := m }.apply d) events w') :
    ∃ w', Path WaveSync.Step w (.sampled s d :: events) w' :=
  p.imp fun _ p => .cons (.sampled h) p

theorem turned_path : ∃ w, Path WaveSync.Step {} turnedEvents w := by
  refine cons_sampled ⟨⟨true, -2 ^ 62, 10000, -1, 1, 0, some 10000⟩, 10000⟩ rfl ?_
  refine cons_sampled ⟨⟨true, -2 ^ 62, 10000, -1, 0, 0, some 10000⟩, 12000⟩ rfl ?_
  refine cons_sampled ⟨⟨true, -2 ^ 62, 10000, -1, 1, 0, some 10000⟩, 14000⟩ rfl ?_
  refine cons_sampled ⟨⟨false, -2 ^ 62, 10000, -1, 1, 0, none⟩, 16000⟩ rfl ?_
  refine cons_sampled ⟨⟨true, -2 ^ 62, 18000, 1, 2, 0, some 18000⟩, 18000⟩ rfl ?_
  exact ⟨_, .nil _⟩

theorem drift_laws_turned : (turns turnedEvents).Pairwise fun t t' => 6000 ≤ t' - t := by
  obtain ⟨w, hpath⟩ := turned_path
  exact (drift_laws hpath (by decide)).2.1

/-- The last command of a direction does not delay a turn. -/
theorem commands_not_apart :
    ¬ ∀ events w, Path WaveSync.Step {} events w → (events.filterMap sampleTime).Pairwise (· ≤ ·) →
      (events.filterMap command).Pairwise fun c c' => c.2 ≠ c'.2 → 6000 ≤ c'.1 - c.1 := by
  intro h
  obtain ⟨w, hpath⟩ := turned_path
  have hpair := h _ _ hpath (by decide)
  have hcommands : turnedEvents.filterMap command = [(10000, slower), (14000, slower), (18000, faster)] := by
    decide +kernel
  rw [hcommands] at hpair
  have hgap := (List.pairwise_cons.mp (List.pairwise_cons.mp hpair).2).1 _ List.mem_cons_self
    (show slower ≠ faster by decide +kernel)
  exact absurd hgap (by decide)

end AutPlay.Client
