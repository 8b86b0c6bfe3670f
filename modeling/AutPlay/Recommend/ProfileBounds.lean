import AutPlay.Recommend.OrderFree
import Mathlib.Algebra.BigOperators.Ring.List
import Mathlib.Algebra.Order.BigOperators.Group.List
import Mathlib.Algebra.Order.AbsoluteValue.Basic
import Mathlib.Tactic.Linarith
import Mathlib.Data.Rat.BigOperators
import Mathlib.Data.Rat.Cast.Order

/-!
# Bounds of the taste profile

* `AdaptiveFeaturePolicy.Bounded`   weights, windows and caps as the policy has them;
* `groupMass_causalWeights`         a causal group weighs at most 1;
* `Tallied`                         what the accumulators of a dimension hold;
* `finishDimension_bounded`, `maturityOf_bounded`   the bounds of what is read off them;
* `temporal_profile_laws`           order, repetition, masses and bounds.
-/

set_option linter.unusedSectionVars false

namespace AutPlay.Recommend

open AutPlay.Sync (Uuid)

variable {K : Type} [Field K] [LinearOrder K]

/-- A power that decays: a share to a non-negative exponent. -/
structure DecayPower (K : Type) [Field K] [LinearOrder K] where
  pow : K → K → K
  decays : ∀ base exponent, 0 < base → base ≤ 1 → 0 ≤ exponent →
    0 < pow base exponent ∧ pow base exponent ≤ 1

/-- What the numbers of the policy are good for. -/
structure AdaptiveFeaturePolicy.Bounded (policy : AdaptiveFeaturePolicy K) : Prop where
  origins : ∀ lane, 0 ≤ policy.originWeights lane ∧ policy.originWeights lane ≤ 1
  views : ∀ horizon, 0 ≤ policy.activeViewWeights horizon
  windows : (.episode :: policy.horizonWindowMs.map Prod.fst).Nodup
  decay : 0 < policy.dailyFatigueDecay ∧ policy.dailyFatigueDecay ≤ 1
  terms : ∀ term ∈ policy.maturityTermWeights, 0 ≤ term.2
  termSum : (policy.maturityTermWeights.map Prod.snd).sum ≤ 1
  saturations : 0 < policy.effectiveMassSaturation ∧ 0 < policy.trackCoverageSaturation ∧
    0 < policy.artistCoverageSaturation ∧ 0 < policy.observationSpanSaturationMs ∧
    0 < policy.recencyHalfLifeMs
  plasticity : policy.minimumPlasticity ≤ policy.maximumPlasticity
  cap : 0 ≤ policy.totalAbsoluteCap

structure HorizonValue.Bounded (value : HorizonValue K) : Prop where
  score : -1 ≤ value.score ∧ value.score ≤ 1
  confidence : 0 ≤ value.confidence ∧ value.confidence ≤ 1

structure MaturityState.Bounded (policy : AdaptiveFeaturePolicy K) (maturity : MaturityState K) :
    Prop where
  score : 0 ≤ maturity.score ∧ maturity.score ≤ 1
  recency : 0 < maturity.recency ∧ maturity.recency ≤ 1
  consistency : 0 ≤ maturity.consistency ∧ maturity.consistency ≤ 1
  organicShare : 0 ≤ maturity.organicShare ∧ maturity.organicShare ≤ 1
  plasticity : policy.minimumPlasticity ≤ maturity.plasticityMultiplier ∧
    maturity.plasticityMultiplier ≤ policy.maximumPlasticity

structure AdaptiveDimensionState.Bounded (policy : AdaptiveFeaturePolicy K)
    (state : AdaptiveDimensionState K) : Prop where
  longTerm : state.longTerm.Bounded
  recent : ∀ entry ∈ state.recent, entry.2.Bounded
  persistence : 0 ≤ state.persistence ∧ state.persistence ≤ 1
  momentum : -1 ≤ state.momentum ∧ state.momentum ≤ 1
  fatigue : 0 ≤ state.fatigue ∧ state.fatigue ≤ 1
  recentAdjustment : |state.recentAdjustment| ≤ policy.totalAbsoluteCap

/-! ## masses of evidence -/

def massOf (weighted : List (WeightedEvidence K)) : K :=
  (weighted.map fun value => |value.signedMass|).sum

/-- The part of a causal group. -/
def ofGroup (key : CausalKey) (weighted : List (WeightedEvidence K)) : List (WeightedEvidence K) :=
  weighted.filter fun value => causalKey value.event = key

/-- The mass of a part of the evidence to which no causal group gives more than 1. -/
def DrawnFrom (weighted : List (WeightedEvidence K)) (mass : K) : Prop :=
  ∃ part : List (WeightedEvidence K), part.Sublist weighted ∧ mass = massOf part ∧
    ∀ key, massOf (ofGroup key part) ≤ 1

variable [IsStrictOrderedRing K]

theorem clamp_bounds {value lower upper : K} (h : lower ≤ upper) :
    lower ≤ clamp value lower upper ∧ clamp value lower upper ≤ upper :=
  ⟨le_min h (le_max_left _ _), min_le_left _ _⟩

theorem massOf_sublist {part weighted : List (WeightedEvidence K)} (h : part.Sublist weighted) :
    massOf part ≤ massOf weighted := by
  apply List.Sublist.sum_le_sum (h.map _)
  intro mass hm
  obtain ⟨value, -, rfl⟩ := List.mem_map.mp hm
  exact abs_nonneg _

theorem abs_signedMass_le {policy : AdaptiveFeaturePolicy K} (hp : policy.Bounded)
    (group : List (TemporalEvidence K)) (event : TemporalEvidence K) :
    |signedMass policy group event| ≤ |event.signedStrength| / denominator group := by
  have hd : 0 < denominator group := lt_of_lt_of_le one_pos (le_max_left _ _)
  obtain ⟨hlane, hlane1⟩ := hp.origins event.originLane
  unfold signedMass
  rw [abs_mul, abs_mul, abs_div, abs_of_pos hd, abs_of_nonneg event.quality_bounded.1,
    abs_of_nonneg hlane, mul_assoc]
  apply mul_le_of_le_one_right (div_nonneg (abs_nonneg _) hd.le)
  exact mul_le_one₀ event.quality_bounded.2 hlane hlane1

theorem sum_strengths_le_one (group : List (TemporalEvidence K)) :
    (group.map fun event => |event.signedStrength| / denominator group).sum ≤ 1 := by
  have hd : 0 < denominator group := lt_of_lt_of_le one_pos (le_max_left _ _)
  have hdiv : (group.map fun event => |event.signedStrength| / denominator group).sum =
      (group.map fun event => |event.signedStrength|).sum / denominator group := by
    simp only [div_eq_mul_inv, List.sum_map_mul_right]
  rw [hdiv, div_le_one hd]
  exact le_max_right _ _

/-- **Causal mass**: an impression, a listening event or a source event weighs at most 1. -/
theorem groupMass_causalWeights {policy : AdaptiveFeaturePolicy K} (hp : policy.Bounded)
    {cutoffAtMs interactionWatermark : Int} {evidence eligible : List (TemporalEvidence K)}
    (h : Eligible cutoffAtMs interactionWatermark evidence eligible) (key : CausalKey) :
    massOf (ofGroup key (causalWeights policy eligible)) ≤ 1 := by
  have hgroup : ofGroup key (causalWeights policy eligible) =
      (causalGroup eligible key).map fun event =>
        ⟨event, signedMass policy (causalGroup eligible key) event⟩ := by
    rw [causalWeights_eq policy h]
    unfold ofGroup causalGroup
    rw [List.filter_map]
    apply List.map_congr_left
    intro event he
    have hkey : causalKey event = key := of_decide_eq_true (List.mem_filter.mp he).2
    unfold weighIn causalGroup
    rw [hkey]
  unfold massOf
  rw [hgroup, List.map_map]
  refine le_trans (List.sum_le_sum fun event _ => ?_)
    (sum_strengths_le_one (causalGroup eligible key))
  exact abs_signedMass_le hp _ event

theorem drawnFrom_sublist {weighted part : List (WeightedEvidence K)}
    (hgroups : ∀ key, massOf (ofGroup key weighted) ≤ 1) (h : part.Sublist weighted) :
    DrawnFrom weighted (massOf part) :=
  ⟨part, h, rfl, fun key => le_trans (massOf_sublist (h.filter _)) (hgroups key)⟩

theorem massOf_append (weighted : List (WeightedEvidence K)) (value : WeightedEvidence K) :
    massOf (weighted ++ [value]) = massOf weighted + |value.signedMass| := by
  unfold massOf
  rw [List.map_append, List.sum_append, List.map_singleton, List.sum_singleton]

/-! ## accumulators -/

namespace Mass

structure Nonneg (mass : Mass K) : Prop where
  positive : 0 ≤ mass.positive
  negative : 0 ≤ mass.negative

theorem nonneg_zero : (Mass.zero : Mass K).Nonneg := ⟨le_refl _, le_refl _⟩

theorem total_zero : (Mass.zero : Mass K).total = 0 := add_zero 0

theorem nonneg_add {mass : Mass K} (h : mass.Nonneg) (value : K) : (mass.add value).Nonneg := by
  unfold add
  split
  · rename_i hv
    exact ⟨add_nonneg h.positive hv, h.negative⟩
  · rename_i hv
    exact ⟨h.positive, add_nonneg h.negative (neg_nonneg.mpr (not_le.mp hv).le)⟩

theorem total_add (mass : Mass K) (value : K) : (mass.add value).total = mass.total + |value| := by
  unfold add total
  split
  · rename_i hv
    rw [abs_of_nonneg hv]
    exact add_right_comm _ _ _
  · rename_i hv
    rw [abs_of_neg (not_le.mp hv)]
    exact (add_assoc _ _ _).symm

/-- The score is a share of what is on one side, the confidence of what is not contradicted. -/
theorem value_bounded {mass : Mass K} (h : mass.Nonneg) : mass.value.Bounded := by
  unfold value
  split
  · exact ⟨⟨neg_nonpos.mpr zero_le_one, zero_le_one⟩, ⟨le_refl _, zero_le_one⟩⟩
  · rename_i hz
    have hpos : 0 < mass.total :=
      lt_of_le_of_ne (add_nonneg h.positive h.negative) (Ne.symm hz)
    have hmin : 0 ≤ min mass.positive mass.negative := le_min h.positive h.negative
    have hmin2 : 2 * min mass.positive mass.negative ≤ mass.total := by
      have hl := min_le_left mass.positive mass.negative
      have hr := min_le_right mass.positive mass.negative
      unfold total
      linarith
    have hshare : 0 ≤ 2 * min mass.positive mass.negative / mass.total ∧
        2 * min mass.positive mass.negative / mass.total ≤ 1 :=
      ⟨div_nonneg (mul_nonneg zero_le_two hmin) hpos.le, (div_le_one hpos).mpr hmin2⟩
    have hbase : 0 ≤ mass.total / (mass.total + 1) ∧ mass.total / (mass.total + 1) ≤ 1 := by
      have hplus : 0 < mass.total + 1 := add_pos hpos one_pos
      refine ⟨div_nonneg hpos.le hplus.le, (div_le_one hplus).mpr ?_⟩
      exact le_add_of_nonneg_right zero_le_one
    constructor
    · constructor
      · rw [le_div_iff₀ hpos]
        unfold total
        linarith [h.positive]
      · rw [div_le_one hpos]
        unfold total
        linarith [h.negative]
    · constructor
      · exact mul_nonneg hbase.1 (sub_nonneg.mpr hshare.2)
      · exact mul_le_one₀ hbase.2 (sub_nonneg.mpr hshare.2) (sub_le_self _ hshare.1)

end Mass

theorem addHorizons_apply (horizons : Horizon → Mass K) (active : List Horizon)
    (hn : active.Nodup) (mass : K) (horizon : Horizon) :
    addHorizons horizons active mass horizon =
      if horizon ∈ active then (horizons horizon).add mass else horizons horizon := by
  unfold addHorizons
  induction active generalizing horizons with
  | nil => rfl
  | cons first rest ih =>
    obtain ⟨hfirst, hrest⟩ := List.nodup_cons.mp hn
    rw [List.foldl_cons, ih _ hrest]
    by_cases heq : horizon = first
    · rw [heq, if_neg hfirst, if_pos rfl, if_pos List.mem_cons_self]
    · rw [if_neg heq]
      simp only [List.mem_cons, heq, false_or]

theorem total_foldl_add (values : List K) (mass : Mass K) :
    (values.foldl Mass.add mass).total = mass.total + (values.map fun value => |value|).sum := by
  induction values generalizing mass with
  | nil => simp
  | cons value values ih =>
    rw [List.foldl_cons, ih, Mass.total_add, List.map_cons, List.sum_cons, add_assoc]

theorem nonneg_foldl_add (values : List K) {mass : Mass K} (h : mass.Nonneg) :
    (values.foldl Mass.add mass).Nonneg := by
  induction values generalizing mass with
  | nil => exact h
  | cons value values ih => exact ih (Mass.nonneg_add h value)

/-! ## one dimension -/

/-- The weight that the active views share out. -/
def viewWeight (policy : AdaptiveFeaturePolicy K) (active : List Horizon) : K :=
  ((keysInOrder active).map policy.activeViewWeights).sum

theorem normalizedViewCoefficients_eq (policy : AdaptiveFeaturePolicy K) (active : List Horizon) :
    normalizedViewCoefficients policy active =
      if viewWeight policy active ≤ 0 then []
      else (keysInOrder active).map fun horizon =>
        policy.activeViewWeights horizon / viewWeight policy active := rfl

theorem sum_abs_coefficients {policy : AdaptiveFeaturePolicy K} (hp : policy.Bounded)
    (active : List Horizon) :
    ((normalizedViewCoefficients policy active).map fun coefficient => |coefficient|).sum =
      if 0 < viewWeight policy active then 1 else 0 := by
  rw [normalizedViewCoefficients_eq]
  by_cases hw : 0 < viewWeight policy active
  · rw [if_neg (not_le.mpr hw), if_pos hw, List.map_map]
    have habs : ∀ horizon ∈ keysInOrder active,
        ((fun coefficient : K => |coefficient|) ∘ fun horizon =>
          policy.activeViewWeights horizon / viewWeight policy active) horizon =
        policy.activeViewWeights horizon * (viewWeight policy active)⁻¹ := by
      intro horizon _
      rw [← div_eq_mul_inv]
      exact abs_of_nonneg (div_nonneg (hp.views horizon) hw.le)
    rw [List.map_congr_left habs, List.sum_map_mul_right]
    exact mul_inv_cancel₀ hw.ne'
  · rw [if_pos (not_lt.mp hw), if_neg hw]
    rfl

section tally
variable {power : DecayPower K} {policy : AdaptiveFeaturePolicy K} {episodeIds : List Uuid}
  {cutoffAtMs : Int}

theorem nodup_activeViews (hp : policy.Bounded) (event : TemporalEvidence K) :
    (activeViews policy episodeIds cutoffAtMs event).Nodup := by
  have hsub : (activeViews policy episodeIds cutoffAtMs event).Sublist
      (.episode :: policy.horizonWindowMs.map Prod.fst) := by
    unfold activeViews
    split
    · exact List.nil_sublist _
    · split
      · exact (List.filter_sublist.map _).cons_cons _
      · exact (List.filter_sublist.map _).cons _
  exact hp.windows.sublist hsub

/-- What the accumulators hold of the evidence behind them. -/
structure Tallied (policy : AdaptiveFeaturePolicy K) (episodeIds : List Uuid) (cutoffAtMs : Int)
    (behind : List (WeightedEvidence K)) (state : Projection K) : Prop where
  longTerm : state.longTerm.Nonneg
  longTermTotal : state.longTerm.total =
    massOf (behind.filter fun value => value.event.signal ∈ durableSignals)
  horizons : ∀ horizon, (state.horizons horizon).Nonneg
  horizonTotal : ∀ horizon, (state.horizons horizon).total = massOf (behind.filter fun value =>
    horizon ∈ activeViews policy episodeIds cutoffAtMs value.event)
  fused : state.fused.Nonneg
  fusedTotal : state.fused.total = massOf (behind.filter fun value =>
    0 < viewWeight policy (activeViews policy episodeIds cutoffAtMs value.event))

theorem massOf_filter_append (keep : WeightedEvidence K → Bool)
    (behind : List (WeightedEvidence K)) (value : WeightedEvidence K) :
    massOf ((behind ++ [value]).filter keep) =
      if keep value = true then massOf (behind.filter keep) + |value.signedMass|
      else massOf (behind.filter keep) := by
  rw [List.filter_append, List.filter_singleton]
  cases keep value with
  | true => exact massOf_append _ _
  | false => exact congrArg massOf (List.append_nil _)

/-- An event goes whole into the masses that take it, and into the fused one by its coefficients,
which sum to one. -/
theorem tallied_project (hp : policy.Bounded) {behind : List (WeightedEvidence K)}
    {state : Projection K} (h : Tallied policy episodeIds cutoffAtMs behind state)
    (value : WeightedEvidence K) :
    Tallied policy episodeIds cutoffAtMs (behind ++ [value])
      (project power.pow policy episodeIds cutoffAtMs state value) := by
  have hfused : (project power.pow policy episodeIds cutoffAtMs state value).fused =
      ((normalizedViewCoefficients policy (activeViews policy episodeIds cutoffAtMs value.event)).map
        fun coefficient => value.signedMass * coefficient).foldl Mass.add state.fused :=
    List.foldl_map.symm
  have hhorizon : ∀ horizon,
      (project power.pow policy episodeIds cutoffAtMs state value).horizons horizon =
        if horizon ∈ activeViews policy episodeIds cutoffAtMs value.event then
          (state.horizons horizon).add value.signedMass
        else state.horizons horizon :=
    addHorizons_apply state.horizons _ (nodup_activeViews hp value.event) value.signedMass
  constructor
  · unfold project
    dsimp only
    split
    · exact Mass.nonneg_add h.longTerm _
    · exact h.longTerm
  · rw [massOf_filter_append, ← h.longTermTotal]
    unfold project
    dsimp only
    simp only [decide_eq_true_eq]
    split
    · exact Mass.total_add _ _
    · rfl
  · intro horizon
    rw [hhorizon]
    split
    · exact Mass.nonneg_add (h.horizons horizon) _
    · exact h.horizons horizon
  · intro horizon
    rw [hhorizon, massOf_filter_append, ← h.horizonTotal]
    simp only [decide_eq_true_eq]
    split
    · exact Mass.total_add _ _
    · rfl
  · rw [hfused]
    exact nonneg_foldl_add _ h.fused
  · rw [hfused, total_foldl_add, massOf_filter_append, ← h.fusedTotal, List.map_map]
    have hcoefficients : (((normalizedViewCoefficients policy
        (activeViews policy episodeIds cutoffAtMs value.event)).map
          ((fun mass => |mass|) ∘ fun coefficient => value.signedMass * coefficient)).sum) =
        |value.signedMass| * if 0 < viewWeight policy
          (activeViews policy episodeIds cutoffAtMs value.event) then 1 else 0 := by
      rw [← sum_abs_coefficients hp, ← List.sum_map_mul_left]
      exact congrArg List.sum (List.map_congr_left fun coefficient _ => abs_mul _ _)
    rw [hcoefficients]
    simp only [decide_eq_true_eq]
    split
    · rw [mul_one]
    · rw [mul_zero, add_zero]

theorem tallied_foldl (hp : policy.Bounded) (weighted : List (WeightedEvidence K))
    {behind : List (WeightedEvidence K)} {state : Projection K}
    (h : Tallied policy episodeIds cutoffAtMs behind state) :
    Tallied policy episodeIds cutoffAtMs (behind ++ weighted)
      (weighted.foldl (project power.pow policy episodeIds cutoffAtMs) state) := by
  induction weighted generalizing behind state with
  | nil =>
    rw [List.append_nil]
    exact h
  | cons value rest ih =>
    rw [List.foldl_cons, List.append_cons]
    exact ih (tallied_project hp h value)

/-- A dimension is finished from accumulators that hold its evidence. -/
theorem projectDimension_tallied (power : DecayPower K) (hp : policy.Bounded) (plasticity : K)
    (dimension : TemporalDimension) (weighted : List (WeightedEvidence K)) :
    ∃ state, projectDimension power.pow policy episodeIds cutoffAtMs plasticity dimension weighted =
        finishDimension power.pow policy cutoffAtMs plasticity dimension state ∧
      Tallied policy episodeIds cutoffAtMs weighted state := by
  refine ⟨_, rfl, tallied_foldl hp weighted (?_ : Tallied policy episodeIds cutoffAtMs [] _)⟩
  exact ⟨Mass.nonneg_zero, Mass.total_zero, fun _ => Mass.nonneg_zero, fun _ => Mass.total_zero,
    Mass.nonneg_zero, Mass.total_zero⟩

end tally

theorem abs_sum_le (values : List K) : |values.sum| ≤ (values.map fun value => |value|).sum := by
  induction values with
  | nil => exact abs_zero.le
  | cons value values ih =>
    rw [List.sum_cons, List.map_cons, List.sum_cons]
    exact le_trans (abs_add_le _ _) (by gcongr)

theorem abs_sum_scaled {cap : K} (hcap : 0 ≤ cap) (values : List K) :
    |(if cap < (values.map fun value => |value|).sum then
        values.map fun value => value * (cap / (values.map fun value => |value|).sum)
      else values).sum| ≤ cap := by
  split
  · rename_i habove
    have hpos : 0 < (values.map fun value => |value|).sum := lt_of_le_of_lt hcap habove
    rw [List.sum_map_mul_right, List.map_id', abs_mul, abs_of_nonneg (div_nonneg hcap hpos.le),
      ← mul_div_assoc, div_le_iff₀ hpos, mul_comm]
    exact mul_le_mul_of_nonneg_left (abs_sum_le values) hcap
  · rename_i hwithin
    exact le_trans (abs_sum_le values) (not_lt.mp hwithin)

theorem abs_clamp_le (value : K) : |clamp value (-1) 1| ≤ |value| := by
  unfold clamp
  rw [abs_le]
  constructor
  · apply le_min
    · exact le_trans (neg_nonpos.mpr (abs_nonneg _)) zero_le_one
    · exact le_trans (neg_abs_le _) (le_max_right _ _)
  · rcases le_total (-1) value with hv | hv
    · rw [max_eq_right hv]
      exact le_trans (min_le_right _ _) (le_abs_self _)
    · rw [max_eq_left hv]
      refine le_trans (min_le_right _ _) (le_trans ?_ (abs_nonneg value))
      exact neg_nonpos.mpr zero_le_one

theorem finishDimension_bounded {power : DecayPower K} {policy : AdaptiveFeaturePolicy K}
    (hp : policy.Bounded) {episodeIds : List Uuid} {cutoffAtMs : Int} (plasticity : K)
    (dimension : TemporalDimension) {weighted : List (WeightedEvidence K)} {state : Projection K}
    (h : Tallied policy episodeIds cutoffAtMs weighted state) :
    (finishDimension power.pow policy cutoffAtMs plasticity dimension state).Bounded policy := by
  constructor
  · exact Mass.value_bounded h.longTerm
  · intro entry he
    obtain ⟨horizon, -, rfl⟩ := List.mem_map.mp he
    exact Mass.value_bounded (h.horizons horizon)
  · exact clamp_bounds zero_le_one
  · exact clamp_bounds (le_trans (neg_nonpos.mpr zero_le_one) zero_le_one)
  · exact clamp_bounds zero_le_one
  · exact le_trans (abs_clamp_le _) (abs_sum_scaled hp.cap _)

/-! ## maturity -/

theorem share_bounds {weight component : K} (hw : 0 ≤ weight)
    (hc : 0 ≤ component ∧ component ≤ 1) :
    0 ≤ weight * component ∧ weight * component ≤ weight :=
  ⟨mul_nonneg hw hc.1, mul_le_of_le_one_right hw hc.2⟩

theorem sum_shares {κ : Type} (terms : List (κ × K)) (share : κ × K → K)
    (h : ∀ term ∈ terms, 0 ≤ share term ∧ share term ≤ term.2) :
    0 ≤ (terms.map share).sum ∧ (terms.map share).sum ≤ (terms.map Prod.snd).sum := by
  constructor
  · apply List.sum_nonneg
    intro value hv
    obtain ⟨term, ht, rfl⟩ := List.mem_map.mp hv
    exact (h term ht).1
  · exact List.sum_le_sum fun term ht => (h term ht).2

theorem maturityFromObservation_bounded (power : DecayPower K) {policy : AdaptiveFeaturePolicy K}
    (hp : policy.Bounded) (effectiveSignalMass : K) (trackCoverage artistCoverage : Nat)
    (observationSpanMs : Int) {recencyAgeMs : Int} (hage : 0 ≤ recencyAgeMs)
    (consistency organicShare : K) :
    (maturityFromObservation power.pow policy effectiveSignalMass trackCoverage artistCoverage
      observationSpanMs recencyAgeMs consistency organicShare).Bounded policy := by
  have hrecency := power.decays (1 / 2) ((recencyAgeMs : K) / policy.recencyHalfLifeMs)
    one_half_pos one_half_lt_one.le
    (div_nonneg (Int.cast_nonneg hage) hp.saturations.2.2.2.2.le)
  have hscore : 0 ≤ (maturityFromObservation power.pow policy effectiveSignalMass trackCoverage
      artistCoverage observationSpanMs recencyAgeMs consistency organicShare).score ∧
      (maturityFromObservation power.pow policy effectiveSignalMass trackCoverage artistCoverage
        observationSpanMs recencyAgeMs consistency organicShare).score ≤ 1 := by
    have hshares : ∀ term ∈ policy.maturityTermWeights, ∀ component : K,
        0 ≤ component ∧ component ≤ 1 → 0 ≤ term.2 * component ∧ term.2 * component ≤ term.2 :=
      fun term ht _ hc => share_bounds (hp.terms term ht) hc
    refine (sum_shares policy.maturityTermWeights _ ?_).imp_right fun h => le_trans h hp.termSum
    rintro ⟨key, weight⟩ ht
    apply hshares _ ht
    cases key with
    | effectiveSignalMass => exact clamp_bounds zero_le_one
    | trackAndArtistCoverage =>
      have hclamp : ∀ value : K, 0 ≤ clamp value 0 1 ∧ clamp value 0 1 ≤ 1 :=
        fun _ => clamp_bounds zero_le_one
      have htrack := hclamp (trackCoverage / policy.trackCoverageSaturation)
      have hartist := hclamp (artistCoverage / policy.artistCoverageSaturation)
      constructor
      · exact div_nonneg (add_nonneg htrack.1 hartist.1) zero_le_two
      · refine (div_le_one zero_lt_two).mpr ?_
        linarith [htrack.2, hartist.2]
    | observationSpan => exact clamp_bounds zero_le_one
    | recency => exact ⟨hrecency.1.le, hrecency.2⟩
    | consistency => exact clamp_bounds zero_le_one
    | organicShare => exact clamp_bounds zero_le_one
  have hrange := sub_nonneg.mpr hp.plasticity
  refine ⟨hscore, hrecency, clamp_bounds zero_le_one, clamp_bounds zero_le_one, ?_, ?_⟩
  · have hmost := mul_le_of_le_one_left hrange hscore.2
    exact le_sub_comm.mp hmost
  · exact sub_le_self _ (mul_nonneg hscore.1 hrange)

theorem maturityOf_bounded (power : DecayPower K) {policy : AdaptiveFeaturePolicy K}
    (hp : policy.Bounded) (cutoffAtMs : Int) (weighted : List (WeightedEvidence K)) :
    (maturityOf power.pow policy cutoffAtMs weighted).Bounded policy :=
  maturityFromObservation_bounded power hp _ _ _ _ (le_max_left _ _) _ _

/-! ## the policy of the repository -/

/-- A policy with its numbers in another field. -/
def AdaptiveFeaturePolicy.cast (policy : AdaptiveFeaturePolicy ℚ) : AdaptiveFeaturePolicy K :=
  { key := policy.key
    version := policy.version
    contentSha256 := policy.contentSha256
    episodeInactivityGapMs := policy.episodeInactivityGapMs
    activeViewWeights := fun horizon => (policy.activeViewWeights horizon : K)
    horizonWindowMs := policy.horizonWindowMs
    originWeights := fun lane => (policy.originWeights lane : K)
    dailyFatigueDecay := policy.dailyFatigueDecay
    skipGain := policy.skipGain
    completionRecovery := policy.completionRecovery
    maturityTermWeights := policy.maturityTermWeights.map fun term => (term.1, (term.2 : K))
    effectiveMassSaturation := policy.effectiveMassSaturation
    trackCoverageSaturation := policy.trackCoverageSaturation
    artistCoverageSaturation := policy.artistCoverageSaturation
    observationSpanSaturationMs := policy.observationSpanSaturationMs
    recencyHalfLifeMs := policy.recencyHalfLifeMs
    minimumPlasticity := policy.minimumPlasticity
    maximumPlasticity := policy.maximumPlasticity
    recentInterestCap := policy.recentInterestCap
    momentumCap := policy.momentumCap
    fatigueCap := policy.fatigueCap
    totalAbsoluteCap := policy.totalAbsoluteCap }

theorem AdaptiveFeaturePolicy.Bounded.cast {policy : AdaptiveFeaturePolicy ℚ}
    (h : policy.Bounded) : (policy.cast : AdaptiveFeaturePolicy K).Bounded := by
  have hcast : ∀ {q : ℚ}, q ≤ 1 → (q : K) ≤ 1 := fun hq => by exact_mod_cast hq
  obtain ⟨hmass, htrack, hartist, hspan, hlife⟩ := h.saturations
  constructor
  · exact fun lane => ⟨Rat.cast_nonneg.mpr (h.origins lane).1, hcast (h.origins lane).2⟩
  · exact fun horizon => Rat.cast_nonneg.mpr (h.views horizon)
  · exact h.windows
  · exact ⟨Rat.cast_pos.mpr h.decay.1, hcast h.decay.2⟩
  · intro term ht
    obtain ⟨term, hm, rfl⟩ := List.mem_map.mp ht
    exact Rat.cast_nonneg.mpr (h.terms term hm)
  · have hsum := hcast h.termSum
    rw [Rat.cast_list_sum, List.map_map] at hsum
    show ((policy.maturityTermWeights.map fun term => (term.1, (term.2 : K))).map Prod.snd).sum ≤ 1
    rw [List.map_map]
    exact hsum
  · exact ⟨Rat.cast_pos.mpr hmass, Rat.cast_pos.mpr htrack, Rat.cast_pos.mpr hartist,
      Rat.cast_pos.mpr hspan, Rat.cast_pos.mpr hlife⟩
  · exact Rat.cast_le.mpr h.plasticity
  · exact Rat.cast_nonneg.mpr h.cap

theorem defaultPolicy_bounded : defaultPolicy.Bounded where
  origins lane := by cases lane <;> decide +kernel
  views horizon := by cases horizon <;> decide +kernel
  windows := by decide +kernel
  decay := by decide +kernel
  terms := by decide +kernel
  termSum := by decide +kernel
  saturations := by decide +kernel
  plasticity := by decide +kernel
  cap := by decide +kernel

/-! ## the profile -/

section profile
variable {power : DecayPower K} {policy : AdaptiveFeaturePolicy K} {ownerUserId : Uuid}
  {cutoffAtMs interactionWatermark : Int} {evidence eligible : List (TemporalEvidence K)}
  {profile : AdaptiveProfile K}

theorem dimensionEvents_sublist (weighted : List (WeightedEvidence K))
    (dimension : TemporalDimension) : (dimensionEvents weighted dimension).Sublist weighted :=
  List.filter_sublist.trans List.filter_sublist

/-- The masses that a dimension is finished from. -/
structure DrawnDimension (pow : K → K → K) (policy : AdaptiveFeaturePolicy K) (cutoffAtMs : Int)
    (plasticity : K) (weighted : List (WeightedEvidence K)) (state : AdaptiveDimensionState K)
    (masses : Projection K) : Prop where
  finished : state = finishDimension pow policy cutoffAtMs plasticity state.dimension masses
  longTerm : DrawnFrom weighted masses.longTerm.total
  horizons : ∀ horizon, DrawnFrom weighted (masses.horizons horizon).total
  fused : DrawnFrom weighted masses.fused.total

theorem projectDimension_laws (hp : policy.Bounded) (episodeIds : List Uuid) (plasticity : K)
    (dimension : TemporalDimension) {weighted : List (WeightedEvidence K)}
    (hgroups : ∀ key, massOf (ofGroup key weighted) ≤ 1) {state : AdaptiveDimensionState K}
    (hstate : projectDimension power.pow policy episodeIds cutoffAtMs plasticity dimension
      (dimensionEvents weighted dimension) = state) :
    state.Bounded policy ∧
      ∃ masses, DrawnDimension power.pow policy cutoffAtMs plasticity weighted state masses := by
  obtain ⟨masses, hfinish, htally⟩ := projectDimension_tallied power hp plasticity dimension
    (dimensionEvents weighted dimension)
  rw [hfinish] at hstate
  have hdrawn : ∀ keep : WeightedEvidence K → Bool,
      DrawnFrom weighted (massOf ((dimensionEvents weighted dimension).filter keep)) := fun keep =>
    drawnFrom_sublist hgroups (List.filter_sublist.trans (dimensionEvents_sublist _ _))
  rw [← hstate]
  refine ⟨finishDimension_bounded hp plasticity dimension htally, masses, rfl, ?_, ?_, ?_⟩
  · rw [htally.longTermTotal]
    exact hdrawn _
  · intro horizon
    rw [htally.horizonTotal]
    exact hdrawn _
  · rw [htally.fusedTotal]
    exact hdrawn _

theorem maturityOf_drawn {weighted : List (WeightedEvidence K)}
    (hgroups : ∀ key, massOf (ofGroup key weighted) ≤ 1) :
    DrawnFrom weighted (maturityOf power.pow policy cutoffAtMs weighted).effectiveSignalMass :=
  drawnFrom_sublist hgroups (List.filter_sublist.trans List.filter_sublist)

/-- **The temporal profile**: it is that of the set of the evidence, no causal group moves it by more
than a mass of 1, and its values are bounded, under the policy of the repository and every other with
such weights. -/
theorem temporal_profile_laws (power : DecayPower K) :
    (∀ (policy : AdaptiveFeaturePolicy K) (ownerUserId : Uuid)
      (cutoffAtMs interactionWatermark : Int) (evidence evidence' : List (TemporalEvidence K))
      (profile : AdaptiveProfile K),
      projectTemporalProfile power.pow policy ownerUserId cutoffAtMs interactionWatermark evidence =
        .ok profile →
      (∀ event, event ∈ evidence' ↔ event ∈ evidence) → evidence'.length ≤ 10000 →
      projectTemporalProfile power.pow policy ownerUserId cutoffAtMs interactionWatermark
        evidence' = .ok profile) ∧
    (defaultPolicy.cast : AdaptiveFeaturePolicy K).Bounded ∧
    ∀ (policy : AdaptiveFeaturePolicy K), policy.Bounded → ∀ (ownerUserId : Uuid)
      (cutoffAtMs interactionWatermark : Int) (evidence : List (TemporalEvidence K))
      (profile : AdaptiveProfile K),
      projectTemporalProfile power.pow policy ownerUserId cutoffAtMs interactionWatermark evidence =
        .ok profile →
      profile.maturity.Bounded policy ∧
      (∀ state ∈ profile.dimensions, state.Bounded policy) ∧
      ∃ eligible, eligibleDeduplicated ownerUserId cutoffAtMs interactionWatermark evidence =
          .ok eligible ∧
        (∀ key, massOf (ofGroup key (causalWeights policy eligible)) ≤ 1) ∧
        DrawnFrom (causalWeights policy eligible) profile.maturity.effectiveSignalMass ∧
        ∀ state ∈ profile.dimensions, ∃ masses, DrawnDimension power.pow policy cutoffAtMs
          profile.maturity.plasticityMultiplier (causalWeights policy eligible) state masses := by
  refine ⟨?_, defaultPolicy_bounded.cast, ?_⟩
  · intro policy ownerUserId cutoffAtMs interactionWatermark evidence evidence' profile hok same limit
    exact project_congr same limit hok
  · intro policy hp ownerUserId cutoffAtMs interactionWatermark evidence profile hok
    obtain ⟨eligible, heligible, hmaturity, hdimensions⟩ := project_ok hok
    have hgroups := groupMass_causalWeights hp (eligible_spec heligible)
    have hstates : ∀ state ∈ profile.dimensions, state.Bounded policy ∧
        ∃ masses, DrawnDimension power.pow policy cutoffAtMs profile.maturity.plasticityMultiplier
          (causalWeights policy eligible) state masses := by
      intro state hs
      rw [hdimensions] at hs
      obtain ⟨dimension, -, hstate⟩ := List.mem_map.mp hs
      exact projectDimension_laws hp _ _ dimension hgroups hstate
    refine ⟨?_, fun state hs => (hstates state hs).1, eligible, heligible, hgroups, ?_,
      fun state hs => (hstates state hs).2⟩
    · rw [hmaturity]
      exact maturityOf_bounded power hp cutoffAtMs _
    · rw [hmaturity]
      exact maturityOf_drawn hgroups

end profile

/-- Two listens at the cutoff, where every exponent is zero. -/
def listensNow : List (TemporalEvidence ℚ) :=
  [listen earlyId 2400000 1 false, listen lateId 2400000 3 false]

def decayOfZero : DecayPower ℚ where
  pow := powerOfZero
  decays base exponent hpos hle _ := by
    unfold powerOfZero
    split
    · exact ⟨one_pos, le_refl _⟩
    · exact ⟨hpos, hle⟩

theorem temporal_profile_laws_two_listens : ∃ profile,
    projectTemporalProfile decayOfZero.pow (defaultPolicy.cast : AdaptiveFeaturePolicy ℚ)
      profileOwner 2400000 10 listensNow = .ok profile ∧
    projectTemporalProfile decayOfZero.pow defaultPolicy.cast profileOwner 2400000 10
      (listensNow.reverse ++ listensNow) = .ok profile ∧
    profile.maturity.Bounded defaultPolicy.cast := by
  obtain ⟨profile, hok⟩ := exists_ok (show (projectTemporalProfile decayOfZero.pow
    (defaultPolicy.cast : AdaptiveFeaturePolicy ℚ) profileOwner 2400000 10 listensNow).isOk = true by
      decide +kernel)
  have hlaws := temporal_profile_laws decayOfZero
  refine ⟨profile, hok, ?_, ?_⟩
  · apply hlaws.1 _ _ _ _ _ _ _ hok
    · intro event
      rw [List.mem_append, List.mem_reverse, or_self]
    · decide
  · exact (hlaws.2.2 _ hlaws.2.1 _ _ _ _ _ hok).1

end AutPlay.Recommend
