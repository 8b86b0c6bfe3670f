import AutPlay.Recommend.Temporal
import Mathlib.Data.List.Dedup
import Mathlib.Algebra.BigOperators.Group.List.Basic
import Mathlib.Algebra.Field.Rat
import Mathlib.Algebra.Order.Ring.Rat

/-!
# What excluded evidence does to the taste profile

Excluded evidence is left out of every dimension and of the maturity, but it stands in the causal
groups and in the running episode.

* `eligible_spec`, `causalWeights_eq`, `mem_currentEpisodeIds`   what each pass computes;
* `Traceless`                 the excluded evidence moves no denominator and no episode;
* `excluded_without_trace`    then the profile is the one without it;
* `excluded_bridges_episode`  otherwise it may not be.
-/

set_option linter.unusedSectionVars false

namespace AutPlay.Recommend

open AutPlay.Sync (Uuid)
open AutPlay.Lib

variable {K : Type} [Field K] [LinearOrder K]

/-! ## eligible evidence -/

/-- What the loop has gathered. -/
structure SeenOk (events : List (TemporalEvidence K)) (seen : Seen K) : Prop where
  mem : ∀ event, event ∈ seen.byId ↔ event ∈ events
  ids : (seen.byId.map TemporalEvidence.evidenceId).Nodup

theorem see_ok {ownerUserId : Uuid} {events : List (TemporalEvidence K)} {seen seen' : Seen K}
    {event : TemporalEvidence K} (h : SeenOk events seen)
    (hs : see ownerUserId seen event = .ok seen') : SeenOk (events ++ [event]) seen' := by
  unfold see at hs
  split at hs
  · cases hs
  · dsimp only at hs
    split at hs
    · cases hs
    · split at hs
      · cases hs
      · rename_i hprior
        cases hs
        have hprior := not_not.mp hprior
        unfold setDefaultEvent at hprior ⊢
        cases hf : seen.byId.find? fun prior => prior.evidenceId = event.evidenceId with
        | some prior =>
          rw [hf] at hprior
          have hpe : prior = event := hprior
          have hold : event ∈ events := (h.mem event).mp (hpe ▸ List.mem_of_find?_eq_some hf)
          refine ⟨?_, h.ids⟩
          intro other
          show other ∈ seen.byId ↔ _
          rw [h.mem, List.mem_append, List.mem_singleton]
          constructor
          · exact Or.inl
          · rintro (ho | rfl)
            · exact ho
            · exact hold
        | none =>
          constructor
          · intro other
            show other ∈ seen.byId ++ [event] ↔ _
            rw [List.mem_append, List.mem_append, h.mem]
          · show ((seen.byId ++ [event]).map TemporalEvidence.evidenceId).Nodup
            rw [List.map_append, List.nodup_append]
            refine ⟨h.ids, List.nodup_singleton _, ?_⟩
            intro a ha b hb hab
            obtain ⟨prior, hp, rfl⟩ := List.mem_map.mp ha
            rw [List.map_singleton, List.mem_singleton] at hb
            have hno := List.find?_eq_none.mp hf prior hp
            rw [hab, hb] at hno
            exact hno (decide_eq_true rfl)

theorem foldlM_see {ownerUserId : Uuid} (more : List (TemporalEvidence K))
    {events : List (TemporalEvidence K)} {seen seen' : Seen K} (h : SeenOk events seen)
    (hs : more.foldlM (see ownerUserId) seen = .ok seen') : SeenOk (events ++ more) seen' := by
  induction more generalizing events seen with
  | nil =>
    cases hs
    rw [List.append_nil]
    exact h
  | cons event more ih =>
    rw [List.foldlM_cons] at hs
    cases hsee : see ownerUserId seen event with
    | error e =>
      rw [hsee] at hs
      cases hs
    | ok next =>
      rw [hsee] at hs
      have hnext := ih (see_ok h hsee) hs
      rw [List.append_assoc] at hnext
      exact hnext

instance : Std.Total (evidenceBefore (K := K)) where
  total a b := le_total (evidenceKey a) (evidenceKey b)

instance : IsTrans (TemporalEvidence K) evidenceBefore where
  trans a _ c hab hbc := show evidenceKey a ≤ evidenceKey c from le_trans hab hbc

theorem evidenceId_of_key {a b : TemporalEvidence K} (h : evidenceKey a = evidenceKey b) :
    a.evidenceId = b.evidenceId := by
  unfold evidenceKey at h
  simp only [EmbeddingLike.apply_eq_iff_eq, Prod.mk.injEq] at h
  exact h.2.2.2

/-- The passes after the first work on sorted, distinct evidence. -/
structure Eligible (cutoffAtMs interactionWatermark : Int) (evidence : List (TemporalEvidence K))
    (eligible : List (TemporalEvidence K)) : Prop where
  mem : ∀ event, event ∈ eligible ↔
    event ∈ evidence ∧ selected cutoffAtMs interactionWatermark event = true
  ids : (eligible.map TemporalEvidence.evidenceId).Nodup
  sorted : eligible.Pairwise evidenceBefore

theorem eligible_spec {ownerUserId : Uuid} {cutoffAtMs interactionWatermark : Int}
    {evidence eligible : List (TemporalEvidence K)}
    (h : eligibleDeduplicated ownerUserId cutoffAtMs interactionWatermark evidence = .ok eligible) :
    Eligible cutoffAtMs interactionWatermark evidence eligible := by
  unfold eligibleDeduplicated at h
  cases hs : evidence.foldlM (see ownerUserId) (⟨[], []⟩ : Seen K) with
  | error e =>
    rw [hs] at h
    cases h
  | ok seen =>
    rw [hs] at h
    cases h
    have hnil : SeenOk ([] : List (TemporalEvidence K)) ⟨[], []⟩ :=
      ⟨fun _ => Iff.rfl, List.nodup_nil⟩
    have hseen := foldlM_see evidence hnil hs
    rw [List.nil_append] at hseen
    have hperm := List.perm_insertionSort evidenceBefore
      (seen.byId.filter (selected cutoffAtMs interactionWatermark))
    constructor
    · intro event
      rw [List.mem_insertionSort, List.mem_filter, hseen.mem]
    · rw [(hperm.map TemporalEvidence.evidenceId).nodup_iff]
      exact hseen.ids.sublist (List.filter_sublist.map _)
    · exact List.pairwise_insertionSort _ _

namespace Eligible
variable {cutoffAtMs interactionWatermark : Int} {evidence eligible : List (TemporalEvidence K)}
variable (h : Eligible cutoffAtMs interactionWatermark evidence eligible)
include h

theorem nodup : eligible.Nodup := h.ids.of_map _

theorem eq_of_id {a b : TemporalEvidence K} (ha : a ∈ eligible) (hb : b ∈ eligible)
    (hid : a.evidenceId = b.evidenceId) : a = b :=
  List.inj_on_of_nodup_map h.ids ha hb hid

theorem eq_of_before {a b : TemporalEvidence K} (ha : a ∈ eligible) (hb : b ∈ eligible)
    (hab : evidenceBefore a b) (hba : evidenceBefore b a) : a = b :=
  h.eq_of_id ha hb (evidenceId_of_key (le_antisymm hab hba))

end Eligible

/-! ## masses -/

theorem keysInOrder_spec {κ : Type} [DecidableEq κ] (keys : List κ) :
    (keysInOrder keys).Nodup ∧ ∀ key, key ∈ keysInOrder keys ↔ key ∈ keys := by
  have hgo : ∀ (more seen : List κ), seen.Nodup →
      (more.foldl (fun seen key => if key ∈ seen then seen else seen ++ [key]) seen).Nodup ∧
      ∀ key, key ∈ more.foldl (fun seen key => if key ∈ seen then seen else seen ++ [key]) seen ↔
        key ∈ seen ∨ key ∈ more := by
    intro more
    induction more with
    | nil =>
      intro seen hn
      exact ⟨hn, fun key => by simp⟩
    | cons key more ih =>
      intro seen hn
      rw [List.foldl_cons]
      by_cases hk : key ∈ seen
      · rw [if_pos hk]
        refine ⟨(ih seen hn).1, ?_⟩
        intro other
        rw [(ih seen hn).2, List.mem_cons]
        constructor
        · rintro (ho | ho)
          · exact Or.inl ho
          · exact Or.inr (Or.inr ho)
        · rintro (ho | rfl | ho)
          · exact Or.inl ho
          · exact Or.inl hk
          · exact Or.inr ho
      · rw [if_neg hk]
        have hnew : (seen ++ [key]).Nodup := by
          rw [List.nodup_append]
          refine ⟨hn, List.nodup_singleton _, ?_⟩
          intro a ha b hb hab
          rw [List.mem_singleton] at hb
          exact hk (hb ▸ hab ▸ ha)
        refine ⟨(ih _ hnew).1, ?_⟩
        intro other
        rw [(ih _ hnew).2, List.mem_append, List.mem_singleton, List.mem_cons, or_assoc]
  have hstart := hgo keys [] List.nodup_nil
  refine ⟨hstart.1, ?_⟩
  intro key
  exact (hstart.2 key).trans (by simp)

/-- The weighted event of one eligible event. -/
def weighIn (policy : AdaptiveFeaturePolicy K) (eligible : List (TemporalEvidence K))
    (event : TemporalEvidence K) : WeightedEvidence K :=
  ⟨event, signedMass policy (causalGroup eligible (causalKey event)) event⟩

/-- Grouping and sorting again weighs every eligible event in its place. -/
theorem causalWeights_eq {cutoffAtMs interactionWatermark : Int}
    {evidence eligible : List (TemporalEvidence K)} (policy : AdaptiveFeaturePolicy K)
    (h : Eligible cutoffAtMs interactionWatermark evidence eligible) :
    causalWeights policy eligible = eligible.map (weighIn policy eligible) := by
  obtain ⟨hkeys, hmem⟩ := keysInOrder_spec (eligible.map causalKey)
  have hgroups : ((keysInOrder (eligible.map causalKey)).flatMap (causalGroup eligible)).Perm
      eligible := by
    rw [List.perm_ext_iff_of_nodup ?_ h.nodup]
    · intro event
      rw [List.mem_flatMap]
      constructor
      · rintro ⟨key, _, he⟩
        exact List.mem_of_mem_filter he
      · intro he
        refine ⟨causalKey event, (hmem _).mpr (List.mem_map_of_mem he), ?_⟩
        exact List.mem_filter.mpr ⟨he, decide_eq_true rfl⟩
    · rw [List.nodup_flatMap]
      refine ⟨fun key _ => h.nodup.filter _, ?_⟩
      apply hkeys.imp
      intro key key' hne event he he'
      have hk := of_decide_eq_true (List.mem_filter.mp he).2
      have hk' := of_decide_eq_true (List.mem_filter.mp he').2
      exact hne (hk.symm.trans hk')
  have hweigh : ((keysInOrder (eligible.map causalKey)).flatMap fun key =>
      (causalGroup eligible key).map fun event =>
        (⟨event, signedMass policy (causalGroup eligible key) event⟩ : WeightedEvidence K)) =
      ((keysInOrder (eligible.map causalKey)).flatMap (causalGroup eligible)).map
        (weighIn policy eligible) := by
    rw [List.map_flatMap]
    congr 1
    funext key
    apply List.map_congr_left
    intro event he
    have hk := of_decide_eq_true (List.mem_filter.mp he).2
    unfold weighIn
    rw [hk]
  unfold causalWeights
  rw [hweigh]
  apply List.Perm.eq_of_pairwise ?_ ?_ ?_ ((List.perm_insertionSort weightedBefore _).trans
    (hgroups.map _))
  · exact weightedBefore
  · intro a b ha hb hab hba
    rw [List.mem_insertionSort] at ha
    obtain ⟨event, he, rfl⟩ := List.mem_map.mp ha
    obtain ⟨event', he', rfl⟩ := List.mem_map.mp hb
    rw [h.eq_of_before (hgroups.mem_iff.mp he) he' hab hba]
  · have htotal : Std.Total (weightedBefore (K := K)) :=
      ⟨fun a b => le_total (evidenceKey a.event) (evidenceKey b.event)⟩
    have htrans : IsTrans (WeightedEvidence K) weightedBefore :=
      ⟨fun a _ c hab hbc =>
        show evidenceKey a.event ≤ evidenceKey c.event from le_trans hab hbc⟩
    exact List.pairwise_insertionSort _ _
  · rw [List.pairwise_map]
    exact h.sorted

/-! ## the running episode -/

/-- The events that the episode pass looks at. -/
def recent (cutoffAtMs interactionWatermark : Int) (event : TemporalEvidence K) : Bool :=
  selected cutoffAtMs interactionWatermark event && event.recentEligible &&
    decide (event.effectiveAtMs ≤ cutoffAtMs)

/-- From the event to the newest one, and from there to the cutoff, no gap is too long. -/
def Running (gapMs cutoffAtMs : Int) (events : List (TemporalEvidence K))
    (event : TemporalEvidence K) : Prop :=
  ∃ newest ∈ events, (∀ other ∈ events, other.effectiveAtMs ≤ newest.effectiveAtMs) ∧
    cutoffAtMs - newest.effectiveAtMs ≤ gapMs ∧
    ∀ other ∈ events, event.effectiveAtMs ≤ other.effectiveAtMs →
      other.effectiveAtMs < newest.effectiveAtMs →
      ∃ next ∈ events, other.effectiveAtMs < next.effectiveAtMs ∧
        next.effectiveAtMs - other.effectiveAtMs ≤ gapMs

instance (gapMs cutoffAtMs : Int) (events : List (TemporalEvidence K)) (event : TemporalEvidence K) :
    Decidable (Running gapMs cutoffAtMs events event) := by
  unfold Running
  infer_instance

/-- The condition of `Running` behind the newest event. -/
def Joined (gapMs : Int) (newest : TemporalEvidence K) (events : List (TemporalEvidence K))
    (event : TemporalEvidence K) : Prop :=
  ∀ other ∈ events, event.effectiveAtMs ≤ other.effectiveAtMs →
    other.effectiveAtMs < newest.effectiveAtMs →
    ∃ next ∈ events, other.effectiveAtMs < next.effectiveAtMs ∧
      next.effectiveAtMs - other.effectiveAtMs ≤ gapMs

theorem chainBack_subset (gapMs : Int) (newest : TemporalEvidence K)
    (earlier : List (TemporalEvidence K)) : chainBack gapMs newest earlier ⊆ newest :: earlier := by
  induction earlier generalizing newest with
  | nil => exact fun _ h => h
  | cons before rest ih =>
    intro event he
    unfold chainBack at he
    split at he
    · exact List.mem_cons.mpr (Or.inl (List.mem_singleton.mp he))
    · rcases List.mem_cons.mp he with rfl | he
      · exact List.mem_cons_self
      · exact List.mem_cons_of_mem _ (ih before he)

theorem mem_chainBack {gapMs : Int} (hgap : 0 ≤ gapMs) (newest : TemporalEvidence K)
    (earlier : List (TemporalEvidence K)) (hnodup : (newest :: earlier).Nodup)
    (hsorted : (newest :: earlier).Pairwise fun a b => b.effectiveAtMs ≤ a.effectiveAtMs)
    (event : TemporalEvidence K) (he : event ∈ newest :: earlier) :
    event ∈ chainBack gapMs newest earlier ↔ Joined gapMs newest (newest :: earlier) event := by
  induction earlier generalizing newest with
  | nil =>
    cases List.mem_singleton.mp he
    refine ⟨?_, fun _ => List.mem_cons_self⟩
    intro _ other ho _ hlt
    cases List.mem_singleton.mp ho
    exact absurd hlt (lt_irrefl _)
  | cons before rest ih =>
    have hbefore : ∀ other ∈ before :: rest, other.effectiveAtMs ≤ before.effectiveAtMs := by
      intro other ho
      rcases List.mem_cons.mp ho with rfl | ho
      · exact le_refl _
      · exact (List.pairwise_cons.mp (List.pairwise_cons.mp hsorted).2).1 other ho
    have hnewest : before.effectiveAtMs ≤ newest.effectiveAtMs :=
      (List.pairwise_cons.mp hsorted).1 before List.mem_cons_self
    have hself : Joined gapMs newest (newest :: before :: rest) newest := by
      intro other _ hle hlt
      omega
    unfold chainBack
    split
    · -- the gap is too long: only the newest event is left
      rename_i hlong
      rw [List.mem_singleton]
      constructor
      · rintro rfl
        exact hself
      · intro hjoined
        rcases List.mem_cons.mp he with rfl | hrest
        · rfl
        · have hle := hbefore event hrest
          obtain ⟨next, hn, hlt, hshort⟩ := hjoined before
            (List.mem_cons_of_mem _ List.mem_cons_self) hle (by omega)
          rcases List.mem_cons.mp hn with rfl | hn
          · omega
          · have := hbefore next hn
            omega
    · rename_i hshort
      rw [List.mem_cons]
      rcases List.mem_cons.mp he with rfl | hrest
      · exact ⟨fun _ => hself, fun _ => Or.inl rfl⟩
      · have hne : event ≠ newest := by
          rintro rfl
          exact (List.nodup_cons.mp hnodup).1 hrest
        have hih := ih before (List.nodup_cons.mp hnodup).2 (List.pairwise_cons.mp hsorted).2 hrest
        rw [or_iff_right hne, hih]
        constructor
        · intro hjoined other ho hle hlt
          rcases List.mem_cons.mp ho with rfl | ho
          · omega
          · by_cases hob : other.effectiveAtMs < before.effectiveAtMs
            · obtain ⟨next, hn, hnext⟩ := hjoined other ho hle hob
              exact ⟨next, List.mem_cons_of_mem _ hn, hnext⟩
            · have := hbefore other ho
              exact ⟨newest, List.mem_cons_self, by omega, by omega⟩
        · intro hjoined other ho hle hlt
          obtain ⟨next, hn, hnext⟩ :=
            hjoined other (List.mem_cons_of_mem _ ho) hle (lt_of_lt_of_le hlt hnewest)
          rcases List.mem_cons.mp hn with rfl | hn
          · exact ⟨before, List.mem_cons_self, hlt, by omega⟩
          · exact ⟨next, hn, hnext⟩

theorem running_iff {gapMs cutoffAtMs : Int} {newest : TemporalEvidence K}
    {events : List (TemporalEvidence K)} {event : TemporalEvidence K} (hn : newest ∈ events)
    (hmax : ∀ other ∈ events, other.effectiveAtMs ≤ newest.effectiveAtMs) :
    Running gapMs cutoffAtMs events event ↔
      cutoffAtMs - newest.effectiveAtMs ≤ gapMs ∧ Joined gapMs newest events event := by
  constructor
  · rintro ⟨latest, hl, hlmax, hcut, hjoin⟩
    have heq : latest.effectiveAtMs = newest.effectiveAtMs :=
      le_antisymm (hmax latest hl) (hlmax newest hn)
    unfold Joined
    rw [← heq]
    exact ⟨hcut, hjoin⟩
  · rintro ⟨hcut, hjoin⟩
    exact ⟨newest, hn, hmax, hcut, hjoin⟩

/-- `Running` reads the events as a set. -/
theorem running_congr {gapMs cutoffAtMs : Int} {events events' : List (TemporalEvidence K)}
    (h : ∀ event, event ∈ events ↔ event ∈ events') (event : TemporalEvidence K) :
    Running gapMs cutoffAtMs events event ↔ Running gapMs cutoffAtMs events' event := by
  unfold Running
  simp only [h]

/-- **The current episode**, of an event that the pass looks at. -/
theorem mem_currentEpisodeIds {cutoffAtMs interactionWatermark : Int}
    {evidence eligible : List (TemporalEvidence K)} (policy : AdaptiveFeaturePolicy K)
    (h : Eligible cutoffAtMs interactionWatermark evidence eligible) (event : TemporalEvidence K)
    (he : event ∈ evidence) (hr : recent cutoffAtMs interactionWatermark event = true) :
    event.evidenceId ∈ currentEpisodeIds policy cutoffAtMs (causalWeights policy eligible) ↔
      Running policy.episodeInactivityGapMs cutoffAtMs
        (evidence.filter (recent cutoffAtMs interactionWatermark)) event := by
  have hevents : ((causalWeights policy eligible).filter fun value => value.event.recentEligible &&
      decide (value.event.effectiveAtMs ≤ cutoffAtMs)).map WeightedEvidence.event =
      eligible.filter fun event => event.recentEligible &&
        decide (event.effectiveAtMs ≤ cutoffAtMs) := by
    rw [causalWeights_eq policy h, List.filter_map, List.map_map]
    exact List.map_id _
  unfold currentEpisodeIds
  rw [hevents]
  dsimp only
  have hmem : ∀ other, other ∈ (eligible.filter fun event => event.recentEligible &&
      decide (event.effectiveAtMs ≤ cutoffAtMs)).reverse ↔
      other ∈ evidence.filter (recent cutoffAtMs interactionWatermark) := by
    intro other
    unfold recent
    simp only [List.mem_reverse, List.mem_filter, h.mem, Bool.and_eq_true, and_assoc]
  have hsorted : (eligible.filter fun event => event.recentEligible &&
      decide (event.effectiveAtMs ≤ cutoffAtMs)).reverse.Pairwise
      fun a b => b.effectiveAtMs ≤ a.effectiveAtMs := by
    rw [List.pairwise_reverse]
    apply (h.sorted.sublist List.filter_sublist).imp
    intro a b hab
    rcases Prod.Lex.le_iff.mp hab with hlt | heq
    · exact hlt.le
    · exact heq.1.le
  have hnodup : (eligible.filter fun event => event.recentEligible &&
      decide (event.effectiveAtMs ≤ cutoffAtMs)).reverse.Nodup :=
    List.nodup_reverse.mpr (h.nodup.filter _)
  rw [running_congr fun other => (hmem other).symm]
  have hin : event ∈ (eligible.filter fun event => event.recentEligible &&
      decide (event.effectiveAtMs ≤ cutoffAtMs)).reverse :=
    (hmem event).mpr (List.mem_filter.mpr ⟨he, hr⟩)
  have hids : ∀ other ∈ (eligible.filter fun event => event.recentEligible &&
      decide (event.effectiveAtMs ≤ cutoffAtMs)).reverse, other ∈ eligible :=
    fun other ho => List.mem_of_mem_filter (List.mem_reverse.mp ho)
  have hcutoff : ∀ other ∈ (eligible.filter fun event => event.recentEligible &&
      decide (event.effectiveAtMs ≤ cutoffAtMs)).reverse, other.effectiveAtMs ≤ cutoffAtMs := by
    intro other ho
    have hf := (List.mem_filter.mp (List.mem_reverse.mp ho)).2
    rw [Bool.and_eq_true] at hf
    exact of_decide_eq_true hf.2
  generalize (eligible.filter fun event => event.recentEligible &&
      decide (event.effectiveAtMs ≤ cutoffAtMs)).reverse = events at *
  cases events with
  | nil => cases hin
  | cons newest earlier =>
    have hmax : ∀ other ∈ newest :: earlier, other.effectiveAtMs ≤ newest.effectiveAtMs := by
      intro other ho
      rcases List.mem_cons.mp ho with rfl | ho
      · exact le_refl _
      · exact (List.pairwise_cons.mp hsorted).1 other ho
    rw [running_iff List.mem_cons_self hmax]
    change event.evidenceId ∈ (if policy.episodeInactivityGapMs < cutoffAtMs - newest.effectiveAtMs
      then [] else (chainBack policy.episodeInactivityGapMs newest earlier).map
        TemporalEvidence.evidenceId) ↔ _
    split
    · rename_i hlong
      constructor
      · intro hn
        cases hn
      · rintro ⟨hcut, _⟩
        omega
    · rename_i hshort
      have hnow := hcutoff newest List.mem_cons_self
      rw [← mem_chainBack (by omega) newest earlier hnodup hsorted event hin]
      constructor
      · intro hm
        obtain ⟨other, ho, hid⟩ := List.mem_map.mp hm
        have hoin : other ∈ newest :: earlier := chainBack_subset _ newest earlier ho
        rw [← h.eq_of_id (hids other hoin) (hids event hin) hid]
        exact ⟨by omega, ho⟩
      · rintro ⟨_, hm⟩
        exact List.mem_map_of_mem hm

theorem recent_of_mem_currentEpisodeIds {cutoffAtMs interactionWatermark : Int}
    {evidence eligible : List (TemporalEvidence K)} (policy : AdaptiveFeaturePolicy K)
    (h : Eligible cutoffAtMs interactionWatermark evidence eligible) {event : TemporalEvidence K}
    (he : event ∈ eligible)
    (hm : event.evidenceId ∈ currentEpisodeIds policy cutoffAtMs (causalWeights policy eligible)) :
    recent cutoffAtMs interactionWatermark event = true := by
  have hsub : ∃ value ∈ (causalWeights policy eligible).filter (fun value =>
      value.event.recentEligible && decide (value.event.effectiveAtMs ≤ cutoffAtMs)),
      value.event.evidenceId = event.evidenceId := by
    unfold currentEpisodeIds at hm
    dsimp only at hm
    split at hm
    · cases hm
    · rename_i newest earlier hlist
      split at hm
      · cases hm
      · obtain ⟨other, ho, hid⟩ := List.mem_map.mp hm
        have hin := chainBack_subset _ newest earlier ho
        rw [← hlist, List.mem_reverse] at hin
        obtain ⟨value, hv, rfl⟩ := List.mem_map.mp hin
        exact ⟨value, hv, hid⟩
  obtain ⟨value, hv, hid⟩ := hsub
  obtain ⟨hv, hrecent⟩ := List.mem_filter.mp hv
  rw [causalWeights_eq policy h] at hv
  obtain ⟨other, ho, rfl⟩ := List.mem_map.mp hv
  have heq : other = event := h.eq_of_id ho he hid
  rw [show (weighIn policy eligible other).event = other from rfl, heq, Bool.and_eq_true] at hrecent
  unfold recent
  rw [((h.mem event).mp he).2, hrecent.1, hrecent.2]
  rfl

/-! ## two sequences with the same included evidence -/

/-- The selected events, once each. -/
def distinct (cutoffAtMs interactionWatermark : Int) (evidence : List (TemporalEvidence K)) :
    List (TemporalEvidence K) :=
  (evidence.filter (selected cutoffAtMs interactionWatermark)).dedup

/-- **No trace**: of the included evidence that counts, no share and no place in the running episode
depends on the excluded evidence in which the two sequences differ. -/
structure Traceless (policy : AdaptiveFeaturePolicy K) (cutoffAtMs interactionWatermark : Int)
    (evidence evidence' : List (TemporalEvidence K)) : Prop where
  shares : ∀ event ∈ evidence, event.excludedFromTaste = false →
    selected cutoffAtMs interactionWatermark event = true →
    event.signedStrength * event.qualityWeight * policy.originWeights event.originLane = 0 ∨
      denominator (causalGroup (distinct cutoffAtMs interactionWatermark evidence)
          (causalKey event)) =
        denominator (causalGroup (distinct cutoffAtMs interactionWatermark evidence')
          (causalKey event))
  episodes : ∀ event ∈ evidence, event.excludedFromTaste = false →
    recent cutoffAtMs interactionWatermark event = true →
    (Running policy.episodeInactivityGapMs cutoffAtMs
        (evidence.filter (recent cutoffAtMs interactionWatermark)) event ↔
      Running policy.episodeInactivityGapMs cutoffAtMs
        (evidence'.filter (recent cutoffAtMs interactionWatermark)) event)

section pair
variable {policy : AdaptiveFeaturePolicy K} {cutoffAtMs interactionWatermark : Int}
  {evidence evidence' eligible eligible' : List (TemporalEvidence K)}

theorem denominator_perm {group group' : List (TemporalEvidence K)} (h : group.Perm group') :
    denominator group = denominator group' := by
  unfold denominator
  rw [(h.map fun event => |event.signedStrength|).sum_eq]

theorem Eligible.denominator_eq (h : Eligible cutoffAtMs interactionWatermark evidence eligible)
    (key : CausalKey) : denominator (causalGroup eligible key) =
      denominator (causalGroup (distinct cutoffAtMs interactionWatermark evidence) key) := by
  apply denominator_perm
  apply List.Perm.filter
  unfold distinct
  rw [List.perm_ext_iff_of_nodup h.nodup (List.nodup_dedup _)]
  intro event
  rw [h.mem, List.mem_dedup, List.mem_filter]

/-- The included eligible events are the same list. -/
theorem included_eligible (h : Eligible cutoffAtMs interactionWatermark evidence eligible)
    (h' : Eligible cutoffAtMs interactionWatermark evidence' eligible')
    (same : ∀ event, event.excludedFromTaste = false → (event ∈ evidence ↔ event ∈ evidence')) :
    (eligible.filter fun event => !event.excludedFromTaste) =
      eligible'.filter fun event => !event.excludedFromTaste := by
  have hmem : ∀ event, event ∈ (eligible.filter fun event => !event.excludedFromTaste) ↔
      event ∈ eligible'.filter fun event => !event.excludedFromTaste := by
    intro event
    rw [List.mem_filter, List.mem_filter, h.mem, h'.mem, Bool.not_eq_true']
    constructor
    · rintro ⟨⟨he, hs⟩, hx⟩
      exact ⟨⟨(same event hx).mp he, hs⟩, hx⟩
    · rintro ⟨⟨he, hs⟩, hx⟩
      exact ⟨⟨(same event hx).mpr he, hs⟩, hx⟩
  refine @List.Perm.eq_of_pairwise _ evidenceBefore _ _ ?_
    (h.sorted.sublist List.filter_sublist) (h'.sorted.sublist List.filter_sublist) ?_
  · intro a b ha hb hab hba
    exact h.eq_of_before (List.mem_of_mem_filter ha) (List.mem_of_mem_filter ((hmem b).mpr hb))
      hab hba
  · exact (List.perm_ext_iff_of_nodup (h.nodup.filter _) (h'.nodup.filter _)).mpr hmem

theorem signedMass_eq {group group' : List (TemporalEvidence K)} {event : TemporalEvidence K}
    (h : event.signedStrength * event.qualityWeight * policy.originWeights event.originLane = 0 ∨
      denominator group = denominator group') :
    signedMass policy group event = signedMass policy group' event := by
  unfold signedMass
  rcases h with h | h
  · rw [div_mul_eq_mul_div, div_mul_eq_mul_div, div_mul_eq_mul_div, div_mul_eq_mul_div, h, zero_div,
      zero_div]
  · rw [h]

theorem included_causalWeights (h : Eligible cutoffAtMs interactionWatermark evidence eligible) :
    included (causalWeights policy eligible) =
      (eligible.filter fun event => !event.excludedFromTaste).map (weighIn policy eligible) := by
  unfold included
  rw [causalWeights_eq policy h, List.filter_map]
  rfl

/-- Both passes weigh the included evidence alike. -/
theorem included_eq (h : Eligible cutoffAtMs interactionWatermark evidence eligible)
    (h' : Eligible cutoffAtMs interactionWatermark evidence' eligible')
    (same : ∀ event, event.excludedFromTaste = false → (event ∈ evidence ↔ event ∈ evidence'))
    (traceless : Traceless policy cutoffAtMs interactionWatermark evidence evidence') :
    included (causalWeights policy eligible) = included (causalWeights policy eligible') := by
  rw [included_causalWeights h, included_causalWeights h', ← included_eligible h h' same]
  apply List.map_congr_left
  intro event he
  obtain ⟨hmem, hx⟩ := List.mem_filter.mp he
  obtain ⟨hev, hsel⟩ := (h.mem event).mp hmem
  have hmass : signedMass policy (causalGroup eligible (causalKey event)) event =
      signedMass policy (causalGroup eligible' (causalKey event)) event := by
    apply signedMass_eq
    rw [h.denominator_eq, h'.denominator_eq]
    exact traceless.shares event hev (by simpa using hx) hsel
  unfold weighIn
  rw [hmass]

/-- Both passes see the same included events in the running episode. -/
theorem episode_eq (h : Eligible cutoffAtMs interactionWatermark evidence eligible)
    (h' : Eligible cutoffAtMs interactionWatermark evidence' eligible')
    (same : ∀ event, event.excludedFromTaste = false → (event ∈ evidence ↔ event ∈ evidence'))
    (traceless : Traceless policy cutoffAtMs interactionWatermark evidence evidence')
    (value : WeightedEvidence K) (hv : value ∈ included (causalWeights policy eligible)) :
    value.event.evidenceId ∈ currentEpisodeIds policy cutoffAtMs (causalWeights policy eligible) ↔
      value.event.evidenceId ∈
        currentEpisodeIds policy cutoffAtMs (causalWeights policy eligible') := by
  rw [included_causalWeights h] at hv
  obtain ⟨event, he, rfl⟩ := List.mem_map.mp hv
  show event.evidenceId ∈ _ ↔ event.evidenceId ∈ _
  have he' : event ∈ eligible' := List.mem_of_mem_filter (included_eligible h h' same ▸ he)
  obtain ⟨hmem, hx⟩ := List.mem_filter.mp he
  by_cases hr : recent cutoffAtMs interactionWatermark event = true
  · rw [mem_currentEpisodeIds policy h event ((h.mem event).mp hmem).1 hr,
      mem_currentEpisodeIds policy h' event ((h'.mem event).mp he').1 hr]
    exact traceless.episodes event ((h.mem event).mp hmem).1 (by simpa using hx) hr
  · constructor
    · intro hm
      exact absurd (recent_of_mem_currentEpisodeIds policy h hmem hm) hr
    · intro hm
      exact absurd (recent_of_mem_currentEpisodeIds policy h' he' hm) hr

end pair

/-! ## the projection -/

section project
variable {pow : K → K → K} {policy : AdaptiveFeaturePolicy K} {episodeIds episodeIds' : List Uuid}
  {cutoffAtMs : Int}

theorem activeViews_congr {event : TemporalEvidence K}
    (h : event.evidenceId ∈ episodeIds ↔ event.evidenceId ∈ episodeIds') :
    activeViews policy episodeIds cutoffAtMs event =
      activeViews policy episodeIds' cutoffAtMs event := by
  unfold activeViews
  simp only [h]

theorem foldl_project_congr (weighted : List (WeightedEvidence K))
    (h : ∀ value ∈ weighted,
      (value.event.evidenceId ∈ episodeIds ↔ value.event.evidenceId ∈ episodeIds'))
    (state : Projection K) :
    weighted.foldl (project pow policy episodeIds cutoffAtMs) state =
      weighted.foldl (project pow policy episodeIds' cutoffAtMs) state := by
  induction weighted generalizing state with
  | nil => rfl
  | cons value rest ih =>
    have hvalue : project pow policy episodeIds cutoffAtMs state value =
        project pow policy episodeIds' cutoffAtMs state value := by
      have hviews : activeViews policy episodeIds cutoffAtMs value.event =
          activeViews policy episodeIds' cutoffAtMs value.event :=
        activeViews_congr (h value List.mem_cons_self)
      unfold project
      dsimp only
      rw [hviews]
    rw [List.foldl_cons, List.foldl_cons, hvalue]
    exact ih (fun other ho => h other (List.mem_cons_of_mem _ ho)) _

theorem projectDimension_congr (plasticity : K) (dimension : TemporalDimension)
    (weighted : List (WeightedEvidence K))
    (h : ∀ value ∈ weighted,
      (value.event.evidenceId ∈ episodeIds ↔ value.event.evidenceId ∈ episodeIds')) :
    projectDimension pow policy episodeIds cutoffAtMs plasticity dimension weighted =
      projectDimension pow policy episodeIds' cutoffAtMs plasticity dimension weighted := by
  unfold projectDimension
  dsimp only
  rw [foldl_project_congr weighted h]

end project

theorem project_ok {pow : K → K → K} {policy : AdaptiveFeaturePolicy K} {ownerUserId : Uuid}
    {cutoffAtMs interactionWatermark : Int} {evidence : List (TemporalEvidence K)}
    {profile : AdaptiveProfile K}
    (h : projectTemporalProfile pow policy ownerUserId cutoffAtMs interactionWatermark evidence =
      .ok profile) :
    ∃ eligible, eligibleDeduplicated ownerUserId cutoffAtMs interactionWatermark evidence =
        .ok eligible ∧
      profile.maturity = maturityOf pow policy cutoffAtMs (causalWeights policy eligible) ∧
      profile.dimensions =
        ((dimensionKeys (causalWeights policy eligible)).insertionSort dimensionBefore).map
          fun dimension => projectDimension pow policy
            (currentEpisodeIds policy cutoffAtMs (causalWeights policy eligible)) cutoffAtMs
            profile.maturity.plasticityMultiplier dimension
            (dimensionEvents (causalWeights policy eligible) dimension) := by
  unfold projectTemporalProfile at h
  split at h
  · cases h
  · split at h
    · cases h
    · cases he : eligibleDeduplicated ownerUserId cutoffAtMs interactionWatermark evidence with
      | error e =>
        rw [he] at h
        cases h
      | ok eligible =>
        rw [he] at h
        change (if _ then _ else _) = _ at h
        split at h
        · cases h
        · cases h
          exact ⟨eligible, rfl, rfl, rfl⟩

/-- **Excluded evidence without a trace**: two accepted sequences with the same included evidence
give the same maturity and the same dimensions. -/
theorem excluded_without_trace (pow : K → K → K) (policy : AdaptiveFeaturePolicy K)
    (ownerUserId : Uuid) (cutoffAtMs interactionWatermark : Int)
    (evidence evidence' : List (TemporalEvidence K)) (profile profile' : AdaptiveProfile K)
    (same : ∀ event, event.excludedFromTaste = false → (event ∈ evidence ↔ event ∈ evidence'))
    (traceless : Traceless policy cutoffAtMs interactionWatermark evidence evidence')
    (accepted : projectTemporalProfile pow policy ownerUserId cutoffAtMs interactionWatermark
      evidence = .ok profile)
    (accepted' : projectTemporalProfile pow policy ownerUserId cutoffAtMs interactionWatermark
      evidence' = .ok profile') :
    profile.maturity = profile'.maturity ∧ profile.dimensions = profile'.dimensions := by
  obtain ⟨eligible, hok, hm, hd⟩ := project_ok accepted
  obtain ⟨eligible', hok', hm', hd'⟩ := project_ok accepted'
  have h := eligible_spec hok
  have h' := eligible_spec hok'
  have hinc := included_eq h h' same traceless
  have hmaturity : profile.maturity = profile'.maturity := by
    rw [hm, hm']
    unfold maturityOf
    rw [hinc]
  refine ⟨hmaturity, ?_⟩
  have hkeys : dimensionKeys (causalWeights policy eligible) =
      dimensionKeys (causalWeights policy eligible') := by
    unfold dimensionKeys
    rw [hinc]
  have hevents : ∀ dimension, dimensionEvents (causalWeights policy eligible) dimension =
      dimensionEvents (causalWeights policy eligible') dimension := by
    intro dimension
    unfold dimensionEvents
    rw [hinc]
  rw [hd, hd', hkeys, hmaturity]
  apply List.map_congr_left
  intro dimension _
  rw [← hevents]
  apply projectDimension_congr
  intro value hv
  exact episode_eq h h' same traceless value (List.mem_of_mem_filter hv)

/-! ## an excluded listen between two others -/

/-- The policy of the repository, in exact numbers. -/
def defaultPolicy : AdaptiveFeaturePolicy ℚ :=
  { key := "adaptive-taste"
    version := "1"
    contentSha256 := "6fc6c3348475618696eec0ad171515d50e6f586ebf515f67f5add4ef245179db"
    episodeInactivityGapMs := 1800000
    activeViewWeights := fun
      | .episode => 0.30
      | .h12 => 0.25
      | .h24 => 0.20
      | .d3 => 0.15
      | .d7 => 0.10
    horizonWindowMs := [(.h12, 43200000), (.h24, 86400000), (.d3, 259200000), (.d7, 604800000)]
    originWeights := fun
      | .explicit => 1
      | .organic => 0.8
      | .sourceQueue => 0.6
      | .recommendation => 0.35
      | .exclusion => 0
    dailyFatigueDecay := 0.75
    skipGain := 0.20
    completionRecovery := 0.10
    maturityTermWeights := [(.effectiveSignalMass, 0.25), (.trackAndArtistCoverage, 0.20),
      (.observationSpan, 0.15), (.recency, 0.15), (.consistency, 0.15), (.organicShare, 0.10)]
    effectiveMassSaturation := 200
    trackCoverageSaturation := 100
    artistCoverageSaturation := 30
    observationSpanSaturationMs := 7776000000
    recencyHalfLifeMs := 1209600000
    minimumPlasticity := 0.5
    maximumPlasticity := 2
    recentInterestCap := 0.35
    momentumCap := 0.15
    fatigueCap := 0.40
    totalAbsoluteCap := 0.75 }

def profileOwner : Uuid := ⟨"00000000-0000-4000-8000-000000000001", Eq.refl true⟩
def earlyId : Uuid := ⟨"00000000-0000-4000-8000-000000000011", rfl⟩
def bridgeId : Uuid := ⟨"00000000-0000-4000-8000-000000000012", rfl⟩
def lateId : Uuid := ⟨"00000000-0000-4000-8000-000000000013", rfl⟩

/-- A listen at a time, as the sync service normalizes it. -/
def listen (evidenceId : Uuid) (atMs serverSequence : Nat) (excluded : Bool) :
    TemporalEvidence ℚ :=
  { evidenceId := evidenceId, sourceEventId := evidenceId, ownerUserId := profileOwner,
    serverProfileId := profileOwner, deviceId := profileOwner, deviceSequence := 1,
    serverSequence := some (serverSequence + 1), sourceEventType := "LISTENING_EVENT_RECORDED",
    signal := if excluded then .excludeFromTaste else .finalizedOrganicListen,
    derivationKey := if excluded then "EXCLUSION_PROJECTION_V1" else "LISTEN_V1",
    recordingId := profileOwner,
    dimensions := [⟨.canonicalArtistId, "artist", by decide⟩],
    occurredAtMs := atMs, receivedAtMs := atMs, effectiveAtMs := atMs,
    timeClassification := .trustedEventTime,
    originLane := if excluded then .exclusion else .organic,
    signedStrength := if excluded then 0 else 0.4,
    qualityWeight := if excluded then 0 else 1,
    excludedFromTaste := excluded,
    sourceRequestSha256 := "6fc6c3348475618696eec0ad171515d50e6f586ebf515f67f5add4ef245179db",
    recommendationRequestId := none, impressionEventId := none, recommendationSourceRank := none,
    sequences_positive := by
      refine ⟨le_refl _, ?_⟩
      intro n hn
      cases hn
      omega
    dimensions_bounded := by decide +kernel
    times_nonneg := by omega
    strength_bounded := by cases excluded <;> decide +kernel
    quality_bounded := by cases excluded <;> decide +kernel
    sha256_form := by decide +kernel
    references_complete := ⟨rfl, rfl⟩
    recommendation_referenced := by cases excluded <;> exact nofun
    rank_range := nofun
    synced := ⟨nofun, nofun⟩ }

/-- Powers, as the runs below use them: the exponent is zero, or the fatigue that is scaled is. -/
def powerOfZero (base exponent : ℚ) : ℚ := if exponent = 0 then 1 else base

def twoListens : List (TemporalEvidence ℚ) :=
  [listen earlyId 0 1 false, listen lateId 2400000 3 false]

/-- The same two, 40 minutes apart, with an excluded listen after 20 minutes. -/
def bridgedListens : List (TemporalEvidence ℚ) :=
  [listen earlyId 0 1 false, listen bridgeId 1200000 2 true, listen lateId 2400000 3 false]

/-- The evidence masses of the horizons, dimension by dimension. -/
def recentMasses (result : Except TemporalProjectionError (AdaptiveProfile ℚ)) : List (List ℚ) :=
  match result with
  | .error _ => []
  | .ok profile =>
    profile.dimensions.map fun state => state.recent.map fun entry => entry.2.evidenceMass

/-- The first listen is outside the running episode, and the excluded one brings it in. -/
theorem excluded_bridges_episode :
    ¬ ∀ evidence evidence' : List (TemporalEvidence ℚ), ∀ profile profile',
      (∀ event, event.excludedFromTaste = false → (event ∈ evidence ↔ event ∈ evidence')) →
      projectTemporalProfile powerOfZero defaultPolicy profileOwner 2400000 10 evidence =
        .ok profile →
      projectTemporalProfile powerOfZero defaultPolicy profileOwner 2400000 10 evidence' =
        .ok profile' →
      profile.maturity = profile'.maturity ∧ profile.dimensions = profile'.dimensions := by
  intro h
  have hone : recentMasses (projectTemporalProfile powerOfZero defaultPolicy profileOwner 2400000 10
      twoListens) = [[0.32, 0.64, 0.64, 0.64, 0.64]] := by decide +kernel
  have htwo : recentMasses (projectTemporalProfile powerOfZero defaultPolicy profileOwner 2400000 10
      bridgedListens) = [[0.64, 0.64, 0.64, 0.64, 0.64]] := by decide +kernel
  cases h1 : projectTemporalProfile powerOfZero defaultPolicy profileOwner 2400000 10 twoListens with
  | error e =>
    rw [h1] at hone
    cases hone
  | ok profile =>
    cases h2 : projectTemporalProfile powerOfZero defaultPolicy profileOwner 2400000 10
        bridgedListens with
    | error e =>
      rw [h2] at htwo
      cases htwo
    | ok profile' =>
      have hsame : ∀ event : TemporalEvidence ℚ, event.excludedFromTaste = false →
          (event ∈ twoListens ↔ event ∈ bridgedListens) := by
        intro event hx
        unfold twoListens bridgedListens
        simp only [List.mem_cons, List.not_mem_nil, or_false]
        constructor
        · rintro (rfl | rfl)
          · exact Or.inl rfl
          · exact Or.inr (Or.inr rfl)
        · rintro (rfl | rfl | rfl)
          · exact Or.inl rfl
          · cases hx
          · exact Or.inr rfl
      have hdims := (h twoListens bridgedListens profile profile' hsame h1 h2).2
      rw [h1] at hone
      rw [h2] at htwo
      unfold recentMasses at hone htwo
      dsimp only at hone htwo
      rw [hdims, htwo] at hone
      exact absurd hone (by decide +kernel)

theorem exists_ok {ε α : Type} {result : Except ε α} (h : result.isOk = true) :
    ∃ a, result = .ok a := by
  cases result with
  | error e => cases h
  | ok a => exact ⟨a, rfl⟩

/-- An excluded listen beside the newest one joins nothing. -/
def besideListens : List (TemporalEvidence ℚ) :=
  [listen earlyId 0 1 false, listen bridgeId 2400000 2 true, listen lateId 2400000 3 false]

theorem excluded_without_trace_beside : ∃ profile profile',
    projectTemporalProfile powerOfZero defaultPolicy profileOwner 2400000 10 twoListens =
      .ok profile ∧
    projectTemporalProfile powerOfZero defaultPolicy profileOwner 2400000 10 besideListens =
      .ok profile' ∧
    profile.maturity = profile'.maturity ∧ profile.dimensions = profile'.dimensions := by
  obtain ⟨profile, h1⟩ := exists_ok (show (projectTemporalProfile powerOfZero defaultPolicy
    profileOwner 2400000 10 twoListens).isOk = true by decide +kernel)
  obtain ⟨profile', h2⟩ := exists_ok (show (projectTemporalProfile powerOfZero defaultPolicy
    profileOwner 2400000 10 besideListens).isOk = true by decide +kernel)
  refine ⟨profile, profile', h1, h2, ?_⟩
  refine excluded_without_trace powerOfZero defaultPolicy profileOwner 2400000 10 twoListens
    besideListens _ _ ?_ ⟨by decide +kernel, by decide +kernel⟩ h1 h2
  intro event hx
  unfold twoListens besideListens
  simp only [List.mem_cons, List.not_mem_nil, or_false]
  constructor
  · rintro (rfl | rfl)
    · exact Or.inl rfl
    · exact Or.inr (Or.inr rfl)
  · rintro (rfl | rfl | rfl)
    · exact Or.inl rfl
    · cases hx
    · exact Or.inr rfl

end AutPlay.Recommend
