import AutPlay.Recommend.Exclusion

/-!
# The taste profile does not depend on the order of the evidence

* `Consistent`               what the first pass demands, and nothing else;
* `foldlM_see_ok_iff`        it accepts consistent evidence in any order;
* `Eligible.unique`          the sorted evidence is that of its members;
* `project_congr`            so is the profile.
-/

set_option linter.unusedSectionVars false

namespace AutPlay.Recommend

open AutPlay.Sync (Uuid)

variable {K : Type} [Field K] [LinearOrder K]

/-- Evidence of one owner in which equal identifiers stand for equal documents. -/
structure Consistent (ownerUserId : Uuid) (evidence : List (TemporalEvidence K)) : Prop where
  owner : ∀ event ∈ evidence, event.ownerUserId = ownerUserId
  hashes : ∀ event ∈ evidence, ∀ other ∈ evidence, event.sourceEventId = other.sourceEventId →
    event.sourceRequestSha256 = other.sourceRequestSha256
  ids : ∀ event ∈ evidence, ∀ other ∈ evidence, event.evidenceId = other.evidenceId → event = other

theorem Consistent.subset {ownerUserId : Uuid} {evidence evidence' : List (TemporalEvidence K)}
    (h : Consistent ownerUserId evidence) (hs : evidence' ⊆ evidence) :
    Consistent ownerUserId evidence' where
  owner event he := h.owner event (hs he)
  hashes event he other ho := h.hashes event (hs he) other (hs ho)
  ids event he other ho := h.ids event (hs he) other (hs ho)

/-- What the loop remembers of the events behind it. -/
structure Remembered (events : List (TemporalEvidence K)) (seen : Seen K) : Prop
    extends SeenOk events seen where
  hashes : ∀ entry, entry ∈ seen.sourceHashes ↔
    ∃ event ∈ events, (event.sourceEventId, event.sourceRequestSha256) = entry

section see
variable {ownerUserId : Uuid} {events : List (TemporalEvidence K)} {seen seen' : Seen K}
  {event : TemporalEvidence K}

theorem setDefaultHash_eq (h : Remembered events seen)
    (hc : ∀ other ∈ events, other.sourceEventId = event.sourceEventId →
      other.sourceRequestSha256 = event.sourceRequestSha256) :
    (setDefaultHash seen.sourceHashes event.sourceEventId event.sourceRequestSha256).1 =
      event.sourceRequestSha256 := by
  unfold setDefaultHash
  cases hf : seen.sourceHashes.find? fun entry => entry.1 = event.sourceEventId with
  | none => rfl
  | some entry =>
    obtain ⟨other, ho, rfl⟩ := (h.hashes entry).mp (List.mem_of_find?_eq_some hf)
    exact hc other ho (of_decide_eq_true (List.find?_some hf :))

theorem setDefaultEvent_eq (h : Remembered events seen)
    (hc : ∀ other ∈ events, other.evidenceId = event.evidenceId → other = event) :
    (setDefaultEvent seen.byId event).1 = event := by
  unfold setDefaultEvent
  cases hf : seen.byId.find? fun prior => prior.evidenceId = event.evidenceId with
  | none => rfl
  | some prior =>
    exact hc prior ((h.mem prior).mp (List.mem_of_find?_eq_some hf))
      (of_decide_eq_true (List.find?_some hf :))

theorem hashes_setDefaultHash (h : Remembered events seen)
    (hhash : (setDefaultHash seen.sourceHashes event.sourceEventId event.sourceRequestSha256).1 =
      event.sourceRequestSha256) (entry : Uuid × String) :
    entry ∈ (setDefaultHash seen.sourceHashes event.sourceEventId event.sourceRequestSha256).2 ↔
      ∃ other ∈ events ++ [event], (other.sourceEventId, other.sourceRequestSha256) = entry := by
  have hold : (∃ other ∈ events ++ [event],
      (other.sourceEventId, other.sourceRequestSha256) = entry) ↔
        entry ∈ seen.sourceHashes ∨ (event.sourceEventId, event.sourceRequestSha256) = entry := by
    rw [h.hashes]
    constructor
    · rintro ⟨other, ho, rfl⟩
      rcases List.mem_append.mp ho with ho | ho
      · exact Or.inl ⟨other, ho, rfl⟩
      · rw [List.mem_singleton.mp ho]
        exact Or.inr rfl
    · rintro (⟨other, ho, rfl⟩ | rfl)
      · exact ⟨other, List.mem_append_left _ ho, rfl⟩
      · exact ⟨event, List.mem_append_right _ List.mem_cons_self, rfl⟩
  rw [hold]
  unfold setDefaultHash at hhash ⊢
  cases hf : seen.sourceHashes.find? fun entry => entry.1 = event.sourceEventId with
  | none =>
    show entry ∈ seen.sourceHashes ++ [_] ↔ _
    rw [List.mem_append, List.mem_singleton, eq_comm (a := entry)]
  | some prior =>
    rw [hf] at hhash
    have hprior : (event.sourceEventId, event.sourceRequestSha256) = prior :=
      Prod.ext (of_decide_eq_true (List.find?_some hf :)).symm (show prior.2 = _ from hhash).symm
    have hmem := List.mem_of_find?_eq_some hf
    show entry ∈ seen.sourceHashes ↔ _
    constructor
    · exact Or.inl
    · rintro (he | rfl)
      · exact he
      · rw [hprior]
        exact hmem

/-- One turn of the loop asks that the event goes with those behind it. -/
theorem see_eq_ok (hs : see ownerUserId seen event = .ok seen') :
    event.ownerUserId = ownerUserId ∧
      (setDefaultHash seen.sourceHashes event.sourceEventId event.sourceRequestSha256).1 =
        event.sourceRequestSha256 ∧
      (setDefaultEvent seen.byId event).1 = event ∧
      seen'.sourceHashes =
        (setDefaultHash seen.sourceHashes event.sourceEventId event.sourceRequestSha256).2 := by
  unfold see at hs
  split at hs
  · cases hs
  · rename_i howner
    dsimp only at hs
    split at hs
    · cases hs
    · rename_i hhash
      split at hs
      · cases hs
      · rename_i hprior
        cases hs
        exact ⟨not_not.mp howner, not_not.mp hhash, not_not.mp hprior, rfl⟩

theorem remembered_see (h : Remembered events seen) (hs : see ownerUserId seen event = .ok seen') :
    Remembered (events ++ [event]) seen' := by
  obtain ⟨-, hhash, -, hhashes⟩ := see_eq_ok hs
  refine ⟨see_ok h.toSeenOk hs, fun entry => ?_⟩
  rw [hhashes]
  exact hashes_setDefaultHash h hhash entry

theorem see_ok_iff (h : Remembered events seen) (hc : Consistent ownerUserId events) :
    (∃ seen', see ownerUserId seen event = .ok seen') ↔
      Consistent ownerUserId (events ++ [event]) := by
  constructor
  · rintro ⟨seen', hs⟩
    obtain ⟨howner, hhash, hprior, -⟩ := see_eq_ok hs
    -- the event agrees with what is remembered, and that is all that came before
    have hhashes : ∀ other ∈ events, other.sourceEventId = event.sourceEventId →
        other.sourceRequestSha256 = event.sourceRequestSha256 := by
      intro other ho hid
      unfold setDefaultHash at hhash
      cases hf : seen.sourceHashes.find? fun entry => entry.1 = event.sourceEventId with
      | none =>
        have hno := List.find?_eq_none.mp hf _ ((h.hashes _).mpr ⟨other, ho, rfl⟩)
        exact absurd (decide_eq_true hid) hno
      | some entry =>
        rw [hf] at hhash
        obtain ⟨prior, hp, rfl⟩ := (h.hashes entry).mp (List.mem_of_find?_eq_some hf)
        have hsame : prior.sourceEventId = event.sourceEventId :=
          of_decide_eq_true (List.find?_some hf :)
        exact (hc.hashes other ho prior hp (hid.trans hsame.symm)).trans hhash
    have hids : ∀ other ∈ events, other.evidenceId = event.evidenceId → other = event := by
      intro other ho hid
      unfold setDefaultEvent at hprior
      cases hf : seen.byId.find? fun prior => prior.evidenceId = event.evidenceId with
      | none =>
        have hno := List.find?_eq_none.mp hf _ ((h.mem _).mpr ho)
        exact absurd (decide_eq_true hid) hno
      | some prior =>
        rw [hf] at hprior
        have hp := (h.mem prior).mp (List.mem_of_find?_eq_some hf)
        have hsame : prior.evidenceId = event.evidenceId :=
          of_decide_eq_true (List.find?_some hf :)
        exact (hc.ids other ho prior hp (hid.trans hsame.symm)).trans hprior
    refine ⟨?_, ?_, ?_⟩
    · intro other ho
      rcases List.mem_append.mp ho with ho | ho
      · exact hc.owner other ho
      · rw [List.mem_singleton.mp ho]
        exact howner
    · intro a ha b hb hid
      rcases List.mem_append.mp ha with ha | ha <;> rcases List.mem_append.mp hb with hb | hb
      · exact hc.hashes a ha b hb hid
      · cases List.mem_singleton.mp hb
        exact hhashes a ha hid
      · cases List.mem_singleton.mp ha
        exact (hhashes b hb hid.symm).symm
      · rw [List.mem_singleton.mp ha, List.mem_singleton.mp hb]
    · intro a ha b hb hid
      rcases List.mem_append.mp ha with ha | ha <;> rcases List.mem_append.mp hb with hb | hb
      · exact hc.ids a ha b hb hid
      · cases List.mem_singleton.mp hb
        exact hids a ha hid
      · cases List.mem_singleton.mp ha
        exact (hids b hb hid.symm).symm
      · rw [List.mem_singleton.mp ha, List.mem_singleton.mp hb]
  · intro hall
    have hlast : event ∈ events ++ [event] := List.mem_append_right _ List.mem_cons_self
    have hhash := setDefaultHash_eq h fun other ho hid =>
      hall.hashes other (List.mem_append_left _ ho) event hlast hid
    have hprior := setDefaultEvent_eq h fun other ho hid =>
      hall.ids other (List.mem_append_left _ ho) event hlast hid
    unfold see
    rw [if_neg (not_not.mpr (hall.owner event hlast))]
    dsimp only
    rw [if_neg (not_not.mpr hhash), if_neg (not_not.mpr hprior)]
    exact ⟨_, rfl⟩

theorem foldlM_see_ok_iff (more : List (TemporalEvidence K)) (h : Remembered events seen)
    (hc : Consistent ownerUserId events) :
    (∃ seen', more.foldlM (see ownerUserId) seen = .ok seen') ↔
      Consistent ownerUserId (events ++ more) := by
  induction more generalizing events seen with
  | nil =>
    rw [List.append_nil]
    exact ⟨fun _ => hc, fun _ => ⟨seen, rfl⟩⟩
  | cons event more ih =>
    have hsplit : events ++ event :: more = events ++ [event] ++ more := by simp
    rw [List.foldlM_cons, hsplit]
    cases hs : see ownerUserId seen event with
    | error e =>
      constructor
      · rintro ⟨_, hok⟩
        cases hok
      · intro hall
        obtain ⟨_, hok⟩ := (see_ok_iff h hc).mpr (hall.subset (List.subset_append_left _ _))
        rw [hs] at hok
        cases hok
    | ok next => exact ih (remembered_see h hs) ((see_ok_iff h hc).mp ⟨next, hs⟩)

end see

section eligible
variable {ownerUserId : Uuid} {cutoffAtMs interactionWatermark : Int}
  {evidence evidence' eligible eligible' : List (TemporalEvidence K)}

theorem eligibleDeduplicated_ok_iff :
    (∃ eligible, eligibleDeduplicated ownerUserId cutoffAtMs interactionWatermark evidence =
      .ok eligible) ↔ Consistent ownerUserId evidence := by
  have hstart : Remembered ([] : List (TemporalEvidence K)) ⟨[], []⟩ :=
    ⟨⟨fun _ => Iff.rfl, List.nodup_nil⟩, fun entry => by simp⟩
  have hnone : Consistent ownerUserId ([] : List (TemporalEvidence K)) :=
    ⟨fun _ he => absurd he List.not_mem_nil, fun _ he => absurd he List.not_mem_nil,
      fun _ he => absurd he List.not_mem_nil⟩
  have hfold := foldlM_see_ok_iff evidence hstart hnone
  rw [List.nil_append] at hfold
  rw [← hfold]
  unfold eligibleDeduplicated
  cases evidence.foldlM (see ownerUserId) (⟨[], []⟩ : Seen K) with
  | error e => exact ⟨nofun, nofun⟩
  | ok seen =>
    refine ⟨fun _ => ⟨seen, rfl⟩, fun _ => ?_⟩
    exact ⟨(seen.byId.filter (selected cutoffAtMs interactionWatermark)).insertionSort
      evidenceBefore, rfl⟩

/-- The sort key tells distinct evidence apart, so that there is one way to sort it. -/
theorem Eligible.unique (h : Eligible cutoffAtMs interactionWatermark evidence eligible)
    (h' : Eligible cutoffAtMs interactionWatermark evidence' eligible')
    (same : ∀ event, event ∈ evidence' ↔ event ∈ evidence) : eligible' = eligible := by
  have hperm : eligible'.Perm eligible := by
    rw [List.perm_ext_iff_of_nodup h'.nodup h.nodup]
    intro event
    rw [h'.mem, h.mem, same]
  apply List.Perm.eq_of_pairwise ?_ h'.sorted h.sorted hperm
  intro a b ha hb hab hba
  exact h.eq_of_before (hperm.mem_iff.mp ha) hb hab hba

theorem eligible_congr (same : ∀ event, event ∈ evidence' ↔ event ∈ evidence)
    (h : eligibleDeduplicated ownerUserId cutoffAtMs interactionWatermark evidence = .ok eligible) :
    eligibleDeduplicated ownerUserId cutoffAtMs interactionWatermark evidence' = .ok eligible := by
  have hc := (eligibleDeduplicated_ok_iff.mp ⟨eligible, h⟩).subset fun event he => (same event).mp he
  obtain ⟨eligible', h'⟩ := eligibleDeduplicated_ok_iff.mpr hc
  rw [h', (eligible_spec h).unique (eligible_spec h') same]

/-- The profile is that of the set of the evidence. -/
theorem project_congr {pow : K → K → K} {policy : AdaptiveFeaturePolicy K}
    {profile : AdaptiveProfile K} (same : ∀ event, event ∈ evidence' ↔ event ∈ evidence)
    (limit : evidence'.length ≤ 10000)
    (h : projectTemporalProfile pow policy ownerUserId cutoffAtMs interactionWatermark evidence =
      .ok profile) :
    projectTemporalProfile pow policy ownerUserId cutoffAtMs interactionWatermark evidence' =
      .ok profile := by
  unfold projectTemporalProfile at h ⊢
  split at h
  · cases h
  · rename_i hnonneg
    split at h
    · cases h
    · rw [if_neg hnonneg, if_neg (by omega)]
      cases he : eligibleDeduplicated ownerUserId cutoffAtMs interactionWatermark evidence with
      | error e =>
        rw [he] at h
        cases h
      | ok eligible =>
        rw [eligible_congr same he]
        rw [he] at h
        exact h

end eligible

end AutPlay.Recommend
