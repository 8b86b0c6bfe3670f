import AutPlay.Offline.Reads
import Mathlib.Data.List.Flatten

/-!
# The rows behind a delta

* `gather_congr`            the rows are gathered in any order;
* `currentEpisode_spec`     the episode has distinct rows of the journal;
* `normalize_sources`       each gives events with distinct signals;
* `episodeEvidence_sources` the events of a delta, by what they were made of.
-/

set_option linter.unusedSectionVars false

namespace AutPlay.Offline

open AutPlay.Sync (Uuid Json Payload)
open Result

section gather
variable {binding : ClientEventBinding} {cutoffAtMs nowMs : Int}

/-- Rows that go together: equal identifiers stand for equal rows, and each was checked. -/
structure Gatherable (binding : ClientEventBinding) (cutoffAtMs nowMs : Int)
    (rows : List LocalTemporalJournalRow) : Prop where
  checked : ∀ row ∈ rows, validateSourceRow binding cutoffAtMs nowMs row = .ok ()
  ids : ∀ row ∈ rows, ∀ other ∈ rows, row.sourceEventId = other.sourceEventId → row = other

/-- What the loop holds of the rows behind it. -/
structure Held (rows byId : List LocalTemporalJournalRow) : Prop where
  mem : ∀ row, row ∈ byId ↔ row ∈ rows
  ids : (byId.map LocalTemporalJournalRow.sourceEventId).Nodup

theorem putRow_held {rows byId byId' : List LocalTemporalJournalRow} {row : LocalTemporalJournalRow}
    (h : Held rows byId) (hput : putRow byId row = .ok byId') : Held (rows ++ [row]) byId' := by
  unfold putRow at hput
  cases hf : byId.find? fun prior => prior.sourceEventId = row.sourceEventId with
  | some prior =>
    rw [hf] at hput
    dsimp only at hput
    split at hput
    · cases hput
    · rename_i hsame
      cases hput
      have heq : prior = row := not_not.mp hsame
      have hold : row ∈ rows := (h.mem row).mp (heq ▸ List.mem_of_find?_eq_some hf)
      refine ⟨fun other => ?_, h.ids⟩
      rw [h.mem, List.mem_append, List.mem_singleton]
      constructor
      · exact Or.inl
      · rintro (ho | rfl)
        · exact ho
        · exact hold
  | none =>
    rw [hf] at hput
    cases hput
    constructor
    · intro other
      rw [List.mem_append, List.mem_append, h.mem]
    · rw [List.map_append, List.nodup_append]
      refine ⟨h.ids, List.nodup_singleton _, ?_⟩
      intro a ha b hb hab
      obtain ⟨prior, hp, rfl⟩ := List.mem_map.mp ha
      rw [List.map_singleton, List.mem_singleton] at hb
      have hno := List.find?_eq_none.mp hf prior hp
      rw [hab, hb] at hno
      exact hno (decide_eq_true rfl)

theorem putRow_ok_iff {rows byId : List LocalTemporalJournalRow} {row : LocalTemporalJournalRow}
    (h : Held rows byId) :
    (∃ byId', putRow byId row = .ok byId') ↔
      ∀ other ∈ rows, other.sourceEventId = row.sourceEventId → other = row := by
  unfold putRow
  cases hf : byId.find? fun prior => prior.sourceEventId = row.sourceEventId with
  | some prior =>
    have hmem := List.mem_of_find?_eq_some hf
    have hid : prior.sourceEventId = row.sourceEventId := of_decide_eq_true (List.find?_some hf :)
    dsimp only
    split
    · rename_i hne
      constructor
      · rintro ⟨byId', hok⟩
        cases hok
      · intro hall
        exact absurd (hall prior ((h.mem prior).mp hmem) hid) hne
    · rename_i hsame
      refine ⟨fun _ other ho hother => ?_, fun _ => ⟨byId, rfl⟩⟩
      have hone := List.inj_on_of_nodup_map h.ids ((h.mem other).mpr ho) hmem (hother.trans hid.symm)
      rw [hone]
      exact not_not.mp hsame
  | none =>
    refine ⟨fun _ other ho hother => ?_, fun _ => ⟨byId ++ [row], rfl⟩⟩
    have hno := List.find?_eq_none.mp hf other ((h.mem other).mpr ho)
    exact absurd (decide_eq_true hother) hno

theorem foldlM_gatherRow_held (more : List LocalTemporalJournalRow)
    {rows byId byId' : List LocalTemporalJournalRow} (h : Held rows byId)
    (hs : more.foldlM (gatherRow binding cutoffAtMs nowMs) byId = .ok byId') :
    Held (rows ++ more) byId' := by
  induction more generalizing rows byId with
  | nil =>
    cases hs
    rw [List.append_nil]
    exact h
  | cons row more ih =>
    rw [List.foldlM_cons] at hs
    obtain ⟨next, hnext, hs⟩ := bind_eq_ok.mp hs
    obtain ⟨_, _, hput⟩ := bind_eq_ok.mp hnext
    rw [List.append_cons]
    exact ih (putRow_held h hput) hs

theorem foldlM_gatherRow_ok_iff (more : List LocalTemporalJournalRow)
    {rows byId : List LocalTemporalJournalRow} (h : Held rows byId)
    (hg : Gatherable binding cutoffAtMs nowMs rows) :
    (∃ byId', more.foldlM (gatherRow binding cutoffAtMs nowMs) byId = .ok byId') ↔
      Gatherable binding cutoffAtMs nowMs (rows ++ more) := by
  induction more generalizing rows byId with
  | nil =>
    rw [List.append_nil]
    exact ⟨fun _ => hg, fun _ => ⟨byId, rfl⟩⟩
  | cons row more ih =>
    rw [List.append_cons]
    have hstep : (∃ byId', gatherRow binding cutoffAtMs nowMs byId row = .ok byId') ↔
        Gatherable binding cutoffAtMs nowMs (rows ++ [row]) := by
      constructor
      · rintro ⟨byId', hok⟩
        obtain ⟨_, hrow, hput⟩ := bind_eq_ok.mp hok
        have hids := (putRow_ok_iff h).mp ⟨byId', hput⟩
        constructor
        · intro other ho
          rcases List.mem_append.mp ho with ho | ho
          · exact hg.checked other ho
          · rw [List.mem_singleton.mp ho]
            exact hrow
        · intro a ha b hb hab
          rcases List.mem_append.mp ha with ha | ha <;> rcases List.mem_append.mp hb with hb | hb
          · exact hg.ids a ha b hb hab
          · cases List.mem_singleton.mp hb
            exact hids a ha hab
          · cases List.mem_singleton.mp ha
            exact (hids b hb hab.symm).symm
          · rw [List.mem_singleton.mp ha, List.mem_singleton.mp hb]
      · intro hall
        have hlast : row ∈ rows ++ [row] := List.mem_append_right _ List.mem_cons_self
        obtain ⟨byId', hput⟩ := (putRow_ok_iff h).mpr fun other ho hid =>
          hall.ids other (List.mem_append_left _ ho) row hlast hid
        exact ⟨byId', bind_of_ok (hall.checked row hlast) hput⟩
    constructor
    · rintro ⟨byId', hok⟩
      rw [List.foldlM_cons] at hok
      obtain ⟨next, hnext, hok⟩ := bind_eq_ok.mp hok
      obtain ⟨_, _, hput⟩ := bind_eq_ok.mp hnext
      exact (ih (putRow_held h hput) (hstep.mp ⟨next, hnext⟩)).mp ⟨byId', hok⟩
    · intro hall
      have hfirst : Gatherable binding cutoffAtMs nowMs (rows ++ [row]) :=
        ⟨fun other ho => hall.checked other (List.mem_append_left _ ho), fun a ha b hb =>
          hall.ids a (List.mem_append_left _ ha) b (List.mem_append_left _ hb)⟩
      obtain ⟨next, hnext⟩ := hstep.mpr hfirst
      obtain ⟨_, _, hput⟩ := bind_eq_ok.mp hnext
      obtain ⟨byId', hok⟩ := (ih (putRow_held h hput) hfirst).mpr hall
      refine ⟨byId', ?_⟩
      rw [List.foldlM_cons]
      exact bind_of_ok hnext hok

theorem held_nil : Held [] [] := ⟨fun _ => Iff.rfl, List.nodup_nil⟩

instance totalRowBefore : Std.Total rowBefore := ⟨fun a b => le_total (rowKey b) (rowKey a)⟩

instance transRowBefore : IsTrans LocalTemporalJournalRow rowBefore :=
  ⟨fun a _ c hab hbc => show rowKey c ≤ rowKey a from le_trans hbc hab⟩

/-- The order of the rows is total on distinct ones. -/
theorem insertionSort_held {rows rows' byId byId' : List LocalTemporalJournalRow}
    (h : Held rows byId) (h' : Held rows' byId') (same : ∀ row, row ∈ rows ↔ row ∈ rows') :
    byId.insertionSort rowBefore = byId'.insertionSort rowBefore := by
  have hperm : byId.Perm byId' := by
    rw [List.perm_ext_iff_of_nodup (h.ids.of_map _) (h'.ids.of_map _)]
    intro row
    rw [h.mem, h'.mem, same]
  refine Lib.Greedy.sort_eq_of_perm rowBefore hperm fun a ha b hb hab hba => ?_
  have hkey : rowKey a = rowKey b := le_antisymm hba hab
  unfold rowKey at hkey
  simp only [EmbeddingLike.apply_eq_iff_eq, Prod.mk.injEq] at hkey
  exact List.inj_on_of_nodup_map h.ids ha hb hkey.2.2

/-- **Order of the journal rows**: the episode is that of the rows in any order. -/
theorem currentEpisode_perm {rows rows' episode : List LocalTemporalJournalRow}
    (hperm : rows.Perm rows') (h : currentEpisode rows binding cutoffAtMs nowMs = .ok episode) :
    currentEpisode rows' binding cutoffAtMs nowMs = .ok episode := by
  obtain ⟨_, hlimit, h⟩ := bind_eq_ok.mp h
  obtain ⟨byId, hfold, h⟩ := bind_eq_ok.mp h
  have hnone : Gatherable binding cutoffAtMs nowMs [] :=
    ⟨fun _ hr => absurd hr List.not_mem_nil, fun _ hr => absurd hr List.not_mem_nil⟩
  have hall := (foldlM_gatherRow_ok_iff rows held_nil hnone).mp ⟨byId, hfold⟩
  rw [List.nil_append] at hall
  have hall' : Gatherable binding cutoffAtMs nowMs ([] ++ rows') :=
    ⟨fun row hr => hall.checked row (hperm.mem_iff.mpr hr), fun a ha b hb =>
      hall.ids a (hperm.mem_iff.mpr ha) b (hperm.mem_iff.mpr hb)⟩
  obtain ⟨byId', hfold'⟩ := (foldlM_gatherRow_ok_iff rows' held_nil hnone).mpr hall'
  have hsort := insertionSort_held (foldlM_gatherRow_held rows held_nil hfold)
    (foldlM_gatherRow_held rows' held_nil hfold') fun row => hperm.mem_iff
  have hepisode : episodeOf byId' nowMs = episodeOf byId nowMs := by
    unfold episodeOf
    rw [hsort]
  refine bind_of_ok (check_ok.mpr ?_) (bind_of_ok hfold' ?_)
  · rw [← hperm.length_eq]
    exact check_ok.mp hlimit
  · rw [hepisode]
    exact h

theorem episodeBack_sublist (limit : Nat) (newerAt : Int) (rows : List LocalTemporalJournalRow) :
    (episodeBack limit newerAt rows).Sublist rows := by
  induction rows generalizing limit newerAt with
  | nil =>
    cases limit with
    | zero => exact List.nil_sublist _
    | succ limit => exact List.nil_sublist _
  | cons row rest ih =>
    cases limit with
    | zero => exact List.nil_sublist _
    | succ limit =>
      unfold episodeBack
      split
      · exact List.nil_sublist _
      · exact (ih limit row.occurredAtMs).cons_cons row

/-- Distinct rows of the journal, each checked. -/
structure EpisodeRows (binding : ClientEventBinding) (cutoffAtMs nowMs : Int)
    (rows episode : List LocalTemporalJournalRow) : Prop where
  mem : ∀ row ∈ episode, row ∈ rows
  checked : ∀ row ∈ episode, validateSourceRow binding cutoffAtMs nowMs row = .ok ()
  ids : (episode.map LocalTemporalJournalRow.sourceEventId).Nodup

theorem currentEpisode_spec {rows episode : List LocalTemporalJournalRow}
    (h : currentEpisode rows binding cutoffAtMs nowMs = .ok episode) :
    EpisodeRows binding cutoffAtMs nowMs rows episode := by
  obtain ⟨_, _, h⟩ := bind_eq_ok.mp h
  obtain ⟨byId, hfold, h⟩ := bind_eq_ok.mp h
  cases h
  have hnone : Gatherable binding cutoffAtMs nowMs [] :=
    ⟨fun _ hr => absurd hr List.not_mem_nil, fun _ hr => absurd hr List.not_mem_nil⟩
  have hheld := foldlM_gatherRow_held rows held_nil hfold
  have hall := (foldlM_gatherRow_ok_iff rows held_nil hnone).mp ⟨byId, hfold⟩
  rw [List.nil_append] at hheld hall
  have hsub : ∃ part : List LocalTemporalJournalRow, part.Sublist (byId.insertionSort rowBefore) ∧
      (episodeOf byId nowMs).Perm part := by
    unfold episodeOf
    split
    · exact ⟨[], List.nil_sublist _, .refl _⟩
    · rename_i newest rest hsorted
      split
      · exact ⟨[], List.nil_sublist _, .refl _⟩
      · refine ⟨_, ?_, List.reverse_perm _⟩
        rw [hsorted]
        exact episodeBack_sublist _ _ _
  obtain ⟨part, hpart, hperm⟩ := hsub
  have hmem : ∀ row ∈ episodeOf byId nowMs, row ∈ rows := by
    intro row hr
    have hsorted := hpart.subset (hperm.mem_iff.mp hr)
    rw [List.mem_insertionSort] at hsorted
    exact (hheld.mem row).mp hsorted
  refine ⟨hmem, fun row hr => hall.checked row (hmem row hr), ?_⟩
  rw [(hperm.map _).nodup_iff]
  have hsorted : ((byId.insertionSort rowBefore).map
      LocalTemporalJournalRow.sourceEventId).Nodup :=
    ((List.perm_insertionSort rowBefore byId).map _).nodup_iff.mpr hheld.ids
  exact hsorted.sublist (hpart.map _)

end gather

/-! ## the events of a row -/

section normalize
variable {tools : DeltaTools} {binding : ClientEventBinding}

def signalKeys : List String :=
  ["EXCLUDE_FROM_TASTE", "EXPLICIT_LIKE", "EXPLICIT_DISLIKE", "FINALIZED_ORGANIC_LISTEN",
    "FINALIZED_RECOMMENDATION_LISTEN", "FINALIZED_SHORT_LISTEN_SKIP", "FINALIZED_COMPLETION"]

/-- Signals of one row are distinct. -/
def DistinctSignals (specifications : List EvidenceSpecification) : Prop :=
  (specifications.map EvidenceSpecification.signalKey).Nodup ∧
    ∀ key ∈ specifications.map EvidenceSpecification.signalKey, key ∈ signalKeys

theorem preferenceSpecifications_distinct {payload : Payload}
    {specifications : List EvidenceSpecification}
    (h : preferenceSpecifications tools payload = .ok specifications) :
    DistinctSignals specifications := by
  obtain ⟨excluded, _, h⟩ := bind_eq_ok.mp h
  cases excluded with
  | true =>
    cases h
    exact ⟨by decide, by decide⟩
  | false =>
    obtain ⟨preference, _, h⟩ := bind_eq_ok.mp h
    split at h
    · cases h
      exact ⟨by decide, by decide⟩
    · cases h
      exact ⟨by decide, by decide⟩
    · cases h
      exact ⟨by decide, by decide⟩
    · cases h

theorem listeningSpecifications_distinct {payload : Payload}
    {specifications : List EvidenceSpecification}
    (h : listeningSpecifications tools payload = .ok specifications) :
    DistinctSignals specifications := by
  obtain ⟨excluded, _, h⟩ := bind_eq_ok.mp h
  cases excluded with
  | true =>
    cases h
    exact ⟨by decide, by decide⟩
  | false =>
    obtain ⟨origin, _, h⟩ := bind_eq_ok.mp h
    obtain ⟨causal, _, h⟩ := bind_eq_ok.mp h
    obtain ⟨playedMs, _, h⟩ := bind_eq_ok.mp h
    obtain ⟨_, _, h⟩ := bind_eq_ok.mp h
    obtain ⟨ratio, _, h⟩ := bind_eq_ok.mp h
    -- the base listen and the outcome have signals of their own
    cases houtcome : outcomeOf ratio playedMs with
    | none =>
      rw [houtcome] at h
      cases h
      split
      · exact ⟨by simp, by simp [signalKeys]⟩
      · split
        · exact ⟨by simp, by simp [signalKeys]⟩
        · exact ⟨by simp, by simp⟩
    | some outcome =>
      rw [houtcome] at h
      cases h
      split
      · split
        · exact ⟨by simp, by simp [signalKeys]⟩
        · exact ⟨by simp, by simp [signalKeys]⟩
      · split
        · split
          · exact ⟨by simp, by simp [signalKeys]⟩
          · exact ⟨by simp, by simp [signalKeys]⟩
        · split
          · exact ⟨by simp, by simp [signalKeys]⟩
          · exact ⟨by simp, by simp [signalKeys]⟩

theorem specificationsOf_distinct {sourceEventType : String} {payload : Payload}
    {specifications : List EvidenceSpecification}
    (h : specificationsOf tools sourceEventType payload = .ok specifications) :
    DistinctSignals specifications := by
  unfold specificationsOf at h
  split at h
  · exact preferenceSpecifications_distinct h
  · split at h
    · exact listeningSpecifications_distinct h
    · cases h
      exact ⟨List.nodup_nil, fun _ hk => absurd hk List.not_mem_nil⟩

theorem normalize_sources {row : LocalTemporalJournalRow} {group : List ProjectedLocalEvidence}
    (h : normalize tools binding row = .ok group) :
    ∃ recordingId specifications, group = specifications.map (evidenceOf tools binding row recordingId) ∧
      DistinctSignals specifications := by
  obtain ⟨recordingId, _, h⟩ := bind_eq_ok.mp h
  obtain ⟨payload, _, h⟩ := bind_eq_ok.mp h
  obtain ⟨_, _, h⟩ := bind_eq_ok.mp h
  obtain ⟨specifications, hs, h⟩ := bind_eq_ok.mp h
  cases h
  exact ⟨recordingId, specifications, rfl, specificationsOf_distinct hs⟩

/-- What the events are told apart by. -/
def EvidenceSource.signal (source : EvidenceSource) : String × String :=
  (source.row.sourceEventId, source.specification.signalKey)

theorem mapM_normalize_sources {rows : List LocalTemporalJournalRow}
    {groups : List (List ProjectedLocalEvidence)}
    (hids : (rows.map LocalTemporalJournalRow.sourceEventId).Nodup)
    (h : rows.mapM (normalize tools binding) = .ok groups) :
    ∃ sources : List (List EvidenceSource),
      groups = sources.map (List.map (EvidenceSource.project tools binding)) ∧
      (sources.flatten.map EvidenceSource.signal).Nodup ∧
      ∀ source ∈ sources.flatten, source.row ∈ rows ∧
        source.specification.signalKey ∈ signalKeys := by
  have hall := mapM_forall₂ h
  clear h
  induction hall with
  | nil => exact ⟨[], rfl, List.nodup_nil, fun _ hs => absurd hs List.not_mem_nil⟩
  | @cons row group rows groups hrow _ ih =>
    obtain ⟨hnew, hrest⟩ := List.nodup_cons.mp hids
    obtain ⟨sources, rfl, hn, hmem⟩ := ih hrest
    obtain ⟨recordingId, specifications, rfl, hdistinct, hkeys⟩ := normalize_sources hrow
    refine ⟨(specifications.map (EvidenceSource.mk row recordingId)) :: sources, ?_, ?_, ?_⟩
    · rw [List.map_cons, List.map_map]
      rfl
    · rw [List.flatten_cons, List.map_append, List.map_map, List.nodup_append]
      refine ⟨?_, hn, ?_⟩
      · refine List.Nodup.of_map Prod.snd ?_
        rw [List.map_map]
        exact hdistinct
      · intro a ha b hb hab
        obtain ⟨specification, -, rfl⟩ := List.mem_map.mp ha
        obtain ⟨other, ho, rfl⟩ := List.mem_map.mp hb
        have hrowId : row.sourceEventId = other.row.sourceEventId := congrArg Prod.fst hab
        exact hnew (hrowId ▸ List.mem_map_of_mem (hmem other ho).1)
    · intro source hs
      rw [List.flatten_cons, List.mem_append] at hs
      rcases hs with hs | hs
      · obtain ⟨specification, hspec, rfl⟩ := List.mem_map.mp hs
        exact ⟨List.mem_cons_self, hkeys _ (List.mem_map_of_mem hspec)⟩
      · exact ⟨List.mem_cons_of_mem _ (hmem source hs).1, (hmem source hs).2⟩

/-! ## the groups that fit -/

theorem boundGroups_map {α β : Type} (f : α → β) (count : Nat) (groups : List (List α)) :
    boundGroups count (groups.map (List.map f)) = (boundGroups count groups).map (List.map f) := by
  induction groups generalizing count with
  | nil => rfl
  | cons group groups ih =>
    rw [List.map_cons, boundGroups, boundGroups]
    simp only [List.length_map, List.map_eq_nil_iff]
    split
    · exact ih count
    · rw [List.map_cons, ih]

theorem boundGroups_sublist {α : Type} (count : Nat) (groups : List (List α)) :
    (boundGroups count groups).Sublist groups := by
  induction groups generalizing count with
  | nil => exact List.nil_sublist _
  | cons group groups ih =>
    rw [boundGroups]
    split
    · exact (ih count).cons group
    · exact (ih _).cons_cons group

theorem length_boundGroups {α : Type} {count : Nat} (hcount : count ≤ maxLocalEvents)
    (groups : List (List α)) :
    count + (boundGroups count groups).flatten.length ≤ maxLocalEvents := by
  induction groups generalizing count with
  | nil => exact hcount
  | cons group groups ih =>
    rw [boundGroups]
    split
    · exact ih hcount
    · rename_i hfits
      have hfits := not_lt.mp (not_or.mp hfits).2
      have hrest := ih hfits
      rw [List.flatten_cons, List.length_append]
      omega

/-- **The events of a delta**: distinct signals of checked rows, as many as fit. -/
structure Sources (tools : DeltaTools) (binding : ClientEventBinding)
    (rows : List LocalTemporalJournalRow) (evidence : List ProjectedLocalEvidence)
    (sources : List EvidenceSource) : Prop where
  projected : evidence = sources.map (EvidenceSource.project tools binding)
  valid : ∀ source ∈ sources, source.Valid
  fits : sources.length ≤ maxLocalEvents
  signals : (sources.map EvidenceSource.signal).Nodup
  rows : ∀ source ∈ sources, source.row ∈ rows ∧ source.specification.signalKey ∈ signalKeys

theorem valid_of_checked {cutoffAtMs nowMs : Int} {source : EvidenceSource}
    (h : validateSourceRow binding cutoffAtMs nowMs source.row = .ok ()) : source.Valid := by
  obtain ⟨_, _, h⟩ := bind_eq_ok.mp h
  obtain ⟨_, _, h⟩ := bind_eq_ok.mp h
  have hgood := check_ok.mp h
  simp only [not_or, not_not] at hgood
  exact ⟨Option.ne_none_iff_exists'.mp hgood.1, hgood.2.2.2.2.1⟩

theorem episodeEvidence_sources {parent : DecodedOfflinePack tools.jcsInt}
    {rows : List LocalTemporalJournalRow} {nowMs : Int} {evidence : List ProjectedLocalEvidence}
    (h : episodeEvidence tools parent binding rows nowMs = .ok evidence) :
    ∃ sources, Sources tools binding rows evidence sources := by
  obtain ⟨episode, hepisode, h⟩ := bind_eq_ok.mp h
  obtain ⟨groups, hgroups, h⟩ := bind_eq_ok.mp h
  cases h
  have hrows := currentEpisode_spec hepisode
  obtain ⟨sources, rfl, hn, hmem⟩ := mapM_normalize_sources hrows.ids hgroups
  have hsub : ((boundGroups 0 sources.reverse).reverse).flatten.Sublist sources.flatten := by
    have hgroups := (boundGroups_sublist 0 sources.reverse).reverse
    rw [List.reverse_reverse] at hgroups
    exact hgroups.flatten
  refine ⟨((boundGroups 0 sources.reverse).reverse).flatten, ?_, ?_, ?_, hn.sublist (hsub.map _), ?_⟩
  · unfold boundEvidence
    rw [← List.map_reverse, boundGroups_map, ← List.map_reverse, List.map_flatten]
  · intro source hs
    exact valid_of_checked (hrows.checked _ (hmem source (hsub.subset hs)).1)
  · have hlength := length_boundGroups (Nat.zero_le maxLocalEvents) sources.reverse
    rw [Nat.zero_add] at hlength
    have hperm : ((boundGroups 0 sources.reverse).reverse).flatten.length =
        (boundGroups 0 sources.reverse).flatten.length :=
      ((List.reverse_perm _).flatten).length_eq
    rw [hperm]
    exact hlength
  · intro source hs
    obtain ⟨hrow, hkey⟩ := hmem source (hsub.subset hs)
    exact ⟨hrows.mem _ hrow, hkey⟩

theorem episodeEvidence_perm {parent : DecodedOfflinePack tools.jcsInt}
    {rows rows' : List LocalTemporalJournalRow} (hperm : rows.Perm rows') {nowMs : Int}
    {evidence : List ProjectedLocalEvidence}
    (h : episodeEvidence tools parent binding rows nowMs = .ok evidence) :
    episodeEvidence tools parent binding rows' nowMs = .ok evidence := by
  obtain ⟨episode, hepisode, h⟩ := bind_eq_ok.mp h
  exact bind_of_ok (currentEpisode_perm hperm hepisode) h

end normalize

end AutPlay.Offline
