import AutPlay.Recommend.Pipeline
import Mathlib.Data.List.Nodup
import Mathlib.Data.List.Lex

/-!
# What the pipeline returns

* `generateAll_perm`   the batches forget the order of the snapshot's tracks;
* `collect_spec`       what the composer gathers;
* `diversify_eq`       the loop of the reranker is a selection with caps;
* `run_output`         the laws of the returned list.
-/

set_option linter.unusedSectionVars false

namespace AutPlay.Recommend

open AutPlay.Sync (Uuid Json Payload)
open AutPlay.Lib

variable {F : Type} [PyFloat F]

theorem le_of_not_le {a b : F} (h : ¬ a ≤ b) : b ≤ a :=
  (PyFloat.total a b).resolve_left h

/-! ## orders -/

section lexicographic
variable {α κ : Type} [LinearOrder κ] (value : α → F) (key : α → κ)

/-- Highest value first, ties by the key. -/
def Before (a b : α) : Prop := ¬ value a ≤ value b ∨ value b ≤ value a ∧ key a ≤ key b

theorem Before.value_le {a b : α} (h : Before value key a b) : value b ≤ value a := by
  rcases h with h | h
  · exact le_of_not_le h
  · exact h.1

theorem Before.key_eq {a b : α} (hab : Before value key a b) (hba : Before value key b a) :
    key a = key b := by
  have hva := hba.value_le value key
  have hvb := hab.value_le value key
  rcases hab with hab | hab
  · exact absurd hva hab
  · rcases hba with hba | hba
    · exact absurd hvb hba
    · exact le_antisymm hab.2 hba.2

instance Before.isTotal : Std.Total (Before value key) where
  total := by
    intro a b
    by_cases hab : value a ≤ value b
    · by_cases hba : value b ≤ value a
      · rcases le_total (key a) (key b) with hk | hk
        · exact Or.inl (Or.inr ⟨hba, hk⟩)
        · exact Or.inr (Or.inr ⟨hab, hk⟩)
      · exact Or.inr (Or.inl hba)
    · exact Or.inl (Or.inl hab)

instance Before.isTrans : IsTrans α (Before value key) where
  trans := by
    intro a b c hab hbc
    have hba := hab.value_le value key
    have hcb := hbc.value_le value key
    by_cases hac : value a ≤ value c
    · rcases hab with hab | hab
      · exact absurd (hac.trans hcb) hab
      · rcases hbc with hbc | hbc
        · exact absurd (hba.trans hac) hbc
        · exact Or.inr ⟨hcb.trans hba, hab.2.trans hbc.2⟩
    · exact Or.inl hac

end lexicographic

instance : Std.Total (rowBefore (F := F)) :=
  Before.isTotal (fun row : Row F => row.2.1) fun row => row.1.recordingId

instance : IsTrans (Row F) rowBefore :=
  Before.isTrans (fun row : Row F => row.2.1) fun row => row.1.recordingId

instance (sha256 : String → List UInt8) (query : RecommendationQuery F) :
    Std.Total (itemBefore sha256 query) :=
  Before.isTotal ScoredCandidate.score (tieBreak sha256 query)

instance (sha256 : String → List UInt8) (query : RecommendationQuery F) :
    IsTrans (ScoredCandidate F) (itemBefore sha256 query) :=
  Before.isTrans ScoredCandidate.score (tieBreak sha256 query)

instance : Std.Total trackBefore where
  total a b := le_total a.recordingId b.recordingId

instance : IsTrans SnapshotTrack trackBefore where
  trans a _ c hab hbc := show a.recordingId ≤ c.recordingId from le_trans hab hbc

/-! ## the order of the snapshot -/

theorem eq_of_recordingId {tracks : List SnapshotTrack}
    (distinct : (tracks.map SnapshotTrack.recordingId).Nodup) {a b : SnapshotTrack}
    (ha : a ∈ tracks) (hb : b ∈ tracks) (h : a.recordingId = b.recordingId) : a = b :=
  List.inj_on_of_nodup_map distinct ha hb h

theorem mem_rowsOf {row : SnapshotTrack → Option (F × Payload)} {tracks : List SnapshotTrack}
    {r : Row F} : r ∈ rowsOf row tracks ↔ r.1 ∈ tracks ∧ row r.1 = some r.2 := by
  unfold rowsOf
  rw [List.mem_filterMap]
  constructor
  · rintro ⟨track, hm, he⟩
    obtain ⟨value, hv, rfl⟩ := Option.map_eq_some_iff.mp he
    exact ⟨hm, hv⟩
  · intro h
    refine ⟨r.1, h.1, ?_⟩
    rw [h.2]
    rfl

/-- A batch is the same for the same tracks in another order. -/
theorem batch_perm (key : String) (row : SnapshotTrack → Option (F × Payload)) (budget : Int)
    {tracks tracks' : List SnapshotTrack} (h : tracks.Perm tracks')
    (distinct : (tracks.map SnapshotTrack.recordingId).Nodup) :
    batch key (rowsOf row tracks) budget = batch key (rowsOf row tracks') budget := by
  have hsort : (rowsOf row tracks).insertionSort rowBefore =
      (rowsOf row tracks').insertionSort rowBefore := by
    apply Greedy.sort_eq_of_perm
    · exact h.filterMap _
    · intro a ha b hb hab hba
      have hid := Before.key_eq (fun row : Row F => row.2.1) (fun row => row.1.recordingId) hab hba
      rw [mem_rowsOf] at ha hb
      have htrack := eq_of_recordingId distinct ha.1 hb.1 hid
      have hvalue := ha.2.symm.trans ((congrArg row htrack).trans hb.2)
      exact Prod.ext htrack (Option.some.inj hvalue)
  unfold batch
  rw [hsort]

theorem prepare_perm {tracks tracks' : List SnapshotTrack} (h : tracks.Perm tracks') :
    prepare tracks = prepare tracks' := by
  have hliked := h.filter fun track => decide (track.preference = "LIKED")
  have hlistened := h.filter fun track => decide (0 < track.organicPlayCount)
  unfold prepare
  simp only [BaselineUserRepresentation.mk.injEq]
  exact ⟨List.toFinset_eq_of_perm _ _ (hliked.map _), List.toFinset_eq_of_perm _ _ (hlistened.map _),
    List.toFinset_eq_of_perm _ _ (hliked.flatMap_right _)⟩

theorem maxDefault_perm {values values' : List Int} (h : values.Perm values') :
    maxDefault values = maxDefault values' := by
  have hmax : values.max? = values'.max? := by
    cases hv : values.max? with
    | none =>
      rw [List.max?_eq_none_iff] at hv
      subst hv
      rw [List.perm_nil.mp h.symm]
      rfl
    | some a =>
      rw [List.max?_eq_some_iff] at hv
      apply Eq.symm
      rw [List.max?_eq_some_iff]
      exact ⟨h.mem_iff.mp hv.1, fun b hb => hv.2 b (h.mem_iff.mpr hb)⟩
  unfold maxDefault
  rw [hmax]

theorem generatorRow_perm (sha256 : String → List UInt8) (query : RecommendationQuery F)
    {tracks tracks' : List SnapshotTrack} (h : tracks.Perm tracks') (key : String) :
    generatorRow sha256 query tracks key = generatorRow sha256 query tracks' key := by
  unfold generatorRow
  rw [prepare_perm h, maxDefault_perm (h.map SnapshotTrack.addedAtMs),
    maxDefault_perm (h.map fun track => track.releaseDateOrdinal.getD 0)]

theorem generate_perm (sha256 : String → List UInt8) (query : RecommendationQuery F)
    {tracks tracks' : List SnapshotTrack} (h : tracks.Perm tracks')
    (distinct : (tracks.map SnapshotTrack.recordingId).Nodup) (key : String) (budget : Int) :
    generate sha256 query tracks key budget = generate sha256 query tracks' key budget := by
  unfold generate
  rw [generatorRow_perm sha256 query h key]
  cases generatorRow sha256 query tracks' key with
  | none => rfl
  | some row => exact congrArg some (batch_perm key row budget h distinct)

theorem generateAll_perm (sha256 : String → List UInt8) (query : RecommendationQuery F)
    {tracks tracks' : List SnapshotTrack} (h : tracks.Perm tracks')
    (distinct : (tracks.map SnapshotTrack.recordingId).Nodup) (budgets : List (String × Int)) :
    generateAll sha256 query tracks budgets = generateAll sha256 query tracks' budgets := by
  induction budgets with
  | nil => rfl
  | cons head rest ih =>
    unfold generateAll
    rw [generate_perm sha256 query h distinct head.1 head.2, ih]

/-! ## what the generators give -/

def generatorKeys : List String :=
  ["preferences", "history", "artist_release_metadata", "freshness", "exploration"]

theorem generate_isSome (sha256 : String → List UInt8) (query : RecommendationQuery F)
    (tracks : List SnapshotTrack) {key : String} (h : key ∈ generatorKeys) (budget : Int) :
    ∃ candidates, generate sha256 query tracks key budget = some candidates := by
  unfold generatorKeys at h
  simp only [List.mem_cons, List.not_mem_nil, or_false] at h
  rcases h with rfl | rfl | rfl | rfl | rfl <;> exact ⟨_, rfl⟩

theorem generateAll_ok (sha256 : String → List UInt8) (query : RecommendationQuery F)
    (tracks : List SnapshotTrack) (budgets : List (String × Int))
    (h : ∀ entry ∈ budgets, entry.1 ∈ generatorKeys) :
    ∃ batches, generateAll sha256 query tracks budgets = .ok batches := by
  induction budgets with
  | nil => exact ⟨[], rfl⟩
  | cons head rest ih =>
    obtain ⟨batches, hb⟩ := ih fun entry he => h entry (List.mem_cons_of_mem _ he)
    obtain ⟨candidates, hc⟩ :=
      generate_isSome sha256 query tracks (h head List.mem_cons_self) head.2
    refine ⟨candidates :: batches, ?_⟩
    unfold generateAll
    rw [hc, hb]
    rfl

theorem mem_pySlice {α : Type} {values : List α} {limit : Int} {a : α}
    (h : a ∈ pySlice values limit) : a ∈ values := by
  unfold pySlice at h
  split at h
  · exact List.mem_of_mem_take h
  · exact List.mem_of_mem_take h

theorem track_of_mem_batch {key : String} {row : SnapshotTrack → Option (F × Payload)}
    {tracks : List SnapshotTrack} {budget : Int} {candidate : Candidate F}
    (h : candidate ∈ batch key (rowsOf row tracks) budget) : candidate.track ∈ tracks := by
  unfold batch at h
  obtain ⟨entry, he, rfl⟩ := List.mem_map.mp h
  have hfst : entry.1 ∈ pySlice ((rowsOf row tracks).insertionSort rowBefore) budget :=
    List.fst_mem_of_mem_zipIdx he
  have hrow := (List.mem_insertionSort rowBefore).mp (mem_pySlice hfst)
  exact (mem_rowsOf.mp hrow).1

theorem track_of_mem_generateAll {sha256 : String → List UInt8} {query : RecommendationQuery F}
    {tracks : List SnapshotTrack} {budgets : List (String × Int)}
    {batches : List (List (Candidate F))}
    (h : generateAll sha256 query tracks budgets = .ok batches) {candidate : Candidate F}
    (hc : candidate ∈ batches.flatten) : candidate.track ∈ tracks := by
  induction budgets generalizing batches with
  | nil =>
    cases h
    cases hc
  | cons head rest ih =>
    unfold generateAll at h
    cases hg : generate sha256 query tracks head.1 head.2 with
    | none =>
      rw [hg] at h
      cases h
    | some candidates =>
      rw [hg] at h
      cases hr : generateAll sha256 query tracks rest with
      | error e =>
        rw [hr] at h
        cases h
      | ok others =>
        rw [hr] at h
        cases h
        rw [List.flatten_cons, List.mem_append] at hc
        rcases hc with hc | hc
        · obtain ⟨row, _, rfl⟩ := Option.map_eq_some_iff.mp hg
          exact track_of_mem_batch hc
        · exact ih hr hc

/-! ## the composer -/

/-- What the batches contributed for a recording, in their order. -/
def contributionsOf (candidates : List (Candidate F)) (recordingId : Uuid) :
    List (CandidateContribution F) :=
  (candidates.filter fun candidate => candidate.recordingId = recordingId).flatMap
    Candidate.contributions

/-- The composer's two tables after some candidates. -/
structure Gathered (candidates : List (Candidate F)) (pool : Pool F) : Prop where
  distinct : (pool.tracks.map SnapshotTrack.recordingId).Nodup
  mem_tracks : ∀ track ∈ pool.tracks, ∃ candidate ∈ candidates, candidate.track = track
  recorded : ∀ candidate ∈ candidates, candidate.recordingId ∈ pool.tracks.map SnapshotTrack.recordingId
  contributed : pool.contributions = contributionsOf candidates

theorem Gathered.add {candidates : List (Candidate F)} {pool : Pool F}
    (h : Gathered candidates pool) (candidate : Candidate F) :
    Gathered (candidates ++ [candidate]) (pool.add candidate) where
  distinct := by
    show (List.map _ (if _ then _ else _)).Nodup
    split
    · exact h.distinct
    · rename_i hnew
      rw [List.map_append, List.nodup_append]
      refine ⟨h.distinct, List.nodup_singleton _, ?_⟩
      intro a ha b hb hab
      rw [List.map_singleton, List.mem_singleton] at hb
      subst hab
      rw [hb] at ha
      exact hnew ha
  mem_tracks := by
    intro track ht
    change track ∈ (if _ then _ else _) at ht
    split at ht
    · obtain ⟨other, ho, he⟩ := h.mem_tracks track ht
      exact ⟨other, List.mem_append_left _ ho, he⟩
    · rcases List.mem_append.mp ht with ht | ht
      · obtain ⟨other, ho, he⟩ := h.mem_tracks track ht
        exact ⟨other, List.mem_append_left _ ho, he⟩
      · exact ⟨candidate, List.mem_append_right _ List.mem_cons_self, (List.mem_singleton.mp ht).symm⟩
  recorded := by
    intro other ho
    show _ ∈ List.map _ (if _ then _ else _)
    rcases List.mem_append.mp ho with ho | ho
    · have hold := h.recorded other ho
      split
      · exact hold
      · rw [List.map_append]
        exact List.mem_append_left _ hold
    · cases List.mem_singleton.mp ho
      split
      · rename_i hm
        exact hm
      · rw [List.map_append]
        exact List.mem_append_right _ List.mem_cons_self
  contributed := by
    funext recordingId
    show (if _ then _ else _) = _
    unfold contributionsOf
    rw [h.contributed, List.filter_append, List.flatMap_append]
    split
    · rename_i he
      rw [List.filter_cons_of_pos (by simpa using he.symm)]
      simp [contributionsOf]
    · rename_i hne
      rw [List.filter_cons_of_neg (by simpa using fun e => hne e.symm)]
      simp [contributionsOf]

theorem Gathered.foldl {candidates : List (Candidate F)} {pool : Pool F}
    (h : Gathered candidates pool) (more : List (Candidate F)) :
    Gathered (candidates ++ more) (more.foldl Pool.add pool) := by
  induction more generalizing candidates pool with
  | nil =>
    rw [List.append_nil]
    exact h
  | cons candidate more ih =>
    have hnext := ih (h.add candidate)
    rw [List.append_assoc] at hnext
    exact hnext

theorem collect_spec (batches : List (List (Candidate F))) :
    Gathered batches.flatten (collect batches) := by
  have hflat : collect batches = batches.flatten.foldl Pool.add ⟨[], fun _ => []⟩ :=
    List.foldl_flatten.symm
  have hnil : Gathered ([] : List (Candidate F)) ⟨[], fun _ => []⟩ :=
    ⟨List.nodup_nil, fun _ h => absurd h List.not_mem_nil,
      fun _ h => absurd h List.not_mem_nil, rfl⟩
  rw [hflat]
  exact hnil.foldl batches.flatten

theorem mem_compose {batches : List (List (Candidate F))} {candidate : Candidate F}
    (h : candidate ∈ compose batches) :
    (∃ other ∈ batches.flatten, other.track = candidate.track) ∧
      candidate.contributions = contributionsOf batches.flatten candidate.recordingId := by
  have hspec := collect_spec batches
  obtain ⟨track, ht, rfl⟩ := List.mem_map.mp h
  rw [List.mem_insertionSort] at ht
  exact ⟨hspec.mem_tracks track ht, congrFun hspec.contributed track.recordingId⟩

theorem compose_distinct (batches : List (List (Candidate F))) :
    ((compose batches).map Candidate.recordingId).Nodup := by
  have hids : (compose batches).map Candidate.recordingId =
      ((collect batches).tracks.insertionSort trackBefore).map SnapshotTrack.recordingId := by
    unfold compose
    rw [List.map_map]
    rfl
  rw [hids]
  have hperm := List.perm_insertionSort trackBefore (collect batches).tracks
  exact (hperm.map SnapshotTrack.recordingId).nodup_iff.mpr (collect_spec batches).distinct

theorem mem_compose_recordingId {batches : List (List (Candidate F))} {candidate : Candidate F}
    (h : candidate ∈ batches.flatten) :
    candidate.recordingId ∈ (compose batches).map Candidate.recordingId := by
  obtain ⟨track, ht, he⟩ := List.mem_map.mp ((collect_spec batches).recorded candidate h)
  refine List.mem_map.mpr
    ⟨⟨track, (collect batches).contributions track.recordingId⟩, List.mem_map.mpr ⟨track, ?_, rfl⟩, he⟩
  rw [List.mem_insertionSort]
  exact ht

/-! ## the scored pool -/

/-- The pool the reranker gets. -/
def scoredPool (sha256 : String → List UInt8) (query : RecommendationQuery F)
    (batches : List (List (Candidate F))) : List (ScoredCandidate F) :=
  (score query (applyFilter query (compose batches))).insertionSort (itemBefore sha256 query)

section pool
variable {sha256 : String → List UInt8} {query : RecommendationQuery F}
  {batches : List (List (Candidate F))}

theorem mem_scoredPool {item : ScoredCandidate F} :
    item ∈ scoredPool sha256 query batches ↔ ∃ candidate ∈ compose batches,
      passes query.surface candidate.track = true ∧ scoreCandidate query candidate = item := by
  unfold scoredPool score applyFilter
  rw [List.mem_insertionSort, List.mem_map]
  simp only [List.mem_filter, and_assoc]

theorem scoredPool_distinct :
    ((scoredPool sha256 query batches).map ScoredCandidate.recordingId).Nodup := by
  have hperm := List.perm_insertionSort (itemBefore sha256 query)
    (score query (applyFilter query (compose batches)))
  have hids : (score query (applyFilter query (compose batches))).map ScoredCandidate.recordingId =
      (applyFilter query (compose batches)).map Candidate.recordingId := by
    unfold score
    rw [List.map_map]
    rfl
  apply (hperm.map ScoredCandidate.recordingId).nodup_iff.mpr
  rw [hids]
  exact (compose_distinct batches).sublist (List.filter_sublist.map _)

theorem scoredPool_sorted : (scoredPool sha256 query batches).Pairwise (itemBefore sha256 query) :=
  List.pairwise_insertionSort _ _

end pool

/-! ## the reranker -/

/-- The artist, and the release if there is one. -/
def capKeys (item : ScoredCandidate F) : List (String ⊕ String) :=
  .inl item.candidate.track.artistKey :: (item.candidate.track.releaseKey.map Sum.inr).toList

def capOf (pipeline : PipelineDefinition) : String ⊕ String → Int
  | .inl _ => pipeline.maxArtistRepeat
  | .inr _ => pipeline.maxReleaseRepeat

theorem mem_capKeys_artist {item : ScoredCandidate F} {artist : String} :
    Sum.inl artist ∈ capKeys item ↔ item.candidate.track.artistKey = artist := by
  unfold capKeys
  cases item.candidate.track.releaseKey <;> simp [eq_comm]

theorem mem_capKeys_release {item : ScoredCandidate F} {release : String} :
    Sum.inr release ∈ capKeys item ↔ item.candidate.track.releaseKey = some release := by
  unfold capKeys
  cases item.candidate.track.releaseKey <;> simp [eq_comm]

theorem full_iff (pipeline : PipelineDefinition) (selected : List (ScoredCandidate F))
    (item : ScoredCandidate F) :
    Greedy.full capKeys (capOf pipeline) selected item = true ↔
      pipeline.maxArtistRepeat ≤
          (Greedy.used capKeys (.inl item.candidate.track.artistKey) selected : Int) ∨
        ∃ release, item.candidate.track.releaseKey = some release ∧
          pipeline.maxReleaseRepeat ≤ (Greedy.used capKeys (.inr release) selected : Int) := by
  unfold Greedy.full
  rw [List.any_eq_true]
  constructor
  · rintro ⟨key, hk, hc⟩
    have hcap := of_decide_eq_true hc
    cases key with
    | inl artist =>
      rw [mem_capKeys_artist] at hk
      subst hk
      exact Or.inl hcap
    | inr release => exact Or.inr ⟨release, mem_capKeys_release.mp hk, hcap⟩
  · rintro (hcap | ⟨release, hr, hcap⟩)
    · exact ⟨_, mem_capKeys_artist.mpr rfl, decide_eq_true hcap⟩
    · exact ⟨_, mem_capKeys_release.mpr hr, decide_eq_true hcap⟩

/-- The counters count what is selected. -/
def Counts (artistCounts releaseCounts : Counter) (selected : List (ScoredCandidate F)) : Prop :=
  (∀ artist, artistCounts artist = Greedy.used capKeys (.inl artist) selected) ∧
    ∀ release, releaseCounts release = Greedy.used capKeys (.inr release) selected

theorem used_artist (item : ScoredCandidate F) (artist : String) :
    Greedy.used capKeys (.inl artist) [item] =
      if artist = item.candidate.track.artistKey then 1 else 0 := by
  unfold Greedy.used
  rw [List.countP_singleton]
  simp only [mem_capKeys_artist, decide_eq_true_eq, eq_comm (a := artist)]

theorem used_release (item : ScoredCandidate F) (release : String) :
    Greedy.used capKeys (.inr release) [item] =
      if item.candidate.track.releaseKey = some release then 1 else 0 := by
  unfold Greedy.used
  rw [List.countP_singleton]
  simp only [mem_capKeys_release, decide_eq_true_eq]

theorem Counts.append {artistCounts releaseCounts : Counter} {selected : List (ScoredCandidate F)}
    (h : Counts artistCounts releaseCounts selected) (item : ScoredCandidate F) :
    Counts (artistCounts.increment item.candidate.track.artistKey)
      (countRelease releaseCounts item.candidate.track.releaseKey) (selected ++ [item]) := by
  constructor
  · intro artist
    rw [Greedy.used_append, used_artist]
    unfold Counter.increment
    rw [h.1 artist]
    split <;> push_cast <;> omega
  · intro release
    rw [Greedy.used_append, used_release]
    cases hr : item.candidate.track.releaseKey with
    | none =>
      rw [if_neg (fun hsome => by cases hsome)]
      exact h.2 release
    | some own =>
      show Counter.increment releaseCounts own release = _
      unfold Counter.increment
      rw [h.2 release]
      simp only [Option.some.injEq, eq_comm]
      split <;> push_cast <;> omega

theorem Counts.full_iff {artistCounts releaseCounts : Counter}
    {selected : List (ScoredCandidate F)} (h : Counts artistCounts releaseCounts selected)
    (pipeline : PipelineDefinition) (item : ScoredCandidate F) :
    Greedy.full capKeys (capOf pipeline) selected item = true ↔
      pipeline.maxArtistRepeat ≤ artistCounts item.candidate.track.artistKey ∨
        releaseFull releaseCounts pipeline.maxReleaseRepeat item.candidate.track.releaseKey = true := by
  rw [Recommend.full_iff, h.1]
  cases item.candidate.track.releaseKey with
  | none => simp [releaseFull]
  | some release => simp [releaseFull, h.2]

/-- The loop of the reranker selects with the two caps. -/
theorem diversify_eq (pipeline : PipelineDefinition) (limit : Int) {artistCounts releaseCounts : Counter}
    {selected : List (ScoredCandidate F)} (h : Counts artistCounts releaseCounts selected)
    (hl : 0 ≤ limit) (items : List (ScoredCandidate F)) :
    diversify pipeline limit artistCounts releaseCounts selected items =
      Greedy.select capKeys (capOf pipeline) limit.toNat selected items := by
  induction items generalizing artistCounts releaseCounts selected with
  | nil => rfl
  | cons item items ih =>
    have hfull := h.full_iff pipeline item
    unfold diversify
    rw [Greedy.select_cons]
    by_cases ha : pipeline.maxArtistRepeat ≤ artistCounts item.candidate.track.artistKey
    · rw [if_pos ha, if_pos (hfull.mpr (Or.inl ha))]
      exact ih h
    · rw [if_neg ha]
      by_cases hr : releaseFull releaseCounts pipeline.maxReleaseRepeat
          item.candidate.track.releaseKey = true
      · rw [if_pos hr, if_pos (hfull.mpr (Or.inr hr))]
        exact ih h
      · rw [if_neg hr, if_neg fun hf => (hfull.mp hf).elim ha hr]
        have hlen : ((selected ++ [item]).length : Int) = limit ↔
            (selected ++ [item]).length = limit.toNat := by omega
        simp only [hlen, ih (h.append item)]

theorem counts_nil : Counts (F := F) (fun _ => 0) (fun _ => 0) [] :=
  ⟨fun _ => rfl, fun _ => rfl⟩

/-! ## the returned list -/

theorem map_ranked {β : Type} (f : RankedRecommendation F → β) (g : ScoredCandidate F → β)
    (h : ∀ item rank, f (ranked (item, rank)) = g item) (items : List (ScoredCandidate F)) (n : Nat) :
    ((items.zipIdx n).map ranked).map f = items.map g := by
  induction items generalizing n with
  | nil => rfl
  | cons item items ih => exact congrArg₂ List.cons (h item n) (ih (n + 1))

theorem map_sourceRank (items : List (ScoredCandidate F)) (n : Nat) :
    ((items.zipIdx n).map ranked).map RankedRecommendation.sourceRank =
      List.range' n items.length := by
  induction items generalizing n with
  | nil => rfl
  | cons item items ih => exact congrArg (List.cons n) (ih (n + 1))

theorem countP_ranked (p : RankedRecommendation F → Bool) (q : ScoredCandidate F → Bool)
    (h : ∀ item rank, p (ranked (item, rank)) = q item) (items : List (ScoredCandidate F)) (n : Nat) :
    ((items.zipIdx n).map ranked).countP p = items.countP q := by
  have hmap := map_ranked p q h items n
  have hcount : ∀ {α : Type} (f : α → Bool) (l : List α), l.countP f = (l.map f).countP id := by
    intro α f l
    rw [List.countP_map]
    rfl
  rw [hcount p, hcount q, hmap]

theorem ranked_prefix {items more : List (ScoredCandidate F)} (h : items <+: more) (n : Nat) :
    (items.zipIdx n).map ranked <+: (more.zipIdx n).map ranked := by
  obtain ⟨rest, rfl⟩ := h
  rw [List.zipIdx_append, List.map_append]
  exact List.prefix_append _ _

def byArtist (items : List (RankedRecommendation F)) (artist : String) : Nat :=
  items.countP fun item => decide (item.artistKey = artist)

def byRelease (items : List (RankedRecommendation F)) (release : String) : Nat :=
  items.countP fun item => decide (item.releaseKey = some release)

theorem byArtist_ranked (items : List (ScoredCandidate F)) (n : Nat) (artist : String) :
    byArtist ((items.zipIdx n).map ranked) artist = Greedy.used capKeys (.inl artist) items := by
  apply countP_ranked
  intro item rank
  exact decide_eq_decide.mpr mem_capKeys_artist.symm

theorem byRelease_ranked (items : List (ScoredCandidate F)) (n : Nat) (release : String) :
    byRelease ((items.zipIdx n).map ranked) release = Greedy.used capKeys (.inr release) items := by
  apply countP_ranked
  intro item rank
  exact decide_eq_decide.mpr mem_capKeys_release.symm

/-- What the caller may rely on. -/
structure OutputLaws (sha256 : String → List UInt8) (query : RecommendationQuery F)
    (snapshot : RecommendationInputSnapshot) (pipeline : PipelineDefinition)
    (out : List (RankedRecommendation F)) : Prop where
  short : (out.length : Int) ≤ query.limit
  distinct : (out.map RankedRecommendation.recordingId).Nodup
  ranks : out.map RankedRecommendation.sourceRank = List.range' 1 out.length
  ordered : out.Pairwise fun a b => b.score ≤ a.score
  permitted : ∀ item ∈ out, ∃ track ∈ snapshot.tracks, track.recordingId = item.recordingId ∧
    track.artistKey = item.artistKey ∧ track.releaseKey = item.releaseKey ∧
    passes query.surface track = true
  artists : ∀ item ∈ out, (byArtist out item.artistKey : Int) ≤ pipeline.maxArtistRepeat
  releases : ∀ item ∈ out, ∀ release, item.releaseKey = some release →
    (byRelease out release : Int) ≤ pipeline.maxReleaseRepeat
  /-- A scored candidate that is left out stands behind a full list, or behind enough chosen
  items of its artist or of its release. -/
  maximal : ∀ pool, candidatePool sha256 query snapshot pipeline = .ok pool →
    pool.Pairwise (itemBefore sha256 query) ∧
    ∀ higher item lower, pool = higher ++ item :: lower →
      item.recordingId ∉ out.map RankedRecommendation.recordingId →
      ∃ chosen, chosen <+: out ∧
        (∀ above ∈ chosen, above.recordingId ∈ higher.map ScoredCandidate.recordingId) ∧
        ((chosen.length : Int) = query.limit ∨
          pipeline.maxArtistRepeat ≤ (byArtist chosen item.candidate.track.artistKey : Int) ∨
          ∃ release, item.candidate.track.releaseKey = some release ∧
            pipeline.maxReleaseRepeat ≤ (byRelease chosen release : Int))
  /-- The pool holds whatever a generator gave and the filter lets through. -/
  pooled : ∀ batches pool,
    generateAll sha256 query snapshot.tracks pipeline.generatorBudgets = .ok batches →
    candidatePool sha256 query snapshot pipeline = .ok pool →
    ∀ candidate ∈ batches.flatten, passes query.surface candidate.track = true →
      candidate.recordingId ∈ pool.map ScoredCandidate.recordingId
  contributed : ∀ batches,
    generateAll sha256 query snapshot.tracks pipeline.generatorBudgets = .ok batches →
    ∀ item ∈ out, item.contributions = contributionsOf batches.flatten item.recordingId

section output
variable {sha256 : String → List UInt8} {query : RecommendationQuery F}
  {snapshot : RecommendationInputSnapshot} {pipeline : PipelineDefinition}
  {batches : List (List (Candidate F))}

/-- The selected items, before they get their ranks. -/
def selection (sha256 : String → List UInt8) (query : RecommendationQuery F)
    (pipeline : PipelineDefinition) (batches : List (List (Candidate F))) :
    List (ScoredCandidate F) :=
  Greedy.select capKeys (capOf pipeline) query.limit.toNat [] (scoredPool sha256 query batches)

theorem candidatePool_of (h : generateAll sha256 query snapshot.tracks pipeline.generatorBudgets =
    .ok batches) :
    candidatePool sha256 query snapshot pipeline = .ok (scoredPool sha256 query batches) := by
  unfold candidatePool
  rw [h]
  rfl

theorem run_of (h : generateAll sha256 query snapshot.tracks pipeline.generatorBudgets =
    .ok batches) :
    run sha256 query snapshot pipeline =
      .ok (((selection sha256 query pipeline batches).zipIdx 1).map ranked) := by
  have hlimit : 0 ≤ query.limit := by
    have := query.limit_range.1
    omega
  unfold run
  rw [candidatePool_of h]
  show Except.ok (rerank _ _ _ _ _) = _
  unfold rerank selection
  dsimp only
  rw [List.Pairwise.insertionSort_eq scoredPool_sorted, diversify_eq pipeline _ counts_nil hlimit]

theorem selection_sublist :
    (selection sha256 query pipeline batches).Sublist (scoredPool sha256 query batches) :=
  Greedy.select_sublist _ _ _ _

theorem limit_pos (query : RecommendationQuery F) : 0 < query.limit.toNat := by
  have := query.limit_range.1
  omega

theorem selection_caps (item : ScoredCandidate F)
    (hi : item ∈ selection sha256 query pipeline batches) (key : String ⊕ String)
    (hk : key ∈ capKeys item) :
    (Greedy.used capKeys key (selection sha256 query pipeline batches) : Int) ≤
      capOf pipeline key :=
  Greedy.count_select_le capKeys (capOf pipeline) _ (fun _ hb => absurd hb List.not_mem_nil) _ item
    hi key hk

theorem mem_ranked {items : List (ScoredCandidate F)} {n : Nat} {out : RankedRecommendation F}
    (h : out ∈ (items.zipIdx n).map ranked) : ∃ item ∈ items, ∃ rank, ranked (item, rank) = out := by
  obtain ⟨entry, he, rfl⟩ := List.mem_map.mp h
  exact ⟨entry.1, List.fst_mem_of_mem_zipIdx he, entry.2, rfl⟩

theorem selection_maximal {higher lower : List (ScoredCandidate F)} {item : ScoredCandidate F}
    (hpool : scoredPool sha256 query batches = higher ++ item :: lower)
    (hout : item.recordingId ∉
      (selection sha256 query pipeline batches).map ScoredCandidate.recordingId) :
    ∃ chosen, chosen <+: selection sha256 query pipeline batches ∧ chosen.Sublist higher ∧
      (chosen.length = query.limit.toNat ∨
        Greedy.full capKeys (capOf pipeline) chosen item = true) := by
  have hmax := Greedy.select_maximal capKeys (capOf pipeline) query.limit.toNat (limit_pos query)
    higher lower item
  unfold selection at hout ⊢
  rw [hpool] at hout ⊢
  obtain ⟨hinit, hwhy⟩ := hmax fun hm => hout (List.mem_map_of_mem hm)
  exact ⟨_, hinit, Greedy.select_sublist _ _ _ _, hwhy⟩

theorem selection_laws (h : generateAll sha256 query snapshot.tracks pipeline.generatorBudgets =
    .ok batches) :
    OutputLaws sha256 query snapshot pipeline
      (((selection sha256 query pipeline batches).zipIdx 1).map ranked) where
  short := by
    have hlen := @Greedy.length_select_le _ _ _ capKeys (capOf pipeline) query.limit.toNat []
      (limit_pos query) (scoredPool sha256 query batches)
    rw [List.length_map, List.length_zipIdx]
    have hpos := query.limit_range.1
    unfold selection
    omega
  distinct := by
    rw [map_ranked _ ScoredCandidate.recordingId fun _ _ => rfl]
    exact scoredPool_distinct.sublist (selection_sublist.map _)
  ranks := by
    rw [map_sourceRank, List.length_map, List.length_zipIdx]
  ordered := by
    have hsorted := scoredPool_sorted.sublist
      (@selection_sublist F _ sha256 query pipeline batches)
    have hscores : ((selection sha256 query pipeline batches).map ScoredCandidate.score).Pairwise
        fun a b => b ≤ a := by
      rw [List.pairwise_map]
      exact hsorted.imp fun hb => Before.value_le _ _ hb
    rw [← map_ranked RankedRecommendation.score ScoredCandidate.score (fun _ _ => rfl) _ 1,
      List.pairwise_map] at hscores
    exact hscores
  permitted := by
    intro out hout
    obtain ⟨item, hi, rank, rfl⟩ := mem_ranked hout
    obtain ⟨candidate, hc, hpass, rfl⟩ := mem_scoredPool.mp (selection_sublist.subset hi)
    obtain ⟨other, ho, he⟩ := (mem_compose hc).1
    have htrack := track_of_mem_generateAll h ho
    rw [he] at htrack
    exact ⟨candidate.track, htrack, rfl, rfl, rfl, hpass⟩
  artists := by
    intro out hout
    obtain ⟨item, hi, rank, rfl⟩ := mem_ranked hout
    rw [byArtist_ranked]
    exact selection_caps item hi _ (mem_capKeys_artist.mpr rfl)
  releases := by
    intro out hout release hr
    obtain ⟨item, hi, rank, rfl⟩ := mem_ranked hout
    rw [byRelease_ranked]
    exact selection_caps item hi _ (mem_capKeys_release.mpr hr)
  maximal := by
    intro pool hpool
    rw [candidatePool_of h] at hpool
    cases hpool
    refine ⟨scoredPool_sorted, ?_⟩
    intro higher item lower hsplit hout
    rw [map_ranked _ ScoredCandidate.recordingId fun _ _ => rfl] at hout
    obtain ⟨chosen, hinit, hsub, hwhy⟩ := selection_maximal hsplit hout
    refine ⟨(chosen.zipIdx 1).map ranked, ranked_prefix hinit 1, ?_, ?_⟩
    · intro above ha
      obtain ⟨picked, hp, rank, rfl⟩ := mem_ranked ha
      exact List.mem_map_of_mem (hsub.subset hp)
    · rw [List.length_map, List.length_zipIdx, byArtist_ranked]
      simp only [byRelease_ranked]
      rcases hwhy with hlen | hfull
      · have hpos := query.limit_range.1
        exact Or.inl (by omega)
      · exact Or.inr ((full_iff pipeline chosen item).mp hfull)
  pooled := by
    intro batches' pool hb hpool candidate hc hpass
    rw [h] at hb
    cases hb
    rw [candidatePool_of h] at hpool
    cases hpool
    obtain ⟨merged, hm, hid⟩ := List.mem_map.mp (mem_compose_recordingId hc)
    obtain ⟨other, ho, he⟩ := (mem_compose hm).1
    have htrack : merged.track = candidate.track :=
      eq_of_recordingId snapshot.distinct (he ▸ track_of_mem_generateAll h ho)
        (track_of_mem_generateAll h hc) hid
    refine List.mem_map.mpr ⟨scoreCandidate query merged, mem_scoredPool.mpr ⟨merged, hm, ?_, rfl⟩, hid⟩
    rw [htrack]
    exact hpass
  contributed := by
    intro batches' hb out hout
    rw [h] at hb
    cases hb
    obtain ⟨item, hi, rank, rfl⟩ := mem_ranked hout
    obtain ⟨candidate, hc, _, rfl⟩ := mem_scoredPool.mp (selection_sublist.subset hi)
    exact (mem_compose hc).2

end output

/-- With a generator for every budget, the runner returns a list with these laws, the same list
for the same tracks in any order. -/
theorem run_output (sha256 : String → List UInt8) (query : RecommendationQuery F)
    (snapshot : RecommendationInputSnapshot) (pipeline : PipelineDefinition)
    (registered : ∀ entry ∈ pipeline.generatorBudgets, entry.1 ∈ generatorKeys) :
    ∃ out, run sha256 query snapshot pipeline = .ok out ∧
      OutputLaws sha256 query snapshot pipeline out ∧
      ∀ snapshot' : RecommendationInputSnapshot, snapshot.tracks.Perm snapshot'.tracks →
        run sha256 query snapshot' pipeline = .ok out := by
  obtain ⟨batches, hb⟩ := generateAll_ok sha256 query snapshot.tracks _ registered
  refine ⟨_, run_of hb, selection_laws hb, ?_⟩
  intro snapshot' hperm
  apply run_of
  rw [← generateAll_perm sha256 query hperm snapshot.distinct]
  exact hb

/-! ## two liked tracks of one release -/

/-- Half to even, at eight decimals. -/
def roundEight (q : ℚ) : ℚ :=
  let floor : Int := (q * 10 ^ 8).floor
  let rest : ℚ := q * 10 ^ 8 - floor
  let nearest : Int := if rest < 1 / 2 then floor else if 1 / 2 < rest then floor + 1
    else if floor % 2 = 0 then floor else floor + 1
  nearest / 10 ^ 8

/-- Exact arithmetic, which floats agree with on the numbers below. -/
instance rationalFloat : PyFloat ℚ where
  total := le_total
  decideLE a b := inferInstanceAs (Decidable (a ≤ b))
  lit q := q
  ofInt i := i
  quotient a b := a / b
  round8 := roundEight

def firstTrackId : Uuid := ⟨"00000000-0000-4000-8000-00000000000a", Eq.refl true⟩
def secondTrackId : Uuid := ⟨"00000000-0000-4000-8000-00000000000b", Eq.refl true⟩

/-- The digests of the two seeded texts. -/
def twoDigests (text : String) : List UInt8 :=
  if text = "7:00000000-0000-4000-8000-00000000000a" then
    [201, 61, 82, 91, 15, 218, 195, 191, 66, 101, 240, 70, 16, 136, 185, 9, 94, 42, 238, 123, 48,
    131, 248, 215, 228, 218, 94, 107, 165, 205, 217, 147]
  else if text = "7:00000000-0000-4000-8000-00000000000b" then
    [192, 43, 58, 58, 41, 123, 208, 95, 25, 254, 247, 23, 115, 188, 186, 32, 37, 112, 161, 49,
    10, 214, 123, 84, 140, 109, 128, 165, 249, 152, 250, 213]
  else []

def likedTrack (recordingId : Uuid) : SnapshotTrack :=
  { recordingId := recordingId, userTrackRefId := none, artistKey := "artist",
    releaseKey := some "release", metadataTokens := ["jazz"], availability := "LOCAL",
    authorized := true, identityStatus := "ACTIVE", preference := "LIKED", excluded := false,
    playCount := 0, organicPlayCount := 0, recommendedPlayCount := 0, lastPlayedAtMs := none,
    addedAtMs := 0, releaseDateOrdinal := none }

def twoTracks : RecommendationInputSnapshot :=
  ⟨[likedTrack firstTrackId, likedTrack secondTrackId], by decide +kernel⟩

def seededQuery : RecommendationQuery ℚ :=
  { userId := firstTrackId, surface := .home, context := "GENERAL", limit := 25,
    exploration := 1 / 5, seed := 7, schemaVersion := 1, canonicalizationVersion := 1,
    shadow := false, context_supported := by decide, limit_range := by decide,
    exploration_range := by constructor <;> decide +kernel, version_one := by decide }

theorem run_output_two_tracks :
    ∃ out, run twoDigests seededQuery twoTracks ⟨[("preferences", 10)], 2, 1⟩ = .ok out ∧
      OutputLaws twoDigests seededQuery twoTracks ⟨[("preferences", 10)], 2, 1⟩ out ∧
      ∀ snapshot' : RecommendationInputSnapshot, twoTracks.tracks.Perm snapshot'.tracks →
        run twoDigests seededQuery snapshot' ⟨[("preferences", 10)], 2, 1⟩ = .ok out :=
  run_output twoDigests seededQuery twoTracks ⟨[("preferences", 10)], 2, 1⟩ (by decide)

/-- A budget without a generator: no list. -/
theorem unregistered_generator : ¬ ∃ out,
    run twoDigests seededQuery twoTracks ⟨[("embeddings", 10)], 2, 1⟩ = .ok out := by
  rintro ⟨out, h⟩
  cases h

-- the second track of the release is not taken
example : (run twoDigests seededQuery twoTracks ⟨[("preferences", 10)], 2, 1⟩).map List.length =
    .ok 1 := by decide +kernel

end AutPlay.Recommend
