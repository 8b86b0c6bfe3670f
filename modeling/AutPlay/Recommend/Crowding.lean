import AutPlay.Recommend.Output
import AutPlay.Lib.SortKeys

/-!
# Which tracks reach the pool

The generators cut off at their budgets before the mandatory filter has seen a track.

* `InBudget`             fewer accepted tracks than the budget rank ahead of a track;
* `mem_batch_iff`        it is what a generator returns;
* `PoolLaws`             what is in the pool: the ineligible tracks that rank ahead are counted in;
* `eligible_crowded_out` a thousand tracks of the vault keep a local one out of an offline pack.
-/

set_option linter.unusedSectionVars false

namespace AutPlay.Recommend

open AutPlay.Sync (Uuid Json Payload)

variable {F : Type} [PyFloat F]

/-! ## one generator -/

/-- How many of `count` values `values[:limit]` leaves. -/
def places (limit : Int) (count : Nat) : Nat :=
  if 0 ≤ limit then limit.toNat else count - limit.natAbs

theorem pySlice_eq {α : Type} (values : List α) (limit : Int) :
    pySlice values limit = values.take (places limit values.length) := by
  unfold pySlice places
  split <;> rfl

/-- The tracks of a generator's batch. -/
def batchTracks (row : SnapshotTrack → Option (F × Payload)) (tracks : List SnapshotTrack)
    (key : String) (budget : Int) : List SnapshotTrack :=
  (batch key (rowsOf row tracks) budget).map Candidate.track

/-- How many of the accepted tracks rank ahead of one with these values. -/
def ahead (row : SnapshotTrack → Option (F × Payload)) (tracks : List SnapshotTrack) (r : Row F) : Nat :=
  (rowsOf row tracks).countP fun x => ¬ rowBefore r x

/-- A track is accepted, and fewer accepted tracks than the budget rank ahead of it. -/
def InBudget (row : SnapshotTrack → Option (F × Payload)) (tracks : List SnapshotTrack) (budget : Int)
    (track : SnapshotTrack) : Prop :=
  ∃ values, row track = some values ∧
    ahead row tracks (track, values) < places budget (rowsOf row tracks).length

section
variable {row : SnapshotTrack → Option (F × Payload)} {tracks : List SnapshotTrack}

theorem rowsOf_nodup (distinct : (tracks.map SnapshotTrack.recordingId).Nodup) :
    (rowsOf row tracks).Nodup := by
  refine List.Nodup.filterMap ?_ (List.Nodup.of_map _ distinct)
  intro a b r ha hb
  obtain ⟨_, _, rfl⟩ := Option.map_eq_some_iff.mp ha
  obtain ⟨_, _, heq⟩ := Option.map_eq_some_iff.mp hb
  exact (congrArg Prod.fst heq).symm

theorem rowBefore_one (distinct : (tracks.map SnapshotTrack.recordingId).Nodup) :
    ∀ a ∈ rowsOf row tracks, ∀ b ∈ rowsOf row tracks, rowBefore a b → rowBefore b a → a = b := by
  intro a ha b hb hab hba
  have hid := Before.key_eq (fun row : Row F => row.2.1) (fun row => row.1.recordingId) hab hba
  rw [mem_rowsOf] at ha hb
  have htrack := eq_of_recordingId distinct ha.1 hb.1 hid
  have hvalue := ha.2.symm.trans ((congrArg row htrack).trans hb.2)
  exact Prod.ext htrack (Option.some.inj hvalue)

theorem batchTracks_eq (key : String) (budget : Int) :
    batchTracks row tracks key budget =
      (((rowsOf row tracks).insertionSort rowBefore).take
        (places budget (rowsOf row tracks).length)).map Prod.fst := by
  unfold batchTracks batch
  rw [List.map_map, pySlice_eq, List.length_insertionSort]
  generalize ((rowsOf row tracks).insertionSort rowBefore).take _ = rows
  have hfst : (Candidate.track ∘ candidateOf (F := F) key) = Prod.fst ∘ Prod.fst := rfl
  rw [hfst, ← List.map_map, List.zipIdx_map_fst]

/-- What a generator returns. -/
theorem mem_batch_iff (distinct : (tracks.map SnapshotTrack.recordingId).Nodup) (key : String)
    (budget : Int) {track : SnapshotTrack} :
    track ∈ batchTracks row tracks key budget ↔ track ∈ tracks ∧ InBudget row tracks budget track := by
  rw [batchTracks_eq, List.mem_map]
  constructor
  · rintro ⟨r, hr, rfl⟩
    have hmem := (List.mem_insertionSort _).mp (List.mem_of_mem_take hr)
    obtain ⟨htrack, hvalues⟩ := mem_rowsOf.mp hmem
    refine ⟨htrack, r.2, hvalues, ?_⟩
    exact (mem_take_insertionSort_iff rowBefore (rowsOf_nodup distinct) (rowBefore_one distinct)
      hmem _).mp hr
  · rintro ⟨htrack, values, hvalues, hahead⟩
    have hmem : (track, values) ∈ rowsOf row tracks := mem_rowsOf.mpr ⟨htrack, hvalues⟩
    exact ⟨(track, values), (mem_take_insertionSort_iff rowBefore (rowsOf_nodup distinct)
      (rowBefore_one distinct) hmem _).mpr hahead, rfl⟩

/-- Those ahead of a track are eligible or not. -/
theorem ahead_split (p : SnapshotTrack → Bool) (r : Row F) :
    ahead row tracks r =
      ahead row (tracks.filter p) r + ahead row (tracks.filter fun track => !p track) r := by
  unfold ahead
  induction tracks with
  | nil => rfl
  | cons track tracks ih =>
    have hcons (ts : List SnapshotTrack) : (rowsOf row (track :: ts)).countP (fun x => ¬ rowBefore r x) =
        (rowsOf row [track]).countP (fun x => ¬ rowBefore r x) +
          (rowsOf row ts).countP (fun x => ¬ rowBefore r x) := by
      rw [← List.countP_append]
      unfold rowsOf
      rw [← List.filterMap_append]
      rfl
    rw [hcons tracks, ih]
    cases hp : p track with
    | true =>
      rw [List.filter_cons_of_pos hp, List.filter_cons_of_neg (by simp [hp]), hcons (tracks.filter p)]
      omega
    | false =>
      rw [List.filter_cons_of_neg (by simp [hp]), List.filter_cons_of_pos (by simp [hp]),
        hcons (tracks.filter fun track => !p track)]
      omega

theorem ahead_lt_length {r : Row F} (hr : r ∈ rowsOf row tracks) :
    ahead row tracks r < (rowsOf row tracks).length := by
  refine List.countP_lt_length_iff.mpr ⟨r, hr, ?_⟩
  have hself : rowBefore r r := (Std.Total.total r r).elim id id
  simpa using hself

end

/-! ## the pool -/

/-- The batches hold what the generators return. -/
theorem mem_generateAll_iff {sha256 : String → List UInt8} {query : RecommendationQuery F}
    {tracks : List SnapshotTrack} {budgets : List (String × Int)} {batches : List (List (Candidate F))}
    (h : generateAll sha256 query tracks budgets = .ok batches) {track : SnapshotTrack} :
    track ∈ batches.flatten.map Candidate.track ↔
      ∃ entry ∈ budgets, ∃ row, generatorRow sha256 query tracks entry.1 = some row ∧
        track ∈ batchTracks row tracks entry.1 entry.2 := by
  induction budgets generalizing batches with
  | nil =>
    cases h
    constructor
    · intro hmem
      cases hmem
    · rintro ⟨entry, hentry, -⟩
      cases hentry
  | cons head rest ih =>
    unfold generateAll at h
    cases hg : generate sha256 query tracks head.1 head.2 with
    | none =>
      rw [hg] at h
      cases h
    | some candidates =>
      rw [hg] at h
      cases hr : generateAll sha256 query tracks rest with
      | error e =>
        rw [hr] at h
        cases h
      | ok others =>
        rw [hr] at h
        cases h
        obtain ⟨row, hrow, rfl⟩ := Option.map_eq_some_iff.mp hg
        rw [List.flatten_cons, List.map_append, List.mem_append, ih hr, List.exists_mem_cons_iff]
        refine or_congr ⟨fun hmem => ⟨row, hrow, hmem⟩, ?_⟩ Iff.rfl
        rintro ⟨row', hrow', hmem⟩
        rw [hrow] at hrow'
        cases hrow'
        exact hmem

theorem mem_compose_track {batches : List (List (Candidate F))} {track : SnapshotTrack}
    (one : ∀ a ∈ batches.flatten, ∀ b ∈ batches.flatten, a.recordingId = b.recordingId →
      a.track = b.track) :
    track ∈ (compose batches).map Candidate.track ↔ track ∈ batches.flatten.map Candidate.track := by
  rw [List.mem_map, List.mem_map]
  constructor
  · rintro ⟨candidate, hc, rfl⟩
    obtain ⟨other, hother, heq⟩ := (mem_compose hc).1
    exact ⟨other, hother, heq⟩
  · rintro ⟨candidate, hc, rfl⟩
    obtain ⟨kept, hkept, hid⟩ := List.mem_map.mp (mem_compose_recordingId hc)
    obtain ⟨other, hother, heq⟩ := (mem_compose hkept).1
    refine ⟨kept, hkept, ?_⟩
    rw [← heq]
    refine one other hother candidate hc ?_
    rw [← hid]
    exact congrArg SnapshotTrack.recordingId heq

theorem mem_scoredPool_track {sha256 : String → List UInt8} {query : RecommendationQuery F}
    {batches : List (List (Candidate F))} {track : SnapshotTrack} :
    track ∈ (scoredPool sha256 query batches).map (fun item => item.candidate.track) ↔
      passes query.surface track = true ∧ track ∈ (compose batches).map Candidate.track := by
  rw [List.mem_map, List.mem_map]
  constructor
  · rintro ⟨item, hitem, rfl⟩
    obtain ⟨candidate, hc, hpass, rfl⟩ := mem_scoredPool.mp hitem
    exact ⟨hpass, candidate, hc, rfl⟩
  · rintro ⟨hpass, candidate, hc, rfl⟩
    exact ⟨scoreCandidate query candidate, mem_scoredPool.mpr ⟨candidate, hc, hpass, rfl⟩, rfl⟩

/-- The eligible tracks of a snapshot. -/
def eligible (query : RecommendationQuery F) (snapshot : RecommendationInputSnapshot) :
    List SnapshotTrack := snapshot.tracks.filter fun track => passes query.surface track

/-- The tracks that the mandatory filter refuses. -/
def ineligible (query : RecommendationQuery F) (snapshot : RecommendationInputSnapshot) :
    List SnapshotTrack := snapshot.tracks.filter fun track => !passes query.surface track

/-- The tracks of the pool. -/
def poolTracks (pool : List (ScoredCandidate F)) : List SnapshotTrack :=
  pool.map fun item => item.candidate.track

/-- What a configured generator returns of the eligible tracks alone, with the scores of all. -/
def Promised (sha256 : String → List UInt8) (query : RecommendationQuery F)
    (snapshot : RecommendationInputSnapshot) (entry : String × Int)
    (row : SnapshotTrack → Option (F × Payload)) (track : SnapshotTrack) : Prop :=
  generatorRow sha256 query snapshot.tracks entry.1 = some row ∧
    track ∈ batchTracks row (eligible query snapshot) entry.1 entry.2

structure PoolLaws (sha256 : String → List UInt8) (query : RecommendationQuery F)
    (snapshot : RecommendationInputSnapshot) (pipeline : PipelineDefinition)
    (pool : List (ScoredCandidate F)) : Prop where
  /-- An eligible track is in the pool if some generator has it in its budget, with all counted. -/
  contents : ∀ track, track ∈ poolTracks pool ↔ track ∈ eligible query snapshot ∧
    ∃ entry ∈ pipeline.generatorBudgets, ∃ row,
      generatorRow sha256 query snapshot.tracks entry.1 = some row ∧
        InBudget row snapshot.tracks entry.2 track
  /-- What is promised is kept while the ineligible ones ahead of it leave a place. -/
  kept : ∀ entry ∈ pipeline.generatorBudgets, ∀ row track,
    Promised sha256 query snapshot entry row track → ∀ values, row track = some values →
      (ahead row (eligible query snapshot) (track, values) +
        ahead row (ineligible query snapshot) (track, values) : Int) < entry.2 →
      track ∈ poolTracks pool
  /-- A generator that accepts no more tracks than its budget crowds none out. -/
  roomy : ∀ entry ∈ pipeline.generatorBudgets, ∀ row track,
    Promised sha256 query snapshot entry row track →
      ((rowsOf row snapshot.tracks).length : Int) ≤ entry.2 → track ∈ poolTracks pool
  inhabited : pool ≠ [] ↔ ∃ track ∈ eligible query snapshot,
    ∃ entry ∈ pipeline.generatorBudgets, ∃ row,
      generatorRow sha256 query snapshot.tracks entry.1 = some row ∧
        InBudget row snapshot.tracks entry.2 track

section
variable {sha256 : String → List UInt8} {query : RecommendationQuery F}
  {snapshot : RecommendationInputSnapshot} {pipeline : PipelineDefinition}
  {pool : List (ScoredCandidate F)}

theorem mem_poolTracks_iff (h : candidatePool sha256 query snapshot pipeline = .ok pool)
    {track : SnapshotTrack} :
    track ∈ poolTracks pool ↔ track ∈ eligible query snapshot ∧
      ∃ entry ∈ pipeline.generatorBudgets, ∃ row,
        generatorRow sha256 query snapshot.tracks entry.1 = some row ∧
          InBudget row snapshot.tracks entry.2 track := by
  obtain ⟨batches, hbatches⟩ :
      ∃ batches, generateAll sha256 query snapshot.tracks pipeline.generatorBudgets = .ok batches := by
    unfold candidatePool at h
    cases hg : generateAll sha256 query snapshot.tracks pipeline.generatorBudgets with
    | error e =>
      rw [hg] at h
      cases h
    | ok batches => exact ⟨batches, rfl⟩
  rw [candidatePool_of hbatches] at h
  obtain rfl := Except.ok.inj h
  have one : ∀ a ∈ batches.flatten, ∀ b ∈ batches.flatten, a.recordingId = b.recordingId →
      a.track = b.track := fun a ha b hb hid =>
    eq_of_recordingId snapshot.distinct (track_of_mem_generateAll hbatches ha)
      (track_of_mem_generateAll hbatches hb) hid
  unfold poolTracks eligible
  rw [mem_scoredPool_track, mem_compose_track one, mem_generateAll_iff hbatches, List.mem_filter]
  constructor
  · rintro ⟨hpass, entry, hentry, row, hrow, hmem⟩
    obtain ⟨htrack, hbudget⟩ := (mem_batch_iff snapshot.distinct entry.1 entry.2).mp hmem
    exact ⟨⟨htrack, hpass⟩, entry, hentry, row, hrow, hbudget⟩
  · rintro ⟨⟨htrack, hpass⟩, entry, hentry, row, hrow, hbudget⟩
    exact ⟨hpass, entry, hentry, row, hrow,
      (mem_batch_iff snapshot.distinct entry.1 entry.2).mpr ⟨htrack, hbudget⟩⟩

theorem mem_eligible_of_promised {entry : String × Int} {row : SnapshotTrack → Option (F × Payload)}
    {track : SnapshotTrack} (h : Promised sha256 query snapshot entry row track) :
    track ∈ eligible query snapshot ∧ InBudget row (eligible query snapshot) entry.2 track := by
  have hdistinct : ((eligible query snapshot).map SnapshotTrack.recordingId).Nodup :=
    (List.filter_sublist.map _).nodup snapshot.distinct
  exact (mem_batch_iff hdistinct entry.1 entry.2).mp h.2

theorem places_of_lt {limit : Int} {count n : Nat} (h : (n : Int) < limit) : n < places limit count := by
  unfold places
  rw [if_pos (by omega)]
  omega

/-- What the pool holds. -/
theorem candidatePool_laws (h : candidatePool sha256 query snapshot pipeline = .ok pool) :
    PoolLaws sha256 query snapshot pipeline pool where
  contents := fun _ => mem_poolTracks_iff h
  kept := by
    intro entry hentry row track hpromised values hvalues hroom
    refine (mem_poolTracks_iff h).mpr ⟨(mem_eligible_of_promised hpromised).1, entry, hentry, row,
      hpromised.1, values, hvalues, places_of_lt ?_⟩
    rw [ahead_split fun track => passes query.surface track]
    exact_mod_cast hroom
  roomy := by
    intro entry hentry row track hpromised hroom
    obtain ⟨hmem, values, hvalues, -⟩ := mem_eligible_of_promised hpromised
    have htrack : track ∈ snapshot.tracks := (List.mem_filter.mp hmem).1
    have hlt := ahead_lt_length (mem_rowsOf.mpr ⟨htrack, hvalues⟩ :
      (track, values) ∈ rowsOf row snapshot.tracks)
    exact (mem_poolTracks_iff h).mpr ⟨hmem, entry, hentry, row, hpromised.1, values, hvalues,
      places_of_lt (by omega)⟩
  inhabited := by
    constructor
    · intro hne
      obtain ⟨item, hitem⟩ := List.exists_mem_of_ne_nil pool hne
      obtain ⟨hmem, hbudget⟩ := (mem_poolTracks_iff h).mp (List.mem_map_of_mem hitem)
      exact ⟨_, hmem, hbudget⟩
    · rintro ⟨track, hmem, hbudget⟩ rfl
      cases (mem_poolTracks_iff h).mpr ⟨hmem, hbudget⟩

end

/-- The budgets of `baseline_pipeline_definition`. -/
def baselinePipelineDefinition : PipelineDefinition where
  generatorBudgets := [("preferences", 1000), ("history", 1000), ("artist_release_metadata", 1000),
    ("freshness", 1000), ("exploration", 1000)]
  maxArtistRepeat := 2
  maxReleaseRepeat := 1

theorem candidatePool_laws_two_tracks : ∃ pool,
    candidatePool twoDigests seededQuery twoTracks baselinePipelineDefinition = .ok pool ∧
      PoolLaws twoDigests seededQuery twoTracks baselinePipelineDefinition pool :=
  ⟨_, rfl, candidatePool_laws rfl⟩

/-! ## a crowded snapshot -/

namespace Crowded

theorem fitsUuidFrom_of_isDigit {i : Nat} {cs : List Char} (hi : 24 ≤ i) (hlen : i + cs.length = 36)
    (hcs : ∀ c ∈ cs, c.isDigit = true) : Sync.fitsUuidFrom i cs = true := by
  induction cs generalizing i with
  | nil =>
    have : i = 36 := by simpa using hlen
    rw [this]
    rfl
  | cons c cs ih =>
    rw [List.length_cons] at hlen
    have hc : Sync.fitsUuidAt i c = true := by
      have hdigit := hcs c List.mem_cons_self
      unfold Sync.fitsUuidAt Sync.isHexLower
      rw [if_neg (by omega)]
      unfold Char.isDigit at hdigit
      rw [Bool.and_eq_true, decide_eq_true_iff, decide_eq_true_iff] at hdigit
      have hlow : decide ('0' ≤ c) = true := decide_eq_true hdigit.1
      have hhigh : decide (c ≤ '9') = true := decide_eq_true hdigit.2
      rw [hlow, hhigh]
      rfl
    have hrest := ih (i := i + 1) (by omega) (by omega) fun d hd => hcs d (List.mem_cons_of_mem _ hd)
    have hlt : decide (i < 36) = true := decide_eq_true (by omega)
    rw [Sync.fitsUuidFrom, hc, hrest, hlt]
    rfl

/-- The identifier that ends in a number. -/
def idOf (n : Nat) : Uuid where
  text := "00000000-0000-4000-8000-" ++ String.ofList (digits 12 n)
  canonical := by
    have hend : Sync.fitsUuidFrom 24 (digits 12 n) = true :=
      fitsUuidFrom_of_isDigit (Nat.le_refl _) (by rw [length_digits])
        fun c hc => isDigit_of_mem_digits hc
    have hbegin : "00000000-0000-4000-8000-".toList = ['0', '0', '0', '0', '0', '0', '0', '0', '-',
      '0', '0', '0', '0', '-', '4', '0', '0', '0', '-', '8', '0', '0', '0', '-'] := by decide
    unfold Sync.isCanonicalUuid
    rw [String.toList_append, hbegin, String.toList_ofList]
    simp [Sync.fitsUuidFrom, Sync.fitsUuidAt, Sync.isHexLower, hend]

theorem idOf_lt {m n : Nat} (h : m < n) (hn : n < 10 ^ 12) : idOf m < idOf n := by
  obtain ⟨p, c, d, s, t, hm, hn', -, -, -, hlt⟩ := exists_digit_lt h hn
  have htext (k : Nat) : (idOf k).text.toList = "00000000-0000-4000-8000-".toList ++ digits 12 k :=
    (String.toList_append ..).trans (congrArg _ String.toList_ofList)
  show (idOf m).text < (idOf n).text
  rw [String.lt_iff, htext, htext, hm, hn']
  exact List.append_left_lt (List.append_left_lt (List.cons_lt_cons_iff.mpr (.inl hlt)))

/-- A liked track of the vault that has been played often. -/
def vaultTrack (n : Nat) : SnapshotTrack :=
  { likedTrack (idOf n) with availability := "VAULT", playCount := 5 }

/-- The only track of the device. -/
def localTrack : SnapshotTrack := likedTrack (idOf 1000)

def vaultTracks : List SnapshotTrack := (List.range 1000).map vaultTrack

def snapshot : RecommendationInputSnapshot where
  tracks := vaultTracks ++ [localTrack]
  distinct := by
    have hids : (vaultTracks ++ [localTrack]).map SnapshotTrack.recordingId =
        (List.range 1001).map idOf := by
      rw [List.map_append, List.range_succ, List.map_append]
      unfold vaultTracks
      rw [List.map_map]
      rfl
    rw [hids]
    refine List.Nodup.map_on (fun m hm n hn heq => ?_) List.nodup_range
    rw [List.mem_range] at hm hn
    rcases Nat.lt_trichotomy m n with hlt | rfl | hlt
    · exact absurd heq (idOf_lt hlt (by omega)).ne
    · rfl
    · exact absurd heq (idOf_lt hlt (by omega)).ne'

theorem query_exploration : PyFloat.lit 0 ≤ (0 : ℚ) ∧ (0 : ℚ) ≤ PyFloat.lit 1 := by
  constructor <;> decide +kernel

/-- An offline pack without exploration. -/
def query : RecommendationQuery ℚ :=
  { userId := firstTrackId, surface := .offlinePack, context := "GENERAL", limit := 25,
    exploration := 0, seed := 7, schemaVersion := 1, canonicalizationVersion := 1,
    shadow := false, context_supported := seededQuery.context_supported,
    limit_range := seededQuery.limit_range, exploration_range := query_exploration,
    version_one := seededQuery.version_one }

theorem eligible_eq : eligible query snapshot = [localTrack] := by
  unfold eligible snapshot
  rw [List.filter_append]
  have hnone : vaultTracks.filter (fun track => passes query.surface track) = [] := by
    refine List.filter_eq_nil_iff.mpr fun track htrack => ?_
    obtain ⟨n, -, rfl⟩ := List.mem_map.mp htrack
    simp [passes, vaultTrack, likedTrack, query, allowed, offlineAvailability]
  rw [hnone]
  rfl

/-- A generator that ranks the vault ahead leaves no place. -/
theorem not_inBudget {row : SnapshotTrack → Option (ℚ × Payload)}
    (h : ∀ values, row localTrack = some values → ∀ n < 1000, ∃ others,
      row (vaultTrack n) = some others ∧ ¬ rowBefore (localTrack, values) (vaultTrack n, others)) :
    ¬ InBudget row snapshot.tracks 1000 localTrack := by
  rintro ⟨values, hvalues, hahead⟩
  have hall : (rowsOf row vaultTracks).countP (fun x => ¬ rowBefore (localTrack, values) x) = 1000 := by
    unfold rowsOf vaultTracks
    rw [List.countP_filterMap, List.countP_map]
    have hlen := List.length_range (n := 1000)
    refine (List.countP_eq_length.mpr fun n hn => ?_).trans hlen
    obtain ⟨others, hothers, hbefore⟩ := h values hvalues n (List.mem_range.mp hn)
    rw [Function.comp_apply, hothers]
    simpa using hbefore
  have hle : 1000 ≤ ahead row snapshot.tracks (localTrack, values) := by
    unfold ahead rowsOf
    show 1000 ≤ ((vaultTracks ++ [localTrack]).filterMap _).countP _
    rw [List.filterMap_append, List.countP_append, ← hall]
    exact Nat.le_add_right _ _
  have hplaces : places 1000 (rowsOf row snapshot.tracks).length = 1000 := rfl
  omega

/-- Of equal values those of the smaller identifier come first. -/
theorem same_behind (values : ℚ × Payload) {n : Nat} (hn : n < 1000) :
    ¬ rowBefore (localTrack, values) (vaultTrack n, values) := by
  have hlt : idOf n < idOf 1000 := idOf_lt hn (by decide)
  rintro (h | ⟨-, h⟩)
  · exact h (le_refl values.1)
  · exact absurd h (not_le_of_gt hlt)

theorem played_before {values : ℚ × Payload} (h : preferenceRow localTrack = some values) (n : Nat) :
    ∃ others, preferenceRow (vaultTrack n) = some others ∧
      ¬ rowBefore (localTrack, values) (vaultTrack n, others) := by
  have hvalues : values = ((1 + 0.05 * (0 : Int) : ℚ), [("preference", .str "LIKE")]) :=
    (Option.some.inj h).symm
  have hle : (1 + 0.05 * (0 : Int) : ℚ) ≤ 1 + 0.05 * (5 : Int) := by decide +kernel
  have hnot : ¬ (1 + 0.05 * (5 : Int) : ℚ) ≤ 1 + 0.05 * (0 : Int) := by decide +kernel
  refine ⟨((1 + 0.05 * (5 : Int) : ℚ), [("preference", .str "LIKE")]), rfl, ?_⟩
  rw [hvalues]
  rintro (hless | ⟨hmore, -⟩)
  · exact hless hle
  · exact hnot hmore

/-- The local track was never played. -/
theorem historyRow_local (anchor : Int) : historyRow query anchor localTrack = none := by
  unfold historyRow
  exact if_pos (Int.le_refl 0)

theorem artistReleaseMetadataRow_vault (prepared : BaselineUserRepresentation) (n : Nat) :
    artistReleaseMetadataRow (F := ℚ) prepared (vaultTrack n) =
      artistReleaseMetadataRow prepared localTrack := by
  have hartist : (vaultTrack n).artistKey = localTrack.artistKey := rfl
  have htokens : (vaultTrack n).metadataTokens = localTrack.metadataTokens := rfl
  have hrelease : (vaultTrack n).releaseKey = localTrack.releaseKey := rfl
  unfold artistReleaseMetadataRow
  rw [hartist, htokens, hrelease]

theorem freshnessRow_vault (prepared : BaselineUserRepresentation) (newest : Int) (n : Nat) :
    freshnessRow (F := ℚ) prepared newest (vaultTrack n) = freshnessRow prepared newest localTrack := by
  have hartist : (vaultTrack n).artistKey = localTrack.artistKey := rfl
  have hdate : (vaultTrack n).releaseDateOrdinal = localTrack.releaseDateOrdinal := rfl
  unfold freshnessRow
  rw [hartist, hdate]

/-- The local track is liked, and nothing is explored. -/
theorem explorationRow_local (sha256 : String → List UInt8) :
    explorationRow sha256 query localTrack = none := by
  unfold explorationRow
  refine if_neg ?_
  rintro (hliked | hexplored)
  · exact hliked rfl
  · exact hexplored (le_refl _)

end Crowded

section
variable (sha256 : String → List UInt8) (query : RecommendationQuery F) (tracks : List SnapshotTrack)

theorem generatorRow_preferences :
    generatorRow sha256 query tracks "preferences" = some preferenceRow := rfl

theorem generatorRow_history : generatorRow sha256 query tracks "history" =
    some (historyRow query (maxDefault (tracks.map SnapshotTrack.addedAtMs))) := rfl

theorem generatorRow_artistReleaseMetadata :
    generatorRow sha256 query tracks "artist_release_metadata" =
      some (artistReleaseMetadataRow (prepare tracks)) := rfl

theorem generatorRow_freshness : generatorRow sha256 query tracks "freshness" =
    some (freshnessRow (prepare tracks)
      (maxDefault (tracks.map fun track => track.releaseDateOrdinal.getD 0))) := rfl

theorem generatorRow_exploration :
    generatorRow sha256 query tracks "exploration" = some (explorationRow sha256 query) := rfl

end

/-- A thousand tracks of the vault take every place; the local track is not in the pool, which is
empty. -/
theorem eligible_crowded_out :
    candidatePool (fun _ => []) Crowded.query Crowded.snapshot baselinePipelineDefinition = .ok [] ∧
      Crowded.snapshot.tracks.length = 1001 ∧ ∃ row, Promised (fun _ => []) Crowded.query
        Crowded.snapshot ("preferences", 1000) row Crowded.localTrack := by
  refine ⟨?_, ?_, preferenceRow, rfl, ?_⟩
  · obtain ⟨batches, hbatches⟩ := generateAll_ok (fun _ => []) Crowded.query Crowded.snapshot.tracks
      baselinePipelineDefinition.generatorBudgets (by decide)
    have hpool := candidatePool_of hbatches
    rw [hpool]
    congr 1
    by_contra hne
    obtain ⟨item, hitem⟩ := List.exists_mem_of_ne_nil _ hne
    obtain ⟨hmem, entry, hentry, row, hrow, hbudget⟩ :=
      (mem_poolTracks_iff hpool).mp (List.mem_map_of_mem hitem)
    rw [Crowded.eligible_eq, List.mem_singleton] at hmem
    rw [hmem] at hbudget
    unfold baselinePipelineDefinition at hentry
    simp only [List.mem_cons, List.not_mem_nil, or_false] at hentry
    rcases hentry with rfl | rfl | rfl | rfl | rfl
    · -- played tracks are preferred
      rw [generatorRow_preferences] at hrow
      cases hrow
      exact Crowded.not_inBudget (fun values hvalues n _ => Crowded.played_before hvalues n) hbudget
    · rw [generatorRow_history] at hrow
      obtain ⟨values, hvalues, -⟩ := hbudget
      rw [← Option.some.inj hrow, Crowded.historyRow_local] at hvalues
      cases hvalues
    · rw [generatorRow_artistReleaseMetadata] at hrow
      refine Crowded.not_inBudget (fun values hvalues n hn => ⟨values, ?_, Crowded.same_behind values hn⟩)
        hbudget
      rw [← Option.some.inj hrow] at hvalues ⊢
      rw [Crowded.artistReleaseMetadataRow_vault, hvalues]
    · rw [generatorRow_freshness] at hrow
      refine Crowded.not_inBudget (fun values hvalues n hn => ⟨values, ?_, Crowded.same_behind values hn⟩)
        hbudget
      rw [← Option.some.inj hrow] at hvalues ⊢
      rw [Crowded.freshnessRow_vault, hvalues]
    · rw [generatorRow_exploration] at hrow
      obtain ⟨values, hvalues, -⟩ := hbudget
      rw [← Option.some.inj hrow, Crowded.explorationRow_local] at hvalues
      cases hvalues
  · show (Crowded.vaultTracks ++ [Crowded.localTrack]).length = 1001
    rw [List.length_append]
    unfold Crowded.vaultTracks
    rw [List.length_map, List.length_range]
    rfl
  · rw [Crowded.eligible_eq]
    have hone : ([Crowded.localTrack].map SnapshotTrack.recordingId).Nodup := List.nodup_singleton _
    refine (mem_batch_iff hone _ _).mpr ⟨List.mem_singleton.mpr rfl, _, rfl, ?_⟩
    refine Nat.lt_of_le_of_lt List.countP_le_length ?_
    decide

end AutPlay.Recommend
