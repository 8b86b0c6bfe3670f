import AutPlay.Lib.Greedy
import AutPlay.Imports.Identity
import Mathlib.Algebra.Order.Floor.Ring
import Mathlib.Tactic.Linarith
import Mathlib.Tactic.FieldSimp

/-!
# The best candidate of an import

Generation sorts by recording id, and the limit cuts that list off before anything is scored.

* `roundSix_of_millionths`, `confidence_le_one`     confidences are millionths, at most one;
* `BestKept`            the evaluation is that of all generated entries;
* `Retained`            what the limit has to leave in;
* `bestKept_iff`        the one is the other;
* `digest_cut_off`      the limit may cut off the bytes of the query.
-/

set_option linter.unusedSectionVars false

namespace AutPlay.Imports

open AutPlay.Sync (Uuid)

/-! ## rounding -/

theorem roundSix_of_millionths (n : Int) : roundSix ((n : ℚ) / 10 ^ 6) = n / 10 ^ 6 := by
  have hscale : (n : ℚ) / 10 ^ 6 * 10 ^ 6 = n := by
    field_simp
  unfold roundSix
  simp only [hscale]
  rw [Rat.floor_intCast]
  simp

theorem roundSix_millionths (q : ℚ) : ∃ n : Int, roundSix q = n / 10 ^ 6 := ⟨_, rfl⟩

theorem roundSix_le_one {q : ℚ} (h : q ≤ 1) : roundSix q ≤ 1 := by
  have hscale : q * 10 ^ 6 ≤ 10 ^ 6 := by linarith
  have hfloor : (q * 10 ^ 6).floor ≤ 10 ^ 6 := by
    have hle : ((q * 10 ^ 6).floor : ℚ) ≤ 10 ^ 6 := (Rat.floor_le _).trans hscale
    exact_mod_cast hle
  -- only a number below the next millionth is rounded up
  have hnearest : ∀ n : Int, n ≤ 10 ^ 6 → ((n : ℚ) / 10 ^ 6) ≤ 1 := by
    intro n hn
    have hcast : (n : ℚ) ≤ 10 ^ 6 := by exact_mod_cast hn
    rw [div_le_one (by norm_num)]
    exact hcast
  unfold roundSix
  dsimp only
  rcases eq_or_lt_of_le hfloor with heq | hlt
  · have hrest : q * 10 ^ 6 - ((q * 10 ^ 6).floor : ℚ) < 1 / 2 := by
      rw [heq]
      push_cast
      linarith
    rw [if_pos hrest]
    exact hnearest _ hfloor
  · refine hnearest _ ?_
    split
    · omega
    · split
      · omega
      · split <;> omega

section
variable {tools : TextTools} {query : IdentityTrack}

/-- `round(.., 6)` of the clamped mean, or one. -/
theorem confidence_millionths (tools : TextTools) (query : IdentityTrack) (c : CatalogCandidate) :
    ∃ n : Int, (score tools query c).confidence = n / 10 ^ 6 := by
  show ∃ n : Int, rawScore tools query c = n / 10 ^ 6
  unfold rawScore
  split
  · exact ⟨10 ^ 6, by norm_num⟩
  · exact roundSix_millionths _

theorem confidence_le_one (c : CatalogCandidate) : (score tools query c).confidence ≤ 1 := by
  show rawScore tools query c ≤ 1
  unfold rawScore
  split
  · exact le_refl 1
  · exact roundSix_le_one (min_le_left _ _)

theorem confidence_of_sha {c : CatalogCandidate} (h : shaMatch query c = true) :
    (score tools query c).confidence = 1 := if_pos h

theorem tier_eq_t4 {c : CatalogCandidate} :
    (score tools query c).evidenceTier = .t4 ↔ shaMatch query c = true := by
  show evidenceTier tools query c = .t4 ↔ _
  unfold evidenceTier
  constructor
  · intro h
    by_contra hno
    rw [if_neg hno] at h
    split at h
    · cases h
    · split at h
      · cases h
      · split at h <;> cases h
  · exact fun h => if_pos h

theorem generated_of_sha {c : CatalogCandidate} (h : shaMatch query c = true) :
    generated tools query c = true := by
  unfold generated
  rw [h]
  simp

/-- The margin of two confidences is their difference. -/
theorem roundSix_gap {a b : CatalogCandidate}
    (h : (score tools query b).confidence ≤ (score tools query a).confidence) :
    roundSix (max 0 ((score tools query a).confidence - (score tools query b).confidence)) =
      (score tools query a).confidence - (score tools query b).confidence := by
  obtain ⟨m, hm⟩ := confidence_millionths tools query a
  obtain ⟨n, hn⟩ := confidence_millionths tools query b
  have hdiff : (score tools query a).confidence - (score tools query b).confidence =
      ((m - n : Int) : ℚ) / 10 ^ 6 := by
    rw [hm, hn]
    push_cast
    ring
  rw [max_eq_right (sub_nonneg.mpr h), hdiff, roundSix_of_millionths]

end

/-! ## sorting -/

instance : Std.Total idBefore := ⟨fun a b => le_total a.recordingId b.recordingId⟩

instance : IsTrans CatalogCandidate idBefore := ⟨fun _ _ _ h h' => le_trans (α := Uuid) h h'⟩

instance : Std.Total scoreBefore :=
  ⟨fun a b => by
    rcases lt_trichotomy a.confidence b.confidence with h | h | h
    · exact Or.inr (Or.inl h)
    · rcases le_total a.recordingId b.recordingId with h' | h'
      · exact Or.inl (Or.inr ⟨h, h'⟩)
      · exact Or.inr (Or.inr ⟨h.symm, h'⟩)
    · exact Or.inl (Or.inl h)⟩

instance : IsTrans ScoredCandidate scoreBefore :=
  ⟨fun a b c h h' => by
    rcases h with h | ⟨h, hid⟩
    · rcases h' with h' | ⟨h', -⟩
      · exact Or.inl (h'.trans h)
      · exact Or.inl (h' ▸ h)
    · rcases h' with h' | ⟨h', hid'⟩
      · exact Or.inl (h ▸ h')
      · exact Or.inr ⟨h.trans h', hid.trans hid'⟩⟩

theorem scoreBefore_confidence {a b : ScoredCandidate} (h : scoreBefore a b) :
    b.confidence ≤ a.confidence := by
  rcases h with h | ⟨h, -⟩
  · exact h.le
  · exact h.ge

/-- Two largest numbers first. -/
theorem sort_two {l rest : List ℚ} {a b : ℚ} (h : l.Perm (a :: b :: rest)) (hab : b ≤ a)
    (hb : ∀ x ∈ rest, x ≤ b) :
    l.insertionSort (· ≥ ·) = a :: b :: rest.insertionSort (· ≥ ·) := by
  have hsorted : (a :: b :: rest.insertionSort (· ≥ ·)).Pairwise (· ≥ ·) := by
    have hrest : ∀ x ∈ rest.insertionSort (· ≥ ·), x ≤ b := fun x hx =>
      hb x ((List.mem_insertionSort _).mp hx)
    refine List.pairwise_cons.mpr ⟨fun x hx => ?_, List.pairwise_cons.mpr ⟨hrest, ?_⟩⟩
    · rcases List.mem_cons.mp hx with rfl | hx
      · exact hab
      · exact (hrest x hx).trans hab
    · exact List.pairwise_insertionSort _ _
  have hperm : l.Perm (a :: b :: rest.insertionSort (· ≥ ·)) :=
    h.trans (((List.perm_insertionSort _ rest).symm.cons b).cons a)
  rw [Lib.Greedy.sort_eq_of_perm _ hperm fun x _ y _ hxy hyx => le_antisymm hyx hxy]
  exact hsorted.insertionSort_eq

/-! ## what a limit may cut off -/

section
variable (tools : TextTools) (query : IdentityTrack) (catalog : List CatalogCandidate)

/-- An identifier or a fingerprint speaks for the entry. -/
def strongMatch (query : IdentityTrack) (c : CatalogCandidate) : Bool :=
  identifierMatch query c || fingerprintCompatible query c

/-- How far apart the two best of all generated entries are. -/
def gapOfBestTwo : Option ℚ :=
  match ((catalog.filter (generated tools query)).map
      fun c => (score tools query c).confidence).insertionSort (· ≥ ·) with
  | best :: second :: _ => some (best - second)
  | _ => none

/-- The evaluation is that of all entries that pass generation: the first candidate is the best of
them, a digest in common makes it certain, no identifier or fingerprint is dropped for a weaker
title, the margin is the gap of the best two, and the order of the catalog does not matter. -/
structure BestKept (candidateLimit : Int) (result : MatchEvaluation) : Prop where
  best : ∀ top others, result.candidates = top :: others →
    ∃ c ∈ catalog, generated tools query c = true ∧ top = score tools query c ∧
      ∀ d ∈ catalog, generated tools query d = true → scoreBefore top (score tools query d)
  sha : ∀ c ∈ catalog, shaMatch query c = true → ∃ top others, result.candidates = top :: others ∧
    top.evidenceTier = .t4 ∧ top.confidence = 1
  kept : ∀ c ∈ catalog, strongMatch query c = true →
    c.recordingId ∉ result.candidates.map ScoredCandidate.recordingId →
      ∀ d ∈ catalog, strongMatch query d = false →
        d.recordingId ∈ result.candidates.map ScoredCandidate.recordingId →
          (score tools query c).confidence ≤ (score tools query d).confidence
  margin : result.margin = gapOfBestTwo tools query catalog
  order : ∀ catalog' : List CatalogCandidate, catalog'.Perm catalog →
    evaluateIdentity tools query catalog' candidateLimit = some result

/-- What the limit leaves in: of the generated entries by recording id, the first `candidateLimit`
hold two that are as good as any that is cut off, and nothing that is weaker than a cut off
identifier or fingerprint and has neither; and of all generated entries that are certain, one with the
digest of the query comes first, if there is one. -/
structure Retained (candidateLimit : Int) : Prop where
  two : ∀ d ∈ (generateCandidates tools query catalog).drop candidateLimit.toNat,
    ∃ a ∈ (generateCandidates tools query catalog).take candidateLimit.toNat,
      ∃ b ∈ (generateCandidates tools query catalog).take candidateLimit.toNat,
        a.recordingId ≠ b.recordingId ∧
          (score tools query d).confidence ≤ (score tools query a).confidence ∧
          (score tools query d).confidence ≤ (score tools query b).confidence
  strong : ∀ c ∈ (generateCandidates tools query catalog).drop candidateLimit.toNat,
    strongMatch query c = true →
      ∀ d ∈ (generateCandidates tools query catalog).take candidateLimit.toNat, strongMatch query d = false →
        (score tools query c).confidence ≤ (score tools query d).confidence
  sha : ∀ c ∈ catalog, shaMatch query c = true → ∃ m ∈ catalog, shaMatch query m = true ∧
    ∀ d ∈ catalog, generated tools query d = true → (score tools query d).confidence = 1 →
      m.recordingId ≤ d.recordingId

end

theorem gapOfBestTwo_some {tools : TextTools} {query : IdentityTrack} {catalog : List CatalogCandidate}
    {gap : ℚ} (h : gapOfBestTwo tools query catalog = some gap) : ∃ best next rest,
      ((catalog.filter (generated tools query)).map
        fun c => (score tools query c).confidence).insertionSort (· ≥ ·) = best :: next :: rest ∧
      gap = best - next := by
  unfold gapOfBestTwo at h
  split at h
  · next best next rest heq =>
    cases h
    exact ⟨best, next, rest, heq, rfl⟩
  · cases h

/-! ## the list that is scored -/

section
variable {tools : TextTools} {query : IdentityTrack} {catalog : List CatalogCandidate}

theorem mem_generateCandidates {c : CatalogCandidate} :
    c ∈ generateCandidates tools query catalog ↔ c ∈ catalog ∧ generated tools query c = true := by
  unfold generateCandidates
  rw [List.mem_insertionSort, List.mem_filter]

theorem generateCandidates_perm (tools : TextTools) (query : IdentityTrack)
    (catalog : List CatalogCandidate) :
    (generateCandidates tools query catalog).Perm (catalog.filter (generated tools query)) :=
  List.perm_insertionSort _ _

section
variable (hdistinct : (catalog.map CatalogCandidate.recordingId).Nodup)
include hdistinct

theorem eq_of_catalogId {a b : CatalogCandidate} (ha : a ∈ catalog) (hb : b ∈ catalog)
    (h : a.recordingId = b.recordingId) : a = b :=
  List.inj_on_of_nodup_map hdistinct ha hb h

theorem generateCandidates_nodup :
    ((generateCandidates tools query catalog).map CatalogCandidate.recordingId).Nodup := by
  refine ((generateCandidates_perm tools query catalog).map _).nodup_iff.mpr ?_
  exact (List.filter_sublist.map _).nodup hdistinct

theorem generateCandidates_order (tools : TextTools) (query : IdentityTrack)
    {catalog' : List CatalogCandidate} (h : catalog'.Perm catalog) :
    generateCandidates tools query catalog' = generateCandidates tools query catalog := by
  refine Lib.Greedy.sort_eq_of_perm idBefore (h.filter _) fun a ha b hb hab hba => ?_
  exact eq_of_catalogId hdistinct (h.mem_iff.mp (List.mem_of_mem_filter ha))
    (h.mem_iff.mp (List.mem_of_mem_filter hb)) (le_antisymm hab hba)

end

theorem explain_candidates (scored : List ScoredCandidate) : (explain scored).candidates = scored := by
  cases scored <;> rfl

/-- The kept entries and the ones that are cut off. -/
structure Split (tools : TextTools) (query : IdentityTrack) (catalog kept cut : List CatalogCandidate)
    (scored : List ScoredCandidate) : Prop where
  parts : generateCandidates tools query catalog = kept ++ cut
  full : cut ≠ [] → kept ≠ []
  some : catalog.filter (generated tools query) ≠ [] → kept ≠ []
  scored : scored = (kept.map (score tools query)).insertionSort scoreBefore
  ids : ((kept ++ cut).map CatalogCandidate.recordingId).Nodup
  before : ∀ a ∈ kept, ∀ d ∈ cut, a.recordingId ≤ d.recordingId

theorem split_take (tools : TextTools) (query : IdentityTrack) {candidateLimit : Int}
    (hdistinct : (catalog.map CatalogCandidate.recordingId).Nodup)
    (hlimit : 1 ≤ candidateLimit) :
    Split tools query catalog ((generateCandidates tools query catalog).take candidateLimit.toNat)
      ((generateCandidates tools query catalog).drop candidateLimit.toNat)
      ((((generateCandidates tools query catalog).take candidateLimit.toNat).map
        (score tools query)).insertionSort scoreBefore) := by
  have hsorted : (generateCandidates tools query catalog).Pairwise idBefore :=
    List.pairwise_insertionSort _ _
  have hfirst : generateCandidates tools query catalog ≠ [] →
      (generateCandidates tools query catalog).take candidateLimit.toNat ≠ [] := by
    intro hne hnil
    rcases List.take_eq_nil_iff.mp hnil with h | h
    · omega
    · exact hne h
  refine ⟨(List.take_append_drop _ _).symm, fun hcut => hfirst fun hnil => hcut ?_, fun hsome => hfirst ?_,
    rfl, ?_, ?_⟩
  · rw [hnil, List.drop_nil]
  · intro hnil
    have hperm := generateCandidates_perm tools query catalog
    rw [hnil] at hperm
    exact hsome hperm.nil_eq.symm
  · rw [List.take_append_drop]
    exact generateCandidates_nodup hdistinct
  · rw [← List.take_append_drop candidateLimit.toNat (generateCandidates tools query catalog)] at hsorted
    exact (List.pairwise_append.mp hsorted).2.2

namespace Split
variable {kept cut : List CatalogCandidate} {scored : List ScoredCandidate}

theorem mem_iff (h : Split tools query catalog kept cut scored) {c : CatalogCandidate} :
    c ∈ catalog ∧ generated tools query c = true ↔ c ∈ kept ∨ c ∈ cut := by
  rw [← mem_generateCandidates, h.parts, List.mem_append]

theorem perm (h : Split tools query catalog kept cut scored) :
    scored.Perm (kept.map (score tools query)) := by
  rw [h.scored]
  exact List.perm_insertionSort _ _

theorem sorted (h : Split tools query catalog kept cut scored) : scored.Pairwise scoreBefore := by
  rw [h.scored]
  exact List.pairwise_insertionSort _ _

theorem mem_scored (h : Split tools query catalog kept cut scored) {x : ScoredCandidate} :
    x ∈ scored ↔ ∃ c ∈ kept, score tools query c = x := by
  rw [h.perm.mem_iff, List.mem_map]

theorem eq_of_id (h : Split tools query catalog kept cut scored) {a b : CatalogCandidate}
    (ha : a ∈ kept ++ cut) (hb : b ∈ kept ++ cut) (hid : a.recordingId = b.recordingId) : a = b :=
  List.inj_on_of_nodup_map h.ids ha hb hid

/-- An entry is among the candidates exactly when it is kept. -/
theorem id_mem_scored (h : Split tools query catalog kept cut scored) {c : CatalogCandidate}
    (hc : c ∈ kept ∨ c ∈ cut) :
    c.recordingId ∈ scored.map ScoredCandidate.recordingId ↔ c ∈ kept := by
  constructor
  · intro hin
    obtain ⟨x, hx, hid⟩ := List.mem_map.mp hin
    obtain ⟨c', hc', rfl⟩ := h.mem_scored.mp hx
    have heq : c' = c := h.eq_of_id (List.mem_append_left _ hc') (List.mem_append.mpr hc) hid
    exact heq ▸ hc'
  · exact fun hin => List.mem_map.mpr ⟨_, h.mem_scored.mpr ⟨c, hin, rfl⟩, rfl⟩

theorem scored_nodup (h : Split tools query catalog kept cut scored) :
    (scored.map ScoredCandidate.recordingId).Nodup := by
  have hkept := h.ids
  rw [List.map_append] at hkept
  have hperm := h.perm.map ScoredCandidate.recordingId
  rw [List.map_map] at hperm
  exact hperm.nodup_iff.mpr (List.nodup_append.mp hkept).1

/-- The first candidate is a kept entry, and the best of them. -/
theorem top (h : Split tools query catalog kept cut scored) {top : ScoredCandidate}
    {others : List ScoredCandidate} (htop : scored = top :: others) :
    ∃ c ∈ kept, score tools query c = top ∧ ∀ d ∈ kept, scoreBefore top (score tools query d) := by
  have hmem : top ∈ scored := by
    rw [htop]
    exact List.mem_cons_self
  obtain ⟨c, hc, hscore⟩ := h.mem_scored.mp hmem
  refine ⟨c, hc, hscore, fun d hd => ?_⟩
  have hd' : score tools query d ∈ scored := h.mem_scored.mpr ⟨d, hd, rfl⟩
  have hsorted := h.sorted
  rw [htop] at hd' hsorted
  rcases List.mem_cons.mp hd' with heq | hin
  · rw [heq]
    exact (Std.Total.total top top).elim id id
  · exact (List.pairwise_cons.mp hsorted).1 _ hin

/-- All generated confidences, those of the candidates first. -/
theorem confidences (h : Split tools query catalog kept cut scored) :
    ((catalog.filter (generated tools query)).map fun c => (score tools query c).confidence).Perm
      (scored.map ScoredCandidate.confidence ++ cut.map fun c => (score tools query c).confidence) := by
  have hkept : (scored.map ScoredCandidate.confidence).Perm
      (kept.map fun c => (score tools query c).confidence) := by
    have := h.perm.map ScoredCandidate.confidence
    rwa [List.map_map] at this
  refine ((generateCandidates_perm tools query catalog).symm.map _).trans ?_
  rw [h.parts, List.map_append]
  exact hkept.symm.append_right _

end Split

/-- When the gap of the best two is that of the first two numbers, all others are below the second. -/
theorem le_second {confidence : CatalogCandidate → ℚ} {generated : List CatalogCandidate} {top second : ℚ}
    {others : List ℚ} (hperm : (generated.map confidence).Perm (top :: others))
    (hgap : ∃ best next rest, (generated.map confidence).insertionSort (· ≥ ·) = best :: next :: rest ∧
      top - second = best - next)
    (htop : ∀ c ∈ generated, confidence c ≤ top) {x : ℚ} (hx : x ∈ others) : x ≤ second := by
  obtain ⟨best, next, rest, hsort, hdiff⟩ := hgap
  have hsorted : (best :: next :: rest).Pairwise (· ≥ ·) := hsort ▸ List.pairwise_insertionSort _ _
  have hall : (best :: next :: rest).Perm (top :: others) :=
    (hsort ▸ List.perm_insertionSort (· ≥ ·) (generated.map confidence)).trans hperm
  have hbest : best = top := by
    refine le_antisymm ?_ ?_
    · have hmem : best ∈ generated.map confidence :=
        hperm.mem_iff.mpr (hall.mem_iff.mp List.mem_cons_self)
      obtain ⟨c, hc, rfl⟩ := List.mem_map.mp hmem
      exact htop c hc
    · rcases List.mem_cons.mp (hall.mem_iff.mpr List.mem_cons_self) with heq | hin
      · exact heq.le
      · exact (List.pairwise_cons.mp hsorted).1 top hin
  rw [hbest] at hall hdiff
  have hnext : x ≤ next := by
    rcases List.mem_cons.mp ((List.Perm.cons_inv hall).mem_iff.mpr hx) with heq | hin
    · exact heq.le
    · exact (List.pairwise_cons.mp (List.pairwise_cons.mp hsorted).2).1 x hin
  linarith

/-! ## the condition is enough -/

section
variable {kept cut : List CatalogCandidate} {scored : List ScoredCandidate}
  (h : Split tools query catalog kept cut scored)
include h

/-- Two kept entries are as good as each that is cut off. -/
def TwoKept (tools : TextTools) (query : IdentityTrack) (kept cut : List CatalogCandidate) : Prop :=
  ∀ d ∈ cut, ∃ a ∈ kept, ∃ b ∈ kept, a.recordingId ≠ b.recordingId ∧
    (score tools query d).confidence ≤ (score tools query a).confidence ∧
    (score tools query d).confidence ≤ (score tools query b).confidence

theorem best_of_twoKept (htwo : TwoKept tools query kept cut) {top : ScoredCandidate}
    {others : List ScoredCandidate} (htop : scored = top :: others) {d : CatalogCandidate}
    (hd : d ∈ kept ∨ d ∈ cut) : scoreBefore top (score tools query d) := by
  obtain ⟨c, hc, rfl, hfirst⟩ := h.top htop
  rcases hd with hd | hd
  · exact hfirst d hd
  · obtain ⟨a, ha, -, -, -, hle, -⟩ := htwo d hd
    have hconf : (score tools query d).confidence ≤ (score tools query c).confidence :=
      hle.trans (scoreBefore_confidence (hfirst a ha))
    rcases lt_or_eq_of_le hconf with hlt | heq
    · exact Or.inl hlt
    · exact Or.inr ⟨heq.symm, h.before c hc d hd⟩

/-- The confidence of a cut off entry is at most the second one. -/
theorem second_of_twoKept (htwo : TwoKept tools query kept cut) {top second : ScoredCandidate}
    {others : List ScoredCandidate} (htop : scored = top :: second :: others) {d : CatalogCandidate}
    (hd : d ∈ cut) : (score tools query d).confidence ≤ second.confidence := by
  have hsorted := h.sorted
  rw [htop] at hsorted
  have hrest : ∀ x ∈ second :: others, x.confidence ≤ second.confidence := by
    intro x hx
    rcases List.mem_cons.mp hx with rfl | hx
    · exact le_refl _
    · exact scoreBefore_confidence ((List.pairwise_cons.mp (List.pairwise_cons.mp hsorted).2).1 x hx)
  -- of two different entries one is not the first candidate
  have hother : ∀ a ∈ kept, (score tools query a) ≠ top →
      (score tools query a).confidence ≤ second.confidence := by
    intro a ha hne
    have hmem : score tools query a ∈ top :: second :: others := htop ▸ h.mem_scored.mpr ⟨a, ha, rfl⟩
    exact hrest _ ((List.mem_cons.mp hmem).resolve_left hne)
  obtain ⟨a, ha, b, hb, hab, hda, hdb⟩ := htwo d hd
  by_cases hatop : score tools query a = top
  · refine hdb.trans (hother b hb fun hbtop => hab ?_)
    exact congrArg ScoredCandidate.recordingId (hatop.trans hbtop.symm)
  · exact hda.trans (hother a ha hatop)

theorem margin_of_twoKept (htwo : TwoKept tools query kept cut) :
    (explain scored).margin = gapOfBestTwo tools query catalog := by
  have hperm := h.confidences
  unfold gapOfBestTwo
  rcases scored with _ | ⟨top, _ | ⟨second, others⟩⟩
  · have hkept : kept = [] := List.map_eq_nil_iff.mp h.perm.nil_eq.symm
    have hcut : cut = [] := by
      by_contra hne
      exact h.full hne hkept
    rw [hcut] at hperm
    rw [hperm.eq_nil]
    rfl
  · have hcut : cut = [] := by
      refine List.eq_nil_iff_forall_not_mem.mpr fun d hd => ?_
      obtain ⟨a, ha, b, hb, hab, -, -⟩ := htwo d hd
      have hall : ∀ x ∈ kept, score tools query x = top := fun x hx =>
        List.mem_singleton.mp (h.mem_scored.mpr ⟨x, hx, rfl⟩)
      exact hab (congrArg ScoredCandidate.recordingId ((hall a ha).trans (hall b hb).symm))
    rw [hcut] at hperm
    have hone := (List.perm_insertionSort (· ≥ ·) _).trans hperm
    rw [List.map_nil, List.append_nil, List.map_singleton] at hone
    rw [List.perm_singleton.mp hone]
    rfl
  · obtain ⟨c, hc, hctop, hfirst⟩ := h.top rfl
    obtain ⟨e, he, hesecond⟩ := h.mem_scored.mp (List.mem_cons_of_mem _ List.mem_cons_self)
    have hle : second.confidence ≤ top.confidence := by
      rw [← hesecond]
      exact scoreBefore_confidence (hfirst e he)
    have hsorted := h.sorted
    have hrest : ∀ x ∈ others.map ScoredCandidate.confidence ++
        cut.map (fun c => (score tools query c).confidence), x ≤ second.confidence := by
      intro x hx
      rcases List.mem_append.mp hx with hx | hx
      · obtain ⟨y, hy, rfl⟩ := List.mem_map.mp hx
        exact scoreBefore_confidence ((List.pairwise_cons.mp (List.pairwise_cons.mp hsorted).2).1 y hy)
      · obtain ⟨d, hd, rfl⟩ := List.mem_map.mp hx
        exact second_of_twoKept h htwo rfl hd
    rw [sort_two hperm hle hrest]
    show some (roundSix (max 0 (top.confidence - second.confidence))) = some _
    rw [← hctop, ← hesecond] at hle ⊢
    exact congrArg some (roundSix_gap hle)

end

theorem evaluateIdentity_some {candidateLimit : Int} {result : MatchEvaluation}
    (h : evaluateIdentity tools query catalog candidateLimit = some result) :
    (1 ≤ candidateLimit ∧ candidateLimit ≤ maxCandidates) ∧
      result = explain ((((generateCandidates tools query catalog).take candidateLimit.toNat).map
        (score tools query)).insertionSort scoreBefore) := by
  unfold evaluateIdentity at h
  split at h
  · next hlimit =>
    cases h
    exact ⟨hlimit, rfl⟩
  · cases h

section
variable {candidateLimit : Int} {result : MatchEvaluation}
  (hdistinct : (catalog.map CatalogCandidate.recordingId).Nodup)
  (hresult : evaluateIdentity tools query catalog candidateLimit = some result)
include hdistinct hresult

theorem Retained.bestKept (hr : Retained tools query catalog candidateLimit) :
    BestKept tools query catalog candidateLimit result := by
  obtain ⟨hlimit, rfl⟩ := evaluateIdentity_some hresult
  have h := split_take tools query hdistinct hlimit.1
  have hcandidates := explain_candidates
    ((((generateCandidates tools query catalog).take candidateLimit.toNat).map
      (score tools query)).insertionSort scoreBefore)
  refine ⟨fun top others htop => ?_, fun c hc hsha => ?_, fun c hc hstrong hout d hd hweak hin => ?_,
    margin_of_twoKept h hr.two, fun catalog' hperm => ?_⟩
  · rw [hcandidates] at htop
    obtain ⟨c, hc, rfl, -⟩ := h.top htop
    obtain ⟨hmem, hgen⟩ := h.mem_iff.mpr (Or.inl hc)
    exact ⟨c, hmem, hgen, rfl, fun d hd hdgen =>
      best_of_twoKept h hr.two htop (h.mem_iff.mp ⟨hd, hdgen⟩)⟩
  · have hsome : catalog.filter (generated tools query) ≠ [] :=
      List.ne_nil_of_mem (List.mem_filter.mpr ⟨hc, generated_of_sha hsha⟩)
    obtain ⟨m, hm, hmsha, hmfirst⟩ := hr.sha c hc hsha
    have hmgen : generated tools query m = true := generated_of_sha hmsha
    rw [hcandidates]
    cases hscored : (((generateCandidates tools query catalog).take candidateLimit.toNat).map
        (score tools query)).insertionSort scoreBefore with
    | nil =>
      rw [hscored] at h
      exact absurd (List.map_eq_nil_iff.mp h.perm.nil_eq.symm) (h.some hsome)
    | cons top others =>
      rw [hscored] at h
      obtain ⟨t, ht, rfl, -⟩ := h.top rfl
      obtain ⟨htmem, htgen⟩ := h.mem_iff.mpr (Or.inl ht)
      have hbest := best_of_twoKept h hr.two rfl (h.mem_iff.mp ⟨hm, hmgen⟩)
      have hone : (score tools query t).confidence = 1 :=
        le_antisymm (confidence_le_one t)
          ((confidence_of_sha hmsha).ge.trans (scoreBefore_confidence hbest))
      -- both are certain, so that the smaller identifier decides
      have hid : t.recordingId ≤ m.recordingId := by
        rcases hbest with hlt | ⟨-, hid⟩
        · rw [hone, confidence_of_sha hmsha] at hlt
          exact absurd hlt (lt_irrefl 1)
        · exact hid
      have heq : t = m := eq_of_catalogId hdistinct htmem hm (le_antisymm hid (hmfirst t htmem htgen hone))
      exact ⟨_, _, rfl, tier_eq_t4.mpr (heq ▸ hmsha), hone⟩
  · rw [hcandidates] at hout hin
    have hcgen : generated tools query c = true := by
      unfold strongMatch at hstrong
      unfold generated
      rcases Bool.or_eq_true_iff.mp hstrong with h' | h' <;> rw [h'] <;> simp
    obtain ⟨x, hx, hid⟩ := List.mem_map.mp hin
    obtain ⟨d', hd', rfl⟩ := h.mem_scored.mp hx
    have heq : d' = d := eq_of_catalogId hdistinct (h.mem_iff.mpr (Or.inl hd')).1 hd hid
    subst heq
    have hparts := h.mem_iff.mp ⟨hc, hcgen⟩
    have hcut := hparts.resolve_left fun hkept => hout ((h.id_mem_scored hparts).mpr hkept)
    exact hr.strong c hcut hstrong d' hd' hweak
  · have horder := generateCandidates_order hdistinct tools query hperm
    unfold evaluateIdentity at hresult ⊢
    rw [horder]
    exact hresult

theorem BestKept.retained (hb : BestKept tools query catalog candidateLimit result) :
    Retained tools query catalog candidateLimit := by
  obtain ⟨hlimit, rfl⟩ := evaluateIdentity_some hresult
  have h := split_take tools query hdistinct hlimit.1
  have hcandidates := explain_candidates
    ((((generateCandidates tools query catalog).take candidateLimit.toNat).map
      (score tools query)).insertionSort scoreBefore)
  refine ⟨fun d hd => ?_, fun c hc hstrong d hd hweak => ?_, fun c hc hsha => ?_⟩
  · have hbest := hb.best
    have hmargin := hb.margin
    rw [hcandidates] at hbest
    generalize hscored : (((generateCandidates tools query catalog).take candidateLimit.toNat).map
        (score tools query)).insertionSort scoreBefore = scored at h hbest hmargin
    have hperm := h.confidences
    rcases scored with _ | ⟨top, _ | ⟨second, others⟩⟩
    · exact absurd (List.map_eq_nil_iff.mp h.perm.nil_eq.symm) (h.full (List.ne_nil_of_mem hd))
    · -- one candidate has no margin, two generated entries have one
      have hlen := ((List.perm_insertionSort (· ≥ ·) _).trans hperm).length_eq
      rw [List.length_append, List.length_map, List.length_map, List.length_singleton] at hlen
      have hpos := List.length_pos_of_mem hd
      unfold gapOfBestTwo at hmargin
      split at hmargin
      · cases hmargin
      · next hno =>
        exfalso
        generalize ((catalog.filter (generated tools query)).map
          fun c => (score tools query c).confidence).insertionSort (· ≥ ·) = sorted at hno hlen
        rcases sorted with _ | ⟨a, _ | ⟨b, rest⟩⟩
        · simp only [List.length_nil] at hlen
          omega
        · simp only [List.length_singleton] at hlen
          omega
        · exact hno a b rest rfl
    · obtain ⟨a, ha, hatop, hafirst⟩ := h.top rfl
      obtain ⟨b, hbk, hbsecond⟩ := h.mem_scored.mp (List.mem_cons_of_mem _ List.mem_cons_self)
      obtain ⟨-, -, -, -, hall⟩ := hbest top (second :: others) rfl
      have hle : second.confidence ≤ top.confidence := by
        rw [← hbsecond]
        exact scoreBefore_confidence (hafirst b hbk)
      have hgap : some (top.confidence - second.confidence) = gapOfBestTwo tools query catalog := by
        rw [← hmargin]
        show _ = some (roundSix (max 0 (top.confidence - second.confidence)))
        rw [← hatop, ← hbsecond] at hle ⊢
        exact congrArg some (roundSix_gap hle).symm
      have hd2 : (score tools query d).confidence ≤ second.confidence :=
        le_second hperm (gapOfBestTwo_some hgap.symm)
          (fun c hc => scoreBefore_confidence (hall c (List.mem_of_mem_filter hc) (List.mem_filter.mp hc).2))
          (List.mem_append_right _ (List.mem_map_of_mem hd))
      have hne : a.recordingId ≠ b.recordingId := by
        intro heq
        have hnodup := h.scored_nodup
        rw [← hatop, ← hbsecond] at hnodup
        exact (List.nodup_cons.mp hnodup).1 (List.mem_map.mpr ⟨_, List.mem_cons_self, heq.symm⟩)
      rw [← hatop, ← hbsecond] at hle
      rw [← hbsecond] at hd2
      exact ⟨a, ha, b, hbk, hne, hd2.trans hle, hd2⟩
  · have hkept := hb.kept
    rw [hcandidates] at hkept
    obtain ⟨hcat, -⟩ := h.mem_iff.mpr (Or.inr hc)
    obtain ⟨hdcat, -⟩ := h.mem_iff.mpr (Or.inl hd)
    refine hkept c hcat hstrong ?_ d hdcat hweak ((h.id_mem_scored (Or.inl hd)).mpr hd)
    intro hin
    have hck := (h.id_mem_scored (Or.inr hc)).mp hin
    have hnodup := h.ids
    rw [List.map_append, List.nodup_append] at hnodup
    exact hnodup.2.2 _ (List.mem_map_of_mem hck) _ (List.mem_map_of_mem hc) rfl
  · obtain ⟨top, others, htop, htier, hone⟩ := hb.sha c hc hsha
    obtain ⟨m, hm, -, rfl, hall⟩ := hb.best top others htop
    refine ⟨m, hm, tier_eq_t4.mp htier, fun d hd hgen hdone => ?_⟩
    rcases hall d hd hgen with hlt | ⟨-, hid⟩
    · rw [hone, hdone] at hlt
      exact absurd hlt (lt_irrefl 1)
    · exact hid

end

/-- **The best candidate**: an evaluation is that of all entries that pass generation exactly when the
limit leaves enough of them in. -/
theorem bestKept_iff {candidateLimit : Int} {result : MatchEvaluation}
    (hdistinct : (catalog.map CatalogCandidate.recordingId).Nodup)
    (hresult : evaluateIdentity tools query catalog candidateLimit = some result) :
    BestKept tools query catalog candidateLimit result ↔ Retained tools query catalog candidateLimit :=
  ⟨BestKept.retained hdistinct hresult, Retained.bestKept hdistinct hresult⟩

end

/-! ## a digest that the limit cuts off -/

namespace Sample

/-- Texts are alike when they are the same. -/
def tools : TextTools where
  search := fun _ _ => false
  sub := fun _ value => value
  fold := id
  subPunctuation := id
  subSpace := id
  strip := id
  ratio := fun a b => if a = b then 1 else 0
  exp := fun _ => 1

def query : IdentityTrack where
  title := "Song"
  artists := ["Artist"]
  album := none
  durationMs := none
  versionMarkers := ["LIVE"]
  identifiers := .empty
  fingerprint := none
  verifiedVaultSha256 := some "digest"
  named := by decide
  positive := by simp

def entry (recordingId : Uuid) (sha256 : Option String) : CatalogCandidate where
  recordingId := recordingId
  title := "Song"
  artists := ["Artist"]
  album := none
  durationMs := none
  versionMarkers := ["DEMO"]
  identifiers := .empty
  fingerprint := none
  verifiedVaultSha256 := sha256
  origins := []

def firstId : Uuid := ⟨"00000000-0000-4000-8000-00000000000a", rfl⟩
def secondId : Uuid := ⟨"00000000-0000-4000-8000-00000000000b", rfl⟩

/-- Another version of the song, and behind it the bytes of the query. -/
def catalog : List CatalogCandidate := [entry firstId none, entry secondId (some "digest")]

end Sample

theorem digest_cut_off : ∃ result,
    evaluateIdentity Sample.tools Sample.query Sample.catalog 1 = some result ∧
      ¬ BestKept Sample.tools Sample.query Sample.catalog 1 result := by
  have htiers : (evaluateIdentity Sample.tools Sample.query Sample.catalog 1).map
      (fun r => r.candidates.map ScoredCandidate.evidenceTier) = some [.t0] := by decide +kernel
  obtain ⟨result, hresult, htier⟩ := Option.map_eq_some_iff.mp htiers
  refine ⟨result, hresult, fun h => ?_⟩
  obtain ⟨top, others, htop, ht4, -⟩ :=
    h.sha (Sample.entry Sample.secondId (some "digest")) (by decide) (by decide)
  rw [htop, List.map_cons, ht4] at htier
  cases (List.cons.inj htier).1

/-- Nothing is cut off at two candidates. -/
theorem bestKept_iff_two : ∃ result,
    evaluateIdentity Sample.tools Sample.query Sample.catalog 2 = some result ∧
      BestKept Sample.tools Sample.query Sample.catalog 2 result := by
  have hall : (generateCandidates Sample.tools Sample.query Sample.catalog).drop (2 : Int).toNat = [] := by
    decide +kernel
  refine ⟨_, rfl, (bestKept_iff (by decide) rfl).mpr ⟨fun d hd => ?_, fun c hc => ?_, fun c _ _ => ?_⟩⟩
  · rw [hall] at hd
    cases hd
  · rw [hall] at hc
    cases hc
  · refine ⟨Sample.entry Sample.secondId (some "digest"), by decide, by decide, fun d hd _ hone => ?_⟩
    rcases List.mem_cons.mp hd with rfl | hd
    · have hless : (score Sample.tools Sample.query (Sample.entry Sample.firstId none)).confidence ≠ 1 := by
        decide +kernel
      exact absurd hone hless
    · rw [List.mem_singleton.mp hd]

end AutPlay.Imports
