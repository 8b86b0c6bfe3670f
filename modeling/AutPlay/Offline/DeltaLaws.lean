import AutPlay.Offline.Decode
import Mathlib.Tactic.Linarith

/-!
# The laws of the offline temporal delta

* `applyDelta_adjustments`    the items come in the order of the scores;
* `ordered_moves_little`      which moves them past neighbours only;
* `applyDelta_other`          other items are refused;
* `delta_laws`                all of it, of what `build` returns.
-/

set_option linter.unusedSectionVars false

namespace AutPlay.Offline

open AutPlay.Sync (Uuid Json Payload)
open AutPlay.Sona (keysOf)
open Result

section
variable {tools : DeltaTools} {parentEntity : RecommendationPackEntity}
  {parent : DecodedOfflinePack tools.jcsInt} {binding : ClientEventBinding}
  {evidence : List ProjectedLocalEvidence} {items : List HomeRecommendationItem}

/-! ## the items in their order -/

/-- An item as the delta shows it at a position. -/
def shownAt (tools : DeltaTools) (parent : DecodedOfflinePack tools.jcsInt)
    (binding : ClientEventBinding) (evidence : List ProjectedLocalEvidence) (index : Nat)
    (item : HomeRecommendationItem) : HomeRecommendationItem :=
  adjusted (deltaIdOf tools parent binding evidence)
    (adjustmentOf tools binding parent.recommendationRequestId evidence index item) item

theorem positions_sorted (n : Nat) :
    ((List.range n).map fun (i : Nat) => (i : Int) + 1).Pairwise (· < ·) := by
  rw [List.pairwise_map]
  refine List.pairwise_lt_range.imp fun hij => ?_
  omega

theorem adjustmentsOf_sorted (requestId : Uuid) :
    (adjustmentsOf tools binding requestId evidence items).Pairwise adjustmentBefore := by
  have hpositions := positions_sorted items.length
  rw [← positions_adjustmentsOf tools binding evidence items requestId, List.pairwise_map] at hpositions
  refine hpositions.imp fun hlt => ?_
  exact Prod.Lex.toLex_le_toLex.mpr (Or.inl hlt)

theorem applyDelta_adjustments (hitems : PackItems parent items) (nowMs expiresAtMs : Int) :
    applyDelta (decodedOf tools parent binding evidence items nowMs expiresAtMs) items =
      .ok ((orderedItems evidence items).mapIdx (shownAt tools parent binding evidence)) := by
  have hperm := orderedItems_perm evidence items
  have hpairs := pairs_adjustmentsOf tools binding evidence items parent.recommendationRequestId
  have hpositions := positions_adjustmentsOf tools binding evidence items
    parent.recommendationRequestId
  refine bind_of_ok (check_ok.mpr ?_) (bind_of_ok (check_ok.mpr ?_) ?_)
  · rintro (h | h)
    · exact h hitems.distinct
    · refine h ⟨fun pair hp => ?_, fun pair hp => ?_⟩
      · show pair ∈ (adjustmentsOf tools binding parent.recommendationRequestId evidence items).map _
        rw [hpairs]
        exact (hperm.map _).mem_iff.mpr hp
      · have hp : pair ∈ (adjustmentsOf tools binding parent.recommendationRequestId evidence
          items).map _ := hp
        rw [hpairs] at hp
        exact (hperm.map _).mem_iff.mp hp
  · rw [not_not]
    show ((adjustmentsOf tools binding parent.recommendationRequestId evidence items).map
      _).insertionSort _ = (List.range (adjustmentsOf tools binding parent.recommendationRequestId
        evidence items).length).map _
    rw [hpositions, length_adjustmentsOf]
    exact List.Pairwise.insertionSort_eq ((positions_sorted items.length).imp le_of_lt)
  · show ((adjustmentsOf tools binding parent.recommendationRequestId evidence
      items).insertionSort adjustmentBefore).mapM _ = _
    rw [List.Pairwise.insertionSort_eq (adjustmentsOf_sorted parent.recommendationRequestId)]
    refine mapM_mapIdx_ok fun i item hi => ?_
    -- the pair finds its item
    have hmem := hperm.mem_iff.mp hi
    cases hf : items.find? fun other => other.pair =
        (adjustmentOf tools binding parent.recommendationRequestId evidence i item).pair with
    | none =>
      have hno := List.find?_eq_none.mp hf item hmem
      exact absurd (decide_eq_true rfl) hno
    | some other =>
      have hpair := of_decide_eq_true (List.find?_some hf :)
      have hone := List.inj_on_of_nodup_map hitems.distinct (List.mem_of_find?_eq_some hf) hmem hpair
      rw [hone]
      rfl

/-- **Bounded movement**: an item passes another only if their positions in the pack are neighbours. -/
theorem ordered_moves_little (evidence : List ProjectedLocalEvidence)
    (items : List HomeRecommendationItem) :
    (orderedItems evidence items).Pairwise fun a b => ¬ b.packPosition + 2 ≤ a.packPosition := by
  have htotal : Std.Total (itemBefore evidence) :=
    ⟨fun a b => le_total (itemKey evidence a) (itemKey evidence b)⟩
  have htrans : IsTrans HomeRecommendationItem (itemBefore evidence) :=
    ⟨fun a _ c hab hbc => show itemKey evidence a ≤ itemKey evidence c from le_trans hab hbc⟩
  refine (List.pairwise_insertionSort (itemBefore evidence) items).imp fun {a b} hab hfar => ?_
  have hkey : (a.packPosition : ℚ) - scoreOf evidence a.recordingId ≤
      b.packPosition - scoreOf evidence b.recordingId := by
    rcases Prod.Lex.toLex_le_toLex.mp hab with hlt | ⟨heq, _⟩
    · exact le_of_lt hlt
    · exact le_of_eq heq
  have hcap : totalAbsoluteCap = 3 / 4 := by decide +kernel
  have ha := (abs_le.mp (abs_scoreOf_le evidence a.recordingId)).2
  have hb := (abs_le.mp (abs_scoreOf_le evidence b.recordingId)).1
  have hfar : (b.packPosition : ℚ) + 2 ≤ a.packPosition := by exact_mod_cast hfar
  rw [hcap] at ha hb
  linarith

theorem applyDelta_other (nowMs expiresAtMs : Int) (hitems : PackItems parent items)
    {others : List HomeRecommendationItem}
    (hother : ¬ (others.map HomeRecommendationItem.pair).Perm
      (items.map HomeRecommendationItem.pair)) :
    applyDelta (decodedOf tools parent binding evidence items nowMs expiresAtMs) others =
      fail .adjustmentInvalid := by
  have hperm := (orderedItems_perm evidence items).map HomeRecommendationItem.pair
  have hpairs := pairs_adjustmentsOf tools binding evidence items parent.recommendationRequestId
  have hbad : ¬ (others.map HomeRecommendationItem.pair).Nodup ∨
      ¬ ((∀ pair ∈ others.map HomeRecommendationItem.pair, pair ∈ (decodedOf tools parent binding
        evidence items nowMs expiresAtMs).adjustments.map OfflineTemporalAdjustment.pair) ∧
      ∀ pair ∈ (decodedOf tools parent binding evidence items nowMs expiresAtMs).adjustments.map
        OfflineTemporalAdjustment.pair, pair ∈ others.map HomeRecommendationItem.pair) := by
    by_contra hgood
    obtain ⟨hnodup, hsub, hsup⟩ := (not_or.mp hgood).imp not_not.mp not_not.mp
    have hadjusted : (decodedOf tools parent binding evidence items nowMs expiresAtMs).adjustments.map
        OfflineTemporalAdjustment.pair = _ := hpairs
    rw [hadjusted] at hsub hsup
    refine hother ((List.perm_ext_iff_of_nodup hnodup hitems.distinct).mpr fun pair => ?_)
    exact ⟨fun hp => hperm.mem_iff.mp (hsub pair hp), fun hp => hsup pair (hperm.mem_iff.mpr hp)⟩
  exact bind_eq_error.mpr (Or.inl (if_pos hbad))

/-! ## what is built -/

theorem build_some {rows : List LocalTemporalJournalRow} {nowMs : Int}
    {entity : RecommendationTemporalDeltaEntity}
    (h : build tools parentEntity parent binding rows items nowMs = .ok (some entity)) :
    ∃ evidence expiresAtMs, episodeEvidence tools parent binding rows nowMs = .ok evidence ∧
      Built tools parentEntity parent binding nowMs expiresAtMs ∧
      entity = deltaEntity tools parentEntity parent binding evidence items nowMs expiresAtMs := by
  obtain ⟨_, hnow, h⟩ := bind_eq_ok.mp h
  obtain ⟨_, henvelope, h⟩ := bind_eq_ok.mp h
  split at h
  · cases h
  · obtain ⟨evidence, hevidence, h⟩ := bind_eq_ok.mp h
    unfold buildFrom at h
    split at h
    · cases h
    · obtain ⟨_, _, h⟩ := bind_eq_ok.mp h
      obtain ⟨_, hrange, h⟩ := bind_eq_ok.mp h
      dsimp only at h
      split at h
      · cases h
      · rename_i hopen
        have hentity := Option.some.inj (Except.ok.inj h)
        refine ⟨evidence, _, hevidence, ⟨henvelope, ?_, rfl, not_le.mp hopen, ?_⟩, hentity.symm⟩
        · by_contra hneg
          unfold refuse at hnow
          rw [if_pos (not_le.mp hneg)] at hnow
          cases hnow
        · by_contra hbig
          unfold refuse at hrange
          rw [if_pos (not_lt.mp hbig)] at hrange
          cases hrange

theorem build_perm {rows rows' : List LocalTemporalJournalRow} (hperm : rows.Perm rows')
    {nowMs : Int} {evidence : List ProjectedLocalEvidence}
    (hevidence : episodeEvidence tools parent binding rows nowMs = .ok evidence) :
    build tools parentEntity parent binding rows' items nowMs =
      build tools parentEntity parent binding rows items nowMs := by
  unfold build
  rw [hevidence, episodeEvidence_perm hperm hevidence]

/-- The items as the delta shows them: rearranged, numbered from one, and none past another that is
two positions away. -/
structure Shown (delta : DecodedOfflineTemporalDelta) (items shown : List HomeRecommendationItem) :
    Prop where
  rearranged : ∃ ordered : List HomeRecommendationItem, ordered.Perm items ∧
    List.Forall₂ (fun item other => ∃ adjustment ∈ delta.adjustments,
      other = adjusted delta.deltaId adjustment item) ordered shown
  numbered : shown.map HomeRecommendationItem.displayPosition =
    (List.range items.length).map fun (i : Nat) => (i : Int) + 1
  near : shown.Pairwise fun a b => ¬ b.packPosition + 2 ≤ a.packPosition

theorem forall₂_mapIdx {α β : Type} {R : α → β → Prop} {f : Nat → α → β} {l : List α}
    (h : ∀ i (hi : i < l.length), R (l.get ⟨i, hi⟩) (f i (l.get ⟨i, hi⟩))) :
    List.Forall₂ R l (l.mapIdx f) := by
  induction l generalizing f with
  | nil => exact .nil
  | cons a l ih =>
    rw [List.mapIdx_cons]
    exact .cons (h 0 (Nat.zero_lt_succ _)) (ih fun i hi => h (i + 1) (Nat.succ_lt_succ hi))

theorem shown_ordered (nowMs expiresAtMs : Int) :
    Shown (decodedOf tools parent binding evidence items nowMs expiresAtMs) items
      ((orderedItems evidence items).mapIdx (shownAt tools parent binding evidence)) := by
  constructor
  · refine ⟨orderedItems evidence items, orderedItems_perm evidence items, forall₂_mapIdx ?_⟩
    intro i hi
    exact ⟨_, List.mem_mapIdx.mpr ⟨i, hi, rfl⟩, rfl⟩
  · rw [← (orderedItems_perm evidence items).length_eq]
    refine map_mapIdx_range ?_ _
    intro _ _
    rfl
  · have hmoves := ordered_moves_little evidence items
    rw [← List.pairwise_map (f := HomeRecommendationItem.packPosition)
      (R := fun a b : Int => ¬ b + 2 ≤ a)] at hmoves ⊢
    have hpositions : ((orderedItems evidence items).mapIdx
        (shownAt tools parent binding evidence)).map HomeRecommendationItem.packPosition =
          (orderedItems evidence items).map HomeRecommendationItem.packPosition := by
      refine map_mapIdx_const ?_ _
      intro _ _
      rfl
    rw [hpositions]
    exact hmoves

end

/-! ## a liked track at the end of the safe integers -/

namespace Sample

/-! The digest is SHA-256 itself, over words below `2 ^ 32`. -/

def roundConstants : List Nat :=
  [0x428a2f98, 0x71374491, 0xb5c0fbcf, 0xe9b5dba5, 0x3956c25b, 0x59f111f1, 0x923f82a4, 0xab1c5ed5,
    0xd807aa98, 0x12835b01, 0x243185be, 0x550c7dc3, 0x72be5d74, 0x80deb1fe, 0x9bdc06a7, 0xc19bf174,
    0xe49b69c1, 0xefbe4786, 0x0fc19dc6, 0x240ca1cc, 0x2de92c6f, 0x4a7484aa, 0x5cb0a9dc, 0x76f988da,
    0x983e5152, 0xa831c66d, 0xb00327c8, 0xbf597fc7, 0xc6e00bf3, 0xd5a79147, 0x06ca6351, 0x14292967,
    0x27b70a85, 0x2e1b2138, 0x4d2c6dfc, 0x53380d13, 0x650a7354, 0x766a0abb, 0x81c2c92e, 0x92722c85,
    0xa2bfe8a1, 0xa81a664b, 0xc24b8b70, 0xc76c51a3, 0xd192e819, 0xd6990624, 0xf40e3585, 0x106aa070,
    0x19a4c116, 0x1e376c08, 0x2748774c, 0x34b0bcb5, 0x391c0cb3, 0x4ed8aa4a, 0x5b9cca4f, 0x682e6ff3,
    0x748f82ee, 0x78a5636f, 0x84c87814, 0x8cc70208, 0x90befffa, 0xa4506ceb, 0xbef9a3f7, 0xc67178f2]

structure Words where
  a : Nat
  b : Nat
  c : Nat
  d : Nat
  e : Nat
  f : Nat
  g : Nat
  h : Nat

def rotate (n x : Nat) : Nat := (x >>> n ||| x <<< (32 - n)) % 2 ^ 32

def round (state : Words) (constant word : Nat) : Words :=
  let s1 := rotate 6 state.e ^^^ rotate 11 state.e ^^^ rotate 25 state.e
  let choice := (state.e &&& state.f) ^^^ ((2 ^ 32 - 1 - state.e) &&& state.g)
  let t1 := state.h + s1 + choice + constant + word
  let s0 := rotate 2 state.a ^^^ rotate 13 state.a ^^^ rotate 22 state.a
  let majority := (state.a &&& state.b) ^^^ (state.a &&& state.c) ^^^ (state.b &&& state.c)
  ⟨(t1 + s0 + majority) % 2 ^ 32, state.a, state.b, state.c, (state.d + t1) % 2 ^ 32, state.e, state.f,
    state.g⟩

/-- The next word of the schedule, from the last sixteen. -/
def nextWord (window : List Nat) : Nat :=
  let w1 := window.getD 1 0
  let w14 := window.getD 14 0
  let s0 := rotate 7 w1 ^^^ rotate 18 w1 ^^^ (w1 >>> 3)
  let s1 := rotate 17 w14 ^^^ rotate 19 w14 ^^^ (w14 >>> 10)
  (window.getD 0 0 + s0 + window.getD 9 0 + s1) % 2 ^ 32

def rounds : List Nat → Words → List Nat → Words
  | [], state, _ => state
  | constant :: constants, state, window =>
    rounds constants (round state constant (window.getD 0 0)) (window.tail ++ [nextWord window])

def compress (state : Words) (block : List Nat) : Words :=
  let mixed := rounds roundConstants state block
  ⟨(state.a + mixed.a) % 2 ^ 32, (state.b + mixed.b) % 2 ^ 32, (state.c + mixed.c) % 2 ^ 32,
    (state.d + mixed.d) % 2 ^ 32, (state.e + mixed.e) % 2 ^ 32, (state.f + mixed.f) % 2 ^ 32,
    (state.g + mixed.g) % 2 ^ 32, (state.h + mixed.h) % 2 ^ 32⟩

/-- The bytes of a big-endian number. -/
def bigEndian (count n : Nat) : List Nat :=
  (List.range count).map fun i => n / 256 ^ (count - 1 - i) % 256

def padded (bytes : List Nat) : List Nat :=
  bytes ++ 128 :: List.replicate ((119 - bytes.length % 64) % 64) 0 ++
    bigEndian 8 (8 * bytes.length)

def wordsOf : List Nat → List Nat
  | a :: b :: c :: d :: rest => (((a * 256 + b) * 256 + c) * 256 + d) :: wordsOf rest
  | _ => []

/-- The blocks of sixteen words, one after the other. -/
def digestFrom : Nat → Words → List Nat → Words
  | 0, state, _ => state
  | blocks + 1, state, words => digestFrom blocks (compress state (words.take 16)) (words.drop 16)

def bytesOf (word : Nat) : List Byte := (bigEndian 4 word).map byteOf

def sha256 (text : String) : List Byte :=
  let words := wordsOf (padded ((text.toList.flatMap String.utf8EncodeChar).map UInt8.toNat))
  let digest := digestFrom (words.length / 16) ⟨0x6a09e667, 0xbb67ae85, 0x3c6ef372, 0xa54ff53a,
    0x510e527f, 0x9b05688c, 0x1f83d9ab, 0x5be0cd19⟩ words
  bytesOf digest.a ++ bytesOf digest.b ++ bytesOf digest.c ++ bytesOf digest.d ++
    bytesOf digest.e ++ bytesOf digest.f ++ bytesOf digest.g ++ bytesOf digest.h

example : toHex (sha256 "abc") =
    "ba7816bf8f01cfea414140de5dae2223b00361a396177a9cb410ff61f20015ad" := by decide +kernel

theorem length_sha256 (text : String) : (sha256 text).length = 32 := rfl

mutual

/-- The text of a canonical value with whole numbers, three quarters, and no escapes. -/
def text : Json → String
  | .null => "null"
  | .bool b => if b then "true" else "false"
  | .int i => toString i
  | .float q => if q = 3 / 4 then "0.75" else toString q.num
  | .str s => "\"" ++ s ++ "\""
  | .arr items => "[" ++ itemsText "" items ++ "]"
  | .obj fields => "\x7b" ++ fieldsText "" fields ++ "\x7d"

def itemsText (sep : String) : List Json → String
  | [] => ""
  | x :: xs => sep ++ text x ++ itemsText "," xs

def fieldsText (sep : String) : List (String × Json) → String
  | [] => ""
  | x :: xs => sep ++ "\"" ++ x.1 ++ "\":" ++ text x.2 ++ fieldsText "," xs

end

/-- The integers as doubles; up to `2 ^ 54` every second one is a double. -/
def doubleInt (i : Int) : Int :=
  if |i| ≤ 2 ^ 53 ∨ 2 ^ 54 < |i| ∨ i % 2 = 0 then i else if i % 4 = 1 then i - 1 else i + 1

theorem doubleInt_safe (i : Int) (h : |i| ≤ 2 ^ 53) : doubleInt i = i := if_pos (Or.inl h)

theorem doubleInt_doubleInt (i : Int) : doubleInt (doubleInt i) = doubleInt i := by
  unfold doubleInt
  split
  · rename_i h
    exact rfl
  · split
    · rw [if_pos (Or.inr (Or.inr (by omega)))]
    · rw [if_pos (Or.inr (Or.inr (by omega)))]

def userId : Uuid := ⟨"00000000-0000-7000-8000-000000000001", rfl⟩
def deviceId : Uuid := ⟨"00000000-0000-7000-8000-000000000002", rfl⟩
def serverProfileId : Uuid := ⟨"00000000-0000-7000-8000-000000000003", rfl⟩
def packId : Uuid := ⟨"00000000-0000-7000-8000-000000000004", rfl⟩
def requestId : Uuid := ⟨"00000000-0000-7000-8000-000000000005", rfl⟩
def recordingId : Uuid := ⟨"00000000-0000-7000-8000-000000000006", rfl⟩
def eventId : Uuid := ⟨"00000000-0000-7000-8000-000000000007", rfl⟩

def binding : ClientEventBinding := ⟨userId, deviceId, serverProfileId⟩

def likedJson : String := "\x7b\"excluded_from_taste\":false,\"preference\":\"LIKED\"\x7d"

def liked : Payload := [("excluded_from_taste", .bool false), ("preference", .str "LIKED")]

/-- The tools, but for what is parsed of a stored delta. -/
def toolsOf (root : Json) : DeltaTools where
  text := text
  canonicalize := some
  parse := fun source => if source = likedJson then some (.obj liked) else some root
  sha256 := sha256
  jcsInt := doubleInt
  longOf := String.toInt?
  doubleOf := fun source => source.toInt?.map fun i => i
  booleanOf := fun source =>
    if source = "true" then some true else if source = "false" then some false else none
  sha256_length := length_sha256
  jcsInt_safe := doubleInt_safe
  jcsInt_jcsInt := doubleInt_doubleInt

/-- It expires at an even number above `2 ^ 53`. -/
def parent : DecodedOfflinePack doubleInt where
  offlinePackId := packId
  recommendationRequestId := requestId
  userId := userId
  deviceId := deviceId
  createdAtMs := 9007199254739992
  expiresAtMs := 9007199254740994
  items := [⟨recordingId, 1, 1⟩]
  items_bounded := by decide
  ranks := by decide
  positions := by decide
  recordings_distinct := by decide
  ranks_distinct := by decide
  positions_distinct := by decide
  times_range := by decide
  times_canonical := by decide

def parentEntity : RecommendationPackEntity where
  offlinePackId := packId.text
  serverProfileId := serverProfileId.text
  ownerUserId := userId.text
  payload := "\x7b\x7d"
  payloadSha256 := sha256 "\x7b\x7d"

def row : LocalTemporalJournalRow where
  sourceEventId := eventId.text
  ownerUserId := userId.text
  serverProfileId := serverProfileId.text
  deviceId := deviceId.text
  deviceSequence := 1
  sourceEventType := "USER_TRACK_PREFERENCE_SET"
  aggregateLocalId := eventId.text
  payloadJson := likedJson
  sourceRequestSha256 := sha256 likedJson
  occurredAtMs := 9007199254740000
  recordingId := some recordingId.text

def item : HomeRecommendationItem where
  offlinePackId := packId.text
  recommendationRequestId := requestId.text
  recordingId := recordingId
  localUserTrackRefId := recordingId.text
  title := "Title"
  artist := "Artist"
  sourceRank := 1
  packPosition := 1
  displayPosition := 1
  sectionKey := "for_you"
  surface := "home"
  source := "offline_pack"
  reasonCode := "TASTE_MATCH"
  deltaId := none
  impressionEventId := none
  impressionKeySha256 := none

def likedEvidence : List ProjectedLocalEvidence :=
  [evidenceOf (toolsOf .null) binding row recordingId
    ⟨"EXPLICIT_LIKE", "PREFERENCE_TRANSITION_V1", "EXPLICIT", 1, 1, 1, false, none⟩]

/-- The delta at a time, as it is parsed. -/
def rootAt (nowMs : Int) : Json :=
  written doubleInt (.obj (deltaDocument (toolsOf .null) parentEntity parent binding likedEvidence [item]
    nowMs 9007199254740994))

def toolsAt (nowMs : Int) : DeltaTools := toolsOf (rootAt nowMs)

theorem evidenceAt (root : Json) {nowMs : Int} (hafter : 9007199254740000 ≤ nowMs)
    (hgap : nowMs ≤ 9007199254740993) :
    episodeEvidence (toolsOf root) parent binding [row] nowMs = .ok likedEvidence := by
  have hepisode : currentEpisode [row] binding parent.createdAtMs nowMs = .ok [row] := by
    have hrow : validateSourceRow binding parent.createdAtMs nowMs row = .ok () := by
      refine bind_of_ok (check_ok.mpr (by decide)) (bind_of_ok (check_ok.mpr (by decide)) ?_)
      refine check_ok.mpr ?_
      rintro (h | h | h | h | h | h)
      · exact absurd h (by decide)
      · exact absurd h (by decide)
      · exact absurd h (by decide)
      · exact absurd hafter (not_le.mpr h)
      · exact h (length_sha256 _)
      · exact absurd h (by decide)
    refine bind_of_ok (check_ok.mpr (by decide)) ?_
    refine bind_of_ok (a := [row]) ?_ ?_
    · rw [List.foldlM_cons]
      exact bind_of_ok (bind_of_ok hrow rfl) rfl
    · have hshort : ¬ episodeGapMs < nowMs - row.occurredAtMs := by
        show ¬ (1800000 : Int) < nowMs - 9007199254740000
        omega
      show Except.ok (episodeOf [row] nowMs) = _
      unfold episodeOf
      rw [List.insertionSort_cons, List.insertionSort_nil, List.orderedInsert_nil]
      dsimp only
      rw [if_neg hshort]
      rfl
  refine bind_of_ok hepisode ?_
  have hnormal : normalize (toolsOf root) binding row = .ok likedEvidence := by
    refine bind_of_ok (a := recordingId) rfl ?_
    refine bind_of_ok (a := liked) ?_ ?_
    · show orFail _ (objectOf (if likedJson = likedJson then some (.obj liked) else some root)) = _
      rw [if_pos rfl]
      rfl
    refine bind_of_ok (check_ok.mpr (not_not.mpr rfl)) ?_
    exact bind_of_ok rfl rfl
  refine bind_of_ok (a := [likedEvidence]) ?_ rfl
  rw [List.mapM_cons]
  exact bind_of_ok hnormal rfl

theorem buildAt (root : Json) {nowMs : Int} (hafter : 9007199254740000 ≤ nowMs)
    (hgap : nowMs ≤ 9007199254740993) :
    build (toolsOf root) parentEntity parent binding [row] [item] nowMs =
      .ok (some (deltaEntity (toolsOf root) parentEntity parent binding likedEvidence [item] nowMs
        9007199254740994)) := by
  have hexpires : min parent.expiresAtMs (nowMs + maxDeltaLifetimeMs) = 9007199254740994 := by
    show min (9007199254740994 : Int) (nowMs + 604800000) = _
    omega
  have hscore : scoreOf likedEvidence recordingId = 3 / 4 := by decide +kernel
  refine bind_of_ok (if_neg (by omega)) ?_
  refine bind_of_ok (a := ()) ?_ ?_
  · refine bind_of_ok (check_ok.mpr ?_) (bind_of_ok (check_ok.mpr (not_not.mpr rfl)) (check_ok.mpr ?_))
    · rintro (h | h | h | h) <;> exact h rfl
    · rintro (h | h)
      · exact h (length_sha256 _)
      · exact h rfl
  have hopen : ¬ (parent.expiresAtMs ≤ nowMs ∨ [item] = []) := by
    rintro (h | h)
    · have h : (9007199254740994 : Int) ≤ nowMs := h
      omega
    · cases h
  rw [if_neg hopen]
  refine bind_of_ok (evidenceAt root hafter hgap) ?_
  unfold buildFrom
  rw [if_neg]
  · refine bind_of_ok (check_ok.mpr ?_) ?_
    · have hhex : sha256Hex (toHex parentEntity.payloadSha256) = true :=
        sha256Hex_toHex (length_sha256 _)
      rw [hhex]
      decide
    · refine bind_of_ok (if_neg ?_) ?_
      · show ¬ (2 ^ 63 : Int) ≤ nowMs + 604800000
        omega
      · dsimp only
        rw [hexpires, if_neg (by omega)]
        rfl
  · rintro (h | h)
    · cases h
    · have hzero := h item List.mem_cons_self
      rw [show item.recordingId = recordingId from rfl, hscore] at hzero
      exact absurd hzero (by decide +kernel)

theorem text_ne_likedJson (v : Json) (rest : Payload) :
    text (.obj (("adjustments", v) :: rest)) ≠ likedJson := by
  intro h
  have hchars := congrArg String.toList h
  simp [text, fieldsText, likedJson] at hchars

theorem keysOf_sortFields (fields : Payload) :
    keysOf (Sona.sortFields fields) = (keysOf fields).insertionSort (· ≤ ·) :=
  List.map_insertionSort _ _ _ fields fun _ _ _ _ => Iff.rfl

/-- The fields of a delta are sorted by their keys. -/
theorem rootAt_first (nowMs : Int) : ∃ v rest, rootAt nowMs = .obj (("adjustments", v) :: rest) := by
  have hkeys : keysOf (writtenObj doubleInt (deltaDocument (toolsOf .null) parentEntity parent binding
      likedEvidence [item] nowMs 9007199254740994)) = deltaKeys.insertionSort (· ≤ ·) := by
    unfold writtenObj
    rw [keysOf_sortFields, Sona.keysOf_map]
    rfl
  have hfirst : (deltaKeys.insertionSort (· ≤ ·)).head? = some "adjustments" := by decide +kernel
  rw [← hkeys] at hfirst
  unfold rootAt
  rw [written_obj]
  cases hroot : writtenObj doubleInt (deltaDocument (toolsOf .null) parentEntity parent binding
      likedEvidence [item] nowMs 9007199254740994) with
  | nil =>
    rw [hroot] at hfirst
    cases hfirst
  | cons first rest =>
    rw [hroot] at hfirst
    obtain ⟨key, v⟩ := first
    cases Option.some.inj hfirst
    exact ⟨v, rest, rfl⟩

theorem canonicalSha256_toolsOf (root v : Json) :
    canonicalSha256 (toolsOf root) v = canonicalSha256 (toolsOf .null) v := rfl

theorem deterministicUuid_toolsOf (root : Json) (material : String) :
    deterministicUuid (toolsOf root) material = deterministicUuid (toolsOf .null) material := rfl

/-- What is stored does not depend on what will be parsed. -/
theorem deltaDocument_toolsOf (root : Json) (nowMs : Int) :
    deltaDocument (toolsOf root) parentEntity parent binding likedEvidence [item] nowMs
      9007199254740994 =
    deltaDocument (toolsOf .null) parentEntity parent binding likedEvidence [item] nowMs
      9007199254740994 := by
  unfold deltaDocument sealed deltaFields deltaIdOf adjustmentsOf orderedItems
  rw [List.insertionSort_cons, List.insertionSort_nil, List.orderedInsert_nil, List.mapIdx_cons,
    List.mapIdx_nil]
  unfold adjustmentOf impressionKey
  simp only [canonicalSha256_toolsOf root, deterministicUuid_toolsOf root]
  rfl

theorem parse_toolsOf {root : Json} {source : String} (h : source ≠ likedJson) :
    (toolsOf root).parse source = some root := if_neg h

theorem readsAt (nowMs : Int) :
    (toolsAt nowMs).Reads (.obj (deltaDocument (toolsAt nowMs) parentEntity parent binding likedEvidence
      [item] nowMs 9007199254740994)) := by
  obtain ⟨v, rest, hroot⟩ := rootAt_first nowMs
  have hwritten : written doubleInt (.obj (deltaDocument (toolsAt nowMs) parentEntity parent binding
      likedEvidence [item] nowMs 9007199254740994)) = rootAt nowMs := by
    unfold rootAt toolsAt
    rw [deltaDocument_toolsOf]
  have htext : (toolsAt nowMs).jcs (.obj (deltaDocument (toolsAt nowMs) parentEntity parent binding
      likedEvidence [item] nowMs 9007199254740994)) = text (.obj (("adjustments", v) :: rest)) := by
    rw [← hroot, ← hwritten]
    rfl
  constructor
  · rw [htext]
    rfl
  · rw [htext]
    refine (parse_toolsOf (text_ne_likedJson v rest)).trans ?_
    exact congrArg some hwritten.symm
  · rw [htext]
    intro hempty
    have hchars := congrArg String.toList hempty
    simp [text] at hchars

theorem evidenceIds_texts :
    (signalKeys.map fun key => (deterministicUuid (toolsOf .null)
      (evidenceMaterial row.sourceEventId key)).text) =
    ["40f5d13c-6c35-8c18-a52a-27353737efbe",
      "4ee13fda-5caf-8fff-a3c8-95635d89b425",
      "e04c7b16-d125-88be-a384-e2658fee5640",
      "3cd248db-21ed-8492-a544-cac9df743f32",
      "52917de0-c52c-8ddf-b85b-9a6215fcf8d3",
      "50de2127-7343-8dfb-a098-031e02f4678b",
      "4a7918ef-5da9-8f7f-8db0-950440075f39"] := by
  decide +kernel

theorem noCollisions (root : Json) : NoCollisions (toolsOf root) parent binding [item] [row] where
  impressionKeys a ha b hb _ := by
    rw [List.mem_singleton.mp ha, List.mem_singleton.mp hb]
  impressionIds a ha b hb key key' hkey hkey' _ := by
    rw [hkey, hkey', List.mem_singleton.mp ha, List.mem_singleton.mp hb]
  evidenceIds := by
    have hnodup : (signalKeys.map fun key => (deterministicUuid (toolsOf .null)
        (evidenceMaterial row.sourceEventId key)).text).Nodup := by
      rw [evidenceIds_texts]
      decide
    intro a ha b hb key hkey key' hkey' heq
    rw [List.mem_singleton.mp ha, List.mem_singleton.mp hb] at heq ⊢
    exact ⟨rfl, List.inj_on_of_nodup_map hnodup hkey hkey' (congrArg Uuid.text heq)⟩

theorem packItems (root : Json) : @PackItems (toolsOf root) parent [item] where
  distinct := List.nodup_singleton _
  parent other ho := by
    rw [List.mem_singleton.mp ho]
    exact List.mem_cons_self

end Sample

end AutPlay.Offline
