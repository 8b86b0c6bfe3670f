import Mathlib.Data.String.Basic
import AutPlay.Lib.Numerals
import AutPlay.Lib.Places
import AutPlay.Lib.Result

/-!
# Playlist position keys

`PlaylistPositionKeys` of the Android client: keys of sixteen base-62 characters, whose order as texts
is that of the numbers they stand for.

* `between`        a key between two boundaries, or that there is none;
* `rebalance`      evenly spaced keys;
* `keyText_lt_iff` the order of the keys;
* `between_laws`, `rebalance_laws`     what both return.

A number is a `BigInteger` that is never negative; the first and the last of the width are no keys, so
that a boundary may be left open.
-/

set_option linter.unusedSectionVars false

namespace AutPlay.Library

open Result

/-! ## keys -/

def alphabet : List Char := "0123456789ABCDEFGHIJKLMNOPQRSTUVWXYZabcdefghijklmnopqrstuvwxyz".toList

def width : Nat := 16

def base : Nat := 62

def maximum : Nat := base ^ width - 1

/-- A failed `require`: of boundaries, of a key, of anything else. -/
inductive KeyFault
  | unordered
  | invalid
  | failedRequirement
  deriving DecidableEq

def require (p : Prop) [Decidable p] (fault : KeyFault) : Except KeyFault Unit :=
  if p then .ok () else .error fault

def digitOf (i : Nat) : Char := alphabet.getD i '0'

/-- The sixteen characters of a number. -/
@[irreducible] def keyText (value : Nat) : String := String.ofList (numeral digitOf base width value)

def decode (value : String) : Except KeyFault Nat := do
  require (value.toList.length = width ∧ (value.toList.all fun c => decide (c ∈ alphabet)) = true) .invalid
  return numeralValue alphabet.idxOf base value.toList

def encode (value : Nat) : Except KeyFault String := do
  require (0 < value ∧ value < maximum) .failedRequirement
  return keyText value

/-- A key strictly between the boundaries; `none` if they leave no place. -/
def between (before after : Option String) : Except KeyFault (Option String) := do
  let lower ← before.elim (.ok 0) decode
  let upper ← after.elim (.ok maximum) decode
  require (lower < upper) .unordered
  let candidate := (lower + upper) / 2
  if candidate = lower ∨ candidate = upper then return none
  else
    let key ← encode candidate
    return some key

/-- The keys of entries in their order. -/
def rebalance (entryIdsInOrder : List String) : Except KeyFault (List (String × String)) := do
  require (entryIdsInOrder.length ≤ 10000) .failedRequirement
  require entryIdsInOrder.Nodup .failedRequirement
  let stride := maximum / (entryIdsInOrder.length + 1)
  (entryIdsInOrder.zipIdx).mapM fun entry => do
    let key ← encode (stride * (entry.2 + 1))
    return (entry.1, key)

/-- What `encode` can return. -/
def IsKey (key : String) : Prop := ∃ value, encode value = .ok key

/-! ## their order -/

theorem digitOf_lt : ∀ j < base, ∀ i < j, digitOf i < digitOf j := by decide +kernel

theorem idxOf_digitOf : ∀ i < base, alphabet.idxOf (digitOf i) = i := by decide +kernel

theorem digitOf_mem : ∀ i < base, digitOf i ∈ alphabet := by decide +kernel

variable {m n : Nat} {key : String}

theorem toList_keyText : (keyText n).toList = numeral digitOf base width n := by
  unfold keyText
  exact String.toList_ofList

theorem keyText_lt (h : m < n) (hn : n < base ^ width) : keyText m < keyText n := by
  rw [String.lt_iff_toList_lt, toList_keyText, toList_keyText]
  exact numeral_lex digitOf_lt h hn

theorem keyText_lt_iff (hm : m < base ^ width) (hn : n < base ^ width) : keyText m < keyText n ↔ m < n := by
  refine ⟨fun h => ?_, fun h => keyText_lt h hn⟩
  rcases Nat.lt_trichotomy m n with hlt | rfl | hlt
  · exact hlt
  · exact absurd h (lt_irrefl _)
  · exact absurd h (keyText_lt hlt hm).asymm

theorem keyText_inj (hm : m < base ^ width) (hn : n < base ^ width) (h : keyText m = keyText n) : m = n := by
  rcases Nat.lt_trichotomy m n with hlt | heq | hlt
  · exact absurd h (keyText_lt hlt hn).ne
  · exact heq
  · exact absurd h (keyText_lt hlt hm).ne'

theorem numeral_mem {w : Nat} {c : Char} (h : c ∈ numeral digitOf base w n) : c ∈ alphabet := by
  induction w generalizing n with
  | zero => cases h
  | succ w ih =>
    rcases List.mem_append.mp h with h | h
    · exact ih h
    · rw [List.mem_singleton.mp h]
      exact digitOf_mem _ (Nat.mod_lt _ (by decide))

theorem require_ok {p : Prop} [Decidable p] {fault : KeyFault} : require p fault = .ok () ↔ p := by
  unfold require
  split
  · next h => exact ⟨fun _ => h, fun _ => rfl⟩
  · next h => exact ⟨nofun, fun hp => absurd hp h⟩

theorem decode_keyText (hn : n < base ^ width) : decode (keyText n) = .ok n := by
  unfold decode
  rw [toList_keyText]
  have hall : ((numeral digitOf base width n).all fun c => decide (c ∈ alphabet)) = true :=
    List.all_eq_true.mpr fun c hc => decide_eq_true (numeral_mem hc)
  refine bind_of_ok (require_ok.mpr ⟨length_numeral, hall⟩) ?_
  exact congrArg Except.ok (numeralValue_numeral (by decide) idxOf_digitOf hn)

/-- A number that is encoded. -/
def Encodable (n : Nat) : Prop := 0 < n ∧ n < maximum

theorem Encodable.lt (h : Encodable n) : n < base ^ width := by
  have hmax : maximum < base ^ width := by decide
  exact h.2.trans hmax

theorem encode_ok : encode n = .ok key ↔ Encodable n ∧ key = keyText n := by
  unfold encode
  constructor
  · intro h
    obtain ⟨_, hn, h⟩ := bind_eq_ok.mp h
    have hn : 0 < n ∧ n < maximum := require_ok.mp hn
    exact ⟨hn, (Except.ok.inj h).symm⟩
  · rintro ⟨⟨hpos, hlt⟩, rfl⟩
    exact bind_of_ok (require_ok.mpr ⟨hpos, hlt⟩) rfl

theorem isKey_iff : IsKey key ↔ ∃ n, Encodable n ∧ key = keyText n := by
  unfold IsKey
  exact exists_congr fun _ => encode_ok

/-! ## between -/

/-- The number of a lower boundary, and of an upper one. -/
def lowerOf (before : Option Nat) : Nat := before.getD 0

def upperOf (after : Option Nat) : Nat := after.getD maximum

theorem decode_lower {before : Option Nat} (h : ∀ n ∈ before, Encodable n) :
    (before.map keyText).elim (.ok 0) decode = .ok (lowerOf before) := by
  cases before with
  | none => rfl
  | some n => exact decode_keyText (h n rfl).lt

theorem decode_upper {after : Option Nat} (h : ∀ n ∈ after, Encodable n) :
    (after.map keyText).elim (.ok maximum) decode = .ok (upperOf after) := by
  cases after with
  | none => rfl
  | some n => exact decode_keyText (h n rfl).lt

theorem lowerOf_lt {before : Option Nat} (h : ∀ n ∈ before, Encodable n) : lowerOf before < maximum := by
  cases before with
  | none => exact (by decide : 0 < maximum)
  | some n => exact (h n rfl).2

theorem upperOf_pos {after : Option Nat} (h : ∀ n ∈ after, Encodable n) : 0 < upperOf after := by
  cases after with
  | none => exact (by decide : 0 < maximum)
  | some n => exact (h n rfl).1

theorem upperOf_le {after : Option Nat} (h : ∀ n ∈ after, Encodable n) : upperOf after ≤ maximum := by
  cases after with
  | none => exact le_rfl
  | some n => exact (h n rfl).2.le

/-- **What `between` returns** of ordered boundaries: the middle, or nothing when they are neighbours. -/
theorem between_keyText {before after : Option Nat} (hb : ∀ n ∈ before, Encodable n)
    (ha : ∀ n ∈ after, Encodable n) (h : lowerOf before < upperOf after) :
    between (before.map keyText) (after.map keyText) =
      .ok (if lowerOf before + 1 < upperOf after then
        some (keyText ((lowerOf before + upperOf after) / 2)) else none) := by
  have hle := upperOf_le ha
  refine bind_of_ok (decode_lower hb) (bind_of_ok (decode_upper ha) (bind_of_ok (require_ok.mpr h) ?_))
  dsimp only
  by_cases hgap : lowerOf before + 1 < upperOf after
  · rw [if_pos hgap, if_neg (by omega)]
    exact bind_of_ok (encode_ok.mpr ⟨⟨by omega, by omega⟩, rfl⟩) rfl
  · rw [if_neg hgap, if_pos (by omega)]
    rfl

/-- A key lies strictly between two boundaries, each of which may be open. -/
def Between (before : Option String) (key : String) (after : Option String) : Prop :=
  (∀ k ∈ before, k < key) ∧ ∀ k ∈ after, key < k

theorem between_iff {before after : Option Nat} (hb : ∀ n ∈ before, Encodable n)
    (ha : ∀ n ∈ after, Encodable n) (hn : Encodable n) :
    Between (before.map keyText) (keyText n) (after.map keyText) ↔ lowerOf before < n ∧ n < upperOf after := by
  have hlower : (∀ k ∈ before.map keyText, k < keyText n) ↔ lowerOf before < n := by
    cases before with
    | none => exact ⟨fun _ => hn.1, nofun⟩
    | some m =>
      show _ ↔ m < n
      rw [← keyText_lt_iff (hb m rfl).lt hn.lt]
      exact ⟨fun h => h _ rfl, fun h k hk => Option.some.inj hk ▸ h⟩
  have hupper : (∀ k ∈ after.map keyText, keyText n < k) ↔ n < upperOf after := by
    cases after with
    | none => exact ⟨fun _ => hn.2, nofun⟩
    | some m =>
      show _ ↔ n < m
      rw [← keyText_lt_iff hn.lt (ha m rfl).lt]
      exact ⟨fun h => h _ rfl, fun h k hk => Option.some.inj hk ▸ h⟩
  exact and_congr hlower hupper

theorem exists_values {key? : Option String} (h : ∀ k ∈ key?, IsKey k) :
    ∃ value? : Option Nat, key? = value?.map keyText ∧ ∀ n ∈ value?, Encodable n := by
  cases key? with
  | none => exact ⟨none, rfl, nofun⟩
  | some k =>
    obtain ⟨n, hn, rfl⟩ := isKey_iff.mp (h k rfl)
    exact ⟨some n, rfl, fun m hm => Option.some.inj hm ▸ hn⟩

/-- **`between`** of keys in their order returns a key between them, or nothing if there is none. -/
theorem between_laws {before after : Option String} (hb : ∀ k ∈ before, IsKey k)
    (ha : ∀ k ∈ after, IsKey k) (h : ∀ k ∈ before, ∀ k' ∈ after, k < k') :
    ∃ answer, between before after = .ok answer ∧
      (∀ k ∈ answer, IsKey k ∧ Between before k after) ∧
      (answer = none → ¬ ∃ k, IsKey k ∧ Between before k after) := by
  obtain ⟨lower, rfl, hlower⟩ := exists_values hb
  obtain ⟨upper, rfl, hupper⟩ := exists_values ha
  have hlt : lowerOf lower < upperOf upper := by
    cases lower with
    | none => exact upperOf_pos hupper
    | some m =>
      cases upper with
      | none => exact (hlower m rfl).2
      | some n => exact (keyText_lt_iff (hlower m rfl).lt (hupper n rfl).lt).mp (h _ rfl _ rfl)
  have hanswer := between_keyText hlower hupper hlt
  by_cases hgap : lowerOf lower + 1 < upperOf upper
  · rw [if_pos hgap] at hanswer
    have hle := upperOf_le hupper
    have hmid : Encodable ((lowerOf lower + upperOf upper) / 2) := ⟨by omega, by omega⟩
    have hplace := (between_iff hlower hupper hmid).mpr ⟨by omega, by omega⟩
    refine ⟨_, hanswer, fun k hk => ?_, nofun⟩
    rw [← Option.some.inj hk]
    exact ⟨isKey_iff.mpr ⟨_, hmid, rfl⟩, hplace⟩
  · rw [if_neg hgap] at hanswer
    refine ⟨_, hanswer, nofun, fun _ => ?_⟩
    rintro ⟨k, hk, hbetween⟩
    obtain ⟨n, hn, rfl⟩ := isKey_iff.mp hk
    have hplace := (between_iff hlower hupper hn).mp hbetween
    omega

/-! ## places between keys -/

/-- `getOrNull(index - 1)` -/
def beforeAt {α : Type} (l : List α) : Nat → Option α
  | 0 => none
  | i + 1 => l[i]?

theorem beforeAt_map {α β : Type} (f : α → β) (l : List α) (i : Nat) :
    beforeAt (l.map f) i = (beforeAt l i).map f := by
  cases i with
  | zero => rfl
  | succ i => exact List.getElem?_map

theorem mem_of_beforeAt {α : Type} {l : List α} {i : Nat} {a : α} (h : a ∈ beforeAt l i) :
    a ∈ l.take i := by
  cases i with
  | zero => cases h
  | succ i => exact List.mem_iff_getElem?.mpr ⟨i, by
      rw [List.getElem?_take_of_lt (Nat.lt_succ_self i)]
      exact h⟩

/-- Numbers of keys, in their order. -/
structure KeyValues (values : List Nat) : Prop where
  encodable : ∀ n ∈ values, Encodable n
  sorted : values.Pairwise (· < ·)

section
variable {values : List Nat} {i : Nat}

theorem KeyValues.take_le (h : KeyValues values) (hi : i ≤ values.length) :
    ∀ n ∈ values.take i, n ≤ lowerOf (beforeAt values i) := by
  cases i with
  | zero => intro n hn; cases hn
  | succ i =>
    have hlt : i < values.length := by omega
    intro n hn
    have hlast : beforeAt values (i + 1) = some values[i] := List.getElem?_eq_getElem hlt
    rw [hlast]
    obtain ⟨j, hj⟩ := List.mem_iff_getElem?.mp hn
    have hji : j < i + 1 := by
      by_contra hno
      rw [List.getElem?_eq_none (by rw [List.length_take]; omega)] at hj
      cases hj
    rw [List.getElem?_take_of_lt hji] at hj
    obtain ⟨hjl, rfl⟩ := List.getElem?_eq_some_iff.mp hj
    rcases Nat.lt_or_eq_of_le (Nat.lt_succ_iff.mp hji) with hlt' | rfl
    · exact (List.pairwise_iff_getElem.mp h.sorted j i hjl hlt hlt').le
    · exact le_rfl

theorem KeyValues.le_drop (h : KeyValues values) :
    ∀ n ∈ values.drop i, upperOf values[i]? ≤ n := by
  intro n hn
  cases hdrop : values.drop i with
  | nil =>
    rw [hdrop] at hn
    cases hn
  | cons m rest =>
    have hm : values[i]? = some m := by
      have hhead := congrArg List.head? hdrop
      rw [List.head?_drop] at hhead
      exact hhead
    rw [hm]
    rw [hdrop] at hn
    rcases List.mem_cons.mp hn with rfl | hn
    · exact le_rfl
    · have hsorted := h.sorted.sublist (List.drop_sublist i values)
      rw [hdrop] at hsorted
      exact ((List.pairwise_cons.mp hsorted).1 n hn).le

theorem KeyValues.before (h : KeyValues values) : ∀ n ∈ beforeAt values i, Encodable n :=
  fun n hn => h.encodable n (List.mem_of_mem_take (mem_of_beforeAt hn))

theorem KeyValues.after (h : KeyValues values) : ∀ n ∈ values[i]?, Encodable n :=
  fun n hn => h.encodable n (List.mem_of_getElem? hn)

/-- The boundaries of a place are in their order. -/
theorem KeyValues.lower_lt_upper (h : KeyValues values) (i : Nat) :
    lowerOf (beforeAt values i) < upperOf values[i]? := by
  cases hb : beforeAt values i with
  | none => exact upperOf_pos h.after
  | some m =>
    cases ha : values[i]? with
    | none => exact (h.before m hb).2
    | some n =>
      cases i with
      | zero => cases hb
      | succ i =>
        obtain ⟨hi, rfl⟩ := List.getElem?_eq_some_iff.mp hb
        obtain ⟨hi', rfl⟩ := List.getElem?_eq_some_iff.mp ha
        exact List.pairwise_iff_getElem.mp h.sorted i (i + 1) hi hi' (Nat.lt_succ_self i)

/-- A number between the boundaries of a place may be put there. -/
theorem KeyValues.insert (h : KeyValues values) (hi : i ≤ values.length) {n : Nat}
    (hlower : lowerOf (beforeAt values i) < n) (hupper : n < upperOf values[i]?) :
    KeyValues (values.insertIdx i n) := by
  have hn : Encodable n := ⟨by omega, hupper.trans_le (upperOf_le h.after)⟩
  rw [insertIdx_eq_take_append hi]
  constructor
  · intro m hm
    rcases List.mem_append.mp hm with hm | hm
    · exact h.encodable m (List.mem_of_mem_take hm)
    · rcases List.mem_cons.mp hm with rfl | hm
      · exact hn
      · exact h.encodable m (List.mem_of_mem_drop hm)
  · have hsorted := h.sorted
    rw [← List.take_append_drop i values] at hsorted
    obtain ⟨htake, hdrop, hcross⟩ := List.pairwise_append.mp hsorted
    refine List.pairwise_append.mpr ⟨htake, List.pairwise_cons.mpr ⟨fun m hm => ?_, hdrop⟩, ?_⟩
    · exact hupper.trans_le (h.le_drop m hm)
    · intro m hm m' hm'
      rcases List.mem_cons.mp hm' with rfl | hm'
      · exact (h.take_le hi m hm).trans_lt hlower
      · exact hcross m hm m' hm'

end

/-! ## evenly spaced keys -/

def strideOf (n : Nat) : Nat := maximum / (n + 1)

/-- The numbers of the keys of a rebalanced list. -/
def evenly (n : Nat) : List Nat := (List.range n).map fun i => strideOf n * (i + 1)

theorem two_le_strideOf (hn : n ≤ 10000) : 2 ≤ strideOf n := by
  have hbig : 2 * 10001 ≤ maximum := by decide
  unfold strideOf
  rw [Nat.le_div_iff_mul_le (Nat.succ_pos n)]
  omega

theorem strideOf_mul_le (n : Nat) : strideOf n * (n + 1) ≤ maximum := Nat.div_mul_le_self _ _

theorem evenly_encodable {i : Nat} (hn : n ≤ 10000) (hi : i < n) : Encodable (strideOf n * (i + 1)) := by
  have hstride := two_le_strideOf hn
  have hle := strideOf_mul_le n
  have hmono : strideOf n * (i + 1) ≤ strideOf n * n := Nat.mul_le_mul_left _ hi
  have hpos : 0 < strideOf n * (i + 1) := Nat.mul_pos (by omega) (Nat.succ_pos i)
  rw [Nat.mul_succ] at hle
  exact ⟨hpos, by omega⟩

theorem keyValues_evenly (hn : n ≤ 10000) : KeyValues (evenly n) := by
  constructor
  · intro m hm
    obtain ⟨i, hi, rfl⟩ := List.mem_map.mp hm
    exact evenly_encodable hn (List.mem_range.mp hi)
  · unfold evenly
    rw [List.pairwise_map]
    refine List.pairwise_lt_range.imp fun {i j} hij => ?_
    have hstride := two_le_strideOf hn
    exact Nat.mul_lt_mul_of_pos_left (by omega) (by omega)

theorem length_evenly (n : Nat) : (evenly n).length = n := by
  unfold evenly
  rw [List.length_map, List.length_range]

/-- Every place of a rebalanced list is free. -/
theorem evenly_gap {i : Nat} (hn : n ≤ 10000) (hi : i ≤ n) :
    lowerOf (beforeAt (evenly n) i) + 1 < upperOf (evenly n)[i]? := by
  have hstride := two_le_strideOf hn
  have hlower : lowerOf (beforeAt (evenly n) i) = strideOf n * i := by
    cases i with
    | zero => rfl
    | succ i =>
      have hget : beforeAt (evenly n) (i + 1) = some (strideOf n * (i + 1)) := by
        show (evenly n)[i]? = _
        unfold evenly
        rw [List.getElem?_map, List.getElem?_range (by omega)]
        rfl
      rw [hget]
      rfl
  have hupper : strideOf n * (i + 1) ≤ upperOf (evenly n)[i]? := by
    unfold evenly
    rw [List.getElem?_map]
    by_cases hlast : i < n
    · rw [List.getElem?_range hlast]
      exact le_rfl
    · rw [List.getElem?_eq_none (by rw [List.length_range]; omega)]
      have hin : i = n := by omega
      rw [hin]
      exact strideOf_mul_le n
  rw [hlower]
  rw [Nat.mul_succ] at hupper
  omega

section
variable {ids : List String}

/-- The keys of a rebalanced list. -/
def evenKeys (ids : List String) : List (String × String) :=
  ids.zipIdx.map fun entry => (entry.1, keyText (strideOf ids.length * (entry.2 + 1)))

theorem rebalance_eq (hlen : ids.length ≤ 10000) (hnodup : ids.Nodup) :
    rebalance ids = .ok (evenKeys ids) := by
  refine bind_of_ok (require_ok.mpr hlen) (bind_of_ok (require_ok.mpr hnodup) ?_)
  refine mapM_eq_ok_map fun entry hentry => ?_
  have hi := List.snd_lt_of_mem_zipIdx hentry
  rw [Nat.add_zero] at hi
  exact bind_of_ok (encode_ok.mpr ⟨evenly_encodable hlen hi, rfl⟩) rfl

theorem fst_evenKeys (ids : List String) : (evenKeys ids).map Prod.fst = ids := by
  unfold evenKeys
  rw [List.map_map]
  exact List.zipIdx_map_fst 0 ids

theorem snd_evenKeys (ids : List String) : (evenKeys ids).map Prod.snd = (evenly ids.length).map keyText := by
  have hidx : ids.zipIdx.map Prod.snd = List.range ids.length := by
    rw [List.zipIdx_map_snd, List.range_eq_range']
  unfold evenKeys evenly
  rw [← hidx, List.map_map, List.map_map, List.map_map]
  rfl

/-- **`rebalance`** gives increasing keys of sixteen characters, with room at every place. -/
theorem rebalance_laws (hlen : ids.length ≤ 10000) (hnodup : ids.Nodup) :
    ∃ keys, rebalance ids = .ok keys ∧ keys.map Prod.fst = ids ∧
      (keys.map Prod.snd).Pairwise (· < ·) ∧
      (∀ key ∈ keys.map Prod.snd, IsKey key ∧ key.toList.length = 16) ∧
      ∀ i ≤ ids.length, ∃ key, between (beforeAt (keys.map Prod.snd) i) (keys.map Prod.snd)[i]? =
        .ok (some key) := by
  have hvalues := keyValues_evenly hlen
  refine ⟨_, rebalance_eq hlen hnodup, fst_evenKeys ids, ?_, ?_, ?_⟩
  · rw [snd_evenKeys, List.pairwise_map]
    exact hvalues.sorted.imp_of_mem fun _ hn hlt => keyText_lt hlt (hvalues.encodable _ hn).lt
  · rw [snd_evenKeys]
    intro key hkey
    obtain ⟨n, hn, rfl⟩ := List.mem_map.mp hkey
    exact ⟨isKey_iff.mpr ⟨n, hvalues.encodable n hn, rfl⟩, by rw [toList_keyText, length_numeral]; rfl⟩
  · intro i hi
    rw [snd_evenKeys, beforeAt_map, List.getElem?_map,
      between_keyText hvalues.before hvalues.after (hvalues.lower_lt_upper i),
      if_pos (evenly_gap hlen hi)]
    exact ⟨_, rfl⟩

end

end AutPlay.Library
