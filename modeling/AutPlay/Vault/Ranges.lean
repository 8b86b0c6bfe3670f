import Mathlib.Algebra.Group.Int.Defs
import AutPlay.Lib.PyText

/-!
# Byte ranges of a request

`parse_single_range`: the plan for a `Range` header, and what RFC 7233 says of such a header.

* `parseSingleRange`     the plan: the whole object, a part of it, or a refusal;
* `Interval`             the two forms of a range and the bytes they ask for, over a reading of numbers;
* `RfcRange`             the ranges of RFC 7233, whose numbers are ASCII digits;
* `Misread`              the numbers that `int` reads otherwise;
* `planMeets_iff`        the plan is that of RFC 7233 just when none is misread.
-/

set_option linter.unusedSectionVars false

namespace AutPlay.Vault

open PyText

/-- An inclusive range of bytes. -/
structure ByteRange where
  start : Int
  last : Int
  start_nonneg : 0 ≤ start
  ordered : start ≤ last

@[ext] theorem ByteRange.ext {r r' : ByteRange} (hs : r.start = r'.start) (hl : r.last = r'.last) : r = r' := by
  cases r
  cases r'
  cases hs
  cases hl
  rfl

/-- `ByteRange(start, end)`; `none` is its `ValueError`. -/
def byteRange (start last : Int) : Option ByteRange :=
  if h : 0 ≤ start ∧ start ≤ last then some ⟨start, last, h.1, h.2⟩ else none

structure StreamPlan where
  statusCode : Nat
  byteRange : Option ByteRange

def refused : StreamPlan := ⟨416, none⟩

def dash : Nat := point '-'

def comma : Nat := point ','

/-- `bytes=` -/
def bytesUnit : Points := "bytes=".toList.map point

/-- `byte_size - 1 if right == "" else min(int(right), byte_size - 1)` -/
def lastByte (u : Unicode) (byteSize : Int) (right : Points) : Option Int :=
  if right = [] then some (byteSize - 1) else (pyInt u right).map fun n => min n (byteSize - 1)

/-- The body of the `try`; `none` is a `ValueError`. -/
def planParts (u : Unicode) (byteSize : Int) (left right : Points) : Option StreamPlan :=
  if left = [] then do
    let suffix ← pyInt u right
    if suffix ≤ 0 then return refused
    let r ← byteRange (max 0 (byteSize - suffix)) (byteSize - 1)
    return ⟨206, some r⟩
  else do
    let start ← pyInt u left
    if start < 0 ∨ start ≥ byteSize then return refused
    let last ← lastByte u byteSize right
    if last < start then return refused
    let r ← byteRange start last
    return ⟨206, some r⟩

/-- The plan for a header that applies. -/
def planHeader (u : Unicode) (header : Points) (byteSize : Int) : StreamPlan :=
  if ¬ bytesUnit <+: header ∨ comma ∈ header then refused
  else
    let spec := strip u (header.drop 6)
    if dash ∉ spec then refused
    else
      let left := spec.takeWhile fun c => c ≠ dash
      let right := (spec.dropWhile fun c => c ≠ dash).drop 1
      (planParts u byteSize left right).getD refused

inductive RangeFault
  | valueError
  deriving DecidableEq

/-- `parse_single_range` -/
def parseSingleRange (u : Unicode) (rangeHeader ifRange : Option Points) (etag : Points) (byteSize : Int) :
    Except RangeFault StreamPlan :=
  if byteSize < 1 then .error .valueError
  else
    match byteRange 0 (byteSize - 1) with
    | none => .error .valueError
    | some full =>
      match rangeHeader with
      | none => .ok ⟨200, some full⟩
      | some header =>
        if ifRange.any fun value => value ≠ etag then .ok ⟨200, some full⟩
        else .ok (planHeader u header byteSize)

/-! ## the ranges of RFC 7233 -/

/-- The bytes that a range asks for, if the object has any of them; `num` reads the numbers. -/
inductive Interval (num : Points → Int → Prop) (byteSize : Int) : Points → ByteRange → Prop
  | first {ds : Points} {a : Int} {r : ByteRange} (hd : dash ∉ ds) (ha : num ds a) (hnonneg : 0 ≤ a)
      (hsat : a < byteSize) (hs : r.start = a) (hl : r.last = byteSize - 1) :
      Interval num byteSize (ds ++ [dash]) r
  | closed {ds es : Points} {a b : Int} {r : ByteRange} (hd : dash ∉ ds) (ha : num ds a) (hb : num es b)
      (hnonneg : 0 ≤ a) (hsat : a < byteSize) (hle : a ≤ b) (hs : r.start = a)
      (hl : r.last = min b (byteSize - 1)) : Interval num byteSize (ds ++ dash :: es) r
  | suffix {ds : Points} {n : Int} {r : ByteRange} (hn : num ds n) (hpos : 0 < n)
      (hs : r.start = max 0 (byteSize - n)) (hl : r.last = byteSize - 1) :
      Interval num byteSize (dash :: ds) r

/-- A number in ASCII digits. -/
def DigitsNumber (ds : Points) (n : Int) : Prop := Digits ds ∧ n = digitsValue ds

/-- A number as `int` reads it. -/
def PyNumber (u : Unicode) (ds : Points) (n : Int) : Prop := pyInt u ds = some n

def RfcRange (byteSize : Int) (spec : Points) (r : ByteRange) : Prop := Interval DigitsNumber byteSize spec r

/-- The header is a range of this kind, up to whitespace. -/
def RfcHeader (u : Unicode) (header : Points) (byteSize : Int) (r : ByteRange) : Prop :=
  ∃ rest, header = bytesUnit ++ rest ∧ RfcRange byteSize (strip u rest) r

/-- The header counts: there is one, and the object is the one that the client knows, if it knows one. -/
def Applies (rangeHeader ifRange : Option Points) (etag : Points) : Prop :=
  rangeHeader.isSome ∧ ∀ value ∈ ifRange, value = etag

/-- **What is asked of the plan.** -/
def PlanMeets (u : Unicode) (rangeHeader ifRange : Option Points) (etag : Points) (byteSize : Int) : Prop :=
  ∃ plan, parseSingleRange u rangeHeader ifRange etag byteSize = .ok plan ∧
    (¬ Applies rangeHeader ifRange etag → plan.statusCode ≠ 206) ∧
    (Applies rangeHeader ifRange etag → ∀ header ∈ rangeHeader,
      (∀ r, RfcHeader u header byteSize r → plan = ⟨206, some r⟩) ∧
      ((¬ ∃ r, RfcHeader u header byteSize r) → plan = refused))

/-- What stands before the first dash, and behind it. -/
def parts (spec : Points) : List Points :=
  [spec.takeWhile fun c => c ≠ dash, (spec.dropWhile fun c => c ≠ dash).drop 1]

/-- A range that `int` reads, with a number that is not in ASCII digits, or a range of RFC 7233 with a
number that is too long for `int`. -/
def Misread (u : Unicode) (byteSize : Int) (spec : Points) : Prop :=
  ((∃ r, Interval (PyNumber u) byteSize spec r) ∧ ∃ part ∈ parts spec, part ≠ [] ∧ ¬ Digits part) ∨
  ((∃ r, RfcRange byteSize spec r) ∧ ∃ part ∈ parts spec, part.length > maxStrDigits)

/-! ## the plan of the code -/

section
variable {u : Unicode} {byteSize : Int} {left right spec header : Points} {r : ByteRange}

theorem byteRange_eq_some {start last : Int} :
    byteRange start last = some r ↔ r.start = start ∧ r.last = last := by
  unfold byteRange
  split
  · next h =>
    rw [Option.some.injEq, ByteRange.ext_iff, eq_comm, @eq_comm _ last]
  · next h =>
    refine ⟨nofun, ?_⟩
    rintro ⟨rfl, rfl⟩
    exact absurd ⟨r.start_nonneg, r.ordered⟩ h

theorem byteRange_isSome {start last : Int} (h : 0 ≤ start) (hle : start ≤ last) :
    ∃ r, byteRange start last = some r := ⟨⟨start, last, h, hle⟩, dif_pos ⟨h, hle⟩⟩

theorem parts_append (hd : dash ∉ left) (right : Points) : parts (left ++ dash :: right) = [left, right] := by
  have hall : ∀ c ∈ left, decide (c ≠ dash) = true := by
    intro c hc
    refine decide_eq_true ?_
    rintro rfl
    exact hd hc
  unfold parts
  rw [List.takeWhile_append_of_pos hall, List.dropWhile_append_of_pos hall,
    List.takeWhile_cons_of_neg (by simp), List.dropWhile_cons_of_neg (by simp), List.append_nil]
  rfl

/-- A text with a dash, in its parts. -/
theorem exists_parts (h : dash ∈ spec) : ∃ left right, spec = left ++ dash :: right ∧ dash ∉ left := by
  obtain ⟨left, right, rfl, hleft⟩ := List.eq_append_cons_of_mem h
  exact ⟨left, right, rfl, hleft⟩

theorem interval_nil {num : Points → Int → Prop} (hnum : ∀ n, ¬ num [] n) :
    Interval num byteSize (dash :: right) r ↔
      ∃ n, num right n ∧ 0 < n ∧ r.start = max 0 (byteSize - n) ∧ r.last = byteSize - 1 := by
  constructor
  · intro h
    generalize heq : dash :: right = spec at h
    cases h with
    | suffix hn hpos hs hl =>
      cases heq
      exact ⟨_, hn, hpos, hs, hl⟩
    | @first ds a r hd ha _ _ _ _ =>
      cases ds with
      | nil => exact absurd ha (hnum _)
      | cons c ds => exact absurd ((List.cons.inj heq).1 ▸ List.mem_cons_self) hd
    | @closed ds es a b r hd ha _ _ _ _ _ _ =>
      cases ds with
      | nil => exact absurd ha (hnum _)
      | cons c ds => exact absurd ((List.cons.inj heq).1 ▸ List.mem_cons_self) hd
  · rintro ⟨n, hn, hpos, hs, hl⟩
    exact .suffix hn hpos hs hl

theorem interval_append {num : Points → Int → Prop} (hleft : left ≠ [])
    (hd : dash ∉ left) : Interval num byteSize (left ++ dash :: right) r ↔
      ∃ a, num left a ∧ 0 ≤ a ∧ a < byteSize ∧ r.start = a ∧
        ((right = [] ∧ r.last = byteSize - 1) ∨
          ∃ b, num right b ∧ a ≤ b ∧ r.last = min b (byteSize - 1)) := by
  constructor
  · intro h
    generalize heq : left ++ dash :: right = spec at h
    cases h with
    | suffix hn _ _ _ =>
      cases left with
      | nil => exact absurd rfl hleft
      | cons c left => exact absurd ((List.cons.inj heq).1 ▸ List.mem_cons_self) hd
    | first hd' ha hnonneg hsat hs hl =>
      have hparts := congrArg parts heq
      rw [parts_append hd, parts_append hd', List.cons.injEq, List.cons.injEq] at hparts
      obtain ⟨rfl, rfl, -⟩ := hparts
      exact ⟨_, ha, hnonneg, hsat, hs, Or.inl ⟨rfl, hl⟩⟩
    | closed hd' ha hb hnonneg hsat hle hs hl =>
      have hparts := congrArg parts heq
      rw [parts_append hd, parts_append hd', List.cons.injEq, List.cons.injEq] at hparts
      obtain ⟨rfl, rfl, -⟩ := hparts
      exact ⟨_, ha, hnonneg, hsat, hs, Or.inr ⟨_, hb, hle, hl⟩⟩
  · rintro ⟨a, ha, hnonneg, hsat, hs, ⟨rfl, hl⟩ | ⟨b, hb, hle, hl⟩⟩
    · exact .first hd ha hnonneg hsat hs hl
    · exact .closed hd ha hb hnonneg hsat hle hs hl

theorem pyNumber_nil (n : Int) : ¬ PyNumber u [] n := nofun

theorem digitsNumber_nil (n : Int) : ¬ DigitsNumber [] n := fun h => h.1.1 rfl

theorem lastByte_iff {n : Int} : lastByte u byteSize right = some n ↔
    (right = [] ∧ n = byteSize - 1) ∨ ∃ b, pyInt u right = some b ∧ n = min b (byteSize - 1) := by
  unfold lastByte
  split
  · next h =>
    subst h
    refine ⟨fun hn => Or.inl ⟨rfl, (Option.some.inj hn).symm⟩, ?_⟩
    rintro (⟨-, rfl⟩ | ⟨b, hb, -⟩)
    · rfl
    · cases hb
  · next h =>
    rw [Option.map_eq_some_iff]
    constructor
    · rintro ⟨b, hb, rfl⟩
      exact Or.inr ⟨b, hb, rfl⟩
    · rintro (⟨hnil, -⟩ | ⟨b, hb, rfl⟩)
      · exact absurd hnil h
      · exact ⟨b, hb, rfl⟩

/-- The same range, through the last byte that the code computes. -/
theorem interval_lastByte (hleft : left ≠ []) (hd : dash ∉ left) :
    Interval (PyNumber u) byteSize (left ++ dash :: right) r ↔
      ∃ a last, pyInt u left = some a ∧ lastByte u byteSize right = some last ∧ 0 ≤ a ∧ a < byteSize ∧
        a ≤ last ∧ r.start = a ∧ r.last = last := by
  rw [interval_append hleft hd]
  constructor
  · rintro ⟨a, ha, hnonneg, hsat, hs, ⟨hnil, hl⟩ | ⟨b, hb, hle, hl⟩⟩
    · exact ⟨a, byteSize - 1, ha, lastByte_iff.mpr (Or.inl ⟨hnil, rfl⟩), hnonneg, hsat, by omega, hs, hl⟩
    · exact ⟨a, _, ha, lastByte_iff.mpr (Or.inr ⟨b, hb, rfl⟩), hnonneg, hsat, by omega, hs, hl⟩
  · rintro ⟨a, last, ha, hlast, hnonneg, hsat, hle, hs, hl⟩
    refine ⟨a, ha, hnonneg, hsat, hs, ?_⟩
    rcases lastByte_iff.mp hlast with ⟨hnil, rfl⟩ | ⟨b, hb, rfl⟩
    · exact Or.inl ⟨hnil, hl⟩
    · exact Or.inr ⟨b, hb, by omega, hl⟩

/-- The plan of the two parts: a range that `int` reads, or a refusal. -/
theorem planParts_iff (hsize : 1 ≤ byteSize) (hd : dash ∉ left) :
    (∀ r, Interval (PyNumber u) byteSize (left ++ dash :: right) r →
      (planParts u byteSize left right).getD refused = ⟨206, some r⟩) ∧
    ((¬ ∃ r, Interval (PyNumber u) byteSize (left ++ dash :: right) r) →
      (planParts u byteSize left right).getD refused = refused) := by
  unfold planParts
  by_cases hleft : left = []
  · subst hleft
    rw [if_pos rfl]
    simp only [List.nil_append, interval_nil pyNumber_nil]
    cases hint : pyInt u right with
    | none =>
      refine ⟨?_, fun _ => rfl⟩
      rintro r ⟨n, hn, -⟩
      cases hint.symm.trans hn
    | some n =>
      rw [Option.bind_eq_bind, Option.bind_some]
      by_cases hn : n ≤ 0
      · rw [if_pos hn]
        refine ⟨?_, fun _ => rfl⟩
        rintro r ⟨m, hm, hpos, -⟩
        cases hint.symm.trans hm
        omega
      · obtain ⟨r, hr⟩ : ∃ r, byteRange (max 0 (byteSize - n)) (byteSize - 1) = some r :=
          byteRange_isSome (by omega) (by omega)
        rw [if_neg hn, hr]
        obtain ⟨hs, hl⟩ := byteRange_eq_some.mp hr
        refine ⟨?_, fun hno => absurd ⟨r, n, hint, by omega, hs, hl⟩ hno⟩
        rintro r' ⟨m, hm, -, hs', hl'⟩
        cases hint.symm.trans hm
        rw [ByteRange.ext (hs'.trans hs.symm) (hl'.trans hl.symm)]
        rfl
  · rw [if_neg hleft]
    simp only [interval_lastByte hleft hd]
    cases hint : pyInt u left with
    | none =>
      refine ⟨?_, fun _ => rfl⟩
      rintro r ⟨a, last, ha, -⟩
      cases ha
    | some a =>
      rw [Option.bind_eq_bind, Option.bind_some]
      by_cases hout : a < 0 ∨ a ≥ byteSize
      · rw [if_pos hout]
        refine ⟨?_, fun _ => rfl⟩
        rintro r ⟨a', last, ha, -, hnonneg, hsat, -⟩
        cases ha
        omega
      rw [if_neg hout]
      cases hlast : lastByte u byteSize right with
      | none =>
        refine ⟨?_, fun _ => rfl⟩
        rintro r ⟨a', last, -, hl, -⟩
        cases hl
      | some last =>
        rw [Option.bind_some]
        by_cases hlt : last < a
        · rw [if_pos hlt]
          refine ⟨?_, fun _ => rfl⟩
          rintro r ⟨a', last', ha, hl, -, -, hle, -⟩
          cases ha
          cases hl
          omega
        · obtain ⟨r, hr⟩ : ∃ r, byteRange a last = some r := byteRange_isSome (by omega) (by omega)
          rw [if_neg hlt, hr]
          obtain ⟨hs, hl⟩ := byteRange_eq_some.mp hr
          refine ⟨?_, fun hno => absurd ⟨r, a, last, rfl, rfl, by omega, by omega, by omega, hs, hl⟩ hno⟩
          rintro r' ⟨a', last', ha, hl', -, -, -, hs', hr'⟩
          cases ha
          cases hl'
          rw [ByteRange.ext (hs'.trans hs.symm) (hr'.trans hl.symm)]
          rfl

end

/-! ## the header -/

section
variable {u : Unicode} {byteSize : Int} {spec header rest : Points} {r : ByteRange}

/-- The texts between which a plan is sought: a range of the code for a text without a dash there is not. -/
theorem dash_mem_of_interval {num : Points → Int → Prop} (h : Interval num byteSize spec r) : dash ∈ spec := by
  cases h with
  | first _ _ _ _ _ _ => exact List.mem_append_right _ List.mem_cons_self
  | closed _ _ _ _ _ _ _ _ => exact List.mem_append_right _ List.mem_cons_self
  | suffix _ _ _ _ => exact List.mem_cons_self

theorem comma_not_mem_of_digits {ds : Points} (h : Digits ds) : comma ∉ ds :=
  fun hmem => absurd (h.2 _ hmem) (by decide)

theorem comma_not_mem_of_rfcRange (h : RfcRange byteSize spec r) : comma ∉ spec := by
  have hdash : comma ≠ dash := by decide
  cases h with
  | first _ ha _ _ _ _ =>
    rw [List.mem_append, not_or]
    exact ⟨comma_not_mem_of_digits ha.1, fun hmem => hdash (List.mem_singleton.mp hmem)⟩
  | closed _ ha hb _ _ _ _ _ =>
    rw [List.mem_append, List.mem_cons, not_or, not_or]
    exact ⟨comma_not_mem_of_digits ha.1, hdash, comma_not_mem_of_digits hb.1⟩
  | suffix hn _ _ _ =>
    rw [List.mem_cons, not_or]
    exact ⟨hdash, comma_not_mem_of_digits hn.1⟩

theorem rfcHeader_iff : RfcHeader u (bytesUnit ++ rest) byteSize r ↔ RfcRange byteSize (strip u rest) r := by
  constructor
  · rintro ⟨rest', heq, h⟩
    rwa [List.append_cancel_left heq]
  · exact fun h => ⟨rest, rfl, h⟩

/-- A header of another unit, or with a comma, is no range, and is refused. -/
theorem planHeader_other (h : ¬ bytesUnit <+: header ∨ comma ∈ header) :
    planHeader u header byteSize = refused ∧ ¬ ∃ r, RfcHeader u header byteSize r := by
  refine ⟨if_pos h, ?_⟩
  rintro ⟨r, rest, rfl, hrange⟩
  rcases h with h | h
  · exact h (List.prefix_append _ _)
  · refine comma_not_mem_of_rfcRange hrange (mem_strip ?_ rfl)
    exact (List.mem_append.mp h).resolve_left (by decide)

/-- The ranges that `int` reads get their plan, and the rest is refused. -/
theorem planHeader_iff (hsize : 1 ≤ byteSize) (hcomma : comma ∉ rest) :
    (∀ r, Interval (PyNumber u) byteSize (strip u rest) r →
      planHeader u (bytesUnit ++ rest) byteSize = ⟨206, some r⟩) ∧
    ((¬ ∃ r, Interval (PyNumber u) byteSize (strip u rest) r) →
      planHeader u (bytesUnit ++ rest) byteSize = refused) := by
  have hno : ¬ (¬ bytesUnit <+: bytesUnit ++ rest ∨ comma ∈ bytesUnit ++ rest) := by
    rintro (h | h)
    · exact h (List.prefix_append _ _)
    · exact hcomma ((List.mem_append.mp h).resolve_left (by decide))
  have hdrop : (bytesUnit ++ rest).drop 6 = rest := rfl
  unfold planHeader
  rw [if_neg hno, hdrop]
  by_cases hdash : dash ∈ strip u rest
  · obtain ⟨left, right, heq, hleft⟩ := exists_parts hdash
    have hparts := parts_append hleft right
    unfold parts at hparts
    rw [List.cons.injEq, List.cons.injEq] at hparts
    dsimp only
    rw [if_neg (not_not.mpr hdash), heq, hparts.1, hparts.2.1]
    exact planParts_iff hsize hleft
  · dsimp only
    rw [if_pos hdash]
    exact ⟨fun r hr => absurd (dash_mem_of_interval hr) hdash, fun _ => rfl⟩

/-! ## the numbers that are misread -/

theorem interval_imp {num num' : Points → Int → Prop} (h : Interval num byteSize spec r)
    (himp : ∀ part ∈ parts spec, ∀ n, num part n → num' part n) : Interval num' byteSize spec r := by
  cases h with
  | @first ds a r hd ha hnonneg hsat hs hl =>
    have hparts := parts_append hd []
    rw [hparts] at himp
    exact .first hd (himp _ List.mem_cons_self _ ha) hnonneg hsat hs hl
  | @closed ds es a b r hd ha hb hnonneg hsat hle hs hl =>
    have hparts := parts_append hd es
    rw [hparts] at himp
    exact .closed hd (himp _ List.mem_cons_self _ ha) (himp _ (List.mem_cons_of_mem _ List.mem_cons_self) _ hb)
      hnonneg hsat hle hs hl
  | @suffix ds n r hn hpos hs hl =>
    have hparts : parts (dash :: ds) = [[], ds] := parts_append List.not_mem_nil ds
    rw [hparts] at himp
    exact .suffix (himp _ (List.mem_cons_of_mem _ List.mem_cons_self) _ hn) hpos hs hl

theorem digits_of_rfcRange (h : RfcRange byteSize spec r) : ∀ part ∈ parts spec, part ≠ [] → Digits part := by
  cases h with
  | first hd ha _ _ _ _ =>
    rw [parts_append hd]
    simpa using fun _ => ha.1
  | closed hd ha hb _ _ _ _ _ =>
    rw [parts_append hd]
    simpa using ⟨fun _ => ha.1, fun _ => hb.1⟩
  | @suffix ds n r hn _ _ _ =>
    have hparts : parts (dash :: ds) = [[], ds] := parts_append List.not_mem_nil ds
    rw [hparts]
    simpa using fun _ => hn.1

/-- Digits that are not too many are read as they stand. -/
theorem pyNumber_of_digits {ds : Points} {n : Int} (h : DigitsNumber ds n) (hlen : ¬ ds.length > maxStrDigits) :
    PyNumber u ds n := by
  unfold PyNumber
  rw [pyInt_digits h.1, if_neg hlen, h.2]

theorem digitsNumber_of_py {ds : Points} {n : Int} (h : PyNumber u ds n) (hd : Digits ds) : DigitsNumber ds n := by
  unfold PyNumber at h
  rw [pyInt_digits hd] at h
  split at h
  · cases h
  · exact ⟨hd, (Option.some.inj h).symm⟩

theorem not_pyNumber_of_long {ds : Points} (hd : Digits ds) (hlen : ds.length > maxStrDigits) (n : Int) :
    ¬ PyNumber u ds n := by
  unfold PyNumber
  rw [pyInt_digits hd, if_pos hlen]
  nofun

/-- A number of the range is read, unless nothing is written for it. -/
theorem read_of_interval {num : Points → Int → Prop} (h : Interval num byteSize spec r) :
    ∀ part ∈ parts spec, part ≠ [] → ∃ n, num part n := by
  cases h with
  | first hd ha _ _ _ _ =>
    rw [parts_append hd]
    simpa using fun _ => ⟨_, ha⟩
  | closed hd ha hb _ _ _ _ _ =>
    rw [parts_append hd]
    simpa using ⟨fun _ => ⟨_, ha⟩, fun _ => ⟨_, hb⟩⟩
  | @suffix ds n r hn _ _ _ =>
    have hparts : parts (dash :: ds) = [[], ds] := parts_append List.not_mem_nil ds
    rw [hparts]
    simpa using fun _ => ⟨_, hn⟩

/-- Both readings agree on a text that is not misread. -/
theorem interval_iff_of_not_misread (h : ¬ Misread u byteSize spec) :
    Interval (PyNumber u) byteSize spec r ↔ RfcRange byteSize spec r := by
  obtain ⟨hodd, hlong⟩ := not_or.mp h
  constructor
  · intro hi
    refine interval_imp hi fun part hpart n hn => digitsNumber_of_py hn ?_
    by_contra hd
    refine hodd ⟨⟨r, hi⟩, part, hpart, ?_, hd⟩
    rintro rfl
    exact pyNumber_nil n hn
  · intro hi
    refine interval_imp hi fun part hpart n hn => pyNumber_of_digits hn fun hlen => ?_
    exact hlong ⟨⟨r, hi⟩, part, hpart, hlen⟩

/-- The readings differ on a text that is misread. -/
theorem interval_of_misread (h : Misread u byteSize spec) :
    ((∃ r, Interval (PyNumber u) byteSize spec r) ∧ ¬ ∃ r, RfcRange byteSize spec r) ∨
      ((∃ r, RfcRange byteSize spec r) ∧ ¬ ∃ r, Interval (PyNumber u) byteSize spec r) := by
  rcases h with ⟨hi, part, hpart, hne, hd⟩ | ⟨⟨r, hr⟩, part, hpart, hlen⟩
  · exact Or.inl ⟨hi, fun ⟨r, hr⟩ => hd (digits_of_rfcRange hr part hpart hne)⟩
  · have hne : part ≠ [] := by
      rintro rfl
      exact absurd hlen (by decide)
    refine Or.inr ⟨⟨r, hr⟩, ?_⟩
    rintro ⟨r', hr'⟩
    obtain ⟨n, hn⟩ := read_of_interval hr' part hpart hne
    exact not_pyNumber_of_long (digits_of_rfcRange hr part hpart hne) hlen n hn

theorem refused_ne (r : ByteRange) : (⟨206, some r⟩ : StreamPlan) ≠ refused :=
  fun h => absurd (congrArg StreamPlan.statusCode h) (show (206 : Nat) ≠ 416 by decide)

/-- **The plan for a header that applies** is that of RFC 7233 just when no number of it is misread. -/
theorem planHeader_meets (hsize : 1 ≤ byteSize) (header : Points) :
    ((∀ r, RfcHeader u header byteSize r → planHeader u header byteSize = ⟨206, some r⟩) ∧
      ((¬ ∃ r, RfcHeader u header byteSize r) → planHeader u header byteSize = refused)) ↔
    ¬ ∃ rest, header = bytesUnit ++ rest ∧ comma ∉ rest ∧ Misread u byteSize (strip u rest) := by
  by_cases hother : ¬ bytesUnit <+: header ∨ comma ∈ header
  · obtain ⟨hplan, hnone⟩ : planHeader u header byteSize = refused ∧ ¬ ∃ r, RfcHeader u header byteSize r :=
      planHeader_other hother
    refine iff_of_true ⟨fun r hr => absurd ⟨r, hr⟩ hnone, fun _ => hplan⟩ ?_
    rintro ⟨rest, rfl, hcomma, -⟩
    rcases hother with h | h
    · exact h (List.prefix_append _ _)
    · exact hcomma ((List.mem_append.mp h).resolve_left (by decide))
  obtain ⟨hunit, hcomma⟩ := not_or.mp hother
  obtain ⟨rest, rfl⟩ := not_not.mp hunit
  have hcomma : comma ∉ rest := fun h => hcomma (List.mem_append_right _ h)
  obtain ⟨hread, hrefused⟩ := planHeader_iff (u := u) hsize hcomma
  simp only [rfcHeader_iff]
  constructor
  · rintro ⟨hsome, hnone⟩ ⟨rest', heq, -, hmis⟩
    rw [← List.append_cancel_left heq] at hmis
    rcases interval_of_misread hmis with ⟨⟨r, hr⟩, hno⟩ | ⟨⟨r, hr⟩, hno⟩
    · exact refused_ne r ((hread r hr).symm.trans (hnone hno))
    · exact refused_ne r ((hsome r hr).symm.trans (hrefused hno))
  · intro hmis
    have hmis : ¬ Misread u byteSize (strip u rest) := fun h => hmis ⟨rest, rfl, hcomma, h⟩
    refine ⟨fun r hr => hread r ((interval_iff_of_not_misread hmis).mpr hr), fun hno => hrefused ?_⟩
    rintro ⟨r, hr⟩
    exact hno ⟨r, (interval_iff_of_not_misread hmis).mp hr⟩

theorem any_ne_iff {ifRange : Option Points} {etag : Points} :
    (ifRange.any fun value => value ≠ etag) = true ↔ ¬ ∀ value ∈ ifRange, value = etag := by
  cases ifRange with
  | none => simp
  | some value => simp

/-- **The plan of a request** is that of RFC 7233 just when the header does not apply or is not misread. -/
theorem planMeets_iff (u : Unicode) (rangeHeader ifRange : Option Points) (etag : Points)
    (hsize : 1 ≤ byteSize) : PlanMeets u rangeHeader ifRange etag byteSize ↔
      ¬ (Applies rangeHeader ifRange etag ∧ ∃ rest, rangeHeader = some (bytesUnit ++ rest) ∧ comma ∉ rest ∧
        Misread u byteSize (strip u rest)) := by
  obtain ⟨full, hfull⟩ : ∃ full, byteRange 0 (byteSize - 1) = some full :=
    byteRange_isSome (Int.le_refl 0) (by omega)
  unfold PlanMeets parseSingleRange
  rw [if_neg (Int.not_lt.mpr hsize), hfull]
  cases rangeHeader with
  | none =>
    refine iff_of_true ⟨_, rfl, fun _ => show (200 : Nat) ≠ 206 by decide, fun ha => absurd ha.1 nofun⟩ ?_
    rintro ⟨ha, -⟩
    exact absurd ha.1 nofun
  | some header =>
    dsimp only
    by_cases hif : ∀ value ∈ ifRange, value = etag
    · rw [if_neg (fun h => any_ne_iff.mp h hif)]
      have happlies : Applies (some header) ifRange etag := ⟨rfl, hif⟩
      have hmeets := planHeader_meets (u := u) hsize header
      constructor
      · rintro ⟨plan, hplan, -, h⟩ ⟨-, rest, hrest, hmis⟩
        cases hplan
        cases hrest
        exact hmeets.mp (h happlies _ rfl) ⟨rest, rfl, hmis⟩
      · intro hno
        refine ⟨_, rfl, fun h => absurd happlies h, fun _ header' hheader => ?_⟩
        cases hheader
        refine hmeets.mpr ?_
        rintro ⟨rest, rfl, hmis⟩
        exact hno ⟨happlies, rest, rfl, hmis⟩
    · rw [if_pos (any_ne_iff.mpr hif)]
      refine iff_of_true ⟨_, rfl, fun _ => show (200 : Nat) ≠ 206 by decide, fun ha => absurd ha.2 hif⟩ ?_
      rintro ⟨ha, -⟩
      exact hif ha.2

end

end AutPlay.Vault
