import Mathlib.Algebra.GroupWithZero.Nat
import Mathlib.Algebra.Group.Int.Defs
import AutPlay.Lib.Dict

/-!
# The values of an import

* `PyStr`           a string as its code points, surrogates among them;
* `splitLines`, `normalizeKey`, `csvFields`   the string functions of the parser;
* `Json`            what `json.loads` returns;
* `Json.canonical`  what RFC 8785 can print.
-/

set_option linter.unusedSectionVars false

namespace AutPlay.Imports

/-! ## strings -/

abbrev PyStr := List Nat

def lit (s : String) : PyStr := s.toList.map Char.toNat

/-- Neither half of a surrogate pair. -/
def isScalar (c : Nat) : Bool := c < 0xD800 || 0xDFFF < c

def scalars (s : PyStr) : Bool := s.all isScalar

/-- `str.strip()` -/
def stripWith (isSpace : Nat → Bool) (s : PyStr) : PyStr :=
  ((s.dropWhile isSpace).reverse.dropWhile isSpace).reverse

/-- The length in UTF-8. -/
def utf8Length (s : PyStr) : Nat :=
  (s.map fun c => if c < 0x80 then 1 else if c < 0x800 then 2 else if c < 0x10000 then 3 else 4).sum

/-- `str.split` by one character. -/
def splitOn (separator : Nat) : PyStr → List PyStr
  | [] => [[]]
  | c :: cs =>
    match splitOn separator cs with
    | [] => [[c]]
    | piece :: pieces => if c = separator then [] :: piece :: pieces else (c :: piece) :: pieces

/-- What is before and after the first occurrence. -/
def partition (separator : PyStr) : PyStr → Option (PyStr × PyStr)
  | [] => none
  | c :: cs =>
    if separator.isPrefixOf (c :: cs) then some ([], (c :: cs).drop separator.length)
    else (partition separator cs).map fun p => (c :: p.1, p.2)

/-- `"; ".join` and the like. -/
def join (separator : PyStr) (pieces : List PyStr) : PyStr := (pieces.intersperse separator).flatten

/-- The line boundaries of `str.splitlines`. -/
def isLineBreak (c : Nat) : Bool := [10, 11, 12, 13, 28, 29, 30, 133, 8232, 8233].contains c

/-- `str.splitlines`, with the characters of the line so far in reverse. -/
def splitLinesFrom (line : PyStr) : PyStr → List PyStr
  | [] => if line = [] then [] else [line.reverse]
  | 13 :: 10 :: cs => line.reverse :: splitLinesFrom [] cs
  | c :: cs =>
    if isLineBreak c then line.reverse :: splitLinesFrom [] cs else splitLinesFrom (c :: line) cs

def splitLines (text : PyStr) : List PyStr := splitLinesFrom [] text

/-- `[a-z0-9]` -/
def isKeyChar (c : Nat) : Bool := (97 ≤ c && c ≤ 122) || (48 ≤ c && c ≤ 57)

/-- Runs of other characters become one underscore. -/
def collapseRuns (inRun : Bool) : PyStr → PyStr
  | [] => []
  | c :: cs =>
    if isKeyChar c then c :: collapseRuns false cs
    else if inRun then collapseRuns true cs else 95 :: collapseRuns true cs

/-- `_SPACE.sub(" ", ...)` -/
def collapseSpaces (isSpace : Nat → Bool) (inRun : Bool) : PyStr → PyStr
  | [] => []
  | c :: cs =>
    if isSpace c then if inRun then collapseSpaces isSpace true cs else 32 :: collapseSpaces isSpace true cs
    else c :: collapseSpaces isSpace false cs

/-! ## one line of CSV -/

/-- The states of `csv.reader` in its default dialect. -/
inductive CsvState
  | startField
  | inField
  | inQuotedField
  | quoteInQuotedField
  deriving DecidableEq

/-- The fields so far, and the characters of the current one in reverse. -/
structure CsvReader where
  state : CsvState
  fields : List PyStr
  field : PyStr

def CsvReader.save (r : CsvReader) : CsvReader := ⟨.startField, r.fields ++ [r.field.reverse], []⟩

def CsvReader.add (r : CsvReader) (state : CsvState) (c : Nat) : CsvReader := ⟨state, r.fields, c :: r.field⟩

/-- One character; `none` is `csv.Error`, since the reader is strict. -/
def CsvReader.next (r : CsvReader) (c : Nat) : Option CsvReader :=
  match r.state with
  | .startField =>
    if c = 34 then some { r with state := .inQuotedField }
    else if c = 44 then some r.save else some (r.add .inField c)
  | .inField => if c = 44 then some r.save else some (r.add .inField c)
  | .inQuotedField =>
    if c = 34 then some { r with state := .quoteInQuotedField } else some (r.add .inQuotedField c)
  | .quoteInQuotedField =>
    if c = 34 then some (r.add .inQuotedField c) else if c = 44 then some r.save else none

/-- `csv.field_size_limit()` -/
def fieldSizeLimit : Nat := 131072

/-- The fields of one line: `next(csv.reader([line], strict=True))`. -/
def csvFields (line : PyStr) : Option (List PyStr) :=
  if line = [] then some []
  else
    (line.foldlM CsvReader.next ⟨.startField, [], []⟩).bind fun r =>
      if r.state = .inQuotedField then none
      else if r.save.fields.all fun field => field.length ≤ fieldSizeLimit then some r.save.fields
      else none

/-! ## JSON -/

/-- What the parser reads of a float: a finite one is truncated, and printed by `str`. -/
inductive PyFloat
  | nan
  | infinity (negative : Bool)
  | finite (truncated : Int) (text : PyStr)

/-- What `json.loads` returns; the keys of an object are in the order of their first occurrence. -/
inductive Json
  | null
  | bool (b : Bool)
  | int (i : Int)
  | float (x : PyFloat)
  | str (s : PyStr)
  | arr (items : List Json)
  | obj (fields : List (PyStr × Json))

/-- The largest integer that JSON interchanges. -/
def maxSafeInteger : Int := 2 ^ 53 - 1

mutual

/-- RFC 8785 prints the value: its integers are safe, its floats finite and its strings Unicode. -/
def Json.canonical : Json → Bool
  | .null => true
  | .bool _ => true
  | .int i => -maxSafeInteger ≤ i && i ≤ maxSafeInteger
  | .float (.finite _ _) => true
  | .float _ => false
  | .str s => scalars s
  | .arr items => canonicalItems items
  | .obj fields => canonicalFields fields

def canonicalItems : List Json → Bool
  | [] => true
  | x :: xs => x.canonical && canonicalItems xs

def canonicalFields : List (PyStr × Json) → Bool
  | [] => true
  | (key, x) :: xs => scalars key && x.canonical && canonicalFields xs

end

/-- `sys.get_int_max_str_digits()` -/
def intMaxStrDigits : Nat := 4300

mutual

/-- An integer of too many digits for `int`. -/
def Json.hugeInt : Json → Bool
  | .int i => 10 ^ intMaxStrDigits ≤ i.natAbs
  | .arr items => hugeItems items
  | .obj fields => hugeFields fields
  | _ => false

def hugeItems : List Json → Bool
  | [] => false
  | x :: xs => x.hugeInt || hugeItems xs

def hugeFields : List (PyStr × Json) → Bool
  | [] => false
  | (_, x) :: xs => x.hugeInt || hugeFields xs

end

mutual

/-- How deep arrays and objects are nested. -/
def Json.depth : Json → Nat
  | .arr items => depthItems items + 1
  | .obj fields => depthFields fields + 1
  | _ => 0

def depthItems : List Json → Nat
  | [] => 0
  | x :: xs => max x.depth (depthItems xs)

def depthFields : List (PyStr × Json) → Nat
  | [] => 0
  | (_, x) :: xs => max x.depth (depthFields xs)

end

theorem canonicalFields_iff {fields : List (PyStr × Json)} :
    canonicalFields fields = true ↔ ∀ e ∈ fields, scalars e.1 = true ∧ e.2.canonical = true := by
  induction fields with
  | nil => exact ⟨fun _ e he => absurd he List.not_mem_nil, fun _ => rfl⟩
  | cons e fields ih =>
    obtain ⟨key, x⟩ := e
    unfold canonicalFields
    rw [Bool.and_eq_true, Bool.and_eq_true, ih, List.forall_mem_cons]

/-! ## what the string functions keep -/

theorem scalars_iff {s : PyStr} : scalars s = true ↔ ∀ c ∈ s, isScalar c = true := List.all_eq_true

theorem scalars_of_subset {s t : PyStr} (h : scalars t = true) (hs : ∀ c ∈ s, c ∈ t) : scalars s = true :=
  scalars_iff.mpr fun c hc => scalars_iff.mp h c (hs c hc)

/-- The characters of the lines are characters of the text. -/
theorem splitLinesFrom_mem {line text l : PyStr} (hl : l ∈ splitLinesFrom line text) {c : Nat} (hc : c ∈ l) :
    c ∈ line ∨ c ∈ text := by
  induction line, text using splitLinesFrom.induct with
  | case1 =>
    unfold splitLinesFrom at hl
    rw [if_pos rfl] at hl
    cases hl
  | case2 line hne =>
    unfold splitLinesFrom at hl
    rw [if_neg hne] at hl
    rw [List.mem_singleton.mp hl] at hc
    exact Or.inl (List.mem_reverse.mp hc)
  | case3 line cs ih =>
    unfold splitLinesFrom at hl
    rcases List.mem_cons.mp hl with rfl | hl
    · exact Or.inl (List.mem_reverse.mp hc)
    · rcases ih hl with h | h
      · cases h
      · exact Or.inr (List.mem_cons_of_mem _ (List.mem_cons_of_mem _ h))
  | case4 line c' cs hne hbreak ih =>
    rw [splitLinesFrom.eq_3 _ _ _ hne, if_pos hbreak] at hl
    rcases List.mem_cons.mp hl with rfl | hl
    · exact Or.inl (List.mem_reverse.mp hc)
    · rcases ih hl with h | h
      · cases h
      · exact Or.inr (List.mem_cons_of_mem _ h)
  | case5 line c' cs hne hbreak ih =>
    rw [splitLinesFrom.eq_3 _ _ _ hne, if_neg hbreak] at hl
    rcases ih hl with h | h
    · rcases List.mem_cons.mp h with rfl | h
      · exact Or.inr List.mem_cons_self
      · exact Or.inl h
    · exact Or.inr (List.mem_cons_of_mem _ h)

theorem splitLines_scalars {text line : PyStr} (h : scalars text = true) (hl : line ∈ splitLines text) :
    scalars line = true := by
  refine scalars_of_subset h fun c hc => ?_
  rcases splitLinesFrom_mem hl hc with h | h
  · cases h
  · exact h

theorem collapseRuns_scalars (inRun : Bool) (s : PyStr) : scalars (collapseRuns inRun s) = true := by
  have hkey : ∀ c, isKeyChar c = true → isScalar c = true := by
    intro c hc
    unfold isKeyChar at hc
    unfold isScalar
    simp only [Bool.or_eq_true, Bool.and_eq_true, decide_eq_true_eq] at hc ⊢
    omega
  induction s generalizing inRun with
  | nil => rfl
  | cons c cs ih =>
    unfold collapseRuns
    split
    · rename_i hc
      show (isScalar c && scalars (collapseRuns false cs)) = true
      rw [hkey c hc, ih]
      rfl
    · split
      · exact ih true
      · show (isScalar 95 && scalars (collapseRuns true cs)) = true
        rw [ih]
        rfl

theorem stripWith_subset {isSpace : Nat → Bool} {s : PyStr} {c : Nat} (h : c ∈ stripWith isSpace s) : c ∈ s := by
  unfold stripWith at h
  have h₁ := (List.dropWhile_sublist _).subset (List.mem_reverse.mp h)
  exact (List.dropWhile_sublist _).subset (List.mem_reverse.mp h₁)

/-! ### CSV -/

/-- The characters that a reader holds. -/
def CsvReader.Within (r : CsvReader) (line : PyStr) : Prop :=
  (∀ field ∈ r.fields, ∀ c ∈ field, c ∈ line) ∧ ∀ c ∈ r.field, c ∈ line

theorem CsvReader.Within.save {r : CsvReader} {line : PyStr} (h : r.Within line) : r.save.Within line := by
  refine ⟨fun field hf c hc => ?_, fun c hc => (by cases hc)⟩
  rcases List.mem_append.mp hf with hf | hf
  · exact h.1 field hf c hc
  · rw [List.mem_singleton.mp hf] at hc
    exact h.2 c (List.mem_reverse.mp hc)

theorem CsvReader.Within.add {r : CsvReader} {line : PyStr} (h : r.Within line) (state : CsvState) {c : Nat}
    (hc : c ∈ line) : (r.add state c).Within line := by
  refine ⟨h.1, fun c' hc' => ?_⟩
  rcases List.mem_cons.mp hc' with rfl | hc'
  · exact hc
  · exact h.2 c' hc'

theorem CsvReader.Within.next {r r' : CsvReader} {line : PyStr} {c : Nat} (h : r.Within line) (hc : c ∈ line)
    (hn : r.next c = some r') : r'.Within line := by
  unfold CsvReader.next at hn
  split at hn
  · split at hn
    · cases hn
      exact h
    · split at hn
      · cases hn
        exact h.save
      · cases hn
        exact h.add .inField hc
  · split at hn
    · cases hn
      exact h.save
    · cases hn
      exact h.add .inField hc
  · split at hn
    · cases hn
      exact h
    · cases hn
      exact h.add .inQuotedField hc
  · split at hn
    · cases hn
      exact h.add .inQuotedField hc
    · split at hn
      · cases hn
        exact h.save
      · cases hn

theorem CsvReader.Within.read {line : PyStr} (cs : PyStr) {r r' : CsvReader} (h : r.Within line)
    (hcs : ∀ c ∈ cs, c ∈ line) (hread : cs.foldlM CsvReader.next r = some r') : r'.Within line := by
  induction cs generalizing r with
  | nil =>
    cases hread
    exact h
  | cons c cs ih =>
    rw [List.foldlM_cons] at hread
    obtain ⟨r₁, h₁, hread⟩ := Option.bind_eq_some_iff.mp hread
    exact ih (h.next (hcs c List.mem_cons_self) h₁) (fun c' hc' => hcs c' (List.mem_cons_of_mem _ hc')) hread

/-- The fields of a line have its characters. -/
theorem csvFields_scalars {line : PyStr} {fields : List PyStr} (hs : scalars line = true)
    (h : csvFields line = some fields) : ∀ field ∈ fields, scalars field = true := by
  unfold csvFields at h
  split at h
  · cases h
    exact fun field hf => absurd hf List.not_mem_nil
  · obtain ⟨r, hr, h⟩ := Option.bind_eq_some_iff.mp h
    have hstart : (⟨.startField, [], []⟩ : CsvReader).Within line :=
      ⟨fun field hf => absurd hf List.not_mem_nil, fun c hc => absurd hc List.not_mem_nil⟩
    have hin := (hstart.read line (fun c hc => hc) hr).save
    split at h
    · cases h
    · split at h
      · cases h
        exact fun field hf => scalars_of_subset hs (hin.1 field hf)
      · cases h

end AutPlay.Imports
