import AutPlay.Lib.Result
import Mathlib.Data.List.Sort
import Mathlib.Data.String.Basic

/-!
# Job documents

The JSON objects that a job carries, as the server checks them and as a `jsonb` column gives them
back.

* `JsonValue.encoded`       `json.dumps(…, ensure_ascii=False, separators=(",", ":"), sort_keys=True)`;
* `validateJobDocument`     the copy that is stored, or what is wrong with the document;
* `JsonValue.toJsonb`       what the column gives back;
* `same_toJsonb_iff`        the documents that come back as they were.
-/

set_option linter.unusedSectionVars false

namespace AutPlay.Jobs

/-! ## values -/

/-- A finite `float`: the shortest decimal that reads back as it, of at most 17 digits. -/
@[ext] structure PyFloat where
  negative : Bool
  digits : Nat
  exponent : Int
  few : digits < 10 ^ 17
  shortest : digits % 10 ≠ 0 ∨ digits = 0 ∧ exponent = 0
  deriving DecidableEq

inductive JsonValue
  | null
  | bool (b : Bool)
  | int (i : Int)
  | float (f : PyFloat)
  | str (s : String)
  | list (items : List JsonValue)
  | dict (fields : List (String × JsonValue))

/-- A JSON object. -/
abbrev JsonObject := List (String × JsonValue)

/-! ## text -/

namespace PyFloat

/-- Where the decimal point stands, counted from before the first digit. -/
def point (f : PyFloat) : Int := (Nat.toDigits 10 f.digits).length + f.exponent

def sign (f : PyFloat) : List Char := if f.negative then ['-'] else []

/-- Two digits at least. -/
def exponentText (n : Nat) : List Char :=
  if n < 10 then '0' :: Nat.toDigits 10 n else Nat.toDigits 10 n

/-- `repr`. -/
def text (f : PyFloat) : List Char :=
  let digits := Nat.toDigits 10 f.digits
  f.sign ++
    if -4 < f.point ∧ f.point ≤ 16 then
      if f.point ≤ 0 then
        '0' :: '.' :: (List.replicate (-f.point).toNat '0' ++ digits)
      else if digits.length ≤ f.point then
        digits ++ List.replicate (f.point - digits.length).toNat '0' ++ ['.', '0']
      else digits.take f.point.toNat ++ '.' :: digits.drop f.point.toNat
    else
      digits.take 1 ++ (if digits.length = 1 then [] else '.' :: digits.drop 1) ++
        'e' :: (if f.point - 1 < 0 then '-' else '+') :: exponentText (f.point - 1).natAbs

end PyFloat

/-- `str` of an integer. -/
def intText (i : Int) : List Char :=
  if i < 0 then '-' :: Nat.toDigits 10 i.natAbs else Nat.toDigits 10 i.natAbs

/-- A character of a string, without `ensure_ascii`. -/
def escaped (c : Char) : List Char :=
  if c = '"' then ['\\', '"']
  else if c = '\\' then ['\\', '\\']
  else if c = '\n' then ['\\', 'n']
  else if c = '\r' then ['\\', 'r']
  else if c = '\t' then ['\\', 't']
  else if c.toNat = 12 then ['\\', 'f']
  else if c.toNat = 8 then ['\\', 'b']
  else if c.toNat < 32 then
    ['\\', 'u', '0', '0'] ++ [Nat.digitChar (c.toNat / 16), Nat.digitChar (c.toNat % 16)]
  else [c]

def quoted (s : String) : List Char := '"' :: (s.toList.flatMap escaped ++ ['"'])

mutual

/-- `json.dumps`, with the keys in the order they have. -/
def JsonValue.text : JsonValue → List Char
  | .null => ['n', 'u', 'l', 'l']
  | .bool true => ['t', 'r', 'u', 'e']
  | .bool false => ['f', 'a', 'l', 's', 'e']
  | .int i => intText i
  | .float f => f.text
  | .str s => quoted s
  | .list items => '[' :: (itemsText [] items ++ [']'])
  | .dict fields => '{' :: (fieldsText [] fields ++ ['}'])

/-- The items after a separator, and those after them after commas. -/
def itemsText (sep : List Char) : List JsonValue → List Char
  | [] => []
  | x :: xs => sep ++ (x.text ++ itemsText [','] xs)

def fieldsText (sep : List Char) : List (String × JsonValue) → List Char
  | [] => []
  | x :: xs => sep ++ (quoted x.1 ++ ':' :: (x.2.text ++ fieldsText [','] xs))

end

/-- `sort_keys`. -/
def sortFields (fields : JsonObject) : JsonObject := fields.insertionSort fun a b => a.1 ≤ b.1

mutual

/-- The keys of every object in order. -/
def JsonValue.sorted : JsonValue → JsonValue
  | .list items => .list (sortedItems items)
  | .dict fields => .dict (sortFields (sortedFields fields))
  | v => v

def sortedItems : List JsonValue → List JsonValue
  | [] => []
  | x :: xs => x.sorted :: sortedItems xs

def sortedFields : List (String × JsonValue) → List (String × JsonValue)
  | [] => []
  | x :: xs => (x.1, x.2.sorted) :: sortedFields xs

end

/-- `json.dumps(…, sort_keys=True)`. -/
def JsonValue.encoded (v : JsonValue) : List Char := v.sorted.text

/-- **`_same_json_document`**. -/
def sameJsonDocument (left right : JsonObject) : Prop :=
  (JsonValue.dict left).encoded = (JsonValue.dict right).encoded

instance (left right : JsonObject) : Decidable (sameJsonDocument left right) :=
  inferInstanceAs (Decidable (_ = _))

/-! ## the checks of a document -/

/-- How a document is refused: the text of a `JobDocumentError`. -/
abbrev JobDocumentError := String

def maxJobDocumentBytes : Nat := 256 * 1024
def maxErrorDetailBytes : Nat := 64 * 1024
def maxJsonDepth : Nat := 32

/-- `re.sub(r"([a-z0-9])([A-Z])", r"\1_\2", key)`. -/
def splitWords : List Char → List Char
  | a :: b :: cs =>
    if (a.isLower ∨ a.isDigit) ∧ b.isUpper then a :: '_' :: splitWords (b :: cs)
    else a :: splitWords (b :: cs)
  | cs => cs

/-- `re.sub(r"[^a-zA-Z0-9]+", "_", …)`. -/
def joinWords : List Char → List Char
  | [] => []
  | a :: cs =>
    if a.isAlphanum then a :: joinWords cs
    else
      match joinWords cs with
      | '_' :: ds => '_' :: ds
      | ds => '_' :: ds

/-- `.strip("_")`. -/
def strip (cs : List Char) : List Char :=
  ((cs.dropWhile (· = '_')).reverse.dropWhile (· = '_')).reverse

/-- The alternatives of `_SENSITIVE_KEY` between the ends of words. -/
def sensitiveWords : List (List Char) :=
  (["access", "auth", "refresh", ""].flatMap fun p =>
    [(p ++ "_token").toList, (p ++ "token").toList]) ++
  ["api_key", "authorization", "cookie", "password", "passwd", "secret", "credential"].map
    String.toList

/-- One of them stands here, up to the end of a word. -/
def sensitiveHere (cs : List Char) : Bool :=
  sensitiveWords.any fun word =>
    word.isPrefixOf cs && ((cs.drop word.length).head?.all (· = '_'))

/-- `_SENSITIVE_KEY.search`: `atWord` at the start of a word. -/
def sensitiveFrom (atWord : Bool) : List Char → Bool
  | [] => false
  | c :: cs => (atWord && sensitiveHere (c :: cs)) || sensitiveFrom (c = '_') cs

/-- **`_is_sensitive_key`**. -/
def isSensitiveKey (key : String) : Bool :=
  sensitiveFrom true ((strip (joinWords (splitWords key.toList))).map Char.toLower)

mutual

/-- **`_copy_json_value`**. -/
def copyJsonValue (path : String) (depth : Nat) : JsonValue → Except JobDocumentError JsonValue
  | .list items =>
    if maxJsonDepth < depth then .error (path ++ " exceeds the maximum nesting depth")
    else do return .list (← copyItems path 0 (depth + 1) items)
  | .dict fields =>
    if maxJsonDepth < depth then .error (path ++ " exceeds the maximum nesting depth")
    else do return .dict (← copyFields path depth fields)
  | v => if maxJsonDepth < depth then .error (path ++ " exceeds the maximum nesting depth") else .ok v

def copyItems (path : String) (index depth : Nat) :
    List JsonValue → Except JobDocumentError (List JsonValue)
  | [] => .ok []
  | x :: xs => do
    let y ← copyJsonValue (path ++ "[" ++ index.repr ++ "]") depth x
    return y :: (← copyItems path (index + 1) depth xs)

/-- The loop of `_copy_json_object`. -/
def copyFields (path : String) (depth : Nat) :
    List (String × JsonValue) → Except JobDocumentError (List (String × JsonValue))
  | [] => .ok []
  | x :: xs =>
    if isSensitiveKey x.1 then .error (path ++ "." ++ x.1 ++ " is sensitive")
    else do
      let y ← copyJsonValue (path ++ "." ++ x.1) (depth + 1) x.2
      return (x.1, y) :: (← copyFields path depth xs)

end

mutual

/-- Python prints integers of up to 4300 digits. -/
def JsonValue.printable : JsonValue → Bool
  | .int i => decide (i.natAbs < 10 ^ 4300)
  | .list items => printableItems items
  | .dict fields => printableFields fields
  | _ => true

def printableItems : List JsonValue → Bool
  | [] => true
  | x :: xs => x.printable && printableItems xs

def printableFields : List (String × JsonValue) → Bool
  | [] => true
  | x :: xs => x.2.printable && printableFields xs

end

/-- **`validate_job_document`**.  `_copy_json_object` starts at depth 0. -/
def validateJobDocument (value : JsonObject) (field : String) (maximumBytes : Nat) :
    Except JobDocumentError JsonObject := do
  let normalized ← copyFields field 0 value
  if ¬printableFields normalized then .error (field ++ " is not valid JSON")
  else if maximumBytes < (String.ofList (JsonValue.dict normalized).encoded).utf8ByteSize then
    .error (field ++ " exceeds " ++ maximumBytes.repr ++ " bytes")
  else .ok normalized

/-! ## a `jsonb` column -/

mutual

/-- Text without the character U+0000, which `jsonb` refuses. -/
def JsonValue.storable : JsonValue → Bool
  | .str s => s.toList.all (·.toNat ≠ 0)
  | .list items => storableItems items
  | .dict fields => storableFields fields
  | _ => true

def storableItems : List JsonValue → Bool
  | [] => true
  | x :: xs => x.storable && storableItems xs

def storableFields : List (String × JsonValue) → Bool
  | [] => true
  | x :: xs => x.1.toList.all (·.toNat ≠ 0) && x.2.storable && storableFields xs

end

/-- A `numeric` that is read back: an exponent is written out, so that what had one and no fraction
comes back as an integer, and zero has no sign. -/
def PyFloat.toJsonb (f : PyFloat) : JsonValue :=
  if 16 < f.point then
    .int ((if f.negative then -1 else 1) * (f.digits * 10 ^ f.exponent.toNat : Nat))
  else .float { f with negative := f.negative && decide (f.digits ≠ 0) }

mutual

/-- What the column gives back.  The order that it gives to the keys is left out: the documents are
compared with their keys sorted. -/
def JsonValue.toJsonb : JsonValue → JsonValue
  | .float f => f.toJsonb
  | .list items => .list (toJsonbItems items)
  | .dict fields => .dict (toJsonbFields fields)
  | v => v

def toJsonbItems : List JsonValue → List JsonValue
  | [] => []
  | x :: xs => x.toJsonb :: toJsonbItems xs

def toJsonbFields : List (String × JsonValue) → List (String × JsonValue)
  | [] => []
  | x :: xs => (x.1, x.2.toJsonb) :: toJsonbFields xs

end

/-- A `float` that `jsonb` gives back: below 10 ^ 16, and not a negative zero. -/
def PyFloat.Kept (f : PyFloat) : Prop := f.point ≤ 16 ∧ (f.negative = true → f.digits ≠ 0)

mutual

/-- Every `float` of the value is given back. -/
def JsonValue.Kept : JsonValue → Prop
  | .float f => f.Kept
  | .list items => KeptItems items
  | .dict fields => KeptFields fields
  | _ => True

def KeptItems : List JsonValue → Prop
  | [] => True
  | x :: xs => x.Kept ∧ KeptItems xs

def KeptFields : List (String × JsonValue) → Prop
  | [] => True
  | x :: xs => x.2.Kept ∧ KeptFields xs

end

/-! ## documents that come back as they were -/

section
variable {f : PyFloat} {v : JsonValue} {c : Char} {a b x y : List Char}

/-- The characters of a number. -/
def IsNumeral (c : Char) : Prop := c.isDigit ∨ c ∈ ['-', '+', '.', 'e']

/-- What may follow a value. -/
def Stops (x : List Char) : Prop := ∀ c ∈ x.head?, ¬IsNumeral c

theorem stops_nil : Stops [] := nofun

theorem stops_cons {c : Char} (h : ¬IsNumeral c) (x : List Char) : Stops (c :: x) := by
  intro c' hc
  cases hc
  exact h

theorem isNumeral_toDigits {n : Nat} (h : c ∈ Nat.toDigits 10 n) : IsNumeral c :=
  Or.inl (Nat.isDigit_of_mem_toDigits (by decide) (by decide) h)

/-- A number ends where something else begins. -/
theorem numeral_append_inj (ha : ∀ c ∈ a, IsNumeral c) (hb : ∀ c ∈ b, IsNumeral c) (hx : Stops x)
    (hy : Stops y) (h : a ++ x = b ++ y) : a = b ∧ x = y := by
  induction a generalizing b with
  | nil =>
    cases b with
    | nil => exact ⟨rfl, h⟩
    | cons d b =>
      subst h
      exact absurd (hb d List.mem_cons_self) (hx d rfl)
  | cons d a ih =>
    cases b with
    | nil =>
      rw [List.nil_append] at h
      subst h
      exact absurd (ha d List.mem_cons_self) (hy d rfl)
    | cons d' b =>
      have hcons := List.cons.inj h
      obtain ⟨hab, hxy⟩ := ih (fun c hc => ha c (List.mem_cons_of_mem _ hc))
        (fun c hc => hb c (List.mem_cons_of_mem _ hc)) hcons.2
      exact ⟨by rw [hcons.1, hab], hxy⟩

theorem isNumeral_intText {i : Int} (h : c ∈ intText i) : IsNumeral c := by
  unfold intText at h
  split at h
  · rcases List.mem_cons.mp h with rfl | h
    · exact Or.inr (by decide)
    · exact isNumeral_toDigits h
  · exact isNumeral_toDigits h

/-- An integer has no exponent. -/
theorem e_not_mem_intText (i : Int) : 'e' ∉ intText i := by
  have hdigits : ∀ n, 'e' ∉ Nat.toDigits 10 n := by
    intro n h
    have := Nat.isDigit_of_mem_toDigits (by decide) (by decide) h
    exact absurd this (by decide)
  unfold intText
  split
  · intro h
    rcases List.mem_cons.mp h with h | h
    · exact absurd h (by decide)
    · exact hdigits _ h
  · exact hdigits _

theorem isNumeral_exponentText {n : Nat} (h : c ∈ PyFloat.exponentText n) : IsNumeral c := by
  unfold PyFloat.exponentText at h
  split at h
  · rcases List.mem_cons.mp h with rfl | h
    · exact Or.inl (by decide)
    · exact isNumeral_toDigits h
  · exact isNumeral_toDigits h

theorem isNumeral_sign (h : c ∈ f.sign) : IsNumeral c := by
  unfold PyFloat.sign at h
  split at h
  · rw [List.mem_singleton.mp h]
    exact Or.inr (by decide)
  · exact absurd h List.not_mem_nil

theorem isNumeral_text (h : c ∈ f.text) : IsNumeral c := by
  have hzero : IsNumeral '0' := Or.inl (by decide)
  have hdot : IsNumeral '.' := Or.inr (by decide)
  have htake : ∀ n, c ∈ (Nat.toDigits 10 f.digits).take n → IsNumeral c := fun n hc =>
    isNumeral_toDigits (List.mem_of_mem_take hc)
  have hdrop : ∀ n, c ∈ (Nat.toDigits 10 f.digits).drop n → IsNumeral c := fun n hc =>
    isNumeral_toDigits (List.mem_of_mem_drop hc)
  have hzeros : ∀ n, c ∈ List.replicate n '0' → IsNumeral c := fun n hc =>
    (List.mem_replicate.mp hc).2 ▸ hzero
  unfold PyFloat.text at h
  rcases List.mem_append.mp h with h | h
  · exact isNumeral_sign h
  · split at h
    · split at h
      · rcases List.mem_cons.mp h with rfl | h
        · exact hzero
        · rcases List.mem_cons.mp h with rfl | h
          · exact hdot
          · exact (List.mem_append.mp h).elim (hzeros _) isNumeral_toDigits
      · split at h
        · rcases List.mem_append.mp h with h | h
          · exact (List.mem_append.mp h).elim isNumeral_toDigits (hzeros _)
          · rcases List.mem_cons.mp h with rfl | h
            · exact hdot
            · exact List.mem_singleton.mp h ▸ hzero
        · rcases List.mem_append.mp h with h | h
          · exact htake _ h
          · rcases List.mem_cons.mp h with rfl | h
            · exact hdot
            · exact hdrop _ h
    · rcases List.mem_append.mp h with h | h
      · rcases List.mem_append.mp h with h | h
        · exact htake _ h
        · split at h
          · exact absurd h List.not_mem_nil
          · rcases List.mem_cons.mp h with rfl | h
            · exact hdot
            · exact hdrop _ h
      · rcases List.mem_cons.mp h with rfl | h
        · exact Or.inr (by decide)
        · rcases List.mem_cons.mp h with rfl | h
          · split
            · exact Or.inr (by decide)
            · exact Or.inr (by decide)
          · exact isNumeral_exponentText h

/-- From 10 ^ 16 on, `repr` writes an exponent. -/
theorem e_mem_text (h : 16 < f.point) : 'e' ∈ f.text := by
  have hfixed : ¬(-4 < f.point ∧ f.point ≤ 16) := by omega
  unfold PyFloat.text
  dsimp only
  rw [if_neg hfixed]
  exact List.mem_append_right _ (List.mem_append_right _ List.mem_cons_self)

theorem toJsonb_eq_self_iff : f.toJsonb = .float f ↔ f.Kept := by
  unfold PyFloat.toJsonb PyFloat.Kept
  by_cases h : 16 < f.point
  · rw [if_pos h]
    constructor
    · intro heq
      cases heq
    · intro hk
      omega
  · rw [if_neg h]
    have hle : f.point ≤ 16 := by omega
    cases hn : f.negative <;> simp [hle, hn, PyFloat.ext_iff]

mutual

theorem toJsonb_eq_of_kept (v : JsonValue) (h : v.Kept) : v.toJsonb = v := by
  cases v with
  | float f => exact toJsonb_eq_self_iff.mpr h
  | list items => exact congrArg JsonValue.list (toJsonbItems_eq_of_kept items h)
  | dict fields => exact congrArg JsonValue.dict (toJsonbFields_eq_of_kept fields h)
  | _ => rfl

theorem toJsonbItems_eq_of_kept (items : List JsonValue) (h : KeptItems items) :
    toJsonbItems items = items := by
  cases items with
  | nil => rfl
  | cons v items =>
    show v.toJsonb :: toJsonbItems items = v :: items
    rw [toJsonb_eq_of_kept v h.1, toJsonbItems_eq_of_kept items h.2]

theorem toJsonbFields_eq_of_kept (fields : JsonObject) (h : KeptFields fields) :
    toJsonbFields fields = fields := by
  cases fields with
  | nil => rfl
  | cons x fields =>
    show (x.1, x.2.toJsonb) :: toJsonbFields fields = x :: fields
    rw [toJsonb_eq_of_kept x.2 h.1, toJsonbFields_eq_of_kept fields h.2]

end

/-- The text of a number that is not given back differs. -/
theorem kept_of_text (hx : Stops x) (hy : Stops y) (h : f.toJsonb.text ++ x = f.text ++ y) :
    f.Kept ∧ x = y := by
  by_cases hp : 16 < f.point
  · unfold PyFloat.toJsonb at h
    rw [if_pos hp] at h
    obtain ⟨htext, -⟩ := numeral_append_inj (fun _ => isNumeral_intText)
      (fun _ => isNumeral_text) hx hy h
    exact absurd (htext ▸ e_mem_text hp) (e_not_mem_intText _)
  · unfold PyFloat.toJsonb at h
    rw [if_neg hp] at h
    obtain ⟨htext, hxy⟩ := numeral_append_inj (fun _ => isNumeral_text)
      (fun _ => isNumeral_text) hx hy h
    refine ⟨⟨by omega, fun hn hz => ?_⟩, hxy⟩
    have hlength := congrArg List.length htext
    simp [PyFloat.text, PyFloat.sign, PyFloat.point, hn, hz] at hlength

theorem stops_comma (x : List Char) : Stops (',' :: x) :=
  stops_cons (by unfold IsNumeral; decide) x

theorem stops_items (items : List JsonValue) (x : List Char) :
    Stops (itemsText [','] items ++ ']' :: x) := by
  cases items with
  | nil => exact stops_cons (by unfold IsNumeral; decide) x
  | cons v items => exact stops_comma _

theorem stops_fields (fields : JsonObject) (x : List Char) :
    Stops (fieldsText [','] fields ++ '}' :: x) := by
  cases fields with
  | nil => exact stops_cons (by unfold IsNumeral; decide) x
  | cons v fields => exact stops_comma _

end

section

mutual

/-- **Only what comes back as it was has its text.** -/
theorem kept_of_toJsonb_text {x y : List Char} (v : JsonValue) (hx : Stops x) (hy : Stops y)
    (h : v.toJsonb.text ++ x = v.text ++ y) : v.Kept ∧ x = y := by
  cases v with
  | float f => exact kept_of_text hx hy h
  | list items =>
    have h' : itemsText [] (toJsonbItems items) ++ ']' :: x = itemsText [] items ++ ']' :: y := by
      simpa [JsonValue.toJsonb, JsonValue.text] using h
    exact keptItems_of_text [] items h'
  | dict fields =>
    have h' : fieldsText [] (toJsonbFields fields) ++ '}' :: x =
        fieldsText [] fields ++ '}' :: y := by
      simpa [JsonValue.toJsonb, JsonValue.text] using h
    exact keptFields_of_text [] fields h'
  | _ => exact ⟨trivial, List.append_cancel_left h⟩

theorem keptItems_of_text {x y : List Char} (sep : List Char) (items : List JsonValue)
    (h : itemsText sep (toJsonbItems items) ++ ']' :: x = itemsText sep items ++ ']' :: y) :
    KeptItems items ∧ x = y := by
  cases items with
  | nil => exact ⟨trivial, (List.cons.inj h).2⟩
  | cons v items =>
    have h' : v.toJsonb.text ++ (itemsText [','] (toJsonbItems items) ++ ']' :: x) =
        v.text ++ (itemsText [','] items ++ ']' :: y) := by
      simpa [toJsonbItems, itemsText] using h
    obtain ⟨hv, hrest⟩ := kept_of_toJsonb_text v (stops_items _ x) (stops_items _ y) h'
    obtain ⟨hitems, hxy⟩ := keptItems_of_text [','] items hrest
    exact ⟨⟨hv, hitems⟩, hxy⟩

theorem keptFields_of_text {x y : List Char} (sep : List Char) (fields : JsonObject)
    (h : fieldsText sep (toJsonbFields fields) ++ '}' :: x = fieldsText sep fields ++ '}' :: y) :
    KeptFields fields ∧ x = y := by
  cases fields with
  | nil => exact ⟨trivial, (List.cons.inj h).2⟩
  | cons v fields =>
    have h' : v.2.toJsonb.text ++ (fieldsText [','] (toJsonbFields fields) ++ '}' :: x) =
        v.2.text ++ (fieldsText [','] fields ++ '}' :: y) := by
      simpa [toJsonbFields, fieldsText] using h
    obtain ⟨hv, hrest⟩ := kept_of_toJsonb_text v.2 (stops_fields _ x) (stops_fields _ y) h'
    obtain ⟨hfields, hxy⟩ := keptFields_of_text [','] fields hrest
    exact ⟨⟨hv, hfields⟩, hxy⟩

end

/-! The keys stay as they are. -/

theorem toJsonbFields_eq_map (fields : JsonObject) :
    toJsonbFields fields = fields.map fun x => (x.1, x.2.toJsonb) := by
  induction fields with
  | nil => rfl
  | cons x fields ih =>
    rw [List.map_cons, ← ih]
    rfl

theorem toJsonbFields_sortFields (fields : JsonObject) :
    toJsonbFields (sortFields fields) = sortFields (toJsonbFields fields) := by
  rw [toJsonbFields_eq_map, toJsonbFields_eq_map]
  exact List.map_insertionSort _ _ _ _ fun _ _ _ _ => Iff.rfl

theorem keptFields_iff {fields : JsonObject} : KeptFields fields ↔ ∀ x ∈ fields, x.2.Kept := by
  induction fields with
  | nil => exact ⟨fun _ => nofun, fun _ => trivial⟩
  | cons x fields ih =>
    rw [List.forall_mem_cons, ← ih]
    rfl

theorem keptFields_sortFields {fields : JsonObject} :
    KeptFields (sortFields fields) ↔ KeptFields fields := by
  rw [keptFields_iff, keptFields_iff]
  exact forall_congr' fun x => imp_congr_left (List.mem_insertionSort _)

mutual

theorem sorted_toJsonb (v : JsonValue) : v.toJsonb.sorted = v.sorted.toJsonb := by
  cases v with
  | float f =>
    show f.toJsonb.sorted = f.toJsonb
    unfold PyFloat.toJsonb
    split
    · rfl
    · rfl
  | list items => exact congrArg JsonValue.list (sortedItems_toJsonb items)
  | dict fields =>
    refine congrArg JsonValue.dict ?_
    rw [sortedFields_toJsonb fields, toJsonbFields_sortFields]
  | _ => rfl

theorem sortedItems_toJsonb (items : List JsonValue) :
    sortedItems (toJsonbItems items) = toJsonbItems (sortedItems items) := by
  cases items with
  | nil => rfl
  | cons v items =>
    show v.toJsonb.sorted :: sortedItems (toJsonbItems items) = _
    rw [sorted_toJsonb v, sortedItems_toJsonb items]
    rfl

theorem sortedFields_toJsonb (fields : JsonObject) :
    sortedFields (toJsonbFields fields) = toJsonbFields (sortedFields fields) := by
  cases fields with
  | nil => rfl
  | cons x fields =>
    show (x.1, x.2.toJsonb.sorted) :: sortedFields (toJsonbFields fields) = _
    rw [sorted_toJsonb x.2, sortedFields_toJsonb fields]
    rfl

end

mutual

theorem kept_sorted (v : JsonValue) : v.sorted.Kept ↔ v.Kept := by
  cases v with
  | list items => exact keptItems_sorted items
  | dict fields =>
    show KeptFields (sortFields (sortedFields fields)) ↔ _
    rw [keptFields_sortFields]
    exact keptFields_sorted fields
  | _ => exact Iff.rfl

theorem keptItems_sorted (items : List JsonValue) : KeptItems (sortedItems items) ↔ KeptItems items := by
  cases items with
  | nil => exact Iff.rfl
  | cons v items => exact and_congr (kept_sorted v) (keptItems_sorted items)

theorem keptFields_sorted (fields : JsonObject) :
    KeptFields (sortedFields fields) ↔ KeptFields fields := by
  cases fields with
  | nil => exact Iff.rfl
  | cons x fields => exact and_congr (kept_sorted x.2) (keptFields_sorted fields)

end

/-- **A document is what the column gives back exactly if it holds no float from 10 ^ 16 on and no
negative zero.** -/
theorem same_toJsonb_iff (document : JsonObject) :
    sameJsonDocument (toJsonbFields document) document ↔ KeptFields document := by
  constructor
  · intro h
    have h' : (JsonValue.dict document).sorted.toJsonb.text = (JsonValue.dict document).sorted.text := by
      rw [← sorted_toJsonb]
      exact h
    have hkept := kept_of_toJsonb_text (x := []) (y := []) _ stops_nil stops_nil
      (congrArg (· ++ []) h')
    exact (kept_sorted (.dict document)).mp hkept.1
  · intro h
    unfold sameJsonDocument
    rw [toJsonbFields_eq_of_kept document h]

end

end AutPlay.Jobs
