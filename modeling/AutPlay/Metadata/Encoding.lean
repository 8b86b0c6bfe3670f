import AutPlay.Jobs.Document
import Mathlib.Algebra.GroupWithZero.Nat
import Mathlib.Algebra.BigOperators.Group.List.Basic
import Mathlib.Algebra.Order.BigOperators.Group.List

/-!
# The size of a document

`len(json.dumps(value, ensure_ascii=False, allow_nan=False).encode("utf-8"))`.

* `dumps`              the text, with a blank after every comma and colon;
* `Dumpable`           no number is too long for `int.__repr__`;
* `encodedSize_list`, `encodedSize_dict`     the size from the sizes of the items;
* `joined_perm`        which does not depend on their order.
-/

set_option linter.unusedSectionVars false

namespace AutPlay.Metadata
open Jobs (JsonValue JsonObject quoted)

mutual

/-- `json.dumps`, with its own separators. -/
def dumps : JsonValue → List Char
  | .list items => '[' :: (dumpsItems [] items ++ [']'])
  | .dict fields => '{' :: (dumpsFields [] fields ++ ['}'])
  | v => v.text

/-- The items after a separator, and those after them after commas. -/
def dumpsItems (sep : List Char) : List JsonValue → List Char
  | [] => []
  | x :: xs => sep ++ (dumps x ++ dumpsItems [',', ' '] xs)

def dumpsFields (sep : List Char) : JsonObject → List Char
  | [] => []
  | x :: xs => sep ++ (quoted x.1 ++ ':' :: ' ' :: (dumps x.2 ++ dumpsFields [',', ' '] xs))

end

mutual

/-- `int.__repr__` prints 4300 digits at most. -/
def Dumpable : JsonValue → Prop
  | .int i => (Nat.toDigits 10 i.natAbs).length ≤ 4300
  | .list items => DumpableItems items
  | .dict fields => DumpableFields fields
  | _ => True

def DumpableItems : List JsonValue → Prop
  | [] => True
  | x :: xs => Dumpable x ∧ DumpableItems xs

def DumpableFields : JsonObject → Prop
  | [] => True
  | x :: xs => Dumpable x.2 ∧ DumpableFields xs

end

mutual

def decideDumpable : (v : JsonValue) → Decidable (Dumpable v)
  | .null => .isTrue trivial
  | .bool _ => .isTrue trivial
  | .int i => inferInstanceAs (Decidable ((Nat.toDigits 10 i.natAbs).length ≤ 4300))
  | .float _ => .isTrue trivial
  | .str _ => .isTrue trivial
  | .list items => decideDumpableItems items
  | .dict fields => decideDumpableFields fields

def decideDumpableItems : (items : List JsonValue) → Decidable (DumpableItems items)
  | [] => .isTrue trivial
  | x :: xs => @instDecidableAnd _ _ (decideDumpable x) (decideDumpableItems xs)

def decideDumpableFields : (fields : JsonObject) → Decidable (DumpableFields fields)
  | [] => .isTrue trivial
  | x :: xs => @instDecidableAnd _ _ (decideDumpable x.2) (decideDumpableFields xs)

end

instance : DecidablePred Dumpable := decideDumpable

/-- `len(text.encode("utf-8"))` -/
def utf8Size (cs : List Char) : Nat := (cs.map Char.utf8Size).sum

def encodedSize (v : JsonValue) : Nat := utf8Size (dumps v)

/-! ## sizes from sizes -/

@[simp] theorem utf8Size_nil : utf8Size [] = 0 := rfl

@[simp] theorem utf8Size_cons (c : Char) (cs : List Char) : utf8Size (c :: cs) = c.utf8Size + utf8Size cs :=
  rfl

@[simp] theorem utf8Size_append (cs ds : List Char) : utf8Size (cs ++ ds) = utf8Size cs + utf8Size ds := by
  unfold utf8Size
  rw [List.map_append, List.sum_append]

/-- The size of items between brackets, with a comma and a blank between them. -/
def joined : List Nat → Nat
  | [] => 2
  | n :: ns => ((n :: ns).map (· + 2)).sum

theorem joined_of_ne_nil {ns : List Nat} (h : ns ≠ []) : joined ns = (ns.map (· + 2)).sum := by
  cases ns with
  | nil => exact absurd rfl h
  | cons n ns => rfl

theorem joined_perm {ns ns' : List Nat} (h : ns.Perm ns') : joined ns = joined ns' := by
  cases ns with
  | nil => rw [List.nil_perm.mp h]
  | cons n ns =>
    have hne : ns' ≠ [] := by
      rintro rfl
      exact List.cons_ne_nil _ _ (List.perm_nil.mp h)
    rw [joined_of_ne_nil hne, joined_of_ne_nil (List.cons_ne_nil n ns)]
    exact (h.map (· + 2)).sum_eq

/-- One of the items is no larger than all of them. -/
theorem joined_singleton_le {n : Nat} {ns : List Nat} (h : n ∈ ns) : joined [n] ≤ joined ns := by
  rw [joined_of_ne_nil (List.ne_nil_of_mem h)]
  show n + 2 + 0 ≤ _
  exact List.le_sum_of_mem (List.mem_map.mpr ⟨n, h, rfl⟩)

/-- The size of a field with its key. -/
def fieldSize (field : String × JsonValue) : Nat := utf8Size (quoted field.1) + 2 + encodedSize field.2

theorem utf8Size_dumpsItems (sep : List Char) (x : JsonValue) (xs : List JsonValue) :
    utf8Size (dumpsItems sep (x :: xs)) + 2 =
      utf8Size sep + (((x :: xs).map encodedSize).map (· + 2)).sum := by
  induction xs generalizing sep x with
  | nil =>
    simp only [dumpsItems, utf8Size_append, utf8Size_nil, List.map_cons, List.map_nil, List.sum_cons,
      List.sum_nil, encodedSize]
    omega
  | cons y ys ih =>
    have hrest := ih [',', ' '] y
    have hsep : utf8Size [',', ' '] = 2 := rfl
    rw [dumpsItems, utf8Size_append, utf8Size_append]
    rw [List.map_cons, List.map_cons, List.sum_cons]
    have hx : utf8Size (dumps x) = encodedSize x := rfl
    omega

theorem utf8Size_dumpsFields (sep : List Char) (x : String × JsonValue) (xs : JsonObject) :
    utf8Size (dumpsFields sep (x :: xs)) + 2 =
      utf8Size sep + (((x :: xs).map fieldSize).map (· + 2)).sum := by
  have hcolon : ':'.utf8Size = 1 := rfl
  have hblank : ' '.utf8Size = 1 := rfl
  induction xs generalizing sep x with
  | nil =>
    simp only [dumpsFields, utf8Size_append, utf8Size_cons, utf8Size_nil, List.map_cons, List.map_nil,
      List.sum_cons, List.sum_nil, fieldSize, encodedSize, hcolon, hblank]
    omega
  | cons y ys ih =>
    have hrest := ih [',', ' '] y
    have hsep : utf8Size [',', ' '] = 2 := rfl
    rw [dumpsFields]
    simp only [utf8Size_append, utf8Size_cons, hcolon, hblank]
    rw [List.map_cons, List.map_cons, List.sum_cons]
    have hx : fieldSize x = utf8Size (quoted x.1) + 2 + utf8Size (dumps x.2) := rfl
    omega

theorem encodedSize_list (items : List JsonValue) :
    encodedSize (.list items) = joined (items.map encodedSize) := by
  have hopen : '['.utf8Size = 1 := rfl
  have hclose : ']'.utf8Size = 1 := rfl
  cases items with
  | nil => rfl
  | cons x xs =>
    have h := utf8Size_dumpsItems [] x xs
    rw [joined_of_ne_nil (by rw [List.map_cons]; exact List.cons_ne_nil _ _)]
    unfold encodedSize
    rw [dumps, utf8Size_cons, utf8Size_append, utf8Size_cons, utf8Size_nil, hopen, hclose]
    rw [utf8Size_nil] at h
    have hsame : ((x :: xs).map fun v => utf8Size (dumps v)) = (x :: xs).map encodedSize := rfl
    rw [hsame]
    omega

theorem encodedSize_dict (fields : JsonObject) :
    encodedSize (.dict fields) = joined (fields.map fieldSize) := by
  have hopen : '{'.utf8Size = 1 := rfl
  have hclose : '}'.utf8Size = 1 := rfl
  cases fields with
  | nil => rfl
  | cons x xs =>
    have h := utf8Size_dumpsFields [] x xs
    rw [joined_of_ne_nil (by rw [List.map_cons]; exact List.cons_ne_nil _ _)]
    unfold encodedSize
    rw [dumps, utf8Size_cons, utf8Size_append, utf8Size_cons, utf8Size_nil, hopen, hclose]
    rw [utf8Size_nil] at h
    omega

/-- The size of an object does not depend on the order of its fields. -/
theorem encodedSize_perm {fields fields' : JsonObject} (h : fields.Perm fields') :
    encodedSize (.dict fields) = encodedSize (.dict fields') := by
  rw [encodedSize_dict, encodedSize_dict]
  exact joined_perm (h.map fieldSize)

theorem dumpable_list (items : List JsonValue) : Dumpable (.list items) ↔ ∀ v ∈ items, Dumpable v := by
  show DumpableItems items ↔ _
  induction items with
  | nil => exact ⟨fun _ v hv => absurd hv List.not_mem_nil, fun _ => trivial⟩
  | cons x xs ih =>
    rw [List.forall_mem_cons]
    exact and_congr Iff.rfl ih

theorem dumpable_dict (fields : JsonObject) : Dumpable (.dict fields) ↔ ∀ e ∈ fields, Dumpable e.2 := by
  show DumpableFields fields ↔ _
  induction fields with
  | nil => exact ⟨fun _ e he => absurd he List.not_mem_nil, fun _ => trivial⟩
  | cons x xs ih =>
    rw [List.forall_mem_cons]
    exact and_congr Iff.rfl ih

end AutPlay.Metadata
