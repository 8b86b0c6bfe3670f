import AutPlay.Sync.Uuid
import Mathlib.Data.Rat.Defs
import Mathlib.Algebra.Order.Ring.Rat

/-!
# Payload values and what the server reads from them

A payload is a Python `dict` decoded from JSON.  `bool` is a subtype of `int` there, so an integer
field that was sent as `true` passes `isinstance(value, int)`; what happens to it next depends on
the column it is written to (`PyInt.toBigint`, `PyInt.toInteger`).

* `Refusal`      how the checks of a projection stop: a lost optimistic write, a `ValueError`, a
                 missing attribution;
* `Abort`        how a transaction stops: a violation that only the database reports;
* `Payload.get`, `Payload.uuidField`, `Payload.optionalString`, …   the accessors of the service.
-/

set_option linter.unusedSectionVars false

namespace AutPlay.Sync

/-- The tables of the sync runtime. -/
inductive TableName
  | deviceSyncCursor
  | deviceEventInbox
  | idempotencyRecord
  | userTrackRef
  | libraryEntry
  | userTrackPreference
  | playlist
  | playlistEntry
  | listeningEvent
  | userInteractionEvent
  | syncEvent
  | tombstone
  deriving DecidableEq, Repr

/-- What aborts a transaction: a write that the database refuses, or a stored acknowledgement that
is not one. -/
inductive Abort
  | primaryKey (table : TableName)
  | uniqueIndex (table : TableName)
  | check (table : TableName)
  | foreignKey (table : TableName)
  | ownerTrigger (table : TableName)
  | datatypeMismatch
  | numericOutOfRange
  | nulCharacter
  | inboxCorrupt
  deriving DecidableEq, Repr

/-- How the checks of a projection stop; each is answered with an acknowledgement. -/
inductive Refusal
  | projectionConflict
  | attributionNotFound
  | valueError
  deriving DecidableEq, Repr

inductive Json
  | null
  | bool (b : Bool)
  | int (i : Int)
  | float (q : ℚ)
  | str (s : String)
  | arr (items : List Json)
  | obj (fields : List (String × Json))

abbrev Payload := List (String × Json)

/-- Text that PostgreSQL stores: `text` and `jsonb` refuse the character U+0000. -/
def noNul (s : String) : Bool := s.toList.all (fun c => c.val ≠ 0)

mutual

/-- A value that a `jsonb` column stores. -/
def Json.storable : Json → Bool
  | .str s => noNul s
  | .arr items => Json.storableItems items
  | .obj fields => Json.storableFields fields
  | _ => true

def Json.storableItems : List Json → Bool
  | [] => true
  | x :: xs => x.storable && Json.storableItems xs

def Json.storableFields : List (String × Json) → Bool
  | [] => true
  | x :: xs => noNul x.1 && x.2.storable && Json.storableFields xs

end

/-! ## comparison -/

mutual

/-- Structural comparison. -/
def Json.beq : Json → Json → Bool
  | .null, .null => true
  | .bool a, .bool b => a == b
  | .int a, .int b => a == b
  | .float a, .float b => a == b
  | .str a, .str b => a == b
  | .arr a, .arr b => Json.beqItems a b
  | .obj a, .obj b => Json.beqFields a b
  | _, _ => false

def Json.beqItems : List Json → List Json → Bool
  | [], [] => true
  | x :: xs, y :: ys => x.beq y && Json.beqItems xs ys
  | _, _ => false

def Json.beqFields : List (String × Json) → List (String × Json) → Bool
  | [], [] => true
  | x :: xs, y :: ys => x.1 == y.1 && x.2.beq y.2 && Json.beqFields xs ys
  | _, _ => false

end

mutual

theorem Json.beq_iff (a b : Json) : a.beq b = true ↔ a = b := by
  cases a with
  | arr a => cases b <;> simp [Json.beq, Json.beqItems_iff a]
  | obj a => cases b <;> simp [Json.beq, Json.beqFields_iff a]
  | _ => cases b <;> simp [Json.beq]

theorem Json.beqItems_iff (a b : List Json) : Json.beqItems a b = true ↔ a = b := by
  cases a with
  | nil => cases b <;> simp [Json.beqItems]
  | cons x xs => cases b <;> simp [Json.beqItems, Json.beq_iff x, Json.beqItems_iff xs]

theorem Json.beqFields_iff (a b : List (String × Json)) : Json.beqFields a b = true ↔ a = b := by
  cases a with
  | nil => cases b <;> simp [Json.beqFields]
  | cons x xs =>
    cases b <;> simp [Json.beqFields, Json.beq_iff x.2, Json.beqFields_iff xs, Prod.ext_iff]

end

instance : DecidableEq Json := fun a b => decidable_of_iff _ (Json.beq_iff a b)

/-! ## integers -/

/-- A Python object for which `isinstance(value, int)` holds. -/
inductive PyInt
  | int (i : Int)
  | bool (b : Bool)
  deriving DecidableEq, Repr

namespace PyInt

def val : PyInt → Int
  | .int i => i
  | .bool b => if b then 1 else 0

/-- Bind the object to a `bigint` column: there is no cast from `boolean` to `bigint`. -/
def toBigint : PyInt → Except Abort Int
  | .int i =>
    if -9223372036854775808 ≤ i ∧ i ≤ 9223372036854775807 then .ok i
    else .error .numericOutOfRange
  | .bool _ => .error .datatypeMismatch

/-- Bind the object to an `integer` column, to which `boolean` casts. -/
def toInteger (n : PyInt) : Except Abort Int :=
  if -2147483648 ≤ n.val ∧ n.val ≤ 2147483647 then .ok n.val
  else .error .numericOutOfRange

@[simp] theorem val_int (i : Int) : (PyInt.int i).val = i := rfl

theorem toBigint_ok {n : PyInt} {i : Int} :
    n.toBigint = .ok i ↔
      n = .int i ∧ -9223372036854775808 ≤ i ∧ i ≤ 9223372036854775807 := by
  cases n with
  | bool b => simp [toBigint]
  | int j =>
    unfold toBigint
    by_cases h : -9223372036854775808 ≤ j ∧ j ≤ 9223372036854775807
    · simp only [h, and_self, if_true]
      constructor
      · intro e
        injection e with e
        subst e
        exact ⟨rfl, h⟩
      · rintro ⟨e, -⟩
        injection e with e
        rw [e]
    · simp only [h, if_false]
      constructor
      · intro e
        cases e
      · rintro ⟨e, hi⟩
        injection e with e
        exact absurd (e ▸ hi) h

end PyInt

/-- `isinstance(value, int)`. -/
def Json.asInt : Json → Option PyInt
  | .int i => some (.int i)
  | .bool b => some (.bool b)
  | _ => none

/-! ## the accessors of the sync service -/

namespace Payload

/-- `value.get(key)`, with an absent key and a JSON null alike `None`. -/
def get (value : Payload) (key : String) : Option Json :=
  match value.lookup key with
  | some .null => none
  | found => found

/-- `key in value`. -/
def has (value : Payload) (key : String) : Bool := (value.lookup key).isSome

/-- `_uuid` on a present value: `UUID(str(candidate))`. -/
def uuidOf : Json → Except Refusal Uuid
  | .str s =>
    match Uuid.parse s with
    | some u => .ok u
    | none => .error .valueError
  | _ => .error .valueError

/-- `_uuid`. -/
def uuidField (value : Payload) (key : String) : Except Refusal Uuid :=
  match value.lookup key with
  | some candidate => uuidOf candidate
  | none => .error .valueError

/-- `_uuid_optional`. -/
def uuidOptional (value : Payload) (key : String) : Except Refusal (Option Uuid) :=
  match value.get key with
  | none => .ok none
  | some candidate => (uuidOf candidate).map some

/-- `_uuid_optional_alias`: the first key that is present decides. -/
def uuidOptionalAlias (value : Payload) : List String → Except Refusal (Option Uuid)
  | [] => .ok none
  | key :: keys =>
    match value.get key with
    | none => uuidOptionalAlias value keys
    | some candidate => (uuidOf candidate).map some

/-- `_optional_string`. -/
def optionalString (value : Payload) (key : String) : Except Refusal (Option String) :=
  match value.get key with
  | none => .ok none
  | some (.str s) => .ok (some s)
  | some _ => .error .valueError

/-- `_optional_int`. -/
def optionalInt (value : Payload) (key : String) : Except Refusal (Option PyInt) :=
  match value.get key with
  | none => .ok none
  | some candidate =>
    match candidate.asInt with
    | some n => if n.val < 0 then .error .valueError else .ok (some n)
    | none => .error .valueError

/-- `_string`: between one and `maximum` characters. -/
def stringField (value : Payload) (key : String) (maximum : Nat) : Except Refusal String :=
  match value.get key with
  | some (.str s) =>
    if 1 ≤ s.length ∧ s.length ≤ maximum then .ok s else .error .valueError
  | _ => .error .valueError

/-- `_enum`: `read` knows the allowed values. -/
def enumField {α : Type} (value : Payload) (key : String) (read : String → Option α) :
    Except Refusal α :=
  match value.stringField key 100 with
  | .error f => .error f
  | .ok s =>
    match read s with
    | some a => .ok a
    | none => .error .valueError

/-- `_enum_default`. -/
def enumDefault {α : Type} (value : Payload) (key : String) (read : String → Option α)
    (fallback : α) : Except Refusal α :=
  if value.has key then value.enumField key read else .ok fallback

/-- `_boolean`. -/
def boolean (value : Payload) (key : String) : Except Refusal Bool :=
  match value.get key with
  | some (.bool b) => .ok b
  | _ => .error .valueError

/-- `_nonnegative_bounded`. -/
def nonnegativeBounded (value : Payload) (key : String) (maximum : Int) : Except Refusal PyInt :=
  match (value.get key).bind Json.asInt with
  | some n => if 0 ≤ n.val ∧ n.val ≤ maximum then .ok n else .error .valueError
  | none => .error .valueError

/-- `_nullable_range`. -/
def nullableRange (value : Payload) (key : String) (minimum maximum : Int) :
    Except Refusal (Option PyInt) :=
  match value.get key with
  | none => .ok none
  | some candidate =>
    match candidate.asInt with
    | some n => if minimum ≤ n.val ∧ n.val ≤ maximum then .ok (some n) else .error .valueError
    | none => .error .valueError

end Payload

end AutPlay.Sync
