import AutPlay.Sync.Value
import AutPlay.Lib.Greedy
import Mathlib.Algebra.Order.Group.Abs
import Mathlib.Data.List.Perm.Basic
import Mathlib.Data.List.Sort

/-!
# Canonical JSON

What RFC 8785 sees of a parsed value: numbers are doubles, whether they were written with a fraction
or not, and objects have no order.

* `Json.canonical`      the value that is written;
* `Json.inDomain`       integers up to `2 ^ 53 - 1`;
* `Json.wire`           what is parsed back from the text of a value;
* `same_obj_iff`        two objects are the same if their fields are.

Floats are finite and compared by their values.
-/

set_option linter.unusedSectionVars false

namespace AutPlay.Sona

open AutPlay.Sync (Json Payload)

/-- Fields by their keys. -/
def keyLe (a b : String × Json) : Prop := a.1 ≤ b.1

instance decidableRelKeyLe : DecidableRel keyLe := fun a b => inferInstanceAs (Decidable (a.1 ≤ b.1))

instance totalKeyLe : Std.Total keyLe := ⟨fun a b => le_total a.1 b.1⟩

instance transKeyLe : IsTrans (String × Json) keyLe := ⟨fun _ _ c hab hbc => le_trans (c := c.1) hab hbc⟩

def sortFields (fields : Payload) : Payload := fields.insertionSort keyLe

mutual

def canonical : Json → Json
  | .int i => .float i
  | .arr items => .arr (canonicalItems items)
  | .obj fields => .obj (sortFields (canonicalFields fields))
  | v => v

def canonicalItems : List Json → List Json
  | [] => []
  | x :: xs => canonical x :: canonicalItems xs

def canonicalFields : List (String × Json) → List (String × Json)
  | [] => []
  | x :: xs => (x.1, canonical x.2) :: canonicalFields xs

end

/-- The largest integer that is written. -/
def maxInt : Int := 2 ^ 53 - 1

mutual

/-- `rfc8785.dumps` accepts the value. -/
def inDomain : Json → Bool
  | .int i => decide (-maxInt ≤ i ∧ i ≤ maxInt)
  | .arr items => inDomainItems items
  | .obj fields => inDomainFields fields
  | _ => true

def inDomainItems : List Json → Bool
  | [] => true
  | x :: xs => inDomain x && inDomainItems xs

def inDomainFields : List (String × Json) → Bool
  | [] => true
  | x :: xs => inDomain x.2 && inDomainFields xs

end

/-- A number is written without fraction and exponent. -/
def plain (q : ℚ) : Prop := q.den = 1 ∧ |q| < 10 ^ 21

instance decidablePlain : DecidablePred plain := fun _ => inferInstanceAs (Decidable (_ ∧ _))

mutual

/-- `json.loads(rfc8785.dumps(value))`. From `2 ^ 53` on the digits that are written may be others;
they are those of an integer beyond `2 ^ 53 - 1` all the same. -/
def wire : Json → Json
  | .float q => if plain q then .int q.num else .float q
  | .arr items => .arr (wireItems items)
  | .obj fields => .obj (sortFields (wireFields fields))
  | v => v

def wireItems : List Json → List Json
  | [] => []
  | x :: xs => wire x :: wireItems xs

def wireFields : List (String × Json) → List (String × Json)
  | [] => []
  | x :: xs => (x.1, wire x.2) :: wireFields xs

end

/-! ## items and fields -/

theorem canonicalItems_eq (items : List Json) : canonicalItems items = items.map canonical := by
  induction items with
  | nil => rfl
  | cons x xs ih => rw [canonicalItems, ih, List.map_cons]

theorem canonicalFields_eq (fields : Payload) :
    canonicalFields fields = fields.map fun x => (x.1, canonical x.2) := by
  induction fields with
  | nil => rfl
  | cons x xs ih => rw [canonicalFields, ih, List.map_cons]

theorem wireItems_eq (items : List Json) : wireItems items = items.map wire := by
  induction items with
  | nil => rfl
  | cons x xs ih => rw [wireItems, ih, List.map_cons]

theorem wireFields_eq (fields : Payload) : wireFields fields = fields.map fun x => (x.1, wire x.2) := by
  induction fields with
  | nil => rfl
  | cons x xs ih => rw [wireFields, ih, List.map_cons]

theorem inDomainItems_eq (items : List Json) : inDomainItems items = items.all inDomain := by
  induction items with
  | nil => rfl
  | cons x xs ih => rw [inDomainItems, ih, List.all_cons]

theorem inDomainFields_eq (fields : Payload) :
    inDomainFields fields = fields.all fun x => inDomain x.2 := by
  induction fields with
  | nil => rfl
  | cons x xs ih => rw [inDomainFields, ih, List.all_cons]

/-- The keys of an object. -/
def keysOf (fields : Payload) : List String := fields.map Prod.fst

theorem keysOf_map (f : Json → Json) (fields : Payload) :
    keysOf (fields.map fun x => (x.1, f x.2)) = keysOf fields := by
  unfold keysOf
  rw [List.map_map]
  rfl

theorem lookup_map (f : Json → Json) (fields : Payload) (key : String) :
    (fields.map fun x => (x.1, f x.2)).lookup key = (fields.lookup key).map f := by
  induction fields with
  | nil => rfl
  | cons x xs ih =>
    rw [List.map_cons, List.lookup_cons, List.lookup_cons, ih]
    cases key == x.1 <;> rfl

theorem lookup_eq_some_iff_mem {fields : Payload} (hn : (keysOf fields).Nodup) {key : String} {v : Json} :
    fields.lookup key = some v ↔ (key, v) ∈ fields := by
  constructor
  · intro h
    obtain ⟨l, l', rfl, -⟩ := List.lookup_eq_some_iff.mp h
    exact List.mem_append_right _ List.mem_cons_self
  · intro h
    have hsome : (fields.lookup key).isSome := by
      rw [List.lookup_isSome_iff]
      exact ⟨_, h, by simp⟩
    obtain ⟨v', hv'⟩ := Option.isSome_iff_exists.mp hsome
    obtain ⟨l, l', heq, -⟩ := List.lookup_eq_some_iff.mp hv'
    have hmem : (key, v') ∈ fields := heq ▸ List.mem_append_right _ List.mem_cons_self
    have hone := List.inj_on_of_nodup_map hn h hmem rfl
    rw [hv', (Prod.mk.inj hone).2]

theorem lookup_perm {fields fields' : Payload} (h : fields.Perm fields') (hn : (keysOf fields).Nodup)
    (key : String) : fields.lookup key = fields'.lookup key := by
  have hn' : (keysOf fields').Nodup := (h.map Prod.fst).nodup_iff.mp hn
  refine Option.ext fun v => ?_
  rw [lookup_eq_some_iff_mem hn, lookup_eq_some_iff_mem hn', h.mem_iff]

theorem sortFields_perm (fields : Payload) : (sortFields fields).Perm fields :=
  List.perm_insertionSort _ _

theorem sortFields_eq_iff {fields fields' : Payload} (hn : (keysOf fields).Nodup) :
    sortFields fields = sortFields fields' ↔ fields.Perm fields' := by
  constructor
  · intro h
    exact (sortFields_perm fields).symm.trans (h ▸ sortFields_perm fields')
  · intro h
    refine Lib.Greedy.sort_eq_of_perm keyLe h fun a ha b hb hab hba => ?_
    exact List.inj_on_of_nodup_map hn ha hb (le_antisymm hab hba)

/-! ## the same value -/

/-- Two values that RFC 8785 writes alike; equality of parsed values. -/
def Same (v v' : Json) : Prop := canonical v = canonical v'

instance decidableRelSame : DecidableRel Same := fun _ _ => inferInstanceAs (Decidable (_ = _))

/-- Objects with the same keys are the same if their fields are. -/
theorem same_obj_iff {fields fields' : Payload} (hn : (keysOf fields).Nodup)
    (hn' : (keysOf fields').Nodup) (hkeys : ∀ key, key ∈ keysOf fields ↔ key ∈ keysOf fields') :
    Same (.obj fields) (.obj fields') ↔
      ∀ x ∈ fields', ∃ v, fields.lookup x.1 = some v ∧ Same v x.2 := by
  have hmap (fs : Payload) (hfs : (keysOf fs).Nodup) :
      (keysOf (canonicalFields fs)).Nodup := by
    rw [canonicalFields_eq, keysOf_map]
    exact hfs
  have hsame : Same (.obj fields) (.obj fields') ↔
      (canonicalFields fields).Perm (canonicalFields fields') := by
    unfold Same
    rw [canonical, canonical, Json.obj.injEq]
    exact sortFields_eq_iff (hmap fields hn)
  rw [hsame, canonicalFields_eq, canonicalFields_eq]
  constructor
  · intro hperm x hx
    have hmem : (x.1, canonical x.2) ∈ fields.map fun x => (x.1, canonical x.2) :=
      hperm.mem_iff.mpr (List.mem_map_of_mem hx)
    obtain ⟨y, hy, heq⟩ := List.mem_map.mp hmem
    obtain ⟨hkey, hval⟩ := Prod.mk.inj heq
    refine ⟨y.2, ?_, hval⟩
    rw [lookup_eq_some_iff_mem hn, ← hkey]
    exact hy
  · intro h
    have hnodup (fs : Payload) (hfs : (keysOf fs).Nodup) :
        (fs.map fun x => (x.1, canonical x.2)).Nodup := by
      refine List.Nodup.of_map Prod.fst ?_
      rw [List.map_map]
      exact hfs
    refine (List.perm_ext_iff_of_nodup (hnodup fields hn) (hnodup fields' hn')).mpr fun ⟨key, c⟩ => ?_
    constructor
    · intro hmem
      obtain ⟨y, hy, heq⟩ := List.mem_map.mp hmem
      cases heq
      obtain ⟨x, hx, hxy⟩ := List.mem_map.mp ((hkeys y.1).mp (List.mem_map_of_mem hy))
      obtain ⟨v, hv, hvx⟩ := h x hx
      rw [hxy, (lookup_eq_some_iff_mem hn).mpr hy] at hv
      cases hv
      exact List.mem_map.mpr ⟨x, hx, Prod.ext hxy hvx.symm⟩
    · intro hmem
      obtain ⟨x, hx, heq⟩ := List.mem_map.mp hmem
      cases heq
      obtain ⟨v, hv, hvx⟩ := h x hx
      exact List.mem_map.mpr ⟨(x.1, v), (lookup_eq_some_iff_mem hn).mp hv, Prod.ext rfl hvx⟩

theorem same_arr_iff {items items' : List Json} :
    Same (.arr items) (.arr items') ↔ items.map canonical = items'.map canonical := by
  unfold Same
  rw [canonical, canonical, Json.arr.injEq, canonicalItems_eq, canonicalItems_eq]

/-! ## what is parsed back -/

theorem keysOf_sortFields (fields : Payload) (key : String) :
    key ∈ keysOf (sortFields fields) ↔ key ∈ keysOf fields :=
  ((sortFields_perm fields).map Prod.fst).mem_iff

theorem nodup_sortFields {fields : Payload} (hn : (keysOf fields).Nodup) :
    (keysOf (sortFields fields)).Nodup :=
  ((sortFields_perm fields).map Prod.fst).nodup_iff.mpr hn

theorem lookup_wire {fields : Payload} (hn : (keysOf fields).Nodup) (key : String) :
    (sortFields (wireFields fields)).lookup key = (fields.lookup key).map wire := by
  have hwire : (keysOf (wireFields fields)).Nodup := by
    rw [wireFields_eq, keysOf_map]
    exact hn
  rw [lookup_perm (sortFields_perm _) (nodup_sortFields hwire), wireFields_eq, lookup_map]

theorem sortFields_map (f : Json → Json) (fields : Payload) :
    (sortFields fields).map (fun x => (x.1, f x.2)) = sortFields (fields.map fun x => (x.1, f x.2)) :=
  List.map_insertionSort _ _ _ fields fun _ _ _ _ => Iff.rfl

theorem sortFields_sortFields (fields : Payload) : sortFields (sortFields fields) = sortFields fields :=
  List.Pairwise.insertionSort_eq (List.pairwise_insertionSort keyLe fields)

mutual

/-- The text that is written is that of the value. -/
theorem same_wire (v : Json) : canonical (wire v) = canonical v := by
  cases v with
  | float q =>
    rw [wire]
    split
    next h =>
      exact congrArg Json.float (Rat.den_eq_one_iff q |>.mp h.1)
    next => rfl
  | arr items =>
    rw [wire, canonical, canonical, canonicalItems_wireItems items]
  | obj fields =>
    rw [wire, canonical, canonical, canonicalFields_eq, sortFields_map, sortFields_sortFields,
      ← canonicalFields_eq, canonicalFields_wireFields fields]
  | null => rfl
  | bool b => rfl
  | int i => rfl
  | str s => rfl

theorem canonicalItems_wireItems (items : List Json) :
    canonicalItems (wireItems items) = canonicalItems items := by
  cases items with
  | nil => rfl
  | cons x xs => rw [wireItems, canonicalItems, canonicalItems, same_wire x, canonicalItems_wireItems xs]

theorem canonicalFields_wireFields (fields : List (String × Json)) :
    canonicalFields (wireFields fields) = canonicalFields fields := by
  cases fields with
  | nil => rfl
  | cons x xs =>
    rw [wireFields, canonicalFields, canonicalFields, same_wire x.2, canonicalFields_wireFields xs]

end

theorem inDomain_wire_arr (items : List Json) :
    inDomain (wire (.arr items)) = items.all fun item => inDomain (wire item) := by
  rw [wire, inDomain, inDomainItems_eq, wireItems_eq, List.all_map]
  rfl

theorem inDomain_wire_obj (fields : Payload) :
    inDomain (wire (.obj fields)) = fields.all fun x => inDomain (wire x.2) := by
  rw [wire, inDomain, inDomainFields_eq, wireFields_eq, Bool.eq_iff_iff, List.all_eq_true,
    List.all_eq_true]
  constructor
  · intro h x hx
    exact h (x.1, wire x.2) ((sortFields_perm _).mem_iff.mpr (List.mem_map_of_mem hx))
  · intro h x hx
    obtain ⟨y, hy, rfl⟩ := List.mem_map.mp ((sortFields_perm _).mem_iff.mp hx)
    exact h y hy

/-- A float whose text is read back as a number that may be written again. -/
def Transportable (q : ℚ) : Prop := plain q → |q| ≤ maxInt

instance decidableTransportable : DecidablePred Transportable := fun _ =>
  inferInstanceAs (Decidable (_ → _))

theorem inDomain_wire_float (q : ℚ) : inDomain (wire (.float q)) = true ↔ Transportable q := by
  unfold Transportable
  rw [wire]
  split
  next h =>
    have hq : (q.num : ℚ) = q := Rat.den_eq_one_iff q |>.mp h.1
    rw [inDomain, decide_eq_true_iff, forall_prop_of_true h, abs_le, ← hq]
    norm_cast
  next h =>
    constructor
    · intro _ hplain
      exact absurd hplain h
    · intro _
      rfl

end AutPlay.Sona
