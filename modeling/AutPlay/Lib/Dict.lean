import Mathlib.Algebra.GroupWithZero.Nat
import AutPlay.Lib.Result
import Mathlib.Data.List.Nodup

/-!
# Dictionaries

A `Dict κ α` is a list of entries in insertion order, no two of one key.

* `Dict.get?`, `Dict.has`    what stands at a key, and whether anything does;
* `Dict.set`                 the entry of a key replaced, or a new one at the end;
* `Dict.filter`              a comprehension over the entries;
* `Dict.count`, `Dict.sum`   the entries whose values meet a condition, and a measure added up;
* `Dict.mapValues`, `Dict.mapM`   every value changed, by a function that may fail;
* `get?_eq_some`             the entries are what `get?` finds: each operation's lemma rests on it.
-/

set_option linter.unusedSectionVars false

namespace AutPlay

/-- **A dictionary**: its keys are pairwise distinct. -/
structure Dict (κ α : Type*) where
  items : List (κ × α)
  nodup : (items.map Prod.fst).Nodup
  deriving DecidableEq

namespace Dict

section
variable {κ α β ε : Type*}

def empty : Dict κ α := ⟨[], List.nodup_nil⟩

instance : Inhabited (Dict κ α) := ⟨empty⟩

theorem eq_of_mem {d : Dict κ α} {k : κ} {v w : α} (hv : (k, v) ∈ d.items)
    (hw : (k, w) ∈ d.items) : v = w := by
  have h : (k, v) = (k, w) := List.inj_on_of_nodup_map d.nodup hv hw rfl
  exact congrArg Prod.snd h

def filter (d : Dict κ α) (p : κ → α → Bool) : Dict κ α where
  items := d.items.filter fun e => p e.1 e.2
  nodup := d.nodup.sublist (List.filter_sublist.map Prod.fst)

def mapValues (d : Dict κ α) (f : α → β) : Dict κ β where
  items := d.items.map fun e => (e.1, f e.2)
  nodup := by
    rw [List.map_map]
    exact d.nodup

end

section
variable {κ α β : Type*} {ε : Type}

/-- One entry of `mapM`. -/
def mapEntry (f : κ → α → Except ε β) (e : κ × α) : Except ε (κ × β) :=
  (f e.1 e.2).map fun b => (e.1, b)

theorem mapEntry_eq_ok {f : κ → α → Except ε β} {e : κ × α} {e' : κ × β} :
    mapEntry f e = .ok e' ↔ e'.1 = e.1 ∧ f e.1 e.2 = .ok e'.2 := by
  obtain ⟨k', b'⟩ := e'
  unfold mapEntry
  cases hf : f e.1 e.2 with
  | error err => simp [Except.map]
  | ok b => simp [Except.map, eq_comm]

end

section
variable {κ : Type} {α β : Type} {ε : Type}

theorem mapEntry_keys {f : κ → α → Except ε β} {items : List (κ × α)} {items' : List (κ × β)}
    (h : items.mapM (mapEntry f) = .ok items') : items'.map Prod.fst = items.map Prod.fst :=
  Result.map_eq_of_mapM h fun _ _ _ he => ((mapEntry_eq_ok).mp he).1

/-- Every value changed in its place, or the first failure. -/
def mapM (d : Dict κ α) (f : κ → α → Except ε β) : Except ε (Dict κ β) :=
  match h : d.items.mapM (mapEntry f) with
  | .error e => .error e
  | .ok items => .ok ⟨items, by
      rw [mapEntry_keys h]
      exact d.nodup⟩

theorem mapM_eq_ok {d : Dict κ α} {d' : Dict κ β} {f : κ → α → Except ε β} :
    d.mapM f = .ok d' ↔ d.items.mapM (mapEntry f) = .ok d'.items := by
  unfold mapM
  constructor
  · intro h
    split at h
    · cases h
    · rename_i items hitems
      cases h
      exact hitems
  · intro h
    split
    · rename_i e he
      rw [he] at h
      cases h
    · rename_i items hitems
      rw [hitems] at h
      cases h
      rfl

end

section
variable {κ α β : Type*} [DecidableEq κ]

def get? (d : Dict κ α) (k : κ) : Option α :=
  (d.items.find? fun e => e.1 = k).map Prod.snd

def has (d : Dict κ α) (k : κ) : Bool := (d.get? k).isSome

theorem get?_eq_some {d : Dict κ α} {k : κ} {v : α} : d.get? k = some v ↔ (k, v) ∈ d.items := by
  unfold get?
  constructor
  · intro h
    obtain ⟨e, he, rfl⟩ := Option.map_eq_some_iff.mp h
    have hk : e.1 = k := by simpa using List.find?_some he
    rw [← hk]
    exact List.mem_of_find?_eq_some he
  · intro h
    cases hf : d.items.find? fun e => e.1 = k with
    | none =>
      have hne := List.find?_eq_none.mp hf (k, v) h
      exact absurd (decide_eq_true rfl) hne
    | some e =>
      have hk : e.1 = k := by simpa using List.find?_some hf
      have hmem := List.mem_of_find?_eq_some hf
      rw [← Prod.eta e, hk] at hmem
      rw [Option.map_some, eq_of_mem h hmem]

theorem has_iff {d : Dict κ α} {k : κ} : d.has k = true ↔ ∃ v, d.get? k = some v := by
  unfold has
  exact Option.isSome_iff_exists

@[simp] theorem get?_empty (k : κ) : (empty : Dict κ α).get? k = none := rfl

theorem get?_filter (d : Dict κ α) (p : κ → α → Bool) (k : κ) :
    (d.filter p).get? k = (d.get? k).filter (p k) := by
  apply Option.ext
  intro v
  rw [get?_eq_some, Option.filter_eq_some_iff, get?_eq_some]
  exact List.mem_filter

theorem get?_mapValues (d : Dict κ α) (f : α → β) (k : κ) :
    (d.mapValues f).get? k = (d.get? k).map f := by
  apply Option.ext
  intro v
  rw [get?_eq_some, Option.map_eq_some_iff]
  constructor
  · intro h
    obtain ⟨e, he, heq⟩ := List.mem_map.mp h
    cases heq
    exact ⟨e.2, (get?_eq_some).mpr he, rfl⟩
  · rintro ⟨a, ha, rfl⟩
    exact List.mem_map.mpr ⟨(k, a), (get?_eq_some).mp ha, rfl⟩

theorem has_mapValues (d : Dict κ α) (f : α → β) (k : κ) : (d.mapValues f).has k = d.has k := by
  unfold has
  rw [get?_mapValues, Option.isSome_map]

/-- The entry of `k` holds `v` now, where there is one. -/
def replaced (k : κ) (v : α) (e : κ × α) : κ × α := if e.1 = k then (k, v) else e

theorem replaced_fst (k : κ) (v : α) (e : κ × α) : (replaced k v e).1 = e.1 := by
  unfold replaced
  split
  · rename_i h
    exact h.symm
  · rfl

def set (d : Dict κ α) (k : κ) (v : α) : Dict κ α :=
  if h : k ∈ d.items.map Prod.fst then
    ⟨d.items.map (replaced k v), by
      rw [List.map_map, show Prod.fst ∘ replaced k v = Prod.fst from funext (replaced_fst k v)]
      exact d.nodup⟩
  else
    ⟨d.items ++ [(k, v)], by
      rw [List.map_append, List.nodup_append]
      refine ⟨d.nodup, List.nodup_singleton k, ?_⟩
      intro a ha b hb hab
      rw [List.map_singleton, List.mem_singleton] at hb
      rw [hab, hb] at ha
      exact h ha⟩

theorem mem_set {d : Dict κ α} {k k' : κ} {v w : α} :
    (k', w) ∈ (d.set k v).items ↔ if k' = k then w = v else (k', w) ∈ d.items := by
  unfold set
  split
  · rename_i hin
    rw [List.mem_map]
    split
    · rename_i hk
      subst hk
      constructor
      · rintro ⟨e, _, heq⟩
        have hfst : e.1 = k' := by rw [← replaced_fst k' v e, heq]
        unfold replaced at heq
        rw [if_pos hfst] at heq
        exact (congrArg Prod.snd heq).symm
      · rintro rfl
        obtain ⟨e, he, hfst⟩ := List.mem_map.mp hin
        refine ⟨e, he, ?_⟩
        unfold replaced
        rw [if_pos hfst]
    · rename_i hk
      constructor
      · rintro ⟨e, he, heq⟩
        have hfst : e.1 = k' := by rw [← replaced_fst k v e, heq]
        unfold replaced at heq
        rw [if_neg (by rw [hfst]; exact hk)] at heq
        rw [← heq]
        exact he
      · intro h
        refine ⟨(k', w), h, ?_⟩
        unfold replaced
        rw [if_neg hk]
  · rename_i hnew
    rw [List.mem_append, List.mem_singleton, Prod.mk.injEq]
    split
    · rename_i hk
      subst hk
      constructor
      · rintro (h | h)
        · exact absurd (List.mem_map.mpr ⟨_, h, rfl⟩) hnew
        · exact h.2
      · intro h
        exact Or.inr ⟨rfl, h⟩
    · rename_i hk
      constructor
      · rintro (h | h)
        · exact h
        · exact absurd h.1 hk
      · exact Or.inl

theorem get?_set (d : Dict κ α) (k k' : κ) (v : α) :
    (d.set k v).get? k' = if k' = k then some v else d.get? k' := by
  apply Option.ext
  intro w
  rw [get?_eq_some, mem_set]
  split
  · rw [Option.some.injEq, eq_comm]
  · rw [get?_eq_some]

theorem get?_set_self (d : Dict κ α) (k : κ) (v : α) : (d.set k v).get? k = some v := by
  rw [get?_set, if_pos rfl]

theorem get?_set_ne (d : Dict κ α) {k k' : κ} (v : α) (h : k' ≠ k) :
    (d.set k v).get? k' = d.get? k' := by
  rw [get?_set, if_neg h]

/-- A new entry stands last. -/
theorem items_set_of_none {d : Dict κ α} {k : κ} {v : α} (h : d.get? k = none) :
    (d.set k v).items = d.items ++ [(k, v)] := by
  have hnew : k ∉ d.items.map Prod.fst := by
    intro hmem
    obtain ⟨e, he, rfl⟩ := List.mem_map.mp hmem
    rw [(get?_eq_some).mpr he] at h
    cases h
  unfold set
  rw [dif_neg hnew]

end

/-! ## counting -/

section
variable {κ α : Type*}

/-- The entries whose values meet a condition. -/
def count (d : Dict κ α) (p : α → Bool) : Nat := d.items.countP fun e => p e.2

end

section
variable {κ α : Type*} [DecidableEq κ]

theorem map_replaced_of_not_mem {items : List (κ × α)} {k : κ} {v : α}
    (h : k ∉ items.map Prod.fst) : items.map (replaced k v) = items := by
  refine (List.map_congr_left fun e he => ?_).trans (List.map_id' items)
  unfold replaced
  rw [if_neg]
  intro hk
  exact h (List.mem_map.mpr ⟨e, he, hk⟩)

theorem countP_replaced {items : List (κ × α)} {k : κ} {v w : α} {p : α → Bool}
    (hn : (items.map Prod.fst).Nodup) (hm : (k, w) ∈ items) :
    (items.map (replaced k v)).countP (fun e => p e.2) + (p w).toNat =
      items.countP (fun e => p e.2) + (p v).toNat := by
  induction items with
  | nil => exact absurd hm List.not_mem_nil
  | cons e items ih =>
    have hn' := List.nodup_cons.mp hn
    rw [List.map_cons, List.countP_cons, List.countP_cons]
    rcases List.mem_cons.mp hm with rfl | hm
    · -- no other entry has the key
      have hfirst : replaced k v (k, w) = (k, v) := if_pos rfl
      rw [map_replaced_of_not_mem hn'.1, hfirst]
      cases p w <;> cases p v <;> simp
    · have hne : e.1 ≠ k := by
        intro he
        exact hn'.1 (List.mem_map.mpr ⟨(k, w), hm, he.symm⟩)
      have hsame : replaced k v e = e := if_neg hne
      rw [hsame]
      have hrest := ih hn'.2 hm
      omega

/-- A value that meets the condition is counted. -/
theorem count_pos {d : Dict κ α} {k : κ} {v : α} {p : α → Bool} (h : d.get? k = some v)
    (hv : p v = true) : 0 < d.count p :=
  List.countP_pos_iff.mpr ⟨(k, v), (get?_eq_some).mp h, hv⟩

/-- What a new value at a key does to the count. -/
theorem count_set (d : Dict κ α) (k : κ) (v : α) (p : α → Bool) :
    (d.set k v).count p + ((d.get? k).any p).toNat = d.count p + (p v).toNat := by
  unfold count set
  split
  · rename_i hin
    obtain ⟨e, he, rfl⟩ := List.mem_map.mp hin
    have hget : d.get? e.1 = some e.2 := (get?_eq_some).mpr he
    rw [hget]
    exact countP_replaced d.nodup he
  · rename_i hnew
    have hget : d.get? k = none := by
      cases h : d.get? k with
      | none => rfl
      | some w => exact absurd (List.mem_map.mpr ⟨(k, w), (get?_eq_some).mp h, rfl⟩) hnew
    rw [hget, List.countP_append, List.countP_singleton]
    cases p v <;> rfl

/-! ### sums -/

/-- A measure of the values, added up. -/
def sum (d : Dict κ α) (f : α → Nat) : Nat := (d.items.map fun e => f e.2).sum

theorem sum_replaced {items : List (κ × α)} {k : κ} {v w : α} {f : α → Nat}
    (hn : (items.map Prod.fst).Nodup) (hm : (k, w) ∈ items) :
    ((items.map (replaced k v)).map fun e => f e.2).sum + f w = (items.map fun e => f e.2).sum + f v := by
  induction items with
  | nil => exact absurd hm List.not_mem_nil
  | cons e items ih =>
    have hn' := List.nodup_cons.mp hn
    rw [List.map_cons, List.map_cons, List.map_cons, List.sum_cons, List.sum_cons]
    rcases List.mem_cons.mp hm with rfl | hm
    · have hfirst : replaced k v (k, w) = (k, v) := if_pos rfl
      rw [map_replaced_of_not_mem hn'.1, hfirst]
      dsimp only
      omega
    · have hne : e.1 ≠ k := by
        intro he
        exact hn'.1 (List.mem_map.mpr ⟨(k, w), hm, he.symm⟩)
      have hsame : replaced k v e = e := if_neg hne
      rw [hsame]
      have hrest := ih hn'.2 hm
      omega

/-- What a new value at a key does to the sum. -/
theorem sum_set (d : Dict κ α) (k : κ) (v : α) (f : α → Nat) :
    (d.set k v).sum f + ((d.get? k).map f).getD 0 = d.sum f + f v := by
  unfold sum set
  split
  · rename_i hin
    obtain ⟨e, he, rfl⟩ := List.mem_map.mp hin
    have hget : d.get? e.1 = some e.2 := (get?_eq_some).mpr he
    rw [hget]
    exact sum_replaced d.nodup he
  · rename_i hnew
    have hget : d.get? k = none := by
      cases h : d.get? k with
      | none => rfl
      | some w => exact absurd (List.mem_map.mpr ⟨(k, w), (get?_eq_some).mp h, rfl⟩) hnew
    rw [hget, List.map_append, List.sum_append]
    rfl

end

section
variable {κ : Type} {α β : Type} {ε : Type} [DecidableEq κ]

/-- What stands in the result was made from what stood there. -/
theorem get?_mapM {d : Dict κ α} {d' : Dict κ β} {f : κ → α → Except ε β}
    (h : d.mapM f = .ok d') {k : κ} {b : β} (hb : d'.get? k = some b) :
    ∃ a, d.get? k = some a ∧ f k a = .ok b := by
  obtain ⟨e, he, hf⟩ := Result.mem_of_mapM ((mapM_eq_ok).mp h) ((get?_eq_some).mp hb)
  obtain ⟨hk, hv⟩ := (mapEntry_eq_ok).mp hf
  dsimp only at hk hv
  subst hk
  exact ⟨e.2, (get?_eq_some).mpr he, hv⟩

theorem has_mapM {d : Dict κ α} {d' : Dict κ β} {f : κ → α → Except ε β}
    (h : d.mapM f = .ok d') (k : κ) : d'.has k = true ↔ d.has k = true := by
  have hkeys := mapEntry_keys ((mapM_eq_ok).mp h)
  have key_iff {γ : Type} (c : Dict κ γ) : c.has k = true ↔ k ∈ c.items.map Prod.fst := by
    rw [has_iff, List.mem_map]
    constructor
    · rintro ⟨v, hv⟩
      exact ⟨(k, v), (get?_eq_some).mp hv, rfl⟩
    · rintro ⟨e, he, rfl⟩
      exact ⟨e.2, (get?_eq_some).mpr he⟩
  rw [key_iff, key_iff, hkeys]

/-- Values that are made from themselves stay. -/
theorem mapM_mapValues {d : Dict κ β} {g : β → α} {f : κ → α → Except ε β}
    (h : ∀ k b, d.get? k = some b → f k (g b) = .ok b) : (d.mapValues g).mapM f = .ok d := by
  rw [mapM_eq_ok]
  have hall : ∀ e ∈ d.items, mapEntry f (e.1, g e.2) = .ok e := by
    intro e he
    exact (mapEntry_eq_ok).mpr ⟨rfl, h e.1 e.2 ((get?_eq_some).mpr he)⟩
  show (d.items.map fun e => (e.1, g e.2)).mapM (mapEntry f) = .ok d.items
  generalize d.items = items at hall
  induction items with
  | nil => rfl
  | cons e items ih =>
    rw [List.map_cons, List.mapM_cons, hall e List.mem_cons_self,
      ih fun e' he' => hall e' (List.mem_cons_of_mem _ he')]
    rfl

end

end Dict

end AutPlay
