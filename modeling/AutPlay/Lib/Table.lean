import Mathlib.Data.List.Nodup

/-!
# Tables with a primary key and a partial unique index

A `Table ρ` is a list of rows in insertion order.  Its two constraints are part of the type: the
keys are pairwise distinct, and two rows that the index covers never agree on it.

* `Table.find`      the row of a key;
* `Table.insert`    a new row at the end, refused with the constraint it violates;
* `Table.update`    the row of the same key replaced, refused when the index is violated;
* `Table.erase`     the row of a key removed;
* `Table.updateWhere`, `Table.eraseWhere`, `Table.upsert`   statements on all rows of a condition, and
                    an insertion that falls back to an update.

Each operation comes with what it does to `find` and to membership.
-/

set_option linter.unusedSectionVars false

namespace AutPlay

/-- The primary key of a row, and what a partial unique index sees of it (`none`: not covered). -/
class Schema (ρ : Type*) (κ ι : outParam (Type*)) where
  key : ρ → κ
  index : ρ → Option ι

/-- The constraint that a write would violate. -/
inductive Constraint
  | primaryKey
  | uniqueIndex
  deriving DecidableEq, Repr

/-- **A table**: no two rows share a key, no two covered rows share their index. -/
structure Table (ρ : Type*) {κ ι : Type*} [Schema ρ κ ι] where
  rows : List ρ
  nodup : (rows.map Schema.key).Nodup
  unique : ∀ r ∈ rows, ∀ r' ∈ rows, Schema.index r ≠ none → Schema.index r = Schema.index r' →
    Schema.key r = Schema.key r'

namespace Table
open Schema

section
variable {ρ κ ι : Type*} [Schema ρ κ ι]

@[ext] theorem ext {t u : Table ρ} (h : t.rows = u.rows) : t = u := by
  cases t
  cases u
  cases h
  rfl

instance : Membership ρ (Table ρ) := ⟨fun t r => r ∈ t.rows⟩

theorem mem_def {t : Table ρ} {r : ρ} : r ∈ t ↔ r ∈ t.rows := Iff.rfl

def empty : Table ρ := ⟨[], List.nodup_nil, by simp⟩

instance : Inhabited (Table ρ) := ⟨empty⟩

@[simp] theorem empty_rows : (empty : Table ρ).rows = [] := rfl

@[simp] theorem not_mem_empty (r : ρ) : r ∉ (empty : Table ρ) := List.not_mem_nil

theorem eq_of_key {t : Table ρ} {r r' : ρ} (h : r ∈ t) (h' : r' ∈ t)
    (hk : (key r : κ) = key r') : r = r' :=
  List.inj_on_of_nodup_map t.nodup h h' hk

theorem eq_of_index {t : Table ρ} {r r' : ρ} (h : r ∈ t) (h' : r' ∈ t)
    (hn : (index r : Option ι) ≠ none) (hi : (index r : Option ι) = index r') : r = r' :=
  eq_of_key h h' (t.unique r h r' h' hn hi)

end

section
variable {ρ κ ι : Type*} [Schema ρ κ ι] [DecidableEq κ]

/-- The row with key `k`. -/
def find (t : Table ρ) (k : κ) : Option ρ := t.rows.find? (fun r => key r = k)

theorem find_some {t : Table ρ} {k : κ} {r : ρ} : t.find k = some r ↔ r ∈ t ∧ key r = k := by
  constructor
  · intro h
    exact ⟨List.mem_of_find?_eq_some h, by simpa using List.find?_some h⟩
  · rintro ⟨hm, rfl⟩
    cases hf : t.find (key r) with
    | none =>
      have := List.find?_eq_none.mp hf r hm
      simp at this
    | some r' =>
      have hm' : r' ∈ t := List.mem_of_find?_eq_some hf
      have hk : key r' = key r := by simpa using List.find?_some hf
      rw [eq_of_key hm' hm hk]

theorem find_none {t : Table ρ} {k : κ} : t.find k = none ↔ ∀ r ∈ t, key r ≠ k := by
  unfold find
  rw [List.find?_eq_none]
  constructor
  · intro h r hr
    simpa using h r hr
  · intro h r hr
    simpa using h r hr

theorem find_mem {t : Table ρ} {r : ρ} (h : r ∈ t) : t.find (key r) = some r :=
  (find_some).mpr ⟨h, rfl⟩

theorem mem_of_find {t : Table ρ} {k : κ} {r : ρ} (h : t.find k = some r) : r ∈ t :=
  ((find_some).mp h).1

theorem key_of_find {t : Table ρ} {k : κ} {r : ρ} (h : t.find k = some r) : key r = k :=
  ((find_some).mp h).2

@[simp] theorem find_empty (k : κ) : (empty : Table ρ).find k = none := rfl

end

section
variable {ρ κ ι : Type*} [Schema ρ κ ι] [DecidableEq κ] [DecidableEq ι]

/-! ## insertion -/

/-- Another row of the table has the index of `r`. -/
def IndexTaken (t : Table ρ) (r : ρ) : Prop :=
  ∃ x ∈ t.rows, key x ≠ key r ∧ index r ≠ none ∧ index x = index r

instance (t : Table ρ) (r : ρ) : Decidable (t.IndexTaken r) :=
  inferInstanceAs (Decidable (∃ x ∈ t.rows, key x ≠ key r ∧ index r ≠ none ∧ index x = index r))

theorem nodup_snoc {t : Table ρ} {r : ρ} (h : t.find (key r) = none) :
    ((t.rows ++ [r]).map key).Nodup := by
  rw [List.map_append, List.nodup_append]
  refine ⟨t.nodup, by simp, ?_⟩
  intro a ha b hb
  obtain ⟨r', hr', rfl⟩ := List.mem_map.mp ha
  simp only [List.map_cons, List.map_nil, List.mem_singleton] at hb
  rw [hb]
  exact (find_none).mp h r' hr'

theorem unique_snoc {t : Table ρ} {r : ρ} (hk : t.find (key r) = none) (h : ¬ t.IndexTaken r) :
    ∀ x ∈ t.rows ++ [r], ∀ y ∈ t.rows ++ [r], index x ≠ none → index x = index y →
      key x = key y := by
  intro x hx y hy hn hi
  have hfree : ∀ z ∈ t.rows, key z ≠ key r := fun z hz => (find_none).mp hk z hz
  rw [List.mem_append, List.mem_singleton] at hx hy
  rcases hx with hx | rfl <;> rcases hy with hy | rfl
  · exact t.unique x hx y hy hn hi
  · exact absurd ⟨x, hx, hfree x hx, hi ▸ hn, hi⟩ h
  · exact absurd ⟨y, hy, hfree y hy, hn, hi.symm⟩ h
  · rfl

/-- Insert a new row at the end. -/
def insert (t : Table ρ) (r : ρ) : Except Constraint (Table ρ) :=
  if hk : t.find (key r) = none then
    if h : t.IndexTaken r then .error .uniqueIndex
    else .ok ⟨t.rows ++ [r], nodup_snoc hk, unique_snoc hk h⟩
  else .error .primaryKey

theorem insert_ok {t t' : Table ρ} {r : ρ} :
    t.insert r = .ok t' ↔
      t.find (key r) = none ∧ ¬ t.IndexTaken r ∧ t'.rows = t.rows ++ [r] := by
  unfold insert
  by_cases hk : t.find (key r) = none
  · rw [dif_pos hk]
    by_cases h : t.IndexTaken r
    · rw [dif_pos h]
      simp [h]
    · rw [dif_neg h]
      constructor
      · intro e
        injection e with e
        exact ⟨hk, h, by rw [← e]⟩
      · rintro ⟨-, -, e⟩
        exact congrArg Except.ok (ext e.symm)
  · rw [dif_neg hk]
    simp [hk]

/-- An insertion violates the index only if its key is free. -/
theorem insert_eq_uniqueIndex {t : Table ρ} {r : ρ} :
    t.insert r = .error .uniqueIndex ↔ t.find (key r) = none ∧ t.IndexTaken r := by
  unfold insert
  by_cases hk : t.find (key r) = none
  · rw [dif_pos hk]
    by_cases h : t.IndexTaken r
    · rw [dif_pos h]
      exact ⟨fun _ => ⟨hk, h⟩, fun _ => rfl⟩
    · rw [dif_neg h]
      exact ⟨nofun, fun hr => absurd hr.2 h⟩
  · rw [dif_neg hk]
    exact ⟨nofun, fun hr => absurd hr.1 hk⟩

theorem insert_isOk {t : Table ρ} {r : ρ} :
    (∃ t', t.insert r = .ok t') ↔ t.find (key r) = none ∧ ¬ t.IndexTaken r := by
  constructor
  · rintro ⟨t', h⟩
    exact ⟨((insert_ok).mp h).1, ((insert_ok).mp h).2.1⟩
  · rintro ⟨hk, h⟩
    exact ⟨⟨t.rows ++ [r], nodup_snoc hk, unique_snoc hk h⟩, (insert_ok).mpr ⟨hk, h, rfl⟩⟩

theorem mem_insert {t t' : Table ρ} {r x : ρ} (h : t.insert r = .ok t') :
    x ∈ t' ↔ x ∈ t ∨ x = r := by
  rw [mem_def, ((insert_ok).mp h).2.2, List.mem_append, List.mem_singleton]
  rfl

theorem find_insert {t t' : Table ρ} {r : ρ} (h : t.insert r = .ok t') (k : κ) :
    t'.find k = if key r = k then some r else t.find k := by
  obtain ⟨hn, -, hr⟩ := (insert_ok).mp h
  unfold find at hn ⊢
  rw [hr, List.find?_append]
  by_cases hk : key r = k
  · subst hk
    rw [hn, if_pos rfl]
    simp
  · rw [if_neg hk]
    simp [hk]

theorem filter_insert {t t' : Table ρ} {r : ρ} (h : t.insert r = .ok t') (q : ρ → Bool) :
    t'.rows.filter q = t.rows.filter q ++ if q r then [r] else [] := by
  rw [((insert_ok).mp h).2.2, List.filter_append]
  congr 1
  by_cases hq : q r = true
  · rw [if_pos hq, List.filter_cons_of_pos hq, List.filter_nil]
  · rw [if_neg hq, List.filter_cons_of_neg hq, List.filter_nil]

/-- Of the rows of a condition, an insertion adds the new one at most. -/
theorem countP_insert_new {t t' : Table ρ} {r : ρ} (h : t.insert r = .ok t') (q : ρ → Prop)
    [DecidablePred q] :
    t'.rows.countP (fun x => q x ∧ (t.find (key x)).isNone = true) = if q r then 1 else 0 := by
  obtain ⟨hn, -, hr⟩ := (insert_ok).mp h
  rw [hr, List.countP_append, List.countP_eq_zero.mpr, Nat.zero_add, List.countP_singleton]
  · by_cases hq : q r
    · rw [if_pos hq, if_pos]
      rw [hn]
      exact decide_eq_true ⟨hq, rfl⟩
    · rw [if_neg hq, if_neg]
      exact fun hnew => hq (of_decide_eq_true hnew).1
  · intro x hx hnew
    have hnone := (of_decide_eq_true hnew).2
    rw [find_mem hx] at hnone
    cases hnone

/-! ## replacement -/

/-- The rows with the one that has the key of `r` replaced by `r`. -/
def putRows (l : List ρ) (r : ρ) : List ρ :=
  l.map (fun x => if (key x : κ) = key r then r else x)

theorem map_key_putRows (l : List ρ) (r : ρ) :
    (putRows l r).map (key : ρ → κ) = l.map key := by
  unfold putRows
  rw [List.map_map]
  apply List.map_congr_left
  intro x _
  show key (if (key x : κ) = key r then r else x) = key x
  by_cases h : (key x : κ) = key r
  · rw [if_pos h, h]
  · rw [if_neg h]

theorem mem_putRows {l : List ρ} {r x : ρ} :
    x ∈ putRows l r ↔
      (x ∈ l ∧ (key x : κ) ≠ key r) ∨ (x = r ∧ ∃ y ∈ l, (key y : κ) = key r) := by
  unfold putRows
  rw [List.mem_map]
  constructor
  · rintro ⟨y, hy, e⟩
    by_cases h : (key y : κ) = key r
    · rw [if_pos h] at e
      exact Or.inr ⟨e.symm, y, hy, h⟩
    · rw [if_neg h] at e
      subst e
      exact Or.inl ⟨hy, h⟩
  · rintro (⟨hx, h⟩ | ⟨rfl, y, hy, h⟩)
    · exact ⟨x, hx, by rw [if_neg h]⟩
    · exact ⟨y, hy, by rw [if_pos h]⟩

theorem find?_putRows (l : List ρ) (r : ρ) (k : κ) :
    (putRows l r).find? (fun x => key x = k) =
      if key r = k then (l.find? (fun x => key x = k)).map (fun _ => r)
      else l.find? (fun x => key x = k) := by
  unfold putRows
  induction l with
  | nil => simp
  | cons x l ih =>
    rw [List.map_cons, List.find?_cons, List.find?_cons]
    by_cases hx : (key x : κ) = key r
    · rw [if_pos hx]
      by_cases hk : key r = k
      · simp [hk, hx]
      · have hxk : ¬ key x = k := fun e => hk (hx ▸ e)
        simp only [hk, hxk, decide_false, if_false] at ih ⊢
        exact ih
    · rw [if_neg hx]
      by_cases hxk : key x = k
      · have hk : ¬ key r = k := fun e => hx (hxk.trans e.symm)
        simp [hxk, hk]
      · simp only [hxk, decide_false]
        exact ih

theorem unique_putRows {t : Table ρ} {r : ρ} (h : ¬ t.IndexTaken r) :
    ∀ x ∈ putRows t.rows r, ∀ y ∈ putRows t.rows r, index x ≠ none → index x = index y →
      key x = key y := by
  intro x hx y hy hn hi
  rcases (mem_putRows).mp hx with ⟨mx, hxk⟩ | ⟨ex, -⟩ <;>
    rcases (mem_putRows).mp hy with ⟨my, hyk⟩ | ⟨ey, -⟩
  · exact t.unique x mx y my hn hi
  · subst ey
    exact absurd ⟨x, mx, hxk, hi ▸ hn, hi⟩ h
  · subst ex
    exact absurd ⟨y, my, hyk, hn, hi.symm⟩ h
  · rw [ex, ey]

/-- Replace the row that has the key of `r`; a table without that key is unchanged. -/
def update (t : Table ρ) (r : ρ) : Except Constraint (Table ρ) :=
  if h : t.IndexTaken r then .error .uniqueIndex
  else .ok ⟨putRows t.rows r, by rw [map_key_putRows]; exact t.nodup, unique_putRows h⟩

theorem update_ok {t t' : Table ρ} {r : ρ} :
    t.update r = .ok t' ↔ ¬ t.IndexTaken r ∧ t'.rows = putRows t.rows r := by
  unfold update
  by_cases h : t.IndexTaken r
  · rw [dif_pos h]
    simp [h]
  · rw [dif_neg h]
    constructor
    · intro e
      injection e with e
      exact ⟨h, by rw [← e]⟩
    · rintro ⟨-, e⟩
      exact congrArg Except.ok (ext e.symm)

theorem update_isOk {t : Table ρ} {r : ρ} :
    (∃ t', t.update r = .ok t') ↔ ¬ t.IndexTaken r := by
  constructor
  · rintro ⟨t', h⟩
    exact ((update_ok).mp h).1
  · intro h
    have hn : ((putRows t.rows r).map key).Nodup := by
      rw [map_key_putRows]
      exact t.nodup
    exact ⟨⟨putRows t.rows r, hn, unique_putRows h⟩, (update_ok).mpr ⟨h, rfl⟩⟩

theorem mem_update {t t' : Table ρ} {r x : ρ} (h : t.update r = .ok t') :
    x ∈ t' ↔ (x ∈ t ∧ (key x : κ) ≠ key r) ∨ (x = r ∧ ∃ y ∈ t, (key y : κ) = key r) := by
  rw [mem_def, ((update_ok).mp h).2, mem_putRows]
  rfl

theorem find_update {t t' : Table ρ} {r : ρ} (h : t.update r = .ok t') (k : κ) :
    t'.find k = if key r = k then (t.find k).map (fun _ => r) else t.find k := by
  unfold find
  rw [((update_ok).mp h).2]
  exact find?_putRows t.rows r k

/-- A replacement by a row without a property leaves no more rows with it. -/
theorem countP_update {t t' : Table ρ} {r : ρ} {p : ρ → Bool} (h : t.update r = .ok t') (hp : p r = false) :
    t'.rows.countP p ≤ t.rows.countP p := by
  rw [((update_ok).mp h).2]
  unfold putRows
  rw [List.countP_map]
  refine List.countP_mono_left fun x _ hx => ?_
  have hx : p (if (key x : κ) = key r then r else x) = true := hx
  split at hx
  · rw [hp] at hx
    cases hx
  · exact hx

/-! ## removal -/

/-- Remove the row with key `k`. -/
def erase (t : Table ρ) (k : κ) : Table ρ where
  rows := t.rows.filter (fun r => key r ≠ k)
  nodup := (List.filter_sublist.map key).nodup t.nodup
  unique := fun r hr r' hr' => t.unique r (List.mem_of_mem_filter hr) r' (List.mem_of_mem_filter hr')

end

/-! ## tables without index -/

/-- A table without index takes every update. -/
theorem update_unindexed {ρ κ : Type*} [Schema ρ κ Empty] [DecidableEq κ] (t : Table ρ) (r : ρ) :
    ∃ t', t.update r = .ok t' := by
  rw [update_isOk]
  rintro ⟨x, -, -, hn, -⟩
  cases h : (index r : Option Empty) with
  | none => exact hn h
  | some i => cases i

theorem not_indexTaken_unindexed {ρ κ : Type*} [Schema ρ κ Empty] [DecidableEq κ] (t : Table ρ)
    (r : ρ) : ¬ t.IndexTaken r :=
  (update_isOk).mp (update_unindexed t r)

theorem insert_unindexed {ρ κ : Type*} [Schema ρ κ Empty] [DecidableEq κ] (t : Table ρ) (r : ρ) :
    (∃ t', t.insert r = .ok t') ↔ t.find (key r) = none := by
  rw [insert_isOk]
  exact ⟨fun h => h.1, fun h => ⟨h, not_indexTaken_unindexed t r⟩⟩

/-! ## statements on many rows -/

section
variable {ρ κ ι : Type*} [Schema ρ κ ι]

/-- `UPDATE` of the rows of a condition, in columns that no constraint reads. -/
def updateWhere (t : Table ρ) (p : ρ → Bool) (f : ρ → ρ)
    (hk : ∀ r, key (f r) = key r := by intro _; rfl)
    (hi : ∀ r, index (f r) = index r := by intro _; rfl) : Table ρ where
  rows := t.rows.map (fun r => if p r then f r else r)
  nodup := by
    have he : ∀ r : ρ, key (if p r then f r else r) = key r := by
      intro r
      split
      · exact hk r
      · rfl
    rw [List.map_map, show key ∘ (fun r => if p r then f r else r) = (key : ρ → κ) from funext he]
    exact t.nodup
  unique := by
    have he : ∀ r : ρ, key (if p r then f r else r) = key r ∧
        index (if p r then f r else r) = index r := by
      intro r
      split
      · exact ⟨hk r, hi r⟩
      · exact ⟨rfl, rfl⟩
    intro r hr r' hr'
    obtain ⟨x, hx, rfl⟩ := List.mem_map.mp hr
    obtain ⟨y, hy, rfl⟩ := List.mem_map.mp hr'
    rw [(he x).1, (he x).2, (he y).1, (he y).2]
    exact t.unique x hx y hy

/-- `DELETE` of the rows of a condition. -/
def eraseWhere (t : Table ρ) (p : ρ → Bool) : Table ρ where
  rows := t.rows.filter (fun r => !p r)
  nodup := (List.filter_sublist.map key).nodup t.nodup
  unique := fun r hr r' hr' => t.unique r (List.mem_of_mem_filter hr) r' (List.mem_of_mem_filter hr')

variable {t : Table ρ} {p : ρ → Bool} {f : ρ → ρ} {hk : ∀ r, key (f r) = key r}
  {hi : ∀ r, index (f r) = index r} {r : ρ}

theorem updateWhere_rows :
    (t.updateWhere p f hk hi).rows = t.rows.map (fun r => if p r then f r else r) := rfl

theorem mem_updateWhere (hk : ∀ r, key (f r) = key r) (hi : ∀ r, index (f r) = index r) :
    r ∈ t.updateWhere p f hk hi ↔ ∃ x ∈ t, r = if p x then f x else x := by
  rw [mem_def, updateWhere_rows, List.mem_map]
  constructor
  · rintro ⟨x, hx, rfl⟩
    exact ⟨x, hx, rfl⟩
  · rintro ⟨x, hx, rfl⟩
    exact ⟨x, hx, rfl⟩

/-- What an update does to the rows that a condition on unchanged columns selects. -/
theorem filter_updateWhere {q : ρ → Bool} (hq : ∀ r, q (f r) = q r) :
    (t.updateWhere p f hk hi).rows.filter q =
      (t.rows.filter q).map (fun r => if p r then f r else r) := by
  rw [updateWhere_rows, List.filter_map]
  congr 2
  funext r
  show q (if p r then f r else r) = q r
  split
  · exact hq r
  · rfl

theorem eraseWhere_rows : (t.eraseWhere p).rows = t.rows.filter (fun r => !p r) := rfl

theorem mem_eraseWhere : r ∈ t.eraseWhere p ↔ r ∈ t ∧ p r = false := by
  rw [mem_def, eraseWhere_rows, List.mem_filter, Bool.not_eq_true']
  rfl

theorem find_eraseWhere [DecidableEq κ] (k : κ) :
    (t.eraseWhere p).find k = (t.find k).filter (fun r => !p r) := by
  cases hf : t.find k with
  | none =>
    refine (find_none).mpr fun r hr => ?_
    exact (find_none).mp hf r ((mem_eraseWhere).mp hr).1
  | some r =>
    cases hp : p r with
    | true =>
      have hnone : (t.eraseWhere p).find k = none := by
        refine (find_none).mpr fun r' hr' hk => ?_
        have hm := (mem_eraseWhere).mp hr'
        have heq : r' = r := eq_of_key hm.1 (mem_of_find hf) (hk.trans (key_of_find hf).symm)
        rw [heq, hp] at hm
        exact Bool.noConfusion hm.2
      rw [hnone, Option.filter_some, hp]
      rfl
    | false =>
      rw [Option.filter_some, hp]
      exact (find_some).mpr ⟨(mem_eraseWhere).mpr ⟨mem_of_find hf, hp⟩, key_of_find hf⟩

theorem find_updateWhere [DecidableEq κ] (k : κ) :
    (t.updateWhere p f hk hi).find k = (t.find k).map (fun r => if p r then f r else r) := by
  have he : ∀ r : ρ, key (if p r then f r else r) = key r := by
    intro r
    split
    · exact hk r
    · rfl
  unfold find
  rw [updateWhere_rows, List.find?_map]
  congr 2
  funext r
  exact congrArg (fun x => decide (x = k)) (he r)

end

/-- `INSERT`, or `UPDATE` of the row that has the key already; no index. -/
def upsert {ρ κ : Type*} [Schema ρ κ Empty] [DecidableEq κ] (t : Table ρ) (r : ρ) (f : ρ → ρ)
    (hk : ∀ r, key (f r) = key r := by intro _; rfl) : Table ρ :=
  if h : t.find (key r) = none then
    ⟨t.rows ++ [r], nodup_snoc h, unique_snoc h (not_indexTaken_unindexed t r)⟩
  else t.updateWhere (fun x => key x = key r) f hk (by
    intro x
    cases hx : (index (f x) : Option Empty) with
    | none =>
      cases hy : (index x : Option Empty) with
      | none => rfl
      | some i => cases i
    | some i => cases i)

/-! ## counting -/

section
variable {ρ κ : Type*} {l : List ρ} {k : ρ → κ} {f : ρ → ρ} {p : ρ → Bool} {x : κ}

/-- A change of the one row with a key makes at most one row more satisfy a condition. -/
theorem countP_map_le_succ (hn : (l.map k).Nodup) (hf : ∀ a ∈ l, k a ≠ x → f a = a) :
    (l.map f).countP p ≤ l.countP p + 1 := by
  induction l with
  | nil => exact Nat.zero_le _
  | cons a l ih =>
    have hn' := List.nodup_cons.mp hn
    rw [List.map_cons, List.countP_cons, List.countP_cons]
    by_cases ha : k a = x
    · -- no other row has the key
      have hid : l.map f = l := by
        refine (List.map_congr_left fun b hb => ?_).trans (List.map_id' l)
        refine hf b (List.mem_cons_of_mem _ hb) fun hk => hn'.1 ?_
        exact List.mem_map.mpr ⟨b, hb, hk.trans ha.symm⟩
      rw [hid]
      split
      · split
        · omega
        · omega
      · omega
    · have hsame : f a = a := hf a List.mem_cons_self ha
      have hrest := ih hn'.2 fun b hb => hf b (List.mem_cons_of_mem _ hb)
      rw [hsame]
      omega

end

end Table

end AutPlay
