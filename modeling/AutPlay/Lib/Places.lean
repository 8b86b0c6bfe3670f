import Mathlib.Data.List.Basic
import Mathlib.Data.List.InsertIdx

/-!
# Places in a list

A place of a list splits it, and what happens there is said of the two parts.

* `insertIdx_append_length`, `eraseIdx_append_length`, `getElem?_append_length`     an insertion, a
                     removal and a look at the place after a prefix;
* `split_of_findIdx?`     the first place of a condition as a split;
* `findIdx?_append_length`     the split of the only element of a condition is its first place.
-/

set_option linter.unusedSectionVars false

namespace AutPlay

section
variable {α : Type*}

theorem insertIdx_append_length (xs ys : List α) (a : α) :
    (xs ++ ys).insertIdx xs.length a = xs ++ a :: ys := by
  induction xs with
  | nil => rfl
  | cons x xs ih => exact congrArg (x :: ·) ih

theorem insertIdx_eq_take_append {l : List α} {i : Nat} (h : i ≤ l.length) (a : α) :
    l.insertIdx i a = l.take i ++ a :: l.drop i := by
  have hlen : (l.take i).length = i := by
    rw [List.length_take]
    omega
  have hinsert := insertIdx_append_length (l.take i) (l.drop i) a
  rwa [List.take_append_drop, hlen] at hinsert

theorem eraseIdx_append_length (xs ys : List α) (a : α) :
    (xs ++ a :: ys).eraseIdx xs.length = xs ++ ys := by
  rw [List.eraseIdx_append_of_length_le (Nat.le_refl _), Nat.sub_self, List.eraseIdx_cons_zero]

theorem getElem?_append_length (xs ys : List α) (a : α) : (xs ++ a :: ys)[xs.length]? = some a := by
  simp

/-- A place that is there splits the list. -/
theorem split_of_getElem? {l : List α} {i : Nat} {a : α} (h : l[i]? = some a) :
    ∃ xs ys, l = xs ++ a :: ys ∧ i = xs.length := by
  obtain ⟨hlt, rfl⟩ := List.getElem?_eq_some_iff.mp h
  refine ⟨l.take i, l.drop (i + 1), ?_, ?_⟩
  · rw [List.getElem_cons_drop, List.take_append_drop]
  · rw [List.length_take]
    omega

theorem split_of_findIdx? {p : α → Bool} {l : List α} {i : Nat} (h : l.findIdx? p = some i) :
    ∃ xs a ys, l = xs ++ a :: ys ∧ p a = true ∧ i = xs.length := by
  obtain ⟨hlt, ha, -⟩ := List.findIdx?_eq_some_iff_getElem.mp h
  obtain ⟨xs, ys, hl, hi⟩ := split_of_getElem? (List.getElem?_eq_getElem hlt)
  exact ⟨xs, l[i], ys, hl, ha, hi⟩

theorem findIdx?_append_length {p : α → Bool} {xs ys : List α} {a : α} (ha : p a = true)
    (hxs : ∀ b ∈ xs, p b = false) : (xs ++ a :: ys).findIdx? p = some xs.length := by
  have hlt : xs.length < (xs ++ a :: ys).length := by simp
  refine List.findIdx?_eq_some_iff_getElem.mpr ⟨hlt, by simpa using ha, fun j hj => ?_⟩
  rw [List.getElem_append_left hj, hxs _ (List.getElem_mem hj)]
  decide

end

end AutPlay
