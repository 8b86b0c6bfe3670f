import Mathlib.Data.List.Basic

/-!
# Pages of a list

* `page size l p`        the `p`-th slice of `size` items;
* `pageCount size l`     how many slices cover the list;
* `take_succ_page`       the pages up to `p` are the items before page `p` and page `p`;
* `take_pageCount`       all the pages are the list.
-/

set_option linter.unusedSectionVars false

namespace AutPlay

section
variable {α : Type*} {size : Nat} {l : List α} {p : Nat}

def page (size : Nat) (l : List α) (p : Nat) : List α := (l.drop (p * size)).take size

def pageCount (size : Nat) (l : List α) : Nat := (l.length + size - 1) / size

theorem length_page_le : (page size l p).length ≤ size := by
  unfold page
  rw [List.length_take]
  exact Nat.min_le_left _ _

theorem page_sublist : (page size l p).Sublist l :=
  (List.take_sublist _ _).trans (List.drop_sublist _ _)

theorem take_succ_page : l.take ((p + 1) * size) = l.take (p * size) ++ page size l p := by
  unfold page
  rw [Nat.succ_mul, List.take_add]

theorem lt_pageCount (hs : 0 < size) : p < pageCount size l ↔ p * size < l.length := by
  unfold pageCount
  rw [Nat.lt_div_iff_mul_lt hs]
  have h : l.length + size - 1 - (size - 1) = l.length := by omega
  constructor
  · intro hp
    omega
  · intro hp
    omega

theorem page_ne_nil (hs : 0 < size) (hp : p < pageCount size l) : page size l p ≠ [] := by
  rw [lt_pageCount hs] at hp
  unfold page
  intro h
  have hl := congrArg List.length h
  rw [List.length_take, List.length_drop, List.length_nil] at hl
  omega

theorem pageCount_pos (hs : 0 < size) (h : l ≠ []) : 0 < pageCount size l := by
  rw [lt_pageCount hs, Nat.zero_mul]
  exact List.length_pos_iff.mpr h

theorem take_pageCount (hs : 0 < size) : l.take (pageCount size l * size) = l := by
  refine List.take_of_length_le ?_
  have h : ¬ pageCount size l < pageCount size l := Nat.lt_irrefl _
  rw [lt_pageCount hs] at h
  omega

end

end AutPlay
