import Mathlib.Data.List.Sort
import Mathlib.Data.List.Infix

/-!
# Selection in order, with caps

A list is read in order and an element is taken unless one of its keys is used up: each key may
be carried by at most `cap` of the chosen elements, and the reading stops at `limit` of them.

* `sort_eq_of_perm`      sorting forgets the order of the input when ties have one answer;
* `select_append`        the selection over a prefix goes on, or was already full;
* `length_select_le`, `select_sublist`, `count_select_le`, `select_maximal`.
-/

set_option linter.unusedSectionVars false

namespace AutPlay.Lib.Greedy

variable {α κ : Type*} [DecidableEq κ]

/-! ## sorting -/

theorem sort_eq_of_perm (r : α → α → Prop) [DecidableRel r] [Std.Total r] [IsTrans α r]
    {xs ys : List α} (h : xs.Perm ys)
    (one : ∀ a ∈ xs, ∀ b ∈ xs, r a b → r b a → a = b) :
    xs.insertionSort r = ys.insertionSort r := by
  have hx := List.perm_insertionSort r xs
  have hy := List.perm_insertionSort r ys
  refine @List.Perm.eq_of_pairwise α r _ _ ?_ (List.pairwise_insertionSort r xs)
    (List.pairwise_insertionSort r ys) (hx.trans (h.trans hy.symm))
  intro a b ha hb hab hba
  exact one a (hx.mem_iff.mp ha) b (h.mem_iff.mpr (hy.mem_iff.mp hb)) hab hba

/-! ## selection -/

/-- How many of the chosen elements carry the key. -/
def used (keys : α → List κ) (key : κ) (chosen : List α) : Nat :=
  chosen.countP fun a => decide (key ∈ keys a)

/-- Some key of the element is used up. -/
def full (keys : α → List κ) (cap : κ → Int) (chosen : List α) (a : α) : Bool :=
  (keys a).any fun key => decide (cap key ≤ (used keys key chosen : Int))

def select (keys : α → List κ) (cap : κ → Int) (limit : Nat) : List α → List α → List α
  | chosen, [] => chosen
  | chosen, a :: rest =>
    if full keys cap chosen a then select keys cap limit chosen rest
    else if (chosen ++ [a]).length = limit then chosen ++ [a]
    else select keys cap limit (chosen ++ [a]) rest

section laws
variable (keys : α → List κ) (cap : κ → Int) (limit : Nat)

theorem select_cons (chosen xs : List α) (a : α) : select keys cap limit chosen (a :: xs) =
    if full keys cap chosen a then select keys cap limit chosen xs
    else if (chosen ++ [a]).length = limit then chosen ++ [a]
    else select keys cap limit (chosen ++ [a]) xs := rfl

theorem select_picked (chosen xs : List α) :
    ∃ picked, select keys cap limit chosen xs = chosen ++ picked ∧ picked.Sublist xs := by
  induction xs generalizing chosen with
  | nil => exact ⟨[], (List.append_nil chosen).symm, List.Sublist.refl _⟩
  | cons a xs ih =>
    unfold select
    split
    · obtain ⟨picked, hp, hs⟩ := ih chosen
      exact ⟨picked, hp, hs.cons a⟩
    · split
      · exact ⟨[a], rfl, List.singleton_sublist.mpr List.mem_cons_self⟩
      · obtain ⟨picked, hp, hs⟩ := ih (chosen ++ [a])
        refine ⟨a :: picked, ?_, hs.cons_cons a⟩
        rw [hp, List.append_assoc]
        rfl

theorem select_sublist (xs : List α) : (select keys cap limit [] xs).Sublist xs := by
  obtain ⟨picked, hp, hs⟩ := select_picked keys cap limit [] xs
  rw [hp]
  exact hs

theorem length_select_le {chosen : List α} (h : chosen.length < limit) (xs : List α) :
    (select keys cap limit chosen xs).length ≤ limit := by
  induction xs generalizing chosen with
  | nil => exact h.le
  | cons a xs ih =>
    unfold select
    split
    · exact ih h
    · split
      · rename_i hl
        exact hl.le
      · rename_i hl
        apply ih
        rw [List.length_append, List.length_singleton] at hl ⊢
        omega

/-- Over a longer list the selection goes on where it stood, unless it was full. -/
theorem select_append {chosen : List α} (h : chosen.length < limit) (xs ys : List α) :
    select keys cap limit chosen (xs ++ ys) =
      if (select keys cap limit chosen xs).length = limit then select keys cap limit chosen xs
      else select keys cap limit (select keys cap limit chosen xs) ys := by
  induction xs generalizing chosen with
  | nil =>
    show select keys cap limit chosen ys = _
    rw [show select keys cap limit chosen [] = chosen from rfl, if_neg h.ne]
  | cons a xs ih =>
    rw [List.cons_append, select_cons, select_cons]
    by_cases hf : full keys cap chosen a = true
    · simp only [if_pos hf]
      exact ih h
    · by_cases hl : (chosen ++ [a]).length = limit
      · simp only [if_neg hf, if_pos hl]
      · simp only [if_neg hf, if_neg hl]
        apply ih
        rw [List.length_append, List.length_singleton] at hl ⊢
        omega

theorem used_append (key : κ) (xs ys : List α) :
    used keys key (xs ++ ys) = used keys key xs + used keys key ys :=
  List.countP_append

theorem used_singleton_le (key : κ) (a : α) : used keys key [a] ≤ 1 :=
  List.countP_le_length

theorem used_eq_zero_of_not_mem {key : κ} {a : α} (h : key ∉ keys a) : used keys key [a] = 0 := by
  unfold used
  rw [List.countP_eq_zero]
  intro b hb
  cases List.mem_singleton.mp hb
  simpa using h

theorem not_full_iff (chosen : List α) (a : α) :
    ¬ full keys cap chosen a = true ↔ ∀ key ∈ keys a, (used keys key chosen : Int) < cap key := by
  unfold full
  simp only [List.any_eq_true, decide_eq_true_eq, not_exists, not_and, not_le]

/-- One more chosen element keeps the caps. -/
theorem count_append_le {chosen : List α} {a : α} (ha : ¬ full keys cap chosen a = true)
    (h : ∀ b ∈ chosen, ∀ key ∈ keys b, (used keys key chosen : Int) ≤ cap key) :
    ∀ b ∈ chosen ++ [a], ∀ key ∈ keys b, (used keys key (chosen ++ [a]) : Int) ≤ cap key := by
  intro b hb key hk
  rw [used_append]
  by_cases hm : key ∈ keys a
  · have hroom := (not_full_iff keys cap chosen a).mp ha key hm
    have hone := used_singleton_le keys key a
    push_cast
    omega
  · rw [used_eq_zero_of_not_mem keys hm]
    rcases List.mem_append.mp hb with hb | hb
    · exact h b hb key hk
    · cases List.mem_singleton.mp hb
      exact absurd hk hm

theorem count_select_le {chosen : List α}
    (h : ∀ b ∈ chosen, ∀ key ∈ keys b, (used keys key chosen : Int) ≤ cap key) (xs : List α) :
    ∀ b ∈ select keys cap limit chosen xs, ∀ key ∈ keys b,
      (used keys key (select keys cap limit chosen xs) : Int) ≤ cap key := by
  induction xs generalizing chosen with
  | nil => exact h
  | cons a xs ih =>
    unfold select
    split
    · exact ih h
    · rename_i ha
      have hnext := count_append_le keys cap ha h
      split
      · exact hnext
      · exact ih hnext

/-- What is left out stands after the last chosen element of a full selection, or a key of it was
used up by what was chosen before it. -/
theorem select_maximal (hl : 0 < limit) (xs ys : List α) (a : α)
    (out : a ∉ select keys cap limit [] (xs ++ a :: ys)) :
    select keys cap limit [] xs <+: select keys cap limit [] (xs ++ a :: ys) ∧
      ((select keys cap limit [] xs).length = limit ∨
        full keys cap (select keys cap limit [] xs) a = true) := by
  have hgo := @select_append α κ _ keys cap limit [] hl xs (a :: ys)
  rw [hgo] at out ⊢
  by_cases hlen : (select keys cap limit [] xs).length = limit
  · rw [if_pos hlen]
    exact ⟨List.prefix_rfl, Or.inl hlen⟩
  · rw [if_neg hlen] at out ⊢
    by_cases hf : full keys cap (select keys cap limit [] xs) a = true
    · obtain ⟨picked, hp, _⟩ := select_picked keys cap limit (select keys cap limit [] xs) (a :: ys)
      exact ⟨⟨picked, hp.symm⟩, Or.inr hf⟩
    · apply absurd _ out
      rw [select_cons, if_neg hf]
      split
      · exact List.mem_append_right _ List.mem_cons_self
      · obtain ⟨picked, hp, _⟩ :=
          select_picked keys cap limit (select keys cap limit [] xs ++ [a]) ys
        rw [hp]
        exact List.mem_append_left _ (List.mem_append_right _ List.mem_cons_self)

end laws

end AutPlay.Lib.Greedy
