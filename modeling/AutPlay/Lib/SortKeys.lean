import Mathlib.Algebra.Group.Nat.Defs
import Mathlib.Data.List.Sort
import Mathlib.Data.Nat.Basic

/-!
# Sort keys

* `digits`                    a number at a fixed width;
* `replicate_append_toDigits`     the usual text of a number, with zeros in front;
* `exists_digit_lt`           two numbers of one width differ first in a digit, which orders them;
* `insertionSort_eq_of_strict`, `isChain_insertionSort`     what is sorted already, and what sorting
                              says of neighbours; the order itself need not be one;
* `mem_take_insertionSort_iff`     the first elements in sorted order, by what precedes them.
-/

set_option linter.unusedSectionVars false

namespace AutPlay

/-! ## numbers of a fixed width -/

/-- The last `w` decimal digits of a number. -/
def digits : Nat → Nat → List Char
  | 0, _ => []
  | w + 1, n => digits w (n / 10) ++ [Nat.digitChar (n % 10)]

theorem digits_zero (w : Nat) : digits w 0 = List.replicate w '0' := by
  induction w with
  | zero => rfl
  | succ w ih =>
    rw [List.replicate_succ', ← ih]
    rfl

theorem replicate_append_toDigits {w n : Nat} (h : n < 10 ^ (w + 1)) :
    List.replicate (w + 1 - (Nat.toDigits 10 n).length) '0' ++ Nat.toDigits 10 n = digits (w + 1) n := by
  induction w generalizing n with
  | zero =>
    have hn : n < 10 := h
    rw [Nat.toDigits_of_lt_base hn]
    show [] ++ [Nat.digitChar n] = [] ++ [Nat.digitChar (n % 10)]
    rw [Nat.mod_eq_of_lt hn]
  | succ w ih =>
    by_cases hn : n < 10
    · rw [Nat.toDigits_of_lt_base hn]
      show _ = digits (w + 1) (n / 10) ++ [Nat.digitChar (n % 10)]
      rw [Nat.div_eq_of_lt hn, Nat.mod_eq_of_lt hn, digits_zero]
      rfl
    · rw [Nat.toDigits_of_base_le (by omega) (by omega)]
      show _ = digits (w + 1) (n / 10) ++ [Nat.digitChar (n % 10)]
      rw [← ih (by omega), List.length_append, List.length_singleton, ← List.append_assoc,
        Nat.add_sub_add_right]

theorem isDigit_digitChar {n : Nat} (h : n < 10) : (Nat.digitChar n).isDigit = true := by
  have hall : ∀ n < 10, (Nat.digitChar n).isDigit = true := by decide
  exact hall n h

theorem digitChar_lt {m n : Nat} (h : m < n) (hn : n < 10) : Nat.digitChar m < Nat.digitChar n := by
  have hall : ∀ n < 10, ∀ m < n, Nat.digitChar m < Nat.digitChar n := by decide
  exact hall n hn m h

theorem isDigit_of_mem_digits {w n : Nat} {c : Char} (h : c ∈ digits w n) : c.isDigit = true := by
  induction w generalizing n with
  | zero => cases h
  | succ w ih =>
    rcases List.mem_append.mp h with h | h
    · exact ih h
    · rw [List.mem_singleton.mp h]
      exact isDigit_digitChar (Nat.mod_lt _ (by omega))

theorem length_digits (w n : Nat) : (digits w n).length = w := by
  induction w generalizing n with
  | zero => rfl
  | succ w ih => rw [digits, List.length_append, ih, List.length_singleton]

/-- The first digits in which two numbers differ are in their order. -/
theorem exists_digit_lt {w m n : Nat} (h : m < n) (hn : n < 10 ^ w) :
    ∃ p c d s t, digits w m = p ++ c :: s ∧ digits w n = p ++ d :: t ∧
      (∀ x ∈ p, x.isDigit = true) ∧ c.isDigit = true ∧ d.isDigit = true ∧ c < d := by
  induction w generalizing m n with
  | zero => omega
  | succ w ih =>
    by_cases hq : m / 10 = n / 10
    · refine ⟨digits w (m / 10), Nat.digitChar (m % 10), Nat.digitChar (n % 10), [], [], rfl, ?_,
        fun x hx => isDigit_of_mem_digits hx, isDigit_digitChar (Nat.mod_lt _ (by omega)),
        isDigit_digitChar (Nat.mod_lt _ (by omega)), digitChar_lt (by omega) (Nat.mod_lt _ (by omega))⟩
      rw [hq]
      rfl
    · obtain ⟨p, c, d, s, t, hm, hn', hp, hc, hd, hlt⟩ :=
        ih (m := m / 10) (n := n / 10) (by omega) (by omega)
      refine ⟨p, c, d, s ++ [Nat.digitChar (m % 10)], t ++ [Nat.digitChar (n % 10)], ?_, ?_, hp, hc,
        hd, hlt⟩
      · rw [digits, hm, List.append_assoc, List.cons_append]
      · rw [digits, hn', List.append_assoc, List.cons_append]

/-! ## sorting with a relation that need not be an order -/

section
variable {α : Type*} (r : α → α → Prop) [DecidableRel r]

/-- An element goes between those that it does not precede and those that it does. -/
theorem orderedInsert_between {xs ys : List α} {a : α} (hxs : ∀ x ∈ xs, ¬ r a x)
    (hys : ∀ y ∈ ys, r a y) : (xs ++ ys).orderedInsert r a = xs ++ a :: ys := by
  induction xs with
  | nil =>
    cases ys with
    | nil => rfl
    | cons y ys => exact List.orderedInsert_cons_of_le r ys (hys y List.mem_cons_self)
  | cons x xs ih =>
    have hx : ¬ r a x := hxs x List.mem_cons_self
    rw [List.cons_append, List.orderedInsert_of_not_le r _ hx,
      ih fun x' hx' => hxs x' (List.mem_cons_of_mem _ hx')]
    rfl

/-- Sorting brings a list in strict order about again. -/
theorem insertionSort_eq_of_strict {l l' : List α} (hl : l.Pairwise fun a b => r a b ∧ ¬ r b a)
    (hp : l'.Perm l) : l'.insertionSort r = l := by
  induction l' generalizing l with
  | nil =>
    obtain rfl := List.nil_perm.mp hp
    rfl
  | cons a l' ih =>
    obtain ⟨xs, ys, rfl⟩ := List.append_of_mem (hp.subset List.mem_cons_self)
    obtain ⟨hxs, hys, hcross⟩ := List.pairwise_append.mp hl
    obtain ⟨ha, hys'⟩ := List.pairwise_cons.mp hys
    have hrest : l'.Perm (xs ++ ys) := (hp.trans List.perm_middle).cons_inv
    have hstrict : (xs ++ ys).Pairwise fun a b => r a b ∧ ¬ r b a :=
      List.pairwise_append.mpr ⟨hxs, hys', fun x hx y hy => hcross x hx y (List.mem_cons_of_mem _ hy)⟩
    show (l'.insertionSort r).orderedInsert r a = _
    rw [ih hstrict hrest]
    exact orderedInsert_between r (fun x hx => (hcross x hx a List.mem_cons_self).2)
      fun y hy => (ha y hy).1

theorem isChain_orderedInsert (a : α) {l : List α} (hl : l.IsChain fun a b => r a b ∨ ¬ r b a) :
    (l.orderedInsert r a).IsChain fun a b => r a b ∨ ¬ r b a := by
  induction l with
  | nil => exact .singleton a
  | cons b l ih =>
    by_cases hab : r a b
    · rw [List.orderedInsert_cons_of_le r l hab]
      exact .cons_cons (.inl hab) hl
    · rw [List.orderedInsert_of_not_le r l hab]
      cases l with
      | nil => exact .cons_cons (.inr hab) (.singleton a)
      | cons c l =>
        obtain ⟨hbc, htail⟩ := List.isChain_cons_cons.mp hl
        have hinsert := ih htail
        by_cases hac : r a c
        · rw [List.orderedInsert_cons_of_le r l hac] at hinsert ⊢
          exact .cons_cons (.inr hab) hinsert
        · rw [List.orderedInsert_of_not_le r l hac] at hinsert ⊢
          exact .cons_cons hbc hinsert

/-- No neighbour in a sorted list strictly precedes the one before it. -/
theorem isChain_insertionSort (l : List α) :
    (l.insertionSort r).IsChain fun a b => r a b ∨ ¬ r b a := by
  induction l with
  | nil => exact .nil
  | cons a l ih => exact isChain_orderedInsert r a ih

/-- In a sorted list without ties an element is among the first `n` if fewer than `n` precede it. -/
theorem mem_take_insertionSort_iff [Std.Total r] [IsTrans α r] {l : List α} (hn : l.Nodup)
    (one : ∀ a ∈ l, ∀ b ∈ l, r a b → r b a → a = b) {a : α} (ha : a ∈ l) (n : Nat) :
    a ∈ (l.insertionSort r).take n ↔ l.countP (fun b => ¬ r a b) < n := by
  have hperm := List.perm_insertionSort r l
  have hsorted := List.pairwise_insertionSort r l
  have hmem : a ∈ l.insertionSort r := hperm.mem_iff.mpr ha
  obtain ⟨xs, ys, hsplit⟩ := List.append_of_mem hmem
  rw [← hperm.countP_eq]
  have hn' : (l.insertionSort r).Nodup := hperm.nodup_iff.mpr hn
  have hin : ∀ b, b ∈ xs ++ a :: ys → b ∈ l := fun b hb => hperm.subset (hsplit ▸ hb)
  rw [hsplit] at hsorted hn' ⊢
  obtain ⟨-, hys, hcross⟩ := List.pairwise_append.mp hsorted
  obtain ⟨-, hn'', hdisjoint⟩ := List.nodup_append.mp hn'
  have hxs : xs.countP (fun b => ¬ r a b) = xs.length := by
    refine List.countP_eq_length.mpr fun b hb => decide_eq_true fun hab => ?_
    have heq := one a ha b (hin b (List.mem_append_left _ hb)) hab
      (hcross b hb a List.mem_cons_self)
    exact hdisjoint b hb a List.mem_cons_self heq.symm
  have hrest : (a :: ys).countP (fun b => ¬ r a b) = 0 := by
    refine List.countP_eq_zero.mpr fun b hb => ?_
    have hab : r a b := by
      rcases List.mem_cons.mp hb with rfl | hb
      · exact (Std.Total.total b b).elim id id
      · exact (List.pairwise_cons.mp hys).1 b hb
    simpa using hab
  rw [List.countP_append, hxs, hrest, Nat.add_zero, List.take_append]
  constructor
  · intro h
    rcases List.mem_append.mp h with h | h
    · exact absurd rfl (hdisjoint a (List.mem_of_mem_take h) a List.mem_cons_self)
    · by_contra hlong
      rw [Nat.sub_eq_zero_of_le (by omega)] at h
      cases h
  · intro h
    obtain ⟨m, hm⟩ : ∃ m, n - xs.length = m + 1 := ⟨n - xs.length - 1, by omega⟩
    rw [hm, List.take_succ_cons]
    exact List.mem_append_right _ List.mem_cons_self

end

end AutPlay
