import Mathlib.Data.List.Induction
import Mathlib.Algebra.Order.Ring.Nat
import Mathlib.Tactic.Ring

/-!
# Numerals of a fixed width

The digits of a number in any base, over any alphabet.

* `numeral`         the digits, the most significant first;
* `numeralValue`    the number of a list of digits;
* `numeralValue_numeral`, `numeral_numeralValue`     the one undoes the other;
* `numeral_lex`     numerals of one width are in the order of their numbers, if the digits are.
-/

set_option linter.unusedSectionVars false

namespace AutPlay

section
variable {α : Type*} (digit : Nat → α) (index : α → Nat) (base : Nat)

/-- The last `w` digits of a number. -/
def numeral : Nat → Nat → List α
  | 0, _ => []
  | w + 1, n => numeral w (n / base) ++ [digit (n % base)]

def numeralValue (cs : List α) : Nat := cs.foldl (fun total c => total * base + index c) 0

variable {digit index base} {w m n : Nat}

theorem length_numeral : (numeral digit base w n).length = w := by
  induction w generalizing n with
  | zero => rfl
  | succ w ih => rw [numeral, List.length_append, ih, List.length_singleton]

theorem numeralValue_snoc (cs : List α) (c : α) :
    numeralValue index base (cs ++ [c]) = numeralValue index base cs * base + index c := by
  unfold numeralValue
  rw [List.foldl_append]
  rfl

theorem numeralValue_numeral (hbase : 0 < base) (hindex : ∀ i < base, index (digit i) = i)
    (hn : n < base ^ w) : numeralValue index base (numeral digit base w n) = n := by
  induction w generalizing n with
  | zero =>
    rw [pow_zero, Nat.lt_one_iff] at hn
    rw [hn]
    rfl
  | succ w ih =>
    have hhigh : n / base < base ^ w := by
      rw [Nat.div_lt_iff_lt_mul hbase, ← pow_succ]
      exact hn
    rw [numeral, numeralValue_snoc, ih hhigh, hindex _ (Nat.mod_lt _ hbase), Nat.div_add_mod']

theorem numeralValue_lt {cs : List α} (h : ∀ c ∈ cs, index c < base) :
    numeralValue index base cs < base ^ cs.length := by
  induction cs using List.reverseRecOn with
  | nil => exact Nat.one_pos
  | append_singleton cs c ih =>
    have hc := h c (List.mem_append_right _ List.mem_cons_self)
    have hcs := ih fun c hc => h c (List.mem_append_left _ hc)
    rw [numeralValue_snoc, List.length_append, List.length_singleton, pow_succ]
    calc numeralValue index base cs * base + index c
        < numeralValue index base cs * base + base := Nat.add_lt_add_left hc _
      _ = (numeralValue index base cs + 1) * base := by ring
      _ ≤ base ^ cs.length * base := Nat.mul_le_mul_right _ hcs

theorem numeral_numeralValue {cs : List α} (h : ∀ c ∈ cs, index c < base ∧ digit (index c) = c) :
    numeral digit base cs.length (numeralValue index base cs) = cs := by
  induction cs using List.reverseRecOn with
  | nil => rfl
  | append_singleton cs c ih =>
    obtain ⟨hc, hdigit⟩ := h c (List.mem_append_right _ List.mem_cons_self)
    have hcs := ih fun c hc => h c (List.mem_append_left _ hc)
    have hbase : 0 < base := lt_of_le_of_lt (Nat.zero_le _) hc
    rw [numeralValue_snoc, List.length_append, List.length_singleton, numeral, Nat.mul_comm,
      Nat.mul_add_div hbase, Nat.div_eq_of_lt hc, Nat.add_zero, hcs, Nat.mul_add_mod,
      Nat.mod_eq_of_lt hc, hdigit]

/-! ## the order -/

theorem lex_append {r : α → α → Prop} {cs ds : List α} (h : List.Lex r cs ds)
    (hlen : cs.length = ds.length) (es fs : List α) : List.Lex r (cs ++ es) (ds ++ fs) := by
  induction h with
  | nil => cases hlen
  | cons _ ih => exact .cons (ih (Nat.succ.inj hlen))
  | rel h => exact .rel h

theorem lex_prefix {r : α → α → Prop} {es fs : List α} (h : List.Lex r es fs) (cs : List α) :
    List.Lex r (cs ++ es) (cs ++ fs) := by
  induction cs with
  | nil => exact h
  | cons c cs ih => exact .cons ih

theorem numeral_lex {r : α → α → Prop} (hdigit : ∀ j < base, ∀ i < j, r (digit i) (digit j))
    (h : m < n) (hn : n < base ^ w) :
    List.Lex r (numeral digit base w m) (numeral digit base w n) := by
  induction w generalizing m n with
  | zero =>
    rw [pow_zero, Nat.lt_one_iff] at hn
    omega
  | succ w ih =>
    have hbase : 0 < base := by
      by_contra hzero
      rw [Nat.eq_zero_of_not_pos hzero, pow_succ, Nat.mul_zero] at hn
      omega
    have hhigh : n / base < base ^ w := by
      rw [Nat.div_lt_iff_lt_mul hbase, ← pow_succ]
      exact hn
    rw [numeral, numeral]
    rcases Nat.lt_or_eq_of_le (Nat.div_le_div_right (c := base) h.le) with hlt | heq
    · exact lex_append (ih hlt hhigh) (by rw [length_numeral, length_numeral]) _ _
    · -- the last digits decide
      rw [heq]
      refine lex_prefix (.rel (hdigit _ (Nat.mod_lt _ hbase) _ ?_)) _
      have hm := Nat.div_add_mod m base
      have hn := Nat.div_add_mod n base
      rw [heq] at hm
      omega

end

end AutPlay
