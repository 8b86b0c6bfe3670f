import Mathlib.Data.List.Basic
import Mathlib.Data.List.TakeWhile

/-!
# Python texts

A text as its code points, with what the code asks of them.

* `isSpace`, `strip`     whitespace, and a text without it at the ends;
* `pyInt`                `int(text)`: whitespace, a sign, underscores and digits of every script;
* `Digits`, `digitsValue`     ASCII digits, which `int` reads as they stand up to a length.

What Unicode says of the code points beyond ASCII is a parameter.
-/

set_option linter.unusedSectionVars false

namespace AutPlay.PyText

/-- A text as its code points. -/
abbrev Points := List Nat

/-- What Unicode says of the code points beyond ASCII: which are spaces, and the digits. -/
structure Unicode where
  isSpace : Nat → Bool
  decimal : Nat → Option Nat

def point (c : Char) : Nat := c.toNat

/-- `str.isspace` -/
def isSpace (u : Unicode) (c : Nat) : Bool :=
  if c < 127 then decide ((9 ≤ c ∧ c ≤ 13) ∨ (28 ≤ c ∧ c ≤ 32)) else u.isSpace c

/-- `str.strip()` -/
def strip (u : Unicode) (s : Points) : Points :=
  ((s.dropWhile (isSpace u)).reverse.dropWhile (isSpace u)).reverse

/-- A number becomes ASCII before it is read. -/
def toAscii (u : Unicode) (c : Nat) : Nat :=
  if c < 127 then c
  else if u.isSpace c then point ' '
  else match u.decimal c with
    | some d => point '0' + d
    | none => point '?'

def asciiSpace (c : Nat) : Bool := decide ((9 ≤ c ∧ c ≤ 13) ∨ c = point ' ')

def IsDigit (c : Nat) : Prop := point '0' ≤ c ∧ c ≤ point '9'

instance : DecidablePred IsDigit := fun c => inferInstanceAs (Decidable (point '0' ≤ c ∧ c ≤ point '9'))

def digitsValue (ds : Points) : Nat := ds.foldl (fun n c => n * 10 + (c - point '0')) 0

/-- `sys.get_int_max_str_digits()` -/
def maxStrDigits : Nat := 4300

/-- Digits with single underscores between them. -/
def WellSpaced (s : Points) : Prop :=
  s ≠ [] ∧ s.head? ≠ some (point '_') ∧ s.getLast? ≠ some (point '_') ∧
    ¬ [point '_', point '_'] <:+: s

instance (s : Points) : Decidable (WellSpaced s) :=
  inferInstanceAs (Decidable (s ≠ [] ∧ s.head? ≠ some (point '_') ∧ s.getLast? ≠ some (point '_') ∧
    ¬ [point '_', point '_'] <:+: s))

/-- The digits of a number, its sign being read. -/
def unsignedInt (s : Points) : Option Nat :=
  let digits := s.takeWhile fun c => IsDigit c ∨ c = point '_'
  let rest := s.dropWhile fun c => IsDigit c ∨ c = point '_'
  if ¬ WellSpaced digits then none
  else if rest.dropWhile asciiSpace ≠ [] then none
  else if (digits.filter fun c => IsDigit c).length > maxStrDigits then none
  else some (digitsValue (digits.filter fun c => IsDigit c))

/-- `int(text)`; `none` is a `ValueError`. -/
def pyInt (u : Unicode) (s : Points) : Option Int :=
  match (s.map (toAscii u)).dropWhile asciiSpace with
  | [] => none
  | c :: s =>
    if c = point '-' then (unsignedInt s).map fun n => -Int.ofNat n
    else if c = point '+' then (unsignedInt s).map Int.ofNat
    else (unsignedInt (c :: s)).map Int.ofNat

/-- One ASCII digit or more. -/
def Digits (s : Points) : Prop := s ≠ [] ∧ ∀ c ∈ s, IsDigit c

instance (s : Points) : Decidable (Digits s) := inferInstanceAs (Decidable (s ≠ [] ∧ ∀ c ∈ s, IsDigit c))

section
variable {u : Unicode} {s : Points} {c : Nat}

theorem toAscii_of_digit (h : IsDigit c) : toAscii u c = c := by
  refine if_pos ?_
  have h9 : point '9' = 57 := rfl
  have hle := h.2
  omega

theorem map_toAscii (h : ∀ c ∈ s, IsDigit c) : s.map (toAscii u) = s :=
  (List.map_congr_left fun c hc => toAscii_of_digit (h c hc)).trans (List.map_id'' (fun _ => rfl) s)

theorem asciiSpace_of_digit (h : IsDigit c) : asciiSpace c = false := by
  have h0 : point '0' = 48 := rfl
  have hs : point ' ' = 32 := rfl
  have hle := h.1
  unfold asciiSpace
  rw [decide_eq_false_iff_not]
  omega

theorem takeWhile_digits (h : ∀ c ∈ s, IsDigit c) :
    (s.takeWhile fun c => IsDigit c ∨ c = point '_') = s := by
  rw [List.takeWhile_eq_self_iff]
  exact fun c hc => decide_eq_true (Or.inl (h c hc))

theorem dropWhile_digits (h : ∀ c ∈ s, IsDigit c) :
    (s.dropWhile fun c => IsDigit c ∨ c = point '_') = [] := by
  rw [List.dropWhile_eq_nil_iff]
  exact fun c hc => decide_eq_true (Or.inl (h c hc))

theorem filter_digits (h : ∀ c ∈ s, IsDigit c) : (s.filter fun c => IsDigit c) = s :=
  List.filter_eq_self.mpr fun c hc => decide_eq_true (h c hc)

theorem digit_ne {c' : Nat} (h : IsDigit c) (h' : ¬ IsDigit c') : c ≠ c' := by
  rintro rfl
  exact h' h

theorem wellSpaced_digits (h : Digits s) : WellSpaced s := by
  have hne : ∀ c ∈ s, c ≠ point '_' := fun c hc => digit_ne (h.2 c hc) (by decide)
  refine ⟨h.1, fun hhead => ?_, fun hlast => ?_, fun hpair => ?_⟩
  · exact hne _ (List.mem_of_mem_head? hhead) rfl
  · exact hne _ (List.mem_of_mem_getLast? hlast) rfl
  · exact hne _ (hpair.subset List.mem_cons_self) rfl

theorem unsignedInt_digits (h : Digits s) :
    unsignedInt s = if s.length > maxStrDigits then none else some (digitsValue s) := by
  unfold unsignedInt
  dsimp only
  rw [takeWhile_digits h.2, dropWhile_digits h.2, filter_digits h.2, if_neg (not_not.mpr (wellSpaced_digits h)),
    if_neg (not_not.mpr List.dropWhile_nil)]

/-- ASCII digits are read as they stand, up to the length that Python reads. -/
theorem pyInt_digits (h : Digits s) :
    pyInt u s = if s.length > maxStrDigits then none else some (digitsValue s : Int) := by
  unfold pyInt
  rw [map_toAscii h.2]
  cases s with
  | nil => exact absurd rfl h.1
  | cons c s =>
    have hc := h.2 c List.mem_cons_self
    rw [List.dropWhile_cons_of_neg (by rw [asciiSpace_of_digit hc]; nofun)]
    dsimp only
    rw [if_neg (digit_ne hc (by decide)), if_neg (digit_ne hc (by decide)), unsignedInt_digits h]
    split
    · rfl
    · rfl

theorem pyInt_nil : pyInt u [] = none := rfl

/-- What is no whitespace stays. -/
theorem mem_strip (h : c ∈ s) (hc : isSpace u c = false) : c ∈ strip u s := by
  have hdrop {s : Points} (h : c ∈ s) : c ∈ s.dropWhile (isSpace u) := by
    induction s with
    | nil => exact h
    | cons d s ih =>
      by_cases hd : isSpace u d = true
      · rw [List.dropWhile_cons_of_pos hd]
        rcases List.mem_cons.mp h with rfl | h
        · rw [hd] at hc
          cases hc
        · exact ih h
      · rwa [List.dropWhile_cons_of_neg hd]
  unfold strip
  exact List.mem_reverse.mpr (hdrop (List.mem_reverse.mpr (hdrop h)))

end

end AutPlay.PyText
