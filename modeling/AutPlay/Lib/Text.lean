import Mathlib.Data.List.Basic

/-!
# Texts put together with a separator

* `sep_inj`               a part without the separator is read back from the front;
* `colon_inj_of_length`   a part of known length is read back from the end;
* `numbered_inj`          a number at the end is read back.
-/

set_option linter.unusedSectionVars false

namespace AutPlay

section
variable {α : Type*} {a b x y : List α} {c : α}

/-- What stands before the first separator, and what follows it. -/
theorem sep_inj (ha : c ∉ a) (hb : c ∉ b) (h : a ++ c :: x = b ++ c :: y) : a = b ∧ x = y := by
  induction a generalizing b with
  | nil =>
    cases b with
    | nil => exact ⟨rfl, (List.cons.inj h).2⟩
    | cons d b => exact absurd (List.cons.inj h).1 fun hc => hb (hc ▸ List.mem_cons_self ..)
  | cons d a ih =>
    cases b with
    | nil => exact absurd (List.cons.inj h).1 fun hc => ha (hc ▸ List.mem_cons_self ..)
    | cons e b =>
      obtain ⟨hde, ht⟩ := List.cons.inj h
      obtain ⟨hab, hx⟩ := ih (fun hm => ha (List.mem_cons_of_mem _ hm))
        (fun hm => hb (List.mem_cons_of_mem _ hm)) ht
      exact ⟨by rw [hde, hab], hx⟩

/-- What stands before the last separator, and what follows it. -/
theorem sep_inj_right (hx : c ∉ x) (hy : c ∉ y) (h : a ++ c :: x = b ++ c :: y) :
    a = b ∧ x = y := by
  have hr := congrArg List.reverse h
  rw [List.reverse_append, List.reverse_append, List.reverse_cons, List.reverse_cons,
    List.append_assoc, List.append_assoc] at hr
  obtain ⟨hxy, hab⟩ := sep_inj (by rwa [List.mem_reverse]) (by rwa [List.mem_reverse]) hr
  exact ⟨List.reverse_inj.mp hab, List.reverse_inj.mp hxy⟩

end

/-- The texts of a name with parts between colons. -/
theorem toList_colon (s t : String) : (s ++ (":" ++ t)).toList = s.toList ++ ':' :: t.toList := by
  rw [String.toList_append, String.toList_append]
  rfl

/-- A part without colons and the rest of a name. -/
theorem colon_inj {s s' t t' : String} (hs : ':' ∉ s.toList) (hs' : ':' ∉ s'.toList)
    (h : s ++ (":" ++ t) = s' ++ (":" ++ t')) : s = s' ∧ t = t' := by
  have hl := congrArg String.toList h
  rw [toList_colon, toList_colon] at hl
  obtain ⟨h₁, h₂⟩ := sep_inj hs hs' hl
  exact ⟨String.toList_inj.mp h₁, String.toList_inj.mp h₂⟩

/-- A last part of known length. -/
theorem colon_inj_of_length {s s' t t' : String} (ht : t.toList.length = t'.toList.length)
    (h : s ++ (":" ++ t) = s' ++ (":" ++ t')) : s = s' ∧ t = t' := by
  have hl := congrArg String.toList h
  rw [toList_colon, toList_colon] at hl
  obtain ⟨h₁, h₂⟩ := List.append_inj' hl (by rw [List.length_cons, List.length_cons, ht])
  exact ⟨String.toList_inj.mp h₁, String.toList_inj.mp (List.cons.inj h₂).2⟩

/-- The decimal number at the end of a name. -/
theorem numbered_inj {s s' : String} {n n' : Nat}
    (h : s ++ ("-" ++ n.repr) = s' ++ ("-" ++ n'.repr)) : s = s' ∧ n = n' := by
  have hdash : ∀ k : Nat, '-' ∉ k.repr.toList := by
    intro k hk
    rw [Nat.toList_repr] at hk
    exact absurd (Nat.isDigit_of_mem_toDigits (by decide) (by decide) hk) (by decide)
  have hl := congrArg String.toList h
  rw [String.toList_append, String.toList_append, String.toList_append, String.toList_append] at hl
  obtain ⟨hs, hn⟩ := sep_inj_right (hdash n) (hdash n') hl
  rw [Nat.toList_repr, Nat.toList_repr] at hn
  refine ⟨String.toList_inj.mp hs, ?_⟩
  have hread := congrArg (fun cs => Nat.ofDigitChars 10 cs 0) hn
  simpa using hread

theorem string_append_cancel_left {s t t' : String} (h : s ++ t = s ++ t') : t = t' := by
  have hl := congrArg String.toList h
  rw [String.toList_append, String.toList_append] at hl
  exact String.toList_inj.mp (List.append_cancel_left hl)

end AutPlay
