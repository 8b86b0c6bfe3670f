import Mathlib.Data.List.Nodup
import Mathlib.Logic.Function.Basic

/-!
# A table that a log tells

An entry of a log is about a key, and tells what stands there from what stood there before.

* `replay`              the table that a log leaves;
* `replay_cases`        what stands at a key was there at the start, or an entry told it;
* `replay_nodup`        a log with one entry for a key;
* `replay_filter`       entries about other keys do not matter.
-/

namespace AutPlay.Replay

section
variable {ε κ σ : Type*} [DecidableEq κ] (about : ε → κ) (tell : Option σ → ε → σ)

def replay (table : κ → Option σ) (log : List ε) : κ → Option σ :=
  log.foldl (fun table e => Function.update table (about e) (some (tell (table (about e)) e))) table

variable {about tell} {table table' : κ → Option σ} {log log' : List ε} {k : κ}

theorem replay_cons (e : ε) : replay about tell table (e :: log) =
    replay about tell (Function.update table (about e) (some (tell (table (about e)) e))) log := rfl

theorem replay_append : replay about tell table (log ++ log') =
    replay about tell (replay about tell table log) log' := List.foldl_append ..

theorem replay_other (h : ∀ e ∈ log, about e ≠ k) : replay about tell table log k = table k := by
  induction log generalizing table with
  | nil => rfl
  | cons e log ih =>
    rw [replay_cons, ih fun x hx => h x (List.mem_cons_of_mem e hx)]
    exact Function.update_of_ne (h e List.mem_cons_self).symm _ _

theorem replay_congr (h : table k = table' k) : replay about tell table log k = replay about tell table' log k := by
  induction log generalizing table table' with
  | nil => exact h
  | cons e log ih =>
    rw [replay_cons, replay_cons]
    refine ih ?_
    by_cases he : k = about e
    · subst he
      rw [Function.update_self, Function.update_self, h]
    · rw [Function.update_of_ne he, Function.update_of_ne he, h]

/-- What stands at a key is what stood there, or what an entry about it told. -/
theorem replay_cases (about : ε → κ) (tell : Option σ → ε → σ) (table : κ → Option σ) (log : List ε) (k : κ) :
    replay about tell table log k = table k ∨
      ∃ e ∈ log, about e = k ∧ ∃ old, replay about tell table log k = some (tell old e) := by
  induction log generalizing table with
  | nil => exact .inl rfl
  | cons e log ih =>
    rw [replay_cons]
    rcases ih (Function.update table (about e) (some (tell (table (about e)) e))) with h | ⟨x, hx, hk, old, h⟩
    · by_cases he : k = about e
      · refine .inr ⟨e, List.mem_cons_self, he.symm, table (about e), ?_⟩
        rw [h, he, Function.update_self]
      · rw [h, Function.update_of_ne he]
        exact .inl rfl
    · exact .inr ⟨x, List.mem_cons_of_mem e hx, hk, old, h⟩

theorem replay_isSome {e : ε} (he : e ∈ log) (hk : about e = k) : (replay about tell table log k).isSome := by
  induction log generalizing table with
  | nil => exact absurd he List.not_mem_nil
  | cons x log ih =>
    rw [replay_cons]
    rcases List.mem_cons.mp he with rfl | he
    · rcases replay_cases about tell (Function.update table (about e) (some (tell (table (about e)) e))) log k with
        h | ⟨y, -, -, old, h⟩
      · rw [h, hk, Function.update_self]
        rfl
      · rw [h]
        rfl
    · exact ih he

/-- A log with one entry for a key. -/
theorem replay_nodup (h : (log.map about).Nodup) {e : ε} (he : e ∈ log) :
    replay about tell table log (about e) = some (tell (table (about e)) e) := by
  induction log generalizing table with
  | nil => exact absurd he List.not_mem_nil
  | cons x log ih =>
    obtain ⟨hx, hlog⟩ := List.nodup_cons.mp h
    rw [replay_cons]
    rcases List.mem_cons.mp he with rfl | he
    · have hnone : ∀ y ∈ log, about y ≠ about e := fun y hy hkey => hx (hkey ▸ List.mem_map_of_mem hy)
      rw [replay_other hnone, Function.update_self]
    · have hne : about e ≠ about x := fun hkey => hx (List.mem_map.mpr ⟨e, he, hkey⟩)
      rw [ih hlog he, Function.update_of_ne hne]

/-- Entries that tell what stands there already. -/
theorem replay_idle (h : ∀ e ∈ log, about e = k → table k = some (tell (table k) e)) :
    replay about tell table log k = table k := by
  induction log with
  | nil => rfl
  | cons e log ih =>
    have ih := ih fun x hx => h x (List.mem_cons_of_mem e hx)
    rw [replay_cons]
    by_cases he : about e = k
    · rw [← ih]
      refine replay_congr ?_
      rw [he, Function.update_self]
      exact (h e List.mem_cons_self he).symm
    · rw [← ih]
      exact replay_congr (Function.update_of_ne (Ne.symm he) _ _)

/-- Only the entries about a key matter there. -/
theorem replay_filter {keep : ε → Bool} (h : ∀ e ∈ log, about e = k → keep e = true) :
    replay about tell table (log.filter keep) k = replay about tell table log k := by
  induction log generalizing table with
  | nil => rfl
  | cons e log ih =>
    have ih (table : κ → Option σ) : replay about tell table (log.filter keep) k = replay about tell table log k :=
      ih fun x hx => h x (List.mem_cons_of_mem e hx)
    by_cases hkeep : keep e = true
    · rw [List.filter_cons_of_pos hkeep, replay_cons, replay_cons, ih]
    · have hne : k ≠ about e := fun heq => hkeep (h e List.mem_cons_self heq.symm)
      rw [List.filter_cons_of_neg hkeep, replay_cons, ih]
      exact replay_congr (Function.update_of_ne hne _ _).symm

end

end AutPlay.Replay
