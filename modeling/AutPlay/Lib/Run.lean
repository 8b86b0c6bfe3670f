import Mathlib.Data.List.Basic

/-!
# Runs of a transition system

A transition system is a step relation `step s a s'` on states `σ` with labels `α`.

* `Path step s as s'`      the labels `as` lead from `s` to `s'`, one step each;
* `Path.invariant`         what every step preserves holds at the end of every path;
* `Path.invariant_on`      the same, of paths whose labels all meet a condition;
* `Path.history`           the same, with the labels so far;
* `Path.restrict_iff`      two conditions on steps that restrict the paths alike;
* `Path.of_step`           what one label does to a state, carried along a path by a preorder;
* `Path.foldl_iff`         the paths of a total step function are its left folds.
-/

set_option linter.unusedSectionVars false

namespace AutPlay

section
variable {σ α : Type*}

/-- The labels `as`, in order, lead from the first state to the last one. -/
inductive Path (step : σ → α → σ → Prop) : σ → List α → σ → Prop
  | nil (s : σ) : Path step s [] s
  | cons {s s' s'' : σ} {a : α} {as : List α} (h : step s a s') (p : Path step s' as s'') :
      Path step s (a :: as) s''

namespace Path
variable {step : σ → α → σ → Prop}

theorem append {s s' s'' : σ} {as bs : List α} (p : Path step s as s')
    (q : Path step s' bs s'') : Path step s (as ++ bs) s'' := by
  induction p with
  | nil s => exact q
  | cons h p ih => exact cons h (ih q)

theorem snoc {s s' s'' : σ} {as : List α} {a : α} (p : Path step s as s')
    (h : step s' a s'') : Path step s (as ++ [a]) s'' :=
  p.append (cons h (nil s''))

/-- **Invariant rule**: what holds at the start and survives every step holds at the end. -/
theorem invariant {I : σ → Prop} (hstep : ∀ s a s', I s → step s a s' → I s')
    {s s' : σ} {as : List α} (p : Path step s as s') (h : I s) : I s' := by
  induction p with
  | nil s => exact h
  | cons hs p ih => exact ih (hstep _ _ _ h hs)

/-- The same, of paths whose labels all meet a condition. -/
theorem invariant_on {I : σ → Prop} {P : α → Prop}
    (hstep : ∀ s a s', P a → I s → step s a s' → I s') {s s' : σ} {as : List α}
    (p : Path step s as s') (hP : ∀ a ∈ as, P a) (h : I s) : I s' := by
  induction p with
  | nil s => exact h
  | cons hs p ih =>
    exact ih (fun a ha => hP a (List.mem_cons_of_mem _ ha))
      (hstep _ _ _ (hP _ (List.mem_cons_self ..)) h hs)

/-- A reflexive and transitive relation that every step respects relates the ends of a path. -/
theorem of_step {R : σ → σ → Prop} (hrefl : ∀ s, R s s)
    (htrans : ∀ s s' s'', R s s' → R s' s'' → R s s'')
    (hstep : ∀ s a s', step s a s' → R s s') {s s' : σ} {as : List α}
    (p : Path step s as s') : R s s' := by
  induction p with
  | nil s => exact hrefl s
  | cons hs p ih => exact htrans _ _ _ (hstep _ _ _ hs) ih

theorem mono {step' : σ → α → σ → Prop} (h : ∀ s a s', step s a s' → step' s a s')
    {s s' : σ} {as : List α} (p : Path step s as s') : Path step' s as s' := by
  induction p with
  | nil s => exact nil s
  | cons hs p ih => exact cons (h _ _ _ hs) ih

/-- **The history rule**: what a step keeps, with the labels so far, a path keeps. -/
theorem history {I : List α → σ → Prop}
    (hstep : ∀ as s a s', I as s → step s a s' → I (as ++ [a]) s') {as bs : List α} {s s' : σ}
    (p : Path step s bs s') (h : I as s) : I (as ++ bs) s' := by
  induction p generalizing as with
  | nil s =>
    rw [List.append_nil]
    exact h
  | cons hs p ih =>
    have hi := ih (hstep _ _ _ _ h hs)
    rwa [List.append_assoc, List.singleton_append] at hi

/-- **The restriction rule**: two conditions on steps that agree where an invariant holds restrict the
paths from there alike. -/
theorem restrict_iff {I : σ → Prop} {P Q : σ → α → σ → Prop}
    (hinv : ∀ s a s', I s → step s a s' → I s')
    (h : ∀ s a s', I s → step s a s' → (P s a s' ↔ Q s a s')) {s s' : σ} {as : List α} (hs : I s) :
    Path (fun s a s' => step s a s' ∧ P s a s') s as s' ↔
      Path (fun s a s' => step s a s' ∧ Q s a s') s as s' := by
  induction as generalizing s with
  | nil =>
    constructor
    · intro p
      cases p
      exact nil _
    · intro p
      cases p
      exact nil _
  | cons a as ih =>
    constructor
    · intro p
      cases p with
      | cons hstep p =>
        exact cons ⟨hstep.1, (h _ _ _ hs hstep.1).mp hstep.2⟩ ((ih (hinv _ _ _ hs hstep.1)).mp p)
    · intro p
      cases p with
      | cons hstep p =>
        exact cons ⟨hstep.1, (h _ _ _ hs hstep.1).mpr hstep.2⟩ ((ih (hinv _ _ _ hs hstep.1)).mpr p)

end Path

/-- The step relation of a total step function. -/
def stepOf (f : σ → α → σ) (s : σ) (a : α) (s' : σ) : Prop := s' = f s a

theorem Path.foldl_iff (f : σ → α → σ) (s s' : σ) (as : List α) :
    Path (stepOf f) s as s' ↔ s' = as.foldl f s := by
  induction as generalizing s with
  | nil =>
    constructor
    · intro p
      cases p with
      | nil => rfl
    · rintro rfl
      exact Path.nil _
  | cons a as ih =>
    constructor
    · intro p
      cases p with
      | cons h p =>
        have hs : _ = f s a := h
        subst hs
        exact (ih _).mp p
    · intro h
      exact Path.cons rfl ((ih _).mpr h)

end

end AutPlay
