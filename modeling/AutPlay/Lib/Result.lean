import Mathlib.Logic.Basic
import Mathlib.Data.List.Basic

/-!
# Results of fallible code

* `bind_eq_ok`       a sequenced computation returns exactly when both halves do;
* `bind_eq_error`    it stops in the first half, or in the second one after a result;
* `foldlM_eq_error`  a fold stops at an element that it reaches;
* `mapError_eq_ok`   renaming the errors keeps the results;
* `mapM_forall₂`     a traversal reads each element by itself.
-/

set_option linter.unusedSectionVars false

namespace AutPlay.Result

universe u v

variable {ε : Type u} {α β : Type v}

theorem bind_eq_ok {x : Except ε α} {f : α → Except ε β} {b : β} :
    (x >>= f) = .ok b ↔ ∃ a, x = .ok a ∧ f a = .ok b := by
  cases x with
  | error e =>
    refine ⟨fun h => ?_, fun ⟨a, h, _⟩ => ?_⟩
    · cases h
    · cases h
  | ok a =>
    refine ⟨fun h => ⟨a, rfl, h⟩, fun ⟨a', h, hf⟩ => ?_⟩
    cases h
    exact hf

/-- One step of a computation that succeeds. -/
theorem bind_of_ok {x : Except ε α} {f : α → Except ε β} {a : α} {b : β} (hx : x = .ok a)
    (hf : f a = .ok b) : (x >>= f) = .ok b :=
  (bind_eq_ok).mpr ⟨a, hx, hf⟩

theorem bind_eq_error {x : Except ε α} {f : α → Except ε β} {e : ε} :
    (x >>= f) = .error e ↔ x = .error e ∨ ∃ a, x = .ok a ∧ f a = .error e := by
  cases x with
  | error e' =>
    refine ⟨fun h => Or.inl ?_, fun h => ?_⟩
    · cases h
      rfl
    · rcases h with h | ⟨a, h, _⟩
      · cases h
        rfl
      · cases h
  | ok a =>
    refine ⟨fun h => Or.inr ⟨a, rfl, h⟩, fun h => ?_⟩
    rcases h with h | ⟨a', h, hf⟩
    · cases h
    · cases h
      exact hf

/-- The first computation cannot fail so. -/
theorem bind_eq_error_of_ne {x : Except ε α} {f : α → Except ε β} {e : ε} (hx : x ≠ .error e) :
    (x >>= f) = .error e ↔ ∃ a, x = .ok a ∧ f a = .error e := by
  rw [bind_eq_error]
  exact or_iff_right hx

/-- A fold fails at an element that it reaches. -/
theorem foldlM_eq_error {f : β → α → Except ε β} {xs : List α} {b : β} {e : ε} :
    xs.foldlM f b = .error e ↔
      ∃ ys x zs b', xs = ys ++ x :: zs ∧ ys.foldlM f b = .ok b' ∧ f b' x = .error e := by
  induction xs generalizing b with
  | nil =>
    constructor
    · intro h
      cases h
    · rintro ⟨ys, x, zs, b', h, -, -⟩
      cases ys with
      | nil => cases h
      | cons y ys => cases h
  | cons x xs ih =>
    rw [List.foldlM_cons, bind_eq_error]
    constructor
    · rintro (h | ⟨b₁, hb₁, h⟩)
      · exact ⟨[], x, xs, b, rfl, rfl, h⟩
      · obtain ⟨ys, y, zs, b', rfl, hys, hy⟩ := ih.mp h
        refine ⟨x :: ys, y, zs, b', rfl, ?_, hy⟩
        rw [List.foldlM_cons]
        exact (bind_eq_ok).mpr ⟨b₁, hb₁, hys⟩
    · rintro ⟨ys, y, zs, b', h, hys, hy⟩
      cases ys with
      | nil =>
        cases h
        cases hys
        exact Or.inl hy
      | cons y' ys =>
        cases h
        rw [List.foldlM_cons] at hys
        obtain ⟨b₁, hb₁, hys⟩ := (bind_eq_ok).mp hys
        exact Or.inr ⟨b₁, hb₁, ih.mpr ⟨ys, y, zs, b', rfl, hys, hy⟩⟩

/-- **What every step of a fold keeps, the fold keeps.** -/
theorem foldlM_keeps {f : β → α → Except ε β} {xs : List α} {b b' : β} {I : β → Prop}
    (hstep : ∀ b b', ∀ x ∈ xs, I b → f b x = .ok b' → I b') (h : I b) (hf : xs.foldlM f b = .ok b') :
    I b' := by
  induction xs generalizing b with
  | nil =>
    cases hf
    exact h
  | cons x xs ih =>
    rw [List.foldlM_cons] at hf
    obtain ⟨b₁, hb₁, hf⟩ := (bind_eq_ok).mp hf
    exact ih (fun b b' y hy => hstep b b' y (List.mem_cons_of_mem _ hy))
      (hstep b b₁ x List.mem_cons_self h hb₁) hf

@[simp] theorem ok_bind (a : α) (f : α → Except ε β) : (Except.ok a >>= f) = f a := rfl

@[simp] theorem error_bind (e : ε) (f : α → Except ε β) :
    ((Except.error e : Except ε α) >>= f) = .error e := rfl

theorem map_eq_ok {x : Except ε α} {f : α → β} {b : β} :
    x.map f = .ok b ↔ ∃ a, x = .ok a ∧ f a = b := by
  cases x with
  | error e =>
    refine ⟨fun h => ?_, fun ⟨a, h, _⟩ => ?_⟩
    · cases h
    · cases h
  | ok a =>
    refine ⟨fun h => ⟨a, rfl, Except.ok.inj h⟩, fun ⟨a', h, he⟩ => ?_⟩
    cases h
    exact congrArg Except.ok he

theorem mapError_eq_ok {ε' : Type u} {f : ε → ε'} {x : Except ε α} {a : α} :
    x.mapError f = .ok a ↔ x = .ok a := by
  cases x with
  | error e =>
    refine ⟨fun h => ?_, fun h => ?_⟩
    · cases h
    · cases h
  | ok b =>
    show Except.ok b = Except.ok a ↔ _
    refine ⟨fun h => ?_, fun h => ?_⟩
    · cases h
      rfl
    · cases h
      rfl

theorem mapError_eq_error {ε' : Type u} {f : ε → ε'} {x : Except ε α} {e : ε'} :
    x.mapError f = .error e ↔ ∃ e', x = .error e' ∧ f e' = e := by
  cases x with
  | error e' =>
    refine ⟨fun h => ⟨e', rfl, Except.error.inj h⟩, fun ⟨e'', h, he⟩ => ?_⟩
    cases h
    exact congrArg Except.error he
  | ok a => exact ⟨nofun, fun ⟨e', h, _⟩ => nomatch h⟩

/-- A computation whose result is only repackaged. -/
theorem bind_pure_eq_ok {x : Except ε α} {f : α → β} {b : β} :
    (x >>= fun a => pure (f a)) = .ok b ↔ ∃ a, x = .ok a ∧ b = f a := by
  rw [bind_eq_ok]
  refine ⟨fun ⟨a, hx, h⟩ => ⟨a, hx, ?_⟩, fun ⟨a, hx, h⟩ => ⟨a, hx, ?_⟩⟩
  · cases h
    rfl
  · rw [h]
    rfl

/-- A traversal that refuses nothing is a map. -/
theorem mapM_eq_ok_map {f : α → Except ε β} {g : α → β} {xs : List α}
    (h : ∀ x ∈ xs, f x = .ok (g x)) : xs.mapM f = .ok (xs.map g) := by
  induction xs with
  | nil => rfl
  | cons x xs ih =>
    rw [List.mapM_cons, h x (List.mem_cons_self ..), ih fun y hy => h y (List.mem_cons_of_mem _ hy)]
    rfl

/-- A traversal of encoded items gives the items back. -/
theorem mapM_map_eq_ok {f : α → Except ε β} {g : β → α} {ys : List β}
    (h : ∀ y ∈ ys, f (g y) = .ok y) : (ys.map g).mapM f = .ok ys := by
  induction ys with
  | nil => rfl
  | cons y ys ih =>
    rw [List.map_cons, List.mapM_cons, h y List.mem_cons_self,
      ih fun y' hy' => h y' (List.mem_cons_of_mem _ hy')]
    rfl

/-- A traversal reads each element by itself. -/
theorem mapM_forall₂ {f : α → Except ε β} {xs : List α} {ys : List β}
    (h : xs.mapM f = .ok ys) : List.Forall₂ (fun x y => f x = .ok y) xs ys := by
  induction xs generalizing ys with
  | nil =>
    cases h
    exact .nil
  | cons x xs ih =>
    rw [List.mapM_cons] at h
    obtain ⟨y, hy, h⟩ := (bind_eq_ok).mp h
    obtain ⟨ys', hys, h⟩ := (bind_eq_ok).mp h
    cases h
    exact .cons hy (ih hys)

/-- What every step of a traversal keeps, the traversal keeps. -/
theorem map_eq_of_mapM {γ : Type*} {f : α → Except ε β} {xs : List α} {ys : List β} {g : α → γ}
    {g' : β → γ} (h : xs.mapM f = .ok ys) (hg : ∀ x ∈ xs, ∀ y, f x = .ok y → g' y = g x) :
    ys.map g' = xs.map g := by
  have hf := mapM_forall₂ h
  clear h
  induction hf with
  | nil => rfl
  | cons hxy _ ih =>
    rw [List.map_cons, List.map_cons, hg _ (List.mem_cons_self ..) _ hxy,
      ih fun x hx => hg x (List.mem_cons_of_mem _ hx)]

theorem mem_of_mapM {f : α → Except ε β} {xs : List α} {ys : List β} (h : xs.mapM f = .ok ys)
    {y : β} (hy : y ∈ ys) : ∃ x ∈ xs, f x = .ok y := by
  have hf := mapM_forall₂ h
  clear h
  induction hf with
  | nil => exact absurd hy List.not_mem_nil
  | @cons x y' xs ys hxy _ ih =>
    rcases List.mem_cons.mp hy with rfl | hy
    · exact ⟨x, List.mem_cons_self .., hxy⟩
    · obtain ⟨x', hx', he⟩ := ih hy
      exact ⟨x', List.mem_cons_of_mem _ hx', he⟩

theorem ok_of_mem_mapM {f : α → Except ε β} {xs : List α} {ys : List β} (h : xs.mapM f = .ok ys)
    {x : α} (hx : x ∈ xs) : ∃ y, f x = .ok y := by
  have hf := mapM_forall₂ h
  clear h
  induction hf with
  | nil => exact absurd hx List.not_mem_nil
  | cons hxy _ ih =>
    rcases List.mem_cons.mp hx with rfl | hx
    · exact ⟨_, hxy⟩
    · exact ih hx

end AutPlay.Result
