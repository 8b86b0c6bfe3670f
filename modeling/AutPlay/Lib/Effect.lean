import Mathlib.Logic.Basic

/-!
# Computations that may stop

An `Effect σ α` runs on a state `σ` and ends with a value, or stops without one.  What it wrote before
it stopped stays written.

* `Effect.get`, `Effect.modify`, `Effect.stop`, `Effect.check`   the primitive computations;
* `Effect.Triple`                                what holds at the end, and what when it stops;
* `Triple.bind`, `Triple.ite`, `Triple.modify`, …   one rule for each way to put them together;
* `Effect.Keeps`                                 a preorder between the states before and after.
-/

set_option linter.unusedSectionVars false

namespace AutPlay

/-- A computation on a state that may stop without a value. -/
def Effect (σ α : Type*) := σ → Option α × σ

namespace Effect
universe u
variable {σ α β : Type u}

instance : Monad (Effect σ) where
  pure a := fun s => (some a, s)
  bind x f := fun s =>
    match x s with
    | (some a, s') => f a s'
    | (none, s') => (none, s')

/-- The state, as it is. -/
def get : Effect σ σ := fun s => (some s, s)

def modify (f : σ → σ) : Effect σ PUnit := fun s => (some ⟨⟩, f s)

/-- An exception. -/
def stop : Effect σ α := fun s => (none, s)

/-- Go on only when the condition holds. -/
def check (p : Prop) [Decidable p] : Effect σ PUnit := if p then modify id else stop

/-- Go on with a value, if there is one. -/
def require (x : Option α) : Effect σ α := fun s => (x, s)

/-- The state after a run. -/
def state (x : Effect σ α) (s : σ) : σ := (x s).2

/-- What follows a computation that ended. -/
theorem bind_run {x : Effect σ α} {f : α → Effect σ β} {s s' : σ} {a : α} (h : x s = (some a, s')) :
    (x >>= f) s = f a s' := by
  show (match x s with
    | (some a, s') => f a s'
    | (none, s') => (none, s')) = f a s'
  rw [h]

/-! ## triples -/

/-- **From a state with `P`** the computation ends with a value and a state with `Q`, or stops in a
state with `E`. -/
def Triple (P : σ → Prop) (x : Effect σ α) (Q : α → σ → Prop) (E : σ → Prop) : Prop :=
  ∀ s, P s → match x s with
    | (some a, s') => Q a s'
    | (none, s') => E s'

variable {P P' : σ → Prop} {Q Q' : α → σ → Prop} {E E' : σ → Prop} {x : Effect σ α}

theorem Triple.mono (h : Triple P x Q E) (hP : ∀ s, P' s → P s) (hQ : ∀ a s, Q a s → Q' a s)
    (hE : ∀ s, E s → E' s) : Triple P' x Q' E' := by
  intro s hs
  have hx := h s (hP s hs)
  cases hr : x s with
  | mk o s' =>
    rw [hr] at hx
    cases o with
    | none => exact hE s' hx
    | some a => exact hQ a s' hx

theorem Triple.pure {a : α} (h : ∀ s, P s → Q a s) : Triple P (Pure.pure a) Q E := h

theorem Triple.stop (h : ∀ s, P s → E s) : Triple P (Effect.stop : Effect σ α) Q E := h

theorem Triple.modify {f : σ → σ} {Q : PUnit → σ → Prop} (h : ∀ s, P s → Q ⟨⟩ (f s)) :
    Triple P (Effect.modify f) Q E := h

theorem Triple.bind {f : α → Effect σ β} {R : β → σ → Prop} (h : Triple P x Q E)
    (hf : ∀ a, Triple (Q a) (f a) R E) : Triple P (x >>= f) R E := by
  intro s hs
  have hx := h s hs
  show match (match x s with
    | (some a, s') => f a s'
    | (none, s') => (none, s')) with
    | (some b, s') => R b s'
    | (none, s') => E s'
  cases hr : x s with
  | mk o s' =>
    rw [hr] at hx
    cases o with
    | none => exact hx
    | some a => exact hf a s' hx

/-- Reading the state: what follows may use its value. -/
theorem Triple.get {f : σ → Effect σ β} {R : β → σ → Prop}
    (h : ∀ s₀, P s₀ → Triple (fun s => s = s₀) (f s₀) R E) : Triple P (Effect.get >>= f) R E := by
  intro s hs
  exact h s hs s rfl

theorem Triple.ite {p : Prop} [Decidable p] {y : Effect σ α} (hx : p → Triple P x Q E)
    (hy : ¬p → Triple P y Q E) : Triple P (if p then x else y) Q E := by
  split
  · rename_i hp
    exact hx hp
  · rename_i hp
    exact hy hp

theorem Triple.check {p : Prop} [Decidable p] {Q : PUnit → σ → Prop} (h : ∀ s, P s → p → Q ⟨⟩ s)
    (hE : ∀ s, P s → ¬p → E s) : Triple P (Effect.check p) Q E := by
  unfold Effect.check
  refine .ite (fun hp s hs => h s hs hp) fun hp => .stop fun s hs => hE s hs hp

theorem Triple.require {o : Option α} (h : ∀ s a, P s → o = some a → Q a s) (hE : ∀ s, P s → o = none → E s) :
    Triple P (Effect.require o) Q E := by
  intro s hs
  cases o with
  | none => exact hE s hs rfl
  | some a => exact h s a hs rfl

/-- From one state. -/
theorem Triple.state_of {s : σ} (h : Triple (fun s' => s' = s) x (fun _ => E) E) :
    E (x.state s) := by
  have hx := h s rfl
  unfold Effect.state
  cases hr : x s with
  | mk o s' =>
    rw [hr] at hx
    cases o with
    | none => exact hx
    | some a => exact hx

/-- What the state after every run satisfies. -/
theorem Triple.of_state {H : σ → Prop} (h : ∀ s, H s → H (x.state s)) : Triple H x (fun _ => H) H := by
  intro s hs
  have hx := h s hs
  unfold Effect.state at hx
  cases hr : x s with
  | mk o s' =>
    rw [hr] at hx
    cases o with
    | none => exact hx
    | some a => exact hx

/-- Two triples of one computation. -/
theorem Triple.and (h : Triple P x Q E) (h' : Triple P' x Q' E') :
    Triple (fun s => P s ∧ P' s) x (fun a s => Q a s ∧ Q' a s) (fun s => E s ∧ E' s) := by
  rintro s ⟨hs, hs'⟩
  have hx := h s hs
  have hx' := h' s hs'
  cases hr : x s with
  | mk o s' =>
    rw [hr] at hx hx'
    cases o with
    | none => exact ⟨hx, hx'⟩
    | some a => exact ⟨hx, hx'⟩

/-! ## what a computation keeps -/

/-- Every run relates the state before to the state after, whether it ends or stops. -/
def Keeps (R : σ → σ → Prop) (x : Effect σ α) : Prop :=
  ∀ s₀, Triple (R s₀) x (fun _ => R s₀) (R s₀)

variable {R : σ → σ → Prop}

theorem Keeps.pure (a : α) : Keeps R (Pure.pure a : Effect σ α) :=
  fun _ => .pure fun _ hs => hs

theorem Keeps.stop : Keeps R (Effect.stop : Effect σ α) := fun _ => .stop fun _ hs => hs

theorem Keeps.bind {f : α → Effect σ β} (h : Keeps R x) (hf : ∀ a, Keeps R (f a)) :
    Keeps R (x >>= f) :=
  fun s₀ => .bind (h s₀) fun a => hf a s₀

theorem Keeps.get {f : σ → Effect σ β} (h : ∀ s, Keeps R (f s)) : Keeps R (Effect.get >>= f) :=
  fun s₀ => .get fun s hs => (h s s₀).mono (fun _ he => he ▸ hs) (fun _ _ h => h) fun _ h => h

theorem Keeps.modify {f : σ → σ} (htrans : ∀ a b c, R a b → R b c → R a c) (h : ∀ s, R s (f s)) :
    Keeps R (Effect.modify f) :=
  fun s₀ => .modify fun s hs => htrans s₀ s (f s) hs (h s)

theorem Keeps.ite {p : Prop} [Decidable p] {y : Effect σ α} (hx : p → Keeps R x)
    (hy : ¬p → Keeps R y) : Keeps R (if p then x else y) :=
  fun s₀ => .ite (fun hp => hx hp s₀) fun hp => hy hp s₀

theorem Keeps.check {p : Prop} [Decidable p] : Keeps R (Effect.check p : Effect σ PUnit) :=
  fun _ => .check (fun _ hs _ => hs) fun _ hs _ => hs

end Effect

end AutPlay
