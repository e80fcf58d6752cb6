import Mathlib.Tactic.Common

/-!
# Runs of a deterministic system

A system is a total step function: a rejected action leaves the state as it is. A run folds
the actions over a state. `run_invariant` is the induction over a run; `run_invariant_along`
the same for the runs whose steps all meet a condition on the state they start from.
-/

namespace App20.Lib

variable {σ α β : Type}

/-- The state after the actions. -/
def run (step : σ → α → σ) (s : σ) (as : List α) : σ := as.foldl step s

theorem run_cons {step : σ → α → σ} {s : σ} {a : α} {as : List α} :
    run step s (a :: as) = run step (step s a) as := rfl

theorem run_append {step : σ → α → σ} {s : σ} {as bs : List α} :
    run step s (as ++ bs) = run step (run step s as) bs := List.foldl_append

theorem run_invariant {step : σ → α → σ} {I : σ → Prop} (hstep : ∀ s a, I s → I (step s a))
    {s : σ} (as : List α) (h : I s) : I (run step s as) := by
  induction as generalizing s with
  | nil => exact h
  | cons a as ih => exact ih (hstep s a h)

/-- Every step of the run starts in a state where the condition holds of its action. -/
def Along (step : σ → α → σ) (C : σ → α → Prop) : σ → List α → Prop
  | _, [] => True
  | s, a :: as => C s a ∧ Along step C (step s a) as

instance decidableAlong {step : σ → α → σ} {C : σ → α → Prop} [∀ s a, Decidable (C s a)] :
    ∀ (s : σ) (as : List α), Decidable (Along step C s as)
  | _, [] => .isTrue trivial
  | s, a :: as => @instDecidableAnd _ _ _ (decidableAlong (step s a) as)

section

variable {step : σ → α → σ} {C : σ → α → Prop}

theorem along_append {s : σ} {as bs : List α} (h : Along step C s (as ++ bs)) :
    Along step C s as ∧ Along step C (run step s as) bs := by
  induction as generalizing s with
  | nil => exact ⟨trivial, h⟩
  | cons a as ih => exact ⟨⟨h.1, (ih h.2).1⟩, (ih h.2).2⟩

theorem run_invariant_along {I : σ → Prop} (hstep : ∀ s a, C s a → I s → I (step s a)) {s : σ}
    {as : List α} (hC : Along step C s as) (h : I s) : I (run step s as) := by
  induction as generalizing s with
  | nil => exact h
  | cons a as ih => exact ih hC.2 (hstep s a hC.1 h)

/-- When a step keeps `G` exactly under the condition, the states of a run all satisfy `G`
exactly when all its steps meet the condition. -/
theorem prefixes_iff_along {I G : σ → Prop} (hI : ∀ s a, I s → I (step s a))
    (hG : ∀ s a, I s → G s → (G (step s a) ↔ C s a)) {s : σ} {as : List α} (h : I s) (hs : G s) :
    (∀ bs, bs <+: as → G (run step s bs)) ↔ Along step C s as := by
  induction as generalizing s with
  | nil =>
    refine ⟨fun _ => trivial, fun _ bs hbs => ?_⟩
    rw [List.prefix_nil.mp hbs]
    exact hs
  | cons a as ih =>
    constructor
    · intro hall
      have ha : G (step s a) := hall [a] ⟨as, rfl⟩
      refine ⟨(hG s a h hs).mp ha, (ih (hI s a h) ha).mp fun bs hbs => ?_⟩
      exact hall (a :: bs) (List.cons_prefix_cons.mpr ⟨rfl, hbs⟩)
    · rintro ⟨hC, halong⟩ bs hbs
      have ha := (hG s a h hs).mpr hC
      cases bs with
      | nil => exact hs
      | cons b bs =>
        obtain ⟨rfl, hrest⟩ := List.cons_prefix_cons.mp hbs
        exact (ih (hI s b h) ha).mpr halong bs hrest

end

/-- The sum of all growths of a measure over a run. -/
def rise (step : σ → α → σ) (f : σ → Nat) : σ → List α → Nat
  | _, [] => 0
  | s, a :: as => (f (step s a) - f s) + rise step f (step s a) as

/-- What no step raises by more than `f` grows stays below the growths of `f`. -/
theorem run_le_rise {step : σ → α → σ} {I : σ → Prop} {f g : σ → Nat}
    (hI : ∀ s a, I s → I (step s a)) (hg : ∀ s a, I s → g (step s a) ≤ g s + (f (step s a) - f s))
    {s : σ} (as : List α) (h : I s) : g (run step s as) ≤ g s + rise step f s as := by
  induction as generalizing s with
  | nil => exact Nat.le_add_right _ _
  | cons a as ih =>
    have hrest := ih (hI s a h)
    have hstep := hg s a h
    rw [run_cons, rise]
    omega

theorem run_map {step : σ → β → σ} {step' : σ → α → σ} {f : α → β}
    (h : ∀ s a, step' s a = step s (f a)) (s : σ) (as : List α) :
    run step' s as = run step s (as.map f) := by
  induction as generalizing s with
  | nil => rfl
  | cons a as ih => rw [run_cons, ih, h, List.map_cons, run_cons]

end App20.Lib
