import Mathlib.Algebra.Order.Ring.Int

/-!
# Programs with a state and an error

`Exec ε σ α` is a program that reads and writes a state `σ` and may stop with an error
`ε`; an error discards the state it was reached in, as a reverted call does.

A run is described by two propositions: `Returns m s a t` (from `s` the program returns `a`
in state `t`) and `Fails m s e`. Both are pushed through `do` blocks by the lemmas
`returns_bind`, `fails_bind` and one pair of lemmas for each primitive, so the inversion
lemma of a whole program is obtained by one `simp only` with these.
-/

namespace App20.Lib

/-! ## Stateless computations -/

theorem ok_bind {ε α β : Type} {a : α} {f : α → Except ε β} : (Except.ok a >>= f) = f a := rfl

theorem map_ok {ε α β : Type} {x : Except ε α} {f : α → β} {b : β} :
    x.map f = .ok b ↔ ∃ a, x = .ok a ∧ b = f a := by
  cases x <;> simp [Except.map, eq_comm]

theorem bind_ok {ε α β : Type} {x : Except ε α} {f : α → Except ε β} {b : β} :
    (x >>= f) = .ok b ↔ ∃ a, x = .ok a ∧ f a = .ok b := by
  cases x <;> simp [bind, Except.bind]

theorem bind_error {ε α β : Type} {x : Except ε α} {f : α → Except ε β} {e : ε} :
    (x >>= f) = .error e ↔ x = .error e ∨ ∃ a, x = .ok a ∧ f a = .error e := by
  cases x <;> simp [bind, Except.bind]

theorem toOption_eq_some_iff {ε α : Type} {x : Except ε α} {a : α} :
    x.toOption = some a ↔ x = .ok a := by
  cases x <;> simp [Except.toOption]

theorem except_ok_or_error {ε α : Type} (x : Except ε α) :
    (∃ a, x = .ok a) ∨ ∃ e, x = .error e := by
  cases x with
  | error e => exact Or.inr ⟨e, rfl⟩
  | ok a => exact Or.inl ⟨a, rfl⟩

/-- `if (c) throw e` -/
def throwIf {ε : Type} (c : Prop) [Decidable c] (e : ε) : Except ε Unit :=
  if c then .error e else .ok ()

variable {c : Prop} {u : Unit}

theorem throwIf_ok {ε : Type} [Decidable c] {e : ε} : throwIf c e = .ok u ↔ ¬ c := by
  unfold throwIf
  split <;> simp [*]

theorem throwIf_neg {ε : Type} [Decidable c] {e : ε} (h : ¬ c) : throwIf c e = .ok () :=
  throwIf_ok.mpr h

theorem throwIf_error_iff {ε : Type} [Decidable c] {e e' : ε} :
    throwIf c e = .error e' ↔ c ∧ e' = e := by
  unfold throwIf
  split <;> simp [*, eq_comm]

theorem pure_ok {ε α : Type} {a b : α} : (pure a : Except ε α) = .ok b ↔ b = a := by
  simp [pure, Except.pure, eq_comm]

theorem exists_unit {p : Unit → Prop} : (∃ u, p u) ↔ p () := ⟨fun ⟨_, h⟩ => h, fun h => ⟨(), h⟩⟩

/-! ## Programs -/

/-- Programs with a state `σ` that may stop with an error `ε`. -/
abbrev Exec (ε σ : Type) := StateT σ (Except ε)

namespace Exec

variable {ε σ α β : Type}

/-- Stop with `e` unless `c` holds. -/
def assert (c : Prop) [Decidable c] (e : ε) : Exec ε σ Unit := if c then pure () else throw e

def expect (o : Option α) (e : ε) : Exec ε σ α :=
  match o with
  | some a => pure a
  | none => throw e

/-- Run a stateless computation. -/
def lift (x : Except ε α) : Exec ε σ α := fun s => x.map (fun a => (a, s))

/-- From `s` the program returns `a` in state `t`. -/
def Returns (m : Exec ε σ α) (s : σ) (a : α) (t : σ) : Prop := m.run s = .ok (a, t)

def Fails (m : Exec ε σ α) (s : σ) (e : ε) : Prop := m.run s = .error e

theorem run'_eq_ok {m : Exec ε σ α} {s : σ} {a : α} : m.run' s = .ok a ↔ ∃ t, Returns m s a t := by
  unfold Returns StateT.run'
  change (m.run s).map Prod.fst = .ok a ↔ _
  cases m.run s with
  | error e => simp [Except.map]
  | ok p =>
    simp only [Except.map, Except.ok.injEq]
    constructor
    · rintro rfl
      exact ⟨p.2, rfl⟩
    · rintro ⟨t, rfl⟩
      rfl

/-! ## Sequencing -/

theorem returns_or_fails (m : Exec ε σ α) (s : σ) :
    (∃ a t, Returns m s a t) ∨ ∃ e, Fails m s e := by
  unfold Returns Fails
  cases h : m.run s with
  | error e => exact Or.inr ⟨e, rfl⟩
  | ok p => exact Or.inl ⟨p.1, p.2, rfl⟩

theorem returns_bind {m : Exec ε σ α} {f : α → Exec ε σ β} {s t : σ} {b : β} :
    Returns (m >>= f) s b t ↔ ∃ a u, Returns m s a u ∧ Returns (f a) u b t := by
  unfold Returns
  rw [StateT.run_bind]
  cases h : m.run s with
  | error e => simp [bind, Except.bind]
  | ok p =>
    simp only [bind, Except.bind, Except.ok.injEq]
    constructor
    · intro h'
      exact ⟨p.1, p.2, rfl, h'⟩
    · rintro ⟨a, u, rfl, h'⟩
      exact h'

theorem fails_bind {m : Exec ε σ α} {f : α → Exec ε σ β} {s : σ} {e : ε} :
    Fails (m >>= f) s e ↔ Fails m s e ∨ ∃ a u, Returns m s a u ∧ Fails (f a) u e := by
  unfold Returns Fails
  rw [StateT.run_bind]
  cases h : m.run s with
  | error e' => simp [bind, Except.bind]
  | ok p =>
    simp only [bind, Except.bind, Except.ok.injEq, reduceCtorEq, false_or]
    constructor
    · intro h'
      exact ⟨p.1, p.2, rfl, h'⟩
    · rintro ⟨a, u, rfl, h'⟩
      exact h'

/-! ## Primitives -/

theorem returns_pure {a b : α} {s t : σ} : Returns (pure a : Exec ε σ α) s b t ↔ b = a ∧ t = s := by
  unfold Returns
  rw [StateT.run_pure]
  constructor
  · intro h
    cases h
    exact ⟨rfl, rfl⟩
  · rintro ⟨rfl, rfl⟩
    rfl

theorem not_fails_pure {a : α} {s : σ} {e : ε} : ¬ Fails (pure a : Exec ε σ α) s e := by
  intro h
  cases h

theorem not_returns_throw {e : ε} {s t : σ} {a : α} : ¬ Returns (throw e : Exec ε σ α) s a t := by
  intro h
  cases h

theorem fails_throw {e e' : ε} {s : σ} : Fails (throw e : Exec ε σ α) s e' ↔ e' = e := by
  constructor
  · intro h
    cases h
    rfl
  · rintro rfl
    rfl

theorem returns_get {s t u : σ} : Returns (get : Exec ε σ σ) s u t ↔ u = s ∧ t = s := by
  constructor
  · intro h
    cases h
    exact ⟨rfl, rfl⟩
  · rintro ⟨rfl, rfl⟩
    rfl

theorem not_fails_get {s : σ} {e : ε} : ¬ Fails (get : Exec ε σ σ) s e := by
  intro h
  cases h

theorem returns_modify {f : σ → σ} {s t : σ} :
    Returns (modify f : Exec ε σ Unit) s u t ↔ t = f s := by
  constructor
  · intro h
    cases h
    rfl
  · rintro rfl
    rfl

theorem not_fails_modify {f : σ → σ} {s : σ} {e : ε} : ¬ Fails (modify f : Exec ε σ Unit) s e := by
  intro h
  cases h

theorem returns_assert [Decidable c] {e : ε} {s t : σ} :
    Returns (assert c e : Exec ε σ Unit) s u t ↔ c ∧ t = s := by
  unfold assert
  split
  · simp [returns_pure, *]
  · simp [not_returns_throw, *]

theorem fails_assert [Decidable c] {e e' : ε} {s : σ} :
    Fails (assert c e : Exec ε σ Unit) s e' ↔ ¬ c ∧ e' = e := by
  unfold assert
  split
  · simp [not_fails_pure, *]
  · simp [fails_throw, *]

theorem returns_expect {o : Option α} {e : ε} {s t : σ} {a : α} :
    Returns (expect o e : Exec ε σ α) s a t ↔ o = some a ∧ t = s := by
  cases o with
  | none => simp [expect, not_returns_throw]
  | some b =>
    rw [expect, returns_pure, Option.some.injEq, eq_comm]

theorem fails_expect {o : Option α} {e e' : ε} {s : σ} :
    Fails (expect o e : Exec ε σ α) s e' ↔ o = none ∧ e' = e := by
  cases o with
  | none => simp [expect, fails_throw]
  | some b => simp [expect, not_fails_pure]

theorem returns_lift {x : Except ε α} {s t : σ} {a : α} :
    Returns (lift x : Exec ε σ α) s a t ↔ x = .ok a ∧ t = s := by
  cases x with
  | error e =>
    constructor
    · intro h
      cases h
    · intro h
      cases h.1
  | ok b =>
    constructor
    · intro h
      cases h
      exact ⟨rfl, rfl⟩
    · rintro ⟨h, rfl⟩
      cases h
      rfl

theorem fails_lift {x : Except ε α} {s : σ} {e : ε} :
    Fails (lift x : Exec ε σ α) s e ↔ x = .error e := by
  cases x with
  | error e' =>
    constructor <;>
    · intro h
      cases h
      rfl
  | ok b =>
    constructor <;>
    · intro h
      cases h

theorem returns_ite [Decidable c] {m n : Exec ε σ α} {s t : σ} {a : α} :
    Returns (if c then m else n) s a t ↔ (c ∧ Returns m s a t) ∨ (¬ c ∧ Returns n s a t) := by
  split <;> simp [*]

/-! ## A primitive and the rest of the program -/

/-- The rest of the program runs from the state that the postcondition of the first part
names. -/
theorem returns_bind_iff {γ : Type} {m : Exec ε σ α} {f : α → Exec ε σ β} {s t : σ} {b : β}
    {p : α → γ → Prop} {g : α → γ → σ} (h : ∀ a u, Returns m s a u ↔ ∃ w, p a w ∧ u = g a w) :
    Returns (m >>= f) s b t ↔ ∃ a w, p a w ∧ Returns (f a) (g a w) b t := by
  rw [returns_bind]
  constructor
  · rintro ⟨a, u, hm, hf⟩
    obtain ⟨w, hp, rfl⟩ := (h a u).mp hm
    exact ⟨a, w, hp, hf⟩
  · rintro ⟨a, w, hp, hf⟩
    exact ⟨a, _, (h a _).mpr ⟨w, hp, rfl⟩, hf⟩

theorem returns_get_bind {f : σ → Exec ε σ β} {s t : σ} {b : β} :
    Returns (get >>= f) s b t ↔ Returns (f s) s b t := Iff.rfl

theorem returns_modify_bind {f : σ → σ} {k : Unit → Exec ε σ β} {s t : σ} {b : β} :
    Returns (modify f >>= k) s b t ↔ Returns (k ()) (f s) b t := Iff.rfl

theorem returns_assert_bind [Decidable c] {e : ε} {f : Unit → Exec ε σ β} {s t : σ} {b : β} :
    Returns (assert c e >>= f) s b t ↔ c ∧ Returns (f ()) s b t := by
  simp only [returns_bind, returns_assert, and_assoc, exists_and_left, exists_eq_left, exists_unit]

/-- A check that is only made under a condition. -/
theorem returns_ite_assert {p : Prop} [Decidable c] [Decidable p] {e : ε} {m : Exec ε σ β} {s t : σ}
    {b : β} :
    Returns (if c then assert p e >>= fun _ => m else m) s b t ↔ (c → p) ∧ Returns m s b t := by
  by_cases hc : c
  · rw [if_pos hc, returns_assert_bind]
    exact and_congr_left fun _ => ⟨fun h _ => h, fun h => h hc⟩
  · rw [if_neg hc]
    exact ⟨fun h => ⟨fun h' => absurd h' hc, h⟩, fun h => h.2⟩

theorem returns_expect_bind {o : Option α} {e : ε} {f : α → Exec ε σ β} {s t : σ} {b : β} :
    Returns (expect o e >>= f) s b t ↔ ∃ a, o = some a ∧ Returns (f a) s b t := by
  simp only [returns_bind, returns_expect, and_assoc, exists_and_left, exists_eq_left]

theorem returns_lift_bind {x : Except ε α} {f : α → Exec ε σ β} {s t : σ} {b : β} :
    Returns (lift x >>= f) s b t ↔ ∃ a, x = .ok a ∧ Returns (f a) s b t := by
  simp only [returns_bind, returns_lift, and_assoc, exists_and_left, exists_eq_left]

/-! ## Errors that a program does not stop with -/

/-- From `s` the program does not stop with an error in `B`. -/
def Avoids (m : Exec ε σ α) (s : σ) (B : ε → Prop) : Prop := ∀ e, Fails m s e → ¬ B e

variable {B : ε → Prop}

theorem avoids_bind {m : Exec ε σ α} {f : α → Exec ε σ β} {s : σ} :
    Avoids (m >>= f) s B ↔ Avoids m s B ∧ ∀ a u, Returns m s a u → Avoids (f a) u B := by
  unfold Avoids
  constructor
  · intro h
    exact ⟨fun e he => h e (fails_bind.mpr (Or.inl he)),
      fun a u hm e he => h e (fails_bind.mpr (Or.inr ⟨a, u, hm, he⟩))⟩
  · rintro ⟨hm, hf⟩ e he
    rcases fails_bind.mp he with he | ⟨a, u, hret, he⟩
    · exact hm e he
    · exact hf a u hret e he

/-- The rest of the program is looked at in the states that the postcondition of the first part
names. -/
theorem avoids_bind_iff {γ : Type} {m : Exec ε σ α} {f : α → Exec ε σ β} {s : σ}
    {p : α → γ → Prop} {g : α → γ → σ}
    (h : ∀ a u, Returns m s a u ↔ ∃ w, p a w ∧ u = g a w) (hm : Avoids m s B) :
    Avoids (m >>= f) s B ↔ ∀ a w, p a w → Avoids (f a) (g a w) B := by
  rw [avoids_bind]
  constructor
  · exact fun hf a w hp => hf.2 a _ ((h a _).mpr ⟨w, hp, rfl⟩)
  · intro hf
    refine ⟨hm, fun a u hret => ?_⟩
    obtain ⟨w, hp, rfl⟩ := (h a u).mp hret
    exact hf a w hp

theorem avoids_pure {a : α} {s : σ} : Avoids (pure a : Exec ε σ α) s B :=
  fun _ h => absurd h not_fails_pure

theorem avoids_throw {e : ε} {s : σ} : Avoids (throw e : Exec ε σ α) s B ↔ ¬ B e := by
  simp only [Avoids, fails_throw, forall_eq]

theorem avoids_assert [Decidable c] {e : ε} {s : σ} :
    Avoids (assert c e : Exec ε σ Unit) s B ↔ (¬ c → ¬ B e) :=
  ⟨fun h hc => h e (fails_assert.mpr ⟨hc, rfl⟩), fun h e' he' => by
    obtain ⟨hc, rfl⟩ := fails_assert.mp he'
    exact h hc⟩

theorem avoids_expect {o : Option α} {e : ε} {s : σ} :
    Avoids (expect o e : Exec ε σ α) s B ↔ (o = none → ¬ B e) :=
  ⟨fun h ho => h e (fails_expect.mpr ⟨ho, rfl⟩), fun h e' he' => by
    obtain ⟨ho, rfl⟩ := fails_expect.mp he'
    exact h ho⟩

theorem avoids_lift {x : Except ε α} {s : σ} :
    Avoids (lift x : Exec ε σ α) s B ↔ ∀ e, x = .error e → ¬ B e := by
  simp only [Avoids, fails_lift]

theorem avoids_assert_bind [Decidable c] {e : ε} {f : Unit → Exec ε σ β} {s : σ} :
    Avoids (assert c e >>= f) s B ↔ (¬ c → ¬ B e) ∧ (c → Avoids (f ()) s B) := by
  rw [avoids_bind, avoids_assert]
  refine and_congr_right fun _ => ⟨fun hf hc => hf () s (returns_assert.mpr ⟨hc, rfl⟩), ?_⟩
  intro hf a u hret
  obtain ⟨hc, rfl⟩ := returns_assert.mp hret
  exact hf hc

theorem avoids_expect_bind {o : Option α} {e : ε} {f : α → Exec ε σ β} {s : σ} :
    Avoids (expect o e >>= f) s B ↔ (o = none → ¬ B e) ∧ ∀ a, o = some a → Avoids (f a) s B := by
  rw [avoids_bind, avoids_expect]
  refine and_congr_right fun _ => ⟨fun hf a ha => hf a s (returns_expect.mpr ⟨ha, rfl⟩), ?_⟩
  intro hf a u hret
  obtain ⟨ha, rfl⟩ := returns_expect.mp hret
  exact hf a ha

theorem avoids_lift_bind {x : Except ε α} {f : α → Exec ε σ β} {s : σ} :
    Avoids (lift x >>= f) s B ↔
      (∀ e, x = .error e → ¬ B e) ∧ ∀ a, x = .ok a → Avoids (f a) s B := by
  rw [avoids_bind, avoids_lift]
  refine and_congr_right fun _ => ⟨fun hf a ha => hf a s (returns_lift.mpr ⟨ha, rfl⟩), ?_⟩
  intro hf a u hret
  obtain ⟨ha, rfl⟩ := returns_lift.mp hret
  exact hf a ha

/-! ## Loops -/

theorem returns_foldlM_nil {f : β → α → Exec ε σ β} {b c : β} {s t : σ} :
    Returns (List.foldlM f b []) s c t ↔ c = b ∧ t = s := by
  rw [List.foldlM_nil, returns_pure]

theorem returns_foldlM_cons {f : β → α → Exec ε σ β} {b c : β} {x : α} {xs : List α} {s t : σ} :
    Returns (List.foldlM f b (x :: xs)) s c t ↔
      ∃ d u, Returns (f b x) s d u ∧ Returns (List.foldlM f d xs) u c t := by
  rw [List.foldlM_cons, returns_bind]

/-- A loop avoids an error that no iteration raises. -/
theorem avoids_foldlM {f : β → α → Exec ε σ β} {xs : List α}
    (h : ∀ b, ∀ x ∈ xs, ∀ s, Avoids (f b x) s B) :
    ∀ {b : β} {s : σ}, Avoids (List.foldlM f b xs) s B := by
  induction xs with
  | nil =>
    intro b s
    rw [List.foldlM_nil]
    exact avoids_pure
  | cons x xs ih =>
    intro b s
    rw [List.foldlM_cons, avoids_bind]
    exact ⟨h b x List.mem_cons_self s,
      fun c u _ => ih fun d y hy => h d y (List.mem_cons_of_mem _ hy)⟩

end Exec

end App20.Lib
