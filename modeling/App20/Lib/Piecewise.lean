import Mathlib.Algebra.Order.Floor.Semifield
import Mathlib.Data.List.Chain
import Mathlib.Data.Rat.Floor

/-!
# Floored piecewise-linear interpolation

A curve is a list of points with natural coordinates, strictly increasing in `a` and
nondecreasing in `b` (`Rising`). `eval` interpolates linearly between neighbouring points
and rounds down; outside the domain it has no value.

* `eval_isSome_iff`: the domain is exactly the interval between the first and the last `a`.
* `eval_first_le`, `eval_le_last`: the values stay between the first and the last `b`.
* `eval_neighbours`: between two neighbouring points the value is that of their segment, which is the
  floor of the interpolant (`segment_eq_floor`); `eval_point`: at a point it is the point's `b`.
* `eval_mono`: more of `a` never gives less of `b`, also across breakpoints.
-/

namespace App20.Lib.Piecewise

/-- A breakpoint of a curve. -/
structure Point where
  a : Nat
  b : Nat

/-- The order between neighbouring points of a rising curve. -/
def Below (p q : Point) : Prop := p.a < q.a ∧ p.b ≤ q.b

instance (p q : Point) : Decidable (Below p q) := by unfold Below; infer_instance

/-- Strictly increasing in `a`, nondecreasing in `b`. -/
def Rising (ps : List Point) : Prop := ps.IsChain Below

/-- The floored value at `x` of the segment from `p` to `q`. -/
def segment (p q : Point) (x : Nat) : Nat := p.b + (x - p.a) * (q.b - p.b) / (q.a - p.a)

/-- The value of the curve at `x`, if `x` is in its domain. -/
def eval : List Point → Nat → Option Nat
  | [], _ => none
  | [p], x => if x = p.a then some p.b else none
  | p :: q :: rest, x =>
      if x < p.a then none
      else if x ≤ q.a then some (segment p q x)
      else eval (q :: rest) x

/-! ## One segment -/

theorem segment_left (p q : Point) : segment p q p.a = p.b := by
  simp [segment]

variable {p q : Point} {x : Nat} {ps : List Point}

theorem segment_right (h : Below p q) : segment p q q.a = q.b := by
  have hw : 0 < q.a - p.a := Nat.sub_pos_of_lt h.1
  unfold segment
  rw [Nat.mul_div_cancel_left _ hw, Nat.add_sub_cancel' h.2]

theorem segment_mono (p q : Point) {y : Nat} (hxy : x ≤ y) : segment p q x ≤ segment p q y := by
  unfold segment
  have hmul : (x - p.a) * (q.b - p.b) ≤ (y - p.a) * (q.b - p.b) :=
    Nat.mul_le_mul_right _ (Nat.sub_le_sub_right hxy _)
  exact Nat.add_le_add_left (Nat.div_le_div_right hmul) _

theorem left_le_segment (p q : Point) (x : Nat) : p.b ≤ segment p q x := Nat.le_add_right _ _

theorem segment_le_right (h : Below p q) (hx : x ≤ q.a) : segment p q x ≤ q.b :=
  (segment_mono p q hx).trans (segment_right h).le

/-! ## The whole curve -/

theorem eval_singleton (p : Point) (x : Nat) :
    eval [p] x = if x = p.a then some p.b else none := rfl

theorem eval_cons_cons (p q : Point) (rest : List Point) (x : Nat) :
    eval (p :: q :: rest) x = if x < p.a then none
      else if x ≤ q.a then some (segment p q x)
      else eval (q :: rest) x := rfl

theorem Rising.tail (h : Rising (p :: ps)) : Rising ps := List.IsChain.tail h

theorem Rising.head (h : Rising (p :: q :: ps)) : Below p q := (List.isChain_cons_cons.mp h).1

/-- Every point of a rising curve lies at or after the first. -/
theorem Rising.first_le (h : Rising (p :: ps)) : ∀ q ∈ p :: ps, p.a ≤ q.a ∧ p.b ≤ q.b := by
  induction ps generalizing p with
  | nil => simp
  | cons r ps ih =>
    intro q hq
    have hpr := h.head
    rcases List.mem_cons.mp hq with rfl | hq
    · exact ⟨le_rfl, le_rfl⟩
    · have hr := ih h.tail q hq
      exact ⟨hpr.1.le.trans hr.1, hpr.2.trans hr.2⟩

theorem Rising.first_le_last (h : Rising (p :: ps)) :
    p.a ≤ ((p :: ps).getLast (List.cons_ne_nil _ _)).a ∧
      p.b ≤ ((p :: ps).getLast (List.cons_ne_nil _ _)).b := h.first_le _ (List.getLast_mem _)

theorem eval_first (h : Rising (p :: ps)) : eval (p :: ps) p.a = some p.b := by
  cases ps with
  | nil => rw [eval_singleton, if_pos rfl]
  | cons q ps =>
    rw [eval_cons_cons, if_neg (lt_irrefl _), if_pos h.head.1.le, segment_left]

theorem eval_head (hp : p.a ≤ x) (hq : x ≤ q.a) : eval (p :: q :: ps) x = some (segment p q x) := by
  rw [eval_cons_cons, if_neg (Nat.not_lt.mpr hp), if_pos hq]

theorem eval_tail (hp : p.a ≤ x) (hq : ¬ x ≤ q.a) : eval (p :: q :: ps) x = eval (q :: ps) x := by
  rw [eval_cons_cons, if_neg (Nat.not_lt.mpr hp), if_neg hq]

theorem eval_isSome_iff (h : Rising (p :: ps)) (x : Nat) :
    (eval (p :: ps) x).isSome ↔ p.a ≤ x ∧ x ≤ ((p :: ps).getLast (List.cons_ne_nil _ _)).a := by
  induction ps generalizing p with
  | nil =>
    rw [eval_singleton, List.getLast_singleton]
    split <;> simp <;> omega
  | cons q ps ih =>
    have hlast := h.tail.first_le_last
    have hpq := h.head.1
    rw [List.getLast_cons_cons, eval_cons_cons]
    split
    · simp only [Option.isSome_none, Bool.false_eq_true, false_iff]
      omega
    · split
      · simp only [Option.isSome_some, true_iff]
        omega
      · rw [ih h.tail]
        omega

theorem eval_first_le (h : Rising (p :: ps)) {y : Nat} (hy : eval (p :: ps) x = some y) :
    p.b ≤ y := by
  induction ps generalizing p with
  | nil =>
    rw [eval_singleton] at hy
    split at hy <;> cases hy
    exact le_rfl
  | cons q ps ih =>
    rw [eval_cons_cons] at hy
    split at hy
    · cases hy
    · split at hy
      · cases hy
        exact left_le_segment p q x
      · exact h.head.2.trans (ih h.tail hy)

theorem eval_le_last (h : Rising (p :: ps)) {y : Nat} (hy : eval (p :: ps) x = some y) :
    y ≤ ((p :: ps).getLast (List.cons_ne_nil _ _)).b := by
  induction ps generalizing p with
  | nil =>
    rw [eval_singleton] at hy
    split at hy <;> cases hy
    exact le_rfl
  | cons q ps ih =>
    rw [eval_cons_cons] at hy
    rw [List.getLast_cons_cons]
    split at hy
    · cases hy
    · split at hy
      · rename_i hx
        cases hy
        exact (segment_le_right h.head hx).trans h.tail.first_le_last.2
      · exact ih h.tail hy

theorem eval_neighbours (h : Rising ps) (hpq : [p, q] <:+: ps) (hp : p.a ≤ x) (hq : x ≤ q.a) :
    eval ps x = some (segment p q x) := by
  induction ps with
  | nil => cases List.eq_nil_of_infix_nil hpq
  | cons r ps ih =>
    rcases List.infix_cons_iff.mp hpq with hfirst | hrest
    · obtain ⟨rest, hrest⟩ := hfirst
      cases hrest
      exact eval_head hp hq
    · cases ps with
      | nil => cases List.eq_nil_of_infix_nil hrest
      | cons s ps =>
        -- the segment comes after the first one, or begins where that ends
        have hs : s.a ≤ p.a := (h.tail.first_le p (hrest.subset (by simp))).1
        have hr : r.a < s.a := h.head.1
        rcases Nat.lt_or_eq_of_le (hs.trans hp) with hlt | heq
        · rw [eval_tail (by omega) (by omega)]
          exact ih h.tail hrest
        · have hx : x = s.a := heq.symm
          rw [eval_head (by omega) (by omega), hx, segment_right h.head, ← eval_first h.tail, ← hx]
          exact ih h.tail hrest

theorem eval_point (h : Rising ps) (hp : p ∈ ps) : eval ps p.a = some p.b := by
  induction ps with
  | nil => cases hp
  | cons r ps ih =>
    rcases List.mem_cons.mp hp with rfl | hp
    · exact eval_first h
    · cases ps with
      | nil => cases hp
      | cons s ps =>
        have hs : s.a ≤ p.a := (h.tail.first_le p hp).1
        have hr : r.a < s.a := h.head.1
        rcases Nat.lt_or_eq_of_le hs with hlt | heq
        · rw [eval_tail (by omega) (by omega)]
          exact ih h.tail hp
        · have hvalue := (eval_first h.tail).symm.trans (heq ▸ ih h.tail hp)
          rw [eval_head (by omega) (by omega), ← heq, segment_right h.head, Option.some.inj hvalue]

theorem segment_eq_floor (h : Below p q) (hx : p.a ≤ x) :
    segment p q x = ⌊(p.b + (x - p.a) * (q.b - p.b) / (q.a - p.a) : ℚ)⌋₊ := by
  have hcast : (p.b + (x - p.a) * (q.b - p.b) / (q.a - p.a) : ℚ) =
      ((x - p.a) * (q.b - p.b) : ℕ) / (q.a - p.a : ℕ) + p.b := by
    rw [Nat.cast_mul, Nat.cast_sub hx, Nat.cast_sub h.2, Nat.cast_sub h.1.le, add_comm]
  rw [hcast, Nat.floor_add_natCast (by positivity), Nat.floor_div_eq_div, add_comm]
  rfl

theorem eval_mono (h : Rising (p :: ps)) {x' y y' : Nat} (hy : eval (p :: ps) x = some y)
    (hy' : eval (p :: ps) x' = some y') (hx : x ≤ x') : y ≤ y' := by
  induction ps generalizing p with
  | nil =>
    rw [eval_singleton] at hy hy'
    split at hy <;> cases hy
    split at hy' <;> cases hy'
    exact le_rfl
  | cons q ps ih =>
    rw [eval_cons_cons] at hy hy'
    split at hy
    · cases hy
    split at hy'
    · cases hy'
    split at hy
    · cases hy
      split at hy'
      · cases hy'
        exact segment_mono p q hx
      · -- the two arguments lie on different sides of the breakpoint `q`
        rename_i hxq _
        exact (segment_le_right h.head hxq).trans (eval_first_le h.tail hy')
    · rename_i hxq
      rw [if_neg (by omega)] at hy'
      exact ih h.tail hy hy'

end App20.Lib.Piecewise
