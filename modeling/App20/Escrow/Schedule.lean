import App20.Lib.Exec
import App20.Lib.Piecewise
import App20.Starknet.Types

/-!
# Price schedules of the escrow

`assert_schedule`, `interpolate`, `evaluate_schedule` and `schedule_max_b` of the escrow
contract, over the nine schedule fields that its parameter and storage records repeat.

`Schedule.points` reads the active breakpoints as a curve. An accepted schedule is a rising
curve (`assertSchedule_ok_iff`), and `evaluateSchedule_ok_iff` says that evaluation is the
floored interpolation of that curve: no intermediate sum, product or narrowing panics.

* `evaluateSchedule_sound`: the value of every amount in the domain, and the refusal of all others.
-/

namespace App20.Escrow

open App20.Lib App20.Starknet
open Piecewise (Point Rising Below eval eval_head eval_tail eval_isSome_iff)

/-- The error constants of the escrow contract. -/
inductive Error where
  | badPool | zeroDealId | zeroToken | sameToken | zeroAmount | deadlineNotFuture | dealExists
  | badState | dealExpired | dealNotExpired | wrongToken | shortFill | excessFill | badTicket
  | balanceDeficit | amountOverflow | conservationFailure | approveFailed | lockExists
  | lockNotOpen | lockExpired | lockNotExpired | badSchedule | outOfSchedule | badCommitment
  | wrongRfq | tooManyFills | noFills | duplicateLock | insufficientLock | takeExists
  | alreadySettled | nothingToSettle | badLockAmount | badSignature | fundingNotPrepared
  | staleFunding
  deriving DecidableEq

abbrev EscrowPanic := Panic Error

/-- The schedule fields `points_len`, `p0_a`, ..., `p3_b`. -/
structure Schedule where
  pointsLen : U8
  p0A : U128
  p0B : U128
  p1A : U128
  p1B : U128
  p2A : U128
  p2B : U128
  p3A : U128
  p3B : U128
  deriving DecidableEq

def Schedule.empty : Schedule := ⟨0, 0, 0, 0, 0, 0, 0, 0, 0⟩

/-- An `assert` guarded by `if` is the assertion of an implication. -/
def assertSchedule (s : Schedule) : Except EscrowPanic Unit := do
  check (1 ≤ s.pointsLen.val ∧ s.pointsLen.val ≤ 4) .badSchedule
  check (0 < s.p0A.val ∧ 0 < s.p0B.val) .badSchedule
  check (2 ≤ s.pointsLen.val →
    s.p0A.val < s.p1A.val ∧ 0 < s.p1B.val ∧ s.p0B.val ≤ s.p1B.val) .badSchedule
  check (3 ≤ s.pointsLen.val →
    s.p1A.val < s.p2A.val ∧ 0 < s.p2B.val ∧ s.p1B.val ≤ s.p2B.val) .badSchedule
  check (s.pointsLen.val = 4 →
    s.p2A.val < s.p3A.val ∧ 0 < s.p3B.val ∧ s.p2B.val ≤ s.p3B.val) .badSchedule

def interpolate (leftA leftB rightA rightB amountA : U128) : Except EscrowPanic U128 := do
  let offset ← orPanic (checkedSub amountA leftA) .underflow
  let rise ← orPanic (checkedSub rightB leftB) .underflow
  let width ← orPanic (checkedSub rightA leftA) .underflow
  let product ← orPanic (checkedMul (into offset : U256) (into rise)) .overflow
  let quotient ← orPanic (checkedDiv product (into width)) .divisionByZero
  let value ← orPanic (checkedAdd (into leftB) quotient) .overflow
  orPanic (tryInto (2 ^ 128) value) (.error .amountOverflow)

/-- The `a` of the last active point. -/
def Schedule.maxA (s : Schedule) : U128 :=
  if s.pointsLen.val = 1 then s.p0A
  else if s.pointsLen.val = 2 then s.p1A
  else if s.pointsLen.val = 3 then s.p2A
  else s.p3A

def evaluateSchedule (s : Schedule) (amountA : U128) : Except EscrowPanic U128 := do
  assertSchedule s
  check (s.p0A.val ≤ amountA.val ∧ amountA.val ≤ s.maxA.val) .outOfSchedule
  if s.pointsLen.val = 1 then
    return s.p0B
  if amountA.val ≤ s.p1A.val then
    return (← interpolate s.p0A s.p0B s.p1A s.p1B amountA)
  check (3 ≤ s.pointsLen.val) .outOfSchedule
  if amountA.val ≤ s.p2A.val then
    return (← interpolate s.p1A s.p1B s.p2A s.p2B amountA)
  check (s.pointsLen.val = 4) .outOfSchedule
  interpolate s.p2A s.p2B s.p3A s.p3B amountA

def scheduleMaxB (s : Schedule) : U128 :=
  if s.pointsLen.val = 1 then s.p0B
  else if s.pointsLen.val = 2 then s.p1B
  else if s.pointsLen.val = 3 then s.p2B
  else s.p3B

/-! ## The curve of a schedule -/

/-- The active breakpoints. -/
def Schedule.points (s : Schedule) : List Point :=
  [⟨s.p0A, s.p0B⟩, ⟨s.p1A, s.p1B⟩, ⟨s.p2A, s.p2B⟩, ⟨s.p3A, s.p3B⟩].take s.pointsLen.val

/-- The schedules that `assert_schedule` accepts. -/
structure Schedule.Valid (s : Schedule) : Prop where
  len_pos : 1 ≤ s.pointsLen.val
  len_le : s.pointsLen.val ≤ 4
  first_a : 0 < s.p0A.val
  first_b : 0 < s.p0B.val
  rising : Rising s.points

variable {s : Schedule} {x : U128}

/-- The shapes of `points` under the four accepted lengths. -/
theorem points_cases (h1 : 1 ≤ s.pointsLen.val) (h4 : s.pointsLen.val ≤ 4) :
    (s.pointsLen.val = 1 ∧ s.points = [⟨s.p0A, s.p0B⟩]) ∨
    (s.pointsLen.val = 2 ∧ s.points = [⟨s.p0A, s.p0B⟩, ⟨s.p1A, s.p1B⟩]) ∨
    (s.pointsLen.val = 3 ∧ s.points = [⟨s.p0A, s.p0B⟩, ⟨s.p1A, s.p1B⟩, ⟨s.p2A, s.p2B⟩]) ∨
    (s.pointsLen.val = 4 ∧
      s.points = [⟨s.p0A, s.p0B⟩, ⟨s.p1A, s.p1B⟩, ⟨s.p2A, s.p2B⟩, ⟨s.p3A, s.p3B⟩]) := by
  unfold Schedule.points
  generalize s.pointsLen.val = len at h1 h4
  obtain rfl | rfl | rfl | rfl : len = 1 ∨ len = 2 ∨ len = 3 ∨ len = 4 := by omega
  all_goals simp

theorem assertSchedule_ok_iff (s : Schedule) : assertSchedule s = .ok () ↔ s.Valid := by
  have hchecks : assertSchedule s = .ok () ↔
      (1 ≤ s.pointsLen.val ∧ s.pointsLen.val ≤ 4) ∧ (0 < s.p0A.val ∧ 0 < s.p0B.val) ∧
      (2 ≤ s.pointsLen.val → s.p0A.val < s.p1A.val ∧ 0 < s.p1B.val ∧ s.p0B.val ≤ s.p1B.val) ∧
      (3 ≤ s.pointsLen.val → s.p1A.val < s.p2A.val ∧ 0 < s.p2B.val ∧ s.p1B.val ≤ s.p2B.val) ∧
      (s.pointsLen.val = 4 → s.p2A.val < s.p3A.val ∧ 0 < s.p3B.val ∧ s.p2B.val ≤ s.p3B.val) := by
    simp only [assertSchedule, bind_ok, check_ok_iff, exists_const]
  rw [hchecks]
  constructor
  · rintro ⟨⟨h1, h4⟩, ⟨ha, hb⟩, h2, h3, h4'⟩
    refine ⟨h1, h4, ha, hb, ?_⟩
    rcases points_cases h1 h4 with ⟨hl, hp⟩ | ⟨hl, hp⟩ | ⟨hl, hp⟩ | ⟨hl, hp⟩ <;> rw [hp] <;>
      simp only [Rising, List.isChain_cons_cons, List.isChain_singleton, and_true, Below] <;> omega
  · rintro ⟨h1, h4, ha, hb, hr⟩
    refine ⟨⟨h1, h4⟩, ⟨ha, hb⟩, ?_⟩
    rcases points_cases h1 h4 with ⟨hl, hp⟩ | ⟨hl, hp⟩ | ⟨hl, hp⟩ | ⟨hl, hp⟩ <;> rw [hp] at hr <;>
      simp only [Rising, List.isChain_cons_cons, List.isChain_singleton, and_true,
        Below] at hr <;> omega

theorem assertSchedule_error_iff (s : Schedule) (p : EscrowPanic) :
    assertSchedule s = .error p ↔ ¬ s.Valid ∧ p = .error .badSchedule := by
  rw [← assertSchedule_ok_iff]
  constructor
  · intro h
    refine ⟨by rw [h]; simp, ?_⟩
    simp only [assertSchedule, bind_error, check_error_iff, check_ok_iff] at h
    grind
  · rintro ⟨h, rfl⟩
    rcases except_ok_or_error (assertSchedule s) with ⟨u, hu⟩ | ⟨p, hp⟩
    · exact absurd hu h
    · rw [hp]
      simp only [assertSchedule, bind_error, check_error_iff, check_ok_iff] at hp
      grind

/-! ## Evaluation -/

/-- Inside a segment the interpolation is the floored value of the segment: the product fits
in 256 bits and the sum in 128. -/
theorem interpolate_eq {leftA leftB rightA rightB : U128}
    (h : Below ⟨leftA, leftB⟩ ⟨rightA, rightB⟩) (hl : leftA.val ≤ x.val)
    (hr : x.val ≤ rightA.val) :
    ∃ y, interpolate leftA leftB rightA rightB x = .ok y ∧
      y.val = Piecewise.segment ⟨leftA, leftB⟩ ⟨rightA, rightB⟩ x := by
  obtain ⟨ha, hb⟩ := h
  dsimp only at ha hb
  have hoffset : x.val - leftA.val ≤ rightA.val - leftA.val := by omega
  have hproduct : (x.val - leftA.val) * (rightB.val - leftB.val) < 2 ^ 256 := by
    have h1 : x.val - leftA.val < 2 ^ 128 := by omega
    have h2 : rightB.val - leftB.val < 2 ^ 128 := by omega
    calc (x.val - leftA.val) * (rightB.val - leftB.val)
        < 2 ^ 128 * 2 ^ 128 := Nat.mul_lt_mul'' h1 h2
      _ = 2 ^ 256 := by norm_num
  have hquotient : (x.val - leftA.val) * (rightB.val - leftB.val) / (rightA.val - leftA.val) ≤
      rightB.val - leftB.val := by
    apply Nat.div_le_of_le_mul
    exact Nat.mul_le_mul_right _ hoffset
  have hsum : leftB.val +
      (x.val - leftA.val) * (rightB.val - leftB.val) / (rightA.val - leftA.val) < 2 ^ 128 := by
    omega
  refine ⟨⟨_, hsum⟩, ?_, rfl⟩
  simp only [interpolate, bind_ok, orPanic_ok_iff]
  refine ⟨⟨x.val - leftA.val, by omega⟩, checkedSub_eq_some.mpr (by dsimp only; omega),
    ⟨rightB.val - leftB.val, by omega⟩, checkedSub_eq_some.mpr (by dsimp only; omega),
    ⟨rightA.val - leftA.val, by omega⟩, checkedSub_eq_some.mpr (by dsimp only; omega),
    ⟨_, hproduct⟩, checkedMul_eq_some.mpr rfl,
    ⟨(x.val - leftA.val) * (rightB.val - leftB.val) / (rightA.val - leftA.val), by omega⟩,
    checkedDiv_eq_some.mpr ⟨?_, rfl⟩,
    ⟨leftB.val + (x.val - leftA.val) * (rightB.val - leftB.val) / (rightA.val - leftA.val),
      by omega⟩,
    checkedAdd_eq_some.mpr rfl, tryInto_eq_some.mpr rfl⟩
  rw [into_val]
  dsimp only
  omega

/-- Evaluation on one of the segments of the schedule. -/
theorem interpolate_segment {leftA leftB rightA rightB : U128} {v : Option Nat}
    (h : Below ⟨leftA, leftB⟩ ⟨rightA, rightB⟩) (hl : leftA.val ≤ x.val)
    (hr : x.val ≤ rightA.val) (hv : v = some (Piecewise.segment ⟨leftA, leftB⟩ ⟨rightA, rightB⟩ x)) :
    ∃ y : U128, interpolate leftA leftB rightA rightB x = .ok y ∧ v = some y.val := by
  obtain ⟨y, hy, hval⟩ := interpolate_eq h hl hr
  exact ⟨y, hy, by rw [hv, hval]⟩

/-- The curve starts at `p0` and ends at `(max_a, max_b)`. -/
theorem points_first_last (hs : s.Valid) :
    ∃ ps, s.points = ⟨s.p0A, s.p0B⟩ :: ps ∧
      (⟨s.p0A, s.p0B⟩ :: ps).getLast (List.cons_ne_nil _ _) = ⟨s.maxA, scheduleMaxB s⟩ := by
  rcases points_cases hs.len_pos hs.len_le with ⟨hl, hp⟩ | ⟨hl, hp⟩ | ⟨hl, hp⟩ | ⟨hl, hp⟩ <;>
    exact ⟨_, hp, by simp [Schedule.maxA, scheduleMaxB, hl]⟩

/-- Evaluation inside the domain of an accepted schedule. -/
theorem evaluateSchedule_inside (hs : s.Valid) (h0 : s.p0A.val ≤ x.val) (hmax : x.val ≤ s.maxA.val) :
    ∃ y : U128, evaluateSchedule s x = .ok y ∧ eval s.points x = some y.val := by
  have hrising := hs.rising
  unfold evaluateSchedule
  rw [(assertSchedule_ok_iff s).mpr hs, ok_bind, check_pos ⟨h0, hmax⟩, ok_bind]
  unfold Schedule.maxA at hmax
  rcases points_cases hs.len_pos hs.len_le with ⟨hl, hp⟩ | ⟨hl, hp⟩ | ⟨hl, hp⟩ | ⟨hl, hp⟩ <;>
    rw [hp] at hrising ⊢ <;> simp +decide only [hl, if_true, if_false] at hmax ⊢
  · exact ⟨s.p0B, rfl, by rw [eval, if_pos (le_antisymm hmax h0)]⟩
  · rw [if_pos hmax]
    exact interpolate_segment hrising.head h0 hmax (eval_head h0 hmax)
  all_goals
    by_cases hx1 : x.val ≤ s.p1A.val
    · rw [if_pos hx1]
      exact interpolate_segment hrising.head h0 hx1 (eval_head h0 hx1)
    have hx1' := (Nat.lt_of_not_le hx1).le
    rw [if_neg hx1, check_pos trivial, ok_bind]
  · rw [if_pos hmax]
    exact interpolate_segment hrising.tail.head hx1' hmax
      ((eval_tail h0 hx1).trans (eval_head hx1' hmax))
  · by_cases hx2 : x.val ≤ s.p2A.val
    · rw [if_pos hx2]
      exact interpolate_segment hrising.tail.head hx1' hx2
        ((eval_tail h0 hx1).trans (eval_head hx1' hx2))
    · have hx2' := (Nat.lt_of_not_le hx2).le
      rw [if_neg hx2, ok_bind]
      exact interpolate_segment hrising.tail.tail.head hx2' hmax
        ((eval_tail h0 hx1).trans
          ((eval_tail hx1' hx2).trans (eval_head hx2' hmax)))

/-- Evaluation of an accepted schedule is the floored interpolation of its curve. -/
theorem evaluateSchedule_of_valid (hs : s.Valid) (x : U128) :
    (∃ y : U128, evaluateSchedule s x = .ok y ∧ eval s.points x = some y.val) ∨
      (evaluateSchedule s x = .error (.error .outOfSchedule) ∧ eval s.points x = none) := by
  by_cases hx : s.p0A.val ≤ x.val ∧ x.val ≤ s.maxA.val
  · exact Or.inl (evaluateSchedule_inside hs hx.1 hx.2)
  · refine Or.inr ⟨?_, ?_⟩
    · unfold evaluateSchedule
      rw [(assertSchedule_ok_iff s).mpr hs, ok_bind, check_error_iff.mpr ⟨hx, rfl⟩]
      rfl
    · obtain ⟨ps, hps, hlast⟩ := points_first_last hs
      have hrising := hs.rising
      rw [hps] at hrising ⊢
      apply Option.not_isSome_iff_eq_none.mp
      intro h
      have hdomain := (eval_isSome_iff hrising _).mp h
      rw [hlast] at hdomain
      exact hx hdomain

/-- What a successful evaluation says: the schedule is accepted, and the amount of token B is
the value of its curve. -/
theorem evaluateSchedule_ok_iff {y : U128} :
    evaluateSchedule s x = .ok y ↔ s.Valid ∧ eval s.points x = some y.val := by
  constructor
  · intro h
    have hs : s.Valid := by
      rw [evaluateSchedule, bind_ok] at h
      obtain ⟨u, hu, -⟩ := h
      exact (assertSchedule_ok_iff s).mp hu
    rcases evaluateSchedule_of_valid hs x with ⟨y', hy', heval⟩ | ⟨herr, -⟩
    · rw [h] at hy'
      cases hy'
      exact ⟨hs, heval⟩
    · rw [h] at herr
      cases herr
  · rintro ⟨hs, heval⟩
    rcases evaluateSchedule_of_valid hs x with ⟨y', hy', heval'⟩ | ⟨-, hnone⟩
    · rw [heval, Option.some.injEq] at heval'
      rw [hy', Fin.ext heval']
    · rw [hnone] at heval
      cases heval

/-- A rejected evaluation names the schedule or the amount as the reason, and nothing else. -/
theorem evaluateSchedule_error_iff {p : EscrowPanic} :
    evaluateSchedule s x = .error p ↔ (¬ s.Valid ∧ p = .error .badSchedule) ∨
        (s.Valid ∧ eval s.points x = none ∧ p = .error .outOfSchedule) := by
  by_cases hs : s.Valid
  · rcases evaluateSchedule_of_valid hs x with ⟨y, hy, heval⟩ | ⟨herr, hnone⟩
    · simp [hy, heval, hs]
    · simp [herr, hnone, hs, eq_comm]
  · have herr : evaluateSchedule s x = .error (.error .badSchedule) := by
      rw [evaluateSchedule, (assertSchedule_error_iff s _).mpr ⟨hs, rfl⟩]
      rfl
    simp [herr, hs, eq_comm]

/-! ## Bounds -/

/-- An accepted schedule sells something. -/
theorem Schedule.Valid.maxB_pos (hs : s.Valid) : 0 < (scheduleMaxB s).val := by
  have hfirst := hs.first_b
  have hrising := hs.rising
  unfold scheduleMaxB
  rcases points_cases hs.len_pos hs.len_le with ⟨hl, hp⟩ | ⟨hl, hp⟩ | ⟨hl, hp⟩ | ⟨hl, hp⟩ <;>
    rw [hp] at hrising <;>
    simp only [Rising, List.isChain_cons_cons, List.isChain_singleton, and_true,
      Below] at hrising <;>
    simp +decide only [hl, if_true, if_false] <;> omega

/-- The value lies between `p0_b` and `max_b`, and the amount between `p0_a` and `max_a`. -/
theorem evaluateSchedule_bounds {y : U128} (h : evaluateSchedule s x = .ok y) :
    s.p0A.val ≤ x.val ∧ x.val ≤ s.maxA.val ∧ s.p0B.val ≤ y.val ∧ y.val ≤ (scheduleMaxB s).val := by
  obtain ⟨hs, heval⟩ := evaluateSchedule_ok_iff.mp h
  obtain ⟨ps, hps, hlast⟩ := points_first_last hs
  have hrising := hs.rising
  rw [hps] at hrising heval
  have hdomain := (eval_isSome_iff hrising _).mp (Option.isSome_iff_exists.mpr ⟨_, heval⟩)
  have hfirst := Piecewise.eval_first_le hrising heval
  have hmax := Piecewise.eval_le_last hrising heval
  rw [hlast] at hdomain hmax
  exact ⟨hdomain.1, hdomain.2, hfirst, hmax⟩

/-! ## Evaluation as a whole -/

/-- For an accepted schedule: an amount of its domain has the floor of the interpolant of each segment
it lies in, between the first and the last `b`; a breakpoint has its own `b`; more of token A never
gives less of token B; and every other amount is rejected. -/
theorem evaluateSchedule_sound (s : Schedule) (h : assertSchedule s = .ok ()) :
    (∀ x : U128, s.p0A.val ≤ x.val → x.val ≤ s.maxA.val → ∃ y, evaluateSchedule s x = .ok y ∧
      s.p0B.val ≤ y.val ∧ y.val ≤ (scheduleMaxB s).val ∧
      ∀ p q, [p, q] <:+: s.points → p.a ≤ x.val → x.val ≤ q.a →
        y.val = ⌊(p.b + (x.val - p.a) * (q.b - p.b) / (q.a - p.a) : ℚ)⌋₊) ∧
    (∀ p ∈ s.points, ∀ x : U128, x.val = p.a → ∃ y, evaluateSchedule s x = .ok y ∧ y.val = p.b) ∧
    (∀ x x' y y' : U128, evaluateSchedule s x = .ok y → evaluateSchedule s x' = .ok y' →
      x.val ≤ x'.val → y.val ≤ y'.val) ∧ ∀ x : U128, ¬ (s.p0A.val ≤ x.val ∧ x.val ≤ s.maxA.val) →
      evaluateSchedule s x = .error (.error .outOfSchedule) := by
  have hs : s.Valid := (assertSchedule_ok_iff s).mp h
  obtain ⟨ps, hps, -⟩ := points_first_last hs
  refine ⟨fun x h0 hmax => ?_, fun p hp x hx => ?_, fun x x' y y' hy hy' hx => ?_, fun x hx => ?_⟩
  · obtain ⟨y, hy, heval⟩ := evaluateSchedule_inside hs h0 hmax
    obtain ⟨-, -, hfirst, hlast⟩ := evaluateSchedule_bounds hy
    refine ⟨y, hy, hfirst, hlast, fun p q hpq hp hq => ?_⟩
    have hbelow : Below p q := List.isChain_pair.mp <| List.IsChain.infix hs.rising hpq
    rw [Piecewise.eval_neighbours hs.rising hpq hp hq] at heval
    rw [← Piecewise.segment_eq_floor hbelow hp]
    exact (Option.some.inj heval).symm
  · have heval := Piecewise.eval_point hs.rising hp
    rw [← hx] at heval
    rcases evaluateSchedule_of_valid hs x with ⟨y, hy, heval'⟩ | ⟨-, hnone⟩
    · exact ⟨y, hy, Option.some.inj (heval'.symm.trans heval)⟩
    · rw [heval] at hnone
      cases hnone
  · have heval := (evaluateSchedule_ok_iff.mp hy).2
    have heval' := (evaluateSchedule_ok_iff.mp hy').2
    have hrising := hs.rising
    rw [hps] at hrising heval heval'
    exact Piecewise.eval_mono hrising heval heval' hx
  · rcases evaluateSchedule_of_valid hs x with ⟨y, hy, -⟩ | ⟨herror, -⟩
    · obtain ⟨hfirst, hlast, -⟩ := evaluateSchedule_bounds hy
      exact absurd ⟨hfirst, hlast⟩ hx
    · exact herror

theorem evaluateSchedule_sound_two :
    ∃ y, evaluateSchedule ⟨2, 10, 5, 20, 8, 0, 0, 0, 0⟩ 15 = .ok y ∧ y.val = 6 := by
  obtain ⟨hinside, -⟩ := evaluateSchedule_sound ⟨2, 10, 5, 20, 8, 0, 0, 0, 0⟩ (by decide)
  obtain ⟨y, hy, -, -, hfloor⟩ := hinside 15 (by decide) (by decide)
  refine ⟨y, hy, ?_⟩
  rw [hfloor ⟨10, 5⟩ ⟨20, 8⟩ ⟨[], [], rfl⟩ (by decide) (by decide)]
  norm_num

end App20.Escrow
